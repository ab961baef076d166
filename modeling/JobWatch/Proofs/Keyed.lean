import JobWatch.Keyed
import Mathlib.Data.List.Nodup

/-!
Members by their key: what is found under a key after members were put, and that members are known
by what is found under every key.
-/

namespace JobWatch.Keyed

variable {α β : Type} {k k' : String} {v : α} {es : List (String × α)}

/-! ### Lists of members -/

lemma lookup_cons_eq (k k' : String) (v : α) (es : List (String × α)) :
    ((k, v) :: es).lookup k' = if k' = k then some v else es.lookup k' := by
  by_cases h : k' = k
  · rw [h, List.lookup_cons_self, if_pos rfl]
  · rw [List.lookup_cons, beq_false_of_ne h, if_neg h]

lemma lookup_put (k k' : String) (v : α) (es : List (String × α)) :
    (put k v es).lookup k' = if k' = k then some v else es.lookup k' := by
  induction es with
  | nil => exact lookup_cons_eq k k' v []
  | cons e es ih =>
    obtain ⟨x, y⟩ := e
    rw [put]
    split
    · exact lookup_cons_eq k k' v _
    split
    · next h =>
      subst h
      rw [lookup_cons_eq, lookup_cons_eq]
      split <;> rfl
    · next h =>
      rw [lookup_cons_eq, lookup_cons_eq, ih]
      by_cases hx : k' = x
      · have hne : k' ≠ k := fun hk => h (hk.symm.trans hx)
        rw [if_pos hx, if_neg hne, if_pos hx]
      · rw [if_neg hx, if_neg hx]

lemma mem_of_lookup (h : es.lookup k = some v) : (k, v) ∈ es := by
  obtain ⟨before, after, rfl, -⟩ := List.lookup_eq_some_iff.1 h
  simp

lemma lookup_of_mem (hnd : (es.map Prod.fst).Nodup) (h : (k, v) ∈ es) :
    es.lookup k = some v := by
  induction es with
  | nil => simp at h
  | cons e es ih =>
    obtain ⟨x, y⟩ := e
    rw [List.map_cons, List.nodup_cons] at hnd
    rw [lookup_cons_eq]
    rcases List.mem_cons.1 h with heq | hmem
    · rw [Prod.mk.injEq] at heq
      rw [if_pos heq.1, heq.2]
    · have hne : k ≠ x := by
        rintro rfl
        exact hnd.1 (List.mem_map.2 ⟨(k, v), hmem, rfl⟩)
      rw [if_neg hne, ih hnd.2 hmem]

lemma lookup_eq_none : es.lookup k = none ↔ k ∉ es.map Prod.fst := by
  rw [List.lookup_eq_none_iff, List.mem_map]
  constructor
  · rintro h ⟨e, he, rfl⟩
    simpa using h e he
  · intro h e he
    simp only [bne_iff_ne, ne_eq]
    rintro rfl
    exact h ⟨e, he, rfl⟩

/-! ### Members by key -/

variable {m m' : Keyed α}

lemma nodup_keys (m : Keyed α) : (m.entries.map Prod.fst).Nodup := by
  rw [List.Nodup, List.pairwise_map]
  refine m.ordered.imp fun {a b} hlt heq => ?_
  rw [heq] at hlt
  exact String.lt_irrefl _ hlt

lemma mem_entries : (k, v) ∈ m.entries ↔ m.get? k = some v :=
  ⟨lookup_of_mem m.nodup_keys, mem_of_lookup⟩

@[simp] lemma get?_empty (k : String) : (empty : Keyed α).get? k = none := rfl

@[simp] lemma get?_insert (m : Keyed α) (k : String) (v : α) (k' : String) :
    (m.insert k v).get? k' = if k' = k then some v else m.get? k' :=
  lookup_put k k' v m.entries

/-- Members are known by what is found under every key. -/
lemma ext_get? (h : ∀ k, m.get? k = m'.get? k) : m = m' := by
  have hmem : ∀ e, e ∈ m.entries ↔ e ∈ m'.entries := fun e => by
    rw [mem_entries, mem_entries, h]
  have hnodup : ∀ m : Keyed α, m.entries.Nodup := fun m =>
    List.Nodup.of_map Prod.fst m.nodup_keys
  have hperm := (List.perm_ext_iff_of_nodup (hnodup m) (hnodup m')).2 hmem
  have hentries : m.entries = m'.entries :=
    hperm.eq_of_pairwise (fun a b _ _ hab hba => absurd (String.lt_trans hab hba)
      (String.lt_irrefl _)) m.ordered m'.ordered
  cases m
  cases m'
  congr

/-- Of several members under one key the last one is found. -/
lemma get?_foldl (es : List (String × α)) (m : Keyed α) (k : String) :
    (es.foldl (fun m e => m.insert e.1 e.2) m).get? k = (es.reverse.lookup k).or (m.get? k) := by
  induction es generalizing m with
  | nil => rfl
  | cons e es ih =>
    obtain ⟨x, y⟩ := e
    rw [List.foldl_cons, ih, get?_insert, List.reverse_cons, List.lookup_append, Option.or_assoc,
      lookup_cons_eq]
    split <;> rfl

lemma get?_ofList (es : List (String × α)) (k : String) :
    (ofList es).get? k = es.reverse.lookup k := by
  rw [ofList, get?_foldl, get?_empty, Option.or_none]

lemma mem_of_get?_ofList (h : (ofList es).get? k = some v) : (k, v) ∈ es := by
  rw [get?_ofList] at h
  exact List.mem_reverse.1 (mem_of_lookup h)

lemma get?_ofList_eq_none : (ofList es).get? k = none ↔ k ∉ es.map Prod.fst := by
  rw [get?_ofList, lookup_eq_none, List.map_reverse, List.mem_reverse]

/-- Under keys that do not repeat every member is found. -/
lemma get?_ofList_of_mem (hnd : (es.map Prod.fst).Nodup) (h : (k, v) ∈ es) :
    (ofList es).get? k = some v := by
  rw [get?_ofList]
  refine lookup_of_mem ?_ (List.mem_reverse.2 h)
  rw [List.map_reverse]
  exact List.nodup_reverse.2 hnd

lemma ofList_entries (m : Keyed α) : ofList m.entries = m := by
  apply ext_get?
  intro k
  rcases h : m.get? k with _ | v
  · rw [get?_ofList_eq_none]
    exact lookup_eq_none.1 h
  · exact get?_ofList_of_mem m.nodup_keys (mem_entries.2 h)

/-! ### Pairs of members -/

variable {R : α → β → Prop} {es' : List (String × β)}

/-- Members under the same keys, with related values. -/
abbrev Related (R : α → β → Prop) : List (String × α) → List (String × β) → Prop :=
  List.Forall₂ fun a b => a.1 = b.1 ∧ R a.2 b.2

lemma related_put {w : β} (hvw : R v w) (h : Related R es es') :
    Related R (put k v es) (put k w es') := by
  induction h with
  | nil => exact .cons ⟨rfl, hvw⟩ .nil
  | @cons a b es es' hab hrest ih =>
    obtain ⟨x, y⟩ := a
    obtain ⟨x', y'⟩ := b
    obtain ⟨rfl, hy⟩ := hab
    rw [put, put]
    split
    · exact .cons ⟨rfl, hvw⟩ (.cons ⟨rfl, hy⟩ hrest)
    split
    · exact .cons ⟨rfl, hvw⟩ hrest
    · exact .cons ⟨rfl, hy⟩ ih

/-- Related members stay related when they are put in order. -/
lemma related_ofList (h : Related R es es') :
    Related R (ofList es).entries (ofList es').entries := by
  have hfold : ∀ (m : Keyed α) (m' : Keyed β), Related R m.entries m'.entries →
      Related R (es.foldl (fun m e => m.insert e.1 e.2) m).entries
        (es'.foldl (fun m e => m.insert e.1 e.2) m').entries := by
    induction h with
    | nil => exact fun _ _ hm => hm
    | @cons a b es es' hab _ ih =>
      intro m m' hm
      rw [List.foldl_cons, List.foldl_cons]
      refine ih _ _ ?_
      rw [← hab.1]
      exact related_put hab.2 hm
  exact hfold empty empty .nil

lemma related_join {γ : Type} {xs : List (String × γ)} {S : γ → α → Prop} {S' : γ → β → Prop}
    (h : Related S xs es) (h' : Related S' xs es') :
    Related (fun a b => ∃ x, S x a ∧ S' x b) es es' := by
  induction h generalizing es' with
  | nil =>
    cases h'
    exact .nil
  | cons ha _ ih =>
    rcases h' with _ | ⟨hb, hrest⟩
    exact .cons ⟨ha.1.symm.trans hb.1, _, ha.2, hb.2⟩ (ih hrest)

lemma exists_related (h : Related R es es') (hv : (k, v) ∈ es) : ∃ w, (k, w) ∈ es' ∧ R v w := by
  induction h with
  | nil => simp at hv
  | @cons a b _ _ hab _ ih =>
    rcases List.mem_cons.1 hv with rfl | hv
    · obtain ⟨k', w⟩ := b
      obtain ⟨rfl, hw⟩ := hab
      exact ⟨w, by simp, hw⟩
    · obtain ⟨w, hmem, hw⟩ := ih hv
      exact ⟨w, by simp [hmem], hw⟩

lemma related_symm (h : Related R es es') : Related (fun b a => R a b) es' es := by
  induction h with
  | nil => exact .nil
  | cons hab _ ih => exact .cons ⟨hab.1.symm, hab.2⟩ ih

lemma exists_related_left {w : β} (h : Related R es es') (hw : (k, w) ∈ es') :
    ∃ v, (k, v) ∈ es ∧ R v w :=
  exists_related (related_symm h) hw

lemma related_keys (h : Related R es es') : es.map Prod.fst = es'.map Prod.fst := by
  induction h with
  | nil => rfl
  | cons hab _ ih => rw [List.map_cons, List.map_cons, ih, hab.1]

/-- Changes every value. -/
def mapValues (f : α → β) (m : Keyed α) : Keyed β :=
  ⟨m.entries.map fun e => (e.1, f e.2), List.pairwise_map.2 m.ordered⟩

/-! ### Changing one member -/

def erase (m : Keyed α) (k : String) : Keyed α :=
  ⟨m.entries.filter (·.1 ≠ k), m.ordered.filter _⟩

/-- Changes what is found under a key. -/
def alter (m : Keyed α) (k : String) (f : Option α → Option α) : Keyed α :=
  match f (m.get? k) with
  | some v => m.insert k v
  | none => m.erase k

lemma get?_erase (m : Keyed α) (k k' : String) :
    (m.erase k).get? k' = if k' = k then none else m.get? k' := by
  have hmem : ∀ v, (k', v) ∈ (m.erase k).entries ↔ k' ≠ k ∧ (k', v) ∈ m.entries := by
    intro v
    rw [erase, List.mem_filter, and_comm]
    simp
  rcases h : (m.erase k).get? k' with _ | v
  · split
    · rfl
    · next hne =>
      rcases hm : m.get? k' with _ | v
      · rfl
      · have := mem_entries.1 ((hmem v).2 ⟨hne, mem_entries.2 hm⟩)
        rw [h] at this
        simp at this
  · obtain ⟨hne, hv⟩ := (hmem v).1 (mem_entries.2 h)
    rw [if_neg hne, mem_entries.1 hv]

@[simp] lemma get?_alter (m : Keyed α) (k : String) (f : Option α → Option α) (k' : String) :
    (m.alter k f).get? k' = if k' = k then f (m.get? k) else m.get? k' := by
  rw [alter]
  split
  · next v hv => rw [get?_insert, hv]
  · next hv => rw [get?_erase, hv]

end JobWatch.Keyed
