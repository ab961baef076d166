import JobWatch.Proofs.Json.Schema

/-!
The format of a record is lawful if the formats of its members are.

What a record holds is written back under the same keys: each of its own members in its normal form,
every other one as it was. So the text of a record is read as the record again.
-/

namespace JobWatch.Json.Schema

variable {σ : Type} {c : Schema σ} {ms : List (String × Tree)} {s : σ} {k : String} {t : Tree}

/-! ### What a record holds -/

def MembersLawful (c : Schema σ) : Prop := ∀ m ∈ c.members, m.format.Lawful

lemma exists_mem_of_key {α : Type} {es : List (String × α)} (h : k ∈ es.map Prod.fst) :
    ∃ x, (k, x) ∈ es := by
  obtain ⟨⟨k, x⟩, hmem, rfl⟩ := List.mem_map.1 h
  exact ⟨x, hmem⟩

/-- A member that is not its own is found among the others as among all. -/
lemma get?_others (hk : k ∉ c.names) (vs : List (String × Value)) :
    (Keyed.ofList (c.others vs)).get? k = (Keyed.ofList vs).get? k := by
  rw [Keyed.get?_ofList, Keyed.get?_ofList, others, ← List.filter_reverse]
  induction vs.reverse with
  | nil => rfl
  | cons e es ih =>
    obtain ⟨k', v⟩ := e
    rw [List.filter_cons]
    split
    · rw [Keyed.lookup_cons_eq, Keyed.lookup_cons_eq, ih]
    · next hown =>
      have hne : k ≠ k' := by
        rintro rfl
        simp [hk] at hown
      rw [Keyed.lookup_cons_eq, if_neg hne, ih]

lemma get?_others_own {α : Type} (hk : k ∈ c.names) (es : List (String × α)) :
    (Keyed.ofList (c.others es)).get? k = none := by
  rw [Keyed.get?_ofList_eq_none]
  intro hkey
  obtain ⟨x, hx⟩ := exists_mem_of_key hkey
  simpa [hk] using (List.mem_filter.1 hx).2

namespace Holds

variable {vs : List (String × Value)}

lemma readable (h : c.Holds ms s) (hf : c.MembersLawful) {m : Member σ} (hm : m ∈ c.members) :
    ∃ t, m.format.decode t = .ok (m.get s) := by
  by_cases hkey : m.name ∈ ms.map Prod.fst
  · obtain ⟨t, ht⟩ := exists_mem_of_key hkey
    exact ⟨t, h.kept m hm t ht⟩
  · rw [h.missing m hm hkey]
    exact (hf m hm).default_readable

/-- Every member of a document that was decoded has a value. -/
lemma hasValues (h : c.Holds ms s) (hf : c.MembersLawful) : ∃ vs, HaveMembers ms vs := by
  refine haveMembers_of_forall fun e he => ?_
  obtain ⟨k, t⟩ := e
  by_cases hk : k ∈ c.names
  · obtain ⟨m, hm, rfl⟩ := exists_member hk
    exact (hf m hm).hasValue (h.kept m hm t he)
  · obtain ⟨vs, hvs, -⟩ := h.carried
    obtain ⟨v, -, hv⟩ := hvs.exists_value (List.mem_filter.2 ⟨he, by simpa using hk⟩)
    exact ⟨v, hv⟩

lemma extra_eq (h : c.Holds ms s) (hvs : HaveMembers ms vs) :
    c.extra s = Keyed.ofList (c.others vs) := by
  obtain ⟨vs', hvs', hextra⟩ := h.carried
  rw [hextra, (hvs.filter fun k => decide (k ∉ c.names)).unique hvs']
  rfl

/-- What is carried along has a key that is not one of its own, and is what the document has under
that key. -/
lemma mem_extra (h : c.Holds ms s) (hvs : HaveMembers ms vs) {v : Value}
    (hv : (k, v) ∈ (c.extra s).entries) : k ∉ c.names ∧ (Keyed.ofList vs).get? k = some v := by
  have hfound := Keyed.mem_entries.1 hv
  rw [h.extra_eq hvs] at hfound
  have hk : k ∉ c.names := by
    simpa using (List.mem_filter.1 (Keyed.mem_of_get?_ofList hfound)).2
  refine ⟨hk, ?_⟩
  rw [← get?_others hk, hfound]

/-- A member is written with its normal form. -/
lemma shows (h : c.Holds ms s) (hf : c.MembersLawful) (hvs : HaveMembers ms vs) {m : Member σ}
    (hm : m ∈ c.members) :
    Shows (m.format.shown (m.get s)) (m.rule.result ((Keyed.ofList vs).get? m.name)) := by
  rcases hv : (Keyed.ofList vs).get? m.name with _ | v
  · have hkey : m.name ∉ ms.map Prod.fst := by
      rw [hvs.keys]
      exact Keyed.get?_ofList_eq_none.1 hv
    rw [h.missing m hm hkey]
    exact (hf m hm).default_absent
  · obtain ⟨t, ht, htv⟩ := hvs.exists_tree (Keyed.mem_of_get?_ofList hv)
    exact (hf m hm).present (h.kept m hm t ht) htv

lemma isCanonical_extra (h : c.Holds ms s) {e : String × Value} (he : e ∈ (c.extra s).entries) :
    e.2.IsCanonical := by
  obtain ⟨vs, hvs, hextra⟩ := h.carried
  rw [hextra] at he
  obtain ⟨t, -, ht⟩ := hvs.exists_tree (Keyed.mem_of_get?_ofList (Keyed.mem_entries.1 he))
  exact isCanonical_of_toValue ht

end Holds

/-! ### Lists of members -/

section

variable {α : Type} {members : List (Member σ)} {f : Member σ → Option α}

lemma mem_listed {x : α} :
    (k, x) ∈ listed members f ↔ ∃ m ∈ members, m.name = k ∧ f m = some x := by
  simp only [listed, List.mem_filterMap, Option.map_eq_some_iff, Prod.mk.injEq]
  constructor
  · rintro ⟨m, hm, y, hy, hname, rfl⟩
    exact ⟨m, hm, hname, hy⟩
  · rintro ⟨m, hm, hname, hx⟩
    exact ⟨m, hm, x, hx, hname, rfl⟩

lemma nodup_listed (hnd : (members.map (·.name)).Nodup) :
    ((listed members f).map Prod.fst).Nodup := by
  have hsub : ((listed members f).map Prod.fst).Sublist (members.map (·.name)) := by
    induction members with
    | nil => exact .slnil
    | cons m members ih =>
      rw [List.map_cons, List.nodup_cons] at hnd
      rw [listed, List.filterMap_cons, List.map_cons]
      rcases f m with _ | x
      · exact (ih hnd.2).cons _
      · exact (ih hnd.2).cons_cons _
  exact hnd.sublist hsub

/-- Members are found under their names. -/
lemma get?_listed (hnd : (members.map (·.name)).Nodup) {m : Member σ} (hm : m ∈ members) :
    (Keyed.ofList (listed members f)).get? m.name = f m := by
  rcases hf : f m with _ | x
  · rw [Keyed.get?_ofList_eq_none]
    intro hkey
    obtain ⟨x, hx⟩ := exists_mem_of_key hkey
    obtain ⟨m', hm', hname, hfound⟩ := mem_listed.1 hx
    obtain rfl : m' = m := List.inj_on_of_nodup_map hnd hm' hm hname
    simp [hf] at hfound
  · exact Keyed.get?_ofList_of_mem (nodup_listed hnd) (mem_listed.2 ⟨m, hm, rfl, hf⟩)

end

/-! ### Writing a record -/

/-- The normal forms of its own members, by what a document has under their names. -/
def normals (c : Schema σ) (V : Keyed Value) : List (String × Value) :=
  listed c.members fun m => m.rule.result (V.get? m.name)

lemma haveMembers_listed {members : List (Member σ)} {f g : Member σ → Option Value}
    (h : ∀ m ∈ members, Shows (f m) (g m)) :
    HaveMembers (memberTrees (listed members f)) (listed members g) := by
  induction members with
  | nil => exact .nil
  | cons m members ih =>
    have hm := h m (by simp)
    have hrest := ih fun x hx => h x (by simp [hx])
    rw [listed, listed, List.filterMap_cons, List.filterMap_cons]
    generalize f m = u at hm
    generalize g m = w at hm
    rcases hm with hu | _
    · exact .cons ⟨rfl, hu⟩ hrest
    · exact hrest

lemma memberTrees_append (es es' : List (String × Value)) :
    memberTrees (es ++ es') = memberTrees es ++ memberTrees es' := by
  rw [memberTrees_eq_map, memberTrees_eq_map, memberTrees_eq_map, List.map_append]

lemma keys_memberTrees (es : List (String × Value)) :
    (memberTrees es).map Prod.fst = es.map Prod.fst := by
  rw [memberTrees_eq_map, List.map_map]
  rfl

/-- Of what is written, the members that are not its own are those carried along. -/
lemma others_memberTrees {own extra : List (String × Value)} (hown : ∀ e ∈ own, e.1 ∈ c.names)
    (hextra : ∀ e ∈ extra, e.1 ∉ c.names) :
    c.others (memberTrees (own ++ extra)) = memberTrees extra := by
  have hdrop : c.others (memberTrees own) = [] := by
    rw [others, List.filter_eq_nil_iff, memberTrees_eq_map]
    intro e he
    obtain ⟨e', he', rfl⟩ := List.mem_map.1 he
    simpa using hown e' he'
  have hkeep : c.others (memberTrees extra) = memberTrees extra := by
    rw [others, List.filter_eq_self, memberTrees_eq_map]
    intro e he
    obtain ⟨e', he', rfl⟩ := List.mem_map.1 he
    simpa using hextra e' he'
  rw [memberTrees_append]
  unfold others at hdrop hkeep ⊢
  rw [List.filter_append, hdrop, hkeep, List.nil_append]

namespace Holds

variable {vs : List (String × Value)}

/-- The normal forms of its own members and those carried along make up the normal form of the
document. -/
lemma normals_extra (h : c.Holds ms s) (hc : c.Lawful) (hvs : HaveMembers ms vs) :
    Keyed.ofList (c.normals (Keyed.ofList vs) ++ (c.extra s).entries) =
      applyRules c.rules (Keyed.ofList vs) := by
  have hrules : (c.rules.map (·.name)).Nodup := by
    rw [rules, List.map_map]
    exact hc.nodup
  apply Keyed.ext_get?
  intro k
  rw [Keyed.get?_ofList, List.reverse_append, List.lookup_append, ← Keyed.get?_ofList,
    ← Keyed.get?_ofList, Keyed.ofList_entries, h.extra_eq hvs]
  by_cases hk : k ∈ c.names
  · obtain ⟨m, hm, rfl⟩ := exists_member hk
    rw [get?_others_own hk, Option.none_or, normals, get?_listed hc.nodup hm]
    exact (get?_applyRules hrules (List.mem_map.2 ⟨m, hm, rfl⟩) _).symm
  · have hnormals : (Keyed.ofList (c.normals (Keyed.ofList vs))).get? k = none := by
      rw [Keyed.get?_ofList_eq_none]
      intro hkey
      obtain ⟨v, hv⟩ := exists_mem_of_key hkey
      obtain ⟨m, hm, rfl, -⟩ := mem_listed.1 hv
      exact hk (name_mem hm)
    rw [hnormals, Option.or_none, get?_others hk, get?_applyRules_other]
    intro r hr
    obtain ⟨m, hm, rfl⟩ := List.mem_map.1 hr
    rintro rfl
    exact hk (name_mem hm)

/-- **A record is written as the normal form of the document it was read from.** -/
theorem toValue_value (h : c.Holds ms s) (hc : c.Lawful) (hf : c.MembersLawful)
    (hvs : HaveMembers ms vs) :
    (c.value s).tree.toValue = .ok (normalize c.rules (.obj (Keyed.ofList vs).entries)) := by
  have hshown : HaveMembers (memberTrees (c.shown s)) (c.normals (Keyed.ofList vs)) :=
    haveMembers_listed fun m hm => h.shows hf hvs hm
  have hextra : HaveMembers (memberTrees (c.extra s).entries) (c.extra s).entries :=
    haveMembers_memberTrees fun e he => h.isCanonical_extra he
  rw [normalize_entries, ← h.normals_extra hc hvs, value, Value.tree, memberTrees_append,
    toValue_obj]
  exact ⟨rfl, _, hshown.append hextra, rfl⟩

/-- What is written of a record is held by it. -/
lemma written (h : c.Holds ms s) (hc : c.Lawful) (hf : c.MembersLawful) :
    c.Holds (memberTrees (c.shown s ++ (c.extra s).entries)) s := by
  obtain ⟨vs, hvs⟩ := h.hasValues hf
  have hown : ∀ e ∈ c.shown s, e.1 ∈ c.names := by
    rintro ⟨k, u⟩ he
    obtain ⟨m, hm, rfl, -⟩ := mem_listed.1 he
    exact name_mem hm
  have hcarried : ∀ e ∈ (c.extra s).entries, e.1 ∉ c.names := fun e he =>
    (h.mem_extra hvs he).1
  constructor
  case nodup =>
    have hdrop : ((c.extra s).entries.map Prod.fst).filter (· ∈ c.names) = [] := by
      rw [List.filter_eq_nil_iff]
      intro k hk
      obtain ⟨v, hv⟩ := exists_mem_of_key hk
      simpa using hcarried _ hv
    rw [ownKeys, keys_memberTrees, List.map_append, List.filter_append, hdrop, List.append_nil]
    exact (nodup_listed hc.nodup).filter _
  case kept =>
    intro m hm t ht
    rw [memberTrees_eq_map, List.mem_map] at ht
    obtain ⟨⟨k, u⟩, hmem, heq⟩ := ht
    simp only [Prod.mk.injEq] at heq
    obtain ⟨rfl, rfl⟩ := heq
    rcases List.mem_append.1 hmem with hmem | hmem
    · obtain ⟨m', hm', hname, hu⟩ := mem_listed.1 hmem
      obtain rfl := eq_of_name_eq hc hm hm' hname
      obtain ⟨t, ht⟩ := h.readable hf hm
      exact (hf m' hm).reread ht hu
    · exact absurd (name_mem hm) (hcarried _ hmem)
  case missing =>
    intro m hm hkey
    have hnone : m.format.shown (m.get s) = none := by
      rcases hu : m.format.shown (m.get s) with _ | u
      · rfl
      · have hmem : (m.name, u) ∈ c.shown s := mem_listed.2 ⟨m, hm, rfl, hu⟩
        refine absurd ?_ hkey
        rw [keys_memberTrees, List.map_append, List.mem_append]
        exact .inl (List.mem_map.2 ⟨_, hmem, rfl⟩)
    obtain ⟨t, ht⟩ := h.readable hf hm
    exact (hf m hm).omitted ht hnone
  case carried =>
    rw [others_memberTrees hown hcarried]
    exact ⟨_, haveMembers_memberTrees fun e he => h.isCanonical_extra he,
      (Keyed.ofList_entries _).symm⟩

/-- Every member that is written comes from the defaults, from a member of its own that was read, or
from one that was carried along. -/
lemma value_cases (h : c.Holds ms s) (hvs : HaveMembers ms vs) {u : Value}
    (hu : (k, u) ∈ c.shown s ++ (c.extra s).entries) :
    (∃ m ∈ c.members, m.format.shown m.format.default = some u) ∨
    (∃ m ∈ c.members, m.format.shown (m.get s) = some u ∧ ∃ t v, (m.name, t) ∈ ms ∧
      m.format.decode t = .ok (m.get s) ∧ t.toValue = .ok v ∧
      (m.name, v) ∈ (Keyed.ofList vs).entries) ∨
    (∃ t, (k, t) ∈ ms ∧ t.toValue = .ok u ∧ (k, u) ∈ (Keyed.ofList vs).entries) := by
  rcases List.mem_append.1 hu with hu | hu
  · obtain ⟨m, hm, rfl, hshown⟩ := mem_listed.1 hu
    rcases hv : (Keyed.ofList vs).get? m.name with _ | v
    · have hkey : m.name ∉ ms.map Prod.fst := by
        rw [hvs.keys]
        exact Keyed.get?_ofList_eq_none.1 hv
      rw [h.missing m hm hkey] at hshown
      exact .inl ⟨m, hm, hshown⟩
    · obtain ⟨t, ht, htv⟩ := hvs.exists_tree (Keyed.mem_of_get?_ofList hv)
      exact .inr (.inl ⟨m, hm, hshown, t, v, ht, h.kept m hm t ht, htv, Keyed.mem_entries.2 hv⟩)
  · have hfound := (h.mem_extra hvs hu).2
    obtain ⟨t, ht, htv⟩ := hvs.exists_tree (Keyed.mem_of_get?_ofList hfound)
    exact .inr (.inr ⟨t, ht, htv, Keyed.mem_entries.2 hfound⟩)

end Holds

/-! ### The format of a record -/

def depth (c : Schema σ) : Nat := (c.members.map (·.format.depth)).foldr max 0 + 1

def format (c : Schema σ) : Format σ where
  decode := c.decode
  default := c.start
  shown s := some (c.value s)
  absent := some (normalize c.rules (.obj []))
  present v := some (normalize c.rules v)
  depth := c.depth

lemma le_foldr_max {n : Nat} {l : List Nat} (h : n ∈ l) : n ≤ l.foldr max 0 := by
  induction l with
  | nil => simp at h
  | cons a l ih =>
    rw [List.foldr_cons]
    rcases List.mem_cons.1 h with rfl | h
    · exact Nat.le_max_left _ _
    · exact Nat.le_trans (ih h) (Nat.le_max_right _ _)

lemma depth_lt {m : Member σ} (hm : m ∈ c.members) : m.format.depth < c.depth :=
  Nat.lt_succ_of_le (le_foldr_max (List.mem_map.2 ⟨m, hm, rfl⟩))

lemma holds_start (hc : c.Lawful) : c.Holds [] c.start := by
  refine ⟨by simp [ownKeys], by simp, fun m hm _ => hc.get_start m hm, [], .nil, ?_⟩
  rw [hc.extra_start]
  rfl

lemma Holds.fits {n : Nat} (h : c.Holds ms s) (hf : c.MembersLawful) (hn : c.depth ≤ n + 1)
    (hfits : ∀ e ∈ ms, e.2.Fits n) : (c.value s).Fits (n + 1) := by
  obtain ⟨vs, hvs⟩ := h.hasValues hf
  refine .obj fun e he => ?_
  obtain ⟨k, u⟩ := e
  rcases h.value_cases hvs he with ⟨m, hm, hu⟩ | ⟨m, hm, hu, t, v, ht, hread, -, -⟩ |
    ⟨t, ht, htv, -⟩
  · have := depth_lt hm
    exact (hf m hm).default_fits hu (by omega)
  · have := depth_lt hm
    exact (hf m hm).fits hread hu (by omega) (hfits _ ht)
  · exact (hfits _ ht).toValue htv

lemma Holds.floatFree {vs : List (String × Value)} (h : c.Holds ms s) (hf : c.MembersLawful)
    (hvs : HaveMembers ms vs) (hfree : (Value.obj (Keyed.ofList vs).entries).isFloatFree = true) :
    (c.value s).isFloatFree = true := by
  have hmembers := membersFloatFree_iff.1 (by simpa only [Value.isFloatFree] using hfree)
  rw [value, Value.isFloatFree, membersFloatFree_iff]
  rintro ⟨k, u⟩ he
  rcases h.value_cases hvs he with ⟨m, hm, hu⟩ | ⟨m, hm, hu, t, v, -, hread, htv, hv⟩ |
    ⟨t, -, -, hu⟩
  · exact (hf m hm).default_floatFree hu
  · exact (hf m hm).floatFree hread hu htv (hmembers _ hv)
  · exact hmembers _ hu

/-- **The format of a record is lawful if it keeps its members apart and their formats are
lawful.** -/
theorem format_lawful (hc : c.Lawful) (hf : c.MembersLawful) : c.format.Lawful := by
  have hread : ∀ {t s}, c.format.decode t = .ok s → ∃ ms, t = .obj ms none ∧ c.Holds ms s :=
    fun h => (decode_eq_ok hc).1 h
  have hvalue : ∀ {s u}, c.format.shown s = some u → u = c.value s := fun hu =>
    (Option.some.inj hu).symm
  have hstart := holds_start hc
  have hnil : Keyed.ofList ([] : List (String × Value)) = .empty := rfl
  constructor
  case hasValue =>
    intro t s h
    obtain ⟨ms, rfl, hholds⟩ := hread h
    obtain ⟨vs, hvs⟩ := hholds.hasValues hf
    exact ⟨_, toValue_obj.2 ⟨rfl, vs, hvs, rfl⟩⟩
  case reread =>
    intro t s u h hu
    obtain ⟨ms, rfl, hholds⟩ := hread h
    rw [hvalue hu]
    exact (decode_eq_ok hc).2 ⟨_, rfl, hholds.written hc hf⟩
  case omitted =>
    intro t s _ hu
    simp [format] at hu
  case present =>
    intro t s v h hv
    obtain ⟨ms, rfl, hholds⟩ := hread h
    obtain ⟨-, vs, hvs, rfl⟩ := toValue_obj.1 hv
    exact shows_some.2 (hholds.toValue_value hc hf hvs)
  case fits =>
    intro t s u n h hu hn ht
    obtain ⟨ms, rfl, hholds⟩ := hread h
    rw [hvalue hu]
    cases ht with
    | obj hms => exact hholds.fits hf hn hms
  case floatFree =>
    intro t s u v h hu hv hfree
    obtain ⟨ms, rfl, hholds⟩ := hread h
    obtain ⟨-, vs, hvs, rfl⟩ := toValue_obj.1 hv
    rw [hvalue hu]
    exact hholds.floatFree hf hvs hfree
  case default_readable => exact ⟨.obj [] none, (decode_eq_ok hc).2 ⟨[], rfl, hstart⟩⟩
  case default_absent => exact shows_some.2 (hstart.toValue_value hc hf .nil)
  case default_fits =>
    intro u n hu hn
    have hpos : 1 ≤ n := Nat.le_trans (Nat.le_add_left 1 _) hn
    obtain ⟨n, rfl⟩ := Nat.exists_eq_add_of_le' hpos
    rw [hvalue hu]
    exact hstart.fits hf hn (by simp)
  case default_floatFree =>
    intro u hu
    rw [hvalue hu]
    exact hstart.floatFree hf .nil rfl

end JobWatch.Json.Schema
