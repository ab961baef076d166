import JobWatch.Proofs.Json.Depth
import JobWatch.Proofs.Keyed
import Mathlib.Data.List.Forall2

/-!
The value of a tree: what of its members stays, that it fits where the tree does, and that it is the
value of its own tree.
-/

namespace JobWatch.Json

/-! ### Parts of a tree -/

lemma unlessCut_eq_ok {α : Type} {cut : Option Fault} {x y : α} :
    unlessCut cut x = .ok y ↔ cut = none ∧ x = y := by
  cases cut <;> simp [unlessCut]

lemma bind_eq_ok {α β : Type} {x : Except Fault α} {f : α → Except Fault β} {b : β} :
    x >>= f = .ok b ↔ ∃ a, x = .ok a ∧ f a = .ok b := by
  cases x <;> simp [bind, Except.bind]

lemma mapM_eq_ok {α β : Type} {f : α → Except Fault β} {xs : List α} {ys : List β} :
    xs.mapM f = .ok ys ↔ List.Forall₂ (fun x y => f x = .ok y) xs ys := by
  induction xs generalizing ys with
  | nil => simp [pure, Except.pure, eq_comm]
  | cons x xs ih =>
    simp only [List.mapM_cons, bind_eq_ok, ih, List.forall₂_cons_left_iff, pure, Except.pure,
      Except.ok.injEq]
    constructor
    · rintro ⟨y, hy, ys, hys, rfl⟩
      exact ⟨y, ys, hy, hys, rfl⟩
    · rintro ⟨y, ys, hy, hys, rfl⟩
      exact ⟨y, hy, ys, hys, rfl⟩

/-- Items and their values, one by one. -/
abbrev HaveItems : List Tree → List Value → Prop :=
  List.Forall₂ fun t v => t.toValue = .ok v

/-- Members and their values, one by one and under the same keys. -/
abbrev HaveMembers : List (String × Tree) → List (String × Value) → Prop :=
  Keyed.Related fun t v => t.toValue = .ok v

lemma itemValues_eq_ok {ts : List Tree} {vs : List Value} :
    itemValues ts = .ok vs ↔ HaveItems ts vs := by
  induction ts generalizing vs with
  | nil => simp [itemValues, eq_comm]
  | cons t ts ih =>
    simp only [itemValues, bind_eq_ok, ih, List.forall₂_cons_left_iff, Except.ok.injEq]
    constructor
    · rintro ⟨v, hv, us, hus, rfl⟩
      exact ⟨v, us, hv, hus, rfl⟩
    · rintro ⟨v, us, hv, hus, rfl⟩
      exact ⟨v, hv, us, hus, rfl⟩

lemma memberValues_eq_ok {ms : List (String × Tree)} {vs : List (String × Value)} :
    memberValues ms = .ok vs ↔ HaveMembers ms vs := by
  induction ms generalizing vs with
  | nil => simp [memberValues, eq_comm]
  | cons e ms ih =>
    obtain ⟨k, t⟩ := e
    simp only [memberValues, bind_eq_ok, ih, List.forall₂_cons_left_iff, Except.ok.injEq]
    constructor
    · rintro ⟨v, hv, us, hus, rfl⟩
      exact ⟨(k, v), us, ⟨rfl, hv⟩, hus, rfl⟩
    · rintro ⟨⟨k', v⟩, us, ⟨rfl, hv⟩, hus, rfl⟩
      exact ⟨v, hv, us, hus, rfl⟩

lemma toValue_arr {ts : List Tree} {cut : Option Fault} {v : Value} :
    (Tree.arr ts cut).toValue = .ok v ↔ cut = none ∧ ∃ vs, HaveItems ts vs ∧ v = .arr vs := by
  simp only [Tree.toValue, bind_eq_ok, itemValues_eq_ok, unlessCut_eq_ok]
  constructor
  · rintro ⟨vs, h, rfl, rfl⟩
    exact ⟨rfl, vs, h, rfl⟩
  · rintro ⟨rfl, vs, h, rfl⟩
    exact ⟨vs, h, rfl, rfl⟩

lemma toValue_obj {ms : List (String × Tree)} {cut : Option Fault} {v : Value} :
    (Tree.obj ms cut).toValue = .ok v ↔
      cut = none ∧ ∃ vs, HaveMembers ms vs ∧ v = .obj (Keyed.ofList vs).entries := by
  simp only [Tree.toValue, bind_eq_ok, memberValues_eq_ok, unlessCut_eq_ok]
  constructor
  · rintro ⟨vs, h, rfl, rfl⟩
    exact ⟨rfl, vs, h, rfl⟩
  · rintro ⟨rfl, vs, h, rfl⟩
    exact ⟨vs, h, rfl, rfl⟩

section

variable {ts : List Tree} {us : List Value} {ms : List (String × Tree)}
  {vs : List (String × Value)}

lemma HaveItems.exists_tree (h : HaveItems ts us) {v : Value} (hv : v ∈ us) :
    ∃ t ∈ ts, t.toValue = .ok v := by
  induction h with
  | nil => simp at hv
  | cons ht _ ih =>
    rcases List.mem_cons.1 hv with rfl | hv
    · exact ⟨_, by simp, ht⟩
    · obtain ⟨t, hmem, ht⟩ := ih hv
      exact ⟨t, by simp [hmem], ht⟩

lemma HaveMembers.exists_tree (h : HaveMembers ms vs) {k : String} {v : Value}
    (hv : (k, v) ∈ vs) : ∃ t, (k, t) ∈ ms ∧ t.toValue = .ok v := by
  have hrelated := Keyed.exists_related_left h hv
  exact hrelated

lemma HaveMembers.exists_value (h : HaveMembers ms vs) {k : String} {t : Tree}
    (ht : (k, t) ∈ ms) : ∃ v, (k, v) ∈ vs ∧ t.toValue = .ok v := by
  have hrelated := Keyed.exists_related h ht
  exact hrelated

/-- Members keep their values when some are left out by their keys. -/
lemma HaveMembers.filter (h : HaveMembers ms vs) (p : String → Bool) :
    HaveMembers (ms.filter (p ·.1)) (vs.filter (p ·.1)) := by
  induction h with
  | nil => exact .nil
  | @cons e w _ _ he _ ih =>
    rw [List.filter_cons, List.filter_cons, ← he.1]
    split
    · exact .cons he ih
    · exact ih

lemma HaveMembers.unique {vs' : List (String × Value)} (h : HaveMembers ms vs)
    (h' : HaveMembers ms vs') : vs' = vs :=
  Except.ok.inj ((memberValues_eq_ok.2 h').symm.trans (memberValues_eq_ok.2 h))

lemma HaveMembers.append {ms' : List (String × Tree)} {vs' : List (String × Value)}
    (h : HaveMembers ms vs) (h' : HaveMembers ms' vs') :
    HaveMembers (ms ++ ms') (vs ++ vs') :=
  List.rel_append h h'

lemma HaveMembers.keys (h : HaveMembers ms vs) : ms.map Prod.fst = vs.map Prod.fst :=
  Keyed.related_keys h

lemma haveMembers_of_forall (h : ∀ e ∈ ms, ∃ v, e.2.toValue = .ok v) :
    ∃ vs, HaveMembers ms vs := by
  induction ms with
  | nil => exact ⟨[], .nil⟩
  | cons e ms ih =>
    obtain ⟨v, hv⟩ := h e (by simp)
    obtain ⟨vs, hvs⟩ := ih fun x hx => h x (by simp [hx])
    exact ⟨(e.1, v) :: vs, .cons ⟨rfl, hv⟩ hvs⟩

end

/-! ### Values of trees -/

/-- The value of a tree fits where the tree does. -/
lemma Tree.Fits.toValue {n : Nat} {t : Tree} (h : t.Fits n) {v : Value}
    (hv : t.toValue = .ok v) : v.Fits n := by
  induction h generalizing v with
  | null => cases hv; exact .null
  | bool => cases hv; exact .bool
  | int hi => cases hv; exact .int hi
  | float => cases hv; exact .float
  | str => cases hv; exact .str
  | cut => cases hv
  | arr _ ih =>
    obtain ⟨-, vs, hvs, rfl⟩ := toValue_arr.1 hv
    refine .arr fun w hw => ?_
    obtain ⟨t, ht, hw⟩ := hvs.exists_tree hw
    exact ih t ht hw
  | obj _ ih =>
    obtain ⟨-, vs, hvs, rfl⟩ := toValue_obj.1 hv
    refine .obj fun e he => ?_
    obtain ⟨t, ht, hw⟩ := hvs.exists_tree (Keyed.mem_of_get?_ofList (Keyed.mem_entries.1 he))
    exact ih (e.1, t) ht hw

/-- Induction on trees, with an assumption for every item and every member. -/
@[elab_as_elim]
lemma Tree.nestedInduction {P : Tree → Prop} (null : P .null) (bool : ∀ b, P (.bool b))
    (int : ∀ n, P (.int n)) (float : ∀ negative x, P (.float negative x)) (str : ∀ s, P (.str s))
    (arr : ∀ items cut, (∀ t ∈ items, P t) → P (.arr items cut))
    (obj : ∀ members cut, (∀ e ∈ members, P e.2) → P (.obj members cut)) (cut : ∀ f, P (.cut f))
    (t : Tree) : P t :=
  @Tree.rec P (fun ts => ∀ t ∈ ts, P t) (fun ms => ∀ e ∈ ms, P e.2) (fun e => P e.2)
    null bool int float str arr obj cut
    (by simp) (fun _ _ ht hts => List.forall_mem_cons.2 ⟨ht, hts⟩)
    (by simp) (fun _ _ he hes => List.forall_mem_cons.2 ⟨he, hes⟩) (fun _ _ ht => ht) t

/-- A value that is the value of its own tree: the members of its objects are sorted. -/
def Value.IsCanonical (v : Value) : Prop := v.tree.toValue = .ok v

lemma haveMembers_memberTrees {es : List (String × Value)} (h : ∀ e ∈ es, e.2.IsCanonical) :
    HaveMembers (memberTrees es) es := by
  induction es with
  | nil => exact .nil
  | cons e es ih => exact .cons ⟨rfl, h e (by simp)⟩ (ih fun x hx => h x (by simp [hx]))

lemma haveItems_itemTrees {vs : List Value} (h : ∀ v ∈ vs, v.IsCanonical) :
    HaveItems (itemTrees vs) vs := by
  induction vs with
  | nil => exact .nil
  | cons v vs ih => exact .cons (h v (by simp)) (ih fun x hx => h x (by simp [hx]))

lemma isCanonical_obj {m : Keyed Value} (h : ∀ e ∈ m.entries, e.2.IsCanonical) :
    (Value.obj m.entries).IsCanonical := by
  rw [Value.IsCanonical, Value.tree, toValue_obj]
  exact ⟨rfl, m.entries, haveMembers_memberTrees h, by rw [Keyed.ofList_entries]⟩

/-- **The value of a tree is the value of its own tree.** -/
theorem isCanonical_of_toValue {t : Tree} {v : Value} (h : t.toValue = .ok v) :
    v.IsCanonical := by
  induction t using Tree.nestedInduction generalizing v with
  | null => cases h; rfl
  | bool b => cases h; rfl
  | int n => cases h; rfl
  | float negative x => cases h; rfl
  | str s => cases h; rfl
  | cut f => cases h
  | arr items cut ih =>
    obtain ⟨-, vs, hvs, rfl⟩ := toValue_arr.1 h
    have hitems : ∀ w ∈ vs, w.IsCanonical := by
      intro w hw
      obtain ⟨t, ht, hw⟩ := hvs.exists_tree hw
      exact ih t ht hw
    rw [Value.IsCanonical, Value.tree, toValue_arr]
    exact ⟨rfl, vs, haveItems_itemTrees hitems, rfl⟩
  | obj members cut ih =>
    obtain ⟨-, vs, hvs, rfl⟩ := toValue_obj.1 h
    refine isCanonical_obj fun e he => ?_
    obtain ⟨t, ht, hw⟩ := hvs.exists_tree (Keyed.mem_of_get?_ofList (Keyed.mem_entries.1 he))
    exact ih (e.1, t) ht hw

end JobWatch.Json
