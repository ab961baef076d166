import JobWatch.Json.Record
import JobWatch.Proofs.Json.Generic

/-!
Formats: how the value of one member is read, written and normalized.

A format is lawful if what it writes is read again as the same, and if what it writes of a value it
has read is the normal form of that value. The laws are about every tree that can be read, so that
they go from the members of a record to the record.
-/

namespace JobWatch.Json

/-- How a member of a kind is read, its default, how it is written if it is not left out, and its
normal form: what stands for it when it is absent, and what becomes of it when it is there. -/
structure Format (α : Type) where
  decode : Tree → Except Fault α
  default : α
  shown : α → Option Value
  absent : Option Value
  present : Value → Option Value
  /-- What is written of a document so deep is no deeper. -/
  depth : Nat := 0

/-- A member is written so that it has this value, or left out. -/
def Shows (written : Option Value) (value : Option Value) : Prop :=
  Option.Rel (fun u w => u.tree.toValue = .ok w) written value

structure Format.Lawful {α : Type} (f : Format α) : Prop where
  hasValue : ∀ {t x}, f.decode t = .ok x → ∃ v, t.toValue = .ok v
  reread : ∀ {t x u}, f.decode t = .ok x → f.shown x = some u → f.decode u.tree = .ok x
  omitted : ∀ {t x}, f.decode t = .ok x → f.shown x = none → x = f.default
  present : ∀ {t x v}, f.decode t = .ok x → t.toValue = .ok v → Shows (f.shown x) (f.present v)
  fits : ∀ {t x u n}, f.decode t = .ok x → f.shown x = some u → f.depth ≤ n → t.Fits n → u.Fits n
  floatFree : ∀ {t x u v}, f.decode t = .ok x → f.shown x = some u → t.toValue = .ok v →
    v.isFloatFree = true → u.isFloatFree = true
  default_readable : ∃ t, f.decode t = .ok f.default
  default_absent : Shows (f.shown f.default) f.absent
  default_fits : ∀ {u n}, f.shown f.default = some u → f.depth ≤ n → u.Fits n
  default_floatFree : ∀ {u}, f.shown f.default = some u → u.isFloatFree = true

lemma shows_some {u w : Value} : Shows (some u) (some w) ↔ u.tree.toValue = .ok w :=
  Option.rel_some_some

lemma shows_none : Shows none none := .none

/-! ### Leaves -/

/-- A value that holds no other and is no float. -/
inductive Value.IsLeaf : Value → Prop
  | bool {b : Bool} : IsLeaf (.bool b)
  | int {i : Int} : InRange i → IsLeaf (.int i)
  | str {s : String} : IsLeaf (.str s)

namespace Value.IsLeaf

variable {v : Value}

lemma toValue_tree (h : v.IsLeaf) : v.tree.toValue = .ok v := by
  cases h <;> rfl

lemma fits (h : v.IsLeaf) (n : Nat) : v.Fits n := by
  cases h with
  | bool => exact .bool
  | int hi => exact .int hi
  | str => exact .str

lemma isFloatFree (h : v.IsLeaf) : v.isFloatFree = true := by
  cases h <;> rfl

end Value.IsLeaf

/-- A format of leaves is lawful if it reads what it writes and writes, of what it has read, the
normal form. -/
lemma Format.lawful_of_leaf {α : Type} {f : Format α} (put : α → Value)
    (hshown : ∀ x, f.shown x = some (put x))
    (hread : ∀ t x, f.decode t = .ok x →
      ∃ v : Value, v.IsLeaf ∧ t = v.tree ∧ f.present v = some (put x))
    (hput : ∀ t x, f.decode t = .ok x → (put x).IsLeaf ∧ f.decode (put x).tree = .ok x)
    (hdefault : ∃ t, f.decode t = .ok f.default) (habsent : f.absent = some (put f.default)) :
    f.Lawful := by
  obtain ⟨t₀, ht₀⟩ := hdefault
  have hleaf := (hput t₀ _ ht₀).1
  have hwritten : ∀ {x u}, f.shown x = some u → u = put x := by
    intro x u hu
    rw [hshown, Option.some.injEq] at hu
    exact hu.symm
  constructor
  case hasValue =>
    intro t x h
    obtain ⟨v, hv, rfl, -⟩ := hread t x h
    exact ⟨v, hv.toValue_tree⟩
  case reread =>
    intro t x u h hu
    rw [hwritten hu]
    exact (hput t x h).2
  case omitted =>
    intro t x _ hu
    simp [hshown] at hu
  case present =>
    intro t x v h hv
    obtain ⟨w, hw, rfl, hpresent⟩ := hread t x h
    obtain rfl : w = v := Except.ok.inj (hw.toValue_tree.symm.trans hv)
    rw [hshown, hpresent, shows_some]
    exact (hput _ x h).1.toValue_tree
  case fits =>
    intro t x u n h hu _ _
    rw [hwritten hu]
    exact (hput t x h).1.fits n
  case floatFree =>
    intro t x u v h hu _ _
    rw [hwritten hu]
    exact (hput t x h).1.isFloatFree
  case default_readable => exact ⟨t₀, ht₀⟩
  case default_absent =>
    rw [hshown, habsent, shows_some]
    exact hleaf.toValue_tree
  case default_fits =>
    intro u n hu _
    rw [hwritten hu]
    exact hleaf.fits n
  case default_floatFree =>
    intro u hu
    rw [hwritten hu]
    exact hleaf.isFloatFree

namespace Format

def string : Format String where
  decode := decodeString
  default := ""
  shown s := some (.str s)
  absent := some (.str "")
  present := some

lemma decodeString_eq_ok {t : Tree} {s : String} : decodeString t = .ok s ↔ t = .str s := by
  cases t <;> simp [decodeString]

lemma string_lawful : string.Lawful := by
  refine lawful_of_leaf .str (fun _ => rfl) ?_ ?_ ⟨.str "", rfl⟩ rfl
  · intro t s h
    obtain rfl := decodeString_eq_ok.1 h
    exact ⟨.str s, .str, rfl, rfl⟩
  · intro t s _
    exact ⟨.str, rfl⟩

def bool : Format Bool where
  decode := decodeBool
  default := false
  shown b := some (.bool b)
  absent := some (.bool false)
  present := some

lemma decodeBool_eq_ok {t : Tree} {b : Bool} : decodeBool t = .ok b ↔ t = .bool b := by
  cases t <;> simp [decodeBool]

lemma bool_lawful : bool.Lawful := by
  refine lawful_of_leaf .bool (fun _ => rfl) ?_ ?_ ⟨.bool false, rfl⟩ rfl
  · intro t b h
    obtain rfl := decodeBool_eq_ok.1 h
    exact ⟨.bool b, .bool, rfl, rfl⟩
  · intro t b _
    exact ⟨.bool, rfl⟩

def nat (max : Nat) : Format Nat where
  decode := decodeNat max
  default := 0
  shown n := some (.int n)
  absent := some (.int 0)
  present := some

lemma decodeNat_eq_ok {max : Nat} {t : Tree} {n : Nat} :
    decodeNat max t = .ok n ↔ t = .int n ∧ n ≤ max := by
  cases t with
  | int i =>
    rw [decodeNat]
    split
    · next h =>
      rw [Except.ok.injEq, Tree.int.injEq]
      omega
    · next h =>
      simp only [Tree.int.injEq, reduceCtorEq, false_iff]
      omega
  | _ => simp [decodeNat]

lemma nat_lawful {max : Nat} (hmax : max ≤ significandLimit) : (nat max).Lawful := by
  have hrange : ∀ n : Nat, n ≤ max → InRange n := by
    intro n hn
    exact ⟨by omega, by omega⟩
  have hzero : decodeNat max (.int 0) = .ok 0 := decodeNat_eq_ok.2 ⟨rfl, Nat.zero_le max⟩
  refine lawful_of_leaf (fun n : Nat => .int n) (fun _ => rfl) ?_ ?_ ⟨.int 0, hzero⟩ rfl
  · intro t n h
    obtain ⟨rfl, hn⟩ := decodeNat_eq_ok.1 h
    exact ⟨.int n, .int (hrange n hn), rfl, rfl⟩
  · intro t n h
    obtain ⟨-, hn⟩ := decodeNat_eq_ok.1 h
    exact ⟨.int (hrange n hn), decodeNat_eq_ok.2 ⟨rfl, hn⟩⟩

/-! ### Lists of strings -/

/-- An empty list of strings is left out. -/
def strings : Format (List String) where
  decode := decodeList decodeString
  default := []
  shown xs := if xs.isEmpty then none else some (.arr (xs.map .str))
  absent := none
  present
    | .arr [] => none
    | v => some v
  depth := 1

lemma forall₂_str {ts : List Tree} {xs : List String} :
    List.Forall₂ (fun t x => decodeString t = .ok x) ts xs ↔ ts = xs.map .str := by
  simp only [decodeString_eq_ok]
  induction xs generalizing ts with
  | nil => simp
  | cons x xs ih =>
    simp only [List.forall₂_cons_right_iff, ih, List.map_cons]
    constructor
    · rintro ⟨t, ts, rfl, rfl, rfl⟩
      rfl
    · rintro rfl
      exact ⟨.str x, xs.map .str, rfl, rfl, rfl⟩

lemma strings_decode {t : Tree} {xs : List String} :
    strings.decode t = .ok xs ↔ t = .arr (xs.map .str) none := by
  change decodeList decodeString t = .ok xs ↔ _
  cases t with
  | arr items cut =>
    simp only [decodeList, bind_eq_ok, mapM_eq_ok, forall₂_str, unlessCut_eq_ok]
    constructor
    · rintro ⟨ys, rfl, rfl, rfl⟩
      rfl
    · intro h
      rw [Tree.arr.injEq] at h
      exact ⟨xs, h.1, h.2, rfl⟩
  | _ => simp [decodeList]

lemma itemTrees_str (xs : List String) : itemTrees (xs.map .str) = xs.map .str := by
  rw [itemTrees_eq_map, List.map_map]
  rfl

lemma toValue_strings (xs : List String) :
    (Tree.arr (xs.map .str) none).toValue = .ok (.arr (xs.map .str)) := by
  have hcanonical : ∀ v ∈ xs.map Value.str, v.IsCanonical := by
    intro v hv
    obtain ⟨x, -, rfl⟩ := List.mem_map.1 hv
    rfl
  have hitems := haveItems_itemTrees hcanonical
  rw [itemTrees_str] at hitems
  exact toValue_arr.2 ⟨rfl, _, hitems, rfl⟩

lemma strings_shown {xs : List String} {u : Value} (h : strings.shown xs = some u) :
    u = .arr (xs.map .str) := by
  simp only [strings] at h
  split at h
  · simp at h
  · exact (Option.some.inj h).symm

lemma strings_lawful : strings.Lawful := by
  have hfloat : ∀ xs : List String, (Value.arr (xs.map .str)).isFloatFree = true := by
    intro xs
    rw [Value.isFloatFree, itemsFloatFree_iff]
    intro v hv
    obtain ⟨x, -, rfl⟩ := List.mem_map.1 hv
    rfl
  have hfits : ∀ (xs : List String) (n : Nat), (Value.arr (xs.map .str)).Fits (n + 1) := by
    intro xs n
    refine .arr fun v hv => ?_
    obtain ⟨x, -, rfl⟩ := List.mem_map.1 hv
    exact .str
  constructor
  case hasValue =>
    intro t xs h
    rw [strings_decode.1 h]
    exact ⟨_, toValue_strings xs⟩
  case reread =>
    intro t xs u _ hu
    rw [strings_shown hu, Value.tree, itemTrees_str]
    exact strings_decode.2 rfl
  case omitted =>
    intro t xs _ hu
    simp only [strings] at hu
    split at hu
    · next hempty => exact List.isEmpty_iff.1 hempty
    · simp at hu
  case present =>
    intro t xs v h hv
    rw [strings_decode.1 h, toValue_strings, Except.ok.injEq] at hv
    subst hv
    rcases xs with _ | ⟨x, xs⟩
    · exact shows_none
    · have hshown :
          Shows (some (.arr ((x :: xs).map .str))) (some (.arr ((x :: xs).map .str))) := by
        rw [shows_some, Value.tree, itemTrees_str]
        exact toValue_strings (x :: xs)
      exact hshown
  case fits =>
    intro t xs u n h hu hn _
    obtain ⟨n, rfl⟩ := Nat.exists_eq_add_of_le' hn
    rw [strings_shown hu]
    exact hfits xs n
  case floatFree =>
    intro t xs u v _ hu _ _
    rw [strings_shown hu]
    exact hfloat xs
  case default_readable => exact ⟨.arr [] none, strings_decode.2 rfl⟩
  case default_absent => exact shows_none
  case default_fits =>
    intro u n hu _
    simp [strings] at hu
  case default_floatFree =>
    intro u hu
    simp [strings] at hu

end Format

end JobWatch.Json
