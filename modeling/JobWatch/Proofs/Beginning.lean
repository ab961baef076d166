import Mathlib.Data.List.Infix
import Mathlib.Tactic.Lemma

/-!
The beginning of a list, up to the first element with a property, and that one.
-/

namespace JobWatch.Feed

variable {α : Type} (p q : α → Bool)

/-- The elements up to the first with a property, and that one. -/
def through : List α → List α
  | [] => []
  | x :: xs => if p x then [x] else x :: through xs

lemma through_append (xs ys : List α) :
    through p (xs ++ ys) = if xs.any p then through p xs else xs ++ through p ys := by
  induction xs with
  | nil => rfl
  | cons x xs ih =>
    rw [List.cons_append, through, through, ih, List.any_cons]
    cases p x
    · by_cases h : xs.any p = true <;> simp [h]
    · simp

lemma through_of_not_any {xs : List α} (h : xs.any p = false) : through p xs = xs := by
  have happend := through_append p xs []
  simpa [h, through] using happend

/-- A list keeps its end if only the last element may have the property. -/
lemma through_of_dropLast {xs : List α} (h : xs.dropLast.any p = false) : through p xs = xs := by
  rcases List.eq_nil_or_concat xs with rfl | ⟨ys, x, rfl⟩
  · rfl
  · rw [List.concat_eq_append, List.dropLast_concat] at h
    rw [List.concat_eq_append, through_append, h]
    cases hx : p x <;> simp [through, hx]

lemma through_mono {xs ys : List α} (h : xs <+: ys) : through p xs <+: through p ys := by
  obtain ⟨more, rfl⟩ := h
  rw [through_append]
  split
  · exact List.prefix_rfl
  · next hnone =>
    rw [through_of_not_any p (by simpa using hnone)]
    exact List.prefix_append xs _

lemma through_through (xs : List α) :
    through q (through p xs) = through (fun x => p x || q x) xs := by
  induction xs with
  | nil => rfl
  | cons x xs ih => cases hp : p x <;> cases hq : q x <;> simp [through, hp, hq, ih]

lemma any_through (xs : List α) :
    (xs.any p || (through p xs).any q) = xs.any fun x => p x || q x := by
  induction xs with
  | nil => rfl
  | cons x xs ih =>
    rw [through, List.any_cons, List.any_cons, ← ih]
    cases p x
    · simp only [Bool.false_or, Bool.false_eq_true, if_false, List.any_cons]
      exact Bool.or_left_comm _ _ _
    · simp only [Bool.true_or]

lemma beginning_through (xs : List α) : through p xs <+: xs := by
  induction xs with
  | nil => exact List.prefix_rfl
  | cons x xs ih =>
    rw [through]
    split
    · exact ⟨xs, rfl⟩
    · exact List.cons_prefix_cons.2 ⟨rfl, ih⟩

lemma mem_of_mem_through {xs : List α} {x : α} (h : x ∈ through p xs) : x ∈ xs :=
  (beginning_through p xs).subset h

/-! ### What is found first -/

variable {β : Type} (f : α → Option β)

lemma findSome?_through (xs : List α) :
    (through (fun x => (f x).isSome) xs).findSome? f = xs.findSome? f := by
  induction xs with
  | nil => rfl
  | cons x xs ih =>
    rw [through, List.findSome?_cons]
    cases h : f x <;> simp [h, ih]

/-- As long as nothing is found, all is the beginning. -/
lemma through_of_findSome?_eq_none {xs : List α} (h : xs.findSome? f = none) :
    through (fun x => (f x).isSome) xs = xs :=
  through_of_not_any _ (by rw [← List.isSome_findSome?, h]; rfl)

end JobWatch.Feed
