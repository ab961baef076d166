import JobWatch.Json.Value
import JobWatch.Proofs.Keyed

/-!
Normal forms of records: a rule for each member of its own, while every other member stays as it is.
-/

namespace JobWatch.Json

/-- What stands for a member that is absent, and what becomes of one that is there; nothing means
that it is left out. -/
structure Rule where
  name : String
  absent : Option Value
  present : Value → Option Value

def Rule.result (r : Rule) : Option Value → Option Value
  | none => r.absent
  | some v => r.present v

/-- Applies a rule to each of its members. -/
def applyRules (rules : List Rule) (m : Keyed Value) : Keyed Value :=
  rules.foldl (fun m r => m.alter r.name r.result) m

def normalize (rules : List Rule) : Value → Value
  | .obj members => .obj (applyRules rules (Keyed.ofList members)).entries
  | v => v

/-- Applies a change to every member of an object. -/
def mapMembers (f : Value → Value) : Value → Value
  | .obj members => .obj (members.map fun e => (e.1, f e.2))
  | v => v

lemma normalize_entries (rules : List Rule) (m : Keyed Value) :
    normalize rules (.obj m.entries) = .obj (applyRules rules m).entries := by
  rw [normalize, Keyed.ofList_entries]

variable {rules : List Rule}

lemma get?_applyRules_other {k : String} (h : ∀ r ∈ rules, r.name ≠ k) (m : Keyed Value) :
    (applyRules rules m).get? k = m.get? k := by
  induction rules generalizing m with
  | nil => rfl
  | cons r rules ih =>
    rw [applyRules, List.foldl_cons, ← applyRules, ih fun x hx => h x (by simp [hx]),
      Keyed.get?_alter, if_neg fun hk => h r (by simp) hk.symm]

/-- Rules for different members do not disturb each other. -/
lemma get?_applyRules (hnd : (rules.map (·.name)).Nodup) {r : Rule} (hr : r ∈ rules)
    (m : Keyed Value) : (applyRules rules m).get? r.name = r.result (m.get? r.name) := by
  induction rules generalizing m with
  | nil => simp at hr
  | cons r' rules ih =>
    rw [List.map_cons, List.nodup_cons] at hnd
    rw [applyRules, List.foldl_cons, ← applyRules]
    rcases List.mem_cons.1 hr with rfl | hr
    · have hother : ∀ x ∈ rules, x.name ≠ r.name := by
        rintro x hx heq
        exact hnd.1 (List.mem_map.2 ⟨x, hx, heq⟩)
      rw [get?_applyRules_other hother, Keyed.get?_alter, if_pos rfl]
    · have hne : r.name ≠ r'.name := by
        intro heq
        exact hnd.1 (List.mem_map.2 ⟨r, hr, heq⟩)
      rw [ih hnd.2 hr, Keyed.get?_alter, if_neg hne]

end JobWatch.Json
