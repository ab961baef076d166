import JobWatch.Json.Tree

/-!
Records: objects with some members of their own and any number of others, which are carried along.

A record is read by filling a value that starts with its defaults. A member of its own may occur
once; of the others the last one of a name counts.
-/

namespace JobWatch.Json

/-- A member of a record: how its value changes the record that is being filled. -/
structure Field (σ : Type) where
  name : String
  read : Tree → σ → Except Fault σ

/-- The members of a record, and what is done with every other one. -/
structure Layout (σ : Type) where
  fields : List (Field σ)
  carry : String → Value → σ → σ

variable {σ : Type}

/-- Fills a record from members in their order. A repeated member of its own is a fault before its
value is looked at. -/
def Layout.fill (l : Layout σ) : List String → List (String × Tree) → σ → Except Fault σ
  | _, [], s => .ok s
  | seen, (k, t) :: rest, s =>
    match l.fields.find? (·.name = k) with
    | some field =>
      if k ∈ seen then .error .mismatch
      else do
        let s ← field.read t s
        l.fill (k :: seen) rest s
    | none => do
      let v ← t.toValue
      l.fill seen rest (l.carry k v s)

/-- A record, starting from its defaults. -/
def Layout.decode (l : Layout σ) (start : σ) : Tree → Except Fault σ
  | .obj members cut => do
    let s ← l.fill [] members start
    unlessCut cut s
  | .cut f => .error f
  | _ => .error .mismatch

/-! ### The values of members -/

def decodeBool : Tree → Except Fault Bool
  | .bool b => .ok b
  | .cut f => .error f
  | _ => .error .mismatch

def decodeString : Tree → Except Fault String
  | .str s => .ok s
  | .cut f => .error f
  | _ => .error .mismatch

/-- An integer from zero up to a limit. -/
def decodeNat (max : Nat) : Tree → Except Fault Nat
  | .int n => if 0 ≤ n ∧ n ≤ max then .ok n.toNat else .error .mismatch
  | .cut f => .error f
  | _ => .error .mismatch

/-- A list, item by item. -/
def decodeList {α : Type} (decode : Tree → Except Fault α) : Tree → Except Fault (List α)
  | .arr items cut => do
    let xs ← items.mapM decode
    unlessCut cut xs
  | .cut f => .error f
  | _ => .error .mismatch

/-- A value that may be null. -/
def decodeOption {α : Type} (decode : Tree → Except Fault α) : Tree → Except Fault (Option α)
  | .null => .ok none
  | t => (decode t).map some

/-- An object with any names, all its values of one kind. Of a repeated name the last value
counts. -/
def decodeKeyed {α : Type} (decode : Tree → Except Fault α) : Tree → Except Fault (Keyed α)
  | .obj members cut => do
    let es ← members.mapM fun (k, t) => (decode t).map (k, ·)
    unlessCut cut (Keyed.ofList es)
  | .cut f => .error f
  | _ => .error .mismatch

/-- A member kept by a setter. -/
def Field.of {α : Type} (name : String) (decode : Tree → Except Fault α) (set : α → σ → σ) :
    Field σ :=
  ⟨name, fun t s => (decode t).map (set · s)⟩

end JobWatch.Json
