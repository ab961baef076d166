import JobWatch.Json.Value

/-!
A JSON document as far as it could be read.

Where reading stopped, the tree holds the fault in the place of what is missing: in the place of a
value, or after the last item or member that was begun. Whoever walks a tree in the order of the
document therefore meets a value of the wrong kind before any fault behind it. Members keep their
order, and keys may repeat.
-/

namespace JobWatch.Json

/-- What is wrong with a document: it breaks the grammar, it holds a value of the wrong kind, or it
ends early. -/
inductive Fault where
  | malformed
  | mismatch
  | truncated
  deriving Repr, DecidableEq

inductive Tree where
  | null
  | bool (b : Bool)
  | int (n : Int)
  | float (negative : Bool) (magnitude : Binary64)
  | str (s : String)
  | arr (items : List Tree) (cut : Option Fault)
  | obj (members : List (String × Tree)) (cut : Option Fault)
  | cut (fault : Fault)
  deriving Repr, Inhabited

/-- The result of a part, unless the document stopped right behind it. -/
def unlessCut {α : Type} (cut : Option Fault) (x : α) : Except Fault α :=
  match cut with
  | none => .ok x
  | some f => .error f

mutual

/-- The value of a document, of any kind. Members are sorted by key; of a repeated key the last one
counts. -/
def Tree.toValue : Tree → Except Fault Value
  | .null => .ok .null
  | .bool b => .ok (.bool b)
  | .int n => .ok (.int n)
  | .float negative x => .ok (.float negative x)
  | .str s => .ok (.str s)
  | .arr items cut => do
    let vs ← itemValues items
    unlessCut cut (.arr vs)
  | .obj members cut => do
    let ms ← memberValues members
    unlessCut cut (.obj (Keyed.ofList ms).entries)
  | .cut f => .error f

def itemValues : List Tree → Except Fault (List Value)
  | [] => .ok []
  | t :: ts => do
    let v ← t.toValue
    let vs ← itemValues ts
    .ok (v :: vs)

def memberValues : List (String × Tree) → Except Fault (List (String × Value))
  | [] => .ok []
  | (k, t) :: ms => do
    let v ← t.toValue
    let vs ← memberValues ms
    .ok ((k, v) :: vs)

end

end JobWatch.Json
