import JobWatch.Json.Token

/-!
Reading a JSON document from its bytes.

A reading gives the tree of what could be read, and either the bytes behind it or the fault it
stopped at. Arrays and objects may lie in each other 127 deep; one more is malformed.
-/

namespace JobWatch.Json

/-- What was read, and the rest of the bytes or the fault. -/
abbrev Reading (α : Type) := α × Except Fault (List UInt8)

def Reading.stop (f : Fault) : Reading Tree := (.cut f, .error f)

/-- The fault a reading stopped at. -/
def faultOf : Except Fault (List UInt8) → Option Fault
  | .ok _ => none
  | .error f => some f

/-- The items of an array, read from the first one on to the closing bracket. -/
def readItems (element : List UInt8 → Reading Tree) (bs : List UInt8) : Reading (List Tree) :=
  match element bs with
  | (t, .error f) => ([t], .error f)
  | (t, .ok rest) =>
    match skipBlanks rest with
    | [] => ([t], .error .truncated)
    | b :: more =>
      if b = closeBracket then ([t], .ok more)
      else if b = comma then
        if _ : more.length < bs.length then
          let (ts, out) := readItems element more
          (t :: ts, out)
        else ([t], .error .malformed)
      else ([t], .error .malformed)
termination_by bs.length

/-- The members of an object, read from the first key on to the closing brace. A key whose value
could not be begun is kept, with the fault as its value. -/
def readMembers (element : List UInt8 → Reading Tree) (bs : List UInt8) :
    Reading (List (String × Tree)) :=
  match skipBlanks bs with
  | [] => ([], .error .truncated)
  | b :: bs' =>
    if b ≠ quote then ([], .error .malformed)
    else
      match readString bs' with
      | .error f => ([], .error f)
      | .ok (k, rest) =>
        match skipBlanks rest with
        | [] => ([(k, .cut .truncated)], .error .truncated)
        | b :: rest =>
          if b ≠ colon then ([(k, .cut .malformed)], .error .malformed)
          else
            match element rest with
            | (t, .error f) => ([(k, t)], .error f)
            | (t, .ok rest) =>
              match skipBlanks rest with
              | [] => ([(k, t)], .error .truncated)
              | b :: more =>
                if b = closeBrace then ([(k, t)], .ok more)
                else if b = comma then
                  if _ : more.length < bs.length then
                    let (ms, out) := readMembers element more
                    ((k, t) :: ms, out)
                  else ([(k, t)], .error .malformed)
                else ([(k, t)], .error .malformed)
termination_by bs.length

/-- An array, read after its opening bracket. -/
def readArray (element : List UInt8 → Reading Tree) (bs : List UInt8) : Reading Tree :=
  match skipBlanks bs with
  | [] => (.arr [] (some .truncated), .error .truncated)
  | b :: rest =>
    if b = closeBracket then (.arr [] none, .ok rest)
    else
      let (ts, out) := readItems element (b :: rest)
      (.arr ts (faultOf out), out)

/-- An object, read after its opening brace. -/
def readObject (element : List UInt8 → Reading Tree) (bs : List UInt8) : Reading Tree :=
  match skipBlanks bs with
  | [] => (.obj [] (some .truncated), .error .truncated)
  | b :: rest =>
    if b = closeBrace then (.obj [] none, .ok rest)
    else
      let (ms, out) := readMembers element (b :: rest)
      (.obj ms (faultOf out), out)

/-- One value with arrays and objects nested up to `depth`, after blanks. -/
def read (depth : Nat) (bs : List UInt8) : Reading Tree :=
  match skipBlanks bs with
  | [] => .stop .truncated
  | b :: rest =>
    if b = openBracket ∨ b = openBrace then
      match depth with
      | 0 => .stop .malformed
      | depth + 1 =>
        if b = openBracket then readArray (read depth) rest else readObject (read depth) rest
    else
      match readScalar (b :: rest) with
      | .ok (t, rest) => (t, .ok rest)
      | .error f => .stop f

def maxDepth : Nat := 127

/-- A whole document, decoded while it is walked front to back: blanks may follow the value, and
nothing else. -/
def decodeDocument {α : Type} (decode : Tree → Except Fault α) (bs : List UInt8) :
    Except Fault α := do
  let (t, out) := read maxDepth bs
  let x ← decode t
  let rest ← out
  if (skipBlanks rest).isEmpty then .ok x else .error .malformed

end JobWatch.Json
