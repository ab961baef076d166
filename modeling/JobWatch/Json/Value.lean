import JobWatch.Binary64.Decimal
import JobWatch.Keyed

/-!
JSON values and their compact text.

The members of an object are kept in the order in which they are written. The text has no blanks;
strings escape only what they have to, and numbers are written so that they read back.
-/

namespace JobWatch.Json

inductive Value where
  | null
  | bool (b : Bool)
  | int (n : Int)
  | float (negative : Bool) (magnitude : Binary64)
  | str (s : String)
  | arr (items : List Value)
  | obj (members : List (String × Value))
  deriving Repr, Inhabited

/-! ### Equality -/

mutual

/-- Whether two values are the same, member by member in their order. -/
def Value.same : Value → Value → Bool
  | .null, .null => true
  | .bool a, .bool b => a = b
  | .int a, .int b => a = b
  | .float n a, .float m b => n = m && a = b
  | .str a, .str b => a = b
  | .arr xs, .arr ys => sameItems xs ys
  | .obj ms, .obj ns => sameMembers ms ns
  | _, _ => false

def Value.sameItems : List Value → List Value → Bool
  | [], [] => true
  | x :: xs, y :: ys => x.same y && sameItems xs ys
  | _, _ => false

def Value.sameMembers : List (String × Value) → List (String × Value) → Bool
  | [], [] => true
  | (k, x) :: ms, (l, y) :: ns => k = l && x.same y && sameMembers ms ns
  | _, _ => false

end

mutual

theorem Value.same_iff : ∀ a b : Value, a.same b = true ↔ a = b
  | .null, b | .bool _, b | .int _, b | .float _ _, b | .str _, b => by cases b <;> simp [same]
  | .arr xs, b => by cases b <;> simp [same, sameItems_iff xs]
  | .obj ms, b => by cases b <;> simp [same, sameMembers_iff ms]

theorem Value.sameItems_iff : ∀ xs ys : List Value, sameItems xs ys = true ↔ xs = ys
  | [], ys => by cases ys <;> simp [sameItems]
  | x :: xs, ys => by cases ys <;> simp [sameItems, same_iff x, sameItems_iff xs]

theorem Value.sameMembers_iff :
    ∀ ms ns : List (String × Value), sameMembers ms ns = true ↔ ms = ns
  | [], ns => by cases ns <;> simp [sameMembers]
  | (k, x) :: ms, ns => by
    cases ns <;> simp [sameMembers, same_iff x, sameMembers_iff ms, Prod.ext_iff]

end

instance : DecidableEq Value := fun a b => decidable_of_iff _ (a.same_iff b)

/-! ### Text -/

/-- The escape of one character inside a string: a letter for five controls, a number for the
others, a backslash for the quote and for the backslash itself. -/
def charText (c : Char) : List Char :=
  if c = '"' then ['\\', '"']
  else if c = '\\' then ['\\', '\\']
  else if c = '\x08' then ['\\', 'b']
  else if c = '\t' then ['\\', 't']
  else if c = '\n' then ['\\', 'n']
  else if c = '\x0c' then ['\\', 'f']
  else if c = '\r' then ['\\', 'r']
  else if c.toNat < 0x20 then
    ['\\', 'u', '0', '0', Nat.digitChar (c.toNat / 16), Nat.digitChar (c.toNat % 16)]
  else [c]

def stringText (cs : List Char) : List Char := '"' :: cs.flatMap charText ++ ['"']

def intText (n : Int) : List Char :=
  if n < 0 then '-' :: Nat.toDigits 10 n.natAbs else Nat.toDigits 10 n.natAbs

/-- A float: positional, with at least one digit after the point, while the first digit stands for
`10 ^ -5` to `10 ^ 15`; otherwise one digit before the point, the others after it, and a signed
exponent. -/
def floatText (negative : Bool) (x : Binary64) : List Char :=
  let d := x.shortest
  let ds := Nat.toDigits 10 d.digits
  let first : Int := d.exponent + ds.length - 1
  let body :=
    if -5 ≤ first ∧ first ≤ 15 then
      if d.exponent ≥ 0 then d.positional ++ ['.', '0'] else d.positional
    else
      let mark := if first < 0 then ['e', '-'] else ['e', '+']
      match ds with
      | [c] => c :: mark ++ Nat.toDigits 10 first.natAbs
      | c :: cs => c :: '.' :: cs ++ mark ++ Nat.toDigits 10 first.natAbs
      | [] => []
  if negative then '-' :: body else body

mutual

/-- The compact text of a value. -/
def Value.chars : Value → List Char
  | .null => ['n', 'u', 'l', 'l']
  | .bool true => ['t', 'r', 'u', 'e']
  | .bool false => ['f', 'a', 'l', 's', 'e']
  | .int n => intText n
  | .float negative x => floatText negative x
  | .str s => stringText s.toList
  | .arr items => '[' :: itemsText items ++ [']']
  | .obj members => '\x7b' :: membersText members ++ ['\x7d']

def itemsText : List Value → List Char
  | [] => []
  | [v] => v.chars
  | v :: vs => v.chars ++ ',' :: itemsText vs

def membersText : List (String × Value) → List Char
  | [] => []
  | [(k, v)] => stringText k.toList ++ ':' :: v.chars
  | (k, v) :: ms => stringText k.toList ++ ':' :: v.chars ++ ',' :: membersText ms

end

def Value.text (v : Value) : String := String.ofList v.chars

end JobWatch.Json
