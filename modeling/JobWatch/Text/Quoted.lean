import JobWatch.Text.Unprintable

/-!
Quoted text in messages: double quotes around it, a backslash before quotes and backslashes, short
names for the commonest controls, and `\u{…}` in lower-case hexadecimal for what cannot be shown.
-/

namespace JobWatch.Text

/-- The lower-case hexadecimal digits of a number, the fewest that hold it. -/
def hexDigits (n : Nat) : List Char := Nat.toDigits 16 n

/-- One character inside quoted text. A single quote is written with a backslash only if asked. -/
def quotedChar (single : Bool) (c : Char) : List Char :=
  if c = '\x00' then ['\\', '0']
  else if c = '\t' then ['\\', 't']
  else if c = '\n' then ['\\', 'n']
  else if c = '\r' then ['\\', 'r']
  else if c = '"' ∨ c = '\\' ∨ (single ∧ c = '\'') then ['\\', c]
  else if isUnprintable c then ['\\', 'u', '\x7b'] ++ hexDigits c.toNat ++ ['\x7d']
  else [c]

/-- Text in double quotes. -/
def quoted (s : String) : String :=
  String.ofList ('"' :: s.toList.flatMap (quotedChar false) ++ ['"'])

/-- A file path in double quotes; single quotes inside are escaped as well. -/
def quotedPath (s : String) : String :=
  String.ofList ('"' :: s.toList.flatMap (quotedChar true) ++ ['"'])

end JobWatch.Text
