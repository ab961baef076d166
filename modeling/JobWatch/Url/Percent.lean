import JobWatch.Text.Utf8

/-!
Percent-encoding: a byte as `%` and two hexadecimal digits.

Every part of a URL has its own set of ASCII characters that are encoded; characters outside ASCII
are encoded everywhere. Names and values of a form encode all but letters, digits and four marks,
and write a space as `+`.
-/

namespace JobWatch.Url

def upperHex (n : Nat) : Char := (Nat.digitChar n).toUpper

def percentByte (b : UInt8) : List Char := ['%', upperHex (b.toNat / 16), upperHex (b.toNat % 16)]

/-- Encodes the characters of a set and all that are not ASCII. -/
def percentEncode (inSet : Char → Bool) (cs : List Char) : List Char :=
  cs.flatMap fun c =>
    if c.toNat < 0x80 ∧ !inSet c then [c] else (String.utf8EncodeChar c).flatMap percentByte

def isControl (c : Char) : Bool := c.toNat < 0x20 || c.toNat == 0x7F

def inFragmentSet (c : Char) : Bool :=
  isControl c || [' ', '"', '<', '>', (Char.ofNat 0x60)].contains c

def inPathSet (c : Char) : Bool := inFragmentSet c || ['#', '?', '\x7b', '\x7d'].contains c

def inUserinfoSet (c : Char) : Bool :=
  inPathSet c || ['/', ':', ';', '=', '@', '[', '\\', ']', '^', '|'].contains c

/-- The set for queries of the schemes that have a host of their own kind. -/
def inQuerySet (c : Char) : Bool := isControl c || [' ', '"', '#', '<', '>', '\''].contains c

def hexDigit? (b : UInt8) : Option Nat :=
  if 0x30 ≤ b ∧ b ≤ 0x39 then some (b.toNat - 0x30)
  else if 0x41 ≤ b ∧ b ≤ 0x46 then some (b.toNat - 0x41 + 10)
  else if 0x61 ≤ b ∧ b ≤ 0x66 then some (b.toNat - 0x61 + 10)
  else none

/-- The bytes behind an encoding. A `%` without two digits stands for itself. -/
def percentDecode : List UInt8 → List UInt8
  | 0x25 :: x :: y :: rest =>
    match hexDigit? x, hexDigit? y with
    | some h, some l => UInt8.ofNat (h * 16 + l) :: percentDecode rest
    | _, _ => 0x25 :: percentDecode (x :: y :: rest)
  | b :: bs => b :: percentDecode bs
  | [] => []

/-- A character that a form leaves as it is. -/
def isFormPlain (c : Char) : Bool := c.isAlphanum || ['*', '-', '.', '_'].contains c

def formEncode (cs : List Char) : List Char :=
  cs.flatMap fun c =>
    if c = ' ' then ['+']
    else if isFormPlain c then [c]
    else (String.utf8EncodeChar c).flatMap percentByte

/-- Names with their values, as a form writes them. -/
def formText (pairs : List (String × String)) : List Char :=
  ['&'].intercalate (pairs.map fun (k, v) => formEncode k.toList ++ '=' :: formEncode v.toList)

end JobWatch.Url
