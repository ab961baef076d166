/-!
UTF-8 as a machine that takes one byte at a time.

Between characters the machine is at rest; inside one it knows the bits so far, how many bytes
are still owed, and the range the next byte has to lie in. That range keeps out overlong forms,
surrogates and values past `U+10FFFF` at the earliest byte that shows them. `decode?` accepts
well-formed text only, `decodeLossy` writes `U+FFFD` for every ill-formed stretch.
-/

namespace JobWatch.Utf8

/-- A character of which some bytes have come. -/
structure Pending where
  bits : Nat
  owed : Nat
  low : UInt8
  high : UInt8
  deriving Repr, DecidableEq

/-- The first byte of a character; `none` is emitted for a byte that starts none. -/
def lead (b : UInt8) : List (Option Char) × Option Pending :=
  if b < 0x80 then ([some (Char.ofNat b.toNat)], none)
  else if b < 0xC2 then ([none], none)
  else if b < 0xE0 then ([], some ⟨b.toNat - 0xC0, 1, 0x80, 0xBF⟩)
  else if b = 0xE0 then ([], some ⟨0, 2, 0xA0, 0xBF⟩)
  else if b = 0xED then ([], some ⟨0xD, 2, 0x80, 0x9F⟩)
  else if b < 0xF0 then ([], some ⟨b.toNat - 0xE0, 2, 0x80, 0xBF⟩)
  else if b = 0xF0 then ([], some ⟨0, 3, 0x90, 0xBF⟩)
  else if b < 0xF4 then ([], some ⟨b.toNat - 0xF0, 3, 0x80, 0xBF⟩)
  else if b = 0xF4 then ([], some ⟨4, 3, 0x80, 0x8F⟩)
  else ([none], none)

/-- One byte. A byte outside the expected range ends the stretch as ill-formed and is looked at
afresh. -/
def step : Option Pending → UInt8 → List (Option Char) × Option Pending
  | none, b => lead b
  | some p, b =>
    if p.low ≤ b ∧ b ≤ p.high then
      let bits := p.bits * 64 + (b.toNat - 0x80)
      if p.owed ≤ 1 then ([some (Char.ofNat bits)], none)
      else ([], some ⟨bits, p.owed - 1, 0x80, 0xBF⟩)
    else
      let (out, next) := lead b
      (none :: out, next)

/-- The characters of a byte string from a state on; `none` stands for an ill-formed stretch. -/
def scan : Option Pending → List UInt8 → List (Option Char)
  | none, [] => []
  | some _, [] => [none]
  | p, b :: bs =>
    let (out, next) := step p b
    out ++ scan next bs

/-- The text of a well-formed byte string. -/
def decode? (bs : List UInt8) : Option (List Char) :=
  (scan none bs).mapM id

/-- The text of any byte string, with `U+FFFD` for each ill-formed stretch. -/
def decodeLossy (bs : List UInt8) : List Char :=
  (scan none bs).map (·.getD '\uFFFD')

def encode (cs : List Char) : List UInt8 :=
  cs.flatMap String.utf8EncodeChar

end JobWatch.Utf8
