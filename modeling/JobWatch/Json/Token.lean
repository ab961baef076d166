import JobWatch.Json.Tree
import JobWatch.Text.Utf8

/-!
The parts of a JSON document that hold no other values: blanks, strings, numbers and the three
literals, each read off the front of a byte string.
-/

namespace JobWatch.Json

@[match_pattern] abbrev quote : UInt8 := 0x22
@[match_pattern] abbrev backslash : UInt8 := 0x5C
@[match_pattern] abbrev comma : UInt8 := 0x2C
@[match_pattern] abbrev colon : UInt8 := 0x3A
@[match_pattern] abbrev openBracket : UInt8 := 0x5B
@[match_pattern] abbrev closeBracket : UInt8 := 0x5D
@[match_pattern] abbrev openBrace : UInt8 := 0x7B
@[match_pattern] abbrev closeBrace : UInt8 := 0x7D
@[match_pattern] abbrev minus : UInt8 := 0x2D
@[match_pattern] abbrev plus : UInt8 := 0x2B
@[match_pattern] abbrev point : UInt8 := 0x2E
@[match_pattern] abbrev letterU : UInt8 := 0x75
@[match_pattern] abbrev letterE : UInt8 := 0x65
@[match_pattern] abbrev capitalE : UInt8 := 0x45

/-- Space, tab, line feed and carriage return. -/
def isBlank (b : UInt8) : Bool := b == 0x20 || b == 0x09 || b == 0x0A || b == 0x0D

def skipBlanks (bs : List UInt8) : List UInt8 := bs.dropWhile isBlank

/-- The fault of a place where something else, or nothing, follows. -/
def faultAt (bs : List UInt8) : Fault := if bs.isEmpty then .truncated else .malformed

/-! ### Strings -/

def hexValue? (b : UInt8) : Option Nat :=
  if 0x30 ≤ b ∧ b ≤ 0x39 then some (b.toNat - 0x30)
  else if 0x41 ≤ b ∧ b ≤ 0x46 then some (b.toNat - 0x41 + 10)
  else if 0x61 ≤ b ∧ b ≤ 0x66 then some (b.toNat - 0x61 + 10)
  else none

/-- Four hexadecimal digits. -/
def readHex : List UInt8 → Except Fault (Nat × List UInt8)
  | a :: b :: c :: d :: bs =>
    match hexValue? a, hexValue? b, hexValue? c, hexValue? d with
    | some a, some b, some c, some d => .ok (((a * 16 + b) * 16 + c) * 16 + d, bs)
    | _, _, _, _ => .error .malformed
  | _ => .error .truncated

/-- The second half of a surrogate pair, which has to follow the first at once. -/
def readLowSurrogate : List UInt8 → Except Fault (Nat × List UInt8)
  | backslash :: letterU :: bs => do
    let (n, bs) ← readHex bs
    if 0xDC00 ≤ n ∧ n ≤ 0xDFFF then .ok (n, bs) else .error .malformed
  | [] => .error .truncated
  | [backslash] => .error .truncated
  | _ => .error .malformed

/-- The bytes of an escaped character, read after the backslash. -/
def readEscape : List UInt8 → Except Fault (List UInt8 × List UInt8)
  | [] => .error .truncated
  | letterU :: bs => do
    let (n, bs) ← readHex bs
    if 0xDC00 ≤ n ∧ n ≤ 0xDFFF then .error .malformed
    else if 0xD800 ≤ n ∧ n ≤ 0xDBFF then
      let (m, bs) ← readLowSurrogate bs
      .ok (String.utf8EncodeChar (Char.ofNat (0x10000 + (n - 0xD800) * 0x400 + (m - 0xDC00))), bs)
    else .ok (String.utf8EncodeChar (Char.ofNat n), bs)
  | b :: bs =>
    if b = quote ∨ b = backslash ∨ b = 0x2F then .ok ([b], bs)
    else if b = 0x62 then .ok ([0x08], bs)
    else if b = 0x66 then .ok ([0x0C], bs)
    else if b = 0x6E then .ok ([0x0A], bs)
    else if b = 0x72 then .ok ([0x0D], bs)
    else if b = 0x74 then .ok ([0x09], bs)
    else .error .malformed

theorem length_of_readHex {bs rest : List UInt8} {n : Nat} (h : readHex bs = .ok (n, rest)) :
    rest.length < bs.length := by
  unfold readHex at h
  split at h
  · split at h
    · simp only [Except.ok.injEq, Prod.mk.injEq] at h
      simp [← h.2]
      omega
    · simp at h
  · simp at h

theorem length_of_readLowSurrogate {bs rest : List UInt8} {n : Nat}
    (h : readLowSurrogate bs = .ok (n, rest)) : rest.length < bs.length := by
  unfold readLowSurrogate at h
  split at h
  · rename_i tail
    cases hx : readHex tail with
    | error e => simp [hx, bind, Except.bind] at h
    | ok p =>
      obtain ⟨m, r⟩ := p
      have := length_of_readHex hx
      simp only [hx, bind, Except.bind] at h
      split at h
      · simp only [Except.ok.injEq, Prod.mk.injEq] at h
        simp [← h.2]
        omega
      · simp at h
  all_goals simp at h

theorem length_of_readEscape {bs rest out : List UInt8} (h : readEscape bs = .ok (out, rest)) :
    rest.length < bs.length := by
  unfold readEscape at h
  split at h
  · simp at h
  · rename_i tail
    cases hx : readHex tail with
    | error e => simp [hx, bind, Except.bind] at h
    | ok p =>
      obtain ⟨n, r⟩ := p
      have hr := length_of_readHex hx
      simp only [hx, bind, Except.bind] at h
      split at h
      · simp at h
      · split at h
        · cases hl : readLowSurrogate r with
          | error e => simp [hl] at h
          | ok q =>
            obtain ⟨m, r'⟩ := q
            have := length_of_readLowSurrogate hl
            simp only [hl, Except.ok.injEq, Prod.mk.injEq] at h
            simp [← h.2]
            omega
        · simp only [Except.ok.injEq, Prod.mk.injEq] at h
          simp [← h.2]
          omega
  · repeat' split at h
    all_goals first
      | (simp only [Except.ok.injEq, Prod.mk.injEq] at h; simp [← h.2])
      | simp at h

/-- The bytes of a string, read after its opening quote up to its closing one. -/
def readStringBytes : List UInt8 → Except Fault (List UInt8 × List UInt8)
  | [] => .error .truncated
  | b :: bs =>
    if b = quote then .ok ([], bs)
    else if b = backslash then
      match h : readEscape bs with
      | .error f => .error f
      | .ok (out, rest) => do
        have : rest.length < bs.length := length_of_readEscape h
        let (more, rest) ← readStringBytes rest
        .ok (out ++ more, rest)
    else if b < 0x20 then .error .malformed
    else do
      let (more, rest) ← readStringBytes bs
      .ok (b :: more, rest)
termination_by bs => bs.length

/-- A string, read after its opening quote. Its bytes have to be UTF-8, which is looked at once it
is closed. -/
def readString (bs : List UInt8) : Except Fault (String × List UInt8) := do
  let (bytes, rest) ← readStringBytes bs
  match Utf8.decode? bytes with
  | some cs => .ok (String.ofList cs, rest)
  | none => .error .malformed

/-! ### Numbers -/

def isDigit (b : UInt8) : Bool := 0x30 ≤ b && b ≤ 0x39

def digit (b : UInt8) : Nat := b.toNat - 0x30

/-- Significands stay below `2 ^ 64`. -/
def significandLimit : Nat := 0xFFFFFFFFFFFFFFFF

/-- Takes digits into a significand up to the first one that does not fit; counts those taken. -/
def takeDigits (s : Nat) : List UInt8 → Nat × Nat
  | [] => (s, 0)
  | b :: bs =>
    if s * 10 + digit b ≤ significandLimit then
      let (s', taken) := takeDigits (s * 10 + digit b) bs
      (s', taken + 1)
    else (s, 0)

/-- Divides by `10 ^ e`, by `10 ^ 308` at a time. -/
def scaleDown (x : Binary64) (e : Nat) : Binary64 :=
  if e ≤ 308 then x.div (.ofNat (Nat.pow 10 e))
  else if x.mant = 0 then x
  else scaleDown (x.div (.ofNat (Nat.pow 10 308))) (e - 308)
termination_by e

/-- The float with a significand and a decimal exponent; none if 64 bits cannot hold it. It is
rounded once as a significand and once more for every scaling. -/
def scaled? (s : Nat) (e : Int) : Option Binary64 :=
  let x := Binary64.ofNat s
  if e < 0 then some (scaleDown x e.natAbs)
  else if e ≤ 308 then
    let y := x.mul (.ofNat (Nat.pow 10 e.natAbs))
    if y.overflows then none else some y
  else if x.mant = 0 then some x
  else none

def floatTree (negative : Bool) (s : Nat) (e : Int) (rest : List UInt8) :
    Except Fault (Tree × List UInt8) :=
  match scaled? s e with
  | some x => .ok (.float negative x, rest)
  | none => .error .malformed

/-- The exponent of a number, read after its `e`. -/
def readExponent (bs : List UInt8) : Except Fault (Int × List UInt8) :=
  let (negative, bs) :=
    match bs with
    | plus :: bs => (false, bs)
    | minus :: bs => (true, bs)
    | bs => (false, bs)
  let ds := bs.takeWhile isDigit
  let rest := bs.dropWhile isDigit
  if ds.isEmpty then .error (faultAt rest)
  else
    let n : Int := ds.foldl (fun n d => n * 10 + digit d) 0
    .ok (if negative then -n else n, rest)

/-- What follows the digits of a number that is not an integer: an exponent, or nothing. -/
def finishFloat (negative : Bool) (s : Nat) (e : Int) (bs : List UInt8) :
    Except Fault (Tree × List UInt8) :=
  match bs with
  | letterE :: rest | capitalE :: rest => do
    let (n, rest) ← readExponent rest
    floatTree negative s (e + n) rest
  | _ => floatTree negative s e bs

/-- The digits of a number, its fraction and its exponent. Digits that no longer fit the significand
count as zeros before the point and are dropped after it. An integer that 64 bits hold stays one;
minus zero is a float. -/
def readMagnitude (negative : Bool) (bs : List UInt8) : Except Fault (Tree × List UInt8) :=
  let ds := bs.takeWhile isDigit
  let rest := bs.dropWhile isDigit
  if ds.isEmpty then .error (faultAt rest)
  else if ds.head? = some 0x30 ∧ ds.length > 1 then .error .malformed
  else
    let (s, taken) := takeDigits 0 ds
    let dropped := ds.length - taken
    match rest with
    | point :: rest =>
      let fs := rest.takeWhile isDigit
      let rest := rest.dropWhile isDigit
      if fs.isEmpty then .error (faultAt rest)
      else
        let (s, places) := takeDigits s fs
        finishFloat negative s ((dropped : Int) - places) rest
    | letterE :: _ | capitalE :: _ => finishFloat negative s dropped rest
    | _ =>
      if dropped > 0 then floatTree negative s dropped rest
      else if !negative then .ok (.int s, rest)
      else if 0 < s ∧ s ≤ 0x8000000000000000 then .ok (.int (-(s : Int)), rest)
      else floatTree true s 0 rest

def readNumber : List UInt8 → Except Fault (Tree × List UInt8)
  | minus :: bs => readMagnitude true bs
  | bs => readMagnitude false bs

/-! ### Literals -/

/-- The rest of a literal whose first letter has been seen. -/
def readLiteral (t : Tree) : List UInt8 → List UInt8 → Except Fault (Tree × List UInt8)
  | [], bs => .ok (t, bs)
  | _ :: _, [] => .error .truncated
  | x :: xs, b :: bs => if b = x then readLiteral t xs bs else .error .malformed

/-- A value that is no array and no object. -/
def readScalar : List UInt8 → Except Fault (Tree × List UInt8)
  | [] => .error .truncated
  | b :: bs =>
    if b = quote then do
      let (s, rest) ← readString bs
      .ok (.str s, rest)
    else if b = 0x6E then readLiteral .null [0x75, 0x6C, 0x6C] bs
    else if b = 0x74 then readLiteral (.bool true) [0x72, 0x75, 0x65] bs
    else if b = 0x66 then readLiteral (.bool false) [0x61, 0x6C, 0x73, 0x65] bs
    else if b = minus ∨ isDigit b then readNumber (b :: bs)
    else .error .malformed

end JobWatch.Json
