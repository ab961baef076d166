import JobWatch.Json.Token

/-!
Passing over a JSON value that nobody reads.

The grammar is that of the reader, but what a value means is not looked at: strings need not be
UTF-8 and escaped surrogates not be paired, numbers may be of any size, and values may nest to any
depth.
-/

namespace JobWatch.Json

/-- What is behind a string whose opening quote has been seen. -/
def skipString : List UInt8 → Option (List UInt8)
  | [] => none
  | quote :: bs => some bs
  | backslash :: letterU :: a :: b :: c :: d :: bs =>
    if [a, b, c, d].all (hexValue? · |>.isSome) then skipString bs else none
  | backslash :: b :: bs =>
    if [quote, backslash, 0x2F, 0x62, 0x66, 0x6E, 0x72, 0x74].contains b then skipString bs
    else none
  | b :: bs => if b < 0x20 then none else skipString bs

/-- What is behind a run of digits, at least one. -/
def skipDigits (bs : List UInt8) : Option (List UInt8) :=
  match bs with
  | b :: _ => if isDigit b then some (bs.dropWhile isDigit) else none
  | [] => none

def skipExponent : List UInt8 → Option (List UInt8)
  | letterE :: bs | capitalE :: bs =>
    match bs with
    | plus :: bs => skipDigits bs
    | minus :: bs => skipDigits bs
    | bs => skipDigits bs
  | bs => some bs

def skipFraction : List UInt8 → Option (List UInt8)
  | point :: bs => skipDigits bs
  | bs => some bs

/-- What is behind a number; it has no zero in front of another digit. -/
def skipNumber (bs : List UInt8) : Option (List UInt8) := do
  let bs := if bs.head? = some minus then bs.drop 1 else bs
  let rest ← skipDigits bs
  if bs.head? = some 0x30 ∧ bs.length > rest.length + 1 then none
  else
    let rest ← skipFraction rest
    skipExponent rest

def skipLiteral : List UInt8 → List UInt8 → Option (List UInt8)
  | [], bs => some bs
  | x :: xs, b :: bs => if b = x then skipLiteral xs bs else none
  | _ :: _, [] => none

/-- What is behind the items of an array. `fuel` bounds their number. -/
def skipItems (element : List UInt8 → Option (List UInt8)) : Nat → List UInt8 → Option (List UInt8)
  | 0, _ => none
  | fuel + 1, bs => do
    match skipBlanks (← element bs) with
    | closeBracket :: rest => some rest
    | comma :: rest => skipItems element fuel rest
    | _ => none

/-- What is behind the members of an object. `fuel` bounds their number. -/
def skipMembers (element : List UInt8 → Option (List UInt8)) :
    Nat → List UInt8 → Option (List UInt8)
  | 0, _ => none
  | fuel + 1, bs => do
    match skipBlanks bs with
    | quote :: rest =>
      match skipBlanks (← skipString rest) with
      | colon :: rest =>
        match skipBlanks (← element rest) with
        | closeBrace :: rest => some rest
        | comma :: rest => skipMembers element fuel rest
        | _ => none
      | _ => none
    | _ => none

/-- What is behind a value. `fuel` bounds the depth and the length of its parts; the number of bytes
is enough. -/
def skipValue : Nat → List UInt8 → Option (List UInt8)
  | 0, _ => none
  | fuel + 1, bs =>
    match skipBlanks bs with
    | [] => none
    | b :: rest =>
      if b = openBracket then
        match skipBlanks rest with
        | closeBracket :: rest => some rest
        | rest => skipItems (skipValue fuel) (rest.length + 1) rest
      else if b = openBrace then
        match skipBlanks rest with
        | closeBrace :: rest => some rest
        | rest => skipMembers (skipValue fuel) (rest.length + 1) rest
      else if b = quote then skipString rest
      else if b = 0x6E then skipLiteral [0x75, 0x6C, 0x6C] rest
      else if b = 0x74 then skipLiteral [0x72, 0x75, 0x65] rest
      else if b = 0x66 then skipLiteral [0x61, 0x6C, 0x73, 0x65] rest
      else skipNumber (b :: rest)

/-- What is behind a value, if one is there. -/
def skip (bs : List UInt8) : Option (List UInt8) := skipValue (bs.length + 1) bs

end JobWatch.Json
