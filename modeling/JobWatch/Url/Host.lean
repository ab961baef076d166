import JobWatch.Url.Percent

/-!
Hosts of URLs: names, and addresses of four or sixteen bytes.

A name whose last label is a number is an address of four bytes, with one to four parts, each in
decimal, octal or hexadecimal. An address of sixteen bytes stands in brackets and is written with
its longest run of zeros left out.
-/

namespace JobWatch.Url

/-- Why a text is no URL. -/
inductive UrlError where
  | relativeWithoutBase
  | emptyHost
  | invalidPort
  | invalidIpv4
  | invalidIpv6
  /-- A character that a name may not have. -/
  | invalidName
  /-- A character that a host of an unknown scheme may not have. -/
  | invalidHostCharacter
  deriving Repr, DecidableEq

def UrlError.text : UrlError → String
  | relativeWithoutBase => "relative URL without a base"
  | emptyHost => "empty host"
  | invalidPort => "invalid port number"
  | invalidIpv4 => "invalid IPv4 address"
  | invalidIpv6 => "invalid IPv6 address"
  | invalidName => "invalid international domain name"
  | invalidHostCharacter => "invalid domain character"

/-- The parts of a text between occurrences of a character. -/
def splitOn (sep : Char) : List Char → List (List Char)
  | [] => [[]]
  | c :: cs =>
    if c = sep then [] :: splitOn sep cs
    else
      match splitOn sep cs with
      | p :: ps => (c :: p) :: ps
      | [] => [[c]]

def digitOf? (radix : Nat) (c : Char) : Option Nat :=
  let n :=
    if c.isDigit then c.toNat - 48
    else if 'a' ≤ c ∧ c ≤ 'f' then c.toNat - 87
    else if 'A' ≤ c ∧ c ≤ 'F' then c.toNat - 55
    else 36
  if n < radix then some n else none

def numberIn? (radix : Nat) (cs : List Char) : Option Nat :=
  cs.foldlM (fun n c => (digitOf? radix c).map (n * radix + ·)) 0

/-- A part of an address of four bytes. -/
def ipv4Part? : List Char → Option Nat
  | [] => none
  | '0' :: 'x' :: cs | '0' :: 'X' :: cs => numberIn? 16 cs
  | '0' :: c :: cs => numberIn? 8 (c :: cs)
  | cs => numberIn? 10 cs

/-- The labels of a name; a point at its end adds none. -/
def labels (cs : List Char) : List (List Char) :=
  let ps := splitOn '.' cs
  if ps.length > 1 ∧ ps.getLast? = some [] then ps.dropLast else ps

def endsInNumber (cs : List Char) : Bool :=
  match (labels cs).getLast? with
  | none | some [] => false
  | some l => l.all Char.isDigit || (ipv4Part? l).isSome

/-- The value of an address: every part but the last is one byte, the last one fills the rest. -/
def ipv4Value? (cs : List Char) : Option Nat := do
  let parts ← (labels cs).mapM ipv4Part?
  let last ← parts.getLast?
  let front := parts.dropLast
  if parts.length ≤ 4 ∧ front.all (· < 256) ∧ last < Nat.pow 256 (4 - front.length) then
    some ((front.foldl (fun n p => n * 256 + p) 0) * Nat.pow 256 (4 - front.length) + last)
  else none

def ipv4Chars (n : Nat) : List Char :=
  ['.'].intercalate ([n / 16777216, n / 65536 % 256, n / 256 % 256, n % 256].map (Nat.toDigits 10))

/-- A byte in decimal, without zeros in front. -/
def decimalByte? (cs : List Char) : Option Nat :=
  match cs with
  | [] => none
  | c :: rest => do
    let n ← numberIn? 10 cs
    if (c = '0' ∧ !rest.isEmpty) ∨ n > 255 then none else some n

/-- The last part of an address of sixteen bytes may be four bytes in decimal. -/
def ipv6Tail? (cs : List Char) : Option (List Nat) := do
  match ← (splitOn '.' cs).mapM decimalByte? with
  | [a, b, c, d] => some [a * 256 + b, c * 256 + d]
  | _ => none

/-- Two bytes of an address, as one to four hexadecimal digits. -/
def ipv6Piece? (cs : List Char) : Option Nat :=
  if cs.isEmpty ∨ cs.length > 4 then none else numberIn? 16 cs

/-- Pieces between colons. -/
def ipv6Pieces? : List (List Char) → Option (List Nat)
  | [] => some []
  | [p] => if p.contains '.' then ipv6Tail? p else (ipv6Piece? p).map ([·])
  | p :: ps => do
    let n ← ipv6Piece? p
    let ns ← ipv6Pieces? ps
    some (n :: ns)

/-- The text before the first two colons in a row, and the text behind them. -/
def splitGap : List Char → Option (List Char × List Char)
  | ':' :: ':' :: cs => some ([], cs)
  | c :: cs => (splitGap cs).map fun (a, b) => (c :: a, b)
  | [] => none

/-- Pieces on one side of a gap, which may be none. -/
def ipv6Side? (cs : List Char) : Option (List Nat) :=
  if cs.isEmpty then some [] else ipv6Pieces? (splitOn ':' cs)

/-- The eight pieces of an address. A gap stands for at least one. -/
def ipv6? (cs : List Char) : Option (List Nat) := do
  match splitGap cs with
  | none =>
    let ns ← ipv6Pieces? (splitOn ':' cs)
    if ns.length = 8 then some ns else none
  | some (a, b) =>
    let left ← if a.contains '.' then none else ipv6Side? a
    let right ← ipv6Side? b
    let n := left.length + right.length
    if n ≤ 7 then some (left ++ List.replicate (8 - n) 0 ++ right) else none

/-- The start and the length of the longest run of zeros, the first of the longest. -/
def longestZeros : List Nat → Nat × Nat
  | [] => (0, 0)
  | n :: ns =>
    let run := ((n :: ns).takeWhile (· = 0)).length
    let (start, len) := longestZeros ns
    if run ≥ len ∧ run > 0 then (0, run) else (start + 1, len)

def hexPieces (ns : List Nat) : List Char := [':'].intercalate (ns.map (Nat.toDigits 16))

/-- A run of two zeros or more is left out, once. -/
def ipv6Chars (ns : List Nat) : List Char :=
  let (start, len) := longestZeros ns
  if len < 2 then hexPieces ns
  else hexPieces (ns.take start) ++ [':', ':'] ++ hexPieces (ns.drop (start + len))

/-- A character that a name may not have, once its encoding is undone. -/
def isForbiddenInName (c : Char) : Bool :=
  isControl c || c.toNat ≥ 0x80 ||
    [' ', '#', '%', '/', ':', '<', '>', '?', '@', '[', '\\', ']', '^', '|'].contains c

def bracketed? (cs : List Char) : Except UrlError (List Char) :=
  match cs.reverse with
  | ']' :: inner =>
    match ipv6? inner.reverse with
    | some ns => .ok ('[' :: ipv6Chars ns ++ [']'])
    | none => .error .invalidIpv6
  | _ => .error .invalidIpv6

/-- The normal form of a host. Names are decoded and written in lower case; only ASCII names are
known. -/
def normalHost (cs : List Char) : Except UrlError (List Char) :=
  match cs with
  | '[' :: rest => bracketed? rest
  | _ =>
    let name := (Utf8.decodeLossy (percentDecode (Utf8.encode cs))).map Char.toLower
    if name.any isForbiddenInName then .error .invalidName
    else if name.isEmpty then .error .emptyHost
    else if endsInNumber name then
      match ipv4Value? name with
      | some n => .ok (ipv4Chars n)
      | none => .error .invalidIpv4
    else .ok name

/-- A character that the host of an unknown scheme may not have. -/
def isForbiddenInHost (c : Char) : Bool :=
  [Char.ofNat 0, ' ', '#', '/', ':', '<', '>', '?', '@', '[', '\\', ']', '^', '|'].contains c

/-- Checks the host of an unknown scheme. -/
def checkHost (cs : List Char) : Except UrlError (List Char) :=
  match cs with
  | '[' :: rest => bracketed? rest
  | _ => if cs.any isForbiddenInHost then .error .invalidHostCharacter else .ok cs

end JobWatch.Url
