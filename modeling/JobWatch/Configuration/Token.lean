import JobWatch.Json.Token
import JobWatch.Text.Name
import JobWatch.Text.Utf8

/-!
The parts of a configuration text: blanks and comments, names, strings and integers. Every reader
takes the front of the text and gives what is behind it, or nothing if the text is wrong.
-/

namespace JobWatch.Configuration

/-- A reader of the front of a text. -/
abbrev Reader (α : Type) := List Char → Option (α × List Char)

/-- The white space of patterns: the ASCII blanks and line ends, and six more characters. -/
def isBlank (c : Char) : Bool :=
  (9 ≤ c.toNat && c.toNat ≤ 13) ||
    [0x20, 0x85, 0x200E, 0x200F, 0x2028, 0x2029].contains c.toNat

/-- What is behind a block comment, `level` of which are open. Comments may lie in each other. -/
def skipBlock : Nat → List Char → Option (List Char)
  | 0, cs => some cs
  | _ + 1, [] => none
  | level + 1, '/' :: '*' :: cs => skipBlock (level + 2) cs
  | level + 1, '*' :: '/' :: cs => skipBlock level cs
  | level + 1, _ :: cs => skipBlock (level + 1) cs

/-- What is behind blanks and comments. `fuel` bounds the number of comments. -/
def skipComments : Nat → List Char → Option (List Char)
  | 0, _ => none
  | fuel + 1, cs =>
    match cs.dropWhile isBlank with
    | '/' :: '/' :: rest => skipComments fuel (rest.dropWhile (· ≠ '\n'))
    | '/' :: '*' :: rest => do skipComments fuel (← skipBlock 1 rest)
    | '/' :: _ => none
    | rest => some rest

/-- What is behind blanks and comments; a comment has to be closed. -/
def skip (cs : List Char) : Option (List Char) := skipComments (cs.length + 1) cs

/-- A character, if it comes next. -/
def take? (c : Char) : List Char → Option (List Char)
  | d :: cs => if d = c then some cs else none
  | [] => none

/-- A comma between two blanks, if there is one. -/
def comma (cs : List Char) : Option (Bool × List Char) := do
  let cs ← skip cs
  match take? ',' cs with
  | some cs => some (true, ← skip cs)
  | none => some (false, cs)

/-! ### Names -/

/-- A character inside a name. -/
def isNameChar (c : Char) : Bool := Text.continuesName c

def isNameStart (c : Char) : Bool := Text.beginsName c || c == '_'

/-- A character inside a raw name. -/
def isRawNameChar (c : Char) : Bool := isNameChar c || c == '.' || c == '+' || c == '-'

/-- Whether a string or a byte string starts here, which would otherwise look like a name. -/
def startsString (cs : List Char) : Bool :=
  ["\"", "r\"", "r#\"", "r##", "b\"", "b'", "br\"", "br#"].any fun s => s.toList.isPrefixOf cs

/-- A name, plain or raw. A plain name must not go on as a raw one could. -/
def name : Reader String := fun cs =>
  if startsString cs then none
  else
    match cs with
    | 'r' :: '#' :: rest =>
      let n := rest.takeWhile isRawNameChar
      if n.isEmpty then none else some (String.ofList n, rest.drop n.length)
    | c :: _ =>
      let n := cs.takeWhile isNameChar
      let rest := cs.drop n.length
      if !isNameStart c ∨ rest.head?.any isRawNameChar then none
      else some (String.ofList n, rest)
    | [] => none

/-- A fixed word, not followed by more of a name. -/
def word? (w : String) (cs : List Char) : Option (List Char) :=
  let rest := cs.drop w.length
  if w.toList.isPrefixOf cs ∧ !rest.head?.any isNameChar then some rest else none

/-! ### Strings -/

def hexDigit? (c : Char) : Option Nat := Json.hexValue? (UInt8.ofNat (min c.toNat 255))

/-- Two hexadecimal digits: a byte. -/
def hexByte : Reader UInt8
  | a :: b :: cs => do some (UInt8.ofNat ((← hexDigit? a) * 16 + (← hexDigit? b)), cs)
  | _ => none

/-- A character written as the bytes of its encoding, the first of which have been read. -/
def byteChar : Nat → List UInt8 → Reader Char
  | 0, _, _ => none
  | more + 1, bytes, cs =>
    match Utf8.decode? bytes with
    | some [c] => some (c, cs)
    | _ =>
      match cs with
      | '\\' :: 'x' :: cs => do
        let (b, cs) ← hexByte cs
        byteChar more (bytes ++ [b]) cs
      | _ => none

/-- A character by its number, in braces. -/
def numberedChar : Reader Char
  | '\x7b' :: cs => do
    let ds := (cs.take 6).takeWhile (· ≠ '\x7d')
    let n ← ds.foldlM (fun n d => (hexDigit? d).map (n * 16 + ·)) 0
    let cs ← take? '\x7d' (cs.drop ds.length)
    if ds.isEmpty ∨ !(n.isValidChar) then none else some (Char.ofNat n, cs)
  | _ => none

/-- An escaped character, read after the backslash. -/
def escape : Reader Char
  | '\'' :: cs => some ('\'', cs)
  | '"' :: cs => some ('"', cs)
  | '\\' :: cs => some ('\\', cs)
  | 'n' :: cs => some ('\n', cs)
  | 'r' :: cs => some ('\r', cs)
  | 't' :: cs => some ('\t', cs)
  | '0' :: cs => some ('\x00', cs)
  | 'x' :: cs => do
    let (b, cs) ← hexByte cs
    byteChar 4 [b] cs
  | 'u' :: cs => numberedChar cs
  | _ => none

/-- The characters of a string up to its closing quote. `fuel` bounds their number. -/
def quotedChars : Nat → Reader (List Char)
  | 0, _ => none
  | fuel + 1, cs =>
    match cs with
    | '"' :: cs => some ([], cs)
    | '\\' :: cs => do
      let (c, cs) ← escape cs
      let (more, cs) ← quotedChars fuel cs
      some (c :: more, cs)
    | c :: cs => do
      let (more, cs) ← quotedChars fuel cs
      some (c :: more, cs)
    | [] => none

/-- The characters up to a quote that is followed by as many hashes as opened the string. -/
def rawChars (ending : List Char) : Reader (List Char)
  | [] => none
  | c :: cs =>
    if ending.isPrefixOf (c :: cs) then some ([], (c :: cs).drop ending.length)
    else do
      let (more, cs) ← rawChars ending cs
      some (c :: more, cs)

/-- A string, plain or raw. -/
def string : Reader String
  | '"' :: cs => do
    let (s, cs) ← quotedChars (cs.length + 1) cs
    some (String.ofList s, cs)
  | 'r' :: cs => do
    let hashes := cs.takeWhile (· = '#')
    let cs ← take? '"' (cs.drop hashes.length)
    let (s, cs) ← rawChars ('"' :: hashes) cs
    some (String.ofList s, cs)
  | _ => none

/-! ### Integers -/

def isIntegerChar (c : Char) : Bool := (hexDigit? c).isSome || c == '_'

/-- The base that a number starts with. -/
def base : List Char → Nat × List Char
  | '0' :: 'b' :: cs => (2, cs)
  | '0' :: 'o' :: cs => (8, cs)
  | '0' :: 'x' :: cs => (16, cs)
  | cs => (10, cs)

/-- The digits of a number in its base; underscores between and behind them do not count. -/
def digits : Reader Nat := fun cs => do
  let (radix, cs) := base cs
  let ds := cs.takeWhile isIntegerChar
  if ds.isEmpty ∨ ds.head? = some '_' then none
  else
    let n ← (ds.filter (· ≠ '_')).foldlM
      (fun n d => do
        let v ← hexDigit? d
        if v < radix then some (n * radix + v) else none) 0
    some (n, cs.drop ds.length)

/-- The kinds of integers: with or without a sign, and the bits that hold one. -/
structure IntegerKind where
  signed : Bool
  bits : Nat
  deriving Repr, DecidableEq

/-- The kind that a number may name behind its digits. -/
def IntegerKind.name (k : IntegerKind) : String :=
  (if k.signed then "i" else "u") ++ toString k.bits

def IntegerKind.all : List IntegerKind :=
  [⟨true, 8⟩, ⟨true, 16⟩, ⟨true, 32⟩, ⟨true, 64⟩, ⟨false, 8⟩, ⟨false, 16⟩, ⟨false, 32⟩, ⟨false, 64⟩]

/-- Whether an integer of a kind can have a sign and a magnitude. -/
def IntegerKind.fits (k : IntegerKind) (negative : Bool) (n : Nat) : Bool :=
  if !k.signed then n < Nat.pow 2 k.bits && (!negative || n = 0)
  else if negative then n ≤ Nat.pow 2 (k.bits - 1)
  else n < Nat.pow 2 (k.bits - 1)

def sign : List Char → Bool × List Char
  | '+' :: cs => (false, cs)
  | '-' :: cs => (true, cs)
  | cs => (false, cs)

/-- The digits of an integer, which it may follow with the name of a kind. The kind named has to be
one of those allowed; without a name, the integer has to fit one of them. -/
def integer (allowed : List IntegerKind) : Reader Nat := fun cs => do
  let (negative, cs) := sign cs
  let front := cs.takeWhile isIntegerChar
  let behind := cs.drop front.length
  let named := IntegerKind.all.findSome? fun k => (word? k.name behind).map fun rest => (k, rest)
  match named with
  | some (k, rest) =>
    let (n, left) ← digits front
    if left.isEmpty ∧ k ∈ allowed ∧ k.fits negative n then some (n, rest) else none
  | none =>
    let (n, rest) ← digits cs
    if allowed.any (·.fits negative n) then some (n, rest) else none

/-- An integer of 64 bits without a sign. -/
def natural : Reader Nat := integer [⟨false, 64⟩]

end JobWatch.Configuration
