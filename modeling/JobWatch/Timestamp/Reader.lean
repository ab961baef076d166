import JobWatch.Text.Blank
import JobWatch.Timestamp

/-!
Reading an instant from its text: a date, a `T` or a space, a time of day, an offset.

Fields may have fewer digits than they are written with, and blanks before them and around their
separators. A year with a sign may have any number of digits. Digits past the ninth of a fraction
are dropped. The offset is `Z`, `UTC` or a signed number of hours and minutes below a day.
-/

namespace JobWatch.Timestamp

def skipBlanks (cs : List Char) : List Char := cs.dropWhile Text.isBlank

def digitValue (c : Char) : Nat := c.toNat - '0'.toNat

def numberOf (ds : List Char) : Nat := ds.foldl (fun n d => n * 10 + digitValue d) 0

/-- A number of one to `most` digits. -/
def readNumber (most : Nat) (cs : List Char) : Option (Nat × List Char) :=
  let ds := (cs.take most).takeWhile Char.isDigit
  if ds.isEmpty then none else some (numberOf ds, cs.drop ds.length)

/-- A field of one or two digits, not above `max`. -/
def readField (max : Nat) (cs : List Char) : Option (Nat × List Char) := do
  let (n, cs) ← readNumber 2 (skipBlanks cs)
  if n ≤ max then some (n, cs) else none

/-- A separator, after blanks. -/
def readMark (mark : Char) (cs : List Char) : Option (List Char) :=
  match skipBlanks cs with
  | c :: cs => if c = mark then some cs else none
  | [] => none

def readYear (cs : List Char) : Option (Int × List Char) :=
  match skipBlanks cs with
  | '-' :: cs => (readNumber cs.length cs).map fun (n, cs) => (-(n : Int), cs)
  | '+' :: cs => (readNumber cs.length cs).map fun (n, cs) => ((n : Int), cs)
  | cs => (readNumber 4 cs).map fun (n, cs) => ((n : Int), cs)

/-- The nanoseconds of a fraction, if a point follows. -/
def readFraction : List Char → Option (Nat × List Char)
  | '.' :: cs => do
    let (n, rest) ← readNumber 9 cs
    some (n * Nat.pow 10 (9 - (cs.length - rest.length)), rest.dropWhile Char.isDigit)
  | cs => some (0, cs)

/-- Two digits of an offset. -/
def readPair : List Char → Option (Nat × List Char)
  | a :: b :: cs => if a.isDigit ∧ b.isDigit then some (numberOf [a, b], cs) else none
  | _ => none

/-- The seconds by which local time is ahead. -/
def readOffset (cs : List Char) : Option (Int × List Char) :=
  let signed (sign : Int) (cs : List Char) : Option (Int × List Char) := do
    let (hours, cs) ← readPair cs
    let (minutes, cs) ← readPair (cs.dropWhile fun c => c = ':' ∨ Text.isBlank c)
    if hours < 24 ∧ minutes < 60 then some (sign * (hours * 3600 + minutes * 60), cs) else none
  match cs with
  | 'Z' :: cs | 'z' :: cs => some (0, cs)
  | '+' :: cs => signed 1 cs
  | '-' :: cs | '−' :: cs => signed (-1) cs
  | u :: t :: c :: cs =>
    if u.toUpper = 'U' ∧ t.toUpper = 'T' ∧ c.toUpper = 'C' then some (0, cs) else none
  | _ => none

/-- The years an instant may lie in. -/
def yearInRange (y : Int) : Bool := -262143 ≤ y && y ≤ 262142

/-- The instant of a valid date and a time of day, `offset` seconds ahead of universal time. -/
def ofLocal? (date : Calendar.Date) (hour minute second nanos : Nat) (offset : Int) :
    Option Timestamp :=
  let clock := hour * 3600 + minute * 60 + (if second = 60 then 59 else second)
  let seconds := date.toDays * 86400 + clock - offset
  let t : Timestamp := ⟨seconds, if second = 60 then nanos + 1000000000 else nanos⟩
  let inRange := yearInRange date.year && yearInRange (Calendar.Date.ofDays t.day).year
  if date.isValid ∧ inRange then some t else none

def ofChars? (cs : List Char) : Option Timestamp := do
  let (year, cs) ← readYear cs
  let cs ← readMark '-' cs
  let (month, cs) ← readField 12 cs
  let cs ← readMark '-' cs
  let (day, cs) ← readField 31 cs
  let cs ← match cs with
    | 'T' :: cs | 't' :: cs | ' ' :: cs => some cs
    | _ => none
  let (hour, cs) ← readField 23 cs
  let cs ← readMark ':' cs
  let (minute, cs) ← readField 59 cs
  let cs ← readMark ':' cs
  let (second, cs) ← readField 60 cs
  let (nanos, cs) ← readFraction cs
  let (offset, cs) ← readOffset (skipBlanks cs)
  if (skipBlanks cs).isEmpty then ofLocal? ⟨year, month, day⟩ hour minute second nanos offset
  else none

def ofText? (s : String) : Option Timestamp := ofChars? s.toList

end JobWatch.Timestamp
