import JobWatch.Calendar
import JobWatch.Span

/-!
Instants in universal time, to the nanosecond, and their text.

An instant inside a 60th second keeps the second before it and has a billion nanoseconds more. Its
text shows second 60, and in a difference it lies one second after second 59.
-/

namespace JobWatch

structure Timestamp where
  seconds : Int
  nanos : Nat
  deriving Repr, DecidableEq

namespace Timestamp

/-- The start of 1970. -/
def epoch : Timestamp := ⟨0, 0⟩

instance : Inhabited Timestamp := ⟨epoch⟩

def day (t : Timestamp) : Int := t.seconds / 86400

def secondOfDay (t : Timestamp) : Int := t.seconds % 86400

def isExtraSecond (t : Timestamp) : Bool := t.nanos ≥ 1000000000

/-- The span from one instant to another. A 60th second is counted when the other time of day lies
past it. -/
def since (later earlier : Timestamp) : Span :=
  let a := later.secondOfDay
  let b := earlier.secondOfDay
  let extra : Int :=
    if a > b then (if earlier.isExtraSecond then 1 else 0)
    else if a < b then (if later.isExtraSecond then -1 else 0)
    else 0
  ⟨(later.seconds - earlier.seconds + extra) * 1000000000 + ((later.nanos : Int) - earlier.nanos)⟩

def twoDigits (n : Nat) : List Char := Binary64.paddedDigits 2 n

/-- Four digits from year 0 to 9999; outside, a sign and at least four digits. -/
def yearChars (y : Int) : List Char :=
  if 0 ≤ y ∧ y ≤ 9999 then Binary64.paddedDigits 4 y.natAbs
  else (if y < 0 then '-' else '+') :: Binary64.paddedDigits 4 y.natAbs

/-- A fraction of a second with 0, 3, 6 or 9 digits, the fewest that are exact. -/
def fractionChars (n : Nat) : List Char :=
  if n = 0 then []
  else if n % 1000000 = 0 then '.' :: Binary64.paddedDigits 3 (n / 1000000)
  else if n % 1000 = 0 then '.' :: Binary64.paddedDigits 6 (n / 1000)
  else '.' :: Binary64.paddedDigits 9 n

def chars (t : Timestamp) : List Char :=
  let date := Calendar.Date.ofDays t.day
  let clock := t.secondOfDay.toNat
  let second := clock % 60 + (if t.isExtraSecond then 1 else 0)
  yearChars date.year ++ '-' :: twoDigits date.month ++ '-' :: twoDigits date.day ++
    'T' :: twoDigits (clock / 3600) ++ ':' :: twoDigits (clock % 3600 / 60) ++
    ':' :: twoDigits second ++ fractionChars (t.nanos % 1000000000) ++ ['Z']

def text (t : Timestamp) : String := String.ofList t.chars

end Timestamp

end JobWatch
