import JobWatch.Binary64.Decimal

/-!
Time spans and their compact text: `0s`, `250ms`, `42s`, `1m30.5s`, `2h0m0s`.

A span is exact to the nanosecond. What is counted for its text is the nanoseconds where 64 bits
hold them, and whole milliseconds, rounded toward zero, beyond that.
-/

namespace JobWatch

structure Span where
  nanos : Int
  deriving Repr, DecidableEq

namespace Span

/-- Whether 64 bits hold the nanoseconds, one of them for the sign. -/
def fitsNanos (s : Span) : Bool := -0x8000000000000000 ≤ s.nanos && s.nanos < 0x8000000000000000

/-- Whole milliseconds, rounded toward zero. -/
def millis (s : Span) : Int := s.nanos.tdiv 1000000

/-- `secs` seconds and `nanos` nanoseconds, if the rest is below a second and the span is within
`2 ^ 63 - 1` milliseconds of zero. -/
def ofParts? (secs : Int) (nanos : Nat) : Option Span :=
  let total := secs * 1000000000 + nanos
  if nanos < 1000000000 ∧ total.natAbs ≤ 0x7FFFFFFFFFFFFFFF * 1000000 then some ⟨total⟩ else none

/-- The nanoseconds that the text counts. -/
def counted (s : Span) : Int := if s.fitsNanos then s.nanos else s.millis * 1000000

/-- The seconds that a count comes to, if they are above zero. What is negative has no magnitude. -/
def secondsOf? (count : Int) (perSecond : Nat) : Option Binary64 :=
  if count < 0 then none
  else
    let secs := (Binary64.ofNat count.toNat).div (.ofNat perSecond)
    if Binary64.zero.lt secs then some secs else none

/-- The seconds of a span as a magnitude, for rates, if they are above zero: those of its
nanoseconds where 64 bits hold them, else of its whole milliseconds. -/
def seconds? (s : Span) : Option Binary64 :=
  if s.fitsNanos then secondsOf? s.nanos 1000000000 else secondsOf? s.millis 1000

/-- `value / 10 ^ places`, without the zeros that end a fraction. -/
def fraction (places value : Nat) : List Char :=
  let whole := Nat.toDigits 10 (value / Nat.pow 10 places)
  let rest := value % Nat.pow 10 places
  if rest = 0 then whole
  else
    let ds := Binary64.paddedDigits places rest
    whole ++ '.' :: (ds.reverse.dropWhile (· == '0')).reverse

/-- The text of a positive number of nanoseconds: one unit below a second, else hours, minutes and
seconds from the largest that is not zero. -/
def magnitude (n : Nat) : List Char :=
  if n < 1000 then Nat.toDigits 10 n ++ ['n', 's']
  else if n < 1000000 then fraction 3 n ++ ['µ', 's']
  else if n < 1000000000 then fraction 6 n ++ ['m', 's']
  else
    let secs := n / 1000000000
    let hours := secs / 3600
    let minutes := secs % 3600 / 60
    let seconds := fraction 9 (secs % 60 * 1000000000 + n % 1000000000)
    (if hours > 0 then Nat.toDigits 10 hours ++ 'h' :: Nat.toDigits 10 minutes ++ ['m']
      else if minutes > 0 then Nat.toDigits 10 minutes ++ ['m']
      else []) ++ seconds ++ ['s']

def chars (s : Span) : List Char :=
  if s.counted = 0 then ['0', 's']
  else if s.counted < 0 then '-' :: magnitude s.counted.natAbs
  else magnitude s.counted.natAbs

def text (s : Span) : String := String.ofList s.chars

end Span

end JobWatch
