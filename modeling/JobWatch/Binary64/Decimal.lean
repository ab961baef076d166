import JobWatch.Binary64

/-!
Decimal texts of magnitudes: the fewest digits that read back, and a fixed number of places.

`shortest` walks the decimal grids of 1, 2, … 17 digits. On each it tests the two neighbours of the
magnitude, and takes the nearer one of those that lie in the interval of numbers rounding to it.
-/

namespace JobWatch.Binary64

/-- A decimal `digits * 10 ^ exponent`. -/
structure Decimal where
  digits : Nat
  exponent : Int
  deriving Repr, DecidableEq

/-- `10 ^ p` as a quotient. -/
def tenTo (p : Int) : Nat × Nat :=
  if p < 0 then (1, Nat.pow 10 p.natAbs) else (Nat.pow 10 p.natAbs, 1)

/-- The number of digits before the point of `num / den`, at most zero if it is below one: the `k`
with `10 ^ (k - 1) ≤ num / den < 10 ^ k`. -/
def integerDigits (num den : Nat) : Int :=
  let bits : Int := (num.log2 : Int) - (den.log2 : Int)
  let guess := (bits * 30103).fdiv 100000
  let below (k : Int) : Bool := let (p, q) := tenTo k; num * q < p * den
  if below (guess - 1) then guess - 1
  else if below guess then guess
  else if below (guess + 1) then guess + 1
  else guess + 2

/-- Whether `d * 10 ^ p` rounds to `x`. The interval reaches half a unit of the last place to both
sides, but a quarter below where the binary exponent drops; its ends belong to it when the mantissa
is even. -/
def readsBack (x : Binary64) (d : Nat) (p : Int) : Bool :=
  let (t, u) := tenTo p
  let (n, m) := inUnits (d * t) u (x.exp - 2)
  let low := 4 * x.mant - (if x.mant = leadingBit ∧ x.exp > -1074 then 1 else 2)
  let high := 4 * x.mant + 2
  if x.mant % 2 = 0 then low * m ≤ n && n ≤ high * m else low * m < n && n < high * m

/-- The nearer neighbour of `x` on the grid of `n` digits among those that read back. -/
def onGrid (x : Binary64) (n : Nat) : Option Decimal :=
  let p := integerDigits x.num x.den - n
  let (t, u) := tenTo p
  let a := x.num * u
  let b := x.den * t
  let d := a / b
  let r := a % b
  let up : Decimal := if d + 1 = Nat.pow 10 n then ⟨1, p + n⟩ else ⟨d + 1, p⟩
  match readsBack x d p, readsBack x (d + 1) p with
  | true, true => if 2 * r < b ∨ (2 * r = b ∧ d % 2 = 0) then some ⟨d, p⟩ else some up
  | true, false => some ⟨d, p⟩
  | false, true => some up
  | false, false => none

/-- The decimal of fewest digits that rounds to `x`, the nearest of them. -/
def shortest (x : Binary64) : Decimal :=
  if x.mant = 0 then ⟨0, 0⟩
  else ((List.range 17).findSome? fun n => onGrid x (n + 1)).getD ⟨x.mant, 0⟩

/-- The decimal digits of a number, padded with zeros on the left. -/
def paddedDigits (width n : Nat) : List Char :=
  let ds := Nat.toDigits 10 n
  List.replicate (width - ds.length) '0' ++ ds

/-- A decimal without an exponent; no point if it is an integer. -/
def Decimal.positional (x : Decimal) : List Char :=
  if x.exponent ≥ 0 then Nat.toDigits 10 (x.digits * Nat.pow 10 x.exponent.natAbs)
  else
    let places := x.exponent.natAbs
    let ds := paddedDigits (places + 1) x.digits
    ds.take (ds.length - places) ++ '.' :: ds.drop (ds.length - places)

/-- The magnitude with exactly `places` digits after the point, a tie going to the even digit. -/
def fixed (places : Nat) (x : Binary64) : List Char :=
  let n := roundHalfEven (x.num * Nat.pow 10 places) x.den
  if places = 0 then Nat.toDigits 10 n
  else
    let ds := paddedDigits (places + 1) n
    ds.take (ds.length - places) ++ '.' :: ds.drop (ds.length - places)

end JobWatch.Binary64
