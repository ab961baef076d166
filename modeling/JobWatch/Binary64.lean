/-!
Magnitudes of 64-bit binary floating-point numbers, in exact arithmetic.

A magnitude is `mant * 2 ^ exp` with `mant < 2 ^ 53`. It is normalised: `mant` has 53 bits, or `exp`
is the least exponent `-1074`. Every operation computes its exact quotient of natural numbers and
rounds once, to the nearest magnitude, ties to the even `mant`. Exponents have no upper end;
`overflows` tells the magnitudes that 64 bits cannot hold.
-/

namespace JobWatch

structure Binary64 where
  mant : Nat
  exp : Int
  deriving Repr, DecidableEq, Inhabited

/-- The integer nearest to `num / den`, a tie going to the even one. -/
def roundHalfEven (num den : Nat) : Nat :=
  let q := num / den
  let r := num % den
  if 2 * r < den ∨ (2 * r = den ∧ q % 2 = 0) then q else q + 1

namespace Binary64

/-- The first of 53 bits, `2 ^ 52`. -/
def leadingBit : Nat := 0x10000000000000

/-- The quotient `num / den` divided by `2 ^ e`, as a quotient. -/
def inUnits (num den : Nat) (e : Int) : Nat × Nat :=
  if e < 0 then (num * Nat.pow 2 e.natAbs, den) else (num, den * Nat.pow 2 e.natAbs)

/-- The exponent of the last binary place kept for `num / den`: 53 bits in all, but no place below
`2 ^ -1074`. -/
def lastPlace (num den : Nat) : Int :=
  let k : Int := (num.log2 : Int) - (den.log2 : Int)
  let (n, d) := inUnits num den k
  max ((if n < d then k - 1 else k) - 52) (-1074)

def zero : Binary64 := ⟨0, -1074⟩

/-- The magnitude nearest to `num / den`. -/
def ofRatio (num den : Nat) : Binary64 :=
  if num = 0 then zero
  else
    let e := lastPlace num den
    let (n, d) := inUnits num den e
    let m := roundHalfEven n d
    if m = 2 * leadingBit then ⟨leadingBit, e + 1⟩ else ⟨m, e⟩

def ofNat (n : Nat) : Binary64 := ofRatio n 1

def num (x : Binary64) : Nat := if x.exp < 0 then x.mant else x.mant * Nat.pow 2 x.exp.natAbs

def den (x : Binary64) : Nat := if x.exp < 0 then Nat.pow 2 x.exp.natAbs else 1

def add (x y : Binary64) : Binary64 := ofRatio (x.num * y.den + y.num * x.den) (x.den * y.den)

def mul (x y : Binary64) : Binary64 := ofRatio (x.num * y.num) (x.den * y.den)

def div (x y : Binary64) : Binary64 := ofRatio (x.num * y.den) (x.den * y.num)

/-- The largest integer that is not above the magnitude. -/
def floor (x : Binary64) : Nat := x.num / x.den

def lt (x y : Binary64) : Bool := x.num * y.den < y.num * x.den

/-- Above every finite 64-bit magnitude. -/
def overflows (x : Binary64) : Bool := x.exp > 971

/-- The 63 bits below the sign bit. What overflows gives the bits of infinity. -/
def toBits (x : Binary64) : Nat :=
  if x.overflows then 0x7FF * leadingBit
  else if x.mant < leadingBit then x.mant
  else (x.exp + 1075).toNat * leadingBit + (x.mant - leadingBit)

end Binary64

end JobWatch
