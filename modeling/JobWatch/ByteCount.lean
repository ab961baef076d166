import JobWatch.Binary64.Decimal

/-!
Byte counts with binary units: `512 B`, `1.5 KiB`, `10 MiB`.

The unit is the largest power of 1024 that the count reaches. The count in that unit is rounded to
tenths, halves up; below ten it keeps the tenth, otherwise it is rounded to a whole number, halves
to even. The scaling is done on binary magnitudes, as the rates of the table are.
-/

namespace JobWatch.ByteCount

def suffixes : List String := ["B", "KiB", "MiB", "GiB", "TiB", "PiB", "EiB"]

/-- The power of 1024 that a count reaches, at most `limit`. -/
def unitIndex : Nat → Nat → Nat
  | 0, _ => 0
  | limit + 1, n => if n < 1024 then 0 else unitIndex limit (n / 1024) + 1

/-- The tenths of a unit in a count, halves up, divided by ten. -/
def tenths (bytes unit : Nat) : Binary64 :=
  let scaled := ((Binary64.ofNat bytes).div (.ofNat unit)).mul (.ofNat 10)
  (Binary64.ofNat (scaled.add (.ofRatio 1 2)).floor).div (.ofNat 10)

def text (bytes : Nat) : String :=
  if bytes < 10 then toString bytes ++ " B"
  else
    let i := unitIndex 6 bytes
    let value := tenths bytes (Nat.pow 1024 i)
    let places := if value.lt (.ofNat 10) then 1 else 0
    String.ofList (value.fixed places) ++ " " ++ suffixes.getD i ""

end JobWatch.ByteCount
