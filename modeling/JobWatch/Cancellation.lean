import JobWatch.StopReason

/-!
A stop signal that is given once.

Cancelling first records the reason, if none is recorded, and then trips the signal; so whoever sees
the signal tripped finds a reason. Only a signal that is tripped directly has none.
-/

namespace JobWatch

structure Cancellation where
  tripped : Bool := false
  reason : Option StopReason := none
  deriving Repr, DecidableEq, Inhabited

namespace Cancellation

/-- Keeps the reason if it is the first; tells whether it is. -/
def record (c : Cancellation) (r : StopReason) : Cancellation × Bool :=
  match c.reason with
  | none => ({ c with reason := some r }, true)
  | some _ => (c, false)

def trip (c : Cancellation) : Cancellation := { c with tripped := true }

/-- Stops for a reason; tells whether it is the first. -/
def cancel (c : Cancellation) (r : StopReason) : Cancellation × Bool :=
  let (c, first) := c.record r
  (c.trip, first)

end Cancellation

end JobWatch
