import JobWatch.Watch

/-!
A feed that is played from a script: reports in order, cancels from outside at given places, and an
end. It stands in for the service where only the watch matters.
-/

namespace JobWatch.Feed

/-- How a scripted feed ends. -/
inductive Ending where
  | close
  | fail (e : AdminError)
  /-- Nothing more comes until the watch is cancelled from outside. -/
  | hang (r : StopReason)
  deriving Repr, DecidableEq

structure Script where
  reports : List Report
  /-- Cancels that come before the report of an index. -/
  interruptions : List (Nat × StopReason) := []
  /-- Whether the feed ends when it finds the watch cancelled. -/
  heedsCancel : Bool := true
  ending : Ending := .close
  deriving Inhabited

namespace Script

/-- The cancels before one report. -/
def interrupt (s : Script) (i : Nat) (w : Watch) : Watch :=
  (s.interruptions.filter (·.1 = i)).foldl (fun w p => w.cancel p.2) w

/-- Plays the reports from an index on; gives how many were delivered, and how the feed ended. -/
def playFrom (s : Script) (i : Nat) : List Report → Watch → (Watch × Nat) × Except AdminError Unit
  | [], w =>
    match s.ending with
    | .close => ((w, i), .ok ())
    | .fail e => ((w, i), .error e)
    | .hang r => ((w.cancel r, i), .error .operationCancelled)
  | r :: rs, w =>
    let w := s.interrupt i w
    if s.heedsCancel ∧ w.isCancelled then ((w, i), .error .operationCancelled)
    else s.playFrom (i + 1) rs (w.deliver r)

/-- Plays the script to a watch. -/
def play (s : Script) (w : Watch) : (Watch × Nat) × Except AdminError Unit :=
  s.playFrom 0 s.reports w

/-- Plays the script to a watch and ends the watch as its feed ended. -/
def watch (s : Script) (w : Watch) : Watch × Except MonitorError Unit :=
  let ((w, _), ending) := s.play w
  w.finish ending

/-- How many reports a watch is given. -/
def delivered (s : Script) (w : Watch) : Nat := (s.play w).1.2

end Script

end JobWatch.Feed
