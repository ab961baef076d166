import JobWatch.Admin.Error
import JobWatch.Cancellation
import JobWatch.Journal
import JobWatch.Snapshot

/-!
What one run knows about its job: the target and the job watched, the latest snapshot, whether and
why the run stops, and the journal. The feed and the display share it.
-/

namespace JobWatch

structure Monitor where
  target : String
  jobId : String
  latest : Option Snapshot := none
  cancellation : Cancellation := {}
  journal : List Journal.Entry := []
  deriving Inhabited

namespace Monitor

def note (m : Monitor) (level : Journal.Level) (source : Journal.Source) (message : String) :
    Monitor :=
  { m with journal := m.journal ++ [⟨level, source, message⟩] }

def isCancelled (m : Monitor) : Bool := m.cancellation.tripped

def reason (m : Monitor) : Option StopReason := m.cancellation.reason

/-- Stops the run; only the first reason is kept and noted. -/
def cancel (m : Monitor) (r : StopReason) : Monitor :=
  let (c, first) := m.cancellation.cancel r
  let m := { m with cancellation := c }
  if first then m.note .debug .cancellation ("monitor cancelled: " ++ r.text) else m

/-- Replaces the latest snapshot. -/
def store (m : Monitor) (s : Snapshot) : Monitor := { m with latest := some s }

/-- Takes the run down; a reason that is there stays. -/
def shutdown (m : Monitor) : Monitor := m.cancel .shutdown

/-- The entry that closes a run: the job, why it stopped, and how the job stood. -/
def closingEntry (m : Monitor) : String :=
  let reason := match m.reason with
    | some r => "Some(" ++ r.name ++ ")"
    | none => "None"
  let state := match m.latest with
    | some s => ": complete=" ++ toString s.complete ++ " failed=" ++ toString s.failed
    | none => ""
  "Stopped watching job " ++ m.jobId ++ " (" ++ reason ++ ")" ++ state

/-- A display asks to stop, possibly several times over; gives the first reason of the requests. -/
def obey (m : Monitor) : List StopReason → Monitor × Option StopReason
  | [] => (m, none)
  | r :: rs =>
    let m := (m.note .info .effects ("Display quitting: " ++ r.text)).cancel r
    ((m.obey rs).1, some r)

end Monitor

end JobWatch
