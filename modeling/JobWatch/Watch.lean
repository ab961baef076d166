import JobWatch.Display
import JobWatch.Monitor
import JobWatch.Output
import JobWatch.Report.Wire

/-!
Watching one job on the feed.

Every report that is delivered is judged: it shows the job running, the job ended, no such job, or
no jobs at all. A snapshot is stored first, then the report is routed, to the records or to the
display, and at last the watch stops if the job has ended or is gone. After that it drops what is
delivered.
-/

namespace JobWatch

/-- What a report means for the watch. -/
inductive Tick where
  | noAggregation
  | jobMissing
  | snapshot (outcome : Option Outcome)
  deriving Repr, DecidableEq

namespace Tick

def ofSighting : Sighting → Tick
  | .noAggregation => .noAggregation
  | .jobMissing => .jobMissing
  | .found s => .snapshot s.outcome

/-- The reason to stop, if the tick is one. -/
def stop? : Tick → Option StopReason
  | .noAggregation => some .feedAbsent
  | .jobMissing => some .jobVanished
  | .snapshot (some .complete) => some .jobComplete
  | .snapshot (some .failed) => some .jobFailed
  | .snapshot none => none

def isSnapshot : Tick → Bool
  | .snapshot _ => true
  | _ => false

end Tick

/-- Where reports go. -/
inductive Route where
  /-- Snapshots are written as records, one line each. -/
  | records (out : Output)
  /-- Every report goes into the queue of the display, as long as there is one. -/
  | display (queue : List Signal) (isOpen : Bool)
  deriving Inhabited

namespace Route

/-- The display goes away, with what is still in its queue. -/
def leave : Route → Route
  | .display _ _ => .display [] false
  | .records out => .records out

/-- The signals that wait for the display. -/
def queue : Route → List Signal
  | .display queue _ => queue
  | .records _ => []

def output : Route → Option Output
  | .records out => some out
  | .display _ _ => none

/-- The records that were written. -/
def written (r : Route) : String := r.output.elim "" (·.written)

end Route

structure Watch where
  monitor : Monitor
  route : Route
  deriving Inhabited

namespace Watch

def isCancelled (w : Watch) : Bool := w.monitor.isCancelled

def cancel (w : Watch) (r : StopReason) : Watch := { w with monitor := w.monitor.cancel r }

def note (w : Watch) (level : Journal.Level) (source : Journal.Source) (message : String) : Watch :=
  { w with monitor := w.monitor.note level source message }

/-- Writes the record of a report. A failure is noted and changes nothing else. -/
def emit (w : Watch) (r : Report) (out : Output) : Watch :=
  match Output.send [r.text, "\n"] out with
  | (out, none) => { w with route := .records out }
  | (out, some e) =>
    { w with route := .records out }.note .error .emitter
      ("Failed to write metrics record: " ++ e.message)

/-- Passes a report on. Records are written of snapshots only, and not after a cancel; a display
that is gone stops the watch. -/
def send (w : Watch) (r : Report) (t : Tick) : Watch :=
  match w.route with
  | .records out => if w.isCancelled then w else if t.isSnapshot then w.emit r out else w
  | .display queue true => { w with route := .display (queue ++ [.report r]) true }
  | .display _ false =>
    (w.note .debug .subscriber "display queue closed; stopping the feed").cancel .shutdown

/-- Stores the snapshot of a report. -/
def keep (w : Watch) : Sighting → Watch
  | .found s => { w with monitor := w.monitor.store s }
  | _ => w

/-- Stops if the tick is a reason to. -/
def conclude (w : Watch) (t : Tick) : Watch :=
  match t.stop? with
  | some r => w.cancel r
  | none => w

/-- Takes one report. -/
def deliver (w : Watch) (r : Report) : Watch :=
  if w.isCancelled then w
  else
    let seen := r.lookup w.monitor.jobId
    let tick := Tick.ofSighting seen
    ((w.keep seen).send r tick).conclude tick

/-- The end of the feed. One that the service closed stops the watch; a failure counts only if
nothing stopped it before. -/
def finish (w : Watch) (ending : Except AdminError Unit) : Watch × Except MonitorError Unit :=
  match ending with
  | .ok () =>
    ((w.note .info .subscriber
      ("metrics feed for job " ++ w.monitor.jobId ++ " closed by server")).cancel .feedClosed,
      .ok ())
  | .error e =>
    if e.isCancelled ∨ w.isCancelled then
      (w.note .debug .subscriber
        ("metrics feed for job " ++ w.monitor.jobId ++ " stopped: " ++ e.text), .ok ())
    else (w, .error ⟨.subscribe, w.monitor.target, e⟩)

end Watch

end JobWatch
