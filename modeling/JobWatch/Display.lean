import JobWatch.Report
import JobWatch.StopReason

/-!
The live display of one job, as a state machine.

A display takes signals until one of them ends it: an interrupt, the end of the feed, or a report
that lacks the job or shows it ended. From then on every signal is dropped, so the last frame stays.
A signal that changes what is shown marks the display for a redraw.
-/

namespace JobWatch

structure Display where
  jobId : String
  current : Snapshot := {}
  quitting : Bool := false
  phase : Nat := 0
  dirty : Bool := true
  deriving Inhabited

/-- What a display is told. -/
inductive Signal where
  | interrupt
  | report (r : Report)
  /-- The indicator moves on, whatever the feed does. -/
  | spinner
  /-- The feed has ended and nobody is left to send a report. -/
  | feedClosed
  deriving Inhabited

namespace Display

/-- The positions of the running indicator. -/
def spinnerFrames : List String := ["∙∙∙", "●∙∙", "∙●∙", "∙∙●"]

/-- The reason for which a job's end stops a watch. -/
def reasonOf : Outcome → StopReason
  | .complete => .jobComplete
  | .failed => .jobFailed

def quit (d : Display) : Display := { d with quitting := true, dirty := true }

def present (d : Display) (s : Snapshot) : Display := { d with current := s, dirty := true }

def advance (d : Display) : Display :=
  { d with phase := (d.phase + 1) % spinnerFrames.length, dirty := true }

/-- A signal to a display that is not quitting; gives the reason if it ends the display. -/
def receive (d : Display) : Signal → Display × Option StopReason
  | .interrupt => (d.quit, some .interrupted)
  | .report r =>
    match r.lookup d.jobId with
    | .noAggregation => (d.quit, some .feedAbsent)
    | .jobMissing => (d.quit, some .jobVanished)
    | .found s =>
      match s.outcome with
      | some o => ((d.present s).quit, some (reasonOf o))
      | none => (d.present s, none)
  | .spinner => (d.advance, none)
  | .feedClosed => (d.quit, some .feedClosed)

/-- Any signal: a display that is quitting drops it. -/
def update (d : Display) (g : Signal) : Display × Option StopReason :=
  if d.quitting then (d, none) else d.receive g

/-- Takes the mark for a redraw. -/
def consumeDirty (d : Display) : Display × Bool := ({ d with dirty := false }, d.dirty)

end Display

end JobWatch
