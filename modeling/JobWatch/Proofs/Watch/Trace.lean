import JobWatch.Proofs.Cancellation.FirstReason
import JobWatch.Watch

/-!
The trace of a watch that writes records.

Whatever is done to a watch, it stops at the first cancel from outside, or at the first report that
shows the job ended or gone. Up to there, and including that report, every report that has the job
replaces the snapshot, and is written if the output works at that moment.
-/

namespace JobWatch

/-- The job, if a report has it. -/
def Sighting.job? : Sighting → Option Snapshot
  | .found s => some s
  | _ => none

/-- Why a report stops a watch: it shows no jobs, not the job, or the end of the job. -/
def Sighting.stop? : Sighting → Option StopReason
  | .noAggregation => some .feedAbsent
  | .jobMissing => some .jobVanished
  | .found s => if s.failed then some .jobFailed else if s.complete then some .jobComplete else none

namespace Watch

/-- What can be done to a watch that writes records. -/
inductive Action where
  | deliver (r : Report)
  | cancel (reason : StopReason)
  | breakOutput
  | repairOutput

/-- Changes the output, if there is one. -/
def onOutput (w : Watch) (f : Output → Output) : Watch :=
  match w.route with
  | .records out => { w with route := .records (f out) }
  | .display _ _ => w

def apply (w : Watch) : Action → Watch
  | .deliver r => w.deliver r
  | .cancel reason => w.cancel reason
  | .breakOutput => w.onOutput .close
  | .repairOutput => w.onOutput .reopen

def run (w : Watch) (as : List Action) : Watch := as.foldl apply w

/-- A watch before anything was done to it. -/
def fresh (target jobId : String) : Watch := ⟨{ target, jobId }, .records {}⟩

/-! ### What actions mean -/

namespace Action

/-- The job of a report that has it. -/
def job? (jobId : String) : Action → Option Snapshot
  | .deliver r => (r.lookup jobId).job?
  | _ => none

/-- The reason to stop, if an action is one. -/
def stop? (jobId : String) : Action → Option StopReason
  | .deliver r => (r.lookup jobId).stop?
  | .cancel reason => some reason
  | _ => none

/-- Whether the output works after an action. -/
def works (before : Bool) : Action → Bool
  | .breakOutput => false
  | .repairOutput => true
  | _ => before

/-- The record of a report that has the job. -/
def record (jobId : String) : Action → String
  | .deliver r => if (r.lookup jobId).job?.isSome then r.line else ""
  | _ => ""

/-- The actions up to the first that stops the watch, and that one. -/
def untilStop (jobId : String) : List Action → List Action
  | [] => []
  | a :: as => if (a.stop? jobId).isSome then [a] else a :: untilStop jobId as

/-- The reason of the first action that stops the watch. -/
def firstStop (jobId : String) (as : List Action) : Option StopReason :=
  as.findSome? (·.stop? jobId)

/-- The job of the last report that has it. -/
def lastJob (jobId : String) (as : List Action) : Option Snapshot :=
  as.reverse.findSome? (·.job? jobId)

/-- The records of the reports that have the job and meet a working output, in order. -/
def records (jobId : String) : Bool → List Action → String
  | _, [] => ""
  | working, a :: as =>
    (if working then a.record jobId else "") ++ records jobId (a.works working) as

end Action

open JobWatch.Watch.Action

/-! ### One action -/

/-- An output that was given this text, and works or not. -/
def outputWith (written : String) (working : Bool) : Output :=
  ⟨written, if working then .unlimited else .operations 0⟩

/-- A watch of a job that writes records: whether its output works, what was written, the snapshot,
and the reason it stopped for. -/
structure Stands (w : Watch) (jobId : String) (working : Bool) (written : String)
    (latest : Option Snapshot) (stop : Option StopReason) : Prop where
  jobId : w.monitor.jobId = jobId
  route : w.route = .records (outputWith written working)
  latest : w.monitor.latest = latest
  cancellation : w.monitor.cancellation = ⟨stop.isSome, stop⟩

variable {w : Watch} {jobId written : String} {working : Bool} {latest : Option Snapshot}
  {stop : Option StopReason}

lemma stands_fresh (target jobId : String) : (fresh target jobId).Stands jobId true "" none none :=
  ⟨rfl, rfl, rfl, rfl⟩

lemma Stands.isCancelled (h : w.Stands jobId working written latest stop) :
    w.isCancelled = stop.isSome := by
  rw [Watch.isCancelled, Monitor.isCancelled, h.cancellation]

lemma Stands.onOutput {f : Output → Output} {works : Bool}
    (h : w.Stands jobId working written latest stop)
    (hf : f (outputWith written working) = outputWith written works) :
    (w.onOutput f).Stands jobId works written latest stop := by
  rw [Watch.onOutput, h.route]
  exact ⟨h.jobId, by rw [← hf], h.latest, h.cancellation⟩

/-- The first reason stays. -/
lemma Stands.cancel (h : w.Stands jobId working written latest stop) (r : StopReason) :
    (w.cancel r).Stands jobId working written latest (stop.or (some r)) := by
  obtain ⟨journal, hcancel⟩ := Monitor.cancel_keeps h.cancellation r
  rw [Watch.cancel, hcancel]
  exact ⟨h.jobId, h.route, h.latest, rfl⟩

lemma Stands.conclude (h : w.Stands jobId working written latest none) (t : Tick) :
    (w.conclude t).Stands jobId working written latest t.stop? := by
  rw [Watch.conclude]
  rcases t.stop? with _ | r
  · exact h
  · exact h.cancel r

/-- A record is taken as a whole by an output that works, and not at all by one that does not. -/
lemma send_outputWith (r : Report) (written : String) (working : Bool) :
    (Output.send [r.text, "\n"] (outputWith written working)).1 =
      outputWith (written ++ if working then r.line else "") working := by
  cases working
  · simp [Output.send, Output.write, outputWith]
  · simp [Output.send, Output.write, Output.flush, outputWith, Report.line, String.append_assoc]

lemma Stands.emit (h : w.Stands jobId working written latest stop) (r : Report) :
    (w.emit r (outputWith written working)).Stands jobId working
      (written ++ if working then r.line else "") latest stop := by
  have hsend := send_outputWith r written working
  rw [Watch.emit]
  split
  · next out heq =>
    rw [heq] at hsend
    exact ⟨h.jobId, by rw [← hsend], h.latest, h.cancellation⟩
  · next out e heq =>
    rw [heq] at hsend
    exact ⟨h.jobId, by rw [← hsend]; rfl, h.latest, h.cancellation⟩

/-- A report is passed on as a record if it has the job. -/
lemma Stands.send (h : w.Stands jobId working written latest none) (r : Report) (t : Tick) :
    (w.send r t).Stands jobId working
      (written ++ if t.isSnapshot then (if working then r.line else "") else "") latest none := by
  rw [Watch.send, h.route]
  dsimp only
  rw [h.isCancelled, if_neg (by simp)]
  split
  · exact h.emit r
  · rw [String.append_empty]
    exact h

lemma tick_stop? (seen : Sighting) : (Tick.ofSighting seen).stop? = seen.stop? := by
  rcases seen with _ | _ | s
  · rfl
  · rfl
  · simp only [Tick.ofSighting, Snapshot.outcome, Sighting.stop?]
    cases s.failed <;> cases s.complete <;> rfl

lemma tick_isSnapshot (seen : Sighting) : (Tick.ofSighting seen).isSnapshot = seen.job?.isSome := by
  cases seen <;> rfl

lemma Stands.keep (h : w.Stands jobId working written latest stop) (seen : Sighting) :
    (w.keep seen).Stands jobId working written (seen.job?.or latest) stop := by
  cases seen with
  | noAggregation => exact h
  | jobMissing => exact h
  | found s => exact ⟨h.jobId, h.route, rfl, h.cancellation⟩

/-- What one report does to a watch that runs. -/
lemma Stands.deliver (h : w.Stands jobId working written latest none) (r : Report) :
    (w.deliver r).Stands jobId working
      (written ++ if working then (Action.deliver r).record jobId else "")
      (((Action.deliver r).job? jobId).or latest) ((Action.deliver r).stop? jobId) := by
  have hrecord : (if (Tick.ofSighting (r.lookup jobId)).isSnapshot then
        (if working then r.line else "") else "") =
      if working then (Action.deliver r).record jobId else "" := by
    rw [tick_isSnapshot, Action.record]
    cases working <;> cases (r.lookup jobId).job?.isSome <;> rfl
  rw [Watch.deliver, h.isCancelled, if_neg (by simp)]
  dsimp only
  rw [h.jobId, Action.stop?, ← tick_stop?, ← hrecord]
  exact ((h.keep _).send r _).conclude _

/-- A watch that has stopped drops what is delivered. -/
lemma deliver_stopped (h : w.isCancelled = true) (r : Report) : w.deliver r = w := by
  rw [Watch.deliver, if_pos h]

/-- **What one action does to a watch that runs.** -/
theorem Stands.apply (h : w.Stands jobId working written latest none) (a : Action) :
    (w.apply a).Stands jobId (a.works working)
      (written ++ if working then a.record jobId else "") ((a.job? jobId).or latest)
      (a.stop? jobId) := by
  have hnothing : written ++ (if working then "" else "") = written := by
    cases working <;> exact String.append_empty
  cases a with
  | deliver r => exact h.deliver r
  | cancel reason =>
    simp only [record, hnothing]
    exact h.cancel reason
  | breakOutput =>
    simp only [record, hnothing]
    exact h.onOutput rfl
  | repairOutput =>
    simp only [record, hnothing]
    exact h.onOutput rfl

/-- **Nothing that is done to a watch after it stopped changes what was written, the snapshot or
the reason.** -/
theorem Stands.apply_stopped {r : StopReason}
    (h : w.Stands jobId working written latest (some r)) (a : Action) :
    (w.apply a).Stands jobId (a.works working) written latest (some r) := by
  cases a with
  | deliver report =>
    rw [Watch.apply, deliver_stopped h.isCancelled]
    exact h
  | cancel reason => exact h.cancel reason
  | breakOutput => exact h.onOutput rfl
  | repairOutput => exact h.onOutput rfl

/-! ### Runs -/

/-- Whether the output works after some actions. -/
def worksAfter (working : Bool) (as : List Action) : Bool := as.foldl Action.works working

lemma Stands.run_stopped {r : StopReason} (h : w.Stands jobId working written latest (some r))
    (as : List Action) :
    (w.run as).Stands jobId (worksAfter working as) written latest (some r) := by
  induction as generalizing w working with
  | nil => exact h
  | cons a as ih => exact ih (h.apply_stopped a)

lemma lastJob_cons (a : Action) (as : List Action) :
    lastJob jobId (a :: as) = (lastJob jobId as).or (a.job? jobId) := by
  rw [lastJob, List.reverse_cons, List.findSome?_append]
  rcases h : a.job? jobId with _ | s <;> simp [lastJob, h]

/-- **What a run does to a watch that runs.** -/
theorem Stands.run (h : w.Stands jobId working written latest none) (as : List Action) :
    (w.run as).Stands jobId (worksAfter working as)
      (written ++ records jobId working (untilStop jobId as))
      ((lastJob jobId (untilStop jobId as)).or latest) (firstStop jobId as) := by
  induction as generalizing w working written latest with
  | nil =>
    rw [untilStop, records, String.append_empty]
    exact h
  | cons a as ih =>
    have hstep := h.apply a
    rw [firstStop, List.findSome?_cons, untilStop]
    rcases hstop : a.stop? jobId with _ | r
    · rw [hstop] at hstep
      have hrest := ih hstep
      rw [if_neg (by simp), records, lastJob_cons, Option.or_assoc, ← String.append_assoc]
      exact hrest
    · rw [hstop] at hstep
      have hrest := hstep.run_stopped as
      rw [if_pos Option.isSome_some, records, records, String.append_empty, lastJob_cons]
      exact hrest

variable (target : String)

/-- **The trace of a watch that writes records.** What it wrote are the records of the reports up to
the stop that have the job and met a working output; it holds the job of the last of all those
reports, and the reason of the stop. After the stop nothing changes any of this. -/
theorem run_fresh (jobId : String) (as : List Action) :
    ((fresh target jobId).run as).route.written = records jobId true (untilStop jobId as) ∧
    ((fresh target jobId).run as).monitor.latest = lastJob jobId (untilStop jobId as) ∧
    ((fresh target jobId).run as).monitor.reason = firstStop jobId as ∧
    ((fresh target jobId).run as).isCancelled = (firstStop jobId as).isSome ∧
    ∀ r, firstStop jobId as = some r →
      (∀ report, ((fresh target jobId).run as).deliver report = (fresh target jobId).run as) ∧
      ∀ more, ((fresh target jobId).run (as ++ more)).route.written =
          ((fresh target jobId).run as).route.written ∧
        ((fresh target jobId).run (as ++ more)).monitor.latest =
          ((fresh target jobId).run as).monitor.latest ∧
        ((fresh target jobId).run (as ++ more)).monitor.reason = some r ∧
        ((fresh target jobId).run (as ++ more)).isCancelled = true := by
  have h := (stands_fresh target jobId).run as
  have hwritten : ∀ {w : Watch} {working written latest stop},
      w.Stands jobId working written latest stop → w.route.written = written := by
    intro w working written latest stop h
    rw [h.route]
    rfl
  have hreason : ∀ {w : Watch} {working written latest stop},
      w.Stands jobId working written latest stop → w.monitor.reason = stop := by
    intro w working written latest stop h
    rw [Monitor.reason, h.cancellation]
  rw [String.empty_append, Option.or_none] at h
  refine ⟨hwritten h, h.latest, hreason h, h.isCancelled, fun r hr => ?_⟩
  rw [hr] at h
  refine ⟨deliver_stopped h.isCancelled, fun more => ?_⟩
  have hmore := h.run_stopped more
  rw [run, List.foldl_append, ← run, ← run]
  exact ⟨(hwritten hmore).trans (hwritten h).symm, hmore.latest.trans h.latest.symm,
    hreason hmore, hmore.isCancelled⟩

/-- A job that runs, then fails while the output is broken, and what comes too late. -/
def failingRun : List Action := [
  .deliver (.ofJob "j" {} .epoch), .breakOutput, .deliver (.ofJob "j" { failed := true } .epoch),
  .repairOutput, .deliver (.ofJob "j" {} .epoch), .cancel .interrupted]

theorem run_fresh_failing :
    firstStop "j" failingRun = some .jobFailed ∧
    ((fresh "s" "j").run failingRun).route.written = (Report.ofJob "j" {} .epoch).line ∧
    ((fresh "s" "j").run failingRun).monitor.latest = some { failed := true } ∧
    ((fresh "s" "j").run failingRun).monitor.reason = some .jobFailed ∧
    ∀ report, ((fresh "s" "j").run failingRun).deliver report = (fresh "s" "j").run failingRun := by
  obtain ⟨hwritten, hlatest, hreason, -, hafter⟩ := run_fresh "s" "j" failingRun
  have hstop : firstStop "j" failingRun = some .jobFailed := rfl
  have hrecords : records "j" true (untilStop "j" failingRun) =
      (Report.ofJob "j" {} .epoch).line ++ "" := rfl
  rw [String.append_empty] at hrecords
  exact ⟨hstop, hwritten.trans hrecords, hlatest.trans rfl, hreason.trans hstop,
    (hafter .jobFailed hstop).1⟩

end Watch

end JobWatch
