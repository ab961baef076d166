import JobWatch.Proofs.Watch.Reports
import Mathlib.Data.List.Induction

/-!
A display, against the watch whose reports it is given.

Both judge every report for themselves: the watch when it takes it, the display when it takes it out
of its queue. They agree on the snapshot, on whether to stop, and on the reason, however often the
indicator moves in between.
-/

namespace JobWatch

open Reports

namespace Signal

def isSpinner : Signal → Bool
  | .spinner => true
  | _ => false

/-- Why a signal ends a display, if it does. -/
def stop? (jobId : String) : Signal → Option StopReason
  | .interrupt => some .interrupted
  | .report r => r.stop? jobId
  | .spinner => none
  | .feedClosed => some .feedClosed

/-- The job, if the signal is a report that has it. -/
def job? (jobId : String) : Signal → Option Snapshot
  | .report r => r.job? jobId
  | _ => none

/-- Signals without the moves of the indicator. -/
def plain (gs : List Signal) : List Signal := gs.filter (!·.isSpinner)

@[simp] lemma plain_nil : plain [] = [] := rfl

@[simp] lemma plain_append (gs hs : List Signal) : plain (gs ++ hs) = plain gs ++ plain hs :=
  List.filter_append _ _

@[simp] lemma plain_spinner : plain [.spinner] = [] := rfl

@[simp] lemma plain_report (r : Report) : plain [.report r] = [.report r] := rfl

@[simp] lemma plain_feedClosed : plain [.feedClosed] = [.feedClosed] := rfl

end Signal

namespace Display

lemma reasonOf_outcome (s : Snapshot) :
    (Sighting.found s).stop? = s.outcome.map reasonOf := by
  simp only [Sighting.stop?, Snapshot.outcome]
  cases s.failed <;> cases s.complete <;> rfl

/-- **What a signal does to a display that runs.** -/
lemma update_running {d : Display} (h : d.quitting = false) (g : Signal) :
    d.update g =
      ({ d with
          current := (g.job? d.jobId).getD d.current
          quitting := (g.stop? d.jobId).isSome
          phase := if g.isSpinner then (d.phase + 1) % spinnerFrames.length else d.phase
          dirty := true },
        g.stop? d.jobId) := by
  obtain ⟨jobId, current, quitting, phase, dirty⟩ := d
  obtain rfl : quitting = false := h
  cases g with
  | interrupt => rfl
  | spinner => rfl
  | feedClosed => rfl
  | report r =>
    rw [update, if_neg Bool.false_ne_true, receive, Signal.job?, Signal.stop?, Report.job?,
      Report.stop?]
    rcases r.lookup jobId with _ | _ | s
    · rfl
    · rfl
    · rw [reasonOf_outcome]
      rcases hs : s.outcome with _ | o
      · simp only [hs]
        rfl
      · simp only [hs]
        rfl

/-- A display that has ended drops every signal. -/
lemma update_ended {d : Display} (h : d.quitting = true) (g : Signal) : d.update g = (d, none) := by
  rw [update, h, if_pos rfl]

/-- A display that takes signals, and the reasons it gives to stop. -/
def run (d : Display) (gs : List Signal) : Display × List StopReason :=
  gs.foldl (fun p g => ((p.1.update g).1, p.2 ++ (p.1.update g).2.toList)) (d, [])

lemma run_nil (d : Display) : d.run [] = (d, []) := rfl

lemma run_snoc (d : Display) (gs : List Signal) (g : Signal) :
    d.run (gs ++ [g]) =
      (((d.run gs).1.update g).1, (d.run gs).2 ++ ((d.run gs).1.update g).2.toList) := by
  rw [run, List.foldl_append]
  rfl

/-- What a display has come to: the snapshot it shows, and the reason it was ended for. -/
structure Stands (p : Display × List StopReason) (jobId : String) (latest : Option Snapshot)
    (stop : Option StopReason) : Prop where
  jobId : p.1.jobId = jobId
  current : p.1.current = latest.getD {}
  quitting : p.1.quitting = stop.isSome
  stops : p.2 = stop.toList

variable {jobId : String} {latest : Option Snapshot} {stop : Option StopReason}

lemma stands_fresh (jobId : String) : Stands (run { jobId } []) jobId none none :=
  ⟨rfl, rfl, rfl, rfl⟩

/-- **What one signal does to a display that runs.** -/
theorem Stands.update {d : Display} {gs : List Signal}
    (h : Stands (d.run gs) jobId latest none) (g : Signal) :
    Stands (d.run (gs ++ [g])) jobId ((g.job? jobId).or latest) (g.stop? jobId) := by
  obtain ⟨hjob, hcurrent, hquitting, hstops⟩ := h
  rw [run_snoc, update_running hquitting, hjob, hstops]
  exact ⟨rfl, by rw [hcurrent, Option.getD_or], rfl, rfl⟩

/-- A display that was ended drops every signal. -/
lemma Stands.update_stopped {d : Display} {gs : List Signal} {reason : StopReason}
    (h : Stands (d.run gs) jobId latest (some reason)) (g : Signal) :
    Stands (d.run (gs ++ [g])) jobId latest (some reason) := by
  rw [run_snoc, update_ended h.quitting]
  exact ⟨h.jobId, h.current, h.quitting, by simpa using h.stops⟩

/-- The indicator moves without any effect on the rest. -/
lemma Stands.spinner {d : Display} {gs : List Signal} (h : Stands (d.run gs) jobId latest stop) :
    Stands (d.run (gs ++ [.spinner])) jobId latest stop := by
  rcases stop with _ | reason
  · exact h.update .spinner
  · exact h.update_stopped .spinner

/-- **A display follows the reports** of a watch, with the indicator moving in between. -/
theorem stands_run {gs : List Signal} {rs : List Report}
    (hgs : Signal.plain gs = rs.map .report) (hrs : untilStop jobId rs = rs) :
    Stands (run { jobId } gs) jobId (lastJob jobId rs) (firstStop jobId rs) := by
  induction gs using List.reverseRecOn generalizing rs with
  | nil =>
    obtain rfl : rs = [] := List.map_eq_nil_iff.1 hgs.symm
    exact stands_fresh jobId
  | append_singleton gs g ih =>
    rw [Signal.plain_append] at hgs
    cases g with
    | spinner => exact (ih (by simpa using hgs) hrs).spinner
    | report r =>
      -- the report is the last of all, and nothing before it stops the watch
      obtain ⟨before, last, rfl, hbefore, hlast⟩ := List.map_eq_append_iff.1 hgs.symm
      obtain ⟨r', rfl, hr⟩ := List.map_eq_singleton_iff.1 hlast
      cases hr
      obtain ⟨huntil, hstopped⟩ := untilStop_of_append jobId hrs
      have hnone : firstStop jobId before = none := by
        cases h : firstStop jobId before with
        | none => rfl
        | some reason => exact absurd (hstopped (by rw [h]; rfl)) (by simp)
      have hstep := (ih hbefore.symm huntil)
      rw [hnone] at hstep
      have hnext := hstep.update (.report r)
      rw [lastJob_snoc, firstStop_append, hnone, Option.none_or, firstStop_singleton]
      exact hnext
    | interrupt =>
      have hmem : Signal.interrupt ∈ rs.map Signal.report := by
        rw [← hgs]
        exact List.mem_append_right _ (List.mem_singleton.2 rfl)
      simp at hmem
    | feedClosed =>
      have hmem : Signal.feedClosed ∈ rs.map Signal.report := by
        rw [← hgs]
        exact List.mem_append_right _ (List.mem_singleton.2 rfl)
      simp at hmem

/-- A display that is told of the end of the feed after reports none of which ends it. -/
theorem stands_closed {gs : List Signal} {rs : List Report}
    (hgs : Signal.plain gs = rs.map .report ++ [.feedClosed]) (hrs : firstStop jobId rs = none) :
    Stands (run { jobId } gs) jobId (lastJob jobId rs) (some .feedClosed) := by
  induction gs using List.reverseRecOn with
  | nil => simp at hgs
  | append_singleton gs g ih =>
    rw [Signal.plain_append] at hgs
    cases g with
    | spinner => exact (ih (by simpa using hgs)).spinner
    | feedClosed =>
      have hbefore := (List.append_inj' hgs rfl).1
      have hstep := stands_run hbefore (untilStop_of_running jobId hrs)
      rw [hrs] at hstep
      exact hstep.update .feedClosed
    | report r => cases (List.append_inj' hgs rfl).2
    | interrupt => cases (List.append_inj' hgs rfl).2

end Display

namespace Watch

/-- A watch that was given reports from its beginning and passes them to a display. -/
def forwarding (target jobId : String) (rs : List Report) : Watch :=
  rs.foldl Watch.deliver ⟨{ target, jobId }, .display [] true⟩

lemma forwards_forwarding (target jobId : String) (rs : List Report) :
    (forwarding target jobId rs).Forwards jobId ((untilStop jobId rs).map .report)
      (lastJob jobId (untilStop jobId rs)) (firstStop jobId rs) := by
  have hfresh : Forwards ⟨{ target, jobId }, .display [] true⟩ jobId [] none none :=
    ⟨rfl, rfl, rfl, rfl⟩
  have hrun := hfresh.foldl rs
  rw [List.nil_append, Option.or_none] at hrun
  exact hrun

/-- **Watch and display agree.** The queue receives the reports up to the first that stops the
watch, and that one. A display that takes them, with the indicator moving at any moments, is ended
exactly if the watch has stopped, gives one reason to stop and that of the watch, and shows the
snapshot that the watch stored. -/
theorem display_agrees (target jobId : String) (rs : List Report) (gs : List Signal)
    (hgs : Signal.plain gs = (forwarding target jobId rs).route.queue) :
    (forwarding target jobId rs).route.queue = (untilStop jobId rs).map .report ∧
    (Display.run { jobId } gs).1.quitting = (forwarding target jobId rs).isCancelled ∧
    ((forwarding target jobId rs).isCancelled = true → ∃ reason,
      (Display.run { jobId } gs).2 = [reason] ∧
      (forwarding target jobId rs).monitor.reason = some reason) ∧
    ((forwarding target jobId rs).isCancelled = false → (Display.run { jobId } gs).2 = []) ∧
    (Display.run { jobId } gs).1.current =
      (forwarding target jobId rs).monitor.latest.getD {} := by
  have hw := forwards_forwarding target jobId rs
  have hqueue : (forwarding target jobId rs).route.queue = (untilStop jobId rs).map .report := by
    rw [hw.route]
    rfl
  have hd := Display.stands_run (hgs.trans hqueue) (untilStop_untilStop jobId rs)
  rw [firstStop_untilStop] at hd
  refine ⟨hqueue, ?_, ?_, ?_, ?_⟩
  · rw [hd.quitting, hw.isCancelled]
  · intro hc
    rw [hw.isCancelled, Option.isSome_iff_exists] at hc
    obtain ⟨reason, hreason⟩ := hc
    refine ⟨reason, ?_, ?_⟩
    · rw [hd.stops, hreason]
      rfl
    · rw [Monitor.reason, hw.cancellation, hreason]
  · intro hc
    rw [hw.isCancelled, Option.isSome_eq_false_iff, Option.isNone_iff_eq_none] at hc
    rw [hd.stops, hc]
    rfl
  · rw [hd.current, hw.latest]

/-- A job that runs and then fails, and a report that comes too late; the indicator moves before,
between and after. -/
theorem display_agrees_failing :
    Signal.plain [.spinner, .report (.ofJob "j" {} .epoch), .spinner,
        .report (.ofJob "j" { failed := true } .epoch), .spinner] =
      (forwarding "s" "j" [.ofJob "j" {} .epoch, .ofJob "j" { failed := true } .epoch,
        .ofJob "j" {} .epoch]).route.queue ∧
    (Display.run { jobId := "j" } [.spinner, .report (.ofJob "j" {} .epoch), .spinner,
        .report (.ofJob "j" { failed := true } .epoch), .spinner]).1.quitting = true ∧
    (Display.run { jobId := "j" } [.spinner, .report (.ofJob "j" {} .epoch), .spinner,
        .report (.ofJob "j" { failed := true } .epoch), .spinner]).2 = [.jobFailed] := by
  have hqueue : Signal.plain [.spinner, .report (.ofJob "j" {} .epoch), .spinner,
        .report (.ofJob "j" { failed := true } .epoch), .spinner] =
      (forwarding "s" "j" [.ofJob "j" {} .epoch, .ofJob "j" { failed := true } .epoch,
        .ofJob "j" {} .epoch]).route.queue := rfl
  obtain ⟨-, hquitting, hstop, -⟩ := display_agrees "s" "j" _ _ hqueue
  have hcancelled : (forwarding "s" "j" [.ofJob "j" {} .epoch,
      .ofJob "j" { failed := true } .epoch, .ofJob "j" {} .epoch]).isCancelled = true := rfl
  obtain ⟨reason, hstops, hreason⟩ := hstop hcancelled
  obtain rfl : .jobFailed = reason := Option.some.inj (rfl.symm.trans hreason)
  exact ⟨hqueue, hquitting.trans hcancelled, hstops⟩

end Watch

end JobWatch
