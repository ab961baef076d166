import JobWatch.Display.View
import JobWatch.Proofs.Display.Trace

/-!
The header of a display, against the reason it gave to stop.

The header is made of the snapshot that is shown and of whether the display has ended; the reason is
not kept. It tells the truth since a display that runs shows a job that runs, and one that has ended
keeps the snapshot it ended with.
-/

namespace JobWatch

open Signal (firstStop taken lastJob)

/-- How a job has ended, if that is the reason to stop. -/
def StopReason.ended? : StopReason → Option Outcome
  | .jobComplete => some .complete
  | .jobFailed => some .failed
  | _ => none

lemma StopReason.ended?_reasonOf (o : Outcome) : (Display.reasonOf o).ended? = some o := by
  cases o <;> rfl

namespace Signal

variable (jobId : String)

/-- What a signal leaves of a job that runs has ended as the reason of the signal tells. -/
lemma outcome_shown {s : Snapshot} (hs : s.outcome = none) (g : Signal) :
    ((g.job? jobId).getD s).outcome = (g.stop? jobId).bind StopReason.ended? := by
  cases g with
  | interrupt => exact hs
  | spinner => exact hs
  | feedClosed => exact hs
  | report r =>
    rw [job?, stop?, Report.job?, Report.stop?]
    rcases r.lookup jobId with _ | _ | s'
    · exact hs
    · exact hs
    · rw [Display.reasonOf_outcome]
      show s'.outcome = _
      rcases s'.outcome with _ | o
      · rfl
      · exact (StopReason.ended?_reasonOf o).symm

/-- **The job that is shown has ended exactly as the reason to stop tells.** -/
theorem outcome_taken (gs : List Signal) :
    ((lastJob jobId (taken jobId gs)).getD {}).outcome =
      (firstStop jobId gs).bind StopReason.ended? := by
  induction gs using List.reverseRecOn with
  | nil => rfl
  | append_singleton gs g ih =>
    rw [taken_snoc, firstStop_snoc]
    rcases hstop : firstStop jobId gs with _ | reason
    · rw [hstop, taken_running jobId hstop] at ih
      rw [if_neg (by simp), lastJob_snoc, Option.getD_or, Option.none_or]
      exact outcome_shown jobId ih g
    · rw [hstop] at ih
      exact ih

/-- Nobody but the one who runs the watch takes it down. -/
lemma stop?_ne_shutdown (g : Signal) : g.stop? jobId ≠ some .shutdown := by
  cases g with
  | interrupt | spinner | feedClosed => simp [stop?]
  | report r =>
    rw [stop?, Report.stop?]
    rcases r.lookup jobId with _ | _ | s
    · simp [Sighting.stop?]
    · simp [Sighting.stop?]
    · rw [Display.reasonOf_outcome]
      rcases s.outcome with _ | _ | _ <;> simp [Display.reasonOf]

lemma firstStop_ne_shutdown (gs : List Signal) : firstStop jobId gs ≠ some .shutdown := by
  intro h
  obtain ⟨g, -, hg⟩ := List.exists_of_findSome?_eq_some h
  exact stop?_ne_shutdown jobId g hg

end Signal

namespace Display

variable (jobId : String)

lemma spinnerFrame_mem (n : Nat) :
    spinnerFrames.getD (n % spinnerFrames.length) "" ∈ spinnerFrames := by
  have hn : n % spinnerFrames.length < spinnerFrames.length := Nat.mod_lt n (by decide)
  rw [List.getD_eq_getElem?_getD, List.getElem?_eq_getElem hn]
  exact List.getElem_mem hn

/-- The header of a display that stopped for a reason. -/
def finalHeader (reason : StopReason) : Header :=
  match reason.ended? with
  | some .complete => .success
  | some .failed => .failure
  | none => .blank

/-- The cases of the final header. -/
lemma finalHeader_iff {reason : StopReason} (h : reason ≠ .shutdown) :
    (finalHeader reason = .success ↔ reason = .jobComplete) ∧
    (finalHeader reason = .failure ↔ reason = .jobFailed) ∧
    (finalHeader reason = .blank ↔
      reason ∈ [.interrupted, .feedAbsent, .jobVanished, .feedClosed]) := by
  cases reason with
  | shutdown => exact absurd rfl h
  | interrupted | feedAbsent | jobVanished | jobComplete | jobFailed | feedClosed =>
    decide

/-- A display that runs shows a job that runs, and the indicator. -/
lemma standing_running {es : List Event} (h : firstStop jobId (signals es) = none) :
    (standing jobId es).current.isTerminal = false ∧
    ∃ frame ∈ spinnerFrames, (standing jobId es).view.header = .spinner frame := by
  have houtcome := Signal.outcome_taken jobId (signals es)
  rw [h] at houtcome
  have hquitting : (standing jobId es).quitting = false := by rw [standing, h]; rfl
  refine ⟨by rw [Snapshot.isTerminal, standing, houtcome]; rfl, _,
    spinnerFrame_mem (standing jobId es).phase, ?_⟩
  rw [view, header, hquitting]
  rfl

/-- A display that has ended shows why. -/
lemma standing_ended {es : List Event} {reason : StopReason}
    (h : firstStop jobId (signals es) = some reason) :
    (standing jobId es).view.header = finalHeader reason := by
  have houtcome := Signal.outcome_taken jobId (signals es)
  rw [h] at houtcome
  have hquitting : (standing jobId es).quitting = true := by rw [standing, h]; rfl
  rw [view, header, hquitting, standing, houtcome]
  rfl

/-- What happens to a display after its end does not change what is shown. -/
lemma standing_append {es : List Event} (h : (firstStop jobId (signals es)).isSome)
    (more : List Event) : (standing jobId (es ++ more)).view = (standing jobId es).view := by
  obtain ⟨reason, hreason⟩ := Option.isSome_iff_exists.1 h
  rw [standing, standing, signals_append, Signal.taken_append, if_pos h, Signal.firstStop_append,
    hreason]
  rfl

/-- **The header tells the truth.** As long as a display runs, it shows the indicator over a job
that runs. Once it has ended it shows success exactly if the job was complete, failure exactly if it
failed, and nothing for any other reason, whatever it showed before and whatever it is told later;
and exactly then an empty line follows. -/
theorem header_truthful (jobId : String) (es : List Event) :
    ((follow { jobId } es).1.quitting = false →
      (follow { jobId } es).2 = [] ∧ (follow { jobId } es).1.current.isTerminal = false ∧
      ∃ frame ∈ spinnerFrames, (follow { jobId } es).1.view.header = .spinner frame) ∧
    ((follow { jobId } es).1.quitting = true → ∃ reason,
      (follow { jobId } es).2 = [reason] ∧
      ((follow { jobId } es).1.view.header = .success ↔ reason = .jobComplete) ∧
      ((follow { jobId } es).1.view.header = .failure ↔ reason = .jobFailed) ∧
      ((follow { jobId } es).1.view.header = .blank ↔
        reason ∈ [.interrupted, .feedAbsent, .jobVanished, .feedClosed]) ∧
      ∀ more, (follow { jobId } (es ++ more)).1.view = (follow { jobId } es).1.view) ∧
    (follow { jobId } es).1.view.trailingBlank = (follow { jobId } es).1.quitting := by
  rw [follow_eq]
  refine ⟨fun hquitting => ?_, fun hquitting => ?_, rfl⟩
  · have hstop : firstStop jobId (signals es) = none := by simpa [standing] using hquitting
    rw [hstop]
    exact ⟨rfl, standing_running jobId hstop⟩
  · have hsome : (firstStop jobId (signals es)).isSome := hquitting
    obtain ⟨reason, hreason⟩ := Option.isSome_iff_exists.1 hsome
    have hnot : reason ≠ .shutdown := by
      rintro rfl
      exact Signal.firstStop_ne_shutdown jobId (signals es) hreason
    obtain ⟨hsuccess, hfailure, hblank⟩ := finalHeader_iff hnot
    rw [standing_ended jobId hreason, hreason]
    refine ⟨reason, rfl, hsuccess, hfailure, hblank, fun more => ?_⟩
    rw [follow_eq]
    exact standing_append jobId hsome more

/-- An interrupt, after which the job is reported complete. -/
def overtakenEvents : List Event := [
  .signal (.report (.ofJob "j" {} .epoch)), .signal .interrupt,
  .signal (.report (.ofJob "j" { complete := true } .epoch))]

theorem header_truthful_overtaken :
    (follow { jobId := "j" } overtakenEvents).1.quitting = true ∧
    (follow { jobId := "j" } overtakenEvents).2 = [.interrupted] ∧
    (follow { jobId := "j" } overtakenEvents).1.view.header = .blank := by
  have hquitting : (follow { jobId := "j" } overtakenEvents).1.quitting = true := rfl
  obtain ⟨-, hended, -⟩ := header_truthful "j" overtakenEvents
  obtain ⟨reason, hstops, -, -, hblank, -⟩ := hended hquitting
  obtain rfl : .interrupted = reason := List.head_eq_of_cons_eq hstops
  exact ⟨hquitting, hstops, hblank.2 (by decide)⟩

end Display

end JobWatch
