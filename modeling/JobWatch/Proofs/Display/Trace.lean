import JobWatch.Proofs.Beginning
import JobWatch.Proofs.Display.Agreement

/-!
The trace of a display.

A display is given signals, and now and then its mark for a redraw is taken. It takes the signals
up to the first that ends it, and that one; the others are dropped. So what it shows, and the one
reason it gives to stop, can be read off the signals that were taken.
-/

namespace JobWatch

open Feed (through through_append through_of_findSome?_eq_none)

namespace Signal

variable (jobId : String)

/-- Why the first signal that ends a display ends it. -/
def firstStop (gs : List Signal) : Option StopReason := gs.findSome? (·.stop? jobId)

/-- The signals up to the first that ends a display, and that one. -/
def taken (gs : List Signal) : List Signal := through (fun g => (g.stop? jobId).isSome) gs

/-- The job of the last report that has it. -/
def lastJob (gs : List Signal) : Option Snapshot := gs.reverse.findSome? (·.job? jobId)

lemma firstStop_cons (g : Signal) (gs : List Signal) :
    firstStop jobId (g :: gs) = (g.stop? jobId).or (firstStop jobId gs) := by
  rw [firstStop, List.findSome?_cons]
  cases g.stop? jobId <;> rfl

lemma firstStop_append (gs hs : List Signal) :
    firstStop jobId (gs ++ hs) = (firstStop jobId gs).or (firstStop jobId hs) :=
  List.findSome?_append

lemma firstStop_snoc (gs : List Signal) (g : Signal) :
    firstStop jobId (gs ++ [g]) = (firstStop jobId gs).or (g.stop? jobId) := by
  rw [firstStop_append, firstStop, firstStop, List.findSome?_singleton]

lemma lastJob_snoc (gs : List Signal) (g : Signal) :
    lastJob jobId (gs ++ [g]) = (g.job? jobId).or (lastJob jobId gs) := by
  rw [lastJob, List.reverse_append, List.findSome?_append, List.reverse_singleton,
    List.findSome?_singleton, lastJob]

/-- A display that runs has taken all its signals. -/
lemma taken_running {gs : List Signal} (h : firstStop jobId gs = none) : taken jobId gs = gs :=
  through_of_findSome?_eq_none _ h

/-- What comes after the end is dropped. -/
lemma taken_append (gs hs : List Signal) :
    taken jobId (gs ++ hs) =
      if (firstStop jobId gs).isSome then taken jobId gs else gs ++ taken jobId hs := by
  rw [taken, through_append, ← List.isSome_findSome?]
  rfl

lemma taken_snoc (gs : List Signal) (g : Signal) :
    taken jobId (gs ++ [g]) =
      if (firstStop jobId gs).isSome then taken jobId gs else gs ++ [g] := by
  have hlast : taken jobId [g] = [g] := by
    cases h : (g.stop? jobId).isSome <;> simp [taken, through, h]
  rw [taken_append, hlast]

lemma spinners_snoc (gs : List Signal) (g : Signal) (n : Nat) :
    (gs ++ [g]).countP isSpinner % n =
      if g.isSpinner then (gs.countP isSpinner % n + 1) % n else gs.countP isSpinner % n := by
  rw [List.countP_append, List.countP_singleton]
  split
  · rw [Nat.mod_add_mod]
  · rw [Nat.add_zero]

end Signal

namespace Display

open Signal (firstStop taken lastJob)

/-- What happens to a display. -/
inductive Event where
  | signal (g : Signal)
  /-- The mark for a redraw is taken. -/
  | redrawn

def Event.signal? : Event → Option Signal
  | .signal g => some g
  | .redrawn => none

/-- The signals among events, in their order. -/
def signals (es : List Event) : List Signal := es.filterMap Event.signal?

def react (d : Display) : Event → Display × Option StopReason
  | .signal g => d.update g
  | .redrawn => (d.consumeDirty.1, none)

/-- A display to which events happen, and the reasons it gives to stop. -/
def follow (d : Display) (es : List Event) : Display × List StopReason :=
  es.foldl (fun p e => ((p.1.react e).1, p.2 ++ (p.1.react e).2.toList)) (d, [])

lemma follow_snoc (d : Display) (es : List Event) (e : Event) :
    d.follow (es ++ [e]) =
      (((d.follow es).1.react e).1, (d.follow es).2 ++ ((d.follow es).1.react e).2.toList) := by
  rw [follow, List.foldl_append]
  rfl

lemma signals_append (es more : List Event) : signals (es ++ more) = signals es ++ signals more :=
  List.filterMap_append

lemma signals_snoc_signal (es : List Event) (g : Signal) :
    signals (es ++ [.signal g]) = signals es ++ [g] := by
  rw [signals_append]
  rfl

lemma signals_snoc_redrawn (es : List Event) : signals (es ++ [.redrawn]) = signals es := by
  rw [signals_append]
  exact List.append_nil _

/-! ### The mark -/

variable (jobId : String)

/-- Whether a display is marked for a redraw: every signal that it takes marks it. -/
def marked : Bool → List Event → Bool
  | mark, [] => mark
  | _, .redrawn :: es => marked false es
  | _, .signal g :: es =>
    if (g.stop? jobId).isSome then es.all (·.signal?.isSome) else marked true es

lemma marked_snoc_redrawn (mark : Bool) (es : List Event) :
    marked jobId mark (es ++ [.redrawn]) = false := by
  induction es generalizing mark with
  | nil => rfl
  | cons e es ih =>
    cases e with
    | redrawn => exact ih false
    | signal g =>
      rw [List.cons_append, marked, ih true, List.all_append]
      simp [Event.signal?]

lemma marked_snoc_signal (mark : Bool) (es : List Event) (g : Signal) :
    marked jobId mark (es ++ [.signal g]) =
      if (firstStop jobId (signals es)).isSome then marked jobId mark es else true := by
  induction es generalizing mark with
  | nil => cases h : (g.stop? jobId).isSome <;> simp [marked, signals, firstStop, h]
  | cons e es ih =>
    cases e with
    | redrawn => exact ih false
    | signal g' =>
      have hcons : signals (.signal g' :: es) = g' :: signals es := rfl
      rw [List.cons_append, marked, marked, ih true, hcons, Signal.firstStop_cons]
      cases g'.stop? jobId with
      | none => rfl
      | some reason => simp [Event.signal?]

/-! ### All events -/

/-- What a display has become after events, as far as they were taken. -/
def standing (es : List Event) : Display where
  jobId
  current := (lastJob jobId (taken jobId (signals es))).getD {}
  quitting := (firstStop jobId (signals es)).isSome
  phase := (taken jobId (signals es)).countP Signal.isSpinner % spinnerFrames.length
  dirty := marked jobId true es

lemma standing_snoc_redrawn (es : List Event) :
    standing jobId (es ++ [.redrawn]) = (standing jobId es).consumeDirty.1 := by
  rw [standing, signals_snoc_redrawn, marked_snoc_redrawn]
  rfl

lemma standing_snoc_running {es : List Event} (h : firstStop jobId (signals es) = none)
    (g : Signal) :
    (standing jobId es).update g = (standing jobId (es ++ [.signal g]), g.stop? jobId) := by
  have hquitting : (standing jobId es).quitting = false := by rw [standing, h]; rfl
  rw [update_running hquitting, standing, standing, signals_snoc_signal, marked_snoc_signal,
    Signal.firstStop_snoc, Signal.taken_snoc, Signal.taken_running jobId h, h, Option.none_or]
  simp only [Option.isSome_none, Bool.false_eq_true, if_false, Signal.lastJob_snoc, Option.getD_or,
    Signal.spinners_snoc]

lemma standing_snoc_ended {es : List Event} {reason : StopReason}
    (h : firstStop jobId (signals es) = some reason) (g : Signal) :
    standing jobId (es ++ [.signal g]) = standing jobId es := by
  rw [standing, standing, signals_snoc_signal, marked_snoc_signal, Signal.firstStop_snoc,
    Signal.taken_snoc, h]
  rfl

/-- A display that is given events from its beginning. -/
theorem follow_eq (es : List Event) :
    follow { jobId } es = (standing jobId es, (firstStop jobId (signals es)).toList) := by
  induction es using List.reverseRecOn with
  | nil => rfl
  | append_singleton es e ih =>
    rw [follow_snoc, ih]
    cases e with
    | redrawn =>
      rw [signals_snoc_redrawn, standing_snoc_redrawn, react, Option.toList_none, List.append_nil]
    | signal g =>
      rw [signals_snoc_signal, Signal.firstStop_snoc, react]
      rcases hstop : firstStop jobId (signals es) with _ | reason
      · rw [standing_snoc_running jobId hstop]
        rfl
      · have hquitting : (standing jobId es).quitting = true := by rw [standing, hstop]; rfl
        rw [standing_snoc_ended jobId hstop, update_ended hquitting]
        rfl

/-- **The trace of a display.** It gives no reason to stop if no signal ends it, and otherwise the
reason of the first that does, when it is given that one. It shows the job of the last report that
has it among the signals it took, and the indicator has moved as often as it was told to before the
end. From the end on every signal leaves it as it is, with or without the mark for a redraw. -/
theorem follow_trace (jobId : String) (es : List Event) :
    (follow { jobId } es).2 = (firstStop jobId (signals es)).toList ∧
    (∀ g, ((follow { jobId } es).1.update g).2 =
      if (firstStop jobId (signals es)).isSome then none else g.stop? jobId) ∧
    (follow { jobId } es).1.jobId = jobId ∧
    (follow { jobId } es).1.quitting = (firstStop jobId (signals es)).isSome ∧
    (follow { jobId } es).1.current = (lastJob jobId (taken jobId (signals es))).getD {} ∧
    (follow { jobId } es).1.phase = (taken jobId (signals es)).countP Signal.isSpinner % 4 ∧
    (follow { jobId } es).1.dirty = marked jobId true es ∧
    ((firstStop jobId (signals es)).isSome →
      ∀ g, (follow { jobId } es).1.update g = ((follow { jobId } es).1, none)) := by
  have hended (h : (firstStop jobId (signals es)).isSome) (g : Signal) :
      (standing jobId es).update g = (standing jobId es, none) := update_ended h g
  rw [follow_eq]
  refine ⟨rfl, fun g => ?_, rfl, rfl, rfl, rfl, rfl, hended⟩
  rcases hstop : firstStop jobId (signals es) with _ | reason
  · exact congrArg Prod.snd (standing_snoc_running jobId hstop g)
  · exact congrArg Prod.snd (hended (by rw [hstop]; rfl) g)

/-- An interrupt while the job runs; the failure of the job comes too late. -/
def interruptedEvents : List Event := [
  .signal (.report (.ofJob "j" { retryAttempts := 1 } .epoch)), .signal .spinner, .redrawn,
  .signal .interrupt, .signal (.report (.ofJob "j" { failed := true } .epoch)), .signal .spinner]

theorem follow_trace_interrupted :
    firstStop "j" (signals interruptedEvents) = some .interrupted ∧
    (follow { jobId := "j" } interruptedEvents).2 = [.interrupted] ∧
    (follow { jobId := "j" } interruptedEvents).1.current = { retryAttempts := 1 } ∧
    (follow { jobId := "j" } interruptedEvents).1.phase = 1 ∧
    ∀ g, (follow { jobId := "j" } interruptedEvents).1.update g =
      ((follow { jobId := "j" } interruptedEvents).1, none) := by
  obtain ⟨hstops, -, -, -, hcurrent, hphase, -, hended⟩ := follow_trace "j" interruptedEvents
  have hstop : firstStop "j" (signals interruptedEvents) = some .interrupted := rfl
  exact ⟨hstop, hstops, hcurrent, hphase, hended rfl⟩

end Display

end JobWatch
