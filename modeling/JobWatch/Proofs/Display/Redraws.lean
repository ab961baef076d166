import JobWatch.Proofs.Display.Drawing
import JobWatch.Proofs.Display.Trace

/-!
A screen that is redrawn now and then.

Signals come to the display in any number between two redraws. A redraw is due if it is the first,
or if a signal has come since the last one to a display that had not ended. Redraws that are due
draw the frame of the moment, the others write nothing, and as long as none is due the frame that
was drawn last is still that of the view.
-/

namespace JobWatch

open Display (Event)

namespace Screen

/-! ### Redraws that are due -/

variable (jobId : String)

/-- A redraw is due after events: there was none, or since the last one a signal has come to the
display before it ended. -/
def Due (es : List Event) : Prop :=
  .redrawn ∉ es ∨ ∃ before g after, es = before ++ .signal g :: after ∧ .redrawn ∉ after ∧
    (Display.follow { jobId } before).1.quitting = false

lemma due_nil : Due jobId [] := .inl List.not_mem_nil

lemma not_due_redrawn (es : List Event) : ¬ Due jobId (es ++ [.redrawn]) := by
  rintro (hnone | ⟨before, g, after, hes, hafter, -⟩)
  · exact hnone (List.mem_append_right _ (List.mem_singleton.2 rfl))
  · rcases List.eq_nil_or_concat after with rfl | ⟨after, e, rfl⟩
    · cases (List.append_inj' hes rfl).2
    · rw [List.concat_eq_append, ← List.cons_append, ← List.append_assoc] at hes
      obtain rfl : .redrawn = e := List.head_eq_of_cons_eq (List.append_inj' hes rfl).2
      exact hafter (by simp)

/-- A signal makes a redraw due unless the display has ended. -/
lemma due_signal (es : List Event) (g : Signal) :
    Due jobId (es ++ [.signal g]) ↔
      (Display.follow { jobId } es).1.quitting = false ∨ Due jobId es := by
  constructor
  · rintro (hnone | ⟨before, g', after, hes, hafter, hrunning⟩)
    · exact .inr (.inl fun hmem => hnone (List.mem_append_left _ hmem))
    · rcases List.eq_nil_or_concat after with rfl | ⟨after, e, rfl⟩
      · obtain ⟨rfl, -⟩ := List.append_inj' hes rfl
        exact .inl hrunning
      · rw [List.concat_eq_append] at hes hafter
        rw [← List.cons_append, ← List.append_assoc] at hes
        obtain ⟨rfl, -⟩ := List.append_inj' hes rfl
        exact .inr (.inr ⟨before, g', after, rfl, fun hmem => hafter (List.mem_append_left _ hmem),
          hrunning⟩)
  · rintro (hrunning | hnone | ⟨before, g', after, rfl, hafter, hrunning⟩)
    · exact .inr ⟨es, g, [], rfl, List.not_mem_nil, hrunning⟩
    · exact .inl (by simpa using hnone)
    · exact .inr ⟨before, g', after ++ [.signal g], by simp, by simpa using hafter, hrunning⟩

/-- **The mark of a display tells whether a redraw is due.** -/
theorem dirty_iff_due (es : List Event) :
    (Display.follow { jobId } es).1.dirty = true ↔ Due jobId es := by
  induction es using List.reverseRecOn with
  | nil => exact iff_of_true rfl (due_nil jobId)
  | append_singleton es e ih =>
    rw [Display.follow_snoc]
    cases e with
    | redrawn => exact iff_of_false Bool.false_ne_true (not_due_redrawn jobId es)
    | signal g =>
      rw [due_signal, ← ih, Display.react]
      cases hquitting : (Display.follow { jobId } es).1.quitting with
      | false => exact iff_of_true (Display.update_dirty hquitting) (.inl rfl)
      | true => simp [Display.update_ended hquitting]

instance (es : List Event) : Decidable (Due jobId es) :=
  decidable_of_iff _ (dirty_iff_due jobId es)

/-! ### The frames of a screen -/

variable (t : Theme)

/-- The frame of the view after events. -/
def frameAfter (es : List Event) : String := (Display.follow { jobId } es).1.view.frame t

/-- The frames of the redraws that are due among events, where others have gone before. -/
def framesFrom (before : List Event) : List Event → List String
  | [] => []
  | .signal g :: es => framesFrom (before ++ [.signal g]) es
  | .redrawn :: es =>
    (if Due jobId before then [frameAfter jobId t before] else []) ++
      framesFrom (before ++ [.redrawn]) es

/-- The frames of the redraws that are due among events. -/
def frames (es : List Event) : List String := framesFrom jobId t [] es

lemma framesFrom_append (before es more : List Event) :
    framesFrom jobId t before (es ++ more) =
      framesFrom jobId t before es ++ framesFrom jobId t (before ++ es) more := by
  induction es generalizing before with
  | nil => rw [List.append_nil]; rfl
  | cons e es ih =>
    cases e with
    | signal g => rw [List.cons_append, framesFrom, framesFrom, ih, List.append_assoc]; rfl
    | redrawn =>
      rw [List.cons_append, framesFrom, framesFrom, ih, List.append_assoc, List.append_assoc]
      rfl

lemma frames_signal (es : List Event) (g : Signal) :
    frames jobId t (es ++ [.signal g]) = frames jobId t es := by
  rw [frames, framesFrom_append]
  exact List.append_nil _

lemma frames_redrawn (es : List Event) :
    frames jobId t (es ++ [.redrawn]) =
      frames jobId t es ++ if Due jobId es then [frameAfter jobId t es] else [] := by
  rw [frames, framesFrom_append, framesFrom, framesFrom, List.append_nil, List.nil_append]
  rfl

/-- Taking the mark for a redraw does not change what is shown. -/
lemma frameAfter_redrawn (es : List Event) :
    frameAfter jobId t (es ++ [.redrawn]) = frameAfter jobId t es := by
  rw [frameAfter, Display.follow_snoc]
  rfl

lemma frameAfter_ended {es : List Event} (h : (Display.follow { jobId } es).1.quitting = true)
    (g : Signal) : frameAfter jobId t (es ++ [.signal g]) = frameAfter jobId t es := by
  rw [frameAfter, Display.follow_snoc, Display.react, Display.update_ended h]
  rfl

/-- **No frame is stale**: as long as no redraw is due, the last frame is that of the view. -/
theorem last_frame {es : List Event} (h : ¬ Due jobId es) :
    (frames jobId t es).getLast? = some (frameAfter jobId t es) := by
  induction es using List.reverseRecOn with
  | nil => exact absurd (due_nil jobId) h
  | append_singleton es e ih =>
    cases e with
    | redrawn =>
      rw [frames_redrawn, frameAfter_redrawn]
      by_cases hdue : Due jobId es
      · rw [if_pos hdue, List.getLast?_concat]
      · rw [if_neg hdue, List.append_nil]
        exact ih hdue
    | signal g =>
      rw [due_signal, not_or] at h
      rw [frames_signal, frameAfter_ended jobId t (by simpa using h.1)]
      exact ih h.2

/-! ### What is drawn -/

/-- What happens to a screen: a signal comes to its display, or it is redrawn. -/
def react (s : Screen) : Event → Screen × Option OutputError
  | .signal g => ((s.update g).1, none)
  | .redrawn => s.redraw

/-- A screen on an output that never fails, after events from its beginning. -/
def after (written : String) (es : List Event) : Screen :=
  es.foldl (fun s e => (s.react e).1)
    { display := { jobId }, live := { out := { written } }, theme := t }

variable (written : String)

lemma after_snoc (es : List Event) (e : Event) :
    after jobId t written (es ++ [e]) = ((after jobId t written es).react e).1 := by
  rw [after, List.foldl_append]
  rfl

lemma after_redrawn (es : List Event) :
    after jobId t written (es ++ [.redrawn]) = (after jobId t written es).redraw.1 :=
  after_snoc jobId t written es .redrawn

/-- The display of a screen is the display to which the same happens. -/
lemma after_display (es : List Event) :
    (after jobId t written es).display = (Display.follow { jobId } es).1 := by
  induction es using List.reverseRecOn with
  | nil => rfl
  | append_singleton es e ih =>
    rw [after_snoc, Display.follow_snoc, ← ih]
    cases e with
    | signal g => rfl
    | redrawn => exact redraw_display _

lemma after_theme (es : List Event) : (after jobId t written es).theme = t := by
  induction es using List.reverseRecOn with
  | nil => rfl
  | append_singleton es e ih =>
    rw [after_snoc]
    cases e with
    | signal g => exact ih
    | redrawn => exact (redraw_theme _).trans ih

lemma after_frame (es : List Event) :
    (after jobId t written es).display.view.frame t = frameAfter jobId t es := by
  rw [after_display, frameAfter]

/-- A redraw that is due draws the frame of the view. -/
lemma redraw_due {es : List Event} (h : Due jobId es) :
    (after jobId t written es).redraw.1.live =
        ((after jobId t written es).live.draw (frameAfter jobId t es)).1 ∧
      (after jobId t written es).redraw.2 =
        ((after jobId t written es).live.draw (frameAfter jobId t es)).2 := by
  have hdirty : (after jobId t written es).display.dirty = true := by
    rw [after_display]
    exact (dirty_iff_due jobId es).2 h
  rw [redraw_marked hdirty, after_theme, after_frame]
  exact ⟨rfl, rfl⟩

/-- A redraw that is not due leaves the output alone. -/
lemma redraw_not_due {es : List Event} (h : ¬ Due jobId es) :
    (after jobId t written es).redraw.1.live = (after jobId t written es).live ∧
      (after jobId t written es).redraw.2 = none := by
  have hclean : (after jobId t written es).display.dirty = false := by
    rw [after_display, ← Bool.not_eq_true, dirty_iff_due]
    exact h
  rw [redraw_unmarked hclean]
  exact ⟨rfl, rfl⟩

/-- **What a screen has drawn** are the frames of the redraws that were due. -/
theorem after_live (es : List Event) :
    (after jobId t written es).live.out.lifetime = .unlimited ∧
      (after jobId t written es).live =
        LiveFrame.drawAll { out := { written } } (frames jobId t es) := by
  induction es using List.reverseRecOn with
  | nil => exact ⟨rfl, rfl⟩
  | append_singleton es e ih =>
    obtain ⟨hlifetime, hlive⟩ := ih
    rw [after_snoc]
    cases e with
    | signal g =>
      rw [frames_signal]
      exact ⟨hlifetime, hlive⟩
    | redrawn =>
      rw [frames_redrawn, react]
      by_cases hdue : Due jobId es
      · rw [if_pos hdue, LiveFrame.drawAll_snoc, (redraw_due jobId t written hdue).1, ← hlive]
        exact ⟨(LiveFrame.draw_unlimited hlifetime _).2, rfl⟩
      · rw [if_neg hdue, List.append_nil, (redraw_not_due jobId t written hdue).1]
        exact ⟨hlifetime, hlive⟩

/-- A redraw writes something exactly if it is due. -/
lemma redraw_writes (es : List Event) :
    (after jobId t written es).redraw.1.live.out.written ≠
        (after jobId t written es).live.out.written ↔ Due jobId es := by
  by_cases hdue : Due jobId es
  · rw [(redraw_due jobId t written hdue).1]
    exact iff_of_true (LiveFrame.draw_writes (after_live jobId t written es).1 _) hdue
  · rw [(redraw_not_due jobId t written hdue).1]
    exact iff_of_false (fun h => h rfl) hdue

/-- A redraw succeeds. -/
lemma redraw_succeeds (es : List Event) : (after jobId t written es).redraw.2 = none := by
  by_cases hdue : Due jobId es
  · rw [(redraw_due jobId t written hdue).2]
    exact (LiveFrame.draw_unlimited (after_live jobId t written es).1 _).1
  · exact (redraw_not_due jobId t written hdue).2

/-- A display that has ended and was redrawn since makes no redraw due any more. -/
lemma not_due_final {es : List Event} (h : (Display.follow { jobId } es).1.quitting = true)
    (more : List Event) :
    (Display.follow { jobId } (es ++ .redrawn :: more)).1.quitting = true ∧
      ¬ Due jobId (es ++ .redrawn :: more) := by
  induction more using List.reverseRecOn with
  | nil =>
    rw [Display.follow_snoc]
    exact ⟨h, not_due_redrawn jobId es⟩
  | append_singleton more e ih =>
    obtain ⟨hquitting, hdue⟩ := ih
    rw [← List.cons_append, ← List.append_assoc, Display.follow_snoc]
    cases e with
    | redrawn => exact ⟨hquitting, not_due_redrawn jobId _⟩
    | signal g =>
      rw [due_signal, Display.react, Display.update_ended hquitting]
      exact ⟨hquitting, by simpa [hquitting] using hdue⟩

/-- Nothing is written after the final frame. -/
lemma after_final {es : List Event} (h : (Display.follow { jobId } es).1.quitting = true)
    (more : List Event) :
    (after jobId t written (es ++ .redrawn :: more)).live =
      (after jobId t written (es ++ [.redrawn])).live := by
  induction more using List.reverseRecOn with
  | nil => rfl
  | append_singleton more e ih =>
    rw [← List.cons_append, ← List.append_assoc, after_snoc, ← ih]
    cases e with
    | signal g => rfl
    | redrawn => exact (redraw_not_due jobId t written (not_due_final jobId h more).2).1

/-- **No frame is stale, and none is drawn in vain.** Signals and redraws come to a screen from its
beginning in any order, on an output that works. What the screen has drawn are the frames of the
redraws that were due, each of the view at its moment. A redraw succeeds; it writes something
exactly if it is due, and after it the last frame is that of the current view, and so it is as long
as no redraw is due. Once the display has ended and was redrawn, nothing more is written. -/
theorem redrawn_when_due (es : List Event) :
    (after jobId t written es).display = (Display.follow { jobId } es).1 ∧
    (after jobId t written es).live =
      LiveFrame.drawAll { out := { written } } (frames jobId t es) ∧
    (¬ Due jobId es →
      (frames jobId t es).getLast? = some ((after jobId t written es).display.view.frame t)) ∧
    ((after jobId t written es).redraw.2 = none ∧
      (frames jobId t (es ++ [.redrawn])).getLast? =
        some ((after jobId t written es).redraw.1.display.view.frame t)) ∧
    ((after jobId t written es).redraw.1.live.out.written ≠
      (after jobId t written es).live.out.written ↔ Due jobId es) ∧
    ((after jobId t written es).display.quitting = true →
      ∀ more, (after jobId t written (es ++ .redrawn :: more)).live =
        (after jobId t written es).redraw.1.live) := by
  refine ⟨after_display jobId t written es, (after_live jobId t written es).2, fun hdue => ?_,
    ⟨redraw_succeeds jobId t written es, ?_⟩, redraw_writes jobId t written es,
    fun hquitting more => ?_⟩
  · rw [after_frame]
    exact last_frame jobId t hdue
  · rw [← after_redrawn, after_frame]
    exact last_frame jobId t (not_due_redrawn jobId es)
  · rw [after_display] at hquitting
    rw [after_final jobId t written hquitting, after_redrawn]

/-- Two redraws at the beginning, and an interrupt behind a report. -/
def interruptedRedraws : List Event :=
  [.redrawn, .redrawn, .signal (.report (.ofJob "j" {} .epoch)), .signal .interrupt]

/-- The second redraw writes nothing; the one after the interrupt draws the final frame. -/
theorem redrawn_when_due_interrupted :
    ¬ Due "j" [.redrawn] ∧
    (after "j" ⟨true⟩ "" [.redrawn]).redraw.1.live.out.written =
      (after "j" ⟨true⟩ "" [.redrawn]).live.out.written ∧
    (after "j" ⟨true⟩ "" interruptedRedraws).display.quitting = true ∧
    ∀ more, (after "j" ⟨true⟩ "" (interruptedRedraws ++ .redrawn :: more)).live =
      (after "j" ⟨true⟩ "" interruptedRedraws).redraw.1.live := by
  have hdue : ¬ Due "j" [.redrawn] := by decide
  have hquitting : (after "j" ⟨true⟩ "" interruptedRedraws).display.quitting = true := rfl
  obtain ⟨-, -, -, -, hwrites, -⟩ := redrawn_when_due "j" ⟨true⟩ "" [.redrawn]
  obtain ⟨-, -, -, -, -, hfinal⟩ := redrawn_when_due "j" ⟨true⟩ "" interruptedRedraws
  exact ⟨hdue, not_not.1 fun h => hdue (hwrites.1 h), hquitting, hfinal hquitting⟩

end Screen

end JobWatch
