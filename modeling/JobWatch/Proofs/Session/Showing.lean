import JobWatch.Proofs.Display.Drawing
import JobWatch.Proofs.Session.Steps

/-!
What the display of an interplay shows.

Wherever the display is, its screen is the one that plays the signals it has taken, and it has
stopped for the reason that those signals give. Its loop ends for three causes: a reason to stop, a
frame that could not be drawn, or a failure of the feed that was heard of before any reason to stop.
-/

namespace JobWatch

namespace Display

/-- A display is ended by the signal for which it gives a reason. -/
lemma update_quitting (d : Display) (g : Signal) :
    (d.update g).1.quitting = (d.quitting || (d.update g).2.isSome) := by
  cases h : d.quitting with
  | true => rw [update_ended h, h]; rfl
  | false => rw [update_running h]; rfl

/-- A display that began to run is ended exactly if it has given a reason to stop. -/
lemma run_quitting {d : Display} (hd : d.quitting = false) (gs : List Signal) :
    (d.run gs).1.quitting = !(d.run gs).2.isEmpty := by
  induction gs using List.reverseRecOn with
  | nil => exact hd
  | append_singleton gs g ih =>
    rw [run_snoc, update_quitting, ih]
    cases (d.run gs).2 with
    | nil => cases ((d.run gs).1.update g).2 <;> rfl
    | cons reason reasons => rfl

end Display

namespace Interplay

variable {φ : Type} {P : Call φ} {x y : Interplay φ} {s₀ : Screen}

/-- The display is in its loop: the screen has played the signals that were taken, every frame was
drawn, and the signals gave these reasons to stop. -/
structure Looping (s₀ : Screen) (stops : List StopReason) (x : Interplay φ) : Prop where
  screen : x.session.screen = (s₀.play x.taken).1
  drawn : (s₀.play x.taken).2 = none
  stops : (s₀.display.run x.taken).2 = stops
  verdict : x.session.verdict = none
  quit : x.quit = none

/-- Why the loop of the display has ended. -/
def LoopEnd (s₀ : Screen) (x : Interplay φ) : Except SessionError Unit → Prop
  | .ok () =>
    (s₀.play x.taken).2 = none ∧ ∃ q, x.quit = some q ∧ (s₀.display.run x.taken).2 = [q.reason]
  | .error (.draw e) => (s₀.play x.taken).2 = some e ∧ x.quit = none
  | .error (.feed e) =>
    (s₀.play x.taken).2 = none ∧ (s₀.display.run x.taken).2 = [] ∧ x.session.heard = true ∧
      x.session.ending = some (.error e) ∧ x.quit = none
  | .error (.restore _) => False

/-- What restoring the terminal comes to. -/
def restored (l : LiveFrame) : Except SessionError Unit :=
  match l.finish.2 with
  | some e => .error (.restore e)
  | none => .ok ()

lemma restore_eq (s : Session) :
    s.restore =
      { s with
        screen := { s.screen with live := s.screen.live.finish.1 }
        verdict := some (s.verdict.getD (.ok ()) *> restored s.screen.live) } := rfl

/-- What the display shows, wherever it is. -/
def Stage (s₀ : Screen) (x : Interplay φ) : Prop :=
  match x.display with
  | .starting =>
    x.session.screen = s₀ ∧ x.taken = [] ∧ x.session.verdict = none ∧ x.quit = none
  | .polling | .waiting => x.Looping s₀ []
  | .obeying reason => x.Looping s₀ [reason]
  | .tripping reason _ =>
    x.session.screen = (s₀.play x.taken).1 ∧ (s₀.play x.taken).2 = none ∧
      (∃ q, x.quit = some q ∧ q.reason = reason) ∧ (s₀.display.run x.taken).2 = [reason]
  | .closing | .restoring _ =>
    x.session.screen = (s₀.play x.taken).1 ∧ ∃ v, x.session.verdict = some v ∧ x.LoopEnd s₀ v
  | .joining | .returned =>
    x.session.screen =
      { (s₀.play x.taken).1 with live := (s₀.play x.taken).1.live.finish.1 } ∧
    ∃ v, x.LoopEnd s₀ v ∧
      x.session.verdict = some (v *> restored (s₀.play x.taken).1.live)

lemma LoopEnd.rests {v : Except SessionError Unit} (h : x.LoopEnd s₀ v)
    (hrests : DisplayRests x y) : y.LoopEnd s₀ v := by
  rcases v with (e | e | e) | _
  · rw [LoopEnd, hrests.taken, hrests.quit]
    exact h
  · rw [LoopEnd, hrests.taken, hrests.quit, hrests.heard]
    obtain ⟨hdrawn, hstops, hheard, hending, hquit⟩ := h
    exact ⟨hdrawn, hstops, hheard, hrests.ending _ hending, hquit⟩
  · exact h
  · rw [LoopEnd, hrests.taken, hrests.quit]
    exact h

lemma Looping.rests {stops : List StopReason} (h : x.Looping s₀ stops)
    (hrests : DisplayRests x y) : y.Looping s₀ stops := by
  obtain ⟨hscreen, hdrawn, hstops, hverdict, hquit⟩ := h
  constructor
  · rw [hrests.screen, hrests.taken, hscreen]
  · rw [hrests.taken, hdrawn]
  · rw [hrests.taken, hstops]
  · rw [hrests.verdict, hverdict]
  · rw [hrests.quit, hquit]

/-- What is shown does not change while the display rests. -/
lemma Stage.rests (h : x.Stage s₀) (hrests : DisplayRests x y) : y.Stage s₀ := by
  rw [Stage] at h ⊢
  rw [hrests.display]
  cases hdisplay : x.display with
  | starting =>
    rw [hdisplay] at h
    rw [hrests.screen, hrests.taken, hrests.verdict, hrests.quit]
    exact h
  | polling | waiting | obeying reason =>
    rw [hdisplay] at h
    exact h.rests hrests
  | tripping reason first =>
    rw [hdisplay] at h
    rw [hrests.screen, hrests.taken, hrests.quit]
    exact h
  | closing | restoring first =>
    rw [hdisplay] at h
    obtain ⟨hscreen, v, hverdict, hend⟩ := h
    rw [hrests.screen, hrests.taken, hrests.verdict]
    exact ⟨hscreen, v, hverdict, hend.rests hrests⟩
  | joining | returned =>
    rw [hdisplay] at h
    obtain ⟨hscreen, v, hend, hverdict⟩ := h
    rw [hrests.screen, hrests.taken, hrests.verdict]
    exact ⟨hscreen, v, hend.rests hrests, hverdict⟩

/-! ### The turns of the display -/

lemma take_of_screen (h : x.session.screen = (s₀.play x.taken).1) (g : Signal) :
    x.take g =
      { x with
        session :=
          { x.session with
            screen := (s₀.play (x.taken ++ [g])).1
            verdict := (s₀.play (x.taken ++ [g])).2.map fun e => .error (.draw e) }
        taken := x.taken ++ [g]
        display :=
          if (s₀.play (x.taken ++ [g])).2.isSome then .closing
          else .after ((s₀.display.run x.taken).1.update g).2 } := by
  obtain ⟨screen, stop, hupdate⟩ : ∃ screen stop, x.session.screen.update g = (screen, stop) :=
    ⟨_, _, rfl⟩
  rw [← Screen.play_stop, Screen.play_snoc, ← h, hupdate, take_eq hupdate rfl]
  simp only [Session.redraw, Session.isOver, Option.isSome_map]

/-- A signal that is taken is drawn, and heeded if it gives a reason to stop. -/
lemma Looping.take (h : x.Looping s₀ []) (g : Signal) : (x.take g).Stage s₀ := by
  obtain ⟨hscreen, -, hstops, -, hquit⟩ := h
  have hstops' : (s₀.display.run (x.taken ++ [g])).2 =
      ((s₀.display.run x.taken).1.update g).2.toList := by
    rw [Display.run_snoc, hstops, List.nil_append]
  rw [take_of_screen hscreen]
  rcases hdrawn : (s₀.play (x.taken ++ [g])).2 with _ | e
  · rcases hstop : ((s₀.display.run x.taken).1.update g).2 with _ | reason
    · rw [hstop] at hstops'
      exact ⟨rfl, hdrawn, hstops', rfl, hquit⟩
    · rw [hstop] at hstops'
      exact ⟨rfl, hdrawn, hstops', rfl, hquit⟩
  · exact ⟨rfl, .error (.draw e), rfl, hdrawn, hquit⟩

/-- The first frame is drawn. -/
lemma stage_begin (hscreen : x.session.screen = s₀) (htaken : x.taken = [])
    (hquit : x.quit = none) : Stage s₀
      { x with
        session := x.session.redraw
        display := if x.session.redraw.isOver then .closing else .polling } := by
  have hfirst : x.session.screen.redraw = s₀.play x.taken := by
    rw [hscreen, htaken, Screen.play_nil]
  simp only [Session.redraw, Session.isOver, hfirst, Option.isSome_map]
  rcases hdrawn : (s₀.play x.taken).2 with _ | e
  · refine ⟨rfl, hdrawn, ?_, rfl, hquit⟩
    show (s₀.display.run x.taken).2 = []
    rw [htaken, Display.run_nil]
  · exact ⟨rfl, .error (.draw e), rfl, hdrawn, hquit⟩

/-- The news of a failure ends the loop; that of a good end does not. -/
lemma Looping.hear (h : x.Looping s₀ []) (hending : x.session.ending.isSome) :
    (x.hear.session.isOver = true → x.hear.Stage s₀) ∧
    (x.hear.session.isOver = false → x.hear.Looping s₀ [] ∧ x.hear.display = .polling) := by
  obtain ⟨hscreen, hdrawn, hstops, hverdict, hquit⟩ := h
  obtain ⟨v, hv⟩ := Option.isSome_iff_exists.1 hending
  rcases v with e | _
  · simp only [Interplay.hear, Session.hear, hv, Session.isOver, Option.isSome_some, if_true]
    refine ⟨fun _ => ?_, fun hover => by simp at hover⟩
    exact ⟨hscreen, .error (.feed e), rfl, hdrawn, hstops, rfl, rfl, hquit⟩
  · simp only [Interplay.hear, Session.hear, hv, Session.isOver, hverdict, Option.isSome_none]
    refine ⟨fun hover => by simp at hover, fun _ => ⟨?_, rfl⟩⟩
    exact ⟨hscreen, hdrawn, hstops, rfl, hquit⟩

lemma Stage.looping (h : x.Stage s₀) (hdisplay : x.display = .polling ∨ x.display = .waiting) :
    x.Looping s₀ [] := by
  rcases hdisplay with hdisplay | hdisplay
  · simpa only [Stage, hdisplay] using h
  · simpa only [Stage, hdisplay] using h

lemma Looping.stage (h : x.Looping s₀ []) (hdisplay : x.display = .polling ∨ x.display = .waiting) :
    x.Stage s₀ := by
  rcases hdisplay with hdisplay | hdisplay
  · simpa only [Stage, hdisplay] using h
  · simpa only [Stage, hdisplay] using h

lemma Stage.display (h : x.Stage s₀) (hstep : DisplayStep x y) : y.Stage s₀ := by
  cases hstep with
  | begin hdisplay =>
    simp only [Stage, hdisplay] at h
    obtain ⟨hscreen, htaken, -, hquit⟩ := h
    exact stage_begin hscreen htaken hquit
  | take hdisplay hroute =>
    obtain ⟨hscreen, hdrawn, hstops, hverdict, hquit⟩ := h.looping hdisplay
    refine Looping.take ?_ _
    exact ⟨hscreen, hdrawn, hstops, hverdict, hquit⟩
  | wait hdisplay hqueue hopen =>
    obtain ⟨hscreen, hdrawn, hstops, hverdict, hquit⟩ := h.looping (.inl hdisplay)
    exact ⟨hscreen, hdrawn, hstops, hverdict, hquit⟩
  | closed hdisplay hqueue hclosed hheard => exact (h.looping hdisplay).take _
  | hearClosed hdisplay hqueue hclosed hheard hending hover =>
    exact (((h.looping hdisplay).hear hending).2 hover).1.take _
  | hearFailed hdisplay hheard hending hover => exact ((h.looping hdisplay).hear hending).1 hover
  | listen hdisplay hheard hending =>
    obtain ⟨hfailed, hclosed⟩ := (h.looping (.inr hdisplay)).hear hending
    cases hover : x.hear.session.isOver with
    | true => exact hfailed hover
    | false => exact (hclosed hover).1.stage (.inl (hclosed hover).2)
  | obey hdisplay =>
    simp only [Stage, hdisplay] at h
    exact ⟨h.screen, h.drawn, ⟨_, rfl, rfl⟩, h.stops⟩
  | trip hdisplay =>
    simp only [Stage, hdisplay] at h
    obtain ⟨hscreen, hdrawn, ⟨q, hquit, rfl⟩, hstops⟩ := h
    exact ⟨hscreen, .ok (), rfl, hdrawn, q, hquit, hstops⟩
  | close hdisplay =>
    simp only [Stage, hdisplay] at h
    exact h
  | restore hdisplay =>
    simp only [Stage, hdisplay] at h
    obtain ⟨hscreen, v, hverdict, hend⟩ := h
    rw [restore_eq]
    refine ⟨?_, v, hend, ?_⟩
    · rw [← hscreen]
      rfl
    · show some (x.session.verdict.getD (.ok ()) *> restored x.session.screen.live) = _
      rw [hverdict, hscreen]
      rfl
  | join hdisplay hending =>
    simp only [Stage, hdisplay] at h
    obtain ⟨journal, hjoin⟩ := join_eq hending
    rw [hjoin]
    exact h

/-- What the display shows, and that it runs up to the last signal that it has taken. -/
structure Shows (s₀ : Screen) (x : Interplay φ) : Prop where
  running : s₀.display.Running x.taken
  stage : x.Stage s₀

/-- The display takes one signal in a turn, or none. -/
lemma DisplayStep.taken (h : DisplayStep x y) :
    y.taken = x.taken ∨
      (x.display = .polling ∨ x.display = .waiting) ∧ ∃ g, y.taken = x.taken ++ [g] := by
  cases h with
  | take hdisplay hroute => exact .inr ⟨hdisplay, _, rfl⟩
  | closed hdisplay hqueue hclosed hheard => exact .inr ⟨hdisplay, _, rfl⟩
  | hearClosed hdisplay hqueue hclosed hheard hending hover => exact .inr ⟨hdisplay, _, rfl⟩
  | _ => exact .inl rfl

lemma Shows.display (h : x.Shows s₀) (hfresh : s₀.display.quitting = false)
    (hstep : DisplayStep x y) : y.Shows s₀ := by
  refine ⟨?_, h.stage.display hstep⟩
  rcases hstep.taken with htaken | ⟨hdisplay, g, htaken⟩
  · rw [htaken]
    exact h.running
  · rw [htaken]
    refine h.running.snoc ?_ g
    rw [Display.run_quitting hfresh, (h.stage.looping hdisplay).stops]
    rfl

lemma Shows.rests (h : x.Shows s₀) (hrests : DisplayRests x y) : y.Shows s₀ := by
  refine ⟨?_, h.stage.rests hrests⟩
  rw [hrests.taken]
  exact h.running

lemma Shows.turn (h : x.Shows s₀) (hfresh : s₀.display.quitting = false) (hlast : x.EndsLast)
    {t : Turn} (hturn : x.turn P t = some y) : y.Shows s₀ := by
  rcases step_of_turn hturn with ⟨-, hstep⟩ | ⟨-, hstep⟩ | hstep
  · exact h.rests (hstep.rests hlast)
  · exact h.display hfresh hstep
  · exact h.rests hstep.rests

/-- **What the display shows** keeps to the signals that it has taken, whoever takes a turn. -/
theorem shows_run {m : Monitor} {p : φ} {others : Bool} {ts : List Turn}
    (hfresh : s₀.display.quitting = false)
    (hrun : (start m s₀ p others).run P ts = some x) : x.Shows s₀ ∧ x.EndsLast := by
  refine run_invariant (I := fun x => x.Shows s₀ ∧ x.EndsLast) ?_ ?_ hrun
  · rintro x t y - ⟨hshows, hlast⟩ hturn
    exact ⟨hshows.turn hfresh hlast hturn, hlast.turn hturn⟩
  · exact ⟨⟨Display.running_nil _, rfl, rfl, rfl, rfl⟩, nofun, nofun⟩

end Interplay

end JobWatch
