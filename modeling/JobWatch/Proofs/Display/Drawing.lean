import JobWatch.Proofs.Display.Agreement
import JobWatch.Session
import Mathlib.Data.List.Infix

/-!
What a display draws.

A screen draws a frame at the beginning and after every signal that its display does not drop. What
was drawn last is the view of the display, and the cursor is hidden until the frame is left. A
drawing fails only if the output fails, which then takes nothing any more.
-/

namespace JobWatch

namespace Output

variable {o o' : Output} {s : String} {e : OutputError}

/-- An output fails if and only if it works no more. -/
lemma works_of_write : o.works = false ↔ o.write s = .error .closed := by
  obtain ⟨written, lifetime⟩ := o
  cases lifetime with
  | unlimited => simp [works, write]
  | operations n => cases n <;> simp [works, write]
  | flushes n => cases n <;> simp [works, write]

lemma works_of_flush : o.works = false ↔ o.flush = .error .closed := by
  obtain ⟨written, lifetime⟩ := o
  cases lifetime with
  | unlimited => simp [works, flush]
  | operations n => cases n <;> simp [works, flush]
  | flushes n => cases n <;> simp [works, flush]

lemma write_unlimited (h : o.lifetime = .unlimited) :
    o.write s = .ok { o with written := o.written ++ s } := by
  rw [write, h]

lemma flush_unlimited (h : o.lifetime = .unlimited) : o.flush = .ok o := by
  rw [flush, h]

end Output

/-- Whether the cursor is hidden after a stroke. -/
def Stroke.hides (before : Bool) : Stroke → Bool
  | .hideCursor => true
  | .showCursor => false
  | _ => before

namespace LiveFrame

variable {l l' : LiveFrame} {k : Stroke} {ks : List Stroke} {e : OutputError}

lemma stroke_eq (l : LiveFrame) (k : Stroke) :
    l.stroke k = (l.out.write k.chars).map fun out =>
      { l with out, cursorHidden := k.hides l.cursorHidden } := by
  rw [stroke]
  rcases l.out.write k.chars with e | out
  · rfl
  · cases k <;> rfl

/-- Strokes that fail leave an output that works no more. -/
lemma strokes_failed (h : l.strokes ks = (l', some e)) : l'.out.works = false := by
  induction ks generalizing l with
  | nil =>
    rw [strokes] at h
    split at h
    · simp at h
    · next e' hflush =>
      obtain ⟨rfl, -⟩ := Prod.mk.inj h
      exact Output.works_of_flush.2 (by cases e'; exact hflush)
  | cons k ks ih =>
    rw [strokes, stroke_eq] at h
    rcases hwrite : l.out.write k.chars with e' | out
    · rw [hwrite] at h
      obtain ⟨rfl, -⟩ := Prod.mk.inj h
      exact Output.works_of_write.2 (by cases e'; exact hwrite)
    · rw [hwrite] at h
      exact ih h

/-- An output that works no more takes no strokes. -/
lemma strokes_broken (h : l.out.works = false) (ks : List Stroke) :
    l.strokes ks = (l, some .closed) := by
  cases ks with
  | nil => rw [strokes, Output.works_of_flush.1 h]
  | cons k ks =>
    rw [strokes, stroke_eq, Output.works_of_write.1 h]
    rfl

/-- An output that never fails takes all strokes. -/
lemma strokes_eq (h : l.out.lifetime = .unlimited) (ks : List Stroke) :
    l.strokes ks =
      ({ l with
          out := { l.out with written := l.out.written ++ String.join (ks.map Stroke.chars) }
          cursorHidden := ks.foldl Stroke.hides l.cursorHidden }, none) := by
  induction ks generalizing l with
  | nil =>
    rw [strokes, Output.flush_unlimited h, List.map_nil, String.join_nil, String.append_empty]
    rfl
  | cons k ks ih =>
    rw [strokes, stroke_eq, Output.write_unlimited h, List.map_cons, String.join_cons,
      ← String.append_assoc]
    exact ih h

lemma strokes_unlimited (h : l.out.lifetime = .unlimited) (ks : List Stroke) :
    (l.strokes ks).2 = none ∧ (l.strokes ks).1.out.lifetime = .unlimited := by
  rw [strokes_eq h]
  exact ⟨rfl, h⟩

lemma drawing_hides (l : LiveFrame) (frame : String) :
    (l.drawing frame).foldl Stroke.hides l.cursorHidden = true := by
  rw [drawing]
  cases l.cursorHidden <;> by_cases hlines : l.drawnLines > 0 <;> simp [hlines, Stroke.hides]

/-- What a frame that is drawn leaves behind. -/
lemma draw_eq (h : l.out.lifetime = .unlimited) (frame : String) :
    l.draw frame =
      ({ out := { l.out with
          written := l.out.written ++ String.join ((l.drawing frame).map Stroke.chars) }
         drawnLines := min (lineCount frame) maxLines
         cursorHidden := true }, none) := by
  rw [draw, strokes_eq h, drawing_hides]

lemma draw_unlimited (h : l.out.lifetime = .unlimited) (frame : String) :
    (l.draw frame).2 = none ∧ (l.draw frame).1.out.lifetime = .unlimited := by
  rw [draw_eq h]
  exact ⟨rfl, h⟩

/-- A frame that is drawn is not drawn in silence, even if it is empty. -/
lemma draw_writes (h : l.out.lifetime = .unlimited) (frame : String) :
    (l.draw frame).1.out.written ≠ l.out.written := by
  rw [draw_eq h]
  intro hsame
  have hlength := congrArg String.length hsame
  have hclear : 0 < Stroke.clearBelow.chars.length := by decide
  simp only [drawing, List.map_append, List.map_cons, String.join_append, String.join_cons,
    String.length_append] at hlength
  omega

lemma finish_eq (h : l.out.lifetime = .unlimited) :
    l.finish =
      ({ l with
          out := { l.out with
            written := l.out.written ++
              String.join ((if l.cursorHidden then [Stroke.showCursor] else []).map Stroke.chars) }
          cursorHidden := false }, none) := by
  rw [finish, strokes_eq h]
  cases hhidden : l.cursorHidden <;> rfl

lemma finish_failed (h : l.finish = (l', some e)) : l'.out.works = false := strokes_failed h

lemma draw_broken {frame : String} (h : l.out.works = false) :
    l.draw frame = (l, some .closed) := by
  rw [draw, strokes_broken h]

lemma finish_broken (h : l.out.works = false) : l.finish = (l, some .closed) :=
  strokes_broken h _

/-- Draws frames one after the other. -/
def drawAll (l : LiveFrame) (frames : List String) : LiveFrame :=
  frames.foldl (fun l frame => (l.draw frame).1) l

lemma drawAll_snoc (l : LiveFrame) (frames : List String) (frame : String) :
    l.drawAll (frames ++ [frame]) = ((l.drawAll frames).draw frame).1 := by
  rw [drawAll, List.foldl_append]
  rfl

end LiveFrame

namespace View

end View

namespace Display

variable (d : Display) (b : Bool) (g : Signal)

/-- The mark for a redraw does not matter to what a signal does. -/
lemma update_marked :
    (({ d with dirty := b }.update g).1.consumeDirty.1 = (d.update g).1.consumeDirty.1) ∧
    ({ d with dirty := b }.update g).2 = (d.update g).2 := by
  rcases Bool.eq_false_or_eq_true d.quitting with h | h
  · rw [update_ended h, update_ended (d := { d with dirty := b }) h]
    exact ⟨rfl, rfl⟩
  · rw [update_running h, update_running (d := { d with dirty := b }) h]
    exact ⟨rfl, rfl⟩

variable {d g}

/-- A signal that is not dropped marks the display for a redraw. -/
lemma update_dirty (h : d.quitting = false) : (d.update g).1.dirty = true := by
  rw [update_running h]

/-- The frames of a display that takes signals: one before the first of them, and one after each. -/
def frames (t : Theme) (d : Display) (gs : List Signal) : List String :=
  gs.inits.map fun before => (d.run before).1.view.frame t

@[simp] lemma length_frames (t : Theme) (d : Display) (gs : List Signal) :
    (d.frames t gs).length = gs.length + 1 := by
  rw [frames, List.length_map, List.length_inits]

lemma frames_snoc (t : Theme) (d : Display) (gs : List Signal) (g : Signal) :
    d.frames t (gs ++ [g]) = d.frames t gs ++ [(d.run (gs ++ [g])).1.view.frame t] := by
  rw [frames, List.inits_append, List.map_append]
  simp [frames]

/-- A display that runs up to the last of its signals. -/
def Running (d : Display) (gs : List Signal) : Prop :=
  ∀ hs g, hs ++ [g] <+: gs → (d.run hs).1.quitting = false

lemma running_nil (d : Display) : d.Running [] := by
  intro hs g h
  simp at h

lemma Running.snoc {d : Display} {gs : List Signal} (h : d.Running gs)
    (hquitting : (d.run gs).1.quitting = false) (g : Signal) : d.Running (gs ++ [g]) := by
  intro hs g' hearlier
  rcases List.prefix_concat_iff.1 hearlier with heq | hbefore
  · obtain ⟨rfl, -⟩ := List.append_inj' heq rfl
    exact hquitting
  · exact h hs g' hbefore

lemma Running.last {d : Display} {gs : List Signal} {g : Signal} (h : d.Running (gs ++ [g])) :
    d.Running gs ∧ (d.run gs).1.quitting = false :=
  ⟨fun hs g' hearlier => h hs g' (hearlier.trans (List.prefix_append gs [g])),
    h gs g (List.prefix_refl _)⟩

end Display

namespace Screen

/-- A screen that draws its first frame, takes signals, and redraws after each. -/
def play (s : Screen) (gs : List Signal) : Screen × Option OutputError :=
  gs.foldl (fun p g => (p.1.update g).1.redraw) s.redraw

lemma play_nil (s : Screen) : s.play [] = s.redraw := rfl

lemma play_snoc (s : Screen) (gs : List Signal) (g : Signal) :
    s.play (gs ++ [g]) = ((s.play gs).1.update g).1.redraw := by
  rw [play, List.foldl_append]
  rfl

lemma redraw_marked {s : Screen} (hd : s.display.dirty = true) :
    s.redraw =
      ({ s with
          display := s.display.consumeDirty.1
          live := (s.live.draw (s.display.view.frame s.theme)).1 },
        (s.live.draw (s.display.view.frame s.theme)).2) := by
  simp only [redraw, Display.consumeDirty, hd, if_true]
  rfl

lemma redraw_unmarked {s : Screen} (hd : s.display.dirty = false) :
    s.redraw = ({ s with display := s.display.consumeDirty.1 }, none) := by
  simp only [redraw, Display.consumeDirty, hd, Bool.false_eq_true, if_false]

lemma redraw_display (s : Screen) : s.redraw.1.display = s.display.consumeDirty.1 := by
  cases hd : s.display.dirty with
  | true => rw [redraw_marked hd]
  | false => rw [redraw_unmarked hd]

lemma redraw_theme (s : Screen) : s.redraw.1.theme = s.theme := by
  cases hd : s.display.dirty with
  | true => rw [redraw_marked hd]
  | false => rw [redraw_unmarked hd]

/-- The display of a screen is the display that takes the signals, with the mark taken. -/
lemma play_display (s : Screen) (gs : List Signal) :
    (s.play gs).1.display = (s.display.run gs).1.consumeDirty.1 := by
  induction gs using List.reverseRecOn with
  | nil => exact redraw_display s
  | append_singleton gs g ih =>
    rw [play_snoc, redraw_display, Display.run_snoc]
    show ((s.play gs).1.display.update g).1.consumeDirty.1 = _
    rw [ih]
    exact (Display.update_marked (s.display.run gs).1 false g).1

lemma play_theme (s : Screen) (gs : List Signal) : (s.play gs).1.theme = s.theme := by
  induction gs using List.reverseRecOn with
  | nil => exact redraw_theme s
  | append_singleton gs g ih =>
    rw [play_snoc, redraw_theme]
    exact ih

/-- The reason that a screen gives to stop is that of its display. -/
lemma play_stop (s : Screen) (gs : List Signal) (g : Signal) :
    ((s.play gs).1.update g).2 = ((s.display.run gs).1.update g).2 := by
  show ((s.play gs).1.display.update g).2 = _
  rw [play_display]
  exact (Display.update_marked (s.display.run gs).1 false g).2

/-- The mark for a redraw does not matter to what is shown. -/
lemma play_view (s : Screen) (gs : List Signal) (g : Signal) :
    ((s.play gs).1.update g).1.display.view = (s.display.run (gs ++ [g])).1.view := by
  have hmarked := (Display.update_marked (s.display.run gs).1 false g).1
  rw [Display.run_snoc]
  show ((s.play gs).1.display.update g).1.consumeDirty.1.view =
    ((s.display.run gs).1.update g).1.consumeDirty.1.view
  rw [play_display]
  exact congrArg Display.view hmarked

variable {s s' : Screen}

/-- Signals that come to a running display mark it for a redraw. -/
lemma play_dirty {gs : List Signal} {g : Signal} (h : s.display.Running (gs ++ [g])) :
    ((s.play gs).1.update g).1.display.dirty = true := by
  have hquitting : (s.play gs).1.display.quitting = false := by
    rw [play_display]
    exact h.last.2
  exact Display.update_dirty hquitting

/-- A screen whose output never fails draws all the frames of its display. -/
lemma play_unlimited (hd : s.display.dirty = true) (hout : s.live.out.lifetime = .unlimited)
    {gs : List Signal} (hgs : s.display.Running gs) :
    (s.play gs).2 = none ∧ (s.play gs).1.live.out.lifetime = .unlimited ∧
    (s.play gs).1.live = s.live.drawAll (s.display.frames s.theme gs) := by
  induction gs using List.reverseRecOn with
  | nil =>
    obtain ⟨hnone, hlifetime⟩ := LiveFrame.draw_unlimited hout (s.display.view.frame s.theme)
    rw [play_nil, redraw_marked hd]
    exact ⟨hnone, hlifetime, rfl⟩
  | append_singleton gs g ih =>
    obtain ⟨-, hlifetime, hlive⟩ := ih hgs.last.1
    obtain ⟨hnone', hlifetime'⟩ := LiveFrame.draw_unlimited hlifetime
      (((s.play gs).1.update g).1.display.view.frame (s.play gs).1.theme)
    rw [play_snoc, redraw_marked (play_dirty hgs)]
    refine ⟨hnone', hlifetime', ?_⟩
    rw [Display.frames_snoc, LiveFrame.drawAll_snoc, ← hlive, ← play_view, ← play_theme s gs]
    rfl

end Screen

end JobWatch
