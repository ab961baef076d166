import JobWatch.Proofs.Display.Drawing
import JobWatch.Proofs.Display.Console
import Mathlib.Data.List.DropRight

/-!
Frames that are drawn in the place of one another.

On a terminal, a live frame leaves alone what stands above it. Below stands the frame that was
drawn last, whatever was drawn before it, and wherever drawings failed in between: a drawing that
fails leaves the lines to go back over as they were.
-/

namespace JobWatch

namespace LiveFrame

/-- What is asked of a live frame, and what happens to its output in between. -/
inductive Order where
  | draw (frame : String)
  | finish
  | breakOutput
  | repairOutput
  deriving DecidableEq

def perform (l : LiveFrame) : Order → LiveFrame × Option OutputError
  | .draw frame => l.draw frame
  | .finish => l.finish
  | .breakOutput => ({ l with out := l.out.close }, none)
  | .repairOutput => ({ l with out := l.out.reopen }, none)

/-- A live frame that follows its orders, whether they succeed or not. -/
def follow (l : LiveFrame) (os : List Order) : LiveFrame :=
  os.foldl (fun l o => (l.perform o).1) l

lemma follow_snoc (l : LiveFrame) (os : List Order) (o : Order) :
    l.follow (os ++ [o]) = ((l.follow os).perform o).1 := by
  rw [follow, List.foldl_append]
  rfl

/-- What orders come to: whether the output works, and the drawings and the ends that found it
working. -/
structure Account where
  working : Bool := true
  done : List Order := []

namespace Account

def add (a : Account) (o : Order) : Account :=
  match o with
  | .breakOutput => { a with working := false }
  | .repairOutput => { a with working := true }
  | _ => if a.working then { a with done := a.done ++ [o] } else a

def of (os : List Order) : Account := os.foldl add {}

lemma of_snoc (os : List Order) (o : Order) : of (os ++ [o]) = (of os).add o := by
  rw [of, List.foldl_append]
  rfl

def frame? : Order → Option String
  | .draw frame => some frame
  | _ => none

/-- The frame that was drawn last. -/
def standing (a : Account) : String := (a.done.filterMap frame?).getLastD ""

/-- Whether a frame was drawn since the last end. -/
def unfinished (a : Account) : Bool :=
  (a.done.rtakeWhile (· ≠ .finish)).any fun o => (frame? o).isSome

variable {a : Account}

lemma add_draw (h : a.working = true) (frame : String) :
    (a.add (.draw frame)).working = true ∧ (a.add (.draw frame)).standing = frame ∧
    (a.add (.draw frame)).unfinished = true := by
  simp [add, h, standing, unfinished, frame?]

lemma add_finish (h : a.working = true) :
    (a.add .finish).working = true ∧ (a.add .finish).standing = a.standing ∧
    (a.add .finish).unfinished = false := by
  simp [add, h, standing, unfinished, frame?]

end Account

/-- A frame that can be gone back over: whole lines, not too many, and no escape sequences. -/
structure Plain (frame : String) : Prop where
  ends : ∃ body, frame = body ++ "\n"
  few : lineCount frame ≤ maxLines
  noEscape : '\x1b' ∉ frame.toList

/-- Drawing clears the frame that stands there, and writes the new one. -/
lemma run_drawing {l : LiveFrame} {before frame : String}
    (hbefore : before = "" ∨ ∃ body, before = body ++ "\n")
    (hlines : l.drawnLines = lineCount before) (hframe : '\x1b' ∉ frame.toList)
    (above : List (List Char)) :
    (Console.ending above (before.toList.splitOn '\n') (!l.cursorHidden)).run
        (String.join ((l.drawing frame).map Stroke.chars)) =
      .ending above (frame.toList.splitOn '\n') false := by
  have hhide (rows : List (List Char)) :
      (if l.cursorHidden then [] else [.hideCursor]).foldl (fun t (k : Stroke) => t.run k.chars)
        (Console.ending above rows (!l.cursorHidden)) = .ending above rows false := by
    cases l.cursorHidden with
    | true => rfl
    | false => exact Console.run_hideCursor (t := .ending above rows true) rfl
  have hup : (if l.drawnLines > 0 then [.up l.drawnLines] else []).foldl
      (fun t (k : Stroke) => t.run k.chars)
        (Console.ending above (before.toList.splitOn '\n') false) =
      (Console.ending above (before.toList.splitOn '\n') false).up (lineCount before) := by
    rw [hlines]
    by_cases hpos : lineCount before > 0
    · rw [if_pos hpos]
      exact Console.run_up rfl hpos
    · rw [if_neg hpos, Nat.eq_zero_of_not_pos hpos, Console.ending_lines hbefore]
      rfl
  rw [Console.run_strokes, drawing, List.foldl_append, List.foldl_append, hhide, hup]
  show (Console.run _ Stroke.clearBelow.chars).run frame = _
  rw [Console.run_clearBelow rfl, Console.clear_lines hbefore, Console.run_text hframe]

/-- The end of the frames shows the cursor again, if it is hidden. -/
lemma run_finish (b : Bool) (above rows : List (List Char)) :
    (Console.ending above rows (!b)).run
        (String.join ((if b then [Stroke.showCursor] else []).map Stroke.chars)) =
      .ending above rows true := by
  rw [Console.run_strokes]
  cases b with
  | true => exact Console.run_showCursor (t := .ending above rows false) rfl
  | false => rfl

/-- A live frame whose writings, on a terminal with rows above it, show what its orders come to. -/
structure Shows (above : List (List Char)) (a : Account) (l : LiveFrame) : Prop where
  screen : (Console.ending above [[]] true).run l.out.written =
    .ending above (a.standing.toList.splitOn '\n') (!a.unfinished)
  lines : l.drawnLines = lineCount a.standing
  cursor : l.cursorHidden = a.unfinished
  ends : a.standing = "" ∨ ∃ body, a.standing = body ++ "\n"
  lifetime : l.out.lifetime = if a.working then .unlimited else .operations 0

namespace Shows

variable {above : List (List Char)} {a : Account} {l : LiveFrame}

lemma begin (above : List (List Char)) : Shows above {} {} where
  screen := rfl
  lines := rfl
  cursor := rfl
  ends := .inl rfl
  lifetime := rfl

lemma unlimited (h : Shows above a l) (hworking : a.working = true) :
    l.out.lifetime = .unlimited := by
  rw [h.lifetime, if_pos hworking]

lemma broken (h : Shows above a l) (hworking : a.working = false) : l.out.works = false := by
  simp [Output.works, h.lifetime, hworking]

lemma draw {frame : String} (h : Shows above a l) (hframe : Plain frame)
    (hworking : a.working = true) :
    Shows above (a.add (.draw frame)) (l.draw frame).1 := by
  obtain ⟨hworks, hstanding, hunfinished⟩ := Account.add_draw hworking frame
  rw [draw_eq (h.unlimited hworking)]
  refine ⟨?_, ?_, hunfinished.symm, ?_, ?_⟩
  · rw [hstanding, hunfinished, Console.run_append, h.screen, ← h.cursor]
    exact run_drawing h.ends h.lines hframe.noEscape above
  · rw [hstanding]
    exact Nat.min_eq_left hframe.few
  · rw [hstanding]
    exact .inr hframe.ends
  · rw [hworks]
    exact h.unlimited hworking

lemma finish (h : Shows above a l) (hworking : a.working = true) :
    Shows above (a.add .finish) l.finish.1 := by
  obtain ⟨hworks, hstanding, hunfinished⟩ := Account.add_finish hworking
  rw [finish_eq (h.unlimited hworking)]
  refine ⟨?_, ?_, hunfinished.symm, ?_, ?_⟩
  · rw [hstanding, hunfinished, Console.run_append, h.screen, ← h.cursor]
    exact run_finish l.cursorHidden above _
  · rw [hstanding]
    exact h.lines
  · rw [hstanding]
    exact h.ends
  · rw [hworks]
    exact h.unlimited hworking

lemma perform {o : Order} (h : Shows above a l) (ho : ∀ frame, o = .draw frame → Plain frame) :
    Shows above (a.add o) (l.perform o).1 := by
  cases o with
  | draw frame =>
    cases hworking : a.working with
    | true => exact h.draw (ho frame rfl) hworking
    | false =>
      rw [LiveFrame.perform, draw_broken (h.broken hworking)]
      simpa [Account.add, hworking] using h
  | finish =>
    cases hworking : a.working with
    | true => exact h.finish hworking
    | false =>
      rw [LiveFrame.perform, finish_broken (h.broken hworking)]
      simpa [Account.add, hworking] using h
  | breakOutput => exact { h with lifetime := rfl }
  | repairOutput => exact { h with lifetime := rfl }

/-- What a live frame shows after any orders. -/
lemma follow (above : List (List Char)) {os : List Order}
    (h : ∀ frame, .draw frame ∈ os → Plain frame) :
    Shows above (.of os) (LiveFrame.follow {} os) := by
  induction os using List.reverseRecOn with
  | nil => exact begin above
  | append_singleton os o ih =>
    rw [Account.of_snoc, follow_snoc]
    refine (ih fun frame hmem => h frame (List.mem_append_left _ hmem)).perform ?_
    rintro frame rfl
    exact h frame (List.mem_append_right _ List.mem_cons_self)

end Shows

/-- **Frames are redrawn in place.** Whatever is drawn and ended, and whenever the output breaks
and is repaired, the rows above stay, the frame that was drawn last stands below them and nothing
else, the cursor stands behind it, and it is hidden if and only if a frame was drawn since the last
end. While the output is broken nothing is written, and the live frame stays as it is. -/
theorem redrawn_in_place (above : List (List Char)) {os : List Order}
    (h : ∀ frame, .draw frame ∈ os → Plain frame) :
    (({ rows := above ++ [[]], row := above.length, column := 0 } : Console).run
        (follow {} os).out.written =
      { rows := above ++ (Account.of os).standing.toList.splitOn '\n'
        row := above.length + lineCount (Account.of os).standing
        column := 0
        cursorShown := !(Account.of os).unfinished }) ∧
    ((Account.of os).working = true →
      ∀ frame, ((follow {} os).draw frame).2 = none ∧ (follow {} os).finish.2 = none) ∧
    ((Account.of os).working = false →
      ∀ frame, (follow {} os).draw frame = (follow {} os, some .closed) ∧
        (follow {} os).finish = (follow {} os, some .closed)) := by
  have hshows := Shows.follow above h
  refine ⟨?_, fun hworking frame => ?_, fun hworking frame => ?_⟩
  · exact hshows.screen.trans (Console.ending_lines hshows.ends above _)
  · exact ⟨(draw_unlimited (hshows.unlimited hworking) frame).1,
      (strokes_unlimited (hshows.unlimited hworking) _).1⟩
  · exact ⟨draw_broken (hshows.broken hworking), finish_broken (hshows.broken hworking)⟩

/-- Frames with one in between that finds the output broken. -/
def failing : List Order :=
  [.draw "a\nb\n", .breakOutput, .draw "x\n", .repairOutput, .draw "c\n", .finish]

/-- A frame of one line in the place of one of two, with a drawing that failed in between. -/
theorem redrawn_in_place_after_failure :
    (∀ frame, .draw frame ∈ failing → Plain frame) ∧
    (({ rows := ["$ watch".toList, []], row := 1, column := 0 } : Console).run
        (follow {} failing).out.written =
      { rows := ["$ watch".toList, ['c'], []], row := 2, column := 0, cursorShown := true }) := by
  have hplain : ∀ frame, .draw frame ∈ failing → Plain frame := by
    intro frame hmem
    obtain rfl | rfl | rfl : frame = "a\nb\n" ∨ frame = "x\n" ∨ frame = "c\n" := by
      simpa [failing] using hmem
    · exact ⟨⟨"a\nb", rfl⟩, by decide, by decide⟩
    · exact ⟨⟨"x", rfl⟩, by decide, by decide⟩
    · exact ⟨⟨"c", rfl⟩, by decide, by decide⟩
  exact ⟨hplain, (redrawn_in_place ["$ watch".toList] hplain).1⟩

end LiveFrame

end JobWatch
