import JobWatch.Output

/-!
A frame that is redrawn in place: the cursor goes back over the lines of the frame before, what is
below is erased, and the new frame is written. The cursor is hidden while frames are drawn.
-/

namespace JobWatch

/-- What is sent to the terminal. -/
inductive Stroke where
  | hideCursor
  | showCursor
  /-- To the start of the line so many lines up. -/
  | up (lines : Nat)
  /-- Erases from the cursor on. -/
  | clearBelow
  | text (s : String)
  deriving Repr, DecidableEq

def Stroke.chars : Stroke → String
  | hideCursor => "\x1b[?25l"
  | showCursor => "\x1b[?25h"
  | up n => "\x1b[" ++ toString n ++ "F"
  | clearBelow => "\x1b[J"
  | text s => s

structure LiveFrame where
  out : Output := {}
  drawnLines : Nat := 0
  cursorHidden : Bool := false
  deriving Repr, DecidableEq, Inhabited

namespace LiveFrame

/-- The most lines that the cursor goes back over. -/
def maxLines : Nat := 65535

def lineCount (s : String) : Nat := s.toList.count '\n'

/-- One stroke, and what it makes of the cursor. -/
def stroke (l : LiveFrame) (k : Stroke) : Except OutputError LiveFrame := do
  let out ← l.out.write k.chars
  match k with
  | .hideCursor => .ok { l with out, cursorHidden := true }
  | .showCursor => .ok { l with out, cursorHidden := false }
  | _ => .ok { l with out }

/-- Strokes one after the other, and a flush. -/
def strokes (l : LiveFrame) : List Stroke → LiveFrame × Option OutputError
  | [] =>
    match l.out.flush with
    | .ok out => ({ l with out }, none)
    | .error e => (l, some e)
  | k :: ks =>
    match l.stroke k with
    | .ok l => l.strokes ks
    | .error e => (l, some e)

/-- The strokes that put a frame in the place of the one before. -/
def drawing (l : LiveFrame) (frame : String) : List Stroke :=
  (if l.cursorHidden then [] else [.hideCursor]) ++
    (if l.drawnLines > 0 then [.up l.drawnLines] else []) ++ [.clearBelow, .text frame]

def draw (l : LiveFrame) (frame : String) : LiveFrame × Option OutputError :=
  match l.strokes (l.drawing frame) with
  | (l, none) => ({ l with drawnLines := min (lineCount frame) maxLines }, none)
  | (l, some e) => (l, some e)

/-- Leaves the frame where it is and shows the cursor again. -/
def finish (l : LiveFrame) : LiveFrame × Option OutputError :=
  l.strokes (if l.cursorHidden then [.showCursor] else [])

end LiveFrame

end JobWatch
