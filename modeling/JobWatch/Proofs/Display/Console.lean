import JobWatch.Display.LiveFrame
import JobWatch.Proofs.Text.Digits
import Mathlib.Data.List.TakeDrop

/-!
A terminal of any width and height.

Characters are placed at the cursor, and a line feed goes to the beginning of the next row. An
escape sequence, of a bracket, of what it is given and of a last letter, moves the cursor up, clears
what is below it, or hides or shows it.
-/

namespace JobWatch

/-- What a terminal reads at the moment. -/
inductive Console.Reading where
  | text
  | escape
  /-- A sequence that was given these characters so far. -/
  | control (given : List Char)

structure Console where
  rows : List (List Char)
  row : Nat
  column : Nat
  cursorShown : Bool := true
  reading : Console.Reading := .text

namespace Console

open Text (isDigit_toDigits toNat_isDigit)

/-- A character in the place of the one in a column, with spaces in between. -/
def place (c : Char) (column : Nat) (line : List Char) : List Char :=
  line.takeD column ' ' ++ c :: line.drop (column + 1)

def put (t : Console) (c : Char) : Console :=
  if c = '\n' then
    { t with
        rows := if t.row + 1 < t.rows.length then t.rows else t.rows ++ [[]]
        row := t.row + 1
        column := 0 }
  else { t with rows := t.rows.modify t.row (place c t.column), column := t.column + 1 }

/-- To the start of the line so many lines up. -/
def up (t : Console) (lines : Nat) : Console := { t with row := t.row - lines, column := 0 }

/-- Erases from the cursor on. -/
def clearBelow (t : Console) : Console :=
  { t with rows := t.rows.take t.row ++ [(t.rows.getD t.row []).take t.column] }

def showCursor (t : Console) (b : Bool) : Console := { t with cursorShown := b }

/-- The number that a sequence was given; without one it is one. -/
def number (given : List Char) : Nat := max 1 (Nat.ofDigitChars 10 given 0)

/-- Obeys a sequence by its last letter. -/
def obey (t : Console) (given : List Char) : Char → Console
  | 'F' => t.up (number given)
  | 'J' => if given = [] then t.clearBelow else t
  | 'h' => if given = ['?', '2', '5'] then t.showCursor true else t
  | 'l' => if given = ['?', '2', '5'] then t.showCursor false else t
  | _ => t

/-- Whether a character ends a sequence. -/
def isLast (c : Char) : Bool := '@' ≤ c && c ≤ '~'

def step (t : Console) (c : Char) : Console :=
  match t.reading with
  | .text => if c = '\x1b' then { t with reading := .escape } else t.put c
  | .escape => { t with reading := if c = '[' then .control [] else .text }
  | .control given =>
    if isLast c then { t.obey given c with reading := .text }
    else { t with reading := .control (given ++ [c]) }

def run (t : Console) (s : String) : Console := s.toList.foldl step t

lemma run_append (t : Console) (s u : String) : t.run (s ++ u) = (t.run s).run u := by
  rw [run, String.toList_append, List.foldl_append]
  rfl

/-- The rows of a terminal whose cursor stands at the end of the last row. -/
def ending (above rows : List (List Char)) (shown : Bool) : Console where
  rows := above ++ rows
  row := above.length + rows.length - 1
  column := (rows.getLastD []).length
  cursorShown := shown

/-! ### Text -/

lemma put_lineFeed (above : List (List Char)) (line : List Char) (shown : Bool) :
    (ending above [line] shown).put '\n' = ending (above ++ [line]) [[]] shown := by
  simp [put, ending]

lemma put_char {c : Char} (h : c ≠ '\n') (above : List (List Char)) (line : List Char)
    (shown : Bool) :
    (ending above [line] shown).put c = ending above [line ++ [c]] shown := by
  have hplace : place c line.length line = line ++ [c] := by
    rw [place, List.takeD_eq_take _ (Nat.le_refl _), List.take_length,
      List.drop_eq_nil_of_le (Nat.le_succ _)]
  simp [put, ending, h, hplace, List.modify_eq_take_cons_drop]

/-- A text goes row by row behind what stands there. -/
lemma foldl_text {text : List Char} (h : '\x1b' ∉ text) (above : List (List Char))
    (line : List Char) (shown : Bool) :
    text.foldl step (ending above [line] shown) =
      ending above ((text.splitOn '\n').modifyHead (line ++ ·)) shown := by
  induction text generalizing above line with
  | nil => simp [List.splitOn_nil]
  | cons c text ih =>
    obtain ⟨hc, htext⟩ : '\x1b' ≠ c ∧ '\x1b' ∉ text := by simpa using h
    have hstep : step (ending above [line] shown) c = (ending above [line] shown).put c :=
      if_neg (Ne.symm hc)
    rw [List.foldl_cons, hstep, List.splitOn_cons_eq_if_modifyHead]
    by_cases hfeed : c = '\n'
    · subst hfeed
      rw [put_lineFeed, ih htext]
      rcases hrows : text.splitOn '\n' with _ | ⟨row, rows⟩
      · exact absurd hrows (List.splitOn_ne_nil _ _)
      · simp [ending]
        omega
    · rw [put_char hfeed, ih htext, if_neg (by simpa using hfeed), List.modifyHead_modifyHead]
      congr 2
      funext row
      simp

lemma run_text {text : String} (h : '\x1b' ∉ text.toList) (above : List (List Char))
    (shown : Bool) :
    (ending above [[]] shown).run text = ending above (text.toList.splitOn '\n') shown := by
  rw [run, foldl_text h]
  congr 1
  cases text.toList.splitOn '\n' <;> rfl

lemma length_splitOn (text : List Char) :
    (text.splitOn '\n').length = text.count '\n' + 1 := by
  induction text with
  | nil => rfl
  | cons c text ih =>
    rw [List.splitOn_cons_eq_if_modifyHead, List.count_cons]
    split <;> simp [ih]

/-- A text that ends with a line feed leaves the cursor at the beginning of a row. -/
lemma ending_lines {text : String} (h : text = "" ∨ ∃ body, text = body ++ "\n")
    (above : List (List Char)) (shown : Bool) :
    ending above (text.toList.splitOn '\n') shown =
      { rows := above ++ text.toList.splitOn '\n'
        row := above.length + LiveFrame.lineCount text
        column := 0
        cursorShown := shown } := by
  have hlast : (text.toList.splitOn '\n').getLastD [] = [] := by
    rcases h with rfl | ⟨body, rfl⟩
    · rfl
    · rw [String.toList_append]
      show ((body.toList ++ '\n' :: []).splitOn '\n').getLastD [] = []
      rw [List.splitOn_append_cons_self, List.splitOn_nil, List.getLastD_concat]
  rw [ending, length_splitOn, hlast]
  rfl

/-- Erasing from as many lines up as a text has leaves what is above the text. -/
lemma clear_lines {text : String} (h : text = "" ∨ ∃ body, text = body ++ "\n")
    (above : List (List Char)) (shown : Bool) :
    ((ending above (text.toList.splitOn '\n') shown).up (LiveFrame.lineCount text)).clearBelow =
      ending above [[]] shown := by
  rw [ending_lines h]
  simp [up, clearBelow, ending]

/-! ### Strokes -/

/-- Strokes are drawn one after the other. -/
lemma run_strokes (t : Console) (ks : List Stroke) :
    t.run (String.join (ks.map Stroke.chars)) = ks.foldl (fun t k => t.run k.chars) t := by
  induction ks generalizing t with
  | nil => rfl
  | cons k ks ih => rw [List.map_cons, String.join_cons, run_append, ih, List.foldl_cons]

variable {t : Console}

lemma run_hideCursor (h : t.reading = .text) :
    t.run Stroke.hideCursor.chars = t.showCursor false := by
  obtain ⟨rows, row, column, shown, reading⟩ := t
  subst h
  rfl

lemma run_showCursor (h : t.reading = .text) :
    t.run Stroke.showCursor.chars = t.showCursor true := by
  obtain ⟨rows, row, column, shown, reading⟩ := t
  subst h
  rfl

lemma run_clearBelow (h : t.reading = .text) : t.run Stroke.clearBelow.chars = t.clearBelow := by
  obtain ⟨rows, row, column, shown, reading⟩ := t
  subst h
  rfl

lemma isLast_digit {c : Char} (h : c.isDigit = true) : isLast c = false := by
  have hdigit := toNat_isDigit h
  simp [isLast, Char.le_def, UInt32.le_iff_toNat_le]
  omega

/-- Digits are collected. -/
lemma foldl_digits {digits : List Char} (h : ∀ c ∈ digits, c.isDigit = true)
    (given : List Char) (ht : t.reading = .control given) :
    digits.foldl step t = { t with reading := .control (given ++ digits) } := by
  induction digits generalizing t given with
  | nil => simp [← ht]
  | cons c digits ih =>
    have hc : isLast c = false := isLast_digit (h c List.mem_cons_self)
    have hstep : step t c = { t with reading := .control (given ++ [c]) } := by
      simp [step, ht, hc]
    rw [List.foldl_cons, hstep, ih (fun c hmem => h c (List.mem_cons_of_mem _ hmem)) _ rfl,
      List.append_assoc, List.singleton_append]

lemma run_up (h : t.reading = .text) {n : Nat} (hn : 0 < n) :
    t.run (Stroke.up n).chars = t.up n := by
  have hchars : (Stroke.up n).chars.toList = '\x1b' :: '[' :: (Nat.toDigits 10 n ++ ['F']) := by
    simp [Stroke.chars]
  have hnumber : number (Nat.toDigits 10 n) = n := by
    rw [number, Nat.ofDigitChars_toDigits (by decide) (by decide), Nat.max_eq_right hn]
  obtain ⟨rows, row, column, shown, reading⟩ := t
  subst h
  rw [run, hchars, List.foldl_cons, List.foldl_cons, List.foldl_append,
    foldl_digits (fun c => isDigit_toDigits) [] rfl]
  show { Console.up _ (number ([] ++ Nat.toDigits 10 n)) with reading := .text } = _
  rw [List.nil_append, hnumber]
  rfl

/-- Back over two rows, one in their place. -/
example : ((ending [['$']] [[]] true).run "ab\nc\n\x1b[2F\x1b[Jd\n").rows = [['$'], ['d'], []] := by
  decide

end Console

end JobWatch
