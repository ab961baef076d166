import JobWatch.Display.Frame
import Mathlib.Data.List.Basic
import Mathlib.Data.List.DropRight
import Mathlib.Data.List.Forall2

/-!
Frames, with colour and without.

A coloured frame without its renditions is the plain frame. The plain frame is laid out in lines,
whose values stand behind one column, and views with ordinary texts are told apart by it.
-/

namespace JobWatch

/-! ### Renditions -/

namespace Rendition

/-- A character of the codes that select a rendition. -/
def isCode (c : Char) : Bool := c.isDigit || c = ';'

/-- What stands behind the rendition at the front, if there is one. -/
def behind? : List Char → Option (List Char)
  | '\x1b' :: '[' :: cs =>
    match cs.dropWhile isCode with
    | 'm' :: rest => some rest
    | _ => none
  | _ => none

lemma length_behind? {cs rest : List Char} (h : behind? cs = some rest) :
    rest.length < cs.length := by
  unfold behind? at h
  split at h
  · next cs =>
    have hle := (List.dropWhile_suffix isCode (l := cs)).length_le
    split at h
    · next more hdrop =>
      rw [hdrop, List.length_cons] at hle
      rw [Option.some.injEq] at h
      subst h
      simp only [List.length_cons]
      omega
    · cases h
  · cases h

/-- Characters without the renditions among them. -/
def without (cs : List Char) : List Char :=
  match h : behind? cs with
  | some rest =>
    have := length_behind? h
    without rest
  | none =>
    match cs with
    | [] => []
    | c :: cs => c :: without cs
termination_by cs.length

/-- A text without its renditions. -/
def strip (s : String) : String := String.ofList (without s.toList)

lemma without_nil : without [] = [] := by
  rw [without]
  rfl

lemma without_of_behind {cs rest : List Char} (h : behind? cs = some rest) :
    without cs = without rest := by
  rw [without]
  split
  · next rest' h' =>
    obtain rfl : rest = rest' := Option.some.inj (h.symm.trans h')
    rfl
  · next h' => simp [h] at h'

lemma without_cons {c : Char} (hc : c ≠ '\x1b') (rest : List Char) :
    without (c :: rest) = c :: without rest := by
  have hbehind : behind? (c :: rest) = none := by
    unfold behind?
    split
    · next heq =>
      rw [List.cons.injEq] at heq
      exact absurd heq.1 hc
    · rfl
  rw [without]
  split
  · next h => simp [hbehind] at h
  · rfl

lemma without_append {cs : List Char} (h : '\x1b' ∉ cs) (rest : List Char) :
    without (cs ++ rest) = cs ++ without rest := by
  induction cs with
  | nil => rfl
  | cons c cs ih =>
    rw [List.mem_cons, not_or] at h
    rw [List.cons_append, without_cons (Ne.symm h.1), ih h.2, List.cons_append]

/-- A text shows another if it comes to that once its renditions are taken out, whatever follows. -/
def Shows (s plain : String) : Prop :=
  ∀ rest, without (s.toList ++ rest) = plain.toList ++ without rest

lemma shows_plain {s : String} (h : '\x1b' ∉ s.toList) : Shows s s :=
  fun rest => without_append h rest

lemma shows_rendition {codes : String} (h : codes.toList.all isCode = true) :
    Shows (Theme.rendition codes) "" := by
  intro rest
  have hlist : (Theme.rendition codes).toList ++ rest =
      '\x1b' :: '[' :: (codes.toList ++ 'm' :: rest) := by
    simp [Theme.rendition]
  have hdrop : (codes.toList ++ 'm' :: rest).dropWhile isCode = 'm' :: rest := by
    rw [List.dropWhile_append_of_pos (List.all_eq_true.1 h)]
    rfl
  have hbehind : behind? ('\x1b' :: '[' :: (codes.toList ++ 'm' :: rest)) = some rest := by
    simp only [behind?, hdrop]
  rw [hlist, without_of_behind hbehind]
  rfl

lemma Shows.append {s s' t t' : String} (hs : Shows s s') (ht : Shows t t') :
    Shows (s ++ t) (s' ++ t') := by
  intro rest
  rw [String.toList_append, String.toList_append, List.append_assoc, hs, ht, List.append_assoc]

lemma Shows.join {α : Type} {f g : α → String} {xs : List α} (h : ∀ x ∈ xs, Shows (f x) (g x)) :
    Shows (String.join (xs.map f)) (String.join (xs.map g)) := by
  induction xs with
  | nil => exact fun _ => rfl
  | cons x xs ih =>
    rw [List.forall_mem_cons] at h
    rw [List.map_cons, List.map_cons, String.join_cons, String.join_cons]
    exact h.1.append (ih h.2)

lemma Shows.strip {s plain : String} (h : Shows s plain) : strip s = plain := by
  have hrest := h []
  rw [List.append_nil, without_nil, List.append_nil] at hrest
  rw [Rendition.strip, hrest, String.ofList_toList]

/-- Renditions on both sides of a text do not show. -/
lemma Shows.between {s before after : String} (h : Shows s s) (hbefore : Shows before "")
    (hafter : Shows after "") : Shows (before ++ s ++ after) s := by
  have hempty : ("" : String) ++ s ++ "" = s := by simp
  simpa only [hempty] using (hbefore.append h).append hafter

lemma Shows.accent {s : String} (h : Shows s s) (t : Theme) : Shows (t.accent s) s := by
  rw [Theme.accent]
  split
  · exact h.between (shows_rendition (by decide)) (shows_rendition (by decide))
  · exact h

lemma Shows.value {s : String} (h : Shows s s) (t : Theme) : Shows (t.value s) s := by
  have hbold : Shows (Theme.rendition "38;5;15" ++ Theme.rendition "1") ("" ++ "") :=
    (shows_rendition (by decide)).append (shows_rendition (by decide))
  rw [Theme.value]
  split
  · exact h.between hbold (shows_rendition (by decide))
  · exact h

end Rendition

namespace View

open Rendition (Shows shows_plain)

/-- The theme without colour. -/
def plain : Theme := ⟨false⟩

/-! ### Colour -/

/-- The texts that a view puts into its frame. -/
def texts (v : View) : List String :=
  (match v.header with
    | .spinner frame => [frame]
    | _ => []) ++ v.rows.flatMap fun r => [r.label, r.value]

variable {v w : View}

lemma shows_headerText (h : ∀ s ∈ v.texts, '\x1b' ∉ s.toList) (t : Theme) :
    Shows (headerText t v.header) (headerText plain v.header) := by
  obtain ⟨header, rows, trailingBlank⟩ := v
  cases header with
  | spinner frame => exact (shows_plain (h frame (by simp [texts]))).accent t
  | success => exact (shows_plain (by decide)).accent t
  | failure => exact (shows_plain (by decide)).accent t
  | blank => exact shows_plain (s := "") (by decide)

lemma shows_rowText {r : Row} (hlabel : '\x1b' ∉ r.label.toList) (hvalue : '\x1b' ∉ r.value.toList)
    (t : Theme) (width : Nat) : Shows (rowText t width r) (rowText plain width r) := by
  have hpadded : '\x1b' ∉ (padded width r.label).toList := by
    simp [padded, hlabel]
  exact (((shows_plain hpadded).append (shows_plain (by decide))).append
    ((shows_plain hvalue).value t)).append (shows_plain (by decide))

/-- Whatever the theme, a frame shows the plain one. -/
lemma shows_frame (h : ∀ s ∈ v.texts, '\x1b' ∉ s.toList) (t : Theme) :
    Shows (v.frame t) (v.frame plain) := by
  have hrows : ∀ r ∈ v.rows, Shows (rowText t (labelWidth v.rows) r)
      (rowText plain (labelWidth v.rows) r) := by
    intro r hr
    have htexts : ∀ s ∈ [r.label, r.value], s ∈ v.texts := fun s hs =>
      List.mem_append_right _ (List.mem_flatMap.2 ⟨r, hr, hs⟩)
    exact shows_rowText (h _ (htexts _ (by simp))) (h _ (htexts _ (by simp))) t _
  refine (((shows_headerText h t).append (shows_plain (by decide))).append
    (Shows.join hrows)).append (shows_plain ?_)
  split <;> decide

/-! ### Layout -/

/-- The glyphs of a header. -/
def glyphs : Header → String
  | .spinner frame => frame
  | .success => "✔✔✔"
  | .failure => "✗✗✗"
  | .blank => ""

/-- What stands behind the table: an empty line or nothing. -/
def ending (trailingBlank : Bool) : List Char := if trailingBlank then ['\n'] else []

/-- The line of a row in a table with a column of values: the label, spaces up to the column, a tab
and the value. -/
def IsLine (column : Nat) (r : Row) (line : List Char) : Prop :=
  ∃ spaces : List Char, (∀ c ∈ spaces, c = ' ') ∧ (r.label.toList ++ spaces).length = column ∧
    line = r.label.toList ++ spaces ++ '\t' :: (r.value.toList ++ ['\n'])

/-- A plain text that shows a view: the glyphs of the header on a line, a line for every row, and an
empty line at the end if the view has one. The column is as far as the longest label goes. -/
structure IsLayout (v : View) (column : Nat) (lines : List (List Char)) (text : List Char) :
    Prop where
  widest : v.rows = [] ∧ column = 0 ∨ ∃ r ∈ v.rows, r.label.length = column
  table : List.Forall₂ (IsLine column) v.rows lines
  text : text = (glyphs v.header).toList ++
    '\n' :: (lines.flatten ++ ending v.trailingBlank)

/-- The tab behind the label stands in the column. -/
lemma IsLine.tab {column : Nat} {r : Row} {cs : List Char} (h : IsLine column r cs) :
    cs[column]? = some '\t' := by
  obtain ⟨spaces, -, rfl, rfl⟩ := h
  rw [List.getElem?_append_right (Nat.le_refl _), Nat.sub_self]
  rfl

/-- The tabs behind the labels of a table are in one column. -/
lemma tab_of_mem_table {column : Nat} {rows : List Row} {lines : List (List Char)}
    (h : List.Forall₂ (IsLine column) rows lines) : ∀ cs ∈ lines, cs[column]? = some '\t' := by
  induction h with
  | nil => simp
  | cons hline _ ih => exact List.forall_mem_cons.2 ⟨hline.tab, ih⟩

/-- The width of the labels is the length of one of them, and no other is longer. -/
lemma labelWidth_spec (rows : List Row) :
    (rows = [] ∧ labelWidth rows = 0 ∨ ∃ r ∈ rows, r.label.length = labelWidth rows) ∧
      ∀ r ∈ rows, r.label.length ≤ labelWidth rows := by
  induction rows with
  | nil => exact ⟨.inl ⟨rfl, rfl⟩, by simp⟩
  | cons r rows ih =>
    obtain ⟨hwidest, hmost⟩ := ih
    have hcons : labelWidth (r :: rows) = max r.label.length (labelWidth rows) := rfl
    refine ⟨.inr ?_, List.forall_mem_cons.2 ⟨by omega, fun r' hr' => ?_⟩⟩
    · rcases Nat.le_total (labelWidth rows) r.label.length with hle | hle
      · exact ⟨r, List.mem_cons_self, by omega⟩
      · obtain ⟨hnil, hzero⟩ | ⟨r', hr', hlength⟩ := hwidest
        · exact ⟨r, List.mem_cons_self, by omega⟩
        · exact ⟨r', List.mem_cons_of_mem _ hr', by omega⟩
    · have := hmost r' hr'
      omega

lemma isLine_rowText {width : Nat} {r : Row} (h : r.label.length ≤ width) :
    IsLine width r (rowText plain width r).toList := by
  refine ⟨List.replicate (width - r.label.length) ' ', ?_, ?_, ?_⟩
  · exact fun c hc => (List.mem_replicate.1 hc).2
  · rw [List.length_append, List.length_replicate, String.length_toList]
    omega
  · simp [rowText, padded, Theme.value, plain]

/-- **The plain frame is laid out.** -/
theorem isLayout_frame (v : View) :
    ∃ column lines, IsLayout v column lines (v.frame plain).toList := by
  obtain ⟨hwidest, hmost⟩ := labelWidth_spec v.rows
  refine ⟨labelWidth v.rows, v.rows.map fun r => (rowText plain (labelWidth v.rows) r).toList,
    hwidest, ?_, ?_⟩
  · rw [List.forall₂_map_right_iff, List.forall₂_same]
    exact fun r hr => isLine_rowText (hmost r hr)
  · have hglyphs : headerText plain v.header = glyphs v.header := by
      cases v.header <;> rfl
    have hend : (if v.trailingBlank then "\n" else "").toList = ending v.trailingBlank := by
      cases v.trailingBlank <;> rfl
    have hjoin (f : Row → String) (rows : List Row) :
        (String.join (rows.map f)).toList = (rows.map fun r => (f r).toList).flatten := by
      induction rows with
      | nil => rfl
      | cons r rows ih => simp [String.join_cons, ih]
    rw [frame, String.toList_append, String.toList_append, String.toList_append, hglyphs, hend,
      hjoin]
    simp

/-! ### Recovery -/

/-- A row whose texts cannot be taken for the end of a label or of a line. -/
structure LegibleRow (r : Row) : Prop where
  noTab : '\t' ∉ r.label.toList
  noBreak : '\n' ∉ r.label.toList
  noSpace : r.label.toList.getLast? ≠ some ' '
  value : '\n' ∉ r.value.toList

/-- A view whose texts cannot be taken for its layout. -/
structure Legible (v : View) : Prop where
  spinner : ∀ frame, v.header = .spinner frame → frame ∈ Display.spinnerFrames
  rows : ∀ r ∈ v.rows, LegibleRow r

/-- A text is split in one way where a character first occurs. -/
lemma split_first {c : Char} {xs ys rest rest' : List Char} (hxs : c ∉ xs) (hys : c ∉ ys)
    (h : xs ++ c :: rest = ys ++ c :: rest') : xs = ys ∧ rest = rest' := by
  have hlonger {xs ys more rest rest' : List Char} (hys : c ∉ ys) (hsplit : ys = xs ++ more)
      (hmore : c :: rest = more ++ c :: rest') : xs = ys ∧ rest = rest' := by
    cases more with
    | nil => exact ⟨by rw [hsplit, List.append_nil], (List.cons.inj hmore).2⟩
    | cons x more =>
      obtain rfl : c = x := (List.cons.inj hmore).1
      exact absurd (by simp [hsplit]) hys
  obtain ⟨more, hsplit, hmore⟩ | ⟨more, hsplit, hmore⟩ := List.append_eq_append_iff.1 h
  · exact hlonger hys hsplit hmore
  · obtain ⟨htext, hrest⟩ := hlonger hxs hsplit hmore
    exact ⟨htext.symm, hrest.symm⟩

/-- A label is found again under the spaces behind it. -/
lemma rdropWhile_padded {label spaces : List Char} (hspaces : ∀ c ∈ spaces, c = ' ')
    (hlabel : label.getLast? ≠ some ' ') : (label ++ spaces).rdropWhile (· = ' ') = label := by
  induction spaces using List.reverseRecOn with
  | nil =>
    rw [List.append_nil, List.rdropWhile_eq_self_iff]
    intro hne hspace
    rw [List.getLast?_eq_some_getLast hne] at hlabel
    exact hlabel (by simpa using hspace)
  | append_singleton spaces c ih =>
    rw [List.forall_mem_append] at hspaces
    have hc : c = ' ' := hspaces.2 c (List.mem_singleton_self c)
    rw [← List.append_assoc, List.rdropWhile_concat_pos _ _ _ (by simpa using hc), ih hspaces.1]

/-- A row is found again in front of anything: its label ends at the first tab, its value at the
first line break after that. -/
lemma IsLine.inj {column column' : Nat} {r r' : Row} {line line' rest rest' : List Char}
    (h : IsLine column r line) (h' : IsLine column' r' line') (hr : LegibleRow r)
    (hr' : LegibleRow r') (heq : line ++ rest = line' ++ rest') : r = r' ∧ rest = rest' := by
  obtain ⟨spaces, hspaces, -, rfl⟩ := h
  obtain ⟨spaces', hspaces', -, rfl⟩ := h'
  have htab {label spaces : List Char} (hlabel : '\t' ∉ label) (hspaces : ∀ c ∈ spaces, c = ' ') :
      '\t' ∉ label ++ spaces := by
    rw [List.mem_append, not_or]
    exact ⟨hlabel, fun hmem => absurd (hspaces _ hmem) (by decide)⟩
  rw [List.append_assoc _ _ rest, List.append_assoc _ _ rest', List.cons_append, List.cons_append]
    at heq
  obtain ⟨hpadded, hbehind⟩ :=
    split_first (htab hr.noTab hspaces) (htab hr'.noTab hspaces') heq
  rw [List.append_assoc, List.append_assoc, List.singleton_append, List.singleton_append]
    at hbehind
  obtain ⟨hvalue, hrest⟩ := split_first hr.value hr'.value hbehind
  have hlabel : r.label.toList = r'.label.toList := by
    rw [← rdropWhile_padded hspaces hr.noSpace, hpadded, rdropWhile_padded hspaces' hr'.noSpace]
  refine ⟨?_, hrest⟩
  rw [Row.mk.injEq]
  exact ⟨String.toList_inj.1 hlabel, String.toList_inj.1 hvalue⟩

/-- The ending is not the beginning of a line, since a line has a tab. -/
lemma IsLine.ne_ending {column : Nat} {r : Row} {line : List Char} (h : IsLine column r line)
    (rest : List Char) (trailingBlank : Bool) : line ++ rest ≠ ending trailingBlank := by
  intro heq
  have htab : '\t' ∈ line ++ rest :=
    List.mem_append_left _ (List.mem_of_getElem? h.tab)
  rw [heq] at htab
  cases trailingBlank <;> exact absurd htab (by decide)

/-- The rows of a table and its ending are found again. -/
lemma table_inj {column column' : Nat} {rows rows' : List Row} {lines lines' : List (List Char)}
    {blank blank' : Bool} (h : List.Forall₂ (IsLine column) rows lines)
    (h' : List.Forall₂ (IsLine column') rows' lines') (hrows : ∀ r ∈ rows, LegibleRow r)
    (hrows' : ∀ r ∈ rows', LegibleRow r)
    (heq : lines.flatten ++ ending blank = lines'.flatten ++ ending blank') :
    rows = rows' ∧ blank = blank' := by
  induction h generalizing rows' lines' with
  | nil =>
    cases h' with
    | nil => exact ⟨rfl, by cases blank <;> cases blank' <;> first | rfl | cases heq⟩
    | cons hline _ =>
      rw [List.flatten_cons, List.append_assoc] at heq
      exact absurd heq.symm (hline.ne_ending _ _)
  | cons hline _ ih =>
    cases h' with
    | nil =>
      rw [List.flatten_cons, List.append_assoc] at heq
      exact absurd heq (hline.ne_ending _ _)
    | cons hline' htable' =>
      rw [List.forall_mem_cons] at hrows hrows'
      rw [List.flatten_cons, List.flatten_cons, List.append_assoc, List.append_assoc] at heq
      obtain ⟨hrow, hrest⟩ := hline.inj hline' hrows.1 hrows'.1 heq
      obtain ⟨htable, hblank⟩ := ih htable' hrows.2 hrows'.2 hrest
      exact ⟨by rw [hrow, htable], hblank⟩

/-- The headers of legible views. -/
def headers : List Header := Display.spinnerFrames.map .spinner ++ [.success, .failure, .blank]

lemma Legible.header_mem (h : v.Legible) : v.header ∈ headers := by
  obtain ⟨header, rows, trailingBlank⟩ := v
  cases header with
  | spinner frame =>
    exact List.mem_append_left _ (List.mem_map_of_mem (h.spinner frame rfl))
  | success => simp [headers]
  | failure => simp [headers]
  | blank => simp [headers]

lemma noBreak_glyphs : ∀ header ∈ headers, '\n' ∉ (glyphs header).toList := by
  decide

lemma glyphs_inj : ∀ header ∈ headers, ∀ header' ∈ headers,
    (glyphs header).toList = (glyphs header').toList → header = header' := by
  decide

/-- **A legible view is found again in its layout.** -/
theorem IsLayout.inj {column column' : Nat} {lines lines' : List (List Char)} {text : List Char}
    (h : IsLayout v column lines text) (h' : IsLayout w column' lines' text) (hv : v.Legible)
    (hw : w.Legible) : v = w := by
  have heq := h.text.symm.trans h'.text
  obtain ⟨hglyphs, hbehind⟩ :=
    split_first (noBreak_glyphs _ hv.header_mem) (noBreak_glyphs _ hw.header_mem) heq
  have hheader := glyphs_inj _ hv.header_mem _ hw.header_mem hglyphs
  obtain ⟨hrows, hblank⟩ := table_inj h.table h'.table hv.rows hw.rows hbehind
  rw [View.mk.injEq]
  exact ⟨hheader, hrows, hblank⟩

/-- **What a frame shows is the view.** Colour adds renditions only. The plain frame is laid out,
with the tabs behind the labels in one column. Legible views with the same plain frame are the
same. -/
theorem frame_faithful (v : View) :
    ((∀ s ∈ v.texts, '\x1b' ∉ s.toList) → Rendition.strip (v.frame ⟨true⟩) = v.frame plain) ∧
    (∃ column lines, IsLayout v column lines (v.frame plain).toList ∧
      ∀ cs ∈ lines, cs[column]? = some '\t') ∧
    (∀ w : View, v.Legible → w.Legible → v.frame plain = w.frame plain → v = w) := by
  refine ⟨fun h => (shows_frame h _).strip, ?_, fun w hv hw heq => ?_⟩
  · obtain ⟨column, lines, hlayout⟩ := isLayout_frame v
    exact ⟨column, lines, hlayout, tab_of_mem_table hlayout.table⟩
  · obtain ⟨column, lines, hlayout⟩ := isLayout_frame v
    obtain ⟨column', lines', hlayout'⟩ := isLayout_frame w
    rw [← heq] at hlayout'
    exact hlayout.inj hlayout' hv hw

/-- Two rows under a moving indicator: one without a value, one with a value around a tab. -/
def tabbed (before : String) : View :=
  ⟨.spinner "∙●∙", [⟨"Größe:", ""⟩, ⟨"n:", before ++ "\tb"⟩], true⟩

/-- Coloured texts come to the same, and a value that begins with the tab is told from one that does
not. -/
theorem frame_faithful_tabbed :
    Rendition.strip ((tabbed "a").frame ⟨true⟩) = "∙●∙\nGröße:\t\nn:    \ta\tb\n\n" ∧
    (tabbed "").frame plain ≠ (tabbed "a").frame plain := by
  have hlegible (before : String) (h : before = "" ∨ before = "a") : (tabbed before).Legible := by
    refine ⟨fun frame hframe => ?_, ?_⟩
    · obtain rfl := Header.spinner.inj hframe
      decide
    · rcases h with rfl | rfl
      all_goals
        refine List.forall_mem_cons.2
          ⟨⟨?_, ?_, ?_, ?_⟩, List.forall_mem_singleton.2 ⟨?_, ?_, ?_, ?_⟩⟩
        all_goals decide
  obtain ⟨hcolor, -, -⟩ := frame_faithful (tabbed "a")
  obtain ⟨-, -, hinj⟩ := frame_faithful (tabbed "")
  refine ⟨(hcolor (by decide)).trans (by decide), fun heq => ?_⟩
  exact absurd (hinj _ (hlegible "" (.inl rfl)) (hlegible "a" (.inr rfl)) heq) (by decide)

end View

end JobWatch
