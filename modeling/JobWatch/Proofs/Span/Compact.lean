import Mathlib.Algebra.BigOperators.Group.List.Basic
import Mathlib.Algebra.Order.Field.Rat
import Mathlib.Data.List.DropRight

/-!
Compact texts of time spans, and how they are read: a sign, and numbers with their units, which
count as the sum of the numbers times the units.

A text has a canonical form, in which nothing could be left out. What has the canonical form is read
back from its text.
-/

namespace JobWatch.Span

/-! ### Numerals -/

/-- A decimal as it is written: the digits before and behind the point. -/
structure Numeral where
  whole : List Char
  fraction : List Char
  deriving Repr, DecidableEq

namespace Numeral

def chars (d : Numeral) : List Char :=
  d.whole ++ if d.fraction = [] then [] else '.' :: d.fraction

/-- What digits behind a point are worth. -/
def behindPoint (ds : List Char) : ℚ := Nat.ofDigitChars 10 ds 0 / 10 ^ ds.length

def value (d : Numeral) : ℚ := Nat.ofDigitChars 10 d.whole 0 + behindPoint d.fraction

/-- Digits with no zero that could be left out, neither in front nor at the end. -/
structure Shortest (d : Numeral) : Prop where
  digits : ∀ c ∈ d.whole ++ d.fraction, c.isDigit = true
  whole_ne_nil : d.whole ≠ []
  leading : d.whole = ['0'] ∨ d.whole.head? ≠ some '0'
  trailing : d.fraction.getLast? ≠ some '0'

/-- The decimal at the front, with what is left. -/
def read? (cs : List Char) : Option (Numeral × List Char) :=
  let whole := cs.takeWhile Char.isDigit
  match cs.dropWhile Char.isDigit with
  | '.' :: rest =>
    let fraction := rest.takeWhile Char.isDigit
    if whole = [] ∨ fraction = [] then none
    else some (⟨whole, fraction⟩, rest.dropWhile Char.isDigit)
  | rest => if whole = [] then none else some (⟨whole, []⟩, rest)

/-- Digits end where something else begins. -/
lemma span_digits {ds : List Char} (hds : ∀ c ∈ ds, c.isDigit = true) (rest : List Char)
    (hrest : ∀ c ∈ rest.head?, c.isDigit = false) :
    (ds ++ rest).takeWhile Char.isDigit = ds ∧ (ds ++ rest).dropWhile Char.isDigit = rest := by
  rw [List.takeWhile_append_of_pos hds, List.dropWhile_append_of_pos hds]
  rcases rest with _ | ⟨c, rest⟩
  · simp
  · have hc : ¬ c.isDigit = true := by simpa using hrest c rfl
    rw [List.takeWhile_cons_of_neg hc, List.dropWhile_cons_of_neg hc]
    simp

/-- A decimal is read back in front of anything that cannot belong to it. -/
lemma read?_digits {d : Numeral} (hdigits : ∀ c ∈ d.whole ++ d.fraction, c.isDigit = true)
    (hne : d.whole ≠ []) {rest : List Char}
    (hrest : ∀ c ∈ rest.head?, c.isDigit = false ∧ c ≠ '.') :
    read? (d.chars ++ rest) = some (d, rest) := by
  have hwhole : ∀ c ∈ d.whole, c.isDigit = true := fun c hc =>
    hdigits c (List.mem_append_left _ hc)
  by_cases hnil : d.fraction = []
  · obtain ⟨htake, hdrop⟩ := span_digits hwhole rest fun c hc => (hrest c hc).1
    have hpoint : ∀ more, rest ≠ '.' :: more := by
      rintro more rfl
      exact (hrest '.' rfl).2 rfl
    rw [chars, if_pos hnil, List.append_nil, read?, htake, hdrop]
    split
    · next more => exact absurd rfl (hpoint more)
    · rw [if_neg hne, ← hnil]
  · have hfraction : ∀ c ∈ d.fraction, c.isDigit = true := fun c hc =>
      hdigits c (List.mem_append_right _ hc)
    obtain ⟨htake, hdrop⟩ := span_digits hwhole ('.' :: (d.fraction ++ rest)) (by simp)
    obtain ⟨htake', hdrop'⟩ := span_digits hfraction rest fun c hc => (hrest c hc).1
    rw [chars, if_neg hnil, List.append_assoc, List.cons_append, read?, htake, hdrop]
    simp only [htake', hdrop', hne, hnil, or_self, if_false]

lemma read?_chars {d : Numeral} (hd : d.Shortest) {rest : List Char}
    (hrest : ∀ c ∈ rest.head?, c.isDigit = false ∧ c ≠ '.') :
    read? (d.chars ++ rest) = some (d, rest) :=
  read?_digits hd.digits hd.whole_ne_nil hrest

lemma length_read? {cs rest : List Char} {d : Numeral} (h : read? cs = some (d, rest)) :
    rest.length < cs.length := by
  have hsplit : (cs.takeWhile Char.isDigit ++ cs.dropWhile Char.isDigit).length = cs.length :=
    congrArg List.length List.takeWhile_append_dropWhile
  rw [List.length_append] at hsplit
  have hpos : cs.takeWhile Char.isDigit ≠ [] → 0 < (cs.takeWhile Char.isDigit).length :=
    List.length_pos_of_ne_nil
  rw [read?] at h
  split at h
  · next more hdrop =>
    rw [hdrop, List.length_cons] at hsplit
    have := (List.dropWhile_suffix Char.isDigit (l := more)).length_le
    grind
  · next more hdrop =>
    grind

end Numeral

/-! ### Units -/

inductive TimeUnit where
  | hour | minute | second | millisecond | microsecond | nanosecond
  deriving Repr, DecidableEq

namespace TimeUnit

def nanos : TimeUnit → Nat
  | hour => 3600000000000
  | minute => 60000000000
  | second => 1000000000
  | millisecond => 1000000
  | microsecond => 1000
  | nanosecond => 1

def chars : TimeUnit → List Char
  | hour => ['h']
  | minute => ['m']
  | second => ['s']
  | millisecond => ['m', 's']
  | microsecond => ['µ', 's']
  | nanosecond => ['n', 's']

/-- The unit at the front, with what is left; a millisecond is tried before a minute. -/
def read? (cs : List Char) : Option (TimeUnit × List Char) :=
  [millisecond, microsecond, nanosecond, hour, minute, second].findSome? fun u =>
    (u.chars.isPrefixOf? cs).map (u, ·)

lemma read?_chars (u : TimeUnit) {rest : List Char} (hrest : ∀ c ∈ rest.head?, c.isDigit = true) :
    read? (u.chars ++ rest) = some (u, rest) := by
  cases u with
  | minute =>
    rcases rest with _ | ⟨c, rest⟩
    · rfl
    · -- A digit is no second letter of a millisecond.
      have hc : ('s' == c) = false := by
        rw [beq_eq_false_iff_ne]
        rintro rfl
        exact absurd (hrest 's' rfl) (by decide)
      simp [read?, chars, List.isPrefixOf?, hc]
  | hour | second | millisecond | microsecond | nanosecond =>
    simp [read?, chars, List.isPrefixOf?]

lemma length_read? {cs rest : List Char} {u : TimeUnit} (h : read? cs = some (u, rest)) :
    rest.length ≤ cs.length := by
  obtain ⟨v, -, hv⟩ := List.exists_of_findSome?_eq_some h
  obtain ⟨more, hmore, heq⟩ := Option.map_eq_some_iff.1 hv
  have hcs := List.isPrefixOf?_eq_some_iff_append_eq.1 hmore
  simp only [Prod.mk.injEq] at heq
  rw [← hcs, heq.2, List.length_append]
  omega

/-- The numbers that go with a unit. -/
def InRange : TimeUnit → ℚ → Prop
  | hour, x => 1 ≤ x
  | minute, x | second, x => x < 60
  | _, x => 1 ≤ x ∧ x < 1000

end TimeUnit

/-! ### Compact values -/

structure Part where
  number : Numeral
  unit : TimeUnit
  deriving Repr, DecidableEq

namespace Part

def chars (p : Part) : List Char := p.number.chars ++ p.unit.chars

def nanos (p : Part) : ℚ := p.number.value * p.unit.nanos

lemma chars_ne_nil {p : Part} (hp : p.number.Shortest) : p.chars ≠ [] := by
  simp [chars, Numeral.chars, hp.whole_ne_nil]

/-- The number and its unit at the front, with what is left. -/
def read? (cs : List Char) : Option (Part × List Char) :=
  match Numeral.read? cs with
  | none => none
  | some (d, more) => (TimeUnit.read? more).map fun (u, rest) => (⟨d, u⟩, rest)

lemma read?_chars {p : Part} (hp : p.number.Shortest) {rest : List Char}
    (hrest : ∀ c ∈ rest.head?, c.isDigit = true) : read? (p.chars ++ rest) = some (p, rest) := by
  have hunit : ∀ c ∈ (p.unit.chars ++ rest).head?, c.isDigit = false ∧ c ≠ '.' := by
    cases hu : p.unit <;> simp [TimeUnit.chars]
  rw [chars, List.append_assoc, read?, Numeral.read?_chars hp hunit]
  dsimp only
  rw [TimeUnit.read?_chars p.unit hrest]
  rfl

lemma isDigit_head? {p : Part} (hp : p.number.Shortest) (rest : List Char) :
    ∀ c ∈ (p.chars ++ rest).head?, c.isDigit = true := by
  intro c hc
  rw [chars, Numeral.chars, List.append_assoc, List.append_assoc,
    List.head?_append_of_ne_nil _ hp.whole_ne_nil] at hc
  exact hp.digits c (List.mem_append_left _ (List.mem_of_mem_head? hc))

lemma length_read? {cs rest : List Char} {p : Part} (h : read? cs = some (p, rest)) :
    rest.length < cs.length := by
  rw [read?] at h
  split at h
  · simp at h
  · next d more hd =>
    obtain ⟨⟨u, rest'⟩, hu, heq⟩ := Option.map_eq_some_iff.1 h
    simp only [Prod.mk.injEq] at heq
    rw [← heq.2]
    exact (TimeUnit.length_read? hu).trans_lt (Numeral.length_read? hd)

/-- The form of a part: no zero that could be left out, a number within the range of its unit, and
no fraction where a smaller unit tells it. -/
structure Canonical (p : Part) : Prop where
  shortest : p.number.Shortest
  inRange : p.unit.InRange p.number.value
  whole : p.unit ∈ [.hour, .minute, .nanosecond] → p.number.fraction = []

end Part

/-- A span as it is written: a sign, and numbers with their units. -/
structure Compact where
  negative : Bool
  parts : List Part
  deriving Repr, DecidableEq

namespace Compact

def chars (c : Compact) : List Char :=
  (if c.negative then ['-'] else []) ++ c.parts.flatMap Part.chars

/-- The sum of the numbers times their units. -/
def total (c : Compact) : ℚ :=
  (if c.negative then -1 else 1) * (c.parts.map Part.nanos).sum

/-- Parts up to the end, at least one. -/
def readParts? (cs : List Char) : Option (List Part) :=
  match h : Part.read? cs with
  | none => none
  | some (p, []) => some [p]
  | some (p, c :: rest) =>
    have := Part.length_read? h
    (readParts? (c :: rest)).map (p :: ·)
termination_by cs.length

/-- Whether the units are some of hours, minutes and seconds in this order, or a single smaller
one. -/
def inOrder (us : List TimeUnit) : Bool :=
  us.isSublist [.hour, .minute, .second] ||
    us ∈ [[.millisecond], [.microsecond], [.nanosecond]]

/-- The compact value that a text tells. -/
def read? (cs : List Char) : Option Compact :=
  let negative := cs.head? == some '-'
  (readParts? (if negative then cs.tail else cs)).bind fun parts =>
    if inOrder (parts.map Part.unit) then some ⟨negative, parts⟩ else none

lemma readParts?_of_read? {cs rest : List Char} {p : Part} (h : Part.read? cs = some (p, rest)) :
    readParts? cs = if rest = [] then some [p] else (readParts? rest).map (p :: ·) := by
  rw [readParts?]
  split
  · next hnone => simp [hnone] at h
  · next q hq =>
    rw [h, Option.some.injEq, Prod.mk.injEq] at hq
    rw [if_pos hq.2, hq.1]
  · next q c more hq =>
    rw [h, Option.some.injEq, Prod.mk.injEq] at hq
    rw [hq.1, hq.2, if_neg (List.cons_ne_nil c more)]

lemma readParts?_chars {ps : List Part} (hne : ps ≠ [])
    (hps : ∀ p ∈ ps, p.number.Shortest) : readParts? (ps.flatMap Part.chars) = some ps := by
  induction ps with
  | nil => exact absurd rfl hne
  | cons p ps ih =>
    obtain ⟨hp, hps⟩ := List.forall_mem_cons.1 hps
    rcases ps with _ | ⟨q, ps⟩
    · rw [List.flatMap_cons, readParts?_of_read? (Part.read?_chars hp (by simp)),
        if_pos List.flatMap_nil]
    · have hrest : ∀ c ∈ ((q :: ps).flatMap Part.chars).head?, c.isDigit = true := by
        rw [List.flatMap_cons]
        exact Part.isDigit_head? (hps q (by simp)) _
      have hread := ih (by simp) hps
      have hmore : (q :: ps).flatMap Part.chars ≠ [] := by
        rw [List.flatMap_cons]
        exact List.append_ne_nil_of_left_ne_nil (Part.chars_ne_nil (hps q (by simp))) _
      rw [List.flatMap_cons, readParts?_of_read? (Part.read?_chars hp hrest), if_neg hmore, hread,
        Option.map_some]

/-- The units that a text may have, from the largest on. -/
def forms : List (List TimeUnit) :=
  [[.nanosecond], [.microsecond], [.millisecond], [.second], [.minute, .second],
    [.hour, .minute, .second]]

/-- The form of a compact value: a unit is used only within its range, a smaller unit stands
wherever a larger one does, and nothing begins with a number below one but the zero of seconds. -/
structure Canonical (c : Compact) : Prop where
  parts : ∀ p ∈ c.parts, p.Canonical
  units : c.parts.map Part.unit ∈ forms
  leading : c = ⟨false, [⟨⟨['0'], []⟩, .second⟩]⟩ ∨ ∀ p ∈ c.parts.head?, 1 ≤ p.number.value

/-- A canonical value is read back from its text. -/
lemma Canonical.read?_chars {c : Compact} (hc : c.Canonical) : read? c.chars = some c := by
  have hshortest : ∀ p ∈ c.parts, p.number.Shortest := fun p hp => (hc.parts p hp).shortest
  have hne : c.parts ≠ [] := by
    intro hnil
    simpa [hnil, forms] using hc.units
  have horder : inOrder (c.parts.map Part.unit) = true := by
    have hall : ∀ us ∈ forms, inOrder us = true := by decide
    exact hall _ hc.units
  have hparts := readParts?_chars hne hshortest
  rcases c with ⟨_ | _, parts⟩
  · have hplain : (parts.flatMap Part.chars).head? ≠ some '-' := by
      rcases parts with _ | ⟨p, ps⟩
      · exact absurd rfl hne
      · intro hminus
        rw [List.flatMap_cons] at hminus
        exact absurd (Part.isDigit_head? (hshortest p (by simp)) _ '-' hminus) (by decide)
    have hchars : chars ⟨false, parts⟩ = parts.flatMap Part.chars := rfl
    rw [read?, hchars, beq_eq_false_iff_ne.2 hplain, if_neg Bool.false_ne_true, hparts,
      Option.bind_some, if_pos horder]
  · have hchars : chars ⟨true, parts⟩ = '-' :: parts.flatMap Part.chars := rfl
    rw [read?, hchars, List.head?_cons, beq_self_eq_true, if_pos rfl, List.tail_cons, hparts,
      Option.bind_some, if_pos horder]

end Compact

end JobWatch.Span
