import JobWatch.Timestamp.Reader
import JobWatch.Proofs.Calendar
import JobWatch.Proofs.Text.Digits
import Mathlib.Tactic.Ring

/-!
An instant is read back from its text.

Every instant that is read lies in a year the reader takes and inside a day; one inside a 60th
second lies at the end of its minute, because offsets are whole minutes. What is written of such an
instant is read as the same instant.
-/

namespace JobWatch.Timestamp

open Binary64 (paddedDigits)
open Text (isDigit_paddedDigits length_paddedDigits toNat_isDigit)

/-! ### Numbers -/

lemma numberOf_eq (ds : List Char) : numberOf ds = Nat.ofDigitChars 10 ds 0 := by
  have hfold : ∀ n, ds.foldl (fun n d => n * 10 + digitValue d) n = Nat.ofDigitChars 10 ds n := by
    induction ds with
    | nil => simp
    | cons d ds ih =>
      intro n
      rw [List.foldl_cons, ih, Nat.ofDigitChars_cons, Nat.mul_comm]
      rfl
  exact hfold 0

lemma numberOf_paddedDigits (width n : Nat) : numberOf (paddedDigits width n) = n := by
  rw [numberOf_eq, Text.ofDigitChars_paddedDigits]

lemma numberOf_lt {ds : List Char} (h : ∀ d ∈ ds, d.isDigit = true) :
    numberOf ds < 10 ^ ds.length := by
  have hfold : ∀ n, ds.foldl (fun n d => n * 10 + digitValue d) n <
      (n + 1) * 10 ^ ds.length := by
    induction ds with
    | nil => simp
    | cons d ds ih =>
      intro n
      have hd := toNat_isDigit (h d (by simp))
      have hzero : '0'.toNat = 48 := rfl
      have hdigit : digitValue d ≤ 9 := by
        rw [digitValue]
        omega
      have hrest := ih (fun x hx => h x (by simp [hx])) (n * 10 + digitValue d)
      have hle : n * 10 + digitValue d + 1 ≤ (n + 1) * 10 := by omega
      calc _ < (n * 10 + digitValue d + 1) * 10 ^ ds.length := hrest
        _ ≤ (n + 1) * 10 * 10 ^ ds.length := Nat.mul_le_mul_right _ hle
        _ = _ := by rw [List.length_cons, Nat.pow_succ', Nat.mul_assoc]
  have := hfold 0
  rw [Nat.zero_add, Nat.one_mul] at this
  exact this

/-- What does not go on with a digit. -/
def EndsDigits (cs : List Char) : Prop := ∀ c ∈ cs.head?, c.isDigit = false

/-- A number is read from its digits, up to the most it may have. -/
lemma readNumber_append {ds rest : List Char} {most : Nat} (h : ∀ d ∈ ds, d.isDigit = true)
    (hne : ds ≠ []) (hlen : ds.length ≤ most) (hrest : EndsDigits rest ∨ ds.length = most) :
    readNumber most (ds ++ rest) = some (numberOf ds, rest) := by
  have htake : ((ds ++ rest).take most).takeWhile Char.isDigit = ds := by
    rw [List.take_append, List.take_of_length_le hlen, List.takeWhile_append_of_pos h]
    rcases hrest with hrest | hrest
    · rcases rest with _ | ⟨c, cs⟩
      · simp
      · have hc : c.isDigit = false := hrest c (by simp)
        rcases most - ds.length with _ | k
        · simp
        · simp [hc]
    · simp [hrest]
  rw [readNumber, htake]
  simp [hne]

/-! ### Fields -/

lemma skipBlanks_cons {c : Char} (h : Text.isBlank c = false) (cs : List Char) :
    skipBlanks (c :: cs) = c :: cs := by
  rw [skipBlanks, List.dropWhile_cons, h]
  rfl

lemma isBlank_digit {c : Char} (h : c.isDigit = true) : Text.isBlank c = false := by
  have := toNat_isDigit h
  simp only [Text.isBlank, Bool.or_eq_false_iff, Bool.and_eq_false_iff, decide_eq_false_iff_not,
    beq_eq_false_iff_ne]
  omega

lemma skipBlanks_paddedDigits (width n : Nat) (rest : List Char) :
    skipBlanks (paddedDigits width n ++ rest) = paddedDigits width n ++ rest := by
  rcases h : paddedDigits width n with _ | ⟨c, cs⟩
  · exact absurd h (Text.paddedDigits_ne_nil width n)
  · rw [List.cons_append, skipBlanks_cons]
    exact isBlank_digit (isDigit_paddedDigits (by rw [h]; simp))

lemma readField_twoDigits {n max : Nat} (hn : n ≤ max) (hmax : max < 100) (rest : List Char) :
    readField max (twoDigits n ++ rest) = some (n, rest) := by
  have hlen : (paddedDigits 2 n).length = 2 := length_paddedDigits (by omega) (by omega)
  have hread : readNumber 2 (paddedDigits 2 n ++ rest) = some (n, rest) := by
    rw [readNumber_append (fun d hd => isDigit_paddedDigits hd) (Text.paddedDigits_ne_nil 2 n)
      (by omega) (.inr hlen), numberOf_paddedDigits]
  simp [readField, twoDigits, skipBlanks_paddedDigits, hread, hn]

lemma readMark_cons {c : Char} (h : Text.isBlank c = false) (cs : List Char) :
    readMark c (c :: cs) = some cs := by
  rw [readMark, skipBlanks_cons h]
  simp

lemma endsDigits_cons {c : Char} (h : c.isDigit = false) (cs : List Char) :
    EndsDigits (c :: cs) := by
  intro d hd
  obtain rfl : c = d := by simpa using hd
  exact h

lemma readYear_minus (cs : List Char) :
    readYear ('-' :: cs) = (readNumber cs.length cs).map fun p => (-(p.1 : Int), p.2) := rfl

lemma readYear_plus (cs : List Char) :
    readYear ('+' :: cs) = (readNumber cs.length cs).map fun p => ((p.1 : Int), p.2) := rfl

lemma readYear_digit {c : Char} (h : c.isDigit = true) (cs : List Char) :
    readYear (c :: cs) = (readNumber 4 (c :: cs)).map fun p => ((p.1 : Int), p.2) := by
  rw [readYear, skipBlanks_cons (isBlank_digit h)]
  split
  · next heq =>
    rw [List.cons.injEq] at heq
    exact absurd h (by rw [heq.1]; decide)
  · next heq =>
    rw [List.cons.injEq] at heq
    exact absurd h (by rw [heq.1]; decide)
  · rfl

/-- A number padded to four digits is read back, before a dash. -/
lemma readNumber_year {n most : Nat} (hmost : (paddedDigits 4 n).length ≤ most) (rest : List Char) :
    readNumber most (paddedDigits 4 n ++ '-' :: rest) = some (n, '-' :: rest) := by
  rw [readNumber_append (fun d hd => isDigit_paddedDigits hd) (Text.paddedDigits_ne_nil 4 n) hmost
    (.inl (endsDigits_cons (by decide) rest)), numberOf_paddedDigits]

/-- A year is read back whatever its sign and its number of digits. -/
lemma readYear_yearChars (y : Int) (rest : List Char) :
    readYear (yearChars y ++ '-' :: rest) = some (y, '-' :: rest) := by
  rw [yearChars]
  split
  · next hy =>
    have hlen : (paddedDigits 4 y.natAbs).length = 4 := length_paddedDigits (by omega) (by omega)
    have hread := readNumber_year (Nat.le_of_eq hlen) rest
    have habs : (y.natAbs : Int) = y := by omega
    rcases h : paddedDigits 4 y.natAbs with _ | ⟨c, cs⟩
    · exact absurd h (Text.paddedDigits_ne_nil 4 y.natAbs)
    · rw [h] at hread
      rw [List.cons_append] at hread ⊢
      rw [readYear_digit (isDigit_paddedDigits (by rw [h]; simp)), hread, Option.map_some, habs]
  · next hy =>
    have hread : readNumber (paddedDigits 4 y.natAbs ++ '-' :: rest).length
        (paddedDigits 4 y.natAbs ++ '-' :: rest) = some (y.natAbs, '-' :: rest) :=
      readNumber_year (by simp) rest
    rw [List.cons_append]
    split
    · have habs : -(y.natAbs : Int) = y := by omega
      rw [readYear_minus, hread, Option.map_some, habs]
    · have habs : (y.natAbs : Int) = y := by omega
      rw [readYear_plus, hread, Option.map_some, habs]

/-! ### Fractions and offsets -/

lemma readFraction_point (cs : List Char) :
    readFraction ('.' :: cs) = (readNumber 9 cs).bind fun p =>
      some (p.1 * Nat.pow 10 (9 - (cs.length - p.2.length)), p.2.dropWhile Char.isDigit) := rfl

lemma readFraction_padded {width n : Nat} (hw : 0 < width) (hle : width ≤ 9) (hn : n < 10 ^ width) :
    readFraction ('.' :: paddedDigits width n ++ ['Z']) = some (n * 10 ^ (9 - width), ['Z']) := by
  have hlen := length_paddedDigits hw hn
  have hread : readNumber 9 (paddedDigits width n ++ ['Z']) = some (n, ['Z']) := by
    rw [readNumber_append (fun d hd => isDigit_paddedDigits hd) (Text.paddedDigits_ne_nil width n)
      (by omega) (.inl (endsDigits_cons (by decide) [])), numberOf_paddedDigits]
  rw [List.cons_append, readFraction_point, hread]
  simp [hlen]

/-- The nanoseconds are read back, however many digits they need. -/
lemma readFraction_fractionChars {n : Nat} (hn : n < 1000000000) :
    readFraction (fractionChars n ++ ['Z']) = some (n, ['Z']) := by
  rw [fractionChars]
  split
  · next hzero =>
    subst hzero
    rfl
  split
  · next hmilli =>
    rw [readFraction_padded (by decide) (by decide) (by omega)]
    have hval : n / 1000000 * 10 ^ (9 - 3) = n := by omega
    rw [hval]
  split
  · next hmicro =>
    rw [readFraction_padded (by decide) (by decide) (by omega)]
    have hval : n / 1000 * 10 ^ (9 - 6) = n := by omega
    rw [hval]
  · rw [readFraction_padded (by decide) (by decide) (by omega)]
    simp

/-! ### Instants -/

/-- An instant as it can be read. -/
structure WellFormed (t : Timestamp) : Prop where
  nanos_lt : t.nanos < 2000000000
  extra : t.isExtraSecond = true → t.secondOfDay % 60 = 59
  year : yearInRange (Calendar.Date.ofDays t.day).year = true

/-- The second that is shown: 60 inside an extra second. -/
def shownSecond (t : Timestamp) : Nat :=
  t.secondOfDay.toNat % 60 + (if t.isExtraSecond then 1 else 0)

lemma secondOfDay_range (t : Timestamp) : 0 ≤ t.secondOfDay ∧ t.secondOfDay < 86400 := by
  unfold secondOfDay
  omega

lemma seconds_eq (t : Timestamp) : t.day * 86400 + t.secondOfDay = t.seconds := by
  unfold day secondOfDay
  omega

/-- The date and the time of day of an instant give the instant. -/
lemma ofLocal?_parts {t : Timestamp} (h : t.WellFormed) :
    ofLocal? (Calendar.Date.ofDays t.day) (t.secondOfDay.toNat / 3600)
        (t.secondOfDay.toNat % 3600 / 60) t.shownSecond (t.nanos % 1000000000) 0 = some t := by
  obtain ⟨hlow, hhigh⟩ := t.secondOfDay_range
  have hcast : (t.secondOfDay.toNat : Int) = t.secondOfDay := Int.toNat_of_nonneg hlow
  have hsplit := t.seconds_eq
  -- second 60 stands for second 59 with a billion nanoseconds more
  have hsecond : (if t.shownSecond = 60 then 59 else t.shownSecond) = t.secondOfDay.toNat % 60 ∧
      (if t.shownSecond = 60 then t.nanos % 1000000000 + 1000000000
        else t.nanos % 1000000000) = t.nanos := by
    have hnanos := h.nanos_lt
    by_cases hextra : t.isExtraSecond = true
    · have hlast := h.extra hextra
      have hlarge : 1000000000 ≤ t.nanos := by simpa [isExtraSecond] using hextra
      have hsixty : t.shownSecond = 60 := by
        rw [shownSecond, if_pos hextra]
        omega
      rw [if_pos hsixty, if_pos hsixty]
      omega
    · have hsmall : t.nanos < 1000000000 := by simpa [isExtraSecond] using hextra
      have hshown : t.shownSecond = t.secondOfDay.toNat % 60 := by
        rw [shownSecond, if_neg hextra, Nat.add_zero]
      have hne : t.shownSecond ≠ 60 := by omega
      rw [if_neg hne, if_neg hne]
      omega
  have hseconds : (Calendar.Date.ofDays t.day).toDays * 86400 +
      ((t.secondOfDay.toNat / 3600 * 3600 + t.secondOfDay.toNat % 3600 / 60 * 60 +
        t.secondOfDay.toNat % 60 : Nat) : Int) - 0 = t.seconds := by
    rw [Calendar.toDays_ofDays]
    omega
  simp only [ofLocal?]
  rw [hsecond.1, hsecond.2, hseconds, Calendar.isValid_ofDays, h.year]
  rfl

/-- The instant of a date and the time of day behind it. -/
def readTime (date : Calendar.Date) (cs : List Char) : Option Timestamp := do
  let (hour, cs) ← readField 23 cs
  let cs ← readMark ':' cs
  let (minute, cs) ← readField 59 cs
  let cs ← readMark ':' cs
  let (second, cs) ← readField 60 cs
  let (nanos, cs) ← readFraction cs
  let (offset, cs) ← readOffset (skipBlanks cs)
  if (skipBlanks cs).isEmpty then ofLocal? date hour minute second nanos offset else none

/-- The time of day of an instant as it is written. -/
def timeChars (t : Timestamp) : List Char :=
  twoDigits (t.secondOfDay.toNat / 3600) ++
    ':' :: (twoDigits (t.secondOfDay.toNat % 3600 / 60) ++
    ':' :: (twoDigits t.shownSecond ++ (fractionChars (t.nanos % 1000000000) ++ ['Z'])))

lemma chars_eq (t : Timestamp) :
    t.chars = yearChars (Calendar.Date.ofDays t.day).year ++
      '-' :: (twoDigits (Calendar.Date.ofDays t.day).month ++
      '-' :: (twoDigits (Calendar.Date.ofDays t.day).day ++ 'T' :: t.timeChars)) := by
  simp only [chars, timeChars, shownSecond, List.append_assoc, List.cons_append]

/-- The time of day is read back behind its date. -/
lemma readTime_timeChars {t : Timestamp} (h : t.WellFormed) :
    readTime (Calendar.Date.ofDays t.day) t.timeChars = some t := by
  obtain ⟨hlow, hhigh⟩ := t.secondOfDay_range
  have hhour : t.secondOfDay.toNat / 3600 ≤ 23 := by omega
  have hminute : t.secondOfDay.toNat % 3600 / 60 ≤ 59 := by omega
  have hsecond : t.shownSecond ≤ 60 := by
    unfold shownSecond
    split <;> omega
  have hcolon : Text.isBlank ':' = false := by decide
  have hfraction := readFraction_fractionChars (Nat.mod_lt t.nanos (by decide : 0 < 1000000000))
  simp only [readTime, timeChars, readField_twoDigits hhour (by decide), readMark_cons hcolon,
    readField_twoDigits hminute (by decide), readField_twoDigits hsecond (by decide), hfraction,
    Option.bind_eq_bind, Option.bind_some]
  exact ofLocal?_parts h

/-- What follows a date is the time of day. -/
lemma ofChars?_date {date : Calendar.Date} (hmonth : date.month ≤ 12) (hday : date.day ≤ 31)
    {cs : List Char} {t : Timestamp} (h : readTime date cs = some t) :
    ofChars? (yearChars date.year ++ '-' :: (twoDigits date.month ++ '-' ::
      (twoDigits date.day ++ 'T' :: cs))) = some t := by
  have hdash : Text.isBlank '-' = false := by decide
  refine Option.bind_eq_some_iff.2 ⟨_, readYear_yearChars date.year _, ?_⟩
  refine Option.bind_eq_some_iff.2 ⟨_, readMark_cons hdash _, ?_⟩
  refine Option.bind_eq_some_iff.2 ⟨_, readField_twoDigits hmonth (by decide) _, ?_⟩
  refine Option.bind_eq_some_iff.2 ⟨_, readMark_cons hdash _, ?_⟩
  exact Option.bind_eq_some_iff.2 ⟨_, readField_twoDigits hday (by decide) _, h⟩

/-- **An instant is read back from its text.** -/
theorem ofChars?_chars {t : Timestamp} (h : t.WellFormed) : ofChars? t.chars = some t := by
  have hvalid := Calendar.isValid_ofDays t.day
  simp only [Calendar.Date.isValid, Bool.and_eq_true, decide_eq_true_eq] at hvalid
  obtain ⟨⟨⟨-, hmonth⟩, -⟩, hday⟩ := hvalid
  have hday31 : (Calendar.Date.ofDays t.day).day ≤ 31 := by
    refine Nat.le_trans hday ?_
    unfold Calendar.monthLength
    split <;> split <;> omega
  rw [chars_eq]
  exact ofChars?_date hmonth hday31 (readTime_timeChars h)

theorem ofText?_text {t : Timestamp} (h : t.WellFormed) : ofText? t.text = some t := by
  rw [ofText?, text, String.toList_ofList, ofChars?_chars h]

/-! ### What is read is well formed -/

lemma readNumber_lt {most n : Nat} {cs rest : List Char} (h : readNumber most cs = some (n, rest)) :
    ∃ len, len ≤ most ∧ len ≤ cs.length ∧ rest = cs.drop len ∧ n < 10 ^ len := by
  unfold readNumber at h
  dsimp only at h
  split at h
  · simp at h
  · simp only [Option.some.injEq, Prod.mk.injEq] at h
    obtain ⟨rfl, rfl⟩ := h
    have hlen := (List.takeWhile_sublist (l := cs.take most) Char.isDigit).length_le
    rw [List.length_take] at hlen
    exact ⟨_, by omega, by omega, rfl, numberOf_lt fun d hd => by
      simpa using List.all_eq_true.1 List.all_takeWhile d hd⟩

lemma readFraction_lt {n : Nat} {cs rest : List Char} (h : readFraction cs = some (n, rest)) :
    n < 1000000000 := by
  unfold readFraction at h
  split at h
  · next cs =>
    simp only [Option.bind_eq_bind, Option.bind_eq_some_iff] at h
    obtain ⟨⟨m, more⟩, hread, hval⟩ := h
    obtain ⟨len, hmost, hlen, rfl, hlt⟩ := readNumber_lt hread
    simp only [Option.some.injEq, Prod.mk.injEq, List.length_drop] at hval
    have hdigits : cs.length - (cs.length - len) = len := by omega
    rw [hdigits] at hval
    calc n = m * 10 ^ (9 - len) := hval.1.symm
      _ < 10 ^ len * 10 ^ (9 - len) := Nat.mul_lt_mul_of_pos_right hlt (Nat.pow_pos (by decide))
      _ = 10 ^ 9 := by rw [← Nat.pow_add, Nat.add_sub_cancel' hmost]
      _ = 1000000000 := by decide
  · simp only [Option.some.injEq, Prod.mk.injEq] at h
    omega

/-- The hours and minutes of an offset, behind its sign. -/
def signedOffset (sign : Int) (cs : List Char) : Option (Int × List Char) :=
  (readPair cs).bind fun p =>
    (readPair (p.2.dropWhile fun c => c = ':' ∨ Text.isBlank c)).bind fun q =>
      if p.1 < 24 ∧ q.1 < 60 then some (sign * (p.1 * 3600 + q.1 * 60), q.2) else none

lemma signedOffset_mod {sign offset : Int} {cs rest : List Char}
    (h : signedOffset sign cs = some (offset, rest)) : offset % 60 = 0 := by
  simp only [signedOffset, Option.bind_eq_some_iff] at h
  obtain ⟨⟨hours, more⟩, -, ⟨minutes, rest'⟩, -, hval⟩ := h
  split at hval
  · simp only [Option.some.injEq, Prod.mk.injEq] at hval
    obtain ⟨rfl, -⟩ := hval
    have hfactor : sign * ((hours : Int) * 3600 + (minutes : Int) * 60) =
        60 * (sign * (hours * 60 + minutes)) := by
      ring
    rw [hfactor]
    exact Int.mul_emod_right 60 _
  · simp at hval

/-- Offsets are whole minutes. -/
lemma readOffset_mod {offset : Int} {cs rest : List Char}
    (h : readOffset cs = some (offset, rest)) : offset % 60 = 0 := by
  unfold readOffset at h
  dsimp only at h
  split at h
  · simp only [Option.some.injEq, Prod.mk.injEq] at h
    omega
  · simp only [Option.some.injEq, Prod.mk.injEq] at h
    omega
  · exact signedOffset_mod h
  · exact signedOffset_mod h
  · exact signedOffset_mod h
  · split at h
    · simp only [Option.some.injEq, Prod.mk.injEq] at h
      omega
    · simp at h
  · simp at h

lemma ofLocal?_wellFormed {date : Calendar.Date} {hour minute second nanos : Nat} {offset : Int}
    {t : Timestamp} (h : ofLocal? date hour minute second nanos offset = some t)
    (hnanos : nanos < 1000000000) (hoffset : offset % 60 = 0) : t.WellFormed := by
  unfold ofLocal? at h
  rw [Option.ite_none_right_eq_some] at h
  obtain ⟨⟨-, hrange⟩, ht⟩ := h
  rw [Option.some.injEq] at ht
  rw [ht, Bool.and_eq_true] at hrange
  refine ⟨?_, fun hextra => ?_, hrange.2⟩
  · rw [← ht]
    dsimp only
    split <;> omega
  · have hsixty : second = 60 := by
      rw [← ht] at hextra
      simp only [isExtraSecond, decide_eq_true_eq] at hextra
      split at hextra
      · assumption
      · omega
    have hseconds := congrArg Timestamp.seconds ht
    simp only [hsixty, if_true] at hseconds
    unfold secondOfDay
    omega

lemma readTime_wellFormed {date : Calendar.Date} {cs : List Char} {t : Timestamp}
    (h : readTime date cs = some t) : t.WellFormed := by
  unfold readTime at h
  obtain ⟨⟨hour, cs⟩, -, h⟩ := Option.bind_eq_some_iff.1 h
  obtain ⟨cs, -, h⟩ := Option.bind_eq_some_iff.1 h
  obtain ⟨⟨minute, cs⟩, -, h⟩ := Option.bind_eq_some_iff.1 h
  obtain ⟨cs, -, h⟩ := Option.bind_eq_some_iff.1 h
  obtain ⟨⟨second, cs⟩, -, h⟩ := Option.bind_eq_some_iff.1 h
  obtain ⟨⟨nanos, cs⟩, hnanos, h⟩ := Option.bind_eq_some_iff.1 h
  obtain ⟨⟨offset, cs⟩, hoffset, h⟩ := Option.bind_eq_some_iff.1 h
  rw [Option.ite_none_right_eq_some] at h
  exact ofLocal?_wellFormed h.2 (readFraction_lt hnanos) (readOffset_mod hoffset)

/-- **Every instant that is read is well formed.** -/
theorem ofChars?_wellFormed {cs : List Char} {t : Timestamp} (h : ofChars? cs = some t) :
    t.WellFormed := by
  unfold ofChars? at h
  obtain ⟨⟨year, cs⟩, -, h⟩ := Option.bind_eq_some_iff.1 h
  obtain ⟨cs, -, h⟩ := Option.bind_eq_some_iff.1 h
  obtain ⟨⟨month, cs⟩, -, h⟩ := Option.bind_eq_some_iff.1 h
  obtain ⟨cs, -, h⟩ := Option.bind_eq_some_iff.1 h
  obtain ⟨⟨day, cs⟩, -, h⟩ := Option.bind_eq_some_iff.1 h
  dsimp only at h
  split at h
  · exact readTime_wellFormed h
  · exact readTime_wellFormed h
  · exact readTime_wellFormed h
  · cases h

lemma ofText?_wellFormed {s : String} {t : Timestamp} (h : ofText? s = some t) :
    t.WellFormed := by
  unfold ofText? at h
  exact ofChars?_wellFormed h

end JobWatch.Timestamp
