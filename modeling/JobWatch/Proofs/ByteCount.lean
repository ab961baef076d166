import JobWatch.ByteCount
import JobWatch.Proofs.Binary64
import JobWatch.Proofs.Span.Compact
import JobWatch.Proofs.Text.Digits

/-!
Byte counts, by whole numbers alone.

A count below `2 ^ 49` is scaled without any loss, so its tenths are those of the exact quotient.
Only the tenth part of the tenths is rounded, and by too little to show. Read back, texts are in the
order of the counts.
-/

namespace JobWatch.ByteCount

open Binary64

/-! ### The unit -/

lemma unitIndex_eq (limit n : Nat) : unitIndex limit n = min limit (Nat.log 1024 n) := by
  induction limit generalizing n with
  | zero => rw [unitIndex, Nat.zero_min]
  | succ limit ih =>
    rw [unitIndex]
    split
    · next hlt => rw [Nat.log_of_lt hlt, Nat.min_zero]
    · next hle =>
      have hlog : Nat.log 1024 n = Nat.log 1024 (n / 1024) + 1 :=
        Nat.log_of_one_lt_of_le (by decide) (Nat.not_lt.1 hle)
      rw [ih, hlog, Nat.add_min_add_right]

/-- The largest power of 1024 that is not above a count; 1 below 1024. -/
def unit (bytes : Nat) : Nat := 1024 ^ Nat.log 1024 bytes

/-- The tenths of a unit in a count, halves up. -/
def tenthsIn (bytes : Nat) : Nat := (20 * bytes + unit bytes) / (2 * unit bytes)

lemma unit_le {bytes : Nat} (h : 10 ≤ bytes) : unit bytes ≤ bytes :=
  Nat.pow_log_le_self 1024 (by omega)

lemma lt_unit (bytes : Nat) : bytes < 1024 * unit bytes := by
  have h := Nat.lt_pow_succ_log_self (b := 1024) (by decide) bytes
  rw [pow_succ] at h
  rw [unit]
  omega

lemma log_le {bytes : Nat} (h : bytes < 2 ^ 49) : Nat.log 1024 bytes ≤ 4 := by
  have hlt : Nat.log 1024 bytes < 5 := Nat.log_lt_of_lt_pow' (by decide) (by omega)
  omega

/-! ### Scaling -/

section Scaling

variable {bytes i : Nat}

lemma unit_value (hi : i ≤ 4) : (Binary64.ofNat (1024 ^ i)).value = (2 : ℚ) ^ (10 * i : ℤ) := by
  have hlt : 1024 ^ i < 2 ^ 53 := by
    calc 1024 ^ i ≤ 1024 ^ 4 := Nat.pow_le_pow_right (by decide) hi
      _ < 2 ^ 53 := by decide
  rw [value_ofNat hlt, zpow_mul]
  push_cast
  norm_num

lemma ten_value : (Binary64.ofNat 10).value = (10 : Nat) := value_ofNat (by decide)

/-- The tenths of a unit in a count are a magnitude, before they are rounded. -/
lemma scaled_value (hi : i ≤ 4) (hbytes : bytes < 2 ^ 49) :
    (((Binary64.ofNat bytes).div (.ofNat (1024 ^ i))).mul (.ofNat 10)).value =
      (10 * bytes : Nat) * 2 ^ (-(10 * i : ℤ)) := by
  have hunit : (0 : ℚ) < (Binary64.ofNat (1024 ^ i)).value := by
    rw [unit_value hi]
    positivity
  have hcount : (Binary64.ofNat bytes).value = bytes := value_ofNat (by omega)
  have hquotient : (Binary64.ofNat bytes).value / (Binary64.ofNat (1024 ^ i)).value =
      bytes * 2 ^ (-(10 * i : ℤ)) := by
    rw [hcount, unit_value hi, zpow_neg, div_eq_mul_inv]
  have hdiv : ((Binary64.ofNat bytes).div (.ofNat (1024 ^ i))).value =
      bytes * 2 ^ (-(10 * i : ℤ)) := by
    rw [value_div hunit ⟨bytes, -(10 * i), by omega, by omega, hquotient⟩, hquotient]
  have hproduct : ((Binary64.ofNat bytes).div (.ofNat (1024 ^ i))).value *
      (Binary64.ofNat 10).value = (10 * bytes : Nat) * 2 ^ (-(10 * i : ℤ)) := by
    rw [hdiv, ten_value]
    push_cast
    ring
  rw [value_mul ⟨10 * bytes, -(10 * i), by omega, by omega, hproduct⟩, hproduct]

lemma half_value : (Binary64.ofRatio 1 2).value = 1 / 2 := by
  have h : (Binary64.ofRatio 1 2).value = (1 : Nat) / (2 : Nat) :=
    value_ofRatio_exact two_pos ⟨1, -1, by decide, by decide, by norm_num⟩
  rw [h]
  norm_num

/-- Adding a half is exact as well: where 53 bits would not hold it, the unit is even. -/
lemma representable_half (hbytes : bytes < 2 ^ 49) (hhigh : bytes < 1024 * 1024 ^ i) (hi : i ≤ 4) :
    Representable ((10 * bytes : Nat) * 2 ^ (-(10 * i : ℤ)) + 1 / 2) := by
  rcases i with _ | i
  · refine ⟨20 * bytes + 1, -1, by omega, by decide, ?_⟩
    push_cast
    norm_num
    ring
  · have hhalf : 2 ^ (10 * i + 9) ≤ 2 ^ 39 := Nat.pow_le_pow_right two_pos (by omega)
    refine ⟨10 * bytes + 2 ^ (10 * i + 9), -(10 * (i + 1)), by omega, by omega, ?_⟩
    have hshift : (2 : ℚ) ^ (10 * i + 9) * 2 ^ (-(10 * (i + 1)) : ℤ) = 1 / 2 := by
      rw [← zpow_natCast, ← zpow_add₀ two_ne_zero]
      have hexp : ((10 * i + 9 : Nat) : ℤ) + -(10 * (i + 1)) = -1 := by
        push_cast
        ring
      rw [hexp]
      norm_num
    push_cast
    rw [add_mul, hshift]

/-- **The tenths of a count are those of the exact quotient.** -/
lemma tenths_eq (hi : i ≤ 4) (hbytes : bytes < 2 ^ 49) (hhigh : bytes < 1024 * 1024 ^ i) :
    tenths bytes (1024 ^ i) =
      (Binary64.ofNat ((20 * bytes + 1024 ^ i) / (2 * 1024 ^ i))).div (.ofNat 10) := by
  have hvalue := scaled_value hi hbytes
  have hsum : ((((Binary64.ofNat bytes).div (.ofNat (1024 ^ i))).mul (.ofNat 10)).add
      (.ofRatio 1 2)).value = ((20 * bytes + 1024 ^ i : Nat) : ℚ) / (2 * 1024 ^ i : Nat) := by
    have hunit : (1024 : ℚ) ^ i = 2 ^ (10 * i : ℤ) := by
      rw [zpow_mul]
      norm_num
    rw [value_add (by rw [hvalue, half_value]; exact representable_half hbytes hhigh hi), hvalue,
      half_value, zpow_neg]
    push_cast
    rw [hunit]
    field_simp
    ring
  rw [tenths, floor_eq, hsum, Nat.floor_div_eq_div]

end Scaling

/-! ### Tenths as a magnitude -/

section Tenth

/-- The number of whole units in tenths, halves to even. -/
def wholeOf (q : Nat) : Nat :=
  if q % 10 < 5 ∨ (q % 10 = 5 ∧ q / 10 % 2 = 0) then q / 10 else q / 10 + 1

/-- The tenth part of a number, rounded. -/
def tenth (q : Nat) : Binary64 := (Binary64.ofNat q).div (.ofNat 10)

variable {q : Nat}

lemma tenth_ratio (hq : q < 2 ^ 53) :
    0 < (Binary64.ofNat q).den * (Binary64.ofNat 10).num ∧
      (((Binary64.ofNat q).num * (Binary64.ofNat 10).den : Nat) : ℚ) /
        ((Binary64.ofNat q).den * (Binary64.ofNat 10).num : Nat) = q / 10 := by
  have h := div_eq (Binary64.ofNat q) (y := .ofNat 10) (by rw [ten_value]; norm_num)
  rw [value_ofNat hq, ten_value] at h
  exact_mod_cast h

/-- Halves of units are not rounded. -/
lemma tenth_exact (hq : q < 2 ^ 53) (hfive : q % 5 = 0) : (tenth q).value = q / 10 := by
  obtain ⟨hden, hratio⟩ := tenth_ratio hq
  rw [tenth, Binary64.div, value_ofRatio_exact hden ?_, hratio]
  refine hratio ▸ ⟨q / 5, -1, by omega, by decide, ?_⟩
  have hsplit : (q : ℚ) = 5 * (q / 5 : Nat) := by
    exact_mod_cast (by omega : q = 5 * (q / 5))
  rw [hsplit]
  norm_num
  ring

/-- Other tenths are rounded by too little to show. -/
lemma tenth_near (hlow : 10 ≤ q) (hhigh : q ≤ 10240) : |(tenth q).value - q / 10| ≤ 1 / 100 := by
  obtain ⟨hden, hratio⟩ := tenth_ratio (q := q) (by omega)
  have hlow' : (10 : ℚ) ≤ q := by exact_mod_cast hlow
  have hhigh' : (q : ℚ) ≤ 10240 := by exact_mod_cast hhigh
  have hone : (2 : ℚ) ^ (-1022 : ℤ) ≤ 1 := zpow_le_one_of_nonpos₀ one_le_two (by decide)
  have hnear := abs_value_ofRatio_sub_le_of_normal hden (by rw [hratio]; linarith)
  rw [hratio] at hnear
  rw [tenth, Binary64.div]
  linarith

lemma tenth_lt_ten (hlow : 10 ≤ q) (hhigh : q ≤ 10240) :
    (tenth q).lt (.ofNat 10) = decide (q < 100) := by
  have hnear := abs_le.1 (tenth_near hlow hhigh)
  rw [Bool.eq_iff_iff, lt_iff, ten_value, decide_eq_true_eq]
  push_cast
  rcases Nat.lt_trichotomy q 100 with hless | rfl | hmore
  · have hless' : (q : ℚ) ≤ 99 := by exact_mod_cast Nat.le_of_lt_succ hless
    exact iff_of_true (by linarith) hless
  · rw [tenth_exact (by decide) (by decide)]
    norm_num
  · have hmore' : (101 : ℚ) ≤ q := by exact_mod_cast hmore
    exact iff_of_false (by linarith) (by omega)

/-! ### Digits -/

/-- Below ten units the tenth is written. -/
lemma fixed_one (hlow : 10 ≤ q) (hhigh : q < 100) :
    (tenth q).fixed 1 = Nat.toDigits 10 (q / 10) ++ '.' :: Nat.toDigits 10 (q % 10) := by
  have hround : roundHalfEven ((tenth q).num * Nat.pow 10 1) (tenth q).den = q := by
    refine roundHalfEven_eq_of_near (tenth q).den_pos ?_
    have hnear := abs_le.1 (tenth_near hlow (by omega))
    have hscaled : (((tenth q).num * Nat.pow 10 1 : Nat) : ℚ) / (tenth q).den =
        10 * (tenth q).value := by
      rw [value_eq, Nat.pow_eq]
      push_cast
      ring
    rw [hscaled, abs_lt]
    constructor <;> linarith
  have hdigits : Nat.toDigits 10 q = [(q / 10).digitChar, (q % 10).digitChar] := by
    rw [Nat.toDigits_of_base_le (by decide) hlow, Nat.toDigits_of_lt_base (by omega)]
    rfl
  have hpadded : paddedDigits (1 + 1) q = [(q / 10).digitChar, (q % 10).digitChar] := by
    rw [paddedDigits, hdigits]
    rfl
  rw [fixed, hround, hpadded, Nat.toDigits_of_lt_base (by omega : q / 10 < 10),
    Nat.toDigits_of_lt_base (by omega : q % 10 < 10)]
  rfl

/-- From ten units on only whole units are written. -/
lemma fixed_zero (hlow : 10 ≤ q) (hhigh : q ≤ 10240) :
    (tenth q).fixed 0 = Nat.toDigits 10 (wholeOf q) := by
  have hplain : (tenth q).num * Nat.pow 10 0 = (tenth q).num := Nat.mul_one _
  have hround : roundHalfEven (tenth q).num (tenth q).den = wholeOf q := by
    by_cases hfive : q % 5 = 0
    · have hquotient : ((tenth q).num : ℚ) / (tenth q).den = q / (10 : Nat) := by
        rw [← value_eq, tenth_exact (by omega) hfive]
        norm_num
      rw [roundHalfEven_congr (tenth q).den_pos (by decide) hquotient, roundHalfEven, wholeOf]
      split <;> split <;> omega
    · refine roundHalfEven_eq_of_near (tenth q).den_pos ?_
      have hnear := abs_le.1 (tenth_near hlow hhigh)
      have hwhole : 10 * wholeOf q ≤ q + 4 ∧ q ≤ 10 * wholeOf q + 4 := by
        unfold wholeOf
        split <;> omega
      have hbelow : (10 : ℚ) * wholeOf q ≤ q + 4 := by exact_mod_cast hwhole.1
      have habove : (q : ℚ) ≤ 10 * wholeOf q + 4 := by exact_mod_cast hwhole.2
      rw [← value_eq, abs_lt]
      constructor <;> linarith
  rw [fixed, hplain, hround, if_pos rfl]

end Tenth

/-! ### Texts -/

/-- The number in a text, from tenths of a unit: with one decimal below ten units, else whole. -/
def numberText (q : Nat) : String :=
  if q < 100 then toString (q / 10) ++ "." ++ toString (q % 10) else toString (wholeOf q)

section Text

variable {bytes : Nat} (hlow : 10 ≤ bytes)

include hlow in
lemma tenthsIn_range : 10 ≤ tenthsIn bytes ∧ tenthsIn bytes ≤ 10240 := by
  have hunit : 0 < 2 * unit bytes := Nat.mul_pos two_pos (Nat.pow_pos (by decide))
  have hle := unit_le hlow
  have hlt := lt_unit bytes
  constructor
  · rw [tenthsIn, Nat.le_div_iff_mul_le hunit]
    omega
  · rw [tenthsIn, ← Nat.lt_succ_iff, Nat.div_lt_iff_lt_mul hunit]
    omega

include hlow in
lemma text_eq (hhigh : bytes < 2 ^ 49) :
    text bytes =
      numberText (tenthsIn bytes) ++ " " ++ suffixes.getD (Nat.log 1024 bytes) "" := by
  have hlog := log_le hhigh
  have hindex : unitIndex 6 bytes = Nat.log 1024 bytes := by
    rw [unitIndex_eq, Nat.min_eq_right (by omega)]
  have htenths : tenths bytes (Nat.pow 1024 (Nat.log 1024 bytes)) = tenth (tenthsIn bytes) :=
    tenths_eq hlog hhigh (lt_unit bytes)
  obtain ⟨hten, hmany⟩ := tenthsIn_range hlow
  have htoString (n : Nat) : String.ofList (Nat.toDigits 10 n) = toString n := rfl
  rw [text, if_neg (Nat.not_lt.2 hlow)]
  dsimp only
  rw [hindex, htenths, tenth_lt_ten hten hmany, numberText]
  by_cases hfew : tenthsIn bytes < 100
  · have hpoint (cs ds : List Char) :
        String.ofList (cs ++ '.' :: ds) = String.ofList cs ++ "." ++ String.ofList ds := by
      apply String.ext
      simp
    rw [if_pos (decide_eq_true hfew), if_pos hfew, fixed_one hten hfew, hpoint, htoString,
      htoString]
  · rw [if_neg (by simpa using hfew), if_neg hfew, fixed_zero hten hmany, htoString]

end Text

/-! ### Reading texts back -/

/-- The number of bytes that a text tells: its number, times the unit of its suffix. -/
def read? (s : String) : Option ℚ :=
  match Span.Numeral.read? s.toList with
  | some (d, ' ' :: suffix) =>
    (suffixes.idxOf? (String.ofList suffix)).map fun i => d.value * 1024 ^ i
  | _ => none

/-- What the number in a text is worth. -/
def numberValue (q : Nat) : ℚ := if q < 100 then q / 10 else wholeOf q

/-- The number in a text is the numeral of its value. -/
lemma exists_numeral (q : Nat) :
    ∃ d : Span.Numeral, d.chars = (numberText q).toList ∧ d.value = numberValue q ∧
      (∀ c ∈ d.whole ++ d.fraction, c.isDigit = true) ∧ d.whole ≠ [] := by
  have hdigits {n : Nat} : ∀ c ∈ Nat.toDigits 10 n, c.isDigit = true :=
    fun c => Text.isDigit_toDigits
  have hread (n : Nat) : Nat.ofDigitChars 10 (Nat.toDigits 10 n) 0 = n :=
    Nat.ofDigitChars_toDigits (by decide) (by decide)
  by_cases hfew : q < 100
  · refine ⟨⟨Nat.toDigits 10 (q / 10), Nat.toDigits 10 (q % 10)⟩, ?_, ?_, ?_, Nat.toDigits_ne_nil⟩
    · rw [Span.Numeral.chars, if_neg Nat.toDigits_ne_nil, numberText, if_pos hfew]
      simp
    · have hone : (Nat.toDigits 10 (q % 10)).length = 1 := by
        rw [Nat.toDigits_of_lt_base (Nat.mod_lt q (by decide))]
        rfl
      have hsplit : (q : ℚ) = 10 * (q / 10 : Nat) + (q % 10 : Nat) := by
        exact_mod_cast (Nat.div_add_mod q 10).symm
      rw [Span.Numeral.value, Span.Numeral.behindPoint, hone, hread, hread, numberValue,
        if_pos hfew, hsplit]
      ring
    · exact List.forall_mem_append.2 ⟨hdigits, hdigits⟩
  · refine ⟨⟨Nat.toDigits 10 (wholeOf q), []⟩, ?_, ?_, ?_, Nat.toDigits_ne_nil⟩
    · rw [Span.Numeral.chars, if_pos rfl, numberText, if_neg hfew]
      simp
    · rw [Span.Numeral.value, hread, numberValue, if_neg hfew]
      simp [Span.Numeral.behindPoint]
    · rw [List.append_nil]
      exact hdigits

lemma read?_numberText {i : Nat} (hi : i ≤ 4) (q : Nat) :
    read? (numberText q ++ " " ++ suffixes.getD i "") = some (numberValue q * 1024 ^ i) := by
  obtain ⟨d, hchars, hvalue, hdigits, hne⟩ := exists_numeral q
  have hindex : suffixes.idxOf? (suffixes.getD i "") = some i := by
    have hall : ∀ i ≤ 4, suffixes.idxOf? (suffixes.getD i "") = some i := by decide
    exact hall i hi
  have hlist : (numberText q ++ " " ++ suffixes.getD i "").toList =
      d.chars ++ ' ' :: (suffixes.getD i "").toList := by
    rw [hchars]
    simp
  have hspace : ∀ c ∈ (' ' :: (suffixes.getD i "").toList).head?, c.isDigit = false ∧ c ≠ '.' := by
    rintro c ⟨⟩
    decide
  rw [read?, hlist, Span.Numeral.read?_digits hdigits hne hspace]
  show (suffixes.idxOf? (String.ofList (suffixes.getD i "").toList)).map _ = _
  rw [String.ofList_toList, hindex, ← hvalue]
  rfl

lemma numberValue_mono {q q' : Nat} (h : q ≤ q') : numberValue q ≤ numberValue q' := by
  unfold numberValue
  split
  · next hfew =>
    split
    · gcongr
    · next hmany =>
      have hnine : (q : ℚ) ≤ 99 := by exact_mod_cast Nat.le_of_lt_succ hfew
      have hten : (10 : ℚ) ≤ wholeOf q' := by
        have : 10 ≤ wholeOf q' := by
          unfold wholeOf
          split <;> omega
        exact_mod_cast this
      linarith
  · next hmany =>
    have hwhole : wholeOf q ≤ wholeOf q' := by
      unfold wholeOf
      split <;> split <;> omega
    rw [if_neg (by omega)]
    exact_mod_cast hwhole

/-- Numbers run from one to 1024, so a larger unit never tells less. -/
lemma amount_mono {a b : Nat} (hlow : 10 ≤ a) (hle : a ≤ b) :
    numberValue (tenthsIn a) * unit a ≤ numberValue (tenthsIn b) * unit b := by
  have hone : numberValue 10 = 1 := by norm_num [numberValue]
  have hmost : numberValue 10240 = 1024 := by norm_num [numberValue, wholeOf]
  have hpos : (0 : ℚ) < unit b := by
    exact_mod_cast Nat.pow_pos (by decide)
  rcases (Nat.log_mono_right hle : Nat.log 1024 a ≤ Nat.log 1024 b).eq_or_lt with heq | hlt
  · have hunit : unit a = unit b := by rw [unit, unit, heq]
    have htenths : tenthsIn a ≤ tenthsIn b := by
      rw [tenthsIn, tenthsIn, hunit]
      exact Nat.div_le_div_right (by omega)
    rw [hunit]
    exact mul_le_mul_of_nonneg_right (numberValue_mono htenths) hpos.le
  · have hunits : 1024 * unit a ≤ unit b := by
      rw [unit, unit, ← pow_succ']
      exact Nat.pow_le_pow_right (by decide) hlt
    calc numberValue (tenthsIn a) * unit a
        ≤ 1024 * unit a := by
          rw [← hmost]
          gcongr
          exact numberValue_mono (tenthsIn_range hlow).2
      _ ≤ 1 * unit b := by
          rw [one_mul]
          exact_mod_cast hunits
      _ ≤ numberValue (tenthsIn b) * unit b := by
          rw [← hone]
          gcongr
          exact numberValue_mono (tenthsIn_range (hlow.trans hle)).1

/-- **Byte counts agree with integer arithmetic.** From 10 bytes to `2 ^ 49`, the text of a count is
the number of tenths of its unit, halves up, with one decimal below ten units, and rounded to whole
units from there on, halves to even; and behind a space the suffix of the unit. So what the texts
tell grows with the counts, also from one unit to the next. -/
theorem text_by_integers :
    (∀ bytes, 10 ≤ bytes → bytes < 2 ^ 49 →
      ∃ suffix, ["B", "KiB", "MiB", "GiB", "TiB"][Nat.log 1024 bytes]? = some suffix ∧
        text bytes = numberText (tenthsIn bytes) ++ " " ++ suffix ∧
        read? (text bytes) = some (numberValue (tenthsIn bytes) * unit bytes)) ∧
    (∀ a b, 10 ≤ a → a ≤ b → b < 2 ^ 49 →
      ∃ x y, read? (text a) = some x ∧ read? (text b) = some y ∧ x ≤ y) := by
  have hread {bytes : Nat} (hlow : 10 ≤ bytes) (hhigh : bytes < 2 ^ 49) :
      read? (text bytes) = some (numberValue (tenthsIn bytes) * unit bytes) := by
    rw [text_eq hlow hhigh, read?_numberText (log_le hhigh), unit]
    push_cast
    rfl
  constructor
  · intro bytes hlow hhigh
    have hlog := log_le hhigh
    refine ⟨suffixes.getD (Nat.log 1024 bytes) "", ?_, text_eq hlow hhigh, hread hlow hhigh⟩
    have hall : ∀ i ≤ 4, ["B", "KiB", "MiB", "GiB", "TiB"][i]? = some (suffixes.getD i "") := by
      decide
    exact hall _ hlog
  · intro a b hlow hle hhigh
    exact ⟨_, _, hread hlow (hle.trans_lt hhigh), hread (hlow.trans hle) hhigh,
      amount_mono hlow hle⟩

/-- The last count of a unit, rounded up to as much as the first of the next. -/
theorem text_by_integers_across_units :
    10 ≤ 1048575 ∧ 1048576 < 2 ^ 49 ∧ text 1048575 = "1024 KiB" ∧ text 1048576 = "1.0 MiB" ∧
      ∃ x y, read? (text 1048575) = some x ∧ read? (text 1048576) = some y ∧ x ≤ y :=
  ⟨by decide, by decide, by decide +kernel, by decide +kernel,
    text_by_integers.2 1048575 1048576 (by decide) (by decide) (by decide)⟩

end JobWatch.ByteCount
