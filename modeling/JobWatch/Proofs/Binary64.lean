import JobWatch.Binary64
import Mathlib.Algebra.Order.Field.Power
import Mathlib.Algebra.Order.Floor.Semifield
import Mathlib.Data.Nat.Log
import Mathlib.Data.Rat.Floor
import Mathlib.Tactic.FieldSimp
import Mathlib.Tactic.Linarith
import Mathlib.Tactic.Positivity
import Mathlib.Tactic.Ring

/-!
How far magnitudes are from the quotients they stand for.

A quotient that 53 bits hold is kept as it is. Any other is moved by at most half a unit of the last
place, which is less than one part in `2 ^ 53` wherever the magnitude is normalised.
-/

namespace JobWatch

/-! ### The nearest integer -/

section Nearest

variable {num den num' den' : Nat}

lemma roundHalfEven_cases (num den : Nat) :
    (roundHalfEven num den = num / den ∧ 2 * (num % den) ≤ den) ∨
      (roundHalfEven num den = num / den + 1 ∧ den ≤ 2 * (num % den)) := by
  unfold roundHalfEven
  dsimp only
  split <;> omega

/-- The integer is at most a half away. -/
lemma abs_roundHalfEven_sub_le (num : Nat) (hden : 0 < den) :
    |(roundHalfEven num den : ℚ) - num / den| ≤ 1 / 2 := by
  have hpos : (0 : ℚ) < den := by exact_mod_cast hden
  have hsplit : (num : ℚ) = den * (num / den : Nat) + (num % den : Nat) := by
    exact_mod_cast (Nat.div_add_mod num den).symm
  have hquotient : (num : ℚ) / den = (num / den : Nat) + (num % den : Nat) / den := by
    rw [eq_comm, ← sub_eq_zero]
    field_simp
    linarith
  have hrest : ((num % den : Nat) : ℚ) / den < 1 := by
    rw [div_lt_one hpos]
    exact_mod_cast Nat.mod_lt num hden
  have hnonneg : (0 : ℚ) ≤ ((num % den : Nat) : ℚ) / den := by positivity
  rw [hquotient, abs_le]
  rcases roundHalfEven_cases num den with ⟨heq, hle⟩ | ⟨heq, hle⟩
  · have hhalf : ((num % den : Nat) : ℚ) / den ≤ 1 / 2 := by
      rw [div_le_div_iff₀ hpos two_pos]
      have : (2 : ℚ) * (num % den : Nat) ≤ den := by exact_mod_cast hle
      linarith
    rw [heq]
    constructor <;> linarith
  · have hhalf : (1 : ℚ) / 2 ≤ ((num % den : Nat) : ℚ) / den := by
      rw [div_le_div_iff₀ two_pos hpos]
      have : (den : ℚ) ≤ 2 * (num % den : Nat) := by exact_mod_cast hle
      linarith
    rw [heq]
    push_cast
    constructor <;> linarith

/-- No other integer is less than a half away. -/
lemma roundHalfEven_eq_of_near {k : Nat} (hden : 0 < den) (h : |(num : ℚ) / den - k| < 1 / 2) :
    roundHalfEven num den = k := by
  have hround := abs_le.1 (abs_roundHalfEven_sub_le num hden)
  have hnear := abs_lt.1 h
  have hlow : (roundHalfEven num den : ℚ) < k + 1 := by linarith
  have hhigh : (k : ℚ) < roundHalfEven num den + 1 := by linarith
  have hlow' : roundHalfEven num den < k + 1 := by exact_mod_cast hlow
  have hhigh' : k < roundHalfEven num den + 1 := by exact_mod_cast hhigh
  omega

lemma roundHalfEven_scale {c : Nat} (hc : 0 < c) (num den : Nat) :
    roundHalfEven (num * c) (den * c) = roundHalfEven num den := by
  have htwice : 2 * (num % den * c) = 2 * (num % den) * c := (Nat.mul_assoc ..).symm
  unfold roundHalfEven
  dsimp only
  simp only [Nat.mul_div_mul_right _ _ hc, Nat.mul_mod_mul_right, htwice, Nat.mul_lt_mul_right hc,
    Nat.mul_right_cancel_iff hc]

/-- The integer depends on the quotient alone. -/
lemma roundHalfEven_congr (hden : 0 < den) (hden' : 0 < den')
    (h : (num : ℚ) / den = num' / den') : roundHalfEven num den = roundHalfEven num' den' := by
  have hcross : num * den' = num' * den := by
    rw [div_eq_div_iff (by positivity) (by positivity)] at h
    exact_mod_cast h
  rw [← roundHalfEven_scale hden' num den, ← roundHalfEven_scale hden num' den', hcross,
    Nat.mul_comm den den']

end Nearest

namespace Binary64

/-! ### Values -/

/-- The number that a magnitude is. -/
def value (x : Binary64) : ℚ := x.mant * 2 ^ x.exp

lemma den_pos (x : Binary64) : 0 < x.den := by
  unfold den
  split
  · exact Nat.pow_pos two_pos
  · exact one_pos

lemma value_eq (x : Binary64) : x.value = x.num / x.den := by
  obtain ⟨m, e⟩ := x
  by_cases he : e < 0
  · have hexp : (2 : ℚ) ^ e = (2 ^ e.natAbs)⁻¹ := by
      rw [← zpow_natCast, ← zpow_neg]
      congr 1
      omega
    simp [value, num, den, he, hexp, div_eq_mul_inv]
  · have hexp : (2 : ℚ) ^ e = 2 ^ e.natAbs := by
      rw [← zpow_natCast]
      congr 1
      omega
    simp [value, num, den, he, hexp]

lemma floor_eq (x : Binary64) : x.floor = ⌊x.value⌋₊ := by
  rw [value_eq, Nat.floor_div_eq_div]
  rfl

lemma lt_iff (x y : Binary64) : x.lt y = true ↔ x.value < y.value := by
  have hx : (0 : ℚ) < x.den := by exact_mod_cast x.den_pos
  have hy : (0 : ℚ) < y.den := by exact_mod_cast y.den_pos
  rw [value_eq, value_eq, div_lt_div_iff₀ hx hy, lt, decide_eq_true_eq]
  exact_mod_cast Iff.rfl

/-! ### The last place -/

lemma inUnits_pos (num : Nat) {den : Nat} (hden : 0 < den) (e : Int) :
    0 < (inUnits num den e).2 := by
  unfold inUnits
  split
  · exact hden
  · exact Nat.mul_pos hden (Nat.pow_pos two_pos)

lemma inUnits_eq (num den : Nat) (e : Int) :
    ((inUnits num den e).1 : ℚ) / (inUnits num den e).2 = num / den / 2 ^ e := by
  unfold inUnits
  by_cases he : e < 0
  · have hexp : (2 : ℚ) ^ e = (2 ^ e.natAbs)⁻¹ := by
      rw [← zpow_natCast, ← zpow_neg]
      congr 1
      omega
    simp only [if_pos he, hexp, Nat.pow_eq]
    push_cast
    rw [div_inv_eq_mul, div_mul_eq_mul_div]
  · have hexp : (2 : ℚ) ^ e = 2 ^ e.natAbs := by
      rw [← zpow_natCast]
      congr 1
      omega
    simp only [if_neg he, hexp, Nat.pow_eq]
    push_cast
    rw [div_div]

/-- The last place is the least one that leaves 53 bits, or the least of all. -/
lemma lastPlace_spec {num den : Nat} (hnum : 0 < num) (hden : 0 < den) :
    (num : ℚ) / den < 2 ^ (lastPlace num den + 53) ∧ -1074 ≤ lastPlace num den ∧
      (lastPlace num den = -1074 ∨ 2 ^ (lastPlace num den + 52) ≤ (num : ℚ) / den) := by
  have hpos : (0 : ℚ) < den := by exact_mod_cast hden
  have hnumLow : (2 : ℚ) ^ (num.log2 : ℤ) ≤ num := by
    exact_mod_cast Nat.log2_self_le hnum.ne'
  have hnumHigh : (num : ℚ) < 2 ^ (num.log2 + 1 : ℤ) := by
    exact_mod_cast Nat.lt_log2_self (n := num)
  have hdenLow : (2 : ℚ) ^ (den.log2 : ℤ) ≤ den := by
    exact_mod_cast Nat.log2_self_le hden.ne'
  have hdenHigh : (den : ℚ) < 2 ^ (den.log2 + 1 : ℤ) := by
    exact_mod_cast Nat.lt_log2_self (n := den)
  obtain ⟨k, hk⟩ : ∃ k, k = (num.log2 : ℤ) - den.log2 := ⟨_, rfl⟩
  -- The logarithms leave two exponents for the leading bit, and a comparison decides.
  have hlow : (2 : ℚ) ^ (k - 1) < num / den := by
    rw [lt_div_iff₀ hpos]
    calc (2 : ℚ) ^ (k - 1) * den < 2 ^ (k - 1) * 2 ^ (den.log2 + 1 : ℤ) := by gcongr
      _ = 2 ^ (num.log2 : ℤ) := by rw [← zpow_add₀ two_ne_zero]; congr 1; omega
      _ ≤ num := hnumLow
  have hhigh : (num : ℚ) / den < 2 ^ (k + 1) := by
    rw [div_lt_iff₀ hpos]
    calc (num : ℚ) < 2 ^ (num.log2 + 1 : ℤ) := hnumHigh
      _ = 2 ^ (k + 1) * 2 ^ (den.log2 : ℤ) := by rw [← zpow_add₀ two_ne_zero]; congr 1; omega
      _ ≤ 2 ^ (k + 1) * den := by gcongr
  have hcompare : (inUnits num den k).1 < (inUnits num den k).2 ↔ (num : ℚ) / den < 2 ^ k := by
    have hunits : (0 : ℚ) < (inUnits num den k).2 := by exact_mod_cast inUnits_pos num hden k
    rw [← div_lt_one (by positivity : (0 : ℚ) < 2 ^ k), ← inUnits_eq, div_lt_one hunits]
    exact_mod_cast Iff.rfl
  have hplace : lastPlace num den =
      max ((if (inUnits num den k).1 < (inUnits num den k).2 then k - 1 else k) - 52) (-1074) := by
    rw [hk]
    rfl
  obtain ⟨lead, hlead, hbelow, habove⟩ : ∃ lead : ℤ,
      lastPlace num den = max (lead - 52) (-1074) ∧ (2 : ℚ) ^ lead ≤ num / den ∧
        (num : ℚ) / den < 2 ^ (lead + 1) := by
    by_cases hless : (num : ℚ) / den < 2 ^ k
    · refine ⟨k - 1, ?_, hlow.le, by simpa using hless⟩
      rw [hplace, if_pos (hcompare.2 hless)]
    · refine ⟨k, ?_, not_lt.1 hless, hhigh⟩
      rw [hplace, if_neg (mt hcompare.1 hless)]
  refine ⟨habove.trans_le ?_, by omega, ?_⟩
  · exact zpow_le_zpow_right₀ one_le_two (by omega)
  · by_cases hleast : lead - 52 ≤ -1074
    · exact .inl (by omega)
    · have hlast : lastPlace num den + 52 = lead := by omega
      exact .inr (hlast ▸ hbelow)

/-! ### Rounding -/

variable {num den : Nat}

/-- A quotient in units of its last place, rounded. -/
def significand (num den : Nat) : Nat :=
  roundHalfEven (inUnits num den (lastPlace num den)).1 (inUnits num den (lastPlace num den)).2

lemma abs_significand_sub_le (num : Nat) (hden : 0 < den) :
    |(significand num den : ℚ) - num / den / 2 ^ lastPlace num den| ≤ 1 / 2 := by
  have hnear := abs_roundHalfEven_sub_le (inUnits num den (lastPlace num den)).1
    (inUnits_pos num hden (lastPlace num den))
  rwa [inUnits_eq] at hnear

lemma significand_eq {k : Nat} (hden : 0 < den)
    (h : (num : ℚ) / den / 2 ^ lastPlace num den = k) : significand num den = k := by
  refine roundHalfEven_eq_of_near (inUnits_pos num hden _) ?_
  rw [inUnits_eq, h, sub_self, abs_zero]
  positivity

lemma value_ofRatio (hnum : 0 < num) :
    (ofRatio num den).value = significand num den * 2 ^ lastPlace num den := by
  have hcarry (m : Nat) (e : Int) :
      value (if m = 2 * leadingBit then ⟨leadingBit, e + 1⟩ else ⟨m, e⟩) = m * 2 ^ e := by
    split
    · next h =>
      rw [h, value, zpow_add_one₀ two_ne_zero]
      push_cast
      ring
    · rfl
  rw [← hcarry, ofRatio, if_neg hnum.ne']
  rfl

/-- A quotient is moved by at most half a unit of the last place. -/
lemma abs_value_ofRatio_sub_le (hnum : 0 < num) (hden : 0 < den) :
    |(ofRatio num den).value - num / den| ≤ 2 ^ lastPlace num den / 2 := by
  have hplace : (0 : ℚ) < 2 ^ lastPlace num den := by positivity
  calc |(ofRatio num den).value - num / den|
      = |(significand num den : ℚ) - num / den / 2 ^ lastPlace num den| *
          2 ^ lastPlace num den := by
        rw [value_ofRatio hnum, ← abs_of_pos hplace, ← abs_mul, abs_of_pos hplace, sub_mul,
          div_mul_cancel₀ _ hplace.ne']
    _ ≤ 1 / 2 * 2 ^ lastPlace num den := by
        gcongr
        exact abs_significand_sub_le num hden
    _ = 2 ^ lastPlace num den / 2 := by ring

/-- **Rounding moves a quotient by at most one part in `2 ^ 53`**, unless it is so small that the
least place leaves it fewer bits. -/
theorem abs_value_ofRatio_sub_le_of_normal (hden : 0 < den)
    (hnormal : 2 ^ (-1022 : ℤ) ≤ (num : ℚ) / den) :
    |(ofRatio num den).value - num / den| ≤ num / den / 2 ^ 53 := by
  have hnum : 0 < num := by
    rcases Nat.eq_zero_or_pos num with hzero | hpos
    · rw [hzero, Nat.cast_zero, zero_div] at hnormal
      exact absurd hnormal (not_le.2 (by positivity))
    · exact hpos
  obtain ⟨-, -, hplace⟩ := lastPlace_spec hnum hden
  have hbelow : (2 : ℚ) ^ (lastPlace num den + 52) ≤ num / den := by
    rcases hplace with hleast | hbelow
    · rw [hleast]
      exact hnormal
    · exact hbelow
  calc |(ofRatio num den).value - num / den| ≤ 2 ^ lastPlace num den / 2 :=
        abs_value_ofRatio_sub_le hnum hden
    _ = 2 ^ (lastPlace num den + 52) / 2 ^ 53 := by
        rw [zpow_add₀ two_ne_zero]
        norm_num
        ring
    _ ≤ num / den / 2 ^ 53 := by gcongr

lemma half_le_value_ofRatio (hden : 0 < den) (hnormal : 2 ^ (-1022 : ℤ) ≤ (num : ℚ) / den) :
    (num : ℚ) / den / 2 ≤ (ofRatio num den).value := by
  have hnear := abs_value_ofRatio_sub_le_of_normal hden hnormal
  have hratio : (0 : ℚ) ≤ num / den := by positivity
  have hpart : (num : ℚ) / den / 2 ^ 53 ≤ num / den / 2 := by gcongr; norm_num
  linarith [(abs_le.1 hnear).1]

/-- The numbers that are magnitudes: those of 53 bits, in places that there are. -/
def Representable (x : ℚ) : Prop := ∃ (m : Nat) (e : Int), m < 2 ^ 53 ∧ -1074 ≤ e ∧ x = m * 2 ^ e

/-- **What 53 bits hold is kept.** -/
theorem value_ofRatio_exact (hden : 0 < den) (h : Representable ((num : ℚ) / den)) :
    (ofRatio num den).value = num / den := by
  rcases Nat.eq_zero_or_pos num with rfl | hnum
  · simp [ofRatio, value, zero]
  obtain ⟨m, e, hm, he, heq⟩ := h
  obtain ⟨-, -, hplace⟩ := lastPlace_spec hnum hden
  have hle : lastPlace num den ≤ e := by
    rcases hplace with hleast | hbelow
    · omega
    by_contra hgt
    have hpow : (2 : ℚ) ^ (e + 53) ≤ 2 ^ (lastPlace num den + 52) :=
      zpow_le_zpow_right₀ one_le_two (by omega)
    have hbits : (m : ℚ) * 2 ^ e < 2 ^ (e + 53) := by
      have hcast : (m : ℚ) < 2 ^ 53 := by exact_mod_cast hm
      calc (m : ℚ) * 2 ^ e < 2 ^ 53 * 2 ^ e := by gcongr
        _ = 2 ^ (e + 53) := by rw [zpow_add₀ two_ne_zero, mul_comm]; norm_cast
    rw [heq] at hbelow
    linarith
  -- Counted in units of the last place, the quotient is an integer.
  have hunits : (num : ℚ) / den / 2 ^ lastPlace num den =
      (m * 2 ^ (e - lastPlace num den).toNat : Nat) := by
    have hshift : (2 : ℚ) ^ (e - lastPlace num den).toNat = 2 ^ (e - lastPlace num den) := by
      rw [← zpow_natCast]
      congr 1
      omega
    push_cast
    rw [hshift, heq, zpow_sub₀ two_ne_zero, mul_div_assoc]
  rw [value_ofRatio hnum, significand_eq hden hunits, ← hunits, div_mul_cancel₀]
  positivity

lemma value_ofNat {n : Nat} (hn : n < 2 ^ 53) : (ofNat n).value = n := by
  rw [ofNat, value_ofRatio_exact one_pos ⟨n, 0, hn, by decide, by simp⟩, Nat.cast_one, div_one]

/-! ### Arithmetic that is exact -/

variable {x y : Binary64}

lemma value_mul (h : Representable (x.value * y.value)) :
    (x.mul y).value = x.value * y.value := by
  have hratio : ((x.num * y.num : Nat) : ℚ) / (x.den * y.den : Nat) = x.value * y.value := by
    push_cast
    rw [value_eq, value_eq, div_mul_div_comm]
  rw [mul, value_ofRatio_exact (Nat.mul_pos x.den_pos y.den_pos) (hratio ▸ h), hratio]

lemma value_add (h : Representable (x.value + y.value)) :
    (x.add y).value = x.value + y.value := by
  have hx : (x.den : ℚ) ≠ 0 := by exact_mod_cast x.den_pos.ne'
  have hy : (y.den : ℚ) ≠ 0 := by exact_mod_cast y.den_pos.ne'
  have hratio : ((x.num * y.den + y.num * x.den : Nat) : ℚ) / (x.den * y.den : Nat) =
      x.value + y.value := by
    push_cast
    rw [value_eq, value_eq, div_add_div _ _ hx hy, mul_comm (x.den : ℚ) y.num]
  rw [add, value_ofRatio_exact (Nat.mul_pos x.den_pos y.den_pos) (hratio ▸ h), hratio]

lemma div_eq (x : Binary64) (hy : 0 < y.value) :
    0 < x.den * y.num ∧
      ((x.num * y.den : Nat) : ℚ) / (x.den * y.num : Nat) = x.value / y.value := by
  have hnum : 0 < y.num := by
    rw [value_eq] at hy
    rcases Nat.eq_zero_or_pos y.num with hzero | hpos
    · norm_num [hzero] at hy
    · exact hpos
  refine ⟨Nat.mul_pos x.den_pos hnum, ?_⟩
  push_cast
  rw [value_eq, value_eq, div_div_div_eq]

lemma value_div (hy : 0 < y.value) (h : Representable (x.value / y.value)) :
    (x.div y).value = x.value / y.value := by
  obtain ⟨hden, hratio⟩ := div_eq x hy
  rw [div, value_ofRatio_exact hden (hratio ▸ h), hratio]

/-- A quotient that is not too small is not rounded to nothing. -/
lemma value_div_pos (hy : 0 < y.value) (hnormal : 2 ^ (-1022 : ℤ) ≤ x.value / y.value) :
    0 < (x.div y).value := by
  obtain ⟨hden, hratio⟩ := div_eq x hy
  rw [← hratio] at hnormal
  have hpos : (0 : ℚ) < 2 ^ (-1022 : ℤ) := by positivity
  have hhalf := half_le_value_ofRatio hden hnormal
  rw [div]
  linarith

end Binary64

end JobWatch
