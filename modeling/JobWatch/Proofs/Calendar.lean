import JobWatch.Calendar
import Mathlib.Tactic.Lemma

/-!
The date of a day is a date of the calendar, and that day is found again from it.

An era is split into centuries, runs of four years, years and days, all counted from March. Only the
last day of a year, a leap day, goes past 365, and only where the calendar has one.
-/

namespace JobWatch.Calendar

/-- A day of an era: the century, the run of four years, the year and the day of the year. -/
structure EraDay (dayOfEra century run year day : Int) : Prop where
  eq : dayOfEra = 36524 * century + 1461 * run + 365 * year + day
  century_range : 0 ≤ century ∧ century ≤ 3
  run_range : 0 ≤ run ∧ run ≤ 24
  year_range : 0 ≤ year ∧ year ≤ 3
  day_range : 0 ≤ day ∧ day ≤ 365
  leap : day = 365 → year = 3 ∧ (run = 24 → century = 3)

lemma exists_eraDay {dayOfEra : Int} (h : 0 ≤ dayOfEra ∧ dayOfEra < 146097) :
    ∃ century run year day, EraDay dayOfEra century run year day := by
  obtain ⟨c, hc⟩ : ∃ c, c = min (dayOfEra / 36524) 3 := ⟨_, rfl⟩
  obtain ⟨r, hr⟩ : ∃ r, r = (dayOfEra - 36524 * c) / 1461 := ⟨_, rfl⟩
  obtain ⟨y, hy⟩ : ∃ y, y = min ((dayOfEra - 36524 * c - 1461 * r) / 365) 3 := ⟨_, rfl⟩
  refine ⟨c, r, y, dayOfEra - 36524 * c - 1461 * r - 365 * y, ?_, ?_, ?_, ?_, ?_, ?_⟩
  all_goals omega

variable {dayOfEra century run year day : Int}

/-- The year of an era, from its day. -/
lemma EraDay.yearOfEra (h : EraDay dayOfEra century run year day) :
    (dayOfEra - dayOfEra / 1460 + dayOfEra / 36524 - dayOfEra / 146096) / 365 =
      100 * century + 4 * run + year := by
  obtain ⟨heq, hc, hr, hy, hd, hleap⟩ := h
  -- the divisor 1460 overtakes the runs of 1461 days once, before the last day of a leap year
  have hruns : dayOfEra / 1460 = 25 * century + run ∧ 24 * century + run + 365 * year + day < 1460 ∨
      dayOfEra / 1460 = 25 * century + run + 1 ∧ 1 ≤ day := by
    omega
  have hcenturies : dayOfEra / 36524 = century ∧ dayOfEra / 146096 = 0 ∨
      dayOfEra / 36524 = century + 1 ∧ dayOfEra / 146096 = 1 ∧ dayOfEra = 146096 := by
    omega
  rcases hcenturies with ⟨h1, h2⟩ | ⟨h1, h2, hlast⟩
  · rcases hruns with ⟨h3, hsmall⟩ | ⟨h3, hday⟩
    · rw [h1, h2, h3]
      have hrest : dayOfEra - (25 * century + run) + century - 0 =
          365 * (100 * century + 4 * run + year) + day := by
        omega
      omega
    · rw [h1, h2, h3]
      have hrest : dayOfEra - (25 * century + run + 1) + century - 0 =
          365 * (100 * century + 4 * run + year) + (day - 1) := by
        omega
      omega
  · omega

lemma EraDay.dayOfYear (h : EraDay dayOfEra century run year day) :
    dayOfEra - (365 * (100 * century + 4 * run + year) + (100 * century + 4 * run + year) / 4 -
      (100 * century + 4 * run + year) / 100) = day := by
  obtain ⟨heq, hc, hr, hy, hd, hleap⟩ := h
  omega

/-- The month, counted from March, and the day of the month. -/
structure MonthDay (dayOfYear fromMarch day : Int) : Prop where
  month_range : 0 ≤ fromMarch ∧ fromMarch ≤ 11
  eq : (153 * fromMarch + 2) / 5 + day - 1 = dayOfYear
  one_le : 1 ≤ day
  le_31 : day ≤ 31
  le_30 : fromMarch = 1 ∨ fromMarch = 3 ∨ fromMarch = 6 ∨ fromMarch = 8 → day ≤ 30
  le_29 : fromMarch = 11 → day ≤ 29 ∧ (day = 29 → dayOfYear = 365)

lemma monthDay_ofDayOfYear (h : 0 ≤ day ∧ day ≤ 365) :
    MonthDay day ((5 * day + 2) / 153) (day - (153 * ((5 * day + 2) / 153) + 2) / 5 + 1) := by
  refine ⟨?_, ?_, ?_, ?_, ?_, ?_⟩
  all_goals omega

/-- The date of a day of an era. -/
lemma exists_ofDays (days : Int) :
    ∃ century run year day fromMarch monthDay,
      EraDay ((days + 719468) % 146097) century run year day ∧ MonthDay day fromMarch monthDay ∧
        Date.ofDays days =
          ⟨100 * century + 4 * run + year + (days + 719468) / 146097 * 400 +
              (if (if fromMarch < 10 then fromMarch + 3 else fromMarch - 9) ≤ 2 then 1 else 0),
            (if fromMarch < 10 then fromMarch + 3 else fromMarch - 9).toNat, monthDay.toNat⟩ := by
  obtain ⟨century, run, year, day, h⟩ :=
    exists_eraDay (show 0 ≤ (days + 719468) % 146097 ∧ (days + 719468) % 146097 < 146097 by omega)
  refine ⟨century, run, year, day, _, _, h, monthDay_ofDayOfYear h.day_range, ?_⟩
  simp only [Date.ofDays, h.yearOfEra, h.dayOfYear]

/-- **A day is found again from its date.** -/
theorem toDays_ofDays (days : Int) : (Date.ofDays days).toDays = days := by
  obtain ⟨century, run, year, day, fromMarch, monthDay, h, hmonth, hdate⟩ := exists_ofDays days
  obtain ⟨heq, hc, hr, hy, hd, -⟩ := h
  obtain ⟨hm, hday, hone, -, -, -⟩ := hmonth
  have hfour : (100 * century + 4 * run + year) / 4 = 25 * century + run := by omega
  have hhundred : (100 * century + 4 * run + year) / 100 = century := by omega
  have hmonthDay : (monthDay.toNat : Int) = monthDay := Int.toNat_of_nonneg (by omega)
  have hyear : ∀ y : Int, y = 100 * century + 4 * run + year + (days + 719468) / 146097 * 400 →
      y / 400 = (days + 719468) / 146097 ∧ y % 400 = 100 * century + 4 * run + year := by
    omega
  rw [hdate]
  by_cases hlate : fromMarch < 10
  · have hcast : ((fromMarch + 3).toNat : Int) = fromMarch + 3 := by omega
    have hspring : ¬ fromMarch + 3 ≤ 2 := by omega
    have hnat : ¬ (fromMarch + 3).toNat ≤ 2 := by omega
    have hmod : (fromMarch + 3 + 9) % 12 = fromMarch := by omega
    simp only [Date.toDays, if_pos hlate, if_neg hspring, if_neg hnat, hcast, hmod, hmonthDay]
    obtain ⟨hera, hyoe⟩ := hyear (100 * century + 4 * run + year +
      (days + 719468) / 146097 * 400 + 0) (by omega)
    rw [hera, hyoe]
    omega
  · have hcast : ((fromMarch - 9).toNat : Int) = fromMarch - 9 := by omega
    have hwinter : fromMarch - 9 ≤ 2 := by omega
    have hnat : (fromMarch - 9).toNat ≤ 2 := by omega
    have hmod : (fromMarch - 9 + 9) % 12 = fromMarch := by omega
    simp only [Date.toDays, if_neg hlate, if_pos hwinter, if_pos hnat, hcast, hmod, hmonthDay]
    obtain ⟨hera, hyoe⟩ := hyear (100 * century + 4 * run + year +
      (days + 719468) / 146097 * 400 + 1 - 1) (by omega)
    rw [hera, hyoe]
    omega

/-- **The date of a day is one that the calendar has.** -/
theorem isValid_ofDays (days : Int) : (Date.ofDays days).isValid = true := by
  obtain ⟨century, run, year, day, fromMarch, monthDay, h, hmonth, hdate⟩ := exists_ofDays days
  obtain ⟨-, hc, hr, hy, hd, hleap⟩ := h
  obtain ⟨hm, -, hone, h31, h30, h29⟩ := hmonth
  rw [hdate]
  simp only [Date.isValid, monthLength, Bool.and_eq_true, decide_eq_true_eq]
  by_cases hlate : fromMarch < 10
  · simp only [if_pos hlate]
    refine ⟨⟨⟨by omega, by omega⟩, by omega⟩, ?_⟩
    split
    · omega
    split
    · omega
    · omega
  · have hwinter : fromMarch - 9 ≤ 2 := by omega
    simp only [if_neg hlate, if_pos hwinter]
    refine ⟨⟨⟨by omega, by omega⟩, by omega⟩, ?_⟩
    split
    · next hfeb =>
      obtain ⟨hle, hlast⟩ := h29 (by omega)
      split
      · omega
      · next hcommon =>
        have hne : monthDay ≠ 29 := by
          intro h29
          obtain ⟨hyear, hrun⟩ := hleap (hlast h29)
          apply hcommon
          simp only [isLeapYear, Bool.and_eq_true, Bool.or_eq_true, beq_iff_eq, bne_iff_ne]
          by_cases hlong : run = 24
          · have := hrun hlong
            omega
          · omega
        omega
    split
    · omega
    · omega

end JobWatch.Calendar
