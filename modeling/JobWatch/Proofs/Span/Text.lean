import JobWatch.Span
import JobWatch.Proofs.Span.Compact
import JobWatch.Proofs.Text.Digits
import Mathlib.Tactic.FieldSimp
import Mathlib.Tactic.NormNum
import Mathlib.Tactic.Ring

/-!
The text of a span is exact and canonical: it is the text of a compact value whose total is what the
span counts, and which has the canonical form.
-/

namespace JobWatch.Span

open Binary64 (paddedDigits)

/-! ### Numerals of quotients -/

namespace Numeral

/-- `value / 10 ^ places`, in the fewest digits. -/
def of (places value : Nat) : Numeral where
  whole := Nat.toDigits 10 (value / 10 ^ places)
  fraction :=
    if value % 10 ^ places = 0 then []
    else (paddedDigits places (value % 10 ^ places)).rdropWhile (· == '0')

@[simp] lemma behindPoint_nil : behindPoint [] = 0 := by
  simp [behindPoint]

lemma behindPoint_concat_zero (ds : List Char) : behindPoint (ds ++ ['0']) = behindPoint ds := by
  rw [behindPoint, behindPoint, Nat.ofDigitChars_append, List.length_append]
  have hzero (n : Nat) : Nat.ofDigitChars 10 ['0'] n = 10 * n := by simp [Nat.ofDigitChars_cons]
  rw [hzero, List.length_singleton, pow_succ]
  push_cast
  field_simp

/-- Zeros at the end are worth nothing. -/
lemma behindPoint_rdropWhile (ds : List Char) :
    behindPoint (ds.rdropWhile (· == '0')) = behindPoint ds := by
  induction ds using List.reverseRecOn with
  | nil => rfl
  | append_singleton ds c ih =>
    by_cases hc : c = '0'
    · subst hc
      rw [List.rdropWhile_concat_pos _ _ _ rfl, ih, behindPoint_concat_zero]
    · rw [List.rdropWhile_concat_neg _ _ _ (by simpa using hc)]

lemma behindPoint_of (places value : Nat) :
    behindPoint (of places value).fraction = (value % 10 ^ places : Nat) / 10 ^ places := by
  by_cases hrest : value % 10 ^ places = 0
  · simp [of, hrest]
  · have hplaces : 0 < places := by
      rcases places with _ | places
      · exact absurd (Nat.mod_one value) hrest
      · exact Nat.succ_pos places
    have hlen : (paddedDigits places (value % 10 ^ places)).length = places :=
      Text.length_paddedDigits hplaces (Nat.mod_lt _ (Nat.pow_pos (by decide)))
    simp only [of, if_neg hrest]
    rw [behindPoint_rdropWhile, behindPoint, Text.ofDigitChars_paddedDigits, hlen]

@[simp] lemma value_of (places n : Nat) : (of places n).value = n / 10 ^ places := by
  have hwhole : Nat.ofDigitChars 10 (of places n).whole 0 = n / 10 ^ places :=
    Nat.ofDigitChars_toDigits (by decide) (by decide)
  have hsplit : (n : ℚ) = (n / 10 ^ places : Nat) * 10 ^ places + (n % 10 ^ places : Nat) := by
    exact_mod_cast (Nat.div_add_mod' n (10 ^ places)).symm
  rw [value, hwhole, behindPoint_of, hsplit]
  field_simp

lemma fraction_of_eq_nil_iff (places n : Nat) :
    (of places n).fraction = [] ↔ n % 10 ^ places = 0 := by
  constructor
  · intro h
    have hzero : ((n % 10 ^ places : Nat) : ℚ) / 10 ^ places = 0 := by
      rw [← behindPoint_of, h, behindPoint_nil]
    rw [div_eq_zero_iff] at hzero
    exact_mod_cast hzero.resolve_right (by positivity)
  · intro h
    simp [of, h]

lemma chars_of (places n : Nat) : (of places n).chars = Span.fraction places n := by
  have hnil := fraction_of_eq_nil_iff places n
  by_cases hrest : n % 10 ^ places = 0
  · rw [chars, if_pos (hnil.2 hrest), List.append_nil]
    exact (if_pos hrest).symm
  · rw [chars, if_neg (mt hnil.1 hrest), of, if_neg hrest]
    exact (if_neg hrest).symm

lemma shortest_of (places n : Nat) : (of places n).Shortest where
  digits := by
    intro c hc
    rcases List.mem_append.1 hc with hc | hc
    · exact Text.isDigit_toDigits hc
    · rw [of] at hc
      dsimp only at hc
      split at hc
      · simp at hc
      · exact Text.isDigit_paddedDigits ((List.rdropWhile_prefix _ _).subset hc)
  whole_ne_nil := Nat.toDigits_ne_nil
  leading := by
    by_cases hwhole : n / 10 ^ places = 0
    · left
      rw [of, hwhole]
      rfl
    · exact .inr (Text.head?_toDigits hwhole)
  trailing := by
    rw [of]
    dsimp only
    split
    · simp
    · intro hlast
      have hne : (paddedDigits places (n % 10 ^ places)).rdropWhile (· == '0') ≠ [] := by
        rintro hnil
        simp [hnil] at hlast
      refine List.rdropWhile_last_not _ _ hne ?_
      rw [List.getLast?_eq_some_getLast hne, Option.some.injEq] at hlast
      rw [hlast]
      rfl

end Numeral

/-! ### The parts of a number of nanoseconds -/

namespace Part

lemma canonical_whole {n : Nat} {u : TimeUnit} (h : u.InRange n) : Canonical ⟨.of 0 n, u⟩ where
  shortest := Numeral.shortest_of 0 n
  inRange := by simpa using h
  whole := fun _ => (Numeral.fraction_of_eq_nil_iff 0 n).2 (Nat.mod_one n)

lemma canonical_fraction {places n : Nat} {u : TimeUnit}
    (hu : u ∉ [.hour, .minute, .nanosecond]) (h : u.InRange (n / 10 ^ places)) :
    Canonical ⟨.of places n, u⟩ where
  shortest := Numeral.shortest_of places n
  inRange := by simpa using h
  whole := fun hmem => absurd hmem hu

end Part

namespace Compact

/-- The seconds behind the whole minutes of a number of nanoseconds. -/
def secondsOf (n : Nat) : Part :=
  ⟨.of 9 (n / 1000000000 % 60 * 1000000000 + n % 1000000000), .second⟩

/-- The parts of a positive number of nanoseconds. -/
def partsOf (n : Nat) : List Part :=
  if n < 1000 then [⟨.of 0 n, .nanosecond⟩]
  else if n < 1000000 then [⟨.of 3 n, .microsecond⟩]
  else if n < 1000000000 then [⟨.of 6 n, .millisecond⟩]
  else if n / 1000000000 / 3600 > 0 then
    [⟨.of 0 (n / 1000000000 / 3600), .hour⟩, ⟨.of 0 (n / 1000000000 % 3600 / 60), .minute⟩,
      secondsOf n]
  else if n / 1000000000 % 3600 / 60 > 0 then
    [⟨.of 0 (n / 1000000000 % 3600 / 60), .minute⟩, secondsOf n]
  else [secondsOf n]

/-- The compact value of a number of nanoseconds. -/
def of (t : Int) : Compact :=
  if t = 0 then ⟨false, [⟨.of 0 0, .second⟩]⟩ else ⟨t < 0, partsOf t.natAbs⟩

lemma chars_partsOf (n : Nat) : (partsOf n).flatMap Part.chars = magnitude n := by
  have hpart (places n : Nat) (u : TimeUnit) :
      Part.chars ⟨.of places n, u⟩ = Span.fraction places n ++ u.chars := by
    rw [Part.chars, Numeral.chars_of]
  have hwhole (n : Nat) : Span.fraction 0 n = Nat.toDigits 10 n := by
    simp [Span.fraction, Nat.mod_one]
  have hseconds : (secondsOf n).chars =
      Span.fraction 9 (n / 1000000000 % 60 * 1000000000 + n % 1000000000) ++ ['s'] := hpart ..
  -- Told of any lists: with the numbers in their places, the two sides would be compared by
  -- counting the nanoseconds of an hour.
  have happend (hours minutes seconds : List Char) :
      hours ++ TimeUnit.hour.chars ++ (minutes ++ TimeUnit.minute.chars ++ (seconds ++ ['s'])) =
        hours ++ 'h' :: minutes ++ ['m'] ++ seconds ++ ['s'] := by
    simp [TimeUnit.chars]
  by_cases h₁ : n < 1000
  · rw [partsOf, magnitude, if_pos h₁, if_pos h₁, List.flatMap_singleton, hpart, hwhole]
    rfl
  by_cases h₂ : n < 1000000
  · rw [partsOf, magnitude, if_neg h₁, if_neg h₁, if_pos h₂, if_pos h₂, List.flatMap_singleton,
      hpart]
    rfl
  by_cases h₃ : n < 1000000000
  · rw [partsOf, magnitude, if_neg h₁, if_neg h₁, if_neg h₂, if_neg h₂, if_pos h₃, if_pos h₃,
      List.flatMap_singleton, hpart]
    rfl
  rw [partsOf, magnitude, if_neg h₁, if_neg h₁, if_neg h₂, if_neg h₂, if_neg h₃, if_neg h₃]
  dsimp only
  by_cases hhours : n / 1000000000 / 3600 > 0
  · rw [if_pos hhours, if_pos hhours, List.flatMap_cons, List.flatMap_cons,
      List.flatMap_singleton, hpart, hpart, hseconds, hwhole, hwhole]
    exact happend ..
  by_cases hminutes : n / 1000000000 % 3600 / 60 > 0
  · rw [if_neg hhours, if_neg hhours, if_pos hminutes, if_pos hminutes, List.flatMap_cons,
      List.flatMap_singleton, hpart, hseconds, hwhole]
    exact (List.append_assoc _ _ _).symm
  · rw [if_neg hhours, if_neg hminutes, if_neg hhours, if_neg hminutes, List.flatMap_singleton,
      List.nil_append, hseconds]

lemma value_secondsOf (n : Nat) :
    (secondsOf n).number.value = (n % 60000000000 : Nat) / 10 ^ 9 := by
  have hrest : n / 1000000000 % 60 * 1000000000 + n % 1000000000 = n % 60000000000 := by omega
  rw [secondsOf, hrest, Numeral.value_of]

lemma nanos_secondsOf (n : Nat) : (secondsOf n).nanos = (n % 60000000000 : Nat) := by
  rw [Part.nanos, value_secondsOf]
  norm_num [secondsOf, TimeUnit.nanos]

lemma nanos_whole (n : Nat) (u : TimeUnit) : Part.nanos ⟨.of 0 n, u⟩ = (n * u.nanos : Nat) := by
  rw [Part.nanos, Numeral.value_of, pow_zero, div_one, Nat.cast_mul]

lemma sum_partsOf (n : Nat) : ((partsOf n).map Part.nanos).sum = n := by
  unfold partsOf
  split_ifs with h₁ h₂ h₃ hhours hminutes
  · rw [List.map_singleton, List.sum_singleton, nanos_whole, TimeUnit.nanos, Nat.mul_one]
  · rw [List.map_singleton, List.sum_singleton, Part.nanos, Numeral.value_of]
    norm_num [TimeUnit.nanos]
  · rw [List.map_singleton, List.sum_singleton, Part.nanos, Numeral.value_of]
    norm_num [TimeUnit.nanos]
  · have hall : n / 1000000000 / 3600 * 3600000000000 +
        (n / 1000000000 % 3600 / 60 * 60000000000 + n % 60000000000) = n := by omega
    simp only [List.map_cons, List.map_nil, List.sum_cons, List.sum_nil, add_zero, nanos_whole,
      nanos_secondsOf, TimeUnit.nanos]
    exact_mod_cast hall
  · have hall : n / 1000000000 % 3600 / 60 * 60000000000 + n % 60000000000 = n := by omega
    simp only [List.map_cons, List.map_nil, List.sum_cons, List.sum_nil, add_zero, nanos_whole,
      nanos_secondsOf, TimeUnit.nanos]
    exact_mod_cast hall
  · have hall : n % 60000000000 = n := by omega
    rw [List.map_singleton, List.sum_singleton, nanos_secondsOf, hall]

lemma total_of (t : Int) : (of t).total = t := by
  rw [of]
  split_ifs with hzero
  · rw [hzero, total]
    simp [nanos_whole]
  · rw [total, sum_partsOf, Nat.cast_natAbs]
    by_cases hneg : t < 0
    · rw [abs_of_neg hneg, decide_eq_true hneg, if_pos rfl]
      push_cast
      ring
    · rw [abs_of_nonneg (Int.not_lt.1 hneg), decide_eq_false hneg, if_neg Bool.false_ne_true,
        one_mul]

lemma chars_of (s : Span) : (of s.counted).chars = s.chars := by
  rw [of, Span.chars]
  split_ifs with hzero hneg
  · decide
  · rw [chars, chars_partsOf, decide_eq_true hneg]
    rfl
  · rw [chars, chars_partsOf, decide_eq_false hneg]
    rfl

lemma canonical_secondsOf (n : Nat) : (secondsOf n).Canonical := by
  refine ⟨Numeral.shortest_of .., ?_, by simp [secondsOf]⟩
  have hrest : n % 60000000000 < 60 * 10 ^ 9 := Nat.mod_lt n (by decide)
  rw [value_secondsOf]
  show (_ : ℚ) < 60
  rw [div_lt_iff₀ (by positivity)]
  exact_mod_cast hrest

/-- A single part of seconds or less. -/
lemma canonical_single (negative : Bool) {p : Part} (hp : p.Canonical)
    (hu : p.unit ∈ [.nanosecond, .microsecond, .millisecond, .second])
    (hvalue : 1 ≤ p.number.value) : Canonical ⟨negative, [p]⟩ where
  parts := List.forall_mem_singleton.2 hp
  units := by
    have hall : ∀ u ∈ [TimeUnit.nanosecond, .microsecond, .millisecond, .second],
        [u] ∈ forms := by decide
    exact hall p.unit hu
  leading := .inr fun _ h => Option.some.inj h ▸ hvalue

lemma canonical_partsOf (negative : Bool) {n : Nat} (hn : n ≠ 0) :
    Canonical ⟨negative, partsOf n⟩ := by
  have hinRange (places : Nat) (hlow : 10 ^ places ≤ n) (hhigh : n < 1000 * 10 ^ places) :
      (1 : ℚ) ≤ n / 10 ^ places ∧ (n : ℚ) / 10 ^ places < 1000 := by
    rw [le_div_iff₀ (by positivity), div_lt_iff₀ (by positivity), one_mul]
    exact_mod_cast And.intro hlow hhigh
  have hsixty {m : Nat} (hm : m < 60) : TimeUnit.InRange .minute m := by
    show (m : ℚ) < 60
    exact_mod_cast hm
  have hone {m : Nat} (hm : m > 0) : (1 : ℚ) ≤ m := by exact_mod_cast hm
  have hminute : n / 1000000000 % 3600 / 60 < 60 := by omega
  unfold partsOf
  split_ifs with h₁ h₂ h₃ hhours hminutes
  · have h := hinRange 0 (Nat.one_le_iff_ne_zero.2 hn) h₁
    rw [pow_zero, div_one] at h
    exact canonical_single _ (Part.canonical_whole h) (by simp) (by simpa using h.1)
  · have h := hinRange 3 (Nat.not_lt.1 h₁) h₂
    exact canonical_single _ (Part.canonical_fraction (by decide) h) (by simp) (by simpa using h.1)
  · have h := hinRange 6 (Nat.not_lt.1 h₂) h₃
    exact canonical_single _ (Part.canonical_fraction (by decide) h) (by simp) (by simpa using h.1)
  · refine ⟨?_, by simp [secondsOf, forms], .inr ?_⟩
    · simp only [List.forall_mem_cons]
      exact ⟨Part.canonical_whole (hone hhours), Part.canonical_whole (hsixty hminute),
        canonical_secondsOf n, List.forall_mem_nil _⟩
    · rintro p ⟨⟩
      simpa using hone hhours
  · refine ⟨?_, by simp [secondsOf, forms], .inr ?_⟩
    · simp only [List.forall_mem_cons]
      exact ⟨Part.canonical_whole (hsixty hminute), canonical_secondsOf n, List.forall_mem_nil _⟩
    · rintro p ⟨⟩
      simpa using hone hminutes
  · refine canonical_single _ (canonical_secondsOf n) (by simp [secondsOf]) ?_
    have hlow : 10 ^ 9 ≤ n % 60000000000 := by omega
    rw [value_secondsOf, le_div_iff₀ (by positivity), one_mul]
    exact_mod_cast hlow

lemma canonical_of (t : Int) : (of t).Canonical := by
  rw [of]
  split_ifs with hzero
  · refine ⟨List.forall_mem_singleton.2 ?_, by decide, .inl rfl⟩
    exact Part.canonical_fraction (by decide) (show ((0 : Nat) : ℚ) / 10 ^ 0 < 60 by norm_num)
  · exact canonical_partsOf _ (Int.natAbs_ne_zero.2 hzero)

end Compact

/-! ### The text -/

/-- **The text of a span is exact and canonical.** What it counts is the nanoseconds where 64 bits
hold them, else those of its whole milliseconds. The text reads back as exactly that number, it has
the canonical form, only zero is told as `0s`, only what is negative has a sign, and two spans have
one text exactly if they count the same. -/
theorem text_exact (s : Span) :
    s.counted = (if -2 ^ 63 ≤ s.nanos ∧ s.nanos < 2 ^ 63 then s.nanos
      else s.nanos.tdiv 1000000 * 1000000) ∧
    (∃ c : Compact, Compact.read? s.text.toList = some c ∧ c.total = s.counted ∧ c.Canonical ∧
      (c.negative = true ↔ s.counted < 0)) ∧
    (s.text = "0s" ↔ s.counted = 0) ∧
    ∀ s' : Span, s.text = s'.text ↔ s.counted = s'.counted := by
  have hread (s : Span) : Compact.read? s.text.toList = some (.of s.counted) := by
    rw [text, String.toList_ofList, ← Compact.chars_of, (Compact.canonical_of _).read?_chars]
  have hsame (s s' : Span) : s.text = s'.text ↔ s.counted = s'.counted := by
    constructor
    · intro h
      have hof := (hread s).symm.trans (h ▸ hread s')
      rw [Option.some.injEq] at hof
      have htotal : ((s.counted : Int) : ℚ) = s'.counted := by
        rw [← Compact.total_of, hof, Compact.total_of]
      exact_mod_cast htotal
    · intro h
      rw [text, text, ← Compact.chars_of, ← Compact.chars_of, h]
  refine ⟨?_, ⟨_, hread s, Compact.total_of _, Compact.canonical_of _, ?_⟩, ?_, hsame s⟩
  · simp [counted, fitsNanos, millis]
  · rw [Compact.of]
    split_ifs with hzero
    · simp [hzero]
    · exact decide_eq_true_iff
  · exact hsame s ⟨0⟩

/-! ### The parts of a span -/

/-- The parts of a span within the range are whole seconds and a rest below a second. -/
lemma ofParts?_eq_some {secs : Int} {nanos : Nat} {s : Span} :
    ofParts? secs nanos = some s ↔
      nanos < 1000000000 ∧ s.nanos.natAbs ≤ 0x7FFFFFFFFFFFFFFF * 1000000 ∧
        s.nanos = secs * 1000000000 + nanos := by
  obtain ⟨total⟩ := s
  simp only [ofParts?, Option.ite_none_right_eq_some, Option.some.injEq, Span.mk.injEq]
  constructor
  · rintro ⟨⟨hnanos, hrange⟩, rfl⟩
    exact ⟨hnanos, hrange, rfl⟩
  · rintro ⟨hnanos, hrange, rfl⟩
    exact ⟨⟨hnanos, hrange⟩, rfl⟩

/-- **A span is within the range exactly if it has parts**, and it has no others. -/
theorem existsUnique_parts (s : Span) :
    (∃! p : Int × Nat, ofParts? p.1 p.2 = some s) ↔
      s.nanos.natAbs ≤ 0x7FFFFFFFFFFFFFFF * 1000000 := by
  simp only [ofParts?_eq_some]
  constructor
  · rintro ⟨p, ⟨-, hrange, -⟩, -⟩
    exact hrange
  · intro hrange
    refine ⟨(s.nanos / 1000000000, (s.nanos % 1000000000).toNat), ⟨?_, hrange, ?_⟩, ?_⟩
    · dsimp only
      omega
    · dsimp only
      omega
    · rintro ⟨secs, nanos⟩ ⟨hnanos, -, hparts⟩
      dsimp only at hnanos hparts
      rw [Prod.mk.injEq]
      omega

end JobWatch.Span
