import JobWatch.Text.Utf8
import Mathlib.Tactic.Lemma

/-!
Text survives its encoding: what is encoded decodes to the same characters.
-/

namespace JobWatch.Utf8

@[simp] lemma encode_nil : encode [] = [] := rfl

@[simp] lemma encode_cons (c : Char) (cs : List Char) :
    encode (c :: cs) = String.utf8EncodeChar c ++ encode cs := rfl

@[simp] lemma encode_append (cs ds : List Char) : encode (cs ++ ds) = encode cs ++ encode ds := by
  simp [encode]

/-- The first byte of a character, by its number. -/
lemma lead_eq (b : UInt8) :
    lead b =
      if b.toNat < 0x80 then ([some (Char.ofNat b.toNat)], none)
      else if b.toNat < 0xC2 then ([none], none)
      else if b.toNat < 0xE0 then ([], some ⟨b.toNat - 0xC0, 1, 0x80, 0xBF⟩)
      else if b.toNat = 0xE0 then ([], some ⟨0, 2, 0xA0, 0xBF⟩)
      else if b.toNat = 0xED then ([], some ⟨0xD, 2, 0x80, 0x9F⟩)
      else if b.toNat < 0xF0 then ([], some ⟨b.toNat - 0xE0, 2, 0x80, 0xBF⟩)
      else if b.toNat = 0xF0 then ([], some ⟨0, 3, 0x90, 0xBF⟩)
      else if b.toNat < 0xF4 then ([], some ⟨b.toNat - 0xF0, 3, 0x80, 0xBF⟩)
      else if b.toNat = 0xF4 then ([], some ⟨4, 3, 0x80, 0x8F⟩)
      else ([none], none) := by
  simp only [lead, UInt8.lt_iff_toNat_lt, ← UInt8.toNat_inj]
  rfl

lemma scan_cons (p : Option Pending) (b : UInt8) (bs : List UInt8) :
    scan p (b :: bs) = (step p b).1 ++ scan (step p b).2 bs := by
  cases p <;> rfl

lemma toNat_ofNat {n : Nat} (hn : n < 256) : (UInt8.ofNat n).toNat = n := by
  simp [Nat.mod_eq_of_lt hn]

lemma lead_one {n : Nat} (h : n < 0x80) :
    lead (UInt8.ofNat n) = ([some (Char.ofNat n)], none) := by
  rw [lead_eq, toNat_ofNat (by omega), if_pos h]

lemma lead_two {n : Nat} (hlow : 0xC2 ≤ n) (hhigh : n < 0xE0) :
    lead (UInt8.ofNat n) = ([], some ⟨n - 0xC0, 1, 0x80, 0xBF⟩) := by
  rw [lead_eq, toNat_ofNat (by omega), if_neg (by omega), if_neg (by omega), if_pos hhigh]

lemma lead_three {n : Nat} (hlow : 0xE0 ≤ n) (hhigh : n < 0xF0) :
    lead (UInt8.ofNat n) =
      ([], some ⟨n - 0xE0, 2, if n = 0xE0 then 0xA0 else 0x80,
        if n = 0xED then 0x9F else 0xBF⟩) := by
  rw [lead_eq, toNat_ofNat (by omega), if_neg (by omega), if_neg (by omega), if_neg (by omega)]
  by_cases h0 : n = 0xE0
  · subst h0
    rfl
  · by_cases hD : n = 0xED
    · subst hD
      rfl
    · simp only [h0, hD, if_false, if_pos hhigh]

lemma lead_four {n : Nat} (hlow : 0xF0 ≤ n) (hhigh : n ≤ 0xF4) :
    lead (UInt8.ofNat n) =
      ([], some ⟨n - 0xF0, 3, if n = 0xF0 then 0x90 else 0x80,
        if n = 0xF4 then 0x8F else 0xBF⟩) := by
  rw [lead_eq, toNat_ofNat (by omega), if_neg (by omega), if_neg (by omega), if_neg (by omega),
    if_neg (by omega), if_neg (by omega), if_neg (by omega)]
  by_cases h0 : n = 0xF0
  · subst h0
    rfl
  · by_cases h4 : n = 0xF4
    · subst h4
      rfl
    · rw [if_neg h0, if_pos (by omega), if_neg h0, if_neg h4]

lemma scan_start {b : UInt8} {p : Pending} (h : lead b = ([], some p)) (bs : List UInt8) :
    scan none (b :: bs) = scan (some p) bs := by
  rw [scan_cons, step, h]
  rfl

variable {bits n : Nat} {low high : UInt8}

/-- The byte `n` in a character that has begun. -/
lemma step_inside (hlow : low.toNat ≤ n) (hhigh : n ≤ high.toNat) (owed : Nat) :
    step (some ⟨bits, owed, low, high⟩) (UInt8.ofNat n) =
      if owed ≤ 1 then ([some (Char.ofNat (bits * 64 + (n - 0x80)))], none)
      else ([], some ⟨bits * 64 + (n - 0x80), owed - 1, 0x80, 0xBF⟩) := by
  have hval : (UInt8.ofNat n).toNat = n := toNat_ofNat (by have := high.toNat_lt; omega)
  have hrange : low ≤ UInt8.ofNat n ∧ UInt8.ofNat n ≤ high := by
    rw [UInt8.le_iff_toNat_le, UInt8.le_iff_toNat_le, hval]
    exact ⟨hlow, hhigh⟩
  simp only [step, if_pos hrange, hval]

lemma scan_last (hlow : low.toNat ≤ n) (hhigh : n ≤ high.toNat) (bs : List UInt8) :
    scan (some ⟨bits, 1, low, high⟩) (UInt8.ofNat n :: bs) =
      some (Char.ofNat (bits * 64 + (n - 0x80))) :: scan none bs := by
  rw [scan_cons, step_inside hlow hhigh, if_pos (Nat.le_refl 1)]
  rfl

lemma scan_more (hlow : low.toNat ≤ n) (hhigh : n ≤ high.toNat) (owed : Nat) (bs : List UInt8) :
    scan (some ⟨bits, owed + 2, low, high⟩) (UInt8.ofNat n :: bs) =
      scan (some ⟨bits * 64 + (n - 0x80), owed + 1, 0x80, 0xBF⟩) bs := by
  rw [scan_cons, step_inside hlow hhigh, if_neg (by omega)]
  rfl

/-- The bytes of a character, by its number. -/
lemma utf8EncodeChar_eq {c : Char} {v : Nat} (h : c.toNat = v) :
    String.utf8EncodeChar c =
      if v ≤ 0x7f then [UInt8.ofNat v]
      else if v ≤ 0x7ff then [UInt8.ofNat (v / 64 % 0x20 + 0xc0), UInt8.ofNat (v % 0x40 + 0x80)]
      else if v ≤ 0xffff then
        [UInt8.ofNat (v / 4096 % 0x10 + 0xe0), UInt8.ofNat (v / 64 % 0x40 + 0x80),
          UInt8.ofNat (v % 0x40 + 0x80)]
      else
        [UInt8.ofNat (v / 262144 % 0x08 + 0xf0), UInt8.ofNat (v / 4096 % 0x40 + 0x80),
          UInt8.ofNat (v / 64 % 0x40 + 0x80), UInt8.ofNat (v % 0x40 + 0x80)] := by
  subst h
  rfl

/-- The numbers of characters: no surrogate is among them. -/
lemma char_range (c : Char) : c.toNat < 0xD800 ∨ (0xDFFF < c.toNat ∧ c.toNat < 0x110000) :=
  c.valid

/-- **A character is read back from its bytes**, whatever follows. -/
theorem scan_char (c : Char) (bs : List UInt8) :
    scan none (String.utf8EncodeChar c ++ bs) = some c :: scan none bs := by
  obtain ⟨v, hv⟩ : ∃ v, c.toNat = v := ⟨_, rfl⟩
  have hrange := char_range c
  have hc : Char.ofNat v = c := hv ▸ Char.ofNat_toNat c
  have hlow : (0x80 : UInt8).toNat = 0x80 := rfl
  have hhigh : (0xBF : UInt8).toNat = 0xBF := rfl
  rw [hv] at hrange
  rw [utf8EncodeChar_eq hv]
  by_cases h1 : v ≤ 0x7f
  · rw [if_pos h1, List.singleton_append, scan_cons, step, lead_one (by omega), hc]
    rfl
  by_cases h2 : v ≤ 0x7ff
  · have hbits : (v / 64 % 0x20 + 0xc0 - 0xC0) * 64 + (v % 0x40 + 0x80 - 0x80) = v := by omega
    rw [if_neg h1, if_pos h2, List.cons_append, List.singleton_append,
      scan_start (lead_two (by omega) (by omega)), scan_last (by omega) (by omega), hbits, hc]
  by_cases h3 : v ≤ 0xffff
  · have hsecond : (if v / 4096 % 0x10 + 0xe0 = 0xE0 then 0xA0 else 0x80 : UInt8).toNat ≤
          v / 64 % 0x40 + 0x80 ∧
        v / 64 % 0x40 + 0x80 ≤
          (if v / 4096 % 0x10 + 0xe0 = 0xED then 0x9F else 0xBF : UInt8).toNat := by
      constructor <;> split <;> simp <;> omega
    have hbits : ((v / 4096 % 0x10 + 0xe0 - 0xE0) * 64 + (v / 64 % 0x40 + 0x80 - 0x80)) * 64 +
        (v % 0x40 + 0x80 - 0x80) = v := by omega
    rw [if_neg h1, if_neg h2, if_pos h3]
    simp only [List.cons_append, List.nil_append]
    rw [scan_start (lead_three (by omega) (by omega)), scan_more hsecond.1 hsecond.2,
      scan_last (by omega) (by omega), hbits, hc]
  · have hsecond : (if v / 262144 % 0x08 + 0xf0 = 0xF0 then 0x90 else 0x80 : UInt8).toNat ≤
          v / 4096 % 0x40 + 0x80 ∧
        v / 4096 % 0x40 + 0x80 ≤
          (if v / 262144 % 0x08 + 0xf0 = 0xF4 then 0x8F else 0xBF : UInt8).toNat := by
      constructor <;> split <;> simp <;> omega
    have hbits : (((v / 262144 % 0x08 + 0xf0 - 0xF0) * 64 + (v / 4096 % 0x40 + 0x80 - 0x80)) * 64 +
        (v / 64 % 0x40 + 0x80 - 0x80)) * 64 + (v % 0x40 + 0x80 - 0x80) = v := by omega
    rw [if_neg h1, if_neg h2, if_neg h3]
    simp only [List.cons_append, List.nil_append]
    rw [scan_start (lead_four (by omega) (by omega)), scan_more hsecond.1 hsecond.2,
      scan_more (by omega) (by omega), scan_last (by omega) (by omega), hbits, hc]

lemma scan_encode (cs : List Char) : scan none (encode cs) = cs.map some := by
  induction cs with
  | nil => rfl
  | cons c cs ih => rw [encode_cons, scan_char, ih, List.map_cons]

/-- **Encoded text decodes to itself.** -/
theorem decode?_encode (cs : List Char) : decode? (encode cs) = some cs := by
  rw [decode?, scan_encode]
  induction cs with
  | nil => rfl
  | cons c cs ih => simp [ih]

/-! ### Bytes of text -/

/-- A character below 128 is one byte; the bytes of any other are 128 or more. -/
lemma utf8EncodeChar_ascii {c : Char} (h : c.toNat < 0x80) :
    String.utf8EncodeChar c = [UInt8.ofNat c.toNat] := by
  rw [utf8EncodeChar_eq rfl, if_pos (by omega)]

lemma le_of_mem_utf8EncodeChar {c : Char} (h : 0x80 ≤ c.toNat) {b : UInt8}
    (hb : b ∈ String.utf8EncodeChar c) : 0x80 ≤ b.toNat := by
  have hrange := char_range c
  rw [utf8EncodeChar_eq rfl, if_neg (by omega)] at hb
  split at hb
  · simp only [List.mem_cons, List.not_mem_nil, or_false] at hb
    rcases hb with rfl | rfl <;> rw [toNat_ofNat (by omega)] <;> omega
  · split at hb
    · simp only [List.mem_cons, List.not_mem_nil, or_false] at hb
      rcases hb with rfl | rfl | rfl <;> rw [toNat_ofNat (by omega)] <;> omega
    · simp only [List.mem_cons, List.not_mem_nil, or_false] at hb
      rcases hb with rfl | rfl | rfl | rfl <;> rw [toNat_ofNat (by omega)] <;> omega

end JobWatch.Utf8
