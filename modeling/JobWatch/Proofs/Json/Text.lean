import JobWatch.Proofs.Json.Reader
import JobWatch.Proofs.Text.Digits

/-!
Values are read back from their text.

The text of a value without floats, with integers that 64 bits hold and not nested too deep, reads
as the tree of that value, whatever stands behind it, as long as that does not go on with a number.
-/

namespace JobWatch.Json

open Text (toNat_isDigit isDigit_toDigits)

/-! ### Integers -/

/-- Bytes that do not go on with a number. -/
def EndsNumber : List UInt8 → Prop
  | [] => True
  | x :: _ => isDigit x = false ∧ x ≠ point ∧ x ≠ letterE ∧ x ≠ capitalE

lemma le_ofDigitChars (cs : List Char) (s : Nat) : s ≤ Nat.ofDigitChars 10 cs s := by
  induction cs generalizing s with
  | nil => simp
  | cons c cs ih =>
    rw [Nat.ofDigitChars_cons]
    have := ih (10 * s + (c.toNat - '0'.toNat))
    omega

lemma digit_ofNat {c : Char} (h : c.isDigit = true) :
    digit (UInt8.ofNat c.toNat) = c.toNat - '0'.toNat := by
  have := toNat_isDigit h
  rw [digit, Utf8.toNat_ofNat (by omega)]
  rfl

lemma isDigit_ofNat {c : Char} (h : c.isDigit = true) : isDigit (UInt8.ofNat c.toNat) = true := by
  have := toNat_isDigit h
  simp only [isDigit, Bool.and_eq_true, decide_eq_true_eq, UInt8.le_iff_toNat_le,
    Utf8.toNat_ofNat (show c.toNat < 256 by omega)]
  exact this

lemma isDigit_encode {cs : List Char} (h : ∀ c ∈ cs, c.isDigit = true) :
    ∀ b ∈ Utf8.encode cs, isDigit b = true := by
  intro b hb
  rw [Text.encode_digits h, List.mem_map] at hb
  obtain ⟨c, hc, rfl⟩ := hb
  exact isDigit_ofNat (h c hc)

/-- Digits are all taken while their number fits. -/
lemma takeDigits_encode {cs : List Char} (h : ∀ c ∈ cs, c.isDigit = true) {s : Nat}
    (hfit : Nat.ofDigitChars 10 cs s ≤ significandLimit) :
    takeDigits s (Utf8.encode cs) = (Nat.ofDigitChars 10 cs s, cs.length) := by
  rw [Text.encode_digits h]
  induction cs generalizing s with
  | nil => simp [takeDigits]
  | cons c cs ih =>
    rw [Nat.ofDigitChars_cons] at hfit ⊢
    have hle := le_ofDigitChars cs (10 * s + (c.toNat - '0'.toNat))
    have hnext : s * 10 + digit (UInt8.ofNat c.toNat) = 10 * s + (c.toNat - '0'.toNat) := by
      rw [digit_ofNat (h c (by simp)), Nat.mul_comm]
    rw [List.map_cons, takeDigits, hnext, if_pos (by omega),
      ih (fun x hx => h x (by simp [hx])) hfit]
    rfl

variable {rest : List UInt8}

lemma takeWhile_isDigit {ds : List UInt8} (h : ∀ b ∈ ds, isDigit b = true)
    (hrest : EndsNumber rest) :
    (ds ++ rest).takeWhile isDigit = ds := by
  rw [List.takeWhile_append_of_pos h]
  rcases rest with _ | ⟨x, more⟩
  · simp
  · simp [hrest.1]

lemma dropWhile_isDigit {ds : List UInt8} (h : ∀ b ∈ ds, isDigit b = true)
    (hrest : EndsNumber rest) :
    (ds ++ rest).dropWhile isDigit = rest := by
  rw [List.dropWhile_append_of_pos h]
  rcases rest with _ | ⟨x, more⟩
  · simp
  · simp [hrest.1]

lemma readMagnitudeRest_ends (hrest : EndsNumber rest) (negative : Bool) (s dropped : Nat) :
    readMagnitudeRest negative s dropped rest = integerTree negative s dropped rest := by
  rcases rest with _ | ⟨x, more⟩
  · rfl
  · exact readMagnitudeRest_other hrest.2.1 hrest.2.2.1 hrest.2.2.2 negative s dropped more

/-- The digits of a number have no leading zero, as bytes. -/
lemma no_leading_zero (n : Nat) :
    ¬ ((Utf8.encode (Nat.toDigits 10 n)).head? = some 0x30 ∧
      (Utf8.encode (Nat.toDigits 10 n)).length > 1) := by
  rw [Text.encode_digits fun c hc => isDigit_toDigits hc]
  rintro ⟨hhead, hlen⟩
  by_cases hn : n = 0
  · subst hn
    simp [Nat.toDigits_zero] at hlen
  · have hne := Text.head?_toDigits hn
    rcases h : Nat.toDigits 10 n with _ | ⟨c, cs⟩
    · exact absurd h Nat.toDigits_ne_nil
    · rw [h] at hhead hne
      have hc : c.isDigit = true := isDigit_toDigits (n := n) (by rw [h]; simp)
      have hrange := toNat_isDigit hc
      have hbyte : UInt8.ofNat c.toNat = 0x30 := by simpa using hhead
      have hval : (UInt8.ofNat c.toNat).toNat = 0x30 := by rw [hbyte]; rfl
      rw [Utf8.toNat_ofNat (by omega)] at hval
      apply hne
      rw [List.head?_cons, Option.some.injEq, ← Char.toNat_inj, hval]
      rfl

/-- An integer is read from its digits. -/
lemma readMagnitude_toDigits {n : Nat} (hn : n ≤ significandLimit) (hrest : EndsNumber rest)
    (negative : Bool) :
    readMagnitude negative (Utf8.encode (Nat.toDigits 10 n) ++ rest) =
      integerTree negative n 0 rest := by
  have hdigits : ∀ c ∈ Nat.toDigits 10 n, c.isDigit = true := fun c hc => isDigit_toDigits hc
  have hbytes := isDigit_encode hdigits
  have hne : Utf8.encode (Nat.toDigits 10 n) ≠ [] := by
    rw [Text.encode_digits hdigits]
    simp
  have hlen : (Utf8.encode (Nat.toDigits 10 n)).length = (Nat.toDigits 10 n).length := by
    rw [Text.encode_digits hdigits, List.length_map]
  have htake : takeDigits 0 (Utf8.encode (Nat.toDigits 10 n)) =
      (n, (Nat.toDigits 10 n).length) := by
    rw [takeDigits_encode hdigits] <;> simp [hn]
  rw [readMagnitude_eq, takeWhile_isDigit hbytes hrest, dropWhile_isDigit hbytes hrest]
  dsimp only
  rw [if_neg (by simpa using hne), if_neg (no_leading_zero n), htake, hlen, Nat.sub_self,
    readMagnitudeRest_ends hrest]

/-- The integers that are read as such. -/
def InRange (n : Int) : Prop := -0x8000000000000000 ≤ n ∧ n ≤ significandLimit

lemma readScalar_number {b : UInt8} (h : b = minus ∨ isDigit b = true) (bs : List UInt8) :
    readScalar (b :: bs) = readNumber (b :: bs) := by
  have hquote : b ≠ quote := by rintro rfl; revert h; decide
  have hn : b ≠ 0x6E := by rintro rfl; revert h; decide
  have ht : b ≠ 0x74 := by rintro rfl; revert h; decide
  have hf : b ≠ 0x66 := by rintro rfl; revert h; decide
  rw [readScalar, if_neg hquote, if_neg hn, if_neg ht, if_neg hf, if_pos h]

/-- **An integer is read back from its text.** -/
lemma readScalar_intText {n : Int} (hn : InRange n) (hrest : EndsNumber rest) :
    readScalar (Utf8.encode (intText n) ++ rest) = .ok (.int n, rest) := by
  obtain ⟨hlow, hhigh⟩ := hn
  by_cases hneg : n < 0
  · have habs : n.natAbs ≤ significandLimit := by simp only [significandLimit] at hhigh ⊢; omega
    have hpos : 0 < n.natAbs ∧ n.natAbs ≤ 0x8000000000000000 := by omega
    have htext : Utf8.encode (intText n) = minus :: Utf8.encode (Nat.toDigits 10 n.natAbs) := by
      rw [intText, if_pos hneg]
      rfl
    rw [htext, List.cons_append, readScalar_number (.inl rfl), readNumber_minus,
      readMagnitude_toDigits habs hrest, integerTree, if_neg (by omega), if_neg (by decide),
      if_pos hpos]
    congr 3
    omega
  · have habs : n.natAbs ≤ significandLimit := by simp only [significandLimit] at hhigh ⊢; omega
    have htext : Utf8.encode (intText n) = Utf8.encode (Nat.toDigits 10 n.natAbs) := by
      rw [intText, if_neg hneg]
    have hread := readMagnitude_toDigits habs hrest false
    have hdigits : ∀ c ∈ Nat.toDigits 10 n.natAbs, c.isDigit = true := fun c hc =>
      isDigit_toDigits hc
    have hbytes := isDigit_encode hdigits
    rw [htext]
    rcases h : Utf8.encode (Nat.toDigits 10 n.natAbs) with _ | ⟨b, bs⟩
    · rw [Text.encode_digits hdigits] at h
      simp at h
    · rw [h] at hread hbytes
      have hdigit := hbytes b (by simp)
      have hminus : b ≠ minus := by rintro rfl; exact absurd hdigit (by decide)
      rw [List.cons_append] at hread ⊢
      rw [readScalar_number (.inr hdigit), readNumber_unsigned hminus, hread, integerTree,
        if_neg (by omega), if_pos (by decide)]
      congr 3
      omega

/-! ### Strings -/

/-- Plain bytes stand for themselves. -/
lemma readStringBytes_append_plain {xs : List UInt8} (h : ∀ x ∈ xs, IsPlain x) (bs : List UInt8) :
    readStringBytes (xs ++ bs) = readStringBytes bs >>= fun p => .ok (xs ++ p.1, p.2) := by
  induction xs with
  | nil =>
    rw [List.nil_append]
    rcases readStringBytes bs with f | p <;> rfl
  | cons x xs ih =>
    rw [List.cons_append, readStringBytes_plain (h x (by simp)), ih fun y hy => h y (by simp [hy])]
    rcases readStringBytes bs with f | p <;> rfl

/-- A backslash and a letter stand for the character of that letter. -/
lemma readStringBytes_letter {x b : UInt8} (hx : x ≠ letterU) (h : shortEscape? x = some b)
    (bs : List UInt8) :
    readStringBytes (backslash :: x :: bs) =
      readStringBytes bs >>= fun p => .ok ([b] ++ p.1, p.2) := by
  have he : readEscape (x :: bs) = .ok ([b], bs) := by rw [readEscape_short hx, h]
  rw [readStringBytes_escape he]

lemma hexValue?_digitChar : ∀ n < 16, hexValue? (UInt8.ofNat (Nat.digitChar n).toNat) = some n := by
  decide

/-- A control is read from the number of its escape. -/
lemma readEscape_control {n : Nat} (hn : n < 0x20) (bs : List UInt8) :
    readEscape (letterU :: 0x30 :: 0x30 :: UInt8.ofNat (Nat.digitChar (n / 16)).toNat ::
        UInt8.ofNat (Nat.digitChar (n % 16)).toNat :: bs) =
      .ok (String.utf8EncodeChar (Char.ofNat n), bs) := by
  have hzero : hexValue? 0x30 = some 0 := by decide
  have hhex : readHex (0x30 :: 0x30 :: UInt8.ofNat (Nat.digitChar (n / 16)).toNat ::
      UInt8.ofNat (Nat.digitChar (n % 16)).toNat :: bs) = .ok (n, bs) := by
    have hval : ((0 * 16 + 0) * 16 + n / 16) * 16 + n % 16 = n := by omega
    simp only [readHex, hzero, hexValue?_digitChar (n / 16) (by omega),
      hexValue?_digitChar (n % 16) (by omega), hval]
  exact readEscape_unicode hhex (by omega)

lemma toNat_digitChar : ∀ n < 16, (Nat.digitChar n).toNat < 0x80 := by
  decide

/-- The bytes of a character that is written as it is. -/
lemma isPlain_of_mem {c : Char} (hquote : c ≠ '"') (hslash : c ≠ '\\') (hc : ¬ c.toNat < 0x20) :
    ∀ x ∈ String.utf8EncodeChar c, IsPlain x := by
  intro x hx
  have hplain : (x.toNat ≠ 0x22 ∧ x.toNat ≠ 0x5C) ∧ 0x20 ≤ x.toNat := by
    by_cases hascii : c.toNat < 0x80
    · rw [Utf8.utf8EncodeChar_ascii hascii, List.mem_singleton] at hx
      rw [hx, Utf8.toNat_ofNat (by omega)]
      refine ⟨⟨fun h => hquote ?_, fun h => hslash ?_⟩, by omega⟩ <;>
        rw [← Char.toNat_inj, h] <;> rfl
    · have := Utf8.le_of_mem_utf8EncodeChar (by omega) hx
      omega
  refine ⟨?_, ?_, ?_⟩
  · rintro rfl
    exact hplain.1.1 rfl
  · rintro rfl
    exact hplain.1.2 rfl
  · rw [UInt8.lt_iff_toNat_lt]
    exact Nat.not_lt.2 hplain.2

/-- The text of a character inside a string stands for the character. -/
lemma readStringBytes_charText (c : Char) (bs : List UInt8) :
    readStringBytes (Utf8.encode (charText c) ++ bs) =
      readStringBytes bs >>= fun p => .ok (String.utf8EncodeChar c ++ p.1, p.2) := by
  unfold charText
  split
  · next h => subst h; exact readStringBytes_letter (x := quote) (by decide) (by decide) bs
  split
  · next h => subst h; exact readStringBytes_letter (x := backslash) (by decide) (by decide) bs
  split
  · next h => subst h; exact readStringBytes_letter (x := 0x62) (by decide) (by decide) bs
  split
  · next h => subst h; exact readStringBytes_letter (x := 0x74) (by decide) (by decide) bs
  split
  · next h => subst h; exact readStringBytes_letter (x := 0x6E) (by decide) (by decide) bs
  split
  · next h => subst h; exact readStringBytes_letter (x := 0x66) (by decide) (by decide) bs
  split
  · next h => subst h; exact readStringBytes_letter (x := 0x72) (by decide) (by decide) bs
  split
  · next h =>
    have hbytes : Utf8.encode ['\\', 'u', '0', '0', Nat.digitChar (c.toNat / 16),
          Nat.digitChar (c.toNat % 16)] =
        [backslash, letterU, 0x30, 0x30, UInt8.ofNat (Nat.digitChar (c.toNat / 16)).toNat,
          UInt8.ofNat (Nat.digitChar (c.toNat % 16)).toNat] := by
      simp only [Utf8.encode_cons, Utf8.encode_nil,
        Utf8.utf8EncodeChar_ascii (toNat_digitChar (c.toNat / 16) (by omega)),
        Utf8.utf8EncodeChar_ascii (toNat_digitChar (c.toNat % 16) (by omega))]
      rfl
    rw [hbytes]
    simp only [List.cons_append, List.nil_append]
    rw [readStringBytes_escape (readEscape_control h bs), Char.ofNat_toNat]
  · next hquote hslash _ _ _ _ _ hc =>
    rw [Utf8.encode_cons, Utf8.encode_nil, List.append_nil]
    exact readStringBytes_append_plain (isPlain_of_mem hquote hslash hc) bs

/-- **A string is read back from its text**, whatever follows. -/
lemma readString_stringText (s : String) (bs : List UInt8) :
    readString (Utf8.encode (s.toList.flatMap charText) ++ quote :: bs) = .ok (s, bs) := by
  have hbytes : ∀ cs : List Char,
      readStringBytes (Utf8.encode (cs.flatMap charText) ++ quote :: bs) =
        .ok (Utf8.encode cs, bs) := by
    intro cs
    induction cs with
    | nil => exact readStringBytes_quote bs
    | cons c cs ih =>
      rw [List.flatMap_cons, Utf8.encode_append, List.append_assoc, readStringBytes_charText, ih]
      rfl
  unfold readString
  rw [hbytes]
  simp only [bind, Except.bind, Utf8.decode?_encode, String.ofList_toList]

end JobWatch.Json
