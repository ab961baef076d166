import JobWatch.Proofs.Text.Utf8
import JobWatch.Url
import Mathlib.Tactic.Lemma

/-!
Percent-encoding: what a form tells is read back from its text, whatever its names and values are.

The reader is the usual one: parts between `&`, each parted at its first `=`, a `+` for a space, and
percent-encoded bytes of UTF-8. Names and values are written with letters, digits and six marks
only, so that neither of the separators is ever a part of them.
-/

namespace JobWatch.Url

/-! ### Splitting -/

/-- The parts are those of the library. -/
lemma splitOn_eq (sep : Char) (cs : List Char) : splitOn sep cs = List.splitOn sep cs := by
  induction cs with
  | nil => rfl
  | cons c cs ih =>
    rw [splitOn, ih, List.splitOn_cons_eq_if_modifyHead]
    simp only [beq_iff_eq]
    split
    · rfl
    · rcases h : List.splitOn sep cs with _ | ⟨part, parts⟩
      · exact absurd h (List.splitOn_ne_nil _ _)
      · rfl

/-! ### Percent-encoding -/

lemma upperHex_spec : ∀ n < 16, (upperHex n).toNat < 0x80 ∧
    hexDigit? (UInt8.ofNat (upperHex n).toNat) = some n := by
  decide

lemma mem_percentByte {b : UInt8} {c : Char} (h : c ∈ percentByte b) :
    c = '%' ∨ ∃ n < 16, c = upperHex n := by
  have hb := b.toNat_lt
  simp only [percentByte, List.mem_cons, List.not_mem_nil, or_false] at h
  rcases h with rfl | rfl | rfl
  · exact .inl rfl
  · exact .inr ⟨_, by omega, rfl⟩
  · exact .inr ⟨_, by omega, rfl⟩

lemma percentDecode_plain {b : UInt8} (h : b ≠ 0x25) (bs : List UInt8) :
    percentDecode (b :: bs) = b :: percentDecode bs := by
  rw [percentDecode]
  rintro x y rest rfl
  exact absurd rfl h

/-- An encoded byte is read back, whatever follows. -/
lemma percentDecode_percentByte (b : UInt8) (bs : List UInt8) :
    percentDecode (Utf8.encode (percentByte b) ++ bs) = b :: percentDecode bs := by
  obtain ⟨hhigh, hh⟩ := upperHex_spec (b.toNat / 16) (by have := b.toNat_lt; omega)
  obtain ⟨hlow, hl⟩ := upperHex_spec (b.toNat % 16) (by omega)
  have hbyte : b.toNat / 16 * 16 + b.toNat % 16 = b.toNat := by omega
  have hencode : Utf8.encode (percentByte b) =
      [0x25, UInt8.ofNat (upperHex (b.toNat / 16)).toNat,
        UInt8.ofNat (upperHex (b.toNat % 16)).toNat] := by
    rw [percentByte, Utf8.encode_cons, Utf8.encode_cons, Utf8.encode_cons,
      Utf8.utf8EncodeChar_ascii hhigh, Utf8.utf8EncodeChar_ascii hlow]
    rfl
  rw [hencode]
  simp only [List.cons_append, List.nil_append, percentDecode, hh, hl, hbyte, UInt8.ofNat_toNat]

lemma percentDecode_percentBytes (bytes bs : List UInt8) :
    percentDecode (Utf8.encode (bytes.flatMap percentByte) ++ bs) =
      bytes ++ percentDecode bs := by
  induction bytes with
  | nil => rfl
  | cons b bytes ih =>
    rw [List.flatMap_cons, Utf8.encode_append, List.append_assoc, percentDecode_percentByte, ih,
      List.cons_append]

/-! ### Forms -/

/-- Undoes the encoding of a name or a value. -/
def formDecode (cs : List Char) : String :=
  String.ofList <| Utf8.decodeLossy <| percentDecode <| Utf8.encode <|
    cs.map fun c => if c = '+' then ' ' else c

/-- The names and values that a text tells: the parts between `&` that are not empty, each parted
at its first `=`. -/
def formPairs (cs : List Char) : List (String × String) :=
  ((splitOn '&' cs).filter (· ≠ [])).map fun part =>
    let name := part.takeWhile (· ≠ '=')
    (formDecode name, formDecode ((part.drop name.length).drop 1))

/-- A character of an encoded name or value. -/
def isFormChar (c : Char) : Bool := isFormPlain c || c = '+' || c = '%'

lemma isFormChar_formEncode (cs : List Char) : ∀ c ∈ formEncode cs, isFormChar c = true := by
  have hhex : ∀ n < 16, isFormChar (upperHex n) = true := by decide
  intro d hd
  obtain ⟨c, -, hd⟩ := List.mem_flatMap.1 hd
  split at hd
  · rw [List.mem_singleton.1 hd]
    rfl
  · split at hd
    · next hplain =>
      rw [List.mem_singleton.1 hd, isFormChar, hplain]
      rfl
    · obtain ⟨b, -, hd⟩ := List.mem_flatMap.1 hd
      rcases mem_percentByte hd with rfl | ⟨n, hn, rfl⟩
      · rfl
      · exact hhex n hn

lemma not_mem_formEncode {sep : Char} (h : isFormChar sep = false) (cs : List Char) :
    sep ∉ formEncode cs := fun hmem => by
  simpa [h] using isFormChar_formEncode cs sep hmem

/-- A plain character is ASCII, and no part of an encoding. -/
lemma isFormPlain_spec {c : Char} (h : isFormPlain c = true) :
    c.toNat < 0x80 ∧ c ≠ '+' ∧ c ≠ '%' := by
  refine ⟨?_, ?_, ?_⟩
  · rw [isFormPlain, Bool.or_eq_true, List.contains_iff_mem] at h
    rcases h with h | h
    · have hbelow (d : Char) (hd : d.toNat < 0x80) (hle : c.val ≤ d.val) : c.toNat < 0x80 :=
        Nat.lt_of_le_of_lt (UInt32.le_iff_toNat_le.1 hle) hd
      have hkinds : ((c.isUpper || c.isLower) || c.isDigit) = true := h
      simp only [Bool.or_eq_true] at hkinds
      -- each kind is a range of characters, with its last one below the limit
      rcases hkinds with (hupper | hlower) | hdigit
      · exact hbelow 'Z' (by decide) (of_decide_eq_true hupper).2
      · exact hbelow 'z' (by decide) (of_decide_eq_true (Bool.and_eq_true_iff.1 hlower).2)
      · exact Nat.lt_of_le_of_lt (Char.isDigit_iff_toNat.1 hdigit).2 (by decide)
    · have hmarks : ['*', '-', '.', '_'].all (fun c => c.toNat < 0x80) = true := by decide
      simpa using List.all_eq_true.1 hmarks c h
  · rintro rfl
    exact absurd h (by decide)
  · rintro rfl
    exact absurd h (by decide)

/-- **A name or a value is read back from its encoding.** -/
theorem formDecode_formEncode (s : String) : formDecode (formEncode s.toList) = s := by
  have hencoded (bytes : List UInt8) :
      (bytes.flatMap percentByte).map (fun c => if c = '+' then ' ' else c) =
        bytes.flatMap percentByte := by
    have hhex : ∀ n < 16, upperHex n ≠ '+' := by decide
    refine (List.map_congr_left fun c hc => ?_).trans (List.map_id _)
    obtain ⟨b, -, hc⟩ := List.mem_flatMap.1 hc
    rcases mem_percentByte hc with rfl | ⟨n, hn, rfl⟩
    · rfl
    · exact if_neg (hhex n hn)
  have hbytes (cs : List Char) :
      percentDecode (Utf8.encode ((formEncode cs).map fun c => if c = '+' then ' ' else c)) =
        Utf8.encode cs := by
    induction cs with
    | nil => rfl
    | cons c cs ih =>
      rw [formEncode, List.flatMap_cons, List.map_append, Utf8.encode_append, Utf8.encode_cons]
      rw [formEncode] at ih
      by_cases hspace : c = ' '
      · subst hspace
        rw [if_pos rfl, ← ih]
        exact percentDecode_plain (by decide) _
      rw [if_neg hspace]
      by_cases hplain : isFormPlain c = true
      · obtain ⟨hascii, hplus, hpercent⟩ := isFormPlain_spec hplain
        have hbyte : UInt8.ofNat c.toNat ≠ 0x25 := by
          intro h
          have hnat : c.toNat = 0x25 := by
            rw [← Utf8.toNat_ofNat (n := c.toNat) (by omega), h]
            rfl
          exact hpercent ((Char.ofNat_toNat c).symm.trans (congrArg Char.ofNat hnat))
        rw [if_pos hplain, List.map_singleton, if_neg hplus, Utf8.encode_cons, Utf8.encode_nil,
          List.append_nil, Utf8.utf8EncodeChar_ascii hascii, List.singleton_append,
          percentDecode_plain hbyte, ih, List.singleton_append]
      · rw [if_neg hplain, hencoded, percentDecode_percentBytes, ih]
  rw [formDecode, hbytes, Utf8.decodeLossy, Utf8.scan_encode, List.map_map]
  show String.ofList (s.toList.map id) = s
  rw [List.map_id, String.ofList_toList]

/-- What one part of a form tells. -/
lemma formDecode_part (k v : String) :
    let part := formEncode k.toList ++ '=' :: formEncode v.toList
    let name := part.takeWhile (· ≠ '=')
    (formDecode name, formDecode ((part.drop name.length).drop 1)) = (k, v) := by
  have hname : ∀ c ∈ formEncode k.toList, decide (c ≠ '=') = true := by
    intro c hc
    rw [decide_eq_true_eq]
    rintro rfl
    exact not_mem_formEncode (by decide) _ hc
  have htake : (formEncode k.toList ++ '=' :: formEncode v.toList).takeWhile (· ≠ '=') =
      formEncode k.toList := by
    rw [List.takeWhile_append_of_pos hname, List.takeWhile_cons_of_neg (by simp), List.append_nil]
  dsimp only
  rw [htake, List.drop_left, List.drop_one, List.tail_cons, formDecode_formEncode,
    formDecode_formEncode]

/-- **The pairs of a form are read back from its text.** -/
theorem formPairs_formText (pairs : List (String × String)) :
    formPairs (formText pairs) = pairs := by
  rcases pairs with _ | ⟨first, pairs⟩
  · rfl
  generalize hall : first :: pairs = all
  have hne : all ≠ [] := hall ▸ List.cons_ne_nil _ _
  have hpart (k v : String) : '&' ∉ formEncode k.toList ++ '=' :: formEncode v.toList := by
    simp [not_mem_formEncode (show isFormChar '&' = false from rfl)]
  rw [formPairs, formText, splitOn_eq, List.splitOn_intercalate, List.filter_eq_self.2,
    List.map_map]
  · refine (List.map_congr_left fun p _ => ?_).trans (List.map_id _)
    obtain ⟨k, v⟩ := p
    exact formDecode_part k v
  · intro part hmem
    obtain ⟨⟨k, v⟩, -, rfl⟩ := List.mem_map.1 hmem
    exact decide_eq_true (List.append_ne_nil_of_right_ne_nil _ (List.cons_ne_nil _ _))
  · intro part hmem
    obtain ⟨⟨k, v⟩, -, rfl⟩ := List.mem_map.1 hmem
    exact hpart k v
  · simpa using hne

lemma mem_formText {pairs : List (String × String)} {c : Char} (h : c ∈ formText pairs) :
    isFormChar c = true ∨ c = '&' ∨ c = '=' := by
  have hpart {k v : String} (h : c ∈ formEncode k.toList ++ '=' :: formEncode v.toList) :
      isFormChar c = true ∨ c = '=' := by
    rcases List.mem_append.1 h with h | h
    · exact .inl (isFormChar_formEncode _ c h)
    · rcases List.mem_cons.1 h with h | h
      · exact .inr h
      · exact .inl (isFormChar_formEncode _ c h)
  induction pairs with
  | nil => cases h
  | cons pair pairs ih =>
    rw [formText] at h ih
    rcases pairs with _ | ⟨next, pairs⟩
    · rw [List.map_singleton, List.intercalate_singleton] at h
      exact (hpart h).imp_right .inr
    · rw [List.map_cons, List.map_cons, List.intercalate_cons_cons, List.append_assoc] at h
      rcases List.mem_append.1 h with h | h
      · exact (hpart h).imp_right .inr
      · rcases List.mem_cons.1 h with h | h
        · exact .inr (.inl h)
        · exact ih h

end JobWatch.Url
