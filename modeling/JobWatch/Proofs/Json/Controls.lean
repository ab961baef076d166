import JobWatch.Proofs.Json.Text
import JobWatch.Proofs.Text.Digits

/-!
No text of a value holds a control character.

Strings escape the 32 controls of ASCII, in keys as in values, and nothing else that is written is
one of them, floats included. So a text never breaks its line, nor do its bytes.
-/

namespace JobWatch.Json

/-- Text without any of the 32 controls of ASCII. -/
def NoControls (cs : List Char) : Prop := ∀ c ∈ cs, 0x20 ≤ c.toNat

@[simp] lemma noControls_nil : NoControls [] := by
  simp [NoControls]

@[simp] lemma noControls_cons {c : Char} {cs : List Char} :
    NoControls (c :: cs) ↔ 0x20 ≤ c.toNat ∧ NoControls cs := by
  simp [NoControls]

@[simp] lemma noControls_append {cs ds : List Char} :
    NoControls (cs ++ ds) ↔ NoControls cs ∧ NoControls ds := by
  simp only [NoControls, List.forall_mem_append]

lemma noControls_digits {cs : List Char} (h : ∀ c ∈ cs, c.isDigit = true) : NoControls cs := by
  intro c hc
  have := Text.toNat_isDigit (h c hc)
  omega

@[simp] lemma noControls_toDigits (n : Nat) : NoControls (Nat.toDigits 10 n) :=
  noControls_digits fun _ => Text.isDigit_toDigits

/-! ### Strings -/

lemma le_toNat_digitChar : ∀ n < 16, 0x20 ≤ (Nat.digitChar n).toNat := by
  decide

lemma noControls_charText (c : Char) : NoControls (charText c) := by
  unfold charText
  iterate 7
    split
    · simp
  split
  · next h =>
    have hhigh := le_toNat_digitChar (c.toNat / 16) (by omega)
    have hlow := le_toNat_digitChar (c.toNat % 16) (by omega)
    simp [hhigh, hlow]
  · next h => simpa using h

@[simp] lemma noControls_stringText (cs : List Char) : NoControls (stringText cs) := by
  have hchars : NoControls (cs.flatMap charText) := by
    intro c hc
    obtain ⟨d, -, hc⟩ := List.mem_flatMap.1 hc
    exact noControls_charText d c hc
  simp [stringText, hchars]

/-! ### Numbers -/

@[simp] lemma noControls_intText (n : Int) : NoControls (intText n) := by
  unfold intText
  split <;> simp

open Binary64 (paddedDigits) in
lemma noControls_positional (d : Binary64.Decimal) : NoControls d.positional := by
  unfold Binary64.Decimal.positional
  split
  · simp
  · have hpadded : NoControls (paddedDigits (d.exponent.natAbs + 1) d.digits) :=
      noControls_digits fun _ => Text.isDigit_paddedDigits
    rw [noControls_append, noControls_cons]
    exact ⟨fun c hc => hpadded c (List.mem_of_mem_take hc), by decide,
      fun c hc => hpadded c (List.mem_of_mem_drop hc)⟩

lemma noControls_signed (negative : Bool) {cs : List Char} (h : NoControls cs) :
    NoControls (if negative then '-' :: cs else cs) := by
  split
  · exact noControls_cons.2 ⟨by decide, h⟩
  · exact h

@[simp] lemma noControls_floatText (negative : Bool) (x : Binary64) :
    NoControls (floatText negative x) := by
  have hdigits := noControls_toDigits x.shortest.digits
  have hposition := noControls_positional x.shortest
  have hmark : ∀ first : Int,
      NoControls (if first < 0 then ['e', '-'] else ['e', '+']) := by
    intro first
    split <;> simp
  unfold floatText
  dsimp only
  generalize Nat.toDigits 10 x.shortest.digits = ds at hdigits ⊢
  refine noControls_signed negative ?_
  split
  · split
    · exact noControls_append.2 ⟨hposition, by simp⟩
    · exact hposition
  · split
    · -- one digit, and no point
      obtain ⟨hc, -⟩ := noControls_cons.1 hdigits
      simp only [List.cons_append, noControls_cons, noControls_append]
      exact ⟨hc, hmark _, noControls_toDigits _⟩
    · obtain ⟨hc, hcs⟩ := noControls_cons.1 hdigits
      simp only [List.cons_append, noControls_cons, noControls_append]
      exact ⟨hc, by decide, ⟨hcs, hmark _⟩, noControls_toDigits _⟩
    · exact noControls_nil

/-! ### Values -/

/-- Induction on values, with an assumption for every item and every member. -/
@[elab_as_elim]
lemma Value.nestedInduction {P : Value → Prop} (null : P .null) (bool : ∀ b, P (.bool b))
    (int : ∀ n, P (.int n)) (float : ∀ negative x, P (.float negative x)) (str : ∀ s, P (.str s))
    (arr : ∀ items, (∀ v ∈ items, P v) → P (.arr items))
    (obj : ∀ members, (∀ e ∈ members, P e.2) → P (.obj members)) (v : Value) : P v :=
  @Value.rec P (fun vs => ∀ v ∈ vs, P v) (fun ms => ∀ e ∈ ms, P e.2) (fun e => P e.2)
    null bool int float str arr obj
    (by simp) (fun _ _ hv hvs => List.forall_mem_cons.2 ⟨hv, hvs⟩)
    (by simp) (fun _ _ he hes => List.forall_mem_cons.2 ⟨he, hes⟩) (fun _ _ hv => hv) v

lemma noControls_itemsText {vs : List Value} (h : ∀ v ∈ vs, NoControls v.chars) :
    NoControls (itemsText vs) := by
  induction vs with
  | nil => simp [itemsText]
  | cons v vs ih =>
    obtain ⟨hv, hvs⟩ := List.forall_mem_cons.1 h
    cases vs with
    | nil => simpa [itemsText] using hv
    | cons w ws => simpa [itemsText, hv] using ih hvs

lemma noControls_membersText {ms : List (String × Value)} (h : ∀ e ∈ ms, NoControls e.2.chars) :
    NoControls (membersText ms) := by
  induction ms with
  | nil => simp [membersText]
  | cons e ms ih =>
    obtain ⟨he, hms⟩ := List.forall_mem_cons.1 h
    cases ms with
    | nil => simpa [membersText] using he
    | cons e' ms => simpa [membersText, he] using ih hms

/-- **The text of a value holds no control character.** -/
theorem Value.chars_noControls (v : Value) : NoControls v.chars := by
  induction v using Value.nestedInduction with
  | null | int | float | str => simp [Value.chars]
  | bool b => cases b <;> simp [Value.chars]
  | arr items ih => simpa [Value.chars] using noControls_itemsText ih
  | obj members ih => simpa [Value.chars] using noControls_membersText ih

/-- Nor do the bytes of a text hold one. -/
lemma NoControls.encode {cs : List Char} (h : NoControls cs) :
    ∀ b ∈ Utf8.encode cs, 0x20 ≤ b.toNat := by
  intro b hb
  obtain ⟨c, hc, hb⟩ := List.mem_flatMap.1 hb
  by_cases hascii : c.toNat < 0x80
  · rw [Utf8.utf8EncodeChar_ascii hascii, List.mem_singleton] at hb
    rw [hb, Utf8.toNat_ofNat (by omega)]
    exact h c hc
  · have := Utf8.le_of_mem_utf8EncodeChar (by omega) hb
    omega

end JobWatch.Json
