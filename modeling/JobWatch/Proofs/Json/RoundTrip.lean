import JobWatch.Json.Reader
import JobWatch.Proofs.Json.Text

/-!
A value is read back from its compact text, if it holds no float.

The tree of a value is the value itself, with nothing missing and every member in its place. Reading
the text of a value gives its tree: by induction on how the value fits the depth and the 64 bits.
-/

namespace JobWatch.Json

mutual

/-- The tree of a document that holds a value, its members in the same order. -/
def Value.tree : Value → Tree
  | .null => .null
  | .bool b => .bool b
  | .int n => .int n
  | .float negative x => .float negative x
  | .str s => .str s
  | .arr items => .arr (itemTrees items) none
  | .obj members => .obj (memberTrees members) none

def itemTrees : List Value → List Tree
  | [] => []
  | v :: vs => v.tree :: itemTrees vs

def memberTrees : List (String × Value) → List (String × Tree)
  | [] => []
  | (k, v) :: ms => (k, v.tree) :: memberTrees ms

end

mutual

/-- No number in a value, however deep, is a float. -/
def Value.isFloatFree : Value → Bool
  | .float _ _ => false
  | .arr items => itemsFloatFree items
  | .obj members => membersFloatFree members
  | _ => true

def itemsFloatFree : List Value → Bool
  | [] => true
  | v :: vs => v.isFloatFree && itemsFloatFree vs

def membersFloatFree : List (String × Value) → Bool
  | [] => true
  | (_, v) :: ms => v.isFloatFree && membersFloatFree ms

end

/-- A value that is nested at most so deep, with integers that are read as such. -/
inductive Value.Fits : Nat → Value → Prop
  | null {n : Nat} : Fits n .null
  | bool {n : Nat} {b : Bool} : Fits n (.bool b)
  | int {n : Nat} {i : Int} : InRange i → Fits n (.int i)
  | float {n : Nat} {negative : Bool} {x : Binary64} : Fits n (.float negative x)
  | str {n : Nat} {s : String} : Fits n (.str s)
  | arr {n : Nat} {items : List Value} : (∀ v ∈ items, Fits n v) → Fits (n + 1) (.arr items)
  | obj {n : Nat} {members : List (String × Value)} :
    (∀ e ∈ members, Fits n e.2) → Fits (n + 1) (.obj members)

lemma memberTrees_eq_map (ms : List (String × Value)) :
    memberTrees ms = ms.map fun e => (e.1, e.2.tree) := by
  induction ms with
  | nil => rfl
  | cons e ms ih => rw [memberTrees, ih, List.map_cons]

lemma itemTrees_eq_map (vs : List Value) : itemTrees vs = vs.map Value.tree := by
  induction vs with
  | nil => rfl
  | cons v vs ih => rw [itemTrees, ih, List.map_cons]

lemma itemsFloatFree_iff {vs : List Value} :
    itemsFloatFree vs = true ↔ ∀ v ∈ vs, v.isFloatFree = true := by
  induction vs with
  | nil => simp [itemsFloatFree]
  | cons v vs ih => simp [itemsFloatFree, ih]

lemma membersFloatFree_iff {ms : List (String × Value)} :
    membersFloatFree ms = true ↔ ∀ e ∈ ms, e.2.isFloatFree = true := by
  induction ms with
  | nil => simp [membersFloatFree]
  | cons e ms ih => simp [membersFloatFree, ih]

/-! ### Reading step by step -/

variable {element : List UInt8 → Reading Tree} {bs rest : List UInt8} {t : Tree}

lemma skipBlanks_of_not_blank {b : UInt8} (h : isBlank b = false) (bs : List UInt8) :
    skipBlanks (b :: bs) = b :: bs := by
  rw [skipBlanks, List.dropWhile_cons, h]
  rfl

lemma readItems_last (h : element bs = (t, .ok (closeBracket :: rest))) :
    readItems element bs = ([t], .ok rest) := by
  rw [readItems, h]
  rfl

lemma readItems_comma (h : element bs = (t, .ok (comma :: rest)))
    (hlen : rest.length < bs.length) :
    readItems element bs =
      (t :: (readItems element rest).1, (readItems element rest).2) := by
  rw [readItems, h]
  dsimp only
  rw [skipBlanks_of_not_blank rfl]
  dsimp only
  rw [if_neg (by decide), if_pos rfl, dif_pos hlen]

lemma readMembers_last {k : String} {value : List UInt8}
    (hk : readString bs = .ok (k, colon :: value))
    (h : element value = (t, .ok (closeBrace :: rest))) :
    readMembers element (quote :: bs) = ([(k, t)], .ok rest) := by
  rw [readMembers, skipBlanks_of_not_blank rfl]
  dsimp only
  rw [if_neg (by decide), hk]
  dsimp only
  rw [skipBlanks_of_not_blank rfl]
  dsimp only
  rw [if_neg (by decide), h]
  rfl

lemma readMembers_comma {k : String} {value : List UInt8}
    (hk : readString bs = .ok (k, colon :: value))
    (h : element value = (t, .ok (comma :: rest))) (hlen : rest.length < bs.length) :
    readMembers element (quote :: bs) =
      ((k, t) :: (readMembers element rest).1, (readMembers element rest).2) := by
  rw [readMembers, skipBlanks_of_not_blank rfl]
  dsimp only
  rw [if_neg (by decide), hk]
  dsimp only
  rw [skipBlanks_of_not_blank rfl]
  dsimp only
  rw [if_neg (by decide), h]
  dsimp only
  rw [skipBlanks_of_not_blank rfl]
  dsimp only
  rw [if_neg (by decide), if_pos rfl, dif_pos (by rw [List.length_cons]; omega)]

lemma read_scalar {b : UInt8} (hblank : isBlank b = false) (hbracket : b ≠ openBracket)
    (hbrace : b ≠ openBrace) (h : readScalar (b :: bs) = .ok (t, rest)) (n : Nat) :
    read n (b :: bs) = (t, .ok rest) := by
  rw [read_eq, skipBlanks_of_not_blank hblank]
  dsimp only
  rw [if_neg (by tauto), h]
  rfl

lemma read_bracket (n : Nat) (bs : List UInt8) :
    read (n + 1) (openBracket :: bs) = readArray (read n) bs := by
  rw [read_eq, skipBlanks_of_not_blank rfl]
  rfl

lemma read_brace (n : Nat) (bs : List UInt8) :
    read (n + 1) (openBrace :: bs) = readObject (read n) bs := by
  rw [read_eq, skipBlanks_of_not_blank rfl]
  rfl

/-! ### Texts -/

lemma encode_intText (i : Int) :
    ∃ b bs, Utf8.encode (intText i) = b :: bs ∧ (b = minus ∨ isDigit b = true) := by
  have hdigits : ∀ c ∈ Nat.toDigits 10 i.natAbs, c.isDigit = true := fun c hc =>
    Text.isDigit_toDigits hc
  rw [intText]
  split
  · exact ⟨minus, _, rfl, .inl rfl⟩
  · rcases h : Utf8.encode (Nat.toDigits 10 i.natAbs) with _ | ⟨b, bs⟩
    · rw [Text.encode_digits hdigits] at h
      simp at h
    · exact ⟨b, bs, rfl, .inr (isDigit_encode hdigits b (by rw [h]; simp))⟩

lemma not_blank_of_number {b : UInt8} (h : b = minus ∨ isDigit b = true) :
    isBlank b = false ∧ b ≠ openBracket ∧ b ≠ openBrace ∧ b ≠ closeBracket := by
  refine ⟨?_, ?_, ?_, ?_⟩
  · rw [Bool.eq_false_iff]
    intro hblank
    simp only [isBlank, Bool.or_eq_true, beq_iff_eq] at hblank
    rcases hblank with ((rfl | rfl) | rfl) | rfl <;> revert h <;> decide
  all_goals rintro rfl; revert h; decide

/-- The text of a value begins with a byte that is no blank and closes no array. -/
lemma encode_chars {v : Value} (hf : v.isFloatFree = true) :
    ∃ b bs, Utf8.encode v.chars = b :: bs ∧ isBlank b = false ∧ b ≠ closeBracket := by
  cases v with
  | null => exact ⟨0x6E, _, rfl, by decide, by decide⟩
  | bool b =>
    cases b
    · exact ⟨0x66, _, rfl, by decide, by decide⟩
    · exact ⟨0x74, _, rfl, by decide, by decide⟩
  | int i =>
    obtain ⟨b, bs, h, hb⟩ := encode_intText i
    have hbyte := not_blank_of_number hb
    exact ⟨b, bs, by rw [Value.chars, h], hbyte.1, hbyte.2.2.2⟩
  | float negative x => exact absurd hf (by simp [Value.isFloatFree])
  | str s => exact ⟨quote, _, rfl, by decide, by decide⟩
  | arr items => exact ⟨openBracket, _, rfl, by decide, by decide⟩
  | obj members => exact ⟨openBrace, _, rfl, by decide, by decide⟩

/-- The text of a value is read as its tree, whatever stands behind it, as long as that does not go
on with a number. -/
def ReadsBack (n : Nat) (v : Value) : Prop :=
  ∀ rest, EndsNumber rest → read n (Utf8.encode v.chars ++ rest) = (v.tree, .ok rest)

lemma endsNumber_closeBracket (bs : List UInt8) : EndsNumber (closeBracket :: bs) := by
  refine ⟨?_, ?_, ?_, ?_⟩ <;> decide

lemma endsNumber_closeBrace (bs : List UInt8) : EndsNumber (closeBrace :: bs) := by
  refine ⟨?_, ?_, ?_, ?_⟩ <;> decide

lemma endsNumber_comma (bs : List UInt8) : EndsNumber (comma :: bs) := by
  refine ⟨?_, ?_, ?_, ?_⟩ <;> decide

lemma readItems_itemsText {n : Nat} {v : Value} {vs : List Value}
    (h : ∀ x ∈ v :: vs, ReadsBack n x) (rest : List UInt8) :
    readItems (read n) (Utf8.encode (itemsText (v :: vs)) ++ closeBracket :: rest) =
      (itemTrees (v :: vs), .ok rest) := by
  induction vs generalizing v with
  | nil => exact readItems_last (h v (by simp) _ (endsNumber_closeBracket rest))
  | cons w ws ih =>
    have hbytes : Utf8.encode (itemsText (v :: w :: ws)) ++ closeBracket :: rest =
        Utf8.encode v.chars ++
          comma :: (Utf8.encode (itemsText (w :: ws)) ++ closeBracket :: rest) := by
      rw [itemsText, Utf8.encode_append, List.append_assoc]
      · rfl
      · simp
    have hread := h v (by simp) _
      (endsNumber_comma (Utf8.encode (itemsText (w :: ws)) ++ closeBracket :: rest))
    rw [hbytes, readItems_comma hread (by simp; omega), ih fun x hx => h x (by simp [hx])]
    rfl

lemma readMembers_membersText {n : Nat} {e : String × Value} {es : List (String × Value)}
    (h : ∀ x ∈ e :: es, ReadsBack n x.2) (rest : List UInt8) :
    readMembers (read n) (Utf8.encode (membersText (e :: es)) ++ closeBrace :: rest) =
      (memberTrees (e :: es), .ok rest) := by
  induction es generalizing e with
  | nil =>
    obtain ⟨k, v⟩ := e
    have hbytes : Utf8.encode (membersText [(k, v)]) ++ closeBrace :: rest =
        quote :: (Utf8.encode (k.toList.flatMap charText) ++
          quote :: colon :: (Utf8.encode v.chars ++ closeBrace :: rest)) := by
      simp only [membersText, stringText, Utf8.encode_append, Utf8.encode_cons, List.append_assoc,
        List.cons_append]
      rfl
    have hread := h (k, v) (by simp) _ (endsNumber_closeBrace rest)
    rw [hbytes, readMembers_last (readString_stringText k _) hread]
    rfl
  | cons e' es ih =>
    obtain ⟨k, v⟩ := e
    have hbytes : Utf8.encode (membersText ((k, v) :: e' :: es)) ++ closeBrace :: rest =
        quote :: (Utf8.encode (k.toList.flatMap charText) ++
          quote :: colon :: (Utf8.encode v.chars ++
            comma :: (Utf8.encode (membersText (e' :: es)) ++ closeBrace :: rest))) := by
      rw [membersText]
      · simp only [stringText, Utf8.encode_append, Utf8.encode_cons, List.append_assoc,
          List.cons_append]
        rfl
      · simp
    have hread := h (k, v) (by simp) _
      (endsNumber_comma (Utf8.encode (membersText (e' :: es)) ++ closeBrace :: rest))
    rw [hbytes, readMembers_comma (readString_stringText k _) hread (by simp; omega),
      ih fun x hx => h x (by simp [hx])]
    rfl

lemma read_array_chars {n : Nat} {items : List Value} (hf : ∀ v ∈ items, v.isFloatFree = true)
    (h : ∀ v ∈ items, ReadsBack n v) : ReadsBack (n + 1) (.arr items) := by
  intro rest _
  have hbytes : Utf8.encode (Value.arr items).chars ++ rest =
      openBracket :: (Utf8.encode (itemsText items) ++ closeBracket :: rest) := by
    rw [Value.chars, Utf8.encode_append, List.append_assoc]
    rfl
  rw [hbytes, read_bracket]
  rcases items with _ | ⟨v, vs⟩
  · rfl
  · obtain ⟨b, bs, hv, hblank, hclose⟩ := encode_chars (hf v (by simp))
    have hread := readItems_itemsText h rest
    obtain ⟨more, hmore⟩ : ∃ more,
        Utf8.encode (itemsText (v :: vs)) ++ closeBracket :: rest = b :: more := by
      rcases vs with _ | ⟨w, ws⟩
      · exact ⟨bs ++ closeBracket :: rest, by rw [itemsText, hv]; rfl⟩
      · refine ⟨bs ++ (Utf8.encode (',' :: itemsText (w :: ws)) ++ closeBracket :: rest), ?_⟩
        rw [itemsText, Utf8.encode_append, hv]
        · simp
        · simp
    rw [hmore] at hread ⊢
    rw [readArray, skipBlanks_of_not_blank hblank]
    dsimp only
    rw [if_neg hclose, hread]
    rfl

lemma read_object_chars {n : Nat} {members : List (String × Value)}
    (h : ∀ e ∈ members, ReadsBack n e.2) : ReadsBack (n + 1) (.obj members) := by
  intro rest _
  have hbytes : Utf8.encode (Value.obj members).chars ++ rest =
      openBrace :: (Utf8.encode (membersText members) ++ closeBrace :: rest) := by
    rw [Value.chars, Utf8.encode_append, List.append_assoc]
    rfl
  rw [hbytes, read_brace]
  rcases members with _ | ⟨⟨k, v⟩, es⟩
  · rfl
  · have hread := readMembers_membersText h rest
    obtain ⟨more, hmore⟩ : ∃ more,
        Utf8.encode (membersText ((k, v) :: es)) ++ closeBrace :: rest = quote :: more := by
      rcases es with _ | ⟨e, es⟩ <;> exact ⟨_, rfl⟩
    rw [hmore] at hread ⊢
    rw [readObject, skipBlanks_of_not_blank rfl]
    dsimp only
    rw [if_neg (by decide), hread]
    rfl

lemma read_scalar_chars {n : Nat} {v : Value} {b : UInt8} {bs : List UInt8}
    (hbytes : Utf8.encode v.chars = b :: bs) (hblank : isBlank b = false)
    (hbracket : b ≠ openBracket) (hbrace : b ≠ openBrace)
    (h : ∀ rest, EndsNumber rest →
      readScalar (Utf8.encode v.chars ++ rest) = .ok (v.tree, rest)) : ReadsBack n v := by
  intro rest hrest
  have hread := h rest hrest
  rw [hbytes] at hread ⊢
  exact read_scalar hblank hbracket hbrace hread n

/-- **A value without floats is read back from its text.** -/
theorem Value.Fits.readsBack {n : Nat} {v : Value} (h : v.Fits n) (hf : v.isFloatFree = true) :
    ReadsBack n v := by
  induction h with
  | null => exact read_scalar_chars (b := 0x6E) rfl rfl (by decide) (by decide) fun _ _ => rfl
  | @bool _ b =>
    cases b
    · exact read_scalar_chars (b := 0x66) rfl rfl (by decide) (by decide) fun _ _ => rfl
    · exact read_scalar_chars (b := 0x74) rfl rfl (by decide) (by decide) fun _ _ => rfl
  | @int _ i hi =>
    obtain ⟨b, bs, hbytes, hb⟩ := encode_intText i
    obtain ⟨hblank, hbracket, hbrace, -⟩ := not_blank_of_number hb
    exact read_scalar_chars hbytes hblank hbracket hbrace fun rest hrest =>
      readScalar_intText hi hrest
  | float => exact absurd hf (by simp [Value.isFloatFree])
  | @str _ s =>
    refine read_scalar_chars (b := quote) rfl rfl (by decide) (by decide) fun rest _ => ?_
    have hbytes : Utf8.encode (Value.str s).chars ++ rest =
        quote :: (Utf8.encode (s.toList.flatMap charText) ++ quote :: rest) := by
      simp only [Value.chars, stringText, Utf8.encode_append, Utf8.encode_cons, List.append_assoc,
        List.cons_append]
      rfl
    rw [hbytes, readScalar, if_pos rfl, readString_stringText]
    rfl
  | arr _ ih =>
    have hitems := itemsFloatFree_iff.1 (by simpa only [Value.isFloatFree] using hf)
    exact read_array_chars hitems fun v hv => ih v hv (hitems v hv)
  | obj _ ih =>
    have hmembers := membersFloatFree_iff.1 (by simpa only [Value.isFloatFree] using hf)
    exact read_object_chars fun e he => ih e he (hmembers e he)

end JobWatch.Json
