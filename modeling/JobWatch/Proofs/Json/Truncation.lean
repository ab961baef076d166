import JobWatch.Proofs.Json.Generic
import JobWatch.Proofs.Json.TrailingBlank
import Mathlib.Data.List.DropRight

/-!
Documents that are cut off.

A reader that succeeds does the same when more bytes follow, and leaves them over. Only a number
could go on, and inside an array or an object something else always follows it. So an object that
has been read stays as it is, and a document that is an object has no beginning that is a document
too, but for the blanks at its end.
-/

namespace JobWatch.Json

variable {bs rest : List UInt8} {t : Tree}

lemma skipBlanks_more {b : UInt8} (h : skipBlanks bs = b :: rest) (more : List UInt8) :
    skipBlanks (bs ++ more) = b :: (rest ++ more) := by
  rw [skipBlanks, List.dropWhile_append, ← skipBlanks, h]
  rfl

/-! ### Strings -/

lemma readHex_more {n : Nat} (h : readHex bs = .ok (n, rest)) (more : List UInt8) :
    readHex (bs ++ more) = .ok (n, rest ++ more) := by
  unfold readHex at h
  split at h
  · next a b c d tail =>
    split at h
    · next ha hb hc hd =>
      cases h
      simp only [List.cons_append, readHex, ha, hb, hc, hd]
    · simp at h
  · simp at h

lemma readLowSurrogate_more {n : Nat} (h : readLowSurrogate bs = .ok (n, rest))
    (more : List UInt8) : readLowSurrogate (bs ++ more) = .ok (n, rest ++ more) := by
  unfold readLowSurrogate at h
  split at h
  · next tail =>
    obtain ⟨⟨m, tail'⟩, hhex, h⟩ := bind_eq_ok.1 h
    refine bind_eq_ok.2 ⟨(m, tail' ++ more), readHex_more hhex more, ?_⟩
    dsimp only at h ⊢
    split at h
    · next hlow =>
      rw [if_pos hlow]
      cases h
      rfl
    · simp at h
  all_goals simp at h

lemma readEscape_more {out : List UInt8} (h : readEscape bs = .ok (out, rest))
    (more : List UInt8) : readEscape (bs ++ more) = .ok (out, rest ++ more) := by
  rcases bs with _ | ⟨x, bs⟩
  · simp [readEscape] at h
  by_cases hx : x = letterU
  · subst hx
    obtain ⟨⟨n, tail⟩, hhex, h⟩ := bind_eq_ok.1 h
    refine bind_eq_ok.2 ⟨(n, tail ++ more), readHex_more hhex more, ?_⟩
    dsimp only at h ⊢
    split at h
    · simp at h
    · next hlow =>
      rw [if_neg hlow]
      split at h
      · next hhigh =>
        rw [if_pos hhigh]
        obtain ⟨⟨m, tail'⟩, hpair, h⟩ := bind_eq_ok.1 h
        obtain ⟨rfl, rfl⟩ := Prod.mk.inj (Except.ok.inj h)
        exact bind_eq_ok.2 ⟨_, readLowSurrogate_more hpair more, rfl⟩
      · next hhigh =>
        rw [if_neg hhigh]
        obtain ⟨rfl, rfl⟩ := Prod.mk.inj (Except.ok.inj h)
        rfl
  · rw [List.cons_append, readEscape_short hx]
    rw [readEscape_short hx] at h
    rcases hshort : shortEscape? x with _ | c <;> rw [hshort] at h <;> cases h
    rfl

lemma readStringBytes_more {out : List UInt8} (h : readStringBytes bs = .ok (out, rest))
    (more : List UInt8) : readStringBytes (bs ++ more) = .ok (out, rest ++ more) := by
  induction hn : bs.length using Nat.strongRecOn generalizing bs rest out with
  | ind n ih =>
    rcases bs with _ | ⟨x, bs⟩
    · simp [readStringBytes_nil] at h
    rw [List.cons_append]
    rcases stringByte_cases x with rfl | rfl | hx | hx
    · rw [readStringBytes_quote] at h ⊢
      cases h
      rfl
    · rcases hescape : readEscape bs with f | ⟨bytes, tail⟩
      · rw [readStringBytes_escape_error hescape] at h
        simp at h
      · rw [readStringBytes_escape hescape] at h
        obtain ⟨⟨bytes', tail'⟩, hbytes, h⟩ := bind_eq_ok.1 h
        rw [readStringBytes_escape (readEscape_more hescape more)]
        have hlen := length_of_readEscape hescape
        have hshort : tail.length < n := by
          rw [← hn, List.length_cons]
          omega
        refine bind_eq_ok.2 ⟨_, ih tail.length hshort hbytes rfl, ?_⟩
        cases h
        rfl
    · rw [readStringBytes_control hx] at h
      simp at h
    · rw [readStringBytes_plain hx] at h ⊢
      obtain ⟨⟨bytes, tail⟩, hbytes, h⟩ := bind_eq_ok.1 h
      refine bind_eq_ok.2 ⟨_, ih bs.length (by simp [← hn]) hbytes rfl, ?_⟩
      cases h
      rfl

lemma readString_more {s : String} (h : readString bs = .ok (s, rest)) (more : List UInt8) :
    readString (bs ++ more) = .ok (s, rest ++ more) := by
  obtain ⟨⟨bytes, tail⟩, hbytes, h⟩ := bind_eq_ok.1 h
  refine bind_eq_ok.2 ⟨(bytes, tail ++ more), readStringBytes_more hbytes more, ?_⟩
  dsimp only at h ⊢
  rcases hdecode : Utf8.decode? bytes with _ | cs <;> rw [hdecode] at h <;> cases h
  rfl

/-! ### Numbers and literals -/

/-- The digits at the front stay the same when what follows them does not begin with one. -/
lemma digits_more (bs more : List UInt8) (h : bs.dropWhile isDigit = [] → EndsNumber more) :
    (bs ++ more).takeWhile isDigit = bs.takeWhile isDigit ∧
      (bs ++ more).dropWhile isDigit = bs.dropWhile isDigit ++ more := by
  induction bs with
  | nil =>
    rcases more with _ | ⟨x, more⟩
    · exact ⟨rfl, rfl⟩
    · have hx : isDigit x = false := (h rfl).1
      simp [hx]
  | cons b bs ih =>
    by_cases hb : isDigit b = true
    · simpa [hb] using ih (by simpa [hb] using h)
    · simp [hb]

lemma floatTree_more {negative : Bool} {s : Nat} {e : Int}
    (h : floatTree negative s e bs = .ok (t, rest)) (more : List UInt8) :
    bs = rest ∧ floatTree negative s e (bs ++ more) = .ok (t, rest ++ more) := by
  unfold floatTree at h ⊢
  rcases hscaled : scaled? s e with _ | x <;> rw [hscaled] at h <;> cases h
  exact ⟨rfl, rfl⟩

lemma integerTree_more {negative : Bool} {s dropped : Nat}
    (h : integerTree negative s dropped bs = .ok (t, rest)) (more : List UInt8) :
    bs = rest ∧ integerTree negative s dropped (bs ++ more) = .ok (t, rest ++ more) := by
  have hint : ∀ {i : Tree}, (Except.ok (i, bs) : Except Fault (Tree × List UInt8)) =
      .ok (t, rest) → bs = rest ∧ (Except.ok (i, bs ++ more) : Except Fault _) =
        .ok (t, rest ++ more) := by
    intro i h
    cases h
    exact ⟨rfl, rfl⟩
  unfold integerTree at h ⊢
  split at h
  · next hdropped =>
    rw [if_pos hdropped]
    exact floatTree_more h more
  · next hdropped =>
    rw [if_neg hdropped]
    split at h
    · next hsign =>
      rw [if_pos hsign]
      exact hint h
    · next hsign =>
      rw [if_neg hsign]
      split at h
      · next hfits =>
        rw [if_pos hfits]
        exact hint h
      · next hfits =>
        rw [if_neg hfits]
        exact floatTree_more h more

lemma readExponentDigits_more {negative : Bool} {i : Int} {more : List UInt8}
    (h : readExponentDigits negative bs = .ok (i, rest)) (hmore : EndsNumber (rest ++ more)) :
    readExponentDigits negative (bs ++ more) = .ok (i, rest ++ more) := by
  unfold readExponentDigits at h ⊢
  dsimp only at h ⊢
  split at h
  · simp at h
  · next hdigits =>
    simp only [Except.ok.injEq, Prod.mk.injEq] at h
    obtain ⟨hi, hrest⟩ := h
    obtain ⟨htake, hdrop⟩ := digits_more bs more fun hnil => by
      rw [← hrest, hnil] at hmore
      exact hmore
    rw [htake, hdrop, if_neg hdigits, hi, hrest]

lemma readExponent_more {i : Int} {more : List UInt8} (h : readExponent bs = .ok (i, rest))
    (hmore : EndsNumber (rest ++ more)) : readExponent (bs ++ more) = .ok (i, rest ++ more) := by
  rcases bs with _ | ⟨x, bs⟩
  · simp [readExponent] at h
  by_cases hplus : x = plus
  · subst hplus
    have hdigits : readExponentDigits false bs = .ok (i, rest) := h
    exact readExponentDigits_more hdigits hmore
  · by_cases hminus : x = minus
    · subst hminus
      have hdigits : readExponentDigits true bs = .ok (i, rest) := h
      exact readExponentDigits_more hdigits hmore
    · rw [readExponent_unsigned hplus hminus] at h
      rw [List.cons_append, readExponent_unsigned hplus hminus]
      exact readExponentDigits_more h hmore

lemma finishFloat_nil (negative : Bool) (s : Nat) (e : Int) :
    finishFloat negative s e [] = floatTree negative s e [] := rfl

lemma finishFloat_more {negative : Bool} {s : Nat} {e : Int} {more : List UInt8}
    (h : finishFloat negative s e bs = .ok (t, rest)) (hmore : EndsNumber (rest ++ more)) :
    finishFloat negative s e (bs ++ more) = .ok (t, rest ++ more) := by
  rcases bs with _ | ⟨x, bs⟩
  · rw [finishFloat_nil] at h
    obtain ⟨rfl, hfloat⟩ := floatTree_more h more
    rcases more with _ | ⟨y, more⟩
    · exact h
    · have hy : ¬ (y = letterE ∨ y = capitalE) := not_or.2 ⟨hmore.2.2.1, hmore.2.2.2⟩
      rw [List.nil_append, finishFloat_other hy]
      exact hfloat
  · by_cases hx : x = letterE ∨ x = capitalE
    · rw [finishFloat_exponent hx] at h
      rw [List.cons_append, finishFloat_exponent hx]
      obtain ⟨⟨i, tail⟩, hexponent, h⟩ := bind_eq_ok.1 h
      obtain ⟨rfl, hfloat⟩ := floatTree_more h more
      exact bind_eq_ok.2 ⟨_, readExponent_more hexponent hmore, hfloat⟩
    · rw [finishFloat_other hx] at h
      rw [List.cons_append, finishFloat_other hx]
      exact (floatTree_more h more).2

lemma readFraction_more {negative : Bool} {s dropped : Nat} {more : List UInt8}
    (h : readFraction negative s dropped bs = .ok (t, rest)) (hmore : EndsNumber (rest ++ more)) :
    readFraction negative s dropped (bs ++ more) = .ok (t, rest ++ more) := by
  unfold readFraction at h ⊢
  dsimp only at h ⊢
  split at h
  · simp at h
  · next hdigits =>
    obtain ⟨htake, hdrop⟩ := digits_more bs more fun hnil => by
      rw [hnil, finishFloat_nil] at h
      rw [← (floatTree_more h []).1] at hmore
      exact hmore
    rw [htake, hdrop, if_neg hdigits]
    exact finishFloat_more h hmore

lemma readMagnitudeRest_nil (negative : Bool) (s dropped : Nat) :
    readMagnitudeRest negative s dropped [] = integerTree negative s dropped [] := rfl

lemma readMagnitudeRest_more {negative : Bool} {s dropped : Nat} {more : List UInt8}
    (h : readMagnitudeRest negative s dropped bs = .ok (t, rest))
    (hmore : EndsNumber (rest ++ more)) :
    readMagnitudeRest negative s dropped (bs ++ more) = .ok (t, rest ++ more) := by
  rcases bs with _ | ⟨x, bs⟩
  · rw [readMagnitudeRest_nil] at h
    obtain ⟨rfl, hinteger⟩ := integerTree_more h more
    rcases more with _ | ⟨y, more⟩
    · exact h
    · rw [List.nil_append, readMagnitudeRest_other hmore.2.1 hmore.2.2.1 hmore.2.2.2]
      exact hinteger
  · by_cases hp : x = point
    · subst hp
      have hfraction : readFraction negative s dropped bs = .ok (t, rest) := h
      exact readFraction_more hfraction hmore
    by_cases he : x = letterE
    · subst he
      have hfloat : finishFloat negative s dropped (letterE :: bs) = .ok (t, rest) := h
      exact finishFloat_more hfloat hmore
    by_cases hc : x = capitalE
    · subst hc
      have hfloat : finishFloat negative s dropped (capitalE :: bs) = .ok (t, rest) := h
      exact finishFloat_more hfloat hmore
    rw [readMagnitudeRest_other hp he hc] at h
    rw [List.cons_append, readMagnitudeRest_other hp he hc]
    exact (integerTree_more h more).2

lemma readMagnitude_more {negative : Bool} {more : List UInt8}
    (h : readMagnitude negative bs = .ok (t, rest)) (hmore : EndsNumber (rest ++ more)) :
    readMagnitude negative (bs ++ more) = .ok (t, rest ++ more) := by
  rw [readMagnitude_eq] at h ⊢
  dsimp only at h ⊢
  split at h
  · simp at h
  next hdigits =>
  split at h
  · simp at h
  next hzero =>
  obtain ⟨htake, hdrop⟩ := digits_more bs more fun hnil => by
    rw [hnil, readMagnitudeRest_nil] at h
    rw [← (integerTree_more h []).1] at hmore
    exact hmore
  rw [htake, hdrop, if_neg hdigits, if_neg hzero]
  exact readMagnitudeRest_more h hmore

lemma readNumber_more {x : UInt8} {more : List UInt8} (h : readNumber (x :: bs) = .ok (t, rest))
    (hmore : EndsNumber (rest ++ more)) :
    readNumber (x :: (bs ++ more)) = .ok (t, rest ++ more) := by
  by_cases hminus : x = minus
  · subst hminus
    have hmagnitude : readMagnitude true bs = .ok (t, rest) := h
    exact readMagnitude_more hmagnitude hmore
  · rw [readNumber_unsigned hminus] at h ⊢
    exact readMagnitude_more h hmore

lemma readLiteral_more {t' : Tree} {xs : List UInt8} (h : readLiteral t' xs bs = .ok (t, rest))
    (more : List UInt8) : readLiteral t' xs (bs ++ more) = .ok (t, rest ++ more) := by
  induction xs generalizing bs with
  | nil =>
    simp only [readLiteral, Except.ok.injEq, Prod.mk.injEq] at h ⊢
    exact ⟨h.1, by rw [h.2]⟩
  | cons x xs ih =>
    rcases bs with _ | ⟨b, bs⟩
    · simp [readLiteral] at h
    · simp only [List.cons_append, readLiteral] at h ⊢
      split at h
      · next hb =>
        rw [if_pos hb]
        exact ih h
      · simp at h

lemma readScalar_more {more : List UInt8} (h : readScalar bs = .ok (t, rest))
    (hmore : EndsNumber (rest ++ more)) : readScalar (bs ++ more) = .ok (t, rest ++ more) := by
  rcases bs with _ | ⟨b, bs⟩
  · simp [readScalar] at h
  simp only [List.cons_append, readScalar] at h ⊢
  split at h
  · next hb =>
    rw [if_pos hb]
    obtain ⟨⟨s, tail⟩, hs, h⟩ := bind_eq_ok.1 h
    refine bind_eq_ok.2 ⟨_, readString_more hs more, ?_⟩
    cases h
    rfl
  next hquote =>
  rw [if_neg hquote]
  split at h
  · next hb =>
    rw [if_pos hb]
    exact readLiteral_more h more
  next hn =>
  rw [if_neg hn]
  split at h
  · next hb =>
    rw [if_pos hb]
    exact readLiteral_more h more
  next ht =>
  rw [if_neg ht]
  split at h
  · next hb =>
    rw [if_pos hb]
    exact readLiteral_more h more
  next hf =>
  rw [if_neg hf]
  split at h
  · next hb =>
    rw [if_pos hb]
    exact readNumber_more h hmore
  · simp at h

/-! ### Arrays and objects -/

/-- A reading that succeeds stays the same when bytes follow that do not go on with a number. -/
def Stable (element : List UInt8 → Reading Tree) : Prop :=
  ∀ ⦃bs rest : List UInt8⦄ ⦃t : Tree⦄, element bs = (t, .ok rest) →
    ∀ more, EndsNumber (rest ++ more) → element (bs ++ more) = (t, .ok (rest ++ more))

/-- Where a comma or a bracket comes next, no number goes on. -/
lemma endsNumber_of_skipBlanks {b : UInt8} {tail : List UInt8} (h : skipBlanks bs = b :: tail)
    (hb : b = comma ∨ b = closeBracket ∨ b = closeBrace) (more : List UInt8) :
    EndsNumber (bs ++ more) := by
  rcases bs with _ | ⟨x, bs⟩
  · simp [skipBlanks] at h
  by_cases hx : isBlank x = true
  · exact of_blank (P := fun x => EndsNumber (x :: (bs ++ more))) hx
      (by simp only [EndsNumber]; decide)
  · rw [skipBlanks_of_not_blank (by simpa using hx)] at h
    obtain ⟨rfl, -⟩ := List.cons.inj h
    rcases hb with rfl | rfl | rfl <;> (simp only [List.cons_append, EndsNumber]; decide)

variable {element : List UInt8 → Reading Tree}

/-- What follows an item or a member of a stable reading does not change it. -/
lemma Stable.followed (he : Stable element) {b : UInt8} {tail : List UInt8}
    (h : element bs = (t, .ok rest)) (hnext : skipBlanks rest = b :: tail)
    (hb : b = comma ∨ b = closeBracket ∨ b = closeBrace) (more : List UInt8) :
    element (bs ++ more) = (t, .ok (rest ++ more)) :=
  he h more (endsNumber_of_skipBlanks hnext hb more)

lemma readItems_more (he : Stable element) {ts : List Tree}
    (h : readItems element bs = (ts, .ok rest)) (more : List UInt8) :
    readItems element (bs ++ more) = (ts, .ok (rest ++ more)) := by
  fun_induction readItems element bs generalizing ts with
  | case3 bs t tail ht after hnext =>
    obtain ⟨rfl, hrest⟩ := Prod.mk.inj h
    obtain rfl := Except.ok.inj hrest
    have hitem := he.followed ht hnext (by simp) more
    rw [readItems, hitem]
    dsimp only
    rw [skipBlanks_more hnext]
    rfl
  | case4 bs t tail ht after hlen ts' out hitems hnext _ ih =>
    obtain ⟨rfl, rfl⟩ := Prod.mk.inj h
    have hitem := he.followed ht hnext (by simp) more
    rw [readItems, hitem]
    dsimp only
    rw [skipBlanks_more hnext]
    dsimp only
    rw [if_neg (by decide), if_pos rfl, dif_pos (by simpa using hlen), ih hitems]
  | _ => simp at h

/-- A member that has been read, and what follows it. -/
lemma readMembers_member {k : String} {name tail value after : List UInt8}
    (hname : skipBlanks bs = quote :: name) (hk : readString name = .ok (k, tail))
    (hcolon : skipBlanks tail = colon :: value) (ht : element value = (t, .ok after)) :
    readMembers element bs =
      match skipBlanks after with
      | [] => ([(k, t)], .error .truncated)
      | b :: more =>
        if b = closeBrace then ([(k, t)], .ok more)
        else if b = comma then
          if more.length < bs.length then
            ((k, t) :: (readMembers element more).1, (readMembers element more).2)
          else ([(k, t)], .error .malformed)
        else ([(k, t)], .error .malformed) := by
  rw [readMembers, hname]
  dsimp only
  rw [if_neg (by decide), hk]
  dsimp only
  rw [hcolon]
  dsimp only
  rw [if_neg (by decide), ht]
  rfl

lemma readMembers_more (he : Stable element) {ms : List (String × Tree)}
    (h : readMembers element bs = (ms, .ok rest)) (more : List UInt8) :
    readMembers element (bs ++ more) = (ms, .ok (rest ++ more)) := by
  fun_induction readMembers element bs generalizing ms with
  | case8 bs b name hname hquote k tail hk c value hcolon hc t after ht last hnext =>
    obtain rfl : b = quote := Decidable.not_not.1 hquote
    obtain rfl : c = colon := Decidable.not_not.1 hc
    obtain ⟨rfl, hrest⟩ := Prod.mk.inj h
    obtain rfl := Except.ok.inj hrest
    rw [readMembers_member (skipBlanks_more hname more) (readString_more hk more)
      (skipBlanks_more hcolon more) (he.followed ht hnext (by simp) more), skipBlanks_more hnext]
    rfl
  | case9 bs b name hname hquote k tail hk c value hcolon hc t after ht next hlen ms' out hms hnext
      hclose ih =>
    obtain rfl : b = quote := Decidable.not_not.1 hquote
    obtain rfl : c = colon := Decidable.not_not.1 hc
    obtain ⟨rfl, rfl⟩ := Prod.mk.inj h
    rw [readMembers_member (skipBlanks_more hname more) (readString_more hk more)
      (skipBlanks_more hcolon more) (he.followed ht hnext (by simp) more), skipBlanks_more hnext]
    dsimp only
    rw [if_neg hclose, if_pos rfl, if_pos (by simpa using hlen), ih hms]
  | _ => simp at h

lemma readArray_more (he : Stable element) (h : readArray element bs = (t, .ok rest))
    (more : List UInt8) : readArray element (bs ++ more) = (t, .ok (rest ++ more)) := by
  unfold readArray at h ⊢
  rcases hblank : skipBlanks bs with _ | ⟨b, tail⟩ <;> rw [hblank] at h
  · simp at h
  rw [skipBlanks_more hblank]
  dsimp only at h ⊢
  split at h
  · next hclose =>
    rw [if_pos hclose]
    cases h
    rfl
  · next hclose =>
    rw [if_neg hclose]
    rcases hitems : readItems element (b :: tail) with ⟨ts, f | tail'⟩ <;> rw [hitems] at h
    · cases h
    · cases h
      rw [← List.cons_append, readItems_more he hitems]
      rfl

lemma readObject_more (he : Stable element) (h : readObject element bs = (t, .ok rest))
    (more : List UInt8) : readObject element (bs ++ more) = (t, .ok (rest ++ more)) := by
  unfold readObject at h ⊢
  rcases hblank : skipBlanks bs with _ | ⟨b, tail⟩ <;> rw [hblank] at h
  · simp at h
  rw [skipBlanks_more hblank]
  dsimp only at h ⊢
  split at h
  · next hclose =>
    rw [if_pos hclose]
    cases h
    rfl
  · next hclose =>
    rw [if_neg hclose]
    rcases hmembers : readMembers element (b :: tail) with ⟨ms, f | tail'⟩ <;>
      rw [hmembers] at h
    · cases h
    · cases h
      rw [← List.cons_append, readMembers_more he hmembers]
      rfl

/-! ### Values -/

lemma ofToken_eq_ok {x : Except Fault (Tree × List UInt8)} :
    Reading.ofToken x = (t, .ok rest) ↔ x = .ok (t, rest) := by
  rcases x with f | ⟨t', rest'⟩ <;> simp [Reading.ofToken, Reading.stop]

/-- A bracket that is closed stays closed, whatever follows it. -/
lemma readNested_more {depth : Nat} (he : ∀ n, n < depth → Stable (read n)) {b : UInt8}
    (h : readNested depth b bs = (t, .ok rest)) (more : List UInt8) :
    readNested depth b (bs ++ more) = (t, .ok (rest ++ more)) := by
  rcases depth with _ | depth
  · simp [readNested, Reading.stop] at h
  · have hstable := he depth (Nat.lt_succ_self depth)
    simp only [readNested] at h ⊢
    split at h
    · next hb =>
      rw [if_pos hb]
      exact readArray_more hstable h more
    · next hb =>
      rw [if_neg hb]
      exact readObject_more hstable h more

lemma read_stable (depth : Nat) : Stable (read depth) := by
  induction depth using Nat.strongRecOn with
  | ind depth ih =>
    intro bs rest t h more hmore
    rw [read_eq] at h ⊢
    rcases hblank : skipBlanks bs with _ | ⟨b, tail⟩ <;> rw [hblank] at h
    · simp [Reading.stop] at h
    rw [skipBlanks_more hblank]
    dsimp only at h ⊢
    split at h
    · next hb =>
      rw [if_pos hb]
      exact readNested_more ih h more
    · next hb =>
      rw [if_neg hb, ofToken_eq_ok]
      exact readScalar_more (ofToken_eq_ok.1 h) hmore

/-- An object is read from a bracket. -/
lemma exists_bracket {depth : Nat} {ms : List (String × Tree)} {cut : Option Fault}
    (h : read depth bs = (.obj ms cut, .ok rest)) :
    ∃ b tail, skipBlanks bs = b :: tail ∧ (b = openBracket ∨ b = openBrace) ∧
      readNested depth b tail = (.obj ms cut, .ok rest) := by
  rw [read_eq] at h
  rcases hblank : skipBlanks bs with _ | ⟨b, tail⟩ <;> rw [hblank] at h
  · simp [Reading.stop] at h
  dsimp only at h
  split at h
  · next hb => exact ⟨b, tail, rfl, hb, h⟩
  · -- a scalar is no object
    cases readScalar_fits (ofToken_eq_ok.1 h) 0

/-- **An object that has been read stays as it is**, whatever follows it. -/
theorem read_object_more {depth : Nat} {ms : List (String × Tree)} {cut : Option Fault}
    (h : read depth bs = (.obj ms cut, .ok rest)) (more : List UInt8) :
    read depth (bs ++ more) = (.obj ms cut, .ok (rest ++ more)) := by
  obtain ⟨b, tail, hblank, hb, hnested⟩ := exists_bracket h
  rw [read_eq, skipBlanks_more hblank]
  dsimp only
  rw [if_pos hb]
  exact readNested_more (fun n _ => read_stable n) hnested more

/-! ### Documents -/

variable {α : Type} {decode : Tree → Except Fault α}

/-- Only objects decode. -/
def ObjectsOnly (decode : Tree → Except Fault α) : Prop :=
  ∀ ⦃t : Tree⦄ ⦃x : α⦄, decode t = .ok x → ∃ ms cut, t = .obj ms cut

lemma skipBlanks_eq_nil : skipBlanks bs = [] ↔ ∀ b ∈ bs, isBlank b = true := by
  rw [skipBlanks, List.dropWhile_eq_nil_iff]

lemma decodeDocument_append_blanks {more : List UInt8} (hmore : ∀ b ∈ more, isBlank b = true)
    (decode : Tree → Except Fault α) (bs : List UInt8) (x : α) :
    decodeDocument decode (bs ++ more) = .ok x ↔ decodeDocument decode bs = .ok x := by
  induction more generalizing bs with
  | nil => rw [List.append_nil]
  | cons b more ih =>
    rw [List.append_cons, ih (fun c hc => hmore c (List.mem_cons_of_mem b hc)),
      decodeDocument_append_blank (hmore b List.mem_cons_self)]

/-- **No beginning of an object's document is a document**, unless only blanks are left out. -/
theorem decodeDocument_beginning (hdecode : ObjectsOnly decode) {bs more : List UInt8} {x : α}
    (h : decodeDocument decode (bs ++ more) = .ok x) (y : α) :
    decodeDocument decode bs = .ok y ↔ (∀ b ∈ more, isBlank b = true) ∧ y = x := by
  constructor
  · intro hbs
    obtain ⟨t, rest, hread, hvalue, -⟩ := decodeDocument_eq_ok.1 hbs
    obtain ⟨t', rest', hread', -, hrest'⟩ := decodeDocument_eq_ok.1 h
    obtain ⟨ms, cut, rfl⟩ := hdecode hvalue
    rw [read_object_more hread more] at hread'
    obtain ⟨-, hrest⟩ := Prod.mk.inj hread'
    rw [← Except.ok.inj hrest, skipBlanks_eq_nil] at hrest'
    have hblank : ∀ b ∈ more, isBlank b = true := fun b hb => hrest' b (List.mem_append_right _ hb)
    have hsame := (decodeDocument_append_blanks hblank decode bs y).2 hbs
    exact ⟨hblank, Except.ok.inj (hsame.symm.trans h)⟩
  · rintro ⟨hblank, rfl⟩
    exact (decodeDocument_append_blanks hblank decode bs y).1 h

/-- The document of an object holds a bracket, so it is not blank. -/
lemma bracket_mem_document (hdecode : ObjectsOnly decode) {bs : List UInt8} {x : α}
    (h : decodeDocument decode bs = .ok x) : openBracket ∈ bs ∨ openBrace ∈ bs := by
  obtain ⟨t, rest, hread, hvalue, -⟩ := decodeDocument_eq_ok.1 h
  obtain ⟨ms, cut, rfl⟩ := hdecode hvalue
  obtain ⟨b, tail, hblank, hb, -⟩ := exists_bracket hread
  have hmem : b ∈ bs := by
    have hfirst : b ∈ skipBlanks bs := by simp [hblank]
    exact (List.dropWhile_suffix isBlank).subset hfirst
  rcases hb with rfl | rfl
  · exact .inl hmem
  · exact .inr hmem

/-- A document without the blanks at its end. -/
def trimmed (bs : List UInt8) : List UInt8 := bs.rdropWhile isBlank

lemma length_trimmed_le {bs : List UInt8} {n : Nat} :
    (trimmed bs).length ≤ n ↔ ∀ b ∈ bs.drop n, isBlank b = true := by
  rw [trimmed]
  constructor
  · intro h b hb
    rw [← List.rdropWhile_append_rtakeWhile (p := isBlank) (l := bs), List.drop_append,
      List.drop_eq_nil_of_le h, List.nil_append] at hb
    exact List.mem_rtakeWhile_imp (List.mem_of_mem_drop hb)
  · intro h
    have hblank : ∀ b ∈ (bs.drop n).reverse, isBlank b = true := fun b hb =>
      h b (List.mem_reverse.1 hb)
    have hdrop : bs.rdropWhile isBlank = (bs.take n).rdropWhile isBlank := by
      conv_lhs => rw [← List.take_append_drop n bs]
      rw [List.rdropWhile, List.reverse_append, List.dropWhile_append_of_pos hblank]
      rfl
    rw [hdrop]
    exact ((List.rdropWhile_prefix isBlank _).length_le).trans (List.length_take_le n bs)

/-- The first bytes of an object's document are a document exactly when they reach to its end. -/
lemma decodeDocument_take (hdecode : ObjectsOnly decode) {bs : List UInt8} {x : α}
    (h : decodeDocument decode bs = .ok x) (n : Nat) (y : α) :
    decodeDocument decode (bs.take n) = .ok y ↔ (trimmed bs).length ≤ n ∧ y = x := by
  rw [length_trimmed_le]
  exact decodeDocument_beginning hdecode (by rwa [List.take_append_drop]) y

end JobWatch.Json
