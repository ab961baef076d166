import JobWatch.Proofs.Json.Reader

/-!
A blank behind a document.

Every reader is compared with itself on one more byte, a blank: where it succeeds it leaves that
byte over, and where it fails it fails again, since no blank closes anything that is open. So a
document decodes with the blank exactly when it decodes without.
-/

namespace JobWatch.Json

variable {α β : Type} {b : UInt8}

/-- The second result is the first one with a byte more to read. -/
def Extends (b : UInt8) : Except Fault (α × List UInt8) → Except Fault (α × List UInt8) → Prop
  | .ok (x, rest), y => y = .ok (x, rest ++ [b])
  | .error _, y => ∃ f, y = .error f

/-- The second reading is the first one with a byte more to read. -/
def ReadingExtends (b : UInt8) : Reading α → Reading α → Prop
  | (t, .ok rest), y => y = (t, .ok (rest ++ [b]))
  | (_, .error _), y => ∃ t f, y = (t, .error f)

lemma Extends.bind {x y : Except Fault (α × List UInt8)} (h : Extends b x y)
    {f : α × List UInt8 → Except Fault (β × List UInt8)}
    (hf : ∀ a rest, Extends b (f (a, rest)) (f (a, rest ++ [b]))) :
    Extends b (x >>= f) (y >>= f) := by
  rcases x with e | ⟨a, rest⟩
  · obtain ⟨e', rfl⟩ := h
    exact ⟨e', rfl⟩
  · rw [show y = .ok (a, rest ++ [b]) from h]
    exact hf a rest

/-- A reading that is put into a larger one, which knows whether it was cut. -/
lemma ReadingExtends.map {x y : Reading α} (h : ReadingExtends b x y) (g : α → Option Fault → β) :
    ReadingExtends b (g x.1 (faultOf x.2), x.2) (g y.1 (faultOf y.2), y.2) := by
  rcases x with ⟨t, f | rest⟩
  · obtain ⟨t', f', rfl⟩ := h
    exact ⟨_, _, rfl⟩
  · rw [show y = (t, .ok (rest ++ [b])) from h]
    rfl

lemma Extends.reading {x y : Except Fault (Tree × List UInt8)} (h : Extends b x y) :
    ReadingExtends b (.ofToken x) (.ofToken y) := by
  rcases x with f | ⟨t, rest⟩
  · obtain ⟨f', rfl⟩ := h
    exact ⟨_, _, rfl⟩
  · rw [show y = .ok (t, rest ++ [b]) from h]
    rfl

lemma blank_cases (hb : isBlank b = true) : b = 0x20 ∨ b = 0x09 ∨ b = 0x0A ∨ b = 0x0D := by
  simpa [isBlank, or_assoc] using hb

/-- What is true of the four blanks is true of any. -/
lemma of_blank {P : UInt8 → Prop} (hb : isBlank b = true)
    (h : P 0x20 ∧ P 0x09 ∧ P 0x0A ∧ P 0x0D) : P b := by
  obtain ⟨h1, h2, h3, h4⟩ := h
  rcases blank_cases hb with rfl | rfl | rfl | rfl <;> assumption

lemma skipBlanks_append (hb : isBlank b = true) (bs : List UInt8) :
    skipBlanks (bs ++ [b]) =
      match skipBlanks bs with
      | [] => []
      | c :: rest => c :: (rest ++ [b]) := by
  induction bs with
  | nil => simp [skipBlanks, hb]
  | cons c cs ih =>
    by_cases hc : isBlank c = true
    · simpa [skipBlanks, hc] using ih
    · simp [skipBlanks, hc]

/-! ### Strings -/

lemma readHex_append (hb : isBlank b = true) (bs : List UInt8) :
    Extends b (readHex bs) (readHex (bs ++ [b])) := by
  have hnone : hexValue? b = none :=
    of_blank (P := fun b => hexValue? b = none) hb (by decide)
  rcases bs with _ | ⟨w, _ | ⟨x, _ | ⟨y, _ | ⟨z, bs⟩⟩⟩⟩
  · exact ⟨_, rfl⟩
  · exact ⟨_, rfl⟩
  · exact ⟨_, rfl⟩
  · refine ⟨.malformed, ?_⟩
    simp only [List.cons_append, List.nil_append, readHex, hnone]
    split <;> simp_all
  · simp only [List.cons_append, readHex]
    split
    · rfl
    · exact ⟨_, rfl⟩

lemma readLowSurrogate_append (hb : isBlank b = true) (bs : List UInt8) :
    Extends b (readLowSurrogate bs) (readLowSurrogate (bs ++ [b])) := by
  obtain ⟨hslash, hu⟩ : b ≠ backslash ∧ b ≠ letterU :=
    of_blank (P := fun b => b ≠ backslash ∧ b ≠ letterU) hb (by decide)
  -- anything but a backslash and a `u` is refused, whatever follows
  have hrefuse : ∀ x y tail, ¬ (x = backslash ∧ y = letterU) →
      readLowSurrogate (x :: y :: tail) = .error .malformed := by
    intro x y tail h
    unfold readLowSurrogate
    split <;> simp_all
  rcases bs with _ | ⟨x, _ | ⟨y, bs⟩⟩
  · exact ⟨.malformed, by simp [readLowSurrogate, hslash]⟩
  · rw [List.cons_append, List.nil_append, hrefuse x b [] (fun h => hu h.2)]
    rcases h : readLowSurrogate [x] with e | p
    · exact ⟨_, rfl⟩
    · have := length_of_readLowSurrogate h
      unfold readLowSurrogate at h
      split at h <;> simp_all
  · by_cases hxy : x = backslash ∧ y = letterU
    · obtain ⟨rfl, rfl⟩ := hxy
      refine (readHex_append hb bs).bind fun n rest => ?_
      dsimp only
      split
      · rfl
      · exact ⟨_, rfl⟩
    · rw [List.cons_append, List.cons_append, hrefuse x y _ hxy, hrefuse x y _ hxy]
      exact ⟨_, rfl⟩

lemma readEscape_append (hb : isBlank b = true) (bs : List UInt8) :
    Extends b (readEscape bs) (readEscape (bs ++ [b])) := by
  rcases bs with _ | ⟨x, bs⟩
  · obtain ⟨hu, hnone⟩ : b ≠ letterU ∧ shortEscape? b = none :=
      of_blank (P := fun b => b ≠ letterU ∧ shortEscape? b = none) hb (by decide)
    refine ⟨.malformed, ?_⟩
    rw [List.nil_append, readEscape_short hu, hnone]
  · by_cases hx : x = letterU
    · subst hx
      refine (readHex_append hb bs).bind fun n rest => ?_
      dsimp only
      split
      · exact ⟨_, rfl⟩
      · split
        · exact (readLowSurrogate_append hb rest).bind fun m rest => rfl
        · rfl
    · rw [List.cons_append, readEscape_short hx, readEscape_short hx]
      rcases shortEscape? x with _ | c
      · exact ⟨_, rfl⟩
      · rfl

lemma readStringBytes_append (hb : isBlank b = true) (bs : List UInt8) :
    Extends b (readStringBytes bs) (readStringBytes (bs ++ [b])) := by
  induction hn : bs.length using Nat.strongRecOn generalizing bs with
  | ind n ih =>
    rcases bs with _ | ⟨x, bs⟩
    · -- a blank alone closes nothing
      obtain ⟨hq, hs⟩ : b ≠ quote ∧ b ≠ backslash :=
        of_blank (P := fun b => b ≠ quote ∧ b ≠ backslash) hb (by decide)
      by_cases hc : b < 0x20
      · rw [List.nil_append, readStringBytes_nil, readStringBytes_control hc]
        exact ⟨_, rfl⟩
      · rw [List.nil_append, readStringBytes_plain ⟨hq, hs, hc⟩, readStringBytes_nil]
        exact ⟨_, rfl⟩
    · have hlen : bs.length < n := by rw [← hn]; simp
      rw [List.cons_append]
      rcases stringByte_cases x with rfl | rfl | hx | hx
      · rw [readStringBytes_quote, readStringBytes_quote]
        rfl
      · have he := readEscape_append hb bs
        rcases h : readEscape bs with f | ⟨out, rest⟩
        · rw [h] at he
          obtain ⟨g, hg⟩ := he
          rw [readStringBytes_escape_error h, readStringBytes_escape_error hg]
          exact ⟨g, rfl⟩
        · rw [h] at he
          rw [readStringBytes_escape h, readStringBytes_escape he]
          have := length_of_readEscape h
          exact (ih rest.length (by omega) rest rfl).bind fun _ _ => rfl
      · rw [readStringBytes_control hx, readStringBytes_control hx]
        exact ⟨_, rfl⟩
      · rw [readStringBytes_plain hx, readStringBytes_plain hx]
        exact (ih bs.length hlen bs rfl).bind fun _ _ => rfl

lemma readString_append (hb : isBlank b = true) (bs : List UInt8) :
    Extends b (readString bs) (readString (bs ++ [b])) := by
  refine (readStringBytes_append hb bs).bind fun bytes rest => ?_
  dsimp only
  rcases Utf8.decode? bytes with _ | cs
  · exact ⟨_, rfl⟩
  · rfl

/-! ### Numbers and literals -/

lemma isDigit_blank (hb : isBlank b = true) : isDigit b = false :=
  of_blank (P := fun b => isDigit b = false) hb (by decide)

lemma takeWhile_isDigit_append (hb : isBlank b = true) (bs : List UInt8) :
    (bs ++ [b]).takeWhile isDigit = bs.takeWhile isDigit := by
  induction bs with
  | nil => simp [isDigit_blank hb]
  | cons c cs ih => by_cases hc : isDigit c = true <;> simp [hc, ih]

lemma dropWhile_isDigit_append (hb : isBlank b = true) (bs : List UInt8) :
    (bs ++ [b]).dropWhile isDigit = bs.dropWhile isDigit ++ [b] := by
  induction bs with
  | nil => simp [isDigit_blank hb]
  | cons c cs ih => by_cases hc : isDigit c = true <;> simp [hc, ih]

lemma floatTree_append (negative : Bool) (s : Nat) (e : Int) (rest : List UInt8) :
    Extends b (floatTree negative s e rest) (floatTree negative s e (rest ++ [b])) := by
  unfold floatTree
  rcases scaled? s e with _ | x
  · exact ⟨_, rfl⟩
  · rfl

/-- The digits of an exponent, and the bytes behind them. -/
def readExponentDigits (negative : Bool) (bs : List UInt8) : Except Fault (Int × List UInt8) :=
  let ds := bs.takeWhile isDigit
  let rest := bs.dropWhile isDigit
  if ds.isEmpty then .error (faultAt rest)
  else
    let n : Int := ds.foldl (fun n d => n * 10 + digit d) 0
    .ok (if negative then -n else n, rest)

lemma readExponent_unsigned {x : UInt8} (hp : x ≠ plus) (hm : x ≠ minus) (bs : List UInt8) :
    readExponent (x :: bs) = readExponentDigits false (x :: bs) := by
  rw [readExponent]
  · rfl
  · simpa using hp
  · simpa using hm

lemma readExponent_append (hb : isBlank b = true) (bs : List UInt8) :
    Extends b (readExponent bs) (readExponent (bs ++ [b])) := by
  have hdigits : ∀ negative tail, Extends b (readExponentDigits negative tail)
      (readExponentDigits negative (tail ++ [b])) := by
    intro negative tail
    simp only [readExponentDigits, takeWhile_isDigit_append hb, dropWhile_isDigit_append hb]
    split
    · exact ⟨_, rfl⟩
    · rfl
  rcases bs with _ | ⟨x, bs⟩
  · obtain ⟨hp, hm⟩ : b ≠ plus ∧ b ≠ minus :=
      of_blank (P := fun b => b ≠ plus ∧ b ≠ minus) hb (by decide)
    rw [List.nil_append, readExponent_unsigned hp hm]
    exact hdigits false []
  · by_cases hp : x = plus
    · subst hp
      exact hdigits false bs
    · by_cases hm : x = minus
      · subst hm
        exact hdigits true bs
      · rw [List.cons_append, readExponent_unsigned hp hm, readExponent_unsigned hp hm]
        exact hdigits false (x :: bs)

lemma finishFloat_exponent {x : UInt8} (hx : x = letterE ∨ x = capitalE) (negative : Bool) (s : Nat)
    (e : Int) (bs : List UInt8) :
    finishFloat negative s e (x :: bs) =
      readExponent bs >>= fun p => floatTree negative s (e + p.1) p.2 := by
  rcases hx with rfl | rfl <;> rfl

lemma finishFloat_other {x : UInt8} (hx : ¬ (x = letterE ∨ x = capitalE)) (negative : Bool)
    (s : Nat) (e : Int) (bs : List UInt8) :
    finishFloat negative s e (x :: bs) = floatTree negative s e (x :: bs) := by
  unfold finishFloat
  split <;> simp_all

lemma finishFloat_append (hb : isBlank b = true) (negative : Bool) (s : Nat) (e : Int)
    (bs : List UInt8) :
    Extends b (finishFloat negative s e bs) (finishFloat negative s e (bs ++ [b])) := by
  rcases bs with _ | ⟨x, bs⟩
  · have he : ¬ (b = letterE ∨ b = capitalE) :=
      of_blank (P := fun b => ¬ (b = letterE ∨ b = capitalE)) hb (by decide)
    rw [List.nil_append, finishFloat_other he]
    exact floatTree_append negative s e []
  · by_cases hx : x = letterE ∨ x = capitalE
    · rw [List.cons_append, finishFloat_exponent hx, finishFloat_exponent hx]
      exact (readExponent_append hb bs).bind fun n rest => floatTree_append negative s (e + n) rest
    · rw [List.cons_append, finishFloat_other hx, finishFloat_other hx]
      exact floatTree_append negative s e (x :: bs)

lemma integerTree_append (negative : Bool) (s dropped : Nat) (bs : List UInt8) :
    Extends b (integerTree negative s dropped bs) (integerTree negative s dropped (bs ++ [b])) := by
  unfold integerTree
  repeat' split
  all_goals first
    | exact floatTree_append _ _ _ _
    | rfl

lemma readFraction_append (hb : isBlank b = true) (negative : Bool) (s dropped : Nat)
    (bs : List UInt8) :
    Extends b (readFraction negative s dropped bs)
      (readFraction negative s dropped (bs ++ [b])) := by
  simp only [readFraction, takeWhile_isDigit_append hb, dropWhile_isDigit_append hb]
  split
  · exact ⟨_, rfl⟩
  · exact finishFloat_append hb _ _ _ _

lemma readMagnitudeRest_append (hb : isBlank b = true) (negative : Bool) (s dropped : Nat)
    (bs : List UInt8) :
    Extends b (readMagnitudeRest negative s dropped bs)
      (readMagnitudeRest negative s dropped (bs ++ [b])) := by
  rcases bs with _ | ⟨x, bs⟩
  · obtain ⟨hp, he, hc⟩ : b ≠ point ∧ b ≠ letterE ∧ b ≠ capitalE :=
      of_blank (P := fun b => b ≠ point ∧ b ≠ letterE ∧ b ≠ capitalE) hb (by decide)
    rw [List.nil_append, readMagnitudeRest_other hp he hc]
    exact integerTree_append negative s dropped []
  · by_cases hp : x = point
    · subst hp
      exact readFraction_append hb negative s dropped bs
    · by_cases he : x = letterE
      · subst he
        exact finishFloat_append hb negative s dropped (letterE :: bs)
      · by_cases hc : x = capitalE
        · subst hc
          exact finishFloat_append hb negative s dropped (capitalE :: bs)
        · rw [List.cons_append, readMagnitudeRest_other hp he hc, readMagnitudeRest_other hp he hc]
          exact integerTree_append negative s dropped (x :: bs)

lemma readMagnitude_append (hb : isBlank b = true) (negative : Bool) (bs : List UInt8) :
    Extends b (readMagnitude negative bs) (readMagnitude negative (bs ++ [b])) := by
  rw [readMagnitude_eq, readMagnitude_eq, takeWhile_isDigit_append hb, dropWhile_isDigit_append hb]
  dsimp only
  split
  · exact ⟨_, rfl⟩
  · split
    · exact ⟨_, rfl⟩
    · exact readMagnitudeRest_append hb _ _ _ _

lemma readNumber_append (hb : isBlank b = true) (x : UInt8) (bs : List UInt8) :
    Extends b (readNumber (x :: bs)) (readNumber (x :: bs ++ [b])) := by
  by_cases hm : x = minus
  · subst hm
    exact readMagnitude_append hb true bs
  · rw [List.cons_append, readNumber_unsigned hm, readNumber_unsigned hm]
    exact readMagnitude_append hb false (x :: bs)

lemma readLiteral_append (t : Tree) (expected bs : List UInt8) (hb : b ∉ expected) :
    Extends b (readLiteral t expected bs) (readLiteral t expected (bs ++ [b])) := by
  induction expected generalizing bs with
  | nil => rfl
  | cons x xs ih =>
    simp only [List.mem_cons, not_or] at hb
    rcases bs with _ | ⟨y, bs⟩
    · exact ⟨.malformed, by simp [readLiteral, hb.1]⟩
    · simp only [List.cons_append, readLiteral]
      split
      · exact ih bs hb.2
      · exact ⟨_, rfl⟩

lemma readScalar_append (hb : isBlank b = true) (x : UInt8) (bs : List UInt8) :
    Extends b (readScalar (x :: bs)) (readScalar (x :: bs ++ [b])) := by
  have hfree : b ∉ [0x75, 0x6C, 0x6C] ∧ b ∉ [0x72, 0x75, 0x65] ∧ b ∉ [0x61, 0x6C, 0x73, 0x65] :=
    of_blank (P := fun b => b ∉ [0x75, 0x6C, 0x6C] ∧ b ∉ [0x72, 0x75, 0x65] ∧
      b ∉ [0x61, 0x6C, 0x73, 0x65]) hb (by decide)
  simp only [List.cons_append, readScalar]
  split
  · exact (readString_append hb bs).bind fun s rest => rfl
  · split
    · exact readLiteral_append _ _ _ hfree.1
    · split
      · exact readLiteral_append _ _ _ hfree.2.1
      · split
        · exact readLiteral_append _ _ _ hfree.2.2
        · split
          · exact readNumber_append hb x bs
          · exact ⟨_, rfl⟩

/-! ### Arrays and objects -/

variable {element : List UInt8 → Reading Tree}

lemma readItems_append (hb : isBlank b = true)
    (he : ∀ bs, ReadingExtends b (element bs) (element (bs ++ [b]))) (bs : List UInt8) :
    ReadingExtends b (readItems element bs) (readItems element (bs ++ [b])) := by
  induction hn : bs.length using Nat.strongRecOn generalizing bs with
  | ind n ih =>
    have hbs := he bs
    unfold readItems
    rcases h : element bs with ⟨t, f | rest⟩
    · rw [h] at hbs
      obtain ⟨t', f', h'⟩ := hbs
      rw [h']
      exact ⟨_, _, rfl⟩
    · rw [h] at hbs
      rw [show element (bs ++ [b]) = (t, .ok (rest ++ [b])) from hbs]
      dsimp only
      rw [skipBlanks_append hb]
      rcases skipBlanks rest with _ | ⟨x, more⟩
      · exact ⟨_, _, rfl⟩
      · dsimp only
        split
        · rfl
        · split
          · simp only [List.length_append, List.length_singleton, Nat.add_lt_add_iff_right]
            split
            · exact (ih more.length (by omega) more rfl).map fun ts _ => t :: ts
            · exact ⟨_, _, rfl⟩
          · exact ⟨_, _, rfl⟩

lemma readMembers_append (hb : isBlank b = true)
    (he : ∀ bs, ReadingExtends b (element bs) (element (bs ++ [b]))) (bs : List UInt8) :
    ReadingExtends b (readMembers element bs) (readMembers element (bs ++ [b])) := by
  induction hn : bs.length using Nat.strongRecOn generalizing bs with
  | ind n ih =>
    unfold readMembers
    rw [skipBlanks_append hb]
    rcases skipBlanks bs with _ | ⟨x, bs'⟩
    · exact ⟨_, _, rfl⟩
    dsimp only
    split
    · exact ⟨_, _, rfl⟩
    have hk := readString_append hb bs'
    rcases h : readString bs' with f | ⟨k, rest⟩
    · rw [h] at hk
      obtain ⟨f', h'⟩ := hk
      rw [h']
      exact ⟨_, _, rfl⟩
    rw [h] at hk
    rw [show readString (bs' ++ [b]) = .ok (k, rest ++ [b]) from hk]
    dsimp only
    rw [skipBlanks_append hb]
    rcases skipBlanks rest with _ | ⟨x, rest'⟩
    · exact ⟨_, _, rfl⟩
    dsimp only
    split
    · exact ⟨_, _, rfl⟩
    have hv := he rest'
    rcases h : element rest' with ⟨t, f | after⟩
    · rw [h] at hv
      obtain ⟨t', f', h'⟩ := hv
      rw [h']
      exact ⟨_, _, rfl⟩
    rw [h] at hv
    rw [show element (rest' ++ [b]) = (t, .ok (after ++ [b])) from hv]
    dsimp only
    rw [skipBlanks_append hb]
    rcases skipBlanks after with _ | ⟨x, more⟩
    · exact ⟨_, _, rfl⟩
    dsimp only
    split
    · rfl
    split
    · simp only [List.length_append, List.length_singleton, Nat.add_lt_add_iff_right]
      split
      · exact (ih more.length (by omega) more rfl).map fun ms _ => (k, t) :: ms
      · exact ⟨_, _, rfl⟩
    · exact ⟨_, _, rfl⟩

lemma readArray_append (hb : isBlank b = true)
    (he : ∀ bs, ReadingExtends b (element bs) (element (bs ++ [b]))) (bs : List UInt8) :
    ReadingExtends b (readArray element bs) (readArray element (bs ++ [b])) := by
  unfold readArray
  rw [skipBlanks_append hb]
  rcases skipBlanks bs with _ | ⟨x, rest⟩
  · exact ⟨_, _, rfl⟩
  · dsimp only
    split
    · rfl
    · exact (readItems_append hb he (x :: rest)).map Tree.arr

lemma readObject_append (hb : isBlank b = true)
    (he : ∀ bs, ReadingExtends b (element bs) (element (bs ++ [b]))) (bs : List UInt8) :
    ReadingExtends b (readObject element bs) (readObject element (bs ++ [b])) := by
  unfold readObject
  rw [skipBlanks_append hb]
  rcases skipBlanks bs with _ | ⟨x, rest⟩
  · exact ⟨_, _, rfl⟩
  · dsimp only
    split
    · rfl
    · exact (readMembers_append hb he (x :: rest)).map Tree.obj

lemma read_append (hb : isBlank b = true) (depth : Nat) (bs : List UInt8) :
    ReadingExtends b (read depth bs) (read depth (bs ++ [b])) := by
  induction depth generalizing bs with
  | zero =>
    rw [read_eq, read_eq, skipBlanks_append hb]
    rcases skipBlanks bs with _ | ⟨x, rest⟩
    · exact ⟨_, _, rfl⟩
    dsimp only
    split
    · exact ⟨_, _, rfl⟩
    · exact (readScalar_append hb x rest).reading
  | succ depth ih =>
    rw [read_eq, read_eq, skipBlanks_append hb]
    rcases skipBlanks bs with _ | ⟨x, rest⟩
    · exact ⟨_, _, rfl⟩
    dsimp only [readNested]
    split
    · split
      · exact readArray_append hb ih rest
      · exact readObject_append hb ih rest
    · exact (readScalar_append hb x rest).reading

/-! ### Documents -/

/-- **A blank behind a document does not matter**: what decodes with it decodes without it, to the
same. -/
theorem decodeDocument_append_blank (hb : isBlank b = true) (decode : Tree → Except Fault α)
    (bs : List UInt8) (x : α) :
    decodeDocument decode (bs ++ [b]) = .ok x ↔ decodeDocument decode bs = .ok x := by
  have hr := read_append hb maxDepth bs
  rw [decodeDocument_eq_ok, decodeDocument_eq_ok]
  rcases h : read maxDepth bs with ⟨t, f | rest⟩
  · rw [h] at hr
    obtain ⟨t', f', h'⟩ := hr
    simp [h']
  · rw [h] at hr
    rw [show read maxDepth (bs ++ [b]) = (t, .ok (rest ++ [b])) from hr]
    have hnil : skipBlanks (rest ++ [b]) = [] ↔ skipBlanks rest = [] := by
      rw [skipBlanks_append hb]
      rcases skipBlanks rest with _ | ⟨c, cs⟩ <;> simp
    constructor
    · rintro ⟨t', rest', he, hx, hs⟩
      simp only [Prod.mk.injEq, Except.ok.injEq] at he
      obtain ⟨rfl, rfl⟩ := he
      exact ⟨t, rest, rfl, hx, hnil.1 hs⟩
    · rintro ⟨t', rest', he, hx, hs⟩
      simp only [Prod.mk.injEq, Except.ok.injEq] at he
      obtain ⟨rfl, rfl⟩ := he
      exact ⟨t, rest ++ [b], rfl, hx, hnil.2 hs⟩

end JobWatch.Json
