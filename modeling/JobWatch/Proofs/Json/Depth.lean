import JobWatch.Proofs.Json.RoundTrip

/-!
What is read fits: no tree is nested deeper than the reader goes, and every integer in it is one
that 64 bits hold.
-/

namespace JobWatch.Json

/-- A tree that is nested at most so deep, with integers that are read as such. -/
inductive Tree.Fits : Nat → Tree → Prop
  | null {n : Nat} : Fits n .null
  | bool {n : Nat} {b : Bool} : Fits n (.bool b)
  | int {n : Nat} {i : Int} : InRange i → Fits n (.int i)
  | float {n : Nat} {negative : Bool} {x : Binary64} : Fits n (.float negative x)
  | str {n : Nat} {s : String} : Fits n (.str s)
  | arr {n : Nat} {items : List Tree} {cut : Option Fault} :
    (∀ t ∈ items, Fits n t) → Fits (n + 1) (.arr items cut)
  | obj {n : Nat} {members : List (String × Tree)} {cut : Option Fault} :
    (∀ e ∈ members, Fits n e.2) → Fits (n + 1) (.obj members cut)
  | cut {n : Nat} {f : Fault} : Fits n (.cut f)

/-! ### Numbers -/

lemma takeDigits_le {s : Nat} (hs : s ≤ significandLimit) (ds : List UInt8) :
    (takeDigits s ds).1 ≤ significandLimit := by
  induction ds generalizing s with
  | nil => exact hs
  | cons d ds ih =>
    rw [takeDigits]
    split
    · next h => exact ih h
    · exact hs

lemma floatTree_fits {negative : Bool} {s : Nat} {e : Int} {bs rest : List UInt8} {t : Tree}
    (h : floatTree negative s e bs = .ok (t, rest)) (n : Nat) : t.Fits n := by
  unfold floatTree at h
  split at h
  · simp only [Except.ok.injEq, Prod.mk.injEq] at h
    obtain ⟨rfl, -⟩ := h
    exact .float
  · simp at h

lemma finishFloat_fits {negative : Bool} {s : Nat} {e : Int} {bs rest : List UInt8} {t : Tree}
    (h : finishFloat negative s e bs = .ok (t, rest)) (n : Nat) : t.Fits n := by
  have hexponent : ∀ more : List UInt8,
      (readExponent more >>= fun p => floatTree negative s (e + p.1) p.2) = .ok (t, rest) →
        t.Fits n := by
    intro more hmore
    rcases hx : readExponent more with f | ⟨i, more'⟩
    · simp [hx, bind, Except.bind] at hmore
    · simp only [hx, bind, Except.bind] at hmore
      exact floatTree_fits hmore n
  unfold finishFloat at h
  split at h
  · exact hexponent _ h
  · exact hexponent _ h
  · exact floatTree_fits h n

lemma integerTree_fits {negative : Bool} {s dropped : Nat} {bs rest : List UInt8} {t : Tree}
    (hs : s ≤ significandLimit) (h : integerTree negative s dropped bs = .ok (t, rest)) (n : Nat) :
    t.Fits n := by
  unfold integerTree at h
  split at h
  · exact floatTree_fits h n
  split at h
  · simp only [Except.ok.injEq, Prod.mk.injEq] at h
    obtain ⟨rfl, -⟩ := h
    exact .int ⟨by omega, by omega⟩
  split at h
  · simp only [Except.ok.injEq, Prod.mk.injEq] at h
    obtain ⟨rfl, -⟩ := h
    exact .int ⟨by omega, by simp only [significandLimit]; omega⟩
  · exact floatTree_fits h n

lemma readMagnitude_fits {negative : Bool} {bs rest : List UInt8} {t : Tree}
    (h : readMagnitude negative bs = .ok (t, rest)) (n : Nat) : t.Fits n := by
  rw [readMagnitude_eq] at h
  dsimp only at h
  split at h
  · simp at h
  split at h
  · simp at h
  have hs : (takeDigits 0 (bs.takeWhile isDigit)).1 ≤ significandLimit :=
    takeDigits_le (Nat.zero_le _) _
  unfold readMagnitudeRest at h
  split at h
  · unfold readFraction at h
    dsimp only at h
    split at h
    · simp at h
    · exact finishFloat_fits h n
  · exact finishFloat_fits h n
  · exact finishFloat_fits h n
  · exact integerTree_fits hs h n

lemma readNumber_fits {bs rest : List UInt8} {t : Tree} (h : readNumber bs = .ok (t, rest))
    (n : Nat) : t.Fits n := by
  unfold readNumber at h
  split at h <;> exact readMagnitude_fits h n

/-! ### Values -/

lemma eq_of_readLiteral {t t' : Tree} {xs bs rest : List UInt8}
    (h : readLiteral t xs bs = .ok (t', rest)) : t' = t := by
  induction xs generalizing bs with
  | nil =>
    simp only [readLiteral, Except.ok.injEq, Prod.mk.injEq] at h
    exact h.1.symm
  | cons x xs ih =>
    rcases bs with _ | ⟨b, bs⟩
    · simp [readLiteral] at h
    · rw [readLiteral] at h
      split at h
      · exact ih h
      · simp at h

lemma readScalar_fits {bs rest : List UInt8} {t : Tree} (h : readScalar bs = .ok (t, rest))
    (n : Nat) : t.Fits n := by
  unfold readScalar at h
  split at h
  · simp at h
  split at h
  · next bs _ =>
    rcases hs : readString bs with f | ⟨s, more⟩
    · simp [hs, bind, Except.bind] at h
    · simp only [hs, bind, Except.bind, Except.ok.injEq, Prod.mk.injEq] at h
      rw [← h.1]
      exact .str
  split at h
  · rw [eq_of_readLiteral h]
    exact .null
  split at h
  · rw [eq_of_readLiteral h]
    exact .bool
  split at h
  · rw [eq_of_readLiteral h]
    exact .bool
  split at h
  · exact readNumber_fits h n
  · simp at h

variable {element : List UInt8 → Reading Tree} {n : Nat}

lemma readItems_fits (h : ∀ bs t out, element bs = (t, out) → t.Fits n) (bs : List UInt8) :
    ∀ t ∈ (readItems element bs).1, t.Fits n := by
  fun_induction readItems element bs with
  | case4 bs t rest ht more _ ts out hts _ _ ih =>
    rw [hts] at ih
    exact List.forall_mem_cons.2 ⟨h _ _ _ ht, ih⟩
  | _ => exact List.forall_mem_singleton.2 (h _ _ _ ‹element _ = _›)

lemma readMembers_fits (h : ∀ bs t out, element bs = (t, out) → t.Fits n) (bs : List UInt8) :
    ∀ e ∈ (readMembers element bs).1, e.2.Fits n := by
  fun_induction readMembers element bs with
  | case1 | case2 | case3 => simp
  | case4 | case5 => exact List.forall_mem_singleton.2 .cut
  | case9 bs _ _ _ _ k _ _ _ _ _ _ t _ ht more _ ms out hms _ _ ih =>
    rw [hms] at ih
    exact List.forall_mem_cons.2 ⟨h _ _ _ ht, ih⟩
  | _ => exact List.forall_mem_singleton.2 (h _ _ _ ‹element _ = _›)

lemma readArray_fits (h : ∀ bs t out, element bs = (t, out) → t.Fits n) {bs : List UInt8} {t : Tree}
    {out : Except Fault (List UInt8)} (hread : readArray element bs = (t, out)) :
    t.Fits (n + 1) := by
  unfold readArray at hread
  split at hread
  · rw [← (Prod.mk.inj hread).1]
    exact .arr (by simp)
  split at hread
  · rw [← (Prod.mk.inj hread).1]
    exact .arr (by simp)
  · rw [← (Prod.mk.inj hread).1]
    exact .arr (readItems_fits h _)

lemma readObject_fits (h : ∀ bs t out, element bs = (t, out) → t.Fits n) {bs : List UInt8}
    {t : Tree} {out : Except Fault (List UInt8)} (hread : readObject element bs = (t, out)) :
    t.Fits (n + 1) := by
  unfold readObject at hread
  split at hread
  · rw [← (Prod.mk.inj hread).1]
    exact .obj (by simp)
  split at hread
  · rw [← (Prod.mk.inj hread).1]
    exact .obj (by simp)
  · rw [← (Prod.mk.inj hread).1]
    exact .obj (readMembers_fits h _)

lemma ofToken_fits {bs : List UInt8} {t : Tree} {out : Except Fault (List UInt8)}
    (h : Reading.ofToken (readScalar bs) = (t, out)) : t.Fits n := by
  rcases hs : readScalar bs with f | ⟨t', rest⟩
  · rw [hs] at h
    rw [← (Prod.mk.inj h).1]
    exact .cut
  · rw [hs] at h
    rw [← (Prod.mk.inj h).1]
    exact readScalar_fits hs n

/-- **What is read fits**, whether or not it is read to its end. -/
theorem read_fits {bs : List UInt8} {t : Tree} {out : Except Fault (List UInt8)}
    (h : read n bs = (t, out)) : t.Fits n := by
  have hstep : ∀ depth, (∀ b rest, (readNested depth b rest).1.Fits depth) →
      ∀ bs t out, read depth bs = (t, out) → t.Fits depth := by
    intro depth hnested bs t out h
    rw [read_eq] at h
    split at h
    · rw [← (Prod.mk.inj h).1]
      exact .cut
    split at h
    · rw [← (Prod.mk.inj h).1]
      exact hnested _ _
    · exact ofToken_fits h
  refine hstep n ?_ bs t out h
  clear h
  induction n with
  | zero => exact fun _ _ => .cut
  | succ n ih =>
    intro b rest
    rw [readNested]
    split
    · exact readArray_fits (hstep n ih) rfl
    · exact readObject_fits (hstep n ih) rfl

end JobWatch.Json
