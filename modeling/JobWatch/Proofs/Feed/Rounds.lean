import JobWatch.Proofs.Feed.Framing

/-!
A stream against the reports that it has for somebody who never cancels.

A buffer is drained in rounds, one line a round. A sink that drops what it is given once it is
cancelled is left as if it had been given every report of the stream; and unless that cancels it,
its stream stands as if nobody could.
-/

namespace JobWatch.Feed

/-! ### Rounds -/

/-- What one round of draining a buffer comes to. -/
inductive Round where
  | fault (e : AdminError)
  /-- There is no complete line. -/
  | wait
  | blank (b : Buffer)
  | line (r : Report) (b : Buffer)

def Buffer.round (maxLine : Nat) (b : Buffer) : Round :=
  match (b.pending.drop b.scanned).findIdx? (· == lineFeed) with
  | none => if b.pending.length > maxLine then .fault (overlong maxLine) else .wait
  | some offset =>
    let newline := b.scanned + offset
    if newline > maxLine then .fault (overlong maxLine)
    else
      match decodeLine (b.pending.take (newline + 1)) with
      | .error e => .fault e
      | .ok none => .blank ⟨b.pending.drop (newline + 1), 0⟩
      | .ok (some r) => .line r ⟨b.pending.drop (newline + 1), 0⟩

/-- A buffer all of which was searched. -/
def Buffer.searched (b : Buffer) : Buffer := ⟨b.pending, b.pending.length⟩

variable {σ : Type} {maxLine : Nat} {b b' : Buffer}

lemma Buffer.round_none (h : (b.pending.drop b.scanned).findIdx? (· == lineFeed) = none) :
    b.round maxLine = if b.pending.length > maxLine then .fault (overlong maxLine) else .wait := by
  rw [round, h]

lemma Buffer.round_some {offset : Nat}
    (h : (b.pending.drop b.scanned).findIdx? (· == lineFeed) = some offset) :
    b.round maxLine =
      if b.scanned + offset > maxLine then .fault (overlong maxLine)
      else
        match decodeLine (b.pending.take (b.scanned + offset + 1)) with
        | .error e => .fault e
        | .ok none => .blank ⟨b.pending.drop (b.scanned + offset + 1), 0⟩
        | .ok (some r) => .line r ⟨b.pending.drop (b.scanned + offset + 1), 0⟩ := by
  rw [round, h]

/-- A round that takes a line leaves less in the buffer. -/
lemma Buffer.round_shorter
    (h : b.round maxLine = .blank b' ∨ ∃ r, b.round maxLine = .line r b') :
    b'.pending.length < b.pending.length := by
  rcases hindex : (b.pending.drop b.scanned).findIdx? (· == lineFeed) with _ | offset
  · simp only [Buffer.round, hindex] at h
    split at h <;> simp at h
  · have hoffset := List.findIdx?_eq_some_iff_findIdx_eq.1 hindex
    rw [List.length_drop] at hoffset
    have hleft : b' = ⟨b.pending.drop (b.scanned + offset + 1), 0⟩ := by
      simp only [Buffer.round, hindex] at h
      split at h
      · simp at h
      · rcases hline : decodeLine (b.pending.take (b.scanned + offset + 1)) with e | _ | r
        · simp [hline] at h
        · simpa [hline, eq_comm] using h
        · simpa [hline, eq_comm] using h
    rw [hleft, List.length_drop]
    omega

/-- **Draining goes on in rounds.** -/
theorem drain_eq (k : Sink σ) (maxLine : Nat) (s : σ) (b : Buffer) :
    drain k maxLine s b =
      match b.round maxLine with
      | .fault e => (s, .ended (.error e))
      | .wait => (s, .reading b.searched)
      | .blank b' => drain k maxLine s b'
      | .line r b' =>
        if r.isFinal then (k.deliver s r, .ended (.ok ()))
        else if k.isCancelled (k.deliver s r) then
          (k.deliver s r, .ended (.error .operationCancelled))
        else drain k maxLine (k.deliver s r) b' := by
  rw [drain]
  split
  · next hindex =>
    rw [Buffer.round_none hindex]
    split <;> rfl
  · next offset hindex =>
    rw [Buffer.round_some hindex]
    dsimp only
    split
    · rfl
    · rcases decodeLine (b.pending.take (b.scanned + offset + 1)) with e | _ | r <;> rfl

/-- Induction on a buffer along its rounds. -/
@[elab_as_elim]
theorem Buffer.roundInduction {P : Buffer → Prop} (maxLine : Nat)
    (fault : ∀ b e, b.round maxLine = .fault e → P b)
    (wait : ∀ b, b.round maxLine = .wait → P b)
    (blank : ∀ b b', b.round maxLine = .blank b' → P b' → P b)
    (line : ∀ b r b', b.round maxLine = .line r b' → P b' → P b) : ∀ b, P b := by
  intro b
  induction hn : b.pending.length using Nat.strongRecOn generalizing b with
  | ind n ih =>
    rcases hround : b.round maxLine with e | _ | b' | ⟨r, b'⟩
    · exact fault b e hround
    · exact wait b hround
    · exact blank b b' hround (ih _ (hn ▸ Buffer.round_shorter (.inl hround)) b' rfl)
    · exact line b r b' hround (ih _ (hn ▸ Buffer.round_shorter (.inr ⟨r, hround⟩)) b' rfl)

/-! ### Collecting -/

/-- Who keeps every report and never cancels. -/
def collect : Sink (List Report) := ⟨fun rs r => rs ++ [r], fun _ => false⟩

lemma foldl_collect (rs more : List Report) : more.foldl collect.deliver rs = rs ++ more := by
  induction more generalizing rs with
  | nil => rw [List.foldl_nil, List.append_nil]
  | cons r more ih =>
    rw [List.foldl_cons, ih]
    exact List.append_assoc rs [r] more

lemma drain_grows (rs : List Report) (b : Buffer) :
    ∃ more, (drain collect maxLine rs b).1 = rs ++ more := by
  induction b using Buffer.roundInduction maxLine generalizing rs with
  | fault b e h | wait b h =>
    rw [drain_eq, h]
    exact ⟨[], (List.append_nil rs).symm⟩
  | blank b b' h ih =>
    rw [drain_eq, h]
    exact ih rs
  | line b r b' h ih =>
    rw [drain_eq, h]
    dsimp only
    split
    · exact ⟨[r], rfl⟩
    · obtain ⟨more, hmore⟩ := ih (rs ++ [r])
      exact ⟨r :: more, hmore.trans (List.append_assoc ..)⟩

/-- What was collected stays. -/
lemma step_grows (rs : List Report) (st : Stream) (a : Arrival) :
    ∃ more, (step collect maxLine rs st a).1 = rs ++ more := by
  have hnothing : ∃ more, rs = rs ++ more := ⟨[], (List.append_nil rs).symm⟩
  cases st with
  | ended r => exact hnothing
  | reading b =>
    cases a with
    | chunk bs => exact drain_grows rs _
    | broken e => exact hnothing
    | wake => exact hnothing
    | close =>
      show ∃ more, (finishTail collect rs b).1 = rs ++ more
      rw [finishTail]
      rcases decodeLine b.pending with e | _ | r
      · exact hnothing
      · exact hnothing
      · exact ⟨[r], rfl⟩

/-! ### Sinks that heed a cancel -/

/-- A sink that drops what it is given once it is cancelled. -/
def Sink.Drops (k : Sink σ) : Prop := ∀ s r, k.isCancelled s = true → k.deliver s r = s

variable {k : Sink σ} {s s₀ : σ}

lemma Sink.Drops.foldl (hk : k.Drops) (hs : k.isCancelled s = true) (rs : List Report) :
    rs.foldl k.deliver s = s := by
  induction rs with
  | nil => rfl
  | cons r rs ih =>
    rw [List.foldl_cons, hk s r hs]
    exact ih

/-- A sink has been given what was collected, and its stream stands as the other unless the sink is
cancelled. -/
structure Matches (k : Sink σ) (s₀ : σ) (p : σ × Stream) (q : List Report × Stream) : Prop where
  state : p.1 = q.1.foldl k.deliver s₀
  stream : k.isCancelled p.1 = false → p.2 = q.2

/-- A sink that is cancelled does not care for what is collected after. -/
lemma Matches.cancelled (hk : k.Drops) {rs : List Report} {st : Stream} {q : List Report × Stream}
    (hs : k.isCancelled (rs.foldl k.deliver s₀) = true) (hmore : ∃ more, q.1 = rs ++ more) :
    Matches k s₀ (rs.foldl k.deliver s₀, st) q := by
  obtain ⟨more, hmore⟩ := hmore
  refine ⟨?_, fun hrunning => ?_⟩
  · rw [hmore, List.foldl_append, hk.foldl hs]
  · cases hs.symm.trans hrunning

lemma foldl_snoc (rs : List Report) (r : Report) :
    (rs ++ [r]).foldl k.deliver s₀ = k.deliver (rs.foldl k.deliver s₀) r := by
  rw [List.foldl_append]
  rfl

lemma drain_matches (hk : k.Drops) (rs : List Report) (b : Buffer) :
    Matches k s₀ (drain k maxLine (rs.foldl k.deliver s₀) b) (drain collect maxLine rs b) := by
  induction b using Buffer.roundInduction maxLine generalizing rs with
  | fault b e h | wait b h =>
    rw [drain_eq, drain_eq collect, h]
    exact ⟨rfl, fun _ => rfl⟩
  | blank b b' h ih =>
    rw [drain_eq, drain_eq collect, h]
    exact ih rs
  | line b r b' h ih =>
    rw [drain_eq, drain_eq collect, h]
    simp only [← foldl_snoc]
    by_cases hfinal : r.isFinal = true
    · rw [if_pos hfinal, if_pos hfinal]
      exact ⟨rfl, fun _ => rfl⟩
    · rw [if_neg hfinal, if_neg hfinal]
      have hcollect : (if collect.isCancelled (collect.deliver rs r) = true then
            (collect.deliver rs r, .ended (.error .operationCancelled))
          else drain collect maxLine (collect.deliver rs r) b') =
          drain collect maxLine (rs ++ [r]) b' := rfl
      rw [hcollect]
      by_cases hs : k.isCancelled ((rs ++ [r]).foldl k.deliver s₀) = true
      · rw [if_pos hs]
        exact .cancelled hk hs (drain_grows _ b')
      · rw [if_neg hs]
        exact ih (rs ++ [r])

lemma finishTail_matches (k : Sink σ) (s₀ : σ) (rs : List Report) (b : Buffer) :
    (finishTail k (rs.foldl k.deliver s₀) b).1 = (finishTail collect rs b).1.foldl k.deliver s₀ ∧
      (finishTail k (rs.foldl k.deliver s₀) b).2 = (finishTail collect rs b).2 := by
  rw [finishTail, finishTail]
  rcases decodeLine b.pending with e | _ | r
  · exact ⟨rfl, rfl⟩
  · exact ⟨rfl, rfl⟩
  · exact ⟨(foldl_snoc rs r).symm, rfl⟩

lemma step_cancelled (hs : k.isCancelled s = true) (st : Stream) (a : Arrival) :
    (step k maxLine s st a).1 = s := by
  cases st with
  | ended r => rfl
  | reading b => simp only [step, hs, if_true]

lemma step_running (hs : k.isCancelled s = false) (b : Buffer) (a : Arrival) :
    step k maxLine s (.reading b) a =
      match a with
      | .chunk bs => drain k maxLine s ⟨b.pending ++ bs, b.scanned⟩
      | .close => ((finishTail k s b).1, .ended (finishTail k s b).2)
      | .broken e => (s, .ended (.error e))
      | .wake => (s, .reading b) := by
  cases a <;> simp only [step, hs, Bool.false_eq_true, if_false]

/-- **What arrives does the same to a sink as to who collects.** -/
lemma Matches.step (hk : k.Drops) {st st' : Stream} {rs : List Report}
    (h : Matches k s₀ (s, st) (rs, st')) (a : Arrival) :
    Matches k s₀ (step k maxLine s st a) (Feed.step collect maxLine rs st' a) := by
  obtain ⟨rfl, hstream⟩ : s = rs.foldl k.deliver s₀ ∧ _ := ⟨h.state, h.stream⟩
  rcases hs : k.isCancelled (rs.foldl k.deliver s₀) with _ | _
  · obtain rfl : st = st' := hstream hs
    cases st with
    | ended r => exact ⟨rfl, fun _ => rfl⟩
    | reading b =>
      rw [step_running hs, step_running (k := collect) rfl]
      cases a with
      | chunk bs => exact drain_matches hk rs _
      | close =>
        obtain ⟨hstate, hresult⟩ := finishTail_matches k s₀ rs b
        exact ⟨hstate, fun _ => congrArg Stream.ended hresult⟩
      | broken e => exact ⟨rfl, fun _ => rfl⟩
      | wake => exact ⟨rfl, fun _ => rfl⟩
  · have hstate : Feed.step k maxLine (rs.foldl k.deliver s₀) st a =
        (rs.foldl k.deliver s₀, (Feed.step k maxLine (rs.foldl k.deliver s₀) st a).2) :=
      Prod.ext (step_cancelled hs st a) rfl
    rw [hstate]
    exact .cancelled hk hs (step_grows rs st' a)

theorem Matches.steps (hk : k.Drops) {st st' : Stream} {rs : List Report}
    (h : Matches k s₀ (s, st) (rs, st')) (as : List Arrival) :
    Matches k s₀ (steps k maxLine s st as) (Feed.steps collect maxLine rs st' as) := by
  induction as generalizing s st rs st' with
  | nil => exact h
  | cons a as ih => exact ih (h.step hk a)

/-! ### Streams that end -/

/-- The result of a stream that has ended. -/
def Stream.result : Stream → Result
  | .ended r => r
  | .reading _ => .error unfinished

/-- The arrivals of a body: its chunks, and then its end. -/
def arrivalsOf (chunks : List (List UInt8)) (close : Close) : List Arrival :=
  chunks.map .chunk ++ [close.arrival]

lemma step_close (s : σ) (st : Stream) (close : Close) :
    (step k maxLine s st close.arrival).2 =
      .ended (step k maxLine s st close.arrival).2.result := by
  cases st with
  | ended r => rfl
  | reading b =>
    cases close <;> simp only [step, Close.arrival] <;> split <;> rfl

/-- A body that comes to an end ends its stream. -/
lemma steps_close (s : σ) (st : Stream) (chunks : List (List UInt8)) (close : Close) :
    (steps k maxLine s st (arrivalsOf chunks close)).2 =
      .ended (steps k maxLine s st (arrivalsOf chunks close)).2.result := by
  rw [arrivalsOf, steps_append]
  exact step_close _ _ close

/-- It does not matter in which chunks a body comes. -/
lemma steps_flatten (hs : k.isCancelled s = false) (chunks : List (List UInt8)) (close : Close) :
    steps k maxLine s (.reading {}) (arrivalsOf chunks close) =
      steps k maxLine s (.reading {}) [.chunk chunks.flatten, close.arrival] := by
  have hone := steps_chunks hs (Buffer.settled_nil maxLine) [chunks.flatten]
  rw [List.flatten_singleton] at hone
  rw [arrivalsOf, steps_append, steps_chunks hs (Buffer.settled_nil maxLine), ← hone,
    ← steps_append]
  rfl

/-- A feed that nobody cancels has no account that is cancelled. -/
lemma linesAccount_running (maxLine : Nat) (hk : ∀ s, k.isCancelled s = false) {tail : Account}
    (htail : tail.result ≠ .error .cancelled) (s : σ) (lines : List (List UInt8)) :
    (linesAccount k maxLine tail s lines).result ≠ .error .cancelled := by
  induction lines generalizing s with
  | nil => exact htail
  | cons line lines ih =>
    rw [linesAccount]
    split
    · rintro ⟨⟩
    · split
      · exact ih s
      · rcases Report.ofBytes line with f | r
        · rintro ⟨⟩
        · dsimp only
          split
          · rintro ⟨⟩
          · rw [hk, if_neg (by simp)]
            exact ih _

lemma tailAccount_running {close : Close} (hclose : ∀ e, close = .broken e → e.isCancelled = false)
    (tail : List UInt8) : (tailAccount maxLine close tail).result ≠ .error .cancelled := by
  unfold tailAccount
  split
  · rintro ⟨⟩
  · cases close with
    | broken e =>
      have he := hclose e rfl
      intro hcancelled
      rw [AdminError.isCancelled, Except.error.inj hcancelled] at he
      cases he
    | clean =>
      dsimp only
      split
      · rintro ⟨⟩
      · rcases Report.ofBytes tail with f | r
        · rintro ⟨⟩
        · dsimp only
          split <;> rintro ⟨⟩

/-- **The stream of a body that nobody cancels does not end as a cancelled one.** -/
lemma result_running {close : Close} (hclose : ∀ e, close = .broken e → e.isCancelled = false)
    (chunks : List (List UInt8)) {e : AdminError}
    (he : (steps collect maxLine [] (.reading {}) (arrivalsOf chunks close)).2.result = .error e) :
    e.isCancelled = false := by
  obtain ⟨r, hsteps, hkind⟩ := steps_account collect maxLine (s := []) rfl chunks close
  rw [arrivalsOf, hsteps] at he
  obtain rfl : r = .error e := he
  have hrunning : (account collect maxLine [] chunks.flatten close).result ≠ .error .cancelled :=
    linesAccount_running maxLine (fun _ => rfl) (tailAccount_running hclose _) _ _
  rw [← hkind] at hrunning
  rw [AdminError.isCancelled, decide_eq_false_iff_not]
  intro hcancelled
  exact hrunning (congrArg Except.error hcancelled)

end JobWatch.Feed
