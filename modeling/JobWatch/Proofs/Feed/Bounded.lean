import JobWatch.Proofs.Feed.Framing
import JobWatch.Proofs.Feed.Rounds
import Mathlib.Data.List.DropRight

/-!
A stream holds no more bytes than it has to.

While a stream waits, its buffer is the line that has been begun, which is not too long; a chunk is
all that is added to it. What a stream does with its bytes is told by a trace: the drain that keeps
a trace comes to the same as the drain, and every act of it stays within the buffer and within the
longest line.
-/

namespace JobWatch.Feed

variable {σ : Type}

/-! ### The line that has been begun -/

/-- The bytes behind the last line feed. -/
def unfinishedLine (bs : List UInt8) : List UInt8 := bs.rtakeWhile (· != lineFeed)

lemma unfinishedLine_of_not_mem {bs : List UInt8} (h : lineFeed ∉ bs) : unfinishedLine bs = bs := by
  rw [unfinishedLine, List.rtakeWhile_eq_self_iff]
  intro b hb
  rw [bne_iff_ne]
  rintro rfl
  exact h hb

lemma unfinishedLine_line (line rest : List UInt8) :
    unfinishedLine (line ++ lineFeed :: rest) = unfinishedLine rest := by
  induction rest using List.reverseRecOn with
  | nil => exact List.rtakeWhile_concat_neg _ _ _ (by simp)
  | append_singleton rest b ih =>
    rw [unfinishedLine, unfinishedLine, ← List.cons_append, ← List.append_assoc,
      List.rtakeWhile_concat, List.rtakeWhile_concat]
    rw [unfinishedLine, unfinishedLine] at ih
    rw [ih]

/-- Lines that are complete do not matter to the line that has been begun. -/
lemma unfinishedLine_append (bs more : List UInt8) :
    unfinishedLine (unfinishedLine bs ++ more) = unfinishedLine (bs ++ more) := by
  induction bs using lineInduction with
  | tail bs h => rw [unfinishedLine_of_not_mem h]
  | line line rest _ ih =>
    rw [unfinishedLine_line, List.append_assoc, List.cons_append, unfinishedLine_line, ih]

/-! ### Waiting -/

/-- The bytes that arrive. -/
def Arrival.bytes : Arrival → List UInt8
  | chunk bs => bs
  | _ => []

variable {k : Sink σ} {maxLine : Nat} {s s' : σ} {b b' : Buffer}

lemma readLines_pending {bs : List UInt8}
    (h : readLines k maxLine s (pieces bs) = (s', .reading b)) : b.pending = unfinishedLine bs := by
  induction bs using lineInduction generalizing s with
  | tail bs hfree =>
    rw [readLines_tail k maxLine hfree] at h
    split at h
    · simp at h
    · simp only [Prod.mk.injEq, Stream.reading.injEq] at h
      rw [← h.2, unfinishedLine_of_not_mem hfree]
  | line line rest hfree ih =>
    rw [readLines_line k maxLine hfree] at h
    rw [unfinishedLine_line]
    rcases ht : takeLine k maxLine s line with ⟨s₁, _ | r⟩
    · rw [ht] at h
      exact ih h
    · simp [ht] at h

/-- A stream that waits and goes on waiting has added what arrived to the line it had begun. -/
lemma step_waiting (hb : b.Settled maxLine) {a : Arrival}
    (h : step k maxLine s (.reading b) a = (s', .reading b')) :
    b'.Settled maxLine ∧ b'.pending = unfinishedLine (b.pending ++ a.bytes) := by
  rcases hs : k.isCancelled s with _ | _
  · cases a with
    | chunk bs =>
      rw [step_chunk hs hb] at h
      exact ⟨(readLines_reading hs h).1, readLines_pending h⟩
    | wake =>
      simp only [step, hs, Bool.false_eq_true, if_false, Prod.mk.injEq, Stream.reading.injEq] at h
      obtain ⟨-, rfl⟩ := h
      have hnothing : Arrival.wake.bytes = [] := rfl
      rw [hnothing, List.append_nil, unfinishedLine_of_not_mem hb.no_line]
      exact ⟨hb, rfl⟩
    | close | broken => simp [step, hs] at h
  · simp [step, hs] at h

/-- A stream that waits holds the line that has been begun by all that arrived. -/
lemma steps_waiting {as : List Arrival}
    (h : steps k maxLine s (.reading {}) as = (s', .reading b)) :
    b.Settled maxLine ∧ b.pending = unfinishedLine (as.flatMap Arrival.bytes) := by
  induction as using List.reverseRecOn generalizing s' b with
  | nil =>
    simp only [steps, Prod.mk.injEq, Stream.reading.injEq] at h
    rw [← h.2]
    exact ⟨Buffer.settled_nil maxLine, rfl⟩
  | append_singleton as a ih =>
    rw [steps_append] at h
    rcases hbefore : steps k maxLine s (.reading {}) as with ⟨s₁, b₁ | r⟩
    · rw [hbefore] at h
      obtain ⟨hb₁, hpending₁⟩ := ih hbefore
      obtain ⟨hb, hpending⟩ := step_waiting hb₁ h
      refine ⟨hb, ?_⟩
      rw [hpending, hpending₁, unfinishedLine_append, List.flatMap_append, List.flatMap_singleton]
    · rw [hbefore, steps_ended] at h
      simp at h

/-! ### Acts -/

/-- What a stream does with the bytes it holds: it searches them for a line feed, from the scanned
ones on, and it decodes some of them. -/
inductive Act where
  | search (b : Buffer)
  | decode (bytes : List UInt8)
  deriving Repr, DecidableEq

/-- An act within the buffer and within the longest line: a search of a sound buffer that is no
longer than a limit, or the decoding of one line, with or without its line feed. -/
def Act.Within (maxLine limit : Nat) : Act → Prop
  | search b => b.Sound ∧ b.pending.length ≤ limit
  | decode bytes => ∃ line, lineFeed ∉ line ∧ line.length ≤ maxLine ∧
      (bytes = line ++ [lineFeed] ∨ bytes = line)

/-- `drain`, with its acts in their order. -/
def drainTraced (k : Sink σ) (maxLine : Nat) (s : σ) (b : Buffer) : List Act × σ × Stream :=
  match h : (b.pending.drop b.scanned).findIdx? (· == lineFeed) with
  | none =>
    if b.pending.length > maxLine then ([.search b], s, .ended (.error (overlong maxLine)))
    else ([.search b], s, .reading ⟨b.pending, b.pending.length⟩)
  | some offset =>
    let newline := b.scanned + offset
    if newline > maxLine then ([.search b], s, .ended (.error (overlong maxLine)))
    else
      have : (b.pending.drop (newline + 1)).length < b.pending.length := by
        have := List.findIdx?_eq_some_iff_findIdx_eq.1 h
        simp only [List.length_drop] at this ⊢
        omega
      let acts := [.search b, .decode (b.pending.take (newline + 1))]
      match decodeLine (b.pending.take (newline + 1)) with
      | .error e => (acts, s, .ended (.error e))
      | .ok none =>
        let (more, out) := drainTraced k maxLine s ⟨b.pending.drop (newline + 1), 0⟩
        (acts ++ more, out)
      | .ok (some r) =>
        let s := k.deliver s r
        if r.isFinal then (acts, s, .ended (.ok ()))
        else if k.isCancelled s then (acts, s, .ended (.error .operationCancelled))
        else
          let (more, out) := drainTraced k maxLine s ⟨b.pending.drop (newline + 1), 0⟩
          (acts ++ more, out)
termination_by b.pending.length

theorem drainTraced_drain (s : σ) (b : Buffer) :
    (drainTraced k maxLine s b).2 = drain k maxLine s b := by
  fun_induction drainTraced k maxLine s b with
  | case1 s b h hlong => rw [drain_eq, Buffer.round_none h, if_pos hlong]
  | case2 s b h hlong =>
    rw [drain_eq, Buffer.round_none h, if_neg hlong]
    rfl
  | case3 s b offset h newline hlong => rw [drain_eq, Buffer.round_some h, if_pos hlong]
  | case4 s b offset h newline hlong _ acts e hline =>
    rw [drain_eq, Buffer.round_some h, if_neg hlong, hline]
  | case5 s b offset h newline hlong _ acts hline more out hout ih =>
    rw [drain_eq, Buffer.round_some h, if_neg hlong, hline]
    rw [hout] at ih
    exact ih
  | case6 s b offset h newline hlong _ acts r hline s' hfinal =>
    rw [drain_eq, Buffer.round_some h, if_neg hlong, hline]
    dsimp only
    rw [if_pos hfinal]
  | case7 s b offset h newline hlong _ acts r hline s' hfinal hc =>
    rw [drain_eq, Buffer.round_some h, if_neg hlong, hline]
    dsimp only
    rw [if_neg hfinal, if_pos hc]
  | case8 s b offset h newline hlong _ acts r hline s' hfinal hc more out hout ih =>
    rw [drain_eq, Buffer.round_some h, if_neg hlong, hline]
    dsimp only
    rw [if_neg hfinal, if_neg hc]
    rw [hout] at ih
    exact ih

/-- A round over a sound buffer searches it and decodes its first line with the line feed, and no
other line. -/
lemma Buffer.Sound.round_within (hb : b.Sound) {limit offset : Nat}
    (hlimit : b.pending.length ≤ limit)
    (h : (b.pending.drop b.scanned).findIdx? (· == lineFeed) = some offset)
    (hlen : ¬ b.scanned + offset > maxLine) :
    ∀ act ∈ [.search b, .decode (b.pending.take (b.scanned + offset + 1))],
      Act.Within maxLine limit act := by
  obtain ⟨line, rest, hfree, hsplit, hline⟩ := hb.first_line h
  refine List.forall_mem_cons.2 ⟨⟨hb, hlimit⟩, List.forall_mem_singleton.2 ?_⟩
  refine ⟨line, hfree, by omega, .inl ?_⟩
  rw [hsplit, ← hline, List.take_length_add_append]
  rfl

/-- Every act of a drain stays within the buffer that the drain began with. -/
lemma drainTraced_within {limit : Nat} (hb : b.Sound) (hlimit : b.pending.length ≤ limit) :
    ∀ act ∈ (drainTraced k maxLine s b).1, act.Within maxLine limit := by
  have hrest : ∀ (bs : List UInt8) (n : Nat), bs.length ≤ limit → (bs.drop n).length ≤ limit :=
    fun bs n h => (List.drop_sublist n bs).length_le.trans h
  fun_induction drainTraced k maxLine s b with
  | case1 | case2 | case3 => exact List.forall_mem_singleton.2 ⟨hb, hlimit⟩
  | case4 s b offset h newline hlong => exact hb.round_within hlimit h hlong
  | case5 s b offset h newline hlong _ acts _ more out hout ih =>
    rw [hout] at ih
    exact List.forall_mem_append.2
      ⟨hb.round_within hlimit h hlong, ih (.unscanned _) (hrest _ _ hlimit)⟩
  | case6 s b offset h newline hlong => exact hb.round_within hlimit h hlong
  | case7 s b offset h newline hlong => exact hb.round_within hlimit h hlong
  | case8 s b offset h newline hlong _ acts _ _ _ _ _ more out hout ih =>
    rw [hout] at ih
    exact List.forall_mem_append.2
      ⟨hb.round_within hlimit h hlong, ih (.unscanned _) (hrest _ _ hlimit)⟩

/-- `step`, with its acts in their order. -/
def stepTraced (k : Sink σ) (maxLine : Nat) (s : σ) (st : Stream) (a : Arrival) :
    List Act × σ × Stream :=
  match st with
  | .ended r => ([], s, .ended r)
  | .reading b =>
    if k.isCancelled s then ([], s, .ended (.error .operationCancelled))
    else
      match a with
      | .chunk bs => drainTraced k maxLine s ⟨b.pending ++ bs, b.scanned⟩
      | .close =>
        let (s, r) := finishTail k s b
        ([.decode b.pending], s, .ended r)
      | .broken e => ([], s, .ended (.error e))
      | .wake => ([], s, .reading b)

theorem stepTraced_step (s : σ) (st : Stream) (a : Arrival) :
    (stepTraced k maxLine s st a).2 = step k maxLine s st a := by
  cases st with
  | ended r => rfl
  | reading b =>
    rcases hs : k.isCancelled s with _ | _
    · cases a with
      | chunk bs =>
        simp only [stepTraced, step, hs, Bool.false_eq_true, if_false]
        exact drainTraced_drain s _
      | close | broken | wake => simp only [stepTraced, step, hs, Bool.false_eq_true, if_false]
    · simp only [stepTraced, step, hs, if_true]

lemma stepTraced_within (hb : b.Settled maxLine) (s : σ) (a : Arrival) :
    ∀ act ∈ (stepTraced k maxLine s (.reading b) a).1,
      act.Within maxLine (maxLine + a.bytes.length) := by
  rcases hs : k.isCancelled s with _ | _
  · cases a with
    | chunk bs =>
      have hlen : (b.pending ++ bs).length ≤ maxLine + bs.length := by
        rw [List.length_append]
        have := hb.length_le
        omega
      simp only [stepTraced, hs, Bool.false_eq_true, if_false]
      exact drainTraced_within (hb.sound_append bs) hlen
    | close =>
      simp only [stepTraced, hs, Bool.false_eq_true, if_false]
      exact List.forall_mem_singleton.2 ⟨b.pending, hb.no_line, hb.length_le, .inr rfl⟩
    | broken | wake => simp [stepTraced, hs]
  · simp [stepTraced, hs]

/-- **The buffer of a stream is bounded.** While a stream waits, it holds the bytes behind the last
line feed of all that arrived, all of them scanned and no more than the longest line. Whatever
arrives then, and whatever became of the sink in the meantime, the buffer is searched only from a
place within it and with no more added than what arrived, and what is decoded is one line that is
not too long. -/
theorem buffer_bounded (k : Sink σ) (maxLine : Nat) (s : σ) (as : List Arrival) {s' : σ}
    {b : Buffer} (h : steps k maxLine s (.reading {}) as = (s', .reading b)) :
    (lineFeed ∉ b.pending ∧ b.pending.length ≤ maxLine ∧ b.scanned = b.pending.length ∧
      b.pending = (as.flatMap Arrival.bytes).rtakeWhile (· != lineFeed)) ∧
    ∀ (s : σ) (a : Arrival),
      (stepTraced k maxLine s (.reading b) a).2 = step k maxLine s (.reading b) a ∧
      ∀ act ∈ (stepTraced k maxLine s (.reading b) a).1,
        (∀ b', act = .search b' →
          b'.scanned ≤ b'.pending.length ∧ b'.pending.length ≤ maxLine + a.bytes.length) ∧
        ∀ bytes, act = .decode bytes → ∃ line, lineFeed ∉ line ∧ line.length ≤ maxLine ∧
          (bytes = line ++ [lineFeed] ∨ bytes = line) := by
  obtain ⟨hb, hpending⟩ := steps_waiting h
  refine ⟨⟨hb.no_line, hb.length_le, hb.scanned, hpending⟩, fun s a => ⟨stepTraced_step s _ a, ?_⟩⟩
  intro act hact
  have hwithin := stepTraced_within hb s a act hact
  constructor
  · rintro b' rfl
    exact ⟨hwithin.1.1, hwithin.2⟩
  · rintro bytes rfl
    exact hwithin

/-- A report that is cut in two, with a blank behind it that a third chunk ends. -/
theorem buffer_bounded_limited :
    steps (Sink.limited 2) 2 0 (.reading {})
        [.chunk [0x7B], .wake, .chunk [0x7D, 0x0A, 0x20]] = (1, .reading ⟨[0x20], 1⟩) ∧
      (stepTraced (Sink.limited 2) 2 1 (.reading ⟨[0x20], 1⟩) (.chunk [0x0A])).1 =
        [.search ⟨[0x20, 0x0A], 1⟩, .decode [0x20, 0x0A], .search ⟨[], 0⟩] ∧
      ∀ act ∈ (stepTraced (Sink.limited 2) 2 1 (.reading ⟨[0x20], 1⟩) (.chunk [0x0A])).1,
        ∀ b', act = .search b' → b'.scanned ≤ b'.pending.length ∧ b'.pending.length ≤ 2 + 1 := by
  have hsteps : steps (Sink.limited 2) 2 0 (.reading {})
      [.chunk [0x7B], .wake, .chunk [0x7D, 0x0A, 0x20]] = (1, .reading ⟨[0x20], 1⟩) := by
    with_unfolding_all rfl
  refine ⟨hsteps, by decide +kernel, fun act hact => ?_⟩
  exact ((buffer_bounded (Sink.limited 2) 2 0 _ hsteps).2 1 (.chunk [0x0A])).2 act hact |>.1

end JobWatch.Feed
