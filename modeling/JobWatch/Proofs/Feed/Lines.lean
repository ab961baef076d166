import JobWatch.Feed.Stream
import Mathlib.Tactic.Lemma

/-!
The buffer of a stream, against a reader of whole lines.

`readLines` is given the pieces between line feeds, the last of them unfinished. However the bytes
are cut into chunks, draining the buffer after every chunk does what `readLines` does with the
pieces of all bytes at once.
-/

namespace JobWatch.Feed

variable {σ : Type} (k : Sink σ) (maxLine : Nat)

/-- One complete line, without its line feed: the state after it, and the result if it is the end
of the stream. -/
def takeLine (s : σ) (line : List UInt8) : σ × Option Result :=
  if line.length > maxLine then (s, some (.error (overlong maxLine)))
  else
    match decodeLine (line ++ [lineFeed]) with
    | .error e => (s, some (.error e))
    | .ok none => (s, none)
    | .ok (some r) =>
      let s := k.deliver s r
      if r.isFinal then (s, some (.ok ()))
      else if k.isCancelled s then (s, some (.error .operationCancelled))
      else (s, none)

/-- Complete lines and, as the last piece, what follows them. -/
def readLines (s : σ) : List (List UInt8) → σ × Stream
  | [] => (s, .reading {})
  | [tail] =>
    if tail.length > maxLine then (s, .ended (.error (overlong maxLine)))
    else (s, .reading ⟨tail, tail.length⟩)
  | line :: piece :: pieces =>
    match takeLine k maxLine s line with
    | (s, some r) => (s, .ended r)
    | (s, none) => readLines s (piece :: pieces)

/-- The pieces between the line feeds of a byte string. -/
abbrev pieces (bs : List UInt8) : List (List UInt8) := bs.splitOn lineFeed

lemma pieces_of_not_mem {bs : List UInt8} (h : lineFeed ∉ bs) : pieces bs = [bs] :=
  List.splitOn_eq_singleton h

lemma pieces_line {line : List UInt8} (h : lineFeed ∉ line) (bs : List UInt8) :
    pieces (line ++ lineFeed :: bs) = line :: pieces bs :=
  List.splitOn_append_cons_self_of_not_mem h bs

/-- Every byte string is a last piece, or a line before another byte string. -/
lemma line_cases (bs : List UInt8) :
    lineFeed ∉ bs ∨ ∃ line rest, lineFeed ∉ line ∧ bs = line ++ lineFeed :: rest := by
  by_cases h : lineFeed ∈ bs
  · obtain ⟨line, rest, rfl, hl⟩ := List.eq_append_cons_of_mem h
    exact .inr ⟨line, rest, hl, rfl⟩
  · exact .inl h

/-- Induction on a byte string from its first line to its last piece. -/
@[elab_as_elim]
theorem lineInduction {P : List UInt8 → Prop} (tail : ∀ bs, lineFeed ∉ bs → P bs)
    (line : ∀ line rest, lineFeed ∉ line → P rest → P (line ++ lineFeed :: rest)) :
    ∀ bs, P bs := by
  intro bs
  induction hn : bs.length using Nat.strongRecOn generalizing bs with
  | ind n ih =>
    rcases line_cases bs with h | ⟨l, rest, hl, rfl⟩
    · exact tail bs h
    · exact line l rest hl (ih rest.length (by rw [← hn]; simp; omega) rest rfl)

lemma readLines_tail {bs : List UInt8} (h : lineFeed ∉ bs) (s : σ) :
    readLines k maxLine s (pieces bs) =
      if bs.length > maxLine then (s, .ended (.error (overlong maxLine)))
      else (s, .reading ⟨bs, bs.length⟩) := by
  rw [pieces_of_not_mem h, readLines]

lemma readLines_line {line : List UInt8} (h : lineFeed ∉ line) (bs : List UInt8) (s : σ) :
    readLines k maxLine s (pieces (line ++ lineFeed :: bs)) =
      match takeLine k maxLine s line with
      | (s, some r) => (s, .ended r)
      | (s, none) => readLines k maxLine s (pieces bs) := by
  rw [pieces_line h]
  rcases hp : pieces bs with _ | ⟨piece, ps⟩
  · exact absurd hp (List.splitOn_ne_nil _ _)
  · rw [readLines]

/-! ### Draining -/

/-- The bytes known to hold no line feed are bytes of the buffer that hold none. -/
def Buffer.Sound (b : Buffer) : Prop :=
  b.scanned ≤ b.pending.length ∧ lineFeed ∉ b.pending.take b.scanned

lemma Buffer.Sound.unscanned (bs : List UInt8) : Buffer.Sound ⟨bs, 0⟩ :=
  ⟨by simp, by simp⟩

lemma split_of_findIdx? {bs : List UInt8} {i : Nat} (h : bs.findIdx? (· == lineFeed) = some i) :
    ∃ line rest, lineFeed ∉ line ∧ bs = line ++ lineFeed :: rest ∧ line.length = i := by
  obtain ⟨hi, hbyte, hbefore⟩ := List.findIdx?_eq_some_iff_getElem.1 h
  refine ⟨bs.take i, bs.drop (i + 1), ?_, ?_, by simp; omega⟩
  · intro hm
    obtain ⟨j, hj, hjm⟩ := List.mem_take_iff_getElem.1 hm
    exact hbefore j (by omega) (by simp [hjm])
  · have hlf : bs[i] = lineFeed := by simpa using hbyte
    rw [← hlf, List.getElem_cons_drop, List.take_append_drop]

/-- The search that leaves out the scanned bytes finds the first line feed of all. -/
lemma Buffer.Sound.first_line {b : Buffer} (hb : b.Sound) {i : Nat}
    (h : (b.pending.drop b.scanned).findIdx? (· == lineFeed) = some i) :
    ∃ line rest, lineFeed ∉ line ∧ b.pending = line ++ lineFeed :: rest ∧
      line.length = b.scanned + i := by
  obtain ⟨line, rest, hfree, hsplit, hlen⟩ := split_of_findIdx? h
  refine ⟨b.pending.take b.scanned ++ line, rest, ?_, ?_, ?_⟩
  · simp only [List.mem_append, not_or]
    exact ⟨hb.2, hfree⟩
  · rw [List.append_assoc, ← hsplit, List.take_append_drop]
  · have := hb.1
    simp only [List.length_append, List.length_take, hlen]
    omega

lemma Buffer.Sound.no_line {b : Buffer} (hb : b.Sound)
    (h : (b.pending.drop b.scanned).findIdx? (· == lineFeed) = none) :
    lineFeed ∉ b.pending := by
  have hrest : lineFeed ∉ b.pending.drop b.scanned := by
    intro hm
    simpa using List.findIdx?_eq_none_iff.1 h lineFeed hm
  rw [← List.take_append_drop b.scanned b.pending, List.mem_append, not_or]
  exact ⟨hb.2, hrest⟩

/-- **Draining a buffer reads its lines.** -/
theorem drain_eq_readLines {s : σ} {b : Buffer} (hb : b.Sound) :
    drain k maxLine s b = readLines k maxLine s (pieces b.pending) := by
  induction hn : b.pending.length using Nat.strongRecOn generalizing s b with
  | ind n ih =>
    unfold drain
    split
    · next h => rw [readLines_tail k maxLine (hb.no_line h)]
    · next offset h =>
      obtain ⟨line, rest, hfree, hsplit, hlen⟩ := hb.first_line h
      -- what is left is shorter, and nothing of it has been scanned
      have hrest : ∀ s, drain k maxLine s ⟨rest, 0⟩ = readLines k maxLine s (pieces rest) := by
        intro s
        exact ih rest.length (by rw [← hn, hsplit]; simp; omega) (.unscanned rest) rfl
      have htake : b.pending.take (b.scanned + offset + 1) = line ++ [lineFeed] := by
        rw [hsplit, ← hlen, List.take_length_add_append]
        rfl
      have hdrop : b.pending.drop (b.scanned + offset + 1) = rest := by
        rw [hsplit, ← hlen]
        simp [List.drop_append]
      dsimp only
      rw [htake, hdrop, hsplit, readLines_line k maxLine hfree, takeLine, ← hlen]
      by_cases hlong : line.length > maxLine
      · simp only [hlong, if_true]
      · simp only [hlong, if_false]
        rcases decodeLine (line ++ [lineFeed]) with e | _ | r
        · rfl
        · exact hrest s
        · dsimp only
          by_cases hfinal : r.isFinal = true
          · simp only [hfinal, if_true]
          · simp only [hfinal]
            by_cases hc : k.isCancelled (k.deliver s r) = true
            · simp [hc]
            · simp [hc, hrest]

/-! ### Chunks -/

/-- The buffer of a stream that waits: all of it is scanned, and it is not too long. -/
structure Buffer.Settled (maxLine : Nat) (b : Buffer) : Prop where
  scanned : b.scanned = b.pending.length
  no_line : lineFeed ∉ b.pending
  length_le : b.pending.length ≤ maxLine

lemma Buffer.settled_nil : Buffer.Settled maxLine {} :=
  ⟨rfl, by simp, by simp⟩

variable {maxLine} in
/-- A buffer that is settled stays sound when a chunk is added to it. -/
lemma Buffer.Settled.sound_append {b : Buffer} (hb : b.Settled maxLine) (chunk : List UInt8) :
    Buffer.Sound ⟨b.pending ++ chunk, b.scanned⟩ := by
  refine ⟨by simp [hb.scanned], ?_⟩
  show lineFeed ∉ (b.pending ++ chunk).take b.scanned
  rw [hb.scanned, List.take_left]
  exact hb.no_line

variable {k maxLine}

lemma takeLine_running {s s' : σ} {line : List UInt8} (hs : k.isCancelled s = false)
    (h : takeLine k maxLine s line = (s', none)) : k.isCancelled s' = false := by
  unfold takeLine at h
  split at h
  · simp at h
  · split at h
    · simp at h
    · -- a blank line
      simp only [Prod.mk.injEq, and_true] at h
      rw [← h]
      exact hs
    · next r _ =>
      by_cases hfinal : r.isFinal = true
      · simp [hfinal] at h
      · by_cases hc : k.isCancelled (k.deliver s r) = true
        · simp [hfinal, hc] at h
        · simp only [hfinal, hc, Bool.false_eq_true, if_false, Prod.mk.injEq, and_true] at h
          rw [← h]
          simpa using hc

/-- A stream that goes on has a settled buffer, and nobody has cancelled it. -/
lemma readLines_reading {s s' : σ} {bs : List UInt8} {b : Buffer} (hs : k.isCancelled s = false)
    (h : readLines k maxLine s (pieces bs) = (s', .reading b)) :
    b.Settled maxLine ∧ k.isCancelled s' = false := by
  induction bs using lineInduction generalizing s with
  | tail bs hfree =>
    rw [readLines_tail k maxLine hfree] at h
    split at h
    · simp at h
    · next hlen =>
      simp only [Prod.mk.injEq, Stream.reading.injEq] at h
      obtain ⟨rfl, rfl⟩ := h
      exact ⟨⟨rfl, hfree, Nat.le_of_not_gt hlen⟩, hs⟩
  | line line rest hfree ih =>
    rw [readLines_line k maxLine hfree] at h
    rcases ht : takeLine k maxLine s line with ⟨s₁, _ | r⟩
    · rw [ht] at h
      exact ih (takeLine_running hs ht) h
    · simp [ht] at h

/-- A last piece that is too long is too long whatever follows. -/
lemma readLines_overlong {bs : List UInt8} (hfree : lineFeed ∉ bs) (hlong : bs.length > maxLine)
    (more : List UInt8) (s : σ) :
    readLines k maxLine s (pieces (bs ++ more)) = (s, .ended (.error (overlong maxLine))) := by
  rcases line_cases more with h | ⟨line, rest, hline, rfl⟩
  · have hall : lineFeed ∉ bs ++ more := by simp [hfree, h]
    rw [readLines_tail k maxLine hall, if_pos (by simp; omega)]
  · have hall : lineFeed ∉ bs ++ line := by simp [hfree, hline]
    rw [← List.append_assoc, readLines_line k maxLine hall, takeLine, if_pos (by simp; omega)]

/-- What more bytes add to a reading. -/
def resume (k : Sink σ) (maxLine : Nat) (more : List UInt8) : σ × Stream → σ × Stream
  | (s, .ended r) => (s, .ended r)
  | (s, .reading b) => readLines k maxLine s (pieces (b.pending ++ more))

lemma readLines_append (s : σ) (bs more : List UInt8) :
    readLines k maxLine s (pieces (bs ++ more)) =
      resume k maxLine more (readLines k maxLine s (pieces bs)) := by
  induction bs using lineInduction generalizing s with
  | tail bs hfree =>
    rw [readLines_tail k maxLine hfree]
    split
    · next hlong => rw [readLines_overlong hfree hlong, resume]
    · rw [resume]
  | line line rest hfree ih =>
    rw [List.append_assoc, List.cons_append, readLines_line k maxLine hfree,
      readLines_line k maxLine hfree]
    rcases takeLine k maxLine s line with ⟨s₁, _ | r⟩
    · exact ih s₁
    · rfl

lemma steps_ended (s : σ) (r : Result) (as : List Arrival) :
    steps k maxLine s (.ended r) as = (s, .ended r) := by
  induction as with
  | nil => rfl
  | cons a as ih => exact ih

lemma steps_append (s : σ) (st : Stream) (as more : List Arrival) :
    steps k maxLine s st (as ++ more) =
      steps k maxLine (steps k maxLine s st as).1 (steps k maxLine s st as).2 more := by
  induction as generalizing s st with
  | nil => rfl
  | cons a as ih => exact ih _ _

lemma step_chunk {s : σ} {b : Buffer} (hs : k.isCancelled s = false) (hb : b.Settled maxLine)
    (chunk : List UInt8) :
    step k maxLine s (.reading b) (.chunk chunk) =
      readLines k maxLine s (pieces (b.pending ++ chunk)) := by
  simp only [step, hs]
  exact drain_eq_readLines k maxLine (hb.sound_append chunk)

/-- **Chunks do not matter**: a stream reads the lines of all its bytes. -/
theorem steps_chunks {s : σ} {b : Buffer} (hs : k.isCancelled s = false) (hb : b.Settled maxLine)
    (chunks : List (List UInt8)) :
    steps k maxLine s (.reading b) (chunks.map .chunk) =
      readLines k maxLine s (pieces (b.pending ++ chunks.flatten)) := by
  induction chunks generalizing s b with
  | nil =>
    have hlen : ¬ b.pending.length > maxLine := Nat.not_lt.2 hb.length_le
    rw [List.flatten_nil, List.append_nil, readLines_tail k maxLine hb.no_line, if_neg hlen,
      ← hb.scanned]
    rfl
  | cons chunk chunks ih =>
    rw [List.map_cons, steps, step_chunk hs hb, List.flatten_cons, ← List.append_assoc,
      readLines_append s (b.pending ++ chunk) chunks.flatten]
    rcases hr : readLines k maxLine s (pieces (b.pending ++ chunk)) with ⟨s₁, b₁ | r⟩
    · obtain ⟨hb₁, hs₁⟩ := readLines_reading hs hr
      exact ih hs₁ hb₁
    · exact steps_ended s₁ r _

end JobWatch.Feed
