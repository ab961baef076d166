import JobWatch.Admin.Client
import JobWatch.Proofs.Feed.Rounds
import JobWatch.Proofs.Session.Progress

/-!
The metrics call, move by move.

The call asks for the feed, waits for its chunks and drains its buffer line by line. It looks
whether the watch is cancelled where it asks, where it waits and after every report, but not in
between. The reports that it has to deliver and the end it comes to are those of its stream; and
left alone it comes to stand where the stream does.
-/

namespace JobWatch.Feed

/-- What a metrics call meets: the answer, and how the bytes of its body come in. -/
structure Transfer where
  answer : Client.Answer
  chunks : List (List UInt8)
  close : Close

/-- Where a metrics call is. -/
inductive Reader where
  | asking
  | waiting (b : Buffer) (chunks : List (List UInt8))
  | draining (b : Buffer) (chunks : List (List UInt8))
  /-- It has delivered a report that is not the final one. -/
  | delivered (b : Buffer) (chunks : List (List UInt8))
  | ended (r : Result)

namespace Reader

/-! ### Moves -/

/-- The answer comes. -/
def begin (t : Transfer) : Move Reader :=
  match Client.opened collect [] t.answer with
  | .ended r => .onward (.ended r)
  | .reading b => .onward (.waiting b t.chunks)

/-- The next chunk comes, or the end of the body. -/
def arrive (close : Close) (b : Buffer) : List (List UInt8) → Move Reader
  | bs :: chunks => .onward (.draining ⟨b.pending ++ bs, b.scanned⟩ chunks)
  | [] =>
    match close with
    | .broken e => .finish (.error e)
    | .clean =>
      match decodeLine b.pending with
      | .error e => .finish (.error e)
      | .ok none => .finish (.error unfinished)
      | .ok (some r) => .deliver r (.ended (if r.isFinal then .ok () else .error unfinished))

/-- A line is taken from the buffer, if there is one. -/
def takeRound (maxLine : Nat) (b : Buffer) (chunks : List (List UInt8)) : Move Reader :=
  match b.round maxLine with
  | .fault e => .finish (.error e)
  | .wait => .onward (.waiting b.searched chunks)
  | .blank b' => .onward (.draining b' chunks)
  | .line r b' => .deliver r (if r.isFinal then .ended (.ok ()) else .delivered b' chunks)

def next (maxLine : Nat) (t : Transfer) : Call Reader
  | .ended r, _ => some (.finish r)
  | .draining b chunks, _ => some (takeRound maxLine b chunks)
  | .asking, cancelled =>
    some (if cancelled then .finish (.error .operationCancelled) else begin t)
  | .waiting b chunks, cancelled =>
    some (if cancelled then .finish (.error .operationCancelled) else arrive t.close b chunks)
  | .delivered b chunks, cancelled =>
    some (if cancelled then .finish (.error .operationCancelled) else .onward (.draining b chunks))

/-- The moves that the call can make. -/
inductive Moves (maxLine : Nat) (t : Transfer) : Reader → Bool → Move Reader → Prop where
  | quit (p : Reader) : Moves maxLine t p true (.finish (.error .operationCancelled))
  | refused {c : Bool} {r : Result} : Client.opened collect [] t.answer = .ended r →
    Moves maxLine t .asking c (.onward (.ended r))
  | opened {c : Bool} : Client.opened collect [] t.answer = .reading {} →
    Moves maxLine t .asking c (.onward (.waiting {} t.chunks))
  | chunk {c : Bool} (b : Buffer) (bs : List UInt8) (chunks : List (List UInt8)) :
    Moves maxLine t (.waiting b (bs :: chunks)) c
      (.onward (.draining ⟨b.pending ++ bs, b.scanned⟩ chunks))
  | broken {c : Bool} {e : AdminError} (b : Buffer) : t.close = .broken e →
    Moves maxLine t (.waiting b []) c (.finish (.error e))
  | tail {c : Bool} {b : Buffer} {e : Result} : t.close = .clean →
    finishTail collect [] b = ([], e) → Moves maxLine t (.waiting b []) c (.finish e)
  | last {c : Bool} {b : Buffer} {r : Report} {e : Result} : t.close = .clean →
    finishTail collect [] b = ([r], e) →
    Moves maxLine t (.waiting b []) c (.deliver r (.ended e))
  | fault {c : Bool} {b : Buffer} {e : AdminError} (chunks : List (List UInt8)) :
    b.round maxLine = .fault e → Moves maxLine t (.draining b chunks) c (.finish (.error e))
  | wait {c : Bool} {b : Buffer} (chunks : List (List UInt8)) : b.round maxLine = .wait →
    Moves maxLine t (.draining b chunks) c (.onward (.waiting b.searched chunks))
  | blank {c : Bool} {b b' : Buffer} (chunks : List (List UInt8)) :
    b.round maxLine = .blank b' →
    Moves maxLine t (.draining b chunks) c (.onward (.draining b' chunks))
  | line {c : Bool} {b b' : Buffer} {r : Report} (chunks : List (List UInt8)) :
    b.round maxLine = .line r b' →
    Moves maxLine t (.draining b chunks) c
      (.deliver r (if r.isFinal then .ended (.ok ()) else .delivered b' chunks))
  | resume {c : Bool} (b : Buffer) (chunks : List (List UInt8)) :
    Moves maxLine t (.delivered b chunks) c (.onward (.draining b chunks))
  | ended {c : Bool} (r : Result) : Moves maxLine t (.ended r) c (.finish r)

variable {maxLine : Nat} {t : Transfer} {b b' : Buffer} {chunks : List (List UInt8)}

lemma moves_arrive (b : Buffer) (chunks : List (List UInt8)) (c : Bool) :
    Moves maxLine t (.waiting b chunks) c (arrive t.close b chunks) := by
  cases chunks with
  | cons bs chunks => exact .chunk b bs chunks
  | nil =>
    rcases hclose : t.close with _ | e
    · rcases hline : decodeLine b.pending with e | _ | r
      · have htail : finishTail collect [] b = ([], .error e) := by rw [finishTail, hline]
        simpa only [arrive, hline] using .tail hclose htail
      · have htail : finishTail collect [] b = ([], .error unfinished) := by rw [finishTail, hline]
        simpa only [arrive, hline] using .tail hclose htail
      · have htail : finishTail collect [] b =
            ([r], if r.isFinal then .ok () else .error unfinished) := by
          rw [finishTail, hline]
          rfl
        simpa only [arrive, hline] using .last hclose htail
    · exact .broken b hclose

lemma moves_takeRound (b : Buffer) (chunks : List (List UInt8)) (c : Bool) :
    Moves maxLine t (.draining b chunks) c (takeRound maxLine b chunks) := by
  rcases hround : b.round maxLine with e | _ | b' | ⟨r, b'⟩
  · simpa only [takeRound, hround] using .fault chunks hround
  · simpa only [takeRound, hround] using .wait chunks hround
  · simpa only [takeRound, hround] using .blank chunks hround
  · simpa only [takeRound, hround] using .line chunks hround

lemma opened_eq (answer : Client.Answer) :
    Client.opened collect [] answer =
      match answer with
      | .error e => .ended (.error e)
      | .ok r =>
        if r.received.isSuccess then .reading {} else .ended (.error (.ofResponse r.received)) := by
  cases answer <;> rfl

/-- It does not matter who asks, if it is nobody who is cancelled. -/
lemma opened_running {σ : Type} {k : Sink σ} {s : σ} (hs : k.isCancelled s = false)
    (answer : Client.Answer) : Client.opened k s answer = Client.opened collect [] answer := by
  unfold Client.opened
  rw [hs]
  rfl

lemma opened_cancelled {σ : Type} {k : Sink σ} {s : σ} (hs : k.isCancelled s = true)
    (answer : Client.Answer) :
    Client.opened k s answer = .ended (.error .operationCancelled) := by
  simp only [Client.opened, hs, if_true]

/-- A stream that was opened holds nothing yet. -/
lemma opened_cases (answer : Client.Answer) :
    Client.opened collect [] answer = .reading {} ∨
      ∃ r, Client.opened collect [] answer = .ended r := by
  rw [opened_eq]
  rcases answer with e | answer
  · exact .inr ⟨_, rfl⟩
  · dsimp only
    split
    · exact .inl rfl
    · exact .inr ⟨_, rfl⟩

lemma moves_begin (c : Bool) : Moves maxLine t .asking c (begin t) := by
  rcases opened_cases t.answer with hopened | ⟨r, hopened⟩
  · simpa only [begin, hopened] using .opened hopened
  · simpa only [begin, hopened] using .refused hopened

/-- **The call makes no other moves.** -/
theorem moves_of_next {p : Reader} {cancelled : Bool} {m : Move Reader}
    (h : next maxLine t p cancelled = some m) : Moves maxLine t p cancelled m := by
  cases p with
  | ended r =>
    cases h
    exact .ended r
  | draining b chunks =>
    cases h
    exact moves_takeRound b chunks cancelled
  | asking =>
    cases cancelled <;> cases h
    · exact moves_begin false
    · exact .quit _
  | waiting b chunks =>
    cases cancelled <;> cases h
    · exact moves_arrive b chunks false
    · exact .quit _
  | delivered b chunks =>
    cases cancelled <;> cases h
    · exact .resume b chunks
    · exact .quit _

/-! ### The final report -/

lemma opened_ne_ok (answer : Client.Answer) :
    Client.opened collect [] answer ≠ .ended (.ok ()) := by
  rw [opened_eq]
  rcases answer with e | answer
  · rintro ⟨⟩
  · dsimp only
    split <;> rintro ⟨⟩

/-- A last line ends the feed well if it is a final report. -/
lemma finishTail_result {rs : List Report} {e : Result} (h : finishTail collect [] b = (rs, e)) :
    e = .ok () ↔ ∃ r, rs.getLast? = some r ∧ r.isFinal = true := by
  rw [finishTail] at h
  rcases hline : decodeLine b.pending with e' | _ | r <;> rw [hline] at h <;> cases h
  · simp
  · simp
  · cases hfinal : r.isFinal <;> simp [collect, hfinal]

/-- Unless it delivers a report, a call does not come to end well. -/
lemma onward_ne_ok {p p' : Reader} {cancelled : Bool}
    (h : next maxLine t p cancelled = some (.onward p')) :
    p ≠ .ended (.ok ()) ∧ p' ≠ .ended (.ok ()) := by
  cases moves_of_next h with
  | refused hopened =>
    refine ⟨nofun, fun hok => opened_ne_ok t.answer ?_⟩
    rw [hopened, Reader.ended.inj hok]
  | _ => exact ⟨nofun, nofun⟩

/-- A call that delivers a report ends well from there if the report is final. -/
lemma deliver_ok {p p' : Reader} {cancelled : Bool} {r : Report}
    (h : next maxLine t p cancelled = some (.deliver r p')) :
    p' = .ended (.ok ()) ↔ r.isFinal = true := by
  cases moves_of_next h with
  | last hclose htail => simpa using finishTail_result htail
  | line chunks hround => cases r.isFinal <;> simp

/-- **A call ends well if it has come to it**, cancelled or not. -/
lemma finish_ok {p : Reader} {cancelled : Bool} {e : Result}
    (h : next maxLine t p cancelled = some (.finish e)) : e = .ok () ↔ p = .ended (.ok ()) := by
  cases p with
  | ended r =>
    cases h
    exact ⟨congrArg _, Reader.ended.inj⟩
  | waiting b chunks =>
    refine iff_of_false ?_ nofun
    rintro rfl
    cases moves_of_next h with
    | tail hclose htail => simpa using finishTail_result htail
  | _ =>
    refine iff_of_false ?_ nofun
    rintro rfl
    cases moves_of_next h

/-! ### What is left of a call -/

/-- The reports that were collected, and the result of the stream. -/
def settle (p : List Report × Stream) : Left := (p.1, p.2.result)

/-- What is left if nobody cancels, as the stream tells it. -/
def rest (maxLine : Nat) (t : Transfer) : Reader → Left
  | .asking =>
    settle (steps collect maxLine [] (Client.opened collect [] t.answer)
      (arrivalsOf t.chunks t.close))
  | .waiting b chunks =>
    settle (steps collect maxLine [] (.reading b) (arrivalsOf chunks t.close))
  | .draining b chunks | .delivered b chunks =>
    settle (steps collect maxLine (drain collect maxLine [] b).1 (drain collect maxLine [] b).2
      (arrivalsOf chunks t.close))
  | .ended r => ([], r)

/-- What a stream collects does not depend on what was collected before. -/
lemma settle_cons (r : Report) (b : Buffer) (as : List Arrival) :
    settle (steps collect maxLine (drain collect maxLine [r] b).1
        (drain collect maxLine [r] b).2 as) =
      (r :: (settle (steps collect maxLine (drain collect maxLine [] b).1
          (drain collect maxLine [] b).2 as)).1,
        (settle (steps collect maxLine (drain collect maxLine [] b).1
          (drain collect maxLine [] b).2 as)).2) := by
  have hdrops : collect.Drops := nofun
  have hdrain : Matches collect [r] (drain collect maxLine [r] b) (drain collect maxLine [] b) :=
    drain_matches hdrops [] b
  have hmatches : Matches collect [r] (steps collect maxLine _ _ as)
      (steps collect maxLine _ _ as) := hdrain.steps hdrops as
  rw [settle, hmatches.stream rfl]
  exact Prod.ext (hmatches.state.trans (foldl_collect [r] _)) rfl

lemma rest_line {r : Report} (h : b.round maxLine = .line r b') :
    rest maxLine t (.draining b chunks) =
      if r.isFinal then ([r], .ok ())
      else (r :: (rest maxLine t (.delivered b' chunks)).1,
        (rest maxLine t (.delivered b' chunks)).2) := by
  have hdrain : drain collect maxLine [] b =
      if r.isFinal then ([r], .ended (.ok ())) else drain collect maxLine [r] b' := by
    rw [drain_eq, h]
    rfl
  simp only [rest, hdrain]
  split
  · rw [steps_ended]
    rfl
  · exact settle_cons r b' _

lemma rest_tail (hclose : t.close = .clean) :
    rest maxLine t (.waiting b []) = finishTail collect [] b := by
  rw [rest, hclose]
  rfl

/-- **The call reads its stream**: it delivers the reports that the stream collects, in order, and
ends as the stream does. -/
theorem reads (maxLine : Nat) (t : Transfer) : Call.Reads (next maxLine t) (rest maxLine t) where
  onward := by
    intro p p' cancelled h
    cases moves_of_next h with
    | refused hopened =>
      rw [rest, rest, hopened, steps_ended]
      rfl
    | opened hopened => rw [rest, rest, hopened]
    | chunk b bs chunks => rfl
    | @wait _ b chunks hround => simp only [rest, drain_eq collect maxLine [] b, hround]
    | @blank _ b b' chunks hround => simp only [rest, drain_eq collect maxLine [] b, hround]
    | resume b chunks => rfl
  deliver := by
    intro p p' cancelled r h
    cases moves_of_next h with
    | last hclose htail =>
      rw [rest_tail hclose, htail]
      rfl
    | line chunks hround =>
      rw [rest_line hround]
      split <;> rfl
  finish := by
    intro p cancelled e h
    cases moves_of_next h with
    | quit p => exact .inr ⟨rfl, rfl⟩
    | broken b hclose =>
      rw [rest, hclose]
      exact .inl rfl
    | tail hclose htail =>
      rw [rest_tail hclose]
      exact .inl htail
    | @fault _ b e chunks hround =>
      left
      simp only [rest, drain_eq collect maxLine [] b, hround, steps_ended]
      rfl
    | ended r => exact .inl rfl

/-! ### Progress -/

/-- The bytes that are still to be drained, and the chunks that are still to come, both twice. -/
def load (b : Buffer) (chunks : List (List UInt8)) : Nat :=
  2 * (b.pending.length + chunks.flatten.length + chunks.length)

/-- A bound on the moves that a call still makes. -/
def size (t : Transfer) : Reader → Nat
  | .asking => load {} t.chunks + 2
  | .waiting b chunks => load b chunks + 1
  | .draining b chunks => load b chunks + 2
  | .delivered b chunks => load b chunks + 3
  | .ended _ => 0

/-- A line that is taken makes up for the look at the watch after it. -/
lemma load_shorter (chunks : List (List UInt8))
    (h : b.round maxLine = .blank b' ∨ ∃ r, b.round maxLine = .line r b') :
    load b' chunks + 2 ≤ load b chunks := by
  have hshorter := Buffer.round_shorter h
  rw [load, load]
  omega

/-- **The call comes to its end.** -/
theorem advances (maxLine : Nat) (t : Transfer) : Call.Advances (next maxLine t) (size t) where
  ready := by
    intro p cancelled
    cases p <;> rfl
  onward := by
    intro p p' cancelled h
    cases moves_of_next h with
    | refused hopened => exact Nat.succ_pos _
    | opened hopened => exact Nat.lt_succ_self _
    | chunk b bs chunks =>
      simp only [size, load, List.length_append, List.flatten_cons, List.length_cons]
      omega
    | wait chunks hround => exact Nat.lt_succ_self _
    | blank chunks hround =>
      have hload := load_shorter chunks (.inl hround)
      simp only [size]
      omega
    | resume b chunks => exact Nat.lt_succ_self _
  deliver := by
    intro p p' cancelled r h
    cases moves_of_next h with
    | last hclose htail => exact Nat.succ_pos _
    | line chunks hround =>
      have hload := load_shorter chunks (.inr ⟨r, hround⟩)
      split
      · exact Nat.succ_pos _
      · simp only [size]
        omega

/-! ### A call that is left alone -/

section Alone

variable {σ : Type} {k : Sink σ}

/-- The call comes by its own moves from a place to where it stands as a stream does, with these
chunks still to come. Only its reports may stop it. -/
inductive Alone (k : Sink σ) (maxLine : Nat) (t : Transfer) (chunks : List (List UInt8)) :
    σ → Reader → σ × Stream → Prop where
  | waits (s : σ) (b : Buffer) : Alone k maxLine t chunks s (.waiting b chunks) (s, .reading b)
  | onward {s : σ} {p p' : Reader} {q : σ × Stream} :
    next maxLine t p (k.isCancelled s) = some (.onward p') → Alone k maxLine t chunks s p' q →
    Alone k maxLine t chunks s p q
  | deliver {s : σ} {p p' : Reader} {r : Report} {q : σ × Stream} :
    next maxLine t p (k.isCancelled s) = some (.deliver r p') →
    Alone k maxLine t chunks (k.deliver s r) p' q → Alone k maxLine t chunks s p q
  | finish {s : σ} {p : Reader} {e : Result} :
    next maxLine t p (k.isCancelled s) = some (.finish e) →
    Alone k maxLine t chunks s p (s, .ended e)

/-- A call that looks whether it is cancelled, and is, gives up. -/
lemma alone_cancelled {p : Reader} {s : σ}
    (hheeds : next maxLine t p true = some (.finish (.error .operationCancelled)))
    (hs : k.isCancelled s = true) :
    Alone k maxLine t chunks s p (s, .ended (.error .operationCancelled)) :=
  .finish (by rw [hs]; exact hheeds)

/-- The rounds of draining are moves. -/
lemma alone_drain (s : σ) (b : Buffer) :
    Alone k maxLine t chunks s (.draining b chunks) (drain k maxLine s b) := by
  induction b using Buffer.roundInduction maxLine generalizing s with
  | fault b e hround =>
    have hmove : next maxLine t (.draining b chunks) (k.isCancelled s) =
        some (.finish (.error e)) := by
      simp only [next, takeRound, hround]
    rw [drain_eq, hround]
    exact .finish hmove
  | wait b hround =>
    have hmove : next maxLine t (.draining b chunks) (k.isCancelled s) =
        some (.onward (.waiting b.searched chunks)) := by
      simp only [next, takeRound, hround]
    rw [drain_eq, hround]
    exact .onward hmove (.waits s _)
  | blank b b' hround ih =>
    have hmove : next maxLine t (.draining b chunks) (k.isCancelled s) =
        some (.onward (.draining b' chunks)) := by
      simp only [next, takeRound, hround]
    rw [drain_eq, hround]
    exact .onward hmove (ih s)
  | line b r b' hround ih =>
    have hmove : next maxLine t (.draining b chunks) (k.isCancelled s) =
        some (.deliver r (if r.isFinal then .ended (.ok ()) else .delivered b' chunks)) := by
      simp only [next, takeRound, hround]
    rw [drain_eq, hround]
    refine .deliver hmove ?_
    dsimp only
    split
    · exact .finish rfl
    · -- the call looks whether the report has stopped it
      split
      · next hs => exact alone_cancelled rfl hs
      · next hs =>
        have hresume : next maxLine t (.delivered b' chunks) (k.isCancelled (k.deliver s r)) =
            some (.onward (.draining b' chunks)) := by
          rw [Bool.not_eq_true] at hs
          rw [hs]
          rfl
        exact .onward hresume (ih _)

lemma alone_chunk (s : σ) (b : Buffer) (bs : List UInt8) :
    Alone k maxLine t chunks s (.waiting b (bs :: chunks))
      (step k maxLine s (.reading b) (.chunk bs)) := by
  rcases hs : k.isCancelled s with _ | _
  · have hmove : next maxLine t (.waiting b (bs :: chunks)) (k.isCancelled s) =
        some (.onward (.draining ⟨b.pending ++ bs, b.scanned⟩ chunks)) := by
      rw [hs]
      rfl
    rw [step_running hs]
    exact .onward hmove (alone_drain s _)
  · simp only [step, hs, if_true]
    exact alone_cancelled rfl hs

lemma alone_close (s : σ) (b : Buffer) :
    Alone k maxLine t chunks s (.waiting b []) (step k maxLine s (.reading b) t.close.arrival) := by
  rcases hs : k.isCancelled s with _ | _
  · have hmove : next maxLine t (.waiting b []) (k.isCancelled s) =
        some (arrive t.close b []) := by
      rw [hs]
      rfl
    rw [step_running hs]
    rcases hclose : t.close with _ | e <;> rw [hclose] at hmove
    · rcases hline : decodeLine b.pending with e | _ | r <;>
        simp only [arrive, hline] at hmove <;>
        simp only [Close.arrival, finishTail, hline]
      · exact .finish hmove
      · exact .finish hmove
      · exact .deliver hmove (.finish rfl)
    · exact .finish hmove
  · simp only [step, hs, if_true]
    exact alone_cancelled rfl hs

lemma alone_opened (s : σ) :
    Alone k maxLine t t.chunks s .asking (s, Client.opened k s t.answer) := by
  rcases hs : k.isCancelled s with _ | _
  · have hmove : next maxLine t .asking (k.isCancelled s) = some (begin t) := by
      rw [hs]
      rfl
    rw [opened_running hs]
    rcases hanswer : Client.opened collect [] t.answer with b | r <;>
      simp only [begin, hanswer] at hmove
    · exact .onward hmove (.waits s b)
    · exact .onward hmove (.finish rfl)
  · rw [opened_cancelled hs]
    exact alone_cancelled rfl hs

end Alone

end Reader

end JobWatch.Feed

namespace JobWatch.Client

variable {σ : Type} {k : Feed.Sink σ} {s : σ} {answer : Answer}

/-- **A metrics call that makes no request delivers nothing**: it was cancelled before, or there is
no answer. -/
theorem metrics_unasked (h : asks k s answer = false) (maxLine : Nat) :
    ∃ e, metrics k maxLine s answer = (s, .ended (.error e)) ∧
      if k.isCancelled s then e = .operationCancelled else answer = .error e := by
  cases hs : k.isCancelled s with
  | true =>
    rw [metrics, Feed.Reader.opened_cancelled hs, Feed.steps_ended]
    exact ⟨_, rfl, rfl⟩
  | false =>
    rw [asks, hs] at h
    rcases answer with e | r
    · rw [metrics, Feed.Reader.opened_running hs, Feed.Reader.opened_eq, Feed.steps_ended]
      exact ⟨e, rfl, rfl⟩
    · cases h

end JobWatch.Client
