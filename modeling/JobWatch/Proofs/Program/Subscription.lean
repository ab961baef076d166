import JobWatch.Proofs.Program.Runs

/-!
A watch and its call for the feed, with others around.

The call goes on move by move. Between its moves others may stop the watch, and what becomes of the
reports may change: the output breaks, or the display takes them or goes away. The call heeds a
cancel at some of its places only, and it may fail though the watch was stopped before. What is
returned depends on whether the watch has been stopped by then.
-/

namespace JobWatch

open Feed (Transfer Reader)
open Program (Honest)

/-- Why a report stops a watch that takes it: the display is gone, or by what the report shows. -/
def Watch.stop? (w : Watch) (r : Report) : Option StopReason :=
  match w.route with
  | .display _ false => some .shutdown
  | .display _ true | .records _ => r.stop? w.monitor.jobId

/-- A watch and its call for the feed. -/
structure Subscription where
  watch : Watch
  place : Reader := .asking
  /-- The reports that the call has delivered. -/
  given : List Report := []
  /-- The reasons of all cancels, in their order. -/
  calls : List StopReason := []
  /-- What was returned at the end. -/
  verdict : Option (Except MonitorError Unit) := none

namespace Subscription

/-- What can happen until the end. -/
inductive Occasion where
  /-- The call makes its next move. -/
  | move
  /-- Somebody else stops the watch. -/
  | cancel (reason : StopReason)
  /-- Something happens to where the reports go. -/
  | reroute (route : Route)

def Occasion.isMove : Occasion → Bool
  | .move => true
  | _ => false

section Definitions

variable (maxLine : Nat) (t : Transfer)

/-- What the call does next. -/
def next? (s : Subscription) : Option (Move Reader) :=
  Reader.next maxLine t s.place s.watch.isCancelled

/-- A report comes to the watch. -/
def take (s : Subscription) (r : Report) (p : Reader) : Subscription :=
  { s with
    watch := s.watch.deliver r
    place := p
    given := s.given ++ [r]
    calls := s.calls ++ if s.watch.isCancelled then [] else (s.watch.stop? r).toList }

/-- The call has ended. -/
def conclude (s : Subscription) (e : Feed.Result) : Subscription :=
  { s with
    watch := (s.watch.finish e).1
    calls := s.calls ++ if e.isOk then [.feedClosed] else []
    verdict := some (s.watch.finish e).2 }

/-- The next move of the call. -/
def advance (s : Subscription) : Subscription :=
  match s.next? maxLine t with
  | none => s
  | some (.onward p) => { s with place := p }
  | some (.deliver r p) => s.take r p
  | some (.finish e) => s.conclude e

/-- Something happens, unless the end has come. -/
def apply (s : Subscription) (o : Occasion) : Subscription :=
  if s.verdict.isSome then s
  else
    match o with
    | .move => s.advance maxLine t
    | .cancel reason => { s with watch := s.watch.cancel reason, calls := s.calls ++ [reason] }
    | .reroute route => { s with watch := { s.watch with route } }

def run (s : Subscription) (os : List Occasion) : Subscription := os.foldl (apply maxLine t) s

/-- A watch of a job, after what has happened to it from its beginning. -/
def after (target jobId : String) (route : Route) (os : List Occasion) : Subscription :=
  run maxLine t { watch := ⟨{ target, jobId }, route⟩ } os

end Definitions

variable {maxLine : Nat} {t : Transfer} {s : Subscription} {target jobId : String} {route : Route}

lemma run_snoc (os : List Occasion) (o : Occasion) :
    s.run maxLine t (os ++ [o]) = (s.run maxLine t os).apply maxLine t o := by
  rw [run, List.foldl_append]
  rfl

lemma after_snoc (os : List Occasion) (o : Occasion) :
    after maxLine t target jobId route (os ++ [o]) =
      (after maxLine t target jobId route os).apply maxLine t o :=
  run_snoc os o

lemma apply_running (hs : s.verdict = none) (o : Occasion) :
    s.apply maxLine t o =
      match o with
      | .move => s.advance maxLine t
      | .cancel reason => { s with watch := s.watch.cancel reason, calls := s.calls ++ [reason] }
      | .reroute route => { s with watch := { s.watch with route } } :=
  if_neg (by rw [hs]; exact Bool.false_ne_true)

/-- Nothing happens after the end. -/
lemma apply_returned (hs : s.verdict.isSome) (o : Occasion) : s.apply maxLine t o = s := if_pos hs

/-! ### Cancels -/

/-- A watch that was called to stop for these reasons, in this order. -/
def Called (w : Watch) (calls : List StopReason) : Prop :=
  w.monitor.cancellation = ⟨calls.head?.isSome, calls.head?⟩

section Called

variable {w : Watch} {calls : List StopReason}

lemma Called.isCancelled (h : Called w calls) : w.isCancelled = calls.head?.isSome := by
  rw [Watch.isCancelled, Monitor.isCancelled, h]

lemma Called.reason (h : Called w calls) : w.monitor.reason = calls.head? := by
  rw [Monitor.reason, h]

lemma Called.running (h : Called w calls) (hw : w.isCancelled = false) : calls = [] := by
  rw [h.isCancelled] at hw
  cases calls with
  | nil => rfl
  | cons r calls => cases hw

/-- Only the first of the reasons is kept. -/
lemma Called.cancel (h : Called w calls) (reason : StopReason) :
    Called (w.cancel reason) (calls ++ [reason]) := by
  obtain ⟨journal, hcancel⟩ := Monitor.cancel_keeps h reason
  rw [Called, Watch.cancel, hcancel, List.head?_append]
  rfl

lemma Called.note (h : Called w calls) (level : Journal.Level) (source : Journal.Source)
    (message : String) : Called (w.note level source message) calls := h

lemma Called.conclude (h : Called w calls) (k : Tick) :
    Called (w.conclude k) (calls ++ k.stop?.toList) := by
  rw [Watch.conclude]
  rcases k.stop? with _ | reason
  · rw [Option.toList_none, List.append_nil]
    exact h
  · exact h.cancel reason

/-- A display that is gone stops the watch. -/
lemma Called.send (h : Called w calls) (r : Report) (k : Tick) :
    Called (w.send r k) (calls ++ match w.route with
      | .display _ false => [.shutdown]
      | .display _ true | .records _ => []) := by
  rw [Watch.send]
  rcases w.route with out | ⟨queue, _ | _⟩ <;> dsimp only
  · rw [List.append_nil]
    split
    · exact h
    · split
      · rw [Watch.emit]
        split <;> exact h
      · exact h
  · exact (h.note ..).cancel .shutdown
  · rw [List.append_nil]
    exact h

/-- What a report does to the cancellation of a watch. -/
lemma Called.deliver (h : Called w calls) (r : Report) :
    Called (w.deliver r) (calls ++ if w.isCancelled then [] else (w.stop? r).toList) := by
  cases hw : w.isCancelled
  · obtain rfl := h.running hw
    have hkept : Called (w.keep (r.lookup w.monitor.jobId)) [] := by
      rw [Called, Watch.keep_cancellation]
      exact h
    have hsent := (hkept.send r (.ofSighting (r.lookup w.monitor.jobId))).conclude
      (.ofSighting (r.lookup w.monitor.jobId))
    rw [Watch.keep_route, Watch.tick_stop?] at hsent
    rw [Watch.deliver, hw, if_neg Bool.false_ne_true, if_neg Bool.false_ne_true, Watch.stop?]
    rw [Called] at hsent ⊢
    dsimp only
    rw [hsent, Report.stop?]
    rcases w.route with out | ⟨queue, _ | _⟩ <;> rfl
  · rw [Watch.deliver_stopped hw, if_pos rfl, List.append_nil]
    exact h

lemma Called.finish (h : Called w calls) (e : Feed.Result) :
    Called (w.finish e).1 (calls ++ if e.isOk then [.feedClosed] else []) := by
  rcases e with e | u
  · obtain ⟨journal, hfinish⟩ := Watch.finish_error_eq w e
    rw [hfinish]
    show Called _ (calls ++ [])
    rw [List.append_nil]
    exact h
  · exact (h.note ..).cancel .feedClosed

end Called

/-! ### What every moment keeps -/

/-- What is so at every moment: why the watch was stopped, and what is left of the feed. -/
structure Sound (maxLine : Nat) (t : Transfer) (target : String) (s : Subscription) : Prop where
  target : s.watch.monitor.target = target
  called : Called s.watch s.calls
  rest : Reader.rest maxLine t .asking =
    (s.given ++ (Reader.rest maxLine t s.place).1, (Reader.rest maxLine t s.place).2)
  final : s.place = .ended (.ok ()) ↔ ∃ r, s.given.getLast? = some r ∧ r.isFinal = true

lemma sound_start (target jobId : String) (route : Route) :
    Sound maxLine t target { watch := ⟨{ target, jobId }, route⟩ } :=
  ⟨rfl, rfl, rfl, by simp⟩

lemma Sound.conclude (h : s.Sound maxLine t target) (e : Feed.Result) :
    (s.conclude e).Sound maxLine t target :=
  ⟨(s.watch.finish_target e).trans h.target, h.called.finish e, h.rest, h.final⟩

/-- A move of the call keeps this. -/
lemma Sound.advance (h : s.Sound maxLine t target) :
    (s.advance maxLine t).Sound maxLine t target := by
  rw [Subscription.advance]
  rcases hnext : s.next? maxLine t with _ | p | ⟨r, p⟩ | e
  · exact h
  · obtain ⟨hplace, hp⟩ := Reader.onward_ne_ok hnext
    refine ⟨h.target, h.called, ?_, iff_of_false hp fun hlast => hplace (h.final.2 hlast)⟩
    rw [(Reader.reads maxLine t).onward hnext]
    exact h.rest
  · refine ⟨(Watch.deliver_target s.watch r).trans h.target, h.called.deliver r, ?_, ?_⟩
    · rw [h.rest, (Reader.reads maxLine t).deliver hnext]
      exact Prod.ext (List.append_cons ..) rfl
    · show p = _ ↔ ∃ r', (s.given ++ [r]).getLast? = some r' ∧ _
      rw [Reader.deliver_ok hnext, List.getLast?_concat]
      simp
  · exact h.conclude e

/-- **What every moment keeps.** -/
lemma Sound.apply (h : s.Sound maxLine t target) (o : Occasion) :
    (s.apply maxLine t o).Sound maxLine t target := by
  rcases hs : s.verdict with _ | v
  · rw [apply_running hs]
    cases o with
    | move => exact h.advance
    | cancel reason =>
      exact ⟨(s.watch.cancel_target reason).trans h.target, h.called.cancel reason, h.rest, h.final⟩
    | reroute route => exact ⟨h.target, h.called, h.rest, h.final⟩
  · rw [apply_returned (by rw [hs]; rfl)]
    exact h

lemma sound_after (target jobId : String) (route : Route) (os : List Occasion) :
    (after maxLine t target jobId route os).Sound maxLine t target := by
  induction os using List.reverseRecOn with
  | nil => exact sound_start target jobId route
  | append_singleton os o ih =>
    rw [after_snoc]
    exact ih.apply o

/-! ### The end -/

lemma verdict_snoc {os : List Occasion} {o : Occasion}
    (h : (after maxLine t target jobId route (os ++ [o])).verdict = none) :
    (after maxLine t target jobId route os).verdict = none := by
  rw [after_snoc] at h
  rcases hs : (after maxLine t target jobId route os).verdict with _ | v
  · rfl
  · rw [apply_returned (by rw [hs]; rfl), hs] at h
    cases h

/-- A call that goes on has one move less to make. -/
lemma size_advance (h : (s.advance maxLine t).verdict = none) :
    Reader.size t (s.advance maxLine t).place < Reader.size t s.place := by
  have hready := (Reader.advances maxLine t).ready s.place s.watch.isCancelled
  rw [Subscription.advance] at h ⊢
  rcases hnext : s.next? maxLine t with _ | p | ⟨r, p⟩ | e
  · rw [next?] at hnext
    rw [hnext] at hready
    cases hready
  · exact (Reader.advances maxLine t).onward hnext
  · exact (Reader.advances maxLine t).deliver hnext
  · rw [hnext] at h
    cases h

/-- **The call returns**, whatever happens around it. -/
lemma moves_le (os : List Occasion)
    (h : (after maxLine t target jobId route os).verdict = none) :
    os.countP Occasion.isMove +
      Reader.size t (after maxLine t target jobId route os).place ≤ Reader.size t .asking := by
  induction os using List.reverseRecOn with
  | nil => exact (Nat.zero_add _).le
  | append_singleton os o ih =>
    have hs := verdict_snoc h
    have hbefore := ih hs
    rw [after_snoc, apply_running hs] at h ⊢
    rw [List.countP_append, List.countP_singleton]
    cases o with
    | move =>
      have hsize := size_advance h
      simp only [Occasion.isMove, if_true]
      omega
    | cancel reason => exact hbefore
    | reroute route => exact hbefore

/-- There is a moment at which the call returns. -/
lemma exists_return {os : List Occasion} {v : Except MonitorError Unit}
    (h : (after maxLine t target jobId route os).verdict = some v) :
    ∃ before more e, os = before ++ .move :: more ∧
      (after maxLine t target jobId route before).verdict = none ∧
      (after maxLine t target jobId route before).next? maxLine t = some (.finish e) ∧
      after maxLine t target jobId route os =
        (after maxLine t target jobId route before).conclude e := by
  induction os using List.reverseRecOn with
  | nil => cases h
  | append_singleton os o ih =>
    rw [after_snoc] at h ⊢
    rcases hs : (after maxLine t target jobId route os).verdict with _ | v'
    · rw [apply_running hs] at h ⊢
      cases o with
      | move =>
        dsimp only at h ⊢
        rw [Subscription.advance] at h ⊢
        rcases hnext : (after maxLine t target jobId route os).next? maxLine t with
          _ | p | ⟨r, p⟩ | e <;> rw [hnext] at h
        · cases hs.symm.trans h
        · cases hs.symm.trans h
        · cases hs.symm.trans h
        · exact ⟨os, [], e, rfl, hs, hnext, rfl⟩
      | cancel reason => cases hs.symm.trans h
      | reroute route => cases hs.symm.trans h
    · rw [apply_returned (by rw [hs]; rfl)] at h ⊢
      obtain ⟨before, more, e, rfl, hrest⟩ := ih h
      exact ⟨before, more ++ [o], e, by simp, hrest⟩

/-- No report stops a watch as the end of the feed does. -/
lemma stop?_ne_feedClosed (w : Watch) (r : Report) : w.stop? r ≠ some .feedClosed := by
  have hreport : r.stop? w.monitor.jobId ≠ some .feedClosed := by
    rw [Report.stop?]
    rcases r.lookup w.monitor.jobId with _ | _ | x
    · simp [Sighting.stop?]
    · simp [Sighting.stop?]
    · rw [Sighting.stop?]
      cases x.failed <;> cases x.complete <;> simp
  rw [Watch.stop?]
  split
  · simp
  · exact hreport
  · exact hreport

/-- Until the end nobody but others can have told the watch that its feed is closed. -/
lemma feedClosed_of_mem {os : List Occasion}
    (hs : (after maxLine t target jobId route os).verdict = none)
    (h : .feedClosed ∈ (after maxLine t target jobId route os).calls) :
    .cancel .feedClosed ∈ os := by
  induction os using List.reverseRecOn with
  | nil => cases h
  | append_singleton os o ih =>
    have hbefore := verdict_snoc hs
    have hih := fun h => List.mem_append_left [o] (ih hbefore h)
    rw [after_snoc, apply_running hbefore] at hs h
    cases o with
    | move =>
      dsimp only at hs h
      rw [Subscription.advance] at hs h
      rcases hnext : (after maxLine t target jobId route os).next? maxLine t with
        _ | p | ⟨r, p⟩ | e <;> rw [hnext] at hs h
      · exact hih h
      · exact hih h
      · rcases List.mem_append.1 h with h | h
        · exact hih h
        · split at h
          · cases h
          · exact absurd (Option.mem_toList.1 h) (stop?_ne_feedClosed _ r)
      · cases hs
    | cancel reason =>
      rcases List.mem_append.1 h with h | h
      · exact hih h
      · rw [List.mem_singleton.1 h]
        exact List.mem_append_right _ List.mem_cons_self
    | reroute route => exact hih h

/-- A final report ends a call well, and nothing else does. -/
lemma Sound.finish_ok (h : s.Sound maxLine t target) {e : Feed.Result}
    (hnext : s.next? maxLine t = some (.finish e)) :
    e = .ok () ↔ ∃ r, s.given.getLast? = some r ∧ r.isFinal = true := by
  rw [Reader.finish_ok hnext, h.final]

/-- A call that ends before anything has stopped the watch has told all of its feed. -/
lemma Sound.rest_eq (h : s.Sound maxLine t target) (hs : s.watch.isCancelled = false)
    {e : Feed.Result} (hnext : s.next? maxLine t = some (.finish e)) :
    Reader.rest maxLine t .asking = (s.given, e) := by
  rcases (Reader.reads maxLine t).finish hnext with hrest | ⟨hstopped, -⟩
  · rw [h.rest, hrest, List.append_nil]
  · cases hs.symm.trans hstopped

/-- **What is returned** is a failure if the call has failed and nothing has stopped the watch. -/
lemma Sound.finish_verdict (ht : Honest t) (h : s.Sound maxLine t target) {e : Feed.Result}
    (hnext : s.next? maxLine t = some (.finish e)) (m : MonitorError) :
    (s.watch.finish e).2 = .error m ↔
      s.watch.isCancelled = false ∧ ∃ a, e = .error a ∧ m = ⟨.subscribe, target, a⟩ := by
  rcases e with a | u
  · cases hs : s.watch.isCancelled
    · have ha : a.isCancelled = false := ht.running (congrArg Prod.snd (h.rest_eq hs hnext))
      rw [Interplay.finish_running ha hs, h.target]
      constructor
      · rintro ⟨⟩
        exact ⟨rfl, a, rfl, rfl⟩
      · rintro ⟨-, _, ⟨⟩, rfl⟩
        rfl
    · rw [Interplay.finish_stopped hs]
      exact iff_of_false nofun nofun
  · exact iff_of_false nofun (by rintro ⟨-, _, ⟨⟩, -⟩)

/-- The watch has been stopped at the end unless a failure is returned. -/
lemma Sound.isCancelled_conclude (ht : Honest t) (h : s.Sound maxLine t target) {e : Feed.Result}
    (hnext : s.next? maxLine t = some (.finish e)) :
    (s.watch.finish e).2 = .ok () ↔ (s.conclude e).watch.isCancelled = true := by
  have hverdict := h.finish_verdict ht hnext
  rw [(h.conclude e).called.isCancelled, Subscription.conclude]
  rcases e with a | u
  · dsimp only
    rw [Except.isOk, Except.toBool, if_neg Bool.false_ne_true, List.append_nil,
      ← h.called.isCancelled]
    rcases hv : (s.watch.finish (.error a)).2 with m | u
    · exact iff_of_false nofun (by simpa using ((hverdict m).1 hv).1)
    · refine iff_of_true rfl ?_
      by_contra hs
      cases hv.symm.trans ((hverdict _).2 ⟨by simpa using hs, a, rfl, rfl⟩)
  · refine iff_of_true rfl ?_
    cases s.calls <;> rfl

/-- The reason is that the feed is closed if that has stopped the watch. -/
lemma Sound.reason_closed (h : s.Sound maxLine t target) (hcalls : .feedClosed ∉ s.calls)
    (e : Feed.Result) :
    (s.conclude e).watch.monitor.reason = some .feedClosed ↔
      s.watch.isCancelled = false ∧ e = .ok () := by
  rw [(h.conclude e).called.reason, Subscription.conclude, h.called.isCancelled]
  dsimp only
  cases hs : s.calls with
  | nil => rcases e with a | u <;> simp [Except.isOk, Except.toBool]
  | cons reason calls =>
    rw [hs] at hcalls
    refine iff_of_false ?_ nofun
    rintro ⟨⟩
    exact hcalls List.mem_cons_self

/-- **Failures are neither hidden nor invented.** A watch calls for its feed, and whatever the
service answers, others may stop the watch at any moment, and what becomes of the reports may change
at any moment. The call makes only so many moves, and then something is returned; there is the
move with which it ends.

All is well exactly if the watch has been stopped by the end, and then the reason is that of the
first who stopped it. The reason is that the feed is closed, unless others have given it, exactly if
the last report was final and nothing had stopped the watch before the call ended. A failure is
returned exactly if the call has failed and nothing had stopped the watch; it names the target and
is that of the feed. -/
theorem returned_as_stopped {t : Transfer} (ht : Honest t) (maxLine : Nat) (target jobId : String)
    (route : Route) (os : List Occasion) :
    (Reader.size t .asking < os.countP Occasion.isMove →
      (after maxLine t target jobId route os).verdict.isSome) ∧
    ∀ s v, after maxLine t target jobId route os = s → s.verdict = some v →
      (v = .ok () ↔ s.watch.isCancelled = true) ∧
      s.watch.isCancelled = s.calls.head?.isSome ∧
      s.watch.monitor.reason = s.calls.head? ∧
      ∃ before more p e, os = before ++ .move :: more ∧
        after maxLine t target jobId route before = p ∧ p.verdict = none ∧
        p.next? maxLine t = some (.finish e) ∧
        (.cancel .feedClosed ∉ os →
          (s.watch.monitor.reason = some .feedClosed ↔
            p.watch.isCancelled = false ∧
              ∃ r, p.given.getLast? = some r ∧ r.isFinal = true)) ∧
        (∀ m, v = .error m ↔
          p.watch.isCancelled = false ∧ ∃ a, e = .error a ∧ m = ⟨.subscribe, target, a⟩) ∧
        (p.watch.isCancelled = false → Reader.rest maxLine t .asking = (p.given, e)) := by
  refine ⟨fun hmoves => ?_, ?_⟩
  · rw [Option.isSome_iff_ne_none]
    intro hnone
    have hle := moves_le os hnone
    omega
  · rintro s v rfl hv
    obtain ⟨before, more, e, rfl, hgoing, hnext, hend⟩ := exists_return hv
    have hsound : (after maxLine t target jobId route before).Sound maxLine t target :=
      sound_after target jobId route before
    rw [hend] at hv ⊢
    obtain rfl := Option.some.inj hv
    have hconcluded := (hsound.conclude e).called
    refine ⟨hsound.isCancelled_conclude ht hnext, hconcluded.isCancelled, hconcluded.reason,
      before, more, _, e, rfl, rfl, hgoing, hnext, fun hcancel => ?_,
      hsound.finish_verdict ht hnext, fun hs => hsound.rest_eq hs hnext⟩
    have hcalls : .feedClosed ∉ (after maxLine t target jobId route before).calls := fun hmem =>
      hcancel (List.mem_append_left _ (feedClosed_of_mem hgoing hmem))
    rw [hsound.reason_closed hcalls, hsound.finish_ok hnext]

/-- A feed whose only report shows no jobs, with no line feed behind it. -/
def unterminated : Transfer := ⟨.ok ⟨200, [0x7B, 0x7D], .complete⟩, [[0x7B, 0x7D]], .clean⟩

/-- The call fails for want of a final report, but the watch has been stopped. -/
theorem returned_as_stopped_unterminated :
    Honest unterminated ∧
    ∃ s, after 80 unterminated "s" "j" (.records {}) (List.replicate 9 .move) = s ∧
      s.verdict = some (.ok ()) ∧
      s.watch.monitor.reason = some .feedAbsent ∧
      ∃ p a, after 80 unterminated "s" "j" (.records {}) (List.replicate 5 .move) = p ∧
        p.next? 80 unterminated = some (.finish (.error a)) ∧ a.kind = .unexpectedEof := by
  have hhonest : Honest unterminated := ⟨nofun, nofun⟩
  have hsize : Reader.size unterminated .asking < (List.replicate 9 Occasion.move).countP
    Occasion.isMove := by decide
  have hcalls : (after 80 unterminated "s" "j" (.records {}) (List.replicate 9 .move)).calls =
    [.feedAbsent] := by decide +kernel
  obtain ⟨hreturns, hend⟩ := returned_as_stopped hhonest 80 "s" "j" (.records {})
    (List.replicate 9 .move)
  obtain ⟨v, hv⟩ := Option.isSome_iff_exists.1 (hreturns hsize)
  obtain ⟨hok, hcancelled, hreason, -⟩ := hend _ v rfl hv
  rw [hcalls] at hcancelled hreason
  rw [hok.2 hcancelled] at hv
  exact ⟨hhonest, _, rfl, hv, hreason, _, Feed.unfinished, rfl, rfl, rfl⟩

/-! ### The program -/

section Program

open Program (Event sink recordsStep finishRecords followRecords)

/-- What a stream sees of an event. -/
def arrival? : Event → Option Feed.Arrival
  | .arrival a => some a
  | .signal _ => none

/-- From one moment to another the call makes its moves, and the user may interrupt. -/
def Leads (maxLine : Nat) (t : Transfer) (s u : Subscription) : Prop :=
  ∃ os, (∀ o ∈ os, o = .move ∨ o = .cancel .interrupted) ∧ s.run maxLine t os = u

/-- A subscription has come to where a watch and its stream stand, with these chunks to come. -/
def StandsAs (chunks : List (List UInt8)) (s : Subscription) (q : Watch × Feed.Stream) : Prop :=
  match q.2 with
  | .reading b => s.watch = q.1 ∧ s.place = .waiting b chunks ∧ s.verdict = none
  | .ended r => s.watch = (q.1.finish r).1 ∧ s.verdict = some (q.1.finish r).2

variable {u v : Subscription} {chunks : List (List UInt8)} {q : Watch × Feed.Stream}

lemma Leads.refl (s : Subscription) : s.Leads maxLine t s := ⟨[], nofun, rfl⟩

lemma Leads.trans (h : s.Leads maxLine t u) (h' : u.Leads maxLine t v) : s.Leads maxLine t v := by
  obtain ⟨os, hos, rfl⟩ := h
  obtain ⟨os', hos', rfl⟩ := h'
  refine ⟨os ++ os', ?_, ?_⟩
  · intro o ho
    exact (List.mem_append.1 ho).elim (hos o) (hos' o)
  · rw [run, List.foldl_append]
    rfl

lemma leads_apply {o : Occasion} (ho : o = .move ∨ o = .cancel .interrupted) :
    s.Leads maxLine t (s.apply maxLine t o) :=
  ⟨[o], fun o' ho' => by rw [List.mem_singleton.1 ho']; exact ho, rfl⟩

/-- A move that the call has to make. -/
lemma leads_move (hs : s.verdict = none) (h : s.advance maxLine t = u) : s.Leads maxLine t u := by
  have hmove : s.Leads maxLine t (s.apply maxLine t .move) := leads_apply (.inl rfl)
  rw [apply_running hs, h] at hmove
  exact hmove

/-- A call that is left alone makes its moves. -/
lemma leads_alone {w : Watch} {p : Reader} (h : Reader.Alone sink maxLine t chunks w p q)
    (hs : s.verdict = none) (hplace : s.place = p) (hwatch : s.watch = w) :
    ∃ u, s.Leads maxLine t u ∧ u.StandsAs chunks q := by
  induction h generalizing s with
  | waits w b => exact ⟨s, .refl s, hwatch, hplace, hs⟩
  | @onward _ _ p' _ hmove _ ih =>
    subst hwatch hplace
    have hnext : s.next? maxLine t = some (.onward p') := hmove
    have hfirst : s.Leads maxLine t { s with place := p' } :=
      leads_move hs (by rw [advance, hnext])
    obtain ⟨u, hrest, hu⟩ := ih (s := { s with place := p' }) hs rfl rfl
    exact ⟨u, hfirst.trans hrest, hu⟩
  | @deliver _ _ p' r _ hmove _ ih =>
    subst hwatch hplace
    have hnext : s.next? maxLine t = some (.deliver r p') := hmove
    have hfirst : s.Leads maxLine t (s.take r p') := leads_move hs (by rw [advance, hnext])
    obtain ⟨u, hrest, hu⟩ := ih (s := s.take r p') hs rfl rfl
    exact ⟨u, hfirst.trans hrest, hu⟩
  | @finish _ _ e hmove =>
    subst hwatch hplace
    have hnext : s.next? maxLine t = some (.finish e) := hmove
    exact ⟨s.conclude e, leads_move hs (by rw [advance, hnext]), rfl, rfl⟩

/-- A user who interrupts ends the call that waits. -/
lemma leads_interrupt {w : Watch} {b : Feed.Buffer} (h : s.StandsAs chunks (w, .reading b)) :
    ∃ u, s.Leads maxLine t u ∧
      u.StandsAs chunks (Feed.interrupt sink maxLine (·.cancel .interrupted) w (.reading b)) := by
  obtain ⟨rfl, hplace, hs⟩ := h
  have hcancelled : sink.isCancelled (s.watch.cancel .interrupted) = true :=
    s.watch.cancel_isCancelled .interrupted
  have hfirst : s.Leads maxLine t (s.apply maxLine t (.cancel .interrupted)) :=
    leads_apply (.inr rfl)
  rw [apply_running hs] at hfirst
  have hended : Feed.interrupt sink maxLine (·.cancel .interrupted) s.watch (.reading b) =
      (s.watch.cancel .interrupted, .ended (.error .operationCancelled)) := by
    simp only [Feed.interrupt, Feed.step, hcancelled, if_true]
  have halone : Reader.Alone sink maxLine t chunks (s.watch.cancel .interrupted)
      (.waiting b chunks) (_, .ended (.error .operationCancelled)) :=
    Reader.alone_cancelled rfl hcancelled
  rw [hended]
  obtain ⟨u, hrest, hu⟩ := leads_alone
    (s := { s with watch := s.watch.cancel .interrupted, calls := s.calls ++ [.interrupted] })
    halone hs hplace rfl
  exact ⟨u, hfirst.trans hrest, hu⟩

/-- What the program makes of an event is what the call makes of it. -/
lemma leads_event {e : Event} {es : List Event} (h : s.StandsAs chunks q)
    (hes : ∀ b, q.2 = .reading b → (e :: es).filterMap arrival? = Feed.arrivalsOf chunks t.close) :
    ∃ u left, s.Leads maxLine t u ∧ u.StandsAs left (recordsStep maxLine q e) ∧
      ∀ b, (recordsStep maxLine q e).2 = .reading b →
        es.filterMap arrival? = Feed.arrivalsOf left t.close := by
  obtain ⟨w, b | r⟩ := q
  · have harrivals := hes b rfl
    obtain ⟨hwatch, hplace, hs⟩ := id h
    cases e with
    | arrival a =>
      rw [List.filterMap_cons_some (by rfl)] at harrivals
      cases chunks with
      | nil =>
        obtain ⟨rfl, -⟩ := List.cons.inj harrivals
        obtain ⟨u, hleads, hu⟩ := leads_alone (Reader.alone_close w b) hs hplace hwatch
        refine ⟨u, [], hleads, hu, fun b' hb' => ?_⟩
        have hclosed : (Feed.step sink maxLine w (.reading b) t.close.arrival).2 = _ :=
          Feed.step_close w _ t.close
        cases hclosed.symm.trans hb'
      | cons bs chunks =>
        obtain ⟨rfl, hrest⟩ := List.cons.inj harrivals
        obtain ⟨u, hleads, hu⟩ := leads_alone (Reader.alone_chunk w b bs) hs hplace hwatch
        exact ⟨u, chunks, hleads, hu, fun _ _ => hrest⟩
    | signal g =>
      rw [List.filterMap_cons_none (by rfl)] at harrivals
      cases g with
      | interrupt =>
        obtain ⟨u, hleads, hu⟩ := leads_interrupt h
        exact ⟨u, chunks, hleads, hu, fun _ _ => harrivals⟩
      | _ => exact ⟨s, chunks, .refl s, h, fun _ _ => harrivals⟩
  · have hnothing : recordsStep maxLine (w, .ended r) e = (w, .ended r) := by
      rcases e with a | g
      · rfl
      · cases g <;> rfl
    rw [hnothing]
    exact ⟨s, chunks, .refl s, h, nofun⟩

lemma leads_events {es : List Event} (h : s.StandsAs chunks q)
    (hes : ∀ b, q.2 = .reading b → es.filterMap arrival? = Feed.arrivalsOf chunks t.close) :
    ∃ u, s.Leads maxLine t u ∧ finishRecords (es.foldl (recordsStep maxLine) q) =
      ({ u.watch with monitor := u.watch.monitor.shutdown },
        u.verdict.map (·.mapError .monitor)) := by
  induction es generalizing s chunks q with
  | nil =>
    obtain ⟨w, b | r⟩ := q
    · cases chunks <;> cases hes b rfl
    · obtain ⟨hwatch, hverdict⟩ := h
      refine ⟨s, .refl s, ?_⟩
      rw [hwatch, hverdict]
      rfl
  | cons e es ih =>
    obtain ⟨u, left, hfirst, hu, hleft⟩ := leads_event h hes
    obtain ⟨v, hrest, hv⟩ := ih hu hleft
    exact ⟨v, hfirst.trans hrest, hv⟩

/-- **What the program makes of a feed is one of the runs** in which the call makes its moves, and
the user may interrupt at any time. -/
theorem program_subscribed (maxLine : Nat) (t : Transfer) (target jobId : String) (route : Route)
    {es : List Event} (hes : es.filterMap arrival? = Feed.arrivalsOf t.chunks t.close) :
    ∃ os, (∀ o ∈ os, o = .move ∨ o = .cancel .interrupted) ∧
      ∀ s, after maxLine t target jobId route os = s →
        followRecords maxLine t.answer es ⟨{ target, jobId }, route⟩ =
          ({ s.watch with monitor := s.watch.monitor.shutdown },
            s.verdict.map (·.mapError .monitor)) := by
  obtain ⟨s, hopened, hs⟩ := leads_alone
    (s := { watch := ⟨{ target, jobId }, route⟩ }) (Reader.alone_opened (k := sink) _) rfl rfl rfl
  obtain ⟨u, ⟨os, hos, hrun⟩, hu⟩ := (leads_events hs fun _ _ => hes).imp
    fun u hu => hu.imp_left hopened.trans
  refine ⟨os, hos, ?_⟩
  rintro _ rfl
  rw [after, hrun]
  exact hu

end Program

end Subscription

end JobWatch
