import JobWatch.Proofs.Session.Teardown

/-!
A feed that follows its call.

A call that reads reports has so many left at every place, and then ends. As long as no report stops
the watch the feed sends them all, in order; after the first that does it sends no more, whatever
the call delivers. In both cases it is settled how the feed ends.
-/

namespace JobWatch

open Reports

variable {φ : Type}

/-- What is left of a call: the reports it is going to deliver, and how it is going to end. -/
abbrev Left := List Report × Except AdminError Unit

/-- A call that reads: it delivers what is left at its place, one report after the other, and ends
as it has to. Only if the watch is cancelled it may give up. -/
structure Call.Reads (P : Call φ) (rest : φ → Left) : Prop where
  onward : ∀ {p p' : φ} {c : Bool}, P p c = some (.onward p') → rest p' = rest p
  deliver : ∀ {p p' : φ} {c : Bool} {r : Report}, P p c = some (.deliver r p') →
    rest p = (r :: (rest p').1, (rest p').2)
  finish : ∀ {p : φ} {c : Bool} {e : Except AdminError Unit}, P p c = some (.finish e) →
    rest p = ([], e) ∨ (c = true ∧ e = .error .operationCancelled)

lemma Recital.reads (c : Recital) : Call.Reads c.next (fun rest => (rest, c.ending)) := by
  -- what a recital does next, cancelled or not
  have hnext (rest : List Report) (cancelled : Bool) :
      (cancelled = true ∧ c.next rest cancelled = some (.finish (.error .operationCancelled))) ∨
      (rest = [] ∧ c.next rest cancelled = some (.finish c.ending)) ∨
      (∃ r rest', rest = r :: rest' ∧ c.next rest cancelled = some (.deliver r rest')) := by
    by_cases hheeds : (cancelled && c.heeds rest.length) = true
    · refine .inl ⟨(Bool.and_eq_true_iff.1 hheeds).1, ?_⟩
      unfold Recital.next
      rw [if_pos hheeds]
    · cases rest with
      | nil => exact .inr (.inl ⟨rfl, by rw [Recital.next, if_neg hheeds]⟩)
      | cons r rest => exact .inr (.inr ⟨r, rest, rfl, by rw [Recital.next, if_neg hheeds]⟩)
  constructor
  · intro p p' cancelled h
    rcases hnext p cancelled with ⟨-, h'⟩ | ⟨-, h'⟩ | ⟨r, rest, -, h'⟩ <;> cases h.symm.trans h'
  · intro p p' cancelled r h
    rcases hnext p cancelled with ⟨-, h'⟩ | ⟨-, h'⟩ | ⟨r', rest, rfl, h'⟩
    · cases h.symm.trans h'
    · cases h.symm.trans h'
    · cases h.symm.trans h'
      rfl
  · intro p cancelled e h
    rcases hnext p cancelled with ⟨hcancelled, h'⟩ | ⟨rfl, h'⟩ | ⟨r, rest, -, h'⟩
    · cases h.symm.trans h'
      exact .inr ⟨hcancelled, rfl⟩
    · cases h.symm.trans h'
      exact .inl rfl
    · cases h.symm.trans h'

/-! ### The course of a feed -/

section Course

variable (jobId : String) (all left : Left)

/-- None of the reports that were sent stops the watch, and so much is left of all. -/
structure Follows (sent : List Report) : Prop where
  running : firstStop jobId sent = none
  total : all = (sent ++ left.1, left.2)

/-- The last report that was sent, and no other, stops the watch. -/
structure Stopped (sent : List Report) : Prop where
  cut : untilStop jobId sent = sent
  stops : (firstStop jobId sent).isSome
  more : ∃ more, all.1 = sent ++ more

variable {jobId all left} {sent : List Report} {r : Report}

lemma Follows.proceed (h : Follows jobId all (r :: left.1, left.2) sent)
    (hstop : r.stop? jobId = none) : Follows jobId all left (sent ++ [r]) := by
  constructor
  · rw [firstStop_append, h.running, Option.none_or, firstStop_singleton, hstop]
  · rw [List.append_assoc, List.singleton_append]
    exact h.total

lemma Follows.stop (h : Follows jobId all (r :: left.1, left.2) sent) {reason : StopReason}
    (hstop : r.stop? jobId = some reason) :
    Stopped jobId all (sent ++ [r]) ∧ firstStop jobId (sent ++ [r]) = some reason := by
  have hfirst : firstStop jobId (sent ++ [r]) = some reason := by
    rw [firstStop_append, h.running, Option.none_or, firstStop_singleton, hstop]
  refine ⟨⟨untilStop_snoc jobId h.running r, by rw [hfirst]; rfl, left.1, ?_⟩, hfirst⟩
  rw [h.total, List.append_assoc, List.singleton_append]

/-- The end of a feed, as the display hears of it. -/
def news (target : String) (e : Except AdminError Unit) : Except MonitorError Unit :=
  e.mapError fun e => ⟨.subscribe, target, e⟩

variable (jobId all) (target : String)

/-- The feed ends as its call has, or well because the watch has stopped. A feed that ends well
leaves the watch cancelled. -/
structure Closes (sent : List Report) (cancelled : Bool) (v : Except MonitorError Unit) : Prop where
  cause : (∃ e, Follows jobId all ([], e) sent ∧ v = news target e) ∨
    Stopped jobId all sent ∧ v = .ok ()
  cancelled : v = .ok () → cancelled = true

variable (rest : φ → Left) (sent : List Report) (cancelled given : Bool)
  (ending : Option (Except MonitorError Unit))

/-- How far a feed has come at its place, with what it has sent, whether the watch is cancelled, and
whether a reason is given. -/
def FeedPlace.Course : FeedPlace φ → Prop
  | .calling p => Follows jobId all (rest p) sent ∨ Stopped jobId all sent ∧ cancelled = true
  | .offering r p =>
    Follows jobId all (r :: (rest p).1, (rest p).2) sent ∨
      Stopped jobId all sent ∧ cancelled = true
  | .sending r p => Follows jobId all (r :: (rest p).1, (rest p).2) sent
  | .concluding r p =>
    ∃ before, sent = before ++ [r] ∧ Follows jobId all (r :: (rest p).1, (rest p).2) before
  | .tripping _ _ _ => Stopped jobId all sent ∧ given = true
  | .returned e => Follows jobId all ([], e) sent ∨ Stopped jobId all sent ∧ cancelled = true
  | .closing _ =>
    (Follows jobId all ([], .ok ()) sent ∨ Stopped jobId all sent) ∧ given = true
  | .leaving v | .left v => Closes jobId all target sent cancelled v
  | .done => ∃ v, ending = some v ∧ Closes jobId all target sent cancelled v

variable {jobId all target rest sent cancelled given ending}

lemma Closes.grows {cancelled' : Bool} {v : Except MonitorError Unit}
    (h : Closes jobId all target sent cancelled v)
    (hcancelled : cancelled = true → cancelled' = true) :
    Closes jobId all target sent cancelled' v :=
  ⟨h.cause, fun hv => hcancelled (h.cancelled hv)⟩

/-- Others may cancel the watch and give a reason without any effect on the course of the feed. -/
lemma FeedPlace.Course.grows {f : FeedPlace φ} {cancelled' given' : Bool}
    (h : f.Course jobId all target rest sent cancelled given ending)
    (hcancelled : cancelled = true → cancelled' = true) (hgiven : given = true → given' = true) :
    f.Course jobId all target rest sent cancelled' given' ending := by
  cases f with
  | calling p | offering r p | returned e =>
    rcases h with hfollows | ⟨hstopped, hc⟩
    · exact .inl hfollows
    · exact .inr ⟨hstopped, hcancelled hc⟩
  | sending r p | concluding r p => exact h
  | tripping reason first p | closing first => exact ⟨h.1, hgiven h.2⟩
  | leaving v | left v => exact Closes.grows h hcancelled
  | done =>
    obtain ⟨v, hv, hcloses⟩ := h
    exact ⟨v, hv, hcloses.grows hcancelled⟩

end Course

namespace Interplay

variable {P : Call φ} {rest : φ → Left} {jobId target : String} {all : Left} {x y : Interplay φ}

def Course (jobId : String) (all : Left) (target : String) (rest : φ → Left) (x : Interplay φ) :
    Prop :=
  x.feed.Course jobId all target rest x.sent x.monitor.isCancelled x.monitor.reason.isSome
    x.session.ending

/-- A feed that still follows its call finds the watch running. -/
def Quiet (jobId : String) (all : Left) (x : Interplay φ) : Prop :=
  firstStop jobId x.sent = none → ¬(x.feed.isOver = true ∧ all.2 = .ok ()) → x.feed ≠ .done →
    x.monitor.isCancelled = false

/-- A call that has returned stays so. -/
lemma FeedStep.isOver (h : FeedStep P x y) : x.feed.isOver = true → y.feed.isOver = true := by
  intro hover
  cases h with
  | close hfeed | fail hfeed | closed hfeed | leave hfeed | tell hfeed => rfl
  | _ hfeed =>
    rw [hfeed] at hover
    cases hover

lemma FeedStep.target_eq (h : FeedStep P x y) (hfed : x.Fed jobId) :
    y.monitor.target = x.monitor.target := by
  cases h with
  | keep hfeed hrunning => exact Watch.keep_target ..
  | send hfeed =>
    obtain ⟨queue, hroute⟩ := hfed.route
    rw [Watch.send_open hroute]
    rfl
  | @fail e hfeed =>
    obtain ⟨journal, hfinish⟩ := Watch.finish_error_eq x.session.watch e
    rw [hfinish]
    rfl
  | trip hfeed => exact Monitor.trip_target ..
  | closed hfeed => exact Monitor.trip_target ..
  | _ => rfl

/-- A failed end counts only if nothing stopped the watch before. -/
lemma finish_running {w : Watch} {e : AdminError} (he : e.isCancelled = false)
    (hw : w.isCancelled = false) :
    (w.finish (.error e)).2 = .error ⟨.subscribe, w.monitor.target, e⟩ := by
  rw [Watch.finish]
  simp [he, hw]

lemma finish_stopped {w : Watch} {e : AdminError} (hw : w.isCancelled = true) :
    (w.finish (.error e)).2 = .ok () := by
  rw [Watch.finish]
  simp [hw]

/-- **The feed keeps its course** in every turn of its own. -/
lemma Course.feed (hreads : P.Reads rest) (hall : ∀ e, all.2 = .error e → e.isCancelled = false)
    (hfed : x.Fed jobId) (htarget : x.monitor.target = target) (hquiet : x.Quiet jobId all)
    (h : x.Course jobId all target rest) (hstep : FeedStep P x y) :
    y.Course jobId all target rest := by
  rw [Course] at h
  cases hstep with
  | @onward p p' hfeed hmove =>
    rw [hfeed] at h
    show Follows jobId all (rest p') x.sent ∨ _
    rw [hreads.onward hmove]
    exact h
  | @offer p p' r hfeed hmove =>
    rw [hfeed] at h
    show Follows jobId all (r :: (rest p').1, (rest p').2) x.sent ∨ _
    rw [← hreads.deliver hmove]
    exact h
  | @finish p e hfeed hmove =>
    rw [hfeed] at h
    rcases h with hfollows | hstopped
    · rcases hreads.finish hmove with hrest | ⟨hcancelled, -⟩
      · rw [hrest] at hfollows
        exact .inl hfollows
      · have hrunning := hquiet hfollows.running (by rw [hfeed]; rintro ⟨⟨⟩, -⟩)
          (by rw [hfeed]; rintro ⟨⟩)
        cases hrunning.symm.trans hcancelled
    · exact .inr hstopped
  | drop hfeed hcancelled =>
    rw [hfeed] at h
    rcases h with hfollows | hstopped
    · have hrunning := hquiet hfollows.running (by rw [hfeed]; rintro ⟨⟨⟩, -⟩)
        (by rw [hfeed]; rintro ⟨⟩)
      cases hrunning.symm.trans hcancelled
    · exact .inr hstopped
  | keep hfeed hrunning =>
    rw [hfeed] at h
    rcases h with hfollows | ⟨-, hcancelled⟩
    · exact hfollows
    · cases hrunning.symm.trans hcancelled
  | send hfeed =>
    rw [hfeed] at h
    exact ⟨x.sent, rfl, h⟩
  | proceed hfeed hstop =>
    rw [hfeed] at h
    obtain ⟨before, hsent, hfollows⟩ := h
    rw [hfed.jobId] at hstop
    left
    show Follows jobId all _ x.sent
    rw [hsent]
    exact hfollows.proceed hstop
  | @stop r p reason hfeed hstop =>
    rw [hfeed] at h
    obtain ⟨before, hsent, hfollows⟩ := h
    rw [hfed.jobId] at hstop
    refine ⟨?_, ?_⟩
    · show Stopped jobId all x.sent
      rw [hsent]
      exact (hfollows.stop hstop).1
    · show (x.monitor.record reason).reason.isSome = true
      rw [Monitor.reason, Monitor.record_reason]
      cases x.monitor.cancellation.reason <;> rfl
  | trip hfeed =>
    rw [hfeed] at h
    exact .inr ⟨h.1, Monitor.trip_tripped ..⟩
  | close hfeed =>
    rw [hfeed] at h
    refine ⟨?_, ?_⟩
    · rcases h with hfollows | ⟨hstopped, -⟩
      · exact .inl hfollows
      · exact .inr hstopped
    · refine (congrArg Option.isSome (Monitor.record_reason ..)).trans ?_
      cases (x.monitor.note _ _ _).cancellation.reason <;> rfl
  | @fail e hfeed =>
    rw [hfeed] at h
    obtain ⟨journal, hfinish⟩ := Watch.finish_error_eq x.session.watch e
    have hcancelled : (x.session.watch.finish (.error e)).1.monitor.isCancelled =
        x.session.watch.isCancelled := by
      rw [hfinish]
      rfl
    show Closes jobId all target x.sent (x.session.watch.finish (.error e)).1.monitor.isCancelled _
    rw [hcancelled]
    rcases h with hfollows | ⟨hstopped, hc⟩
    · have he : all.2 = .error e := by rw [hfollows.total]
      have hrunning : x.session.watch.isCancelled = false :=
        hquiet hfollows.running (by rw [he]; rintro ⟨-, ⟨⟩⟩) (by rw [hfeed]; rintro ⟨⟩)
      rw [finish_running (hall e he) hrunning]
      refine ⟨.inl ⟨_, hfollows, ?_⟩, by rintro ⟨⟩⟩
      rw [← htarget]
      rfl
    · rw [finish_stopped hc]
      exact ⟨.inr ⟨hstopped, rfl⟩, fun _ => hc⟩
  | closed hfeed =>
    rw [hfeed] at h
    refine ⟨?_, fun _ => Monitor.trip_tripped ..⟩
    rcases h.1 with hfollows | hstopped
    · exact .inl ⟨_, hfollows, rfl⟩
    · exact .inr ⟨hstopped, rfl⟩
  | leave hfeed =>
    rw [hfeed] at h
    exact h
  | tell hfeed =>
    rw [hfeed] at h
    exact ⟨_, rfl, h⟩

end Interplay

end JobWatch
