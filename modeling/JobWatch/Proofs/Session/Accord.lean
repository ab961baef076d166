import JobWatch.Proofs.Session.Following

/-!
Feed and display in accord.

Without interrupts, on an output that never fails, the two parties agree at every moment: the
display has taken, or finds in its queue, what the feed has sent; the reason that is recorded is the
one that the reports give; and the snapshot that is stored is the last that the feed has sent. It
does not matter who gives the reason first.
-/

namespace JobWatch

open Reports

/-- Whether the display is about to trip the signal, for a reason that is recorded. -/
def DisplayPlace.isTripping : DisplayPlace → Bool
  | .tripping _ _ | .restoring _ => true
  | _ => false

namespace Interplay

variable {φ : Type} {P : Call φ} {rest : φ → Left} {jobId target : String} {all : Left}
  {theme : Theme} {out : Output} {x y : Interplay φ}

/-! ### The reason -/

/-- The reason that the reports give: that of the first that stops the watch, or else that the feed
was closed; a failure of the feed shuts the watch down. -/
def Right (jobId : String) (all : Left) (x : Interplay φ) (reason : StopReason) : Prop :=
  firstStop jobId x.sent = some reason ∨
    firstStop jobId x.sent = none ∧
      ((x.feed.isOver = true ∧ all.2 = .ok ()) ∧ reason = .feedClosed ∨
        (∃ e, x.session.ending = some (.error e)) ∧ reason = .shutdown)

/-- The reason is right, and it is recorded before the signal is tripped. -/
structure Causes (jobId : String) (all : Left) (x : Interplay φ) : Prop where
  right : ∀ reason, x.monitor.reason = some reason → x.Right jobId all reason
  tripped : x.monitor.isCancelled = true → x.monitor.reason.isSome
  tripping : x.display.isTripping = true → x.monitor.reason.isSome

/-- A right reason is there already, or a right one is recorded. -/
lemma right_or {reason : StopReason} {old : Option StopReason}
    (hold : ∀ reason, old = some reason → x.Right jobId all reason)
    (hnew : old = none → x.Right jobId all reason) :
    ∀ reason', old.or (some reason) = some reason' → x.Right jobId all reason' := by
  intro reason' hreason'
  rcases old with _ | old
  · rw [Option.none_or, Option.some.injEq] at hreason'
    exact hreason' ▸ hnew rfl
  · exact hold reason' hreason'

lemma Right.grows {reason : StopReason} (h : x.Right jobId all reason) (hsent : y.sent = x.sent)
    (hover : x.feed.isOver = true → y.feed.isOver = true)
    (hending : ∀ v, x.session.ending = some v → y.session.ending = some v) :
    y.Right jobId all reason := by
  rw [Right, hsent]
  rcases h with hfirst | ⟨hnone, ⟨hok, hclosed⟩ | ⟨⟨e, he⟩, hshutdown⟩⟩
  · exact .inl hfirst
  · exact .inr ⟨hnone, .inl ⟨⟨hover hok.1, hok.2⟩, hclosed⟩⟩
  · exact .inr ⟨hnone, .inr ⟨⟨e, hending _ he⟩, hshutdown⟩⟩

/-- Nobody has a reason to cancel while the feed follows its call. -/
lemma Causes.unreasoned (h : x.Causes jobId all) (hlast : x.EndsLast)
    (hnone : firstStop jobId x.sent = none) (hclosed : ¬(x.feed.isOver = true ∧ all.2 = .ok ()))
    (hdone : x.feed ≠ .done) : x.monitor.reason = none := by
  rcases hreason : x.monitor.reason with _ | reason
  · rfl
  · rcases h.right reason hreason with hfirst | ⟨-, ⟨hok, -⟩ | ⟨⟨e, he⟩, -⟩⟩
    · cases hnone.symm.trans hfirst
    · exact absurd hok hclosed
    · exact absurd (hlast.1 (by rw [he]; rfl)) hdone

lemma Causes.quiet (h : x.Causes jobId all) (hlast : x.EndsLast) : x.Quiet jobId all := by
  intro hnone hclosed hdone
  rcases hcancelled : x.monitor.isCancelled with _ | _
  · rfl
  · have hreason := h.tripped hcancelled
    rw [h.unreasoned hlast hnone hclosed hdone] at hreason
    cases hreason

/-- Turns of the feed that neither give a reason nor trip the signal. -/
lemma Causes.same (h : x.Causes jobId all)
    (hcancellation : y.monitor.cancellation = x.monitor.cancellation)
    (hdisplay : y.display = x.display) (hsent : y.sent = x.sent)
    (hover : x.feed.isOver = true → y.feed.isOver = true)
    (hending : ∀ v, x.session.ending = some v → y.session.ending = some v) :
    y.Causes jobId all := by
  have hreason : y.monitor.reason = x.monitor.reason := by
    rw [Monitor.reason, hcancellation]
    rfl
  refine ⟨?_, ?_, ?_⟩
  · intro reason hy
    rw [hreason] at hy
    exact (h.right reason hy).grows hsent hover hending
  · rw [Monitor.isCancelled, hcancellation, hreason]
    exact h.tripped
  · rw [hdisplay, hreason]
    exact h.tripping

/-- Turns that record a reason, if there is none. -/
lemma Causes.record (h : x.Causes jobId all) {m : Monitor} {reason : StopReason}
    (hy : y.monitor = m.record reason) (hm : m.cancellation = x.monitor.cancellation)
    (hsent : y.sent = x.sent) (hover : x.feed.isOver = true → y.feed.isOver = true)
    (hending : y.session.ending = x.session.ending)
    (hreason : x.monitor.reason = none → x.Right jobId all reason) : y.Causes jobId all := by
  have hrecorded : y.monitor.reason = x.monitor.reason.or (some reason) := by
    rw [Monitor.reason, hy, Monitor.record_reason, hm]
    rfl
  have hsome : y.monitor.reason.isSome := by
    rw [hrecorded]
    cases x.monitor.reason <;> rfl
  refine ⟨?_, fun _ => hsome, fun _ => hsome⟩
  intro reason' hreason'
  rw [hrecorded] at hreason'
  refine (right_or h.right hreason reason' hreason').grows hsent hover ?_
  rw [hending]
  exact fun _ hv => hv

/-- Turns that trip the signal after a reason was recorded. -/
lemma Causes.trip (h : x.Causes jobId all) {reason : StopReason} {first : Bool}
    (hy : y.monitor = x.monitor.trip reason first) (hsent : y.sent = x.sent)
    (hover : x.feed.isOver = true → y.feed.isOver = true)
    (hending : y.session.ending = x.session.ending) (hreason : x.monitor.reason.isSome) :
    y.Causes jobId all := by
  have hsame : y.monitor.reason = x.monitor.reason := by
    rw [Monitor.reason, hy, Monitor.trip_reason]
    rfl
  refine ⟨?_, fun _ => hsame ▸ hreason, fun _ => hsame ▸ hreason⟩
  intro reason' hreason'
  rw [hsame] at hreason'
  refine (h.right reason' hreason').grows hsent hover ?_
  rw [hending]
  exact fun _ hv => hv

lemma Causes.feed (h : x.Causes jobId all) (hfed : x.Fed jobId) (hlast : x.EndsLast)
    (hcourse : x.Course jobId all target rest) (hstep : FeedStep P x y) : y.Causes jobId all := by
  have hover := hstep.isOver
  rw [Course] at hcourse
  cases hstep with
  | keep hfeed hrunning => exact h.same (Watch.keep_cancellation ..) rfl rfl hover (fun _ hv => hv)
  | send hfeed =>
    -- no reason is given yet, so none can become wrong
    rw [hfeed] at hcourse
    have hnone := h.unreasoned hlast hcourse.running (by rw [hfeed]; rintro ⟨⟨⟩, -⟩)
      (by rw [hfeed]; rintro ⟨⟩)
    obtain ⟨queue, hroute⟩ := hfed.route
    rw [Watch.send_open hroute]
    refine ⟨?_, h.tripped, h.tripping⟩
    intro reason hreason
    cases hnone.symm.trans hreason
  | @stop r p reason hfeed hstop =>
    rw [hfeed] at hcourse
    obtain ⟨before, hsent, hfollows⟩ := hcourse
    rw [hfed.jobId] at hstop
    refine h.record rfl rfl rfl hover rfl fun _ => .inl ?_
    rw [hsent]
    exact (hfollows.stop hstop).2
  | trip hfeed =>
    rw [hfeed] at hcourse
    exact h.trip rfl rfl hover rfl hcourse.2
  | close hfeed =>
    rw [hfeed] at hcourse
    refine h.record rfl rfl rfl hover rfl fun hnone => ?_
    rcases hcourse with hfollows | ⟨-, hcancelled⟩
    · refine .inr ⟨hfollows.running, .inl ⟨⟨by rw [hfeed]; rfl, ?_⟩, rfl⟩⟩
      rw [hfollows.total]
    · have hsome := h.tripped hcancelled
      rw [hnone] at hsome
      cases hsome
  | @fail e hfeed =>
    obtain ⟨journal, hfinish⟩ := Watch.finish_error_eq x.session.watch e
    refine h.same ?_ rfl rfl hover (fun _ hv => hv)
    rw [hfinish]
    rfl
  | closed hfeed =>
    rw [hfeed] at hcourse
    exact h.trip rfl rfl hover rfl hcourse.2
  | tell hfeed =>
    refine h.same rfl rfl rfl hover ?_
    intro v hv
    have hdone := hlast.1 (by rw [hv]; rfl)
    rw [hfeed] at hdone
    cases hdone
  | _ => exact h.same rfl rfl rfl hover (fun _ hv => hv)

/-! ### The queue -/

/-- What the feed has sent was taken by the display, or waits in its queue; and after that the
display may have been told of the end of the feed. -/
def Passes (jobId : String) (x : Interplay φ) : Prop :=
  (∃ before after, x.sent = before ++ after ∧ Signal.plain x.taken = before.map .report ∧
    Signal.plain x.queue = after.map .report) ∨
  firstStop jobId x.sent = none ∧ x.session.ending = some (.ok ()) ∧
    Signal.plain x.taken = x.sent.map .report ++ [.feedClosed]

lemma Passes.feed (h : x.Passes jobId) (hfed : x.Fed jobId) (hlast : x.EndsLast)
    (hstep : FeedStep P x y) : y.Passes jobId := by
  rcases h with ⟨before, after, hsent, htaken, hqueue⟩ | ⟨-, hending, -⟩
  · left
    cases hstep with
    | keep hfeed hrunning =>
      refine ⟨before, after, hsent, htaken, ?_⟩
      rw [← hqueue, queue, queue]
      exact congrArg (fun route => Signal.plain route.queue) (Watch.keep_route ..)
    | @send r p hfeed =>
      obtain ⟨queue, hroute⟩ := hfed.route
      refine ⟨before, after ++ [r], ?_, htaken, ?_⟩
      · show x.sent ++ [r] = _
        rw [hsent, List.append_assoc]
      · have hqueue' : x.queue = queue := by
          rw [Interplay.queue, hroute]
          rfl
        rw [Watch.send_open hroute]
        show Signal.plain (queue ++ [.report r]) = _
        rw [Signal.plain_append, ← hqueue', hqueue, List.map_append]
        rfl
    | @fail e hfeed =>
      obtain ⟨journal, hfinish⟩ := Watch.finish_error_eq x.session.watch e
      rw [hfinish]
      exact ⟨before, after, hsent, htaken, hqueue⟩
    | _ => exact ⟨before, after, hsent, htaken, hqueue⟩
  · exact absurd (hlast.1 (by rw [hending]; rfl)) hstep.ne_done

/-- What the display has taken, as long as the queue was all that it took from: it has given the
reason of the first report that stops the watch. -/
lemma taken_stops {before after : List Report} (hcut : untilStop jobId x.sent = x.sent)
    (hsent : x.sent = before ++ after) (htaken : Signal.plain x.taken = before.map .report) :
    Display.Stands (Display.run { jobId } x.taken) jobId (lastJob jobId before)
      (firstStop jobId before) ∧ ((firstStop jobId before).isSome → x.sent = before) := by
  rw [hsent] at hcut
  obtain ⟨huntil, hstopped⟩ := untilStop_of_append jobId hcut
  refine ⟨Display.stands_run htaken huntil, fun hsome => ?_⟩
  rw [hsent, hstopped hsome, List.append_nil]

/-- A display that still runs has not been told of the end of the feed. -/
lemma Passes.running (h : x.Passes jobId) (hstops : (Display.run { jobId } x.taken).2 = []) :
    ∃ before after, x.sent = before ++ after ∧ Signal.plain x.taken = before.map .report ∧
      Signal.plain x.queue = after.map .report := by
  rcases h with hqueue | ⟨hnone, -, htaken⟩
  · exact hqueue
  · have hstands := Display.stands_closed htaken hnone
    cases hstops.symm.trans hstands.stops

/-- A display that was ended has taken all that the feed has sent, and stops for the reason that the
reports give, or after them for the end of the feed. -/
lemma Passes.ended (h : x.Passes jobId) (hcut : untilStop jobId x.sent = x.sent)
    {reason : StopReason} (hstops : (Display.run { jobId } x.taken).2 = [reason]) :
    firstStop jobId x.sent = some reason ∧ Signal.plain x.taken = x.sent.map .report ∨
      (firstStop jobId x.sent = none ∧ reason = .feedClosed) ∧
        x.session.ending = some (.ok ()) ∧
          Signal.plain x.taken = x.sent.map .report ++ [.feedClosed] := by
  rcases h with ⟨before, after, hsent, htaken, -⟩ | ⟨hnone, hending, htaken⟩
  · obtain ⟨hstands, hall⟩ := taken_stops hcut hsent htaken
    rw [hstands.stops] at hstops
    have hfirst : firstStop jobId before = some reason := by
      rcases hbefore : firstStop jobId before with _ | reason'
      · rw [hbefore] at hstops
        cases hstops
      · rw [hbefore] at hstops
        cases hstops
        rfl
    rw [hall (by rw [hfirst]; rfl)]
    exact .inl ⟨hfirst, htaken⟩
  · have hstands := Display.stands_closed htaken hnone
    obtain rfl : reason = .feedClosed := List.singleton_inj.1 (hstops.symm.trans hstands.stops)
    exact .inr ⟨⟨hnone, rfl⟩, hending, htaken⟩

lemma Passes.take (hstops : (Display.run { jobId } x.taken).2 = []) (h : x.Passes jobId)
    {g : Signal} {queue : List Signal} {isOpen : Bool}
    (hroute : x.session.watch.route = .display (g :: queue) isOpen) :
    ((x.withWatch { x.session.watch with route := .display queue isOpen }).take g).Passes
      jobId := by
  obtain ⟨before, after, hsent, htaken, hqueue⟩ := h.running hstops
  left
  have hsplit : Signal.plain x.queue = Signal.plain [g] ++ Signal.plain queue := by
    rw [← Signal.plain_append, Interplay.queue, hroute]
    rfl
  rw [hsplit] at hqueue
  show ∃ before after, x.sent = before ++ after ∧
    Signal.plain (x.taken ++ [g]) = before.map .report ∧ Signal.plain queue = after.map .report
  rw [Signal.plain_append, htaken]
  cases g with
  | spinner => exact ⟨before, after, hsent, List.append_nil _, hqueue⟩
  | report r =>
    obtain ⟨r', after', rfl, hr, hafter⟩ := List.map_eq_cons_iff.1 hqueue.symm
    cases hr
    refine ⟨before ++ [r], after', ?_, ?_, hafter.symm⟩
    · rw [hsent, List.append_assoc, List.singleton_append]
    · rw [List.map_append]
      rfl
  | interrupt =>
    obtain ⟨r', after', -, hr, -⟩ := List.map_eq_cons_iff.1 hqueue.symm
    cases hr
  | feedClosed =>
    obtain ⟨r', after', -, hr, -⟩ := List.map_eq_cons_iff.1 hqueue.symm
    cases hr

/-- The display is told of the end of a feed when it has taken all that the feed has sent. -/
lemma Passes.close (h : x.Passes jobId) (hcut : untilStop jobId x.sent = x.sent)
    (hstops : (Display.run { jobId } x.taken).2 = []) (hqueue : x.queue = [])
    (hending : x.session.ending = some (.ok ())) : (x.take .feedClosed).Passes jobId := by
  obtain ⟨before, after, hsent, htaken, hafter⟩ := h.running hstops
  rw [hqueue] at hafter
  obtain rfl : after = [] := List.map_eq_nil_iff.1 hafter.symm
  rw [List.append_nil] at hsent
  have hstands := (taken_stops hcut (by rw [hsent, List.append_nil]) htaken).1.stops
  rw [hstops] at hstands
  right
  refine ⟨?_, hending, ?_⟩
  · show firstStop jobId x.sent = none
    rw [hsent]
    exact Option.toList_eq_nil_iff.1 hstands.symm
  · show Signal.plain (x.taken ++ [.feedClosed]) = x.sent.map .report ++ [.feedClosed]
    rw [Signal.plain_append, htaken, hsent]
    rfl

/-- Turns that take nothing from the queue. -/
lemma Passes.same (h : x.Passes jobId) (hsent : y.sent = x.sent) (htaken : y.taken = x.taken)
    (hending : y.session.ending = x.session.ending)
    (hqueue : Signal.plain y.queue = Signal.plain x.queue) : y.Passes jobId := by
  rw [Passes, hsent, htaken, hending, hqueue]
  exact h

lemma hear_ending (hending : x.session.ending.isSome) (hover : x.hear.session.isOver = false) :
    x.session.ending = some (.ok ()) := by
  obtain ⟨v, hv⟩ := Option.isSome_iff_exists.1 hending
  rcases v with e | _
  · simp [hear, Session.hear, hv, Session.isOver] at hover
  · exact hv

/-- The display loops on with the news of a good end only. -/
def Hears (x : Interplay φ) : Prop :=
  x.session.heard = true → x.session.verdict = none → x.session.ending = some (.ok ())

variable {s₀ : Screen}

lemma Hears.display (h : x.Hears) (hshows : x.Shows s₀) (hstep : DisplayStep x y) : y.Hears := by
  cases hstep with
  | begin hdisplay =>
    have hstage := hshows.stage
    simp only [Stage, hdisplay] at hstage
    exact fun hheard _ => h hheard hstage.2.2.1
  | take hdisplay hroute => exact fun hheard _ => h hheard (hshows.stage.looping hdisplay).verdict
  | wait hdisplay hqueue hopen => exact h
  | closed hdisplay hqueue hclosed hheard =>
    exact fun hheard _ => h hheard (hshows.stage.looping hdisplay).verdict
  | hearClosed hdisplay hqueue hclosed hheard hending hover =>
    intro _ _
    exact (hear_rests hending).ending.trans (hear_ending hending hover)
  | hearFailed hdisplay hheard hending hover =>
    intro _ hverdict
    rw [Session.isOver, hverdict] at hover
    cases hover
  | listen hdisplay hheard hending =>
    intro _ hverdict
    have hover : x.hear.session.isOver = false := by
      rw [Session.isOver, hverdict]
      rfl
    exact (hear_rests hending).ending.trans (hear_ending hending hover)
  | obey hdisplay => exact h
  | trip hdisplay => exact fun _ hverdict => by cases hverdict
  | close hdisplay => exact h
  | restore hdisplay => exact fun _ hverdict => by cases hverdict
  | join hdisplay hending =>
    obtain ⟨journal, hjoin⟩ := join_eq hending
    rw [hjoin]
    exact h

lemma Course.cut (h : x.Course jobId all target rest) : untilStop jobId x.sent = x.sent := by
  have hcloses {v : Except MonitorError Unit}
      (h : Closes jobId all target x.sent x.monitor.isCancelled v) :
      untilStop jobId x.sent = x.sent := by
    rcases h.cause with ⟨e, hfollows, -⟩ | ⟨hstopped, -⟩
    · exact untilStop_of_running jobId hfollows.running
    · exact hstopped.cut
  rw [Course] at h
  cases hfeed : x.feed with
  | calling p | offering r p | returned e =>
    rw [hfeed] at h
    rcases h with hfollows | ⟨hstopped, -⟩
    · exact untilStop_of_running jobId hfollows.running
    · exact hstopped.cut
  | sending r p =>
    rw [hfeed] at h
    exact untilStop_of_running jobId h.running
  | concluding r p =>
    rw [hfeed] at h
    obtain ⟨before, hsent, hfollows⟩ := h
    rw [hsent]
    exact untilStop_snoc jobId hfollows.running r
  | tripping reason first p =>
    rw [hfeed] at h
    exact h.1.cut
  | closing first =>
    rw [hfeed] at h
    rcases h.1 with hfollows | hstopped
    · exact untilStop_of_running jobId hfollows.running
    · exact hstopped.cut
  | leaving v | left v =>
    rw [hfeed] at h
    exact hcloses h
  | done =>
    rw [hfeed] at h
    obtain ⟨v, -, h⟩ := h
    exact hcloses h

lemma Passes.display (h : x.Passes jobId) (hshows : x.Shows (blankScreen jobId out theme))
    (hcourse : x.Course jobId all target rest) (hhears : x.Hears) (hstep : DisplayStep x y) :
    y.Passes jobId := by
  have hcut := hcourse.cut
  cases hstep with
  | take hdisplay hroute => exact h.take (hshows.stage.looping hdisplay).stops hroute
  | closed hdisplay hqueue hclosed hheard =>
    have hlooping := hshows.stage.looping hdisplay
    exact h.close hcut hlooping.stops hqueue (hhears hheard hlooping.verdict)
  | hearClosed hdisplay hqueue hclosed hheard hending hover =>
    have hlooping := hshows.stage.looping hdisplay
    have hrests := hear_rests hending
    have hqueue' : x.hear.queue = x.queue := by
      rw [queue, hear_watch]
      rfl
    have hhear := h.same hrests.sent rfl hrests.ending (congrArg Signal.plain hqueue')
    refine hhear.close ?_ hlooping.stops (hqueue'.trans hqueue) ?_
    · rw [hrests.sent]
      exact hcut
    · rw [hrests.ending]
      exact hear_ending hending hover
  | hearFailed hdisplay hheard hending hover =>
    refine h.same rfl rfl (hear_rests hending).ending ?_
    rw [queue, hear_watch]
    rfl
  | listen hdisplay hheard hending =>
    refine h.same rfl rfl (hear_rests hending).ending ?_
    rw [queue, hear_watch]
    rfl
  | join hdisplay hending =>
    obtain ⟨journal, hjoin⟩ := join_eq hending
    rw [hjoin]
    exact h
  | _ => exact h

/-! ### The reason that the display gives -/

/-- The display gives the reason that the reports give. -/
lemma right_of_looping (h : x.Passes jobId) (hlast : x.EndsLast)
    (hcourse : x.Course jobId all target rest) {reason : StopReason}
    (hlooping : x.Looping (blankScreen jobId out theme) [reason]) : x.Right jobId all reason := by
  have hstops : (Display.run { jobId } x.taken).2 = [reason] := hlooping.stops
  rcases h.ended hcourse.cut hstops with ⟨hfirst, -⟩ | ⟨⟨hnone, rfl⟩, hending, -⟩
  · exact .inl hfirst
  · have hdone := hlast.1 (by rw [hending]; rfl)
    rw [Course, hdone] at hcourse
    obtain ⟨v, hv, hcloses⟩ := hcourse
    obtain rfl : .ok () = v := Option.some.inj (hending.symm.trans hv)
    refine .inr ⟨hnone, .inl ⟨⟨by rw [hdone]; rfl, ?_⟩, rfl⟩⟩
    rcases hcloses.cause with ⟨e, hfollows, hnews⟩ | ⟨hstopped, -⟩
    · rw [hfollows.total]
      rcases e with e | _
      · cases hnews
      · rfl
    · have hsome := hstopped.stops
      rw [hnone] at hsome
      cases hsome

/-- A feed that has ended badly has sent nothing that stops the watch. -/
lemma Course.failed (h : x.Course jobId all target rest) (hlast : x.EndsLast) {e : MonitorError}
    (hending : x.session.ending = some (.error e)) : firstStop jobId x.sent = none := by
  rw [Course, hlast.1 (by rw [hending]; rfl)] at h
  obtain ⟨v, hv, hcloses⟩ := h
  obtain rfl : .error e = v := Option.some.inj (hending.symm.trans hv)
  rcases hcloses.cause with ⟨e', hfollows, -⟩ | ⟨-, hok⟩
  · exact hfollows.running
  · cases hok

/-- A display that shuts the watch down without a reason has heard of a failure of the feed. -/
lemma right_of_closing (hout : out.lifetime = .unlimited)
    (hshows : x.Shows (blankScreen jobId out theme)) (hrecorded : x.Recorded jobId)
    (hlast : x.EndsLast) (hcourse : x.Course jobId all target rest)
    (hdisplay : x.display = .closing) (hnone : x.monitor.reason = none) :
    x.Right jobId all .shutdown := by
  have hdrawn : ((blankScreen jobId out theme).play x.taken).2 = none :=
    (Screen.play_unlimited rfl hout hshows.running).1
  have hstage := hshows.stage
  simp only [Stage, hdisplay] at hstage
  obtain ⟨-, v, -, hend⟩ := hstage
  rcases v with (e | e | e) | _
  · cases hdrawn.symm.trans hend.1
  · obtain ⟨-, -, -, hending, -⟩ := hend
    exact .inr ⟨hcourse.failed hlast hending, .inr ⟨⟨e, hending⟩, rfl⟩⟩
  · cases hend
  · obtain ⟨-, q, hquit, -⟩ := hend
    obtain ⟨reason, hreason, -⟩ := hrecorded.quit q hquit
    cases hnone.symm.trans hreason

/-- Turns of the display that neither give a reason nor trip the signal. -/
lemma Causes.stays (h : x.Causes jobId all) (hrests : FeedRests x y)
    (hcancellation : y.monitor.cancellation = x.monitor.cancellation)
    (hdisplay : y.display.isTripping = false) : y.Causes jobId all := by
  have hreason : y.monitor.reason = x.monitor.reason := by
    rw [Monitor.reason, hcancellation]
    rfl
  refine ⟨?_, ?_, ?_⟩
  · intro reason hy
    rw [hreason] at hy
    refine (h.right reason hy).grows hrests.sent ?_ ?_
    · rw [hrests.feed]
      exact fun hover => hover
    · rw [hrests.ending]
      exact fun _ hv => hv
  · rw [Monitor.isCancelled, hcancellation, hreason]
    exact h.tripped
  · intro htripping
    rw [hdisplay] at htripping
    cases htripping

lemma isTripping_take (x : Interplay φ) (g : Signal) : (x.take g).display.isTripping = false :=
  take_display (p := (·.isTripping = false)) rfl (fun stop => by cases stop <;> rfl) x g

lemma isTripping_hear (x : Interplay φ) : x.hear.display.isTripping = false :=
  hear_display (p := (·.isTripping = false)) rfl rfl x

lemma hear_cancellation (x : Interplay φ) :
    x.hear.monitor.cancellation = x.monitor.cancellation := by
  rw [monitor, hear_watch]
  rfl

lemma Causes.display (hout : out.lifetime = .unlimited) (h : x.Causes jobId all)
    (hshows : x.Shows (blankScreen jobId out theme)) (hrecorded : x.Recorded jobId)
    (hlast : x.EndsLast) (hcourse : x.Course jobId all target rest) (hpasses : x.Passes jobId)
    (hstep : DisplayStep x y) : y.Causes jobId all := by
  have hrests := hstep.rests
  cases hstep with
  | begin hdisplay =>
    refine h.stays hrests rfl ?_
    dsimp only
    split <;> rfl
  | take hdisplay hroute => exact h.stays hrests rfl (isTripping_take _ _)
  | wait hdisplay hqueue hopen => exact h.stays hrests rfl rfl
  | closed hdisplay hqueue hclosed hheard => exact h.stays hrests rfl (isTripping_take _ _)
  | hearClosed hdisplay hqueue hclosed hheard hending hover =>
    exact h.stays hrests (hear_cancellation x) (isTripping_take _ _)
  | hearFailed hdisplay hheard hending hover =>
    exact h.stays hrests (hear_cancellation x) (isTripping_hear _)
  | listen hdisplay hheard hending =>
    exact h.stays hrests (hear_cancellation x) (isTripping_hear _)
  | obey hdisplay =>
    have hstage := hshows.stage
    simp only [Stage, hdisplay] at hstage
    exact h.record rfl rfl rfl (fun hover => hover) rfl
      fun _ => right_of_looping hpasses hlast hcourse hstage
  | trip hdisplay =>
    exact h.trip rfl rfl (fun hover => hover) rfl (h.tripping (by rw [hdisplay]; rfl))
  | close hdisplay =>
    exact h.record rfl rfl rfl (fun hover => hover) rfl
      fun hnone => right_of_closing hout hshows hrecorded hlast hcourse hdisplay hnone
  | restore hdisplay =>
    exact h.trip rfl rfl (fun hover => hover) rfl (h.tripping (by rw [hdisplay]; rfl))
  | join hdisplay hending =>
    obtain ⟨journal, hjoin⟩ := join_eq hending
    refine h.stays hrests ?_ rfl
    rw [hjoin]
    rfl

/-- The display never takes a cancel or a reason back. -/
lemma DisplayStep.keeps (hstep : DisplayStep x y) :
    (x.monitor.isCancelled = true → y.monitor.isCancelled = true) ∧
    (x.monitor.reason.isSome = true → y.monitor.reason.isSome = true) := by
  have hsame {m : Monitor} (hm : m.cancellation = x.monitor.cancellation) :
      (x.monitor.isCancelled = true → m.isCancelled = true) ∧
      (x.monitor.reason.isSome = true → m.reason.isSome = true) := by
    rw [Monitor.isCancelled, Monitor.isCancelled, Monitor.reason, Monitor.reason, hm]
    exact ⟨fun hc => hc, fun hr => hr⟩
  have hrecord {m : Monitor} (hm : m.cancellation = x.monitor.cancellation) (reason : StopReason) :
      (x.monitor.isCancelled = true → (m.record reason).isCancelled = true) ∧
      (x.monitor.reason.isSome = true → (m.record reason).reason.isSome = true) := by
    rw [Monitor.isCancelled, Monitor.isCancelled, Monitor.reason, Monitor.reason,
      Monitor.record_tripped, Monitor.record_reason, hm]
    refine ⟨fun hc => hc, fun _ => ?_⟩
    cases x.monitor.cancellation.reason <;> rfl
  have htrip (reason : StopReason) (first : Bool) :
      (x.monitor.isCancelled = true → (x.monitor.trip reason first).isCancelled = true) ∧
      (x.monitor.reason.isSome = true → (x.monitor.trip reason first).reason.isSome = true) := by
    rw [Monitor.isCancelled, Monitor.isCancelled, Monitor.reason, Monitor.reason,
      Monitor.trip_tripped, Monitor.trip_reason]
    exact ⟨fun _ => rfl, fun hr => hr⟩
  cases hstep with
  | hearClosed hdisplay hqueue hclosed hheard hending hover => exact hsame (hear_cancellation x)
  | hearFailed hdisplay hheard hending hover => exact hsame (hear_cancellation x)
  | listen hdisplay hheard hending => exact hsame (hear_cancellation x)
  | obey hdisplay => exact hrecord rfl _
  | trip hdisplay => exact htrip _ _
  | close hdisplay => exact hrecord rfl _
  | restore hdisplay => exact htrip _ _
  | join hdisplay hending =>
    obtain ⟨journal, hjoin⟩ := join_eq hending
    refine hsame ?_
    rw [hjoin]
    rfl
  | _ => exact hsame rfl

lemma Course.display (h : x.Course jobId all target rest) (hstep : DisplayStep x y) :
    y.Course jobId all target rest := by
  have hrests := hstep.rests
  rw [Course, hrests.feed, hrests.sent, hrests.ending]
  exact FeedPlace.Course.grows h hstep.keeps.1 hstep.keeps.2

/-! ### The snapshot -/

/-- The stored snapshot is the last that was sent, or that of the report that is about to be. -/
def Stored (jobId : String) (x : Interplay φ) : Prop :=
  match x.feed with
  | .sending r _ => x.monitor.latest = (r.job? jobId).or (lastJob jobId x.sent)
  | _ => x.monitor.latest = lastJob jobId x.sent

lemma Stored.feed (h : x.Stored jobId) (hfed : x.Fed jobId) (hstep : FeedStep P x y) :
    y.Stored jobId := by
  cases hstep with
  | keep hfeed hrunning =>
    rw [Stored, hfeed] at h
    refine (Watch.keep_latest ..).trans ?_
    rw [hfed.jobId]
    exact congrArg (Option.or _) h
  | send hfeed =>
    rw [Stored, hfeed] at h
    obtain ⟨queue, hroute⟩ := hfed.route
    rw [Watch.send_open hroute]
    exact h.trans (lastJob_snoc ..).symm
  | trip hfeed =>
    rw [Stored, hfeed] at h
    exact (Monitor.trip_latest ..).trans h
  | @fail e hfeed =>
    rw [Stored, hfeed] at h
    obtain ⟨journal, hfinish⟩ := Watch.finish_error_eq x.session.watch e
    rw [hfinish]
    exact h
  | closed hfeed =>
    rw [Stored, hfeed] at h
    exact (Monitor.trip_latest ..).trans h
  | _ hfeed =>
    rw [Stored, hfeed] at h
    exact h

lemma Stored.display (h : x.Stored jobId) (hstep : DisplayStep x y) : y.Stored jobId := by
  have hrests := hstep.rests
  rw [Stored, hrests.feed, hrests.latest, hrests.sent]
  exact h

/-! ### All of it -/

/-- **What holds at every moment** of a session without interrupts, on an output that never fails,
whose call has these reports to deliver and ends like that. -/
structure Orderly (jobId target : String) (all : Left) (rest : φ → Left) (theme : Theme)
    (out : Output) (x : Interplay φ) : Prop where
  shows : x.Shows (blankScreen jobId out theme)
  last : x.EndsLast
  fed : x.Fed jobId
  recorded : x.Recorded jobId
  names : x.monitor.target = target
  course : x.Course jobId all target rest
  causes : x.Causes jobId all
  passes : x.Passes jobId
  hears : x.Hears
  stored : x.Stored jobId

lemma Orderly.feed (hreads : P.Reads rest) (hall : ∀ e, all.2 = .error e → e.isCancelled = false)
    (h : x.Orderly jobId target all rest theme out) (hturn : x.turn P .feed = some y)
    (hstep : FeedStep P x y) : y.Orderly jobId target all rest theme out where
  shows := h.shows.rests (hstep.rests h.last)
  last := h.last.turn hturn
  fed := h.fed.turn hturn
  recorded := h.recorded.turn h.fed h.last hturn
  names := (hstep.target_eq h.fed).trans h.names
  course := h.course.feed hreads hall h.fed h.names (h.causes.quiet h.last) hstep
  causes := h.causes.feed h.fed h.last h.course hstep
  passes := h.passes.feed h.fed h.last hstep
  hears := by
    have hrests := hstep.rests h.last
    intro hheard hverdict
    rw [hrests.heard] at hheard
    rw [hrests.verdict] at hverdict
    exact hrests.ending _ (h.hears hheard hverdict)
  stored := h.stored.feed h.fed hstep

lemma Orderly.display (hout : out.lifetime = .unlimited)
    (h : x.Orderly jobId target all rest theme out) {t : Turn} (hturn : x.turn P t = some y)
    (hstep : DisplayStep x y) : y.Orderly jobId target all rest theme out where
  shows := h.shows.display rfl hstep
  last := h.last.turn hturn
  fed := h.fed.turn hturn
  recorded := h.recorded.turn h.fed h.last hturn
  names := hstep.rests.target.trans h.names
  course := h.course.display hstep
  causes := h.causes.display hout h.shows h.recorded h.last h.course h.passes hstep
  passes := h.passes.display h.shows h.course h.hears hstep
  hears := h.hears.display h.shows hstep
  stored := h.stored.display hstep

lemma Orderly.other (h : x.Orderly jobId target all rest theme out) {t : Turn}
    (ht : t ≠ .interrupt) (hturn : x.turn P t = some y) (hstep : OtherStep x t y) :
    y.Orderly jobId target all rest theme out := by
  have hshows := h.shows.rests hstep.rests
  have hlast := h.last.turn hturn
  have hfed := h.fed.turn hturn
  have hrecorded := h.recorded.turn h.fed h.last hturn
  cases hstep with
  | interrupt hothers => exact absurd rfl ht
  | spinner hothers =>
    obtain ⟨queue, hroute⟩ := h.fed.route
    rw [post_open hroute] at hshows hlast hfed hrecorded ⊢
    refine ⟨hshows, hlast, hfed, hrecorded, h.names, h.course,
      ⟨h.causes.right, h.causes.tripped, h.causes.tripping⟩, ?_, h.hears, h.stored⟩
    refine h.passes.same rfl rfl rfl ?_
    show Signal.plain (queue ++ [.spinner]) = Signal.plain x.session.watch.route.queue
    rw [hroute, Signal.plain_append, Signal.plain_spinner, List.append_nil]
    rfl
  | leave hothers =>
    exact ⟨hshows, hlast, hfed, hrecorded, h.names, h.course,
      ⟨h.causes.right, h.causes.tripped, h.causes.tripping⟩, h.passes, h.hears, h.stored⟩

lemma Orderly.turn (hout : out.lifetime = .unlimited) (hreads : P.Reads rest)
    (hall : ∀ e, all.2 = .error e → e.isCancelled = false)
    (h : x.Orderly jobId target all rest theme out) {t : Turn} (ht : t ≠ .interrupt)
    (hturn : x.turn P t = some y) : y.Orderly jobId target all rest theme out := by
  rcases step_of_turn hturn with ⟨rfl, hstep⟩ | ⟨-, hstep⟩ | hstep
  · exact h.feed hreads hall hturn hstep
  · exact h.display hout hturn hstep
  · exact h.other ht hturn hstep

variable {p : φ} {others : Bool} {journal : List Journal.Entry} {ts : List Turn}

/-- **Feed and display are in accord** at every moment. -/
theorem orderly_run (hout : out.lifetime = .unlimited) (hreads : P.Reads rest)
    (hall : ∀ e, (rest p).2 = .error e → e.isCancelled = false) (hts : .interrupt ∉ ts)
    (hrun : (start { target, jobId, journal } (blankScreen jobId out theme) p others).run P ts =
      some x) :
    x.Orderly jobId target (rest p) rest theme out := by
  refine run_invariant (I := Orderly jobId target (rest p) rest theme out) ?_ ?_ hrun
  · intro x t y ht h hturn
    exact h.turn hout hreads hall (fun hinterrupt => hts (hinterrupt ▸ ht)) hturn
  · have hnothing := run_nil (P := P)
      (x := start { target, jobId, journal } (blankScreen jobId out theme) p others)
    obtain ⟨hshows, hlast⟩ := shows_run rfl hnothing
    obtain ⟨hfed, hrecorded⟩ := recorded_run rfl rfl hnothing
    exact {
      shows := hshows
      last := hlast
      fed := hfed
      recorded := hrecorded
      names := rfl
      course := .inl ⟨rfl, rfl⟩
      causes := ⟨nofun, nofun, nofun⟩
      passes := .inl ⟨[], [], rfl, rfl, rfl⟩
      hears := nofun
      stored := rfl }

end Interplay

end JobWatch
