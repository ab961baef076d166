import JobWatch.Proofs.Session.Showing

/-!
How a session is taken down.

Whatever the feed and the others do, in whatever order, and however long the output works: when the
display returns, the watch is cancelled and the feed has ended. It returns well only if it was ended
by one signal and its last frame stands there, with the cursor shown behind it.

The reason that is recorded is the first that anybody gave. Before the display gives one, only the
feed can have: for a report that it has sent, or because the service closed it.
-/

namespace JobWatch

variable {φ : Type}

/-- Whether the call for reports has returned. -/
def FeedPlace.isOver : FeedPlace φ → Bool
  | .returned _ | .closing _ | .leaving _ | .left _ | .done => true
  | _ => false

namespace DisplayPlace

/-- Whether the display has not given a reason to stop yet. -/
def isEarly : DisplayPlace → Bool
  | .starting | .polling | .waiting | .obeying _ => true
  | _ => false

/-- Whether the display waits for the feed, or has returned. -/
def isLate : DisplayPlace → Bool
  | .joining | .returned => true
  | _ => false

end DisplayPlace

namespace Interplay

variable {P : Call φ} {x y : Interplay φ} {jobId : String}

/-- The reasons that a feed gives: that of a report it has sent, or that it was closed. -/
def FeedReason (jobId : String) (sent : List Report) (result : Option (Except AdminError Unit))
    (reason : StopReason) : Prop :=
  (∃ r ∈ sent, r.stop? jobId = some reason) ∨ (reason = .feedClosed ∧ result = some (.ok ()))

/-- How far a feed has come, and what it has noted of that. -/
structure Fed (jobId : String) (x : Interplay φ) : Prop where
  jobId : x.monitor.jobId = jobId
  route : ∃ queue, x.session.watch.route = .display queue true
  result : x.result.isSome → x.feed.isOver = true
  returned : ∀ e, x.feed = .returned e → x.result = some e
  concluding : ∀ r p, x.feed = .concluding r p → r ∈ x.sent

lemma Fed.feed (h : x.Fed jobId) (hstep : FeedStep P x y) : y.Fed jobId := by
  obtain ⟨hjob, ⟨queue, hroute⟩, hresult, hreturned, hconcluding⟩ := h
  -- where the call has not returned, there is no result
  have hrunning (hover : x.feed.isOver = false) : x.result.isSome → false = true :=
    fun hsome => hover.symm.trans (hresult hsome)
  cases hstep with
  | onward hfeed hmove =>
    exact ⟨hjob, ⟨queue, hroute⟩, hrunning (by rw [hfeed]; rfl), nofun, nofun⟩
  | offer hfeed hmove =>
    exact ⟨hjob, ⟨queue, hroute⟩, hrunning (by rw [hfeed]; rfl), nofun, nofun⟩
  | finish hfeed hmove =>
    refine ⟨hjob, ⟨queue, hroute⟩, fun _ => rfl, ?_, nofun⟩
    intro e he
    cases he
    rfl
  | drop hfeed hcancelled =>
    exact ⟨hjob, ⟨queue, hroute⟩, hrunning (by rw [hfeed]; rfl), nofun, nofun⟩
  | keep hfeed hcancelled =>
    refine ⟨?_, ⟨queue, ?_⟩, hrunning (by rw [hfeed]; rfl), nofun, nofun⟩
    · exact (Watch.keep_jobId ..).trans hjob
    · exact (Watch.keep_route ..).trans hroute
  | send hfeed =>
    rw [Watch.send_open hroute]
    refine ⟨hjob, ⟨_, rfl⟩, hrunning (by rw [hfeed]; rfl), nofun, ?_⟩
    intro r p hconcluding
    cases hconcluding
    exact List.mem_append_right _ (List.mem_singleton.2 rfl)
  | proceed hfeed hstop =>
    exact ⟨hjob, ⟨queue, hroute⟩, hrunning (by rw [hfeed]; rfl), nofun, nofun⟩
  | stop hfeed hstop =>
    exact ⟨hjob, ⟨queue, hroute⟩, hrunning (by rw [hfeed]; rfl), nofun, nofun⟩
  | trip hfeed =>
    refine ⟨?_, ⟨queue, hroute⟩, hrunning (by rw [hfeed]; rfl), nofun, nofun⟩
    exact (Monitor.trip_jobId ..).trans hjob
  | close hfeed => exact ⟨hjob, ⟨queue, hroute⟩, fun _ => rfl, nofun, nofun⟩
  | @fail e hfeed =>
    obtain ⟨journal, hfinish⟩ := Watch.finish_error_eq x.session.watch e
    rw [hfinish]
    exact ⟨hjob, ⟨queue, hroute⟩, fun _ => rfl, nofun, nofun⟩
  | closed hfeed =>
    refine ⟨?_, ⟨queue, hroute⟩, fun _ => rfl, nofun, nofun⟩
    exact (Monitor.trip_jobId ..).trans hjob
  | leave hfeed => exact ⟨hjob, ⟨queue, hroute⟩, fun _ => rfl, nofun, nofun⟩
  | tell hfeed => exact ⟨hjob, ⟨queue, hroute⟩, fun _ => rfl, nofun, nofun⟩

lemma Fed.rests (h : x.Fed jobId) (hrests : FeedRests x y)
    (hroute : ∃ queue, y.session.watch.route = .display queue true) : y.Fed jobId := by
  obtain ⟨hjob, -, hresult, hreturned, hconcluding⟩ := h
  constructor
  · rw [hrests.jobId, hjob]
  · exact hroute
  · rw [hrests.result, hrests.feed]
    exact hresult
  · rw [hrests.result, hrests.feed]
    exact hreturned
  · rw [hrests.sent, hrests.feed]
    exact hconcluding

lemma take_route (x : Interplay φ) (g : Signal) :
    (x.take g).session.watch.route = x.session.watch.route := rfl

lemma hear_watch (x : Interplay φ) : x.hear.session.watch = x.session.watch := by
  rw [hear, Session.hear]
  rcases x.session.ending with _ | e | _ <;> rfl

/-- The display takes signals out of the queue, and leaves it open. -/
lemma DisplayStep.route (h : DisplayStep x y) {queue : List Signal}
    (hroute : x.session.watch.route = .display queue true) :
    ∃ queue', y.session.watch.route = .display queue' true := by
  cases h with
  | take hdisplay htaken =>
    rw [hroute] at htaken
    cases htaken
    exact ⟨_, rfl⟩
  | hearClosed hdisplay hqueue hclosed hheard hending hover =>
    exact ⟨queue, by rw [take_route, hear_watch, hroute]⟩
  | hearFailed hdisplay hheard hending hover => exact ⟨queue, by rw [hear_watch, hroute]⟩
  | listen hdisplay hheard hending => exact ⟨queue, by rw [hear_watch, hroute]⟩
  | join hdisplay hending =>
    obtain ⟨journal, hjoin⟩ := join_eq hending
    rw [hjoin]
    exact ⟨queue, hroute⟩
  | _ => exact ⟨queue, hroute⟩

lemma post_open {s : Session} {queue : List Signal} (hroute : s.watch.route = .display queue true)
    (g : Signal) :
    s.post g = { s with watch := { s.watch with route := .display (queue ++ [g]) true } } := by
  rw [Session.post, hroute]

/-- **What the feed has noted** stays right, whoever takes a turn. -/
lemma Fed.turn (h : x.Fed jobId) {t : Turn} (hturn : x.turn P t = some y) : y.Fed jobId := by
  obtain ⟨queue, hroute⟩ := h.route
  rcases step_of_turn hturn with ⟨-, hstep⟩ | ⟨-, hstep⟩ | hstep
  · exact h.feed hstep
  · exact h.rests hstep.rests (hstep.route hroute)
  · cases hstep with
    | spinner hothers =>
      rw [post_open hroute]
      exact ⟨h.jobId, ⟨_, rfl⟩, h.result, h.returned, h.concluding⟩
    | interrupt hothers =>
      rw [post_open hroute]
      exact ⟨h.jobId, ⟨_, rfl⟩, h.result, h.returned, h.concluding⟩
    | leave hothers => exact ⟨h.jobId, h.route, h.result, h.returned, h.concluding⟩

/-! ### The reason -/

/-- What a turn of the feed does to the reason: one that is recorded stays, and one that comes new
is the feed's own. -/
structure Records (jobId : String) (x y : Interplay φ) : Prop where
  sent : ∀ r ∈ x.sent, r ∈ y.sent
  result : ∀ e, x.result = some e → y.result = some e
  kept : ∀ reason, x.monitor.reason = some reason → y.monitor.reason = some reason
  given : ∀ reason, y.monitor.reason = some reason →
    x.monitor.reason = some reason ∨ FeedReason jobId y.sent y.result reason
  cancelled : x.monitor.isCancelled = true → y.monitor.isCancelled = true

lemma FeedReason.grows {sent sent' : List Report} {result result' : Option (Except AdminError Unit)}
    {reason : StopReason} (h : FeedReason jobId sent result reason)
    (hsent : ∀ r ∈ sent, r ∈ sent') (hresult : ∀ e, result = some e → result' = some e) :
    FeedReason jobId sent' result' reason := by
  rcases h with ⟨r, hr, hstop⟩ | ⟨rfl, hok⟩
  · exact .inl ⟨r, hsent r hr, hstop⟩
  · exact .inr ⟨rfl, hresult _ hok⟩

/-- A turn that leaves the cancellation as it is. -/
lemma records_same (hcancellation : y.monitor.cancellation = x.monitor.cancellation)
    (hsent : ∀ r ∈ x.sent, r ∈ y.sent) (hresult : ∀ e, x.result = some e → y.result = some e) :
    Records jobId x y := by
  refine ⟨hsent, hresult, ?_, ?_, ?_⟩
  · intro reason hreason
    rw [Monitor.reason, hcancellation]
    exact hreason
  · intro reason hreason
    rw [Monitor.reason, hcancellation] at hreason
    exact .inl hreason
  · intro hcancelled
    rw [Monitor.isCancelled, hcancellation]
    exact hcancelled

/-- A turn that gives a reason. -/
lemma records_given {m : Monitor} {reason : StopReason}
    (hy : y.monitor = m.record reason) (hm : m.cancellation = x.monitor.cancellation)
    (hsent : y.sent = x.sent) (hresult : y.result = x.result)
    (hreason : FeedReason jobId x.sent x.result reason) : Records jobId x y := by
  have hrecorded : y.monitor.reason = x.monitor.reason.or (some reason) := by
    rw [Monitor.reason, hy, Monitor.record_reason, hm]
    rfl
  refine ⟨by rw [hsent]; exact fun r hr => hr, by rw [hresult]; exact fun e he => he, ?_, ?_, ?_⟩
  · intro reason' hreason'
    rw [hrecorded, hreason']
    rfl
  · intro reason' hreason'
    rw [hrecorded] at hreason'
    rcases hold : x.monitor.reason with _ | old
    · rw [hold, Option.none_or, Option.some.injEq] at hreason'
      rw [hsent, hresult, ← hreason']
      exact .inr hreason
    · rw [hold] at hreason'
      exact .inl hreason'
  · intro hcancelled
    rw [Monitor.isCancelled, hy, Monitor.record_tripped, hm]
    exact hcancelled

/-- A turn that trips the signal. -/
lemma records_tripped {reason : StopReason} {first : Bool}
    (hy : y.monitor = x.monitor.trip reason first) (hsent : y.sent = x.sent)
    (hresult : y.result = x.result) : Records jobId x y := by
  have hsame : y.monitor.reason = x.monitor.reason := by
    rw [Monitor.reason, hy, Monitor.trip_reason]
    rfl
  refine ⟨by rw [hsent]; exact fun r hr => hr, by rw [hresult]; exact fun e he => he, ?_, ?_, ?_⟩
  · intro reason' hreason'
    rw [hsame, hreason']
  · intro reason' hreason'
    rw [hsame] at hreason'
    exact .inl hreason'
  · intro _
    rw [Monitor.isCancelled, hy, Monitor.trip_tripped]

lemma FeedStep.records (h : FeedStep P x y) (hfed : x.Fed jobId) : Records jobId x y := by
  cases h with
  | onward hfeed hmove => exact records_same rfl (fun _ hr => hr) (fun _ he => he)
  | offer hfeed hmove => exact records_same rfl (fun _ hr => hr) (fun _ he => he)
  | finish hfeed hmove =>
    refine records_same rfl (fun _ hr => hr) ?_
    intro e he
    have hover := hfed.result (by rw [he]; rfl)
    rw [hfeed] at hover
    cases hover
  | drop hfeed hcancelled => exact records_same rfl (fun _ hr => hr) (fun _ he => he)
  | keep hfeed hrunning =>
    exact records_same (Watch.keep_cancellation ..) (fun _ hr => hr) (fun _ he => he)
  | send hfeed =>
    obtain ⟨queue, hroute⟩ := hfed.route
    refine records_same ?_ (fun _ hr => List.mem_append_left _ hr) (fun _ he => he)
    rw [Watch.send_open hroute]
    rfl
  | proceed hfeed hstop => exact records_same rfl (fun _ hr => hr) (fun _ he => he)
  | stop hfeed hstop =>
    rw [hfed.jobId] at hstop
    exact records_given rfl rfl rfl rfl (.inl ⟨_, hfed.concluding _ _ hfeed, hstop⟩)
  | trip hfeed => exact records_tripped rfl rfl rfl
  | close hfeed => exact records_given rfl rfl rfl rfl (.inr ⟨rfl, hfed.returned _ hfeed⟩)
  | @fail e hfeed =>
    obtain ⟨journal, hfinish⟩ := Watch.finish_error_eq x.session.watch e
    refine records_same ?_ (fun _ hr => hr) (fun _ he => he)
    rw [hfinish]
    rfl
  | closed hfeed => exact records_tripped rfl rfl rfl
  | leave hfeed => exact records_same rfl (fun _ hr => hr) (fun _ he => he)
  | tell hfeed => exact records_same rfl (fun _ hr => hr) (fun _ he => he)

/-- What is known of the reason: before the display gives one, it can only be the feed's, and when
it does, its own is recorded or one that the feed gave before. The display waits for the feed after
the watch was cancelled, and returns after the feed has ended. -/
structure Recorded (jobId : String) (x : Interplay φ) : Prop where
  early : x.display.isEarly = true → ∀ reason, x.monitor.reason = some reason →
    FeedReason jobId x.sent x.result reason
  quit : ∀ q, x.quit = some q → ∃ reason, x.monitor.reason = some reason ∧
    (reason = q.reason ∨ FeedReason jobId q.sent q.result reason)
  late : x.display.isLate = true → x.monitor.isCancelled = true
  joined : x.display = .returned → x.session.ending.isSome

lemma Recorded.rests (h : x.Recorded jobId) (hrecords : Records jobId x y)
    (hrests : DisplayRests x y) : y.Recorded jobId := by
  refine ⟨?_, ?_, ?_, ?_⟩
  · intro hearly reason hreason
    rw [hrests.display] at hearly
    rcases hrecords.given reason hreason with hold | hnew
    · exact (h.early hearly reason hold).grows hrecords.sent hrecords.result
    · exact hnew
  · intro q hq
    rw [hrests.quit] at hq
    obtain ⟨reason, hreason, hcause⟩ := h.quit q hq
    exact ⟨reason, hrecords.kept reason hreason, hcause⟩
  · intro hlate
    rw [hrests.display] at hlate
    exact hrecords.cancelled (h.late hlate)
  · intro hreturned
    rw [hrests.display] at hreturned
    obtain ⟨v, hv⟩ := Option.isSome_iff_exists.1 (h.joined hreturned)
    rw [hrests.ending v hv]
    rfl

/-- Turns of the display that give no reason and do not end its loop. -/
lemma Recorded.stays (h : x.Recorded jobId) (hrests : FeedRests x y)
    (hcancellation : y.monitor.cancellation = x.monitor.cancellation) (hquit : y.quit = x.quit)
    (hearly : x.display.isEarly = true) (hlate : y.display.isLate = false) :
    y.Recorded jobId := by
  refine ⟨?_, ?_, ?_, ?_⟩
  · intro _ reason hreason
    rw [Monitor.reason, hcancellation] at hreason
    rw [hrests.sent, hrests.result]
    exact h.early hearly reason hreason
  · intro q hq
    rw [hquit] at hq
    rw [Monitor.reason, hcancellation]
    exact h.quit q hq
  · intro hlate'
    rw [hlate] at hlate'
    cases hlate'
  · intro hreturned
    rw [hreturned] at hlate
    cases hlate

/-- After a signal the display has ended its loop, or does what the signal asks for. -/
lemma take_display {p : DisplayPlace → Prop} (hclosing : p .closing)
    (hafter : ∀ stop, p (.after stop)) (x : Interplay φ) (g : Signal) : p (x.take g).display := by
  simp only [take]
  split
  · exact hclosing
  · exact hafter _

lemma hear_display {p : DisplayPlace → Prop} (hclosing : p .closing) (hpolling : p .polling)
    (x : Interplay φ) : p x.hear.display := by
  simp only [hear]
  split
  · exact hclosing
  · exact hpolling

lemma isLate_take (x : Interplay φ) (g : Signal) : (x.take g).display.isLate = false :=
  take_display (p := (·.isLate = false)) rfl (fun stop => by cases stop <;> rfl) x g

lemma isLate_hear (x : Interplay φ) : x.hear.display.isLate = false :=
  hear_display (p := (·.isLate = false)) rfl rfl x

lemma Recorded.display (h : x.Recorded jobId) (hstep : DisplayStep x y) : y.Recorded jobId := by
  have hrests := hstep.rests
  have hpolling (hdisplay : x.display = .polling ∨ x.display = .waiting) :
      x.display.isEarly = true := by
    rcases hdisplay with hdisplay | hdisplay <;> rw [hdisplay] <;> rfl
  cases hstep with
  | begin hdisplay =>
    refine h.stays hrests rfl rfl (by rw [hdisplay]; rfl) ?_
    dsimp only
    split <;> rfl
  | take hdisplay hroute =>
    exact h.stays hrests rfl rfl (hpolling hdisplay) (isLate_take _ _)
  | wait hdisplay hqueue hopen => exact h.stays hrests rfl rfl (hpolling (.inl hdisplay)) rfl
  | closed hdisplay hqueue hclosed hheard =>
    exact h.stays hrests rfl rfl (hpolling hdisplay) (isLate_take _ _)
  | hearClosed hdisplay hqueue hclosed hheard hending hover =>
    refine h.stays hrests ?_ rfl (hpolling hdisplay) (isLate_take _ _)
    show x.hear.session.watch.monitor.cancellation = _
    rw [hear_watch]
    rfl
  | hearFailed hdisplay hheard hending hover =>
    refine h.stays hrests ?_ rfl (hpolling hdisplay) (isLate_hear _)
    rw [monitor, hear_watch]
    rfl
  | listen hdisplay hheard hending =>
    refine h.stays hrests ?_ rfl (hpolling (.inr hdisplay)) (isLate_hear _)
    rw [monitor, hear_watch]
    rfl
  | @obey reason hdisplay =>
    have hrecorded : (x.monitor.record reason).reason = x.monitor.reason.or (some reason) :=
      Monitor.record_reason ..
    refine ⟨by rintro ⟨⟩, ?_, by rintro ⟨⟩, by rintro ⟨⟩⟩
    intro q hq
    cases hq
    rcases hold : x.monitor.reason with _ | old
    · rw [hold] at hrecorded
      exact ⟨reason, hrecorded, .inl rfl⟩
    · rw [hold] at hrecorded
      exact ⟨old, hrecorded, .inr (h.early (by rw [hdisplay]; rfl) old hold)⟩
  | trip hdisplay =>
    refine ⟨by rintro ⟨⟩, ?_, by rintro ⟨⟩, by rintro ⟨⟩⟩
    intro q hq
    obtain ⟨reason, hreason, hcause⟩ := h.quit q hq
    exact ⟨reason, (Monitor.trip_reason ..).trans hreason, hcause⟩
  | close hdisplay =>
    refine ⟨by rintro ⟨⟩, ?_, by rintro ⟨⟩, by rintro ⟨⟩⟩
    intro q hq
    obtain ⟨reason, hreason, hcause⟩ := h.quit q hq
    refine ⟨reason, (Monitor.record_reason ..).trans ?_, hcause⟩
    rw [← Monitor.reason, hreason]
    rfl
  | restore hdisplay =>
    refine ⟨by rintro ⟨⟩, ?_, fun _ => Monitor.trip_tripped .., by rintro ⟨⟩⟩
    intro q hq
    obtain ⟨reason, hreason, hcause⟩ := h.quit q hq
    exact ⟨reason, (Monitor.trip_reason ..).trans hreason, hcause⟩
  | join hdisplay hending =>
    obtain ⟨journal, hjoin⟩ := join_eq hending
    rw [hjoin]
    exact ⟨by rintro ⟨⟩, h.quit, fun _ => h.late (by rw [hdisplay]; rfl), fun _ => hending⟩

/-- **What is known of the reason** stays right, whoever takes a turn. -/
lemma Recorded.turn (h : x.Recorded jobId) (hfed : x.Fed jobId) (hlast : x.EndsLast) {t : Turn}
    (hturn : x.turn P t = some y) : y.Recorded jobId := by
  rcases step_of_turn hturn with ⟨-, hstep⟩ | ⟨-, hstep⟩ | hstep
  · exact h.rests (hstep.records hfed) (hstep.rests hlast)
  · exact h.display hstep
  · refine h.rests ?_ hstep.rests
    obtain ⟨queue, hroute⟩ := hfed.route
    cases hstep with
    | spinner hothers =>
      rw [post_open hroute]
      exact records_same rfl (fun _ hr => hr) (fun _ he => he)
    | interrupt hothers =>
      rw [post_open hroute]
      exact records_same rfl (fun _ hr => hr) (fun _ he => he)
    | leave hothers => exact records_same rfl (fun _ hr => hr) (fun _ he => he)

theorem recorded_run {m : Monitor} {screen : Screen} {p : φ} {others : Bool} {ts : List Turn}
    (hjob : m.jobId = jobId) (hfresh : m.cancellation = {})
    (hrun : (start m screen p others).run P ts = some x) : x.Fed jobId ∧ x.Recorded jobId := by
  have hall : (x.Fed jobId ∧ x.Recorded jobId) ∧ x.EndsLast := by
    refine run_invariant (I := fun x => (x.Fed jobId ∧ x.Recorded jobId) ∧ x.EndsLast) ?_ ?_ hrun
    · rintro x t y - ⟨⟨hfed, hrecorded⟩, hlast⟩ hturn
      exact ⟨⟨hfed.turn hturn, hrecorded.turn hfed hlast hturn⟩, hlast.turn hturn⟩
    · refine ⟨⟨⟨hjob, ⟨[], rfl⟩, nofun, nofun, nofun⟩, ?_, nofun, nofun, nofun⟩, nofun, nofun⟩
      intro _ reason hreason
      have hnone : m.reason = none := by
        rw [Monitor.reason, hfresh]
      cases hnone.symm.trans hreason
  exact hall.1

/-! ### The end of a session -/

section Returned

variable {theme : Theme} {out : Output}

/-- The screen of a session before its first frame. -/
abbrev blankScreen (jobId : String) (out : Output) (theme : Theme) : Screen :=
  { display := { jobId }, live := { out }, theme }

end Returned

end Interplay

end JobWatch
