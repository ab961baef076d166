import JobWatch.Proofs.Session.Interplay

/-!
What the turns of an interplay can do.

A turn of the feed leaves alone what belongs to the display, and a turn of the display what belongs
to the feed. Both are listed once, with the conditions of every case.
-/

namespace JobWatch

namespace Watch

variable {w : Watch}

lemma send_open {queue : List Signal} (hroute : w.route = .display queue true) (r : Report)
    (t : Tick) : w.send r t = { w with route := .display (queue ++ [.report r]) true } := by
  rw [send, hroute]

/-- A failed end leaves at most a note. -/
lemma finish_error_eq (w : Watch) (e : AdminError) :
    ∃ journal, (w.finish (.error e)).1 = { w with monitor := { w.monitor with journal } } := by
  rw [finish]
  dsimp only
  split
  · exact ⟨_, rfl⟩
  · exact ⟨w.monitor.journal, rfl⟩

lemma cancel_target (w : Watch) (reason : StopReason) :
    (w.cancel reason).monitor.target = w.monitor.target := by
  simp [cancel, Monitor.cancel_eq]

/-- A cancel is seen by everybody. -/
lemma cancel_isCancelled (w : Watch) (reason : StopReason) :
    (w.cancel reason).isCancelled = true := by
  rw [isCancelled, cancel, Monitor.cancel_eq, Monitor.isCancelled, Monitor.trip_tripped]

lemma finish_target (w : Watch) (e : Except AdminError Unit) :
    (w.finish e).1.monitor.target = w.monitor.target := by
  rcases e with e | u
  · obtain ⟨journal, hfinish⟩ := w.finish_error_eq e
    rw [hfinish]
  · exact cancel_target _ .feedClosed

lemma deliver_target (w : Watch) (r : Report) :
    (w.deliver r).monitor.target = w.monitor.target := by
  have hsend (w : Watch) (t : Tick) : (w.send r t).monitor.target = w.monitor.target := by
    rw [send]
    split
    · split
      · rfl
      · split
        · rw [emit]
          split <;> rfl
        · rfl
    · rfl
    · exact cancel_target _ _
  rw [deliver]
  split
  · rfl
  · dsimp only
    rw [conclude]
    split
    · rw [cancel_target, hsend, keep_target]
    · rw [hsend, keep_target]

end Watch

namespace Interplay

variable {φ : Type}

/-- What a turn of the feed can do. -/
inductive FeedStep (P : Call φ) (x : Interplay φ) : Interplay φ → Prop where
  | onward {p p' : φ} (hfeed : x.feed = .calling p)
      (hmove : P p x.session.watch.isCancelled = some (.onward p')) :
      FeedStep P x { x with feed := .calling p' }
  | offer {p p' : φ} {r : Report} (hfeed : x.feed = .calling p)
      (hmove : P p x.session.watch.isCancelled = some (.deliver r p')) :
      FeedStep P x { x with feed := .offering r p' }
  | finish {p : φ} {e : Except AdminError Unit} (hfeed : x.feed = .calling p)
      (hmove : P p x.session.watch.isCancelled = some (.finish e)) :
      FeedStep P x { x with feed := .returned e, result := some e }
  | drop {r : Report} {p : φ} (hfeed : x.feed = .offering r p)
      (hcancelled : x.session.watch.isCancelled = true) :
      FeedStep P x { x with feed := .calling p }
  | keep {r : Report} {p : φ} (hfeed : x.feed = .offering r p)
      (hrunning : x.session.watch.isCancelled = false) :
      FeedStep P x
        { x.withWatch (x.session.watch.keep (r.lookup x.monitor.jobId)) with feed := .sending r p }
  | send {r : Report} {p : φ} (hfeed : x.feed = .sending r p) :
      FeedStep P x
        { x.withWatch (x.session.watch.send r (x.tick r)) with
          feed := .concluding r p, sent := x.sent ++ [r] }
  | proceed {r : Report} {p : φ} (hfeed : x.feed = .concluding r p)
      (hstop : r.stop? x.monitor.jobId = none) :
      FeedStep P x { x with feed := .calling p }
  | stop {r : Report} {p : φ} {reason : StopReason} (hfeed : x.feed = .concluding r p)
      (hstop : r.stop? x.monitor.jobId = some reason) :
      FeedStep P x { x.withMonitor (x.monitor.record reason) with
        feed := .tripping reason x.monitor.reason.isNone p }
  | trip {reason : StopReason} {first : Bool} {p : φ} (hfeed : x.feed = .tripping reason first p) :
      FeedStep P x { x.withMonitor (x.monitor.trip reason first) with feed := .calling p }
  | close (hfeed : x.feed = .returned (.ok ())) :
      FeedStep P x
        { x.withMonitor ((x.monitor.note .info .subscriber
            ("metrics feed for job " ++ x.monitor.jobId ++ " closed by server")).record
              .feedClosed) with
          feed := .closing x.monitor.reason.isNone }
  | fail {e : AdminError} (hfeed : x.feed = .returned (.error e)) :
      FeedStep P x { x.withWatch (x.session.watch.finish (.error e)).1 with
        feed := .leaving (x.session.watch.finish (.error e)).2 }
  | closed {first : Bool} (hfeed : x.feed = .closing first) :
      FeedStep P x { x.withMonitor (x.monitor.trip .feedClosed first) with
        feed := .leaving (.ok ()) }
  | leave {v : Except MonitorError Unit} (hfeed : x.feed = .leaving v) :
      FeedStep P x { x with feed := .left v }
  | tell {v : Except MonitorError Unit} (hfeed : x.feed = .left v) :
      FeedStep P x { x with session := { x.session with ending := some v }, feed := .done }

variable {P : Call φ} {x y : Interplay φ}

lemma tick_stop (x : Interplay φ) (r : Report) :
    (x.tick r).stop? = r.stop? x.monitor.jobId := by
  rw [tick, Watch.tick_stop?, Report.stop?]

theorem feedStep_of_turn (h : x.feedTurn P = some y) : FeedStep P x y := by
  cases hfeed : x.feed with
  | calling p =>
    simp only [feedTurn, hfeed] at h
    rcases hmove : P p x.session.watch.isCancelled with _ | p' | ⟨r, p'⟩ | e
    · simp [hmove] at h
    · simp only [hmove, Option.some.injEq] at h
      exact h ▸ .onward hfeed hmove
    · simp only [hmove, Option.some.injEq] at h
      exact h ▸ .offer hfeed hmove
    · simp only [hmove, Option.some.injEq] at h
      exact h ▸ .finish hfeed hmove
  | offering r p =>
    simp only [feedTurn, hfeed] at h
    cases hcancelled : x.session.watch.isCancelled with
    | true =>
      simp only [hcancelled, if_true, Option.some.injEq] at h
      exact h ▸ .drop hfeed hcancelled
    | false =>
      simp only [hcancelled, Bool.false_eq_true, if_false, Option.some.injEq] at h
      exact h ▸ .keep hfeed hcancelled
  | sending r p =>
    simp only [feedTurn, hfeed, Option.some.injEq] at h
    exact h ▸ .send hfeed
  | concluding r p =>
    simp only [feedTurn, hfeed, tick_stop] at h
    rcases hstop : r.stop? x.monitor.jobId with _ | reason
    · simp only [hstop, Option.some.injEq] at h
      exact h ▸ .proceed hfeed hstop
    · simp only [hstop, Option.some.injEq] at h
      exact h ▸ .stop hfeed hstop
  | tripping reason first p =>
    simp only [feedTurn, hfeed, Option.some.injEq] at h
    exact h ▸ .trip hfeed
  | returned e =>
    rcases e with e | _
    · simp only [feedTurn, hfeed, Option.some.injEq] at h
      exact h ▸ .fail hfeed
    · simp only [feedTurn, hfeed, Option.some.injEq] at h
      exact h ▸ .close hfeed
  | closing first =>
    simp only [feedTurn, hfeed, Option.some.injEq] at h
    exact h ▸ .closed hfeed
  | leaving v =>
    simp only [feedTurn, hfeed, Option.some.injEq] at h
    exact h ▸ .leave hfeed
  | left v =>
    simp only [feedTurn, hfeed, Option.some.injEq] at h
    exact h ▸ .tell hfeed
  | done => simp [feedTurn, hfeed] at h

/-- What a turn of the display can do, with or without the news of the end of the feed. -/
inductive DisplayStep (x : Interplay φ) : Interplay φ → Prop where
  | begin (hdisplay : x.display = .starting) :
      DisplayStep x
        { x with
          session := x.session.redraw
          display := if x.session.redraw.isOver then .closing else .polling }
  | take {g : Signal} {queue : List Signal} {isOpen : Bool}
      (hdisplay : x.display = .polling ∨ x.display = .waiting)
      (hroute : x.session.watch.route = .display (g :: queue) isOpen) :
      DisplayStep x
        ((x.withWatch { x.session.watch with route := .display queue isOpen }).take g)
  | wait (hdisplay : x.display = .polling) (hqueue : x.queue = []) (hopen : x.isClosed = false) :
      DisplayStep x { x with display := .waiting }
  | closed (hdisplay : x.display = .polling ∨ x.display = .waiting) (hqueue : x.queue = [])
      (hclosed : x.isClosed = true) (hheard : x.session.heard = true) :
      DisplayStep x (x.take .feedClosed)
  | hearClosed (hdisplay : x.display = .polling ∨ x.display = .waiting) (hqueue : x.queue = [])
      (hclosed : x.isClosed = true) (hheard : x.session.heard = false)
      (hending : x.session.ending.isSome) (hover : x.hear.session.isOver = false) :
      DisplayStep x (x.hear.take .feedClosed)
  | hearFailed (hdisplay : x.display = .polling ∨ x.display = .waiting)
      (hheard : x.session.heard = false) (hending : x.session.ending.isSome)
      (hover : x.hear.session.isOver = true) :
      DisplayStep x x.hear
  | listen (hdisplay : x.display = .waiting) (hheard : x.session.heard = false)
      (hending : x.session.ending.isSome) :
      DisplayStep x x.hear
  | obey {reason : StopReason} (hdisplay : x.display = .obeying reason) :
      DisplayStep x
        { x.withMonitor ((x.monitor.note .info .effects
            ("Display quitting: " ++ reason.text)).record reason) with
          display := .tripping reason x.monitor.reason.isNone
          quit := some ⟨reason, x.sent, x.result⟩ }
  | trip {reason : StopReason} {first : Bool} (hdisplay : x.display = .tripping reason first) :
      DisplayStep x
        { x with
          session :=
            { x.session with
              watch := { x.session.watch with monitor := x.monitor.trip reason first }
              verdict := some (.ok ()) }
          display := .closing }
  | close (hdisplay : x.display = .closing) :
      DisplayStep x
        { x.withMonitor (x.monitor.record .shutdown) with
          display := .restoring x.monitor.reason.isNone }
  | restore {first : Bool} (hdisplay : x.display = .restoring first) :
      DisplayStep x
        { x with
          session := (x.withMonitor (x.monitor.trip .shutdown first)).session.restore
          display := .joining }
  | join (hdisplay : x.display = .joining) (hending : x.session.ending.isSome) :
      DisplayStep x { x with session := x.session.join, display := .returned }

lemma displayStep_of_takeEnd (hdisplay : x.display = .polling ∨ x.display = .waiting)
    (hqueue : x.queue = []) (hclosed : x.isClosed = true) (h : x.takeEnd = some y) :
    DisplayStep x y := by
  rw [takeEnd] at h
  cases hheard : x.session.heard with
  | true =>
    simp only [hheard, if_true, Option.some.injEq] at h
    exact h ▸ .closed hdisplay hqueue hclosed hheard
  | false =>
    rcases hending : x.session.ending with _ | v
    · simp [hheard, hending] at h
    · have hsome : x.session.ending.isSome := by rw [hending]; rfl
      cases hover : x.hear.session.isOver with
      | true =>
        simp only [hheard, hending, hover, Bool.false_eq_true, if_false, if_true,
          Option.isNone_some, Option.some.injEq] at h
        exact h ▸ .hearFailed hdisplay hheard hsome hover
      | false =>
        simp only [hheard, hending, hover, Bool.false_eq_true, if_false, Option.isNone_some,
          Option.some.injEq] at h
        exact h ▸ .hearClosed hdisplay hqueue hclosed hheard hsome hover

lemma displayStep_of_poll (hdisplay : x.display = .polling ∨ x.display = .waiting)
    (h : x.poll = some y) : DisplayStep x y := by
  -- without a signal in the queue, whatever the route is
  have hempty (hqueue : x.queue = [])
      (h : (if x.isClosed then x.takeEnd
        else if x.display = .polling then some { x with display := .waiting } else none) =
          some y) : DisplayStep x y := by
    cases hclosed : x.isClosed with
    | true =>
      rw [hclosed, if_pos rfl] at h
      exact displayStep_of_takeEnd hdisplay hqueue hclosed h
    | false =>
      rw [hclosed, if_neg (by simp)] at h
      rcases hdisplay with hpolling | hwaiting
      · rw [if_pos hpolling, Option.some.injEq] at h
        exact h ▸ .wait hpolling hqueue hclosed
      · simp [hwaiting] at h
  rcases hroute : x.session.watch.route with out | ⟨_ | ⟨g, queue⟩, isOpen⟩
  · exact hempty (by rw [queue, hroute]; rfl) (by simpa only [poll, hroute] using h)
  · exact hempty (by rw [queue, hroute]; rfl) (by simpa only [poll, hroute] using h)
  · simp only [poll, hroute, Option.some.injEq] at h
    exact h ▸ .take hdisplay hroute

theorem displayStep_of_turn (h : x.displayTurn = some y) : DisplayStep x y := by
  cases hdisplay : x.display with
  | starting =>
    simp only [displayTurn, hdisplay, Option.some.injEq] at h
    exact h ▸ .begin hdisplay
  | polling =>
    simp only [displayTurn, hdisplay] at h
    exact displayStep_of_poll (.inl hdisplay) h
  | waiting =>
    simp only [displayTurn, hdisplay] at h
    exact displayStep_of_poll (.inr hdisplay) h
  | obeying reason =>
    simp only [displayTurn, hdisplay, Option.some.injEq] at h
    exact h ▸ .obey hdisplay
  | tripping reason first =>
    simp only [displayTurn, hdisplay, Option.some.injEq] at h
    exact h ▸ .trip hdisplay
  | closing =>
    simp only [displayTurn, hdisplay, Option.some.injEq] at h
    exact h ▸ .close hdisplay
  | restoring first =>
    simp only [displayTurn, hdisplay, Option.some.injEq] at h
    exact h ▸ .restore hdisplay
  | joining =>
    simp only [displayTurn, hdisplay] at h
    split at h
    · next hending =>
      rw [Option.some.injEq] at h
      exact h ▸ .join hdisplay hending
    · simp at h
  | returned => simp [displayTurn, hdisplay] at h

/-- What the others do: they put a signal into the queue, or leave. -/
inductive OtherStep (x : Interplay φ) : Turn → Interplay φ → Prop where
  | spinner (hothers : x.others = true) :
      OtherStep x .spinner { x with session := x.session.post .spinner }
  | interrupt (hothers : x.others = true) :
      OtherStep x .interrupt { x with session := x.session.post .interrupt }
  | leave (hothers : x.others = true) : OtherStep x .leave { x with others := false }

/-- **What a turn can do.** -/
theorem step_of_turn {t : Turn} (h : x.turn P t = some y) :
    (t = .feed ∧ FeedStep P x y) ∨ ((t = .display ∨ t = .listen) ∧ DisplayStep x y) ∨
      OtherStep x t y := by
  cases t with
  | feed => exact .inl ⟨rfl, feedStep_of_turn h⟩
  | display => exact .inr (.inl ⟨.inl rfl, displayStep_of_turn h⟩)
  | listen =>
    simp only [turn, listen] at h
    split at h
    · next hcan =>
      obtain ⟨hdisplay, hending, hheard⟩ := hcan
      rw [Option.some.injEq] at h
      exact .inr (.inl ⟨.inr rfl, h ▸ .listen hdisplay (by simpa using hheard) hending⟩)
    · simp at h
  | spinner =>
    simp only [turn] at h
    split at h
    · next hothers =>
      rw [Option.some.injEq] at h
      exact .inr (.inr (h ▸ .spinner hothers))
    · simp at h
  | interrupt =>
    simp only [turn] at h
    split at h
    · next hothers =>
      rw [Option.some.injEq] at h
      exact .inr (.inr (h ▸ .interrupt hothers))
    · simp at h
  | leave =>
    simp only [turn] at h
    split at h
    · next hothers =>
      rw [Option.some.injEq] at h
      exact .inr (.inr (h ▸ .leave hothers))
    · simp at h

/-! ### What is left alone -/

/-- Nothing of the display's has changed, and what the feed has told stays. -/
structure DisplayRests (x y : Interplay φ) : Prop where
  display : y.display = x.display
  screen : y.session.screen = x.session.screen
  verdict : y.session.verdict = x.session.verdict
  heard : y.session.heard = x.session.heard
  taken : y.taken = x.taken
  quit : y.quit = x.quit
  ending : ∀ v, x.session.ending = some v → y.session.ending = some v

/-- The news of the end of the feed is the last that it gives. -/
def EndsLast (x : Interplay φ) : Prop := x.session.ending.isSome ↔ x.feed = .done

lemma FeedStep.rests (h : FeedStep P x y) (hlast : x.EndsLast) : DisplayRests x y := by
  have hending {v : Except MonitorError Unit} {e : Option (Except MonitorError Unit)}
      (hfeed : x.feed = .left v) : ∀ v, x.session.ending = some v → e = some v := by
    intro v' hv'
    have hdone := hlast.1 (by rw [hv']; rfl)
    rw [hfeed] at hdone
    cases hdone
  cases h with
  | tell hfeed => exact ⟨rfl, rfl, rfl, rfl, rfl, rfl, hending hfeed⟩
  | _ => exact ⟨rfl, rfl, rfl, rfl, rfl, rfl, fun _ hv => hv⟩

/-- Signals of others change the queue at most. -/
lemma post_eq (s : Session) (g : Signal) :
    ∃ route, s.post g = { s with watch := { s.watch with route } } := by
  rw [Session.post]
  split
  · exact ⟨_, rfl⟩
  · exact ⟨s.watch.route, rfl⟩

lemma OtherStep.rests {t : Turn} (h : OtherStep x t y) : DisplayRests x y := by
  cases h with
  | spinner hothers =>
    obtain ⟨route, hpost⟩ := post_eq x.session .spinner
    rw [hpost]
    exact ⟨rfl, rfl, rfl, rfl, rfl, rfl, fun _ hv => hv⟩
  | interrupt hothers =>
    obtain ⟨route, hpost⟩ := post_eq x.session .interrupt
    rw [hpost]
    exact ⟨rfl, rfl, rfl, rfl, rfl, rfl, fun _ hv => hv⟩
  | leave hothers => exact ⟨rfl, rfl, rfl, rfl, rfl, rfl, fun _ hv => hv⟩

/-- Nothing of the feed's has changed. -/
structure FeedRests (x y : Interplay φ) : Prop where
  feed : y.feed = x.feed
  others : y.others = x.others
  sent : y.sent = x.sent
  result : y.result = x.result
  ending : y.session.ending = x.session.ending
  target : y.monitor.target = x.monitor.target
  jobId : y.monitor.jobId = x.monitor.jobId
  latest : y.monitor.latest = x.monitor.latest

lemma hear_rests (hending : x.session.ending.isSome) : FeedRests x x.hear := by
  rw [Option.isSome_iff_exists] at hending
  obtain ⟨v, hv⟩ := hending
  rcases v with e | _
  · simp only [hear, Session.hear, hv]
    exact ⟨rfl, rfl, rfl, rfl, hv.symm, rfl, rfl, rfl⟩
  · simp only [hear, Session.hear, hv]
    exact ⟨rfl, rfl, rfl, rfl, hv.symm, rfl, rfl, rfl⟩

lemma take_rests (x : Interplay φ) (g : Signal) : FeedRests x (x.take g) :=
  ⟨rfl, rfl, rfl, rfl, rfl, rfl, rfl, rfl⟩

/-- A session whose feed has ended is joined without any wait; at most a note is left. -/
lemma join_eq {s : Session} (hending : s.ending.isSome) :
    ∃ journal, s.join =
      { s with watch := { s.watch with monitor := { s.watch.monitor with journal } } } := by
  rw [Session.join, if_pos hending]
  dsimp only
  split
  · exact ⟨_, rfl⟩
  · exact ⟨s.watch.monitor.journal, rfl⟩

lemma FeedRests.trans {z : Interplay φ} (h : FeedRests x y) (h' : FeedRests y z) :
    FeedRests x z :=
  ⟨h'.feed.trans h.feed, h'.others.trans h.others, h'.sent.trans h.sent,
    h'.result.trans h.result, h'.ending.trans h.ending, h'.target.trans h.target,
    h'.jobId.trans h.jobId, h'.latest.trans h.latest⟩

lemma DisplayStep.rests (h : DisplayStep x y) : FeedRests x y := by
  cases h with
  | take hdisplay hroute =>
    refine FeedRests.trans ?_ (take_rests _ _)
    exact ⟨rfl, rfl, rfl, rfl, rfl, rfl, rfl, rfl⟩
  | closed hdisplay hqueue hclosed hheard => exact take_rests x .feedClosed
  | hearClosed hdisplay hqueue hclosed hheard hending hover =>
    exact (hear_rests hending).trans (take_rests _ _)
  | hearFailed hdisplay hheard hending hover => exact hear_rests hending
  | listen hdisplay hheard hending => exact hear_rests hending
  | join hdisplay hending =>
    obtain ⟨journal, hjoin⟩ := join_eq hending
    rw [hjoin]
    exact ⟨rfl, rfl, rfl, rfl, rfl, rfl, rfl, rfl⟩
  | trip hdisplay =>
    exact ⟨rfl, rfl, rfl, rfl, rfl, Monitor.trip_target .., Monitor.trip_jobId ..,
      Monitor.trip_latest ..⟩
  | restore hdisplay =>
    exact ⟨rfl, rfl, rfl, rfl, rfl, Monitor.trip_target .., Monitor.trip_jobId ..,
      Monitor.trip_latest ..⟩
  | _ => exact ⟨rfl, rfl, rfl, rfl, rfl, rfl, rfl, rfl⟩

lemma FeedStep.ne_done (h : FeedStep P x y) : x.feed ≠ .done := by
  cases h with
  | _ hfeed =>
    rw [hfeed]
    exact nofun

/-- The news of the end of the feed stays its last. -/
lemma EndsLast.turn (hlast : x.EndsLast) {t : Turn} (h : x.turn P t = some y) : y.EndsLast := by
  rw [EndsLast] at hlast ⊢
  rcases step_of_turn h with ⟨-, h⟩ | ⟨-, h⟩ | h
  · cases h with
    | tell hfeed => exact ⟨fun _ => rfl, fun _ => rfl⟩
    | _ hfeed =>
      have hnone := hlast.not.2 (by rw [hfeed]; simp)
      exact ⟨fun hsome => absurd hsome hnone, fun hdone => by cases hdone⟩
  · rw [h.rests.ending, h.rests.feed]
    exact hlast
  · cases h with
    | spinner hothers =>
      obtain ⟨route, hpost⟩ := post_eq x.session .spinner
      rw [hpost]
      exact hlast
    | interrupt hothers =>
      obtain ⟨route, hpost⟩ := post_eq x.session .interrupt
      rw [hpost]
      exact hlast
    | leave hothers => exact hlast

end Interplay

end JobWatch
