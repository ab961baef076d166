import JobWatch.Proofs.Session.Teardown

/-!
Schedules for the operations of a session.

A display that takes all that is in its queue, and then hears of the end of the feed, does so in
turns of an interplay; a session that is closed and joined as well. The turns that make up such an
operation leave the rest of the interplay as it is.
-/

namespace JobWatch

/-! ### Operations of a session -/

namespace Session

variable {s : Session} {g : Signal}

/-- A session with another route. -/
def withRoute (s : Session) (r : Route) : Session := { s with watch := { s.watch with route := r } }

/-- A session goes on: its display runs, and has not heard of the end of the feed. -/
structure Goes (s : Session) : Prop where
  running : s.isOver = false
  heard : s.heard = false
  quitting : s.screen.display.quitting = false

/-- A signal changes nothing but the screen, whether the session is over, and whether the watch is
cancelled. -/
lemma take_frame (s : Session) (g : Signal) :
    ∃ monitor screen verdict,
      s.take g = { s with watch := { s.watch with monitor }, screen, verdict } := by
  simp only [take]
  split
  · exact ⟨s.watch.monitor, _, _, rfl⟩
  · exact ⟨_, _, _, rfl⟩

/-- A session that goes on after a signal was given no reason to stop. -/
lemma take_running (h : (s.take g).isOver = false) :
    (s.screen.display.update g).2 = none ∧
      (s.take g).screen.display.quitting = (s.screen.display.update g).1.quitting := by
  obtain ⟨screen, e, hredraw⟩ : ∃ screen e,
      ({ s.screen with display := (s.screen.display.update g).1 } : Screen).redraw = (screen, e) :=
    ⟨_, _, rfl⟩
  have hquitting : screen.display.quitting = (s.screen.display.update g).1.quitting := by
    have hdisplay := Screen.redraw_display
      { s.screen with display := (s.screen.display.update g).1 }
    rw [hredraw] at hdisplay
    exact (congrArg Display.quitting hdisplay :)
  simp only [take, Screen.update, redraw, hredraw] at h ⊢
  cases e with
  | some e => cases h
  | none =>
    cases hstop : (s.screen.display.update g).2 with
    | some reason =>
      simp only [hstop] at h
      cases h
    | none => exact ⟨rfl, hquitting⟩

lemma Goes.take (h : s.Goes) (hover : (s.take g).isOver = false) : (s.take g).Goes := by
  obtain ⟨hstop, hquitting⟩ := take_running hover
  obtain ⟨monitor, screen, verdict, htake⟩ := take_frame s g
  refine ⟨hover, ?_, ?_⟩
  · rw [htake]
    exact h.heard
  · rw [hquitting, Display.update_quitting, hstop, h.quitting]
    rfl

/-- A display that runs is ended by the end of the feed. -/
lemma take_feedClosed (h : s.screen.display.quitting = false) :
    (s.take .feedClosed).isOver = true := by
  cases hover : (s.take .feedClosed).isOver with
  | true => rfl
  | false =>
    obtain ⟨hstop, -⟩ := take_running hover
    rw [Display.update, h] at hstop
    cases hstop

lemma takeSome_over (h : s.isOver = true) (n : Nat) : s.takeSome n = s := by
  cases n with
  | zero => rfl
  | succ n => rw [takeSome, if_pos h]

lemma takeSome_succ (h : s.isOver = false) (n : Nat) :
    s.takeSome (n + 1) = s.takeNext.takeSome n := by
  rw [takeSome, if_neg (by rw [h]; simp)]

/-- A session without signals in its queue waits. -/
lemma takeNext_nil (h : s.watch.route.queue = []) : s.takeNext = s := by
  rw [takeNext]
  split
  · next hroute =>
    rw [hroute] at h
    cases h
  · rfl

/-- The first signal of the queue is taken, and nothing else changes. -/
lemma takeNext_cons {queue : List Signal} {isOpen : Bool}
    (h : s.watch.route = .display (g :: queue) isOpen) :
    s.takeNext = (s.withRoute (.display queue isOpen)).take g := by
  rw [takeNext, h]
  rfl

lemma Goes.withRoute (h : s.Goes) (r : Route) : (s.withRoute r).Goes :=
  ⟨h.running, h.heard, h.quitting⟩

lemma takeNext_ending (s : Session) : s.takeNext.ending = s.ending := by
  rw [takeNext]
  split
  · next g queue isOpen hroute =>
    obtain ⟨monitor, screen, verdict, htake⟩ := take_frame (s.withRoute (.display queue isOpen)) g
    exact (congrArg Session.ending htake :)
  · rfl

lemma takeSome_ending (n : Nat) (s : Session) : (s.takeSome n).ending = s.ending := by
  induction n generalizing s with
  | zero => rfl
  | succ n ih =>
    rw [takeSome]
    split
    · rfl
    · rw [ih, takeNext_ending]

lemma hear_ending (s : Session) : s.hear.ending = s.ending := by
  rw [hear]
  split
  · rfl
  · next h => exact h.symm ▸ rfl
  · next h => exact h.symm ▸ rfl

/-- A display that takes what has come does not end the feed. -/
lemma settle_ending (s : Session) : s.settle.ending = s.ending := by
  have hqueued : s.takeQueued.ending = s.ending := takeSome_ending _ s
  simp only [settle]
  split
  · exact hqueued
  · split
    · rw [hear_ending, hqueued]
    · obtain ⟨monitor, screen, verdict, htake⟩ := take_frame s.takeQueued.hear .feedClosed
      rw [htake]
      exact (hear_ending _).trans hqueued

end Session

namespace Interplay

variable {φ : Type} {P : Call φ} {jobId : String} {x y z : Interplay φ}

/-! ### Reaching -/

/-- Turns other than an interrupt lead from one interplay to the other. -/
def Reaches (P : Call φ) (x y : Interplay φ) : Prop :=
  ∃ ts, Turn.interrupt ∉ ts ∧ x.run P ts = some y

lemma Reaches.refl (x : Interplay φ) : x.Reaches P x := ⟨[], List.not_mem_nil, rfl⟩

lemma Reaches.trans (h : x.Reaches P y) (h' : y.Reaches P z) : x.Reaches P z := by
  obtain ⟨ts, hts, hrun⟩ := h
  obtain ⟨us, hus, hrun'⟩ := h'
  refine ⟨ts ++ us, fun hmem => (List.mem_append.1 hmem).elim hts hus, ?_⟩
  rw [run_append, hrun, Option.bind_some, hrun']

lemma Reaches.replicate {t : Turn} {n : Nat} (ht : t ≠ .interrupt)
    (h : x.run P (List.replicate n t) = some y) : x.Reaches P y :=
  ⟨_, fun hmem => ht (List.eq_of_mem_replicate hmem).symm, h⟩

lemma Reaches.turn {t : Turn} (ht : t ≠ .interrupt) (h : x.turn P t = some y) :
    x.Reaches P y := by
  refine .replicate (n := 1) ht ?_
  rw [List.replicate_one, run_cons, h]
  rfl

lemma Reaches.fed (h : x.Reaches P y) (hfed : x.Fed jobId) : y.Fed jobId := by
  obtain ⟨ts, -, hrun⟩ := h
  exact run_invariant (I := Fed jobId) (fun x t y _ hfed hturn => hfed.turn hturn) hfed hrun

/-! ### The display -/

/-- Where a display is after an operation of its session. -/
def shown (s : Session) : DisplayPlace := if s.isOver then .closing else .polling

/-- A display takes signals as its session does. -/
lemma reaches_takeSome (n : Nat) (hdisplay : x.display = .polling) (hgoes : x.session.Goes) :
    ∃ taken quit,
      x.Reaches P { x with
        session := x.session.takeSome n
        display := shown (x.session.takeSome n)
        taken
        quit } ∧
      ((x.session.takeSome n).isOver = false → (x.session.takeSome n).Goes ∧
        (x.session.takeSome n).watch.route.queue = x.session.watch.route.queue.drop n) := by
  induction n generalizing x with
  | zero =>
    refine ⟨x.taken, x.quit, ?_, fun _ => ⟨hgoes, rfl⟩⟩
    have hshown : shown (x.session.takeSome 0) = x.display := by
      rw [shown, Session.takeSome, hgoes.running, hdisplay]
      rfl
    rw [hshown]
    exact .refl x
  | succ n ih =>
    rw [Session.takeSome_succ hgoes.running]
    rcases hqueue : x.session.watch.route.queue with _ | ⟨g, queue⟩
    · -- there is nothing to take
      rw [Session.takeNext_nil hqueue, List.drop_nil]
      obtain ⟨taken, quit, hreaches, hrest⟩ := ih hdisplay hgoes
      rw [hqueue, List.drop_nil] at hrest
      exact ⟨taken, quit, hreaches, hrest⟩
    · obtain ⟨isOpen, hroute⟩ : ∃ isOpen, x.session.watch.route = .display (g :: queue) isOpen := by
        rcases h : x.session.watch.route with out | ⟨queue', isOpen⟩ <;> rw [h] at hqueue
        · cases hqueue
        · obtain rfl : queue' = g :: queue := hqueue
          exact ⟨isOpen, rfl⟩
      have hnext := Session.takeNext_cons hroute
      obtain ⟨n', quit, hrun⟩ := run_takeNext (P := P) hdisplay hroute
      have hfirst := Reaches.replicate (t := .display) (by decide) hrun
      rw [hnext] at hfirst ⊢
      cases hover : ((x.session.withRoute (.display queue isOpen)).take g).isOver with
      | true =>
        rw [Session.takeSome_over hover]
        refine ⟨_, quit, hfirst, fun hrunning => ?_⟩
        cases hover.symm.trans hrunning
      | false =>
        rw [hover] at hfirst
        obtain ⟨taken, quit', hreaches, hrest⟩ := ih (x := { x with
          session := (x.session.withRoute (.display queue isOpen)).take g
          display := .polling
          taken := x.taken ++ [g]
          quit }) rfl ((hgoes.withRoute _).take hover)
        refine ⟨taken, quit', hfirst.trans hreaches, fun hrunning => ?_⟩
        obtain ⟨hgoes'', hrest'⟩ := hrest hrunning
        obtain ⟨monitor, screen, verdict, htake⟩ :=
          Session.take_frame (x.session.withRoute (.display queue isOpen)) g
        refine ⟨hgoes'', ?_⟩
        rw [hrest', htake]
        rfl

/-- A display that finds the queue empty and closed hears of the end of the feed. -/
lemma turn_takeEnd (hdisplay : x.display = .polling) (hqueue : x.queue = [])
    (hothers : x.others = false) (hfeed : x.feed = .done) : x.turn P .display = x.takeEnd := by
  have hclosed : x.isClosed = true := by
    rw [isClosed, hothers, hfeed]
    rfl
  simp only [turn, displayTurn, hdisplay, poll, hclosed, if_true]
  rcases hroute : x.session.watch.route with out | ⟨_ | ⟨g, queue⟩, isOpen⟩
  · rfl
  · rfl
  · rw [Interplay.queue, hroute] at hqueue
    cases hqueue

/-- A display that hears of the end of the feed ends with it. -/
lemma reaches_hear {v : Except MonitorError Unit} (hdisplay : x.display = .polling)
    (hqueue : x.queue = []) (hothers : x.others = false) (hfeed : x.feed = .done)
    (hgoes : x.session.Goes) (hending : x.session.ending = some v) :
    ∃ s taken quit,
      (if x.session.hear.isOver then x.session.hear else x.session.hear.take .feedClosed) = s ∧
      s.isOver = true ∧ x.Reaches P { x with session := s, display := .closing, taken, quit } := by
  have hturn := turn_takeEnd (P := P) hdisplay hqueue hothers hfeed
  rw [takeEnd, if_neg (by rw [hgoes.heard]; simp), if_neg (by rw [hending]; simp)] at hturn
  rcases v with e | u
  · -- a failure
    have hhear : x.session.hear =
        { x.session with heard := true, verdict := some (.error (.feed e)) } := by
      simp only [Session.hear, hending]
    have hdisplay' : x.hear = { x with session := x.session.hear, display := .closing } := by
      rw [hear, hhear]
      rfl
    have hover : x.session.hear.isOver = true := by rw [hhear]; rfl
    rw [if_pos (by rw [hdisplay']; exact hover), hdisplay'] at hturn
    exact ⟨_, x.taken, x.quit, if_pos hover, hover, .turn (t := .display) (by decide) hturn⟩
  · have hhear : x.session.hear = { x.session with heard := true } := by
      simp only [Session.hear, hending]
    have hover : x.session.hear.isOver = false := by
      rw [hhear]
      exact hgoes.running
    have hends : (x.hear.session.take .feedClosed).isOver = true := by
      refine Session.take_feedClosed ?_
      show x.session.hear.screen.display.quitting = false
      rw [hhear]
      exact hgoes.quitting
    obtain ⟨n, quit, hrun⟩ := run_take (P := P) x.hear .feedClosed
    rw [if_neg (by rw [show x.hear.session = x.session.hear from rfl, hover]; simp)] at hturn
    have hreaches := (Reaches.turn (t := .display) (by decide) hturn).trans
      (Reaches.replicate (t := .display) (by decide) hrun)
    rw [if_pos hends] at hreaches
    exact ⟨_, _, quit, if_neg (by rw [hover]; simp), hends, hreaches⟩

/-- A display takes everything that has come as its session does. -/
lemma reaches_settle (hdisplay : x.display = .polling) (hgoes : x.session.Goes)
    (hothers : x.others = false) (hfeed : x.session.ending.isSome → x.feed = .done) :
    ∃ taken quit,
      x.Reaches P { x with
        session := x.session.settle
        display := shown x.session.settle
        taken
        quit } ∧
      (x.session.settle.isOver = false → x.session.settle.Goes ∧ x.session.ending = none) := by
  obtain ⟨taken, quit, hreaches, hrest⟩ :=
    reaches_takeSome (P := P) x.session.watch.route.queue.length hdisplay hgoes
  rw [← Session.takeQueued] at hreaches hrest
  have hending' : x.session.takeQueued.ending = x.session.ending := Session.takeSome_ending _ _
  cases hover : x.session.takeQueued.isOver with
  | true =>
    have hsettle : x.session.settle = x.session.takeQueued := by
      rw [Session.settle, hover]
      rfl
    rw [hsettle]
    refine ⟨taken, quit, hreaches, fun hrunning => ?_⟩
    cases hover.symm.trans hrunning
  | false =>
    obtain ⟨hgoes', hqueue⟩ := hrest hover
    rw [List.drop_length] at hqueue
    rcases hending : x.session.ending with _ | v
    · have hsettle : x.session.settle = x.session.takeQueued := by
        rw [Session.settle, hover, hending', hending]
        rfl
      rw [hsettle]
      exact ⟨taken, quit, hreaches, fun _ => ⟨hgoes', rfl⟩⟩
    · have hshown : shown x.session.takeQueued = .polling := by
        rw [shown, hover]
        rfl
      rw [hshown] at hreaches
      obtain ⟨s, taken', quit', hs, hsover, hreaches'⟩ := reaches_hear (P := P) (x := { x with
        session := x.session.takeQueued
        display := .polling
        taken
        quit }) rfl hqueue hothers (hfeed (by rw [hending]; rfl)) hgoes' (hending'.trans hending)
      have hsettle : x.session.settle = s := by
        rw [Session.settle, hover, hending', hending]
        exact hs
      have hshown' : shown s = .closing := by
        rw [shown, if_pos hsover]
      rw [hsettle, hshown']
      refine ⟨taken', quit', hreaches.trans hreaches', fun hrunning => ?_⟩
      cases hsover.symm.trans hrunning

/-! ### The feed -/

section Moves

variable {p p' : φ} (hfeed : x.feed = .calling p)

include hfeed

lemma reaches_onward (hmove : P p x.session.watch.isCancelled = some (.onward p')) :
    x.Reaches P { x with feed := .calling p' } := by
  refine .turn (t := .feed) (by decide) ?_
  simp only [turn, feedTurn, hfeed, hmove]

lemma reaches_finish {e : Except AdminError Unit}
    (hmove : P p x.session.watch.isCancelled = some (.finish e)) :
    x.Reaches P { x with feed := .returned e, result := some e } := by
  refine .turn (t := .feed) (by decide) ?_
  simp only [turn, feedTurn, hfeed, hmove]

/-- A report that the call delivers is delivered to the session. -/
lemma reaches_deliver {r : Report} (hfed : x.Fed jobId)
    (hmove : P p x.session.watch.isCancelled = some (.deliver r p')) :
    ∃ sent, x.Reaches P
      { x with session := x.session.deliver r, feed := .calling p', sent } := by
  have hoffer : x.turn P .feed = some { x with feed := .offering r p' } := by
    simp only [turn, feedTurn, hfeed, hmove]
  obtain ⟨queue, hroute⟩ := hfed.route
  obtain ⟨n, sent, hrun⟩ := run_deliver (P := P) (x := { x with feed := .offering r p' }) rfl hroute
  exact ⟨sent, (Reaches.turn (t := .feed) (by decide) hoffer).trans
    (.replicate (t := .feed) (by decide) hrun)⟩

end Moves

lemma reaches_finishFeed {e : Except AdminError Unit} (hfeed : x.feed = .returned e) :
    x.Reaches P { x with session := x.session.finishFeed e, feed := .done } := by
  obtain ⟨n, hrun⟩ := run_finishFeed (P := P) hfeed
  exact .replicate (t := .feed) (by decide) hrun

/-! ### The end -/

/-- A session that is over is closed, whatever the feed does. -/
lemma run_closing (hdisplay : x.display = .closing) :
    x.run P (List.replicate 2 .display) =
      some { x with session := x.session.close, display := .joining } := by
  simp [List.replicate, run_cons, run_nil, turn, displayTurn, hdisplay, withWatch, withMonitor,
    monitor, Session.close_eq, Monitor.shutdown, Monitor.cancel_eq]

lemma close_cancelled (s : Session) : s.close.watch.isCancelled = true :=
  s.watch.cancel_isCancelled .shutdown

/-- A feed that has not ended is given up by who joins the session. -/
lemma join_finishFeed {s : Session} (h : s.ending = none) :
    (s.finishFeed (.error .operationCancelled)).join = s.join := by
  have hending : (s.finishFeed (.error .operationCancelled)).ending.isSome = true := rfl
  rw [Session.join, Session.join, if_pos hending, if_neg (by rw [h]; simp)]

lemma join_verdict (s : Session) : s.join.verdict = s.verdict := by
  have hjoined : ∀ s' : Session, s'.verdict = s.verdict → s'.ending.isSome →
      s'.join.verdict = s.verdict := by
    intro s' hverdict hending
    obtain ⟨journal, hjoin⟩ := join_eq hending
    rw [hjoin]
    exact hverdict
  rcases hending : s.ending with _ | v
  · rw [← join_finishFeed hending]
    exact hjoined _ rfl rfl
  · exact hjoined s rfl (by rw [hending]; rfl)

/-- A session that is over is closed and joined. A call that heeds the cancel gives up. -/
lemma reaches_join (hdisplay : x.display = .closing)
    (hfeed : x.session.ending.isSome ∨ x.session.ending = none ∧
      ∃ p, x.feed = .calling p ∧ P p true = some (.finish (.error .operationCancelled))) :
    ∃ y, x.Reaches P y ∧ y.display = .returned ∧ y.session = x.session.close.join := by
  rcases hfeed with hending | ⟨hending, p, hfeed, hmove⟩
  · exact ⟨_, .replicate (t := .display) (by decide) (run_close hdisplay hending), rfl, rfl⟩
  · have hclose := Reaches.replicate (t := .display) (by decide) (run_closing (P := P) hdisplay)
    have hgive := reaches_finish (P := P)
      (x := { x with session := x.session.close, display := .joining }) hfeed
      (by rw [close_cancelled]; exact hmove)
    have hfinish := reaches_finishFeed (P := P) (x := { x with
      session := x.session.close
      display := .joining
      feed := .returned (.error .operationCancelled)
      result := some (.error .operationCancelled) }) rfl
    have hjoin := hclose.trans (hgive.trans hfinish)
    refine ⟨_, hjoin.trans (.turn (t := .display) (by decide) rfl), rfl, ?_⟩
    exact join_finishFeed hending

end Interplay

end JobWatch
