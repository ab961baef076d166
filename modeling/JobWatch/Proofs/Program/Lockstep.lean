import JobWatch.Proofs.Program.Runs
import JobWatch.Proofs.Session.Schedules

/-!
The run of the program with a display, as an interplay.

The program lets the feed take all of what arrives, and then the display all of what is there. That
is one of the orders in which feed and display can take their turns.
-/

namespace JobWatch.Program

open Feed (Transfer Reader)
open Interplay (Reaches Fed)

variable {maxLine : Nat} {t : Transfer} {jobId : String} {x : Interplay Reader}
  {chunks : List (List UInt8)}

/-! ### The feed -/

/-- Where the feed is once its call has taken what arrived. -/
def feedAfter (chunks : List (List UInt8)) : Feed.Stream → FeedPlace Reader
  | .reading b => .calling (.waiting b chunks)
  | .ended r => .returned r

/-- An interplay whose feed has taken what arrived. -/
def Follows (maxLine : Nat) (t : Transfer) (chunks : List (List UInt8)) (x : Interplay Reader)
    (p : Watch × Feed.Stream) : Prop :=
  ∃ sent result, x.Reaches (Reader.next maxLine t)
    { x with
      session := { x.session with watch := p.1 }
      feed := feedAfter chunks p.2
      sent
      result }

/-- A call that is left alone makes its moves in turns of the feed. -/
lemma follows_alone {w : Watch} {p : Reader} {q : Watch × Feed.Stream}
    (h : Reader.Alone sink maxLine t chunks w p q) (hfed : x.Fed jobId)
    (hfeed : x.feed = .calling p) (hwatch : x.session.watch = w) :
    Follows maxLine t chunks x q := by
  induction h generalizing x with
  | waits w b =>
    subst hwatch
    have hself : x = { x with feed := .calling (.waiting b chunks) } := by rw [← hfeed]
    exact ⟨x.sent, x.result, by rw [hself]; exact .refl _⟩
  | onward hmove _ ih =>
    subst hwatch
    have hfirst := Interplay.reaches_onward hfeed hmove
    obtain ⟨sent, result, hrest⟩ := ih (hfirst.fed hfed) rfl rfl
    exact ⟨sent, result, hfirst.trans hrest⟩
  | deliver hmove _ ih =>
    subst hwatch
    obtain ⟨_, hfirst⟩ := Interplay.reaches_deliver hfeed hfed hmove
    obtain ⟨sent, result, hrest⟩ := ih (hfirst.fed hfed) rfl rfl
    exact ⟨sent, result, hfirst.trans hrest⟩
  | finish hmove =>
    subst hwatch
    exact ⟨x.sent, _, Interplay.reaches_finish hfeed hmove⟩

/-! ### Feed and display, one after the other -/

/-- An interplay stands where a run of the program does, with these chunks still to come. -/
structure Tracks (maxLine : Nat) (t : Transfer) (chunks : List (List UInt8))
    (x : Interplay Reader) (p : Session × Feed.Stream) : Prop where
  session : x.session = p.1
  display : x.display = Interplay.shown p.1
  others : x.others = false
  feed : p.1.ending.isSome ∨ p.1.ending = none ∧ ∃ q, x.feed = .calling q ∧
    Reader.next maxLine t q true = some (.finish (.error .operationCancelled))
  goes : p.1.isOver = false → p.1.Goes ∧ p.1.ending = none ∧
    ∃ b, p.2 = .reading b ∧ x.feed = .calling (.waiting b chunks)

variable {p : Watch × Feed.Stream}

/-- The display takes what is there, after the feed has taken what arrived. -/
lemma tracks_catchUp (hdisplay : x.display = .polling) (hothers : x.others = false)
    (hgoes : x.session.Goes) (hending : x.session.ending = none)
    (h : Follows maxLine t chunks x p) :
    ∃ y, x.Reaches (Reader.next maxLine t) y ∧
      Tracks maxLine t chunks y (catchUp { x.session with watch := p.1 } p.2) := by
  obtain ⟨sent, result, hfollows⟩ := h
  obtain ⟨w, b | r⟩ := p
  · obtain ⟨taken, quit, hsettle, hrest⟩ := Interplay.reaches_settle
      (P := Reader.next maxLine t) (x := { x with
        session := { x.session with watch := w }
        feed := .calling (.waiting b chunks)
        sent
        result }) hdisplay ⟨hgoes.running, hgoes.heard, hgoes.quitting⟩ hothers
      (fun h => by rw [hending] at h; cases h)
    have hnone : ({ x.session with watch := w } : Session).settle.ending = none :=
      (Session.settle_ending _).trans hending
    refine ⟨_, hfollows.trans hsettle, rfl, rfl, hothers, .inr ⟨hnone, _, rfl, rfl⟩, ?_⟩
    exact fun hrunning => ⟨(hrest hrunning).1, hnone, b, rfl, rfl⟩
  · have hfinish := Interplay.reaches_finishFeed (P := Reader.next maxLine t) (x := { x with
      session := { x.session with watch := w }
      feed := .returned r
      sent
      result }) rfl
    obtain ⟨taken, quit, hsettle, hrest⟩ := Interplay.reaches_settle
      (P := Reader.next maxLine t) (x := { x with
        session := ({ x.session with watch := w } : Session).finishFeed r
        feed := .done
        sent
        result }) hdisplay ⟨hgoes.running, hgoes.heard, hgoes.quitting⟩ hothers (fun _ => rfl)
    have hcatch : catchUp { x.session with watch := w } (.ended r) =
        ((({ x.session with watch := w } : Session).finishFeed r).settle, .ended r) := by
      simp only [catchUp, hending, Option.isSome_none, Bool.false_eq_true, if_false]
    have hsome : (({ x.session with watch := w } : Session).finishFeed r).settle.ending.isSome :=
      congrArg Option.isSome (Session.settle_ending _)
    rw [hcatch]
    refine ⟨_, (hfollows.trans hfinish).trans hsettle, rfl, rfl, hothers, .inl hsome, ?_⟩
    intro hrunning
    obtain ⟨-, hnone⟩ := hrest hrunning
    cases hnone

/-- A run goes on to the next arrival in turns of feed and display. -/
lemma tracks_step {p : Session × Feed.Stream} {a : Feed.Arrival} (left : List (List UInt8))
    (h : Tracks maxLine t chunks x p)
    (hstep : ∀ b, x.feed = .calling (.waiting b chunks) →
      Follows maxLine t left x (Feed.step sink maxLine x.session.watch (.reading b) a)) :
    ∃ y, x.Reaches (Reader.next maxLine t) y ∧
      Tracks maxLine t left y (displayStep maxLine p (.arrival a)) := by
  obtain ⟨d, st⟩ := p
  obtain ⟨rfl, hdisplay, hothers, hfeed, hgoes⟩ := h
  rcases hover : x.session.isOver with _ | _
  · obtain ⟨hgoes', hending, b, rfl, hcalling⟩ := hgoes hover
    have hpolling : x.display = .polling := by
      rw [hdisplay, Interplay.shown, hover]
      rfl
    have hnext : displayStep maxLine (x.session, .reading b) (.arrival a) =
        catchUp { x.session with
            watch := (Feed.step sink maxLine x.session.watch (.reading b) a).1 }
          (Feed.step sink maxLine x.session.watch (.reading b) a).2 := by
      rw [displayStep, hover]
      rfl
    rw [hnext]
    exact tracks_catchUp hpolling hothers hgoes' hending (hstep b hcalling)
  · have hnext : displayStep maxLine (x.session, st) (.arrival a) = (x.session, st) := by
      rw [displayStep, hover]
      rfl
    rw [hnext]
    refine ⟨x, .refl x, rfl, hdisplay, hothers, hfeed, fun hrunning => ?_⟩
    cases hover.symm.trans hrunning

/-- A session is over once its stream is not read any more. -/
lemma Tracks.over {d : Session × Feed.Stream} (h : Tracks maxLine t chunks x d)
    (hended : ∀ b, d.2 ≠ .reading b) : d.1.isOver = true := by
  rcases hover : d.1.isOver with _ | _
  · obtain ⟨-, -, b, hreading, -⟩ := h.goes hover
    exact absurd hreading (hended b)
  · rfl

lemma catchUp_stream (d : Session) (st : Feed.Stream) : (catchUp d st).2 = st := by
  cases st <;> rfl

/-- A session is over at the end of its body. -/
lemma displayStep_close {p : Session × Feed.Stream}
    (h : Tracks maxLine t chunks x (displayStep maxLine p (.arrival t.close.arrival))) :
    (displayStep maxLine p (.arrival t.close.arrival)).1.isOver = true := by
  obtain ⟨d, st⟩ := p
  rcases hover : d.isOver with _ | _
  · have hnext : (displayStep maxLine (d, st) (.arrival t.close.arrival)).2 =
        (Feed.step sink maxLine d.watch st t.close.arrival).2 := by
      rw [displayStep, hover]
      exact catchUp_stream _ _
    refine h.over fun b hreading => ?_
    rw [hnext, Feed.step_close] at hreading
    cases hreading
  · rw [displayStep, hover]
    exact hover

/-- The session of a run before its feed has brought anything. -/
lemma tracks_begun (maxLine : Nat) (t : Transfer) (hfed : x.Fed jobId)
    (hfeed : x.feed = .calling .asking)
    (hdisplay : x.display = .starting) (hothers : x.others = true)
    (hending : x.session.ending = none) (hheard : x.session.heard = false)
    (hquitting : x.session.screen.display.quitting = false) :
    ∃ y, x.Reaches (Reader.next maxLine t) y ∧
      Tracks maxLine t t.chunks y
        (if x.session.redraw.isOver then (x.session.redraw, .reading {})
        else catchUp x.session.redraw (Client.opened sink x.session.redraw.watch t.answer)) := by
  have hleave : x.turn (Reader.next maxLine t) .leave = some { x with others := false } := by
    rw [Interplay.turn, if_pos hothers]
  have hdraw : ({ x with others := false } : Interplay Reader).turn
      (Reader.next maxLine t) .display = some { x with
        others := false
        session := x.session.redraw
        display := Interplay.shown x.session.redraw } := by
    simp only [Interplay.turn, Interplay.displayTurn, hdisplay, Interplay.shown]
  have hbegun := (Reaches.turn (t := .leave) (by decide) hleave).trans
    (Reaches.turn (t := .display) (by decide) hdraw)
  have hnone : x.session.redraw.ending = none := hending
  rcases hover : x.session.redraw.isOver with _ | _
  · have hshown : Interplay.shown x.session.redraw = .polling := by
      rw [Interplay.shown, hover]
      rfl
    rw [hshown] at hbegun
    have hgoes : x.session.redraw.Goes := by
      refine ⟨hover, hheard, ?_⟩
      show x.session.screen.redraw.1.display.quitting = false
      rw [Screen.redraw_display]
      exact hquitting
    obtain ⟨y, hreaches, htracks⟩ := tracks_catchUp (x := { x with
      others := false
      session := x.session.redraw
      display := .polling }) rfl rfl hgoes hnone
      (follows_alone (Reader.alone_opened _) (hbegun.fed hfed) hfeed rfl)
    rw [if_neg (by simp)]
    exact ⟨y, hbegun.trans hreaches, htracks⟩
  · rw [if_pos rfl]
    refine ⟨_, hbegun, rfl, rfl, rfl, .inr ⟨hnone, _, hfeed, rfl⟩, fun hrunning => ?_⟩
    cases hover.symm.trans hrunning

/-! ### Whole runs -/

section Run

variable {c : CommandLine} {s : Surroundings} {b : Begun} {body : List UInt8} {close : Feed.Close}

lemma followDisplay_eq (maxLine : Nat) (answer : Client.Answer) (events : List Event)
    (d : Session) :
    followDisplay maxLine answer events d =
      finishDisplay (if d.isOver then d
        else (events.foldl (displayStep maxLine)
          (catchUp d (Client.opened sink d.watch answer))).1) := by
  rw [followDisplay]
  split <;> rfl

lemma begin_fed (hb : begin c s = .ok b) : (b.session c s).Fed c.jobId := by
  obtain ⟨journal, hmonitor⟩ := begin_monitor hb
  have hnothing := Interplay.run_nil (x := b.session c s)
    (P := Reader.next b.maxLine ⟨b.answer, [], .clean⟩)
  rw [Begun.session, hmonitor] at hnothing ⊢
  exact (Interplay.recorded_run rfl rfl hnothing).1

/-- The session of a run comes to its end in turns of feed and display. -/
lemma reaches_over (hb : begin c s = .ok b) (hquiet : s.interrupted = false)
    (h : Genuine ⟨b.answer, [body], close⟩) :
    ∃ y d, (b.session c s).Reaches (Reader.next b.maxLine ⟨b.answer, [body], close⟩) y ∧
      y.display = .returned ∧ y.session = d.close.join ∧
      followDisplay b.maxLine b.answer (s.events b.answer)
        (Session.start b.monitor (screen c s.terminal b.out)) = finishDisplay d ∧
      d.isOver = true := by
  -- it is enough to come to a session that is over
  suffices ∃ y p chunks, (b.session c s).Reaches
      (Reader.next b.maxLine ⟨b.answer, [body], close⟩) y ∧
      Tracks b.maxLine ⟨b.answer, [body], close⟩ chunks y p ∧
      followDisplay b.maxLine b.answer (s.events b.answer)
        (Session.start b.monitor (screen c s.terminal b.out)) = finishDisplay p.1 ∧
      p.1.isOver = true by
    obtain ⟨y, ⟨d, st⟩, chunks, hreaches, ⟨rfl, hdisplay, -, hfeed, -⟩, hfollow, hover⟩ := this
    rw [Interplay.shown, if_pos hover] at hdisplay
    obtain ⟨z, hjoin, hreturned, hsession⟩ := Interplay.reaches_join hdisplay hfeed
    exact ⟨z, _, hreaches.trans hjoin, hreturned, hsession, hfollow, hover⟩
  obtain ⟨x, hbegun, htracks⟩ := tracks_begun b.maxLine ⟨b.answer, [body], close⟩
    (x := b.session c s) (begin_fed hb) rfl rfl rfl rfl rfl rfl
  have hstart : (b.session c s).session.redraw =
    Session.start b.monitor (screen c s.terminal b.out) := rfl
  rw [hstart] at htracks
  rw [followDisplay_eq]
  rcases hover : (Session.start b.monitor (screen c s.terminal b.out)).isOver with _ | _
  · simp only [hover, Bool.false_eq_true, if_false] at htracks ⊢
    rcases hanswer : b.answer with e | r
    · -- there is no body
      have hevents : s.events (.error e) = [] := by
        rw [Surroundings.events, hquiet]
        rfl
      rw [hanswer] at htracks hbegun
      rw [hevents]
      refine ⟨x, _, _, hbegun, htracks, rfl, ?_⟩
      refine htracks.over fun b' hreading => ?_
      rw [catchUp_stream, Client.opened] at hreading
      split at hreading <;> cases hreading
    · have hevents : s.events (.ok r) = [.arrival (.chunk body), .arrival close.arrival] := by
        have hbody : Client.arrivals r.received = [.chunk [body].flatten, close.arrival] :=
          h.arrivals hanswer
        rw [Surroundings.events, hquiet, Client.body, hbody, List.flatten_singleton]
        rfl
      rw [hanswer] at htracks hbegun
      have hfed := hbegun.fed (begin_fed hb)
      obtain ⟨y, hchunk, htracks'⟩ := tracks_step [] htracks fun b' hfeed =>
        follows_alone (Reader.alone_chunk _ b' body) hfed hfeed rfl
      obtain ⟨z, hclose, htracks''⟩ := tracks_step [] htracks' fun b' hfeed =>
        follows_alone (Reader.alone_close _ b') (hchunk.fed hfed) hfeed rfl
      rw [hevents]
      exact ⟨z, _, _, (hbegun.trans hchunk).trans hclose, htracks'', rfl,
        displayStep_close htracks''⟩
  · rw [hover] at htracks
    exact ⟨x, _, _, hbegun, htracks, rfl, hover⟩

/-- **What the program does with a display is one of the orders** in which feed and display can take
their turns, and it comes to an end. -/
theorem display_interleaved (hb : begin c s = .ok b) (hquiet : s.interrupted = false)
    (h : Genuine ⟨b.answer, [body], close⟩) :
    (b.display c s).ending.isSome ∧
      ∃ ts, .interrupt ∉ ts ∧ interleave c s [body] close ts = some (b.display c s) := by
  obtain ⟨y, d, ⟨ts, hts, hrun⟩, hreturned, hsession, hfollow, hover⟩ := reaches_over hb hquiet h
  have hverdict : d.close.join.verdict.isSome := by
    rw [Interplay.join_verdict]
    rfl
  have hfinish : finishDisplay d =
      (d.close.join, d.close.join.verdict.map (·.mapError .session)) := by
    rw [finishDisplay, hover]
    rfl
  rw [hfinish] at hfollow
  have hdisplay : b.display c s = account c b.requests y.monitor y.session.screen.live.out
      (y.session.verdict.map (·.mapError .session)) := by
    rw [Begun.display]
    simp only [hfollow]
    rw [← hsession]
    rfl
  refine ⟨?_, ts, hts, ?_⟩
  · rw [hdisplay, (account_settled ..).1, hsession, Option.isSome_map]
    exact hverdict
  · rw [interleave_ok hb, hrun, hdisplay]
    simp only [Option.map_some, hreturned, if_true]

end Run

end JobWatch.Program
