import JobWatch.Feed.Script
import JobWatch.Proofs.Session.Schedules
import JobWatch.Proofs.Watch.Trace

/-!
Scripted feeds, and the sessions that follow them.

What a script does to a watch are deliveries and cancels like any others: once the watch has
stopped, the rest of them changes nothing, so it does not matter whether the script goes on. A
session that lets a scripted feed come to its end in one go takes one of the orders that feed and
display can take their turns in.
-/

namespace JobWatch

/-! ### A watch that tells why it has stopped -/

namespace Watch

variable {w : Watch}

/-- A watch has stopped exactly if there is a reason. -/
def Told (w : Watch) : Prop := w.isCancelled = w.monitor.reason.isSome

lemma told_cancel (w : Watch) (reason : StopReason) : (w.cancel reason).Told := by
  obtain ⟨journal, hcancel⟩ := w.monitor.cancel_changes reason
  rw [cancel, hcancel, Told, isCancelled, Monitor.isCancelled, Monitor.reason, Option.isSome_or]
  simp

lemma Told.keep (h : w.Told) (seen : Sighting) : (w.keep seen).Told := by
  cases seen <;> exact h

lemma Told.emit (h : w.Told) (r : Report) (out : Output) : (w.emit r out).Told := by
  rw [Watch.emit]
  split <;> exact h

lemma Told.send (h : w.Told) (r : Report) (t : Tick) : (w.send r t).Told := by
  rw [Watch.send]
  split
  · split
    · exact h
    · split
      · exact h.emit r _
      · exact h
  · exact h
  · exact told_cancel _ _

lemma Told.conclude (h : w.Told) (t : Tick) : (w.conclude t).Told := by
  rw [Watch.conclude]
  split
  · exact told_cancel _ _
  · exact h

lemma Told.deliver (h : w.Told) (r : Report) : (w.deliver r).Told := by
  rw [Watch.deliver]
  split
  · exact h
  · exact ((h.keep _).send r _).conclude _

/-- A watch that has stopped for a reason is not stopped once more. -/
lemma Told.cancel_stopped (h : w.Told) (hw : w.isCancelled = true) (reason : StopReason) :
    w.cancel reason = w := by
  obtain ⟨⟨target, jobId, latest, ⟨tripped, stop⟩, journal⟩, route⟩ := w
  obtain rfl : tripped = true := hw
  cases stop with
  | none => cases h
  | some first => rfl

end Watch

namespace Feed

/-- What a scripted feed ends with, if nobody stops it. -/
def Ending.result : Ending → Except AdminError Unit
  | close => .ok ()
  | fail e => .error e
  | hang _ => .error .operationCancelled

namespace Script

variable {s : Script} {w : Watch}

/-! ### What a script does to a watch -/

/-- The cancels before one report. -/
def cancels (s : Script) (i : Nat) : List Watch.Action :=
  (s.interruptions.filter (·.1 = i)).map fun p => .cancel p.2

/-- All cancels and deliveries of a script from an index on. -/
def actionsFrom (s : Script) (i : Nat) : List Report → List Watch.Action
  | [] =>
    match s.ending with
    | .hang reason => [.cancel reason]
    | _ => []
  | r :: rs => s.cancels i ++ .deliver r :: s.actionsFrom (i + 1) rs

def actions (s : Script) : List Watch.Action := s.actionsFrom 0 s.reports

lemma interrupt_eq (s : Script) (i : Nat) (w : Watch) :
    s.interrupt i w = w.run (s.cancels i) := by
  rw [cancels, Watch.run, List.foldl_map]
  rfl

lemma told_cancels (hw : w.Told) (i : Nat) : (w.run (s.cancels i)).Told := by
  rw [← interrupt_eq, interrupt]
  generalize s.interruptions.filter _ = ps
  induction ps generalizing w with
  | nil => exact hw
  | cons p ps ih => exact ih (Watch.told_cancel w p.2)

lemma cancels_stopped (hw : w.Told) (hstopped : w.isCancelled = true) (i : Nat) :
    w.run (s.cancels i) = w := by
  rw [← interrupt_eq, interrupt]
  generalize s.interruptions.filter _ = ps
  induction ps with
  | nil => rfl
  | cons p ps ih => rw [List.foldl_cons, hw.cancel_stopped hstopped, ih]

lemma run_actionsFrom_cons (i : Nat) (r : Report) (rs : List Report) (w : Watch) :
    w.run (s.actionsFrom i (r :: rs)) =
      ((w.run (s.cancels i)).deliver r).run (s.actionsFrom (i + 1) rs) := by
  rw [actionsFrom, Watch.run, List.foldl_append]
  rfl

/-- To a watch that has stopped a script does nothing. -/
lemma actionsFrom_stopped (hw : w.Told) (hstopped : w.isCancelled = true) (i : Nat)
    (rs : List Report) : w.run (s.actionsFrom i rs) = w := by
  induction rs generalizing i with
  | nil =>
    rw [actionsFrom]
    split
    · exact hw.cancel_stopped hstopped _
    · rfl
  | cons r rs ih =>
    rw [run_actionsFrom_cons, cancels_stopped hw hstopped, Watch.deliver_stopped hstopped, ih]

/-- What a watch has been given after these actions of a script, and how the feed ends: as the
script says, or as one that was given up, which happens to a watch that has stopped. -/
structure Played (s : Script) (as : List Watch.Action) (w : Watch)
    (p : (Watch × Nat) × Except AdminError Unit) : Prop where
  watch : p.1.1 = w.run as
  result : p.2 = s.ending.result ∨ p.2 = .error .operationCancelled ∧ p.1.1.isCancelled = true
  heedless : s.heedsCancel = false → p.2 = s.ending.result

lemma played_from (hw : w.Told) (i : Nat) (rs : List Report) :
    s.Played (s.actionsFrom i rs) w (s.playFrom i rs w) := by
  induction rs generalizing i w with
  | nil =>
    rw [playFrom, actionsFrom]
    cases hending : s.ending <;> dsimp only <;>
      exact ⟨rfl, .inl (by rw [hending]; rfl), fun _ => by rw [hending]; rfl⟩
  | cons r rs ih =>
    have htold := told_cancels (s := s) hw i
    rw [playFrom, interrupt_eq]
    split
    · next hgives =>
      -- the rest of the script would change nothing
      refine ⟨?_, .inr ⟨rfl, hgives.2⟩, fun hheedless => ?_⟩
      · rw [run_actionsFrom_cons, Watch.deliver_stopped hgives.2,
          actionsFrom_stopped htold hgives.2]
      · rw [hheedless] at hgives
        cases hgives.1
    · obtain ⟨hwatch, hresult, hheedless⟩ := ih (htold.deliver r) (i + 1)
      exact ⟨hwatch.trans (run_actionsFrom_cons i r rs w).symm, hresult, hheedless⟩

/-- **Playing a script is doing all of its cancels and deliveries**, and then ending the feed: as
the script says, or as one that was given up, if it heeds a cancel and finds the watch stopped. -/
theorem watch_eq_run (s : Script) (hw : w.Told) :
    ∃ e, s.watch w = (w.run s.actions).finish e ∧
      (e = s.ending.result ∨
        e = .error .operationCancelled ∧ (w.run s.actions).isCancelled = true) ∧
      (s.heedsCancel = false → e = s.ending.result) := by
  obtain ⟨hwatch, hresult, hheedless⟩ := played_from (s := s) hw 0 s.reports
  refine ⟨(s.play w).2, ?_, ?_, hheedless⟩
  · rw [actions, ← hwatch]
    rfl
  · rw [actions, ← hwatch]
    exact hresult

/-! ### A script as a call for reports -/

/-- Nobody but the reports stops the watch. -/
structure Quiet (s : Script) : Prop where
  interruptions : s.interruptions = []
  ending : ∀ reason, s.ending ≠ .hang reason

/-- A call that recites the script. It heeds a cancel before a report, but not at the end. -/
def recital (s : Script) : Recital where
  ending := s.ending.result
  heeds left := s.heedsCancel && left != 0

lemma playFrom_nil (hs : s.Quiet) (i : Nat) (w : Watch) :
    s.playFrom i [] w = ((w, i), s.ending.result) := by
  rw [playFrom]
  cases hending : s.ending with
  | hang reason => exact absurd hending (hs.ending reason)
  | _ => rfl

lemma playFrom_cons (hs : s.Quiet) (i : Nat) (r : Report) (rs : List Report) (w : Watch) :
    s.playFrom i (r :: rs) w =
      if s.heedsCancel ∧ w.isCancelled then ((w, i), .error .operationCancelled)
      else s.playFrom (i + 1) rs (w.deliver r) := by
  rw [playFrom, interrupt, hs.interruptions]
  rfl

lemma recital_nil (cancelled : Bool) :
    s.recital.next [] cancelled = some (.finish s.ending.result) := by
  simp [Recital.next, recital]

lemma recital_cons (r : Report) (rs : List Report) (cancelled : Bool) :
    s.recital.next (r :: rs) cancelled =
      if s.heedsCancel ∧ cancelled then some (.finish (.error .operationCancelled))
      else some (.deliver r rs) := by
  simp [Recital.next, recital, and_comm]

end Script

end Feed

/-! ### Sessions -/

namespace Interplay

open Feed (Script)

variable {jobId : String} {s : Script} {rs : List Report} {x y : Interplay (List Report)}

/-- A feed that is left alone plays its script. -/
lemma reaches_playFrom (hs : s.Quiet) (hfed : x.Fed jobId) (hfeed : x.feed = .calling rs)
    (i : Nat) {p : (Watch × Nat) × Except AdminError Unit}
    (hp : s.playFrom i rs x.session.watch = p) :
    ∃ sent result, x.Reaches s.recital.next { x with
      session := { x.session with watch := p.1.1 }
      feed := .returned p.2
      sent
      result } := by
  induction rs generalizing x i with
  | nil =>
    rw [Script.playFrom_nil hs] at hp
    subst hp
    exact ⟨x.sent, _, reaches_finish hfeed (Script.recital_nil _)⟩
  | cons r rs ih =>
    rw [Script.playFrom_cons hs] at hp
    have hnext := Script.recital_cons (s := s) r rs x.session.watch.isCancelled
    split at hp
    · next hgives =>
      rw [if_pos hgives] at hnext
      subst hp
      exact ⟨x.sent, _, reaches_finish hfeed hnext⟩
    · next hgoes =>
      rw [if_neg hgoes] at hnext
      obtain ⟨_, hfirst⟩ := reaches_deliver hfeed hfed hnext
      obtain ⟨sent, result, hrest⟩ := ih (hfirst.fed hfed) rfl (i + 1) hp
      exact ⟨sent, result, hfirst.trans hrest⟩

/-- A feed that is left alone plays its script and ends. -/
lemma reaches_runFeed (hs : s.Quiet) (hfed : x.Fed jobId) (hfeed : x.feed = .calling s.reports) :
    ∃ sent result, x.Reaches s.recital.next { x with
      session := x.session.runFeed s.watch
      feed := .done
      sent
      result } := by
  obtain ⟨sent, result, hplay⟩ := reaches_playFrom hs hfed hfeed 0 rfl
  exact ⟨sent, result, hplay.trans (reaches_finishFeed rfl)⟩

/-- Others put signals into the queue, one after the other. -/
lemma run_posts {φ : Type} {P : Call φ} {x : Interplay φ} {early : List Signal}
    (hearly : ∀ g ∈ early, g = .spinner ∨ g = .interrupt) (hothers : x.others = true) :
    ∃ ts, x.run P ts = some { x with session := early.foldl Session.post x.session } := by
  induction early generalizing x with
  | nil => exact ⟨[], rfl⟩
  | cons g early ih =>
    obtain ⟨hg, hearly⟩ := List.forall_mem_cons.1 hearly
    obtain ⟨t, hturn⟩ : ∃ t, x.turn P t = some { x with session := x.session.post g } := by
      rcases hg with rfl | rfl
      · exact ⟨.spinner, if_pos hothers⟩
      · exact ⟨.interrupt, if_pos hothers⟩
    obtain ⟨ts, hrun⟩ := ih (x := { x with session := x.session.post g }) hearly hothers
    refine ⟨t :: ts, ?_⟩
    rw [run_cons, hturn]
    exact hrun

end Interplay

namespace Session

open Feed (Script)
open Interplay (Reaches shown)

/-- A signal that is put into the queue changes nothing but the queue. -/
lemma foldl_post (early : List Signal) (d : Session) :
    ∃ route, early.foldl post d = d.withRoute route := by
  induction early generalizing d with
  | nil => exact ⟨d.watch.route, rfl⟩
  | cons g early ih =>
    obtain ⟨route, hrest⟩ := ih (d.post g)
    refine ⟨route, hrest.trans ?_⟩
    rw [post]
    split <;> rfl

variable {m : Monitor} {screen : Screen} {early : List Signal} {s : Script}

lemma goes_start (hquitting : screen.display.quitting = false)
    (hrunning : (start m screen).isOver = false) : (start m screen).Goes := by
  refine ⟨hrunning, rfl, ?_⟩
  show (screen.redraw).1.display.quitting = false
  rw [Screen.redraw_display]
  exact hquitting

lemma Goes.runFeed {d : Session} (h : d.Goes) (feed : Feed) : (d.runFeed feed).Goes :=
  ⟨h.running, h.heard, h.quitting⟩

/-- A display that runs takes what is in its queue; one that is over leaves it there. -/
lemma reaches_takeQueued {φ : Type} {P : Call φ} {x : Interplay φ}
    (hdisplay : x.display = shown x.session) (hgoes : x.session.isOver = false → x.session.Goes) :
    ∃ taken quit, x.Reaches P { x with
        session := x.session.takeQueued
        display := shown x.session.takeQueued
        taken
        quit } ∧
      (x.session.takeQueued.isOver = false → x.session.takeQueued.Goes) := by
  cases hover : x.session.isOver with
  | true =>
    have hqueued : x.session.takeQueued = x.session := takeSome_over hover _
    rw [hqueued, ← hdisplay]
    exact ⟨x.taken, x.quit, .refl x, hgoes⟩
  | false =>
    rw [shown, hover] at hdisplay
    obtain ⟨taken, quit, hreaches, hrest⟩ := Interplay.reaches_takeSome (P := P)
      x.session.watch.route.queue.length hdisplay (hgoes hover)
    exact ⟨taken, quit, hreaches, fun hrunning => (hrest hrunning).1⟩

/-- From a session that has taken its early signals, a feed that is left alone comes to its end, and
so does the session. -/
lemma reaches_end {jobId : String} {x : Interplay (List Report)} (hs : s.Quiet)
    (hfed : x.Fed jobId) (hfeed : x.feed = .calling s.reports) (hothers : x.others = false)
    (hdisplay : x.display = shown x.session) (hgoes : x.session.isOver = false → x.session.Goes) :
    ∃ y, x.Reaches s.recital.next y ∧ y.display = .returned ∧
      y.session = if x.session.isOver then (x.session.close.runFeed s.watch).join
        else ((x.session.runFeed s.watch).settle.close).join := by
  cases hover : x.session.isOver with
  | true =>
    -- the watch is taken down before the feed starts
    rw [shown, if_pos hover] at hdisplay
    have hclose := Reaches.replicate (t := .display) (by decide)
      (Interplay.run_closing (P := s.recital.next) hdisplay)
    obtain ⟨sent, result, hfeeds⟩ := Interplay.reaches_runFeed
      (x := { x with session := x.session.close, display := .joining }) hs (hclose.fed hfed) hfeed
    exact ⟨_, (hclose.trans hfeeds).trans (.turn (t := .display) (by decide) rfl), rfl, rfl⟩
  | false =>
    have hpolling : x.display = .polling := by
      rw [hdisplay, shown, hover]
      rfl
    obtain ⟨sent, result, hfeeds⟩ := Interplay.reaches_runFeed hs hfed hfeed
    obtain ⟨taken, quit, hsettle, hrest⟩ := Interplay.reaches_settle (P := s.recital.next) (x := {
      x with
      session := x.session.runFeed s.watch
      feed := .done
      sent
      result }) hpolling ((hgoes hover).runFeed s.watch) hothers fun _ => rfl
    have hended : (x.session.runFeed s.watch).settle.isOver = true := by
      by_contra hrunning
      cases (hrest (Bool.eq_false_iff.2 hrunning)).2
    have hclosing : shown (x.session.runFeed s.watch).settle = .closing := if_pos hended
    have hending : (x.session.runFeed s.watch).settle.ending.isSome := by
      rw [settle_ending]
      rfl
    have hclose := Reaches.replicate (t := .display) (by decide)
      (Interplay.run_close (P := s.recital.next) (x := { x with
        session := (x.session.runFeed s.watch).settle
        feed := .done
        display := shown (x.session.runFeed s.watch).settle
        sent
        taken
        result
        quit }) hclosing hending)
    exact ⟨_, (hfeeds.trans hsettle).trans hclose, rfl, rfl⟩

/-- **A session that runs a scripted feed takes one of the orders of turns.** Before the feed starts
the display draws, and takes what others have put into its queue; then the feed plays its script to
the end, and the display takes all that has come. If it is over before, the feed plays to a watch
that was taken down. -/
theorem run_interleaved (m : Monitor) (hquitting : screen.display.quitting = false)
    (hearly : ∀ g ∈ early, g = .spinner ∨ g = .interrupt) (hs : s.Quiet) :
    ∃ ts y, (Interplay.start m screen s.reports true).run s.recital.next ts = some y ∧
      y.display = .returned ∧ y.session = Session.run m screen early s.watch := by
  let P := s.recital.next
  -- the first frame, and what the others put into the queue before they leave
  obtain ⟨d, hd⟩ : ∃ d, d = early.foldl post (start m screen) := ⟨_, rfl⟩
  obtain ⟨route, hroute⟩ := foldl_post early (start m screen)
  rw [← hd] at hroute
  have hshown : shown d = shown (start m screen) := by rw [hroute]; rfl
  let x : Interplay (List Report) :=
    { Interplay.start m screen s.reports false with session := d, display := shown d }
  obtain ⟨ts, hbegun⟩ : ∃ ts, (Interplay.start m screen s.reports true).run P ts = some x := by
    obtain ⟨ts, hposts⟩ := Interplay.run_posts (P := P) (x := {
      Interplay.start m screen s.reports true with
      session := start m screen
      display := shown (start m screen) }) hearly rfl
    refine ⟨.display :: (ts ++ [.leave]), ?_⟩
    have hdraw : (Interplay.start m screen s.reports true).turn P .display = some {
        Interplay.start m screen s.reports true with
        session := start m screen
        display := shown (start m screen) } := rfl
    rw [Interplay.run_cons, hdraw, Option.bind_some, Interplay.run_append, hposts,
      Option.bind_some, ← hd, ← hshown]
    rfl
  have hfed : x.Fed m.jobId := by
    refine Interplay.run_invariant (I := Interplay.Fed m.jobId)
      (fun _ _ _ _ hfed hturn => hfed.turn hturn) ?_ hbegun
    exact ⟨rfl, ⟨[], rfl⟩, nofun, nofun, nofun⟩
  have hgoes (hrunning : x.session.isOver = false) : x.session.Goes := by
    rw [show x.session = (start m screen).withRoute route from hroute] at hrunning ⊢
    exact (goes_start hquitting hrunning).withRoute route
  obtain ⟨taken, quit, hqueued, hgoes'⟩ := reaches_takeQueued (P := P) (x := x) rfl hgoes
  obtain ⟨y, hend, hreturned, hsession⟩ := reaches_end (s := s) hs (hqueued.fed hfed) rfl rfl rfl
    hgoes'
  obtain ⟨us, -, hrun⟩ := hqueued.trans hend
  refine ⟨ts ++ us, y, ?_, hreturned, ?_⟩
  · rw [Interplay.run_append, hbegun, Option.bind_some, hrun]
  · rw [hsession, Session.run, ← hd]

end Session

end JobWatch
