import JobWatch.Proofs.Display.Agreement
import JobWatch.Session

/-!
The interplay of feed and display in a session.

Feed and display run side by side and share the queue, the cancellation and the news of the end of
the feed. Both work in small turns. A turn looks at what they share, or changes it, at most once, so
turns of the two may follow each other in any order; a cancel takes two turns, since the reason is
recorded before the signal is tripped. Others may move the indicator or interrupt until they leave.

What the feed does between two deliveries is up to the call for reports, which is any machine that
is told at every move whether the watch is cancelled. Turns that nothing comes between make up the
operations of a session.
-/

namespace JobWatch

namespace Monitor

/-- The first half of a cancel: the reason is kept if it is the first. -/
def record (m : Monitor) (r : StopReason) : Monitor :=
  { m with cancellation := (m.cancellation.record r).1 }

/-- The second half of a cancel: the signal is tripped. It is noted by who gave the first reason. -/
def trip (m : Monitor) (r : StopReason) (first : Bool) : Monitor :=
  let m := { m with cancellation := m.cancellation.trip }
  if first then m.note .debug .cancellation ("monitor cancelled: " ++ r.text) else m

theorem cancel_eq (m : Monitor) (r : StopReason) :
    m.cancel r = (m.record r).trip r m.reason.isNone := by
  rcases h : m.cancellation.reason with _ | r' <;>
    simp [cancel, record, trip, reason, Cancellation.cancel, Cancellation.record, h]

section Fields

variable (m : Monitor) (r : StopReason) (first : Bool) (l : Journal.Level) (s : Journal.Source)
  (t : String)

@[simp] lemma note_cancellation : (m.note l s t).cancellation = m.cancellation := rfl
@[simp] lemma note_latest : (m.note l s t).latest = m.latest := rfl
@[simp] lemma note_jobId : (m.note l s t).jobId = m.jobId := rfl
@[simp] lemma note_target : (m.note l s t).target = m.target := rfl

@[simp] lemma record_reason :
    (m.record r).cancellation.reason = m.cancellation.reason.or (some r) := by
  rw [record, Cancellation.record_eq]

@[simp] lemma record_tripped : (m.record r).cancellation.tripped = m.cancellation.tripped := by
  rw [record, Cancellation.record_eq]

@[simp] lemma record_latest : (m.record r).latest = m.latest := rfl
@[simp] lemma record_jobId : (m.record r).jobId = m.jobId := rfl
@[simp] lemma record_target : (m.record r).target = m.target := rfl

@[simp] lemma trip_reason : (m.trip r first).cancellation.reason = m.cancellation.reason := by
  cases first <;> rfl

@[simp] lemma trip_tripped : (m.trip r first).cancellation.tripped = true := by
  cases first <;> rfl

@[simp] lemma trip_latest : (m.trip r first).latest = m.latest := by cases first <;> rfl
@[simp] lemma trip_jobId : (m.trip r first).jobId = m.jobId := by cases first <;> rfl
@[simp] lemma trip_target : (m.trip r first).target = m.target := by cases first <;> rfl

end Fields

end Monitor

/-- Shows the cursor again and settles how the session has ended. -/
def Session.restore (s : Session) : Session :=
  let (live, e) := s.screen.live.finish
  let restored := match e with
    | some e => .error (.restore e)
    | none => .ok ()
  { s with screen := { s.screen with live }, verdict := some (s.verdict.getD (.ok ()) *> restored) }

theorem Session.close_eq (s : Session) :
    s.close =
      { s with watch := { s.watch with monitor := s.watch.monitor.shutdown } }.restore := rfl

/-! ### The parties and their turns -/

/-- What a call for reports does next. -/
inductive Move (φ : Type) where
  /-- Something that concerns nobody else. -/
  | onward (p : φ)
  | deliver (r : Report) (p : φ)
  | finish (e : Except AdminError Unit)

/-- A call for reports: its next move from a place, told whether the watch is cancelled; none as
long as it waits. -/
abbrev Call (φ : Type) := φ → Bool → Option (Move φ)

/-- A call that reads its reports from a list, one after the other, and then ends. Where it heeds a
cancel it gives up. -/
structure Recital where
  ending : Except AdminError Unit
  /-- Whether it heeds a cancel when so many reports are left. -/
  heeds : Nat → Bool := fun _ => true

def Recital.next (c : Recital) : Call (List Report) := fun rest cancelled =>
  if cancelled && c.heeds rest.length then some (.finish (.error .operationCancelled))
  else
    match rest with
    | [] => some (.finish c.ending)
    | r :: rest => some (.deliver r rest)

/-- What the feed does next. -/
inductive FeedPlace (φ : Type) where
  /-- It moves on in its call. -/
  | calling (p : φ)
  /-- It looks whether the watch takes a report. -/
  | offering (r : Report) (p : φ)
  /-- It puts a report that the watch has taken into the queue. -/
  | sending (r : Report) (p : φ)
  /-- It stops the watch if the report is a reason to. -/
  | concluding (r : Report) (p : φ)
  | tripping (reason : StopReason) (first : Bool) (p : φ)
  /-- It ends the watch as the call has ended. -/
  | returned (e : Except AdminError Unit)
  | closing (first : Bool)
  /-- It gives up its place at the queue. -/
  | leaving (v : Except MonitorError Unit)
  /-- It tells how it has ended. -/
  | left (v : Except MonitorError Unit)
  | done

/-- What the display does next. -/
inductive DisplayPlace where
  /-- It draws the first frame. -/
  | starting
  /-- It looks at the queue. -/
  | polling
  /-- It has found the queue empty. -/
  | waiting
  /-- It stops the watch. -/
  | obeying (reason : StopReason)
  | tripping (reason : StopReason) (first : Bool)
  /-- It takes the watch down. -/
  | closing
  | restoring (first : Bool)
  /-- It waits for the end of the feed. -/
  | joining
  | returned
  deriving DecidableEq

/-- After a signal the display stops the watch, or looks at the queue again. -/
def DisplayPlace.after : Option StopReason → DisplayPlace
  | some reason => .obeying reason
  | none => .polling

/-- What a display stopped for, and what the feed had done by then. -/
structure Quit where
  reason : StopReason
  sent : List Report
  result : Option (Except AdminError Unit)

/-- A session whose parties take turns, and what has happened in it. -/
structure Interplay (φ : Type) where
  session : Session
  feed : FeedPlace φ
  display : DisplayPlace := .starting
  /-- Whether others can put signals into the queue. -/
  others : Bool
  /-- The reports that the feed has put into the queue. -/
  sent : List Report := []
  /-- The signals that the display was given. -/
  taken : List Signal := []
  /-- How the call for reports has ended. -/
  result : Option (Except AdminError Unit) := none
  quit : Option Quit := none

inductive Turn where
  | feed
  | display
  /-- The display hears of the end of the feed after it has found the queue empty. -/
  | listen
  | spinner
  | interrupt
  /-- The others leave. -/
  | leave
  deriving DecidableEq

namespace Interplay

variable {φ : Type}

def monitor (x : Interplay φ) : Monitor := x.session.watch.monitor

def queue (x : Interplay φ) : List Signal := x.session.watch.route.queue

def withWatch (x : Interplay φ) (w : Watch) : Interplay φ :=
  { x with session := { x.session with watch := w } }

def withMonitor (x : Interplay φ) (m : Monitor) : Interplay φ :=
  x.withWatch { x.session.watch with monitor := m }

/-- A session before its first frame. -/
def start (m : Monitor) (screen : Screen) (p : φ) (others : Bool) : Interplay φ :=
  { session := { watch := ⟨m, .display [] true⟩, screen }, feed := .calling p, others }

/-! ### The feed -/

/-- What a report means for the watch. -/
def tick (x : Interplay φ) (r : Report) : Tick := .ofSighting (r.lookup x.monitor.jobId)

/-- A turn of the feed. The snapshot that it stores is read by nobody before the feed has ended. -/
def feedTurn (P : Call φ) (x : Interplay φ) : Option (Interplay φ) :=
  let w := x.session.watch
  match x.feed with
  | .calling p =>
    match P p w.isCancelled with
    | none => none
    | some (.onward p) => some { x with feed := .calling p }
    | some (.deliver r p) => some { x with feed := .offering r p }
    | some (.finish e) => some { x with feed := .returned e, result := some e }
  | .offering r p =>
    if w.isCancelled then some { x with feed := .calling p }
    else some { x.withWatch (w.keep (r.lookup w.monitor.jobId)) with feed := .sending r p }
  | .sending r p =>
    some { x.withWatch (w.send r (x.tick r)) with feed := .concluding r p, sent := x.sent ++ [r] }
  | .concluding r p =>
    match (x.tick r).stop? with
    | none => some { x with feed := .calling p }
    | some reason =>
      some { x.withMonitor (x.monitor.record reason) with
        feed := .tripping reason x.monitor.reason.isNone p }
  | .tripping reason first p =>
    some { x.withMonitor (x.monitor.trip reason first) with feed := .calling p }
  | .returned (.ok ()) =>
    let m := x.monitor.note .info .subscriber
      ("metrics feed for job " ++ x.monitor.jobId ++ " closed by server")
    some { x.withMonitor (m.record .feedClosed) with feed := .closing m.reason.isNone }
  | .returned (.error e) =>
    some { x.withWatch (w.finish (.error e)).1 with feed := .leaving (w.finish (.error e)).2 }
  | .closing first =>
    some { x.withMonitor (x.monitor.trip .feedClosed first) with feed := .leaving (.ok ()) }
  | .leaving v => some { x with feed := .left v }
  | .left v => some { x with session := { x.session with ending := some v }, feed := .done }
  | .done => none

/-! ### The display -/

/-- Whether nobody can put a signal into the queue any more. -/
def isClosed (x : Interplay φ) : Bool :=
  !x.others &&
    match x.feed with
    | .left _ | .done => true
    | _ => false

/-- The display is given a signal, redraws, and stops if it is asked to. A frame that cannot be
drawn ends it before. -/
def take (x : Interplay φ) (g : Signal) : Interplay φ :=
  let (screen, stop) := x.session.screen.update g
  let s := { x.session with screen }.redraw
  { x with
    session := s
    taken := x.taken ++ [g]
    display := if s.isOver then .closing else .after stop }

/-- The display hears of the end of the feed; a failure ends it. -/
def hear (x : Interplay φ) : Interplay φ :=
  let s := x.session.hear
  { x with session := s, display := if s.isOver then .closing else .polling }

/-- The queue is empty and closed: the display hears of the end of the feed, if it has not yet, and
is given that instead of a signal. -/
def takeEnd (x : Interplay φ) : Option (Interplay φ) :=
  if x.session.heard then some (x.take .feedClosed)
  else if x.session.ending.isNone then none
  else if x.hear.session.isOver then some x.hear
  else some (x.hear.take .feedClosed)

/-- The display looks at the queue. -/
def poll (x : Interplay φ) : Option (Interplay φ) :=
  match x.session.watch.route with
  | .display (g :: queue) isOpen =>
    some ((x.withWatch { x.session.watch with route := .display queue isOpen }).take g)
  | _ =>
    if x.isClosed then x.takeEnd
    else if x.display = .polling then some { x with display := .waiting }
    else none

/-- A turn of the display. -/
def displayTurn (x : Interplay φ) : Option (Interplay φ) :=
  match x.display with
  | .starting =>
    let s := x.session.redraw
    some { x with session := s, display := if s.isOver then .closing else .polling }
  | .polling | .waiting => x.poll
  | .obeying reason =>
    let m := x.monitor.note .info .effects ("Display quitting: " ++ reason.text)
    some { x.withMonitor (m.record reason) with
      display := .tripping reason m.reason.isNone, quit := some ⟨reason, x.sent, x.result⟩ }
  | .tripping reason first =>
    let x := x.withMonitor (x.monitor.trip reason first)
    some { x with session := { x.session with verdict := some (.ok ()) }, display := .closing }
  | .closing =>
    some { x.withMonitor (x.monitor.record .shutdown) with
      display := .restoring x.monitor.reason.isNone }
  | .restoring first =>
    let x := x.withMonitor (x.monitor.trip .shutdown first)
    some { x with session := x.session.restore, display := .joining }
  | .joining =>
    if x.session.ending.isSome then some { x with session := x.session.join, display := .returned }
    else none
  | .returned => none

/-- The display hears of the end of the feed, with the queue found empty just before. -/
def listen (x : Interplay φ) : Option (Interplay φ) :=
  if x.display = .waiting ∧ x.session.ending.isSome ∧ !x.session.heard then some x.hear else none

/-! ### Runs -/

def turn (P : Call φ) (x : Interplay φ) : Turn → Option (Interplay φ)
  | .feed => x.feedTurn P
  | .display => x.displayTurn
  | .listen => x.listen
  | .spinner => if x.others then some { x with session := x.session.post .spinner } else none
  | .interrupt => if x.others then some { x with session := x.session.post .interrupt } else none
  | .leave => if x.others then some { x with others := false } else none

/-- Turns in an order; nothing if one of them is not possible. -/
def run (P : Call φ) (x : Interplay φ) (ts : List Turn) : Option (Interplay φ) :=
  ts.foldlM (turn P) x

variable {P : Call φ} {x y : Interplay φ}

lemma run_nil : x.run P [] = some x := rfl

lemma run_cons (t : Turn) (ts : List Turn) :
    x.run P (t :: ts) = (x.turn P t).bind (·.run P ts) := by
  rw [run, List.foldlM_cons]
  rfl

lemma run_append (ts us : List Turn) :
    x.run P (ts ++ us) = (x.run P ts).bind (·.run P us) := by
  rw [run, List.foldlM_append]
  rfl

/-- **What every turn keeps holds after every run.** -/
theorem run_invariant {I : Interplay φ → Prop} {ts : List Turn}
    (hstep : ∀ x t y, t ∈ ts → I x → x.turn P t = some y → I y) (hx : I x)
    (hrun : x.run P ts = some y) : I y := by
  induction ts generalizing x with
  | nil =>
    obtain rfl := Option.some.inj hrun
    exact hx
  | cons t ts ih =>
    rw [run_cons, Option.bind_eq_some_iff] at hrun
    obtain ⟨z, hz, hrest⟩ := hrun
    exact ih (fun x t y ht => hstep x t y (List.mem_cons_of_mem _ ht))
      (hstep x t z List.mem_cons_self hx hz) hrest

/-! ### Turns that nothing comes between -/

/-- The turns of a delivery make up a delivery of the session. -/
theorem run_deliver {r : Report} {p : φ} {queue : List Signal} (hfeed : x.feed = .offering r p)
    (hroute : x.session.watch.route = .display queue true) :
    ∃ n sent, x.run P (List.replicate n .feed) =
      some { x with session := x.session.deliver r, feed := .calling p, sent } := by
  by_cases hc : x.session.watch.isCancelled = true
  · refine ⟨1, x.sent, ?_⟩
    simp [run_cons, run_nil, turn, feedTurn, hfeed, hc, Session.deliver, Watch.deliver]
  · have hroute' : (x.session.watch.keep (r.lookup x.session.watch.monitor.jobId)).route =
        .display queue true := by
      rw [← hroute]
      cases r.lookup x.session.watch.monitor.jobId <;> rfl
    cases hstop : (Tick.ofSighting (r.lookup x.session.watch.monitor.jobId)).stop? with
    | none =>
      refine ⟨3, x.sent ++ [r], ?_⟩
      simp [List.replicate, run_cons, run_nil, turn, feedTurn, hfeed, hc, Session.deliver,
        Watch.deliver, withWatch, tick, monitor, Watch.send, hroute', Watch.conclude, hstop]
    | some reason =>
      refine ⟨4, x.sent ++ [r], ?_⟩
      simp [List.replicate, run_cons, run_nil, turn, feedTurn, hfeed, hc, Session.deliver,
        Watch.deliver, withWatch, withMonitor, tick, monitor, Watch.send, hroute', Watch.conclude,
        hstop, Watch.cancel, Monitor.cancel_eq, Monitor.reason]

/-- The turns of a feed whose call has returned make up its end in the session. -/
theorem run_finishFeed {e : Except AdminError Unit} (hfeed : x.feed = .returned e) :
    ∃ n, x.run P (List.replicate n .feed) =
      some { x with session := x.session.finishFeed e, feed := .done } := by
  cases e with
  | ok u =>
    refine ⟨4, ?_⟩
    simp [List.replicate, run_cons, run_nil, turn, feedTurn, hfeed, withWatch, withMonitor,
      monitor, Session.finishFeed, Watch.finish, Watch.cancel, Watch.note, Monitor.cancel_eq]
  | error e =>
    refine ⟨3, ?_⟩
    simp [List.replicate, run_cons, run_nil, turn, feedTurn, hfeed, withWatch,
      Session.finishFeed]

lemma take_eq {g : Signal} {screen : Screen} {stop : Option StopReason} {s : Session}
    (hupdate : x.session.screen.update g = (screen, stop))
    (hredraw : ({ x.session with screen } : Session).redraw = s) :
    x.take g =
      { x with
        session := s
        taken := x.taken ++ [g]
        display := if s.isOver then .closing else .after stop } := by
  simp only [take, hupdate, hredraw]

/-- The turns of a display that was given a signal make up its taking of the signal. -/
lemma run_take (x : Interplay φ) (g : Signal) :
    ∃ n quit, (x.take g).run P (List.replicate n .display) =
      some { x with
        session := x.session.take g
        display := if (x.session.take g).isOver then .closing else .polling
        taken := x.taken ++ [g]
        quit } := by
  obtain ⟨screen, stop, hupdate⟩ : ∃ screen stop, x.session.screen.update g = (screen, stop) :=
    ⟨_, _, rfl⟩
  obtain ⟨s, hredraw⟩ : ∃ s, ({ x.session with screen } : Session).redraw = s := ⟨_, rfl⟩
  rw [take_eq hupdate hredraw]
  simp only [Session.take, hupdate, hredraw]
  clear hupdate hredraw
  obtain ⟨watch, screen', ending, heard, _ | v⟩ := s
  · cases stop with
    | none => exact ⟨0, x.quit, rfl⟩
    | some reason =>
      refine ⟨2, some ⟨reason, x.sent, x.result⟩, ?_⟩
      simp [List.replicate, run_cons, run_nil, turn, displayTurn, withWatch, withMonitor, monitor,
        Monitor.obey, Monitor.cancel_eq, Session.isOver, DisplayPlace.after]
  · -- the frame could not be drawn
    exact ⟨0, x.quit, rfl⟩

/-- The turns of a display that finds a signal in the queue make up its taking of the signal. -/
theorem run_takeNext {g : Signal} {queue : List Signal} {isOpen : Bool}
    (hdisplay : x.display = .polling)
    (hroute : x.session.watch.route = .display (g :: queue) isOpen) :
    ∃ n quit, x.run P (List.replicate n .display) =
      some { x with
        session := x.session.takeNext
        display := if x.session.takeNext.isOver then .closing else .polling
        taken := x.taken ++ [g]
        quit } := by
  let z := x.withWatch { x.session.watch with route := .display queue isOpen }
  have hnext : x.session.takeNext = z.session.take g := by
    rw [Session.takeNext, hroute]
    rfl
  have hfirst : x.turn P .display = some (z.take g) := by
    simp [turn, displayTurn, hdisplay, poll, hroute, z]
  obtain ⟨n, quit, hrun⟩ := run_take (P := P) z g
  refine ⟨n + 1, quit, ?_⟩
  rw [List.replicate_succ, run_cons, hfirst, Option.bind_some, hrun, hnext]
  rfl

/-- The turns of a display whose loop has ended make up the end of the session. -/
theorem run_close (hdisplay : x.display = .closing) (hending : x.session.ending.isSome) :
    x.run P (List.replicate 3 .display) =
      some { x with session := x.session.close.join, display := .returned } := by
  have hrestore : ∀ s : Session, s.restore.ending = s.ending := fun _ => rfl
  simp [List.replicate, run_cons, run_nil, turn, displayTurn, hdisplay, withWatch, withMonitor,
    monitor, Session.close_eq, Monitor.shutdown, Monitor.cancel_eq, hrestore, hending]

end Interplay

end JobWatch
