import JobWatch.Proofs.Watch.Reports

/-!
A watch whose display goes away.

The queue receives reports as long as there is a display and the watch runs. Afterwards the first
report that comes to a running watch stops it, whatever it holds, though its snapshot is still
stored.
-/

namespace JobWatch

open Feed (through)

/-- A watch whose reports go to a display, and what has left its queue. -/
structure Forwarding where
  watch : Watch
  gone : List Signal := []

namespace Forwarding

/-- What can happen to it. -/
inductive Incident where
  | deliver (r : Report)
  | cancel (reason : StopReason)
  /-- The display takes what is in the queue. -/
  | take
  /-- The display goes away, with what is in the queue. -/
  | leave

def apply (f : Forwarding) : Incident → Forwarding
  | .deliver r => { f with watch := f.watch.deliver r }
  | .cancel reason => { f with watch := f.watch.cancel reason }
  | .take =>
    match f.watch.route with
    | .display queue isOpen =>
      ⟨{ f.watch with route := .display [] isOpen }, f.gone ++ queue⟩
    | .records _ => f
  | .leave =>
    ⟨{ f.watch with route := f.watch.route.leave }, f.gone ++ f.watch.route.queue⟩

def run (f : Forwarding) (is : List Incident) : Forwarding := is.foldl apply f

/-- Everything that was ever put into the queue, in its order. -/
def received (f : Forwarding) : List Signal := f.gone ++ f.watch.route.queue

/-- A watch with a display, from its beginning. -/
def after (target jobId : String) (is : List Incident) : Forwarding :=
  run ⟨⟨{ target, jobId }, .display [] true⟩, []⟩ is

/-! ### What incidents mean -/

namespace Incident

def report? : Incident → Option Report
  | .deliver r => some r
  | _ => none

def isLeave : Incident → Bool
  | .leave => true
  | _ => false

/-- Why an incident stops a watch with a display, if it does. -/
def stop? (jobId : String) : Incident → Option StopReason
  | .deliver r => r.stop? jobId
  | .cancel reason => some reason
  | _ => none

/-- The reports delivered before the display goes away, up to the first stop and with it. -/
def forwarded (jobId : String) (is : List Incident) : List Report :=
  (through (fun i => (i.stop? jobId).isSome) (is.takeWhile (!·.isLeave))).filterMap report?

end Incident

open Incident

/-! ### One incident -/

/-- What a watch of a job and its display have come to: whether there is a display, what its queue
has received, the snapshot, and the reason that the watch stopped for. -/
structure Holds (f : Forwarding) (jobId : String) (isOpen : Bool) (received : List Signal)
    (latest : Option Snapshot) (stop : Option StopReason) : Prop where
  jobId : f.watch.monitor.jobId = jobId
  route : ∃ queue, f.watch.route = .display queue isOpen
  received : f.received = received
  latest : f.watch.monitor.latest = latest
  cancellation : f.watch.monitor.cancellation = ⟨stop.isSome, stop⟩

variable {f : Forwarding} {jobId : String} {isOpen : Bool} {received : List Signal}
  {latest : Option Snapshot} {stop : Option StopReason}

lemma Holds.isCancelled (h : f.Holds jobId isOpen received latest stop) :
    f.watch.isCancelled = stop.isSome := by
  rw [Watch.isCancelled, Monitor.isCancelled, h.cancellation]

lemma Holds.cancel (h : f.Holds jobId isOpen received latest stop) (reason : StopReason) :
    (f.apply (.cancel reason)).Holds jobId isOpen received latest (stop.or (some reason)) := by
  obtain ⟨journal, hcancel⟩ := Monitor.cancel_keeps h.cancellation reason
  rw [apply, Watch.cancel, hcancel]
  exact ⟨h.jobId, h.route, h.received, h.latest, rfl⟩

lemma Holds.take (h : f.Holds jobId isOpen received latest stop) :
    (f.apply .take).Holds jobId isOpen received latest stop := by
  obtain ⟨queue, hroute⟩ := h.route
  rw [apply, hroute]
  refine ⟨h.jobId, ⟨[], rfl⟩, ?_, h.latest, h.cancellation⟩
  rw [← h.received, Forwarding.received, Forwarding.received, hroute]
  exact List.append_nil _

lemma Holds.leave (h : f.Holds jobId isOpen received latest stop) :
    (f.apply .leave).Holds jobId false received latest stop := by
  obtain ⟨queue, hroute⟩ := h.route
  rw [apply, hroute]
  refine ⟨h.jobId, ⟨[], rfl⟩, ?_, h.latest, h.cancellation⟩
  rw [← h.received, Forwarding.received, Forwarding.received, hroute]
  exact List.append_nil _

/-- As long as there is a display, a report goes into its queue. -/
lemma Holds.deliver_open (h : f.Holds jobId true received latest none) (r : Report) :
    (f.apply (.deliver r)).Holds jobId true (received ++ [.report r]) ((r.job? jobId).or latest)
      (r.stop? jobId) := by
  obtain ⟨queue, hroute⟩ := h.route
  have hforwards : f.watch.Forwards jobId queue latest none :=
    ⟨h.jobId, hroute, h.latest, h.cancellation⟩
  have hdeliver := hforwards.deliver r
  refine ⟨hdeliver.jobId, ⟨_, hdeliver.route⟩, ?_, hdeliver.latest, hdeliver.cancellation⟩
  rw [← h.received, Forwarding.received, Forwarding.received, hroute, apply, hdeliver.route]
  exact (List.append_assoc ..).symm

/-- A cancel of a watch that has stopped changes nothing but its journal. -/
lemma cancel_stopped {w : Watch} {reason : StopReason}
    (hw : w.monitor.cancellation = ⟨true, some reason⟩) (other : StopReason) :
    ∃ journal, w.cancel other = { w with monitor := { w.monitor with journal } } := by
  obtain ⟨journal, hcancel⟩ := w.monitor.cancel_changes other
  refine ⟨journal, ?_⟩
  rw [Watch.cancel, hcancel, hw, Option.some_or, ← hw]

/-- What a report does to a watch that runs, once its display is gone. -/
lemma deliver_closed {w : Watch} {queue : List Signal} (hroute : w.route = .display queue false)
    (hw : w.monitor.cancellation = {}) (r : Report) :
    ∃ journal, w.deliver r =
      { w with monitor := { w.monitor with
        latest := (r.job? w.monitor.jobId).or w.monitor.latest
        cancellation := ⟨true, some .shutdown⟩
        journal } } := by
  have hrunning : w.isCancelled = false := by rw [Watch.isCancelled, Monitor.isCancelled, hw]
  rw [Watch.deliver, hrunning, if_neg Bool.false_ne_true, Report.job?]
  generalize r.lookup w.monitor.jobId = seen
  -- the display is gone, which stops the watch before the report does
  obtain ⟨journal, hsend⟩ : ∃ journal, (w.keep seen).send r (.ofSighting seen) =
      { w with monitor := { w.monitor with
        latest := seen.job?.or w.monitor.latest
        cancellation := ⟨true, some .shutdown⟩
        journal } } := by
    rw [Watch.send, Watch.keep_route, hroute]
    dsimp only
    obtain ⟨journal, hcancel⟩ := ((w.keep seen).note .debug .subscriber
      "display queue closed; stopping the feed").monitor.cancel_changes .shutdown
    refine ⟨journal, ?_⟩
    rw [Watch.cancel, hcancel]
    cases seen <;>
      simp [Watch.note, Watch.keep, Monitor.note, Monitor.store, Sighting.job?, hw, hroute]
  dsimp only
  rw [hsend, Watch.conclude]
  split
  · exact cancel_stopped rfl _
  · exact ⟨journal, rfl⟩

/-- **Once the display is gone, the first report stops the watch**, whatever it holds. -/
lemma Holds.deliver_closed (h : f.Holds jobId false received latest none) (r : Report) :
    (f.apply (.deliver r)).Holds jobId false received ((r.job? jobId).or latest)
      (some .shutdown) := by
  obtain ⟨queue, hroute⟩ := h.route
  obtain ⟨journal, hdeliver⟩ := Forwarding.deliver_closed hroute h.cancellation r
  rw [apply, hdeliver]
  refine ⟨h.jobId, h.route, h.received, ?_, rfl⟩
  rw [← h.jobId, ← h.latest]

/-! ### Runs -/

lemma run_cons (f : Forwarding) (i : Incident) (is : List Incident) :
    f.run (i :: is) = (f.apply i).run is := rfl

lemma after_append (target jobId : String) (is more : List Incident) :
    after target jobId (is ++ more) = (after target jobId is).run more := List.foldl_append

lemma holds_after_nil (target jobId : String) :
    (after target jobId []).Holds jobId true [] none none :=
  ⟨rfl, ⟨[], rfl⟩, rfl, rfl, rfl⟩

lemma Holds.deliver_stopped {reason : StopReason}
    (h : f.Holds jobId isOpen received latest (some reason)) (r : Report) :
    f.apply (.deliver r) = f := by
  rw [apply, Watch.deliver_stopped h.isCancelled]

/-- **Once a watch has stopped nothing changes any more**, but what has left the queue. -/
theorem Holds.run_stopped {reason : StopReason}
    (h : f.Holds jobId isOpen received latest (some reason)) (is : List Incident) :
    ∃ isOpen', (f.run is).Holds jobId isOpen' received latest (some reason) := by
  induction is generalizing f isOpen with
  | nil => exact ⟨isOpen, h⟩
  | cons i is ih =>
    rw [run_cons]
    cases i with
    | deliver r =>
      rw [h.deliver_stopped r]
      exact ih h
    | cancel other => exact ih (h.cancel other)
    | take => exact ih h.take
    | leave => exact ih h.leave

/-- Once the display is gone the queue receives nothing more. -/
lemma Holds.run_left (h : f.Holds jobId false received latest none) (is : List Incident) :
    ∃ isOpen' latest' stop', (f.run is).Holds jobId isOpen' received latest' stop' := by
  induction is generalizing f latest with
  | nil => exact ⟨false, latest, none, h⟩
  | cons i is ih =>
    rw [run_cons]
    cases i with
    | deliver r =>
      obtain ⟨isOpen', hrest⟩ := (h.deliver_closed r).run_stopped is
      exact ⟨isOpen', _, _, hrest⟩
    | cancel reason =>
      obtain ⟨isOpen', hrest⟩ := (h.cancel reason).run_stopped is
      exact ⟨isOpen', _, _, hrest⟩
    | take => exact ih h.take
    | leave => exact ih h.leave

lemma forwarded_leave (is : List Incident) : forwarded jobId (.leave :: is) = [] := rfl

lemma forwarded_take (is : List Incident) :
    forwarded jobId (.take :: is) = forwarded jobId is := rfl

lemma forwarded_cancel (reason : StopReason) (is : List Incident) :
    forwarded jobId (.cancel reason :: is) = [] := rfl

lemma forwarded_deliver (r : Report) (is : List Incident) :
    forwarded jobId (.deliver r :: is) =
      r :: if (r.stop? jobId).isSome then [] else forwarded jobId is := by
  have hstop : (Incident.deliver r).stop? jobId = r.stop? jobId := rfl
  rw [forwarded, List.takeWhile_cons_of_pos (by rfl), through, hstop]
  split <;> rfl

/-- **What the queue of a watch that runs receives.** -/
theorem Holds.run_received (h : f.Holds jobId true received latest none) (is : List Incident) :
    (f.run is).received = received ++ (forwarded jobId is).map .report := by
  induction is generalizing f received latest with
  | nil => exact h.received.trans (List.append_nil _).symm
  | cons i is ih =>
    rw [run_cons]
    cases i with
    | take =>
      rw [forwarded_take]
      exact ih h.take
    | leave =>
      obtain ⟨_, _, _, hrest⟩ := h.leave.run_left is
      rw [forwarded_leave, hrest.received]
      exact (List.append_nil _).symm
    | cancel reason =>
      obtain ⟨_, hrest⟩ := (h.cancel reason).run_stopped is
      rw [forwarded_cancel, hrest.received]
      exact (List.append_nil _).symm
    | deliver r =>
      have hstep := h.deliver_open r
      rw [forwarded_deliver]
      rcases hstop : r.stop? jobId with _ | reason
      · rw [hstop] at hstep
        rw [ih hstep, List.append_assoc]
        rfl
      · rw [hstop] at hstep
        obtain ⟨_, hrest⟩ := hstep.run_stopped is
        exact hrest.received

/-- As long as nothing stops it a watch with a display runs on. -/
lemma Holds.run_open (h : f.Holds jobId true received latest none) {is : List Incident}
    (his : ∀ i ∈ is, i.isLeave = false ∧ i.stop? jobId = none) :
    ∃ received' latest', (f.run is).Holds jobId true received' latest' none := by
  induction is generalizing f received latest with
  | nil => exact ⟨received, latest, h⟩
  | cons i is ih =>
    obtain ⟨hleave, hstop⟩ := his i List.mem_cons_self
    have hrest := fun i hi => his i (List.mem_cons_of_mem _ hi)
    rw [run_cons]
    cases i with
    | deliver r =>
      have hstep := h.deliver_open r
      rw [show r.stop? jobId = none from hstop] at hstep
      exact ih hstep hrest
    | cancel reason => cases hstop
    | take => exact ih h.take hrest
    | leave => cases hleave

/-- As long as no report comes to a watch whose display is gone, only the first cancel counts. -/
lemma Holds.run_unreported (h : f.Holds jobId false received latest stop) {is : List Incident}
    (his : ∀ i ∈ is, i.report? = none) :
    (f.run is).Holds jobId false received latest
      (stop.or (is.findSome? (·.stop? jobId))) := by
  induction is generalizing f stop with
  | nil => rwa [List.findSome?_nil, Option.or_none]
  | cons i is ih =>
    have hreport := his i List.mem_cons_self
    have hrest := fun i hi => his i (List.mem_cons_of_mem _ hi)
    rw [run_cons]
    cases i with
    | deliver r => cases hreport
    | cancel reason =>
      have hlater := ih (h.cancel reason) hrest
      rwa [Option.or_assoc, Option.some_or] at hlater
    | take => exact ih h.take hrest
    | leave => exact ih h.leave hrest

lemma Holds.reason (h : f.Holds jobId isOpen received latest stop) :
    f.watch.monitor.reason = stop := by
  rw [Monitor.reason, h.cancellation]

/-- Whatever comes to a watch that has stopped, it drops every report and stays what it was. -/
lemma Holds.run_drops {reason : StopReason}
    (h : f.Holds jobId isOpen received latest (some reason)) (more : List Incident) :
    (∀ r, (f.run more).watch.deliver r = (f.run more).watch) ∧
      (f.run more).received = f.received ∧
      (f.run more).watch.monitor.latest = f.watch.monitor.latest ∧
      (f.run more).watch.monitor.reason = some reason := by
  obtain ⟨_, hrest⟩ := h.run_stopped more
  exact ⟨Watch.deliver_stopped hrest.isCancelled, hrest.received.trans h.received.symm,
    hrest.latest.trans h.latest.symm, hrest.reason⟩

/-- **A display that goes away.** Reports, cancels from outside and the end of the display come to a
watch in any order. Its queue receives the reports that are delivered before the display goes away
and not later than the first stop, each of them once and in their order.

If the display goes away before anything has stopped the watch, the first report after that, with no
cancel in between, takes the watch down, whatever it holds. Its job is stored if it has it; and
whatever comes then, no report changes anything any more, and neither the queue nor the snapshot nor
the reason changes.

If cancels come in between, the first of them has stopped the watch for its own reason with the
snapshot that there was, and already the first report changes nothing. -/
theorem queue_until_departure (target jobId : String) :
    (∀ is, (after target jobId is).received = (forwarded jobId is).map .report) ∧
    (∀ before between r, (∀ i ∈ before, i.isLeave = false ∧ i.stop? jobId = none) →
      (∀ i ∈ between, i.report? = none ∧ i.stop? jobId = none) →
      (after target jobId (before ++ .leave :: between)).watch.isCancelled = false ∧
      ∀ f, after target jobId (before ++ .leave :: between ++ [.deliver r]) = f →
        f.watch.isCancelled = true ∧
        f.watch.monitor.reason = some .shutdown ∧
        f.watch.monitor.latest =
          (r.job? jobId).or (after target jobId before).watch.monitor.latest ∧
        ∀ more, (∀ r', (f.run more).watch.deliver r' = (f.run more).watch) ∧
          (f.run more).received = f.received ∧
          (f.run more).watch.monitor.latest = f.watch.monitor.latest ∧
          (f.run more).watch.monitor.reason = some .shutdown) ∧
    ∀ before between reason, (∀ i ∈ before, i.isLeave = false ∧ i.stop? jobId = none) →
      (∀ i ∈ between, i.report? = none) → between.findSome? (·.stop? jobId) = some reason →
      ∀ f, after target jobId (before ++ .leave :: between) = f →
        f.watch.isCancelled = true ∧
        f.watch.monitor.reason = some reason ∧
        f.watch.monitor.latest = (after target jobId before).watch.monitor.latest ∧
        (∀ r, f.apply (.deliver r) = f) ∧
        ∀ more, (∀ r, (f.run more).watch.deliver r = (f.run more).watch) ∧
          (f.run more).received = f.received ∧
          (f.run more).watch.monitor.latest = f.watch.monitor.latest ∧
          (f.run more).watch.monitor.reason = some reason := by
  have hgone : ∀ before between, after target jobId (before ++ .leave :: between) =
      ((after target jobId before).apply .leave).run between := fun _ _ => after_append ..
  refine ⟨fun is => (holds_after_nil target jobId).run_received is, ?_, ?_⟩
  · intro before between r hbefore hbetween
    obtain ⟨received, latest, hopen⟩ := (holds_after_nil target jobId).run_open hbefore
    have hidle := hopen.leave.run_unreported fun i hi => (hbetween i hi).1
    rw [List.findSome?_eq_none_iff.2 fun i hi => (hbetween i hi).2, Option.or_none] at hidle
    refine ⟨?_, ?_⟩
    · rw [hgone]
      exact hidle.isCancelled
    · rintro f rfl
      have hstopped := hidle.deliver_closed r
      rw [after_append, hgone]
      refine ⟨hstopped.isCancelled, hstopped.reason, ?_, hstopped.run_drops⟩
      exact hstopped.latest.trans (congrArg _ hopen.latest.symm)
  · rintro before between reason hbefore hbetween hreason f rfl
    obtain ⟨received, latest, hopen⟩ := (holds_after_nil target jobId).run_open hbefore
    have hstopped := hopen.leave.run_unreported hbetween
    rw [hreason, Option.none_or] at hstopped
    rw [hgone]
    exact ⟨hstopped.isCancelled, hstopped.reason, hstopped.latest.trans hopen.latest.symm,
      hstopped.deliver_stopped, hstopped.run_drops⟩

/-- The display takes the first report and goes away; the next report tells of a failure. If the
user interrupts before that report comes, it is dropped. -/
theorem queue_until_departure_failing :
    (∀ i ∈ [Incident.deliver (.ofJob "j" {} .epoch), .take],
      i.isLeave = false ∧ i.stop? "j" = none) ∧
    (∃ f, after "s" "j" [.deliver (.ofJob "j" {} .epoch), .take, .leave,
        .deliver (.ofJob "j" { failed := true } .epoch)] = f ∧
      f.received = [.report (.ofJob "j" {} .epoch)] ∧
      f.watch.monitor.reason = some .shutdown ∧
      f.watch.monitor.latest = some { failed := true }) ∧
    ∃ f, after "s" "j" [.deliver (.ofJob "j" {} .epoch), .take, .leave, .take,
        .cancel .interrupted, .cancel .shutdown] = f ∧
      f.watch.monitor.reason = some .interrupted ∧
      f.watch.monitor.latest = some {} ∧
      f.apply (.deliver (.ofJob "j" { failed := true } .epoch)) = f := by
  have hbefore : ∀ i ∈ [Incident.deliver (.ofJob "j" {} .epoch), .take],
      i.isLeave = false ∧ i.stop? "j" = none := by
    intro i hi
    obtain rfl | rfl : i = .deliver (.ofJob "j" {} .epoch) ∨ i = .take := by simpa using hi
    · exact ⟨rfl, rfl⟩
    · exact ⟨rfl, rfl⟩
  have hbetween : ∀ i ∈ [Incident.take, .cancel .interrupted, .cancel .shutdown],
      i.report? = none := by
    simp [Incident.report?]
  obtain ⟨hreceived, hgone, hovertaken⟩ := queue_until_departure "s" "j"
  obtain ⟨-, hshutdown⟩ := hgone _ [] (.ofJob "j" { failed := true } .epoch) hbefore nofun
  obtain ⟨-, hreason, hlatest, -⟩ := hshutdown _ rfl
  obtain ⟨-, hfirst, hkept, hdropped, -⟩ := hovertaken _ _ _ hbefore hbetween rfl _ rfl
  exact ⟨hbefore, ⟨_, rfl, hreceived _, hreason, hlatest⟩, _, rfl, hfirst, hkept, hdropped _⟩

/-- It is not so for every sequence in which the display goes away before any stop that the first
report after that takes the watch down: a cancel in between keeps its own reason, and the report is
dropped with its job. -/
theorem departure_overtaken :
    ¬ ∀ (before between : List Incident) (r : Report),
      (∀ i ∈ before, i.isLeave = false ∧ i.stop? "j" = none) → (∀ i ∈ between, i.report? = none) →
      ∀ f, after "s" "j" (before ++ .leave :: between ++ [.deliver r]) = f →
        f.watch.monitor.reason = some .shutdown ∧
        f.watch.monitor.latest =
          (r.job? "j").or (after "s" "j" before).watch.monitor.latest := by
  intro h
  have hbetween : ∀ i ∈ [Incident.cancel .interrupted], i.report? = none := by
    intro i hi
    rw [List.mem_singleton.1 hi]
    rfl
  obtain ⟨hreason, -⟩ := h [] [.cancel .interrupted] (.ofJob "j" {} .epoch) nofun hbetween _ rfl
  have hinterrupted : (after "s" "j" [.leave, .cancel .interrupted,
      .deliver (.ofJob "j" {} .epoch)]).watch.monitor.reason = some .interrupted := rfl
  cases hinterrupted.symm.trans hreason

end Forwarding

end JobWatch
