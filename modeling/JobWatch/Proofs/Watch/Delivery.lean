import JobWatch.Proofs.Watch.Reports

/-!
Deliveries in their single steps, between which others may cancel.

A watch that writes records looks twice whether it still runs: before it takes a report, and before
it writes its record. A cancel may come in front of any step. Still the records are those of the
first reports of the feed, a cancel lets at most one more through, and the snapshot is at most one
report ahead of the records.
-/

namespace JobWatch

open Reports

/-- Where the delivery of a report stands. -/
inductive Delivery.Place where
  /-- No report is being delivered. -/
  | between
  /-- The watch was running; the snapshot is to be stored. -/
  | storing (r : Report)
  /-- It is to be looked at once more whether the watch runs. -/
  | testing (r : Report)
  /-- The watch was still running; the record is to be written. -/
  | writing (r : Report)
  /-- The watch is to stop if the report is a reason to. -/
  | concluding (r : Report)

/-- A watch in the middle of its feed. -/
structure Delivery where
  watch : Watch
  place : Delivery.Place := .between
  left : List Report

namespace Watch

/-- Writes the record of a report that has the job. -/
def put (w : Watch) (r : Report) (t : Tick) : Watch :=
  match w.route with
  | .records out => if t.isSnapshot then w.emit r out else w
  | .display _ _ => w

/-- What a report means for the watch. -/
def tick (w : Watch) (r : Report) : Tick := .ofSighting (r.lookup w.monitor.jobId)

variable {w : Watch}

lemma put_eq_send {out : Output} (hroute : w.route = .records out) (hw : w.isCancelled = false)
    (r : Report) (t : Tick) : w.put r t = w.send r t := by
  rw [put, send, hroute]
  simp only [hw, Bool.false_eq_true, if_false]

lemma keep_tick (seen : Sighting) (r : Report) : (w.keep seen).tick r = w.tick r := by
  rw [tick, tick, keep_jobId]

lemma put_tick (r : Report) (t : Tick) : (w.put r t).tick r = w.tick r := by
  have hid : (w.put r t).monitor.jobId = w.monitor.jobId := by
    rw [put]
    split
    · split
      · rw [emit]
        split <;> rfl
      · rfl
    · rfl
  rw [tick, tick, hid]

end Watch

namespace Delivery

/-- The next step of the delivery, or a cancel by somebody else. -/
inductive Move where
  | next
  | cancel (reason : StopReason)

/-- The next step: the watch is looked at, the snapshot stored, the watch looked at once more, the
record written, and the watch stopped. -/
def advance (d : Delivery) : Delivery :=
  match d.place with
  | .between =>
    match d.left with
    | [] => d
    | r :: rs =>
      { d with place := if d.watch.isCancelled then .between else .storing r, left := rs }
  | .storing r =>
    { d with watch := d.watch.keep (r.lookup d.watch.monitor.jobId), place := .testing r }
  | .testing r => { d with place := if d.watch.isCancelled then .concluding r else .writing r }
  | .writing r => { d with watch := d.watch.put r (d.watch.tick r), place := .concluding r }
  | .concluding r => { d with watch := d.watch.conclude (d.watch.tick r), place := .between }

def apply (d : Delivery) : Move → Delivery
  | .next => d.advance
  | .cancel reason => { d with watch := d.watch.cancel reason }

def run (d : Delivery) (ms : List Move) : Delivery := ms.foldl apply d

/-- A watch at the beginning of its feed. -/
def start (target jobId : String) (rs : List Report) : Delivery :=
  { watch := .fresh target jobId, left := rs }

/-- **Without a cancel in between the steps of a report are its delivery.** -/
theorem run_undisturbed {w : Watch} {out : Output} (hroute : w.route = .records out) (r : Report)
    (rs : List Report) :
    ∃ n, run ⟨w, .between, r :: rs⟩ (List.replicate n .next) = ⟨w.deliver r, .between, rs⟩ := by
  cases hw : w.isCancelled
  · have hkept : (w.keep (r.lookup w.monitor.jobId)).isCancelled = false := by
      rw [Watch.isCancelled, Monitor.isCancelled, Watch.keep_cancellation]
      exact hw
    have hsend := Watch.put_eq_send ((w.keep_route (r.lookup w.monitor.jobId)).trans hroute) hkept r
    refine ⟨5, ?_⟩
    simp only [run, List.replicate, List.foldl_cons, List.foldl_nil, apply, advance, hw, hkept,
      Bool.false_eq_true, if_false, Watch.put_tick, Watch.keep_tick]
    rw [hsend, Watch.deliver, hw, if_neg (by simp)]
    rfl
  · refine ⟨1, ?_⟩
    simp [run, apply, advance, hw, Watch.deliver]

/-! ### Cancels -/

/-- The reason of a cancel, if a move is one. -/
def called (d : Delivery) : Move → Option StopReason
  | .cancel reason => some reason
  | .next =>
    match d.place with
    | .concluding r => (d.watch.tick r).stop?
    | _ => none

/-- The reasons of all cancels, in their order. -/
def calls (d : Delivery) : List Move → List StopReason
  | [] => []
  | m :: ms => (d.called m).toList ++ (d.apply m).calls ms

/-! ### What one move keeps -/

/-- What a feed of a job has come to: the reports whose records were written, the snapshot, and the
first reason to stop. -/
structure Holds (d : Delivery) (jobId : String) (rs sent : List Report) (latest : Option Snapshot)
    (stop : Option StopReason) : Prop where
  watch : d.watch.Stands jobId true (String.join (sent.map Report.line)) latest stop
  beginning : sent <+: rs
  /-- The snapshot is that of the last report that was written, or of the one behind it. -/
  stored : latest = lastJob jobId sent ∨ ∃ r more, rs = sent ++ r :: more ∧ latest = r.job? jobId
  /-- As long as the watch runs, every report is written in its turn. -/
  place :
    match d.place with
    | .between | .concluding _ => stop = none → rs = sent ++ d.left ∧ latest = lastJob jobId sent
    | .storing r => rs = sent ++ r :: d.left ∧ latest = lastJob jobId sent
    | .testing r | .writing r => rs = sent ++ r :: d.left ∧ latest = r.job? jobId

lemma holds_start (target jobId : String) (rs : List Report) :
    (start target jobId rs).Holds jobId rs [] none none :=
  ⟨Watch.stands_fresh target jobId, List.nil_prefix, .inl rfl, fun _ => ⟨rfl, rfl⟩⟩

lemma records_snoc (sent : List Report) (r : Report) :
    String.join ((sent ++ [r]).map Report.line) = String.join (sent.map Report.line) ++ r.line := by
  rw [List.map_append, String.join_append, List.map_singleton, String.join_cons, String.join_nil,
    String.append_empty]

section Moves

variable {w : Watch} {jobId : String} {rs sent left : List Report} {r : Report}
  {latest : Option Snapshot} {stop : Option StopReason}

lemma stands_put {written : String} (h : w.Stands jobId true written latest stop)
    (hr : (r.job? jobId).isSome) :
    (w.put r (w.tick r)).Stands jobId true (written ++ r.line) latest stop := by
  have hsnapshot : (w.tick r).isSnapshot = true := by
    rw [Watch.tick, h.jobId, Watch.tick_isSnapshot]
    exact hr
  rw [Watch.put, h.route]
  simp only [hsnapshot, if_true]
  exact h.emit r

lemma stands_conclude {written : String} (h : w.Stands jobId true written latest stop) (t : Tick) :
    (w.conclude t).Stands jobId true written latest (stop.or t.stop?) := by
  rw [Watch.conclude]
  rcases t.stop? with _ | reason
  · rw [Option.or_none]
    exact h
  · exact h.cancel reason

lemma holds_cancel {place : Place} (h : Holds ⟨w, place, left⟩ jobId rs sent latest stop)
    (reason : StopReason) :
    Holds ⟨w.cancel reason, place, left⟩ jobId rs sent latest (stop.or (some reason)) := by
  refine ⟨h.watch.cancel reason, h.beginning, h.stored, ?_⟩
  have hplace := h.place
  cases place with
  | between | concluding r => exact fun hnone => by cases stop <;> cases hnone
  | storing r | testing r | writing r => exact hplace

lemma holds_between (h : Holds ⟨w, .between, left⟩ jobId rs sent latest stop) :
    Holds (advance ⟨w, .between, left⟩) jobId rs sent latest stop := by
  cases left with
  | nil => exact h
  | cons r left =>
    refine ⟨h.watch, h.beginning, h.stored, ?_⟩
    have hplace := h.place
    simp only [advance, h.watch.isCancelled]
    cases stop with
    | none => exact hplace rfl
    | some reason => exact nofun

lemma holds_storing (h : Holds ⟨w, .storing r, left⟩ jobId rs sent latest stop)
    (hr : (r.job? jobId).isSome) :
    Holds (advance ⟨w, .storing r, left⟩) jobId rs sent (r.job? jobId) stop := by
  obtain ⟨hrs, -⟩ := h.place
  have hkeep := h.watch.keep (r.lookup jobId)
  rw [← Report.job?, Option.or_of_isSome hr] at hkeep
  have hid : w.monitor.jobId = jobId := h.watch.jobId
  refine ⟨?_, h.beginning, .inr ⟨r, left, hrs, rfl⟩, hrs, rfl⟩
  simp only [advance, hid]
  exact hkeep

lemma holds_testing (h : Holds ⟨w, .testing r, left⟩ jobId rs sent latest stop) :
    Holds (advance ⟨w, .testing r, left⟩) jobId rs sent latest stop := by
  refine ⟨h.watch, h.beginning, h.stored, ?_⟩
  have hplace := h.place
  simp only [advance, h.watch.isCancelled]
  cases stop with
  | none => exact hplace
  | some reason => exact nofun

lemma holds_writing (h : Holds ⟨w, .writing r, left⟩ jobId rs sent latest stop)
    (hr : (r.job? jobId).isSome) :
    Holds (advance ⟨w, .writing r, left⟩) jobId rs (sent ++ [r]) latest stop := by
  obtain ⟨hrs, hlatest⟩ := h.place
  have hsplit : rs = (sent ++ [r]) ++ left := by rw [hrs, List.append_assoc]; rfl
  have hlast : latest = lastJob jobId (sent ++ [r]) := by
    rw [lastJob_snoc, Option.or_of_isSome hr]
    exact hlatest
  have hput := stands_put h.watch hr
  refine ⟨?_, ⟨left, hsplit.symm⟩, .inl hlast, fun _ => ⟨hsplit, hlast⟩⟩
  rw [records_snoc]
  exact hput

lemma holds_concluding (h : Holds ⟨w, .concluding r, left⟩ jobId rs sent latest stop) :
    Holds (advance ⟨w, .concluding r, left⟩) jobId rs sent latest
      (stop.or (w.tick r).stop?) := by
  refine ⟨stands_conclude h.watch _, h.beginning, h.stored, fun hnone => ?_⟩
  exact h.place (Option.or_eq_none_iff.1 hnone).1

end Moves

variable {d : Delivery} {jobId : String} {rs sent : List Report} {latest : Option Snapshot}
  {stop : Option StopReason}

/-- **What one move does.** It writes the record of the next report, or nothing. -/
theorem Holds.apply (hrs : ∀ r ∈ rs, (r.job? jobId).isSome) (h : d.Holds jobId rs sent latest stop)
    (m : Move) :
    ∃ sent' latest', (d.apply m).Holds jobId rs sent' latest' (stop.or (d.called m)) ∧
      (sent' = sent ∨ ∃ r, m = .next ∧ d.place = .writing r ∧ sent' = sent ++ [r]) := by
  obtain ⟨w, place, left⟩ := d
  cases m with
  | cancel reason => exact ⟨sent, latest, holds_cancel h reason, .inl rfl⟩
  | next =>
    rw [called]
    cases place with
    | between =>
      rw [Option.or_none]
      exact ⟨sent, latest, holds_between h, .inl rfl⟩
    | storing r =>
      rw [Option.or_none]
      have hr := hrs r (by rw [h.place.1]; simp)
      exact ⟨sent, _, holds_storing h hr, .inl rfl⟩
    | testing r =>
      rw [Option.or_none]
      exact ⟨sent, latest, holds_testing h, .inl rfl⟩
    | writing r =>
      rw [Option.or_none]
      have hr := hrs r (by rw [h.place.1]; simp)
      exact ⟨sent ++ [r], latest, holds_writing h hr, .inr ⟨r, rfl, rfl, rfl⟩⟩
    | concluding r => exact ⟨sent, latest, holds_concluding h, .inl rfl⟩

/-- What a run does. -/
theorem Holds.run (hrs : ∀ r ∈ rs, (r.job? jobId).isSome) (h : d.Holds jobId rs sent latest stop)
    (ms : List Move) :
    ∃ sent' latest', (d.run ms).Holds jobId rs sent' latest' (stop.or (d.calls ms).head?) := by
  induction ms generalizing d sent latest stop with
  | nil =>
    rw [calls, List.head?_nil, Option.or_none]
    exact ⟨sent, latest, h⟩
  | cons m ms ih =>
    obtain ⟨sent₁, latest₁, hstep, -⟩ := h.apply hrs m
    obtain ⟨sent', latest', hrun⟩ := ih hstep
    rw [calls, List.head?_append, Option.head?_toList, ← Option.or_assoc]
    exact ⟨sent', latest', hrun⟩

/-- No record is begun once the watch has stopped. -/
lemma writing_of_apply (hd : d.watch.isCancelled = true) {m : Move} {r : Report}
    (h : (d.apply m).place = .writing r) : d.place = .writing r := by
  obtain ⟨w, place, left⟩ := d
  cases m with
  | cancel reason => exact h
  | next =>
    change w.isCancelled = true at hd
    cases place with
    | between => cases left <;> simp [apply, advance, hd] at h
    | testing r => simp [apply, advance, hd] at h
    | storing r | writing r | concluding r => simp [apply, advance] at h

/-- **After a stop at most one record is written**: the one that was to be written next. -/
theorem Holds.run_stopped (hrs : ∀ r ∈ rs, (r.job? jobId).isSome) {reason : StopReason}
    (h : d.Holds jobId rs sent latest (some reason)) (ms : List Move) :
    ∃ sent' latest', (d.run ms).Holds jobId rs sent' latest' (some reason) ∧
      (sent' = sent ∨ ∃ r, d.place = .writing r ∧ sent' = sent ++ [r]) := by
  induction ms generalizing d sent latest with
  | nil => exact ⟨sent, latest, h, .inl rfl⟩
  | cons m ms ih =>
    obtain ⟨sent₁, latest₁, hstep, hmove⟩ := h.apply hrs m
    obtain ⟨sent', latest', hrun, hrest⟩ := ih hstep
    refine ⟨sent', latest', hrun, ?_⟩
    rcases hmove with rfl | ⟨r, rfl, hplace, rfl⟩
    · rcases hrest with rfl | ⟨r, hplace, rfl⟩
      · exact .inl rfl
      · exact .inr ⟨r, writing_of_apply h.watch.isCancelled hplace, rfl⟩
    · rcases hrest with rfl | ⟨r', hplace', -⟩
      · exact .inr ⟨r, hplace, rfl⟩
      · -- the record has just been written
        simp [Delivery.apply, advance, hplace] at hplace'

lemma lastJob_of_all (h : ∀ r ∈ sent, (r.job? jobId).isSome) :
    lastJob jobId sent = sent.getLast?.bind (Report.job? jobId) := by
  rcases List.eq_nil_or_concat sent with rfl | ⟨rs, r, rfl⟩
  · rfl
  · rw [List.concat_eq_append] at h ⊢
    rw [lastJob_snoc, List.getLast?_concat, Option.or_of_isSome (h r (by simp))]
    rfl

/-- What was written and stored, by the number of records. -/
lemma Holds.records (hrs : ∀ r ∈ rs, (r.job? jobId).isSome)
    (h : d.Holds jobId rs sent latest stop) :
    ∃ n ≤ rs.length,
      d.watch.route.written = String.join ((rs.take n).map Report.line) ∧
      (d.watch.monitor.latest = (rs.take n).getLast?.bind (Report.job? jobId) ∨
        ∃ r, rs[n]? = some r ∧ d.watch.monitor.latest = r.job? jobId) := by
  have hsent : rs.take sent.length = sent := (List.prefix_iff_eq_take.1 h.beginning).symm
  refine ⟨sent.length, h.beginning.length_le, ?_, ?_⟩
  · rw [h.watch.route, hsent]
    rfl
  · rw [h.watch.latest, hsent]
    rcases h.stored with hstored | ⟨r, more, hsplit, hstored⟩
    · rw [hstored]
      exact .inl (lastJob_of_all fun r hr => hrs r (h.beginning.subset hr))
    · refine .inr ⟨r, ?_, hstored⟩
      rw [hsplit, List.getElem?_append_right (Nat.le_refl _), Nat.sub_self]
      rfl

lemma Holds.reason (h : d.Holds jobId rs sent latest stop) : d.watch.monitor.reason = stop := by
  rw [Monitor.reason, h.watch.cancellation]

/-- What still comes after a stop: one record at most, and no other reason. -/
lemma Holds.afterwards (hrs : ∀ r ∈ rs, (r.job? jobId).isSome)
    (h : d.Holds jobId rs sent latest stop) (hcancelled : d.watch.isCancelled = true)
    (ms : List Move) :
    ((d.run ms).watch.route.written = d.watch.route.written ∨
      ∃ r, d.place = .writing r ∧
        (d.run ms).watch.route.written = d.watch.route.written ++ r.line) ∧
    (d.run ms).watch.monitor.reason = d.watch.monitor.reason := by
  rw [h.watch.isCancelled] at hcancelled
  obtain ⟨reason, rfl⟩ := Option.isSome_iff_exists.1 hcancelled
  obtain ⟨sent', latest', h', hsent⟩ := h.run_stopped hrs ms
  refine ⟨?_, h'.reason.trans h.reason.symm⟩
  rw [h'.watch.route, h.watch.route]
  rcases hsent with rfl | ⟨r, hplace, rfl⟩
  · exact .inl rfl
  · exact .inr ⟨r, hplace, records_snoc sent r⟩

/-- **Records are written in order, whoever cancels and when.** A watch on an output that works is
fed reports that all have its job, and between any two of its steps others may cancel. At every
moment the records are those of the first reports of the feed, and the snapshot is that of the last
of these, or of the report right behind it. Once the watch is cancelled at most one more record is
written, whatever comes: the one that was to be written next. The watch is cancelled exactly after a
first cancel, and the reason of that one stays. -/
theorem writes_in_order (target jobId : String) (rs : List Report)
    (hrs : ∀ r ∈ rs, (r.job? jobId).isSome) (before after : List Move) :
    (∃ n ≤ rs.length,
      ((start target jobId rs).run before).watch.route.written =
        String.join ((rs.take n).map Report.line) ∧
      (((start target jobId rs).run before).watch.monitor.latest =
          (rs.take n).getLast?.bind (Report.job? jobId) ∨
        ∃ r, rs[n]? = some r ∧
          ((start target jobId rs).run before).watch.monitor.latest = r.job? jobId)) ∧
    (((start target jobId rs).run before).watch.isCancelled = true →
      ((start target jobId rs).run (before ++ after)).watch.route.written =
          ((start target jobId rs).run before).watch.route.written ∨
        ∃ r, ((start target jobId rs).run before).place = .writing r ∧
          ((start target jobId rs).run (before ++ after)).watch.route.written =
            ((start target jobId rs).run before).watch.route.written ++ r.line) ∧
    (((start target jobId rs).run before).watch.isCancelled =
        ((start target jobId rs).calls before).head?.isSome ∧
      ((start target jobId rs).run before).watch.monitor.reason =
        ((start target jobId rs).calls before).head?) ∧
    ∀ reason, ((start target jobId rs).run before).watch.monitor.reason = some reason →
      ((start target jobId rs).run (before ++ after)).watch.monitor.reason = some reason := by
  obtain ⟨sent, latest, h⟩ := (holds_start target jobId rs).run hrs before
  rw [Option.none_or] at h
  have happend : (start target jobId rs).run (before ++ after) =
      ((start target jobId rs).run before).run after := List.foldl_append
  rw [happend]
  refine ⟨h.records hrs, fun hcancelled => (h.afterwards hrs hcancelled after).1,
    ⟨h.watch.isCancelled, h.reason⟩, fun reason hreason => ?_⟩
  have hcancelled : ((start target jobId rs).run before).watch.isCancelled = true := by
    rw [h.watch.isCancelled, ← h.reason, hreason]
    rfl
  exact (h.afterwards hrs hcancelled after).2.trans hreason

/-- A job that runs, and then has failed. -/
def failingFeed : List Report := [.ofJob "j" {} .epoch, .ofJob "j" { failed := true } .epoch]

/-- The interrupt comes when the first record is about to be written. That record still is; the
second report is dropped, and its failure is not the reason. -/
theorem writes_in_order_failing :
    (∀ r ∈ failingFeed, (r.job? "j").isSome) ∧
    ∃ d, (start "s" "j" failingFeed).run
        ([.next, .next, .next, .cancel .interrupted] ++ List.replicate 5 .next) = d ∧
      d.left = [] ∧
      d.watch.route.written = "" ++ (Report.ofJob "j" {} .epoch).line ∧
      d.watch.monitor.reason = some .interrupted := by
  have hrs : ∀ r ∈ failingFeed, (r.job? "j").isSome := by decide
  obtain ⟨-, hlate, -, hreason⟩ := writes_in_order "s" "j" failingFeed hrs
    [.next, .next, .next, .cancel .interrupted] (List.replicate 5 .next)
  refine ⟨hrs, _, rfl, rfl, ?_, hreason .interrupted rfl⟩
  rcases hlate rfl with h | ⟨r, hplace, h⟩
  · -- something was written after the interrupt
    exact absurd h (by decide +kernel)
  · cases hplace
    exact h

end Delivery

end JobWatch
