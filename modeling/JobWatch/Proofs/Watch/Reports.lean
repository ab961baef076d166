import JobWatch.Proofs.Beginning
import JobWatch.Proofs.Watch.Trace

/-!
Reports that come one after the other, and a watch that passes them to a display.

A watch takes reports until the first that stops it, and that one; `untilStop` cuts a list of
reports there. The queue of the display receives exactly what the watch took.
-/

namespace JobWatch

namespace Report

/-- The job, if the report has it. -/
def job? (jobId : String) (r : Report) : Option Snapshot := (r.lookup jobId).job?

/-- Why the report stops a watch, if it does. -/
def stop? (jobId : String) (r : Report) : Option StopReason := (r.lookup jobId).stop?

end Report

namespace Reports

open Feed (through through_append beginning_through through_through through_of_dropLast
  through_of_findSome?_eq_none findSome?_through)

/-- The reports up to the first that stops a watch, and that one. -/
def untilStop (jobId : String) : List Report → List Report
  | [] => []
  | r :: rs => if (r.stop? jobId).isSome then [r] else r :: untilStop jobId rs

/-- The reason of the first report that stops a watch. -/
def firstStop (jobId : String) (rs : List Report) : Option StopReason :=
  rs.findSome? (·.stop? jobId)

/-- The job of the last report that has it. -/
def lastJob (jobId : String) (rs : List Report) : Option Snapshot :=
  rs.reverse.findSome? (·.job? jobId)

/-- The records of the reports that have the job, in their order. -/
def recordsOf (jobId : String) (rs : List Report) : String :=
  String.join ((rs.filter fun r => (r.job? jobId).isSome).map Report.line)

variable (jobId : String)

@[simp] lemma recordsOf_nil : recordsOf jobId [] = "" := rfl

lemma recordsOf_cons (r : Report) (rs : List Report) :
    recordsOf jobId (r :: rs) =
      (if (r.job? jobId).isSome then r.line else "") ++ recordsOf jobId rs := by
  rw [recordsOf, recordsOf, List.filter_cons]
  split
  · rw [List.map_cons, String.join_cons]
  · rw [String.empty_append]

@[simp] lemma firstStop_nil : firstStop jobId [] = none := rfl

@[simp] lemma lastJob_nil : lastJob jobId [] = none := rfl

lemma firstStop_cons (r : Report) (rs : List Report) :
    firstStop jobId (r :: rs) = (r.stop? jobId).or (firstStop jobId rs) := by
  rw [firstStop, List.findSome?_cons]
  cases r.stop? jobId <;> rfl

lemma firstStop_append (rs more : List Report) :
    firstStop jobId (rs ++ more) = (firstStop jobId rs).or (firstStop jobId more) :=
  List.findSome?_append

lemma lastJob_append (rs more : List Report) :
    lastJob jobId (rs ++ more) = (lastJob jobId more).or (lastJob jobId rs) := by
  rw [lastJob, List.reverse_append, List.findSome?_append, lastJob, lastJob]

lemma lastJob_singleton (r : Report) : lastJob jobId [r] = r.job? jobId := by
  rw [lastJob, List.reverse_singleton, List.findSome?_singleton]

lemma lastJob_snoc (rs : List Report) (r : Report) :
    lastJob jobId (rs ++ [r]) = (r.job? jobId).or (lastJob jobId rs) := by
  rw [lastJob_append, lastJob_singleton]

lemma lastJob_cons (r : Report) (rs : List Report) :
    lastJob jobId (r :: rs) = (lastJob jobId rs).or (r.job? jobId) := by
  rw [← List.singleton_append, lastJob_append, lastJob_singleton]

lemma firstStop_singleton (r : Report) : firstStop jobId [r] = r.stop? jobId := by
  rw [firstStop_cons, firstStop_nil, Option.or_none]

lemma firstStop_eq_none {rs : List Report} :
    firstStop jobId rs = none ↔ ∀ r ∈ rs, r.stop? jobId = none :=
  List.findSome?_eq_none_iff

lemma isSome_firstStop (rs : List Report) :
    (firstStop jobId rs).isSome = rs.any fun r => (r.stop? jobId).isSome := by
  rw [firstStop, List.isSome_findSome?]

lemma untilStop_eq_through (rs : List Report) :
    untilStop jobId rs = through (fun r => (r.stop? jobId).isSome) rs := by
  induction rs with
  | nil => rfl
  | cons r rs ih => rw [untilStop, through, ih]

lemma untilStop_append (rs more : List Report) :
    untilStop jobId (rs ++ more) =
      if (firstStop jobId rs).isSome then untilStop jobId rs else rs ++ untilStop jobId more := by
  simp only [untilStop_eq_through, through_append, isSome_firstStop]

/-- Reports none of which stops a watch are all taken. -/
lemma untilStop_of_running {rs : List Report} (h : firstStop jobId rs = none) :
    untilStop jobId rs = rs := by
  rw [untilStop_eq_through]
  exact through_of_findSome?_eq_none _ h

lemma firstStop_untilStop (rs : List Report) :
    firstStop jobId (untilStop jobId rs) = firstStop jobId rs := by
  rw [untilStop_eq_through]
  exact findSome?_through _ rs

lemma untilStop_untilStop (rs : List Report) :
    untilStop jobId (untilStop jobId rs) = untilStop jobId rs := by
  simp only [untilStop_eq_through, through_through, Bool.or_self]

/-- Reports that a watch takes one after the other: only the last may stop it. -/
lemma untilStop_snoc {rs : List Report} (h : firstStop jobId rs = none) (r : Report) :
    untilStop jobId (rs ++ [r]) = rs ++ [r] := by
  rw [untilStop_eq_through]
  apply through_of_dropLast
  rw [List.dropLast_concat, ← isSome_firstStop, h]
  rfl

/-- What is taken of a list that ends with the first stop. -/
lemma untilStop_split {before : List Report} {r : Report} (hbefore : firstStop jobId before = none)
    (hr : (r.stop? jobId).isSome) (after : List Report) :
    untilStop jobId (before ++ r :: after) = before ++ [r] := by
  rw [untilStop_append, hbefore, untilStop, if_pos hr]
  rfl

/-- Once a watch has stopped, what comes after does not count. -/
lemma untilStop_append_of_stopped {rs : List Report} (h : (firstStop jobId rs).isSome)
    (hrs : untilStop jobId rs = rs) (more : List Report) : untilStop jobId (rs ++ more) = rs := by
  rw [untilStop_append, if_pos h, hrs]

lemma length_untilStop_le (rs : List Report) :
    (untilStop jobId rs).length ≤ rs.length := by
  rw [untilStop_eq_through]
  exact (beginning_through _ rs).length_le

/-- The beginning of a list that ends with its first stop ends with its own. -/
lemma untilStop_of_append {rs more : List Report} (h : untilStop jobId (rs ++ more) = rs ++ more) :
    untilStop jobId rs = rs ∧ ((firstStop jobId rs).isSome → more = []) := by
  rw [untilStop_append] at h
  by_cases hs : (firstStop jobId rs).isSome
  · rw [if_pos hs] at h
    have hmore : more = [] := by
      have hlen := length_untilStop_le jobId rs
      rw [h, List.length_append] at hlen
      exact List.length_eq_zero_iff.1 (by omega)
    rw [hmore, List.append_nil] at h
    exact ⟨h, fun _ => hmore⟩
  · exact ⟨untilStop_of_running jobId (by simpa using hs), fun h' => absurd h' hs⟩

/-- A report that does not stop a watch shows its job running. -/
lemma running_of_stop {r : Report} (h : r.stop? jobId = none) :
    ∃ s, r.job? jobId = some s ∧ s.outcome = none := by
  rw [Report.job?]
  rw [Report.stop?] at h
  revert h
  rcases r.lookup jobId with _ | _ | s
  · exact nofun
  · exact nofun
  · intro h
    refine ⟨s, rfl, ?_⟩
    rw [Sighting.stop?] at h
    rw [Snapshot.outcome]
    cases hfailed : s.failed with
    | true => simp [hfailed] at h
    | false =>
      cases hcomplete : s.complete with
      | true => simp [hfailed, hcomplete] at h
      | false => simp

/-- If no report stops the watch, every one shows the job, and shows it running. -/
lemma lastJob_of_running {rs : List Report} (h : firstStop jobId rs = none) :
    lastJob jobId rs = rs.getLast?.bind (·.job? jobId) ∧
      ((lastJob jobId rs).getD {}).outcome = none := by
  rcases List.eq_nil_or_concat rs with rfl | ⟨rs, r, rfl⟩
  · exact ⟨rfl, rfl⟩
  · rw [List.concat_eq_append] at h ⊢
    have hlast : r.stop? jobId = none :=
      (firstStop_eq_none jobId).1 h r (List.mem_append_right _ (List.mem_singleton.2 rfl))
    obtain ⟨s, hs, houtcome⟩ := running_of_stop jobId hlast
    rw [lastJob_snoc, List.getLast?_concat, hs]
    exact ⟨hs.symm, houtcome⟩

end Reports

open Reports

namespace Watch

section Keep

variable (w : Watch) (seen : Sighting)

@[simp] lemma keep_jobId : (w.keep seen).monitor.jobId = w.monitor.jobId := by
  cases seen <;> rfl

lemma keep_cancellation : (w.keep seen).monitor.cancellation = w.monitor.cancellation := by
  cases seen <;> rfl

lemma keep_route : (w.keep seen).route = w.route := by
  cases seen <;> rfl

lemma keep_target : (w.keep seen).monitor.target = w.monitor.target := by
  cases seen <;> rfl

lemma keep_latest : (w.keep seen).monitor.latest = seen.job?.or w.monitor.latest := by
  cases seen <;> rfl

end Keep

variable {w : Watch} {jobId : String} {queue : List Signal} {latest : Option Snapshot}
  {stop : Option StopReason}

lemma foldl_stopped (h : w.isCancelled = true) (rs : List Report) :
    rs.foldl Watch.deliver w = w := by
  induction rs with
  | nil => rfl
  | cons r rs ih =>
    rw [List.foldl_cons, deliver_stopped h]
    exact ih

/-- What reports do to a watch that runs and writes records: as long as its output works, it writes
those that have the job, up to the first that stops it, and that one. -/
theorem Stands.foldl {working : Bool} {written : String}
    (h : w.Stands jobId working written latest none) (rs : List Report) :
    (rs.foldl Watch.deliver w).Stands jobId working
      (written ++ if working then recordsOf jobId (untilStop jobId rs) else "")
      ((lastJob jobId (untilStop jobId rs)).or latest) (firstStop jobId rs) := by
  induction rs generalizing w written latest with
  | nil => simpa [untilStop] using h
  | cons r rs ih =>
    have hstep := h.deliver r
    have hstop : (Action.deliver r).stop? jobId = r.stop? jobId := rfl
    have hjob : (Action.deliver r).job? jobId = r.job? jobId := rfl
    have hrecord : (Action.deliver r).record jobId =
        if (r.job? jobId).isSome then r.line else "" := rfl
    rw [hstop, hjob, hrecord] at hstep
    rw [List.foldl_cons, untilStop, firstStop_cons]
    rcases hreason : r.stop? jobId with _ | reason
    · rw [hreason] at hstep
      have hrest := ih hstep
      simp only [Option.isSome_none, Bool.false_eq_true, if_false]
      rw [Reports.lastJob_cons, Option.or_assoc, Option.none_or, recordsOf_cons]
      cases working
      · simpa using hrest
      · simpa [String.append_assoc] using hrest
    · rw [hreason] at hstep
      simp only [Option.isSome_some, if_true]
      rw [foldl_stopped hstep.isCancelled, lastJob_singleton, recordsOf_cons, recordsOf_nil,
        String.append_empty]
      exact hstep

/-- A watch of a job that passes its reports to a display: the queue, the snapshot, and the reason
it stopped for. -/
structure Forwards (w : Watch) (jobId : String) (queue : List Signal) (latest : Option Snapshot)
    (stop : Option StopReason) : Prop where
  jobId : w.monitor.jobId = jobId
  route : w.route = .display queue true
  latest : w.monitor.latest = latest
  cancellation : w.monitor.cancellation = ⟨stop.isSome, stop⟩

lemma Forwards.isCancelled (h : w.Forwards jobId queue latest stop) :
    w.isCancelled = stop.isSome := by
  rw [Watch.isCancelled, Monitor.isCancelled, h.cancellation]

lemma Forwards.keep (h : w.Forwards jobId queue latest stop) (seen : Sighting) :
    (w.keep seen).Forwards jobId queue (seen.job?.or latest) stop := by
  cases seen with
  | noAggregation => exact h
  | jobMissing => exact h
  | found s => exact ⟨h.jobId, h.route, rfl, h.cancellation⟩

/-- Every report goes into the queue, whatever it means. -/
lemma Forwards.send (h : w.Forwards jobId queue latest stop) (r : Report) (t : Tick) :
    (w.send r t).Forwards jobId (queue ++ [.report r]) latest stop := by
  rw [Watch.send, h.route]
  exact ⟨h.jobId, rfl, h.latest, h.cancellation⟩

lemma Forwards.cancel (h : w.Forwards jobId queue latest stop) (r : StopReason) :
    (w.cancel r).Forwards jobId queue latest (stop.or (some r)) := by
  obtain ⟨journal, hcancel⟩ := Monitor.cancel_keeps h.cancellation r
  rw [Watch.cancel, hcancel]
  exact ⟨h.jobId, h.route, h.latest, rfl⟩

lemma Forwards.conclude (h : w.Forwards jobId queue latest none) (t : Tick) :
    (w.conclude t).Forwards jobId queue latest t.stop? := by
  rw [Watch.conclude]
  rcases t.stop? with _ | r
  · exact h
  · exact h.cancel r

/-- What one report does to a watch that runs. -/
lemma Forwards.deliver (h : w.Forwards jobId queue latest none) (r : Report) :
    (w.deliver r).Forwards jobId (queue ++ [.report r]) ((r.job? jobId).or latest)
      (r.stop? jobId) := by
  rw [Watch.deliver, h.isCancelled, if_neg (by simp)]
  dsimp only
  rw [h.jobId, Report.stop?, ← tick_stop?]
  exact ((h.keep _).send r _).conclude _

/-- **What reports do to a watch that runs**: the queue receives them up to the first that stops the
watch, and that one. -/
theorem Forwards.foldl (h : w.Forwards jobId queue latest none) (rs : List Report) :
    (rs.foldl Watch.deliver w).Forwards jobId (queue ++ (untilStop jobId rs).map .report)
      ((lastJob jobId (untilStop jobId rs)).or latest) (firstStop jobId rs) := by
  induction rs generalizing w queue latest with
  | nil =>
    rw [untilStop, List.map_nil, List.append_nil]
    exact h
  | cons r rs ih =>
    have hstep := h.deliver r
    rw [List.foldl_cons, untilStop, firstStop_cons]
    rcases hstop : r.stop? jobId with _ | reason
    · rw [hstop] at hstep
      have hrest := ih hstep
      rw [List.append_assoc] at hrest
      rw [if_neg (by simp), List.map_cons, Reports.lastJob_cons, Option.or_assoc, Option.none_or]
      exact hrest
    · rw [hstop] at hstep
      rw [foldl_stopped hstep.isCancelled, if_pos Option.isSome_some, lastJob_singleton]
      exact hstep

end Watch

end JobWatch
