import JobWatch.Snapshot

/-!
Reports: the messages of the metrics feed.

A report may hold a section on batch jobs, and that section lists jobs by their identifier. The last
report of a feed is marked as final.
-/

namespace JobWatch

/-- The section on batch jobs. -/
structure BatchJobs where
  collected : Timestamp := .epoch
  jobs : Keyed Snapshot := .empty
  extra : Keyed Json.Value := .empty
  deriving Inhabited, DecidableEq

structure Aggregated where
  batchJobs : Option BatchJobs := none
  extra : Keyed Json.Value := .empty
  deriving Inhabited, DecidableEq

structure Report where
  errors : List String := []
  hosts : List String := []
  aggregated : Aggregated := {}
  isFinal : Bool := false
  extra : Keyed Json.Value := .empty
  deriving Inhabited, DecidableEq

/-- What a report says about one job. -/
inductive Sighting where
  /-- It has no section on batch jobs. -/
  | noAggregation
  /-- It has one, without the job. -/
  | jobMissing
  | found (s : Snapshot)
  deriving Inhabited, DecidableEq

namespace Report

def lookup (r : Report) (jobId : String) : Sighting :=
  match r.aggregated.batchJobs with
  | none => .noAggregation
  | some batch =>
    match batch.jobs.get? jobId with
    | none => .jobMissing
    | some s => .found s

/-- A report of one job and nothing else. -/
def ofJob (jobId : String) (s : Snapshot) (collected : Timestamp) : Report :=
  { aggregated := { batchJobs := some { collected, jobs := Keyed.empty.insert jobId s } } }

end Report

end JobWatch
