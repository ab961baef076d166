import JobWatch.Binary64.Decimal

/-!
What is asked of the metrics feed: the family of metrics, one job or all, and the time between two
reports.
-/

namespace JobWatch

/-- The families of metrics that the program asks for. -/
inductive MetricKind where
  | batchJobs
  deriving Repr, DecidableEq

/-- The bit that selects a family. -/
def MetricKind.bits : MetricKind → Nat
  | batchJobs => 8

structure MetricsOptions where
  kind : MetricKind
  byJobId : Option String
  intervalNanos : Nat
  deriving Repr, DecidableEq

namespace MetricsOptions

/-- One report a second on one job. -/
def batchJob (jobId : String) : MetricsOptions := ⟨.batchJobs, some jobId, 1000000000⟩

def intervalMillis (o : MetricsOptions) : Nat := o.intervalNanos / 1000000

/-- The interval in seconds: whole seconds and the rest of one, each rounded, and their sum rounded
once more. -/
def interval (o : MetricsOptions) : Binary64 :=
  (Binary64.ofNat (o.intervalNanos / 1000000000)).add
    ((Binary64.ofNat (o.intervalNanos % 1000000000)).div (.ofNat 1000000000))

/-- The interval as it is asked for, with the unit. -/
def intervalText (o : MetricsOptions) : String :=
  String.ofList o.interval.shortest.positional ++ "s"

end MetricsOptions

end JobWatch
