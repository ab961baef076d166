/-!
Why watching a job stopped.
-/

namespace JobWatch

inductive StopReason where
  /-- The user asked to stop. -/
  | interrupted
  /-- A report came without a section on batch jobs. -/
  | feedAbsent
  /-- The section on batch jobs no longer lists the job. -/
  | jobVanished
  | jobComplete
  | jobFailed
  /-- The feed ended on its own. -/
  | feedClosed
  /-- The watch was taken down from outside. -/
  | shutdown
  deriving Repr, DecidableEq

namespace StopReason

def text : StopReason → String
  | interrupted => "interrupted"
  | feedAbsent => "no batch job metrics available"
  | jobVanished => "job no longer reported"
  | jobComplete => "job complete"
  | jobFailed => "job failed"
  | feedClosed => "metrics feed closed"
  | shutdown => "shutdown"

/-- The name that the closing entry of the journal shows. -/
def name : StopReason → String
  | interrupted => "Interrupted"
  | feedAbsent => "FeedAbsent"
  | jobVanished => "JobVanished"
  | jobComplete => "JobComplete"
  | jobFailed => "JobFailed"
  | feedClosed => "FeedClosed"
  | shutdown => "Shutdown"

def all : List StopReason :=
  [interrupted, feedAbsent, jobVanished, jobComplete, jobFailed, feedClosed, shutdown]

end StopReason

end JobWatch
