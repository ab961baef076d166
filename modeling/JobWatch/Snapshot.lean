import JobWatch.Json.Value
import JobWatch.Timestamp

/-!
Snapshots of a batch job: what the server last measured about it.

A snapshot has a section for each kind of job; the job's own type tells which one matters. Members
that the library does not know are carried along at every level.
-/

namespace JobWatch

/-- The counters of a rotation or an expiry. -/
structure Counters where
  bucket : String := ""
  object : String := ""
  objects : Nat := 0
  objectsFailed : Nat := 0
  extra : Keyed Json.Value := .empty
  deriving Inhabited, DecidableEq

/-- The counters of a replication. -/
structure Replication where
  bucket : String := ""
  object : String := ""
  objects : Nat := 0
  objectsFailed : Nat := 0
  bytesTransferred : Nat := 0
  bytesFailed : Nat := 0
  extra : Keyed Json.Value := .empty
  deriving Inhabited, DecidableEq

structure Snapshot where
  jobId : String := ""
  jobType : String := ""
  startTime : Timestamp := .epoch
  lastUpdate : Timestamp := .epoch
  retryAttempts : Nat := 0
  complete : Bool := false
  failed : Bool := false
  replicate : Option Replication := none
  rotation : Option Counters := none
  expired : Option Counters := none
  extra : Keyed Json.Value := .empty
  deriving Inhabited, DecidableEq

/-- How a job ended. -/
inductive Outcome where
  | complete
  | failed
  deriving Repr, DecidableEq

/-- The kinds of job that have a layout of their own. -/
inductive JobKind where
  | replicate
  | keyRotate
  | expire
  | unknown (tag : String)
  deriving Repr, DecidableEq

def JobKind.ofTag (tag : String) : JobKind :=
  if tag = "replicate" then .replicate
  else if tag = "keyrotate" then .keyRotate
  else if tag = "expire" then .expire
  else .unknown tag

namespace Snapshot

def kind (s : Snapshot) : JobKind := .ofTag s.jobType

/-- How the job ended, if it has. One that claims both ends has failed. -/
def outcome (s : Snapshot) : Option Outcome :=
  if s.failed then some .failed else if s.complete then some .complete else none

def isTerminal (s : Snapshot) : Bool := s.outcome.isSome

/-- The time between the start of the job and its latest update. -/
def elapsed (s : Snapshot) : Span := s.lastUpdate.since s.startTime

end Snapshot

/-- Rates per second. -/
structure Throughput where
  bytes : Binary64
  objects : Binary64
  deriving Repr, DecidableEq

/-- The rates of a replication, once some time has elapsed. -/
def Snapshot.throughput (s : Snapshot) : Option Throughput := do
  let secs ← s.elapsed.seconds?
  let r := s.replicate.getD {}
  some ⟨(Binary64.ofNat r.bytesTransferred).div secs, (Binary64.ofNat r.objects).div secs⟩

end JobWatch
