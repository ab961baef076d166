import JobWatch.Json.Reader
import JobWatch.Json.Record
import JobWatch.Snapshot
import JobWatch.Timestamp.Reader

/-!
Snapshots as JSON records.

A member that is absent keeps its default, and one of the three sections may be null. Written, every
member of a record appears but the absent sections, in the order declared here, and what is carried
along follows in the order of its names.
-/

namespace JobWatch

open Json

def maxUInt64 : Nat := 0xFFFFFFFFFFFFFFFF

def maxUInt32 : Nat := 0xFFFFFFFF

/-- An instant, as a string. -/
def Timestamp.decode : Tree → Except Fault Timestamp
  | .str s =>
    match Timestamp.ofText? s with
    | some t => .ok t
    | none => .error .mismatch
  | .cut f => .error f
  | _ => .error .mismatch

def Timestamp.value (t : Timestamp) : Value := .str t.text

def natValue (n : Nat) : Value := .int n

namespace Counters

def layout : Layout Counters where
  fields := [
    .of "lastBucket" decodeString fun x s => { s with bucket := x },
    .of "lastObject" decodeString fun x s => { s with object := x },
    .of "objects" (decodeNat maxUInt64) fun x s => { s with objects := x },
    .of "objectsFailed" (decodeNat maxUInt64) fun x s => { s with objectsFailed := x }]
  carry k v s := { s with extra := s.extra.insert k v }

def decode : Tree → Except Fault Counters := layout.decode {}

def value (s : Counters) : Value :=
  .obj <| [
    ("lastBucket", .str s.bucket),
    ("lastObject", .str s.object),
    ("objects", natValue s.objects),
    ("objectsFailed", natValue s.objectsFailed)] ++ s.extra.entries

end Counters

namespace Replication

def layout : Layout Replication where
  fields := [
    .of "lastBucket" decodeString fun x s => { s with bucket := x },
    .of "lastObject" decodeString fun x s => { s with object := x },
    .of "objects" (decodeNat maxUInt64) fun x s => { s with objects := x },
    .of "objectsFailed" (decodeNat maxUInt64) fun x s => { s with objectsFailed := x },
    .of "bytesTransferred" (decodeNat maxUInt64) fun x s => { s with bytesTransferred := x },
    .of "bytesFailed" (decodeNat maxUInt64) fun x s => { s with bytesFailed := x }]
  carry k v s := { s with extra := s.extra.insert k v }

def decode : Tree → Except Fault Replication := layout.decode {}

def value (s : Replication) : Value :=
  .obj <| [
    ("lastBucket", .str s.bucket),
    ("lastObject", .str s.object),
    ("objects", natValue s.objects),
    ("objectsFailed", natValue s.objectsFailed),
    ("bytesTransferred", natValue s.bytesTransferred),
    ("bytesFailed", natValue s.bytesFailed)] ++ s.extra.entries

end Replication

/-- A member that is left out when absent. -/
def optionMember {α : Type} (name : String) (value : α → Value) : Option α → List (String × Value)
  | none => []
  | some x => [(name, value x)]

namespace Snapshot

def layout : Layout Snapshot where
  fields := [
    .of "jobID" decodeString fun x s => { s with jobId := x },
    .of "jobType" decodeString fun x s => { s with jobType := x },
    .of "startTime" Timestamp.decode fun x s => { s with startTime := x },
    .of "lastUpdate" Timestamp.decode fun x s => { s with lastUpdate := x },
    .of "retryAttempts" (decodeNat maxUInt32) fun x s => { s with retryAttempts := x },
    .of "complete" decodeBool fun x s => { s with complete := x },
    .of "failed" decodeBool fun x s => { s with failed := x },
    .of "replicate" (decodeOption Replication.decode) fun x s => { s with replicate := x },
    .of "rotation" (decodeOption Counters.decode) fun x s => { s with rotation := x },
    .of "expired" (decodeOption Counters.decode) fun x s => { s with expired := x }]
  carry k v s := { s with extra := s.extra.insert k v }

def decode : Tree → Except Fault Snapshot := layout.decode {}

def value (s : Snapshot) : Value :=
  .obj <| [
    ("jobID", .str s.jobId),
    ("jobType", .str s.jobType),
    ("startTime", s.startTime.value),
    ("lastUpdate", s.lastUpdate.value),
    ("retryAttempts", natValue s.retryAttempts),
    ("complete", .bool s.complete),
    ("failed", .bool s.failed)] ++
    optionMember "replicate" Replication.value s.replicate ++
    optionMember "rotation" Counters.value s.rotation ++
    optionMember "expired" Counters.value s.expired ++ s.extra.entries

/-- The compact JSON text of a snapshot. -/
def text (s : Snapshot) : String := s.value.text

/-- Reads a document that is one snapshot. -/
def ofBytes (bs : List UInt8) : Except Fault Snapshot := decodeDocument decode bs

end Snapshot

end JobWatch
