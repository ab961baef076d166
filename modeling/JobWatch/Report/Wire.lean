import JobWatch.Report
import JobWatch.Snapshot.Wire

/-!
Reports as JSON records, and as lines of a feed.

Empty lists of errors and hosts, and an absent section on batch jobs, are not written.
-/

namespace JobWatch

open Json

namespace BatchJobs

def layout : Layout BatchJobs where
  fields := [
    .of "collected" Timestamp.decode fun x s => { s with collected := x },
    .of "jobs" (decodeKeyed Snapshot.decode) fun x s => { s with jobs := x }]
  carry k v s := { s with extra := s.extra.insert k v }

def decode : Tree → Except Fault BatchJobs := layout.decode {}

def value (s : BatchJobs) : Value :=
  .obj <| [
    ("collected", s.collected.value),
    ("jobs", .obj (s.jobs.entries.map fun (k, job) => (k, job.value)))] ++ s.extra.entries

end BatchJobs

namespace Aggregated

def layout : Layout Aggregated where
  fields := [.of "batchJobs" (decodeOption BatchJobs.decode) fun x s => { s with batchJobs := x }]
  carry k v s := { s with extra := s.extra.insert k v }

def decode : Tree → Except Fault Aggregated := layout.decode {}

def value (s : Aggregated) : Value :=
  .obj <| optionMember "batchJobs" BatchJobs.value s.batchJobs ++ s.extra.entries

end Aggregated

/-- A list of strings that is left out when empty. -/
def stringsMember (name : String) (xs : List String) : List (String × Value) :=
  if xs.isEmpty then [] else [(name, .arr (xs.map .str))]

namespace Report

def layout : Layout Report where
  fields := [
    .of "errors" (decodeList decodeString) fun x s => { s with errors := x },
    .of "hosts" (decodeList decodeString) fun x s => { s with hosts := x },
    .of "aggregated" Aggregated.decode fun x s => { s with aggregated := x },
    .of "final" decodeBool fun x s => { s with isFinal := x }]
  carry k v s := { s with extra := s.extra.insert k v }

def decode : Tree → Except Fault Report := layout.decode {}

def value (r : Report) : Value :=
  .obj <| stringsMember "errors" r.errors ++ stringsMember "hosts" r.hosts ++ [
    ("aggregated", r.aggregated.value),
    ("final", .bool r.isFinal)] ++ r.extra.entries

/-- The compact JSON text of a report. -/
def text (r : Report) : String := r.value.text

/-- Reads a document that is one report. -/
def ofBytes (bs : List UInt8) : Except Fault Report := decodeDocument decode bs

/-- The record of a report: its text and a line feed. -/
def line (r : Report) : String := r.text ++ "\n"

end Report

end JobWatch
