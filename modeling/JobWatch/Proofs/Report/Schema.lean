import JobWatch.Report.Wire
import JobWatch.Proofs.Snapshot.Schema

/-!
The schemas of a report and of its sections.
-/

namespace JobWatch

open Json

def BatchJobs.schema : Schema BatchJobs where
  start := {}
  members := [
    ⟨"collected", Timestamp, Timestamp.format, fun x s => { s with collected := x },
      (·.collected)⟩,
    ⟨"jobs", Keyed Snapshot, Snapshot.schema.keyed, fun x s => { s with jobs := x }, (·.jobs)⟩]
  carry k v s := { s with extra := s.extra.insert k v }
  extra := (·.extra)

lemma BatchJobs.schema_lawful : schema.Lawful :=
  Schema.lawful_of_places (by decide) BatchJobs.mk (fun _ => ⟨(_, _, _), rfl⟩) rfl
    (by simp [Schema.Places, Maker.record, schema])

lemma BatchJobs.members_lawful : schema.MembersLawful := by
  simp only [Schema.MembersLawful, schema, List.forall_mem_cons, List.not_mem_nil, false_imp_iff,
    implies_true, and_true]
  exact ⟨Timestamp.format_lawful,
    Schema.keyed_lawful Snapshot.schema_lawful Snapshot.members_lawful⟩

lemma BatchJobs.decode_eq : BatchJobs.decode = schema.decode := rfl

lemma BatchJobs.value_eq (s : BatchJobs) : s.value = schema.value s := by
  have hjobs : (fun e : String × Snapshot => (e.1, e.2.value)) =
      fun e => (e.1, Snapshot.schema.value e.2) := by
    funext e
    rw [Snapshot.value_eq]
  have hvalue : s.value = .obj (
      [("collected", s.collected.value),
        ("jobs", .obj (s.jobs.entries.map fun e => (e.1, e.2.value)))] ++ s.extra.entries) := rfl
  rw [hvalue, hjobs]
  rfl

def Aggregated.schema : Schema Aggregated where
  start := {}
  members := [
    ⟨"batchJobs", Option BatchJobs, BatchJobs.schema.optional,
      fun x s => { s with batchJobs := x }, (·.batchJobs)⟩]
  carry k v s := { s with extra := s.extra.insert k v }
  extra := (·.extra)

lemma Aggregated.schema_lawful : schema.Lawful :=
  Schema.lawful_of_places (by decide) Aggregated.mk (fun _ => ⟨(_, _), rfl⟩) rfl
    (by simp [Schema.Places, Maker.record, schema])

lemma Aggregated.members_lawful : schema.MembersLawful := by
  simp only [Schema.MembersLawful, schema, List.forall_mem_cons, List.not_mem_nil, false_imp_iff,
    implies_true, and_true]
  exact Schema.optional_lawful BatchJobs.schema_lawful BatchJobs.members_lawful

lemma Aggregated.decode_eq : Aggregated.decode = schema.decode := rfl

lemma Aggregated.value_eq (s : Aggregated) : s.value = schema.value s := by
  obtain ⟨batchJobs, extra⟩ := s
  cases batchJobs with
  | none => rfl
  | some batch =>
    have hvalue : (Aggregated.mk (some batch) extra).value =
        .obj (("batchJobs", batch.value) :: extra.entries) := rfl
    rw [hvalue, BatchJobs.value_eq]
    rfl

def Report.schema : Schema Report where
  start := {}
  members := [
    ⟨"errors", List String, .strings, fun x s => { s with errors := x }, (·.errors)⟩,
    ⟨"hosts", List String, .strings, fun x s => { s with hosts := x }, (·.hosts)⟩,
    ⟨"aggregated", Aggregated, Aggregated.schema.format, fun x s => { s with aggregated := x },
      (·.aggregated)⟩,
    ⟨"final", Bool, .bool, fun x s => { s with isFinal := x }, (·.isFinal)⟩]
  carry k v s := { s with extra := s.extra.insert k v }
  extra := (·.extra)

lemma Report.schema_lawful : schema.Lawful :=
  Schema.lawful_of_places (by decide) Report.mk (fun _ => ⟨(_, _, _, _, _), rfl⟩) rfl
    (by simp [Schema.Places, Maker.record, schema])

lemma Report.members_lawful : schema.MembersLawful := by
  simp only [Schema.MembersLawful, schema, List.forall_mem_cons, List.not_mem_nil, false_imp_iff,
    implies_true, and_true]
  exact ⟨Format.strings_lawful, Format.strings_lawful,
    Schema.format_lawful Aggregated.schema_lawful Aggregated.members_lawful, Format.bool_lawful⟩

lemma Report.decode_eq : Report.decode = schema.decode := rfl

lemma Report.value_eq (r : Report) : r.value = schema.value r := by
  obtain ⟨errors, hosts, aggregated, isFinal, extra⟩ := r
  have hvalue : (Report.mk errors hosts aggregated isFinal extra).value =
      .obj (stringsMember "errors" errors ++ stringsMember "hosts" hosts ++
        [("aggregated", aggregated.value), ("final", .bool isFinal)] ++ extra.entries) := rfl
  rw [hvalue, Aggregated.value_eq]
  rcases errors with _ | ⟨e, es⟩ <;> rcases hosts with _ | ⟨h, hs⟩ <;> rfl

end JobWatch
