import JobWatch.Snapshot.Wire
import JobWatch.Proofs.Json.Nested
import JobWatch.Proofs.Timestamp

/-!
The schemas of a snapshot and of its sections.
-/

namespace JobWatch

open Json

/-! ### Instants -/

/-- The instant of a string, in canonical text. -/
def canonicalInstant : Value → Value
  | .str s => .str ((Timestamp.ofText? s).elim s Timestamp.text)
  | v => v

lemma canonicalInstant_str {s : String} {x : Timestamp} (h : Timestamp.ofText? s = some x) :
    canonicalInstant (.str s) = .str x.text := by
  rw [canonicalInstant, h, Option.elim_some]

namespace Timestamp

def format : Format Timestamp where
  decode := Timestamp.decode
  default := .epoch
  shown t := some t.value
  absent := some (.str "1970-01-01T00:00:00Z")
  present v := some (canonicalInstant v)

lemma format_decode : format.decode = Timestamp.decode := rfl

lemma decode_eq_ok {t : Tree} {x : Timestamp} :
    Timestamp.decode t = .ok x ↔ ∃ s, t = .str s ∧ ofText? s = some x := by
  cases t with
  | str s =>
    simp only [Timestamp.decode, Tree.str.injEq, exists_eq_left']
    rcases ofText? s with _ | y <;> simp
  | _ => simp [Timestamp.decode]

lemma epoch_text : epoch.text = "1970-01-01T00:00:00Z" := by decide +kernel

lemma epoch_wellFormed : epoch.WellFormed := ⟨by decide, by decide, by decide⟩

lemma value_tree (t : Timestamp) : t.value.tree = .str t.text := by
  rw [Timestamp.value, Value.tree]

/-- What is written of an instant that can be read is read as the same instant. -/
lemma decode_value {t : Timestamp} (h : t.WellFormed) : Timestamp.decode t.value.tree = .ok t := by
  rw [value_tree]
  exact decode_eq_ok.2 ⟨t.text, rfl, ofText?_text h⟩

lemma format_lawful : format.Lawful := by
  refine Format.lawful_of_leaf Timestamp.value (fun _ => rfl) ?_ ?_ ?_ ?_
  · rw [format_decode]
    intro t x h
    obtain ⟨s, rfl, hs⟩ := decode_eq_ok.1 h
    refine ⟨.str s, .str, rfl, ?_⟩
    exact congrArg some (canonicalInstant_str hs)
  · rw [format_decode]
    intro t x h
    obtain ⟨s, rfl, hs⟩ := decode_eq_ok.1 h
    exact ⟨.str, decode_value (ofText?_wellFormed hs)⟩
  · rw [format_decode]
    exact ⟨epoch.value.tree, decode_value epoch_wellFormed⟩
  · have habsent : format.absent = some (.str epoch.text) := by
      rw [epoch_text]
      rfl
    exact habsent

end Timestamp

/-! ### Sections -/

def Counters.schema : Schema Counters where
  start := {}
  members := [
    ⟨"lastBucket", String, .string, fun x s => { s with bucket := x }, (·.bucket)⟩,
    ⟨"lastObject", String, .string, fun x s => { s with object := x }, (·.object)⟩,
    ⟨"objects", Nat, .nat maxUInt64, fun x s => { s with objects := x }, (·.objects)⟩,
    ⟨"objectsFailed", Nat, .nat maxUInt64, fun x s => { s with objectsFailed := x },
      (·.objectsFailed)⟩]
  carry k v s := { s with extra := s.extra.insert k v }
  extra := (·.extra)

lemma Counters.schema_lawful : schema.Lawful :=
  Schema.lawful_of_places (by decide) Counters.mk (fun _ => ⟨(_, _, _, _, _), rfl⟩) rfl
    (by simp [Schema.Places, Maker.record, schema])

lemma maxUInt64_le : maxUInt64 ≤ significandLimit := by decide

lemma maxUInt32_le : maxUInt32 ≤ significandLimit := by decide

lemma Counters.members_lawful : schema.MembersLawful := by
  simp only [Schema.MembersLawful, schema, List.forall_mem_cons, List.not_mem_nil, false_imp_iff,
    implies_true, and_true]
  exact ⟨Format.string_lawful, Format.string_lawful, Format.nat_lawful maxUInt64_le,
    Format.nat_lawful maxUInt64_le⟩

lemma Counters.decode_eq : Counters.decode = schema.decode := rfl

lemma Counters.value_eq (s : Counters) : s.value = schema.value s := rfl

def Replication.schema : Schema Replication where
  start := {}
  members := [
    ⟨"lastBucket", String, .string, fun x s => { s with bucket := x }, (·.bucket)⟩,
    ⟨"lastObject", String, .string, fun x s => { s with object := x }, (·.object)⟩,
    ⟨"objects", Nat, .nat maxUInt64, fun x s => { s with objects := x }, (·.objects)⟩,
    ⟨"objectsFailed", Nat, .nat maxUInt64, fun x s => { s with objectsFailed := x },
      (·.objectsFailed)⟩,
    ⟨"bytesTransferred", Nat, .nat maxUInt64, fun x s => { s with bytesTransferred := x },
      (·.bytesTransferred)⟩,
    ⟨"bytesFailed", Nat, .nat maxUInt64, fun x s => { s with bytesFailed := x },
      (·.bytesFailed)⟩]
  carry k v s := { s with extra := s.extra.insert k v }
  extra := (·.extra)

lemma Replication.schema_lawful : schema.Lawful :=
  Schema.lawful_of_places (by decide) Replication.mk (fun _ => ⟨(_, _, _, _, _, _, _), rfl⟩) rfl
    (by simp [Schema.Places, Maker.record, schema])

lemma Replication.members_lawful : schema.MembersLawful := by
  have hnat := Format.nat_lawful maxUInt64_le
  simp only [Schema.MembersLawful, schema, List.forall_mem_cons, List.not_mem_nil, false_imp_iff,
    implies_true, and_true]
  exact ⟨Format.string_lawful, Format.string_lawful, hnat, hnat, hnat, hnat⟩

lemma Replication.decode_eq : Replication.decode = schema.decode := rfl

lemma Replication.value_eq (s : Replication) : s.value = schema.value s := rfl

/-! ### Snapshots -/

def Snapshot.schema : Schema Snapshot where
  start := {}
  members := [
    ⟨"jobID", String, .string, fun x s => { s with jobId := x }, (·.jobId)⟩,
    ⟨"jobType", String, .string, fun x s => { s with jobType := x }, (·.jobType)⟩,
    ⟨"startTime", Timestamp, Timestamp.format, fun x s => { s with startTime := x },
      (·.startTime)⟩,
    ⟨"lastUpdate", Timestamp, Timestamp.format, fun x s => { s with lastUpdate := x },
      (·.lastUpdate)⟩,
    ⟨"retryAttempts", Nat, .nat maxUInt32, fun x s => { s with retryAttempts := x },
      (·.retryAttempts)⟩,
    ⟨"complete", Bool, .bool, fun x s => { s with complete := x }, (·.complete)⟩,
    ⟨"failed", Bool, .bool, fun x s => { s with failed := x }, (·.failed)⟩,
    ⟨"replicate", Option Replication, Replication.schema.optional,
      fun x s => { s with replicate := x }, (·.replicate)⟩,
    ⟨"rotation", Option Counters, Counters.schema.optional, fun x s => { s with rotation := x },
      (·.rotation)⟩,
    ⟨"expired", Option Counters, Counters.schema.optional, fun x s => { s with expired := x },
      (·.expired)⟩]
  carry k v s := { s with extra := s.extra.insert k v }
  extra := (·.extra)

lemma Snapshot.schema_lawful : schema.Lawful :=
  Schema.lawful_of_places (by decide) Snapshot.mk
    (fun _ => ⟨(_, _, _, _, _, _, _, _, _, _, _), rfl⟩) rfl
    (by simp [Schema.Places, Maker.record, schema])

lemma Snapshot.members_lawful : schema.MembersLawful := by
  have hsection := Schema.optional_lawful Counters.schema_lawful Counters.members_lawful
  simp only [Schema.MembersLawful, schema, List.forall_mem_cons, List.not_mem_nil, false_imp_iff,
    implies_true, and_true]
  exact ⟨Format.string_lawful, Format.string_lawful, Timestamp.format_lawful,
    Timestamp.format_lawful, Format.nat_lawful maxUInt32_le, Format.bool_lawful,
    Format.bool_lawful, Schema.optional_lawful Replication.schema_lawful Replication.members_lawful,
    hsection, hsection⟩

lemma Snapshot.decode_eq : Snapshot.decode = schema.decode := rfl

lemma Snapshot.value_eq (s : Snapshot) : s.value = schema.value s := by
  obtain ⟨_, _, _, _, _, _, _, replicate, rotation, expired, _⟩ := s
  cases replicate <;> cases rotation <;> cases expired <;> rfl

end JobWatch
