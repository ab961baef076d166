import JobWatch.Proofs.Report.RoundTrip

/-!
What a report keeps of the document it was read from.

A report knows some members of each of its levels and carries all others along. Read as a document
of any kind, its text is the document it was read from, but for the members it knows: those that are
absent get their defaults, some are left out when they say nothing, and instants are rewritten in
canonical text.
-/

namespace JobWatch

open Json

/-! ### Rules -/

namespace Json.Rule

/-- A member that is added when absent and otherwise stays as it is. -/
def filled (name : String) (default : Value) : Rule := ⟨name, some default, some⟩

/-- A list that is removed when empty. -/
def unlessEmpty (name : String) : Rule :=
  ⟨name, none, fun
    | .arr [] => none
    | v => some v⟩

/-- An instant, by default the start of 1970. -/
def instant (name : String) : Rule :=
  ⟨name, some (.str "1970-01-01T00:00:00Z"), fun v => some (canonicalInstant v)⟩

/-- A section that is removed when null. -/
def nullable (name : String) (rules : List Rule) : Rule :=
  ⟨name, none, fun
    | .null => none
    | v => some (normalize rules v)⟩

/-- A section that is added, empty, when absent. -/
def nested (name : String) (change : Value → Value) : Rule :=
  ⟨name, some (.obj []), fun v => some (change v)⟩

end Json.Rule

open Json.Rule

def countersRules : List Rule := [
  filled "lastBucket" (.str ""), filled "lastObject" (.str ""), filled "objects" (.int 0),
  filled "objectsFailed" (.int 0)]

def replicationRules : List Rule :=
  countersRules ++ [filled "bytesTransferred" (.int 0), filled "bytesFailed" (.int 0)]

def jobRules : List Rule := [
  filled "jobID" (.str ""), filled "jobType" (.str ""), instant "startTime", instant "lastUpdate",
  filled "retryAttempts" (.int 0), filled "complete" (.bool false), filled "failed" (.bool false),
  nullable "replicate" replicationRules, nullable "rotation" countersRules,
  nullable "expired" countersRules]

def batchJobsRules : List Rule := [
  instant "collected", nested "jobs" (mapMembers (normalize jobRules))]

def aggregatedRules : List Rule := [nullable "batchJobs" batchJobsRules]

def reportRules : List Rule := [
  unlessEmpty "errors", unlessEmpty "hosts",
  nested "aggregated" (normalize aggregatedRules), filled "final" (.bool false)]

namespace Report

/-- The normal form of a document that is a report. -/
def normal : Value → Value := normalize reportRules

lemma schema_rules : Report.schema.rules = reportRules := rfl

/-- The value of a document of any kind. -/
def valueOfBytes (bs : List UInt8) : Except Fault Value := decodeDocument Tree.toValue bs

/-- **The text of a report is the normal form of the document the report was read from**, if no
number in that document is a float. There the text of an instant, whatever its offset, is the one
canonical text that reads as the same instant. -/
theorem valueOfBytes_bytes {bs : List UInt8} {r : Report} (h : Report.ofBytes bs = .ok r) :
    (∃ V, valueOfBytes bs = .ok V ∧
      (V.isFloatFree = true → valueOfBytes r.bytes = .ok (normal V))) ∧
    ∀ s x, Timestamp.ofText? s = some x →
      canonicalInstant (.str s) = .str x.text ∧ Timestamp.ofText? x.text = some x := by
  refine ⟨?_, fun s x hx =>
    ⟨canonicalInstant_str hx, Timestamp.ofText?_text (Timestamp.ofText?_wellFormed hx)⟩⟩
  obtain ⟨t, rest, hread, hdecode, hblank⟩ := decodeDocument_eq_ok.1 h
  rw [decode_eq] at hdecode
  obtain ⟨V, hV⟩ := format_lawful.hasValue hdecode
  refine ⟨V, decodeDocument_eq_ok.2 ⟨t, rest, hread, hV, hblank⟩, fun hfree => ?_⟩
  have hfloat : r.value.isFloatFree = true := by
    rw [value_eq]
    exact format_lawful.floatFree hdecode rfl hV hfree
  have hnormal : r.value.tree.toValue = .ok (normal V) := by
    rw [value_eq, normal, ← schema_rules]
    exact shows_some.1 (format_lawful.present hdecode hV)
  exact decodeDocument_eq_ok.2 ⟨_, [], read_bytes h hfloat, hnormal, rfl⟩

/-- A member given twice, an empty list, a null section, an instant with an offset, and members
carried along. -/
def jobDocument : List UInt8 :=
  Utf8.encode ("\x7b\"y\":1,\"y\":2,\"errors\":[],\"aggregated\":\x7b\"batchJobs\":\x7b\"jobs\":" ++
    "\x7b\"a\":\x7b\"expired\":null,\"startTime\":\"2024-05-01T14:00:00+02:00\",\"z\":-5\x7d" ++
    "\x7d\x7d\x7d\x7d").toList

def jobDocumentNormal : String :=
  "\x7b\"aggregated\":\x7b\"batchJobs\":\x7b\"collected\":\"1970-01-01T00:00:00Z\",\"jobs\":" ++
    "\x7b\"a\":\x7b\"complete\":false,\"failed\":false,\"jobID\":\"\",\"jobType\":\"\"," ++
    "\"lastUpdate\":\"1970-01-01T00:00:00Z\",\"retryAttempts\":0," ++
    "\"startTime\":\"2024-05-01T12:00:00Z\",\"z\":-5\x7d\x7d\x7d\x7d,\"final\":false,\"y\":2\x7d"

theorem valueOfBytes_bytes_job :
    (∃ r V, Report.ofBytes jobDocument = .ok r ∧ valueOfBytes jobDocument = .ok V ∧
      V.isFloatFree = true ∧ valueOfBytes r.bytes = .ok (normal V) ∧
      (normal V).text = jobDocumentNormal) ∧
    ∃ x, Timestamp.ofText? "2024-05-01T14:00:00+02:00" = some x ∧
      Timestamp.ofText? "2024-05-01T12:00:00Z" = some x := by
  have hreport : (Report.ofBytes jobDocument).isOk = true := by decide +kernel
  have hvalue : ((valueOfBytes jobDocument).toOption.elim false fun V =>
      V.isFloatFree && (normal V).text == jobDocumentNormal) = true := by
    decide +kernel
  have hoffset : Timestamp.ofText? "2024-05-01T14:00:00+02:00" = some ⟨1714564800, 0⟩ := by
    decide +kernel
  have htext : Timestamp.text ⟨1714564800, 0⟩ = "2024-05-01T12:00:00Z" := by decide +kernel
  rcases h : Report.ofBytes jobDocument with f | r
  · simp [h, Except.isOk, Except.toBool] at hreport
  · obtain ⟨⟨V, hV, hnormal⟩, hinstant⟩ := valueOfBytes_bytes h
    obtain ⟨-, hsame⟩ := hinstant _ _ hoffset
    rw [htext] at hsame
    rw [hV] at hvalue
    simp only [Except.toOption, Option.elim, Bool.and_eq_true, beq_iff_eq] at hvalue
    exact ⟨⟨r, V, rfl, hV, hvalue.1, hnormal hvalue.1, hvalue.2⟩, _, hoffset, hsame⟩

end Report

end JobWatch
