import JobWatch.Proofs.Report.Schema

/-!
A report is read back from its text.

The text of a report that was read is a document no deeper than the one it came from. Unless it
carries a float along, that text is read as the same report, so writing it once more changes
nothing.
-/

namespace JobWatch

open Json

namespace Report

/-- The text of a report as bytes. -/
def bytes (r : Report) : List UInt8 := Utf8.encode r.text.toList

/-- Reads a document and writes it again. -/
def recode (bs : List UInt8) : Except Fault (List UInt8) := (Report.ofBytes bs).map bytes

lemma format_lawful : Report.schema.format.Lawful :=
  Schema.format_lawful schema_lawful members_lawful

lemma depth_le : Report.schema.depth ≤ maxDepth := by decide

/-- The text of a report that was read is a document whose tree is the tree of its value. -/
lemma read_bytes {bs : List UInt8} {r : Report} (h : Report.ofBytes bs = .ok r)
    (hf : r.value.isFloatFree = true) : read maxDepth r.bytes = (r.value.tree, .ok []) := by
  obtain ⟨t, rest, hread, hdecode, -⟩ := decodeDocument_eq_ok.1 h
  rw [decode_eq] at hdecode
  have hfits : r.value.Fits maxDepth := by
    rw [value_eq]
    exact format_lawful.fits hdecode rfl depth_le (read_fits hread)
  have hback := hfits.readsBack hf [] trivial
  rw [List.append_nil] at hback
  rw [bytes, text, Value.text, String.toList_ofList, hback]

/-- **A report without floats is read back from its text, and written again as the same text.** -/
theorem ofBytes_bytes {bs : List UInt8} {r : Report} (h : Report.ofBytes bs = .ok r)
    (hf : r.value.isFloatFree = true) :
    Report.ofBytes r.bytes = .ok r ∧ recode bs = .ok r.bytes ∧ recode r.bytes = .ok r.bytes := by
  have hback : Report.ofBytes r.bytes = .ok r := by
    refine decodeDocument_eq_ok.2 ⟨_, [], read_bytes h hf, ?_, rfl⟩
    obtain ⟨t, rest, -, hdecode, -⟩ := decodeDocument_eq_ok.1 h
    rw [decode_eq] at hdecode ⊢
    rw [value_eq]
    exact format_lawful.reread hdecode rfl
  refine ⟨hback, ?_, ?_⟩
  · rw [recode, h]
    rfl
  · rw [recode, hback]
    rfl

/-- A 60th second that the offset moves before year 0, the least integer, and a control. -/
def extraSecondDocument : List UInt8 :=
  Utf8.encode ("\x7b\"x\":[-9223372036854775808,\"\\u0001é\"],\"aggregated\":" ++
    "\x7b\"batchJobs\":\x7b\"collected\":\"0000-01-01T00:59:60.5+01:00\"\x7d\x7d\x7d").toList

def extraSecondText : String :=
  "\x7b\"aggregated\":\x7b\"batchJobs\":\x7b\"collected\":\"-0001-12-31T23:59:60.500Z\"," ++
    "\"jobs\":\x7b\x7d\x7d\x7d,\"final\":false,\"x\":[-9223372036854775808,\"\\u0001é\"]\x7d"

theorem ofBytes_bytes_extraSecond :
    ∃ r, Report.ofBytes extraSecondDocument = .ok r ∧ r.value.isFloatFree = true ∧
      r.text = extraSecondText ∧
      (Report.ofBytes r.bytes = .ok r ∧ recode extraSecondDocument = .ok r.bytes ∧
        recode r.bytes = .ok r.bytes) := by
  have hread : ((Report.ofBytes extraSecondDocument).toOption.elim false fun r =>
      r.value.isFloatFree && r.text == extraSecondText) = true := by
    decide +kernel
  rcases h : Report.ofBytes extraSecondDocument with f | r
  · simp [h, Except.toOption] at hread
  · rw [h] at hread
    simp only [Except.toOption, Option.elim, Bool.and_eq_true, beq_iff_eq] at hread
    exact ⟨r, rfl, hread.1, hread.2, ofBytes_bytes h hread.1⟩

end Report

end JobWatch
