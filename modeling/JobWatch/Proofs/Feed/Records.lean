import Mathlib.Tactic.Lemma
import JobWatch.Proofs.Feed.Reports
import JobWatch.Proofs.Json.Controls
import JobWatch.Proofs.Report.RoundTrip
import JobWatch.Watch

/-!
Records as a feed.

The records that a watch writes are lines of a feed: no record breaks its line, and none is blank.
So a stream that is fed the written text, in any chunks, delivers the reports it was written of.
-/

namespace JobWatch

/-! ### One record -/

namespace Report

lemma toList_text (r : Report) : r.text.toList = r.value.chars := by
  rw [text, Json.Value.text, String.toList_ofList]

/-- **No record breaks its line.** -/
theorem lineFeed_not_mem_bytes (r : Report) : Feed.lineFeed ∉ r.bytes := by
  intro h
  rw [bytes, toList_text] at h
  exact absurd (r.value.chars_noControls.encode _ h) (by decide)

/-- The text of a report begins with a brace. -/
lemma openBrace_mem_bytes (r : Report) : Json.openBrace ∈ r.bytes := by
  have hbrace : String.utf8EncodeChar '\x7b' = [Json.openBrace] := by decide
  rw [bytes, toList_text, value, Json.Value.chars]
  simp [hbrace]

lemma encode_line (r : Report) : Utf8.encode r.line.toList = r.bytes ++ [Feed.lineFeed] := by
  have hfeed : Utf8.encode "\n".toList = [Feed.lineFeed] := by decide
  rw [line, String.toList_append, Utf8.encode_append, hfeed, bytes]

/-- The text of a report that was read is read as the same report. -/
lemma reread {bs : List UInt8} {r : Report} (h : Report.ofBytes bs = .ok r)
    (hf : r.value.isFloatFree = true) : Report.ofBytes r.bytes = .ok r := by
  obtain ⟨t, rest, -, hdecode, -⟩ := Json.decodeDocument_eq_ok.1 h
  refine Json.decodeDocument_eq_ok.2 ⟨_, [], read_bytes h hf, ?_, rfl⟩
  rw [decode_eq] at hdecode ⊢
  rw [value_eq]
  exact format_lawful.reread hdecode rfl

end Report

/-! ### Writing -/

namespace Watch

/-- A watch that writes a snapshot of each report, with what that says of the job. -/
def sendAll (w : Watch) (ps : List (Report × Option Outcome)) : Watch :=
  ps.foldl (fun w p => w.send p.1 (.snapshot p.2)) w

lemma send_unlimited {w : Watch} {out : Output} (hw : w.isCancelled = false)
    (hroute : w.route = .records out) (hout : out.lifetime = .unlimited) (r : Report)
    (outcome : Option Outcome) :
    w.send r (.snapshot outcome) =
      { w with route := .records { out with written := out.written ++ r.line } } := by
  have hsend : Output.send [r.text, "\n"] out =
      ({ out with written := out.written ++ r.line }, none) := by
    simp [Output.send, Output.write, Output.flush, hout, Report.line, String.append_assoc]
  rw [send, hroute]
  simp only [hw, Bool.false_eq_true, if_false, Tick.isSnapshot, if_true, emit, hsend]

/-- What is written of reports, as the bytes of lines. -/
lemma written_sendAll {w : Watch} {out : Output} (hw : w.isCancelled = false)
    (hroute : w.route = .records out) (hout : out.lifetime = .unlimited)
    (ps : List (Report × Option Outcome)) :
    Utf8.encode (w.sendAll ps).route.written.toList =
      Utf8.encode out.written.toList ++ Feed.unlines (ps.map fun p => p.1.bytes) := by
  induction ps generalizing w out with
  | nil => simp [sendAll, hroute, Route.written, Route.output, Feed.unlines]
  | cons p ps ih =>
    have hstep := send_unlimited hw hroute hout p.1 p.2
    have hrest := ih (w := w.send p.1 (.snapshot p.2)) (by rw [hstep]; exact hw)
      (by rw [hstep]) (by exact hout)
    rw [sendAll, List.foldl_cons, ← sendAll, hrest, String.toList_append, Utf8.encode_append,
      Report.encode_line, List.map_cons, Feed.unlines_cons]
    simp

end Watch

namespace Feed

lemma any_of_dropLast {α : Type} {p : α → Bool} {xs : List α} (h : xs.dropLast.any p = false) :
    xs.any p = xs.getLast?.any p := by
  rcases List.eq_nil_or_concat xs with rfl | ⟨ys, x, rfl⟩
  · rfl
  · rw [List.concat_eq_append] at h ⊢
    rw [List.dropLast_concat] at h
    simp [h]

lemma isReadable_bytes {maxLine : Nat} {r : Report} (h : Report.ofBytes r.bytes = .ok r)
    (hlength : r.bytes.length ≤ maxLine) : isReadable maxLine r.bytes = true := by
  simp [isReadable, hlength, h, Except.isOk, Except.toBool]

lemma filterMap_bytes {ps : List (Report × Option Outcome)}
    (h : ∀ p ∈ ps, Report.ofBytes p.1.bytes = .ok p.1) :
    (ps.map fun p => p.1.bytes).filterMap report? = ps.map Prod.fst := by
  induction ps with
  | nil => rfl
  | cons p ps ih =>
    obtain ⟨hp, hps⟩ := List.forall_mem_cons.1 h
    rw [List.map_cons, List.filterMap_cons_some (report?_eq_some.2 hp), ih hps, List.map_cons]

variable {σ : Type} {k : Sink σ}

/-- **A stream delivers the reports that a watch has written.** A watch that runs writes snapshots
of reports that were read and hold no float, on an output that works. None is final but perhaps the
last, and no text of one is too long. Whoever reads what was written as a feed, in any chunks and
without cancelling, receives these reports in their order and nothing else, and the feed ends
well if the last is final, and otherwise early. No text of any report holds a line feed, or is
blank. -/
theorem steps_records (hk : ∀ s, k.isCancelled s = false) (maxLine : Nat) {w : Watch}
    {out : Output} (hw : w.isCancelled = false) (hroute : w.route = .records out)
    (hout : out.lifetime = .unlimited) (hempty : out.written = "")
    (ps : List (Report × Option Outcome)) (hread : ∀ p ∈ ps, ∃ bs, Report.ofBytes bs = .ok p.1)
    (hfloat : ∀ p ∈ ps, p.1.value.isFloatFree = true)
    (hlength : ∀ p ∈ ps, p.1.bytes.length ≤ maxLine)
    (hfinal : ∀ p ∈ ps.dropLast, p.1.isFinal = false) (s : σ) (chunks : List (List UInt8))
    (hchunks : chunks.flatten = Utf8.encode (w.sendAll ps).route.written.toList) :
    (∃ r : Result,
      steps k.recorded maxLine (s, []) (.reading {})
          (chunks.map .chunk ++ [Close.clean.arrival]) =
        (((ps.map Prod.fst).foldl k.deliver s, ps.map Prod.fst), .ended r) ∧
      r.kind = if ps.getLast?.any fun p => p.1.isFinal then .ok () else .error .unexpectedEof) ∧
    ∀ report : Report, lineFeed ∉ report.bytes ∧ report.bytes.all Text.isBlankByte = false := by
  have hnotblank (report : Report) : ¬ report.bytes.all Text.isBlankByte = true :=
    not_blank_of_bracket (.inr report.openBrace_mem_bytes)
  refine ⟨?_, fun report => ⟨report.lineFeed_not_mem_bytes, by simpa using hnotblank report⟩⟩
  have hback : ∀ p ∈ ps, Report.ofBytes p.1.bytes = .ok p.1 := by
    intro p hp
    obtain ⟨bs, hbs⟩ := hread p hp
    exact Report.reread hbs (hfloat p hp)
  -- the records are lines of a feed
  have hfree : ∀ line ∈ ps.map fun p => p.1.bytes, lineFeed ∉ line :=
    List.forall_mem_map.2 fun p _ => p.1.lineFeed_not_mem_bytes
  have hlines : ∀ line ∈ ps.map fun p => p.1.bytes, isReadable maxLine line = true :=
    List.forall_mem_map.2 fun p hp => isReadable_bytes (hback p hp) (hlength p hp)
  have hreports := filterMap_bytes hback
  have hlast : (ps.map Prod.fst).dropLast.any Report.isFinal = false := by
    rw [← List.map_dropLast, List.any_map, List.any_eq_false]
    exact fun p hp => Bool.eq_false_iff.1 (hfinal p hp)
  have hbody : chunks.flatten = unlines (ps.map fun p => p.1.bytes) := by
    rw [hchunks, Watch.written_sendAll hw hroute hout, hempty]
    rfl
  obtain ⟨r, hsteps, hkind⟩ := steps_clean hk maxLine s chunks
  rw [hbody, reports_unlines hfree hlines, hreports, through_of_dropLast _ hlast] at hsteps
  rw [outcome, hbody, reports_unlines hfree hlines, hreports, any_of_dropLast hlast,
    if_pos (List.all_eq_true.2 (readable_unlines hfree hlines)), List.getLast?_map] at hkind
  refine ⟨r, hsteps, hkind.trans ?_⟩
  cases ps.getLast? <;> rfl

/-- A report with a line feed in a string, and a final report. -/
def sampleSnapshots : List (Report × Option Outcome) :=
  [({ errors := ["a\nb"] }, none), ({ isFinal := true }, some .complete)]

def sampleWatch : Watch := ⟨{ target := "s", jobId := "j" }, .records {}⟩

/-- The records come in two chunks that break behind the backslash of the escaped line feed. -/
theorem steps_records_sample :
    ∃ chunks : List (List UInt8), chunks.map List.length = [14, 67] ∧
      chunks.flatten = Utf8.encode (sampleWatch.sendAll sampleSnapshots).route.written.toList ∧
      ∃ r : Result,
        steps (Sink.recorded ⟨fun (n : Nat) _ => n + 1, fun _ => false⟩) 64 (0, []) (.reading {})
            (chunks.map .chunk ++ [Close.clean.arrival]) =
          ((2, sampleSnapshots.map Prod.fst), .ended r) ∧
        r.kind = .ok () := by
  have hread : ∀ p ∈ sampleSnapshots, ∃ bs, Report.ofBytes bs = .ok p.1 := by
    have hfirst : Report.ofBytes (Utf8.encode "\x7b\"errors\":[\"a\\nb\"]\x7d".toList) =
        .ok { errors := ["a\nb"] } := by decide +kernel
    have hlast : Report.ofBytes (Utf8.encode "\x7b\"final\":true\x7d".toList) =
        .ok { isFinal := true } := by decide +kernel
    simp only [sampleSnapshots, List.forall_mem_cons]
    exact ⟨⟨_, hfirst⟩, ⟨_, hlast⟩, fun _ hp => absurd hp List.not_mem_nil⟩
  obtain ⟨bytes, hbytes⟩ : ∃ bytes, bytes =
      Utf8.encode (sampleWatch.sendAll sampleSnapshots).route.written.toList := ⟨_, rfl⟩
  obtain ⟨⟨r, hsteps, hkind⟩, -⟩ := steps_records
    (k := ⟨fun (n : Nat) _ => n + 1, fun _ => false⟩) (fun _ => rfl) 64 (w := sampleWatch) rfl rfl
    rfl rfl sampleSnapshots hread (by decide +kernel) (by decide +kernel) (by decide +kernel) 0
    [bytes.take 14, bytes.drop 14] (by simp [hbytes])
  refine ⟨_, ?_, ?_, r, hsteps, hkind⟩
  · rw [hbytes]
    decide +kernel
  · simp [hbytes]

end Feed

end JobWatch
