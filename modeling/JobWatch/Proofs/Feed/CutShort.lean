import Mathlib.Tactic.Lemma
import JobWatch.Proofs.Feed.Reports

/-!
Feeds that are cut short.

A body of lines, each blank or a report, may end after any number of its bytes, also within a line:
what is there of that line is read as the last line of the feed. No beginning of an object's
document is a document, so what is delivered are the reports whose documents have come to their end.
-/

namespace JobWatch.Feed

/-! ### Where lines stand -/

/-- Lines with the number of bytes in front of each, from a place on. -/
def placed : Nat → List (List UInt8) → List (Nat × List UInt8)
  | _, [] => []
  | start, line :: lines => (start, line) :: placed (start + line.length + 1) lines

/-- The document on a line that stands somewhere lies wholly within the first bytes. -/
def endsWithin (n : Nat) (p : Nat × List UInt8) : Bool := p.1 + (Json.trimmed p.2).length ≤ n

/-- The lines whose documents lie wholly within the first bytes. -/
def linesWithin (n : Nat) (lines : List (List UInt8)) : List (List UInt8) :=
  ((placed 0 lines).filter (endsWithin n)).map Prod.snd

lemma le_of_mem_placed {start : Nat} {lines : List (List UInt8)} {p : Nat × List UInt8}
    (h : p ∈ placed start lines) : start ≤ p.1 := by
  induction lines generalizing start with
  | nil => simp [placed] at h
  | cons line lines ih =>
    rcases List.mem_cons.1 h with rfl | h
    · exact Nat.le_refl _
    · have := ih h
      omega

/-- No line that begins behind the first bytes ends within them. -/
lemma filter_placed_of_lt {start n : Nat} (h : n < start) (lines : List (List UInt8)) :
    (placed start lines).filter (endsWithin n) = [] := by
  rw [List.filter_eq_nil_iff]
  intro p hp
  have := le_of_mem_placed hp
  simp only [endsWithin, decide_eq_true_eq]
  omega

lemma length_trimmed_le_length (line : List UInt8) : (Json.trimmed line).length ≤ line.length :=
  (List.rdropWhile_prefix Json.isBlank line).length_le

/-- The lines that end within the first bytes stand in front of the others. -/
lemma linesWithin_beginning (n : Nat) (lines : List (List UInt8)) :
    linesWithin n lines <+: lines := by
  have hplaced : ∀ start, ((placed start lines).filter (endsWithin n)).map Prod.snd <+: lines := by
    induction lines with
    | nil => exact fun _ => List.prefix_rfl
    | cons line lines ih =>
      intro start
      rw [placed, List.filter_cons]
      split
      · exact (List.prefix_cons_inj line).2 (ih _)
      · next hlate =>
        have hlength := length_trimmed_le_length line
        simp only [endsWithin, decide_eq_true_eq] at hlate
        rw [filter_placed_of_lt (by omega)]
        exact List.nil_prefix
  exact hplaced 0

/-! ### Where a body is cut -/

variable {maxLine : Nat} {lines : List (List UInt8)}

lemma filterMap_cons_toList {α β : Type} (f : α → Option β) (x : α) (xs : List α) :
    (x :: xs).filterMap f = (f x).toList ++ xs.filterMap f := by
  rw [List.filterMap_cons]
  cases f x <;> rfl

lemma reports_readable {line : List UInt8} (h : isReadable maxLine line = true)
    (lines : List (List UInt8)) :
    reports maxLine (line :: lines) = (report? line).toList ++ reports maxLine lines := by
  rw [reports, List.takeWhile_cons_of_pos h, filterMap_cons_toList, ← reports]

lemma reports_singleton {line : List UInt8} (h : line.length ≤ maxLine) :
    reports maxLine [line] = (report? line).toList := by
  rw [reports_cons, if_neg (Nat.not_lt.2 h), report?]
  rcases hr : Report.ofBytes line with f | r
  · cases line.all Text.isBlankByte <;> rfl
  · rw [if_neg (not_blank_of_report hr)]
    rfl

/-- The beginning of a line tells its report if the document has come to its end, and nothing
otherwise. -/
lemma report?_take {line : List UInt8} (h : isReadable maxLine line = true) (n : Nat) :
    report? (line.take n) = if (Json.trimmed line).length ≤ n then report? line else none := by
  rcases hr : Report.ofBytes line with f | r
  · -- a line that is no report is blank, and so is its beginning
    have hblank : line.all Text.isBlankByte = true := by
      simpa [isReadable, hr, Except.isOk, Except.toBool] using (Bool.and_eq_true_iff.1 h).2
    have hbegin : (line.take n).all Text.isBlankByte = true := by
      rw [List.all_eq_true] at hblank ⊢
      exact fun b hb => hblank b (List.mem_of_mem_take hb)
    have hnone : ∀ {bs : List UInt8}, bs.all Text.isBlankByte = true → report? bs = none := by
      intro bs hbs
      rw [Option.eq_none_iff_forall_ne_some]
      exact fun r hr => not_blank_of_report (report?_eq_some.1 hr) hbs
    rw [hnone hbegin, hnone hblank, ite_self]
  · ext y
    rw [report?_eq_some, Report.ofBytes, Json.decodeDocument_take decode_objectsOnly hr]
    split
    · next hn => simp [hn, report?_eq_some.2 hr, eq_comm]
    · next hn => simp [hn]

/-- **What the first bytes of a body tell.** -/
theorem reports_take (hfree : ∀ line ∈ lines, lineFeed ∉ line)
    (hlines : ∀ line ∈ lines, isReadable maxLine line = true) (n : Nat) :
    reports maxLine (pieces ((unlines lines).take n)) =
      (linesWithin n lines).filterMap report? := by
  have hplaced : ∀ start, reports maxLine (pieces ((unlines lines).take n)) =
      (((placed start lines).filter (endsWithin (start + n))).map Prod.snd).filterMap report? := by
    induction lines generalizing n with
    | nil =>
      intro start
      rw [unlines, List.flatMap_nil, List.take_nil, pieces_of_not_mem List.not_mem_nil,
        reports_singleton (Nat.zero_le _)]
      rfl
    | cons line lines ih =>
      intro start
      obtain ⟨hline, hfree⟩ := List.forall_mem_cons.1 hfree
      obtain ⟨hreadable, hlines⟩ := List.forall_mem_cons.1 hlines
      have hlength : line.length ≤ maxLine :=
        of_decide_eq_true (Bool.and_eq_true_iff.1 hreadable).1
      rw [unlines_cons, placed, List.filter_cons]
      rcases Nat.lt_or_ge line.length n with hn | hn
      · -- the line is there with its line feed
        obtain ⟨m, rfl⟩ : ∃ m, n = line.length + (1 + m) := ⟨n - (line.length + 1), by omega⟩
        have hends : endsWithin (start + (line.length + (1 + m))) (start, line) = true := by
          have := length_trimmed_le_length line
          simp only [endsWithin, decide_eq_true_eq]
          omega
        rw [List.take_length_add_append, Nat.add_comm 1 m, List.take_succ_cons, pieces_line hline,
          reports_readable hreadable, ih hfree hlines m (start + line.length + 1), Nat.add_comm m 1,
          if_pos hends, List.map_cons, filterMap_cons_toList]
        rw [show start + line.length + 1 + m = start + (line.length + (1 + m)) by omega]
      · -- the body ends within the line
        have hcut : lineFeed ∉ line.take n := fun h => hline (List.mem_of_mem_take h)
        have hshort : (line.take n).length ≤ maxLine :=
          (List.length_take_le' n line).trans hlength
        rw [List.take_append_of_le_length hn, pieces_of_not_mem hcut, reports_singleton hshort,
          report?_take hreadable, filter_placed_of_lt (by omega)]
        simp only [endsWithin, Nat.add_le_add_iff_left, decide_eq_true_eq]
        split
        · rw [List.map_singleton, filterMap_cons_toList, List.filterMap_nil, List.append_nil]
        · rfl
  have hstart := hplaced 0
  rwa [Nat.zero_add] at hstart

/-! ### What is delivered -/

/-- The reports whose documents lie wholly within the first bytes of a body, up to the first final
one. -/
def reportsWithin (n : Nat) (lines : List (List UInt8)) : List Report :=
  through Report.isFinal ((linesWithin n lines).filterMap report?)

lemma Result.eq_ok_iff {r : Result} : r = .ok () ↔ r.isOk = true := by
  rcases r with e | u <;> simp [Except.isOk, Except.toBool]

variable {σ : Type} {k : Sink σ}

/-- **A feed that is cut short delivers whole reports only.** A body of lines, each blank or a
report and none too long, arrives in any chunks, and the connection ends cleanly after any number of
its bytes. A sink that never cancels receives exactly the reports whose documents lie wholly within
these bytes, up to the first final one. That is the beginning of what it receives of the whole
body, and every report is that of a whole line. The stream ends well exactly if a final report has
come to its end, and otherwise early or with a line that is no report. -/
theorem steps_cut_short (hk : ∀ s, k.isCancelled s = false)
    (hfree : ∀ line ∈ lines, lineFeed ∉ line)
    (hlines : ∀ line ∈ lines, isReadable maxLine line = true) (s : σ) (n : Nat)
    (chunks : List (List UInt8)) (hchunks : chunks.flatten = (unlines lines).take n) :
    (∃ r : Result,
      steps k.recorded maxLine (s, []) (.reading {})
          (chunks.map .chunk ++ [Close.clean.arrival]) =
        (((reportsWithin n lines).foldl k.deliver s, reportsWithin n lines), .ended r) ∧
      (r = .ok () ↔ ∃ line ∈ linesWithin n lines, ∃ report,
        Report.ofBytes line = .ok report ∧ report.isFinal = true) ∧
      (r ≠ .ok () → r.kind = .error .unexpectedEof ∨ r.kind = .error .decode)) ∧
    (∀ whole : List (List UInt8), whole.flatten = unlines lines →
      reportsWithin n lines <+: (steps k.recorded maxLine (s, []) (.reading {})
        (whole.map .chunk ++ [Close.clean.arrival])).1.2) ∧
    ∀ report ∈ reportsWithin n lines, ∃ line ∈ lines, Report.ofBytes line = .ok report := by
  refine ⟨?_, ?_, ?_⟩
  · obtain ⟨r, hsteps, hkind⟩ := steps_clean hk maxLine s chunks
    rw [hchunks, reports_take hfree hlines] at hsteps
    have hok : r.isOk = ((linesWithin n lines).filterMap report?).any Report.isFinal := by
      rw [← Result.isOk_kind, hkind, isOk_outcome, hchunks, reports_take hfree hlines]
    have hfinal : ((linesWithin n lines).filterMap report?).any Report.isFinal = true ↔
        ∃ line ∈ linesWithin n lines, ∃ report,
          Report.ofBytes line = .ok report ∧ report.isFinal = true := by
      simp only [List.any_eq_true, List.mem_filterMap, report?_eq_some]
      constructor
      · rintro ⟨report, ⟨line, hline, hreport⟩, hfinal⟩
        exact ⟨line, hline, report, hreport, hfinal⟩
      · rintro ⟨line, hline, report, hreport, hfinal⟩
        exact ⟨report, ⟨line, hline, hreport⟩, hfinal⟩
    refine ⟨r, hsteps, ?_, fun hbad => ?_⟩
    · rw [Result.eq_ok_iff, hok, hfinal]
    · rw [Ne, Result.eq_ok_iff, Bool.not_eq_true, ← Result.isOk_kind, hkind] at hbad
      rw [hkind]
      exact outcome_failed hbad
  · intro whole hwhole
    obtain ⟨r, hsteps, -⟩ := steps_clean hk maxLine s whole
    rw [hwhole, reports_unlines hfree hlines] at hsteps
    rw [hsteps]
    exact through_mono _ ((linesWithin_beginning n lines).filterMap report?)
  · intro report hreport
    obtain ⟨line, hline, hreport⟩ := List.mem_filterMap.1 (mem_of_mem_through _ hreport)
    exact ⟨line, (linesWithin_beginning n lines).subset hline, report?_eq_some.1 hreport⟩

/-- A report with a character of two bytes, a blank line, and a final report. -/
def sampleLines : List (List UInt8) :=
  ["\x7b\"x\":\"é\"\x7d", " ", "\x7b\"final\":true\x7d"].map fun s => Utf8.encode s.toList

/-- The reports of the sample. -/
def sampleReports : List Report :=
  [{ extra := Keyed.empty.insert "x" (.str "é") }, { isFinal := true }]

/-- The chunks break within the character, and the body ends in front of its last line feed. -/
theorem steps_cut_short_sample :
    (∀ line ∈ sampleLines, lineFeed ∉ line) ∧
    (∀ line ∈ sampleLines, isReadable 14 line = true) ∧
    ∃ chunks : List (List UInt8), chunks.map List.length = [7, 20] ∧
      chunks.flatten = (unlines sampleLines).take 27 ∧
      ∃ r : Result,
        steps (Sink.recorded ⟨fun (n : Nat) _ => n + 1, fun _ => false⟩) 14 (0, []) (.reading {})
          (chunks.map .chunk ++ [Close.clean.arrival]) = ((2, sampleReports), .ended r) ∧
        r = .ok () := by
  have hfree : ∀ line ∈ sampleLines, lineFeed ∉ line := by decide +kernel
  have hlines : ∀ line ∈ sampleLines, isReadable 14 line = true := by decide +kernel
  have hwithin : linesWithin 27 sampleLines = sampleLines := by decide +kernel
  have hreports : reportsWithin 27 sampleLines = sampleReports := by decide +kernel
  have hfinal : Report.ofBytes (Utf8.encode "\x7b\"final\":true\x7d".toList) =
      .ok { isFinal := true } := by decide +kernel
  obtain ⟨⟨r, hsteps, hok, -⟩, -⟩ := steps_cut_short
    (k := ⟨fun (n : Nat) _ => n + 1, fun _ => false⟩) (fun _ => rfl) hfree hlines 0 27
    [(unlines sampleLines).take 7, ((unlines sampleLines).take 27).drop 7] (by decide +kernel)
  rw [hreports] at hsteps
  refine ⟨hfree, hlines, _, by decide +kernel, by decide +kernel, r, hsteps, hok.2 ?_⟩
  rw [hwithin]
  exact ⟨_, by simp [sampleLines], _, hfinal, rfl⟩

end JobWatch.Feed
