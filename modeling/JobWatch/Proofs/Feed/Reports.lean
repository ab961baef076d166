import JobWatch.Proofs.Beginning
import JobWatch.Proofs.Feed.Framing
import JobWatch.Proofs.Json.Truncation

/-!
What a feed has to tell.

The reports of a body are those of its lines, up to the first line that is too long or is no report.
A sink that never cancels receives them up to the first final one. Its stream ends well if there is
one; otherwise it ends with the fault of a line, or for want of a final report.
-/

namespace JobWatch.Feed

/-! ### Lines -/

/-- A line that is not too long, and blank or a report. -/
def isReadable (maxLine : Nat) (line : List UInt8) : Bool :=
  line.length ≤ maxLine && (line.all Text.isBlankByte || (Report.ofBytes line).isOk)

/-- The report on a line, if there is one. -/
def report? (line : List UInt8) : Option Report := (Report.ofBytes line).toOption

/-- The reports of lines, up to the first line that is too long or no report. -/
def reports (maxLine : Nat) (lines : List (List UInt8)) : List Report :=
  (lines.takeWhile (isReadable maxLine)).filterMap report?

lemma report?_eq_some {line : List UInt8} {r : Report} :
    report? line = some r ↔ Report.ofBytes line = .ok r := by
  rw [report?]
  rcases Report.ofBytes line with f | r' <;> simp [Except.toOption]

lemma reports_of_readable {maxLine : Nat} {lines : List (List UInt8)}
    (h : ∀ line ∈ lines, isReadable maxLine line = true) :
    reports maxLine lines = lines.filterMap report? := by
  rw [reports, List.takeWhile_eq_self_iff.2 h]

lemma decode_objectsOnly : Json.ObjectsOnly Report.decode := by
  intro t r h
  cases t with
  | obj ms cut => exact ⟨ms, cut, rfl⟩
  | _ => simp [Report.decode, Json.Layout.decode] at h

lemma not_blank_of_bracket {line : List UInt8}
    (h : Json.openBracket ∈ line ∨ Json.openBrace ∈ line) : ¬ line.all Text.isBlankByte = true := by
  intro hblank
  rw [List.all_eq_true] at hblank
  rcases h with h | h
  · exact absurd (hblank _ h) (by decide)
  · exact absurd (hblank _ h) (by decide)

/-- A report is not blank. -/
lemma not_blank_of_report {line : List UInt8} {r : Report} (h : Report.ofBytes line = .ok r) :
    ¬ line.all Text.isBlankByte = true :=
  not_blank_of_bracket (Json.bracket_mem_document decode_objectsOnly h)

variable {maxLine : Nat} {line : List UInt8}

lemma isReadable_eq :
    isReadable maxLine line =
      if line.length > maxLine then false
      else if line.all Text.isBlankByte then true
      else (Report.ofBytes line).isOk := by
  rw [isReadable]
  by_cases hlong : line.length > maxLine
  · rw [if_pos hlong, decide_eq_false (Nat.not_le.2 hlong), Bool.false_and]
  · rw [if_neg hlong, decide_eq_true (Nat.not_lt.1 hlong), Bool.true_and]
    cases line.all Text.isBlankByte <;> rfl

lemma reports_cons (lines : List (List UInt8)) :
    reports maxLine (line :: lines) =
      if line.length > maxLine then []
      else if line.all Text.isBlankByte then reports maxLine lines
      else
        match Report.ofBytes line with
        | .error _ => []
        | .ok r => r :: reports maxLine lines := by
  rw [reports, List.takeWhile_cons, isReadable_eq]
  by_cases hlong : line.length > maxLine
  · rw [if_pos hlong, if_pos hlong]
    rfl
  rw [if_neg hlong, if_neg hlong]
  rcases hr : Report.ofBytes line with f | r
  · have hnone : report? line = none := by rw [report?, hr]; rfl
    cases line.all Text.isBlankByte <;> simp [hnone, reports, Except.isOk, Except.toBool]
  · rw [if_neg (not_blank_of_report hr), if_neg (not_blank_of_report hr)]
    simp [report?_eq_some.2 hr, reports, Except.isOk, Except.toBool]

/-- Lines with a line feed behind each. -/
def unlines (lines : List (List UInt8)) : List UInt8 := lines.flatMap (· ++ [lineFeed])

lemma unlines_cons (line : List UInt8) (lines : List (List UInt8)) :
    unlines (line :: lines) = line ++ lineFeed :: unlines lines := by
  simp [unlines]

lemma pieces_unlines {lines : List (List UInt8)} (h : ∀ line ∈ lines, lineFeed ∉ line) :
    pieces (unlines lines) = lines ++ [[]] := by
  induction lines with
  | nil => exact pieces_of_not_mem List.not_mem_nil
  | cons line lines ih =>
    obtain ⟨hline, hlines⟩ := List.forall_mem_cons.1 h
    rw [unlines_cons, pieces_line hline, ih hlines, List.cons_append]

lemma isReadable_nil : isReadable maxLine [] = true := by
  simp [isReadable]

lemma report?_nil : report? [] = none := rfl

section Unlines

variable {lines : List (List UInt8)} (hfree : ∀ line ∈ lines, lineFeed ∉ line)
  (hlines : ∀ line ∈ lines, isReadable maxLine line = true)

include hfree hlines

/-- The piece behind the last line feed is empty, and so it is readable too. -/
lemma readable_unlines : ∀ line ∈ pieces (unlines lines), isReadable maxLine line = true := by
  intro line hline
  rw [pieces_unlines hfree] at hline
  rcases List.mem_append.1 hline with hline | hline
  · exact hlines line hline
  · rw [List.mem_singleton.1 hline, isReadable_nil]

/-- The reports of a body of readable lines. -/
lemma reports_unlines : reports maxLine (pieces (unlines lines)) = lines.filterMap report? := by
  rw [reports_of_readable (readable_unlines hfree hlines), pieces_unlines hfree,
    List.filterMap_append]
  simp [report?_nil]

end Unlines

/-- How a body ends for a sink that never cancels: with its final report, or early, or with the
fault of a line. -/
def outcome (maxLine : Nat) (lines : List (List UInt8)) : Except AdminErrorKind Unit :=
  if (reports maxLine lines).any Report.isFinal then .ok ()
  else if lines.all (isReadable maxLine) then .error .unexpectedEof
  else .error .decode

lemma outcome_cons (lines : List (List UInt8)) :
    outcome maxLine (line :: lines) =
      if line.length > maxLine then .error .decode
      else if line.all Text.isBlankByte then outcome maxLine lines
      else
        match Report.ofBytes line with
        | .error _ => .error .decode
        | .ok r => if r.isFinal then .ok () else outcome maxLine lines := by
  rw [outcome, outcome, reports_cons, List.all_cons, isReadable_eq]
  by_cases hlong : line.length > maxLine
  · simp only [if_pos hlong]
    rfl
  simp only [if_neg hlong]
  by_cases hblank : line.all Text.isBlankByte = true
  · simp only [if_pos hblank, Bool.true_and]
  simp only [if_neg hblank]
  rcases Report.ofBytes line with f | r
  · rfl
  · simp only [List.any_cons, Except.isOk, Except.toBool, Bool.true_and]
    cases r.isFinal <;> rfl

/-- A body ends well exactly with a final report. -/
lemma isOk_outcome (lines : List (List UInt8)) :
    (outcome maxLine lines).isOk = (reports maxLine lines).any Report.isFinal := by
  rw [outcome]
  cases (reports maxLine lines).any Report.isFinal
  · simp only [Bool.false_eq_true, if_false]
    split <;> rfl
  · rfl

lemma outcome_failed {lines : List (List UInt8)} (h : (outcome maxLine lines).isOk = false) :
    outcome maxLine lines = .error .unexpectedEof ∨ outcome maxLine lines = .error .decode := by
  rw [isOk_outcome] at h
  rw [outcome, h, if_neg Bool.false_ne_true]
  split
  · exact .inl rfl
  · exact .inr rfl

lemma Result.isOk_kind (r : Result) : r.kind.isOk = r.isOk := by
  cases r <;> rfl

/-! ### The account -/

variable {σ : Type} {k : Sink σ}

/-- **The account of a body that ends cleanly, for a sink that never cancels.** -/
theorem account_clean (hk : ∀ s, k.isCancelled s = false) (s : σ) (bs : List UInt8) :
    account k maxLine s bs .clean =
      ⟨through Report.isFinal (reports maxLine (pieces bs)), outcome maxLine (pieces bs)⟩ := by
  induction bs using lineInduction generalizing s with
  | tail bs hfree =>
    rw [account_tail k maxLine hfree, tailAccount, pieces_of_not_mem hfree, reports_cons,
      outcome_cons]
    by_cases hlong : bs.length > maxLine
    · simp only [if_pos hlong]
      rfl
    simp only [if_neg hlong]
    by_cases hblank : bs.all Text.isBlankByte = true
    · simp only [if_pos hblank]
      rfl
    simp only [if_neg hblank]
    rcases Report.ofBytes bs with f | r
    · rfl
    · cases hfinal : r.isFinal <;> simp [through, hfinal, reports, outcome]
  | line line rest hfree ih =>
    rw [account_line k maxLine hfree, pieces_line hfree, reports_cons, outcome_cons]
    by_cases hlong : line.length > maxLine
    · simp only [if_pos hlong]
      rfl
    simp only [if_neg hlong]
    by_cases hblank : line.all Text.isBlankByte = true
    · simp only [if_pos hblank, ih s]
    simp only [if_neg hblank]
    rcases Report.ofBytes line with f | r
    · rfl
    · simp only [hk, ih]
      cases hfinal : r.isFinal <;> simp [through, hfinal, Account.after]

/-- What a sink that never cancels receives of a body that ends cleanly, and how its stream ends. -/
theorem steps_clean (hk : ∀ s, k.isCancelled s = false) (maxLine : Nat) (s : σ)
    (chunks : List (List UInt8)) :
    ∃ r : Result,
      steps k.recorded maxLine (s, []) (.reading {})
          (chunks.map .chunk ++ [Close.clean.arrival]) =
        (((through Report.isFinal (reports maxLine (pieces chunks.flatten))).foldl k.deliver s,
          through Report.isFinal (reports maxLine (pieces chunks.flatten))), .ended r) ∧
      r.kind = outcome maxLine (pieces chunks.flatten) := by
  have hrunning : ∀ p, k.recorded.isCancelled p = false := fun p => hk p.1
  obtain ⟨r, hsteps, hkind⟩ :=
    steps_account k.recorded maxLine (s := (s, [])) (hrunning _) chunks .clean
  rw [account_clean hrunning] at hsteps hkind
  rw [foldl_recorded] at hsteps
  exact ⟨r, hsteps, hkind⟩

end JobWatch.Feed
