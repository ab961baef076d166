import JobWatch.Proofs.Feed.Lines
import JobWatch.Proofs.Json.TrailingBlank
import Mathlib.Control.Monad.Basic

/-!
What a feed delivers, told from its bytes alone.

The account of a feed takes the complete lines in order and then the tail behind the last line
feed; it knows neither chunks nor a buffer. Whatever the chunks, the stream delivers the reports of
the account and ends as it does. An error is told by its kind only: the message of a line that does
not decode may depend on the line feed behind it.
-/

namespace JobWatch.Feed

/-- How the bytes of a feed end: the stream closes, or its transport breaks. -/
inductive Close where
  | clean
  | broken (e : AdminError)
  deriving Repr, DecidableEq

def Close.arrival : Close → Arrival
  | clean => .close
  | broken e => .broken e

/-- The reports that are delivered, in their order, and how the feed ends. -/
structure Account where
  delivered : List Report
  result : Except AdminErrorKind Unit
  deriving DecidableEq

variable {σ : Type} (k : Sink σ) (maxLine : Nat)

/-- What the bytes behind the last line feed come to. -/
def tailAccount (close : Close) (tail : List UInt8) : Account :=
  if tail.length > maxLine then ⟨[], .error .decode⟩
  else
    match close with
    | .broken e => ⟨[], .error e.kind⟩
    | .clean =>
      if tail.all Text.isBlankByte then ⟨[], .error .unexpectedEof⟩
      else
        match Report.ofBytes tail with
        | .error _ => ⟨[], .error .decode⟩
        | .ok r => ⟨[r], if r.isFinal then .ok () else .error .unexpectedEof⟩

/-- The account of a feed that first delivers some reports more. -/
def Account.after (rs : List Report) (a : Account) : Account := ⟨rs ++ a.delivered, a.result⟩

/-- What the lines come to for a sink in a state, with a given account of the tail. -/
def linesAccount (tail : Account) : σ → List (List UInt8) → Account
  | _, [] => tail
  | s, line :: lines =>
    if line.length > maxLine then ⟨[], .error .decode⟩
    else if line.all Text.isBlankByte then linesAccount tail s lines
    else
      match Report.ofBytes line with
      | .error _ => ⟨[], .error .decode⟩
      | .ok r =>
        if r.isFinal then ⟨[r], .ok ()⟩
        else if k.isCancelled (k.deliver s r) then ⟨[r], .error .cancelled⟩
        else (linesAccount tail (k.deliver s r) lines).after [r]

/-- The account of a feed: the bytes are split at every line feed, the last piece is the tail. -/
def account (s : σ) (bytes : List UInt8) (close : Close) : Account :=
  linesAccount k maxLine
    (tailAccount maxLine close ((pieces bytes).getLast (List.splitOn_ne_nil _ _)))
    s (pieces bytes).dropLast

lemma account_tail {bs : List UInt8} (h : lineFeed ∉ bs) (s : σ) (close : Close) :
    account k maxLine s bs close = tailAccount maxLine close bs := by
  simp only [account, pieces_of_not_mem h, List.dropLast_singleton, List.getLast_singleton,
    linesAccount]

lemma account_line {line : List UInt8} (h : lineFeed ∉ line) (bs : List UInt8) (s : σ)
    (close : Close) :
    account k maxLine s (line ++ lineFeed :: bs) close =
      if line.length > maxLine then ⟨[], .error .decode⟩
      else if line.all Text.isBlankByte then account k maxLine s bs close
      else
        match Report.ofBytes line with
        | .error _ => ⟨[], .error .decode⟩
        | .ok r =>
          if r.isFinal then ⟨[r], .ok ()⟩
          else if k.isCancelled (k.deliver s r) then ⟨[r], .error .cancelled⟩
          else (account k maxLine (k.deliver s r) bs close).after [r] := by
  have hne : pieces bs ≠ [] := List.splitOn_ne_nil _ _
  simp only [account, pieces_line h, List.dropLast_cons_of_ne_nil hne, List.getLast_cons hne,
    linesAccount]

/-- The result of a stream, with its error told by its kind. -/
def Result.kind (r : Result) : Except AdminErrorKind Unit := r.mapError (·.kind)

/-! ### Lines -/

lemma all_blank_lineFeed (line : List UInt8) :
    (line ++ [lineFeed]).all Text.isBlankByte = line.all Text.isBlankByte := by
  simp [lineFeed, Text.isBlankByte]

lemma decodeLine_blank {line : List UInt8} (h : line.all Text.isBlankByte = true) :
    decodeLine (line ++ [lineFeed]) = .ok none := by
  rw [decodeLine, all_blank_lineFeed, if_pos h]

/-- A report is read with the line feed of its line exactly if it is read without. -/
lemma ofBytes_lineFeed (line : List UInt8) (r : Report) :
    Report.ofBytes (line ++ [lineFeed]) = .ok r ↔ Report.ofBytes line = .ok r :=
  Json.decodeDocument_append_blank (by decide) Report.decode line r

lemma decodeLine_report {line : List UInt8} {r : Report} (h : ¬ line.all Text.isBlankByte = true)
    (hr : Report.ofBytes line = .ok r) : decodeLine (line ++ [lineFeed]) = .ok (some r) := by
  rw [decodeLine, all_blank_lineFeed, if_neg h, (ofBytes_lineFeed line r).2 hr]

lemma decodeLine_fault {line : List UInt8} {f : Json.Fault} (h : ¬ line.all Text.isBlankByte = true)
    (hf : Report.ofBytes line = .error f) :
    ∃ message, decodeLine (line ++ [lineFeed]) = .error ⟨.decode, message⟩ := by
  rw [decodeLine, all_blank_lineFeed, if_neg h]
  rcases h' : Report.ofBytes (line ++ [lineFeed]) with g | r
  · exact ⟨_, rfl⟩
  · rw [(ofBytes_lineFeed line r).1 h'] at hf
    simp at hf

/-- The stream and the account agree on a line: both end with it, or both go on from the same
state. -/
lemma takeLine_account {line : List UInt8} (h : lineFeed ∉ line) (bs : List UInt8) (s : σ)
    (close : Close) :
    ∃ rs : List Report, (takeLine k maxLine s line).1 = rs.foldl k.deliver s ∧
      account k maxLine s (line ++ lineFeed :: bs) close =
        match (takeLine k maxLine s line).2 with
        | some r => ⟨rs, r.kind⟩
        | none => (account k maxLine (rs.foldl k.deliver s) bs close).after rs := by
  rw [account_line k maxLine h, takeLine]
  by_cases hlong : line.length > maxLine
  · rw [if_pos hlong, if_pos hlong]
    exact ⟨[], rfl, rfl⟩
  rw [if_neg hlong, if_neg hlong]
  by_cases hblank : line.all Text.isBlankByte = true
  · rw [if_pos hblank, decodeLine_blank hblank]
    exact ⟨[], rfl, rfl⟩
  rw [if_neg hblank]
  rcases hr : Report.ofBytes line with f | r
  · obtain ⟨message, hm⟩ := decodeLine_fault hblank hr
    rw [hm]
    exact ⟨[], rfl, rfl⟩
  · rw [decodeLine_report hblank hr]
    by_cases hfinal : r.isFinal = true
    · simp only [hfinal, if_true]
      exact ⟨[r], rfl, rfl⟩
    · by_cases hc : k.isCancelled (k.deliver s r) = true
      · simp only [hfinal, hc, if_true]
        exact ⟨[r], rfl, rfl⟩
      · simp only [hfinal, hc]
        exact ⟨[r], rfl, rfl⟩

/-- The stream and the account agree on the tail, which is looked at when the stream has ended. -/
lemma step_tailAccount {bs : List UInt8} {s : σ} (hs : k.isCancelled s = false)
    (hlen : ¬ bs.length > maxLine) (close : Close) :
    ∃ r : Result, step k maxLine s (.reading ⟨bs, bs.length⟩) close.arrival =
        ((tailAccount maxLine close bs).delivered.foldl k.deliver s, .ended r) ∧
      r.kind = (tailAccount maxLine close bs).result := by
  simp only [step, hs, tailAccount, if_neg hlen]
  cases close with
  | broken e => exact ⟨.error e, rfl, rfl⟩
  | clean =>
    dsimp only [Close.arrival, finishTail, decodeLine]
    by_cases hblank : bs.all Text.isBlankByte = true
    · simp only [if_pos hblank]
      exact ⟨.error unfinished, rfl, rfl⟩
    · simp only [if_neg hblank]
      rcases Report.ofBytes bs with f | r
      · exact ⟨_, rfl, rfl⟩
      · by_cases hfinal : r.isFinal = true
        · simp only [hfinal, if_true]
          exact ⟨.ok (), rfl, rfl⟩
        · simp only [hfinal]
          exact ⟨.error unfinished, rfl, rfl⟩

/-- What is read of a feed and its end, against its account. -/
lemma readLines_account {s : σ} (hs : k.isCancelled s = false) (bs : List UInt8) (close : Close) :
    ∃ r : Result, steps k maxLine (readLines k maxLine s (pieces bs)).1
        (readLines k maxLine s (pieces bs)).2 [close.arrival] =
        ((account k maxLine s bs close).delivered.foldl k.deliver s, .ended r) ∧
      r.kind = (account k maxLine s bs close).result := by
  induction bs using lineInduction generalizing s with
  | tail bs hfree =>
    rw [readLines_tail k maxLine hfree, account_tail k maxLine hfree]
    by_cases hlong : bs.length > maxLine
    · simp only [if_pos hlong, tailAccount]
      exact ⟨_, rfl, rfl⟩
    · rw [if_neg hlong]
      exact step_tailAccount k maxLine hs hlong close
  | line line rest hfree ih =>
    rw [readLines_line k maxLine hfree]
    obtain ⟨rs, hstate, haccount⟩ := takeLine_account k maxLine hfree rest s close
    rcases ht : takeLine k maxLine s line with ⟨s₁, _ | r⟩
    · rw [ht] at hstate haccount
      obtain ⟨r, hsteps, hkind⟩ := ih (takeLine_running hs ht)
      rw [haccount]
      simp only at hstate
      rw [← hstate]
      refine ⟨r, ?_, hkind⟩
      rw [Account.after, List.foldl_append, ← hstate]
      exact hsteps
    · rw [ht] at hstate haccount
      rw [haccount]
      simp only at hstate
      refine ⟨r, ?_, rfl⟩
      rw [← hstate]
      rfl

/-! ### What a sink is given -/

/-- A sink that also keeps the reports it is given, in their order. -/
def Sink.recorded : Sink (σ × List Report) where
  deliver p r := (k.deliver p.1 r, p.2 ++ [r])
  isCancelled p := k.isCancelled p.1

lemma foldl_recorded (rs : List Report) (p : σ × List Report) :
    rs.foldl k.recorded.deliver p = (rs.foldl k.deliver p.1, p.2 ++ rs) := by
  induction rs generalizing p with
  | nil => simp
  | cons r rs ih => rw [List.foldl_cons, ih]; simp [Sink.recorded]

lemma linesAccount_recorded (tail : Account) (p : σ × List Report) (lines : List (List UInt8)) :
    linesAccount k.recorded maxLine tail p lines = linesAccount k maxLine tail p.1 lines := by
  induction lines generalizing p with
  | nil => rfl
  | cons line lines ih => simp only [linesAccount, ih]; rfl

/-- The end of a feed, for any sink: it is in the state of having been given the reports of the
account. -/
lemma steps_account {s : σ} (hs : k.isCancelled s = false) (chunks : List (List UInt8))
    (close : Close) :
    ∃ r : Result, steps k maxLine s (.reading {}) (chunks.map .chunk ++ [close.arrival]) =
        ((account k maxLine s chunks.flatten close).delivered.foldl k.deliver s, .ended r) ∧
      r.kind = (account k maxLine s chunks.flatten close).result := by
  rw [steps_append, steps_chunks hs (Buffer.settled_nil maxLine)]
  exact readLines_account k maxLine hs chunks.flatten close

/-- **Framing does not matter.** Of a feed that arrives in any chunks, to a sink that nobody has
cancelled yet, the stream delivers the reports of the account of all its bytes, in their order and
nothing else, and it ends with the result of the account. -/
theorem steps_eq_account (s : σ) (hs : k.isCancelled s = false) (chunks : List (List UInt8))
    (close : Close) :
    ∃ r : Result,
      steps k.recorded maxLine (s, []) (.reading {}) (chunks.map .chunk ++ [close.arrival]) =
        (((account k maxLine s chunks.flatten close).delivered.foldl k.deliver s,
          (account k maxLine s chunks.flatten close).delivered), .ended r) ∧
      r.kind = (account k maxLine s chunks.flatten close).result := by
  have hsame : account k.recorded maxLine (s, []) chunks.flatten close =
      account k maxLine s chunks.flatten close := linesAccount_recorded k maxLine _ _ _
  obtain ⟨r, hsteps, hkind⟩ := steps_account k.recorded maxLine (s := (s, [])) hs chunks close
  rw [hsame, foldl_recorded] at hsteps
  rw [hsame] at hkind
  exact ⟨r, hsteps, hkind⟩

/-- A sink that is cancelled once it has taken a number of reports. -/
def Sink.limited (n : Nat) : Sink Nat := ⟨fun s _ => s + 1, fun s => n ≤ s⟩

/-- Three reports and a blank line, cut inside a report and before a line feed: the second report
cancels. -/
theorem steps_eq_account_limited :
    (Sink.limited 2).isCancelled 0 = false ∧
      ∃ r : Result,
        steps (Sink.limited 2).recorded 2 (0, []) (.reading {})
          ([[0x7B], [0x7D, 0x0A, 0x20, 0x0A, 0x7B, 0x7D], [], [0x0A, 0x7B, 0x7D]].map .chunk ++
            [Close.clean.arrival]) = ((2, [{}, {}]), .ended r) ∧
        r.kind = .error .cancelled := by
  obtain ⟨r, hsteps, hkind⟩ := steps_eq_account (Sink.limited 2) 2 0 rfl
    [[0x7B], [0x7D, 0x0A, 0x20, 0x0A, 0x7B, 0x7D], [], [0x0A, 0x7B, 0x7D]] .clean
  have haccount : account (Sink.limited 2) 2 0
      ([[0x7B], [0x7D, 0x0A, 0x20, 0x0A, 0x7B, 0x7D], [], [0x0A, 0x7B, 0x7D]] :
        List (List UInt8)).flatten .clean = ⟨[{}, {}], .error .cancelled⟩ := by decide +kernel
  rw [haccount] at hsteps hkind
  exact ⟨rfl, r, hsteps, hkind⟩

end JobWatch.Feed
