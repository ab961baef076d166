import JobWatch.Admin.Error
import JobWatch.Report.Wire
import JobWatch.Text.Blank

/-!
The metrics feed: a stream of bytes, cut into chunks anywhere, with one report a line.

The bytes after the last line feed wait in a buffer, together with how many of them are known to
hold none. Blank lines are skipped. A line that is too long or no report ends the stream, as do a
final report and a cancel. Bytes left when the stream ends are a last line.
-/

namespace JobWatch.Feed

/-- Who takes the reports. It may be cancelled, also by a delivery. -/
structure Sink (σ : Type) where
  deliver : σ → Report → σ
  isCancelled : σ → Bool

/-- The result of a stream. -/
abbrev Result := Except AdminError Unit

def lineFeed : UInt8 := 0x0A

def overlong (maxLine : Nat) : AdminError :=
  ⟨.decode, "metrics line exceeds " ++ toString maxLine ++ " bytes"⟩

def unfinished : AdminError :=
  ⟨.unexpectedEof, "metrics stream ended before the final message"⟩

def faultMessage : Json.Fault → String
  | .malformed => "the document is malformed"
  | .mismatch => "a value has the wrong kind"
  | .truncated => "the document ends early"

/-- The report on a line, or none on a blank one. -/
def decodeLine (line : List UInt8) : Except AdminError (Option Report) :=
  if line.all Text.isBlankByte then .ok none
  else
    match Report.ofBytes line with
    | .ok r => .ok (some r)
    | .error f => .error ⟨.decode, faultMessage f⟩

/-- The bytes that wait for a line feed, and how many of them are known to hold none. -/
structure Buffer where
  pending : List UInt8 := []
  scanned : Nat := 0
  deriving Repr, DecidableEq, Inhabited

/-- A stream is being read, or it has ended. -/
inductive Stream where
  | reading (b : Buffer)
  | ended (r : Result)
  deriving Inhabited

variable {σ : Type}

/-- Takes the complete lines of a buffer. -/
def drain (k : Sink σ) (maxLine : Nat) (s : σ) (b : Buffer) : σ × Stream :=
  match h : (b.pending.drop b.scanned).findIdx? (· == lineFeed) with
  | none =>
    if b.pending.length > maxLine then (s, .ended (.error (overlong maxLine)))
    else (s, .reading ⟨b.pending, b.pending.length⟩)
  | some offset =>
    let newline := b.scanned + offset
    if newline > maxLine then (s, .ended (.error (overlong maxLine)))
    else
      have : (b.pending.drop (newline + 1)).length < b.pending.length := by
        have := List.findIdx?_eq_some_iff_findIdx_eq.1 h
        simp only [List.length_drop] at this ⊢
        omega
      match decodeLine (b.pending.take (newline + 1)) with
      | .error e => (s, .ended (.error e))
      | .ok none => drain k maxLine s ⟨b.pending.drop (newline + 1), 0⟩
      | .ok (some r) =>
        let s := k.deliver s r
        if r.isFinal then (s, .ended (.ok ()))
        else if k.isCancelled s then (s, .ended (.error .operationCancelled))
        else drain k maxLine s ⟨b.pending.drop (newline + 1), 0⟩
termination_by b.pending.length

/-- What a stream that is waiting may see next. -/
inductive Arrival where
  | chunk (bs : List UInt8)
  | close
  | broken (e : AdminError)
  /-- Nothing of the stream's; a cancel is noticed. -/
  | wake
  deriving Repr, Inhabited

/-- The last line, which has no line feed. -/
def finishTail (k : Sink σ) (s : σ) (b : Buffer) : σ × Result :=
  match decodeLine b.pending with
  | .error e => (s, .error e)
  | .ok none => (s, .error unfinished)
  | .ok (some r) => (k.deliver s r, if r.isFinal then .ok () else .error unfinished)

/-- One arrival. A cancel is looked at first. -/
def step (k : Sink σ) (maxLine : Nat) (s : σ) (st : Stream) (a : Arrival) : σ × Stream :=
  match st with
  | .ended r => (s, .ended r)
  | .reading b =>
    if k.isCancelled s then (s, .ended (.error .operationCancelled))
    else
      match a with
      | .chunk bs => drain k maxLine s ⟨b.pending ++ bs, b.scanned⟩
      | .close =>
        let (s, r) := finishTail k s b
        (s, .ended r)
      | .broken e => (s, .ended (.error e))
      | .wake => (s, .reading b)

/-- A cancel from outside, which a stream that waits notices at once. -/
def interrupt (k : Sink σ) (maxLine : Nat) (cancel : σ → σ) (s : σ) (st : Stream) : σ × Stream :=
  match st with
  | .ended r => (s, .ended r)
  | .reading b => step k maxLine (cancel s) (.reading b) .wake

/-- Arrivals in order. -/
def steps (k : Sink σ) (maxLine : Nat) (s : σ) (st : Stream) : List Arrival → σ × Stream
  | [] => (s, st)
  | a :: as =>
    let (s, st) := step k maxLine s st a
    steps k maxLine s st as

end JobWatch.Feed
