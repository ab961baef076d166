import JobWatch.ByteCount
import JobWatch.Display

/-!
What a display shows: a header and a table of labelled values.

The table depends on the kind of job, and reads only the section of that kind. Rates appear once
some time has elapsed.
-/

namespace JobWatch

inductive Header where
  | spinner (frame : String)
  | success
  | failure
  /-- The display ended before the job did. -/
  | blank
  deriving Repr, DecidableEq

structure Row where
  label : String
  value : String
  deriving Repr, DecidableEq

structure View where
  header : Header
  rows : List Row
  /-- Keeps the final frame apart from what is printed next. -/
  trailingBlank : Bool
  deriving Repr, DecidableEq

namespace View

/-- Operations per second, to two places. -/
def rateText (x : Binary64) : String := String.ofList (x.fixed 2) ++ " objs/s"

/-- Bytes per second, cut to a whole number that 64 bits hold. -/
def byteRateText (x : Binary64) : String := ByteCount.text (min x.floor 0xFFFFFFFFFFFFFFFF) ++ "/s"

def replicationRows (s : Snapshot) : List Row :=
  let r := s.replicate.getD {}
  [⟨"JobType:", s.jobType⟩,
    ⟨"Objects:", toString r.objects⟩,
    ⟨"Versions:", toString r.objects⟩,
    ⟨"FailedObjects:", toString r.objectsFailed⟩] ++
  (match s.throughput with
    | none => []
    | some t => [⟨"Throughput:", byteRateText t.bytes⟩, ⟨"IOPs:", rateText t.objects⟩]) ++
  [⟨"Transferred:", ByteCount.text r.bytesTransferred⟩,
    ⟨"Elapsed:", s.elapsed.text⟩,
    ⟨"CurrObjName:", r.object⟩]

def counterRows (s : Snapshot) (c : Counters) : List Row :=
  [⟨"JobType:", s.jobType⟩,
    ⟨"Objects:", toString c.objects⟩,
    ⟨"FailedObjects:", toString c.objectsFailed⟩] ++
  (match s.elapsed.seconds? with
    | none => []
    | some secs => [⟨"IOPs:", rateText ((Binary64.ofNat c.objects).div secs)⟩]) ++
  [⟨"Elapsed:", s.elapsed.text⟩,
    ⟨"CurrObjName:", c.object⟩]

/-- The table of a snapshot; a kind without a layout has none. -/
def rowsOf (s : Snapshot) : List Row :=
  match s.kind with
  | .replicate => replicationRows s
  | .keyRotate => counterRows s (s.rotation.getD {})
  | .expire => counterRows s (s.expired.getD {})
  | .unknown _ => []

end View

namespace Display

/-- The header: the indicator while running, afterwards how the job ended. -/
def header (d : Display) : Header :=
  if d.quitting then
    match d.current.outcome with
    | some .complete => .success
    | some .failed => .failure
    | none => .blank
  else .spinner (spinnerFrames.getD (d.phase % spinnerFrames.length) "")

def view (d : Display) : View :=
  ⟨d.header, View.rowsOf d.current, d.quitting⟩

end Display

end JobWatch
