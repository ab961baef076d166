/-!
An output that takes text, and that may fail from some moment on.

Text that was taken stays; a write or a flush that fails takes nothing.
-/

namespace JobWatch

/-- How long an output works: for ever, for a number of writes and flushes, or until a number of
flushes were done. -/
inductive Lifetime where
  | unlimited
  | operations (n : Nat)
  | flushes (n : Nat)
  deriving Repr, DecidableEq

/-- The output takes nothing any more. -/
inductive OutputError where
  | closed
  deriving Repr, DecidableEq

def OutputError.message : OutputError → String
  | closed => "sink closed"

structure Output where
  written : String := ""
  lifetime : Lifetime := .unlimited
  deriving Repr, DecidableEq, Inhabited

namespace Output

def works (o : Output) : Bool := o.lifetime ≠ .operations 0 ∧ o.lifetime ≠ .flushes 0

def close (o : Output) : Output := { o with lifetime := .operations 0 }

def reopen (o : Output) : Output := { o with lifetime := .unlimited }

def write (o : Output) (s : String) : Except OutputError Output :=
  match o.lifetime with
  | .unlimited => .ok { o with written := o.written ++ s }
  | .operations 0 | .flushes 0 => .error .closed
  | .operations (n + 1) => .ok ⟨o.written ++ s, .operations n⟩
  | .flushes (n + 1) => .ok { o with written := o.written ++ s, lifetime := .flushes (n + 1) }

def flush (o : Output) : Except OutputError Output :=
  match o.lifetime with
  | .unlimited => .ok o
  | .operations 0 | .flushes 0 => .error .closed
  | .operations (n + 1) => .ok { o with lifetime := .operations n }
  | .flushes (n + 1) => .ok { o with lifetime := .flushes n }

/-- Writes texts one after the other and flushes; what was written before a failure stays. -/
def send : List String → Output → Output × Option OutputError
  | [], o =>
    match o.flush with
    | .ok o => (o, none)
    | .error e => (o, some e)
  | s :: ss, o =>
    match o.write s with
    | .ok o => send ss o
    | .error e => (o, some e)

end Output

end JobWatch
