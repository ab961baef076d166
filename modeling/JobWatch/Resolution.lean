import JobWatch.Monitor
import JobWatch.Output

/-!
Whether a job is active. A job that the service does not know may still be in recent history, which
is no failure.
-/

namespace JobWatch

inductive Resolution where
  | active
  | historical
  deriving Repr, DecidableEq

namespace Resolution

/-- Tells the user of the live display that the job is looked for in history. -/
def historyNotice : String :=
  "Unable to find an active job, attempting to list from previously run jobs\n"

/-- Judges the answer of the service; the description itself does not matter, only its size is
noted. -/
def ofDescription (m : Monitor) (d : Except AdminError String) :
    Monitor × Except MonitorError Resolution :=
  match d with
  | .ok raw =>
    (m.note .debug .resolver
      ("job " ++ m.jobId ++ " is active (" ++ toString raw.utf8ByteSize ++
        " bytes of description)"),
      .ok .active)
  | .error e =>
    if e.isNoSuchJob then
      (m.note .info .resolver ("job " ++ m.jobId ++ " has no active record on " ++ m.target),
        .ok .historical)
    else (m, .error ⟨.describe, m.target, e⟩)

/-- Prints the notice for a job in history. Records are printed without it. -/
def announce (r : Resolution) (records : Bool) (o : Output) : Output × Option OutputError :=
  if r = .historical ∧ !records then Output.send [historyNotice] o else (o, none)

end Resolution

end JobWatch
