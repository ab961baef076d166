/-!
What goes wrong between the program and the admin service.
-/

namespace JobWatch

inductive AdminErrorKind where
  | invalidEndpoint
  | noSuchJob
  /-- A refusal with a code of the service. -/
  | api (status : Nat) (code : String)
  /-- A refusal whose body says nothing that can be read. -/
  | httpStatus (status : Nat)
  | timeout
  | network
  | decode
  /-- The feed ended without a final report. -/
  | unexpectedEof
  | cancelled
  deriving Repr, DecidableEq

def AdminErrorKind.text : AdminErrorKind → String
  | invalidEndpoint => "invalid endpoint"
  | noSuchJob => "no such job"
  | api status code => code ++ " (http status " ++ toString status ++ ")"
  | httpStatus status => "http status " ++ toString status
  | timeout => "timeout"
  | network => "network error"
  | decode => "malformed response"
  | unexpectedEof => "unexpected end of stream"
  | cancelled => "cancelled"

structure AdminError where
  kind : AdminErrorKind
  message : String
  deriving Repr, DecidableEq

namespace AdminError

/-- The code of the service for a job of which it has no active record. -/
def noSuchJobCode : String := "XMinioAdminNoSuchJob"

def text (e : AdminError) : String := e.kind.text ++ ": " ++ e.message

/-- The call was given up because the watch was cancelled. -/
def operationCancelled : AdminError := ⟨.cancelled, "operation cancelled"⟩

def isCancelled (e : AdminError) : Bool := e.kind = .cancelled

def isNoSuchJob (e : AdminError) : Bool := e.kind = .noSuchJob

end AdminError

/-- What the program was doing with the service. -/
inductive Operation where
  | describe
  | subscribe
  deriving Repr, DecidableEq

/-- A failure that ends the program: the operation, the target it was for, and the cause. -/
structure MonitorError where
  operation : Operation
  target : String
  cause : AdminError
  deriving Repr, DecidableEq

namespace MonitorError

def headline (e : MonitorError) : String :=
  match e.operation with
  | .describe => "Unable to lookup job status on " ++ e.target
  | .subscribe => "Unable to get current batch status on " ++ e.target

/-- The headline and its cause. -/
def text (e : MonitorError) : String := e.headline ++ ": " ++ e.cause.text

end MonitorError

end JobWatch
