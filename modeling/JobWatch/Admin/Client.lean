import JobWatch.Admin.Refusal
import JobWatch.Endpoint
import JobWatch.Feed.Stream

/-!
The two calls of the admin service, as functions of the answer that comes back.
-/

namespace JobWatch.Client

/-- What comes back from a request: an answer, or the reason why there is none. -/
abbrev Answer := Except AdminError Http.Response

def connectionRefused : AdminError := ⟨.network, "the connection was refused"⟩

def bodyCutShort : AdminError := ⟨.decode, "the body of the answer broke off"⟩

/-- The description of a job, whatever text it is. -/
def describe : Answer → Except AdminError String
  | .error e => .error e
  | .ok answer =>
    let r := answer.received
    if !r.isSuccess then .error (.ofResponse r)
    else if r.ending = .broken then .error bodyCutShort
    else .ok (String.ofList (Utf8.decodeLossy r.body))

/-- What the reader of a body sees. -/
def arrivals (r : Http.Response) : List Feed.Arrival :=
  .chunk r.body ::
    match r.ending with
    | .complete => [.close]
    | .broken => [.broken bodyCutShort]
    | .held => []

variable {σ : Type}

/-- The stream of a metrics call, before anything of its body is read. A call that is cancelled
before makes no request. -/
def opened (k : Feed.Sink σ) (s : σ) (answer : Answer) : Feed.Stream :=
  if k.isCancelled s then .ended (.error .operationCancelled)
  else
    match answer with
    | .error e => .ended (.error e)
    | .ok answer =>
      let r := answer.received
      if r.isSuccess then .reading {} else .ended (.error (.ofResponse r))

/-- What is read of the answer to a metrics call. -/
def body (answer : Answer) : List Feed.Arrival :=
  match answer with
  | .error _ => []
  | .ok r => arrivals r.received

/-- The metrics feed, as far as its answer goes: it has ended, or it waits for more. -/
def metrics (k : Feed.Sink σ) (maxLine : Nat) (s : σ) (answer : Answer) :
    σ × Feed.Stream :=
  Feed.steps k maxLine s (opened k s answer) (body answer)

/-- Whether the metrics call makes its request. -/
def asks (k : Feed.Sink σ) (s : σ) (answer : Answer) : Bool :=
  !k.isCancelled s && answer.isOk

end JobWatch.Client
