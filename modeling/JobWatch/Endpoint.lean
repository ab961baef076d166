import JobWatch.Admin.Error
import JobWatch.Admin.Options
import JobWatch.Url

/-!
The endpoint of an admin service, and the requests made to it.
-/

namespace JobWatch

structure Endpoint where
  /-- A directory: its path ends with a slash. -/
  url : Url
  connectTimeoutSecs : Nat := 10
  /-- The longest line of the metrics feed. -/
  maxLineBytes : Nat := 8388608
  deriving Repr, DecidableEq

namespace Endpoint

/-- Reads an endpoint, its host with the given reader; only the web schemes will do. -/
def ofTextWith (readHost : Url.HostReader) (s : String) : Except AdminError Endpoint :=
  match Url.parse readHost s with
  | .error e => .error ⟨.invalidEndpoint, e.text⟩
  | .ok (.otherScheme scheme) => .error ⟨.invalidEndpoint, "unsupported scheme " ++ scheme⟩
  | .ok (.web u) => .ok { url := u.asDirectory }

def ofText (s : String) : Except AdminError Endpoint := ofTextWith Url.normalHost s

/-- The directory of the service's calls, below the endpoint. -/
def callPath : List String := ["minio", "admin", "v3"]

def describeUrl (e : Endpoint) (jobId : String) : Url :=
  (e.url.resource (callPath ++ ["describe-job"])).withForm [("jobId", jobId)]

def metricsUrl (e : Endpoint) (o : MetricsOptions) : Url :=
  (e.url.resource (callPath ++ ["metrics"])).withForm <|
    [("types", toString o.kind.bits), ("interval", o.intervalText)] ++
      (o.byJobId.toList.map fun id => ("by-jobID", id))

end Endpoint

end JobWatch
