import JobWatch.Endpoint
import JobWatch.Proofs.Binary64
import JobWatch.Proofs.Url.Path

/-!
The requests to an endpoint keep its path, and nothing in a job id gets out of their query.
-/

namespace JobWatch

/-! ### Directories -/

namespace Url

variable {u : Url}

lemma isDirectory_asDirectory (u : Url) : u.asDirectory.isDirectory = true := by
  rw [asDirectory]
  split
  · next h => exact h
  · rw [isDirectory, decide_eq_true_eq]
    exact List.getLast?_concat

lemma segments_directory (hdir : u.isDirectory = true) :
    u.segments = u.segments.dropLast ++ [[]] := by
  rw [isDirectory, decide_eq_true_eq] at hdir
  obtain ⟨front, hfront⟩ := List.getLast?_eq_some_iff.1 hdir
  rw [hfront, List.dropLast_concat]

/-- The path of a resource is that of its directory, with the names behind it. -/
lemma path_resource (hdir : u.isDirectory = true) {names : List String} (hne : names ≠ []) :
    (u.resource names).path = u.path ++ ['/'].intercalate (names.map String.toList) := by
  have hnames : names.map String.toList ≠ [] := by simpa using hne
  have hpath : u.path = u.segments.dropLast.flatMap ('/' :: ·) ++ ['/'] := by
    rw [path, segments_directory hdir, List.flatMap_append, List.flatMap_singleton,
      List.dropLast_concat]
  rw [resource, path, List.flatMap_append, flatMap_slash hnames, hpath, List.append_assoc]
  rfl

lemma HasPath.resource (hu : u.HasPath) {names : List String} (hne : names ≠ [])
    (hnames : ∀ name ∈ names, IsSegment name.toList) : (u.resource names).HasPath := by
  refine ⟨by simp [Url.resource, hne], List.forall_mem_append.2 ⟨fun s hs => ?_, ?_⟩⟩
  · exact hu.2 s (List.dropLast_subset _ hs)
  · exact List.forall_mem_map.2 hnames

end Url

/-! ### The interval -/

namespace MetricsOptions

open Binary64 (Representable)

/-- An interval of whole seconds is asked for exactly. -/
theorem interval_of_seconds {o : MetricsOptions} {n : Nat} (hn : n < 2 ^ 53)
    (h : o.intervalNanos = n * 1000000000) :
    o.interval.value = n ∧ o.intervalMillis = n * 1000 := by
  have hwhole : o.intervalNanos / 1000000000 = n := by omega
  have hrest : o.intervalNanos % 1000000000 = 0 := by omega
  have hexact : Representable (n : ℚ) := ⟨n, 0, hn, by decide, by simp⟩
  have hunit : (Binary64.ofNat 1000000000).value = 1000000000 := by
    exact_mod_cast Binary64.value_ofNat (n := 1000000000) (by decide)
  have hnone : (Binary64.ofNat 0).value = 0 := by
    exact_mod_cast Binary64.value_ofNat (n := 0) (by decide)
  -- nothing is left below a second
  have hquotient : (Binary64.ofNat 0).value / (Binary64.ofNat 1000000000).value = 0 := by
    rw [hnone, zero_div]
  have hnothing : Representable 0 := ⟨0, 0, by decide, by decide, by simp⟩
  have hzero : ((Binary64.ofNat 0).div (.ofNat 1000000000)).value = 0 := by
    rw [Binary64.value_div (by rw [hunit]; norm_num) (hquotient.symm ▸ hnothing), hquotient]
  refine ⟨?_, by rw [intervalMillis, h]; omega⟩
  rw [interval, hwhole, hrest, Binary64.value_add, hzero, Binary64.value_ofNat hn, add_zero]
  rwa [hzero, Binary64.value_ofNat hn, add_zero]

end MetricsOptions

/-! ### Requests -/

namespace Endpoint

open Url (HostReader)

variable {readHost : HostReader} {e : Endpoint}

/-- A call is reached by two references: to the directory of the calls, and to its name there. -/
lemma join_call (readHost : HostReader) (u : Url) {name : String}
    (hclean : Url.clean name.toList = name.toList) (hscheme : Url.scheme? name.toList = none)
    (hne : name.toList ≠ []) (hname : Url.IsSegment name.toList) :
    ∃ base, u.join readHost "minio/admin/v3/" = .ok (.web base) ∧
      base.join readHost name = .ok (.web (u.resource (callPath ++ [name]))) := by
  have hcalls := Url.join_names readHost u (s := "minio/admin/v3/") "minio".toList
    ["admin".toList, "v3".toList, []] (by decide) (by decide) (by decide) (by decide)
  refine ⟨_, hcalls, ?_⟩
  rw [Url.join_names readHost _ name.toList [] (by simpa using hclean) (by simpa using hscheme) hne
    (List.forall_mem_singleton.2 hname)]
  simp [Url.resource, callPath]

/-- A request for a call of the admin service, asked with a form. Its URL is that of the reference
at the endpoint; it has the endpoint's scheme, user, host and port; its path is the endpoint's with
the call behind it; it has no fragment; and its query, which is parted from the path where it was
joined, tells the pairs of the form. -/
structure IsRequest (readHost : HostReader) (e : Endpoint) (name : String)
    (pairs : List (String × String)) (u : Url) : Prop where
  joined : ∃ base r, e.url.join readHost "minio/admin/v3/" = .ok (.web base) ∧
    base.join readHost name = .ok (.web r) ∧ u = r.withForm pairs
  origin : u.scheme = e.url.scheme ∧ u.userinfo = e.url.userinfo ∧ u.host = e.url.host ∧
    u.port = e.url.port
  path : u.path = e.url.path ++ ("minio/admin/v3/" ++ name).toList
  fragment : u.fragment = none
  query : ∃ q, u.query = some q ∧ Url.formPairs q = pairs ∧
    Url.splitTail u.target = (u.path, some q, none)
  text : u.chars = e.url.origin ++ u.target

lemma isRequest (hpath : e.url.HasPath) (hdir : e.url.isDirectory = true) (name : String)
    (hclean : Url.clean name.toList = name.toList) (hscheme : Url.scheme? name.toList = none)
    (hne : name.toList ≠ []) (hname : Url.IsSegment name.toList)
    (pairs : List (String × String)) :
    IsRequest readHost e name pairs ((e.url.resource (callPath ++ [name])).withForm pairs) where
  joined := by
    obtain ⟨base, hbase, hcall⟩ := join_call readHost e.url hclean hscheme hne hname
    exact ⟨base, _, hbase, hcall, rfl⟩
  origin := ⟨rfl, rfl, rfl, rfl⟩
  path := by
    have hcalls : ['/'].intercalate ((callPath ++ [name]).map String.toList) =
        ("minio/admin/v3/" ++ name).toList := by
      simp [callPath, List.intercalate_cons_cons]
    rw [← hcalls]
    exact Url.path_resource hdir (by simp)
  fragment := rfl
  query := by
    refine ⟨_, rfl, Url.formPairs_formText pairs, Url.splitTail_query (fun c hc => ?_) ?_⟩
    · have hcalls : ∀ n ∈ callPath, Url.IsSegment n.toList := by decide
      have hnames : ∀ n ∈ callPath ++ [name], Url.IsSegment n.toList :=
        List.forall_mem_append.2 ⟨hcalls, List.forall_mem_singleton.2 hname⟩
      exact Url.mem_path (hpath.resource (by simp) hnames) hc
    · rintro q ⟨⟩ hhash
      exact absurd (Url.mem_formText hhash) (by decide)
  text := List.append_nil _

lemma metricsUrl_batchJob (e : Endpoint) (jobId : String) :
    e.metricsUrl (.batchJob jobId) = (e.url.resource (callPath ++ ["metrics"])).withForm
      [("types", "8"), ("interval", "1s"), ("by-jobID", jobId)] := by
  -- The interval does not depend on the job.
  have hone : (MetricsOptions.batchJob "").intervalText = "1s" := by decide +kernel
  have hinterval : (MetricsOptions.batchJob jobId).intervalText = "1s" := hone
  have hbits : toString (MetricsOptions.batchJob jobId).kind.bits = "8" := by
    show toString 8 = "8"
    decide
  rw [metricsUrl, hinterval, hbits]
  rfl

/-- **Requests keep the endpoint's path, and a job id stays in their query.** An endpoint that is
read from a text has the text's scheme, which is one of the web, and the URL of the text with a
slash at the end of its path. Its requests ask for the admin service's calls below that path, with
a form that tells the job id as it is. -/
theorem requests_of_text (readHost : HostReader) {s : String}
    (h : ofTextWith readHost s = .ok e) (jobId : String) :
    (∃ u rest, Url.parse readHost s = .ok (.web u) ∧
      Url.scheme? (Url.clean s.toList) = some (e.url.scheme, rest) ∧
      e.url.scheme ∈ ["http", "https"] ∧
      e.url = { u with segments := Url.segmentsOf (Url.slashed u.path) } ∧
      e.url.path = Url.slashed u.path ∧ e.url.path.getLast? = some '/') ∧
    IsRequest readHost e "describe-job" [("jobId", jobId)] (e.describeUrl jobId) ∧
    IsRequest readHost e "metrics" [("types", "8"), ("interval", "1s"), ("by-jobID", jobId)]
      (e.metricsUrl (.batchJob jobId)) := by
  rw [ofTextWith] at h
  split at h
  · cases h
  · cases h
  next u hu =>
  cases h
  obtain ⟨hpath, rest, hscheme⟩ := Url.parse_eq_web hu
  have hdir := Url.isDirectory_asDirectory u
  refine ⟨⟨u, rest, hu, ?_, ?_, Url.asDirectory_eq hpath, Url.path_asDirectory hpath,
    (Url.getLast?_path hpath.asDirectory).2 hdir⟩, ?_, ?_⟩
  · rw [Url.asDirectory_eq hpath]
    exact hscheme
  · rw [Url.scheme]
    split <;> simp
  · exact isRequest (e := { url := u.asDirectory }) hpath.asDirectory hdir "describe-job"
      (by decide) (by decide) (by decide) (by decide) _
  · rw [metricsUrl_batchJob]
    exact isRequest (e := { url := u.asDirectory }) hpath.asDirectory hdir "metrics"
      (by decide) (by decide) (by decide) (by decide) _

/-- An endpoint with a query and a fragment, and a job id with the marks of a form. -/
theorem requests_of_text_marked :
    ∃ e, ofTextWith Url.normalHost "https://minio.example.com:9000/base?x=1#f" = .ok e ∧
      (e.describeUrl "a&b=c #é").text = "https://minio.example.com:9000/base/minio/admin/v3/" ++
        "describe-job?jobId=a%26b%3Dc+%23%C3%A9" ∧
      IsRequest Url.normalHost e "describe-job" [("jobId", "a&b=c #é")]
        (e.describeUrl "a&b=c #é") := by
  have hread : ofTextWith Url.normalHost "https://minio.example.com:9000/base?x=1#f" =
      .ok { url := ⟨true, [], "minio.example.com".toList, some 9000, ["base".toList, []],
        some "x=1".toList, some "f".toList⟩ } := by decide +kernel
  exact ⟨_, hread, by decide +kernel, (requests_of_text Url.normalHost hread _).2.1⟩

end Endpoint

end JobWatch
