import JobWatch.Proofs.Feed.Records
import JobWatch.Proofs.Program.Runs

/-!
What a run that writes records leaves on its output.

Nothing is written before the service has told that it knows of the job and has begun its feed. From
there on the output receives the records of the reports that have the job, up to the first report
that ends the run. A run whose feed ends before such a report fails.
-/

namespace JobWatch

namespace Reports

variable (jobId : String)

/-- Whether a report ends a run that writes records: it is the final one, or it stops the watch. -/
def ends (r : Report) : Bool := r.isFinal || (r.stop? jobId).isSome

/-- Of the reports up to the final one a watch takes those up to the first that ends its run. -/
lemma untilStop_through (rs : List Report) :
    untilStop jobId (Feed.through Report.isFinal rs) = Feed.through (ends jobId) rs := by
  rw [untilStop_eq_through, Feed.through_through]
  rfl

end Reports

open Reports

open Feed (any_through)

namespace Client

/-- Whether an answer to the question for a job tells that the service knows of it: it is a success,
or the refusal of a job that is not active. -/
def knows (d : Http.Response) : Bool :=
  d.isSuccess || (Refusal.ofBytes? d.received.body).any fun e =>
    decide (e.code = AdminError.noSuchJobCode)

end Client

namespace Program

open Feed (Transfer Reader collect reports)

/-- How a run looks from outside: the requests that were answered, what is on the output, and the
exit code. -/
structure Account.Shows (a : Account) (requests : List Url) (written : String) (code : Nat) :
    Prop where
  requests : a.requests = requests
  written : a.out.written = written
  code : a.ending.map exitCode = some code

variable {c : CommandLine} {s : Surroundings} {endpoint : Endpoint} {d m : Http.Response}

/-! ### Up to the feed -/

lemma received_status (r : Http.Response) : r.received.status = r.status := by
  rw [Http.Response.received]
  split <;> rfl

lemma received_success (r : Http.Response) : r.received.isSuccess = r.isSuccess := by
  rw [Http.Response.isSuccess, received_status, Http.Response.isSuccess]

lemma received_complete {r : Http.Response} (h : r.ending = .complete) :
    r.received.ending = .complete := by
  rw [Http.Response.received]
  split
  · exact h
  · rfl

lemma ofResponse_noSuchJob {r : Http.Response} (h : r.ending = .complete) :
    (AdminError.ofResponse r).isNoSuchJob =
      (Refusal.ofBytes? r.body).any fun e => decide (e.code = AdminError.noSuchJobCode) := by
  rw [AdminError.ofResponse, h, if_neg (by decide)]
  rcases Refusal.ofBytes? r.body with _ | e
  · rfl
  · dsimp only [Option.any]
    split
    · next h => simp [AdminError.isNoSuchJob, h]
    · next h => simp [AdminError.isNoSuchJob, h]

/-- A run goes on exactly if the service knows of the job. -/
lemma ofDescription_knows (h : d.ending = .complete) (m : Monitor) :
    (Resolution.ofDescription m (Client.describe (.ok d))).2.isOk = Client.knows d := by
  rw [Client.describe, Client.knows]
  simp only [received_success, received_complete h]
  cases d.isSuccess
  · rw [Bool.false_or, ← ofResponse_noSuchJob (received_complete h)]
    simp only [Bool.not_false, if_true, Resolution.ofDescription]
    cases (AdminError.ofResponse d.received).isNoSuchJob <;> rfl
  · rfl

lemma endpointOf_web (hweb : Configuration.isWebAddress c.target = true)
    (hendpoint : Endpoint.ofText c.target = .ok endpoint) :
    endpointOf c s.home s.files =
      match Configuration.load c.config s.home s.files with
      | .error e => ([], .error (.configuration e))
      | .ok (_, entries) => (entries, .ok endpoint) := by
  rw [endpointOf]
  rcases Configuration.load c.config s.home s.files with e | ⟨config, entries⟩
  · rfl
  · rw [Endpoint.ofText] at hendpoint
    simp only [Configuration.resolve, Configuration.resolveWith, hweb, hendpoint]
    rfl

section Begin

variable (hjson : c.json = true) (hweb : Configuration.isWebAddress c.target = true)
  (hendpoint : Endpoint.ofText c.target = .ok endpoint)
  (hd : s.get (endpoint.describeUrl c.jobId) = .ok d) (hdescribed : d.ending = .complete)

include hweb hendpoint

lemma begin_unloaded {e : Configuration.LoadError}
    (hload : Configuration.load c.config s.home s.files = .error e) :
    ∃ a, begin c s = .error a ∧ a.Shows [] s.out.written 1 := by
  rw [begin, endpointOf_web hweb hendpoint, hload]
  exact ⟨_, rfl, rfl, rfl, rfl⟩

variable {loaded : Configuration × List Journal.Entry}
  (hload : Configuration.load c.config s.home s.files = .ok loaded)

include hload hd hdescribed

lemma begin_unknown (hknows : Client.knows d = false) :
    ∃ a, begin c s = .error a ∧
      a.Shows [endpoint.describeUrl c.jobId] s.out.written 1 := by
  have hresolved := ofDescription_knows hdescribed (noteRequest
    { target := c.target, jobId := c.jobId, journal := loaded.2 } "describe-job"
    (endpoint.describeUrl c.jobId))
  rw [begin, endpointOf_web hweb hendpoint, hload]
  dsimp only
  rw [hd]
  rcases h : Resolution.ofDescription _ (Client.describe (.ok d)) with ⟨m, e | resolution⟩
  · exact ⟨_, rfl, rfl, rfl, rfl⟩
  · rw [h, hknows] at hresolved
    cases hresolved

include hjson

lemma begin_known (hknows : Client.knows d = true)
    (hm : s.get (endpoint.metricsUrl (.batchJob c.jobId)) = .ok m) :
    ∃ b, begin c s = .ok b ∧
      b.requests = [endpoint.describeUrl c.jobId, endpoint.metricsUrl (.batchJob c.jobId)] ∧
      b.out = s.out ∧ b.maxLine = endpoint.maxLineBytes ∧ b.answer = .ok m := by
  have hresolved := ofDescription_knows hdescribed (noteRequest
    { target := c.target, jobId := c.jobId, journal := loaded.2 } "describe-job"
    (endpoint.describeUrl c.jobId))
  have hquiet (resolution : Resolution) : resolution.announce true s.out = (s.out, none) := by
    cases resolution <;> rfl
  rw [begin, endpointOf_web hweb hendpoint, hload]
  dsimp only
  rw [hd, hm]
  rcases h : Resolution.ofDescription _ (Client.describe (.ok d)) with ⟨m, e | resolution⟩
  · rw [h, hknows] at hresolved
    cases hresolved
  · dsimp only
    rw [hjson, hquiet]
    exact ⟨_, rfl, rfl, rfl, rfl, rfl⟩

end Begin

/-! ### The feed -/

section Feed

variable (maxLine : Nat) {chunks : List (List UInt8)}

/-- The transfer of an answer that is complete. -/
lemma genuine_complete (hanswered : m.ending = .complete)
    (hchunks : chunks.flatten = m.received.body) : Genuine ⟨.ok m, chunks, .clean⟩ where
  refused := nofun
  body := by
    rintro r hr
    cases hr
    exact hchunks
  ends := by
    rintro r hr
    cases hr
    rw [received_complete hanswered]
    rfl

/-- An answer that is no success has nothing to deliver. -/
lemma rest_refused (hm : m.isSuccess = false) (chunks : List (List UInt8)) (close : Feed.Close) :
    (Reader.rest maxLine ⟨.ok m, chunks, close⟩ .asking).1 = [] ∧
      (Reader.rest maxLine ⟨.ok m, chunks, close⟩ .asking).2.isOk = false := by
  have hopened : Client.opened collect [] (.ok m) = .ended (.error (.ofResponse m.received)) := by
    rw [Reader.opened_eq]
    simp only [received_success, hm]
    rfl
  rw [Reader.rest, hopened, Feed.steps_ended]
  exact ⟨rfl, rfl⟩

/-- What a complete answer has to deliver, and how its stream ends. -/
lemma rest_success (hm : m.isSuccess = true) (chunks : List (List UInt8)) :
    (Reader.rest maxLine ⟨.ok m, chunks, .clean⟩ .asking).1 =
        Feed.through Report.isFinal (reports maxLine (Feed.pieces chunks.flatten)) ∧
      (Reader.rest maxLine ⟨.ok m, chunks, .clean⟩ .asking).2.isOk =
        (reports maxLine (Feed.pieces chunks.flatten)).any Report.isFinal := by
  have hopened : Client.opened collect [] (.ok m) = .reading {} := by
    rw [Reader.opened_eq]
    simp only [received_success, hm]
    rfl
  obtain ⟨r, hsteps, hkind⟩ :=
    Feed.steps_account collect maxLine (s := []) rfl chunks .clean
  rw [Feed.account_clean fun _ => rfl] at hsteps hkind
  rw [Reader.rest, hopened, Feed.arrivalsOf, hsteps, Feed.foldl_collect]
  refine ⟨rfl, ?_⟩
  show r.isOk = _
  rw [← Feed.Result.isOk_kind, hkind, Feed.isOk_outcome]

end Feed

lemma exitCode_ending (jobId target : String) (all : Left) :
    exitCode ((all.ending jobId target).mapError .monitor) =
      if (firstStop jobId all.1).isSome || all.2.isOk then 0 else 1 := by
  rw [Left.ending]
  cases (firstStop jobId all.1).isSome
  · rcases all.2 with e | u <;> rfl
  · rfl

/-! ### The whole run -/

/-- A run whose feed is followed into records. -/
lemma recordChunks_shows {b : Begun} {chunks : List (List UInt8)} {close : Feed.Close}
    (hb : begin c s = .ok b) (hout : b.out.lifetime = .unlimited)
    (h : Honest ⟨b.answer, chunks, close⟩) {told : Left}
    (htold : Reader.rest b.maxLine ⟨b.answer, chunks, close⟩ .asking = told) :
    (recordChunks c s chunks close).Shows b.requests
      (b.out.written ++ recordsOf c.jobId (untilStop c.jobId told.1))
      (if (firstStop c.jobId told.1).isSome || told.2.isOk then 0 else 1) := by
  obtain ⟨journal, hmonitor⟩ := begin_monitor hb
  have htarget : b.monitor.target = c.target := by rw [hmonitor]
  obtain ⟨w, hfinish, hroute, -⟩ := records_settled (begin_stands hb hout) htarget h b.maxLine
  rw [htold] at hfinish hroute
  rw [recordChunks_ok hb, hfinish]
  refine ⟨rfl, ?_, ?_⟩
  · dsimp only
    rw [account, hroute]
    rfl
  · rw [← exitCode_ending c.jobId c.target]
    rfl

/-- A run whose service knows of the job, in terms of what its answer has to deliver. -/
lemma run_known {loaded : Configuration × List Journal.Entry} (hjson : c.json = true)
    (hweb : Configuration.isWebAddress c.target = true)
    (hendpoint : Endpoint.ofText c.target = .ok endpoint) (hout : s.out.lifetime = .unlimited)
    (hquiet : s.interrupted = false)
    (hd : s.get (endpoint.describeUrl c.jobId) = .ok d) (hdescribed : d.ending = .complete)
    (hload : Configuration.load c.config s.home s.files = .ok loaded)
    (hknows : Client.knows d = true)
    (hm : s.get (endpoint.metricsUrl (.batchJob c.jobId)) = .ok m)
    (hanswered : m.ending = .complete) {chunks : List (List UInt8)}
    (hchunks : chunks.flatten = m.received.body) {told : Left}
    (htold : Reader.rest endpoint.maxLineBytes ⟨.ok m, chunks, .clean⟩ .asking = told) :
    recordChunks c s chunks .clean = run c s ∧
    (run c s).Shows [endpoint.describeUrl c.jobId, endpoint.metricsUrl (.batchJob c.jobId)]
      (s.out.written ++ recordsOf c.jobId (untilStop c.jobId told.1))
      (if (firstStop c.jobId told.1).isSome || told.2.isOk then 0 else 1) := by
  obtain ⟨b, hb, hrequests, hbout, hmax, hanswer⟩ :=
    begin_known hjson hweb hendpoint hd hdescribed hload hknows hm
  have hgenuine : Genuine ⟨.ok m, chunks, .clean⟩ := genuine_complete hanswered hchunks
  rw [← hanswer] at hgenuine htold
  rw [← hmax] at htold
  have hworks : b.out.lifetime = .unlimited := by rw [hbout, hout]
  have hrun := recordChunks_run hb hjson hquiet hworks hgenuine
  have hshows := recordChunks_shows hb hworks hgenuine.honest htold
  rw [hrun, hrequests, hbout] at hshows
  exact ⟨hrun, hshows⟩

lemma mem_recordsOf (jobId : String) (rs : List Report) :
    ∃ written : List Report, recordsOf jobId rs = String.join (written.map Report.line) ∧
      ∀ r ∈ written, (r.job? jobId).isSome ∧ '\n' ∉ r.text.toList := by
  refine ⟨_, rfl, fun r hr => ⟨(List.mem_filter.1 hr).2, fun hfeed => ?_⟩⟩
  rw [Report.toList_text] at hfeed
  exact absurd (r.value.chars_noControls _ hfeed) (by decide)

/-- **What a run that writes records comes to.** Its target is a web address, its output works, and
nobody interrupts it; the service answers both calls and closes every answer properly, the body of
the feed in any chunks.

If the configuration cannot be loaded the run fails before it asks for anything. If the service does
not know of the job, the run fails without having asked for the feed. If the service refuses the
feed, the run fails. In all these cases nothing is written.

Otherwise the output receives exactly the records of those reports of the feed that have the job, up
to the first report that ends the run; and the run succeeds exactly if there is such a report in
front of the first line that is too long or no report. Whatever happens, nothing but whole records
of the job is written, each on one line. -/
theorem run_writes_records (c : CommandLine) (s : Surroundings) (hjson : c.json = true)
    (hweb : Configuration.isWebAddress c.target = true)
    (hendpoint : Endpoint.ofText c.target = .ok endpoint) (hout : s.out.lifetime = .unlimited)
    (hquiet : s.interrupted = false)
    (hd : s.get (endpoint.describeUrl c.jobId) = .ok d) (hdescribed : d.ending = .complete)
    (hm : s.get (endpoint.metricsUrl (.batchJob c.jobId)) = .ok m)
    (hanswered : m.ending = .complete) (chunks : List (List UInt8))
    (hchunks : chunks.flatten = m.received.body) :
    recordChunks c s chunks .clean = run c s ∧
    (∀ e, Configuration.load c.config s.home s.files = .error e →
      (run c s).Shows [] s.out.written 1) ∧
    (∀ loaded, Configuration.load c.config s.home s.files = .ok loaded →
      (Client.knows d = false →
        (run c s).Shows [endpoint.describeUrl c.jobId] s.out.written 1) ∧
      (Client.knows d = true → m.isSuccess = false →
        (run c s).Shows
          [endpoint.describeUrl c.jobId, endpoint.metricsUrl (.batchJob c.jobId)]
          s.out.written 1) ∧
      (Client.knows d = true → m.isSuccess = true →
        (run c s).Shows
          [endpoint.describeUrl c.jobId, endpoint.metricsUrl (.batchJob c.jobId)]
          (s.out.written ++ recordsOf c.jobId (Feed.through (ends c.jobId)
            (reports endpoint.maxLineBytes (Feed.pieces m.received.body))))
          (if (reports endpoint.maxLineBytes (Feed.pieces m.received.body)).any (ends c.jobId)
            then 0 else 1))) ∧
    ∃ written : List Report,
      (run c s).out.written = s.out.written ++ String.join (written.map Report.line) ∧
      ∀ r ∈ written, (r.job? c.jobId).isSome ∧ '\n' ∉ r.text.toList := by
  have hnothing (h : (run c s).out.written = s.out.written) : ∃ written : List Report,
      (run c s).out.written = s.out.written ++ String.join (written.map Report.line) ∧
      ∀ r ∈ written, (r.job? c.jobId).isSome ∧ '\n' ∉ r.text.toList :=
    ⟨[], h.trans String.append_empty.symm, fun _ hr => absurd hr List.not_mem_nil⟩
  rcases hload : Configuration.load c.config s.home s.files with e | loaded
  · obtain ⟨a, hbegin, hshows⟩ := begin_unloaded hweb hendpoint hload
    have hrun : run c s = a := by rw [run_eq, hbegin]
    rw [← hrun] at hshows
    refine ⟨by rw [recordChunks, hbegin, hrun], fun _ _ => hshows, ?_, hnothing hshows.written⟩
    rintro _ ⟨⟩
  cases hknows : Client.knows d
  · obtain ⟨a, hbegin, hshows⟩ := begin_unknown hweb hendpoint hd hdescribed hload hknows
    have hrun : run c s = a := by rw [run_eq, hbegin]
    rw [← hrun] at hshows
    refine ⟨by rw [recordChunks, hbegin, hrun], ?_, fun _ _ => ⟨fun _ => hshows, ?_, ?_⟩,
      hnothing hshows.written⟩
    · rintro _ ⟨⟩
    all_goals rintro ⟨⟩
  · obtain ⟨hagrees, hshows⟩ := run_known hjson hweb hendpoint hout hquiet hd hdescribed hload
      hknows hm hanswered hchunks rfl
    refine ⟨hagrees, ?_, fun _ _ => ⟨?_, fun _ hrefused => ?_, fun _ hsuccess => ?_⟩, ?_⟩
    · rintro _ ⟨⟩
    · rintro ⟨⟩
    · obtain ⟨hnone, hfailed⟩ := rest_refused endpoint.maxLineBytes hrefused chunks .clean
      rw [hnone, hfailed] at hshows
      simpa [untilStop] using hshows
    · obtain ⟨htold, hok⟩ := rest_success endpoint.maxLineBytes hsuccess chunks
      rw [htold, hok, untilStop_through, isSome_firstStop, Bool.or_comm, any_through,
        hchunks] at hshows
      exact hshows
    · obtain ⟨written, hrecords, hwritten⟩ := mem_recordsOf c.jobId _
      exact ⟨written, hshows.written.trans (congrArg _ hrecords), hwritten⟩

/-- The job "j" at a service whose feed shows it running and then failed, and ends without a final
report and without a line feed. -/
def failingFeed : List UInt8 :=
  Utf8.encode ("\x7b\"aggregated\":\x7b\"batchJobs\":\x7b\"jobs\":\x7b\"j\":\x7b\x7d\x7d\x7d\x7d\x7d\n" ++
    "\x7b\"aggregated\":\x7b\"batchJobs\":\x7b\"jobs\":\x7b\"j\":\x7b\"failed\":true\x7d\x7d\x7d\x7d\x7d").toList

def failingService : CommandLine × Surroundings :=
  ({ target := "http://h", jobId := "j", json := true },
    { files := fun _ => .missing, get := fun _ => .ok ⟨200, failingFeed, .complete⟩ })

/-- The feed comes in two chunks that break within a report; the job has failed, the run has not. -/
theorem run_writes_records_failing :
    recordChunks failingService.1 failingService.2 [failingFeed.take 60, failingFeed.drop 60]
        .clean = run failingService.1 failingService.2 ∧
      (run failingService.1 failingService.2).out.written =
        (Report.ofJob "j" {} .epoch).line ++ (Report.ofJob "j" { failed := true } .epoch).line ∧
      (run failingService.1 failingService.2).ending.map exitCode = some 0 := by
  obtain ⟨endpoint, hendpoint, hmax⟩ : ∃ e, Endpoint.ofText failingService.1.target = .ok e ∧
      e.maxLineBytes = 8388608 := ⟨_, rfl, rfl⟩
  have htold : reports 8388608 (Feed.pieces failingFeed) =
      [.ofJob "j" {} .epoch, .ofJob "j" { failed := true } .epoch] := by decide +kernel
  obtain ⟨loaded, hload⟩ : ∃ loaded, Configuration.load failingService.1.config
      failingService.2.home failingService.2.files = .ok loaded := ⟨_, rfl⟩
  obtain ⟨hchunks, -, hloaded, -⟩ := run_writes_records failingService.1 failingService.2 rfl
    (by decide) hendpoint rfl rfl rfl rfl rfl rfl [failingFeed.take 60, failingFeed.drop 60]
    (by simp [Http.Response.received, Http.Response.hasBody])
  have hshows := (hloaded loaded hload).2.2 rfl rfl
  have hbody : Http.Response.body (Http.Response.received ⟨200, failingFeed, .complete⟩) =
      failingFeed := rfl
  have hthrough : Feed.through (ends "j")
      [.ofJob "j" {} .epoch, .ofJob "j" { failed := true } .epoch] =
        [.ofJob "j" {} .epoch, .ofJob "j" { failed := true } .epoch] := rfl
  have hjob (x : Snapshot) : ((Report.ofJob "j" x .epoch).job? "j").isSome = true := rfl
  have hrecords : recordsOf failingService.1.jobId
      [.ofJob "j" {} .epoch, .ofJob "j" { failed := true } .epoch] =
        (Report.ofJob "j" {} .epoch).line ++ (Report.ofJob "j" { failed := true } .epoch).line := by
    rw [failingService, recordsOf_cons, recordsOf_cons, recordsOf_nil, String.append_empty,
      if_pos (hjob _), if_pos (hjob _)]
  rw [hmax, hbody, htold] at hshows
  refine ⟨hchunks, ?_, hshows.code⟩
  exact hshows.written.trans ((String.empty_append).trans ((congrArg _ hthrough).trans hrecords))

end Program

end JobWatch
