import JobWatch.Program
import JobWatch.Proofs.Feed.Reader
import JobWatch.Proofs.Session.Outcome

/-!
Runs of the program.

A run goes as far as its feed whatever mode it is in. From there the one mode follows the feed into
records, and in the other feed and display take turns. What the feed has to deliver, and how it
ends, settle how either of them ends.
-/

namespace JobWatch

open Reports

/-! ### What a feed settles -/

section Settled

variable (jobId target : String) (all : Left)

/-- The failure of a feed counts unless a report stops the watch. -/
def Left.ending : Except MonitorError Unit :=
  if (firstStop jobId all.1).isSome then .ok () else news target all.2

/-- The reason of the first report that stops the watch, or that of the end of the feed. -/
def Left.reason : StopReason :=
  (firstStop jobId all.1).getD
    (match all.2 with
    | .ok () => .feedClosed
    | .error _ => .shutdown)

variable {jobId all}

lemma Left.ending_stopped {reason : StopReason} (h : firstStop jobId all.1 = some reason) :
    all.ending jobId target = .ok () := by
  rw [Left.ending, h]
  rfl

lemma Left.reason_stopped {reason : StopReason} (h : firstStop jobId all.1 = some reason) :
    all.reason jobId = reason := by
  rw [Left.reason, h]
  rfl

lemma Left.ending_running (h : firstStop jobId all.1 = none) :
    all.ending jobId target = news target all.2 := by
  rw [Left.ending, h]
  rfl

lemma Left.reason_running (h : firstStop jobId all.1 = none) :
    all.reason jobId =
      match all.2 with
      | .ok () => .feedClosed
      | .error _ => .shutdown := by
  rw [Left.reason, h]
  rfl

end Settled

/-- A monitor that is left as its feed settles. -/
structure Monitor.Settled (jobId : String) (all : Left) (m : Monitor) : Prop where
  reason : m.reason = some (all.reason jobId)
  latest : m.latest = lastJob jobId (untilStop jobId all.1)

namespace Interplay

variable {φ : Type} {rest : φ → Left} {jobId target : String} {all : Left} {theme : Theme}
  {out : Output} {x : Interplay φ}

/-- **A session ends as its feed settles**, on an output that never fails. -/
theorem Orderly.settled (hout : out.lifetime = .unlimited)
    (h : x.Orderly jobId target all rest theme out) (hreturned : x.display = .returned) :
    x.session.verdict = some ((all.ending jobId target).mapError .feed) ∧
      x.monitor.Settled jobId all := by
  have hlatest := h.latest hreturned
  rcases hstop : firstStop jobId all.1 with _ | reason
  · have hreason' := Left.reason_running hstop
    rw [Left.ending_running target hstop]
    rcases hresult : all.2 with e | u <;> rw [hresult] at hreason'
    · obtain ⟨hverdict, hreason⟩ := h.returned_failed hreturned hout hstop hresult
      exact ⟨hverdict, hreason.trans (congrArg some hreason'.symm), hlatest⟩
    · obtain ⟨hverdict, hreason, -⟩ := h.returned_closed hreturned hout hstop hresult
      exact ⟨hverdict, hreason.trans (congrArg some hreason'.symm), hlatest⟩
  · obtain ⟨hverdict, hreason, -⟩ := h.returned_stopped hreturned hout hstop
    rw [Left.ending_stopped target hstop]
    exact ⟨hverdict, hreason.trans (congrArg some (Left.reason_stopped hstop).symm), hlatest⟩

end Interplay

namespace Program

open Feed (Transfer Reader collect arrivalsOf)

/-! ### Following the feed into records -/

lemma sink_drops : sink.Drops := fun _ r hs => Watch.deliver_stopped hs r

lemma foldl_arrivals (maxLine : Nat) (w : Watch) (st : Feed.Stream) (as : List Feed.Arrival) :
    (as.map Event.arrival).foldl (recordsStep maxLine) (w, st) =
      Feed.steps sink maxLine w st as := by
  induction as generalizing w st with
  | nil => rfl
  | cons a as ih => exact ih _ _

/-- How the bytes of a body end, unless the connection stays open for ever. -/
def closeOf : Http.Ending → Option Feed.Close
  | .complete => some .clean
  | .broken => some (.broken Client.bodyCutShort)
  | .held => none

/-- The answer of the service is not taken for a cancel. If it has a body, that comes in these
chunks, and it ends as they do. -/
structure Genuine (t : Transfer) : Prop where
  refused : ∀ e, t.answer = .error e → e.isCancelled = false
  body : ∀ r, t.answer = .ok r → t.chunks.flatten = r.received.body
  ends : ∀ r, t.answer = .ok r → closeOf r.received.ending = some t.close

lemma ofResponse_running (r : Http.Response) : (AdminError.ofResponse r).isCancelled = false := by
  rw [AdminError.ofResponse]
  split
  · split <;> rfl
  · rfl

variable {t : Transfer} {maxLine : Nat}

lemma Genuine.flatten (h : Genuine t) : Genuine ⟨t.answer, [t.chunks.flatten], t.close⟩ where
  refused := h.refused
  body := by
    intro r hr
    rw [List.flatten_singleton]
    exact h.body r hr
  ends := h.ends

lemma Genuine.arrivals (h : Genuine t) {r : Http.Response} (hr : t.answer = .ok r) :
    Client.arrivals r.received = [.chunk t.chunks.flatten, t.close.arrival] := by
  have hends := h.ends r hr
  rw [Client.arrivals, h.body r hr]
  cases hending : r.received.ending <;> rw [hending] at hends
  · rw [← Option.some.inj hends]
    rfl
  · rw [← Option.some.inj hends]
    rfl
  · cases hends

lemma Genuine.close (h : Genuine t) {r : Http.Response} (hr : t.answer = .ok r) :
    ∀ e, t.close = .broken e → e.isCancelled = false := by
  intro e he
  have hends := h.ends r hr
  rw [he] at hends
  cases hending : r.received.ending <;> rw [hending] at hends <;> cases hends
  rfl

/-- It does not matter in which chunks a body comes. -/
lemma steps_opened {σ : Type} {k : Feed.Sink σ} {w : σ} (hw : k.isCancelled w = false)
    (answer : Client.Answer) (close : Feed.Close) {chunks chunks' : List (List UInt8)}
    (hchunks : chunks'.flatten = chunks.flatten) :
    Feed.steps k maxLine w (Client.opened k w answer) (arrivalsOf chunks' close) =
      Feed.steps k maxLine w (Client.opened k w answer) (arrivalsOf chunks close) := by
  rw [Reader.opened_running hw]
  rcases Reader.opened_cases answer with hopened | ⟨r, hopened⟩
  · rw [hopened, Feed.steps_flatten hw, Feed.steps_flatten hw chunks, hchunks]
  · rw [hopened, Feed.steps_ended, Feed.steps_ended]

/-- What is read of an answer is what the transfer brings. -/
lemma Genuine.steps_body (h : Genuine t) {σ : Type} {k : Feed.Sink σ} {w : σ}
    (hw : k.isCancelled w = false) :
    Feed.steps k maxLine w (Client.opened k w t.answer) (Client.body t.answer) =
      Feed.steps k maxLine w (Client.opened k w t.answer) (arrivalsOf t.chunks t.close) := by
  rcases hanswer : t.answer with e | answer
  · rw [Reader.opened_running hw, Reader.opened_eq, Feed.steps_ended, Feed.steps_ended]
  · rw [Client.body, h.arrivals hanswer]
    exact steps_opened hw (.ok answer) t.close List.flatten_singleton

/-- No failure of the service is taken for a cancel. -/
structure Honest (t : Transfer) : Prop where
  refused : ∀ e, t.answer = .error e → e.isCancelled = false
  broken : ∀ r, t.answer = .ok r → ∀ e, t.close = .broken e → e.isCancelled = false

lemma Genuine.honest (h : Genuine t) : Honest t := ⟨h.refused, fun _ => h.close⟩

/-- A call that nobody cancels does not end as a cancelled one. -/
lemma Honest.running (h : Honest t) {e : AdminError}
    (he : (Reader.rest maxLine t .asking).2 = .error e) : e.isCancelled = false := by
  have hopened := Reader.opened_eq t.answer
  rw [Reader.rest, hopened] at he
  rcases hanswer : t.answer with e' | answer <;> rw [hanswer] at he
  · rw [Feed.steps_ended] at he
    cases he
    exact h.refused e hanswer
  · dsimp only at he
    split at he
    · exact Feed.result_running (h.broken answer hanswer) _ he
    · rw [Feed.steps_ended] at he
      cases he
      exact ofResponse_running _

/-- At the end of what arrives the watch has been given the reports of the feed, and unless one of
them has stopped it the stream has ended as it had to. -/
lemma steps_arrivals {w : Watch} (t : Transfer) (hw : w.isCancelled = false) :
    ∃ r, Feed.steps sink maxLine w (Client.opened sink w t.answer) (arrivalsOf t.chunks t.close) =
        ((Reader.rest maxLine t .asking).1.foldl Watch.deliver w, .ended r) ∧
      (((Reader.rest maxLine t .asking).1.foldl Watch.deliver w).isCancelled = false →
        r = (Reader.rest maxLine t .asking).2) := by
  have hopened : Client.opened sink w t.answer = Client.opened collect [] t.answer :=
    Reader.opened_running hw _
  have hmatches : Feed.Matches sink w
      (Feed.steps sink maxLine w (Client.opened sink w t.answer) (arrivalsOf t.chunks t.close))
      (Feed.steps collect maxLine [] (Client.opened collect [] t.answer)
        (arrivalsOf t.chunks t.close)) := by
    have hbegun : Feed.Matches sink w (w, Client.opened collect [] t.answer)
        ([], Client.opened collect [] t.answer) := ⟨rfl, fun _ => rfl⟩
    rw [hopened]
    exact hbegun.steps sink_drops _
  have hended : (Feed.steps sink maxLine w (Client.opened sink w t.answer)
      (arrivalsOf t.chunks t.close)).2 = .ended _ := Feed.steps_close ..
  refine ⟨_, Prod.ext hmatches.state hended, fun hrunning => ?_⟩
  have hstate := hmatches.state
  rw [Reader.rest, Reader.settle, hmatches.stream (by rw [hstate]; exact hrunning)]

lemma foldl_target (rs : List Report) (w : Watch) :
    (rs.foldl Watch.deliver w).monitor.target = w.monitor.target := by
  induction rs generalizing w with
  | nil => rfl
  | cons r rs ih =>
    rw [List.foldl_cons, ih]
    exact Watch.deliver_target w r

/-- A cancel changes no more than the cancellation; the first reason stays. -/
lemma cancel_settles (m : Monitor) (reason : StopReason) :
    (m.cancel reason).reason = m.reason.or (some reason) ∧
      (m.cancel reason).latest = m.latest := by
  obtain ⟨journal, hcancel⟩ := m.cancel_changes reason
  rw [hcancel]
  exact ⟨rfl, rfl⟩

lemma finish_closed (w : Watch) :
    (w.finish (.ok ())).1.monitor.reason = w.monitor.reason.or (some .feedClosed) ∧
      (w.finish (.ok ())).1.monitor.latest = w.monitor.latest :=
  cancel_settles (w.note .info .subscriber
    ("metrics feed for job " ++ w.monitor.jobId ++ " closed by server")).monitor .feedClosed

/-- A failure of the feed changes nothing of the monitor but its journal. -/
lemma finish_failed (w : Watch) (e : AdminError) :
    (w.finish (.error e)).1.monitor.reason = w.monitor.reason ∧
      (w.finish (.error e)).1.monitor.latest = w.monitor.latest := by
  obtain ⟨journal, hfinish⟩ := Watch.finish_error_eq w e
  rw [hfinish]
  exact ⟨rfl, rfl⟩

/-- The end of a feed whose reports a watch was given, up to the takedown of the run. -/
lemma finish_settles {w : Watch} {jobId target written : String} {working : Bool} {all : Left}
    {latest : Option Snapshot} (hw : w.Stands jobId working written latest (firstStop jobId all.1))
    (htarget : w.monitor.target = target) {r : Feed.Result}
    (hr : w.isCancelled = false → r = all.2)
    (hall : ∀ e, all.2 = .error e → e.isCancelled = false) :
    (w.finish r).2 = all.ending jobId target ∧
      (w.finish r).1.monitor.reason.or (some .shutdown) = some (all.reason jobId) ∧
      (w.finish r).1.monitor.latest = latest := by
  have hcancelled := hw.isCancelled
  have hreason : w.monitor.reason = firstStop jobId all.1 := by
    rw [Monitor.reason, hw.cancellation]
  rcases hstop : firstStop jobId all.1 with _ | reason
  · rw [hstop] at hcancelled hreason
    obtain rfl : r = all.2 := hr hcancelled
    rw [Left.ending, Left.reason, hstop]
    rcases hresult : all.2 with e | u
    · obtain ⟨hkept, hlatest⟩ := finish_failed w e
      rw [Interplay.finish_running (hall e hresult) hcancelled, hkept, hreason, htarget]
      exact ⟨rfl, rfl, hlatest.trans hw.latest⟩
    · obtain ⟨hclosed, hlatest⟩ := finish_closed w
      rw [hclosed, hreason]
      exact ⟨rfl, rfl, hlatest.trans hw.latest⟩
  · rw [hstop] at hcancelled hreason
    rw [Left.ending, Left.reason, hstop]
    rcases r with e | u
    · obtain ⟨hkept, hlatest⟩ := finish_failed w e
      rw [Interplay.finish_stopped hcancelled, hkept, hreason]
      exact ⟨rfl, rfl, hlatest.trans hw.latest⟩
    · obtain ⟨hclosed, hlatest⟩ := finish_closed w
      rw [hclosed, hreason]
      exact ⟨rfl, rfl, hlatest.trans hw.latest⟩

/-- The end of the feed writes nothing. -/
lemma finish_route (w : Watch) (r : Feed.Result) : (w.finish r).1.route = w.route := by
  rcases r with e | u
  · rw [Watch.finish]
    split <;> rfl
  · rfl

/-- A run that writes records ends as its feed settles, with the records of the reports it took. -/
lemma records_settled {w : Watch} {jobId target written : String} {working : Bool}
    (hw : w.Stands jobId working written none none) (htarget : w.monitor.target = target)
    (h : Honest t) (maxLine : Nat) :
    ∃ w', finishRecords (Feed.steps sink maxLine w (Client.opened sink w t.answer)
          (arrivalsOf t.chunks t.close)) =
        (w', some ((Left.ending jobId target (Reader.rest maxLine t .asking)).mapError .monitor)) ∧
      w'.route = .records (Watch.outputWith (written ++ if working then
        recordsOf jobId (untilStop jobId (Reader.rest maxLine t .asking).1) else "") working) ∧
      w'.monitor.Settled jobId (Reader.rest maxLine t .asking) := by
  obtain ⟨r, hsteps, hresult⟩ := steps_arrivals t hw.isCancelled
  have hgiven := hw.foldl (Reader.rest maxLine t .asking).1
  rw [Option.or_none] at hgiven
  obtain ⟨hending, hreason, hlatest⟩ := finish_settles hgiven ((foldl_target _ w).trans htarget)
    hresult fun e => h.running
  rw [hsteps, ← hending]
  refine ⟨_, rfl, ?_, ?_, ?_⟩
  · exact (finish_route _ r).trans hgiven.route
  · exact (cancel_settles _ .shutdown).1.trans hreason
  · exact (cancel_settles _ .shutdown).2.trans hlatest

/-! ### A run up to its feed -/

/-- A run that has come to its feed. -/
structure Begun where
  monitor : Monitor
  requests : List Url
  out : Output
  maxLine : Nat
  /-- The answer to the metrics call. -/
  answer : Client.Answer

/-- A run up to its feed, or its account if it ends before. -/
def begin (c : CommandLine) (s : Surroundings) : Except Account Begun :=
  let m : Monitor := { target := c.target, jobId := c.jobId }
  match endpointOf c s.home s.files with
  | (entries, .error e) =>
    .error (account c [] { m with journal := entries } s.out (some (.error e)))
  | (entries, .ok endpoint) =>
    let m := { m with journal := entries }
    let request := endpoint.describeUrl c.jobId
    let answer := s.get request
    let requests := if answer.isOk then [request] else []
    let m := noteRequest m "describe-job" request
    match Resolution.ofDescription m (Client.describe answer) with
    | (m, .error e) => .error (account c requests m s.out (some (.error (.monitor e))))
    | (m, .ok resolution) =>
      match resolution.announce c.json s.out with
      | (out, some e) => .error (account c requests m out (some (.error (.announcement e))))
      | (out, none) =>
        let request := endpoint.metricsUrl (.batchJob c.jobId)
        let answer := s.get request
        let requests := if answer.isOk then requests ++ [request] else requests
        .ok ⟨noteRequest m "metrics" request, requests, out, endpoint.maxLineBytes, answer⟩

/-- The feed is followed into records. -/
def Begun.records (c : CommandLine) (s : Surroundings) (b : Begun) : Account :=
  let (w, ending) :=
    followRecords b.maxLine b.answer (s.events b.answer) ⟨b.monitor, .records b.out⟩
  account c b.requests w.monitor (w.route.output.getD b.out) ending

/-- The feed is followed by the display, which takes what is there after every arrival. -/
def Begun.display (c : CommandLine) (s : Surroundings) (b : Begun) : Account :=
  let d := Session.start b.monitor (screen c s.terminal b.out)
  let (d, ending) := followDisplay b.maxLine b.answer (s.events b.answer) d
  account c b.requests d.watch.monitor d.screen.live.out ending

theorem run_eq (c : CommandLine) (s : Surroundings) :
    run c s =
      match begin c s with
      | .error a => a
      | .ok b => if c.json then b.records c s else b.display c s := by
  rw [run, begin]
  rcases endpointOf c s.home s.files with ⟨entries, e | endpoint⟩
  · rfl
  · dsimp only
    rcases Resolution.ofDescription _ _ with ⟨m, e | resolution⟩
    · rfl
    · dsimp only
      rcases resolution.announce c.json s.out with ⟨out, _ | e⟩ <;> rfl

lemma ofDescription_monitor (m : Monitor) (d : Except AdminError String) :
    ∃ journal, (Resolution.ofDescription m d).1 = { m with journal } := by
  rcases d with e | raw
  · rw [Resolution.ofDescription]
    split
    · exact ⟨_, rfl⟩
    · exact ⟨m.journal, rfl⟩
  · exact ⟨_, rfl⟩

/-- A feed begins with a watch that runs. -/
lemma begin_monitor {c : CommandLine} {s : Surroundings} {b : Begun} (h : begin c s = .ok b) :
    ∃ journal, b.monitor = { target := c.target, jobId := c.jobId, journal } := by
  rw [begin] at h
  rcases hendpoint : endpointOf c s.home s.files with ⟨entries, e | endpoint⟩
  · rw [hendpoint] at h
    cases h
  · rw [hendpoint] at h
    dsimp only at h
    rcases hresolved : Resolution.ofDescription _ _ with ⟨m, e | resolution⟩
    · rw [hresolved] at h
      cases h
    · obtain ⟨journal, hm⟩ := ofDescription_monitor _ _
      rw [hresolved] at h hm
      dsimp only at h hm
      rcases hannounced : resolution.announce c.json s.out with ⟨out, _ | e⟩
      · rw [hannounced] at h
        cases h
        rw [hm]
        exact ⟨_, rfl⟩
      · rw [hannounced] at h
        cases h

lemma announce_unlimited {out : Output} (hout : out.lifetime = .unlimited) (r : Resolution)
    (records : Bool) :
    ∃ out', r.announce records out = (out', none) ∧ out'.lifetime = .unlimited := by
  rw [Resolution.announce]
  split
  · simp only [Output.send, Output.write_unlimited hout]
    rw [Output.flush_unlimited (by exact hout)]
    exact ⟨_, rfl, hout⟩
  · exact ⟨out, rfl, hout⟩

/-- A command line, made to write records or to display. -/
def inMode (c : CommandLine) (records : Bool) : CommandLine := { c with json := records }

section InMode

variable (c : CommandLine) (records : Bool)

@[simp] lemma inMode_target : (inMode c records).target = c.target := rfl
@[simp] lemma inMode_jobId : (inMode c records).jobId = c.jobId := rfl
@[simp] lemma inMode_json : (inMode c records).json = records := rfl

end InMode

/-- **Up to its feed a run is the same in both modes**, but for the notice on the output. -/
lemma begin_modes (c : CommandLine) (s : Surroundings) (hout : s.out.lifetime = .unlimited) :
    (∃ a, begin (inMode c true) s = .error a ∧ begin (inMode c false) s = .error a ∧
      a.ending.isSome) ∨
    ∃ b out, begin (inMode c true) s = .ok b ∧ begin (inMode c false) s = .ok { b with out } ∧
      b.out.lifetime = .unlimited ∧ out.lifetime = .unlimited := by
  have hendpoint (records : Bool) : endpointOf (inMode c records) s.home s.files =
    endpointOf c s.home s.files := rfl
  rw [begin, begin, hendpoint, hendpoint]
  rcases endpointOf c s.home s.files with ⟨entries, e | endpoint⟩
  · exact .inl ⟨_, rfl, rfl, rfl⟩
  · simp only [inMode_target, inMode_jobId, inMode_json]
    rcases Resolution.ofDescription _ _ with ⟨m, e | resolution⟩
    · exact .inl ⟨_, rfl, rfl, rfl⟩
    · obtain ⟨out, hrecords, hworks⟩ := announce_unlimited hout resolution true
      obtain ⟨out', hdisplay, hworks'⟩ := announce_unlimited hout resolution false
      dsimp only
      rw [hrecords, hdisplay]
      exact .inr ⟨_, out', rfl, rfl, hworks, hworks'⟩

/-! ### Accounts -/

lemma account_settled (c : CommandLine) (requests : List Url) (m : Monitor) (out : Output)
    (ending : Option Ending) :
    (account c requests m out ending).ending = ending ∧
      (account c requests m out ending).reason = m.reason ∧
      (account c requests m out ending).latest = m.latest := by
  rcases ending with _ | e | u
  · exact ⟨rfl, rfl, rfl⟩
  · have hconclude : conclude c m (.error e) = m ∨
        ∃ text, conclude c m (.error e) = m.note .error .application text := by
      rw [conclude]
      split
      · exact .inr ⟨_, rfl⟩
      · exact .inl rfl
    refine ⟨rfl, ?_, ?_⟩ <;> rcases hconclude with h | ⟨text, h⟩ <;>
      simp only [account, Option.elim, h] <;> rfl
  · exact ⟨rfl, rfl, rfl⟩

/-- The account of a run whose feed and display take turns in an order; none if one of the turns is
not possible. As long as the display has not returned the run waits for more. -/
def interleave (c : CommandLine) (s : Surroundings) (chunks : List (List UInt8))
    (close : Feed.Close) (ts : List Turn) : Option Account :=
  match begin c s with
  | .error a => if ts = [] then some a else none
  | .ok b =>
    ((Interplay.start b.monitor (screen c s.terminal b.out) .asking true).run
        (Reader.next b.maxLine ⟨b.answer, chunks, close⟩) ts).map fun x =>
      account c b.requests x.monitor x.session.screen.live.out
        (if x.display = .returned then x.session.verdict.map (·.mapError .session) else none)

/-- The account of a run that writes records, with the body of the feed in chunks. -/
def recordChunks (c : CommandLine) (s : Surroundings) (chunks : List (List UInt8))
    (close : Feed.Close) : Account :=
  match begin c s with
  | .error a => a
  | .ok b =>
    let w : Watch := ⟨b.monitor, .records b.out⟩
    let events := (arrivalsOf chunks close).map .arrival
    let (w, ending) := finishRecords (events.foldl (recordsStep b.maxLine)
      (w, Client.opened sink w b.answer))
    account c b.requests w.monitor (w.route.output.getD b.out) ending

section Records

variable {c : CommandLine} {s : Surroundings} {b : Begun}

/-- A watch that writes records, at the beginning of its feed. -/
lemma begin_stands (hb : begin c s = .ok b) (hout : b.out.lifetime = .unlimited) :
    (⟨b.monitor, .records b.out⟩ : Watch).Stands c.jobId true b.out.written none none := by
  obtain ⟨journal, hmonitor⟩ := begin_monitor hb
  rw [hmonitor]
  refine ⟨rfl, ?_, rfl, rfl⟩
  rw [Watch.outputWith, ← hout]
  rfl

lemma followRecords_eq (hquiet : s.interrupted = false) (maxLine : Nat) (answer : Client.Answer)
    (w : Watch) :
    followRecords maxLine answer (s.events answer) w =
      finishRecords (Feed.steps sink maxLine w (Client.opened sink w answer)
        (Client.body answer)) := by
  rw [followRecords, Surroundings.events, hquiet]
  simp only [Bool.false_eq_true, if_false, List.append_nil, foldl_arrivals]

variable {chunks chunks' : List (List UInt8)} {close : Feed.Close}

lemma recordChunks_ok (hb : begin c s = .ok b) :
    recordChunks c s chunks close =
      let (w, ending) := finishRecords (Feed.steps sink b.maxLine ⟨b.monitor, .records b.out⟩
        (Client.opened sink ⟨b.monitor, .records b.out⟩ b.answer) (arrivalsOf chunks close))
      account c b.requests w.monitor (w.route.output.getD b.out) ending := by
  rw [recordChunks, hb]
  simp only [foldl_arrivals]

/-- It does not matter to the records in which chunks the body comes. -/
lemma recordChunks_flatten (hb : begin c s = .ok b) (hout : b.out.lifetime = .unlimited)
    (hchunks : chunks'.flatten = chunks.flatten) :
    recordChunks c s chunks' close = recordChunks c s chunks close := by
  have hrunning := (begin_stands hb hout).isCancelled
  rw [recordChunks_ok hb, recordChunks_ok hb,
    steps_opened (k := sink) hrunning b.answer close hchunks]

/-- A run that writes records does so with the chunks of its answer. -/
lemma recordChunks_run (hb : begin c s = .ok b) (hjson : c.json = true)
    (hquiet : s.interrupted = false) (hout : b.out.lifetime = .unlimited)
    (h : Genuine ⟨b.answer, chunks, close⟩) : recordChunks c s chunks close = run c s := by
  have hsteps : Feed.steps sink b.maxLine ⟨b.monitor, .records b.out⟩ _ (Client.body _) =
      Feed.steps sink b.maxLine ⟨b.monitor, .records b.out⟩ _ (arrivalsOf chunks close) :=
    h.steps_body (begin_stands hb hout).isCancelled
  rw [run_eq, recordChunks_ok hb, hb]
  simp only [hjson, if_true, Begun.records, followRecords_eq hquiet]
  rw [hsteps]

/-- The account of a run that writes records. -/
lemma recordChunks_account (hb : begin c s = .ok b) (hout : b.out.lifetime = .unlimited)
    (h : Honest ⟨b.answer, chunks, close⟩) {all : Left}
    (hall : Reader.rest b.maxLine ⟨b.answer, chunks, close⟩ .asking = all) :
    (recordChunks c s chunks close).ending =
        some ((all.ending c.jobId c.target).mapError .monitor) ∧
      (recordChunks c s chunks close).reason = some (all.reason c.jobId) ∧
      (recordChunks c s chunks close).latest = lastJob c.jobId (untilStop c.jobId all.1) := by
  obtain ⟨journal, hmonitor⟩ := begin_monitor hb
  have htarget : b.monitor.target = c.target := by rw [hmonitor]
  obtain ⟨w, hfinish, -, hsettled⟩ := records_settled (begin_stands hb hout) htarget h b.maxLine
  rw [hall] at hfinish hsettled
  rw [recordChunks_ok hb, hfinish]
  obtain ⟨hending, hreason, hlatest⟩ := account_settled c b.requests w.monitor
    (w.route.output.getD b.out) (some ((all.ending c.jobId c.target).mapError .monitor))
  exact ⟨hending, hreason.trans hsettled.reason, hlatest.trans hsettled.latest⟩

end Records

section Display

variable {c : CommandLine} {s : Surroundings} {b : Begun} {chunks : List (List UInt8)}
  {close : Feed.Close} {ts : List Turn} {x : Interplay Reader}

/-- The session of a run whose feed and display take turns. -/
def Begun.session (c : CommandLine) (s : Surroundings) (b : Begun) : Interplay Reader :=
  .start b.monitor (screen c s.terminal b.out) .asking true

lemma interleave_error {a : Account} (h : begin c s = .error a) :
    interleave c s chunks close ts = if ts = [] then some a else none := by
  rw [interleave, h]

lemma interleave_ok (h : begin c s = .ok b) :
    interleave c s chunks close ts =
      ((b.session c s).run (Reader.next b.maxLine ⟨b.answer, chunks, close⟩) ts).map fun x =>
        account c b.requests x.monitor x.session.screen.live.out
          (if x.display = .returned then x.session.verdict.map (·.mapError .session)
            else none) := by
  rw [interleave, h]
  rfl

/-- Feed and display are in accord at every moment of a run. -/
lemma session_orderly (hb : begin c s = .ok b) (hout : b.out.lifetime = .unlimited)
    (h : Honest ⟨b.answer, chunks, close⟩) (hts : .interrupt ∉ ts)
    (hx : (b.session c s).run (Reader.next b.maxLine ⟨b.answer, chunks, close⟩) ts = some x) :
    x.Orderly c.jobId c.target (Reader.rest b.maxLine ⟨b.answer, chunks, close⟩ .asking)
      (Reader.rest b.maxLine ⟨b.answer, chunks, close⟩) (screen c s.terminal b.out).theme
      b.out := by
  obtain ⟨journal, hmonitor⟩ := begin_monitor hb
  rw [Begun.session, hmonitor] at hx
  exact Interplay.orderly_run hout (Reader.reads _ _) (fun e => h.running) hts hx

/-- There are only so many turns in a run. -/
lemma session_length (hb : begin c s = .ok b)
    (hx : (b.session c s).run (Reader.next b.maxLine ⟨b.answer, chunks, close⟩) ts = some x) :
    ts.length ≤ 20 * (chunks.flatten.length + chunks.length) + 41 + 4 * ts.countP Turn.posts := by
  obtain ⟨journal, hmonitor⟩ := begin_monitor hb
  have hnothing := Interplay.run_nil (x := b.session c s)
    (P := Reader.next b.maxLine ⟨b.answer, chunks, close⟩)
  rw [Begun.session, hmonitor] at hx hnothing
  obtain ⟨hshows, hlast⟩ := Interplay.shows_run rfl hnothing
  have hfed := (Interplay.recorded_run rfl rfl hnothing).1
  have hlength := Interplay.length_run (Reader.advances _ _) rfl hfed hlast hshows hx
  have hweight : (Interplay.start { target := c.target, jobId := c.jobId, journal }
      (screen c s.terminal b.out) Reader.asking true).weight
        (Reader.size ⟨b.answer, chunks, close⟩) =
      10 * (2 * (0 + chunks.flatten.length + chunks.length) + 2) + 10 + 8 + 0 + 2 + 1 := rfl
  omega

/-- As long as the display has not returned there is a next turn, where the others leave only after
a reason to stop was given. -/
lemma session_turn {all : Left} {theme : Theme} {out : Output} {maxLine : Nat}
    (h : x.Orderly c.jobId c.target all (Reader.rest maxLine t) theme out)
    (hreturned : x.display ≠ .returned) :
    ∃ turn : Turn, turn.posts = false ∧ (turn = .leave → x.monitor.reason.isSome) ∧
      (x.turn (Reader.next maxLine t) turn).isSome := by
  rcases Interplay.can_turn (Reader.advances maxLine t) h hreturned with
    hfeed | hdisplay | hlisten | ⟨hothers, hcancelled⟩
  · exact ⟨.feed, rfl, nofun, hfeed⟩
  · exact ⟨.display, rfl, nofun, hdisplay⟩
  · exact ⟨.listen, rfl, nofun, hlisten⟩
  · refine ⟨.leave, rfl, fun _ => h.causes.tripped hcancelled, ?_⟩
    rw [Interplay.turn, if_pos hothers]
    rfl

end Display

end Program

end JobWatch
