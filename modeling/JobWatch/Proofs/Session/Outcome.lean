import JobWatch.Proofs.Session.Progress

/-!
How a session ends.

The order in which feed and display take their turns does not matter: the reports that the call has
to deliver, and how it ends, settle what the session leaves behind. If a report stops the watch, the
display ends with that report; otherwise it ends with the end of the feed.
-/

namespace JobWatch

open Reports

variable {φ : Type}

section Closing

variable {jobId target : String} {all : Left} {sent : List Report} {cancelled : Bool}
  {v : Except MonitorError Unit}

/-- A feed that has ended has sent everything up to the first report that stops the watch. -/
lemma Closes.sent_eq (h : Closes jobId all target sent cancelled v) :
    sent = untilStop jobId all.1 := by
  rcases h.cause with ⟨e, hfollows, -⟩ | ⟨hstopped, -⟩
  · rw [hfollows.total, List.append_nil, untilStop_of_running jobId hfollows.running]
  · obtain ⟨more, hmore⟩ := hstopped.more
    rw [hmore, untilStop_append_of_stopped jobId hstopped.stops hstopped.cut]

lemma Closes.firstStop_eq (h : Closes jobId all target sent cancelled v) :
    firstStop jobId sent = firstStop jobId all.1 := by
  rw [h.sent_eq, firstStop_untilStop]

/-- A feed whose reports stop the watch ends well. -/
lemma Closes.stopped (h : Closes jobId all target sent cancelled v)
    (hstops : (firstStop jobId all.1).isSome) : v = .ok () := by
  rcases h.cause with ⟨e, hfollows, -⟩ | ⟨-, hok⟩
  · rw [← h.firstStop_eq, hfollows.running] at hstops
    cases hstops
  · exact hok

/-- A feed none of whose reports stops the watch ends as its call does. -/
lemma Closes.followed (h : Closes jobId all target sent cancelled v)
    (hnone : firstStop jobId all.1 = none) : v = news target all.2 := by
  rcases h.cause with ⟨e, hfollows, hnews⟩ | ⟨hstopped, -⟩
  · rw [hnews, hfollows.total]
  · have hstops := hstopped.stops
    rw [h.firstStop_eq, hnone] at hstops
    cases hstops

end Closing

namespace Interplay

variable {P : Call φ} {rest : φ → Left} {jobId target : String} {all : Left} {theme : Theme}
  {out : Output} {x y : Interplay φ}

/-! ### A session that has returned -/

section Returned

variable (h : x.Orderly jobId target all rest theme out) (hreturned : x.display = .returned)

include h hreturned

lemma Orderly.ended : ∃ v, x.session.ending = some v ∧
    Closes jobId all target x.sent x.monitor.isCancelled v := by
  have hcourse := h.course
  rwa [Course, h.last.1 (h.recorded.joined hreturned)] at hcourse

lemma Orderly.reasoned : ∃ reason, x.monitor.reason = some reason ∧ x.Right jobId all reason := by
  have hcancelled := h.recorded.late (by rw [hreturned]; rfl)
  obtain ⟨reason, hreason⟩ := Option.isSome_iff_exists.1 (h.causes.tripped hcancelled)
  exact ⟨reason, hreason, h.causes.right reason hreason⟩

/-- The snapshot that is stored in the end is the last up to the first stop. -/
lemma Orderly.latest : x.monitor.latest = lastJob jobId (untilStop jobId all.1) := by
  obtain ⟨v, -, hcloses⟩ := h.ended hreturned
  have hstored := h.stored
  rw [Stored, h.last.1 (h.recorded.joined hreturned), hcloses.sent_eq] at hstored
  exact hstored

/-- The screen has drawn every frame of its display and shown the cursor. -/
lemma Orderly.screen (hout : out.lifetime = .unlimited) :
    x.session.screen.live =
        (({ out } : LiveFrame).drawAll (Display.frames theme { jobId } x.taken)).finish.1 ∧
      x.session.screen.display = (Display.run { jobId } x.taken).1.consumeDirty.1 := by
  obtain ⟨-, -, hlive⟩ := Screen.play_unlimited (s := blankScreen jobId out theme) rfl hout
    h.shows.running
  have hstage := h.shows.stage
  simp only [Stage, hreturned] at hstage
  rw [hstage.1]
  exact ⟨congrArg (·.finish.1) hlive, Screen.play_display _ _⟩

/-- On an output that never fails a session ends well after a reason to stop, and badly with a
failure of the feed that was heard of before. -/
lemma Orderly.verdict (hout : out.lifetime = .unlimited) :
    (∃ reason, (Display.run { jobId } x.taken).2 = [reason] ∧
      x.session.verdict = some (.ok ())) ∨
    ∃ e, x.session.ending = some (.error e) ∧ x.session.verdict = some (.error (.feed e)) := by
  obtain ⟨hdrawn, hlifetime, -⟩ := Screen.play_unlimited (s := blankScreen jobId out theme) rfl
    hout h.shows.running
  have hrestored : restored ((blankScreen jobId out theme).play x.taken).1.live = .ok () := by
    rw [restored, LiveFrame.finish, (LiveFrame.strokes_unlimited hlifetime _).1]
  have hstage := h.shows.stage
  simp only [Stage, hreturned, hrestored] at hstage
  obtain ⟨-, v, hend, hverdict⟩ := hstage
  rcases v with (e | e | e) | _
  · cases hdrawn.symm.trans hend.1
  · obtain ⟨-, -, -, hending, -⟩ := hend
    exact .inr ⟨e, hending, hverdict⟩
  · cases hend
  · obtain ⟨-, q, -, hstops⟩ := hend
    exact .inl ⟨q.reason, hstops, hverdict⟩

/-- **A report that stops the watch ends the session**, with the reason of that report. -/
theorem Orderly.returned_stopped (hout : out.lifetime = .unlimited) {reason : StopReason}
    (hstops : firstStop jobId all.1 = some reason) :
    x.session.verdict = some (.ok ()) ∧ x.monitor.reason = some reason ∧
      Signal.plain x.taken = (untilStop jobId all.1).map .report := by
  obtain ⟨v, hending, hcloses⟩ := h.ended hreturned
  have hsent : firstStop jobId x.sent = some reason := by
    rw [hcloses.firstStop_eq, hstops]
  obtain ⟨reason', hreason, hright⟩ := h.reasoned hreturned
  rw [hcloses.stopped (by rw [hstops]; rfl)] at hending
  rcases h.verdict hreturned hout with ⟨given, hgiven, hverdict⟩ | ⟨e, he, -⟩
  · refine ⟨hverdict, ?_, ?_⟩
    · rcases hright with hfirst | ⟨hnone, -⟩
      · rw [hreason, ← hfirst, hsent]
      · cases hnone.symm.trans hsent
    · rcases h.passes.ended h.course.cut hgiven with ⟨-, htaken⟩ | ⟨⟨hnone, -⟩, -⟩
      · rw [htaken, ← hcloses.sent_eq]
      · cases hnone.symm.trans hsent
  · cases hending.symm.trans he

/-- **A feed that is closed ends the session**, if no report does. -/
theorem Orderly.returned_closed (hout : out.lifetime = .unlimited)
    (hnone : firstStop jobId all.1 = none) (hok : all.2 = .ok ()) :
    x.session.verdict = some (.ok ()) ∧ x.monitor.reason = some .feedClosed ∧
      Signal.plain x.taken = all.1.map .report ++ [.feedClosed] := by
  obtain ⟨v, hending, hcloses⟩ := h.ended hreturned
  have hsent : firstStop jobId x.sent = none := by
    rw [hcloses.firstStop_eq, hnone]
  obtain ⟨reason, hreason, hright⟩ := h.reasoned hreturned
  rw [hcloses.followed hnone, hok] at hending
  rcases h.verdict hreturned hout with ⟨given, hgiven, hverdict⟩ | ⟨e, he, -⟩
  · refine ⟨hverdict, ?_, ?_⟩
    · rcases hright with hfirst | ⟨-, ⟨-, rfl⟩ | ⟨⟨e, he⟩, -⟩⟩
      · cases hsent.symm.trans hfirst
      · exact hreason
      · cases hending.symm.trans he
    · rcases h.passes.ended h.course.cut hgiven with ⟨hfirst, -⟩ | ⟨-, -, htaken⟩
      · cases hsent.symm.trans hfirst
      · rw [htaken, hcloses.sent_eq, untilStop_of_running jobId hnone]
  · cases hending.symm.trans he

/-- **A failure of the feed ends the session**, if no report does. -/
theorem Orderly.returned_failed (hout : out.lifetime = .unlimited)
    (hnone : firstStop jobId all.1 = none) {e : AdminError} (hfailed : all.2 = .error e) :
    x.session.verdict = some (.error (.feed ⟨.subscribe, target, e⟩)) ∧
      x.monitor.reason = some .shutdown := by
  obtain ⟨v, hending, hcloses⟩ := h.ended hreturned
  have hsent : firstStop jobId x.sent = none := by
    rw [hcloses.firstStop_eq, hnone]
  obtain ⟨reason, hreason, hright⟩ := h.reasoned hreturned
  rw [hcloses.followed hnone, hfailed] at hending
  rcases h.verdict hreturned hout with ⟨given, hgiven, -⟩ | ⟨e', he, hverdict⟩
  · rcases h.passes.ended h.course.cut hgiven with ⟨hfirst, -⟩ | ⟨-, hclosed, -⟩
    · cases hsent.symm.trans hfirst
    · cases hending.symm.trans hclosed
  · obtain rfl : e' = ⟨.subscribe, target, e⟩ := by
      cases he.symm.trans hending
      rfl
    refine ⟨hverdict, ?_⟩
    rcases hright with hfirst | ⟨-, ⟨⟨-, hok⟩, -⟩ | ⟨-, rfl⟩⟩
    · cases hsent.symm.trans hfirst
    · cases hfailed.symm.trans hok
    · exact hreason

end Returned

/-! ### A session without others -/

/-- Nobody but the feed puts anything into the queue. -/
structure Alone (x : Interplay φ) : Prop where
  others : x.others = false
  plain : ∀ g ∈ x.taken ++ x.queue, g.isSpinner = false

lemma Alone.taken (h : x.Alone) : Signal.plain x.taken = x.taken := by
  refine List.filter_eq_self.2 fun g hg => ?_
  rw [h.plain g (List.mem_append_left _ hg)]
  rfl

lemma FeedStep.queue (h : FeedStep P x y) (hfed : x.Fed jobId) :
    ∀ g ∈ y.queue, g ∈ x.queue ∨ g.isSpinner = false := by
  cases h with
  | @keep r p hfeed hrunning =>
    have hqueue := congrArg Route.queue
      (Watch.keep_route x.session.watch (r.lookup x.monitor.jobId))
    rw [← Interplay.queue] at hqueue
    rw [← hqueue]
    exact fun g hg => .inl hg
  | send hfeed =>
    obtain ⟨queue, hroute⟩ := hfed.route
    rw [Watch.send_open hroute]
    intro g hg
    rcases List.mem_append.1 hg with hold | hnew
    · rw [Interplay.queue, hroute]
      exact .inl hold
    · rw [List.mem_singleton.1 hnew]
      exact .inr rfl
  | @fail e hfeed =>
    obtain ⟨journal, hfinish⟩ := Watch.finish_error_eq x.session.watch e
    rw [hfinish]
    exact fun g hg => .inl hg
  | _ => exact fun g hg => .inl hg

lemma DisplayStep.signals (h : DisplayStep x y) :
    ∀ g ∈ y.taken ++ y.queue, g ∈ x.taken ++ x.queue ∨ g.isSpinner = false := by
  have hclosed {z : Interplay φ} (htaken : z.taken = x.taken) (hqueue : z.queue = x.queue) :
      ∀ g ∈ (z.take .feedClosed).taken ++ (z.take .feedClosed).queue,
        g ∈ x.taken ++ x.queue ∨ g.isSpinner = false := by
    show ∀ g ∈ z.taken ++ [.feedClosed] ++ z.queue, _
    rw [htaken, hqueue]
    intro g hg
    simp only [List.mem_append, List.mem_singleton] at hg ⊢
    rcases hg with (hg | rfl) | hg
    · exact .inl (.inl hg)
    · exact .inr rfl
    · exact .inl (.inr hg)
  have hsame {z : Interplay φ} (htaken : z.taken = x.taken) (hqueue : z.queue = x.queue) :
      ∀ g ∈ z.taken ++ z.queue, g ∈ x.taken ++ x.queue ∨ g.isSpinner = false := by
    rw [htaken, hqueue]
    exact fun g hg => .inl hg
  have hhear : x.hear.queue = x.queue := by
    rw [queue, hear_watch]
    rfl
  cases h with
  | @take g queue isOpen hdisplay hroute =>
    intro g' hg'
    left
    rw [Interplay.queue, hroute]
    show g' ∈ x.taken ++ ([g] ++ queue)
    rw [← List.append_assoc]
    exact hg'
  | closed hdisplay hqueue hclosed' hheard => exact hclosed rfl rfl
  | hearClosed hdisplay hqueue hclosed' hheard hending hover => exact hclosed rfl hhear
  | hearFailed hdisplay hheard hending hover => exact hsame rfl hhear
  | listen hdisplay hheard hending => exact hsame rfl hhear
  | join hdisplay hending =>
    obtain ⟨journal, hjoin⟩ := join_eq hending
    refine hsame rfl ?_
    rw [hjoin]
    rfl
  | _ => exact hsame rfl rfl

lemma Alone.turn (h : x.Alone) (hfed : x.Fed jobId) (hlast : x.EndsLast) {t : Turn}
    (hturn : x.turn P t = some y) : y.Alone ∧ t.posts = false := by
  rcases step_of_turn hturn with ⟨rfl, hstep⟩ | ⟨ht, hstep⟩ | hstep
  · refine ⟨⟨hstep.others.trans h.others, ?_⟩, rfl⟩
    rw [(hstep.rests hlast).taken]
    intro g hg
    rcases List.mem_append.1 hg with htaken | hqueue
    · exact h.plain g (List.mem_append_left _ htaken)
    · rcases hstep.queue hfed g hqueue with hold | hnew
      · exact h.plain g (List.mem_append_right _ hold)
      · exact hnew
  · refine ⟨⟨hstep.rests.others.trans h.others, ?_⟩, by rcases ht with rfl | rfl <;> rfl⟩
    intro g hg
    rcases hstep.signals g hg with hold | hnew
    · exact h.plain g hold
    · exact hnew
  · cases hstep with
    | spinner hothers | interrupt hothers | leave hothers => cases h.others.symm.trans hothers

/-- Without others there are no signals but those of the feed. -/
lemma alone_run (h : x.Alone) (hfed : x.Fed jobId) (hlast : x.EndsLast) {ts : List Turn}
    (hrun : x.run P ts = some y) : y.Alone ∧ ∀ t ∈ ts, t.posts = false := by
  induction ts generalizing x with
  | nil =>
    obtain rfl := Option.some.inj hrun
    exact ⟨h, nofun⟩
  | cons t ts ih =>
    rw [run_cons, Option.bind_eq_some_iff] at hrun
    obtain ⟨z, hz, hrest⟩ := hrun
    obtain ⟨halone, ht⟩ := h.turn hfed hlast hz
    obtain ⟨halone', hts⟩ := ih halone (hfed.turn hz) (hlast.turn hz) hrest
    exact ⟨halone', List.forall_mem_cons.2 ⟨ht, hts⟩⟩

/-- A session that ended well: the signals that its display was given, one frame before them and one
after each, the snapshot it shows in the end, and the reason. -/
structure EndsWith (jobId : String) (theme : Theme) (out : Output) (signals : List Signal)
    (latest : Option Snapshot) (reason : StopReason) (x : Interplay φ) : Prop where
  verdict : x.session.verdict = some (.ok ())
  reason : x.monitor.reason = some reason
  quitting : x.session.screen.display.quitting = true
  current : x.session.screen.display.current = latest.getD {}
  frames : x.session.screen.live =
    (({ out } : LiveFrame).drawAll (Display.frames theme { jobId } signals)).finish.1

lemma Orderly.endsWith (hout : out.lifetime = .unlimited)
    (h : x.Orderly jobId target all rest theme out) (hreturned : x.display = .returned)
    {latest : Option Snapshot} {reason stop : StopReason}
    (hverdict : x.session.verdict = some (.ok ())) (hreason : x.monitor.reason = some reason)
    (hstands : Display.Stands (Display.run { jobId } x.taken) jobId latest (some stop)) :
    x.EndsWith jobId theme out x.taken latest reason := by
  obtain ⟨hlive, hdisplay⟩ := h.screen hreturned hout
  refine ⟨hverdict, hreason, ?_, ?_, hlive⟩
  · rw [hdisplay]
    exact hstands.quitting
  · rw [hdisplay]
    exact hstands.current

/-- **The outcome of a session does not depend on the schedule.** The feed delivers its reports and
then closes or fails; the output works, and there are no others. Whatever turns the feed and the
display take, there are only so many, and until the display returns there is a next one. Then:

If a report is the first that stops the watch, the session ends well with its reason. The display
has drawn one frame at the beginning and one for every report up to that one, and shows the last
snapshot that those contain. If there is none and the feed closes, the display has drawn one more
for the end of the feed, and shows the snapshot of the last report under a blank header. If there is
none and the feed fails, the session fails with that, and the watch is shut down. -/
theorem display_outcome (target jobId : String) (journal : List Journal.Entry) (theme : Theme)
    (out : Output) (hout : out.lifetime = .unlimited) (rs : List Report) (call : Recital)
    (hcall : ∀ e, call.ending = .error e → e.isCancelled = false) (ts : List Turn)
    (x : Interplay (List Report))
    (hrun : (start { target, jobId, journal } (blankScreen jobId out theme) rs false).run
      call.next ts = some x) :
    ts.length ≤ 10 * rs.length + 20 ∧
    (x.display ≠ .returned → ∃ t y, x.turn call.next t = some y) ∧
    (x.display = .returned →
      (∀ before r after reason, rs = before ++ r :: after → firstStop jobId before = none →
        r.stop? jobId = some reason →
        x.EndsWith jobId theme out ((before ++ [r]).map .report)
            (lastJob jobId (before ++ [r])) reason ∧
          (Display.frames theme { jobId } ((before ++ [r]).map .report)).length =
            before.length + 2) ∧
      (firstStop jobId rs = none → call.ending = .ok () →
        x.EndsWith jobId theme out (rs.map .report ++ [.feedClosed])
            (rs.getLast?.bind (·.job? jobId)) .feedClosed ∧
          x.session.screen.display.header = .blank ∧
          (Display.frames theme { jobId } (rs.map .report ++ [.feedClosed])).length =
            rs.length + 2) ∧
      (∀ e, firstStop jobId rs = none → call.ending = .error e →
        x.session.verdict = some (.error (.feed ⟨.subscribe, target, e⟩)) ∧
          x.monitor.reason = some .shutdown)) := by
  have hnothing := run_nil (P := call.next)
    (x := start { target, jobId, journal } (blankScreen jobId out theme) rs false)
  obtain ⟨hshows₀, hlast₀⟩ := shows_run rfl hnothing
  have hfed₀ := (recorded_run rfl rfl hnothing).1
  obtain ⟨halone, hposts⟩ := alone_run ⟨rfl, fun g hg => by cases hg⟩ hfed₀ hlast₀ hrun
  have hquiet : .interrupt ∉ ts := fun hmem => by cases hposts _ hmem
  have h := orderly_run hout call.reads hcall hquiet hrun
  refine ⟨?_, ?_, ?_⟩
  · have hlength := length_run call.advances rfl hfed₀ hlast₀ hshows₀ hrun
    rw [List.countP_eq_zero.2 fun t ht => by rw [hposts t ht]; exact nofun] at hlength
    have hweight : (start { target, jobId, journal } (blankScreen jobId out theme) rs
        false).weight List.length = 10 * rs.length + 10 + 8 + 0 + 2 + 0 := rfl
    omega
  · intro hreturned
    rcases can_turn call.advances h hreturned with hcan | hcan | hcan | ⟨hothers, -⟩
    · exact ⟨_, Option.isSome_iff_exists.1 hcan⟩
    · exact ⟨_, Option.isSome_iff_exists.1 hcan⟩
    · exact ⟨_, Option.isSome_iff_exists.1 hcan⟩
    · cases halone.others.symm.trans hothers
  · intro hreturned
    refine ⟨?_, ?_, fun e hnone hfailed => h.returned_failed hreturned hout hnone hfailed⟩
    · intro before r after reason hrs hbefore hstop
      have hcut : untilStop jobId rs = before ++ [r] := by
        rw [hrs, untilStop_split jobId hbefore (by rw [hstop]; rfl)]
      have hfirst : firstStop jobId (before ++ [r]) = some reason := by
        rw [firstStop_append, hbefore, Option.none_or, firstStop_singleton, hstop]
      have hall : firstStop jobId rs = some reason := by
        rw [← firstStop_untilStop, hcut, hfirst]
      obtain ⟨hverdict, hreason, htaken⟩ := h.returned_stopped hreturned hout hall
      rw [hcut] at htaken
      have hstands := Display.stands_run htaken (untilStop_snoc jobId hbefore r)
      rw [hfirst] at hstands
      rw [halone.taken] at htaken
      refine ⟨htaken ▸ h.endsWith hout hreturned hverdict hreason hstands, ?_⟩
      simp
    · intro hnone hok
      obtain ⟨hverdict, hreason, htaken⟩ := h.returned_closed hreturned hout hnone hok
      have hstands := Display.stands_closed htaken hnone
      rw [halone.taken] at htaken
      obtain ⟨hlatest, houtcome⟩ := lastJob_of_running jobId hnone
      have hends := h.endsWith hout hreturned hverdict hreason hstands
      refine ⟨htaken ▸ hlatest ▸ hends, ?_, by simp⟩
      rw [Display.header, if_pos hends.quitting, hends.current, houtcome]

/-- A job that runs and then fails. The feed is through with all of it before the display draws its
first frame. -/
theorem display_outcome_failing :
    ∃ x, (start { target := "s", jobId := "j", journal := [] } (blankScreen "j" {} ⟨false⟩)
        [.ofJob "j" {} .epoch, .ofJob "j" { failed := true } .epoch] false).run
          (Recital.next { ending := .ok () })
          (List.replicate 13 .feed ++ List.replicate 8 .display) = some x ∧
      x.display = .returned ∧
      x.EndsWith "j" ⟨false⟩ {}
        [.report (.ofJob "j" {} .epoch), .report (.ofJob "j" { failed := true } .epoch)]
        (lastJob "j" [.ofJob "j" {} .epoch, .ofJob "j" { failed := true } .epoch]) .jobFailed := by
  obtain ⟨x, hrun, hreturned⟩ : ∃ x,
      (start { target := "s", jobId := "j", journal := [] } (blankScreen "j" {} ⟨false⟩)
        [.ofJob "j" {} .epoch, .ofJob "j" { failed := true } .epoch] false).run
          (Recital.next { ending := .ok () })
          (List.replicate 13 .feed ++ List.replicate 8 .display) = some x ∧
      x.display = .returned := ⟨_, rfl, rfl⟩
  obtain ⟨-, -, hends⟩ := display_outcome "s" "j" [] ⟨false⟩ {} rfl _ { ending := .ok () } nofun _ x
    hrun
  obtain ⟨hstopped, -⟩ := hends hreturned
  exact ⟨x, hrun, hreturned, (hstopped [.ofJob "j" {} .epoch] _ [] .jobFailed rfl rfl rfl).1⟩

end Interplay

end JobWatch
