import JobWatch.Proofs.Program.Lockstep

/-!
The two modes of the program.

A run that writes records and a run with a display end alike, whatever turns feed and display take.
-/

namespace JobWatch.Program

open Feed (Transfer Reader)

/-- A failure of the feed is the same, whoever tells of it. -/
def Complaint.plain : Complaint → Complaint
  | session (.feed e) => monitor e
  | e => e

lemma plain_ending (v : Except MonitorError Unit) :
    ((v.mapError .feed).mapError .session).mapError Complaint.plain =
      (v.mapError .monitor).mapError Complaint.plain := by
  cases v <;> rfl

/-- Two runs end alike: with the same success or failure, the same reason and the same snapshot. -/
structure Account.Agrees (a a' : Account) : Prop where
  ending : a.ending.map (·.mapError Complaint.plain) = a'.ending.map (·.mapError Complaint.plain)
  reason : a.reason = a'.reason
  latest : a.latest = a'.latest

section Agreement

variable {c : CommandLine} {s : Surroundings} {b : Begun} {out : Output}
  {chunks : List (List UInt8)} {close : Feed.Close} {ts : List Turn} {a : Account}

/-- As long as the display of a run has not returned, one more turn is possible. -/
lemma interleave_goes_on (hb : begin c s = .ok b) (hout : b.out.lifetime = .unlimited)
    (hfeed : Honest ⟨b.answer, chunks, close⟩) (hts : .interrupt ∉ ts)
    (hturns : interleave c s chunks close ts = some a) (hnone : a.ending = none) :
    ∃ t : Turn, t.posts = false ∧ (t = .leave → a.reason.isSome) ∧
      (interleave c s chunks close (ts ++ [t])).isSome := by
  rw [interleave_ok hb, Option.map_eq_some_iff] at hturns
  obtain ⟨x, hx, rfl⟩ := hturns
  have horderly := session_orderly hb hout hfeed hts hx
  obtain ⟨hending, hreason, -⟩ := account_settled c b.requests x.monitor x.session.screen.live.out
    (if x.display = .returned then x.session.verdict.map (·.mapError .session) else none)
  rw [hending] at hnone
  have hreturned : x.display ≠ .returned := by
    intro hreturned
    obtain ⟨hverdict, -⟩ := horderly.settled hout hreturned
    rw [if_pos hreturned, hverdict] at hnone
    cases hnone
  obtain ⟨t, hposts, hleave, hturn⟩ := session_turn horderly hreturned
  obtain ⟨y, hy⟩ := Option.isSome_iff_exists.1 hturn
  refine ⟨t, hposts, fun ht => ?_, ?_⟩
  · rw [hreason]
    exact hleave ht
  · rw [interleave_ok hb, Option.isSome_map, Interplay.run_append, hx, Option.bind_some,
      Interplay.run_cons, hy]
    rfl

/-- A run whose display has returned has ended as its feed settles, which is how the run that writes
records ends. -/
lemma interleave_agrees (hrecords : begin (inMode c true) s = .ok b)
    (hdisplay : begin (inMode c false) s = .ok { b with out })
    (hworks : b.out.lifetime = .unlimited) (hout : out.lifetime = .unlimited)
    (hfeed : Honest ⟨b.answer, chunks, close⟩) (hts : .interrupt ∉ ts)
    (hturns : interleave (inMode c false) s chunks close ts = some a) (hended : a.ending.isSome) :
    a.Agrees (recordChunks (inMode c true) s chunks close) := by
  obtain ⟨hending, hreason, hlatest⟩ := recordChunks_account hrecords hworks hfeed rfl
  rw [interleave_ok hdisplay, Option.map_eq_some_iff] at hturns
  obtain ⟨x, hx, rfl⟩ := hturns
  have horderly := session_orderly hdisplay hout hfeed hts hx
  obtain ⟨hending', hreason', hlatest'⟩ := account_settled (inMode c false) b.requests x.monitor
    x.session.screen.live.out
    (if x.display = .returned then x.session.verdict.map (·.mapError .session) else none)
  rw [hending'] at hended
  have hreturned : x.display = .returned := by
    by_contra hdisplay
    rw [if_neg hdisplay] at hended
    cases hended
  obtain ⟨hverdict, hsettled⟩ := horderly.settled hout hreturned
  refine ⟨?_, ?_, ?_⟩
  · rw [hending', hending, if_pos hreturned, hverdict]
    exact congrArg some (plain_ending _)
  · exact hreason'.trans (hsettled.reason.trans hreason.symm)
  · exact hlatest'.trans (hsettled.latest.trans hlatest.symm)

end Agreement

/-- **The two modes agree.** Take any answers of the service to its two calls. The body of the
metrics feed comes in any chunks and is complete or breaks off, with any error that is no cancel.
Outputs work, and there is no interrupt. A run that writes records comes to an end, and that does
not depend on the chunks.

Now let feed and display take turns in any order, with any number of ticks of the indicator in
between. There are only so many turns but for the ticks. As long as the display has not returned one
more is possible, where the others leave only after a reason to stop was given. Once it has
returned, the run has ended as the run that writes records does: with the same success or failure,
the same reason and the same snapshot.

If the body is the one that the service answered with, these are the runs of the program. What the
program does with a display is then one of the orders in which feed and display can take their
turns. -/
theorem modes_agree (c : CommandLine) (s : Surroundings) (hout : s.out.lifetime = .unlimited)
    (hquiet : s.interrupted = false) (chunks : List (List UInt8)) (close : Feed.Close)
    (hhonest : ∀ b, begin (inMode c false) s = .ok b → Honest ⟨b.answer, chunks, close⟩) :
    ((recordChunks (inMode c true) s chunks close).ending.isSome ∧
      ∀ chunks', chunks'.flatten = chunks.flatten →
        recordChunks (inMode c true) s chunks' close =
          recordChunks (inMode c true) s chunks close) ∧
    (∀ ts a, .interrupt ∉ ts → interleave (inMode c false) s chunks close ts = some a →
      ts.length ≤ 20 * (chunks.flatten.length + chunks.length) + 41 + 4 * ts.countP Turn.posts ∧
      (a.ending = none → ∃ t : Turn, t.posts = false ∧ (t = .leave → a.reason.isSome) ∧
        (interleave (inMode c false) s chunks close (ts ++ [t])).isSome) ∧
      (a.ending.isSome → a.Agrees (recordChunks (inMode c true) s chunks close))) ∧
    ((∀ b, begin (inMode c false) s = .ok b → Genuine ⟨b.answer, chunks, close⟩) →
      recordChunks (inMode c true) s chunks close = run (inMode c true) s ∧
      (run (inMode c false) s).Agrees (run (inMode c true) s) ∧
      ∃ ts, .interrupt ∉ ts ∧ interleave (inMode c false) s [chunks.flatten] close ts =
        some (run (inMode c false) s)) := by
  rcases begin_modes c s hout with ⟨a', hrecords, hdisplay, hended⟩ | ⟨b, out, hrecords, hdisplay,
    hworks, hworks'⟩
  · -- the run ends before its feed
    have hrun : run (inMode c true) s = a' := by rw [run_eq, hrecords]
    have hrun' : run (inMode c false) s = a' := by rw [run_eq, hdisplay]
    have hchunks (chunks : List (List UInt8)) :
        recordChunks (inMode c true) s chunks close = a' := by
      rw [recordChunks, hrecords]
    rw [hrun, hrun', hchunks]
    refine ⟨⟨hended, fun chunks' _ => hchunks chunks'⟩, fun ts a hts hturns => ?_, fun _ =>
      ⟨rfl, ⟨rfl, rfl, rfl⟩, [], List.not_mem_nil, by rw [interleave_error hdisplay, if_pos rfl]⟩⟩
    rw [interleave_error hdisplay] at hturns
    obtain ⟨rfl, rfl⟩ : ts = [] ∧ a' = a := by simpa using hturns
    refine ⟨Nat.zero_le _, fun hnone => ?_, fun _ => ⟨rfl, rfl, rfl⟩⟩
    rw [hnone] at hended
    cases hended
  · have hfeed := hhonest _ hdisplay
    change Honest ⟨b.answer, chunks, close⟩ at hfeed
    obtain ⟨hending, -⟩ := recordChunks_account hrecords hworks hfeed rfl
    refine ⟨⟨by rw [hending]; rfl, fun chunks' => recordChunks_flatten hrecords hworks⟩,
      fun ts a hts hturns => ⟨?_, ?_, ?_⟩, fun hgenuine => ?_⟩
    · rw [interleave_ok hdisplay, Option.map_eq_some_iff] at hturns
      obtain ⟨x, hx, -⟩ := hturns
      exact session_length hdisplay hx
    · exact interleave_goes_on hdisplay hworks' hfeed hts hturns
    · exact interleave_agrees hrecords hdisplay hworks hworks' hfeed hts hturns
    · have hbody := hgenuine _ hdisplay
      change Genuine ⟨b.answer, chunks, close⟩ at hbody
      have hwhole : Genuine ⟨b.answer, [chunks.flatten], close⟩ := hbody.flatten
      have hrun' : run (inMode c false) s = Begun.display (inMode c false) s { b with out } := by
        rw [run_eq, hdisplay]
        rfl
      obtain ⟨hended, ts, hts, hturns⟩ := display_interleaved hdisplay hquiet hwhole
      have hagrees := interleave_agrees hrecords hdisplay hworks hworks' hwhole.honest hts hturns
        hended
      rw [recordChunks_run hrecords rfl hquiet hworks hwhole, ← hrun'] at hagrees
      refine ⟨recordChunks_run hrecords rfl hquiet hworks hbody, hagrees, ts, hts, ?_⟩
      rw [hrun']
      exact hturns

/-- The job "j" at a service whose feed is one report without batch jobs. -/
def absentService : CommandLine × Surroundings :=
  ({ target := "http://h", jobId := "j" },
    { files := fun _ => .missing, get := fun _ => .ok ⟨200, [0x7B, 0x7D, 0x0A], .complete⟩ })

def connectionReset : AdminError := ⟨.network, "the connection was reset"⟩

/-- The report comes in two chunks, the indicator moves once, and the feed is through before the
display draws its first frame. Or the connection breaks within the report, and the display hears of
it once it has drawn. -/
theorem modes_agree_absent :
    (∃ a, interleave (inMode absentService.1 false) absentService.2 [[0x7B], [0x7D, 0x0A]] .clean
        (.spinner :: List.replicate 13 .feed ++ List.replicate 8 .display) = some a ∧
      a.reason = some .feedAbsent ∧
      a.Agrees (run (inMode absentService.1 true) absentService.2)) ∧
    ∃ a, interleave (inMode absentService.1 false) absentService.2 [[0x7B]]
        (.broken connectionReset) (.spinner :: List.replicate 7 .feed ++
          List.replicate 3 .display ++ .listen :: List.replicate 3 .display) = some a ∧
      a.reason = some .shutdown ∧
      a.Agrees (recordChunks (inMode absentService.1 true) absentService.2 [[0x7B]]
        (.broken connectionReset)) := by
  obtain ⟨a, hturns, hended, hreason⟩ : ∃ a,
      interleave (inMode absentService.1 false) absentService.2 [[0x7B], [0x7D, 0x0A]] .clean
        (.spinner :: List.replicate 13 .feed ++ List.replicate 8 .display) = some a ∧
      a.ending.isSome ∧ a.reason = some .feedAbsent := ⟨_, rfl, rfl, rfl⟩
  obtain ⟨a', hturns', hended', hreason'⟩ : ∃ a,
      interleave (inMode absentService.1 false) absentService.2 [[0x7B]]
        (.broken connectionReset) (.spinner :: List.replicate 7 .feed ++
          List.replicate 3 .display ++ .listen :: List.replicate 3 .display) = some a ∧
      a.ending.isSome ∧ a.reason = some .shutdown := ⟨_, rfl, rfl, rfl⟩
  obtain ⟨b, hbegin, hanswer⟩ : ∃ b, begin (inMode absentService.1 false) absentService.2 = .ok b ∧
      b.answer = .ok ⟨200, [0x7B, 0x7D, 0x0A], .complete⟩ := ⟨_, rfl, rfl⟩
  have hgenuine : ∀ b', begin (inMode absentService.1 false) absentService.2 = .ok b' →
      Genuine ⟨b'.answer, [[0x7B], [0x7D, 0x0A]], .clean⟩ := by
    intro b' hb'
    obtain rfl : b = b' := Except.ok.inj (hbegin.symm.trans hb')
    rw [hanswer]
    refine ⟨nofun, ?_, ?_⟩ <;> rintro _ ⟨⟩ <;> rfl
  have hhonest : ∀ b', begin (inMode absentService.1 false) absentService.2 = .ok b' →
      Honest ⟨b'.answer, [[0x7B]], .broken connectionReset⟩ := by
    intro b' hb'
    obtain rfl : b = b' := Except.ok.inj (hbegin.symm.trans hb')
    rw [hanswer]
    refine ⟨nofun, ?_⟩
    rintro _ ⟨⟩ _ ⟨⟩
    rfl
  obtain ⟨-, hall, hrun⟩ := modes_agree absentService.1 absentService.2 rfl rfl
    [[0x7B], [0x7D, 0x0A]] .clean fun b' hb' => (hgenuine b' hb').honest
  obtain ⟨-, hall', -⟩ := modes_agree absentService.1 absentService.2 rfl rfl [[0x7B]]
    (.broken connectionReset) hhonest
  have hagrees := (hall _ a (by decide) hturns).2.2 hended
  rw [(hrun hgenuine).1] at hagrees
  exact ⟨⟨a, hturns, hreason, hagrees⟩, a', hturns', hreason',
    (hall' _ a' (by decide) hturns').2.2 hended'⟩

end JobWatch.Program
