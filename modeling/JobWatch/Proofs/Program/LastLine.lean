import JobWatch.Proofs.Program.Runs

/-!
The last line of a feed, with a line feed behind it or without.

Without one, the line is read when the feed has ended, and nobody looks any more whether its report
has stopped the watch. So the stream may end early where it else would end as a cancelled one. The
watch takes the same reports and has been stopped then, and it makes nothing of either failure.
-/

namespace JobWatch

namespace Feed

variable {σ : Type} {k : Sink σ} {maxLine : Nat}

/-! ### One more line feed -/

/-- How the account of a feed goes over into that of the feed with one more line feed. -/
structure Account.Closes (k : Sink σ) (s : σ) (a a' : Account) : Prop where
  delivered : a'.delivered = a.delivered
  /-- The results differ only if the last report has cancelled. -/
  result : a'.result = a.result ∨ k.isCancelled (a.delivered.foldl k.deliver s) = true ∧
    a.result = .error .unexpectedEof ∧ a'.result = .error .cancelled

lemma Account.Closes.refl (k : Sink σ) (s : σ) (a : Account) : a.Closes k s a := ⟨rfl, .inl rfl⟩

/-- A report in front changes nothing about this. -/
lemma Account.Closes.after {s : σ} {a a' : Account} {r : Report}
    (h : a.Closes k (k.deliver s r) a') : (a.after [r]).Closes k s (a'.after [r]) := by
  refine ⟨?_, h.result⟩
  rw [Account.after, Account.after, h.delivered]

lemma account_nil (s : σ) : account k maxLine s [] .clean = ⟨[], .error .unexpectedEof⟩ := by
  rw [account_tail k maxLine List.not_mem_nil]
  rfl

/-- What is read at the end of a feed is read as a line as well. -/
lemma account_tail_lineFeed {bs : List UInt8} (hfree : lineFeed ∉ bs) (s : σ) :
    (account k maxLine s bs .clean).Closes k s
      (account k maxLine s (bs ++ [lineFeed]) .clean) := by
  rw [account_tail k maxLine hfree, account_line k maxLine hfree, tailAccount]
  by_cases hlong : bs.length > maxLine
  · rw [if_pos hlong, if_pos hlong]
    exact .refl k s _
  rw [if_neg hlong, if_neg hlong]
  by_cases hblank : bs.all Text.isBlankByte = true
  · rw [if_pos hblank, if_pos hblank, account_nil]
    exact .refl k s _
  rw [if_neg hblank, if_neg hblank]
  rcases Report.ofBytes bs with f | r
  · exact .refl k s _
  · dsimp only
    by_cases hfinal : r.isFinal = true
    · rw [if_pos hfinal, if_pos hfinal]
      exact .refl k s _
    rw [if_neg hfinal, if_neg hfinal]
    by_cases hcancelled : k.isCancelled (k.deliver s r) = true
    · rw [if_pos hcancelled]
      exact ⟨rfl, .inr ⟨hcancelled, rfl, rfl⟩⟩
    · rw [if_neg hcancelled, account_nil]
      exact ⟨rfl, .inl rfl⟩

/-- **One more line feed** changes no report that is delivered, and the result at most if the last
report has cancelled. -/
theorem account_lineFeed (s : σ) (bs : List UInt8) :
    (account k maxLine s bs .clean).Closes k s
      (account k maxLine s (bs ++ [lineFeed]) .clean) := by
  induction bs using lineInduction generalizing s with
  | tail bs hfree => exact account_tail_lineFeed hfree s
  | line line rest hfree ih =>
    rw [List.append_assoc, List.cons_append, account_line k maxLine hfree,
      account_line k maxLine hfree]
    by_cases hlong : line.length > maxLine
    · rw [if_pos hlong, if_pos hlong]
      exact .refl k s _
    rw [if_neg hlong, if_neg hlong]
    by_cases hblank : line.all Text.isBlankByte = true
    · rw [if_pos hblank, if_pos hblank]
      exact ih s
    rw [if_neg hblank, if_neg hblank]
    rcases Report.ofBytes line with f | r
    · exact .refl k s _
    · dsimp only
      by_cases hfinal : r.isFinal = true
      · rw [if_pos hfinal, if_pos hfinal]
        exact .refl k s _
      rw [if_neg hfinal, if_neg hfinal]
      by_cases hcancelled : k.isCancelled (k.deliver s r) = true
      · rw [if_pos hcancelled, if_pos hcancelled]
        exact .refl k s _
      · rw [if_neg hcancelled, if_neg hcancelled]
        exact (ih (k.deliver s r)).after

end Feed

/-! ### The watch of the feed -/

/-- What a failure tells, but for the message of its cause. -/
def MonitorError.gist (e : MonitorError) : Operation × String × AdminErrorKind :=
  (e.operation, e.target, e.cause.kind)

namespace Program

open Feed (Result arrivalsOf lineFeed)

/-- Two watches come to the same: what was written, the snapshot, why the watch was stopped, and
what is returned, but for the message of a failure. -/
structure Alike (x y : Watch × Except MonitorError Unit) : Prop where
  route : y.1.route = x.1.route
  latest : y.1.monitor.latest = x.1.monitor.latest
  cancellation : y.1.monitor.cancellation = x.1.monitor.cancellation
  verdict : y.2.mapError MonitorError.gist = x.2.mapError MonitorError.gist

variable {w : Watch} {r r' : Result} {e e' : AdminError}

lemma isCancelled_congr (h : e'.kind = e.kind) : e'.isCancelled = e.isCancelled := by
  rw [AdminError.isCancelled, AdminError.isCancelled, h]

/-- Of a failure the watch looks at the kind only. -/
lemma verdict_congr (h : e'.kind = e.kind) :
    (w.finish (.error e')).2.mapError MonitorError.gist =
      (w.finish (.error e)).2.mapError MonitorError.gist := by
  rw [Watch.finish, Watch.finish, isCancelled_congr h]
  split
  · rfl
  · simp only [Except.mapError, MonitorError.gist, h]

/-- Failures of a feed are alike if they are of one kind, or if the watch has been stopped. -/
lemma alike_failed (h : e'.kind = e.kind ∨ w.isCancelled = true) :
    Alike (w.finish (.error e)) (w.finish (.error e')) := by
  obtain ⟨journal, hfinish⟩ := Watch.finish_error_eq w e
  obtain ⟨journal', hfinish'⟩ := Watch.finish_error_eq w e'
  refine ⟨by rw [hfinish, hfinish'], by rw [hfinish, hfinish'], by rw [hfinish, hfinish'], ?_⟩
  rcases h with h | hw
  · exact verdict_congr h
  · rw [Interplay.finish_stopped hw, Interplay.finish_stopped hw]

/-- The ends of two feeds, of which the one may have been cancelled where the other ended early. -/
lemma alike_finish
    (h : r'.kind = r.kind ∨ w.isCancelled = true ∧ r.kind = .error .unexpectedEof ∧
      r'.kind = .error .cancelled) :
    Alike (w.finish r) (w.finish r') := by
  rcases r with e | u <;> rcases r' with e' | u'
  · exact alike_failed (h.imp Except.error.inj And.left)
  · simp [Result.kind, Except.mapError] at h
  · simp [Result.kind, Except.mapError] at h
  · exact ⟨rfl, rfl, rfl, rfl⟩

/-- The stream of a feed that is answered. -/
lemma opened_success {a : Http.Response} (ha : a.received.isSuccess = true)
    (hw : w.isCancelled = false) : Client.opened sink w (.ok a) = .reading {} := by
  rw [Feed.Reader.opened_running hw, Feed.Reader.opened_eq]
  exact if_pos ha

/-- **A missing last line feed does not matter.** A watch calls for its feed, and the body of the
answer comes in any chunks until it ends; and once more, in other chunks and with one more line
feed. Both streams end and leave the same watch, and what it makes of their ends is alike: what was
written, the snapshot, the reason, and what is returned, but for the message of a failure. The
streams end with the same kind of result, too, unless the last report has stopped the watch: then
the one ends early and the other as a cancelled one. -/
theorem last_lineFeed_immaterial (maxLine : Nat) (w : Watch) {a a' : Http.Response}
    (ha : a.received.isSuccess = true) (ha' : a'.received.isSuccess = true)
    {chunks chunks' : List (List UInt8)} (h : chunks'.flatten = chunks.flatten ++ [lineFeed]) :
    ∃ u r r',
      Feed.steps sink maxLine w (Client.opened sink w (.ok a)) (arrivalsOf chunks .clean) =
        (u, .ended r) ∧
      Feed.steps sink maxLine w (Client.opened sink w (.ok a')) (arrivalsOf chunks' .clean) =
        (u, .ended r') ∧
      Alike (u.finish r) (u.finish r') ∧
      (r'.kind = r.kind ∨ u.isCancelled = true ∧ r.kind = .error .unexpectedEof ∧
        r'.kind = .error .cancelled) := by
  rcases hw : w.isCancelled with _ | _
  · obtain ⟨r, hsteps, hkind⟩ := Feed.steps_account sink maxLine (s := w) hw chunks .clean
    obtain ⟨r', hsteps', hkind'⟩ := Feed.steps_account sink maxLine (s := w) hw chunks' .clean
    obtain ⟨hdelivered, hresult⟩ : (Feed.account sink maxLine w chunks.flatten .clean).Closes sink w
        (Feed.account sink maxLine w (chunks.flatten ++ [lineFeed]) .clean) :=
      Feed.account_lineFeed w chunks.flatten
    rw [h, hdelivered] at hsteps'
    rw [h] at hkind'
    rw [← hkind, ← hkind'] at hresult
    rw [opened_success ha hw, opened_success ha' hw]
    exact ⟨_, r, r', hsteps, hsteps', alike_finish hresult, hresult⟩
  · have hopened := Feed.Reader.opened_cancelled (k := sink) hw
    rw [hopened, hopened, Feed.steps_ended, Feed.steps_ended]
    exact ⟨w, _, _, rfl, rfl, alike_finish (.inl rfl), .inl rfl⟩

/-- A report that shows no jobs, in two chunks and with nothing behind it. -/
def openChunks : List (List UInt8) := [[0x7B], [0x7D]]

/-- The report in one chunk, with a line feed behind it. -/
def closedChunks : List (List UInt8) := [[0x7B, 0x7D, 0x0A]]

/-- The streams end in different ways, and all is well both times. -/
theorem last_lineFeed_immaterial_absent :
    (Http.Response.received ⟨200, [0x7B, 0x7D], .complete⟩).isSuccess = true ∧
    (Http.Response.received ⟨200, [0x7B, 0x7D, 0x0A], .complete⟩).isSuccess = true ∧
    closedChunks.flatten = openChunks.flatten ++ [lineFeed] ∧
    ∃ u r r',
      Feed.steps sink 80 (.fresh "s" "j") (.reading {}) (arrivalsOf openChunks .clean) =
        (u, .ended r) ∧
      Feed.steps sink 80 (.fresh "s" "j") (.reading {}) (arrivalsOf closedChunks .clean) =
        (u, .ended r') ∧
      r.kind = .error .unexpectedEof ∧ r'.kind = .error .cancelled ∧
      Alike (u.finish r) (u.finish r') := by
  have hopen : (Http.Response.received ⟨200, [0x7B, 0x7D], .complete⟩).isSuccess = true := rfl
  have hclosed : (Http.Response.received ⟨200, [0x7B, 0x7D, 0x0A], .complete⟩).isSuccess = true :=
    rfl
  have hmore : closedChunks.flatten = openChunks.flatten ++ [lineFeed] := rfl
  obtain ⟨u, r, r', hsteps, hsteps', halike, -⟩ :=
    last_lineFeed_immaterial 80 (.fresh "s" "j") hopen hclosed hmore
  -- the kinds of the results are told by the accounts
  have haccount : Feed.account sink 80 (.fresh "s" "j") openChunks.flatten .clean =
      ⟨[{}], .error .unexpectedEof⟩ := by decide +kernel
  have haccount' : Feed.account sink 80 (.fresh "s" "j") closedChunks.flatten .clean =
      ⟨[{}], .error .cancelled⟩ := by decide +kernel
  obtain ⟨r₁, hended, hkind⟩ :=
    Feed.steps_account sink 80 (s := .fresh "s" "j") rfl openChunks .clean
  obtain ⟨r₁', hended', hkind'⟩ :=
    Feed.steps_account sink 80 (s := .fresh "s" "j") rfl closedChunks .clean
  obtain ⟨-, ⟨⟩⟩ := Prod.ext_iff.1 (hsteps.symm.trans hended)
  obtain ⟨-, ⟨⟩⟩ := Prod.ext_iff.1 (hsteps'.symm.trans hended')
  rw [haccount] at hkind
  rw [haccount'] at hkind'
  exact ⟨hopen, hclosed, hmore, u, r, r', hsteps, hsteps', hkind, hkind', halike⟩

end Program

end JobWatch
