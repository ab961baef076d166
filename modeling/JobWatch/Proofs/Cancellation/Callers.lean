import JobWatch.Proofs.Cancellation.FirstReason

/-!
Many callers of one stop signal.

The reason and the signal are two cells, which all clones share. A call to cancel looks at them one
after the other: it records its reason if there is none, it trips the signal, and its caller is told
whether the reason was the first. Calls on any clones, and observers that look at one of the cells,
take turns in any order. Since the reason is recorded before the signal is tripped, whoever finds
the signal tripped finds a reason, unless the signal was tripped directly.
-/

namespace JobWatch

namespace Callers

/-- How far a call has come. -/
inductive Place where
  /-- Its reason is to be recorded. -/
  | called
  /-- The signal is to be tripped. -/
  | recorded (first : Bool)
  /-- The caller is to be told whether the reason was the first. -/
  | tripped (first : Bool)
  | told (first : Bool)

/-- A call to cancel on a clone of the signal. -/
structure Call where
  clone : Nat
  reason : StopReason
  place : Place := .called

namespace Call

/-- What the caller was told or will be told, once that is settled. -/
def answer? (k : Call) : Option Bool :=
  match k.place with
  | .called => none
  | .recorded first | .tripped first | .told first => some first

/-- Whether the caller was told or will be told that its reason was the first. -/
def isFirst (k : Call) : Bool := k.answer? == some true

/-- The next step of a call; none if the caller was told. -/
def advance (k : Call) (c : Cancellation) : Option (Cancellation × Call) :=
  match k.place with
  | .called => some ((c.record k.reason).1, { k with place := .recorded (c.record k.reason).2 })
  | .recorded first => some (c.trip, { k with place := .tripped first })
  | .tripped first => some (c, { k with place := .told first })
  | .told _ => none

end Call

inductive Turn where
  /-- A clone is made of a clone. -/
  | clone (of : Nat)
  | call (clone : Nat) (reason : StopReason)
  /-- The next step of a call. -/
  | advance (call : Nat)
  /-- The signal is tripped directly, without a reason. -/
  | tripToken (clone : Nat)
  /-- Somebody looks whether the signal is tripped, or is woken by it. -/
  | sees (clone : Nat) (tripped : Bool)
  /-- Somebody looks at the reason. -/
  | reads (clone : Nat) (reason : Option StopReason)
  deriving DecidableEq

def Turn.isDirect : Turn → Bool
  | .tripToken _ => true
  | _ => false

end Callers

/-- A signal, the number of its clones, and the calls in the order in which they were begun. -/
structure Callers where
  signal : Cancellation := {}
  clones : Nat := 1
  calls : List Callers.Call := []

namespace Callers

/-- A turn; none if it is not possible. -/
def turn (w : Callers) : Turn → Option Callers
  | .clone of => if of < w.clones then some { w with clones := w.clones + 1 } else none
  | .call clone reason =>
    if clone < w.clones then some { w with calls := w.calls ++ [{ clone, reason }] } else none
  | .advance i =>
    w.calls[i]?.bind fun k => (k.advance w.signal).map fun p =>
      { w with signal := p.1, calls := w.calls.set i p.2 }
  | .tripToken clone => if clone < w.clones then some { w with signal := w.signal.trip } else none
  | .sees clone tripped =>
    if clone < w.clones ∧ tripped = w.signal.tripped then some w else none
  | .reads clone reason =>
    if clone < w.clones ∧ reason = w.signal.reason then some w else none

def run (w : Callers) (ts : List Turn) : Option Callers := ts.foldlM turn w

/-- The reasons of the calls whose callers were told or will be told that they are the first. -/
def winners (ks : List Call) : List StopReason := (ks.filter Call.isFirst).map Call.reason

variable {w v u : Callers} {t : Turn} {ts : List Turn} {direct : Bool}

lemma run_nil : w.run [] = some w := rfl

lemma run_cons (t : Turn) (ts : List Turn) : w.run (t :: ts) = (w.turn t).bind (·.run ts) := by
  rw [run, List.foldlM_cons]
  rfl

lemma run_append (ts us : List Turn) : w.run (ts ++ us) = (w.run ts).bind (·.run us) := by
  rw [run, List.foldlM_append]
  rfl

/-- A turn of a run, between two runs. -/
lemma run_mem (h : w.run ts = some v) (ht : t ∈ ts) :
    ∃ before x y after, w.run before = some x ∧ x.turn t = some y ∧ y.run after = some v := by
  obtain ⟨before, after, rfl⟩ := List.mem_iff_append.1 ht
  rw [run_append, Option.bind_eq_some_iff] at h
  obtain ⟨x, hbefore, h⟩ := h
  rw [run_cons, Option.bind_eq_some_iff] at h
  obtain ⟨y, hturn, hafter⟩ := h
  exact ⟨before, x, y, after, hbefore, hturn, hafter⟩

/-! ### Calls -/

/-- **What a step of a call does.** It settles the answer as it records the reason; what comes after
leaves answer and reason as they are. -/
lemma advance_cases {k k' : Call} {c c' : Cancellation} (h : k.advance c = some (c', k')) :
    k'.reason = k.reason ∧
    (k.answer? = none ∧ k'.answer? = some c.reason.isNone ∧
        c' = ⟨c.tripped, c.reason.or (some k.reason)⟩ ∨
      k.answer?.isSome ∧ k'.answer? = k.answer? ∧ (c' = c ∨ c' = c.trip)) := by
  obtain ⟨clone, reason, place⟩ := k
  cases place with
  | called =>
    rw [Call.advance, Cancellation.record_eq] at h
    cases h
    exact ⟨rfl, .inl ⟨rfl, rfl, rfl⟩⟩
  | recorded first =>
    cases h
    exact ⟨rfl, .inr ⟨rfl, rfl, .inr rfl⟩⟩
  | tripped first =>
    cases h
    exact ⟨rfl, .inr ⟨rfl, rfl, .inl rfl⟩⟩
  | told first => cases h

lemma turn_advance {i : Nat} (h : w.turn (.advance i) = some v) :
    ∃ k c k', w.calls[i]? = some k ∧ k.advance w.signal = some (c, k') ∧
      v = { w with signal := c, calls := w.calls.set i k' } := by
  simp only [turn, Option.bind_eq_some_iff, Option.map_eq_some_iff] at h
  obtain ⟨k, hk, ⟨c, k'⟩, hadvance, rfl⟩ := h
  exact ⟨k, c, k', hk, hadvance, rfl⟩

/-- A call among the others, before and after a step. -/
lemma exists_split {ks : List Call} {i : Nat} {k : Call} (h : ks[i]? = some k) (k' : Call) :
    ∃ before after, ks = before ++ k :: after ∧ ks.set i k' = before ++ k' :: after := by
  obtain ⟨hi, rfl⟩ := List.getElem?_eq_some_iff.1 h
  refine ⟨ks.take i, ks.drop (i + 1), ?_, ?_⟩
  · rw [List.getElem_cons_drop, List.take_append_drop]
  · rw [List.set_eq_take_append_cons_drop, if_pos hi]

lemma winners_append (ks more : List Call) : winners (ks ++ more) = winners ks ++ winners more := by
  rw [winners, List.filter_append, List.map_append, winners, winners]

lemma winners_cons (k : Call) (ks : List Call) :
    winners (k :: ks) = (if k.answer? = some true then [k.reason] else []) ++ winners ks := by
  rw [← List.singleton_append, winners_append]
  by_cases h : k.answer? = some true <;> simp [winners, Call.isFirst, h]

/-! ### What a turn keeps -/

/-- What the calls have come to: the one that is told that it is the first has its reason recorded,
and a reason is recorded once any call is settled. The signal is not tripped without a reason,
unless it was tripped directly. -/
structure Sound (direct : Bool) (w : Callers) : Prop where
  winners : winners w.calls = w.signal.reason.toList
  settled : ∀ k ∈ w.calls, k.answer?.isSome → w.signal.reason.isSome
  tripped : direct = false → w.signal.tripped = true → w.signal.reason.isSome

lemma sound_start : Sound false {} := ⟨rfl, nofun, nofun⟩

lemma Sound.weaken (h : w.Sound direct) (b : Bool) : w.Sound (direct || b) :=
  ⟨h.winners, h.settled, fun hdirect => h.tripped (Bool.or_eq_false_iff.1 hdirect).1⟩

lemma Sound.advance {i : Nat} (h : w.Sound direct) (hturn : w.turn (.advance i) = some v) :
    v.Sound direct := by
  obtain ⟨k, c, k', hk, hadvance, rfl⟩ := turn_advance hturn
  obtain ⟨before, after, hcalls, hset⟩ := exists_split hk k'
  have hwinners := h.winners
  rw [hcalls, winners_append, winners_cons] at hwinners
  rw [hset]
  obtain ⟨hreason, ⟨hnone, hanswer, rfl⟩ | ⟨hsome, hanswer, hc⟩⟩ := advance_cases hadvance
  · have hrecorded : (w.signal.reason.or (some k.reason)).isSome := by
      cases w.signal.reason <;> rfl
    refine ⟨?_, fun _ _ _ => hrecorded, fun _ _ => hrecorded⟩
    show Callers.winners (before ++ k' :: after) = (w.signal.reason.or (some k.reason)).toList
    rw [winners_append, winners_cons, hanswer, hreason]
    rw [hnone] at hwinners
    cases hr : w.signal.reason with
    | none =>
      -- no call was the first so far
      rw [hr] at hwinners
      obtain ⟨hbefore, hafter⟩ := List.append_eq_nil_iff.1 hwinners
      rw [hbefore, List.append_eq_nil_iff.1 hafter |>.2]
      rfl
    | some r =>
      rw [hr] at hwinners
      exact hwinners
  · have hrecorded : w.signal.reason.isSome := h.settled k (List.mem_of_getElem? hk) hsome
    have hkept : c.reason = w.signal.reason := by rcases hc with rfl | rfl <;> rfl
    refine ⟨?_, fun _ _ _ => hkept ▸ hrecorded, fun _ _ => hkept ▸ hrecorded⟩
    show Callers.winners (before ++ k' :: after) = c.reason.toList
    rw [winners_append, winners_cons, hanswer, hreason, hwinners, hkept]

/-- **What every turn keeps.** -/
theorem Sound.turn (h : w.Sound direct) (hturn : w.turn t = some v) :
    v.Sound (direct || t.isDirect) := by
  cases t with
  | advance i => exact (h.advance hturn).weaken _
  | call clone reason =>
    obtain ⟨-, hv⟩ := Option.ite_none_right_eq_some.1 hturn
    cases hv
    apply Sound.weaken
    refine ⟨?_, fun k hk hsome => ?_, h.tripped⟩
    · show Callers.winners (w.calls ++ [_]) = _
      rw [winners_append, h.winners]
      exact List.append_nil _
    · rcases List.mem_append.1 hk with hk | hk
      · exact h.settled k hk hsome
      · rw [List.mem_singleton.1 hk] at hsome
        cases hsome
  | tripToken _ =>
    obtain ⟨-, hv⟩ := Option.ite_none_right_eq_some.1 hturn
    cases hv
    refine ⟨h.winners, h.settled, fun hdirect => ?_⟩
    cases (Bool.or_eq_false_iff.1 hdirect).2
  | clone _ | sees _ _ | reads _ _ =>
    obtain ⟨-, hv⟩ := Option.ite_none_right_eq_some.1 hturn
    cases hv
    apply Sound.weaken
    exact ⟨h.winners, h.settled, h.tripped⟩

/-- What holds of the calls after a run. -/
theorem Sound.run (h : w.Sound direct) (hrun : w.run ts = some v) :
    v.Sound (direct || ts.any Turn.isDirect) := by
  induction ts generalizing w direct with
  | nil =>
    cases hrun
    rw [List.any_nil, Bool.or_false]
    exact h
  | cons t ts ih =>
    rw [run_cons, Option.bind_eq_some_iff] at hrun
    obtain ⟨u, hturn, hrest⟩ := hrun
    rw [List.any_cons, ← Bool.or_assoc]
    exact ih (h.turn hturn) hrest

/-! ### What never changes -/

/-- What is settled stays: the reason, the tripped signal, and what callers are told. -/
structure Keeps (w v : Callers) : Prop where
  reason : ∀ r, w.signal.reason = some r → v.signal.reason = some r
  tripped : w.signal.tripped = true → v.signal.tripped = true
  answers : ∀ (i : Nat) (k : Call) b, w.calls[i]? = some k → k.answer? = some b →
    ∃ k' : Call, v.calls[i]? = some k' ∧ k'.reason = k.reason ∧ k'.answer? = some b

lemma Keeps.refl (w : Callers) : w.Keeps w :=
  ⟨fun _ => id, id, fun _ k _ hk hb => ⟨k, hk, rfl, hb⟩⟩

lemma Keeps.trans (h : w.Keeps v) (h' : v.Keeps u) : w.Keeps u where
  reason r hr := h'.reason r (h.reason r hr)
  tripped ht := h'.tripped (h.tripped ht)
  answers i k b hk hb := by
    obtain ⟨k', hk', hreason, hb'⟩ := h.answers i k b hk hb
    obtain ⟨k'', hk'', hreason', hb''⟩ := h'.answers i k' b hk' hb'
    exact ⟨k'', hk'', hreason'.trans hreason, hb''⟩

lemma keeps_advance {i : Nat} (hturn : w.turn (.advance i) = some v) : w.Keeps v := by
  obtain ⟨k, c, k', hk, hadvance, rfl⟩ := turn_advance hturn
  obtain ⟨hreason, hcases⟩ := advance_cases hadvance
  refine ⟨fun r hr => ?_, fun ht => ?_, fun j k₁ b hk₁ hb => ?_⟩
  · rcases hcases with ⟨-, -, rfl⟩ | ⟨-, -, rfl | rfl⟩
    · show w.signal.reason.or _ = some r
      rw [hr]
      rfl
    · exact hr
    · exact hr
  · rcases hcases with ⟨-, -, rfl⟩ | ⟨-, -, rfl | rfl⟩
    · exact ht
    · exact ht
    · rfl
  · by_cases hij : i = j
    · subst hij
      obtain rfl : k = k₁ := Option.some.inj (hk.symm.trans hk₁)
      refine ⟨k', ?_, hreason, ?_⟩
      · rw [List.getElem?_set, if_pos rfl, if_pos (List.getElem?_eq_some_iff.1 hk).1]
      · -- the answer is settled, so the reason was recorded before
        rcases hcases with ⟨hnone, -, -⟩ | ⟨-, hanswer, -⟩
        · rw [hnone] at hb
          cases hb
        · rw [hanswer, hb]
    · exact ⟨k₁, by rw [List.getElem?_set_ne hij, hk₁], rfl, hb⟩

lemma keeps_turn (hturn : w.turn t = some v) : w.Keeps v := by
  cases t with
  | advance i => exact keeps_advance hturn
  | call clone reason =>
    obtain ⟨-, hv⟩ := Option.ite_none_right_eq_some.1 hturn
    cases hv
    refine ⟨fun _ => id, id, fun i k b hk hb => ⟨k, ?_, rfl, hb⟩⟩
    rw [List.getElem?_append_left (List.getElem?_eq_some_iff.1 hk).1, hk]
  | tripToken clone =>
    obtain ⟨-, hv⟩ := Option.ite_none_right_eq_some.1 hturn
    cases hv
    exact ⟨fun _ => id, fun _ => rfl, fun _ k _ hk hb => ⟨k, hk, rfl, hb⟩⟩
  | clone _ | sees _ _ | reads _ _ =>
    obtain ⟨-, hv⟩ := Option.ite_none_right_eq_some.1 hturn
    cases hv
    exact ⟨fun _ => id, id, fun _ k _ hk hb => ⟨k, hk, rfl, hb⟩⟩

/-- **What is settled stays, whatever comes.** -/
theorem keeps_run (hrun : w.run ts = some v) : w.Keeps v := by
  induction ts generalizing w with
  | nil =>
    cases hrun
    exact Keeps.refl _
  | cons t ts ih =>
    rw [run_cons, Option.bind_eq_some_iff] at hrun
    obtain ⟨u, hturn, hrest⟩ := hrun
    exact (keeps_turn hturn).trans (ih hrest)

/-! ### What is seen -/

/-- Who sees the signal tripped sees it in a run that has tripped it. -/
lemma tripped_of_sees {clone : Nat} (hrun : w.run ts = some v) (h : .sees clone true ∈ ts) :
    v.signal.tripped = true := by
  obtain ⟨-, x, y, after, -, hturn, hafter⟩ := run_mem hrun h
  obtain ⟨⟨-, htripped⟩, hv⟩ := Option.ite_none_right_eq_some.1 hturn
  cases hv
  exact (keeps_run hafter).tripped htripped.symm

lemma tripped_of_tripToken {clone : Nat} (hrun : w.run ts = some v) (h : .tripToken clone ∈ ts) :
    v.signal.tripped = true := by
  obtain ⟨-, x, y, after, -, hturn, hafter⟩ := run_mem hrun h
  obtain ⟨-, hv⟩ := Option.ite_none_right_eq_some.1 hturn
  cases hv
  exact (keeps_run hafter).tripped rfl

/-- Nobody sees a tripped signal untripped. -/
lemma sees_of_tripped {clone : Nat} {b : Bool} (hrun : w.run ts = some v)
    (hw : w.signal.tripped = true) (h : .sees clone b ∈ ts) : b = true := by
  obtain ⟨before, x, y, -, hbefore, hturn, -⟩ := run_mem hrun h
  obtain ⟨⟨-, htripped⟩, -⟩ := Option.ite_none_right_eq_some.1 hturn
  rw [htripped, (keeps_run hbefore).tripped hw]

/-- Whoever looks at a reason that is recorded finds it. -/
lemma reads_of_recorded {clone : Nat} {r : StopReason} {found : Option StopReason}
    (hrun : w.run ts = some v) (hw : w.signal.reason = some r) (h : .reads clone found ∈ ts) :
    found = some r := by
  obtain ⟨before, x, y, -, hbefore, hturn, -⟩ := run_mem hrun h
  obtain ⟨⟨-, hfound⟩, -⟩ := Option.ite_none_right_eq_some.1 hturn
  rw [hfound, (keeps_run hbefore).reason r hw]

/-- As long as no reason is recorded, every call is at its beginning, and the next that goes on is
the first. -/
lemma Sound.next_first (h : w.Sound direct) (hnone : w.signal.reason = none) {i : Nat} {k : Call}
    (hk : w.calls[i]? = some k) :
    w.turn (.advance i) =
      some { w with
        signal := ⟨w.signal.tripped, some k.reason⟩
        calls := w.calls.set i { k with place := .recorded true } } := by
  have hsettled := h.settled k (List.mem_of_getElem? hk)
  obtain ⟨clone, reason, place⟩ := k
  cases place with
  | called => simp [Callers.turn, hk, Call.advance, Cancellation.record_eq, hnone]
  | recorded first | tripped first | told first =>
    rw [hnone] at hsettled
    cases hsettled rfl

/-! ### Calls that nothing comes between -/

/-- The steps of a call that nothing comes between make up a cancel. -/
theorem run_call {clone : Nat} (hclone : clone < w.clones) (r : StopReason) :
    w.run (.call clone r :: List.replicate 3 (.advance w.calls.length)) =
      some { w with
        signal := (w.signal.cancel r).1
        calls := w.calls ++ [⟨clone, r, .told (w.signal.cancel r).2⟩] } := by
  simp [List.replicate, run_cons, run_nil, turn, hclone, Call.advance, Cancellation.cancel]

/-- A display that asks to stop, possibly several times over, is a caller like any other. -/
theorem run_obey {m : Monitor} (hm : w.signal = m.cancellation) (hclones : 0 < w.clones)
    (rs : List StopReason) :
    ∃ ts v, w.run ts = some v ∧ v.signal = (m.obey rs).1.cancellation := by
  induction rs generalizing w m with
  | nil => exact ⟨[], w, rfl, hm⟩
  | cons r rs ih =>
    have hcancel : (w.signal.cancel r).1 =
        ((m.note .info .effects ("Display quitting: " ++ r.text)).cancel r).cancellation := by
      obtain ⟨journal, hobeyed⟩ :=
        (m.note .info .effects ("Display quitting: " ++ r.text)).cancel_changes r
      rw [hobeyed, hm, Cancellation.cancel_eq]
      rfl
    have hcall := run_call hclones r
    obtain ⟨ts, v, hrun, hv⟩ := ih (w := { w with
      signal := (w.signal.cancel r).1
      calls := w.calls ++ [⟨0, r, .told (w.signal.cancel r).2⟩] }) hcancel hclones
    refine ⟨.call 0 r :: List.replicate 3 (.advance w.calls.length) ++ ts, v, ?_, hv⟩
    rw [run_append, hcall, Option.bind_some, hrun]

/-! ### Any number of callers -/

/-- **The first reason wins, however calls and observers interleave.** The calls that are the first
are one, with the recorded reason, or none, as long as none is recorded. The reason and the tripped
signal stay, and so does what a caller was told or will be told. Unless the signal was tripped
directly, whoever has seen it tripped finds the reason, on every clone. A signal that is tripped
directly is given no reason; as long as none is recorded, the next call that goes on is the
first. -/
theorem first_reason_wins (ts more : List Turn) {w v : Callers}
    (hw : ({} : Callers).run ts = some w) (hv : w.run more = some v) :
    winners w.calls = w.signal.reason.toList ∧
    w.Keeps v ∧
    ((∀ c, .tripToken c ∉ ts) → (w.signal.tripped = true → w.signal.reason.isSome) ∧
      ∀ c, .sees c true ∈ ts → ∃ r, w.signal.reason = some r ∧
        ∀ c', (∀ b, .sees c' b ∈ more → b = true) ∧
          ∀ found, .reads c' found ∈ more → found = some r) ∧
    (∀ c u, w.turn (.tripToken c) = some u → u.signal = ⟨true, w.signal.reason⟩) ∧
    (w.signal.reason = none →
      (∀ c, .tripToken c ∈ ts → w.signal = ⟨true, none⟩) ∧
      ∀ i k, w.calls[i]? = some k → ∃ u, w.turn (.advance i) = some u ∧
        u.signal = ⟨w.signal.tripped, some k.reason⟩ ∧
        u.calls[i]? = some { k with place := .recorded true }) := by
  have hsound := sound_start.run hw
  refine ⟨hsound.winners, keeps_run hv, fun hdirect => ?_, fun c u hu => ?_, fun hnone => ⟨?_, ?_⟩⟩
  · have hany : ts.any Turn.isDirect = false := by
      rw [List.any_eq_false]
      intro t ht hdir
      cases t with
      | tripToken c => exact hdirect c ht
      | clone _ | call _ _ | advance _ | sees _ _ | reads _ _ => cases hdir
    rw [hany] at hsound
    refine ⟨hsound.tripped rfl, fun c hsees => ?_⟩
    have htripped := tripped_of_sees hw hsees
    obtain ⟨r, hr⟩ := Option.isSome_iff_exists.1 (hsound.tripped rfl htripped)
    exact ⟨r, hr, fun c' => ⟨fun b => sees_of_tripped hv htripped,
      fun found => reads_of_recorded hv hr⟩⟩
  · obtain ⟨-, hu⟩ := Option.ite_none_right_eq_some.1 hu
    cases hu
    rfl
  · intro c hc
    have htripped := tripped_of_tripToken hw hc
    rw [show w.signal = ⟨w.signal.tripped, w.signal.reason⟩ from rfl, htripped, hnone]
  · intro i k hk
    refine ⟨_, hsound.next_first hnone hk, rfl, ?_⟩
    rw [List.getElem?_set, if_pos rfl, if_pos (List.getElem?_eq_some_iff.1 hk).1]

/-- Two callers: the second records its reason, and the first trips the signal for it. -/
def race : List Turn := [
  .clone 0, .call 0 .interrupted, .call 1 .jobFailed, .advance 1, .advance 0, .advance 0,
  .sees 1 true]

/-- The end of both calls. -/
def raceEnd : List Turn := [.reads 0 (some .jobFailed), .advance 0, .advance 1, .advance 1]

/-- A signal that is tripped directly before a call goes on. -/
def bareTrip : List Turn := [.call 0 .shutdown, .tripToken 0]

theorem first_reason_wins_race :
    (∃ w v, ({} : Callers).run race = some w ∧ w.run raceEnd = some v ∧
      winners w.calls = [.jobFailed] ∧ v.signal.reason = some .jobFailed) ∧
    ∃ w, ({} : Callers).run bareTrip = some w ∧ w.signal = ⟨true, none⟩ ∧
      ∃ u, w.turn (.advance 0) = some u ∧ u.signal = ⟨true, some .shutdown⟩ := by
  constructor
  · refine ⟨_, _, rfl, rfl, ?_⟩
    obtain ⟨hwinners, hkeeps, -⟩ := first_reason_wins race raceEnd rfl rfl
    exact ⟨hwinners, hkeeps.reason .jobFailed rfl⟩
  · refine ⟨_, rfl, ?_⟩
    obtain ⟨-, -, -, -, hdirect⟩ := first_reason_wins bareTrip [] rfl rfl
    obtain ⟨htripped, hnext⟩ := hdirect rfl
    obtain ⟨u, hu, hsignal, -⟩ := hnext 0 _ rfl
    exact ⟨htripped 0 (by decide), u, hu, hsignal⟩

end Callers

end JobWatch
