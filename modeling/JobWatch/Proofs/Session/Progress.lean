import JobWatch.Proofs.Session.Accord

/-!
A session comes to its end.

Every turn of the feed and of the display lowers a weight, which grows only by what others put into
the queue, so there are only so many turns. And as long as the display has not returned, one of the
two can take a turn, unless they wait for others to leave who know that the watch is cancelled.
-/

namespace JobWatch

variable {φ : Type}

/-- A call that never waits and always comes closer to its end. -/
structure Call.Advances (P : Call φ) (size : φ → Nat) : Prop where
  ready : ∀ p c, (P p c).isSome
  onward : ∀ {p p' : φ} {c : Bool}, P p c = some (.onward p') → size p' < size p
  deliver : ∀ {p p' : φ} {c : Bool} {r : Report}, P p c = some (.deliver r p') → size p' < size p

lemma Recital.advances (c : Recital) : Call.Advances c.next List.length := by
  -- the places that a recital goes to
  have hmove {rest : List Report} {cancelled : Bool} {m : Move (List Report)}
      (h : c.next rest cancelled = some m) :
      (∃ e, m = .finish e) ∨ ∃ r rest', rest = r :: rest' ∧ m = .deliver r rest' := by
    unfold Recital.next at h
    split at h
    · exact .inl ⟨_, (Option.some.inj h).symm⟩
    · cases rest with
      | nil => exact .inl ⟨_, (Option.some.inj h).symm⟩
      | cons r rest => exact .inr ⟨r, rest, rfl, (Option.some.inj h).symm⟩
  constructor
  · intro rest cancelled
    unfold Recital.next
    split
    · rfl
    · cases rest <;> rfl
  · intro p p' cancelled h
    rcases hmove h with ⟨e, he⟩ | ⟨r, rest, -, hr⟩
    · cases he
    · cases hr
  · intro p p' cancelled r h
    rcases hmove h with ⟨e, he⟩ | ⟨r', rest, rfl, hr⟩
    · cases he
    · cases hr
      exact Nat.lt_succ_self _

/-! ### The weight -/

/-- A bound on the turns that the feed still takes, and the signals that it sends. -/
def FeedPlace.weight (size : φ → Nat) : FeedPlace φ → Nat
  | .calling p => 10 * size p + 10
  | .offering _ p => 10 * size p + 19
  | .sending _ p => 10 * size p + 18
  | .concluding _ p => 10 * size p + 14
  | .tripping _ _ p => 10 * size p + 13
  | .returned _ => 9
  | .closing _ => 8
  | .leaving _ => 7
  | .left _ => 6
  | .done => 5

def DisplayPlace.weight : DisplayPlace → Nat
  | .starting => 8
  | .polling => 7
  | .waiting => 6
  | .obeying _ => 5
  | .tripping _ _ => 4
  | .closing => 3
  | .restoring _ => 2
  | .joining => 1
  | .returned => 0

/-- Whether a turn puts a signal into the queue. -/
def Turn.posts : Turn → Bool
  | .spinner | .interrupt => true
  | _ => false

namespace Interplay

variable {P : Call φ} {size : φ → Nat} {jobId : String} {theme : Theme} {out : Output}
  {x y : Interplay φ}

def weight (size : φ → Nat) (x : Interplay φ) : Nat :=
  x.feed.weight size + x.display.weight + 3 * x.queue.length +
    (if x.session.heard then 0 else 2) + (if x.others then 1 else 0)

lemma FeedStep.others (h : FeedStep P x y) : y.others = x.others := by
  cases h <;> rfl

/-- A turn of the feed leaves less to do, what it sends included. -/
lemma FeedStep.lowers (hadvances : P.Advances size) (hfed : x.Fed jobId) (h : FeedStep P x y) :
    y.feed.weight size + 3 * y.queue.length + 1 ≤ x.feed.weight size + 3 * x.queue.length := by
  -- most turns only bring the feed to its next place
  have hmoves {f : FeedPlace φ} (hfeed : x.feed = f) (hqueue : y.queue = x.queue)
      (hless : y.feed.weight size + 1 ≤ f.weight size) :
      y.feed.weight size + 3 * y.queue.length + 1 ≤
        x.feed.weight size + 3 * x.queue.length := by
    rw [hfeed, hqueue]
    omega
  cases h with
  | onward hfeed hmove =>
    have hsize := hadvances.onward hmove
    exact hmoves hfeed rfl (by simp only [FeedPlace.weight]; omega)
  | offer hfeed hmove =>
    have hsize := hadvances.deliver hmove
    exact hmoves hfeed rfl (by simp only [FeedPlace.weight]; omega)
  | keep hfeed hrunning =>
    refine hmoves hfeed ?_ (by simp only [FeedPlace.weight]; omega)
    exact congrArg Route.queue (Watch.keep_route ..)
  | @send r p hfeed =>
    obtain ⟨queue, hroute⟩ := hfed.route
    have hqueue : x.queue = queue := by
      rw [Interplay.queue, hroute]
      rfl
    rw [Watch.send_open hroute, hfeed, hqueue]
    show 10 * size p + 14 + 3 * (queue ++ [Signal.report r]).length + 1 ≤ _
    rw [FeedPlace.weight, List.length_append, List.length_singleton]
    omega
  | @fail e hfeed =>
    obtain ⟨journal, hfinish⟩ := Watch.finish_error_eq x.session.watch e
    refine hmoves hfeed ?_ (by simp only [FeedPlace.weight]; omega)
    rw [hfinish]
    rfl
  | _ hfeed => exact hmoves hfeed rfl (by simp only [FeedPlace.weight]; omega)

/-- After a signal the display looks at the queue again, or is further than that. -/
lemma weight_take (x : Interplay φ) (g : Signal) : (x.take g).display.weight ≤ 7 :=
  take_display (p := (·.weight ≤ 7)) (by decide)
    (fun stop => by cases stop <;> simp [DisplayPlace.after, DisplayPlace.weight]) x g

lemma weight_hear (x : Interplay φ) : x.hear.display.weight ≤ 7 :=
  hear_display (p := (·.weight ≤ 7)) (by decide) (by decide) x

/-- A display that runs stops when it is told of the end of the feed. -/
lemma weight_closed {s₀ : Screen} (hfresh : s₀.display.quitting = false) (h : x.Looping s₀ []) :
    (x.take .feedClosed).display.weight ≤ 5 := by
  have hrunning : (s₀.display.run x.taken).1.quitting = false := by
    rw [Display.run_quitting hfresh, h.stops]
    rfl
  have hstop : ((s₀.display.run x.taken).1.update .feedClosed).2 = some .feedClosed := by
    rw [Display.update, hrunning]
    rfl
  rw [take_of_screen h.screen, hstop]
  dsimp only
  split
  · decide
  · decide

/-- A turn of the display leaves less to do, the queue and the news of the feed included. -/
lemma DisplayStep.lowers {s₀ : Screen} (hfresh : s₀.display.quitting = false) (hshows : x.Shows s₀)
    (h : DisplayStep x y) :
    y.display.weight + 3 * y.queue.length + (if y.session.heard then 0 else 2) + 1 ≤
      x.display.weight + 3 * x.queue.length + (if x.session.heard then 0 else 2) := by
  have hpolling (hdisplay : x.display = .polling ∨ x.display = .waiting) :
      6 ≤ x.display.weight := by
    rcases hdisplay with hdisplay | hdisplay <;> rw [hdisplay] <;> decide
  -- what most turns leave alone
  have hmoves (hqueue : y.queue = x.queue) (hheard : y.session.heard = x.session.heard)
      (hless : y.display.weight + 1 ≤ x.display.weight) :
      y.display.weight + 3 * y.queue.length + (if y.session.heard then 0 else 2) + 1 ≤
        x.display.weight + 3 * x.queue.length + (if x.session.heard then 0 else 2) := by
    rw [hqueue, hheard]
    omega
  have hhears (hqueue : y.queue = x.queue) (hbefore : x.session.heard = false)
      (hheard : y.session.heard = true) (hless : y.display.weight ≤ 7)
      (hdisplay : x.display = .polling ∨ x.display = .waiting) :
      y.display.weight + 3 * y.queue.length + (if y.session.heard then 0 else 2) + 1 ≤
        x.display.weight + 3 * x.queue.length + (if x.session.heard then 0 else 2) := by
    have hsix := hpolling hdisplay
    rw [hqueue, hbefore, hheard]
    simp only [if_true, Bool.false_eq_true, if_false]
    omega
  have hheard (hending : x.session.ending.isSome) : x.hear.session.heard = true := by
    obtain ⟨v, hv⟩ := Option.isSome_iff_exists.1 hending
    rcases v with e | _ <;> simp only [hear, Session.hear, hv]
  have hqueue : x.hear.queue = x.queue := by
    rw [queue, hear_watch]
    rfl
  cases h with
  | begin hdisplay =>
    refine hmoves rfl rfl ?_
    rw [hdisplay]
    dsimp only
    split
    · decide
    · decide
  | @take g queue isOpen hdisplay hroute =>
    have hseven := weight_take
      (x.withWatch { x.session.watch with route := .display queue isOpen }) g
    have hsix := hpolling hdisplay
    have hlength : x.queue.length = queue.length + 1 := by
      rw [Interplay.queue, hroute]
      rfl
    rw [hlength]
    show _ + 3 * queue.length + (if x.session.heard then 0 else 2) + 1 ≤ _
    omega
  | wait hdisplay hqueue hopen =>
    refine hmoves rfl rfl ?_
    rw [hdisplay]
    exact Nat.le_refl _
  | closed hdisplay hqueue hclosed hheard =>
    have hfive := weight_closed hfresh (hshows.stage.looping hdisplay)
    have hsix := hpolling hdisplay
    exact hmoves rfl rfl (by omega)
  | hearClosed hdisplay hqueue' hclosed hbefore hending hover =>
    exact hhears hqueue hbefore (hheard hending) (weight_take _ _) hdisplay
  | hearFailed hdisplay hbefore hending hover =>
    exact hhears hqueue hbefore (hheard hending) (weight_hear _) hdisplay
  | listen hdisplay hbefore hending =>
    exact hhears hqueue hbefore (hheard hending) (weight_hear _) (.inr hdisplay)
  | join hdisplay hending =>
    obtain ⟨journal, hjoin⟩ := join_eq hending
    rw [hjoin] at hmoves ⊢
    refine hmoves rfl rfl ?_
    rw [hdisplay]
    exact Nat.le_refl _
  | _ hdisplay =>
    refine hmoves rfl rfl ?_
    rw [hdisplay]
    exact Nat.le_refl _

/-- Every turn lowers the weight, except those that put a signal into the queue. -/
lemma weight_turn {s₀ : Screen} (hadvances : P.Advances size) (hfresh : s₀.display.quitting = false)
    (hfed : x.Fed jobId) (hlast : x.EndsLast) (hshows : x.Shows s₀) {t : Turn}
    (hturn : x.turn P t = some y) :
    y.weight size + 1 ≤ x.weight size + if t.posts then 4 else 0 := by
  rcases step_of_turn hturn with ⟨rfl, hstep⟩ | ⟨ht, hstep⟩ | hstep
  · have hrests := hstep.rests hlast
    have hlowers := hstep.lowers hadvances hfed
    rw [weight, weight, hrests.display, hrests.heard, hstep.others]
    omega
  · have hrests := hstep.rests
    have hlowers := hstep.lowers hfresh hshows
    rw [weight, weight, hrests.feed, hrests.others]
    omega
  · obtain ⟨queue, hroute⟩ := hfed.route
    have hlength : x.queue.length = queue.length := by
      rw [Interplay.queue, hroute]
      rfl
    cases hstep with
    | spinner hothers =>
      rw [post_open hroute]
      show x.feed.weight size + x.display.weight + 3 * (queue ++ [Signal.spinner]).length +
        (if x.session.heard then 0 else 2) + (if x.others then 1 else 0) + 1 ≤ _ + 4
      rw [weight, hlength, List.length_append, List.length_singleton]
      omega
    | interrupt hothers =>
      rw [post_open hroute]
      show x.feed.weight size + x.display.weight + 3 * (queue ++ [Signal.interrupt]).length +
        (if x.session.heard then 0 else 2) + (if x.others then 1 else 0) + 1 ≤ _ + 4
      rw [weight, hlength, List.length_append, List.length_singleton]
      omega
    | leave hothers =>
      show x.feed.weight size + x.display.weight + 3 * x.queue.length +
        (if x.session.heard then 0 else 2) + 0 + 1 ≤ _
      rw [weight, hothers]
      exact Nat.le_refl _

/-- **There are only so many turns**, apart from those that put signals into the queue. -/
theorem length_run {s₀ : Screen} (hadvances : P.Advances size)
    (hfresh : s₀.display.quitting = false) (hfed : x.Fed jobId) (hlast : x.EndsLast) (hshows : x.Shows s₀) {ts : List Turn}
    (hrun : x.run P ts = some y) :
    ts.length + y.weight size ≤ x.weight size + 4 * ts.countP Turn.posts := by
  induction ts generalizing x with
  | nil =>
    obtain rfl := Option.some.inj hrun
    simp
  | cons t ts ih =>
    rw [run_cons, Option.bind_eq_some_iff] at hrun
    obtain ⟨z, hz, hrest⟩ := hrun
    have hstep := weight_turn hadvances hfresh hfed hlast hshows hz
    have hrun' := ih (hfed.turn hz) (hlast.turn hz) (hshows.turn hfresh hlast hz) hrest
    rw [List.length_cons, List.countP_cons]
    cases hposts : t.posts with
    | true =>
      simp only [hposts, if_true] at hstep ⊢
      omega
    | false =>
      simp only [hposts, Bool.false_eq_true, if_false] at hstep ⊢
      omega

/-! ### No deadlock -/

lemma feed_ready (hadvances : P.Advances size) (hdone : x.feed ≠ .done) :
    (x.turn P .feed).isSome := by
  show (x.feedTurn P).isSome
  rw [feedTurn]
  cases hfeed : x.feed with
  | calling p =>
    obtain ⟨m, hm⟩ := Option.isSome_iff_exists.1 (hadvances.ready p x.session.watch.isCancelled)
    dsimp only
    rw [hm]
    cases m <;> rfl
  | offering r p =>
    dsimp only
    split <;> rfl
  | concluding r p =>
    dsimp only
    split <;> rfl
  | returned e => rcases e with e | _ <;> rfl
  | done => exact absurd hfeed hdone
  | _ => rfl

/-- A display that loops on with the news of the end of the feed finds the watch cancelled. -/
lemma Orderly.heard_cancelled {target : String} {all : Left} {rest : φ → Left}
    (h : x.Orderly jobId target all rest theme out)
    (hdisplay : x.display = .polling ∨ x.display = .waiting) :
    x.session.heard = true → x.monitor.isCancelled = true := by
  intro hheard
  have hending := h.hears hheard (h.shows.stage.looping hdisplay).verdict
  have hcourse := h.course
  rw [Course, h.last.1 (by rw [hending]; rfl)] at hcourse
  obtain ⟨v, hv, hcloses⟩ := hcourse
  exact hcloses.cancelled (Option.some.inj (hv.symm.trans hending))

/-- A display in its loop can go on once the feed has ended, unless others keep the queue open who
know that the watch is cancelled. -/
lemma poll_ready (hending : x.session.ending.isSome) (hdone : x.feed = .done)
    (hcancelled : x.session.heard = true → x.monitor.isCancelled = true)
    (hdisplay : x.display = .polling ∨ x.display = .waiting) :
    (x.turn P .display).isSome ∨ (x.turn P .listen).isSome ∨
      x.others = true ∧ x.monitor.isCancelled = true := by
  have hturn : x.turn P .display = x.poll := by
    rcases hdisplay with hdisplay | hdisplay <;> simp only [turn, displayTurn, hdisplay]
  have hend : x.takeEnd.isSome := by
    rw [takeEnd]
    split
    · rfl
    · obtain ⟨v, hv⟩ := Option.isSome_iff_exists.1 hending
      rw [if_neg (by rw [hv]; simp)]
      split <;> rfl
  have hclosed : x.isClosed = !x.others := by
    rw [isClosed, hdone]
    exact Bool.and_true _
  rw [hturn, poll]
  split
  · exact .inl rfl
  · rw [hclosed]
    cases hothers : x.others with
    | false => exact .inl hend
    | true =>
      rcases hdisplay with hpolling | hwaiting
      · left
        rw [if_neg (by simp), if_pos hpolling]
        rfl
      · cases hheard : x.session.heard with
        | true => exact .inr (.inr ⟨rfl, hcancelled hheard⟩)
        | false =>
          right
          left
          simp [turn, listen, hwaiting, hending, hheard]

/-- **A session never gets stuck**: as long as the display has not returned, the feed or the display
can take a turn, or there are others who know that the watch is cancelled. -/
theorem can_turn (hadvances : P.Advances size) {target : String} {all : Left} {rest : φ → Left}
    (h : x.Orderly jobId target all rest theme out) (hreturned : x.display ≠ .returned) :
    (x.turn P .feed).isSome ∨ (x.turn P .display).isSome ∨ (x.turn P .listen).isSome ∨
      x.others = true ∧ x.monitor.isCancelled = true := by
  by_cases hdone : x.feed = .done
  · right
    have hending := h.last.2 hdone
    cases hdisplay : x.display with
    | starting | obeying reason | tripping reason first | closing | restoring first =>
      left
      simp only [turn, displayTurn, hdisplay, Option.isSome_some]
    | polling =>
      exact poll_ready hending hdone (h.heard_cancelled (.inl hdisplay)) (.inl hdisplay)
    | waiting =>
      exact poll_ready hending hdone (h.heard_cancelled (.inr hdisplay)) (.inr hdisplay)
    | joining =>
      left
      simp only [turn, displayTurn, hdisplay, hending, if_true, Option.isSome_some]
    | returned => exact absurd hdisplay hreturned
  · exact .inl (feed_ready hadvances hdone)

end Interplay

end JobWatch
