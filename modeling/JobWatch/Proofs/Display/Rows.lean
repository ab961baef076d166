import JobWatch.Display.View
import JobWatch.Proofs.Binary64

/-!
The table of a view.

The type of the job gives the labels, and the section of that type gives what stands behind them.
Rates are among the labels if and only if the latest update comes after the start. The other members
of a snapshot are not shown.
-/

namespace JobWatch

/-! ### Elapsed time -/

namespace Timestamp

/-- One instant is before another. -/
def IsBefore (a b : Timestamp) : Prop :=
  a.seconds < b.seconds ∨ a.seconds = b.seconds ∧ a.nanos < b.nanos

instance (a b : Timestamp) : Decidable (a.IsBefore b) := inferInstanceAs (Decidable (_ ∨ _))

/-- Outside 60th seconds, time has elapsed from an instant to those that it is before. -/
lemma since_pos_iff {earlier later : Timestamp} (hearlier : earlier.isExtraSecond = false)
    (hlater : later.isExtraSecond = false) :
    0 < (later.since earlier).nanos ↔ earlier.IsBefore later := by
  have hearlier' : earlier.nanos < 1000000000 := by simpa [isExtraSecond] using hearlier
  have hlater' : later.nanos < 1000000000 := by simpa [isExtraSecond] using hlater
  have hsince : (later.since earlier).nanos =
      (later.seconds - earlier.seconds) * 1000000000 + ((later.nanos : Int) - earlier.nanos) := by
    simp [since, hearlier, hlater]
  rw [hsince, IsBefore]
  omega

end Timestamp

namespace Span

open Binary64 (value_ofNat value_div_pos half_le_value_ofRatio)

/-- A count that is above zero is not rounded to nothing when it is turned into seconds. -/
lemma zero_lt_quotient {count perSecond : Nat} (hcount : 0 < count) (hunit : 0 < perSecond)
    (hmost : perSecond ≤ 1000000000) :
    Binary64.zero.lt ((Binary64.ofNat count).div (.ofNat perSecond)) = true := by
  have hone : (1 : ℚ) ≤ count := by exact_mod_cast hcount
  have hunit' : (0 : ℚ) < perSecond := by exact_mod_cast hunit
  have hmost' : (perSecond : ℚ) ≤ 1000000000 := by exact_mod_cast hmost
  have hnum : (1 : ℚ) / 2 ≤ (Binary64.ofNat count).value := by
    have hnormal : (2 : ℚ) ^ (-1022 : ℤ) ≤ (count : ℚ) / (1 : Nat) := by
      rw [Nat.cast_one, div_one]
      exact (zpow_le_one_of_nonpos₀ one_le_two (by decide)).trans hone
    have hhalf := half_le_value_ofRatio one_pos hnormal
    rw [Nat.cast_one, div_one] at hhalf
    rw [Binary64.ofNat]
    linarith
  have hden : (Binary64.ofNat perSecond).value = perSecond := value_ofNat (by omega)
  have hquotient : (2 : ℚ) ^ (-1022 : ℤ) ≤
      (Binary64.ofNat count).value / (Binary64.ofNat perSecond).value := by
    rw [hden, le_div_iff₀ hunit']
    calc (2 : ℚ) ^ (-1022 : ℤ) * perSecond ≤ 2 ^ (-31 : ℤ) * 1000000000 := by
          gcongr
          · exact one_le_two
          · decide
      _ ≤ 1 / 2 := by norm_num
      _ ≤ (Binary64.ofNat count).value := hnum
  rw [Binary64.lt_iff]
  calc Binary64.zero.value = 0 := by simp [Binary64.value, Binary64.zero]
    _ < _ := value_div_pos (by rw [hden]; exact hunit') hquotient

lemma isSome_secondsOf? {count : Int} {perSecond : Nat} (hunit : 0 < perSecond)
    (hmost : perSecond ≤ 1000000000) :
    (secondsOf? count perSecond).isSome = true ↔ 0 < count := by
  rw [secondsOf?]
  rcases Int.lt_trichotomy count 0 with hneg | rfl | hpos
  · rw [if_pos hneg]
    exact iff_of_false (by simp) (by omega)
  · have hzero (y : Binary64) : Binary64.zero.lt ((Binary64.ofNat 0).div y) = false := by
      simp [Binary64.lt, Binary64.div, Binary64.ofNat, Binary64.ofRatio, Binary64.num,
        Binary64.zero]
    simp [hzero]
  · have hquotient := zero_lt_quotient (by omega : 0 < count.toNat) hunit hmost
    rw [if_neg (by omega)]
    simp [hquotient, hpos]

/-- **There are seconds to divide by if and only if some time has elapsed**, whether nanoseconds are
counted or milliseconds. -/
theorem isSome_seconds? (s : Span) : s.seconds?.isSome = true ↔ 0 < s.nanos := by
  rw [seconds?]
  split
  · exact isSome_secondsOf? (by decide) (by decide)
  · next hfits =>
    -- What 64 bits do not hold is at least a millisecond away from zero.
    rw [isSome_secondsOf? (by decide : 0 < 1000) (by decide), millis]
    simp only [fitsNanos, Bool.and_eq_true, decide_eq_true_eq, not_and] at hfits
    rcases Int.le_total 0 s.nanos with hpos | hneg
    · rw [Int.tdiv_eq_ediv_of_nonneg hpos]
      omega
    · obtain ⟨n, hn⟩ : ∃ n, s.nanos = -n := ⟨-s.nanos, by omega⟩
      rw [hn, Int.neg_tdiv, Int.tdiv_eq_ediv_of_nonneg (by omega)]
      omega

lemma seconds?_cases (s : Span) :
    s.seconds? = none ∧ ¬ 0 < s.nanos ∨ ∃ secs, s.seconds? = some secs ∧ 0 < s.nanos := by
  have hsome := s.isSome_seconds?
  rcases hsecs : s.seconds? with _ | secs
  · exact .inl ⟨rfl, fun hpos => by simpa [hsecs] using hsome.2 hpos⟩
  · exact .inr ⟨secs, rfl, hsome.1 (by rw [hsecs]; rfl)⟩

end Span

/-! ### The section of the own type -/

/-- What a job has counted. -/
structure Tally where
  object : String := ""
  objects : Nat := 0
  objectsFailed : Nat := 0
  bytesTransferred : Nat := 0

namespace Tally

def ofReplication (r : Replication) : Tally :=
  ⟨r.object, r.objects, r.objectsFailed, r.bytesTransferred⟩

/-- Only a replication counts bytes. -/
def ofCounters (c : Counters) : Tally := ⟨c.object, c.objects, c.objectsFailed, 0⟩

end Tally

namespace Snapshot

/-- What the section of a snapshot's own type has counted: nothing, if there is no such section. -/
def tally (s : Snapshot) : Tally :=
  if s.jobType = "replicate" then (s.replicate.map .ofReplication).getD {}
  else if s.jobType = "keyrotate" then (s.rotation.map .ofCounters).getD {}
  else if s.jobType = "expire" then (s.expired.map .ofCounters).getD {}
  else {}

lemma tally_replicate {s : Snapshot} (h : s.jobType = "replicate") :
    s.tally = .ofReplication (s.replicate.getD {}) := by
  rw [tally, if_pos h]
  cases s.replicate <;> rfl

lemma tally_rotation {s : Snapshot} (h : s.jobType = "keyrotate") :
    s.tally = .ofCounters (s.rotation.getD {}) := by
  rw [tally, if_neg (by rw [h]; decide), if_pos h]
  cases s.rotation <;> rfl

lemma tally_expired {s : Snapshot} (h : s.jobType = "expire") :
    s.tally = .ofCounters (s.expired.getD {}) := by
  rw [tally, if_neg (by rw [h]; decide), if_neg (by rw [h]; decide), if_pos h]
  cases s.expired <;> rfl

/-- Two snapshots are alike in the type of the job, its times, how it ended, and the section of that
type. They may differ in all else. -/
structure OwnAlike (s t : Snapshot) : Prop where
  jobType : s.jobType = t.jobType
  startTime : s.startTime = t.startTime
  lastUpdate : s.lastUpdate = t.lastUpdate
  complete : s.complete = t.complete
  failed : s.failed = t.failed
  replicate : s.jobType = "replicate" → s.replicate = t.replicate
  rotation : s.jobType = "keyrotate" → s.rotation = t.rotation
  expired : s.jobType = "expire" → s.expired = t.expired

variable {s t : Snapshot}

lemma OwnAlike.elapsed (h : s.OwnAlike t) : s.elapsed = t.elapsed := by
  rw [Snapshot.elapsed, Snapshot.elapsed, h.startTime, h.lastUpdate]

lemma OwnAlike.outcome (h : s.OwnAlike t) : s.outcome = t.outcome := by
  rw [Snapshot.outcome, Snapshot.outcome, h.complete, h.failed]

lemma OwnAlike.tally (h : s.OwnAlike t) : s.tally = t.tally := by
  rw [Snapshot.tally, Snapshot.tally, ← h.jobType]
  split
  · next htype => rw [h.replicate htype]
  split
  · next htype => rw [h.rotation htype]
  split
  · next htype => rw [h.expired htype]
  rfl

end Snapshot

/-! ### Labels and values -/

namespace View

/-- The labels of the table of a type of job, with rates or without. -/
def labels (jobType : String) (rates : Bool) : List String :=
  if jobType = "replicate" then
    ["JobType:", "Objects:", "Versions:", "FailedObjects:"] ++
      (if rates then ["Throughput:", "IOPs:"] else []) ++
      ["Transferred:", "Elapsed:", "CurrObjName:"]
  else if jobType = "keyrotate" ∨ jobType = "expire" then
    ["JobType:", "Objects:", "FailedObjects:"] ++ (if rates then ["IOPs:"] else []) ++
      ["Elapsed:", "CurrObjName:"]
  else []

/-- A rate, if some time has elapsed. -/
def perSecond (elapsed : Span) (text : Binary64 → String) (n : Nat) : String :=
  (elapsed.seconds?.map fun secs => text ((Binary64.ofNat n).div secs)).getD ""

/-- The value behind a label, of a job that has counted so much in some time. -/
def cell (jobType : String) (elapsed : Span) (t : Tally) : String → String
  | "JobType:" => jobType
  | "Objects:" => toString t.objects
  | "Versions:" => toString t.objects
  | "FailedObjects:" => toString t.objectsFailed
  | "Throughput:" => perSecond elapsed byteRateText t.bytesTransferred
  | "IOPs:" => perSecond elapsed rateText t.objects
  | "Transferred:" => ByteCount.text t.bytesTransferred
  | "Elapsed:" => elapsed.text
  | "CurrObjName:" => t.object
  | _ => ""

/-- The table of a type of job that has counted so much in some time. -/
def table (jobType : String) (elapsed : Span) (t : Tally) : List Row :=
  (labels jobType (0 < elapsed.nanos)).map fun label => ⟨label, cell jobType elapsed t label⟩

variable {s : Snapshot}

lemma replicationRows_eq (h : s.jobType = "replicate") :
    replicationRows s = table s.jobType s.elapsed s.tally := by
  rw [table, labels, if_pos h, s.tally_replicate h, replicationRows, Snapshot.throughput]
  obtain ⟨hsecs, hnone⟩ | ⟨secs, hsecs, hsome⟩ := s.elapsed.seconds?_cases
  · simp [cell, hsecs, hnone, Tally.ofReplication]
  · simp [cell, perSecond, hsecs, hsome, Tally.ofReplication]

lemma counterRows_eq {c : Counters} (h : s.jobType = "keyrotate" ∨ s.jobType = "expire") :
    counterRows s c = table s.jobType s.elapsed (.ofCounters c) := by
  have hother : s.jobType ≠ "replicate" := by
    rcases h with h | h <;> rw [h] <;> decide
  rw [table, labels, if_neg hother, if_pos h, counterRows]
  obtain ⟨hsecs, hnone⟩ | ⟨secs, hsecs, hsome⟩ := s.elapsed.seconds?_cases
  · simp [cell, hsecs, hnone, Tally.ofCounters]
  · simp [cell, perSecond, hsecs, hsome, Tally.ofCounters]

/-- The table of a snapshot needs its type, the time that has elapsed and what its own section has
counted. -/
theorem rowsOf_eq (s : Snapshot) : rowsOf s = table s.jobType s.elapsed s.tally := by
  rw [rowsOf, Snapshot.kind, JobKind.ofTag]
  by_cases hreplicate : s.jobType = "replicate"
  · rw [if_pos hreplicate]
    exact replicationRows_eq hreplicate
  by_cases hrotate : s.jobType = "keyrotate"
  · rw [if_neg hreplicate, if_pos hrotate, s.tally_rotation hrotate]
    exact counterRows_eq (.inl hrotate)
  by_cases hexpire : s.jobType = "expire"
  · rw [if_neg hreplicate, if_neg hrotate, if_pos hexpire, s.tally_expired hexpire]
    exact counterRows_eq (.inr hexpire)
  · rw [if_neg hreplicate, if_neg hrotate, if_neg hexpire, table, labels, if_neg hreplicate,
      if_neg (not_or.2 ⟨hrotate, hexpire⟩), List.map_nil]

end View

namespace Display

open View (labels cell)

/-- **A display shows the section of its job's own type.** The type gives the labels, rates among
them if the latest update comes after the start, and the values behind the labels are those of the
section. Displays that are alike in this look the same. -/
theorem view_of_own_section (d : Display) :
    (∃ rates,
      d.view.rows = (labels d.current.jobType rates).map (fun label =>
        ⟨label, cell d.current.jobType d.current.elapsed d.current.tally label⟩) ∧
      (d.current.startTime.isExtraSecond = false → d.current.lastUpdate.isExtraSecond = false →
        (rates = true ↔ d.current.startTime.IsBefore d.current.lastUpdate))) ∧
    (∀ d' : Display, d.quitting = d'.quitting → d.phase = d'.phase →
      d.current.OwnAlike d'.current → d.view = d'.view) := by
  refine ⟨⟨decide (0 < d.current.elapsed.nanos), View.rowsOf_eq d.current, ?_⟩, ?_⟩
  · intro hstart hupdate
    rw [decide_eq_true_eq]
    exact Timestamp.since_pos_iff hstart hupdate
  · intro d' hquitting hphase halike
    have hheader : d.header = d'.header := by
      rw [header, header, hquitting, hphase, halike.outcome]
    rw [view, view, hheader, hquitting, View.rowsOf_eq, View.rowsOf_eq, halike.jobType,
      halike.elapsed, halike.tally]

/-- A replication over more nanoseconds than 64 bits hold, before it has counted anything. -/
def longReplication (other : Option Counters) (retryAttempts : Nat) : Display :=
  { jobId := "job"
    current :=
      { jobType := "replicate"
        lastUpdate := ⟨9300000000, 0⟩
        retryAttempts := retryAttempts
        rotation := other
        expired := other } }

/-- The rates are there, and the sections of the other types do not show. -/
theorem view_of_own_section_long :
    (longReplication none 0).current.elapsed.fitsNanos = false ∧
    (longReplication none 0).view.rows.map (·.label) =
      ["JobType:", "Objects:", "Versions:", "FailedObjects:", "Throughput:", "IOPs:",
        "Transferred:", "Elapsed:", "CurrObjName:"] ∧
    (longReplication none 0).view = (longReplication (some ⟨"b", "o", 5, 1, .empty⟩) 3).view := by
  obtain ⟨⟨rates, hrows, hrates⟩, halike⟩ := view_of_own_section (longReplication none 0)
  obtain rfl : rates = true := (hrates rfl rfl).2 (by decide)
  refine ⟨by decide, ?_, halike _ rfl rfl ⟨rfl, rfl, rfl, rfl, rfl, fun _ => rfl, ?_, ?_⟩⟩
  · rw [hrows, List.map_map]
    rfl
  · intro htype
    exact absurd htype (by decide)
  · intro htype
    exact absurd htype (by decide)

end Display

end JobWatch
