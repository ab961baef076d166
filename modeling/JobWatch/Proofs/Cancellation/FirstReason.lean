import JobWatch.Monitor
import Mathlib.Tactic.Lemma

/-!
What a cancel comes to: the reason is kept if it is the first, and the signal is tripped. Nothing
else of a monitor changes but its journal.
-/

namespace JobWatch

namespace Cancellation

variable (c : Cancellation) (r : StopReason)

lemma record_eq : c.record r = (⟨c.tripped, c.reason.or (some r)⟩, c.reason.isNone) := by
  obtain ⟨tripped, _ | r'⟩ := c <;> rfl

lemma cancel_eq : c.cancel r = (⟨true, c.reason.or (some r)⟩, c.reason.isNone) := by
  rw [cancel, record_eq]
  rfl

end Cancellation

lemma Monitor.cancel_changes (m : Monitor) (r : StopReason) :
    ∃ journal, m.cancel r =
      { m with cancellation := ⟨true, m.cancellation.reason.or (some r)⟩, journal } := by
  rw [cancel, Cancellation.cancel_eq]
  dsimp only
  split
  · exact ⟨_, rfl⟩
  · exact ⟨_, rfl⟩

/-- A monitor that was stopped for a reason, if it was, keeps that one. -/
lemma Monitor.cancel_keeps {m : Monitor} {stop : Option StopReason}
    (h : m.cancellation = ⟨stop.isSome, stop⟩) (r : StopReason) :
    ∃ journal, m.cancel r =
      { m with cancellation := ⟨(stop.or (some r)).isSome, stop.or (some r)⟩, journal } := by
  obtain ⟨journal, hcancel⟩ := m.cancel_changes r
  refine ⟨journal, ?_⟩
  rw [hcancel, h]
  cases stop <;> rfl

end JobWatch
