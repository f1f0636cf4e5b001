import SkyAutoPlayer.Foundation.Checked

/-!
# Checked time domains

The dispatch path keeps three tick domains apart: absolute QPC samples, positions on the
playback timeline, and durations. All three are unsigned 64-bit counters, modelled as natural
numbers, and every sum or difference is checked.
-/

namespace SkyAutoPlayer.DispatchCore

open Foundation

/-- Failures of checked timestamp arithmetic. -/
inductive TimeArithmeticError where
  | overflow
  | underflow
  | negativeOrder
  deriving DecidableEq, Repr

/-- Move a sample or a timeline position later, failing on 64-bit overflow. -/
def checkedAddDuration (ticks duration : ℕ) : Except TimeArithmeticError ℕ :=
  okOr .overflow (checkedAdd 64 ticks duration)

/-- Move a timeline position earlier, failing below zero. -/
def checkedSubDuration (ticks duration : ℕ) : Except TimeArithmeticError ℕ :=
  okOr .underflow (checkedSub ticks duration)

/-- The duration since an earlier instant, failing when the order is reversed. -/
def checkedDurationSince (ticks earlier : ℕ) : Except TimeArithmeticError ℕ :=
  okOr .negativeOrder (checkedSub ticks earlier)

/-- A later instant is the exact sum, below the 64-bit bound. -/
@[simp] theorem checkedAddDuration_eq_ok {ticks duration result : ℕ} :
    checkedAddDuration ticks duration = .ok result ↔
      ticks + duration < 2 ^ 64 ∧ ticks + duration = result := by
  simp [checkedAddDuration]

/-- An elapsed duration is the exact difference of ordered instants. -/
@[simp] theorem checkedDurationSince_eq_ok {ticks earlier result : ℕ} :
    checkedDurationSince ticks earlier = .ok result ↔
      earlier ≤ ticks ∧ ticks - earlier = result := by
  simp [checkedDurationSince]

/-- Ordered instants have a duration. -/
theorem checkedDurationSince_of_le {ticks earlier : ℕ} (h : earlier ≤ ticks) :
    checkedDurationSince ticks earlier = .ok (ticks - earlier) :=
  checkedDurationSince_eq_ok.mpr ⟨h, rfl⟩

/-- Reversed instants have none. -/
theorem checkedDurationSince_of_lt {ticks earlier : ℕ} (h : ticks < earlier) :
    checkedDurationSince ticks earlier = .error .negativeOrder := by
  simp [checkedDurationSince, checkedSub, Nat.not_le.mpr h, okOr]

/-- A sum within 64 bits succeeds. -/
theorem checkedAddDuration_of_lt {ticks duration : ℕ} (h : ticks + duration < 2 ^ 64) :
    checkedAddDuration ticks duration = .ok (ticks + duration) :=
  checkedAddDuration_eq_ok.mpr ⟨h, rfl⟩

/-- A sum outside 64 bits overflows. -/
theorem checkedAddDuration_of_le {ticks duration : ℕ} (h : 2 ^ 64 ≤ ticks + duration) :
    checkedAddDuration ticks duration = .error .overflow := by
  rw [checkedAddDuration, checkedAdd, fit, if_neg (Nat.not_lt.mpr h), okOr]

end SkyAutoPlayer.DispatchCore
