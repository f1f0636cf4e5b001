import SkyAutoPlayer.Foundation.Checked

/-!
# The QPC clock

The worker captures the counter's frequency once and converts microseconds to ticks by a checked
ceiling division. A frequency that is a whole number of ticks for each microsecond converts
exactly.
-/

namespace SkyAutoPlayer.DispatchWin32

open Foundation

/-- The per-worker QPC conversion context. -/
structure QpcClock where
  frequencyHz : ℕ
  frequencyHz_pos : 0 < frequencyHz
  deriving DecidableEq, Repr

/-- Failures of tick conversion. -/
inductive TimeConversionError where
  | invalidFrequency
  | overflow
  deriving DecidableEq, Repr

/-- The error's debug text. -/
def TimeConversionError.debug : TimeConversionError → String
  | .invalidFrequency => "InvalidFrequency"
  | .overflow => "Overflow"

namespace QpcClock

/-- The ticks of a number of microseconds, rounded up. -/
def durationFromUs (clock : QpcClock) (microseconds : ℕ) : Except TimeConversionError ℕ := do
  let product ← okOr .overflow (checkedMul 128 microseconds clock.frequencyHz)
  let numerator ← okOr .overflow (checkedAdd 128 product 999999)
  okOr .overflow (fit 64 (numerator / 1000000))

/-- The timeline position of an authored time, rounded up. -/
def timelineFromUs (clock : QpcClock) (microseconds : ℕ) : Except TimeConversionError ℕ :=
  clock.durationFromUs microseconds

/-- The ceiling that the conversions compute. -/
def ceilTicks (clock : QpcClock) (microseconds : ℕ) : ℕ :=
  (microseconds * clock.frequencyHz + 999999) / 1000000

variable {clock : QpcClock}

/-- A conversion is the ceiling, when it fits. -/
theorem durationFromUs_eq_ok {microseconds ticks : ℕ} :
    clock.durationFromUs microseconds = .ok ticks ↔
      microseconds * clock.frequencyHz + 999999 < 2 ^ 128 ∧
        clock.ceilTicks microseconds < 2 ^ 64 ∧ clock.ceilTicks microseconds = ticks := by
  simp only [durationFromUs, Except.bind_eq_ok, okOr_eq_ok, checkedMul_eq_some,
    checkedAdd_eq_some, fit_eq_some, ceilTicks]
  constructor
  · rintro ⟨_, ⟨-, rfl⟩, _, ⟨hsum, rfl⟩, hfit, rfl⟩
    exact ⟨hsum, hfit, rfl⟩
  · rintro ⟨hsum, hfit, rfl⟩
    exact ⟨_, ⟨by omega, rfl⟩, _, ⟨hsum, rfl⟩, hfit, rfl⟩

/-- A later time is not converted to an earlier tick. -/
theorem ceilTicks_mono {first second : ℕ} (h : first ≤ second) :
    clock.ceilTicks first ≤ clock.ceilTicks second :=
  Nat.div_le_div_right (Nat.add_le_add_right (Nat.mul_le_mul_right _ h) _)

/-- With whole ticks for each microsecond the conversion is exact. -/
theorem ceilTicks_of_dvd {ticksPerUs : ℕ} (h : clock.frequencyHz = 1000000 * ticksPerUs)
    (microseconds : ℕ) : clock.ceilTicks microseconds = microseconds * ticksPerUs := by
  have hproduct : microseconds * clock.frequencyHz = 1000000 * (microseconds * ticksPerUs) := by
    rw [h]
    exact Nat.mul_left_comm _ _ _
  rw [ceilTicks, hproduct]
  omega

end QpcClock

end SkyAutoPlayer.DispatchWin32
