import Mathlib.Data.Finset.Basic
import SkyAutoPlayer.DispatchCore.Time
import SkyAutoPlayer.Foundation.ErrorState

/-!
# The playback clock

Playback time is wall time since an epoch that moves later by every completed pause. Pauses have
reasons; the first reason opens one interval and the last one closes it.
-/

namespace SkyAutoPlayer.DispatchCore

open Foundation

/-- Why playback is paused. -/
inductive PauseReason where
  | manual
  | focus
  | systemSuspend
  deriving DecidableEq, Repr

/-- The reason's published name. -/
def PauseReason.asStr : PauseReason → String
  | .manual => "manual"
  | .focus => "focus"
  | .systemSuspend => "system_suspend"

/-- The accumulated pauses and the open one. -/
structure PlaybackClockState where
  startPerf : ℕ
  pauseTime : ℕ
  pauseReasons : Finset PauseReason
  pauseIntervalStarted : Option ℕ
  pauseOpenReason : Option PauseReason
  epoch : ℕ
  deriving DecidableEq

/-- A clock operation keeps the clock it reached when it fails. -/
abbrev ClockM := EStateM TimeArithmeticError PlaybackClockState

namespace PlaybackClockState

/-- A clock whose epoch is the start after an initial pause. -/
def new (startPerf pauseTime : ℕ) : Except TimeArithmeticError PlaybackClockState := do
  let epoch ← checkedAddDuration startPerf pauseTime
  pure
    { startPerf
      pauseTime
      pauseReasons := ∅
      pauseIntervalStarted := none
      pauseOpenReason := none
      epoch }

/-- Whether any reason holds playback. -/
def isPaused (clock : PlaybackClockState) : Bool := clock.pauseReasons ≠ ∅

/-- Whether a reason holds playback. -/
def hasPauseReason (clock : PlaybackClockState) (reason : PauseReason) : Bool :=
  reason ∈ clock.pauseReasons

/-- The clock after a new reason, which opens an interval when it is the first. -/
def entered (clock : PlaybackClockState) (reason : PauseReason) (now : ℕ) : PlaybackClockState :=
  let clock' := { clock with pauseReasons := insert reason clock.pauseReasons }
  if clock.pauseReasons = ∅ then
    { clock' with pauseIntervalStarted := some now, pauseOpenReason := some reason }
  else clock'

/-- Add a reason; the answer tells whether it opened an interval. -/
def enterPause (reason : PauseReason) (now : ℕ) : ClockM Bool := fun clock =>
  if reason ∈ clock.pauseReasons then .ok false clock
  else .ok (clock.pauseReasons = ∅) (clock.entered reason now)

/-- Add a completed pause and move the epoch. -/
def updatePauseTime (duration : ℕ) : ClockM Unit := do
  let pauseTime ← EStateM.ofExcept (okOr .overflow (checkedAdd 64 (← get).pauseTime duration))
  let epoch ← EStateM.ofExcept (checkedAddDuration (← get).startPerf pauseTime)
  modify fun clock => { clock with pauseTime, epoch }

/-- Close the open interval after its last reason is gone. -/
def closeInterval (reason : PauseReason) (now : ℕ) : ClockM (Option (ℕ × PauseReason)) := do
  let started ← EStateM.ofExcept (okOr .negativeOrder (← get).pauseIntervalStarted)
  let duration ← EStateM.ofExcept (checkedDurationSince now started)
  let attribution := (← get).pauseOpenReason.getD reason
  modify fun clock => { clock with pauseOpenReason := none, pauseIntervalStarted := none }
  updatePauseTime duration
  pure (some (duration, attribution))

/-- Remove a reason; the answer is the closed interval's duration and attribution, when the
reason was the last. -/
def exitPause (reason : PauseReason) (now : ℕ) : ClockM (Option (ℕ × PauseReason)) := do
  let clock ← get
  if reason ∈ clock.pauseReasons then do
    let rest := clock.pauseReasons.erase reason
    set { clock with pauseReasons := rest }
    if rest = ∅ then closeInterval reason now else pure none
  else pure none

/-- The playback position of a sample, frozen while an interval is open. -/
def getElapsed (clock : PlaybackClockState) (now : ℕ) : Except TimeArithmeticError ℕ :=
  checkedDurationSince (clock.pauseIntervalStarted.getD now) clock.epoch

/-- The playback position, where a sample before the epoch may count as the start. -/
def getElapsedAllowPreEpoch (clock : PlaybackClockState) (now : ℕ) (allowPreEpoch : Bool) :
    Except TimeArithmeticError ℕ :=
  if allowPreEpoch ∧ now < clock.epoch then .ok 0 else clock.getElapsed now

/-- The clock after its open interval is closed at a later sample. -/
def closed (clock : PlaybackClockState) (started now : ℕ) : PlaybackClockState :=
  { clock with
    pauseTime := clock.pauseTime + (now - started)
    pauseReasons := ∅
    pauseIntervalStarted := none
    pauseOpenReason := none
    epoch := clock.startPerf + (clock.pauseTime + (now - started)) }

/-- Entering adds the reason. -/
theorem pauseReasons_entered (clock : PlaybackClockState) (reason : PauseReason) (now : ℕ) :
    (clock.entered reason now).pauseReasons = insert reason clock.pauseReasons := by
  unfold entered
  split <;> rfl

/-- A held reason is entered without effect. -/
theorem enterPause_of_mem {clock : PlaybackClockState} {reason : PauseReason}
    (h : reason ∈ clock.pauseReasons) (now : ℕ) :
    (enterPause reason now).run clock = .ok false clock := by
  simp [enterPause, EStateM.run, h]

/-- A reason that is not held is entered, and opens an interval when it is the first. -/
theorem enterPause_of_not_mem {clock : PlaybackClockState} {reason : PauseReason}
    (h : reason ∉ clock.pauseReasons) (now : ℕ) :
    (enterPause reason now).run clock =
      .ok (clock.pauseReasons = ∅) (clock.entered reason now) := by
  simp [enterPause, EStateM.run, h]

/-- A reason that is not held is left without effect. -/
theorem exitPause_of_not_mem {clock : PlaybackClockState} {reason : PauseReason}
    (h : reason ∉ clock.pauseReasons) (now : ℕ) :
    (exitPause reason now).run clock = .ok none clock := by
  simp only [exitPause, EStateM.run_bind, EStateM.run_get, h, if_false]
  rfl

/-- Leaving one of several reasons only removes it. -/
theorem exitPause_of_rest {clock : PlaybackClockState} {reason : PauseReason}
    (h : reason ∈ clock.pauseReasons) (hrest : clock.pauseReasons.erase reason ≠ ∅) (now : ℕ) :
    (exitPause reason now).run clock =
      .ok none { clock with pauseReasons := clock.pauseReasons.erase reason } := by
  simp only [exitPause, EStateM.run_bind, EStateM.run_get, h, if_true, EStateM.run_set, hrest,
    if_false]
  rfl

/-- A completed pause that fits in 64 bits moves the epoch. -/
theorem updatePauseTime_eq_ok {clock after : PlaybackClockState} {duration : ℕ} {done : Unit} :
    (updatePauseTime duration).run clock = .ok done after ↔
      clock.pauseTime + duration < 2 ^ 64 ∧
        clock.startPerf + (clock.pauseTime + duration) < 2 ^ 64 ∧
        after = { clock with
          pauseTime := clock.pauseTime + duration
          epoch := clock.startPerf + (clock.pauseTime + duration) } := by
  simp only [updatePauseTime, EStateM.run_bind_eq_ok, EStateM.run_get, EStateM.run_modify,
    EStateM.ofExcept_run_eq_ok, okOr_eq_ok, checkedAdd_eq_some, checkedAddDuration_eq_ok]
  constructor
  · rintro ⟨_, _, ⟨⟩, _, _, ⟨⟨htime, rfl⟩, rfl⟩, _, _, ⟨⟩, _, _, ⟨⟨hepoch, rfl⟩, rfl⟩, ⟨⟩⟩
    exact ⟨htime, hepoch, rfl⟩
  · rintro ⟨htime, hepoch, rfl⟩
    exact ⟨_, _, rfl, _, _, ⟨⟨htime, rfl⟩, rfl⟩, _, _, rfl, _, _, ⟨⟨hepoch, rfl⟩, rfl⟩, rfl⟩

/-- Closing an open interval adds its duration. -/
theorem closeInterval_eq_ok {clock after : PlaybackClockState} {reason : PauseReason} {now : ℕ}
    {result : Option (ℕ × PauseReason)} (hreasons : clock.pauseReasons = ∅)
    (hrun : (closeInterval reason now).run clock = .ok result after) :
    ∃ started, clock.pauseIntervalStarted = some started ∧ started ≤ now ∧
      result = some (now - started, clock.pauseOpenReason.getD reason) ∧
      after = clock.closed started now := by
  simp only [closeInterval, EStateM.run_bind_eq_ok, EStateM.run_get, EStateM.run_modify,
    EStateM.run_pure, EStateM.ofExcept_run_eq_ok, okOr_eq_ok, checkedDurationSince_eq_ok,
    updatePauseTime_eq_ok] at hrun
  obtain ⟨_, _, ⟨⟩, started, _, ⟨hstarted, rfl⟩, _, _, ⟨⟨hle, rfl⟩, rfl⟩, _, _, ⟨⟩, _, _, ⟨⟩,
    _, _, ⟨-, -, rfl⟩, ⟨⟩⟩ := hrun
  exact ⟨started, hstarted, hle, rfl, by simp [closed, hreasons]⟩

/-- Leaving the last reason closes the interval at a sample that is not earlier. -/
theorem exitPause_last {clock after : PlaybackClockState} {reason : PauseReason} {now : ℕ}
    {result : Option (ℕ × PauseReason)} (h : clock.pauseReasons = {reason})
    (hrun : (exitPause reason now).run clock = .ok result after) :
    ∃ started, clock.pauseIntervalStarted = some started ∧ started ≤ now ∧
      result = some (now - started, clock.pauseOpenReason.getD reason) ∧
      after = clock.closed started now := by
  have hmem : reason ∈ clock.pauseReasons := by simp [h]
  have hrest : clock.pauseReasons.erase reason = ∅ := by simp [h]
  have hclose : (exitPause reason now).run clock =
      (closeInterval reason now).run { clock with pauseReasons := ∅ } := by
    simp only [exitPause, EStateM.run_bind, EStateM.run_get, hmem, hrest, if_true,
      EStateM.run_set]
  rw [hclose] at hrun
  exact @closeInterval_eq_ok { clock with pauseReasons := ∅ } after reason now result rfl hrun

end PlaybackClockState

end SkyAutoPlayer.DispatchCore
