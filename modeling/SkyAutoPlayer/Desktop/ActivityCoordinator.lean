import SkyAutoPlayer.Foundation.Checked

/-!
# Who owns the physical input

One coordinator admits a playback, a calibration or an update at a time. A lease of a playback is given
back under the id of its session, and a release that cannot be verified keeps the coordinator closed
for good.
-/

namespace SkyAutoPlayer.Desktop

open Foundation

/-- What owns the physical input, and why no one else may. -/
structure ActivityState where
  physicalPlayback : Option String
  physicalReleaseQuarantined : Bool
  calibrationActive : Bool
  updateInstalling : Bool
  closing : Bool
  deriving DecidableEq, Repr

/-- Why a reservation is refused. -/
inductive ActivityReservationError where
  | closing
  | calibrationAlreadyActive
  | physicalPlaybackActive
  | physicalReleaseUnverified
  | updateAlreadyActive
  deriving DecidableEq, Repr

/-- The text of a refusal. -/
def ActivityReservationError.message : ActivityReservationError → String
  | .closing => "desktop application is closing"
  | .calibrationAlreadyActive => "a calibration operation is already active"
  | .physicalPlaybackActive => "physical playback is active"
  | .physicalReleaseUnverified => "a previous physical playback release could not be verified; " ++
    "restart the application before using physical input"
  | .updateAlreadyActive => "an update installation is already active"

namespace ActivityState

/-- No one owns the physical input at first. -/
def initial : ActivityState := ⟨none, false, false, false, false⟩

/-- Reserve the physical input for a playback. -/
def reservePlayback (sessionId : String) (activity : ActivityState) :
    Except ActivityReservationError ActivityState := do
  failIf (activity.closing = true) .closing
  failIf (activity.physicalReleaseQuarantined = true) .physicalReleaseUnverified
  failIf (activity.calibrationActive = true) .calibrationAlreadyActive
  failIf (activity.updateInstalling = true) .updateAlreadyActive
  failIf (activity.physicalPlayback.isSome = true) .physicalPlaybackActive
  pure { activity with physicalPlayback := some sessionId }

/-- Reserve the physical input for a calibration. -/
def reserveCalibration (activity : ActivityState) :
    Except ActivityReservationError ActivityState := do
  failIf (activity.closing = true) .closing
  failIf (activity.physicalReleaseQuarantined = true) .physicalReleaseUnverified
  failIf (activity.calibrationActive = true) .calibrationAlreadyActive
  failIf (activity.physicalPlayback.isSome = true) .physicalPlaybackActive
  failIf (activity.updateInstalling = true) .updateAlreadyActive
  pure { activity with calibrationActive := true }

/-- Reserve the physical input for an update. -/
def reserveUpdate (activity : ActivityState) : Except ActivityReservationError ActivityState := do
  failIf (activity.closing = true) .closing
  failIf (activity.physicalReleaseQuarantined = true) .physicalReleaseUnverified
  failIf (activity.physicalPlayback.isSome = true) .physicalPlaybackActive
  failIf (activity.calibrationActive = true) .calibrationAlreadyActive
  failIf (activity.updateInstalling = true) .updateAlreadyActive
  pure { activity with updateInstalling := true }

/-- Give the physical input back, if the session owns it. -/
def releasePlayback (sessionId : String) (activity : ActivityState) : ActivityState :=
  if activity.physicalPlayback = some sessionId then { activity with physicalPlayback := none }
  else activity

/-- Close the coordinator after a release that cannot be verified, unless another session owns the
physical input. -/
def quarantinePlayback (sessionId : String) (activity : ActivityState) : ActivityState × Bool :=
  if activity.physicalPlayback.any (· ≠ sessionId) then (activity, false)
  else ({ activity with physicalPlayback := none, physicalReleaseQuarantined := true }, true)

/-- A calibration gives the physical input back. -/
def releaseCalibration (activity : ActivityState) : ActivityState :=
  { activity with calibrationActive := false }

/-- An update gives the physical input back. -/
def releaseUpdate (activity : ActivityState) : ActivityState :=
  { activity with updateInstalling := false }

/-- Close the coordinator for the end of the program. -/
def beginShutdown (activity : ActivityState) : ActivityState := { activity with closing := true }

/-- No one owns the physical input, and someone may. -/
structure Free (activity : ActivityState) : Prop where
  closing : activity.closing = false
  quarantined : activity.physicalReleaseQuarantined = false
  playback : activity.physicalPlayback = none
  calibration : activity.calibrationActive = false
  update : activity.updateInstalling = false

variable {activity after : ActivityState} {sessionId : String}

/-- A playback is admitted exactly when the physical input is free. -/
theorem reservePlayback_eq_ok :
    activity.reservePlayback sessionId = .ok after ↔
      activity.Free ∧ after = { activity with physicalPlayback := some sessionId } := by
  simp only [reservePlayback, Except.seq_eq_ok, failIf_eq_ok, Except.pure_eq_ok, Bool.not_eq_true,
    Option.isSome_eq_false_iff, Option.isNone_iff_eq_none]
  constructor
  · rintro ⟨hclosing, hquarantined, hcalibration, hupdate, hplayback, rfl⟩
    exact ⟨⟨hclosing, hquarantined, hplayback, hcalibration, hupdate⟩, rfl⟩
  · rintro ⟨⟨hclosing, hquarantined, hplayback, hcalibration, hupdate⟩, rfl⟩
    exact ⟨hclosing, hquarantined, hcalibration, hupdate, hplayback, rfl⟩

/-- A calibration is admitted exactly when the physical input is free. -/
theorem reserveCalibration_eq_ok :
    activity.reserveCalibration = .ok after ↔
      activity.Free ∧ after = { activity with calibrationActive := true } := by
  simp only [reserveCalibration, Except.seq_eq_ok, failIf_eq_ok, Except.pure_eq_ok, Bool.not_eq_true,
    Option.isSome_eq_false_iff, Option.isNone_iff_eq_none]
  constructor
  · rintro ⟨hclosing, hquarantined, hcalibration, hplayback, hupdate, rfl⟩
    exact ⟨⟨hclosing, hquarantined, hplayback, hcalibration, hupdate⟩, rfl⟩
  · rintro ⟨⟨hclosing, hquarantined, hplayback, hcalibration, hupdate⟩, rfl⟩
    exact ⟨hclosing, hquarantined, hcalibration, hplayback, hupdate, rfl⟩

/-- An update is admitted exactly when the physical input is free. -/
theorem reserveUpdate_eq_ok :
    activity.reserveUpdate = .ok after ↔
      activity.Free ∧ after = { activity with updateInstalling := true } := by
  simp only [reserveUpdate, Except.seq_eq_ok, failIf_eq_ok, Except.pure_eq_ok, Bool.not_eq_true,
    Option.isSome_eq_false_iff, Option.isNone_iff_eq_none]
  constructor
  · rintro ⟨hclosing, hquarantined, hplayback, hcalibration, hupdate, rfl⟩
    exact ⟨⟨hclosing, hquarantined, hplayback, hcalibration, hupdate⟩, rfl⟩
  · rintro ⟨⟨hclosing, hquarantined, hplayback, hcalibration, hupdate⟩, rfl⟩
    exact ⟨hclosing, hquarantined, hplayback, hcalibration, hupdate, rfl⟩

/-- The owner gives the physical input back. -/
theorem releasePlayback_of_owner (h : activity.physicalPlayback = some sessionId) :
    activity.releasePlayback sessionId = { activity with physicalPlayback := none } :=
  if_pos h

/-- The coordinator is closed for good when no other session owns the physical input. -/
theorem quarantinePlayback_of_own (h : ∀ owner ∈ activity.physicalPlayback, owner = sessionId) :
    activity.quarantinePlayback sessionId =
      ({ activity with physicalPlayback := none, physicalReleaseQuarantined := true }, true) := by
  refine if_neg ?_
  cases howner : activity.physicalPlayback with
  | none => simp
  | some owner => simp [h owner howner]

end ActivityState

end SkyAutoPlayer.Desktop
