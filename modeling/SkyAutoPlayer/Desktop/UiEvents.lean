import Mathlib.Data.Rat.Defs
import SkyAutoPlayer.Foundation.Checked

/-!
# Events for the user interface

The payloads that the core publishes and the bounds each must meet. A snapshot is identified by
its kind and its session or operation, and every other event belongs to a lifecycle.
-/

namespace SkyAutoPlayer.Desktop

open Foundation

/-- The longest text in an event, in bytes. -/
def maxEventTextBytes : ℕ := 4096

/-- The largest timing margin that a calibration may recommend. -/
def maxTimingMarginUs : ℕ := 3000

/-- A floating-point measurement. -/
inductive Measurement where
  | finite (value : ℚ)
  | nonFinite
  deriving DecidableEq

/-- The build of the native core. -/
structure NativeBuildPayload where
  nativeBuildCommit : String
  nativeVersion : String
  nativeAbi : String
  rustcVersion : String
  deriving DecidableEq

/-- The core is ready. -/
structure CoreReadyPayload where
  appVersion : String
  nativeBuild : NativeBuildPayload
  deriving DecidableEq

/-- The core failed. -/
structure CoreFatalPayload where
  code : String
  message : String
  deriving DecidableEq

/-- The catalog has a new generation. -/
structure CatalogChangedPayload where
  generation : ℕ
  total : ℕ
  deriving DecidableEq

/-- The catalog could not be loaded. -/
structure CatalogLoadFailedPayload where
  message : String
  deriving DecidableEq

/-- A session changed its state. -/
structure PlaybackStateChangedPayload where
  sessionId : String
  songId : String
  message : Option String
  outcome : Option String
  deriving DecidableEq

/-- The progress of a session. -/
structure PlaybackSnapshotPayload where
  sessionId : String
  seq : ℕ
  songId : String
  title : String
  currentUs : ℕ
  totalUs : ℕ
  message : Option String
  deriving DecidableEq

/-- A session ended. -/
structure PlaybackFinishedPayload where
  sessionId : String
  songId : String
  outcome : String
  message : String
  deriving DecidableEq

/-- A session failed. -/
structure PlaybackFailedPayload where
  sessionId : String
  songId : String
  code : String
  message : String
  deriving DecidableEq

/-- The measurements of a session. -/
structure DiagnosticsSnapshotDto where
  seq : ℕ
  maxLatenessUs : Option ℕ
  p50Ms : Option Measurement
  p95Ms : Option Measurement
  sigmaOnsetMs : Option Measurement
  sessionId : Option String
  lastError : Option String
  deriving DecidableEq

/-- The progress of a calibration. -/
structure CalibrationProgressPayload where
  operationId : String
  phase : String
  completed : ℕ
  total : ℕ
  message : String
  deriving DecidableEq

/-- A calibration ended. -/
structure CalibrationFinishedPayload where
  operationId : String
  status : String
  recommendedTimingMarginUs : Option ℕ
  recommendationQualified : Bool
  sampleCount : ℕ
  source : String
  message : String
  deriving DecidableEq

/-- The progress of an update. -/
structure UpdateProgressDto where
  completed : ℕ
  total : Option ℕ
  message : String
  deriving DecidableEq

/-- The state of the updater. -/
structure UpdateSnapshotPayload where
  revision : ℕ
  currentVersion : String
  availableVersion : Option String
  releaseNotes : Option String
  publishedAt : Option String
  errorDetail : Option String
  operationId : Option String
  progress : Option UpdateProgressDto
  deriving DecidableEq

/-- An event for the user interface. -/
inductive UiEvent where
  | coreReady (payload : CoreReadyPayload)
  | coreFatal (payload : CoreFatalPayload)
  | catalogChanged (payload : CatalogChangedPayload)
  | catalogLoadFailed (payload : CatalogLoadFailedPayload)
  | playbackStateChanged (payload : PlaybackStateChangedPayload)
  | playbackSnapshot (payload : PlaybackSnapshotPayload)
  | playbackFinished (payload : PlaybackFinishedPayload)
  | playbackFailed (payload : PlaybackFailedPayload)
  | diagnosticsSnapshot (payload : DiagnosticsSnapshotDto)
  | calibrationProgress (payload : CalibrationProgressPayload)
  | calibrationFinished (payload : CalibrationFinishedPayload)
  | updateChanged (payload : UpdateSnapshotPayload)
  deriving DecidableEq

/-- A byte that is a lowercase hexadecimal digit. -/
def isLowerHex (byte : UInt8) : Bool :=
  (48 ≤ byte && byte ≤ 57) || (97 ≤ byte && byte ≤ 102)

/-- Thirty-two lowercase hexadecimal digits. -/
def isOpaqueId (value : String) : Bool :=
  value.utf8ByteSize = 32 && value.toUTF8.data.all isLowerHex

/-- A text is present, bounded and free of the null character. -/
def validateText (name value : String) : Except String Unit :=
  failIf (value.isEmpty ∨ maxEventTextBytes < value.utf8ByteSize ∨ Char.ofNat 0 ∈ value.toList)
    ("event " ++ name ++ " is outside the bounded text contract")

/-- A session id is opaque. -/
def validateSessionId (value : String) : Except String Unit :=
  failIf (isOpaqueId value = false) "event session_id is not an opaque ID"

/-- A song id is opaque. -/
def validateSongId (value : String) : Except String Unit :=
  failIf (isOpaqueId value = false) "event song_id is not an opaque ID"

/-- An operation id is an opaque session id. -/
def validateOperationId (value : String) : Except String Unit :=
  (validateSessionId value).mapError fun _ => "calibration operation_id is not an opaque ID"

/-- A check of a value that may be absent. -/
def validateOptional {α : Type} (check : α → Except String Unit) : Option α → Except String Unit
  | none => .ok ()
  | some value => check value

/-- A measurement is finite and within a minute of zero. -/
def validateMeasurement (name : String) : Measurement → Except String Unit
  | .finite value =>
    failIf (value < -60000 ∨ 60000 < value) ("diagnostics " ++ name ++ " is outside bounds")
  | .nonFinite => .error ("diagnostics " ++ name ++ " is outside bounds")

/-- The texts of a ready event. -/
def validateReady (payload : CoreReadyPayload) : Except String Unit := do
  validateText "app_version" payload.appVersion
  validateText "native_build_commit" payload.nativeBuild.nativeBuildCommit
  validateText "native_version" payload.nativeBuild.nativeVersion
  validateText "native_abi" payload.nativeBuild.nativeAbi
  validateText "rustc_version" payload.nativeBuild.rustcVersion

/-- The texts of a fatal event. -/
def validateFatal (payload : CoreFatalPayload) : Except String Unit := do
  validateText "code" payload.code
  validateText "message" payload.message

/-- The generation is positive and the total bounded. -/
def validateCatalogChanged (payload : CatalogChangedPayload) : Except String Unit := do
  failIf (payload.generation = 0) "event generation must be positive"
  failIf (10000000 < payload.total) "event catalog total exceeds the bounded contract"

/-- The message of a failed load. -/
def validateCatalogLoadFailed (payload : CatalogLoadFailedPayload) : Except String Unit :=
  validateText "message" payload.message

/-- The ids and texts of a state change. -/
def validatePlaybackStateChanged (payload : PlaybackStateChangedPayload) :
    Except String Unit := do
  validateSessionId payload.sessionId
  validateSongId payload.songId
  validateOptional (validateText "message") payload.message
  validateOptional (validateText "outcome") payload.outcome

/-- The ids, the sequence number, the texts and the times of a snapshot. -/
def validatePlaybackSnapshot (payload : PlaybackSnapshotPayload) : Except String Unit := do
  validateSessionId payload.sessionId
  validateSongId payload.songId
  failIf (payload.seq = 0) "event playback snapshot sequence must be positive"
  validateText "title" payload.title
  failIf (86400000000 < payload.totalUs) "event playback total exceeds bounds"
  failIf (payload.totalUs < payload.currentUs) "event playback current time exceeds total time"
  validateOptional (validateText "message") payload.message

/-- The ids and texts of an ended session. -/
def validatePlaybackFinished (payload : PlaybackFinishedPayload) : Except String Unit := do
  validateSessionId payload.sessionId
  validateSongId payload.songId
  validateText "outcome" payload.outcome
  validateText "message" payload.message

/-- The ids and texts of a failed session. -/
def validatePlaybackFailed (payload : PlaybackFailedPayload) : Except String Unit := do
  validateSessionId payload.sessionId
  validateSongId payload.songId
  validateText "code" payload.code
  validateText "message" payload.message

/-- The sequence number, the measurements and the texts of diagnostics. -/
def validateDiagnosticsSnapshot (payload : DiagnosticsSnapshotDto) : Except String Unit := do
  failIf (payload.seq = 0) "diagnostics sequence must be positive"
  validateOptional (validateMeasurement "p50_ms") payload.p50Ms
  validateOptional (validateMeasurement "p95_ms") payload.p95Ms
  validateOptional (validateMeasurement "sigma_onset_ms") payload.sigmaOnsetMs
  validateOptional (fun lateness =>
    failIf (60000000 < lateness) "diagnostics max lateness is outside bounds") payload.maxLatenessUs
  validateOptional (validateText "last_error") payload.lastError
  validateOptional validateSessionId payload.sessionId

/-- The id, the texts and the counts of a calibration's progress. -/
def validateCalibrationProgress (payload : CalibrationProgressPayload) : Except String Unit := do
  validateOperationId payload.operationId
  validateText "phase" payload.phase
  validateText "message" payload.message
  failIf (payload.total = 0 ∨ 10000 < payload.total ∨ payload.total < payload.completed)
    "calibration progress is outside bounds"

/-- The id, the texts, the sample count and the recommendation of an ended calibration. -/
def validateCalibrationFinished (payload : CalibrationFinishedPayload) : Except String Unit := do
  validateOperationId payload.operationId
  validateText "status" payload.status
  validateText "source" payload.source
  validateText "message" payload.message
  failIf (5000 < payload.sampleCount) "calibration sample count exceeds bounds"
  failIf (payload.recommendedTimingMarginUs.any (maxTimingMarginUs < ·))
    "calibration recommendation is outside bounds"
  failIf (payload.recommendationQualified ∧ payload.recommendedTimingMarginUs = none)
    "qualified calibration is missing its recommendation"

/-- The message and the counts of an update's progress. -/
def validateUpdateProgress (progress : UpdateProgressDto) : Except String Unit := do
  validateText "message" progress.message
  failIf (2 * 1024 * 1024 * 1024 < progress.completed)
    "update progress exceeds the bounded artifact size"
  failIf (progress.total.any fun total =>
      total = 0 ∨ 2 * 1024 * 1024 * 1024 < total ∨ total < progress.completed)
    "update progress is outside bounds"

/-- The revision, the texts, the operation and the progress of an update. -/
def validateUpdateChanged (payload : UpdateSnapshotPayload) : Except String Unit := do
  failIf (payload.revision = 0) "event update revision must be positive"
  validateText "current_version" payload.currentVersion
  validateOptional (validateText "available_version") payload.availableVersion
  validateOptional (validateText "release_notes") payload.releaseNotes
  validateOptional (validateText "published_at") payload.publishedAt
  validateOptional (validateText "error_detail") payload.errorDetail
  validateOptional (fun id =>
    (validateSessionId id).mapError fun _ => "update operation_id is not an opaque ID")
    payload.operationId
  validateOptional validateUpdateProgress payload.progress

/-- An event meets the bounds of its kind. -/
def validateUiEvent : UiEvent → Except String Unit
  | .coreReady payload => validateReady payload
  | .coreFatal payload => validateFatal payload
  | .catalogChanged payload => validateCatalogChanged payload
  | .catalogLoadFailed payload => validateCatalogLoadFailed payload
  | .playbackStateChanged payload => validatePlaybackStateChanged payload
  | .playbackSnapshot payload => validatePlaybackSnapshot payload
  | .playbackFinished payload => validatePlaybackFinished payload
  | .playbackFailed payload => validatePlaybackFailed payload
  | .diagnosticsSnapshot payload => validateDiagnosticsSnapshot payload
  | .calibrationProgress payload => validateCalibrationProgress payload
  | .calibrationFinished payload => validateCalibrationFinished payload
  | .updateChanged payload => validateUpdateChanged payload

/-- What a snapshot is a snapshot of, absent for lifecycle events. -/
def snapshotKey : UiEvent → Option (ℕ × String)
  | .playbackSnapshot payload => some (1, payload.sessionId)
  | .diagnosticsSnapshot payload => some (2, payload.sessionId.getD "")
  | .calibrationProgress payload => some (3, payload.operationId)
  | _ => none

/-- An event that only the latest of its key matters of. -/
def UiEvent.isSnapshot (event : UiEvent) : Bool := (snapshotKey event).isSome

/-- An event that must be delivered in order. -/
def UiEvent.isLifecycle (event : UiEvent) : Bool := !event.isSnapshot

end SkyAutoPlayer.Desktop
