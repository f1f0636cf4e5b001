import SkyAutoPlayer.AppCore.UpdatePolicy
import SkyAutoPlayer.Desktop.PlaybackSession
import SkyAutoPlayer.Desktop.UiEvents

/-!
# The update service

A check looks for an update under the lock of the settings and offers it. An installation copies the
offer, downloads it and installs it, and a change of the preferences drops the offer. Each of them makes
its transitions under the lock of the service's state and publishes the snapshot of a transition after
it has left the lock.

Every section under a lock is one step, and so is every publication. An installation meets the other
owners of the physical input.
-/

namespace SkyAutoPlayer.Desktop

open Foundation AppCore

/-- What the updater does. -/
inductive UpdateState where
  | idle
  | checking
  | current
  | available
  | downloading
  | ready
  | installing
  | error
  deriving DecidableEq, Repr

/-- Why an update failed. -/
inductive UpdateErrorCode where
  | checkFailed
  | updateServiceUnavailable
  | channelUnavailable
  | playbackActive
  | calibrationActive
  | updateBusy
  | closing
  | staleUpdate
  | updateUnavailable
  | downloadFailed
  | installFailed
  | statePersistenceFailed
  | unknown
  deriving DecidableEq, Repr

/-- What the user may try again. -/
inductive UpdateRetryAction where
  | none
  | check
  | install
  deriving DecidableEq, Repr

/-- Who asks for a check. -/
inductive UpdateCheckOrigin where
  | manual
  | background
  deriving DecidableEq, Repr

/-- What becomes of a request for a check. -/
inductive UpdateCheckDisposition where
  | performed
  | disabled
  | throttled
  deriving DecidableEq, Repr

/-- An update as the updater finds it. -/
structure UpdateRelease where
  version : String
  body : Option String
  date : Option String
  deriving DecidableEq

/-- The update that the service offers. -/
structure NativeUpdateCandidate where
  version : String
  channel : UpdateChannel
  releaseNotes : Option String
  publishedAt : Option String
  deriving DecidableEq

/-- The state of the service. -/
structure NativeUpdateState where
  revision : ℕ
  channel : UpdateChannel
  candidate : Option NativeUpdateCandidate
  updates : List UpdateRelease
  operationId : Option String
  state : UpdateState
  errorCode : Option UpdateErrorCode
  errorDetail : Option String
  retryAction : UpdateRetryAction
  progress : Option UpdateProgressDto
  deriving DecidableEq

/-- The service at the start of the program. -/
def NativeUpdateState.default : NativeUpdateState :=
  ⟨0, .stable, none, [], none, .idle, none, none, .none, none⟩

/-- What a transition makes of the state. -/
structure StateTransition where
  state : UpdateState := .idle
  channel : UpdateChannel := .stable
  candidate : Option NativeUpdateCandidate := none
  updates : List UpdateRelease := []
  operationId : Option String := none
  progress : Option UpdateProgressDto := none
  errorCode : Option UpdateErrorCode := none
  errorDetail : Option String := none
  retryAction : UpdateRetryAction := .none
  deriving DecidableEq

/-- The snapshot of the state that the user interface gets. -/
structure UpdateSnapshot extends UpdateSnapshotPayload where
  state : UpdateState
  channel : UpdateChannel
  errorCode : Option UpdateErrorCode
  retryAction : UpdateRetryAction
  deriving DecidableEq

/-- The version of the program. -/
def currentVersion : String := "4.3.0"

/-- The most characters of release notes. -/
def maxReleaseNotes : ℕ := 16 * 1024

/-- The largest artifact, in bytes. -/
def maxArtifactBytes : ℕ := 2 * 1024 * 1024 * 1024

/-- A text of at most 4096 characters. -/
def bounded (value : String) : String := String.ofList (value.toList.take 4096)

namespace NativeUpdateState

/-- The snapshot of the state. -/
def snapshot (state : NativeUpdateState) : UpdateSnapshot where
  revision := state.revision
  state := state.state
  currentVersion := currentVersion
  availableVersion := state.candidate.map NativeUpdateCandidate.version
  channel := state.channel
  releaseNotes := state.candidate.bind NativeUpdateCandidate.releaseNotes
  publishedAt := state.candidate.bind NativeUpdateCandidate.publishedAt
  errorCode := state.errorCode
  errorDetail := state.errorDetail
  retryAction := state.retryAction
  operationId := state.operationId
  progress := state.progress

/-- Make a transition, and take the snapshot of the state after it. -/
def applyTransition (transition : StateTransition) (state : NativeUpdateState) :
    NativeUpdateState × UpdateSnapshot :=
  let revision := state.revision + 1
  let errorDetail := transition.errorDetail.map bounded
  (⟨revision, transition.channel, transition.candidate, transition.updates, transition.operationId,
      transition.state, transition.errorCode, errorDetail, transition.retryAction,
      transition.progress⟩,
    { revision := revision
      state := transition.state
      currentVersion := currentVersion
      availableVersion := transition.candidate.map NativeUpdateCandidate.version
      channel := transition.channel
      releaseNotes := transition.candidate.bind NativeUpdateCandidate.releaseNotes
      publishedAt := transition.candidate.bind NativeUpdateCandidate.publishedAt
      errorCode := transition.errorCode
      errorDetail := errorDetail
      retryAction := transition.retryAction
      operationId := transition.operationId
      progress := transition.progress })

end NativeUpdateState

/-- What an update is offered as. -/
structure UpdateOffer where
  version : String
  channel : UpdateChannel
  deriving DecidableEq

/-- What a snapshot offers. -/
def UpdateSnapshot.offer (snapshot : UpdateSnapshot) : Option UpdateOffer :=
  snapshot.availableVersion.map fun version => ⟨version, snapshot.channel⟩

/-- What the state offers after a transition. -/
def StateTransition.offer (transition : StateTransition) : Option UpdateOffer :=
  transition.candidate.map fun candidate => ⟨candidate.version, transition.channel⟩

/-- What a candidate is offered as. -/
def NativeUpdateCandidate.offer (candidate : NativeUpdateCandidate) : UpdateOffer :=
  ⟨candidate.version, candidate.channel⟩

/-- What a change of the preferences rules out: the channel before it, and the version that is
skipped after it. -/
structure UpdateExclusion where
  channel : Option UpdateChannel
  skipped : Option String
  deriving DecidableEq

/-- A change of the preferences rules an offer out. -/
def UpdateExclusion.excludes (exclusion : UpdateExclusion) (offer : UpdateOffer) : Bool :=
  exclusion.channel = some offer.channel || exclusion.skipped = some offer.version

/-- What a change of the preferences rules out. -/
def exclusionOf (before after : UpdatePreferences) : UpdateExclusion where
  channel := if before.channel = after.channel then none else some before.channel
  skipped := if before.skipVersion = after.skipVersion then none else some after.skipVersion

/-- What happens in the service. The changes of the preferences are numbered in their order, and a check
knows how many of them came before it. -/
inductive UpdateEvent where
  | reset (number : ℕ) (exclusion : UpdateExclusion)
  | returned (number : ℕ) (exclusion : UpdateExclusion)
  | found (changes : ℕ) (offer : UpdateOffer)
  | applied (snapshot : UpdateSnapshot)
  | published (snapshot : UpdateSnapshot)
  | lost (snapshot : UpdateSnapshot)
  deriving DecidableEq

/-- What the calls of the service share. The history is kept with its latest event first. -/
structure UpdateShared where
  preferences : UpdatePreferences
  settingsHeld : Bool
  state : NativeUpdateState
  activity : ActivityState
  changes : ℕ
  history : List UpdateEvent
  deriving DecidableEq

/-- The service at the start of the program. -/
def UpdateShared.initial (preferences : UpdatePreferences) : UpdateShared :=
  ⟨preferences, false, .default, .initial, 0, []⟩

/-- What the download of a release says next: a chunk of it came, or it ended with its bytes. -/
inductive DownloadAnswer where
  | chunk (length : ℕ) (total : Option ℕ)
  | ended (result : Except String ℕ)

/-- What a step cannot determine: the time, the settings in their file, whether the settings are saved,
what the updater finds, downloads and installs, the name of an operation, and whether an event is
published. -/
structure UpdateChoice where
  now : ℤ
  loaded : Except String UpdatePreferences
  saved : Except String Unit
  checked : Except String (List UpdateRelease)
  operationId : Except String String
  download : DownloadAnswer
  installed : Except String Unit
  published : Bool

/-- The candidate that a found update becomes. -/
def candidateFromUpdate (update : UpdateRelease) (channel : UpdateChannel) : NativeUpdateCandidate where
  version := bounded update.version
  channel := channel
  releaseNotes := update.body.map fun value => String.ofList (value.toList.take maxReleaseNotes)
  publishedAt := update.date.map bounded

/-- Whether a check is made. -/
def checkDisposition (origin : UpdateCheckOrigin) (preferences : UpdatePreferences) (now : ℤ) :
    UpdateCheckDisposition :=
  match origin with
  | .manual => .performed
  | .background =>
    if !preferences.autoCheck then .disabled
    else if !shouldAutoCheck preferences now then .throttled
    else .performed

/-- A text occurs in another. -/
def containsText (text part : String) : Bool := decide (part.toList <:+: text.toList)

/-- The code of a failed check. -/
def classifyCheckError (error : String) : UpdateErrorCode :=
  if containsText (String.ofList (error.toList.map Char.toLower)) "channel_unavailable" then
    .channelUnavailable
  else .checkFailed

/-- The code of a refused reservation, and what may be tried again. -/
def updateActivityCode : ActivityReservationError → UpdateErrorCode × UpdateRetryAction
  | .closing => (.closing, .none)
  | .physicalPlaybackActive => (.playbackActive, .install)
  | .physicalReleaseUnverified => (.playbackActive, .none)
  | .calibrationAlreadyActive => (.calibrationActive, .install)
  | .updateAlreadyActive => (.updateBusy, .install)

/-- The text of a refused reservation. -/
def updateActivityError : ActivityReservationError → String
  | .closing => "closing: desktop application is closing"
  | .physicalPlaybackActive =>
    "playback_active: update installation cannot run during physical playback"
  | .physicalReleaseUnverified => "playback_release_unverified: update installation is blocked " ++
    "because the previous physical key release could not be verified; restart the application to " ++
    "restore physical input"
  | .calibrationAlreadyActive =>
    "calibration_active: update installation cannot run during calibration"
  | .updateAlreadyActive => "update_busy: another update installation is already active"

/-- What a chunk makes of the bytes that are downloaded, and of the progress. -/
def recordChunk (downloaded length : ℕ) (contentLength : Option ℕ) :
    Except String (ℕ × UpdateProgressDto) := do
  let sum ← okOr "update download progress overflowed" (checkedAdd 64 downloaded length)
  failIf (maxArtifactBytes < sum) "update download exceeds the bounded artifact size"
  let total := contentLength.filter fun value => 1 ≤ value && value ≤ maxArtifactBytes
  failIf (total.any (· < sum)) "update download progress exceeds its content length"
  pure (sum, ⟨sum, total, "Downloading update"⟩)

/-- The progress of a downloaded artifact. -/
def verifiedArtifactProgress (bytes : ℕ) (message : String) : UpdateProgressDto :=
  ⟨bytes, some bytes, message⟩

/-- What an installation copied. -/
structure InstallCopy where
  candidate : NativeUpdateCandidate
  updates : List UpdateRelease
  deriving DecidableEq

/-- An installation under its name. -/
structure InstallOperation where
  copy : InstallCopy
  operationId : String
  deriving DecidableEq

/-- A download: the releases that remain to be tried, what came of the first of them, why its progress
failed, and why the release before it failed. -/
structure UpdateDownload where
  operation : InstallOperation
  remaining : List UpdateRelease
  downloaded : ℕ
  progressError : Option String
  lastError : Option String
  deriving DecidableEq

namespace InstallCopy

/-- The reservation is refused. -/
def refusedTransition (copy : InstallCopy) (error : ActivityReservationError) : StateTransition where
  state := .error
  channel := copy.candidate.channel
  candidate := some copy.candidate
  updates := copy.updates
  errorCode := some (updateActivityCode error).1
  errorDetail := some (updateActivityError error)
  retryAction := (updateActivityCode error).2

end InstallCopy

namespace InstallOperation

/-- The operation goes on, with a progress. -/
def transition (operation : InstallOperation) (state : UpdateState) (progress : UpdateProgressDto) :
    StateTransition where
  state := state
  channel := operation.copy.candidate.channel
  candidate := some operation.copy.candidate
  updates := operation.copy.updates
  operationId := some operation.operationId
  progress := some progress

/-- The operation failed. -/
def failedTransition (operation : InstallOperation) (code : UpdateErrorCode) (detail : String) :
    StateTransition where
  state := .error
  channel := operation.copy.candidate.channel
  candidate := some operation.copy.candidate
  updates := operation.copy.updates
  operationId := some operation.operationId
  errorCode := some code
  errorDetail := some detail
  retryAction := .install

end InstallOperation

/-- A failure that leaves no offer. -/
def errorTransition (channel : UpdateChannel) (code : UpdateErrorCode) (detail : String) :
    StateTransition where
  state := .error
  channel := channel
  errorCode := some code
  errorDetail := some detail
  retryAction := .check

/-- The times of the checks could not be saved. -/
def persistenceFailure (channel : UpdateChannel) (error : String) : StateTransition :=
  errorTransition channel .statePersistenceFailed
    (bounded ("update timestamp persistence failed: " ++ error))

/-- Where a check stands. It knows the channel, and how many changes of the preferences came before
it. -/
inductive CheckPhase where
  | locking
  | announcing (channel : UpdateChannel) (changes : ℕ)
  | asking (channel : UpdateChannel) (changes : ℕ)
  | concluding (changes : ℕ) (transition : StateTransition)
  | unlocking
  | over (disposition : UpdateCheckDisposition)
  deriving DecidableEq

/-- Where an installation stands. -/
inductive InstallPhase where
  | loading
  | copying (preferences : UpdatePreferences)
  | refusing (transition : StateTransition)
  | reserving (copy : InstallCopy)
  | naming (copy : InstallCopy)
  | starting (operation : InstallOperation)
  | downloading (download : UpdateDownload)
  | progressing (download : UpdateDownload) (progress : UpdateProgressDto)
  | readying (operation : InstallOperation) (bytes : ℕ)
  | installing (operation : InstallOperation) (bytes : ℕ)
  | executing (operation : InstallOperation)
  | concluding (transition : StateTransition)
  | releasing
  | over
  deriving DecidableEq

/-- Where a change of the preferences stands. -/
inductive PatchPhase where
  | patching
  | refused (error : String)
  | resetting (channel : UpdateChannel) (number : ℕ) (exclusion : UpdateExclusion)
  | returning (number : ℕ) (exclusion : UpdateExclusion)
  | over
  deriving DecidableEq

/-- What a call does. -/
inductive UpdateTask where
  | check (origin : UpdateCheckOrigin) (phase : CheckPhase)
  | install (requestedTarget : String) (phase : InstallPhase)
  | patch (patch : UpdatePreferencesPatch) (phase : PatchPhase)
  | reload (done : Bool)
  | playback (sessionId : String) (phase : ReservationPhase)
  | calibration (phase : ReservationPhase)
  | shutdown (begun : Bool)
  deriving DecidableEq

/-- A transition that is to be made, what the call does after its snapshot is published, and what it
does when it cannot be. -/
structure PendingTransition where
  transition : StateTransition
  next : UpdateTask
  failed : UpdateTask

/-- A snapshot that is to be published, and what the call does when it cannot be. -/
structure PendingPublication where
  snapshot : UpdateSnapshot
  failed : UpdateTask
  deriving DecidableEq

/-- A call, with the snapshot it publishes before it goes on, and what had happened when an installation
copied its candidate. -/
structure UpdateCall where
  task : UpdateTask
  publishing : Option PendingPublication
  seen : List UpdateEvent
  deriving DecidableEq

/-- An operation of the service, or another owner of the physical input. -/
inductive UpdateOp where
  | check (origin : UpdateCheckOrigin)
  | install (requestedTarget : String)
  | patch (patch : UpdatePreferencesPatch)
  | reload
  | playback (sessionId : String)
  | calibration
  | shutdown

/-- The transition that a check makes next. A check that cannot publish it ends. -/
def CheckPhase.transition? : CheckPhase → Option (StateTransition × CheckPhase × CheckPhase)
  | .announcing channel changes =>
    some ({ state := .checking, channel := channel }, .asking channel changes, .unlocking)
  | .concluding _ transition => some (transition, .unlocking, .unlocking)
  | .locking | .asking _ _ | .unlocking | .over _ => none

/-- The transition that an installation makes next. The callback of a download goes on when its snapshot
cannot be published, and every other failure ends the installation. -/
def InstallPhase.transition? : InstallPhase → Option (StateTransition × InstallPhase × InstallPhase)
  | .refusing transition => some (transition, .over, .over)
  | .starting operation =>
    some (operation.transition .downloading ⟨0, none, "Downloading update"⟩,
      .downloading ⟨operation, operation.copy.updates, 0, none, none⟩, .releasing)
  | .progressing download progress =>
    some (download.operation.transition .downloading progress, .downloading download,
      .downloading download)
  | .readying operation bytes =>
    some (operation.transition .ready (verifiedArtifactProgress bytes "Update is ready to install"),
      .installing operation bytes, .releasing)
  | .installing operation bytes =>
    some (operation.transition .installing
      (verifiedArtifactProgress bytes "Installing update and restarting"), .executing operation,
        .releasing)
  | .concluding transition => some (transition, .releasing, .releasing)
  | .loading | .copying _ | .reserving _ | .naming _ | .downloading _ | .executing _ | .releasing
  | .over => none

/-- The transition that a change of the preferences makes next. -/
def PatchPhase.transition? : PatchPhase → Option (StateTransition × PatchPhase × PatchPhase)
  | .resetting channel number exclusion =>
    some ({ channel := channel }, .returning number exclusion, .returning number exclusion)
  | .patching | .refused _ | .returning _ _ | .over => none

/-- The transition that a call makes next. -/
def UpdateTask.transition? : UpdateTask → Option PendingTransition
  | .check origin phase => phase.transition?.map fun (transition, next, failed) =>
    ⟨transition, .check origin next, .check origin failed⟩
  | .install requestedTarget phase => phase.transition?.map fun (transition, next, failed) =>
    ⟨transition, .install requestedTarget next, .install requestedTarget failed⟩
  | .patch change phase => phase.transition?.map fun (transition, next, failed) =>
    ⟨transition, .patch change next, .patch change failed⟩
  | .reload _ | .playback _ _ | .calibration _ | .shutdown _ => none

/-- The event that a transition is, apart from its snapshot. -/
def UpdateTask.resets : UpdateTask → List UpdateEvent
  | .patch _ (.resetting _ number exclusion) => [.reset number exclusion]
  | _ => []

/-- What the updater finds on a channel. -/
def checkOfficial (channel : UpdateChannel) (choice : UpdateChoice) :
    Except String (List UpdateRelease) :=
  match channel with
  | .stable => choice.checked
  | .beta => .error "channel_unavailable: beta update channel is not supported in production"

/-- What a check makes of the updates that it found, once the time of the check is saved. -/
def concludeCheck (channel : UpdateChannel) (changes : ℕ) (now : ℤ) (updates : List UpdateRelease)
    (shared : UpdateShared) : UpdateShared × CheckPhase :=
  let saved := { shared with
    preferences := { shared.preferences with lastCheckTs := now, lastErrorTs := 0 } }
  match updates with
  | [] => (saved, .concluding changes { state := .current, channel := channel })
  | update :: _ =>
    if shared.preferences.skipVersion ≠ update.version then
      let candidate := candidateFromUpdate update channel
      ({ saved with history := .found changes candidate.offer :: saved.history },
        .concluding changes
          { state := .available, channel := channel, candidate := some candidate, updates := updates })
    else (saved, .concluding changes { state := .current, channel := channel })

/-- The next step of a check that is no transition. -/
def CheckPhase.step (choice : UpdateChoice) (origin : UpdateCheckOrigin) (phase : CheckPhase)
    (shared : UpdateShared) : Option (UpdateShared × CheckPhase) :=
  match phase with
  | .locking =>
    if shared.settingsHeld then none
    else
      match checkDisposition origin shared.preferences choice.now with
      | .performed =>
        some ({ shared with settingsHeld := true },
          .announcing shared.preferences.channel shared.changes)
      | disposition => some (shared, .over disposition)
  | .asking channel changes =>
    match checkOfficial channel choice, choice.saved with
    | .ok updates, .ok _ => some (concludeCheck channel changes choice.now updates shared)
    | .error error, .ok _ =>
      some ({ shared with preferences := { shared.preferences with lastErrorTs := choice.now } },
        .concluding changes (errorTransition channel (classifyCheckError error) (bounded error)))
    | _, .error error => some (shared, .concluding changes (persistenceFailure channel error))
  | .unlocking => some ({ shared with settingsHeld := false }, .over .performed)
  | .announcing _ _ | .concluding _ _ | .over _ => none

/-- What an installation copies, or why it does not. -/
def copyCandidate (requestedTarget : String) (preferences : UpdatePreferences)
    (state : NativeUpdateState) : InstallPhase :=
  match state.candidate with
  | none => .refusing (errorTransition preferences.channel .updateUnavailable
    "update_unavailable: check for an update first")
  | some candidate =>
    if state.updates = [] then
      .refusing (errorTransition preferences.channel .updateUnavailable
        "update_unavailable: update metadata is unavailable")
    else if candidate.version ≠ requestedTarget ∨ preferences.skipVersion = candidate.version ∨
        preferences.channel ≠ candidate.channel then
      .refusing (errorTransition candidate.channel .staleUpdate
        "stale_update: update metadata is stale")
    else .reserving ⟨candidate, state.updates⟩

/-- A release could not be downloaded, and the next one is tried. -/
def UpdateDownload.retry (error : String) (download : UpdateDownload) : UpdateDownload where
  operation := download.operation
  remaining := download.remaining.tail
  downloaded := 0
  progressError := none
  lastError := some error

/-- What a download makes of what it is told. -/
def UpdateDownload.answer (download : UpdateDownload) : DownloadAnswer → InstallPhase
  | .chunk length total =>
    match download.progressError, recordChunk download.downloaded length total with
    | some _, _ => .downloading download
    | none, .ok (downloaded, progress) =>
      .progressing { download with downloaded := downloaded } progress
    | none, .error error => .downloading { download with progressError := some error }
  | .ended (.error error) => .downloading (download.retry error)
  | .ended (.ok bytes) =>
    match download.progressError with
    | some error => .downloading (download.retry error)
    | none =>
      if bytes ≤ maxArtifactBytes then .readying download.operation bytes
      else .concluding (download.operation.failedTransition .downloadFailed
        "update artifact exceeds the bounded size")

/-- A version that cannot be a target. -/
def invalidTarget (requestedTarget : String) : Bool :=
  requestedTarget.isEmpty || 64 < requestedTarget.utf8ByteSize || containsNull requestedTarget

/-- The next step of an installation that is no transition. -/
def InstallPhase.step (choice : UpdateChoice) (requestedTarget : String) (phase : InstallPhase)
    (shared : UpdateShared) : Option (UpdateShared × InstallPhase) :=
  match phase with
  | .loading =>
    if invalidTarget requestedTarget then some (shared, .over)
    else if shared.settingsHeld then none
    else
      match choice.loaded with
      | .ok preferences => some ({ shared with preferences := preferences }, .copying preferences)
      | .error _ => some (shared, .over)
  | .copying preferences => some (shared, copyCandidate requestedTarget preferences shared.state)
  | .reserving copy =>
    match shared.activity.reserveUpdate with
    | .ok activity => some ({ shared with activity := activity }, .naming copy)
    | .error error => some (shared, .refusing (copy.refusedTransition error))
  | .naming copy =>
    match choice.operationId with
    | .ok operationId => some (shared, .starting ⟨copy, operationId⟩)
    | .error _ => some (shared, .releasing)
  | .downloading download =>
    match download.remaining with
    | [] => some (shared, .concluding (download.operation.failedTransition .downloadFailed
      ("update download failed: " ++
        download.lastError.getD "update trust roots are unavailable")))
    | _ :: _ => some (shared, download.answer choice.download)
  | .executing operation =>
    match choice.installed with
    | .ok _ => some (shared, .releasing)
    | .error error => some (shared, .concluding (operation.failedTransition .installFailed
      ("update install failed: " ++ error)))
  | .releasing => some ({ shared with activity := shared.activity.releaseUpdate }, .over)
  | .refusing _ | .starting _ | .progressing _ _ | .readying _ _ | .installing _ _ | .concluding _
  | .over => none

/-- The next step of a change of the preferences that is no transition. -/
def PatchPhase.step (choice : UpdateChoice) (patch : UpdatePreferencesPatch) (phase : PatchPhase)
    (shared : UpdateShared) : Option (UpdateShared × PatchPhase) :=
  match phase with
  | .patching =>
    if patch.channel = some .beta then
      some (shared,
        .refused "channel_unavailable: beta update channel is not supported in production")
    else if shared.settingsHeld then none
    else
      match shared.preferences.applyPatch patch with
      | .error error => some (shared, .refused error.text)
      | .ok preferences =>
        if preferences = shared.preferences then some (shared, .over)
        else
          match choice.saved with
          | .error error => some (shared, .refused error)
          | .ok _ =>
            if shared.preferences.channel ≠ preferences.channel ∨
                shared.preferences.skipVersion ≠ preferences.skipVersion then
              some ({ shared with preferences := preferences, changes := shared.changes + 1 },
                .resetting preferences.channel shared.changes
                  (exclusionOf shared.preferences preferences))
            else some ({ shared with preferences := preferences }, .over)
  | .returning number exclusion =>
    some ({ shared with history := .returned number exclusion :: shared.history }, .over)
  | .refused _ | .resetting _ _ _ | .over => none

/-- The next step of a call that is no transition. -/
def UpdateTask.step (choice : UpdateChoice) (task : UpdateTask) (shared : UpdateShared) :
    Option (UpdateShared × UpdateTask) :=
  match task with
  | .check origin phase =>
    (phase.step choice origin shared).map fun next => (next.1, .check origin next.2)
  | .install requestedTarget phase =>
    (phase.step choice requestedTarget shared).map fun next =>
      (next.1, .install requestedTarget next.2)
  | .patch change phase =>
    (phase.step choice change shared).map fun next => (next.1, .patch change next.2)
  | .reload true => none
  | .reload false =>
    if shared.settingsHeld then none
    else
      match choice.loaded with
      | .ok preferences => some ({ shared with preferences := preferences }, .reload true)
      | .error _ => some (shared, .reload true)
  | .playback sessionId phase =>
    (phase.step (ActivityState.reservePlayback sessionId) (ActivityState.releasePlayback sessionId)
      shared.activity).map fun next =>
        ({ shared with activity := next.1 }, .playback sessionId next.2)
  | .calibration phase =>
    (phase.step ActivityState.reserveCalibration ActivityState.releaseCalibration
      shared.activity).map fun next => ({ shared with activity := next.1 }, .calibration next.2)
  | .shutdown true => none
  | .shutdown false =>
    some ({ shared with activity := shared.activity.beginShutdown }, .shutdown true)

/-- Make a transition, whose snapshot is then to be published. -/
def UpdateShared.apply (pending : PendingTransition) (call : UpdateCall) (shared : UpdateShared) :
    UpdateShared × UpdateCall :=
  let (state, snapshot) := shared.state.applyTransition pending.transition
  ({ shared with
      state := state
      history := call.task.resets ++ .applied snapshot :: shared.history },
    { call with task := pending.next, publishing := some ⟨snapshot, pending.failed⟩ })

/-- Publish a snapshot, or fail to. -/
def UpdateShared.publish (published : Bool) (pending : PendingPublication) (call : UpdateCall)
    (shared : UpdateShared) : UpdateShared × UpdateCall :=
  if published then
    ({ shared with history := .published pending.snapshot :: shared.history },
      { call with publishing := none })
  else
    ({ shared with history := .lost pending.snapshot :: shared.history },
      { call with task := pending.failed, publishing := none })

/-- What an installation has seen when it copies its candidate. -/
def UpdateTask.sees (task : UpdateTask) (seen history : List UpdateEvent) : List UpdateEvent :=
  match task with
  | .install _ (.copying _) => history
  | _ => seen

/-- The next step of a call. -/
def updateStep (choice : UpdateChoice) (call : UpdateCall) (shared : UpdateShared) :
    Option (UpdateShared × UpdateCall) :=
  match call.publishing with
  | some pending => some (shared.publish choice.published pending call)
  | none =>
    match call.task.transition? with
    | some pending => some (shared.apply pending call)
    | none =>
      (call.task.step choice shared).map fun next =>
        (next.1, ⟨next.2, none, call.task.sees call.seen shared.history⟩)

/-- What an operation does first. -/
def UpdateOp.task : UpdateOp → UpdateTask
  | .check origin => .check origin .locking
  | .install requestedTarget => .install requestedTarget .loading
  | .patch change => .patch change .patching
  | .reload => .reload false
  | .playback sessionId => .playback sessionId .reserving
  | .calibration => .calibration .reserving
  | .shutdown => .shutdown false

/-- Any number of calls of the service. -/
def updateProgram : CallProgram UpdateOp UpdateCall UpdateChoice UpdateShared :=
  ⟨fun op => ⟨op.task, none, []⟩, updateStep⟩

/-- The machine of the service. -/
def updateMachine (preferences : UpdatePreferences) :
    Machine (CallPool UpdateShared UpdateCall) (PoolAction UpdateOp UpdateChoice) :=
  updateProgram.machine (.initial preferences)

end SkyAutoPlayer.Desktop
