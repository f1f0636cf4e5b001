import SkyAutoPlayer.DesktopUi.PlaybackTransport

/-!
# The actions of the user interface

An action of the user begins an operation or does nothing. The catalog, the settings and the library
change the playback as well, and a preparation that is under way does not outlive such a change.
-/

namespace SkyAutoPlayer.DesktopUi

open Foundation

/-- What the user has selected to be prepared, or why nothing can be. -/
abbrev Selection := Except String (PlaybackSongIdentity × PlaybackContext)

namespace PlaybackStore

/-- The present prepared playback waits for the user's confirmation. -/
def awaitsConfirmation (store : PlaybackStore) : Bool :=
  store.playback.prepared.map PreparedPlayback.admission = some .confirmationRequired

/-- The user prepares the selected song. -/
def prepareSelectedPlayback (selection : Selection) (dryRun : Option Bool) (library : LibraryView)
    (store : PlaybackStore) : Turn :=
  let current := store.playback
  if store.awaitsConfirmation ∧ current.prepared.bind PreparedPlayback.errorCode ≠
      some "conversion_confirmation_required" then (store, [])
  else if current.startRequestId.isSome ∨ current.transportOperation.isSome ∨
      current.sessionId.isSome ∨ current.state ∈ [.starting, .playing, .paused, .stopping] then
    (store, [])
  else match selection with
    | .error message => (store.showError (some message), [])
    | .ok (identity, context) =>
      match store.beginOperation .preparing false with
      | none => (store, [])
      | some (epoch, begun) =>
        if library.contextCurrent then
          (begun, [.prepare identity { context with dryRun := dryRun.getD context.dryRun } epoch])
        else
          (begun.finishOperation epoch (some
            "The Library source changed. Select a song to create a new playback context."), [])

/-- The user starts the prepared playback. -/
def startPreparedPlayback (decision : Option String) (library : LibraryView) (store : PlaybackStore) :
    Turn :=
  let current := store.playback
  if current.startRequestId.isSome ∨ current.transportOperation.isSome ∨ current.sessionId.isSome ∨
      current.state ∈ [.playing, .paused, .stopping] then (store, [])
  else match current.prepared, current.preparedIdentity, current.preparedContext with
    | some prepared, some identity, some context =>
      if prepared.preparedId.isNone then
        (store.showError (some "Prepare playback before starting."), [])
      else if prepared.admission = .blocked ∨ prepared.admission = .confirmationRequired ∧
          ¬decision.any (fun decision => decision ∈ prepared.decisions) then (store, [])
      else if ¬library.contextCurrent then
        (store.dropPrepared.showError (some
          "The Library source changed. Select a song and prepare playback again."), [])
      else
        match store.beginOperation .starting false with
        | none => (store, [])
        | some (epoch, begun) =>
          match begun.startForOperation prepared identity context epoch true with
          | .error message => (begun.finishOperation epoch (some message), [])
          | .ok turn => turn
    | _, _, _ => (store.showError (some "Prepare playback before starting."), [])

/-- The user forgets the prepared playback. -/
def cancelPreparedPlayback (store : PlaybackStore) : PlaybackStore :=
  if store.playback.transportOperation.isSome ∨
      ¬store.playback.prepared.any (fun prepared => prepared.admission ≠ .ready) then store
  else store.dropPrepared.showError none

/-- The user stops the session, whatever operation is under way. -/
def stopPlayback (store : PlaybackStore) : Turn :=
  match store.playback.sessionId with
  | none => (store, [])
  | some sessionId =>
    if store.playback.state = .idle then (store, [])
    else match store.beginOperation .stopping store.playback.transportOperation.isSome with
      | none => (store, [])
      | some (epoch, begun) => (begun, [.stop epoch sessionId store.playback.startRequestId])

/-- The user asks for the status. -/
def retryPlaybackStatus (store : PlaybackStore) : Turn :=
  if store.playbackStatusRetry then (store, [])
  else
    let asking := store.nextReconciliationToken
    ({ asking with
      playbackStatusRetry := true
      playback := { store.playback with statusRetryPending := true } },
      [.reconcile ⟨asking.playbackReconciliationEpoch,
        store.playback.transportOperation.getD .starting, store.transportOperationEpoch,
        store.playback.sessionId, store.playback.startRequestId, true⟩])

/-- The user pauses or resumes the session. -/
def controlPlayback (operation : TransportOperation) (state : PlaybackUiState)
    (store : PlaybackStore) : Turn :=
  if store.playback.sessionId.isNone ∨ store.playback.state ≠ state ∨
      store.playback.transportOperation.isSome then (store, [])
  else match store.beginOperation operation false with
    | none => (store, [])
    | some (epoch, begun) => (begun, [.control epoch])

/-- The user pauses the session. -/
def pausePlayback (store : PlaybackStore) : Turn := store.controlPlayback .pausing .playing

/-- The user resumes the session. -/
def resumePlayback (store : PlaybackStore) : Turn := store.controlPlayback .resuming .paused

/-- The user moves to another song of the context. -/
def movePlayback (target : PlaybackContext → Option ℕ) (operation : TransportOperation)
    (library : LibraryView) (store : PlaybackStore) : Turn :=
  match store.playback.context with
  | none => (store, [])
  | some context =>
    if ¬library.contextCurrent ∨ store.awaitsConfirmation ∨
        store.playback.transportOperation.isSome then (store, [])
    else match target context with
      | none => (store, [])
      | some position =>
        transitionContextPlayback context position operation store.playback.sessionId none library
          store

/-- How far the session has come, as far as the interface knows. -/
def currentUs (store : PlaybackStore) : ℕ :=
  match store.playback.snapshot with
  | some snapshot =>
    if store.playback.sessionId = some snapshot.sessionId then snapshot.currentUs else 0
  | none => 0

/-- The user moves to the song before the present one. -/
def previousPlayback (library : LibraryView) (store : PlaybackStore) : Turn :=
  store.movePlayback (PlaybackContext.previousPlaybackPosition store.currentUs) .restarting library

/-- The user moves to the song after the present one. -/
def nextPlayback (library : LibraryView) (store : PlaybackStore) : Turn :=
  store.movePlayback PlaybackContext.nextPlaybackPosition .advancing library

/-- The preparation that is under way is over. -/
def cancelPreparing (store : PlaybackStore) : PlaybackStore :=
  if store.playback.transportOperation = some .preparing then
    let cleared := store.clearOperationFromEvent
    { cleared with playback := { store.playback with transportOperation := none } }
  else store

/-- The catalog has changed. -/
def playbackForCatalogChange (store : PlaybackStore) : PlaybackStore :=
  store.cancelPreparing.dropPrepared

/-- The settings have changed. A safe change touches nothing that a preparation has read. -/
def settingsPatched (patchAutoPlay : Option Bool) (safe autoPlay : Bool) (store : PlaybackStore) :
    PlaybackStore :=
  let revised :=
    if patchAutoPlay.isSome ∧ patchAutoPlay ≠ some store.autoPlay then
      { store with autoPlaySettingsRevision := store.autoPlaySettingsRevision + 1 }
    else store
  let patched := { revised with autoPlay }
  if safe then patched else patched.cancelPreparing.dropPrepared

/-- The session and what goes with it are forgotten. -/
def forgetSession (store : PlaybackStore) : PlaybackStore :=
  { store with playback := { store.playback with
    currentSong := none
    context := none
    sessionId := none
    state := .idle
    snapshot := none } }

/-- The user has gone to another part of the library. -/
def playbackAfterBrowserNavigation (store : PlaybackStore) : PlaybackStore :=
  let cancelled := store.cancelPreparing.dropPrepared.showError none
  if store.playback.sessionId.isSome ∨ store.playback.startRequestId.isSome ∨
      cancelled.playback.transportOperation.isSome then cancelled
  else cancelled.forgetSession

/-- The user has selected a song. -/
def songSelected (store : PlaybackStore) : PlaybackStore :=
  let cancelled := store.cancelPreparing.dropPrepared.showError none
  if store.playback.sessionId.isSome ∨ cancelled.playback.transportOperation.isSome then cancelled
  else cancelled.forgetSession

/-- The user has chosen another conversion of the selected song. -/
def sheetDetailRefreshed (store : PlaybackStore) : PlaybackStore :=
  store.cancelPreparing.dropPrepared.showError none

/-- The songs of a source have changed. A playback that awaits its confirmation is forgotten. -/
def invalidatePlaybackMembershipContext (preparedMatches : Bool) (store : PlaybackStore) :
    PlaybackStore :=
  if preparedMatches ∧ store.playback.preparedContext.isSome ∧ store.awaitsConfirmation ∧
      store.playback.transportOperation = none then
    { store with playback := { store.playback with
      prepared := none
      preparedIdentity := none
      error := some <| "The Library changed while playback was awaiting confirmation. " ++
        "Prepare the song again." } }
  else store

/-- The native side has failed for good. -/
def coreFailed (fatal : String) (store : PlaybackStore) : PlaybackStore :=
  let cleared := store.clearOperationFromEvent
  { cleared with playback := { store.playback with
    state := .failed
    startRequestId := none
    transportOperation := none
    error := some fatal } }

end PlaybackStore

open PlaybackStore

/-- What happens to the interface. -/
inductive UiAction where
  | prepareSelectedPlayback (selection : Selection) (dryRun : Option Bool)
  | startPreparedPlayback (decision : Option String)
  | cancelPreparedPlayback
  | stopPlayback
  | retryPlaybackStatus
  | pausePlayback
  | resumePlayback
  | previousPlayback
  | nextPlayback
  | playbackForCatalogChange
  | settingsPatched (patchAutoPlay : Option Bool) (safe autoPlay : Bool)
  | playbackAfterBrowserNavigation
  | songSelected
  | sheetDetailRefreshed
  | invalidatePlaybackMembershipContext (preparedMatches : Bool)
  | coreFailed (fatal : String)
  | eventReceived (event : PlaybackEvent)
  | operationTimedOut
  | terminalTimedOut

/-- What an action makes of the store; absent where a timer that runs out is not armed. -/
def UiAction.made (action : UiAction) (library : LibraryView) (store : PlaybackStore) : Option Turn :=
  match action with
  | prepareSelectedPlayback selection dryRun =>
    some (store.prepareSelectedPlayback selection dryRun library)
  | startPreparedPlayback decision => some (store.startPreparedPlayback decision library)
  | cancelPreparedPlayback => some (store.cancelPreparedPlayback, [])
  | stopPlayback => some store.stopPlayback
  | retryPlaybackStatus => some store.retryPlaybackStatus
  | pausePlayback => some store.pausePlayback
  | resumePlayback => some store.resumePlayback
  | previousPlayback => some (store.previousPlayback library)
  | nextPlayback => some (store.nextPlayback library)
  | playbackForCatalogChange => some (store.playbackForCatalogChange, [])
  | settingsPatched patchAutoPlay safe autoPlay =>
    some (store.settingsPatched patchAutoPlay safe autoPlay, [])
  | playbackAfterBrowserNavigation => some (store.playbackAfterBrowserNavigation, [])
  | songSelected => some (store.songSelected, [])
  | sheetDetailRefreshed => some (store.sheetDetailRefreshed, [])
  | invalidatePlaybackMembershipContext preparedMatches =>
    some (store.invalidatePlaybackMembershipContext preparedMatches, [])
  | coreFailed fatal => some (store.coreFailed fatal, [])
  | eventReceived event => some (store.handleEvent event library)
  | operationTimedOut => store.operationTimedOut
  | terminalTimedOut => store.terminalTimedOut

/-- The interface: its store, what it waits for, each with the number of statuses there had been when it
was asked for, and the statuses of the native side, the latest first. -/
structure Interface where
  store : PlaybackStore
  tasks : List (ℕ × UiTask)
  statuses : List PlaybackStatus
  deriving DecidableEq

/-- What comes next: the native side changes its status, an action is made, or a task is answered. -/
inductive UiInput where
  | statusChanged (status : PlaybackStatus)
  | act (action : UiAction) (library : LibraryView)
  | answer (index : ℕ) (answer : UiAnswer) (library : LibraryView)

namespace Interface

/-- The interface at its start. -/
def initial : Interface := ⟨{}, [], [⟨none, none⟩]⟩

/-- The interface after a turn. -/
def after (tasks : List (ℕ × UiTask)) (turn : Turn) (ui : Interface) : Interface :=
  { ui with
    store := turn.1
    tasks := tasks ++ turn.2.map fun task => (ui.statuses.length, task) }

/-- An answer tells of no other status than one since the question. -/
def truthful (since : ℕ) (answer : UiAnswer) (ui : Interface) : Bool :=
  match answer with
  | .status (.ok status) => status ∈ ui.statuses.take (ui.statuses.length - since + 1)
  | _ => true

/-- What an input makes of the interface. -/
def step (ui : Interface) (input : UiInput) : Option Interface :=
  match input with
  | .statusChanged status => some { ui with statuses := status :: ui.statuses }
  | .act action library => (action.made library ui.store).map fun turn => ui.after ui.tasks turn
  | .answer index answer library =>
    match ui.tasks[index]? with
    | none => none
    | some (since, task) =>
      if ui.truthful since answer then
        (task.answered answer library ui.store).map fun turn =>
          ui.after (ui.tasks.eraseIdx index) turn
      else none

/-- The machine of the interface. -/
def machine : Machine Interface UiInput := ⟨initial, step⟩

end Interface

end SkyAutoPlayer.DesktopUi
