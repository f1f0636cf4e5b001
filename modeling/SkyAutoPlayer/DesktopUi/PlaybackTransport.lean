import SkyAutoPlayer.DesktopUi.PlaybackStore
import SkyAutoPlayer.Foundation.StateMachine

/-!
# The transport of the user interface

The user prepares, starts and steers the playback, and a transition moves it to another song. An
operation that the native side does not confirm in time is reconciled with the native status. The machine
of the interface takes the user's actions, the native side's answers and events, and the timers, in any
order.

An answer may come after any delay. A status that is answered is one that the native side had between
the question and the answer.
-/

namespace SkyAutoPlayer.DesktopUi

open Foundation

/-- The session that the native side plays. -/
structure ActiveSession where
  sessionId : String
  preparedId : String
  songId : String
  title : String
  state : PlaybackUiState
  deriving DecidableEq

/-- The session that the native side has played last. -/
structure LastTerminal where
  sessionId : String
  preparedId : String
  songId : String
  state : PlaybackUiState
  outcome : Option String
  failureCode : Option String
  failureMessage : Option String
  deriving DecidableEq

/-- The status of the native side. -/
structure PlaybackStatus where
  active : Option ActiveSession
  lastTerminal : Option LastTerminal
  deriving DecidableEq

/-- The event that a session's end would have been. -/
def LastTerminal.event (terminal : LastTerminal) : PlaybackEvent :=
  if terminal.state = .failed then
    .failed terminal.sessionId terminal.songId (terminal.failureCode.getD "playback_failed")
      (terminal.failureMessage.getD
        "Playback failed before the terminal event reached the interface.")
  else .finished terminal.sessionId terminal.songId (terminal.outcome.getD "quit")

/-- The operation is a transition to another song. -/
def TransportOperation.isTransition (operation : TransportOperation) : Bool :=
  operation = .advancing ∨ operation = .restarting

namespace PlaybackStore

/-- The error of a native session that the interface did not expect. -/
def conflictError : String :=
  "A different native playback session is active. Stop it before starting another song."

/-- The error of a start that made no session. -/
def noSessionError : String :=
  "Native playback did not create a session. No active playback session was created. " ++
    "Press Play to try again."

/-- The event of a session that is bound and that the native side no longer knows. -/
def sessionRetiredEvent (sessionId : String) (store : PlaybackStore) : PlaybackEvent :=
  .failed sessionId ((store.playback.currentSong.map PlaybackSongIdentity.songId).getD "")
    "session_retired" "The native playback session has retired. Press Play to start again."

/-- A status that was asked for may still be used. -/
def canApply (query : StatusQuery) (store : PlaybackStore) : Bool :=
  store.playbackReconciliationEpoch = query.token ∧
    (store.playback.sessionId = query.expectedSessionId ∧
        store.playback.startRequestId = query.expectedStartRequestId ∨
      store.playback.transportOperation = some query.operation ∧
        store.operationIsCurrent query.epoch)

/-- The native session is not the one that the interface expects. -/
def conflicts (session : ActiveSession) (store : PlaybackStore) : Bool :=
  let pending := store.sessionLedger.pendingStartForPreparedId session.preparedId
  store.playback.sessionId.isSome ∧ store.playback.sessionId ≠ some session.sessionId ∨
    store.playback.startRequestId.isSome ∧
      store.playback.startRequestId ≠ pending.map PendingPlaybackStart.epoch

/-- The song of the native session. -/
def nativeIdentity (session : ActiveSession) (library : LibraryView) (store : PlaybackStore) :
    PlaybackSongIdentity :=
  let shown := store.playback.currentSong.filter fun song => song.songId = session.songId
  let pending := store.sessionLedger.pendingStartForPreparedId session.preparedId
  (((pending.map PendingPlaybackStart.identity).or shown).or library.row).getD
    ⟨session.songId, session.title, false, library.generation⟩

/-- The context of the native session. -/
def nativeContext (session : ActiveSession) (store : PlaybackStore) : Option PlaybackContext :=
  match store.sessionLedger.pendingStartForPreparedId session.preparedId with
  | some pending => some pending.context
  | none =>
    if store.playback.currentSong.map PlaybackSongIdentity.songId = some session.songId then
      store.playback.context
    else none

/-- The session that is bound ends, because the native side plays another one. -/
def retireConflicting (session : ActiveSession) (store : PlaybackStore) : PlaybackStore :=
  match store.playback.sessionId with
  | some bound => if store.conflicts session then store.retire bound .failed else store
  | none => store

/-- The native session is bound. -/
def bindNative (session : ActiveSession) (library : LibraryView) (store : PlaybackStore) :
    PlaybackStore :=
  let retired := store.retireConflicting session
  { retired.clearTransportTimer.clearTerminalReconciliationTimer with
    transportOperationEpoch := store.transportOperationEpoch + 1
    sessionLedger := retired.sessionLedger.removePending
      (store.sessionLedger.pendingStartForPreparedId session.preparedId)
    playback := { store.playback with
      sessionId := some session.sessionId
      currentSong := some { store.nativeIdentity session library with title := session.title }
      context := store.nativeContext session
      prepared := none
      preparedIdentity := none
      preparedContext := none
      startRequestId := none
      transportOperation := none
      state := session.state
      snapshot := store.playback.snapshot.filter fun snapshot =>
        snapshot.sessionId = session.sessionId
      error :=
        if store.conflicts session then some conflictError
        else if session.state = .starting ∨ session.state = .stopping then
          some "The app could not confirm the current session state."
        else none
      statusRetryPending := false } }

/-- The end of a session that the status tells of, if it is one that the interface waits for. -/
def matchingTerminal (query : StatusQuery) (lastTerminal : Option LastTerminal)
    (store : PlaybackStore) : Option LastTerminal :=
  let expected := query.expectedStartRequestId.bind fun epoch =>
    store.sessionLedger.getPendingStart epoch
  lastTerminal.filter fun terminal =>
    some terminal.sessionId = query.expectedSessionId ∨
      some terminal.sessionId = store.playback.sessionId ∨
      expected.map PendingPlaybackStart.preparedId = some terminal.preparedId

/-- The end of a session takes the place of the event that did not come. -/
def emitReconciledTerminal (terminal : LastTerminal) (library : LibraryView) (store : PlaybackStore) :
    Turn :=
  if store.sessionLedger.isRetired terminal.sessionId then (store, [])
  else store.handleEvent terminal.event library

/-- A transition that has outlived the session before it gets its timer again. -/
def armAgain (query : StatusQuery) (store : PlaybackStore) : PlaybackStore :=
  if query.operation.isTransition ∧ store.playback.transportOperation = some query.operation ∧
      store.operationIsCurrent query.epoch then
    store.armOperationTimer query.epoch query.operation
  else store

/-- The operation is over, and its number and its timers too. -/
def endOperation (error : Option String) (store : PlaybackStore) : PlaybackStore :=
  { store.clearTransportTimer.clearTerminalReconciliationTimer with
    transportOperationEpoch := store.transportOperationEpoch + 1
    playback := { store.playback with transportOperation := none, error } }

/-- No session is bound, and the native side plays none. -/
def withoutSession (store : PlaybackStore) : PlaybackStore :=
  match store.playback.startRequestId with
  | some startRequestId =>
    let ended := store.endOperation (some noSessionError)
    { ended with
      sessionLedger := store.sessionLedger.removePendingStart startRequestId
      playback := { ended.playback with
        prepared := none
        preparedIdentity := none
        preparedContext := none
        startRequestId := none
        state := .idle
        snapshot := none } }
  | none =>
    store.endOperation (some <| "Playback did not confirm the requested operation. " ++
      "Check the session and try again.")

/-- The native side plays no session. -/
def withoutActive (query : StatusQuery) (lastTerminal : Option LastTerminal) (library : LibraryView)
    (store : PlaybackStore) : Turn :=
  match store.matchingTerminal query lastTerminal with
  | some terminal =>
    let (emitted, tasks) :=
      store.clearTerminalReconciliationTimer.emitReconciledTerminal terminal library
    (emitted.armAgain query, tasks)
  | none =>
    match store.playback.sessionId with
    | some sessionId =>
      store.clearTerminalReconciliationTimer.handleEvent (store.sessionRetiredEvent sessionId) library
    | none => (store.withoutSession, [])

/-- A status that was asked for has come, or has not. -/
def reconcilePlaybackAfterTimeout (query : StatusQuery) (reply : Except String PlaybackStatus)
    (library : LibraryView) (store : PlaybackStore) : Turn :=
  if store.canApply query then
    match reply with
    | .error message =>
      (store.endOperation (some ("Playback status is unavailable: " ++ message)), [])
    | .ok status =>
      match status.active with
      | some session => (store.bindNative session library, [])
      | none => store.withoutActive query status.lastTerminal library
  else (store, [])

/-- The user's own question for the status is answered. -/
def retryEnded (store : PlaybackStore) : PlaybackStore :=
  { store with
    playbackStatusRetry := false
    playback := { store.playback with statusRetryPending := false } }

/-- The timer of the operation has run out. A transition goes on while the status is asked for. -/
def operationTimedOut (store : PlaybackStore) : Option Turn :=
  match store.transportOperationTimer with
  | none => none
  | some (epoch, operation) =>
    let fired := store.clearTransportTimer
    if fired.operationIsCurrent epoch then
      let asking := fired.nextReconciliationToken
      let query : StatusQuery := ⟨asking.playbackReconciliationEpoch, operation, epoch,
        store.playback.sessionId, store.playback.startRequestId, false⟩
      if operation.isTransition then some (asking, [.reconcile query])
      else
        let stopped := { asking with
          transportOperationEpoch := store.transportOperationEpoch + 1
          playback := { store.playback with
            transportOperation := none
            error := some <| "Playback confirmation timed out. " ++
              "Checking the native session state…" } }
        some (stopped, [.reconcile query])
    else some (fired, [])

/-- The timer of a session that has reported its end has run out. -/
def terminalTimedOut (store : PlaybackStore) : Option Turn :=
  match store.terminalReconciliationTimer with
  | none => none
  | some timer =>
    let fired := store.clearTerminalReconciliationTimer
    if store.playback.sessionId = some timer.sessionId ∧
        store.playback.startRequestId = timer.startRequestId then
      some (fired, [.reconcile ⟨timer.token, .stopping, timer.epoch, some timer.sessionId,
        timer.startRequestId, false⟩])
    else some (fired, [])

/-- The prepared playback is forgotten. -/
def dropPrepared (store : PlaybackStore) : PlaybackStore :=
  { store with playback := { store.playback with
    prepared := none
    preparedIdentity := none
    preparedContext := none } }

/-- The interface shows an error. -/
def showError (error : Option String) (store : PlaybackStore) : PlaybackStore :=
  { store with playback := { store.playback with error } }

/-- The number of a start is no longer the present one, if it was. -/
def releaseStartRequest (startEpoch : ℕ) (store : PlaybackStore) : PlaybackStore :=
  if store.playback.startRequestId = some startEpoch then
    { store with playback := { store.playback with startRequestId := none } }
  else store

/-- A start is no longer under way. -/
def removePendingStart (startEpoch : ℕ) (store : PlaybackStore) : PlaybackStore :=
  { store with sessionLedger := store.sessionLedger.removePendingStart startEpoch }

/-- The native side is asked to start a prepared playback. -/
def startForOperation (prepared : PreparedPlayback) (identity : PlaybackSongIdentity)
    (context : PlaybackContext) (operationEpoch : ℕ) (direct : Bool) (store : PlaybackStore) :
    Except String Turn :=
  if store.operationIsCurrent operationEpoch then
    match prepared.preparedId with
    | none => .error "The prepared playback plan is no longer available."
    | some preparedId =>
      let (pending, sessionLedger) := store.sessionLedger.beginStart preparedId identity context
      let operation := (store.playback.transportOperation.filter fun operation =>
        operation.isTransition).getD .starting
      .ok ({ store with
        sessionLedger
        playback := { store.playback with
          startRequestId := some pending.epoch
          transportOperation := some operation
          error := none } },
        [.start ⟨pending.epoch, preparedId, identity, context, operationEpoch, direct⟩])
  else .ok (store, [])

/-- A text stands in another one. -/
def includes (part text : String) : Bool :=
  text.toList.tails.any fun rest => part.toList.isPrefixOf rest

/-- A start has failed. The user's own one forgets a plan whose source has changed. -/
def startThrew (request : StartRequest) (message : String) (store : PlaybackStore) : PlaybackStore :=
  let finished := store.finishOperation request.operationEpoch (some message)
  if request.direct ∧ (includes "source changed" message ∨ includes "no longer readable" message) ∧
      finished.playback.prepared.bind PreparedPlayback.preparedId = some request.preparedId then
    finished.dropPrepared
  else finished

/-- The native side has refused a start. -/
def startRefused (request : StartRequest) (message : String) (store : PlaybackStore) : PlaybackStore :=
  ((store.removePendingStart request.startEpoch).releaseStartRequest request.startEpoch).startThrew
    request message

/-- The native side has started a session for an operation that is over. The session is bound, so that
the user sees it, and stopped. -/
def bindOrphan (request : StartRequest) (sessionId : String) (store : PlaybackStore) : Turn :=
  let bound := { store with playback := { store.playback with
    sessionId := some sessionId
    currentSong := some request.identity
    context := some request.context
    prepared := none
    preparedIdentity := none
    preparedContext := none
    startRequestId :=
      if store.playback.startRequestId = some request.startEpoch then none
      else store.playback.startRequestId
    state := .starting
    snapshot := none } }
  match bound.beginOperation .stopping false with
  | some (epoch, stopping) => (stopping, [.stopOrphan (some epoch)])
  | none => (bound, [.stopOrphan none])

/-- The native side has started a session for an operation that goes on. -/
def bindStarted (request : StartRequest) (sessionId : String) (store : PlaybackStore) :
    PlaybackStore :=
  let early := store.playback.sessionId = some sessionId
  { store with playback := { store.playback with
    prepared := none
    preparedIdentity := none
    preparedContext := none
    startRequestId := none
    sessionId := some sessionId
    currentSong := some request.identity
    context := some request.context
    state := if early then store.playback.state else .starting
    snapshot := if early then store.playback.snapshot else none
    error := none } }

/-- The native side has started a session. -/
def startAnswered (request : StartRequest) (sessionId : String) (library : LibraryView)
    (store : PlaybackStore) : Turn :=
  let removed := store.removePendingStart request.startEpoch
  let released := removed.releaseStartRequest request.startEpoch
  if store.sessionLedger.isRetired sessionId then (released, [])
  else if ¬store.operationIsCurrent request.operationEpoch then
    if store.playback.sessionId = none then removed.bindOrphan request sessionId else (released, [])
  else if ¬library.contextCurrent then
    (released.startThrew request "The Library source changed while playback was starting.", [])
  else if store.playback.sessionId.isSome ∧ store.playback.sessionId ≠ some sessionId then
    (released, [])
  else (removed.bindStarted request sessionId, [])

/-- A preparation is answered: nothing is left of it if its operation is over. -/
def applyPrepared (identity : PlaybackSongIdentity) (context : PlaybackContext) (operationEpoch : ℕ)
    (reply : Except String PreparedPlayback) (library : LibraryView) (store : PlaybackStore) :
    Except String (Option PreparedPlayback × PlaybackStore) :=
  match reply with
  | .error message => .error message
  | .ok prepared =>
    if ¬(library.generationCurrent ∧ library.contextCurrent) then
      .error ("The Library context changed while playback was being prepared. " ++
        "Select a song to create a new context.")
    else if store.operationIsCurrent operationEpoch then
      .ok (some prepared, { store with playback := { store.playback with
        prepared := some prepared
        preparedIdentity := some identity
        preparedContext := some context
        error :=
          if prepared.errorCode = some "conversion_confirmation_required" then none
          else prepared.errorMessage } })
    else .ok (none, store)

/-- The user's own preparation is answered. -/
def prepareAnswered (identity : PlaybackSongIdentity) (context : PlaybackContext)
    (operationEpoch : ℕ) (reply : Except String PreparedPlayback) (library : LibraryView)
    (store : PlaybackStore) : PlaybackStore :=
  match store.applyPrepared identity context operationEpoch reply library with
  | .error message => store.finishOperation operationEpoch (some message)
  | .ok (none, store) => store
  | .ok (some prepared, store) =>
    store.finishOperation operationEpoch
      (if prepared.errorCode = some "conversion_confirmation_required" then none
       else prepared.errorMessage)

end PlaybackStore

open PlaybackStore

namespace Transition

/-- The moment after a song's natural end has gone by, or was cut short. -/
def handedOff (transition : Transition) (elapsed sameOwner : Bool) (library : LibraryView)
    (store : PlaybackStore) : Turn :=
  if ¬store.operationIsCurrent transition.epoch then (store, [])
  else if elapsed ∧ sameOwner ∧ store.playback.transportOperation = some .advancing ∧
      transition.naturalRevision = some store.autoPlaySettingsRevision ∧ store.autoPlay ∧
      library.generationCurrent ∧ library.contextCurrent ∧
      store.playback.context = some transition.context then
    transition.resolveTarget library store
  else (store.finishOperation transition.epoch none, [])

/-- The song at the target is found, or is not. -/
def resolved (transition : Transition) (index : ℕ) (reply : Except String PlaybackSongIdentity)
    (library : LibraryView) (store : PlaybackStore) : Turn :=
  match reply with
  | .error message => (store.finishOperation transition.epoch (some message), [])
  | .ok identity =>
    if ¬store.operationIsCurrent transition.epoch then (store, [])
    else if ¬library.contextCurrent then
      (store.finishOperation transition.epoch (some
        "The Library source changed. Select a song to create a new playback context."), [])
    else
      (store, [.preparing transition identity
        (transition.context.moveTo index transition.targetPosition identity.songId)])

/-- The preparation of the song at the target is answered. -/
def prepared (transition : Transition) (identity : PlaybackSongIdentity) (context : PlaybackContext)
    (reply : Except String PreparedPlayback) (library : LibraryView) (store : PlaybackStore) : Turn :=
  match store.applyPrepared identity context transition.epoch reply library with
  | .error message => (store.finishOperation transition.epoch (some message), [])
  | .ok (none, store) => (store, [])
  | .ok (some prepared, store) =>
    match prepared.admission with
    | .blocked =>
      (store.finishOperation transition.epoch
        (some (prepared.errorMessage.getD "Playback is blocked for this song.")), [])
    | .confirmationRequired => (store.finishOperation transition.epoch none, [])
    | .ready =>
      match store.startForOperation prepared identity context transition.epoch false with
      | .error message => (store.finishOperation transition.epoch (some message), [])
      | .ok turn => turn

end Transition

/-- An answer to a task. -/
inductive UiAnswer where
  | status (reply : Except String PlaybackStatus)
  | prepared (reply : Except String PreparedPlayback)
  | started (reply : Except String String)
  | acknowledged (reply : Except String PlaybackUiState)
  | retired (outcome : Option RetiredSessionOutcome)
  | handedOff (elapsed sameOwner : Bool)
  | row (reply : Except String PlaybackSongIdentity)

/-- A stop is acknowledged. A session that is over by then is reconciled at once. -/
def stopAcknowledged (operationEpoch : ℕ) (sessionId : String) (startRequestId : Option ℕ)
    (reply : Except String PlaybackUiState) (store : PlaybackStore) : Turn :=
  match reply with
  | .error message => (store.finishOperation operationEpoch (some message), [])
  | .ok state =>
    if state = .finished ∨ state = .failed then
      let asking := store.nextReconciliationToken
      (asking, [.reconcile ⟨asking.playbackReconciliationEpoch, .stopping, operationEpoch,
        some sessionId, startRequestId, false⟩])
    else (store, [])

/-- An acknowledgement that matters only when it is a refusal. -/
def acknowledged {α : Type} (operationEpoch : Option ℕ) (reply : Except String α)
    (store : PlaybackStore) : PlaybackStore :=
  match operationEpoch, reply with
  | some epoch, .error message => store.finishOperation epoch (some message)
  | _, _ => store

/-- The session before a transition has ended, or has not in time. -/
def retirementAwaited (transition : Transition) (sessionId : String)
    (outcome : Option RetiredSessionOutcome) (library : LibraryView) (store : PlaybackStore) :
    Option Turn :=
  match outcome with
  | none =>
    some (store.finishOperation transition.epoch
      (some "The current playback session did not retire in time."), [])
  | some outcome =>
    if store.sessionLedger.retiredSessions.outcome? sessionId = some outcome then
      match outcome with
      | .failed => some (store, [])
      | .finished => some (transition.afterRetirement library store)
    else none

/-- What the answer to a task makes of the store; absent where it does not answer the task. -/
def UiTask.answered (task : UiTask) (answer : UiAnswer) (library : LibraryView)
    (store : PlaybackStore) : Option Turn :=
  match task, answer with
  | .reconcile query, .status reply =>
    let turn := store.reconcilePlaybackAfterTimeout query reply library
    some (if query.retry then turn.1.retryEnded else turn.1, turn.2)
  | .prepare identity context operationEpoch, .prepared reply =>
    some (store.prepareAnswered identity context operationEpoch reply library, [])
  | .start request, .started (.error message) => some (store.startRefused request message, [])
  | .start request, .started (.ok sessionId) => some (store.startAnswered request sessionId library)
  | .stopOrphan stopEpoch, .acknowledged reply => some (acknowledged stopEpoch reply store, [])
  | .stop operationEpoch sessionId startRequestId, .acknowledged reply =>
    some (stopAcknowledged operationEpoch sessionId startRequestId reply store)
  | .control operationEpoch, .acknowledged reply =>
    some (acknowledged (some operationEpoch) reply store, [])
  | .skipping transition _, .acknowledged (.error message) =>
    some (store.finishOperation transition.epoch (some message), [])
  | .skipping transition sessionId, .acknowledged (.ok _) =>
    some (store, [.retiring transition sessionId])
  | .retiring transition sessionId, .retired outcome =>
    retirementAwaited transition sessionId outcome library store
  | .handingOff transition, .handedOff elapsed sameOwner =>
    some (transition.handedOff elapsed sameOwner library store)
  | .resolving transition index, .row reply => some (transition.resolved index reply library store)
  | .preparing transition identity context, .prepared reply =>
    some (transition.prepared identity context reply library store)
  | _, _ => none

end SkyAutoPlayer.DesktopUi
