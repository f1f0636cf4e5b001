import SkyAutoPlayer.DesktopUi.PlaybackLedger

/-!
# The playback of the user interface

The store holds the session that is bound, the start that is under way and the transport operation. An
operation has a number and a timer, and a reconciliation with the native side has a token. The native
side reports the sessions in events, and an event that ends a song may begin the next one.

What the native side has yet to answer stands as a task. Every function here runs to its end without
another one in between.
-/

namespace SkyAutoPlayer.DesktopUi

/-- What the user or the end of a song has asked of the playback. -/
inductive TransportOperation where
  | preparing
  | starting
  | pausing
  | resuming
  | stopping
  | advancing
  | restarting
  deriving DecidableEq, Repr

/-- Whether a prepared playback may start. -/
inductive PlaybackAdmission where
  | ready
  | confirmationRequired
  | blocked
  deriving DecidableEq, Repr

/-- A playback that the native side has prepared. -/
structure PreparedPlayback where
  preparedId : Option String
  admission : PlaybackAdmission
  errorCode : Option String
  errorMessage : Option String
  decisions : List String
  deriving DecidableEq

/-- The latest report of a session's progress. -/
structure PlaybackSnapshot where
  sessionId : String
  currentUs : ℕ
  deriving DecidableEq

/-- The playback as the interface shows it. -/
structure Playback where
  state : PlaybackUiState := .idle
  sessionId : Option String := none
  currentSong : Option PlaybackSongIdentity := none
  context : Option PlaybackContext := none
  preparedIdentity : Option PlaybackSongIdentity := none
  preparedContext : Option PlaybackContext := none
  startRequestId : Option ℕ := none
  transportOperation : Option TransportOperation := none
  prepared : Option PreparedPlayback := none
  snapshot : Option PlaybackSnapshot := none
  error : Option String := none
  statusRetryPending : Bool := false
  deriving DecidableEq

/-- The timer of a session that has reported its end. -/
structure TerminalTimer where
  token : ℕ
  epoch : ℕ
  sessionId : String
  startRequestId : Option ℕ
  deriving DecidableEq

/-- The playback and all that goes with it. The last two fields record what the native side has reported
of the sessions' ends: all of them, and those of sessions that the interface did not know. -/
structure PlaybackStore where
  playback : Playback := {}
  sessionLedger : PlaybackSessionLedger := .empty
  transportOperationEpoch : ℕ := 0
  playbackReconciliationEpoch : ℕ := 0
  transportOperationTimer : Option (ℕ × TransportOperation) := none
  terminalReconciliationTimer : Option TerminalTimer := none
  playbackStatusRetry : Bool := false
  autoPlay : Bool := false
  autoPlaySettingsRevision : ℕ := 0
  ended : List String := []
  dropped : List String := []
  deriving DecidableEq

/-- What the library shows in a turn. -/
structure LibraryView where
  generation : ℕ
  generationCurrent : Bool
  contextCurrent : Bool
  row : Option PlaybackSongIdentity

/-- A transition to another song of a context. -/
structure Transition where
  context : PlaybackContext
  targetPosition : ℕ
  operation : TransportOperation
  epoch : ℕ
  naturalRevision : Option ℕ
  deriving DecidableEq

/-- A question for the native status. -/
structure StatusQuery where
  token : ℕ
  operation : TransportOperation
  epoch : ℕ
  expectedSessionId : Option String
  expectedStartRequestId : Option ℕ
  retry : Bool
  deriving DecidableEq

/-- A request to start a prepared playback. A direct one is the user's own. -/
structure StartRequest where
  startEpoch : ℕ
  preparedId : String
  identity : PlaybackSongIdentity
  context : PlaybackContext
  operationEpoch : ℕ
  direct : Bool
  deriving DecidableEq

/-- What waits for an answer. -/
inductive UiTask where
  | reconcile (query : StatusQuery)
  | prepare (identity : PlaybackSongIdentity) (context : PlaybackContext) (operationEpoch : ℕ)
  | start (request : StartRequest)
  | stopOrphan (stopEpoch : Option ℕ)
  | stop (operationEpoch : ℕ) (sessionId : String) (startRequestId : Option ℕ)
  | control (operationEpoch : ℕ)
  | skipping (transition : Transition) (sessionId : String)
  | retiring (transition : Transition) (sessionId : String)
  | handingOff (transition : Transition)
  | resolving (transition : Transition) (index : ℕ)
  | preparing (transition : Transition) (identity : PlaybackSongIdentity) (context : PlaybackContext)
  deriving DecidableEq

/-- What a turn leaves: the store, and what it has asked for. -/
abbrev Turn := PlaybackStore × List UiTask

/-- The error of a context that the library has left behind. -/
def libraryContextChanged : String :=
  "The Library context changed after playback started. " ++
    "Select a song to create a new playback context."

namespace PlaybackStore

/-- The timer of the operation is off. -/
def clearTransportTimer (store : PlaybackStore) : PlaybackStore :=
  { store with transportOperationTimer := none }

/-- The timer of the session's end is off. -/
def clearTerminalReconciliationTimer (store : PlaybackStore) : PlaybackStore :=
  { store with terminalReconciliationTimer := none }

/-- The timer of an operation starts. -/
def armOperationTimer (epoch : ℕ) (operation : TransportOperation) (store : PlaybackStore) :
    PlaybackStore :=
  { store.clearTransportTimer.clearTerminalReconciliationTimer with
    transportOperationTimer := some (epoch, operation) }

/-- An operation begins, unless there is another one that it does not preempt. -/
def beginOperation (operation : TransportOperation) (preemptTransport : Bool) (store : PlaybackStore) :
    Option (ℕ × PlaybackStore) :=
  if store.playback.transportOperation.isSome ∧ ¬(preemptTransport ∧ operation = .stopping) then none
  else
    let epoch := store.transportOperationEpoch + 1
    let begun := { store.clearTransportTimer with
      transportOperationEpoch := epoch
      playbackReconciliationEpoch := store.playbackReconciliationEpoch + 1
      playback := { store.playback with
        transportOperation := some operation
        error := if operation = TransportOperation.stopping then store.playback.error else none } }
    some (epoch, begun.armOperationTimer epoch operation)

/-- The operation of a number is the present one. -/
def operationIsCurrent (epoch : ℕ) (store : PlaybackStore) : Bool :=
  store.transportOperationEpoch = epoch

/-- The operation of a number is over. -/
def finishOperation (epoch : ℕ) (error : Option String) (store : PlaybackStore) : PlaybackStore :=
  if store.operationIsCurrent epoch then
    { store.clearTransportTimer with
      transportOperationEpoch := store.transportOperationEpoch + 1
      playback := { store.playback with transportOperation := none, error } }
  else store

/-- The present operation loses its number and its timer. -/
def clearOperationFromEvent (store : PlaybackStore) : PlaybackStore :=
  { store.clearTransportTimer with transportOperationEpoch := store.transportOperationEpoch + 1 }

/-- A token for a reconciliation. -/
def nextReconciliationToken (store : PlaybackStore) : PlaybackStore :=
  { store with playbackReconciliationEpoch := store.playbackReconciliationEpoch + 1 }

/-- The timer of a session that has reported its end starts. -/
def armTerminalReconciliationTimer (sessionId : String) (startRequestId : Option ℕ)
    (store : PlaybackStore) : PlaybackStore :=
  let store := store.nextReconciliationToken
  let timer : TerminalTimer :=
    ⟨store.playbackReconciliationEpoch, store.transportOperationEpoch, sessionId, startRequestId⟩
  { store with terminalReconciliationTimer := some timer }

/-- A session has ended. -/
def retire (sessionId : String) (outcome : RetiredSessionOutcome) (store : PlaybackStore) :
    PlaybackStore :=
  { store with sessionLedger := store.sessionLedger.retire sessionId outcome }

/-- Whether the interface takes an event of a session: one of the session that is bound, or the first
one of a session that a start of the song has asked for. -/
def acceptsSessionEvent (sessionId songId : String) (store : PlaybackStore) : Bool :=
  if store.sessionLedger.isRetired sessionId then false
  else match store.playback.sessionId with
    | some bound => bound = sessionId
    | none =>
      match store.sessionLedger.pendingStartForSong songId with
      | some pending =>
        (store.playback.startRequestId = none ∨ store.playback.startRequestId = some pending.epoch) ∧
          store.playback.state ∈ [.idle, .starting, .finished, .failed]
      | none => false

/-- The song of a session that an event tells of. -/
def bindSessionIdentity (sessionId songId : String) (store : PlaybackStore) :
    Option PlaybackSongIdentity :=
  let shown := store.playback.currentSong.filter fun song => song.songId = songId
  if store.playback.sessionId = some sessionId ∧ shown.isSome then shown
  else match store.sessionLedger.pendingStartForSong songId with
    | some pending => some pending.identity
    | none => shown

/-- The context of a session that an event tells of. -/
def bindContext (songId : String) (store : PlaybackStore) : Option PlaybackContext :=
  match store.sessionLedger.pendingStartForSong songId with
  | some pending => some pending.context
  | none => store.playback.context

/-- The start that is under way after an event of a session. -/
def bindStartRequest (sessionId songId : String) (store : PlaybackStore) : Option ℕ :=
  if store.playback.sessionId = some sessionId ∨ store.playback.startRequestId =
      (store.sessionLedger.pendingStartForSong songId).map PendingPlaybackStart.epoch then none
  else store.playback.startRequestId

/-- An event tells that the session that was asked for is playing. -/
def confirmsPlaybackStart (sessionId songId : String) (state : PlaybackUiState)
    (store : PlaybackStore) : Bool :=
  let current := store.playback
  state = .playing ∧
    (current.transportOperation = some .starting ∨ current.transportOperation = some .advancing ∨
      current.transportOperation = some .restarting) ∧
    ((store.sessionLedger.pendingStartForSong songId).isSome ∨
      current.state = .starting ∧ current.sessionId = some sessionId ∧
        current.currentSong.map PlaybackSongIdentity.songId = some songId ∧
        current.context.map PlaybackContext.currentSongId = some songId)

/-- An event tells that the operation has had its effect. -/
def confirmsOperation (sessionId songId : String) (state : PlaybackUiState) (store : PlaybackStore) :
    Bool :=
  store.confirmsPlaybackStart sessionId songId state ∨
    store.playback.transportOperation = some .pausing ∧ state = .paused ∨
    store.playback.transportOperation = some .resuming ∧ state = .playing

/-- What every event of a session that goes on does: the session is bound, its start is over, and the
operation is over if the event confirms it. -/
def bindSession (sessionId songId : String) (state : PlaybackUiState)
    (title : Option String) (snapshot : Option PlaybackSnapshot) (error : Option String)
    (store : PlaybackStore) : PlaybackStore :=
  let confirms := store.confirmsOperation sessionId songId state
  let identity := store.bindSessionIdentity sessionId songId
  let confirmed := if confirms then store.clearOperationFromEvent else store
  { confirmed with
    sessionLedger := store.sessionLedger.removePending
      (store.sessionLedger.pendingStartForSong songId)
    playback := { store.playback with
      sessionId := some sessionId
      currentSong := match identity with
        | some identity => some { identity with title := title.getD identity.title }
        | none => store.playback.currentSong
      context := store.bindContext songId
      transportOperation := if confirms then none else store.playback.transportOperation
      startRequestId := store.bindStartRequest sessionId songId
      state
      snapshot
      error } }

/-- What every event that ends a session does: the session is retired and no longer bound, and its start
is over. -/
def unbindSession (sessionId songId : String) (outcome : RetiredSessionOutcome)
    (operation : Option TransportOperation) (state : PlaybackUiState) (error : Option String)
    (store : PlaybackStore) : PlaybackStore :=
  let retired := (store.clearTerminalReconciliationTimer).retire sessionId outcome
  let counted := if operation.isSome then retired else retired.clearOperationFromEvent
  { counted with
    sessionLedger := retired.sessionLedger.removePending
      (store.sessionLedger.pendingStartForSong songId)
    playback := { store.playback with
      sessionId := none
      currentSong := (store.bindSessionIdentity sessionId songId).or store.playback.currentSong
      context := store.bindContext songId
      prepared := none
      preparedIdentity := none
      preparedContext := none
      startRequestId := store.bindStartRequest sessionId songId
      transportOperation := operation
      state
      snapshot := none
      error } }

end PlaybackStore

open PlaybackStore

/-- The transition asks for the song at its target. -/
def Transition.resolveTarget (transition : Transition) (library : LibraryView)
    (store : PlaybackStore) : Turn :=
  match transition.context.playbackContextIndexAt transition.targetPosition with
  | none =>
    (store.finishOperation transition.epoch (some "There is no next playback-context item."), [])
  | some index =>
    if ¬(library.generationCurrent ∧ library.contextCurrent) then
      (store.finishOperation transition.epoch (some libraryContextChanged), [])
    else (store, [.resolving transition index])

/-- The transition goes on once the song before it has ended. One that follows the natural end of a song
leaves a moment first. -/
def Transition.afterRetirement (transition : Transition) (library : LibraryView)
    (store : PlaybackStore) : Turn :=
  if store.operationIsCurrent transition.epoch then
    if transition.naturalRevision.isSome then (store, [.handingOff transition])
    else transition.resolveTarget library store
  else (store, [])

/-- A transition to another song of a context. -/
def transitionContextPlayback (context : PlaybackContext) (targetPosition : ℕ)
    (operation : TransportOperation) (sessionId : Option String) (naturalRevision : Option ℕ)
    (library : LibraryView) (store : PlaybackStore) : Turn :=
  match store.beginOperation operation false with
  | none => (store, [])
  | some (epoch, begun) =>
    let transition : Transition := ⟨context, targetPosition, operation, epoch, naturalRevision⟩
    if ¬(library.generationCurrent ∧ library.contextCurrent) then
      (begun.finishOperation epoch (some libraryContextChanged), [])
    else match sessionId with
      | none => transition.afterRetirement library begun
      | some sessionId =>
        if begun.playback.state ∈ [.finished, .failed] then (begun, [.retiring transition sessionId])
        else (begun, [.skipping transition sessionId])

/-- What the native side reports of a session. -/
inductive PlaybackEvent where
  | stateChanged (sessionId songId : String) (state : PlaybackUiState) (message : Option String)
  | snapshot (sessionId songId title : String) (state : PlaybackUiState) (currentUs : ℕ)
  | finished (sessionId songId outcome : String)
  | failed (sessionId songId code message : String)
  deriving DecidableEq

namespace PlaybackEvent

/-- The session of an event. -/
def sessionId : PlaybackEvent → String
  | stateChanged sessionId .. => sessionId
  | snapshot sessionId .. => sessionId
  | finished sessionId .. => sessionId
  | failed sessionId .. => sessionId

/-- The song of an event. -/
def songId : PlaybackEvent → String
  | stateChanged _ songId .. => songId
  | snapshot _ songId .. => songId
  | finished _ songId _ => songId
  | failed _ songId .. => songId

/-- The event ends its session. -/
def terminal : PlaybackEvent → Bool
  | stateChanged .. => false
  | snapshot .. => false
  | finished .. => true
  | failed .. => true

end PlaybackEvent

namespace PlaybackStore

/-- A session tells its state. -/
def stateChanged (sessionId songId : String) (state : PlaybackUiState) (message : Option String)
    (store : PlaybackStore) : PlaybackStore :=
  let snapshot := if store.playback.sessionId = some sessionId then store.playback.snapshot else none
  let error := if state = .failed then message else none
  let bound := store.bindSession sessionId songId state none snapshot error
  if state = .finished ∨ state = .failed then
    bound.armTerminalReconciliationTimer sessionId (store.bindStartRequest sessionId songId)
  else bound.clearTerminalReconciliationTimer

/-- A session tells its progress. -/
def snapshotTaken (sessionId songId title : String) (state : PlaybackUiState) (currentUs : ℕ)
    (store : PlaybackStore) : PlaybackStore :=
  store.bindSession sessionId songId state (some title) (some ⟨sessionId, currentUs⟩) none

/-- The operation that goes on when a session has ended. -/
def continueOperation (store : PlaybackStore) : Option TransportOperation :=
  store.playback.transportOperation.filter fun operation =>
    operation = .advancing ∨ operation = .restarting

/-- The place of the song that follows by itself the end of a session. -/
def autoAdvance (songId outcome : String) (library : LibraryView) (store : PlaybackStore) :
    Option (PlaybackContext × ℕ) :=
  match store.bindContext songId with
  | none => none
  | some context =>
    if outcome = "finished" ∧ store.playback.transportOperation ≠ some .stopping ∧
        store.continueOperation = none ∧ ¬context.dryRun ∧ store.autoPlay ∧
        context.currentSongId = songId ∧ library.contextCurrent ∧ library.generationCurrent then
      context.nextPlaybackPosition.map fun position => (context, position)
    else none

/-- A session has finished. -/
def sessionFinished (sessionId songId outcome : String) (library : LibraryView)
    (store : PlaybackStore) : Turn :=
  let unbound := store.unbindSession sessionId songId .finished store.continueOperation .idle none
  match store.autoAdvance songId outcome library with
  | none => (unbound, [])
  | some (context, position) =>
    transitionContextPlayback context position .advancing none
      (some store.autoPlaySettingsRevision) library unbound

/-- A session has failed. -/
def sessionFailed (sessionId songId code message : String) (store : PlaybackStore) : PlaybackStore :=
  store.unbindSession sessionId songId .failed none .failed (some (code ++ ": " ++ message))

/-- What an event makes of the store that takes it. -/
def takeEvent (event : PlaybackEvent) (library : LibraryView) (store : PlaybackStore) : Turn :=
  match event with
  | .stateChanged sessionId songId state message =>
    (store.stateChanged sessionId songId state message, [])
  | .snapshot sessionId songId title state currentUs =>
    (store.snapshotTaken sessionId songId title state currentUs, [])
  | .finished sessionId songId outcome => store.sessionFinished sessionId songId outcome library
  | .failed sessionId songId code message => (store.sessionFailed sessionId songId code message, [])

/-- The record of an event that ends its session. -/
def recordEnd (event : PlaybackEvent) (store : PlaybackStore) : PlaybackStore :=
  if event.terminal then
    { store with
      ended := event.sessionId :: store.ended
      dropped :=
        if store.acceptsSessionEvent event.sessionId event.songId ∨
            store.sessionLedger.isRetired event.sessionId then store.dropped
        else event.sessionId :: store.dropped }
  else store

/-- An event of the native side. -/
def handleEvent (event : PlaybackEvent) (library : LibraryView) (store : PlaybackStore) : Turn :=
  if store.acceptsSessionEvent event.sessionId event.songId then
    (store.recordEnd event).takeEvent event library
  else (store.recordEnd event, [])

end PlaybackStore

end SkyAutoPlayer.DesktopUi
