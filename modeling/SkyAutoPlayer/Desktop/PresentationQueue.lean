import SkyAutoPlayer.Desktop.PlaybackRetirement
import SkyAutoPlayer.Foundation.CallPool

/-!
# The presentation of a session

A session is presented by one worker. The supervisor and the commands put its lifecycle into a bounded
queue and its progress into a slot that keeps the latest frame. The last message of a session carries a
completion, which clears the slot of the active session. A publisher whose message is refused runs the
completion itself, and a worker that fails rejects what it finds in the queue.

Every access to an atomic flag, to the queue or under a lock is one step. A flag is only ever set, so
flags that are read one after the other are read in one step. No section under the lock of the frame can
panic, so that lock is never poisoned, and the counters of dropped frames are left out.
-/

namespace SkyAutoPlayer.Desktop

open Foundation

/-- The number of lifecycle messages that may wait. -/
def playbackPresentationCriticalCapacity : ℕ := 64

/-- What a retirement tells of a session that has ended. -/
structure PresentedPlayback where
  sessionId : String
  preparedId : String
  songId : String
  physical : Bool
  deriving DecidableEq

/-- The status of a session that has ended. -/
structure PlaybackTerminalStatus where
  sessionId : String
  preparedId : String
  songId : String
  finished : Bool
  outcome : Option String
  failureCode : Option String
  failureMessage : Option String
  terminalReleaseVerified : Option Bool
  releaseObligationMask : Option (BitVec 16)
  deriving DecidableEq

/-- The evidence of a release, as it is told. -/
def TerminalReleaseEvidence.told (physical : Bool) :
    TerminalReleaseEvidence → Option Bool × Option (BitVec 16)
  | .notRequired => (if physical then some true else none, none)
  | .verified mask => (some true, some mask)
  | .unverified mask _ => (some false, some mask)

/-- The status that a retirement leaves. -/
def playbackTerminalStatus (active : PresentedPlayback) (retirement : TerminalRetirement) :
    PlaybackTerminalStatus :=
  let told := retirement.release.told active.physical
  match retirement.publication with
  | .finished outcome _ =>
    ⟨active.sessionId, active.preparedId, active.songId, true, some outcome, none, none, told.1, told.2⟩
  | .failed code message =>
    ⟨active.sessionId, active.preparedId, active.songId, false, none, some code, some message, told.1,
      told.2⟩

/-- A completion, with the number it was made under. -/
structure PresentationCompletion where
  number : ℕ
  retirement : TerminalRetirement
  deriving DecidableEq

/-- A lifecycle message. -/
inductive PresentationMessage where
  | state (order : ℕ)
  | finalize (order : ℕ) (completion : PresentationCompletion)
  deriving DecidableEq

namespace PresentationMessage

/-- The order of a message. -/
def order : PresentationMessage → ℕ
  | .state order | .finalize order _ => order

/-- The completion that a message carries. -/
def completion? : PresentationMessage → Option PresentationCompletion
  | .state _ => none
  | .finalize _ completion => some completion

end PresentationMessage

/-- Who holds the slot of the active session: the presented session, or one that came after it. -/
inductive SlotOwner where
  | presented
  | successor
  deriving DecidableEq

/-- What the worker and the publishers share. The completions are numbered as they are made, and those
that have run to their end are kept. -/
structure PresentationState where
  nextOrder : ℕ
  closed : Bool
  failed : Bool
  failureReason : Option String
  latestSnapshot : Option ℕ
  critical : List PresentationMessage
  receiver : Bool
  eventDeliveryFailure : Bool
  done : Bool
  activeSlot : Option SlotOwner
  lastTerminal : Option PlaybackTerminalStatus
  boxed : ℕ
  completed : List ℕ
  deriving DecidableEq

/-- The presentation of a session that has just been made. -/
def PresentationState.initial : PresentationState where
  nextOrder := 0
  closed := false
  failed := false
  failureReason := none
  latestSnapshot := none
  critical := []
  receiver := true
  eventDeliveryFailure := false
  done := false
  activeSlot := some .presented
  lastTerminal := none
  boxed := 0
  completed := []

/-- How a publication to the event hub ends. -/
inductive PublicationAnswer where
  | published
  | failed (error : String)
  | panicked
  deriving DecidableEq

/-- What a step cannot determine: whether a lock is busy, whether the session still exists when no one
in sight holds it, whether its state can be set, and how a publication ends. -/
structure PresentationChoice where
  busy : Bool
  upgraded : Bool
  stateFailed : Bool
  publication : PublicationAnswer
  deriving DecidableEq

/-- What is left to store of a failure. -/
inductive FailureStage where
  | failed
  | closed
  | reason
  deriving DecidableEq

/-- Store a part of a failure. The first reason is kept, and none is when its lock is busy. -/
def recordFailure (choice : PresentationChoice) (error : String) (stage : FailureStage)
    (state : PresentationState) : PresentationState × Option FailureStage :=
  match stage with
  | .failed => ({ state with failed := true }, some .closed)
  | .closed => ({ state with closed := true }, some .reason)
  | .reason =>
    (if choice.busy then state
      else { state with failureReason := state.failureReason.or (some error) }, none)

/-- The reason of the failure, if its lock is not busy. -/
def failureReason (choice : PresentationChoice) (state : PresentationState) : Option String :=
  if choice.busy then none else state.failureReason

/-- Where a completion that runs stands. -/
inductive CompletionPhase where
  | reporting (failed : Bool)
  | settling
  | clearing (retirement : TerminalRetirement)
  deriving DecidableEq

/-- What is published when the terminal state could not be set. -/
def stateUpdateFailure : PlaybackTerminalPublication :=
  .failed "playback_state_update_failed" "Playback terminal state could not be committed."

/-- The next step of a completion. It tries to clear the slot until it has. -/
def completionStep (active : PresentedPlayback) (choice : PresentationChoice)
    (completion : PresentationCompletion) (phase : CompletionPhase) (state : PresentationState) :
    PresentationState × Option CompletionPhase :=
  match phase with
  | .reporting failed =>
    ({ state with eventDeliveryFailure := state.eventDeliveryFailure || failed }, some .settling)
  | .settling =>
    if choice.stateFailed then
      ({ state with eventDeliveryFailure := true },
        some (.clearing { completion.retirement with publication := stateUpdateFailure }))
    else (state, some (.clearing completion.retirement))
  | .clearing retirement =>
    if state.activeSlot = some .presented then
      ({ state with
        activeSlot := none
        lastTerminal := some (playbackTerminalStatus active retirement)
        done := true
        completed := state.completed ++ [completion.number] }, none)
    else (state, some (.clearing retirement))

/-- An operation that meets the presentation of a session. A session whose presentation could not be
started is finalized without it. -/
inductive PublisherOp where
  | publishState
  | publishSnapshot
  | finalize (retirement : TerminalRetirement) (attached : Bool)
  | start
  deriving DecidableEq

/-- Where an operation stands. -/
inductive PublisherPhase where
  | ordering
  | checking (message : PresentationMessage)
  | sending (message : PresentationMessage)
  | failing (message : PresentationMessage) (error : String) (stage : FailureStage)
  | reporting (message : PresentationMessage) (error : String)
  | completing (completion : PresentationCompletion) (phase : CompletionPhase) (error : String)
  | returned (result : Except String Unit)
  | offering
  | numbering
  | replacing (order : ℕ)
  | offered (accepted : Bool)
  | asking
  | refused
  | playing
  | over
  deriving DecidableEq

/-- An operation, with the number of the completion that was made for it. -/
structure PublisherCall where
  op : PublisherOp
  number : Option ℕ
  phase : PublisherPhase
  deriving DecidableEq

/-- Where an operation begins. -/
def publisherStart (op : PublisherOp) : PublisherCall where
  op := op
  number := none
  phase := match op with
    | .publishState | .finalize _ _ => .ordering
    | .publishSnapshot => .offering
    | .start => .asking

/-- The next order, which a counter of 64 bits gives. -/
def PresentationState.order (state : PresentationState) : ℕ := (state.nextOrder + 1) % 2 ^ 64

/-- Give a lifecycle message its order. -/
def orderMessage (call : PublisherCall) (state : PresentationState) :
    PresentationState × PublisherCall :=
  match call.op with
  | .finalize retirement attached =>
    let completion : PresentationCompletion := ⟨state.boxed, retirement⟩
    if attached then
      ({ state with nextOrder := state.order, boxed := state.boxed + 1 },
        { call with
          number := some state.boxed
          phase := .checking (.finalize state.order completion) })
    else
      ({ state with boxed := state.boxed + 1 },
        { call with
          number := some state.boxed
          phase := .completing completion (.reporting true)
            "playback presentation consumer is unavailable" })
  | _ =>
    ({ state with nextOrder := state.order }, { call with phase := .checking (.state state.order) })

/-- Put a lifecycle message into the queue, if there is room and someone to take it. -/
def sendMessage (message : PresentationMessage) (call : PublisherCall) (state : PresentationState) :
    PresentationState × PublisherCall :=
  if state.receiver = false then
    (state, { call with
      phase := .failing message "playback presentation consumer is unavailable" .failed })
  else if playbackPresentationCriticalCapacity ≤ state.critical.length then
    (state, { call with
      phase := .failing message "playback presentation lifecycle queue overflow" .failed })
  else
    ({ state with critical := state.critical ++ [message] }, { call with phase := .returned (.ok ()) })

/-- A message that is refused runs its completion. -/
def rejectMessage (message : PresentationMessage) (error : String) : PublisherPhase :=
  match message.completion? with
  | some completion => .completing completion (.reporting true) error
  | none => .returned (.error error)

/-- The next step of an operation. -/
def publisherStep (active : PresentedPlayback) (choice : PresentationChoice) (call : PublisherCall)
    (state : PresentationState) : Option (PresentationState × PublisherCall) :=
  match call.phase with
  | .ordering => some (orderMessage call state)
  | .checking message =>
    some (state, { call with
      phase :=
        if state.closed || state.failed then
          .failing message
            ((failureReason choice state).getD "playback presentation consumer is closed") .failed
        else .sending message })
  | .sending message => some (sendMessage message call state)
  | .failing message error stage =>
    let recorded := recordFailure choice error stage state
    some (recorded.1, { call with
      phase := match recorded.2 with
        | some stage => .failing message error stage
        | none => .reporting message error })
  | .reporting message error =>
    some ({ state with eventDeliveryFailure := true },
      { call with phase := rejectMessage message error })
  | .completing completion phase error =>
    let run := completionStep active choice completion phase state
    some (run.1, { call with
      phase := match run.2 with
        | some phase => .completing completion phase error
        | none => .returned (.error error) })
  | .offering =>
    some (state, { call with
      phase := if state.closed || state.done then .offered false else .numbering })
  | .numbering =>
    some ({ state with nextOrder := state.order }, { call with phase := .replacing state.order })
  | .replacing order =>
    if choice.busy || state.closed || state.done then
      some (state, { call with phase := .offered false })
    else some ({ state with latestSnapshot := some order }, { call with phase := .offered true })
  | .asking =>
    match state.activeSlot with
    | some _ => some (state, { call with phase := .refused })
    | none => some ({ state with activeSlot := some .successor }, { call with phase := .playing })
  | .playing =>
    some ({ state with
      activeSlot := if state.activeSlot = some .successor then none else state.activeSlot },
      { call with phase := .over })
  | .returned _ | .offered _ | .refused | .over => none

/-- Why a worker gives up, what it tells the completion it holds, and what it tells those in the
queue. -/
structure WorkerFailure where
  reason : String
  pendingError : String
  queuedError : String
  deriving DecidableEq

/-- A worker gives up because of an error. -/
def failedWorker (error : String) : WorkerFailure :=
  ⟨error, error, "playback presentation consumer failed before finalization"⟩

/-- A worker gives up because it panicked. -/
def panickedWorker : WorkerFailure :=
  ⟨"playback presentation consumer panicked",
    "playback presentation consumer panicked during finalization",
    "playback presentation consumer panicked before finalization"⟩

/-- How far the presentation of a frame is. -/
inductive FrameStage where
  | projecting
  | publishing
  | checking
  | diagnosing
  deriving DecidableEq

/-- How far the presentation of the end of a session is. -/
inductive FinalStage where
  | diagnosing
  | checking
  | stating
  | announcing
  deriving DecidableEq

/-- What a worker does after a completion it has run. -/
inductive AfterCompletion where
  | close
  | record (error : String)
  | fail (error : String)
  | drain (failure : WorkerFailure)
  deriving DecidableEq

/-- Where the worker stands. -/
inductive WorkerPhase where
  | receiving
  | taking
  | choosing
  | idling
  | frame (stage : FrameStage)
  | admitting (message : PresentationMessage)
  | stating
  | finalizing (completion : PresentationCompletion) (stage : FinalStage)
  | completing (completion : PresentationCompletion) (phase : CompletionPhase)
      (next : AfterCompletion)
  | closing
  | recording (error : String) (stage : FailureStage)
  | failing (failure : WorkerFailure) (stage : FailureStage)
  | reporting (failure : WorkerFailure)
  | rejecting (failure : WorkerFailure)
  | draining (failure : WorkerFailure)
  | leaving
  | ended
  deriving DecidableEq

/-- The worker, with what it has taken but not yet worked on. -/
structure PresentationWorker where
  pendingCritical : Option PresentationMessage
  pendingSnapshot : Option ℕ
  phase : WorkerPhase
  deriving DecidableEq

/-- A worker that begins. -/
def PresentationWorker.initial : PresentationWorker := ⟨none, none, .receiving⟩

/-- What a worker works on next: the older of the message and the frame it has taken. -/
def PresentationWorker.chooseWork (worker : PresentationWorker) : PresentationWorker :=
  match worker.pendingCritical, worker.pendingSnapshot with
  | some critical, some order =>
    if critical.order ≤ order then { worker with pendingCritical := none, phase := .admitting critical }
    else { worker with pendingSnapshot := none, phase := .frame .projecting }
  | some critical, none => { worker with pendingCritical := none, phase := .admitting critical }
  | none, some _ => { worker with pendingSnapshot := none, phase := .frame .projecting }
  | none, none => { worker with phase := .idling }

/-- The session still exists. The slot holds it, and so does every completion. -/
def sessionAlive (choice : PresentationChoice) (worker : PresentationWorker)
    (state : PresentationState) : Bool :=
  choice.upgraded || decide (state.activeSlot = some .presented) ||
    worker.pendingCritical.any (fun message => message.completion?.isSome) ||
      state.critical.any fun message => message.completion?.isSome

/-- What follows a publication of a worker that may go on. -/
def afterPublication (next : WorkerPhase) : PublicationAnswer → WorkerPhase
  | .published => next
  | .failed error => .failing (failedWorker error) .failed
  | .panicked => .failing panickedWorker .failed

/-- The completion of a session that could not be presented to its end runs with an error. -/
def failFinalization (completion : PresentationCompletion) (error : String) : WorkerPhase :=
  .completing completion (.reporting true) (.record error)

/-- What follows a publication of the end of a session. -/
def afterFinalPublication (completion : PresentationCompletion) (next : WorkerPhase) :
    PublicationAnswer → WorkerPhase
  | .published => next
  | .failed error => failFinalization completion error
  | .panicked => failFinalization completion "playback presentation panicked during finalization"

/-- The next step of a frame. -/
def frameStep (choice : PresentationChoice) (worker : PresentationWorker) (state : PresentationState)
    (stage : FrameStage) : WorkerPhase :=
  match stage with
  | .projecting =>
    if sessionAlive choice worker state = false then .leaving
    else if state.closed || state.done || state.eventDeliveryFailure then .receiving
    else .frame .publishing
  | .publishing =>
    if state.closed then .frame .checking
    else afterPublication (.frame .checking) choice.publication
  | .checking =>
    if state.closed || state.eventDeliveryFailure then .receiving else .frame .diagnosing
  | .diagnosing => if state.closed then .receiving else afterPublication .receiving choice.publication

/-- The next step of the end of a session. -/
def finalStep (choice : PresentationChoice) (state : PresentationState)
    (completion : PresentationCompletion) (stage : FinalStage) : WorkerPhase :=
  match stage with
  | .diagnosing =>
    afterFinalPublication completion (.finalizing completion .checking) choice.publication
  | .checking =>
    if state.closed then
      failFinalization completion "playback presentation closed during final diagnostics"
    else .finalizing completion .stating
  | .stating =>
    afterFinalPublication completion (.finalizing completion .announcing) choice.publication
  | .announcing =>
    afterFinalPublication completion (.completing completion (.reporting false) .close)
      choice.publication

/-- A worker begins to work on a message. -/
def admitMessage (choice : PresentationChoice) (worker : PresentationWorker)
    (state : PresentationState) (message : PresentationMessage) : WorkerPhase :=
  match message with
  | .state _ =>
    if sessionAlive choice worker state = false then .leaving
    else if state.closed || state.eventDeliveryFailure then .receiving
    else .stating
  | .finalize _ completion =>
    if state.closed || state.eventDeliveryFailure then
      let error := (failureReason choice state).getD
        "playback presentation was already failed before finalization"
      .completing completion (.reporting true) (.fail error)
    else .finalizing completion .diagnosing

/-- What follows a completion that has run. -/
def AfterCompletion.phase : AfterCompletion → WorkerPhase
  | .close => .closing
  | .record error => .recording error .failed
  | .fail error => .failing (failedWorker error) .failed
  | .drain failure => .draining failure

/-- A worker that gives up rejects a message. -/
def rejectedPhase (failure : WorkerFailure) (message : PresentationMessage) : WorkerPhase :=
  match message.completion? with
  | some completion => .completing completion (.reporting true) (.drain failure)
  | none => .draining failure

/-- The next step of the worker. -/
def workerStep (active : PresentedPlayback) (choice : PresentationChoice) (worker : PresentationWorker)
    (state : PresentationState) : Option (PresentationState × PresentationWorker) :=
  match worker.phase with
  | .receiving =>
    match worker.pendingCritical, state.critical with
    | none, message :: rest =>
      some ({ state with critical := rest },
        { worker with pendingCritical := some message, phase := .taking })
    | _, _ => some (state, { worker with phase := .taking })
  | .taking =>
    if choice.busy then some (state, { worker with phase := .choosing })
    else
      some ({ state with latestSnapshot := none }, { worker with
        pendingSnapshot := state.latestSnapshot.or worker.pendingSnapshot
        phase := .choosing })
  | .choosing => some (state, worker.chooseWork)
  | .idling =>
    some (state, { worker with phase := if state.closed then .leaving else .receiving })
  | .frame stage => some (state, { worker with phase := frameStep choice worker state stage })
  | .admitting message =>
    some (state, { worker with phase := admitMessage choice worker state message })
  | .stating =>
    some (state, { worker with phase := afterPublication .receiving choice.publication })
  | .finalizing completion stage =>
    some (state, { worker with phase := finalStep choice state completion stage })
  | .completing completion phase next =>
    let run := completionStep active choice completion phase state
    some (run.1, { worker with
      phase := match run.2 with
        | some phase => .completing completion phase next
        | none => next.phase })
  | .closing => some ({ state with closed := true }, { worker with phase := .leaving })
  | .recording error stage =>
    let recorded := recordFailure choice error stage state
    some (recorded.1, { worker with
      phase := match recorded.2 with
        | some stage => .recording error stage
        | none => .failing (failedWorker error) .failed })
  | .failing failure stage =>
    let recorded := recordFailure choice failure.reason stage state
    some (recorded.1, { worker with
      phase := match recorded.2 with
        | some stage => .failing failure stage
        | none => .reporting failure })
  | .reporting failure =>
    some ({ state with
      eventDeliveryFailure := state.eventDeliveryFailure || sessionAlive choice worker state },
      { worker with phase := .rejecting failure })
  | .rejecting failure =>
    some (state, { worker with
      pendingCritical := none
      phase := match worker.pendingCritical with
        | some message => rejectedPhase failure message
        | none => .draining failure })
  | .draining failure =>
    match state.critical with
    | message :: rest =>
      some ({ state with critical := rest }, { worker with phase := rejectedPhase failure message })
    | [] => some (state, { worker with phase := .leaving })
  | .leaving =>
    -- The receiver is dropped here, and with it whatever still waits in the queue.
    some ({ state with latestSnapshot := none, critical := [], receiver := false },
      ⟨none, none, .ended⟩)
  | .ended => none

/-- The worker of a session and the operations that meet its presentation. -/
structure PresentationSystem where
  pool : CallPool PresentationState PublisherCall
  worker : PresentationWorker

/-- One scheduling decision. -/
inductive PresentationAction where
  | publish (action : PoolAction PublisherOp PresentationChoice)
  | work (choice : PresentationChoice)

/-- Any number of operations that meet a presentation. -/
def publisherProgram (active : PresentedPlayback) :
    CallProgram PublisherOp PublisherCall PresentationChoice PresentationState :=
  ⟨publisherStart, publisherStep active⟩

/-- What an action makes of a presentation. -/
def presentationStep (active : PresentedPlayback) (system : PresentationSystem) :
    PresentationAction → Option PresentationSystem
  | .publish action =>
    ((publisherProgram active).poolStep system.pool action).map fun pool => { system with pool := pool }
  | .work choice =>
    (workerStep active choice system.worker system.pool.shared).map fun next =>
      ⟨{ system.pool with shared := next.1 }, next.2⟩

/-- The machine of a presentation. -/
def presentationMachine (active : PresentedPlayback) :
    Machine PresentationSystem PresentationAction :=
  ⟨⟨⟨.initial, []⟩, .initial⟩, presentationStep active⟩

end SkyAutoPlayer.Desktop
