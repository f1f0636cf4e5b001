import SkyAutoPlayer.Desktop.PlaybackSession
import SkyAutoPlayer.Desktop.UiEvents

/-!
# Calibration operations

One calibration runs at a time. A start records the operation with its reservation of the physical input
and announces it, and an orchestrator thread measures, commits the cache and finishes the operation. A
finish is admitted by a gate, which admits one at a time and none once the program shuts down. Shutting
down closes the gate, waits for the finish that is under way and takes the reservation back.

Every section under the lock of the operation, of the gate or of the activity is one step. Start and
orchestrator are one thread of control here, since a start does nothing to the service after it has
spawned the thread but keep its handle. The handle and the wait for the thread only decide how long a
shutdown takes. The operations are numbered as they are recorded, and what leaves the service is kept
in order.
-/

namespace SkyAutoPlayer.Desktop

open Foundation

/-- The guard on top of a measured reserve. -/
def calibrationTimingMarginGuardUs : ℕ := 100

/-- The step of a timing margin. -/
def timingMarginStepUs : ℕ := 100

/-- The timing margin of a user who has not chosen one. -/
def defaultTimingMarginUs : ℕ := 500

/-- The reserve that is assumed without a measurement. -/
def defaultTransportMarginUs : ℕ := 300

/-- The timing margin that a measured reserve recommends. -/
def recommendedCalibratedTimingMarginUs (transportReserveUs : ℕ) : Option ℕ := do
  let evidenceBudgetUs ← checkedAdd 64 transportReserveUs calibrationTimingMarginGuardUs
  let recommendationUs ← checkedMul 64
    ((evidenceBudgetUs + timingMarginStepUs - 1) / timingMarginStepUs) timingMarginStepUs
  if recommendationUs ≤ maxTimingMarginUs then some recommendationUs else none

/-- How a calibration stands. -/
inductive CalibrationState where
  | idle
  | starting
  | running
  | cancelling
  | succeeded
  | failed
  | cancelled
  deriving DecidableEq, Repr

namespace CalibrationState

/-- A calibration goes on. -/
def isActive : CalibrationState → Bool
  | .starting | .running | .cancelling => true
  | .idle | .succeeded | .failed | .cancelled => false

/-- A calibration has ended. -/
def isTerminal : CalibrationState → Bool
  | .succeeded | .failed | .cancelled => true
  | .idle | .starting | .running | .cancelling => false

end CalibrationState

/-- How a calibration ended. -/
inductive CalibrationOutcome where
  | succeeded
  | failed
  | cancelled
  deriving DecidableEq, Repr

/-- What a calibration measures. -/
inductive CalibrationMode where
  | quick
  | full
  | diagnostic
  deriving DecidableEq, Repr

/-- A request for a calibration. -/
structure CalibrationStartRequest where
  mode : CalibrationMode
  samples : Option ℕ
  deriving DecidableEq

/-- What a finished operation tells. -/
structure CalibrationEnd where
  state : CalibrationState
  outcome : CalibrationOutcome
  status : String
  marginUs : Option ℕ
  sampleCount : ℕ
  message : String
  applied : Bool
  deriving DecidableEq

/-- An operation was cancelled. -/
def cancelledEnd : CalibrationEnd :=
  ⟨.cancelled, .cancelled, "cancelled", none, 0, "Calibration was cancelled.", false⟩

/-- An operation failed. -/
def failedEnd (error : String) : CalibrationEnd :=
  ⟨.failed, .failed, "failed", none, 0, error, false⟩

/-- A diagnostic measurement succeeded. -/
def diagnosticEnd (samples : ℕ) : CalibrationEnd :=
  ⟨.succeeded, .succeeded, "succeeded", none, samples,
    "Diagnostic calibration completed successfully.", false⟩

/-- A calibration was committed to the cache. -/
def committedEnd (marginUs : Option ℕ) (samples : ℕ) : CalibrationEnd :=
  ⟨.succeeded, .succeeded, "succeeded", marginUs, samples, "Calibration completed successfully.",
    marginUs.isSome⟩

/-- A text of bounded length. -/
def boundedText (text : String) : String := String.ofList (text.toList.take 4096)

/-- The event of a finished operation. -/
def finishedPayload (operationId : String) (ended : CalibrationEnd) : CalibrationFinishedPayload :=
  let available := decide (ended.outcome = .succeeded)
  let recommended :=
    if available = false then none
    else if ended.applied then
      recommendedCalibratedTimingMarginUs (ended.marginUs.getD defaultTransportMarginUs)
    else some defaultTimingMarginUs
  let insufficientHeadroom := available && ended.applied && recommended.isNone
  let qualified := available && ended.applied && !insufficientHeadroom
  { operationId := operationId
    status := boundedText ended.status
    recommendedTimingMarginUs := recommended
    recommendationQualified := qualified
    sampleCount := ended.sampleCount
    source :=
      if insufficientHeadroom then "insufficient_headroom"
      else if qualified then "qualified_calibration"
      else if available then "out_of_envelope_fallback"
      else "unavailable"
    message := boundedText ended.message }

/-- The event of an operation that begins. -/
def startingPayload (operationId : String) : CalibrationProgressPayload :=
  ⟨operationId, "starting", 0, 1, "Starting calibration"⟩

/-- The text of a refused reservation. -/
def calibrationActivityError : ActivityReservationError → String
  | .closing => "closing: desktop application is closing"
  | .calibrationAlreadyActive => "already_running: a calibration operation is already active"
  | .physicalPlaybackActive => "playback_active: calibration cannot run during physical playback"
  | .physicalReleaseUnverified => "playback_release_unverified: calibration is blocked because the " ++
    "previous physical key release could not be verified; restart the application to restore " ++
    "physical input"
  | .updateAlreadyActive => "update_active: calibration cannot run during update installation"

/-- What leaves the service, and the end of a shutdown. -/
inductive CalibrationEffect where
  | progress (number : ℕ) (payload : CalibrationProgressPayload)
  | committed (number : ℕ)
  | finished (number : ℕ) (payload : CalibrationFinishedPayload)
  | released (number : ℕ)
  | shutdown
  deriving DecidableEq

/-- The operation that the service knows, with its reservation while it holds it. -/
structure CalibrationOperation where
  number : ℕ
  operationId : String
  state : CalibrationState
  reserved : Bool
  deriving DecidableEq

/-- What the calls of the service share. An aborted process makes no step. -/
structure CalibrationService where
  activity : ActivityState
  operation : Option CalibrationOperation
  publicationClosing : Bool
  commitInProgress : Bool
  closed : Bool
  cancelled : List ℕ
  begun : ℕ
  aborted : Bool
  effects : List CalibrationEffect
  deriving DecidableEq

/-- A service at the start of the program. -/
def CalibrationService.initial : CalibrationService :=
  ⟨.initial, none, false, false, false, [], 0, false, []⟩

/-- How the child process ends. -/
inductive ChildResult where
  | measured
  | cancelled
  | failed (error : String)
  deriving DecidableEq

/-- What a step cannot determine: the verdict on a request with the identifier it gets, how a
publication, a spawn, the child, the preparation of the cache and its commit end, and whether the
deadline of a shutdown has passed. -/
structure CalibrationChoice where
  admitted : Except String String
  published : Bool
  failure : Option String
  child : ChildResult
  prepared : Except String Unit
  committed : Except String (Option ℕ × ℕ)
  deadline : Bool

/-- Where an operation stands. -/
inductive CalibrationPhase where
  | announcing
  | retracting (error : String)
  | withdrawn (error : String)
  | spawning
  | running
  | measuring
  | measured (result : ChildResult)
  | judging (result : ChildResult)
  | preparing
  | asking (ended : CalibrationEnd)
  | askingCommit
  | committing
  | checking (ended : CalibrationEnd)
  | settling (ended : CalibrationEnd)
  | publishing (ended : CalibrationEnd) (held : Bool)
  | releasing (held : Bool)
  | yielding
  | over
  deriving DecidableEq

/-- An operation. -/
structure CalibrationRun where
  request : CalibrationStartRequest
  operationId : String
  number : ℕ
  phase : CalibrationPhase
  deriving DecidableEq

/-- Where a start stands before its operation is recorded. -/
inductive CalibrationStartPhase where
  | validating
  | reserving (operationId : String)
  | rejected (error : String)
  deriving DecidableEq

/-- Where a shutdown stands. It holds the reservation that it took from an operation. -/
inductive CalibrationShutdownPhase where
  | closingActivity
  | closingService
  | closingGate
  | draining
  | containing
  | waiting (held : Option ℕ)
  | returned
  deriving DecidableEq

/-- A call of the service, or another owner of the physical input. -/
inductive CalibrationCall where
  | start (request : CalibrationStartRequest) (phase : CalibrationStartPhase)
  | run (run : CalibrationRun)
  | cancel (operationId : String) (result : Option (Except String (CalibrationState × Bool)))
  | shutdown (phase : CalibrationShutdownPhase)
  | playback (sessionId : String) (phase : ReservationPhase)
  | update (phase : ReservationPhase)
  deriving DecidableEq

/-- An operation of the service. -/
inductive CalibrationOp where
  | start (request : CalibrationStartRequest)
  | cancel (operationId : String)
  | shutdown
  | playback (sessionId : String)
  | update

namespace CalibrationService

/-- Give a reservation back, if there is one. -/
def release (held : Option ℕ) (service : CalibrationService) : CalibrationService :=
  match held with
  | some number =>
    { service with
      activity := service.activity.releaseCalibration
      effects := service.effects ++ [.released number] }
  | none => service

/-- Record an operation, and reserve the physical input for it. -/
def reserve (operationId : String) (service : CalibrationService) :
    Except String CalibrationService :=
  if service.operation.any fun operation => operation.state.isActive then
    .error "already_running: a calibration operation is already active"
  else
    match service.activity.reserveCalibration with
    | .error error => .error (calibrationActivityError error)
    | .ok activity => .ok { service with
        activity := activity
        operation := some ⟨service.begun, operationId, .running, true⟩
        begun := service.begun + 1 }

/-- Forget the operation, which gives its reservation back. -/
def retract (service : CalibrationService) : CalibrationService :=
  { service.release (service.operation.bind fun operation =>
      if operation.reserved then some operation.number else none) with operation := none }

/-- The operation that a finish may end. -/
def unfinished? (operationId : String) (service : CalibrationService) : Option CalibrationOperation :=
  service.operation.filter fun operation =>
    operation.operationId = operationId && !operation.state.isTerminal

/-- Cancel the operation of an identifier. -/
def cancel (operationId : String) (service : CalibrationService) :
    CalibrationService × Except String (CalibrationState × Bool) :=
  match service.operation with
  | none => (service, .error "stale_operation: calibration operation is stale")
  | some operation =>
    if operation.operationId ≠ operationId then
      (service, .error "stale_operation: calibration operation is stale")
    else if operation.state = .starting ∨ operation.state = .running then
      ({ service with
        operation := some { operation with state := .cancelling }
        cancelled := operation.number :: service.cancelled }, .ok (.cancelling, true))
    else if operation.state = .cancelling then (service, .ok (.cancelling, true))
    else (service, .ok (operation.state, false))

/-- Cancel the operation that goes on, and take its reservation. -/
def contain (service : CalibrationService) : CalibrationService × Option ℕ :=
  match service.operation with
  | none => (service, none)
  | some operation =>
    ({ service with
      operation := some { operation with
        state := if operation.state.isActive then .cancelling else operation.state
        reserved := false }
      cancelled :=
        if operation.state.isActive then operation.number :: service.cancelled
        else service.cancelled },
      if operation.reserved then some operation.number else none)

/-- The gate admits no one. -/
def gateShut (service : CalibrationService) : Bool :=
  service.publicationClosing || service.commitInProgress

end CalibrationService

/-- What a measurement that was not cancelled leads to. -/
def judgeResult (request : CalibrationStartRequest) : ChildResult → CalibrationPhase
  | .measured =>
    if request.mode = .diagnostic then .asking (diagnosticEnd (request.samples.getD 0))
    else .preparing
  | .cancelled => .asking cancelledEnd
  | .failed error => .asking (failedEnd error)

/-- The next step of an operation. -/
def calibrationRunStep (choice : CalibrationChoice) (run : CalibrationRun)
    (service : CalibrationService) : Option (CalibrationService × CalibrationRun) :=
  match run.phase with
  | .announcing =>
    if choice.published then
      some ({ service with
        effects := service.effects ++ [.progress run.number (startingPayload run.operationId)] },
        { run with phase := .spawning })
    else some (service, { run with phase := .retracting (choice.failure.getD "") })
  | .retracting error => some (service.retract, { run with phase := .withdrawn error })
  | .spawning =>
    some (service, { run with
      phase := match choice.failure with
        | none => .running
        | some error => .retracting ("could not start calibration worker: " ++ error) })
  | .running => some (service, { run with phase := if service.closed then .over else .measuring })
  | .measuring => some (service, { run with phase := .measured choice.child })
  | .measured result =>
    some (service, { run with phase := if service.closed then .over else .judging result })
  | .judging result =>
    some (service, { run with
      phase :=
        if run.number ∈ service.cancelled then .asking cancelledEnd
        else judgeResult run.request result })
  | .preparing =>
    some (service, { run with
      phase := match choice.prepared with
        | .ok _ => .askingCommit
        | .error error => .asking (failedEnd error) })
  | .asking ended =>
    if service.gateShut then some (service, { run with phase := .over })
    else some ({ service with commitInProgress := true }, { run with phase := .checking ended })
  | .askingCommit =>
    if service.gateShut then some (service, { run with phase := .over })
    else some ({ service with commitInProgress := true }, { run with phase := .committing })
  | .committing =>
    match choice.committed with
    | .ok (marginUs, samples) =>
      some ({ service with effects := service.effects ++ [.committed run.number] },
        { run with phase := .checking (committedEnd marginUs samples) })
    | .error error => some (service, { run with phase := .checking (failedEnd error) })
  | .checking ended =>
    some (service, { run with phase := if service.closed then .yielding else .settling ended })
  | .settling ended =>
    match service.unfinished? run.operationId with
    | none => some (service, { run with phase := .yielding })
    | some operation =>
      some ({ service with
        operation := some { operation with state := ended.state, reserved := false } },
        { run with phase := .publishing ended operation.reserved })
  | .publishing ended held =>
    some (if choice.published then
        { service with effects :=
          service.effects ++ [.finished run.number (finishedPayload run.operationId ended)] }
      else service, { run with phase := .releasing held })
  | .releasing held =>
    some (service.release (if held then some run.number else none),
      { run with phase := .yielding })
  | .yielding => some ({ service with commitInProgress := false }, { run with phase := .over })
  | .withdrawn _ | .over => none

/-- The next step of a shutdown. A finish that does not end before the deadline aborts the process. -/
def calibrationShutdownStep (choice : CalibrationChoice) (phase : CalibrationShutdownPhase)
    (service : CalibrationService) : Option (CalibrationService × CalibrationShutdownPhase) :=
  match phase with
  | .closingActivity =>
    some ({ service with activity := service.activity.beginShutdown }, .closingService)
  | .closingService => some ({ service with closed := true }, .closingGate)
  | .closingGate => some ({ service with publicationClosing := true }, .draining)
  | .draining =>
    if service.commitInProgress = false then some (service, .containing)
    else if choice.deadline then some ({ service with aborted := true }, .draining)
    else none
  | .containing =>
    let contained := service.contain
    some (contained.1, .waiting contained.2)
  | .waiting held =>
    let released := service.release held
    some ({ released with effects := released.effects ++ [.shutdown] }, .returned)
  | .returned => none

/-- The next step of a start before its operation is recorded. -/
def calibrationStartStep (choice : CalibrationChoice) (request : CalibrationStartRequest)
    (phase : CalibrationStartPhase) (service : CalibrationService) :
    Option (CalibrationService × CalibrationCall) :=
  match phase with
  | .validating =>
    some (service, .start request (match choice.admitted with
      | .ok operationId => .reserving operationId
      | .error error => .rejected error))
  | .reserving operationId =>
    match service.reserve operationId with
    | .ok after => some (after, .run ⟨request, operationId, service.begun, .announcing⟩)
    | .error error => some (service, .start request (.rejected error))
  | .rejected _ => none

/-- The next step of a call. -/
def calibrationStep (choice : CalibrationChoice) (call : CalibrationCall)
    (service : CalibrationService) : Option (CalibrationService × CalibrationCall) :=
  if service.aborted then none
  else
    match call with
    | .start request phase => calibrationStartStep choice request phase service
    | .run run => (calibrationRunStep choice run service).map fun next => (next.1, .run next.2)
    | .cancel operationId none =>
      let result := service.cancel operationId
      some (result.1, .cancel operationId (some result.2))
    | .cancel _ (some _) => none
    | .shutdown phase =>
      (calibrationShutdownStep choice phase service).map fun next => (next.1, .shutdown next.2)
    | .playback sessionId phase =>
      (phase.step (ActivityState.reservePlayback sessionId) (ActivityState.releasePlayback sessionId)
        service.activity).map fun next =>
          ({ service with activity := next.1 }, .playback sessionId next.2)
    | .update phase =>
      (phase.step ActivityState.reserveUpdate ActivityState.releaseUpdate service.activity).map
        fun next => ({ service with activity := next.1 }, .update next.2)

/-- Where an operation of the service begins. -/
def calibrationStart : CalibrationOp → CalibrationCall
  | .start request => .start request .validating
  | .cancel operationId => .cancel operationId none
  | .shutdown => .shutdown .closingActivity
  | .playback sessionId => .playback sessionId .reserving
  | .update => .update .reserving

/-- Any number of calls of the service. -/
def calibrationProgram :
    CallProgram CalibrationOp CalibrationCall CalibrationChoice CalibrationService :=
  ⟨calibrationStart, calibrationStep⟩

/-- The machine of the service. -/
def calibrationMachine : Machine (CallPool CalibrationService CalibrationCall)
    (PoolAction CalibrationOp CalibrationChoice) :=
  calibrationProgram.machine .initial

end SkyAutoPlayer.Desktop
