import SkyAutoPlayer.Player.DispatchControl

/-!
# The dispatch section of the loop

A due packet is sent on one of two paths. The prepared stream sends the packet at its cursor; the
planner sends the packet it planned, or recovers the Ups of a missed Down. Both run the final
gates in front of the sender. The iteration of the loop ends the module.
-/

namespace SkyAutoPlayer.Player

open Foundation DispatchCore DispatchWin32
open Procedure (ask current update fail ofExcept onlyIf mapError merge)

/-- The outcome of the planned path's admission. -/
inductive AdmissionOutcome where
  | allowed
  | guarded (preflightTarget : Option TargetStamp)
  | blockedUnfocused
  | focusLost
  | targetChanged
  | controlRejected
  deriving DecidableEq, Repr

/-- The result of the prepared path's precision suffix. -/
inductive PreparedNormalPrecisionResult where
  | rejected (verdict : FinalDownVerdict)
  | sent (reply : SenderReply)
  deriving DecidableEq, Repr

/-- What the wait for a boundary ends with. -/
inductive WaitBoundary where
  | due (dispatchQpc : ℕ)
  | replan
  deriving DecidableEq, Repr

variable {ε : Type}

/-- A fallible answer whose error ends the dispatch step. -/
def orTerminate (describe : String → String) (answer : Except String Unit) :
    WorkerM DispatchStep Unit :=
  mapError (fun error => .terminate (describe error)) (ofExcept answer)

/-- Two hexadecimal digits. -/
def hexByte (mask : BitVec 8) : String :=
  String.ofList [Nat.digitChar (mask.toNat / 16), Nat.digitChar (mask.toNat % 16)] |>.toUpper

/-- The step of a held modifier. -/
def modifierGuardRejectionStep (mask : BitVec 8) : DispatchStep :=
  .terminate ("physical_modifier_held:" ++ hexByte mask)

/-- Continue after an allowed verdict only. -/
def whenAllowed (gate next : WorkerM ε FinalDownVerdict) : WorkerM ε FinalDownVerdict := do
  let verdict ← gate
  if verdict = .allowed then next else pure verdict

/-- Ask the guard for the window of a packet. -/
def physicalTimingWindowForDispatch (physicalTargetQpc : ℕ) (masks : PhysicalPacket) :
    WorkerM String PhysicalTimingWindow := do
  match (← current).physicalTimingGuard with
  | none => fail "physical timing guard is not initialized"
  | some guard =>
    mapError (fun error => s!"physical timing window query failed: {guardErrorDebug error}")
      (ofExcept (guard.query physicalTargetQpc masks.upMask masks.downMask))

/-- Fail when a send started before its authored target. -/
def recordSendInputPreCallLateness (physicalTargetQpc : ℕ) (started : Option ℕ) :
    WorkerM DispatchStep Unit := do
  match started with
  | none => pure ()
  | some startedQpc =>
    onlyIf (startedQpc < physicalTargetQpc)
      (fail (.terminate "SendInput pre-call preceded authored target"))

/-- Invalidate the guard when the sender was called at all. -/
def invalidateAfterAttempt (attempts : ℕ) : WorkerM ε Unit :=
  onlyIf (attempts ≠ 0) (update WorkerState.invalidateGuard)

/-- Tell the guard about a completed packet. -/
def observeSuccessfulCompletion (completedQpc : ℕ) (packet : PhysicalPacket) :
    WorkerM DispatchStep Unit :=
  mapError DispatchStep.terminate
    (timingGuard "physical timing guard is not initialized"
      (fun error => s!"physical timing guard completion update failed: {guardErrorDebug error}")
      (PhysicalTimingGuard.observeSuccessfulPacket completedQpc packet.upMask packet.downMask))

/-- Settle a successful packet; the first Down starts the musical part. -/
def finalizeDownSendOutcome (view : AuthoredBatchView) : WorkerM DispatchStep DispatchStep := do
  let settled ← ask (I := workerInterface) (.settleSend view)
  orTerminate id settled
  onlyIf (view.packetMasks.downMask ≠ 0#16)
    (update fun state => { state with musicalPhysicalCommitStarted := true })
  let published ← ask (I := workerInterface) (.publishSend view)
  orTerminate id published
  pure .dispatched

/-- Record a send without a clock error. -/
def recordSettledResult (view : AuthoredBatchView) (outcome : SendTransactionOutcome) :
    WorkerM DispatchStep DispatchStep := do
  if outcome.isSuccess then
    match outcome.evidence.completedTicks with
    | none => do
      update WorkerState.invalidateGuard
      fail (.terminate "successful Down missing completion QPC")
    | some completedQpc => do
      observeSuccessfulCompletion completedQpc view.packetMasks
      finalizeDownSendOutcome view
  else do
    invalidateAfterAttempt outcome.evidence.attempts
    fail (.terminate
      s!"authored Down send integrity failure at action {view.batchSourceActionIndex}")

/-- Record the sender's reply. -/
def recordDownSendResult (view : AuthoredBatchView) (physicalTargetQpc : ℕ)
    (reply : SenderReply) : WorkerM DispatchStep DispatchStep := do
  recordSendInputPreCallLateness physicalTargetQpc reply.outcome.evidence.startedTicks
  match reply.timingError with
  | some error => do
    invalidateAfterAttempt reply.outcome.evidence.attempts
    fail (.terminate s!"QPC failure after note-on: {qpcErrorDebug error}")
  | none => recordSettledResult view reply.outcome

/-- Hand a packet to the sender. -/
def sendPacket (packet : PhysicalPacket) : WorkerM ε SenderReply :=
  ask (I := workerInterface) (.send packet)

section Prepared

/-- The gates of a prepared Down after the first control gate. -/
def preparedDownGates (config : WorkerConfig) (expected : TargetStamp) :
    WorkerM DispatchStep FinalDownVerdict :=
  whenAllowed (finalDownTargetAdmission config expected)
    (whenAllowed finalDownControlVerdict
      (whenAllowed finalDownModifierVerdict
        (mapError (fun _ => .terminate "prepared_down_qpc_failure")
          (finalDownPostModifierVerdict config expected))))

/-- The gates of a prepared frame; a frame without Downs passes the control gate only. -/
def admitPreparedFrame (config : WorkerConfig) (packet : PhysicalPacket)
    (preflightTarget : Option TargetStamp) : WorkerM DispatchStep FinalDownVerdict :=
  if packet.downMask ≠ 0#16 then
    whenAllowed finalDownControlVerdict
      (match preflightTarget with
      | none => fail (.terminate "prepared Down reached final admission without target proof")
      | some expected => preparedDownGates config expected)
  else finalDownControlVerdict

/-- The precision suffix of a prepared frame. -/
def sendPreparedNormalPrecisionFrame (config : WorkerConfig) (view : AuthoredBatchView)
    (preflightTarget : Option TargetStamp) :
    WorkerM DispatchStep PreparedNormalPrecisionResult := do
  let verdict ← admitPreparedFrame config view.packetMasks preflightTarget
  if verdict = .allowed then do
    let reply ← sendPacket view.packetMasks
    pure (.sent reply)
  else pure (.rejected verdict)

/-- The step of a rejected prepared frame. -/
def rejectPreparedFrame : FinalDownVerdict → WorkerM DispatchStep DispatchStep
  | .focusLost => do
    handleFinalFocusLoss
    pure .goOn
  | .controlRejected | .targetChanged | .allowed => pure .goOn
  | .ownerRejected failure => fail (.terminate (ownerRejectionReason failure true))
  | .modifierHeld mask => fail (modifierGuardRejectionStep mask)
  | .leaseExpired => fail (.terminate "supervisor_lease_expired")
  | .leaseUnproven => fail (.terminate "supervisor_lease_unproven")

/-- Finish the precision suffix: record the send, or apply the rejection. -/
def finishPreparedNormalPrecisionResult (view : AuthoredBatchView) (physicalTargetQpc : ℕ) :
    PreparedNormalPrecisionResult → WorkerM DispatchStep DispatchStep
  | .sent reply => recordDownSendResult view physicalTargetQpc reply
  | .rejected verdict => do
    update (applyFinalDownRejection verdict)
    rejectPreparedFrame verdict

/-- Whether a Down meets a lost focus hint before its gates. -/
def outerFocusLost (config : WorkerConfig) (site : ReadSite) (hasDownEvents : Bool) :
    WorkerM ε Bool := do
  if hasDownEvents then do
    let focused ← focusMatches config site
    pure !focused
  else pure false

/-- Inject the configured focus fault once. -/
def injectFocusLossFault (config : WorkerConfig) (hasDownEvents : Bool) :
    WorkerM DispatchStep Unit := do
  onlyIf (hasDownEvents && config.focusLossFault && !(← current).focusLossFaultInjected) do
    update fun state => { state with focusLossFaultInjected := true }
    fail (.terminate "focus lost after due check before SendInput boundary")

/-- Dispatch the prepared frame at its target. -/
def dispatchPreparedNormalFrame (config : WorkerConfig) (view : AuthoredBatchView)
    (preflightTarget : Option TargetStamp) (physicalTargetQpc : ℕ) :
    WorkerM DispatchStep DispatchStep := do
  let hasDownEvents : Bool := view.packetMasks.downMask ≠ 0#16
  if ← outerFocusLost config .preparedFocus hasDownEvents then do
    handleFinalFocusLoss
    pure .goOn
  else do
    injectFocusLossFault config hasDownEvents
    let result ← sendPreparedNormalPrecisionFrame config view preflightTarget
    finishPreparedNormalPrecisionResult view physicalTargetQpc result

end Prepared

section Planned

/-- Whether a planned packet counts as a Down. -/
def AuthoredBatchView.hasDown (view : AuthoredBatchView) : Bool :=
  view.packetMasks.downMask ≠ 0#16 ∨ view.batchKind = .down

/-- The boundary of a Down-bearing packet. -/
def physicalBoundaryStamp (view : AuthoredBatchView) (physicalTargetQpc : ℕ) :
    Option PhysicalBoundaryStamp :=
  if view.packetMasks.downMask ≠ 0#16 then
    some
      { firstBatchIndex := view.firstBatchIndex
        packetIndex := view.packetIndex
        packetBatchCount := view.packetBatchCount
        sourceActionIndex := view.batchSourceActionIndex
        upMask := view.packetMasks.upMask
        downMask := view.packetMasks.downMask
        physicalTargetQpc }
  else none

/-- Focus, the target proof, conflicts and the control gate, before the final gates. -/
def admitGuarded (view : AuthoredBatchView) (preflightTarget : Option TargetStamp) :
    WorkerM DispatchStep AdmissionOutcome := do
  onlyIf (view.conflictMask ≠ 0#16) (fail (.terminate
    s!"unexpected blocked authored Down at action {view.batchSourceActionIndex}"))
  if (← finalControlPrecheck .plannedAdmission) = .allowed then pure (.guarded preflightTarget)
  else do
    update WorkerState.forgetTarget
    pure .controlRejected

/-- The target check of a planned Down before its gates. -/
def admitPlannedTarget (view : AuthoredBatchView) (preflightTarget : Option TargetStamp) :
    WorkerM DispatchStep AdmissionOutcome := do
  if view.hasDown then
    match preflightTarget with
    | none => fail (.terminate
        "down-bearing dispatch reached final admission without preflight proof")
    | some expected => do
      if ← targetStampStillCurrent .plannedAdmission expected then
        admitGuarded view (some expected)
      else do
        update fun state => state.forgetTarget.invalidateDownAuthorization
        pure .targetChanged
  else admitGuarded view none

/-- The gate in front of the final admission. A lost focus hint pauses with the sample that the
dispatch was due at. -/
def admitAuthoredDown (config : WorkerConfig) (view : AuthoredBatchView)
    (preflightTarget : Option TargetStamp) (nowTicks : ℕ) (immediate : Bool) :
    WorkerM DispatchStep AdmissionOutcome := do
  if ← outerFocusLost config (.plannedFocus immediate) view.hasDown then
    if (← current).musicalPhysicalCommitStarted then do
      let _ ← mapError DispatchStep.terminate (enterFocusPause nowTicks)
      pure .blockedUnfocused
    else fail (.terminate "focus_lost_during_preroll")
  else do
    injectFocusLossFault config view.hasDown
    admitPlannedTarget view preflightTarget

/-- The evidence that a boundary was crossed, which a missed one does not need. -/
def resolveTargetCrossingQpc (downAdmission : DownBoundaryAdmission)
    (boundaryCrossingQpc : Option ℕ) : WorkerM DispatchStep Unit :=
  onlyIf (!downAdmission.isMissed && boundaryCrossingQpc.isNone)
    (fail (.terminate "missing physical boundary crossing evidence"))

/-- One final gate of the planned path. -/
def plannedGate (gate : WorkerM DispatchStep FinalDownVerdict)
    (reject : FinalDownVerdict → WorkerM DispatchStep AdmissionOutcome)
    (next : WorkerM DispatchStep AdmissionOutcome) : WorkerM DispatchStep AdmissionOutcome := do
  let verdict ← gate
  if verdict = .allowed then next
  else do
    update (applyFinalDownRejection verdict)
    reject verdict

/-- The outcome of a rejection by the target gate. -/
def authoredTargetRejectionOutcome : FinalDownVerdict → WorkerM DispatchStep AdmissionOutcome
  | .focusLost => do
    handleFinalFocusLoss
    pure .focusLost
  | .targetChanged => pure .targetChanged
  | .ownerRejected failure => fail (.terminate (ownerRejectionReason failure false))
  | _ => fail (.terminate "invalid final target admission verdict")

/-- The outcome of a rejection by the modifier guard. -/
def authoredModifierRejectionOutcome : FinalDownVerdict → WorkerM DispatchStep AdmissionOutcome
  | .modifierHeld mask => fail (modifierGuardRejectionStep mask)
  | _ => fail (.terminate "invalid modifier admission verdict")

/-- The outcome of a rejection by the last suffix. -/
def authoredPostModifierRejectionOutcome :
    FinalDownVerdict → WorkerM DispatchStep AdmissionOutcome
  | .controlRejected => pure .controlRejected
  | .focusLost => do
    handleFinalFocusLoss
    pure .focusLost
  | .targetChanged => pure .targetChanged
  | .ownerRejected _ => fail (.terminate "authored_down_owner_changed_after_modifier_guard")
  | .modifierHeld mask => fail (modifierGuardRejectionStep mask)
  | .leaseExpired => fail (.terminate "supervisor_lease_expired")
  | .leaseUnproven => fail (.terminate "supervisor_lease_unproven")
  | .allowed => fail (.terminate "invalid post-modifier admission verdict")

/-- The last sample of an admitted packet. -/
def finalPolicyBoundary : WorkerM DispatchStep AdmissionOutcome := do
  match ← now .finalPolicy with
  | .ok _ => pure .allowed
  | .error error =>
    fail (.terminate s!"QPC final policy boundary failure: {qpcErrorDebug error}")

/-- The rejection of the control gate. -/
def controlRejection (_ : FinalDownVerdict) : WorkerM DispatchStep AdmissionOutcome :=
  pure .controlRejected

/-- The gates of a planned Down after the first control gate. -/
def plannedDownGates (config : WorkerConfig) (expected : TargetStamp) :
    WorkerM DispatchStep AdmissionOutcome :=
  plannedGate (finalDownTargetAdmission config expected) authoredTargetRejectionOutcome
    (plannedGate finalDownControlVerdict controlRejection
      (plannedGate finalDownModifierVerdict authoredModifierRejectionOutcome
        (plannedGate
          (mapError (fun _ => .terminate "authored_down_qpc_failure")
            (finalDownPostModifierVerdict config expected))
          authoredPostModifierRejectionOutcome finalPolicyBoundary)))

/-- The gates of a planned packet; without Downs the control gate is passed twice. -/
def plannedGates (config : WorkerConfig) (view : AuthoredBatchView)
    (preflightTarget : Option TargetStamp) : WorkerM DispatchStep AdmissionOutcome :=
  plannedGate finalDownControlVerdict controlRejection
    (if view.hasDown then
      match preflightTarget with
      | none => fail (.terminate
          "down-bearing dispatch reached final admission without frozen target proof")
      | some expected => plannedDownGates config expected
    else plannedGate finalDownControlVerdict controlRejection finalPolicyBoundary)

/-- The final admission of a guarded packet. -/
def finalizeAuthoredDownAdmission (config : WorkerConfig) (view : AuthoredBatchView)
    (downAdmission : DownBoundaryAdmission) (boundaryCrossingQpc : Option ℕ) :
    AdmissionOutcome → WorkerM DispatchStep AdmissionOutcome
  | .guarded preflightTarget => do
    resolveTargetCrossingQpc downAdmission boundaryCrossingQpc
    plannedGates config view preflightTarget
  | outcome => pure outcome

/-- Fail unless a packet's frozen authored commit is still valid. -/
def validateFrozenCommit (describe : String → String) (commit : PhysicalCommit) :
    WorkerM DispatchStep Unit := do
  match commit.authoredCommit with
  | none => pure ()
  | some authored => do
    let validated ← ask (I := workerInterface) (.validateFrozenCommit authored)
    orTerminate describe validated

/-- The Ups to send in place of a missed packet. -/
def recoveryUps (view : AuthoredBatchView) : Except String PhysicalPacket :=
  match view.recovery, view.upRecoveryView with
  | .none, _ => .error "missing_prepared_up_recovery_descriptor"
  | .upPrefix upLen upMask, upView =>
    if upMask ≠ view.packetMasks.upMask ∨ upLen ≠ countOnes view.packetMasks.upMask then
      .error "invalid_prepared_up_recovery_descriptor"
    else
      match upView with
      | none => .error "missing_prepared_up_recovery_view"
      | some packet =>
        if packet = ⟨view.packetMasks.upMask, 0#16⟩ ∧ packet.eventCount = upLen then .ok packet
        else .error "invalid_prepared_up_recovery_view"

/-- Settle a missed packet in the coordinator. -/
def commitMissedDownBoundary (view : AuthoredBatchView) (startedQpc : ℕ) :
    WorkerM DispatchStep DispatchStep := do
  let state ← current
  let startedEffective ← mapError
    (fun error => .terminate
      s!"playback clock failure during missed Down recovery: {timeErrorText error}")
    (ofExcept (state.playback.getElapsedAllowPreEpoch startedQpc
      state.allowPreEpochStartupDispatch))
  match view.commit with
  | .pendingRelease _ _ =>
    fail (.terminate "pending release cannot carry a missed authored Down")
  | .coalesced _ _ dueTicks => do
    onlyIf (startedEffective < dueTicks)
      (fail (.terminate "coalesced missed Down recovery started before Up due boundary"))
    settle startedEffective
  | .authored _ => settle startedEffective
where
  /-- Commit the miss, and the coalesced release with it. -/
  settle (startedEffective : ℕ) : WorkerM DispatchStep DispatchStep := do
    let settled ← ask (I := workerInterface) (.settleMiss view startedEffective)
    orTerminate (fun error => s!"coordinator missed Down commit failure: {error}") settled
    pure .dispatched

/-- The boundaries of a complete recovery send. -/
def recoveryBoundaries (upMask : BitVec 16) (outcome : SendTransactionOutcome) :
    WorkerM DispatchStep ℕ := do
  onlyIf (!outcome.isSuccess || outcome.evidence.confirmedMask ≠ upMask ||
      outcome.evidence.skippedMask ≠ 0#16) do
    invalidateAfterAttempt outcome.evidence.attempts
    fail (.terminate "missed Down Up-prefix recovery transport failure")
  match outcome.evidence.startedTicks, outcome.evidence.completedTicks with
  | none, _ => fail (.terminate "missed Down safety Up missing start boundary")
  | some _, none => do
    update WorkerState.invalidateGuard
    fail (.terminate "missed Down Up-prefix recovery missing completion boundary")
  | some started, some completed => do
    observeRecovery completed
    pure started
where
  /-- Tell a present guard about the recovered Ups. -/
  observeRecovery (completed : ℕ) : WorkerM DispatchStep Unit := do
    onlyIf (← current).physicalTimingGuard.isSome
      (mapError DispatchStep.terminate
        (timingGuard ""
          (fun error => s!"physical timing guard recovery update failed: {guardErrorDebug error}")
          (PhysicalTimingGuard.observeSuccessfulPacket completed upMask 0#16)))

/-- Send the Ups of a missed packet, and return when the send started. -/
def sendRecoveryUps (view : AuthoredBatchView) : WorkerM DispatchStep ℕ := do
  let packet ← mapError DispatchStep.terminate (ofExcept (recoveryUps view))
  let reply ← ask (I := workerInterface) (.sendRecoveryUps packet)
  onlyIf reply.timingError.isSome do
    invalidateAfterAttempt reply.outcome.evidence.attempts
    fail (.terminate "QPC failure during missed Down Up recovery")
  recoveryBoundaries view.packetMasks.upMask reply.outcome

/-- Recover a missed Down: its Ups are sent, its Downs are not. -/
def recoverMissedDownBoundary (config : WorkerConfig) (view : AuthoredBatchView)
    (observedQpc : ℕ) : WorkerM DispatchStep DispatchStep := do
  validateFrozenCommit (fun error =>
    s!"missed Down authored cancellation identity validation failed before SendInput: {error}")
    view.commit
  onlyIf config.strictTiming (fail (.terminate "down_unobserved_backlog"))
  if view.packetMasks.upMask = 0#16 then commitMissedDownBoundary view observedQpc
  else do
    let startedQpc ← sendRecoveryUps view
    commitMissedDownBoundary view startedQpc

/-- Send an admitted packet. -/
def recordDownSendOutcome (view : AuthoredBatchView) (physicalTargetQpc : ℕ) :
    AdmissionOutcome → WorkerM DispatchStep DispatchStep
  | .allowed => do
    let reply ← sendPacket view.packetMasks
    recordDownSendResult view physicalTargetQpc reply
  | _ => pure .goOn

/-- Dispatch a due planned packet: admit it, then send it or recover it. -/
def dispatchAuthoredPacket (config : WorkerConfig) (plan : PhysicalDispatchPlan) (nowTicks : ℕ)
    (immediate : Bool) (downAdmission : DownBoundaryAdmission)
    (boundaryCrossingQpc : Option ℕ) : WorkerM DispatchStep DispatchStep := do
  update fun state =>
    { state with allowPreEpochStartupDispatch := nowTicks < state.playback.epoch }
  let admission ← admitAuthoredDown config plan.authoredView plan.targetProof.verifiedTarget
    nowTicks immediate
  let admission ← finalizeAuthoredDownAdmission config plan.authoredView downAdmission
    boundaryCrossingQpc admission
  if downAdmission.isMissed then recoverMissedDownBoundary config plan.authoredView nowTicks
  else recordDownSendOutcome plan.authoredView plan.physicalTargetQpc admission

/-- Remember a boundary that is still in the future. -/
def observeFutureDownBoundary (plan : PhysicalDispatchPlan) (state : WorkerState) : WorkerState :=
  match physicalBoundaryStamp plan.authoredView plan.physicalTargetQpc with
  | none => state
  | some stamp =>
    if state.pendingUpRecovery.isNone ∧ state.downBoundaryState = .awaitingFuture then
      { state with downBoundaryState := .futureAuthorized stamp }
    else state

/-- Fail when a pending recovery is not for this boundary. -/
def checkPendingRecovery (pending : PendingUpRecovery) (boundary : Option PhysicalBoundaryStamp) :
    WorkerM DispatchStep Unit := do
  onlyIf (!boundary.any pending.boundary.sameAuthoredBoundary)
    (fail (.terminate "pending Up recovery no longer matches its authored boundary"))
  onlyIf ((← current).downBoundaryState ≠ .awaitingFuture)
    (fail (.terminate "pending Up recovery retained Down authorization"))

/-- Whether a boundary was authorized; the authorization is used up. -/
def authorizeDownBoundary (boundary : Option PhysicalBoundaryStamp) :
    WorkerM ε DownBoundaryAdmission := do
  match boundary with
  | none => pure .authorized
  | some stamp => do
    let authorized : Bool := (← current).downBoundaryState = .futureAuthorized stamp
    update WorkerState.invalidateDownAuthorization
    pure (if authorized then .authorized else .unobservedBacklog)

/-- Dispatch a packet without a pending recovery; the Ups of a missed mixed packet wait for their
hold floor. -/
def dispatchFreshPacket (config : WorkerConfig) (plan : PhysicalDispatchPlan)
    (window : PhysicalTimingWindow) (nowTicks : ℕ) (immediate : Bool)
    (boundaryCrossingQpc : Option ℕ) : WorkerM DispatchStep DispatchStep := do
  let boundary := physicalBoundaryStamp plan.authoredView plan.physicalTargetQpc
  let downAdmission ← authorizeDownBoundary boundary
  if downAdmission.isMissed ∧ plan.authoredView.packetMasks.upMask ≠ 0#16 ∧
      config.strictTiming = false ∧ nowTicks < window.musicalUpNotBeforeQpc then
    match boundary, plan.authoredView.commit.authoredCommit with
    | none, _ => fail (.terminate
        "missed mixed Down boundary is missing its authored identity")
    | some _, none => fail (.terminate
        "missed mixed Down boundary has no frozen authored commit")
    | some stamp, some authoredCommit => do
      update fun state =>
        { state with pendingUpRecovery := some ⟨stamp, downAdmission, authoredCommit⟩ }
      pure .noWork
  else
    dispatchAuthoredPacket config plan nowTicks immediate downAdmission boundaryCrossingQpc

/-- Dispatch the Ups of a pending recovery. -/
def dispatchPendingRecovery (config : WorkerConfig) (plan : PhysicalDispatchPlan)
    (pending : PendingUpRecovery) (nowTicks : ℕ) (immediate : Bool)
    (boundaryCrossingQpc : Option ℕ) : WorkerM DispatchStep DispatchStep := do
  let step ← merge (dispatchAuthoredPacket config plan nowTicks immediate pending.admission
    boundaryCrossingQpc)
  onlyIf (step = .dispatched) (update fun state => { state with pendingUpRecovery := none })
  pure step

/-- Dispatch a planned packet whose target is due: past its window and with its identity. -/
def dispatchDuePacket (config : WorkerConfig) (plan : PhysicalDispatchPlan) (nowTicks : ℕ)
    (immediate : Bool) (boundaryCrossingQpc : Option ℕ) : WorkerM DispatchStep DispatchStep := do
  validateFrozenCommit (fun error =>
    s!"authored cancellation identity validation failed before SendInput: {error}")
    plan.authoredView.commit
  let window ← mapError DispatchStep.terminate
    (physicalTimingWindowForDispatch plan.physicalTargetQpc plan.authoredView.packetMasks)
  match (← current).pendingUpRecovery with
  | some pending => do
    checkPendingRecovery pending
      (physicalBoundaryStamp plan.authoredView plan.physicalTargetQpc)
    if nowTicks < window.musicalUpNotBeforeQpc then pure .noWork
    else dispatchPendingRecovery config plan pending nowTicks immediate boundaryCrossingQpc
  | none =>
    if nowTicks < window.packetNotBeforeQpc then pure .noWork
    else dispatchFreshPacket config plan window nowTicks immediate boundaryCrossingQpc

/-- Whether a suspension blocks a planned Down before its target is looked at. -/
def plannedDownBlocked (plan : PhysicalDispatchPlan) : WorkerM ε Bool :=
  if plan.authoredView.packetMasks.downMask ≠ 0#16 then load .downBlocked .dispatchDue
  else pure false

/-- Dispatch a planned packet when it is due. -/
def dispatchPhysicalPlan (config : WorkerConfig) (plan : PhysicalDispatchPlan) (nowTicks : ℕ)
    (immediate : Bool) (boundaryCrossingQpc : Option ℕ) : WorkerM DispatchStep DispatchStep := do
  if ← plannedDownBlocked plan then pure .noWork
  else if immediate ∧ nowTicks < plan.physicalTargetQpc then do
    update (observeFutureDownBoundary plan)
    pure .noWork
  else
    dispatchDuePacket config plan nowTicks immediate
      (boundaryCrossingQpc.or (if plan.physicalTargetQpc ≤ nowTicks then some nowTicks else none))

/-- Dispatch the work of a plan at a sample: at once, or after its wait. -/
def dispatchDueFromPlan (config : WorkerConfig) (plan : NextDispatchPlan) (nowTicks : ℕ)
    (immediate : Bool) (boundaryCrossingQpc : Option ℕ) : WorkerM DispatchStep DispatchStep := do
  match plan with
  | .noWork => pure .noWork
  | .metadata _ physicalTargetQpc =>
    if nowTicks < physicalTargetQpc then pure .noWork
    else do
      let committed ← ask (I := workerInterface) .commitMetadata
      orTerminate (fun error => s!"coordinator authored metadata commit failure: {error}")
        committed
      pure .dispatched
  | .physical plan => dispatchPhysicalPlan config plan nowTicks immediate boundaryCrossingQpc

end Planned

/-- Wait for a target, unless it is already reached. -/
def waitForNextBoundary (physicalTargetQpc : Option ℕ) : WorkerM LoopEnd WaitBoundary := do
  match physicalTargetQpc with
  | none => fail (.stop none)
  | some targetQpc => do
    match ← now .waitStart with
    | .error error =>
      fail (terminal s!"QPC failure before dispatch wait: {qpcErrorDebug error}")
    | .ok sample =>
      if targetQpc ≤ sample then pure (.due sample)
      else
        match ← ask (I := workerInterface) (.wait targetQpc) with
        | .deadline wakeQpc => pure (.due wakeQpc)
        | .interrupted => pure .replan
        | .failed message => fail (terminal message)

/-- Preflight a Down against a stable target, or start the next iteration. -/
def preflightDown (describe : String → String) : WorkerM LoopEnd TargetStamp := do
  match ← loadTargetStamp .preflight with
  | none => retryPreflight
  | some targetStamp => do
    mapError (fun error => terminal (describe error)) (ensurePreflightForTarget targetStamp)
    if ← targetStampStillCurrent .preflight targetStamp then pure targetStamp else retryPreflight
where
  /-- Withdraw the worker's authority and start the next iteration. -/
  retryPreflight : WorkerM LoopEnd TargetStamp := do
    update fun state => state.forgetTarget.invalidateDownAuthorization
    fail .next

/-- Go on after a dispatch step that must not leave work behind. -/
def afterDispatchStep (noWork : WorkerM LoopEnd Unit) : DispatchStep → WorkerM LoopEnd Unit
  | .dispatched | .goOn => fail .next
  | .noWork => noWork
  | .terminate error => fail (terminal error)

section PreparedLoop

/-- Move the stream's cursor after a dispatched entry. -/
def advanceStream (stream : PreparedDispatchStream) : WorkerM String Unit := do
  let advanced ← ofExcept stream.advance
  update fun state => { state with preparedStream := some advanced }

/-- Commit a metadata entry of the stream. -/
def dispatchPreparedMetadata (stream : PreparedDispatchStream) :
    WorkerM DispatchStep DispatchStep := do
  let committed ← ask (I := workerInterface) .commitMetadata
  orTerminate (fun error => s!"prepared metadata commit failure: {error}") committed
  mapError DispatchStep.terminate (advanceStream stream)
  pure .dispatched

/-- Wait for a prepared entry, unless its window was open at the iteration's sample. -/
def waitPrepared (waitTargetQpc nowTicks : ℕ) : WorkerM LoopEnd ℕ := do
  if waitTargetQpc ≤ nowTicks then pure nowTicks
  else
    match ← waitForNextBoundary (some waitTargetQpc) with
    | .due dispatchQpc => pure dispatchQpc
    | .replan => fail .next

/-- The playback position at a boundary, whose failure is terminal. -/
def positionOrTerminal (describe : String → String) (sample : ℕ) (allowPreEpoch : Bool) :
    WorkerM LoopEnd Unit := do
  let _ ← mapError (fun error => terminal (describe (timeErrorText error)))
    (ofExcept ((← current).playback.getElapsedAllowPreEpoch sample allowPreEpoch))
  pure ()

/-- The step of a metadata entry or of a physical frame has no work left to wait for. -/
def preparedNoWork : WorkerM LoopEnd Unit :=
  fail (terminal "prepared frame did not complete its dispatch step")

/-- The preflight of a prepared frame, which a frame without Downs does not need. -/
def preflightPrepared (view : AuthoredBatchView) : WorkerM LoopEnd (Option TargetStamp) := do
  if view.packetMasks.downMask = 0#16 then pure none
  else do
    let stamp ← preflightDown (fun error =>
      s!"instrument key preflight failed before prepared wait; release the 15 instrument keys before playback: {error}")
    pure (some stamp)

/-- Validate the frozen commit of a prepared frame. -/
def validatePreparedCommit (commit : PhysicalCommit) : WorkerM LoopEnd Unit := do
  match commit.authoredCommit with
  | none => fail (terminal "prepared physical frame has no authored cancellation identity")
  | some authored => do
    let validated ← ask (I := workerInterface) (.validateFrozenCommit authored)
    mapError (fun error => terminal
        s!"prepared authored cancellation identity validation failed before SendInput: {error}")
      (ofExcept validated)

/-- Preflight, wait for and dispatch a prepared frame. -/
def dispatchPreparedPhysical (config : WorkerConfig) (stream : PreparedDispatchStream)
    (view : AuthoredBatchView) (targetQpc nowTicks : ℕ) : WorkerM LoopEnd Unit := do
  let preflightTarget ← preflightPrepared view
  let window ← mapError terminal (physicalTimingWindowForDispatch targetQpc view.packetMasks)
  let dispatchQpc ← waitPrepared window.packetNotBeforeQpc nowTicks
  positionOrTerminal (fun error => s!"playback clock failure at prepared boundary: {error}")
    dispatchQpc true
  validatePreparedCommit view.commit
  let step ← merge (dispatchPreparedNormalFrame config view preflightTarget targetQpc)
  onlyIf (step = .dispatched) (mapError terminal (advanceStream stream))
  afterDispatchStep preparedNoWork step

/-- Wait for and commit a metadata entry. -/
def commitPreparedMetadata (stream : PreparedDispatchStream) (targetQpc nowTicks : ℕ) :
    WorkerM LoopEnd Unit := do
  let dispatchQpc ← waitPrepared targetQpc nowTicks
  positionOrTerminal (fun error => s!"playback clock failure at prepared boundary: {error}")
    dispatchQpc true
  let step ← merge (dispatchPreparedMetadata stream)
  afterDispatchStep preparedNoWork step

/-- Dispatch the stream's current entry at its target. -/
def dispatchPreparedEntry (config : WorkerConfig) (stream : PreparedDispatchStream)
    (entry : PreparedDispatchEntry) (nowTicks : ℕ) : WorkerM LoopEnd Unit := do
  let targetQpc ← mapError
    (fun error => terminal s!"prepared frame target arithmetic failure: {timeErrorText error}")
    (ofExcept (checkedAddDuration (← current).playback.epoch entry.offsetTicks))
  match entry with
  | .physical _ view => dispatchPreparedPhysical config stream view targetQpc nowTicks
  | .metadata _ => commitPreparedMetadata stream targetQpc nowTicks

end PreparedLoop

section PlannedLoop

/-- Commit a stale packet, when there is one, and start the next iteration. -/
def drainStalePacket : WorkerM LoopEnd Unit := do
  let prepared ← ask (I := workerInterface) .prepareStalePacket
  let stale ← mapError
    (fun error => terminal s!"coordinator stale-packet preparation failure: {error}")
    (ofExcept prepared)
  onlyIf stale do
    let committed ← ask (I := workerInterface) .commitStalePacket
    mapError (fun error => terminal s!"coordinator stale-packet commit failure: {error}")
      (ofExcept committed)
    fail .next

/-- Attach a fresh target proof to a planned Down. -/
def preflightPreparedPlan : NextDispatchPlan → WorkerM LoopEnd NextDispatchPlan
  | .physical plan => do
    if plan.authoredView.packetMasks.downMask = 0#16 then pure (.physical plan)
    else do
      let stamp ← preflightDown (fun error =>
        s!"instrument key preflight failed before timed wait; release the 15 instrument keys before playback: {error}")
      pure (.physical { plan with targetProof := .verified stamp })
  | plan => pure plan

/-- When to wake for a plan that is not due. -/
def physicalWaitTargetForPlan : NextDispatchPlan → WorkerM String (Option ℕ)
  | .noWork => pure none
  | .metadata _ physicalTargetQpc => pure (some physicalTargetQpc)
  | .physical plan => do
    let window ← physicalTimingWindowForDispatch plan.physicalTargetQpc
      plan.authoredView.packetMasks
    match (← current).pendingUpRecovery with
    | none => pure (some window.packetNotBeforeQpc)
    | some pending =>
      if (physicalBoundaryStamp plan.authoredView plan.physicalTargetQpc).any
          pending.boundary.sameAuthoredBoundary then
        pure (some window.musicalUpNotBeforeQpc)
      else fail "pending Up recovery no longer matches its authored boundary"

/-- Dispatch a plan after its wait. -/
def dispatchWokenPlan (config : WorkerConfig) (plan : NextDispatchPlan) (dispatchQpc : ℕ) :
    WorkerM LoopEnd Unit := do
  onlyIf plan.deadlineTicks.isNone
    (fail (terminal "wait returned a result without a dispatch deadline"))
  positionOrTerminal (fun error => s!"playback clock failure after deadline wake: {error}")
    dispatchQpc true
  let step ← merge (dispatchDueFromPlan config plan dispatchQpc false (some dispatchQpc))
  afterDispatchStep (fail .next) step

/-- Wait for a plan that was not due, and dispatch it. -/
def awaitPlan (config : WorkerConfig) (plan : NextDispatchPlan) : WorkerM LoopEnd Unit := do
  let waitTarget ← mapError terminal (physicalWaitTargetForPlan plan)
  match ← waitForNextBoundary waitTarget with
  | .due dispatchQpc => dispatchWokenPlan config plan dispatchQpc
  | .replan =>
    if plan.deadlineTicks.isNone then
      fail (terminal "replan wait result without a dispatch deadline")
    else fail .next

/-- Plan the next work, dispatch it when it is due, and wait for it otherwise. -/
def dispatchPlanned (config : WorkerConfig) (nowTicks : ℕ) : WorkerM LoopEnd Unit := do
  drainStalePacket
  let playback := (← current).playback
  onlyIf (playback.epoch ≤ nowTicks)
    (positionOrTerminal (fun error => s!"playback clock failure: {error}") nowTicks false)
  let planned ← ask (I := workerInterface) .planNext
  let plan ← mapError (fun error => terminal s!"planning failure: {error}") (ofExcept planned)
  let plan ← preflightPreparedPlan plan
  let step ← merge (dispatchDueFromPlan config plan nowTicks true none)
  afterDispatchStep (awaitPlan config plan) step

end PlannedLoop

/-- Whether an exhausted stream leaves the coordinator unfinished. -/
def preparedStreamRequiresTerminal (stream : Option PreparedDispatchStream)
    (coordinatorFinished : Bool) : Bool :=
  stream.any PreparedDispatchStream.isExhausted && !coordinatorFinished

/-- Dispatch on the path that the session was prepared for. -/
def dispatchSection (config : WorkerConfig) (nowTicks : ℕ) : WorkerM LoopEnd Unit := do
  let stream := (← current).preparedStream
  match stream, stream.bind PreparedDispatchStream.current with
  | some stream, some entry => dispatchPreparedEntry config stream entry nowTicks
  | stream, _ => do
    let finished ← ask (I := workerInterface) .coordinatorFinished
    onlyIf (preparedStreamRequiresTerminal stream finished)
      (fail (terminal
        "prepared stream exhausted before coordinator finished; dynamic planner fallback is forbidden"))
    dispatchPlanned config nowTicks

/-- The iteration up to its control section: the sample, and whether playback stays paused. -/
def iterationControl (config : WorkerConfig) : WorkerM LoopEnd (ℕ × Bool) := do
  let finished ← ask (I := workerInterface) .coordinatorFinished
  onlyIf finished (fail (.stop none))
  processCommandControl
  let nowTicks ← qpcTicksOrTerminal .iterationTop
  let paused ← controlSection config nowTicks
  pure (nowTicks, paused)

/-- One iteration of the dispatch loop. -/
def iteration (config : WorkerConfig) : WorkerM LoopEnd Unit := do
  let (nowTicks, paused) ← iterationControl config
  if paused then waitPaused config nowTicks else dispatchSection config nowTicks

end SkyAutoPlayer.Player
