import SkyAutoPlayer.Player.WorkerQuiet

/-!
# The flow of the dispatch section

An argument about the loop owes the dispatch section little: what it needs before a frame is
dispatched must survive quiet parts, preflights and waits, and the two routines that dispatch one
frame must restore what holds between iterations. The rest of the section is the same for every
such argument.
-/

namespace SkyAutoPlayer.Player

open Foundation DispatchCore DispatchWin32
open Procedure

/-- Whether the loop goes on after a step. -/
def DispatchStep.GoesOn : DispatchStep → Prop
  | .terminate _ => False
  | _ => True

/-- The preflighted target of a planned Down. -/
def PhysicalDispatchPlan.downTarget (plan : PhysicalDispatchPlan) : Option TargetStamp :=
  if plan.authoredView.packetMasks.downMask = 0#16 then none else plan.targetProof.verifiedTarget

/-- The preflighted target of a plan with Downs. -/
def NextDispatchPlan.downTarget (plan : NextDispatchPlan) : Option TargetStamp :=
  plan.physicalPlan.bind PhysicalDispatchPlan.downTarget

variable {γ : Type}

/-- What an iteration promises when it ends early: the loop goes on only as promised. -/
def IfNext (between : WorkerState → γ → Prop) (exit : LoopEnd) (after : WorkerState) (ghost : γ) :
    Prop :=
  exit = .next → between after ghost

/-- What a dispatch step promises: without work the frame is still ready, and the loop goes on
only as promised. -/
def Settles (ready between : WorkerState → γ → Prop) (step : DispatchStep) (after : WorkerState)
    (ghost : γ) : Prop :=
  (step = .noWork → ready after ghost) ∧ (step.GoesOn → between after ghost)

section Leaves

/-- What a property owes to be kept while one frame is dispatched: by quiet parts, focus losses,
sends and completions. A step that ends the loop owes nothing. -/
class DispatchLeaves (monitor : Monitor workerInterface γ) (holds : WorkerState → γ → Prop)
    (stops : DispatchStep → WorkerState → γ → Prop) : Prop where
  terminates : ∀ error after ghost, stops (.terminate error) after ghost
  quiet : ∀ {α : Type} {procedure : WorkerM DispatchStep α}, Quietly procedure →
    Keeps monitor holds stops procedure
  losesFocus : Keeps monitor holds stops handleFinalFocusLoss
  sends : ∀ packet, Keeps monitor holds stops (sendPacket packet : WorkerM DispatchStep _)
  recovers : ∀ packet, Keeps monitor holds stops
    (ask (I := workerInterface) (.sendRecoveryUps packet) : WorkerM DispatchStep _)
  observes : ∀ missing describe completedQpc upMask downMask, Keeps monitor holds stops
    (mapError DispatchStep.terminate (timingGuard missing describe
      (PhysicalTimingGuard.observeSuccessfulPacket completedQpc upMask downMask)))

variable {monitor : Monitor workerInterface γ} {holds : WorkerState → γ → Prop}
  {stops : DispatchStep → WorkerState → γ → Prop} [leaves : DispatchLeaves monitor holds stops]

include leaves

instance keeps_quiet {α : Type} {procedure : WorkerM DispatchStep α} [h : Quietly procedure] :
    Keeps monitor holds stops procedure :=
  leaves.quiet h

instance keeps_handleFinalFocusLoss : Keeps monitor holds stops handleFinalFocusLoss :=
  leaves.losesFocus

instance keeps_sendPacket (packet : PhysicalPacket) :
    Keeps monitor holds stops (sendPacket packet : WorkerM DispatchStep _) :=
  leaves.sends packet

/-- A step that ends the loop may break everything before. -/
theorem keeps_terminate {procedure : WorkerM DispatchStep Unit} {error : String}
    {α : Type} (h : ∀ state ghost, wp monitor procedure (fun _ _ _ => True) stops state ghost) :
    Keeps monitor holds stops (do
      procedure
      fail (.terminate error) : WorkerM DispatchStep α) := by
  refine ⟨fun state ghost _ => wp_bind.mpr (wp_mono (h state ghost) ?_ fun _ _ _ h => h)⟩
  exact fun _ after ghost _ => leaves.terminates _ _ _

omit leaves in
/-- Invalidating the guard is always possible. -/
theorem wp_invalidateAfterAttempt {attempts : ℕ} {failure : DispatchStep → WorkerState → γ → Prop}
    {state : WorkerState} {ghost : γ} :
    wp monitor (invalidateAfterAttempt attempts) (fun _ _ _ => True) failure state ghost :=
  wp_onlyIf.mpr ⟨fun _ => trivial, fun _ => trivial⟩

instance keeps_observeSuccessfulCompletion (completedQpc : ℕ) (packet : PhysicalPacket) :
    Keeps monitor holds stops (observeSuccessfulCompletion completedQpc packet) :=
  leaves.observes _ _ _ _ _

instance keeps_recordSettledResult (view : AuthoredBatchView) (outcome : SendTransactionOutcome) :
    Keeps monitor holds stops (recordSettledResult view outcome) := by
  unfold recordSettledResult
  split
  · split
    · exact keeps_terminate fun _ _ => trivial
    · infer_instance
  · exact keeps_terminate fun _ _ => wp_invalidateAfterAttempt

instance keeps_recordDownSendResult (view : AuthoredBatchView) (physicalTargetQpc : ℕ)
    (reply : SenderReply) :
    Keeps monitor holds stops (recordDownSendResult view physicalTargetQpc reply) := by
  refine Keeps.bind inferInstance fun _ => ?_
  split
  · exact keeps_terminate fun _ _ => wp_invalidateAfterAttempt
  · infer_instance

instance keeps_rejectPreparedFrame (verdict : FinalDownVerdict) :
    Keeps monitor holds stops (rejectPreparedFrame verdict) := by
  cases verdict <;> unfold rejectPreparedFrame <;> infer_instance

instance keeps_finishPreparedNormalPrecisionResult (view : AuthoredBatchView)
    (physicalTargetQpc : ℕ) (result : PreparedNormalPrecisionResult) :
    Keeps monitor holds stops
      (finishPreparedNormalPrecisionResult view physicalTargetQpc result) := by
  cases result <;> unfold finishPreparedNormalPrecisionResult <;> infer_instance

instance keeps_sendPreparedNormalPrecisionFrame (config : WorkerConfig) (view : AuthoredBatchView)
    (preflightTarget : Option TargetStamp) :
    Keeps monitor holds stops (sendPreparedNormalPrecisionFrame config view preflightTarget) := by
  unfold sendPreparedNormalPrecisionFrame
  infer_instance

/-- A prepared frame keeps the property. -/
instance keeps_dispatchPreparedNormalFrame (config : WorkerConfig) (view : AuthoredBatchView)
    (preflightTarget : Option TargetStamp) (physicalTargetQpc : ℕ) :
    Keeps monitor holds stops
      (dispatchPreparedNormalFrame config view preflightTarget physicalTargetQpc) := by
  unfold dispatchPreparedNormalFrame
  infer_instance

instance keeps_plannedGate (gate : WorkerM DispatchStep FinalDownVerdict)
    (reject : FinalDownVerdict → WorkerM DispatchStep AdmissionOutcome)
    (next : WorkerM DispatchStep AdmissionOutcome) [Quietly gate]
    [∀ verdict, Keeps monitor holds stops (reject verdict)] [Keeps monitor holds stops next] :
    Keeps monitor holds stops (plannedGate gate reject next) := by
  unfold plannedGate
  infer_instance

instance keeps_authoredTargetRejectionOutcome (verdict : FinalDownVerdict) :
    Keeps monitor holds stops (authoredTargetRejectionOutcome verdict) := by
  cases verdict <;> unfold authoredTargetRejectionOutcome <;> infer_instance

instance keeps_authoredModifierRejectionOutcome (verdict : FinalDownVerdict) :
    Keeps monitor holds stops (authoredModifierRejectionOutcome verdict) := by
  cases verdict <;> unfold authoredModifierRejectionOutcome <;> infer_instance

instance keeps_authoredPostModifierRejectionOutcome (verdict : FinalDownVerdict) :
    Keeps monitor holds stops (authoredPostModifierRejectionOutcome verdict) := by
  cases verdict <;> unfold authoredPostModifierRejectionOutcome <;> infer_instance

instance keeps_plannedDownGates (config : WorkerConfig) (expected : TargetStamp) :
    Keeps monitor holds stops (plannedDownGates config expected) := by
  unfold plannedDownGates
  infer_instance

instance keeps_plannedGates (config : WorkerConfig) (view : AuthoredBatchView)
    (preflightTarget : Option TargetStamp) :
    Keeps monitor holds stops (plannedGates config view preflightTarget) := by
  unfold plannedGates
  cases preflightTarget <;> infer_instance

instance keeps_finalizeAuthoredDownAdmission (config : WorkerConfig) (view : AuthoredBatchView)
    (downAdmission : DownBoundaryAdmission) (boundaryCrossingQpc : Option ℕ)
    (admission : AdmissionOutcome) :
    Keeps monitor holds stops
      (finalizeAuthoredDownAdmission config view downAdmission boundaryCrossingQpc admission) := by
  cases admission <;> unfold finalizeAuthoredDownAdmission <;> infer_instance

instance keeps_observeRecovery (upMask : BitVec 16) (completed : ℕ) :
    Keeps monitor holds stops (recoveryBoundaries.observeRecovery upMask completed) := by
  have hobserves := leaves.observes "" (fun error =>
    s!"physical timing guard recovery update failed: {guardErrorDebug error}") completed upMask 0#16
  unfold recoveryBoundaries.observeRecovery
  infer_instance

instance keeps_recoveryBoundaries (upMask : BitVec 16) (outcome : SendTransactionOutcome) :
    Keeps monitor holds stops (recoveryBoundaries upMask outcome) := by
  have hincomplete : Keeps monitor holds stops (do
      invalidateAfterAttempt outcome.evidence.attempts
      fail (.terminate "missed Down Up-prefix recovery transport failure") :
        WorkerM DispatchStep Unit) := keeps_terminate fun _ _ => wp_invalidateAfterAttempt
  refine Keeps.bind inferInstance fun _ => ?_
  split
  · infer_instance
  · exact keeps_terminate fun _ _ => trivial
  · infer_instance

instance keeps_sendRecoveryUps (view : AuthoredBatchView) :
    Keeps monitor holds stops (sendRecoveryUps view) := by
  refine Keeps.bind inferInstance fun packet => ?_
  refine Keeps.bind (leaves.recovers packet) fun reply => ?_
  have hfailed : Keeps monitor holds stops (do
      invalidateAfterAttempt reply.outcome.evidence.attempts
      fail (.terminate "QPC failure during missed Down Up recovery") :
        WorkerM DispatchStep Unit) := keeps_terminate fun _ _ => wp_invalidateAfterAttempt
  infer_instance

instance keeps_recoverMissedDownBoundary (config : WorkerConfig) (view : AuthoredBatchView)
    (observedQpc : ℕ) :
    Keeps monitor holds stops (recoverMissedDownBoundary config view observedQpc) := by
  unfold recoverMissedDownBoundary
  infer_instance

instance keeps_recordDownSendOutcome (view : AuthoredBatchView) (physicalTargetQpc : ℕ)
    (admission : AdmissionOutcome) :
    Keeps monitor holds stops (recordDownSendOutcome view physicalTargetQpc admission) := by
  cases admission <;> unfold recordDownSendOutcome <;> infer_instance

/-- A planned packet keeps the property when its first gate does, which may pause at the sample
that the dispatch was due at. -/
theorem keeps_dispatchAuthoredPacket {config : WorkerConfig} {plan : PhysicalDispatchPlan}
    {nowTicks : ℕ} {immediate : Bool}
    (hgate : Keeps monitor holds stops (admitAuthoredDown config plan.authoredView
      plan.targetProof.verifiedTarget nowTicks immediate))
    (downAdmission : DownBoundaryAdmission) (boundaryCrossingQpc : Option ℕ) :
    Keeps monitor holds stops
      (dispatchAuthoredPacket config plan nowTicks immediate downAdmission boundaryCrossingQpc) := by
  have hepoch : Quietly (update fun state =>
      { state with allowPreEpochStartupDispatch := nowTicks < state.playback.epoch } :
        WorkerM DispatchStep Unit) := within_update fun _ => rfl
  unfold dispatchAuthoredPacket
  infer_instance

end Leaves

/-- What an argument about the loop owes for its dispatch section. A frame is ready for a target
and a sample, which is the iteration's own until the worker waits. -/
structure DispatchArgument (config : WorkerConfig) (monitor : Monitor workerInterface γ)
    (ready : Option TargetStamp → ℕ → Bool → WorkerState → γ → Prop)
    (between : WorkerState → γ → Prop) : Prop where
  steady : ∀ target sample immediate,
    Steady monitor WorkerQuestion.Quiet WorkerState.pauseCore (ready target sample immediate)
  rested : Steady monitor WorkerQuestion.Quiet WorkerState.pauseCore between
  rests : ∀ {target sample immediate state ghost}, ready target sample immediate state ghost →
    between state ghost
  preflights : ∀ {describe target sample immediate state ghost},
    ready target sample immediate state ghost →
      wp monitor (preflightDown describe)
        (fun stamp => ready (some stamp) sample immediate) (IfNext between) state ghost
  samples : ∀ {target sample immediate state ghost later},
    ready target sample immediate state ghost →
      monitor.admits ghost ⟨.now .waitStart, .ok later⟩ →
        ready target later false state (monitor.record ghost ⟨.now .waitStart, .ok later⟩)
  wakes : ∀ {target sample immediate state ghost deadline wake},
    ready target sample immediate state ghost →
      monitor.admits ghost ⟨.wait deadline, .deadline wake⟩ →
        ready target wake false state (monitor.record ghost ⟨.wait deadline, .deadline wake⟩)
  prepares : ∀ {view target sample immediate state ghost targetQpc},
    ready target sample immediate state ghost →
      wp monitor (dispatchPreparedNormalFrame config view target targetQpc)
        (fun step after ghost => step.GoesOn → between after ghost)
        (fun step after ghost => step.GoesOn → between after ghost) state ghost
  authors : ∀ {plan sample immediate admission crossing state ghost},
    ready plan.downTarget sample immediate state ghost →
      wp monitor (dispatchAuthoredPacket config plan sample immediate admission crossing)
        (Settles (ready plan.downTarget sample immediate) between)
        (Settles (ready plan.downTarget sample immediate) between) state ghost

namespace DispatchArgument

variable {config : WorkerConfig} {monitor : Monitor workerInterface γ}
  {ready : Option TargetStamp → ℕ → Bool → WorkerState → γ → Prop}
  {between : WorkerState → γ → Prop} {target : Option TargetStamp} {sample : ℕ} {immediate : Bool}
  {state : WorkerState} {ghost : γ}
  (argument : DispatchArgument config monitor ready between)

include argument

/-- A ready frame settles with every step. -/
theorem settles (step : DispatchStep) (after : WorkerState) (ghost : γ)
    (h : ready target sample immediate after ghost) :
    Settles (ready target sample immediate) between step after ghost :=
  ⟨fun _ => h, fun _ => argument.rests h⟩

/-- A ready frame may be left to the next iteration. -/
theorem ifNext (exit : LoopEnd) (after : WorkerState) (ghost : γ)
    (h : ready target sample immediate after ghost) : IfNext between exit after ghost :=
  fun _ => argument.rests h

/-- The wait keeps the frame ready for the sample it ends with. -/
theorem wp_waitForNextBoundary {physicalTargetQpc : Option ℕ}
    (h : ready target sample immediate state ghost) :
    wp monitor (waitForNextBoundary physicalTargetQpc)
      (fun boundary after ghost => (∀ dispatchQpc, boundary = .due dispatchQpc →
          ready target dispatchQpc false after ghost) ∧ between after ghost)
      (IfNext between) state ghost := by
  have hquiet := argument.steady target sample immediate
  unfold waitForNextBoundary
  split
  · exact fun _ => argument.rests h
  · refine wp_bind.mpr ⟨hquiet.asks _ _ trivial, fun answer hadmits => ?_⟩
    cases answer with
    | error error => exact nofun
    | ok later =>
      have hsampled := argument.samples h hadmits
      refine wp_ite.mpr ⟨fun _ => ⟨?_, argument.rests hsampled⟩, fun _ => ?_⟩
      · rintro _ ⟨⟩
        exact hsampled
      · refine wp_bind.mpr ⟨hquiet.asks _ _ trivial, fun outcome hadmits => ?_⟩
        cases outcome with
        | deadline wake =>
          have hwoken := argument.wakes hsampled hadmits
          refine ⟨?_, argument.rests hwoken⟩
          rintro _ ⟨⟩
          exact hwoken
        | interrupted =>
          have hquiet := argument.steady target later false
          exact ⟨nofun, argument.rests (hquiet.hears _ _ _ trivial hadmits hsampled)⟩
        | failed message => exact nofun

omit argument in
/-- After a step the loop goes on as promised. -/
theorem wp_afterDispatchStep {noWork : WorkerM LoopEnd Unit} {step : DispatchStep}
    (hnoWork : step = .noWork →
      wp monitor noWork (fun _ => between) (IfNext between) state ghost)
    (hgoesOn : step.GoesOn → between state ghost) :
    wp monitor (afterDispatchStep noWork step) (fun _ => between) (IfNext between) state ghost := by
  cases step with
  | noWork => exact hnoWork rfl
  | dispatched => exact fun _ => hgoesOn trivial
  | goOn => exact fun _ => hgoesOn trivial
  | terminate error => exact nofun

/-- A packet without a pending recovery is dispatched, or its Ups wait. -/
theorem wp_dispatchFreshPacket {plan : PhysicalDispatchPlan} {window : PhysicalTimingWindow}
    {crossing : Option ℕ} (h : ready plan.downTarget sample immediate state ghost) :
    wp monitor (dispatchFreshPacket config plan window sample immediate crossing)
      (Settles (ready plan.downTarget sample immediate) between)
      (Settles (ready plan.downTarget sample immediate) between) state ghost := by
  have hquiet := argument.steady plan.downTarget sample immediate
  unfold dispatchFreshPacket
  refine hquiet.wp_bind h argument.settles fun admission after ghost h => ?_
  split
  · split
    · exact argument.settles _ _ _ h
    · exact argument.settles _ _ _ h
    · exact argument.settles _ _ _ (hquiet.keeps after _ _ rfl h)
  · exact argument.authors h

/-- The Ups of a pending recovery are dispatched. -/
theorem wp_dispatchPendingRecovery {plan : PhysicalDispatchPlan} {pending : PendingUpRecovery}
    {crossing : Option ℕ} (h : ready plan.downTarget sample immediate state ghost) :
    wp monitor (dispatchPendingRecovery config plan pending sample immediate crossing)
      (Settles (ready plan.downTarget sample immediate) between)
      (Settles (ready plan.downTarget sample immediate) between) state ghost := by
  unfold dispatchPendingRecovery
  refine wp_bind.mpr (wp_mono (wp_merge.mpr (argument.authors h)) ?_ fun _ _ _ h => h)
  intro step after ghost hstep
  cases step with
  | dispatched => exact ⟨nofun, fun _ => argument.rested.keeps after _ _ rfl (hstep.2 trivial)⟩
  | noWork => exact hstep
  | goOn => exact hstep
  | terminate error => exact hstep

/-- A packet whose target is due is dispatched, or its window is still closed. -/
theorem wp_dispatchDuePacket {plan : PhysicalDispatchPlan} {crossing : Option ℕ}
    (h : ready plan.downTarget sample immediate state ghost) :
    wp monitor (dispatchDuePacket config plan sample immediate crossing)
      (Settles (ready plan.downTarget sample immediate) between)
      (Settles (ready plan.downTarget sample immediate) between) state ghost := by
  have hquiet := argument.steady plan.downTarget sample immediate
  unfold dispatchDuePacket
  refine hquiet.wp_bind h argument.settles fun _ after ghost h => ?_
  refine hquiet.wp_bind h argument.settles fun window after ghost h => ?_
  refine hquiet.wp_bind h argument.settles fun state after ghost h => ?_
  cases state.pendingUpRecovery with
  | none =>
    exact wp_ite.mpr
      ⟨fun _ => argument.settles _ _ _ h, fun _ => argument.wp_dispatchFreshPacket h⟩
  | some pending =>
    refine hquiet.wp_bind h argument.settles fun _ after ghost h => ?_
    exact wp_ite.mpr
      ⟨fun _ => argument.settles _ _ _ h, fun _ => argument.wp_dispatchPendingRecovery h⟩

/-- A planned packet is dispatched when it is due. -/
theorem wp_dispatchPhysicalPlan {plan : PhysicalDispatchPlan} {crossing : Option ℕ}
    (h : ready plan.downTarget sample immediate state ghost) :
    wp monitor (dispatchPhysicalPlan config plan sample immediate crossing)
      (Settles (ready plan.downTarget sample immediate) between)
      (Settles (ready plan.downTarget sample immediate) between) state ghost := by
  have hquiet := argument.steady plan.downTarget sample immediate
  unfold dispatchPhysicalPlan
  refine hquiet.wp_bind h argument.settles fun blocked after ghost h => ?_
  refine wp_ite.mpr ⟨fun _ => argument.settles _ _ _ h, fun _ => ?_⟩
  refine wp_ite.mpr ⟨fun _ => ?_, fun _ => ?_⟩
  · exact argument.settles _ _ _
      (hquiet.keeps _ _ _ (pauseCore_observeFutureDownBoundary plan after) h)
  · exact argument.wp_dispatchDuePacket h

/-- The work of a plan is dispatched when it is due. -/
theorem wp_dispatchDueFromPlan {plan : NextDispatchPlan} {crossing : Option ℕ}
    (h : ready plan.downTarget sample immediate state ghost) :
    wp monitor (dispatchDueFromPlan config plan sample immediate crossing)
      (Settles (ready plan.downTarget sample immediate) between)
      (Settles (ready plan.downTarget sample immediate) between) state ghost := by
  have hquiet := argument.steady plan.downTarget sample immediate
  cases plan with
  | noWork => exact argument.settles _ _ _ h
  | metadata deadlineTicks physicalTargetQpc =>
    refine wp_ite.mpr ⟨fun _ => argument.settles _ _ _ h, fun _ => ?_⟩
    have hcommit : Quietly (ask (I := workerInterface) .commitMetadata :
        WorkerM DispatchStep (Except String Unit)) := within_ask trivial
    refine hquiet.wp_bind h argument.settles fun committed after ghost h => ?_
    exact hquiet.wp_bind h argument.settles fun _ after ghost h => argument.settles _ _ _ h
  | physical plan => exact argument.wp_dispatchPhysicalPlan h

/-- A plan is dispatched after its wait. -/
theorem wp_dispatchWokenPlan {plan : NextDispatchPlan} {dispatchQpc : ℕ}
    (h : ready plan.downTarget dispatchQpc false state ghost) :
    wp monitor (dispatchWokenPlan config plan dispatchQpc) (fun _ => between) (IfNext between)
      state ghost := by
  have hquiet := argument.steady plan.downTarget dispatchQpc false
  unfold dispatchWokenPlan
  refine hquiet.wp_bind h argument.ifNext fun _ after ghost h => ?_
  refine hquiet.wp_bind h argument.ifNext fun _ after ghost h => ?_
  refine wp_bind.mpr (wp_merge.mpr (wp_mono (argument.wp_dispatchDueFromPlan h) ?_ ?_))
  · intro step after ghost hstep
    exact wp_afterDispatchStep (fun hnoWork _ => argument.rests (hstep.1 hnoWork)) hstep.2
  · intro step after ghost hstep
    exact wp_afterDispatchStep (fun hnoWork _ => argument.rests (hstep.1 hnoWork)) hstep.2

/-- A plan that was not due is dispatched after its wait. -/
theorem wp_awaitPlan {plan : NextDispatchPlan}
    (h : ready plan.downTarget sample immediate state ghost) :
    wp monitor (awaitPlan config plan) (fun _ => between) (IfNext between) state ghost := by
  have hquiet := argument.steady plan.downTarget sample immediate
  unfold awaitPlan
  refine hquiet.wp_bind h argument.ifNext fun waitTarget after ghost h => ?_
  refine wp_bind.mpr (wp_mono (argument.wp_waitForNextBoundary h) ?_ fun _ _ _ h => h)
  rintro boundary after ghost ⟨hdue, hrests⟩
  cases boundary with
  | due dispatchQpc => exact argument.wp_dispatchWokenPlan (hdue dispatchQpc rfl)
  | replan => exact wp_ite.mpr ⟨fun _ => nofun, fun _ _ => hrests⟩

/-- A planned Down is preflighted. -/
theorem wp_preflightPreparedPlan {plan : NextDispatchPlan}
    (h : ready none sample immediate state ghost) :
    wp monitor (preflightPreparedPlan plan)
      (fun plan => ready plan.downTarget sample immediate) (IfNext between) state ghost := by
  cases plan with
  | noWork => exact h
  | metadata deadlineTicks physicalTargetQpc => exact h
  | physical plan =>
    refine wp_ite.mpr ⟨fun hup => ?_, fun hdown => ?_⟩
    · have htarget : (NextDispatchPlan.physical plan).downTarget = none := if_pos hup
      simpa only [wp_pure, htarget] using h
    · refine wp_bind.mpr (wp_mono (argument.preflights h) (fun stamp after ghost h => ?_)
        fun _ _ _ h => h)
      have htarget : (NextDispatchPlan.physical
          { plan with targetProof := .verified stamp }).downTarget = some stamp := if_neg hdown
      simpa only [wp_pure, htarget] using h

/-- The planner's next work is dispatched. -/
theorem wp_dispatchPlanned (h : ready none sample true state ghost) :
    wp monitor (dispatchPlanned config sample) (fun _ => between) (IfNext between) state
      ghost := by
  have hquiet := argument.steady none sample true
  have hplan : Quietly (ask (I := workerInterface) .planNext :
      WorkerM LoopEnd (Except String NextDispatchPlan)) := within_ask trivial
  unfold dispatchPlanned
  refine hquiet.wp_bind h argument.ifNext fun _ after ghost h => ?_
  refine hquiet.wp_bind h argument.ifNext fun state after ghost h => ?_
  refine hquiet.wp_bind h argument.ifNext fun _ after ghost h => ?_
  refine hquiet.wp_bind h argument.ifNext fun planned after ghost h => ?_
  refine hquiet.wp_bind h argument.ifNext fun plan after ghost h => ?_
  refine wp_bind.mpr (wp_mono (argument.wp_preflightPreparedPlan h) ?_ fun _ _ _ h => h)
  intro plan after ghost h
  refine wp_bind.mpr (wp_merge.mpr (wp_mono (argument.wp_dispatchDueFromPlan h) ?_ ?_))
  · intro step after ghost hstep
    exact wp_afterDispatchStep (fun hnoWork => argument.wp_awaitPlan (hstep.1 hnoWork)) hstep.2
  · intro step after ghost hstep
    exact wp_afterDispatchStep (fun hnoWork => argument.wp_awaitPlan (hstep.1 hnoWork)) hstep.2

/-- A prepared frame's preflight is its target. -/
theorem wp_preflightPrepared {view : AuthoredBatchView}
    (h : ready none sample immediate state ghost) :
    wp monitor (preflightPrepared view) (fun target => ready target sample immediate)
      (IfNext between) state ghost := by
  refine wp_ite.mpr ⟨fun _ => h, fun _ => ?_⟩
  exact wp_bind.mpr (wp_mono (argument.preflights h) (fun _ _ _ h => h) fun _ _ _ h => h)

/-- A prepared frame waits until its window opens. -/
theorem wp_waitPrepared {waitTargetQpc nowTicks : ℕ}
    (h : ready target sample immediate state ghost) :
    wp monitor (waitPrepared waitTargetQpc nowTicks)
      (fun _ after ghost => ∃ sample immediate, ready target sample immediate after ghost)
      (IfNext between) state ghost := by
  refine wp_ite.mpr ⟨fun _ => ⟨_, _, h⟩, fun _ => ?_⟩
  refine wp_bind.mpr (wp_mono (argument.wp_waitForNextBoundary h) ?_ fun _ _ _ h => h)
  rintro boundary after ghost ⟨hdue, hrests⟩
  cases boundary with
  | due dispatchQpc => exact ⟨_, _, hdue dispatchQpc rfl⟩
  | replan => exact fun _ => hrests

/-- The cursor moves after a dispatched entry only. -/
theorem wp_advanceStream {stream : PreparedDispatchStream} {step : DispatchStep}
    (h : step.GoesOn → between state ghost) :
    wp monitor (do
        onlyIf (step = .dispatched) (mapError terminal (advanceStream stream))
        afterDispatchStep preparedNoWork step)
      (fun _ => between) (IfNext between) state ghost := by
  refine wp_bind.mpr (wp_onlyIf.mpr ⟨fun hdispatched => ?_, fun _ => ?_⟩)
  · have hstep : step = .dispatched := by simpa using hdispatched
    refine argument.rested.wp (h (by rw [hstep]; trivial)) ?_ fun _ _ _ h _ => h
    exact fun _ after ghost h => wp_afterDispatchStep (fun _ => nofun) fun _ => h
  · exact wp_afterDispatchStep (fun _ => nofun) h

/-- A prepared frame is preflighted, awaited and dispatched. -/
theorem wp_dispatchPreparedPhysical {stream : PreparedDispatchStream} {view : AuthoredBatchView}
    {targetQpc nowTicks : ℕ} (h : ready none sample immediate state ghost) :
    wp monitor (dispatchPreparedPhysical config stream view targetQpc nowTicks)
      (fun _ => between) (IfNext between) state ghost := by
  unfold dispatchPreparedPhysical
  refine wp_bind.mpr (wp_mono (argument.wp_preflightPrepared h) ?_ fun _ _ _ h => h)
  intro preflightTarget after ghost h
  refine (argument.steady _ _ _).wp_bind h argument.ifNext fun window after ghost h => ?_
  refine wp_bind.mpr (wp_mono (argument.wp_waitPrepared h) ?_ fun _ _ _ h => h)
  rintro dispatchQpc after ghost ⟨sample, immediate, h⟩
  refine (argument.steady _ _ _).wp_bind h argument.ifNext fun _ after ghost h => ?_
  refine (argument.steady _ _ _).wp_bind h argument.ifNext fun _ after ghost h => ?_
  exact wp_bind.mpr (wp_merge.mpr (wp_mono (argument.prepares h)
    (fun step after ghost hstep => argument.wp_advanceStream hstep)
    fun step after ghost hstep => argument.wp_advanceStream hstep))

/-- The stream's current entry is dispatched. -/
theorem wp_dispatchPreparedEntry {stream : PreparedDispatchStream} {entry : PreparedDispatchEntry}
    {nowTicks : ℕ} (h : ready none sample immediate state ghost) :
    wp monitor (dispatchPreparedEntry config stream entry nowTicks) (fun _ => between)
      (IfNext between) state ghost := by
  have hquiet := argument.steady none sample immediate
  unfold dispatchPreparedEntry
  refine hquiet.wp_bind h argument.ifNext fun state after ghost h => ?_
  refine hquiet.wp_bind h argument.ifNext fun targetQpc after ghost h => ?_
  cases entry with
  | physical offsetTicks view => exact argument.wp_dispatchPreparedPhysical h
  | metadata offsetTicks => exact hquiet.wp h (fun _ _ _ h => argument.rests h) argument.ifNext

/-- The dispatch section restores what holds between iterations. -/
theorem wp_dispatchSection (h : ready none sample true state ghost) :
    wp monitor (dispatchSection config sample) (fun _ => between) (IfNext between) state
      ghost := by
  have hquiet := argument.steady none sample true
  have hfinished : Quietly (ask (I := workerInterface) .coordinatorFinished :
      WorkerM LoopEnd Bool) := within_ask trivial
  unfold dispatchSection
  refine hquiet.wp_bind h argument.ifNext fun state after ghost h => ?_
  dsimp only
  split
  · exact argument.wp_dispatchPreparedEntry h
  · refine hquiet.wp_bind h argument.ifNext fun finished after ghost h => ?_
    refine hquiet.wp_bind h argument.ifNext fun _ after ghost h => ?_
    exact argument.wp_dispatchPlanned h

end DispatchArgument

end SkyAutoPlayer.Player
