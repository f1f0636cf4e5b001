import SkyAutoPlayer.Player.DispatchSend

/-!
# The quiet parts of the worker

Most of the worker neither sends, nor pauses, nor suspends, and touches neither the playback clock
nor the timing guard nor the deferred suspension. Each such part is an instance, so that an
argument about the loop passes over it in one step.
-/

namespace SkyAutoPlayer.Player

open Foundation DispatchCore DispatchWin32
open Procedure

/-- Questions that neither send, nor pause, nor suspend. -/
def WorkerQuestion.Quiet : WorkerQuestion → Prop
  | .pauseOpened _ _ | .pauseClosed _ _ | .suspended | .send _ | .sendRecoveryUps _ => False
  | _ => True

/-- What pauses and suspensions change. -/
structure PauseCore where
  playback : PlaybackClockState
  physicalTimingGuard : Option PhysicalTimingGuard
  manualPauseSuspensionPending : Bool

/-- The part of the worker that pauses and suspensions change. -/
def WorkerState.pauseCore (state : WorkerState) : PauseCore :=
  ⟨state.playback, state.physicalTimingGuard, state.manualPauseSuspensionPending⟩

/-- A part of the worker that asks quiet questions only and keeps the pause core. -/
abbrev Quietly {ε α : Type} (procedure : WorkerM ε α) : Prop :=
  Within workerInterface WorkerQuestion.Quiet WorkerState.pauseCore procedure

variable {ε : Type}

/-- Rejections withdraw authority only. -/
theorem pauseCore_applyFinalDownRejection (verdict : FinalDownVerdict) (state : WorkerState) :
    (applyFinalDownRejection verdict state).pauseCore = state.pauseCore := by
  cases verdict <;> rfl

/-- Observing a future boundary authorizes it only. -/
theorem pauseCore_observeFutureDownBoundary (plan : PhysicalDispatchPlan) (state : WorkerState) :
    (observeFutureDownBoundary plan state).pauseCore = state.pauseCore := by
  unfold observeFutureDownBoundary
  split
  · rfl
  · split <;> rfl

section Reads

instance (cell : ControlCell) (site : ReadSite) : Quietly (load cell site : WorkerM ε Bool) :=
  within_ask trivial

instance (site : ClockSite) : Quietly (now site : WorkerM ε (Except QpcError ℕ)) :=
  within_ask trivial

instance (site : ReadSite) : Quietly (loadTargetStamp site : WorkerM ε (Option TargetStamp)) :=
  within_ask trivial

instance (site : ReadSite) (expected : TargetStamp) :
    Quietly (targetStampStillCurrent site expected : WorkerM ε Bool) :=
  within_ask trivial

instance (site : ReadSite) (generation : ℕ) :
    Quietly (ownerIdentityStatus site generation : WorkerM ε OwnerIdentityStatus) :=
  within_ask trivial

instance (site : ClockSite) : Quietly (qpcTicksOrTerminal site) :=
  Within.bind inferInstance fun sample => by cases sample <;> infer_instance

instance : Quietly publishLifecycleMetrics := by
  unfold publishLifecycleMetrics
  infer_instance

instance : Quietly (publishProgress : WorkerM ε Unit) :=
  Within.bind inferInstance fun _ => within_ask trivial

instance (config : WorkerConfig) (site : ReadSite) :
    Quietly (focusMatches config site : WorkerM ε Bool) := by
  unfold focusMatches
  infer_instance

instance (site : ReadSite) (expectedHwnd : ℤ) :
    Quietly (foregroundMatches site expectedHwnd : WorkerM ε Bool) := by
  have hask : Quietly (ask (I := workerInterface) (.foregroundWindowMatches site expectedHwnd) :
      WorkerM ε Bool) := within_ask trivial
  unfold foregroundMatches
  infer_instance

instance (config : WorkerConfig) (site : ReadSite) (expectedHwnd : ℤ) :
    Quietly (focusMatchesHwnd config site expectedHwnd : WorkerM ε Bool) := by
  unfold focusMatchesHwnd
  infer_instance

instance (config : WorkerConfig) (site : ReadSite) (hasDownEvents : Bool) :
    Quietly (outerFocusLost config site hasDownEvents : WorkerM ε Bool) := by
  unfold outerFocusLost
  infer_instance

instance (plan : PhysicalDispatchPlan) : Quietly (plannedDownBlocked plan : WorkerM ε Bool) := by
  unfold plannedDownBlocked
  infer_instance

instance (describe : String → String) (answer : Except String Unit) :
    Quietly (orTerminate describe answer) := by
  unfold orTerminate
  infer_instance

instance (describe : String → String) (sample : ℕ) (allowPreEpoch : Bool) :
    Quietly (positionOrTerminal describe sample allowPreEpoch) := by
  unfold positionOrTerminal
  infer_instance

instance (physicalTargetQpc : ℕ) (masks : PhysicalPacket) :
    Quietly (physicalTimingWindowForDispatch physicalTargetQpc masks) :=
  Within.bind inferInstance fun state => by split <;> infer_instance

instance (physicalTargetQpc : Option ℕ) : Quietly (waitForNextBoundary physicalTargetQpc) := by
  unfold waitForNextBoundary
  split
  · infer_instance
  · refine Within.bind inferInstance fun sample => ?_
    split
    · infer_instance
    · refine @within_ite _ _ _ _ _ _ _ _ _ _ _ inferInstance (Within.bind ?_ fun outcome => ?_)
      · exact within_ask trivial
      · split <;> infer_instance

end Reads

section StopSignals

instance (trigger : TerminalTrigger) : Quietly (exitOn trigger) :=
  Within.bind (within_update fun _ => rfl) fun _ => inferInstance

instance : Quietly (commandExitRequested : WorkerM ε Bool) := by
  unfold commandExitRequested
  infer_instance

instance : Quietly (consumePanicRequestIfPending : WorkerM ε Bool) := by
  have htake : Quietly (ask (I := workerInterface) .takePanic : WorkerM ε Bool) :=
    within_ask trivial
  unfold consumePanicRequestIfPending
  infer_instance

instance : Quietly exitOnCommand := by
  unfold exitOnCommand
  infer_instance

instance : Quietly exitOnPanic := by
  unfold exitOnPanic
  infer_instance

instance : Quietly processCommandControl := by
  unfold processCommandControl
  infer_instance

end StopSignals

section Gates

set_option synthInstance.maxSize 1000

instance (site : ReadSite) :
    Quietly (finalControlPrecheck site : WorkerM ε FinalControlAdmission) := by
  unfold finalControlPrecheck
  infer_instance

instance : Quietly (finalDownControlVerdict : WorkerM ε FinalDownVerdict) := by
  unfold finalDownControlVerdict
  infer_instance

instance (site : ReadSite) (expected : TargetStamp) :
    Quietly (ownerRevalidation site expected : WorkerM ε FinalDownVerdict) :=
  Within.bind inferInstance fun status => by split <;> infer_instance

instance (config : WorkerConfig) (expected : TargetStamp) :
    Quietly (finalDownAtomicRevalidation config expected : WorkerM ε FinalDownVerdict) := by
  unfold finalDownAtomicRevalidation
  infer_instance

instance (config : WorkerConfig) (expected : TargetStamp) (ownerPid : ℕ) :
    Quietly (foregroundOwnerProof config expected ownerPid : WorkerM ε FinalDownVerdict) :=
  Within.bind (within_ask trivial) fun owner => by split <;> infer_instance

instance (config : WorkerConfig) (expected : TargetStamp) :
    Quietly (ownerAdmission config expected : WorkerM ε FinalDownVerdict) := by
  have hstatus (status : OwnerIdentityStatus) :
      Quietly (match admittedOwner status with
        | .ok ownerPid => foregroundOwnerProof config expected ownerPid
        | .error failure => (pure (.ownerRejected failure) : WorkerM ε FinalDownVerdict)) := by
    split <;> infer_instance
  unfold ownerAdmission
  infer_instance

instance (config : WorkerConfig) (expected : TargetStamp) :
    Quietly (finalDownTargetAdmission config expected : WorkerM ε FinalDownVerdict) := by
  unfold finalDownTargetAdmission
  infer_instance

instance (timeoutTicks : ℕ) : Quietly (finalDownLeaseAgeProof timeoutTicks) := by
  unfold finalDownLeaseAgeProof
  split
  · infer_instance
  · refine Within.bind inferInstance fun sample => ?_
    split
    · exact within_ask trivial
    · infer_instance

instance (config : WorkerConfig) (expected : TargetStamp) :
    Quietly (finalDownPostModifierVerdict config expected) := by
  refine Within.bind inferInstance fun authority => ?_
  split
  · exact Within.bind inferInstance fun lease => by split <;> infer_instance
  · infer_instance

instance : Quietly (finalDownModifierVerdict : WorkerM ε FinalDownVerdict) :=
  Within.bind (within_ask trivial) fun held => by split <;> infer_instance

instance (gate next : WorkerM ε FinalDownVerdict) [Quietly gate] [Quietly next] :
    Quietly (whenAllowed gate next) := by
  unfold whenAllowed
  infer_instance

instance (config : WorkerConfig) (expected : TargetStamp) :
    Quietly (preparedDownGates config expected) := by
  unfold preparedDownGates
  infer_instance

instance (config : WorkerConfig) (packet : PhysicalPacket) (preflightTarget : Option TargetStamp) :
    Quietly (admitPreparedFrame config packet preflightTarget) := by
  unfold admitPreparedFrame
  cases preflightTarget <;> infer_instance

instance (config : WorkerConfig) (hasDownEvents : Bool) :
    Quietly (injectFocusLossFault config hasDownEvents) := by
  have hinject : Quietly (update fun state => { state with focusLossFaultInjected := true } :
      WorkerM DispatchStep Unit) := within_update fun _ => rfl
  unfold injectFocusLossFault
  infer_instance

instance (view : AuthoredBatchView) (preflightTarget : Option TargetStamp) :
    Quietly (admitGuarded view preflightTarget) := by
  have hforget : Quietly (update WorkerState.forgetTarget : WorkerM DispatchStep Unit) :=
    within_update fun _ => rfl
  unfold admitGuarded
  infer_instance

instance (view : AuthoredBatchView) (preflightTarget : Option TargetStamp) :
    Quietly (admitPlannedTarget view preflightTarget) := by
  have hforget : Quietly (update fun state => state.forgetTarget.invalidateDownAuthorization :
      WorkerM DispatchStep Unit) := within_update fun _ => rfl
  unfold admitPlannedTarget
  cases preflightTarget <;> infer_instance

instance (downAdmission : DownBoundaryAdmission) (boundaryCrossingQpc : Option ℕ) :
    Quietly (resolveTargetCrossingQpc downAdmission boundaryCrossingQpc) := by
  unfold resolveTargetCrossingQpc
  infer_instance

instance : Quietly finalPolicyBoundary :=
  Within.bind inferInstance fun sample => by split <;> infer_instance

instance (verdict : FinalDownVerdict) : Quietly (update (applyFinalDownRejection verdict) :
    WorkerM ε Unit) :=
  within_update (pauseCore_applyFinalDownRejection verdict)

instance (verdict : FinalDownVerdict) : Quietly (controlRejection verdict) := by
  unfold controlRejection
  infer_instance

end Gates

section Preflight

instance (stamp : TargetStamp) : Quietly (ensurePreflightForTarget stamp) := by
  unfold ensurePreflightForTarget
  refine Within.bind inferInstance fun state => ?_
  split
  · infer_instance
  · refine Within.bind (within_update fun _ => rfl) fun _ => ?_
    refine Within.bind (within_ask trivial) fun verified => ?_
    split
    · exact within_update fun _ => rfl
    · infer_instance

instance : Quietly preflightDown.retryPreflight :=
  Within.bind (within_update fun _ => rfl) fun _ => inferInstance

instance (describe : String → String) : Quietly (preflightDown describe) :=
  Within.bind inferInstance fun stamp => by split <;> infer_instance

instance (view : AuthoredBatchView) : Quietly (preflightPrepared view) := by
  unfold preflightPrepared
  infer_instance

instance (plan : NextDispatchPlan) : Quietly (preflightPreparedPlan plan) := by
  unfold preflightPreparedPlan
  split <;> infer_instance

instance (config : WorkerConfig) (preflightTarget : TargetStamp) :
    Quietly (restoreCheck config preflightTarget) := by
  unfold restoreCheck
  infer_instance

instance (config : WorkerConfig) (preflightTarget postRestoreTarget : TargetStamp) :
    Quietly (postRestoreCheck config preflightTarget postRestoreTarget) := by
  unfold postRestoreCheck
  infer_instance

instance (config : WorkerConfig) (preflightTarget : TargetStamp) :
    Quietly (manualResumeCheck config preflightTarget) := by
  unfold manualResumeCheck
  infer_instance

instance : Quietly abandonRestore :=
  Within.bind (within_update fun _ => rfl) fun _ => inferInstance

instance (config : WorkerConfig) (nowTicks : ℕ) : Quietly (waitPaused config nowTicks) := by
  unfold waitPaused
  refine Within.bind inferInstance fun pauseTarget => ?_
  exact Within.bind (within_ask trivial) fun outcome => by split <;> infer_instance

end Preflight

section Settlement

instance (physicalTargetQpc : ℕ) (started : Option ℕ) :
    Quietly (recordSendInputPreCallLateness physicalTargetQpc started) := by
  unfold recordSendInputPreCallLateness
  cases started <;> infer_instance

instance (view : AuthoredBatchView) : Quietly (finalizeDownSendOutcome view) := by
  have hsettle : Quietly (ask (I := workerInterface) (.settleSend view) :
      WorkerM DispatchStep (Except String Unit)) := within_ask trivial
  have hpublish : Quietly (ask (I := workerInterface) (.publishSend view) :
      WorkerM DispatchStep (Except String Unit)) := within_ask trivial
  have hstarted : Quietly (update fun state => { state with musicalPhysicalCommitStarted := true } :
      WorkerM DispatchStep Unit) := within_update fun _ => rfl
  unfold finalizeDownSendOutcome
  infer_instance

instance (describe : String → String) (commit : PhysicalCommit) :
    Quietly (validateFrozenCommit describe commit) := by
  unfold validateFrozenCommit
  split
  · infer_instance
  · exact Within.bind (within_ask trivial) fun _ => inferInstance

instance (commit : PhysicalCommit) : Quietly (validatePreparedCommit commit) := by
  unfold validatePreparedCommit
  split
  · infer_instance
  · exact Within.bind (within_ask trivial) fun _ => inferInstance

instance (view : AuthoredBatchView) (startedEffective : ℕ) :
    Quietly (commitMissedDownBoundary.settle view startedEffective) :=
  Within.bind (within_ask trivial) fun _ => inferInstance

instance (view : AuthoredBatchView) (startedQpc : ℕ) :
    Quietly (commitMissedDownBoundary view startedQpc) := by
  unfold commitMissedDownBoundary
  refine Within.bind inferInstance fun state => Within.bind inferInstance fun started => ?_
  split <;> infer_instance

instance (effectiveNowTicks : Except String ℕ) :
    Quietly (resolvePendingRecovery effectiveNowTicks) := by
  refine Within.bind inferInstance fun state => ?_
  split
  · infer_instance
  · refine @within_ite _ _ _ _ _ _ _ _ _ _ _ ?_ inferInstance
    refine Within.bind inferInstance fun effectiveNow => ?_
    exact Within.bind (within_ask trivial) fun _ => inferInstance

instance (stream : PreparedDispatchStream) : Quietly (advanceStream stream) :=
  Within.bind inferInstance fun _ => within_update fun _ => rfl

instance (stream : PreparedDispatchStream) : Quietly (dispatchPreparedMetadata stream) := by
  have hcommit : Quietly (ask (I := workerInterface) .commitMetadata :
      WorkerM DispatchStep (Except String Unit)) := within_ask trivial
  unfold dispatchPreparedMetadata
  infer_instance

end Settlement

section Schedule

instance (waitTargetQpc nowTicks : ℕ) : Quietly (waitPrepared waitTargetQpc nowTicks) := by
  unfold waitPrepared
  split
  · infer_instance
  · exact Within.bind inferInstance fun boundary => by split <;> infer_instance

instance : Quietly preparedNoWork := by
  unfold preparedNoWork
  infer_instance

instance (noWork : WorkerM LoopEnd Unit) [Quietly noWork] (step : DispatchStep) :
    Quietly (afterDispatchStep noWork step) := by
  cases step <;> unfold afterDispatchStep <;> infer_instance

instance (stream : PreparedDispatchStream) (targetQpc nowTicks : ℕ) :
    Quietly (commitPreparedMetadata stream targetQpc nowTicks) := by
  unfold commitPreparedMetadata
  infer_instance

instance : Quietly drainStalePacket := by
  have hprepare : Quietly (ask (I := workerInterface) .prepareStalePacket :
      WorkerM LoopEnd (Except String Bool)) := within_ask trivial
  have hcommit : Quietly (ask (I := workerInterface) .commitStalePacket :
      WorkerM LoopEnd (Except String Unit)) := within_ask trivial
  unfold drainStalePacket
  infer_instance

instance (plan : NextDispatchPlan) : Quietly (physicalWaitTargetForPlan plan) := by
  unfold physicalWaitTargetForPlan
  split
  · infer_instance
  · infer_instance
  · refine Within.bind inferInstance fun window => Within.bind inferInstance fun state => ?_
    split <;> infer_instance

instance (pending : PendingUpRecovery) (boundary : Option PhysicalBoundaryStamp) :
    Quietly (checkPendingRecovery pending boundary) := by
  unfold checkPendingRecovery
  infer_instance

instance (boundary : Option PhysicalBoundaryStamp) :
    Quietly (authorizeDownBoundary boundary : WorkerM ε DownBoundaryAdmission) := by
  have hwithdraw : Quietly (update WorkerState.invalidateDownAuthorization : WorkerM ε Unit) :=
    within_update fun _ => rfl
  unfold authorizeDownBoundary
  split <;> infer_instance

end Schedule

section Moves

variable {γ : Type} {monitor : Monitor workerInterface γ} {state : WorkerState} {ghost : γ}

/-- A sample is taken, or the loop stops. -/
theorem wp_qpcTicksOrTerminal {site : ClockSite} {success : ℕ → WorkerState → γ → Prop}
    {failure : LoopEnd → WorkerState → γ → Prop} (hasks : monitor.requires ghost (.now site))
    (hticks : ∀ ticks, monitor.admits ghost ⟨.now site, .ok ticks⟩ →
      success ticks state (monitor.record ghost ⟨.now site, .ok ticks⟩))
    (hfailure : ∀ error ghost, failure (terminal error) state ghost) :
    wp monitor (qpcTicksOrTerminal site) success failure state ghost := by
  refine wp_bind.mpr ⟨hasks, fun sample hadmits => ?_⟩
  cases sample with
  | ok ticks => exact hticks ticks hadmits
  | error error => exact hfailure _ _

/-- A guard operation runs on the guard, when there is one. -/
theorem wp_timingGuard {missing : String} {describe : PhysicalTimingGuardError → String}
    {computation : GuardM Unit} {success : Unit → WorkerState → γ → Prop}
    {failure : String → WorkerState → γ → Prop}
    (hrun : ∀ guard after, state.physicalTimingGuard = some guard →
      computation.run guard = .ok () after →
        success () { state with physicalTimingGuard := some after } ghost)
    (hfailure : ∀ error after, failure error after ghost) :
    wp monitor (timingGuard missing describe computation) success failure state ghost := by
  refine wp_bind.mpr (wp_current.mpr ?_)
  split
  · exact hfailure _ _
  · next guard hguard =>
    exact wp_zoom.mpr ⟨fun _ after hok => hrun guard after hguard hok, fun _ _ _ => hfailure _ _⟩

/-- The first reason opens an interval; another one is only added. -/
theorem wp_enterPause {reason : PauseReason} {ticks : ℕ}
    {success : Unit → WorkerState → γ → Prop}
    {failure : TimeArithmeticError → WorkerState → γ → Prop}
    (hfirst : state.playback.pauseReasons = ∅ →
      monitor.requires ghost (.pauseOpened ticks (state.playback.entered reason ticks)) ∧
        (monitor.admits ghost ⟨.pauseOpened ticks (state.playback.entered reason ticks), ()⟩ →
          success () { state with playback := state.playback.entered reason ticks }
            (monitor.record ghost
              ⟨.pauseOpened ticks (state.playback.entered reason ticks), ()⟩)))
    (hanother : state.playback.pauseReasons ≠ ∅ →
      success () { state with playback := state.playback.entered reason ticks } ghost) :
    wp monitor (enterPause reason ticks) success failure state ghost := by
  refine wp_bind.mpr (wp_zoom.mpr ⟨fun opened after hrun => ?_, fun error after hrun => ?_⟩)
  · by_cases hmem : reason ∈ state.playback.pauseReasons
    · rw [PlaybackClockState.enterPause_of_mem hmem] at hrun
      cases hrun
      have hne : state.playback.pauseReasons ≠ ∅ := Finset.ne_empty_of_mem hmem
      have hsame : state.playback.entered reason ticks = state.playback := by
        simp [PlaybackClockState.entered, hne, Finset.insert_eq_of_mem hmem]
      rw [hsame] at hanother
      exact hanother hne
    · rw [PlaybackClockState.enterPause_of_not_mem hmem] at hrun
      cases hrun
      refine wp_onlyIf.mpr ⟨fun hopened => ?_, fun hopened => hanother (by simpa using hopened)⟩
      obtain ⟨hasks, hsuccess⟩ := hfirst (by simpa using hopened)
      exact ⟨hasks, fun _ hadmits => hsuccess hadmits⟩
  · by_cases hmem : reason ∈ state.playback.pauseReasons
    · rw [PlaybackClockState.enterPause_of_mem hmem] at hrun
      cases hrun
    · rw [PlaybackClockState.enterPause_of_not_mem hmem] at hrun
      cases hrun

/-- The last reason closes the interval; another one is only removed. -/
theorem wp_exitPause {reason : PauseReason} {ticks : ℕ}
    {success : Unit → WorkerState → γ → Prop}
    {failure : TimeArithmeticError → WorkerState → γ → Prop}
    (hlast : ∀ started, state.playback.pauseReasons = {reason} →
      state.playback.pauseIntervalStarted = some started → started ≤ ticks →
        monitor.requires ghost (.pauseClosed ticks (state.playback.closed started ticks)) ∧
          (monitor.admits ghost ⟨.pauseClosed ticks (state.playback.closed started ticks), ()⟩ →
            success () { state with playback := state.playback.closed started ticks }
              (monitor.record ghost
                ⟨.pauseClosed ticks (state.playback.closed started ticks), ()⟩)))
    (hanother : state.playback.pauseReasons ≠ {reason} →
      success ()
        { state with
          playback :=
            { state.playback with
              pauseReasons := state.playback.pauseReasons.erase reason } } ghost)
    (hfailure : ∀ error after, failure error after ghost) :
    wp monitor (exitPause reason ticks) success failure state ghost := by
  refine wp_bind.mpr (wp_zoom.mpr ⟨fun closed after hrun => ?_, fun _ _ _ => hfailure _ _⟩)
  by_cases hreasons : state.playback.pauseReasons = {reason}
  · obtain ⟨started, hstarted, hle, rfl, rfl⟩ := PlaybackClockState.exitPause_last hreasons hrun
    obtain ⟨hasks, hsuccess⟩ := hlast started hreasons hstarted hle
    exact ⟨hasks, fun _ hadmits => hsuccess hadmits⟩
  · have hsuccess := hanother hreasons
    by_cases hmem : reason ∈ state.playback.pauseReasons
    · have hrest : state.playback.pauseReasons.erase reason ≠ ∅ := by
        intro hempty
        refine hreasons ?_
        rw [← Finset.insert_erase hmem, hempty]
        rfl
      rw [PlaybackClockState.exitPause_of_rest hmem hrest] at hrun
      cases hrun
      exact hsuccess
    · rw [PlaybackClockState.exitPause_of_not_mem hmem] at hrun
      cases hrun
      rw [Finset.erase_eq_of_notMem hmem] at hsuccess
      exact hsuccess

end Moves

end SkyAutoPlayer.Player
