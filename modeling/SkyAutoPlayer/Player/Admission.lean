import SkyAutoPlayer.Player.Worker

/-!
# Stop signals, focus and the final gates

The dispatch loop looks at its stop signals once an iteration. Before a Down it passes the control
gate, the target gate with a fresh foreground proof, the control gate again, the modifier guard,
and a last suffix that repeats the target and owner reads, takes the one lease sample and ends
with the control gate.
-/

namespace SkyAutoPlayer.Player

open Foundation DispatchCore DispatchWin32
open Procedure (ask current update fail onlyIf zoom mapError merge)

/-- The name a clock failure prints as. -/
def qpcErrorDebug : QpcError → String
  | .frequencyUnavailable => "FrequencyUnavailable"
  | .counterUnavailable => "CounterUnavailable"
  | .deadlineOverflow => "DeadlineOverflow"
  | .conversionOverflow => "ConversionOverflow"

/-- The text of a time error. -/
def timeErrorText : TimeArithmeticError → String
  | .overflow => "timestamp arithmetic overflow"
  | .underflow => "timestamp arithmetic underflow"
  | .negativeOrder => "timestamps are not in monotonic order"

/-- The outcome of one dispatch step. -/
inductive DispatchStep where
  | noWork
  | dispatched
  | goOn
  | terminate (error : String)
  deriving DecidableEq, Repr

/-- Why the owner gate rejects a Down. -/
inductive OwnerAdmissionFailure where
  | mismatch
  | queryUnavailable
  | identityAbsent
  | identityStale
  | processTerminated
  | identityDrift
  deriving DecidableEq, Repr

/-- The verdict of the final gates. -/
inductive FinalDownVerdict where
  | allowed
  | controlRejected
  | modifierHeld (mask : BitVec 8)
  | targetChanged
  | focusLost
  | ownerRejected (failure : OwnerAdmissionFailure)
  | leaseExpired
  | leaseUnproven
  deriving DecidableEq, Repr

/-- The verdict of the control gate. -/
inductive FinalControlAdmission where
  | allowed
  | panicRequested
  | quitRequested
  | skipRequested
  | pauseRequested
  | systemSuspendRequested
  deriving DecidableEq, Repr

/-- Why the loop ends: a terminal error, or a stop signal. -/
abbrev LoopEnd := LoopExit (Option String)

variable {ε : Type}

/-- Read a control cell. -/
def load (cell : ControlCell) (site : ReadSite) : WorkerM ε Bool :=
  ask (I := workerInterface) (.load cell site)

/-- Sample the QPC clock. -/
def now (site : ClockSite) : WorkerM ε (Except QpcError ℕ) :=
  ask (I := workerInterface) (.now site)

/-- Load the published target. -/
def loadTargetStamp (site : ReadSite) : WorkerM ε (Option TargetStamp) :=
  ask (I := workerInterface) (.loadStable site)

/-- Compare the published target with a stamp. -/
def targetStampStillCurrent (site : ReadSite) (expected : TargetStamp) : WorkerM ε Bool :=
  ask (I := workerInterface) (.isCurrent site expected)

/-- Read the owner identity of a generation. -/
def ownerIdentityStatus (site : ReadSite) (generation : ℕ) : WorkerM ε OwnerIdentityStatus :=
  ask (I := workerInterface) (.ownerIdentityStatus site generation)

/-- A terminal error ends the loop. -/
def terminal (error : String) : LoopEnd := .stop (some error)

/-- A sample whose failure is terminal. -/
def qpcTicksOrTerminal (site : ClockSite) : WorkerM LoopEnd ℕ := do
  match ← now site with
  | .ok ticks => pure ticks
  | .error error => fail (terminal s!"QPC runtime failure: {qpcErrorDebug error}")

/-- Publish the lifecycle metrics with a sample of their own. -/
def publishLifecycleMetrics : WorkerM LoopEnd Unit := do
  let _ ← qpcTicksOrTerminal .lifecycleMetrics
  pure ()

/-- Withdraw the authorization of a future Down. -/
def WorkerState.invalidateDownAuthorization (state : WorkerState) : WorkerState :=
  { state with downBoundaryState := .awaitingFuture }

/-- Forget the verified target. -/
def WorkerState.forgetTarget (state : WorkerState) : WorkerState :=
  { state with verifiedTarget := none }

/-- Invalidate the timing guard. -/
def WorkerState.invalidateGuard (state : WorkerState) : WorkerState :=
  { state with
    physicalTimingGuard := state.physicalTimingGuard.map PhysicalTimingGuard.invalidate }

/-- End the loop on a stop signal, whose first trigger is kept. -/
def exitOn (trigger : TerminalTrigger) : WorkerM LoopEnd Unit := do
  update fun state =>
    { state with terminalTrigger := some (state.terminalTrigger.getD trigger) }
  fail (.stop none)

/-- Whether quit or skip is requested. -/
def commandExitRequested : WorkerM ε Bool := do
  if ← load .quitRequested .commandControl then pure true
  else load .skipRequested .commandControl

/-- Whether a panic request was pending and is now consumed. -/
def consumePanicRequestIfPending : WorkerM ε Bool := do
  if ← load .panicRequested .commandControl then ask (I := workerInterface) .takePanic
  else pure false

/-- End the loop on a command. -/
def exitOnCommand : WorkerM LoopEnd Unit := do
  if ← load .skipRequested .commandControl then exitOn .skip else exitOn .quit

/-- End the loop on a consumed panic request. -/
def exitOnPanic : WorkerM LoopEnd Unit := do
  if ← load .supervisorExpired .commandControl then exitOn .supervisorLeaseExpired
  else exitOn .panicReleaseRequested

/-- Look at the stop signals. -/
def processCommandControl : WorkerM LoopEnd Unit := do
  onlyIf (← load .supervisorExpired .commandControl) (exitOn .supervisorLeaseExpired)
  onlyIf (← load .systemSuspendTerminal .commandControl) (exitOn .systemSuspend)
  onlyIf (← commandExitRequested) exitOnCommand
  onlyIf (← consumePanicRequestIfPending) exitOnPanic

/-- The published focus hint, when focus is required. -/
def focusMatches (config : WorkerConfig) (site : ReadSite) : WorkerM ε Bool :=
  if config.requireFocus then load .focusActive site else pure true

/-- The foreground window, read when a window is expected. -/
def foregroundMatches (site : ReadSite) (expectedHwnd : ℤ) : WorkerM ε Bool :=
  if expectedHwnd = 0 then pure true
  else ask (I := workerInterface) (.foregroundWindowMatches site expectedHwnd)

/-- The focus hint together with the foreground window. -/
def focusMatchesHwnd (config : WorkerConfig) (site : ReadSite) (expectedHwnd : ℤ) :
    WorkerM ε Bool := do
  if config.requireFocus then do
    let focusActive ← load .focusActive site
    let foreground ← foregroundMatches site expectedHwnd
    pure (focusActive && (expectedHwnd != 0 && foreground))
  else pure true

/-- The control gate: expiry, panic, suspension, quit, skip and pause, in this order. -/
def finalControlPrecheck (site : ReadSite) : WorkerM ε FinalControlAdmission := do
  if ← load .supervisorExpired site then pure .panicRequested
  else if ← load .panicRequested site then pure .panicRequested
  else if ← load .downBlocked site then pure .systemSuspendRequested
  else if ← load .quitRequested site then pure .quitRequested
  else if ← load .skipRequested site then pure .skipRequested
  else if ← load .desiredPause site then pure .pauseRequested
  else pure .allowed

/-- The control gate as a verdict. -/
def finalDownControlVerdict : WorkerM ε FinalDownVerdict := do
  if (← finalControlPrecheck .finalControl) = .allowed then pure .allowed
  else pure .controlRejected

/-- The bound owner, or why there is none to admit. -/
def admittedOwner : OwnerIdentityStatus → Except OwnerAdmissionFailure ℕ
  | .bound ownerPid => .ok ownerPid
  | .notRequired | .missing => .error .identityAbsent
  | .stale => .error .identityStale
  | .processTerminated => .error .processTerminated
  | .ownerMismatch => .error .mismatch
  | .queryUnavailable => .error .queryUnavailable
  | .windowUnavailable | .processIdentityMismatch => .error .identityDrift

/-- The owner read of the atomic suffix, where an owner without a process is absent. -/
def ownerRevalidation (site : ReadSite) (expected : TargetStamp) :
    WorkerM ε FinalDownVerdict := do
  match admittedOwner (← ownerIdentityStatus site expected.generation) with
  | .ok ownerPid =>
    if ownerPid = 0 then pure (.ownerRejected .identityAbsent) else pure .allowed
  | .error failure => pure (.ownerRejected failure)

/-- Read target, focus hint and owner again. -/
def finalDownAtomicRevalidation (config : WorkerConfig) (expected : TargetStamp) :
    WorkerM ε FinalDownVerdict := do
  if ← targetStampStillCurrent .revalidation expected then
    if ← focusMatches config .revalidation then
      if config.requireFocus then ownerRevalidation .revalidation expected else pure .allowed
    else pure .focusLost
  else pure .targetChanged

/-- Prove that the owner's window is in the foreground, then read everything again. -/
def foregroundOwnerProof (config : WorkerConfig) (expected : TargetStamp) (ownerPid : ℕ) :
    WorkerM ε FinalDownVerdict := do
  match ← ask (I := workerInterface) (.foregroundWindowOwnerMatches expected.hwnd ownerPid) with
  | .matches => finalDownAtomicRevalidation config expected
  | .notForeground => pure .focusLost
  | .ownerMismatch => pure (.ownerRejected .mismatch)
  | .ownerQueryUnavailable => pure (.ownerRejected .queryUnavailable)

/-- The owner gate in front of the foreground proof. -/
def ownerAdmission (config : WorkerConfig) (expected : TargetStamp) :
    WorkerM ε FinalDownVerdict := do
  if expected.hwnd = 0 then pure .focusLost
  else
    match admittedOwner (← ownerIdentityStatus .finalTarget expected.generation) with
    | .ok ownerPid => foregroundOwnerProof config expected ownerPid
    | .error failure => pure (.ownerRejected failure)

/-- The target gate. -/
def finalDownTargetAdmission (config : WorkerConfig) (expected : TargetStamp) :
    WorkerM ε FinalDownVerdict := do
  if ← targetStampStillCurrent .finalTarget expected then
    if ← focusMatches config .finalTarget then
      if config.requireFocus then ownerAdmission config expected
      else finalDownAtomicRevalidation config expected
    else pure .focusLost
  else pure .targetChanged

/-- The one lease sample of a Down; a disabled timeout reads neither clock nor lease. -/
def finalDownLeaseAgeProof (timeoutTicks : ℕ) : WorkerM QpcError SupervisorLeaseAdmission := do
  if timeoutTicks = 0 then pure .fresh
  else
    match ← now .leaseAge with
    | .ok sample => ask (I := workerInterface) (.proveDownAge sample timeoutTicks)
    | .error error => fail error

/-- The suffix after the modifier guard: target and owner, lease, control. -/
def finalDownPostModifierVerdict (config : WorkerConfig) (expected : TargetStamp) :
    WorkerM QpcError FinalDownVerdict := do
  let authority ← finalDownAtomicRevalidation config expected
  if authority = .allowed then
    match ← finalDownLeaseAgeProof config.leaseTimeoutTicks with
    | .fresh => finalDownControlVerdict
    | .expired => pure .leaseExpired
    | .unproven => pure .leaseUnproven
  else pure authority

/-- The modifier guard. -/
def finalDownModifierVerdict : WorkerM ε FinalDownVerdict := do
  match ← ask (I := workerInterface) .observeModifiers with
  | none => pure .allowed
  | some mask => pure (.modifierHeld mask)

/-- What a rejection does to the worker's authority. -/
def applyFinalDownRejection (verdict : FinalDownVerdict) (state : WorkerState) : WorkerState :=
  match verdict with
  | .controlRejected => state.forgetTarget
  | .targetChanged | .ownerRejected _ | .leaseExpired | .leaseUnproven =>
    state.forgetTarget.invalidateDownAuthorization
  | .allowed | .modifierHeld _ | .focusLost => state

/-- The text of an owner rejection, on the prepared and on the planned path. -/
def ownerRejectionReason (failure : OwnerAdmissionFailure) (preparedNormal : Bool) : String :=
  let path := if preparedNormal then "prepared" else "authored"
  match failure with
  | .mismatch => s!"{path}_down_owner_mismatch"
  | .queryUnavailable => s!"{path}_down_owner_query_unavailable"
  | .identityAbsent => s!"{path}_down_owner_identity_absent"
  | .identityStale => s!"{path}_down_owner_identity_stale"
  | .processTerminated => s!"{path}_down_owner_process_terminated"
  | .identityDrift => s!"{path}_down_owner_identity_drift"

/-- Run an operation of the playback clock. -/
def playbackClock {α : Type} (computation : ClockM α) : WorkerM TimeArithmeticError α :=
  zoom WorkerState.playback (fun state playback => { state with playback }) id computation

/-- Add a pause reason. -/
def enterPause (reason : PauseReason) (ticks : ℕ) : WorkerM TimeArithmeticError Unit := do
  let opened ← playbackClock (PlaybackClockState.enterPause reason ticks)
  onlyIf opened do
    ask (I := workerInterface) (.pauseOpened ticks (← current).playback)

/-- Remove a pause reason. -/
def exitPause (reason : PauseReason) (ticks : ℕ) : WorkerM TimeArithmeticError Unit := do
  let closed ← playbackClock (PlaybackClockState.exitPause reason ticks)
  onlyIf closed.isSome do
    ask (I := workerInterface) (.pauseClosed ticks (← current).playback)

/-- Publish the playback clock. -/
def publishProgress : WorkerM ε Unit := do
  ask (I := workerInterface) (.publishProgress (← current).playback)

/-- A failure of the playback clock as a terminal text. -/
def playbackClockFailure (error : TimeArithmeticError) : String :=
  s!"playback clock failure: {timeErrorText error}"

/-- Add the focus reason, and tell whether it was new. -/
def enterFocusPause (focusTicks : ℕ) : WorkerM String Bool := do
  update fun state =>
    { state.invalidateDownAuthorization.forgetTarget with focusRestoreStartedTicks := none }
  if (← current).playback.hasPauseReason .focus then pure false
  else do
    mapError playbackClockFailure (enterPause .focus focusTicks)
    publishProgress
    pure true

/-- Pause on a focus loss seen at the final gates, with a sample of its own. -/
def handleFinalFocusLoss : WorkerM DispatchStep Unit := do
  if (← current).musicalPhysicalCommitStarted then
    match ← now .finalFocusLoss with
    | .ok focusTicks => do
      let _ ← mapError DispatchStep.terminate (enterFocusPause focusTicks)
      pure ()
    | .error error => fail (.terminate s!"QPC failure: {qpcErrorDebug error}")
  else fail (.terminate "focus_lost_during_preroll")

/-- Check that the instrument keys are up under a target that is not yet verified. -/
def ensurePreflightForTarget (stamp : TargetStamp) : WorkerM String Unit := do
  if (← current).verifiedTarget = some stamp then pure ()
  else do
    update WorkerState.forgetTarget
    match ← ask (I := workerInterface) (.instrumentKeysPhysicallyUp stamp.hwnd) with
    | .ok () => update fun state => { state with verifiedTarget := some stamp }
    | .error error => fail error

end SkyAutoPlayer.Player
