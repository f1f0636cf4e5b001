import SkyAutoPlayer.Player.Admission

/-!
# The control section of the dispatch loop

An iteration samples the clock, looks at the focus hint and the pause request, and then handles
focus and the manual pause. Playback pauses with the sample of the iteration; it resumes, after a
grace period and fresh target checks, with a sample taken at the end of the restoration. A
suspension releases the live keys and gives the timing guard a fresh Down barrier.
-/

namespace SkyAutoPlayer.Player

open Foundation DispatchCore DispatchWin32
open Procedure (ask current update fail ofExcept onlyIf zoom mapError)

/-- The name a guard failure prints as. -/
def guardErrorDebug : PhysicalTimingGuardError → String
  | .invalidated => "Invalidated"
  | .invalidPacketMasks => "InvalidPacketMasks"
  | .arithmeticOverflow => "ArithmeticOverflow"

/-- Run an operation of the timing guard, when there is one. -/
def timingGuard (missing : String) (describe : PhysicalTimingGuardError → String)
    (computation : GuardM Unit) : WorkerM String Unit := do
  match (← current).physicalTimingGuard with
  | none => fail missing
  | some guard =>
    zoom (fun _ => guard)
      (fun state guard => { state with physicalTimingGuard := some guard }) describe computation

/-- Whether a missed Down and its frozen commit name one boundary. -/
def PendingUpRecovery.matchesFrozenMiss (pending : PendingUpRecovery) : Bool :=
  let frame := pending.authoredCommit
  pending.boundary.firstBatchIndex = frame.firstBatchIndex ∧
    pending.boundary.packetIndex = frame.packetIndex ∧
    pending.boundary.packetBatchCount = frame.packetBatchCount ∧
    pending.boundary.downMask = frame.downMask ∧
    pending.boundary.upMask &&& frame.immediateUpMask = frame.immediateUpMask ∧
    pending.boundary.downMask ≠ 0#16 ∧ pending.admission.isMissed

/-- Settle a missed Down whose Up recovery a suspension interrupts. -/
def resolvePendingRecovery (effectiveNowTicks : Except String ℕ) : WorkerM String Unit := do
  match (← current).pendingUpRecovery with
  | none => pure ()
  | some pending =>
    if pending.matchesFrozenMiss then do
      let effectiveNow ← mapError
        (fun error => s!"playback clock failure while resolving missed Down: {error}")
        (ofExcept effectiveNowTicks)
      let committed ← ask (I := workerInterface)
        (.commitDeadlineMiss pending.authoredCommit effectiveNow)
      mapError (fun error => s!"coordinator missed Down commit failure: {error}")
        (ofExcept committed)
    else fail "pending Up recovery no longer matches its frozen authored miss"

/-- Release the live keys, give the guard a fresh Down barrier, and cancel what was live. -/
def suspendLiveInputForDispatch (effectiveNowTicks : Except String ℕ) (targetHwnd : ℤ) :
    WorkerM String Unit := do
  update fun state => state.invalidateDownAuthorization.invalidateGuard
  let released ← ask (I := workerInterface) (.releaseAll targetHwnd)
  mapError (fun error => s!"release verification failed: {error}") (ofExcept released)
  let sample ← now .postCleanup
  let cleanupCompletedQpc ← mapError
    (fun error => s!"post-cleanup resume-barrier QPC failure: {qpcErrorDebug error}")
    (ofExcept sample)
  timingGuard "physical timing guard is not initialized after cleanup"
    (fun error => s!"resume Down barrier establishment failed: {guardErrorDebug error}")
    (PhysicalTimingGuard.establishResumeDownBarrier cleanupCompletedQpc)
  resolvePendingRecovery effectiveNowTicks
  let cancelled ← ask (I := workerInterface) .cancelLiveGenerations
  mapError (fun error => s!"coordinator live cancellation failed: {error}") (ofExcept cancelled)
  update fun state => { state.invalidateDownAuthorization with pendingUpRecovery := none }
  ask (I := workerInterface) .suspended

/-- Whether a focus loss before the first musical packet ends playback. -/
def startupFocusLossIsTerminal (focusOk musicalPhysicalCommitStarted : Bool) : Bool :=
  !focusOk && !musicalPhysicalCommitStarted

/-- Whether a pause request before the first musical packet ends playback. -/
def prerollManualPauseCancels (manualPause musicalPhysicalCommitStarted : Bool) : Bool :=
  manualPause && !musicalPhysicalCommitStarted

/-- The playback position that a suspension settles a missed Down at. -/
def lifecycleEffectiveNow (state : WorkerState) (nowTicks : ℕ) : Except String ℕ :=
  (state.playback.getElapsedAllowPreEpoch nowTicks state.allowPreEpochStartupDispatch).mapError
    timeErrorText

/-- Suspend at the iteration's sample, with the caller's text for a failure. -/
def suspendOrTerminal (describe : String → String) (nowTicks : ℕ) (targetHwnd : ℤ) :
    WorkerM LoopEnd Unit := do
  let effectiveNow := lifecycleEffectiveNow (← current) nowTicks
  mapError (fun error => terminal (describe error))
    (suspendLiveInputForDispatch effectiveNow targetHwnd)
  update fun state => { state with manualPauseSuspensionPending := false }

/-- The text of a failed suspension during a focus restoration. -/
def focusRestorationFailed (error : String) : String := s!"focus restoration failed: {error}"

/-- Give a restoration up and start the next iteration. -/
def abandonRestore : WorkerM LoopEnd Unit := do
  update fun state => { state.forgetTarget with focusRestoreStartedTicks := none }
  fail .next

/-- The restoration's first check of foreground and target. -/
def restoreCheck (config : WorkerConfig) (preflightTarget : TargetStamp) :
    WorkerM LoopEnd Bool := do
  if ← focusMatchesHwnd config .focusRestore preflightTarget.hwnd then
    targetStampStillCurrent .focusRestore preflightTarget
  else pure false

/-- The restoration's second check, after the suspension. -/
def postRestoreCheck (config : WorkerConfig) (preflightTarget postRestoreTarget : TargetStamp) :
    WorkerM LoopEnd Bool := do
  if ← focusMatchesHwnd config .postRestore postRestoreTarget.hwnd then
    if ← targetStampStillCurrent .postRestore preflightTarget then
      pure (postRestoreTarget = preflightTarget)
    else pure false
  else pure false

/-- Suspend, then check the keys of the restored target. -/
def suspendRestored (nowTicks : ℕ) (preflightTarget : TargetStamp) : WorkerM LoopEnd Unit := do
  suspendOrTerminal focusRestorationFailed nowTicks preflightTarget.hwnd
  mapError (fun error => terminal
      s!"instrument key preflight failed during focus restoration; release the 15 instrument keys before playback: {error}")
    (ensurePreflightForTarget preflightTarget)

/-- The suspension that a restoration owes: always without a manual pause, and with one only when
the manual pause deferred it. -/
def restoreSuspension (manualPauseActive : Bool) (nowTicks : ℕ) (preflightTarget : TargetStamp) :
    WorkerM LoopEnd Unit := do
  if manualPauseActive then
    onlyIf (← current).manualPauseSuspensionPending
      (suspendOrTerminal focusRestorationFailed nowTicks preflightTarget.hwnd)
  else suspendRestored nowTicks preflightTarget

/-- Leave the focus pause with a fresh sample. -/
def resumeFocus : WorkerM LoopEnd Unit := do
  let resumedTicks ← qpcTicksOrTerminal .focusRestored
  mapError (fun error => terminal (playbackClockFailure error)) (exitPause .focus resumedTicks)
  publishProgress
  onlyIf (← load .desiredPause .focusRestored) (update WorkerState.forgetTarget)
  update fun state => { state with focusRestoreStartedTicks := none }
  publishLifecycleMetrics

/-- Check that the target is still the preflighted one, then resume. -/
def finishRestore (config : WorkerConfig) (preflightTarget : TargetStamp) :
    WorkerM LoopEnd Unit := do
  match ← loadTargetStamp .postRestore with
  | none => abandonRestore
  | some postRestoreTarget =>
    if ← postRestoreCheck config preflightTarget postRestoreTarget then resumeFocus
    else abandonRestore

/-- Restore a target that was loaded. A failed first check invalidates the guard. -/
def restoreTarget (config : WorkerConfig) (nowTicks : ℕ) (manualPause : Bool)
    (preflightTarget : TargetStamp) : WorkerM LoopEnd Unit := do
  let manualPauseActive := manualPause || (← current).playback.hasPauseReason .manual
  update WorkerState.forgetTarget
  if ← restoreCheck config preflightTarget then do
    restoreSuspension manualPauseActive nowTicks preflightTarget
    finishRestore config preflightTarget
  else do
    update WorkerState.invalidateGuard
    abandonRestore

/-- Restore focus after the grace period. -/
def restoreFocus (config : WorkerConfig) (nowTicks : ℕ) (manualPause : Bool) :
    WorkerM LoopEnd Unit := do
  match ← loadTargetStamp .focusRestore with
  | none => abandonRestore
  | some preflightTarget => restoreTarget config nowTicks manualPause preflightTarget

/-- Start the grace period with the first good hint, and restore after it. -/
def awaitFocusGrace (config : WorkerConfig) (nowTicks : ℕ) (manualPause : Bool) :
    WorkerM LoopEnd Unit := do
  let restoredAt := (← current).focusRestoreStartedTicks.getD nowTicks
  update fun state => { state with focusRestoreStartedTicks := some restoredAt }
  let elapsed ← mapError
    (fun error => terminal s!"focus grace clock failure: {timeErrorText error}")
    (ofExcept (checkedDurationSince nowTicks restoredAt))
  onlyIf (config.focusRestoreGraceTicks ≤ elapsed) (restoreFocus config nowTicks manualPause)

/-- Pause without focus, and restore with it. -/
def focusSection (config : WorkerConfig) (nowTicks : ℕ) (focusOk manualPause : Bool) :
    WorkerM LoopEnd Unit := do
  if focusOk then
    onlyIf ((← current).playback.hasPauseReason .focus)
      (awaitFocusGrace config nowTicks manualPause)
  else do
    let entered ← mapError terminal (enterFocusPause nowTicks)
    onlyIf entered publishLifecycleMetrics

/-- Read the window to release the keys in, and suspend. -/
def suspendInSafetyWindow (describe : String → String) (nowTicks : ℕ) :
    WorkerM LoopEnd Unit := do
  let targetHwnd ← ask (I := workerInterface) .hwndForSafetyRelease
  suspendOrTerminal describe nowTicks targetHwnd

/-- Suspend a manual pause of running playback; under a focus pause defer it. -/
def suspendForManualPause (nowTicks : ℕ) : WorkerM LoopEnd Unit := do
  let playback := (← current).playback
  if playback.isPaused then
    onlyIf (playback.hasPauseReason .focus)
      (update fun state => { state with manualPauseSuspensionPending := true })
  else do
    suspendInSafetyWindow (fun error => s!"manual pause suspension failed: {error}") nowTicks
    publishLifecycleMetrics

/-- Start a manual pause with the iteration's sample. -/
def enterManualPause (nowTicks : ℕ) : WorkerM LoopEnd Unit := do
  update fun state => state.invalidateDownAuthorization.forgetTarget
  suspendForManualPause nowTicks
  mapError (fun error => terminal (playbackClockFailure error)) (enterPause .manual nowTicks)
  publishProgress

/-- Leave the manual pause with a fresh sample. -/
def resumeManual : WorkerM LoopEnd Unit := do
  let resumedTicks ← qpcTicksOrTerminal .manualResumed
  mapError (fun error => terminal (playbackClockFailure error)) (exitPause .manual resumedTicks)
  publishProgress

/-- The check of foreground and target before a manual resume. -/
def manualResumeCheck (config : WorkerConfig) (preflightTarget : TargetStamp) :
    WorkerM LoopEnd Bool := do
  if ← focusMatchesHwnd config .manualResume preflightTarget.hwnd then
    targetStampStillCurrent .manualResume preflightTarget
  else pure false

/-- Preflight and check the target, then resume. -/
def resumeManualTarget (config : WorkerConfig) (preflightTarget : TargetStamp) :
    WorkerM LoopEnd Unit := do
  mapError (fun error => terminal
      s!"instrument key preflight failed on manual resume; release the 15 instrument keys before playback: {error}")
    (ensurePreflightForTarget preflightTarget)
  if ← manualResumeCheck config preflightTarget then resumeManual
  else do
    update WorkerState.forgetTarget
    fail .next

/-- End a manual pause: make up for a deferred suspension, then check the target and resume. -/
def leaveManualPause (config : WorkerConfig) (nowTicks : ℕ) : WorkerM LoopEnd Unit := do
  onlyIf (← current).manualPauseSuspensionPending
    (suspendInSafetyWindow
      (fun error => s!"manual resume deferred suspension failed: {error}") nowTicks)
  match ← loadTargetStamp .manualResume with
  | none => do
    update fun state => state.forgetTarget.invalidateDownAuthorization
    fail .next
  | some preflightTarget => resumeManualTarget config preflightTarget

/-- Enter or leave the manual pause; it is left only when focus does not hold playback. -/
def manualSection (config : WorkerConfig) (nowTicks : ℕ) (manualPause : Bool) :
    WorkerM LoopEnd Unit := do
  let playback := (← current).playback
  if manualPause && !playback.hasPauseReason .manual then enterManualPause nowTicks
  else if !manualPause && playback.hasPauseReason .manual then
    if playback.hasPauseReason .focus then update WorkerState.forgetTarget
    else leaveManualPause config nowTicks
  else pure ()

/-- The control section at a sample: whether it leaves playback paused. -/
def controlSection (config : WorkerConfig) (nowTicks : ℕ) : WorkerM LoopEnd Bool := do
  let focusOk ← focusMatches config .iterationTop
  onlyIf (startupFocusLossIsTerminal focusOk (← current).musicalPhysicalCommitStarted)
    (fail (terminal "focus_lost_during_preroll"))
  let manualPause ← load .desiredPause .iterationTop
  onlyIf (prerollManualPauseCancels manualPause (← current).musicalPhysicalCommitStarted)
    (fail (terminal "manual_pause_during_preroll"))
  focusSection config nowTicks focusOk manualPause
  manualSection config nowTicks manualPause
  pure (← current).playback.isPaused

/-- Wait a poll interval while playback is paused. -/
def waitPaused (config : WorkerConfig) (nowTicks : ℕ) : WorkerM LoopEnd Unit := do
  let pauseTarget ← mapError
    (fun error => terminal s!"pause deadline arithmetic failure: {timeErrorText error}")
    (ofExcept (checkedAddDuration nowTicks config.pausedPollTicks))
  match ← ask (I := workerInterface) (.wait pauseTarget) with
  | .failed message => fail (terminal message)
  | _ => pure ()

end SkyAutoPlayer.Player
