import SkyAutoPlayer.DispatchCore.Model
import SkyAutoPlayer.DispatchCore.PlaybackClock
import SkyAutoPlayer.DispatchWin32.PhysicalPacket
import SkyAutoPlayer.Foundation.Procedure
import SkyAutoPlayer.Player.PhysicalTimingGuard
import SkyAutoPlayer.Player.SessionTarget
import SkyAutoPlayer.Player.SupervisorLease

/-!
# The dispatch worker and its environment

The worker owns a playback clock, a timing guard and its authorization state. Everything else is
outside: the control cells that other threads write at any moment, the QPC clock, the window
system, the keyboard, and the coordinator with the work it plans. The worker asks for each of
them in the order of the source, and a question names the place that asks it.
-/

namespace SkyAutoPlayer.Player

open Foundation DispatchCore DispatchWin32

/-- One publication of the session's target. -/
structure TargetStamp where
  hwnd : ℤ
  generation : ℕ
  deriving DecidableEq, Repr

/-- The identity of an authored boundary that was seen while still in the future. -/
structure PhysicalBoundaryStamp where
  firstBatchIndex : ℕ
  packetIndex : ℕ
  packetBatchCount : ℕ
  sourceActionIndex : ℕ
  upMask : BitVec 16
  downMask : BitVec 16
  physicalTargetQpc : ℕ
  deriving DecidableEq, Repr

/-- Whether two stamps name one authored boundary, whatever their targets. -/
def PhysicalBoundaryStamp.sameAuthoredBoundary (stamp other : PhysicalBoundaryStamp) : Bool :=
  stamp = { other with physicalTargetQpc := stamp.physicalTargetQpc }

/-- The standing authorization of a future Down. -/
inductive DownBoundaryState where
  | awaitingFuture
  | futureAuthorized (stamp : PhysicalBoundaryStamp)
  deriving DecidableEq, Repr

/-- Whether a boundary's Down was authorized in time. -/
inductive DownBoundaryAdmission where
  | authorized
  | unobservedBacklog
  deriving DecidableEq, Repr

/-- A backlogged boundary is missed. -/
def DownBoundaryAdmission.isMissed (admission : DownBoundaryAdmission) : Bool :=
  admission = .unobservedBacklog

/-- The frozen frame of an authored commit. -/
structure PreparedAuthoredCommit where
  firstBatchIndex : ℕ
  packetIndex : ℕ
  packetBatchCount : ℕ
  immediateUpMask : BitVec 16
  downMask : BitVec 16
  deriving DecidableEq, Repr

/-- What a packet settles in the coordinator. -/
inductive PhysicalCommit where
  | authored (commit : PreparedAuthoredCommit)
  | pendingRelease (releaseMask : BitVec 16) (dueTicks : ℕ)
  | coalesced (authored : PreparedAuthoredCommit) (releaseMask : BitVec 16) (dueTicks : ℕ)
  deriving DecidableEq, Repr

/-- The authored part of a commit. -/
def PhysicalCommit.authoredCommit : PhysicalCommit → Option PreparedAuthoredCommit
  | .authored commit => some commit
  | .coalesced commit _ _ => some commit
  | .pendingRelease _ _ => none

/-- The Ups to send when a packet's Down is missed. -/
inductive RecoveryDescriptor where
  | none
  | upPrefix (upLen : ℕ) (upMask : BitVec 16)
  deriving DecidableEq, Repr

/-- One packet as planned, with what admission, send and recovery read of it. -/
structure AuthoredBatchView where
  firstBatchIndex : ℕ
  packetIndex : ℕ
  packetBatchCount : ℕ
  batchSourceActionIndex : ℕ
  batchKind : ActionKind
  conflictMask : BitVec 16
  packetMasks : PhysicalPacket
  upRecoveryView : Option PhysicalPacket
  recovery : RecoveryDescriptor
  commit : PhysicalCommit
  deriving DecidableEq, Repr

/-- The proof of a target that a plan carries. -/
inductive TargetProof where
  | notRequired
  | required
  | verified (stamp : TargetStamp)
  deriving DecidableEq, Repr

/-- The stamp of a verified proof. -/
def TargetProof.verifiedTarget : TargetProof → Option TargetStamp
  | .verified stamp => some stamp
  | _ => none

/-- A planned physical packet. -/
structure PhysicalDispatchPlan where
  deadlineTicks : ℕ
  physicalTargetQpc : ℕ
  authoredView : AuthoredBatchView
  targetProof : TargetProof
  deriving DecidableEq, Repr

/-- The planner's next work. -/
inductive NextDispatchPlan where
  | noWork
  | metadata (deadlineTicks physicalTargetQpc : ℕ)
  | physical (plan : PhysicalDispatchPlan)
  deriving DecidableEq, Repr

namespace NextDispatchPlan

/-- The plan's physical packet. -/
def physicalPlan : NextDispatchPlan → Option PhysicalDispatchPlan
  | .physical plan => some plan
  | _ => none

/-- The plan's position on the timeline. -/
def deadlineTicks : NextDispatchPlan → Option ℕ
  | .noWork => none
  | .metadata deadlineTicks _ => some deadlineTicks
  | .physical plan => some plan.deadlineTicks

/-- The plan's target sample. -/
def physicalTargetQpc : NextDispatchPlan → Option ℕ
  | .noWork => none
  | .metadata _ physicalTargetQpc => some physicalTargetQpc
  | .physical plan => some plan.physicalTargetQpc

end NextDispatchPlan

/-- An entry of the prepared stream. -/
inductive PreparedDispatchEntry where
  | physical (offsetTicks : ℕ) (view : AuthoredBatchView)
  | metadata (offsetTicks : ℕ)
  deriving DecidableEq, Repr

/-- The entry's position on the timeline. -/
def PreparedDispatchEntry.offsetTicks : PreparedDispatchEntry → ℕ
  | .physical offsetTicks _ => offsetTicks
  | .metadata offsetTicks => offsetTicks

/-- The stream that was prepared before the start. -/
structure PreparedDispatchStream where
  entries : List PreparedDispatchEntry
  cursor : ℕ
  deriving DecidableEq, Repr

namespace PreparedDispatchStream

/-- The entry at the cursor. -/
def current (stream : PreparedDispatchStream) : Option PreparedDispatchEntry :=
  stream.entries[stream.cursor]?

/-- Whether every entry was dispatched. -/
def isExhausted (stream : PreparedDispatchStream) : Bool :=
  stream.entries.length ≤ stream.cursor

/-- The stream at its next entry. -/
def advance (stream : PreparedDispatchStream) : Except String PreparedDispatchStream := do
  let cursor ← okOr "prepared dispatch stream cursor overflow" (checkedAdd 64 stream.cursor 1)
  pure { stream with cursor }

end PreparedDispatchStream

/-- A missed Down whose Ups still wait for their hold floor. -/
structure PendingUpRecovery where
  boundary : PhysicalBoundaryStamp
  admission : DownBoundaryAdmission
  authoredCommit : PreparedAuthoredCommit
  deriving DecidableEq, Repr

/-- Why a worker ends, when it is not an error of its own. -/
inductive TerminalTrigger where
  | quit
  | skip
  | panicReleaseRequested
  | supervisorLeaseExpired
  | systemSuspend
  deriving DecidableEq, Repr

/-- The settings of a session that the loop reads. -/
structure WorkerConfig where
  requireFocus : Bool
  focusRestoreGraceTicks : ℕ
  pausedPollTicks : ℕ
  leaseTimeoutTicks : ℕ
  strictTiming : Bool
  focusLossFault : Bool
  deriving DecidableEq, Repr

/-- What the worker owns. -/
structure WorkerState where
  playback : PlaybackClockState
  physicalTimingGuard : Option PhysicalTimingGuard
  verifiedTarget : Option TargetStamp
  focusRestoreStartedTicks : Option ℕ
  manualPauseSuspensionPending : Bool
  musicalPhysicalCommitStarted : Bool
  allowPreEpochStartupDispatch : Bool
  focusLossFaultInjected : Bool
  downBoundaryState : DownBoundaryState
  pendingUpRecovery : Option PendingUpRecovery
  preparedStream : Option PreparedDispatchStream
  terminalTrigger : Option TerminalTrigger

/-- The control cells that other threads write. -/
inductive ControlCell where
  | quitRequested
  | skipRequested
  | panicRequested
  | desiredPause
  | focusActive
  | supervisorExpired
  | systemSuspendTerminal
  | downBlocked
  deriving DecidableEq, Repr

/-- The places that read the control cells and the target. -/
inductive ReadSite where
  | commandControl
  | iterationTop
  | focusRestore
  | postRestore
  | focusRestored
  | manualResume
  | preflight
  | preparedFocus
  | plannedFocus (immediate : Bool)
  | plannedAdmission
  | dispatchDue
  | finalControl
  | finalTarget
  | revalidation
  deriving DecidableEq, Repr

/-- The places that sample the QPC clock. -/
inductive ClockSite where
  | iterationTop
  | postCleanup
  | focusRestored
  | manualResumed
  | lifecycleMetrics
  | waitStart
  | finalFocusLoss
  | leaseAge
  | finalPolicy
  deriving DecidableEq, Repr

/-- The foreground window's owner, compared with the expected one. -/
inductive ForegroundOwnerMatch where
  | matches
  | notForeground
  | ownerMismatch
  | ownerQueryUnavailable
  deriving DecidableEq, Repr

/-- The result of a wait; a deadline always carries its wake sample. -/
inductive WaitOutcome where
  | deadline (wakeQpc : ℕ)
  | interrupted
  | failed (message : String)
  deriving DecidableEq, Repr

/-- The sender's outcome with the clock error it left behind. -/
structure SenderReply where
  outcome : SendTransactionOutcome
  timingError : Option QpcError
  deriving DecidableEq, Repr

/-- What the worker asks. -/
inductive WorkerQuestion where
  | coordinatorFinished
  | load (cell : ControlCell) (site : ReadSite)
  | takePanic
  | now (site : ClockSite)
  | loadStable (site : ReadSite)
  | isCurrent (site : ReadSite) (expected : TargetStamp)
  | ownerIdentityStatus (site : ReadSite) (generation : ℕ)
  | foregroundWindowMatches (site : ReadSite) (hwnd : ℤ)
  | foregroundWindowOwnerMatches (hwnd : ℤ) (ownerPid : ℕ)
  | proveDownAge (now timeout : ℕ)
  | observeModifiers
  | hwndForSafetyRelease
  | instrumentKeysPhysicallyUp (hwnd : ℤ)
  | releaseAll (hwnd : ℤ)
  | commitDeadlineMiss (commit : PreparedAuthoredCommit) (effectiveNow : ℕ)
  | cancelLiveGenerations
  | wait (target : ℕ)
  | publishProgress (playback : PlaybackClockState)
  | pauseOpened (ticks : ℕ) (playback : PlaybackClockState)
  | pauseClosed (ticks : ℕ) (playback : PlaybackClockState)
  | suspended
  | planNext
  | prepareStalePacket
  | commitStalePacket
  | validateFrozenCommit (commit : PreparedAuthoredCommit)
  | commitMetadata
  | send (packet : PhysicalPacket)
  | sendRecoveryUps (packet : PhysicalPacket)
  | settleSend (view : AuthoredBatchView)
  | settleMiss (view : AuthoredBatchView) (startedEffective : ℕ)
  | publishSend (view : AuthoredBatchView)
  deriving DecidableEq

/-- The answers to each question. -/
abbrev WorkerQuestion.Answer : WorkerQuestion → Type
  | .coordinatorFinished | .load _ _ | .takePanic | .isCurrent _ _
  | .foregroundWindowMatches _ _ => Bool
  | .now _ => Except QpcError ℕ
  | .loadStable _ => Option TargetStamp
  | .ownerIdentityStatus _ _ => OwnerIdentityStatus
  | .foregroundWindowOwnerMatches _ _ => ForegroundOwnerMatch
  | .proveDownAge _ _ => SupervisorLeaseAdmission
  | .observeModifiers => Option (BitVec 8)
  | .hwndForSafetyRelease => ℤ
  | .instrumentKeysPhysicallyUp _ | .releaseAll _ | .commitDeadlineMiss _ _
  | .cancelLiveGenerations | .commitStalePacket | .validateFrozenCommit _ | .commitMetadata
  | .settleSend _ | .settleMiss _ _ | .publishSend _ => Except String Unit
  | .wait _ => WaitOutcome
  | .publishProgress _ | .pauseOpened _ _ | .pauseClosed _ _ | .suspended => Unit
  | .planNext => Except String NextDispatchPlan
  | .prepareStalePacket => Except String Bool
  | .send _ | .sendRecoveryUps _ => SenderReply

/-- The worker's environment. -/
abbrev workerInterface : Interface := ⟨WorkerQuestion, WorkerQuestion.Answer⟩

/-- One exchange of the worker. -/
abbrev WorkerExchange := Exchange workerInterface

/-- A part of the worker that may stop with an error. -/
abbrev WorkerM (ε α : Type) := Procedure workerInterface ε WorkerState α

end SkyAutoPlayer.Player
