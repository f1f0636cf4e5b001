import SkyAutoPlayer.DispatchWin32.TrackedKeyState

/-!
# The cleanup release loop

Releasing a scope sends Up events for every unresolved key, at most four times, and believes a
key released only when the transport confirmed it and the physical probe agrees. The transport
and the probe are two independent witnesses; the verdict on their evidence decides what leaves
the ownership masks and what is tried again.
-/

namespace SkyAutoPlayer.DispatchWin32

open Foundation

/-- Which keys a cleanup releases. -/
inductive ReleaseScope where
  | tracked
  | fullInstrument
  deriving DecidableEq, Repr

/-- What the physical probe saw of the requested slots. -/
inductive LogicalInstrumentPhysicalState where
  | allUp
  | held (mask : BitVec 16)
  | inconclusive
  deriving DecidableEq, Repr

/-- The reconciled verdict of transport and probe. -/
inductive ReconciledRelease where
  | verifiedAllUp
  | held (mask : BitVec 16)
  | inconclusive (mask : BitVec 16)
  deriving DecidableEq, Repr

/-- The final verdict of the cleanup. -/
inductive CleanupVerification where
  | allUp
  | held (mask : BitVec 16)
  | inconclusive (mask : BitVec 16)
  deriving DecidableEq, Repr

/-- Only an all-up verdict is a success. -/
def CleanupVerification.isSuccess : CleanupVerification → Bool
  | .allUp => true
  | _ => false

/-- Whether the probe itself could not decide. -/
def CleanupVerification.isInconclusive : CleanupVerification → Bool
  | .inconclusive _ => true
  | _ => false

/-- The result of releasing a scope. -/
structure ReleaseAllOutcome where
  attemptedMask : BitVec 16
  transportAnomaly : Bool
  releasedSuccessfully : Bool
  stuckMask : BitVec 16
  verificationInconclusive : Bool
  attempts : ℕ
  deriving DecidableEq, Repr

/-- A key stays unresolved when the probe saw it held or the transport did not confirm it. -/
def reconcileHeldReleaseObservation (requestedMask transportConfirmedMask heldMask : BitVec 16) :
    ReconciledRelease :=
  if requestedMask ≠ 0#16 ∧ (heldMask = 0#16 ∨ heldMask &&& ~~~requestedMask ≠ 0#16) then
    .inconclusive requestedMask
  else .held (requestedMask &&& (heldMask ||| ~~~transportConfirmedMask))

/-- Combine the transport's confirmation with the probe's observation. -/
def reconcileLogicalReleaseObservation (requestedMask transportConfirmedMask : BitVec 16) :
    LogicalInstrumentPhysicalState → ReconciledRelease
  | .allUp =>
    if transportConfirmedMask &&& requestedMask = requestedMask then .verifiedAllUp
    else .inconclusive (requestedMask &&& ~~~transportConfirmedMask)
  | .held heldMask =>
    if heldMask &&& ~~~fullInstrumentMask ≠ 0#16 then .inconclusive requestedMask
    else reconcileHeldReleaseObservation requestedMask transportConfirmedMask heldMask
  | .inconclusive => .inconclusive requestedMask

/-- An empty residual cannot discharge a nonempty request. -/
def normalizeReconciled (previousUnresolved : BitVec 16) : ReconciledRelease → ReconciledRelease
  | .held mask => if mask = 0#16 then .inconclusive previousUnresolved else .held mask
  | .inconclusive mask =>
    if mask = 0#16 then .inconclusive previousUnresolved else .inconclusive mask
  | .verifiedAllUp => .verifiedAllUp

/-- The final verdict a reconciled observation stands for. -/
def ReconciledRelease.verification : ReconciledRelease → CleanupVerification
  | .verifiedAllUp => .allUp
  | .held mask => .held mask
  | .inconclusive mask => .inconclusive mask

/-- The keys a verdict leaves unresolved. -/
def ReconciledRelease.residual : ReconciledRelease → BitVec 16
  | .verifiedAllUp => 0#16
  | .held mask => mask
  | .inconclusive mask => mask

/-- What the operating system answers to each attempt: the send and then the probe, which
sees the keyboard and the unresolved slots. -/
structure ReleaseEnvironment where
  transport : ℕ → TransportResponse
  probe : ℕ → BitVec 16 → BitVec 16 → LogicalInstrumentPhysicalState

/-- Send Up events for a mask once, without taking authority; also returns the keyboard. -/
def emitUpOnce (keys : TrackedKeyState) (logicalMask : BitVec 16)
    (response : TransportResponse) (held : BitVec 16) : SendTransactionOutcome × BitVec 16 :=
  match PreparedPhysicalPacket.tryNew ⟨logicalMask, 0#16⟩ with
  | .error _ => (invalidPacketOutcome ⟨logicalMask, 0#16⟩, held)
  | .ok prepared =>
    match keys.qpcClock with
    | none => (invalidPacketOutcome ⟨logicalMask, 0#16⟩, held)
    | some _ => sendPreparedPacketOnce prepared.asView none response held

/-- Whether a release attempt saw any non-clean transport outcome. -/
def isTransportAnomaly (outcome : SendTransactionOutcome) : Bool :=
  outcome.status ≠ .complete || 1 < outcome.evidence.attempts ||
    outcome.evidence.retryReason ≠ .none || outcome.evidence.firstWin32Error.isSome ||
    outcome.evidence.lastWin32Error.isSome

/-- Drop resolved keys from every ownership mask. -/
def TrackedKeyState.discharge (keys : TrackedKeyState) (resolved : BitVec 16) :
    TrackedKeyState :=
  { keys with
    activeMask := keys.activeMask &&& ~~~resolved
    possiblyActiveMask := keys.possiblyActiveMask &&& ~~~resolved
    failedReleaseMask := keys.failedReleaseMask &&& ~~~resolved
    inFlightMask := keys.inFlightMask &&& ~~~resolved }

/-- The state of the release loop between attempts. -/
structure ReleaseProgress where
  instrument : Instrument
  unresolvedMask : BitVec 16
  transportAnomaly : Bool
  finalVerification : Option CleanupVerification

/-- One attempt: send, probe, reconcile, discharge. Returns the verdict. -/
def releaseAttempt (environment : ReleaseEnvironment) (attempt : ℕ)
    (progress : ReleaseProgress) : ReconciledRelease × ReleaseProgress :=
  let unresolved := progress.unresolvedMask
  let keys := { progress.instrument.keys with
    releaseAttemptsTotal := saturatingAdd 64 progress.instrument.keys.releaseAttemptsTotal 1 }
  let emitted := emitUpOnce keys unresolved (environment.transport attempt)
    progress.instrument.held
  let verdict := normalizeReconciled unresolved (reconcileLogicalReleaseObservation unresolved
    emitted.1.evidence.confirmedMask (environment.probe attempt emitted.2 unresolved))
  (verdict, {
    instrument := ⟨keys.discharge (unresolved &&& ~~~verdict.residual), emitted.2⟩
    unresolvedMask := verdict.residual
    transportAnomaly := progress.transportAnomaly || isTransportAnomaly emitted.1
    finalVerification := some verdict.verification })

/-- The result of the bounded loop: a verified release or the last progress. -/
inductive ReleaseLoopResult where
  | released (outcome : ReleaseAllOutcome) (instrument : Instrument)
  | exhausted (progress : ReleaseProgress)

/-- Forget the last error once no failed release is left. -/
def TrackedKeyState.clearErrorWhenReleased (keys : TrackedKeyState) : TrackedKeyState :=
  { keys with lastError := if keys.failedReleaseMask = 0#16 then none else keys.lastError }

/-- Attempt the release until it is verified, nothing is unresolved, or attempts run out. -/
def releaseLoop (environment : ReleaseEnvironment) (requestedMask : BitVec 16) :
    ℕ → ℕ → ReleaseProgress → ReleaseLoopResult
  | 0, _, progress => .exhausted progress
  | remaining + 1, attempt, progress =>
    -- The retry delays of 15, 50 and 100 ms before this point do not touch the state.
    if progress.unresolvedMask = 0#16 then .exhausted progress
    else
      let result := releaseAttempt environment attempt progress
      match result.1 with
      | .verifiedAllUp => .released {
          attemptedMask := requestedMask
          transportAnomaly := result.2.transportAnomaly
          releasedSuccessfully := true
          stuckMask := 0#16
          verificationInconclusive := false
          attempts := attempt + 1 } {
          result.2.instrument with keys := result.2.instrument.keys.clearErrorWhenReleased }
      | _ => releaseLoop environment requestedMask remaining (attempt + 1) result.2

/-- The slots of a mask that have a scan code. -/
def scanCodeCount (mask : BitVec 16) : ℕ := countOnes (mask &&& fullInstrumentMask)

/-- The error text of an incomplete release. -/
def releaseErrorText (scope : ReleaseScope) (unresolvedMask requestedMask : BitVec 16) : String :=
  match scope with
  | .tracked => "tracked release incomplete"
  | .fullInstrument =>
    "full-instrument release incomplete: " ++ toString (scanCodeCount unresolvedMask) ++ "/" ++
      toString (scanCodeCount requestedMask) ++ " keys unresolved"

/-- The keys a scope requests. -/
def requestedReleaseMask (keys : TrackedKeyState) : ReleaseScope → BitVec 16
  | .tracked => keys.releaseObligationMask
  | .fullInstrument => fullInstrumentMask

/-- Conclude an exhausted loop: unresolved keys stay owned as failed releases. -/
def finishRelease (scope : ReleaseScope) (requestedMask : BitVec 16)
    (progress : ReleaseProgress) : ReleaseAllOutcome × Instrument :=
  let verification := progress.finalVerification.getD (.held progress.unresolvedMask)
  let stuckMask := if verification.isSuccess then 0#16 else progress.unresolvedMask
  let keys := progress.instrument.keys
  ({
    attemptedMask := requestedMask
    transportAnomaly := progress.transportAnomaly
    releasedSuccessfully := verification.isSuccess
    stuckMask
    verificationInconclusive := verification.isInconclusive
    attempts := 4 }, {
    progress.instrument with
    keys := if verification.isSuccess then keys else {
      keys with
      lastError := some (releaseErrorText scope progress.unresolvedMask requestedMask)
      failedReleaseMask := keys.failedReleaseMask ||| stuckMask } })

/-- Release a scope: at most four verified attempts. -/
def Instrument.releaseScope (instrument : Instrument) (scope : ReleaseScope)
    (environment : ReleaseEnvironment) : ReleaseAllOutcome × Instrument :=
  let requestedMask := requestedReleaseMask instrument.keys scope
  if requestedMask = 0#16 then
    ({ attemptedMask := 0#16
       transportAnomaly := false
       releasedSuccessfully := true
       stuckMask := 0#16
       verificationInconclusive := false
       attempts := 0 }, instrument)
  else
    match releaseLoop environment requestedMask 4 0
        ⟨instrument, requestedMask, false, none⟩ with
    | .released outcome released => (outcome, released)
    | .exhausted progress => finishRelease scope requestedMask progress

end SkyAutoPlayer.DispatchWin32
