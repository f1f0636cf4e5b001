import SkyAutoPlayer.DispatchCore.CoordinatorCommit

/-!
# Cancelling live generations

A resumable cleanup releases every key that is held, and cancels the generations that held them.
The authored Up of each stays in the schedule without its generation, and its identity is kept in
the slot until the Up is dispatched. The local invariants are checked before and after.
-/

namespace SkyAutoPlayer.DispatchCore

open Foundation

namespace RuntimeDispatchCoordinator

variable (coordinator : RuntimeDispatchCoordinator)

/-- Check the lengths of the ledger. -/
def checkLedgerLength : Except CoordinatorInvariantError Unit :=
  failIf (coordinator.generationStates.length ≠ coordinator.generationCount ∨
      coordinator.generationCount ≠ coordinator.schedule.generationCount)
    (.accounting (s!"ledger length {coordinator.generationStates.length} or schedule generation " ++
      s!"count {coordinator.schedule.generationCount} != generation count " ++
      s!"{coordinator.generationCount}"))

/-- Check the counters against the mask of active slots. -/
def checkLocalCounters : Except CoordinatorInvariantError Unit := do
  let terminal ← okOr (.accounting "terminal counter overflow")
    coordinator.counters.terminalTotalChecked
  let activeCount := countOnes coordinator.activeMask
  failIf (coordinator.generationCount < coordinator.activatedGenerationCount)
    (.accounting "activated generation count exceeds total generation count")
  failIf (coordinator.activatedGenerationCount < coordinator.counters.released)
    (.accounting "released generation count exceeds activated generation count")
  failIf (coordinator.activatedGenerationCount < activeCount)
    (.accounting "active generation count exceeds activated generation count")
  let releasedPlusActive ← okOr (.accounting "released plus active generation count overflow")
    (checkedAdd 64 coordinator.counters.released activeCount)
  failIf (coordinator.activatedGenerationCount < releasedPlusActive)
    (.accounting "released plus active generation count exceeds activated generation count")
  let classified ← okOr (.accounting "active plus terminal generation count overflow")
    (checkedAdd 64 terminal activeCount)
  failIf (coordinator.generationCount < classified)
    (.accounting "active plus terminal generation count exceeds total generation count")

/-- Check that a generation has a status, or report the error for another one. -/
def checkGenerationStatus (generationId : ℕ) (expected : GenerationStatus)
    (error : CoordinatorInvariantError) : Except CoordinatorInvariantError Unit := do
  let state ← okOr (.unknownGeneration generationId coordinator.generationCount)
    coordinator.generationStates[generationId]?
  failIf (state ≠ expected) error

/-- Check the owner of a slot, or that there is none. -/
def checkActiveSlot (slot : ℕ) : Except CoordinatorInvariantError Unit :=
  match coordinator.activeBySlot slot with
  | some active => do
    failIf (active.keySlot ≠ slot ∨ coordinator.activeMask.getLsbD slot = false ∨
        coordinator.blockedMask.getLsbD slot = false ∨
        (coordinator.pendingReleaseBySlot slot).any (fun pending =>
          pending.generationId ≠ active.generationId || pending.keySlot ≠ slot) = true)
      (.accounting s!"active slot {slot} and ownership masks disagree")
    coordinator.checkGenerationStatus active.generationId .active
      (.accounting s!"active slot {slot} points to non-active generation {active.generationId}")
  | none =>
    failIf (coordinator.activeMask.getLsbD slot = true ∨ coordinator.blockedMask.getLsbD slot = true)
      (.accounting s!"ownership mask for slot {slot} has no active slot owner")

/-- Check the release that waits in a slot. -/
def checkPendingRelease (slot : ℕ) (pending : PendingRelease) :
    Except CoordinatorInvariantError Unit := do
  failIf (pending.keySlot ≠ slot)
    (.accounting s!"pending slot {slot} stores key slot {pending.keySlot}")
  let active ← okOr (.accounting s!"pending slot {slot} has no active owner")
    (coordinator.activeBySlot slot)
  failIf (active.generationId ≠ pending.generationId)
    (.accounting s!"pending slot {slot} does not match active ownership")

/-- Check the release of a slot against the mask. -/
def checkPendingSlot (slot : ℕ) : Except CoordinatorInvariantError Unit := do
  failIf ((coordinator.pendingReleaseBySlot slot).isSome ≠
      coordinator.pendingReleaseMask.getLsbD slot)
    (.accounting s!"pending slot {slot} and pending mask disagree")
  match coordinator.pendingReleaseBySlot slot with
  | some pending => coordinator.checkPendingRelease slot pending
  | none => pure ()

/-- Check the cancelled Up of a slot. -/
def checkCancelledSlot (slot : ℕ) : Except CoordinatorInvariantError Unit :=
  match coordinator.cancelledUpBySlot slot with
  | some identity => do
    failIf (identity.keySlot ≠ slot ∨ (coordinator.pendingReleaseBySlot slot).isSome = true ∨
        coordinator.activeMask.getLsbD slot = true ∨ coordinator.blockedMask.getLsbD slot = true)
      (.accounting s!"cancelled-Up token for slot {slot} conflicts with live ownership")
    coordinator.validateInvalidatedUpIdentity identity
    coordinator.checkGenerationStatus identity.generationId .cancelled
      (.accounting (s!"cancelled-Up token for slot {slot} points to non-cancelled generation " ++
        s!"{identity.generationId}"))
  | none => pure ()

/-- Check one slot. -/
def checkSlot (slot : ℕ) : Except CoordinatorInvariantError Unit := do
  failIf ((coordinator.activeBySlot slot).isSome = true ∧
      (coordinator.cancelledUpBySlot slot).isSome = true)
    (.accounting s!"slot {slot} has both an active owner and a cancelled-Up token")
  coordinator.checkActiveSlot slot
  coordinator.checkPendingSlot slot
  coordinator.checkCancelledSlot slot

/-- Check the counters and every slot. -/
def checkLocalInvariants : Except CoordinatorInvariantError Unit := do
  coordinator.checkLedgerLength
  coordinator.checkLocalCounters
  (List.range maxKeys).forM coordinator.checkSlot

/-- A packet has an Up of a slot at a place. -/
def checkUpInPacket (packetIndex intentIndex slot : ℕ) (outside absent : String) :
    Except CoordinatorError Unit := do
  let packet ← okOr (accountingError outside) coordinator.schedule.packets[packetIndex]?
  failIf (ownsUp packet intentIndex slot = false) (accountingError absent)

/-- The authored Up of the generation that holds a key. -/
def authoredUpIdentityForLiveGeneration (generationId keySlot : ℕ) :
    Except CoordinatorError AuthoredUpIdentity := do
  let (packetIndex, intentIndex) ← okOr
    (accountingError s!"active generation {generationId} has no authored Up location")
    (coordinator.upIntentLocation generationId)
  let compact ← okOr
    (accountingError "active generation authored Up location is outside the schedule")
    coordinator.schedule.intents[intentIndex]?
  failIf (compact.generationId ≠ generationId ∨ compact.keySlot ≠ keySlot)
    (accountingError "active generation authored Up location does not match its owner")
  coordinator.checkUpInPacket packetIndex intentIndex keySlot
    "active generation authored Up packet is outside the schedule"
    "active generation authored Up is not in its compiler packet"
  AuthoredUpIdentity.tryNew generationId keySlot packetIndex intentIndex

/-- Take the generation from the authored Up of a cancelled generation. -/
def invalidateAuthoredUpForResumableCancellation (identity : AuthoredUpIdentity) :
    Except CoordinatorError RuntimeDispatchCoordinator := do
  let compact ← okOr
    (accountingError "resumable cancellation Up location is outside the schedule")
    coordinator.schedule.intents[identity.intentIndex]?
  failIf (compact.generationId ≠ identity.generationId ∨ compact.keySlot ≠ identity.keySlot)
    (accountingError "resumable cancellation Up identity changed before invalidation")
  coordinator.checkUpInPacket identity.packetIndex identity.intentIndex identity.keySlot
    "resumable cancellation Up packet is outside the schedule"
    "resumable cancellation Up is absent from its physical authored packet"
  pure
    { coordinator with
      schedule :=
        { coordinator.schedule with
          intents := coordinator.schedule.intents.set identity.intentIndex
            (CompactIntent.new noGenerationId identity.keySlot) } }

/-- The authored Up of a slot's owner. -/
def liveIdentity (slot : ℕ) (active : ActiveGeneration) :
    Except CoordinatorError AuthoredUpIdentity := do
  let identity ← coordinator.authoredUpIdentityForLiveGeneration active.generationId active.keySlot
  failIf ((coordinator.cancelledUpBySlot slot).isSome = true)
    (accountingError
      s!"resumable cleanup would overwrite a live cancelled-Up token for slot {slot}")
  pure identity

/-- Collect the authored Up of one slot's owner. -/
def collectIdentity (identities : List (ℕ × AuthoredUpIdentity)) (slot : ℕ) :
    Except CoordinatorError (List (ℕ × AuthoredUpIdentity)) :=
  match coordinator.activeBySlot slot with
  | none => .ok identities
  | some active => do
    let identity ← coordinator.liveIdentity slot active
    pure (identities ++ [(slot, identity)])

/-- Collect the authored Ups of all owners, by their slots, before anything changes. -/
def collectIdentities : Except CoordinatorError (List (ℕ × AuthoredUpIdentity)) := do
  coordinator.checkLocalInvariants.mapError .invariant
  let identities ← (List.range maxKeys).foldlM coordinator.collectIdentity []
  failIf (checkedAdd 64 coordinator.counters.cancelled identities.length = none)
    (accountingError "cancelled generation counter overflow during resumable cleanup")
  pure identities

/-- Keep the authored Up of a cancelled generation in its slot. -/
def keepCancelledUp (slot : ℕ) (identity : AuthoredUpIdentity) : RuntimeDispatchCoordinator :=
  { coordinator with
    cancelledUpBySlot := Function.update coordinator.cancelledUpBySlot slot (some identity) }

/-- No slot has an owner or a release that waits. -/
def clearLiveOwners : RuntimeDispatchCoordinator :=
  { coordinator with
    activeBySlot := SlotTable.empty
    activeMask := 0#16
    blockedMask := 0#16
    pendingReleaseBySlot := SlotTable.empty
    pendingReleaseMask := 0#16 }

end RuntimeDispatchCoordinator

open EStateM RuntimeDispatchCoordinator

/-- Cancel the generation of one slot. -/
def cancelLiveGeneration (live : ℕ × AuthoredUpIdentity) : CoordinatorM Unit := do
  let (slot, identity) := live
  update (transitionGeneration · identity.generationId .active .cancelled)
  update (invalidateAuthoredUpForResumableCancellation · identity)
  modify (keepCancelledUp · slot identity)

/-- Cancel the generations that hold keys, after a resumable cleanup released the keys. -/
def cancelLiveGenerationsAfterVerifiedResumableCleanup : CoordinatorM ℕ := do
  let identities ← check collectIdentities
  identities.forM cancelLiveGeneration
  modify clearLiveOwners
  check fun coordinator => coordinator.checkLocalInvariants.mapError CoordinatorError.invariant
  pure identities.length

end SkyAutoPlayer.DispatchCore
