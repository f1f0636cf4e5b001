import SkyAutoPlayer.DispatchCore.CoordinatorPrepare

/-!
# Committing a packet

A commit applies what was frozen before the packet was sent: each Up releases its owner, waits for
its floor or is consumed for its cancelled or dropped generation, and each Down gives its key an
owner, or is dropped when its deadline was missed. A commit applies one intent after the other, and
the intents before a failure stay applied.
-/

namespace SkyAutoPlayer.DispatchCore

open Foundation

namespace RuntimeDispatchCoordinator

variable (coordinator : RuntimeDispatchCoordinator)

/-- Count a generation that becomes active. -/
def countActivation (expected next : GenerationStatus) : Except CoordinatorError ℕ :=
  if expected = .scheduled ∧ next = .active then
    okOr (accountingError "activated generation counter overflow")
      (checkedAdd 64 coordinator.activatedGenerationCount 1)
  else .ok coordinator.activatedGenerationCount

/-- Count a generation that is over. -/
def countTerminal (next : GenerationStatus) : Except CoordinatorError GenerationCounters :=
  if next.isTerminal then
    (GenerationCounters.increment next coordinator.counters).mapError .invariant
  else .ok coordinator.counters

/-- Change the status of a generation as its lifecycle allows. -/
def transitionGeneration (generationId : ℕ) (expected next : GenerationStatus) :
    Except CoordinatorError RuntimeDispatchCoordinator := do
  let actual ← okOr (.invariant (.unknownGeneration generationId coordinator.generationCount))
    coordinator.generationStates[generationId]?
  failIf (actual ≠ expected)
    (.invariant (.unexpectedTransition generationId expected actual next))
  failIf (expected.canTransitionTo next = false)
    (.invariant (.illegalTransition generationId expected next))
  let activatedGenerationCount ← coordinator.countActivation expected next
  let counters ← coordinator.countTerminal next
  pure
    { coordinator with
      activatedGenerationCount
      counters
      generationStates := coordinator.generationStates.set generationId next }

/-- A slot has an owner, or a mask says so. -/
def claimsSlot (slot : ℕ) : Bool :=
  (coordinator.activeBySlot slot).isSome || coordinator.activeMask.getLsbD slot ||
    coordinator.blockedMask.getLsbD slot

/-- Take the owner from a slot. -/
def clearOwner (slot : ℕ) : RuntimeDispatchCoordinator :=
  { coordinator with
    activeBySlot := Function.update coordinator.activeBySlot slot none
    activeMask := coordinator.activeMask &&& ~~~slotBit 16 slot
    blockedMask := coordinator.blockedMask &&& ~~~slotBit 16 slot }

/-- Take the release that waits from a slot. -/
def clearPendingRelease (slot : ℕ) : RuntimeDispatchCoordinator :=
  { coordinator with
    pendingReleaseBySlot := Function.update coordinator.pendingReleaseBySlot slot none
    pendingReleaseMask := coordinator.pendingReleaseMask &&& ~~~slotBit 16 slot }

/-- Count a cancelled generation as released, since its authored Up is dispatched. -/
def countReconciled : Except CoordinatorError GenerationCounters := do
  failIf (coordinator.counters.cancelled = 0)
    (accountingError "cancelled generation counter underflow during suspension reconciliation")
  let released ← okOr
    (accountingError "released generation counter overflow during suspension reconciliation")
    (checkedAdd 64 coordinator.counters.released 1)
  pure { coordinator.counters with cancelled := coordinator.counters.cancelled - 1, released }

/-- Release the generation whose key a resumable cleanup released before its authored Up. -/
def reconcileResumableCancelledUp (identity : AuthoredUpIdentity) :
    Except CoordinatorError RuntimeDispatchCoordinator := do
  let generationId := identity.generationId
  let slot := identity.keySlot
  failIf (maxKeys ≤ slot ∨ coordinator.cancelledUpBySlot slot ≠ some identity)
    (accountingError "authored Up does not own the exact live resumable cancellation token")
  failIf (coordinator.claimsSlot slot = true ∨ coordinator.pendingReleaseBySlot slot ≠ none)
    (accountingError "resumable cancellation token conflicts with live coordinator ownership")
  (coordinator.validateInvalidatedUpIdentity identity).mapError .invariant
  let actual ← okOr (.invariant (.unknownGeneration generationId coordinator.generationCount))
    coordinator.generationStates[generationId]?
  failIf (actual ≠ .cancelled)
    (.invariant (.unexpectedTransition generationId .cancelled actual .released))
  let counters ← coordinator.countReconciled
  pure
    { coordinator with
      counters
      generationStates := coordinator.generationStates.set generationId .released
      cancelledUpBySlot := Function.update coordinator.cancelledUpBySlot slot none }

/-- An Up of a generation whose Down was dropped, and which the schedule lost. -/
def frozenUpMatchesDroppedExpiredGeneration (identity : AuthoredUpIdentity) : Bool :=
  coordinator.generationStates[identity.generationId]? = some .droppedExpired &&
    (coordinator.validateDroppedExpiredUpIdentity identity).isOk

/-- Release the owner of an Up that is due. -/
def releaseOwner (started : ℕ) (identity : AuthoredUpIdentity) (active : ActiveGeneration) :
    Except CoordinatorError RuntimeDispatchCoordinator := do
  failIf (active.generationId ≠ identity.generationId ∨ started < active.releaseNotBeforeTicks)
    (accountingError "authored immediate Up violates generation ownership or hold floor")
  let released ← coordinator.transitionGeneration identity.generationId .active .released
  pure (released.clearOwner identity.keySlot)

/-- Consume an Up that is due and has no owner. -/
def consumeUnownedUp (identity : AuthoredUpIdentity) :
    Except CoordinatorError RuntimeDispatchCoordinator :=
  if coordinator.cancelledUpBySlot identity.keySlot = some identity then
    coordinator.reconcileResumableCancelledUp identity
  else if coordinator.frozenUpMatchesDroppedExpiredGeneration identity then .ok coordinator
  else .error (accountingError "authored immediate Up has no active generation")

/-- Commit an Up that is due. -/
def commitImmediateUp (started : ℕ) (identity : AuthoredUpIdentity) :
    Except CoordinatorError RuntimeDispatchCoordinator :=
  match coordinator.activeBySlot identity.keySlot with
  | some active => coordinator.releaseOwner started identity active
  | none => coordinator.consumeUnownedUp identity

/-- Register an Up that waits. -/
def registerDeferredUp (prepared : PreparedAuthoredFrame) (up : PreparedUpIntent) :
    Except CoordinatorError RuntimeDispatchCoordinator := do
  let slot := up.identity.keySlot
  let active ← okOr (.pendingReleaseOwnershipMismatch slot) (coordinator.activeBySlot slot)
  failIf (active.generationId ≠ up.identity.generationId) (.pendingReleaseOwnershipMismatch slot)
  failIf (coordinator.pendingReleaseBySlot slot ≠ none) (.pendingReleaseAlreadyRegistered slot)
  pure
    { coordinator with
      pendingReleaseBySlot := Function.update coordinator.pendingReleaseBySlot slot
        (some
          { generationId := up.identity.generationId
            keySlot := slot
            authoredReleaseTicks := prepared.authoredTicks
            dueTicks := max active.releaseNotBeforeTicks prepared.authoredTicks
            sourceActionIndex := up.sourceActionIndex })
      pendingReleaseMask := coordinator.pendingReleaseMask ||| slotBit 16 slot }

/-- Commit an Up as the masks of the frame classify it. -/
def commitClassifiedUp (prepared : PreparedAuthoredFrame) (started : ℕ) (up : PreparedUpIntent) :
    Except CoordinatorError RuntimeDispatchCoordinator :=
  if prepared.immediateUpMask.getLsbD up.identity.keySlot then
    coordinator.commitImmediateUp started up.identity
  else if prepared.deferredUpMask.getLsbD up.identity.keySlot then
    coordinator.registerDeferredUp prepared up
  else
    .error (accountingError "frozen authored Up is absent from its prepared release masks")

/-- Commit one Up. -/
def commitUp (prepared : PreparedAuthoredFrame) (started : ℕ) (up : PreparedUpIntent) :
    Except CoordinatorError RuntimeDispatchCoordinator := do
  failIf (up.identity.generationId = noGenerationId ∨
      up.identity.generationId ≠ up.intent.generationId ∨
      up.identity.keySlot ≠ up.intent.keySlot ∨ up.identity.packetIndex ≠ prepared.packetIndex)
    (accountingError "frozen authored Up identity does not match its intent")
  coordinator.commitClassifiedUp prepared started up

/-- Check that a frame starts at the cursor. -/
def checkCurrent (firstBatchIndex : ℕ) : Except CoordinatorError Unit :=
  failIf (firstBatchIndex ≠ coordinator.cursor)
    (.preparedBatchMismatch firstBatchIndex coordinator.cursor)

/-- Move the cursor past a packet. -/
def advance (packetBatchCount : ℕ) : Except CoordinatorError RuntimeDispatchCoordinator := do
  let cursor ← okOr (.time .overflow) (checkedAdd 64 coordinator.cursor packetBatchCount)
  pure { coordinator with cursor }

/-- The slot of an Up has the Up's generation as its owner, and no cancelled generation. -/
def ownsLiveUp (identity : AuthoredUpIdentity) (compact : CompactIntent) : Bool :=
  compact.generationId = identity.generationId && compact.keySlot = identity.keySlot &&
    (coordinator.activeBySlot identity.keySlot).any (fun active =>
      active.generationId = identity.generationId && active.keySlot = identity.keySlot) &&
    (coordinator.cancelledUpBySlot identity.keySlot).isNone

/-- Check that a frozen Up has an owner, a cancelled generation or a dropped one. -/
def validateUpOwnership (identity : AuthoredUpIdentity) (state : GenerationStatus)
    (compact : CompactIntent) : Except CoordinatorError Unit :=
  if state = .active ∧ coordinator.ownsLiveUp identity compact then .ok ()
  else if state = .cancelled ∧ coordinator.cancelledUpBySlot identity.keySlot = some identity then do
    failIf (coordinator.claimsSlot identity.keySlot = true)
      (accountingError "cancelled-Up token conflicts with a live key owner")
    (coordinator.validateInvalidatedUpIdentity identity).mapError .invariant
  else if state = .droppedExpired ∧
      (coordinator.validateDroppedExpiredUpIdentity identity).isOk then .ok ()
  else
    .error (accountingError
      (s!"frozen authored Up for generation {identity.generationId} has no matching active " ++
        "owner or cancellation proof"))

/-- Check one frozen Up. -/
def validateFrozenUp (frame : PreparedAuthoredFrame) (up : PreparedUpIntent) :
    Except CoordinatorError Unit := do
  let identity := up.identity
  let unknown : CoordinatorError :=
    .invariant (.unknownGeneration identity.generationId coordinator.generationCount)
  failIf (maxKeys ≤ identity.keySlot ∨ identity.generationId ≠ up.intent.generationId ∨
      identity.keySlot ≠ up.intent.keySlot ∨ identity.packetIndex ≠ frame.packetIndex)
    (accountingError "frozen authored Up identity does not match its intent or packet")
  let mapped ← okOr unknown coordinator.upIntentLocations[identity.generationId]?
  failIf (mapped ≠ some (identity.packetIndex, identity.intentIndex))
    (accountingError "frozen authored Up identity differs from compiler-owned location")
  let state ← okOr unknown coordinator.generationStates[identity.generationId]?
  let compact ← okOr
    (accountingError "frozen authored Up intent location is outside the schedule")
    coordinator.schedule.intents[identity.intentIndex]?
  coordinator.validateUpOwnership identity state compact

/-- Check one frozen Down. -/
def validateFrozenDown (down : PreparedDownIntent) : Except CoordinatorError Unit :=
  failIf (maxKeys ≤ down.keySlot ∨ coordinator.cancelledUpBySlot down.keySlot ≠ none)
    (accountingError
      s!"frozen authored Down cannot pass a live cancelled-Up token for slot {down.keySlot}")

/-- Check a frozen commit before its packet is sent. -/
def validateFrozenAuthoredCommit (commit : PreparedAuthoredCommit) :
    Except CoordinatorError Unit := do
  failIf (coordinator.schedule.packets.length ≤ commit.frame.packetIndex)
    (accountingError "frozen authored commit references an unknown packet")
  commit.upIntents.forM (coordinator.validateFrozenUp commit.frame)
  commit.downIntents.forM coordinator.validateFrozenDown

/-- Give a Down's key its owner. -/
def activateDown (releaseNotBeforeTicks : ℕ) (sourceActionIndex : Option ℕ)
    (down : PreparedDownIntent) : Except CoordinatorError RuntimeDispatchCoordinator := do
  failIf (coordinator.claimsSlot down.keySlot = true)
    (accountingError "authored Down would overwrite an active or blocked key slot")
  let activated ← coordinator.transitionGeneration down.generationId .scheduled .active
  pure
    { activated with
      activeBySlot := Function.update activated.activeBySlot down.keySlot
        (some
          { generationId := down.generationId
            scanCode := down.scanCode
            keySlot := down.keySlot
            sourceActionIndex := sourceActionIndex.getD 0
            releaseNotBeforeTicks })
      activeMask := activated.activeMask ||| slotBit 16 down.keySlot
      blockedMask := activated.blockedMask ||| slotBit 16 down.keySlot }

/-- Commit a Down; a Down without a generation has no effect. -/
def commitDown (releaseNotBeforeTicks : ℕ) (sourceActionIndex : Option ℕ)
    (down : PreparedDownIntent) : Except CoordinatorError RuntimeDispatchCoordinator :=
  if down.generationId = noGenerationId then .ok coordinator
  else coordinator.activateDown releaseNotBeforeTicks sourceActionIndex down

/-- Take the generation from an Up, and the Up from its packet's mask. -/
def removeUp (packetIndex intentIndex : ℕ) (compact : CompactIntent) : RuntimeSchedule :=
  { coordinator.schedule with
    intents := coordinator.schedule.intents.set intentIndex
      (CompactIntent.new noGenerationId compact.keySlot)
    packets := coordinator.schedule.packets.modify packetIndex fun packet =>
      { packet with upMask := packet.upMask &&& ~~~slotBit 16 compact.keySlot } }

/-- The Up of a generation with its place, if the Up still has the generation. -/
def ownedUpOf (generationId : ℕ) : Option (ℕ × ℕ × CompactIntent) := do
  let (packetIndex, intentIndex) ←
    if generationId = noGenerationId then none else coordinator.upIntentLocation generationId
  let compact ← coordinator.schedule.intents[intentIndex]?
  if compact.generationId = generationId then some (packetIndex, intentIndex, compact) else none

/-- Make the Up of a generation stale when its Down was never active. -/
def invalidateUpForGeneration (generationId : ℕ) : RuntimeDispatchCoordinator :=
  match coordinator.ownedUpOf generationId with
  | none => coordinator
  | some (packetIndex, intentIndex, compact) =>
    { coordinator with schedule := coordinator.removeUp packetIndex intentIndex compact }

/-- Drop a Down whose deadline was missed. -/
def dropDown (down : PreparedDownIntent) : Except CoordinatorError RuntimeDispatchCoordinator := do
  failIf (coordinator.claimsSlot down.keySlot = true)
    (accountingError "missed authored Down would overwrite an active or blocked key slot")
  let dropped ← coordinator.transitionGeneration down.generationId .scheduled .droppedExpired
  pure (dropped.invalidateUpForGeneration down.generationId)

/-- Commit a missed Down; a Down without a generation has no effect. -/
def commitMissedDown (down : PreparedDownIntent) :
    Except CoordinatorError RuntimeDispatchCoordinator :=
  if down.generationId = noGenerationId then .ok coordinator else coordinator.dropDown down

/-- Release the owner of a slot whose release is due. -/
def commitPendingRelease (started slot : ℕ) :
    Except CoordinatorError RuntimeDispatchCoordinator := do
  let pending ← okOr (.pendingReleaseOwnershipMismatch slot) (coordinator.pendingReleaseBySlot slot)
  let active ← okOr (.pendingReleaseOwnershipMismatch slot) (coordinator.activeBySlot slot)
  failIf (active.generationId ≠ pending.generationId ∨ started < pending.dueTicks)
    (.pendingReleaseOwnershipMismatch slot)
  let released ← coordinator.transitionGeneration pending.generationId .active .released
  pure ((released.clearOwner slot).clearPendingRelease slot)

/-- Check that the batches of a stale packet are Ups of the packet. -/
def checkStaleBatches (packetId packetBatchCount : ℕ) : Except CoordinatorError Unit := do
  let batches ← okOr (.invalidBatchIndex coordinator.cursor)
    (slice coordinator.schedule.batches coordinator.cursor packetBatchCount)
  failIf (∃ batch ∈ batches,
      batch.packetId ≠ packetId ∨ batch.kind ≠ .up ∨ batch.intentLen = 0)
    (accountingError "stale packet contains an invalid authored batch")

/-- Prepare a packet without masks. -/
def prepareStalePacketOf (batch : CompiledBatch) (packet : CompiledPacket) :
    Except CoordinatorError PreparedStalePacket := do
  failIf (packet.upIntentLen = 0 ∨ packet.downIntentLen ≠ 0)
    (accountingError "empty compiled packet is not a stale unmatched-Up packet")
  failIf (packet.batchCount = 0)
    (accountingError "stale packet must contain at least one authored batch")
  failIf (checkedAdd 64 coordinator.cursor packet.batchCount = none) (.time .overflow)
  coordinator.checkStaleBatches batch.packetId packet.batchCount
  let upIntents ← okOr (.schedule (.invalidPacketIntentRange batch.packetId))
    (slice coordinator.schedule.intents packet.upIntentStart packet.upIntentLen)
  failIf (∃ intent ∈ upIntents, intent.generationId ≠ noGenerationId)
    (accountingError "zero-mask authored packet contains an owned Up intent")
  let effectiveScheduledTicks ← coordinator.effectiveBatchScheduledTicks coordinator.cursor
  pure
    { firstBatchIndex := coordinator.cursor
      packetIndex := batch.packetId
      packetBatchCount := packet.batchCount
      effectiveScheduledTicks
      sourceActionIndex := batch.sourceActionIndex
      suppressedIntentCount := upIntents.length }

/-- Prepare the packet of a batch, if the packet has no masks. -/
def prepareStalePacketAt (batch : CompiledBatch) :
    Except CoordinatorError (Option PreparedStalePacket) := do
  let packet ← okOr (.schedule (.invalidPacketIndex batch.packetId))
    coordinator.schedule.packets[batch.packetId]?
  failIf (packet.firstBatchIndex ≠ coordinator.cursor)
    (accountingError "stale packet first batch does not match coordinator cursor")
  if packet.upMask ≠ 0#16 ∨ packet.downMask ≠ 0#16 then pure none
  else some <$> coordinator.prepareStalePacketOf batch packet

/-- Prepare the current packet, if it has only Ups without a generation. -/
def prepareCurrentStalePacket : Except CoordinatorError (Option PreparedStalePacket) :=
  match coordinator.schedule.batches[coordinator.cursor]? with
  | none => .ok none
  | some batch => coordinator.prepareStalePacketAt batch

/-- Check that a stale packet is still current. -/
def checkStalePacket (prepared : PreparedStalePacket) : Except CoordinatorError Unit := do
  let current ← coordinator.prepareCurrentStalePacket
  let current ← okOr (accountingError "prepared stale packet is no longer current") current
  failIf (current ≠ prepared)
    (.preparedBatchMismatch prepared.firstBatchIndex coordinator.cursor)

end RuntimeDispatchCoordinator

/-- A method that changes the coordinator. -/
abbrev CoordinatorM := EStateM CoordinatorError RuntimeDispatchCoordinator

open EStateM RuntimeDispatchCoordinator

/-- Commit the Ups of a packet, one after the other. -/
def commitPreparedUpIntentsFrozen (prepared : PreparedAuthoredFrame)
    (upIntents : List PreparedUpIntent) (started : ℕ) : CoordinatorM Unit := do
  check (checkCurrent · prepared.firstBatchIndex)
  upIntents.forM fun up => update (commitUp · prepared started up)

/-- Check that a commit has only Ups that wait. -/
def checkMetadata (commit : PreparedAuthoredCommit) : Except CoordinatorError Unit :=
  failIf (commit.frame.immediateUpMask ≠ 0#16 ∨ commit.frame.downMask ≠ 0#16 ∨
      commit.downIntents ≠ [])
    (accountingError "frozen metadata commit contains physical authored work")

/-- Commit a packet that has only Ups that wait. -/
def commitPreparedAuthoredFrameMetadataFrozen (commit : PreparedAuthoredCommit) :
    CoordinatorM Unit := do
  check fun _ => checkMetadata commit
  commitPreparedUpIntentsFrozen commit.frame commit.upIntents commit.frame.authoredTicks
  update (advance · commit.frame.packetBatchCount)

/-- Commit the releases of a mask, from its lowest slot. -/
def commitPendingReleaseSuccess (releaseMask : BitVec 16) (started : ℕ) : CoordinatorM Unit :=
  (slots releaseMask).forM fun slot => update (commitPendingRelease · started slot)

/-- Check a commit whose packet was sent, and compute the floor of its Downs. -/
def checkSuccess (commit : PreparedAuthoredCommit) (coordinator : RuntimeDispatchCoordinator) :
    Except CoordinatorError ℕ := do
  coordinator.checkCurrent commit.frame.firstBatchIndex
  coordinator.validateFrozenAuthoredCommit commit
  (checkedAddDuration commit.frame.authoredTicks coordinator.minHoldTicks).mapError .time

/-- Commit a packet that was sent. -/
def commitPreparedAuthoredFrameSuccessFrozen (commit : PreparedAuthoredCommit) (started : ℕ) :
    CoordinatorM Unit := do
  let releaseNotBeforeTicks ← check (checkSuccess commit)
  commitPreparedUpIntentsFrozen commit.frame commit.upIntents started
  commit.downIntents.forM fun down =>
    update (commitDown · releaseNotBeforeTicks commit.downSourceActionIndex down)
  update (advance · commit.frame.packetBatchCount)

/-- Check a commit whose deadline was missed. -/
def checkDeadlineMiss (commit : PreparedAuthoredCommit) (confirmedUpMask missedDownMask : BitVec 16)
    (coordinator : RuntimeDispatchCoordinator) : Except CoordinatorError Unit := do
  coordinator.checkCurrent commit.frame.firstBatchIndex
  coordinator.validateFrozenAuthoredCommit commit
  failIf (confirmedUpMask ≠ commit.frame.immediateUpMask ∨ missedDownMask ≠ commit.frame.downMask)
    (accountingError "deadline-miss masks do not match the frozen authored frame")

/-- Check that the Downs of a commit cover the mask of missed Downs. -/
def checkObservedDowns (commit : PreparedAuthoredCommit) (missedDownMask : BitVec 16) :
    Except CoordinatorError Unit :=
  let observed := commit.downIntents.filter fun down => down.generationId ≠ noGenerationId
  failIf (maskOf 16 (observed.map (·.keySlot)) ≠ missedDownMask)
    (accountingError "frozen Down intents do not cover the missed Down mask")

/-- Commit a packet whose Downs were not sent, since their deadline was missed. -/
def commitPreparedAuthoredFrameDeadlineMiss (commit : PreparedAuthoredCommit)
    (confirmedUpMask missedDownMask : BitVec 16) (started : ℕ) : CoordinatorM Unit := do
  check (checkDeadlineMiss commit confirmedUpMask missedDownMask)
  commitPreparedUpIntentsFrozen commit.frame commit.upIntents started
  commit.downIntents.forM fun down => update (commitMissedDown · down)
  check fun _ => checkObservedDowns commit missedDownMask
  update (advance · commit.frame.packetBatchCount)

/-- Commit a packet that has only Ups without a generation. -/
def commitStalePacket (prepared : PreparedStalePacket) : CoordinatorM Unit := do
  check (checkStalePacket · prepared)
  update (advance · prepared.packetBatchCount)

end SkyAutoPlayer.DispatchCore
