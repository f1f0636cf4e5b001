import SkyAutoPlayer.DispatchCore.Coordinator

/-!
# Preparing a commit

The coordinator classifies the current packet once: an Up is due or waits for its floor, by the
generation that holds its key, an Up without a generation is stale unless it is the authored Up of a
cancelled generation, and a Down must not be blocked by a release that waits. The same commit can be
frozen again from the classification.
-/

namespace SkyAutoPlayer.DispatchCore

open Foundation

/-- The source action of the batch of a kind that owns an intent. -/
def findIntentBatch (kind : ActionKind) (intentIndex : ℕ) :
    List CompiledBatch → Except CoordinatorError ℕ
  | [] => .error (accountingError "packet intent is not owned by its expected action kind")
  | batch :: rest =>
    if batch.kind = kind ∧ batch.intentStart ≤ intentIndex ∧
        intentIndex < batch.intentStart + batch.intentLen then
      .ok batch.sourceActionIndex
    else findIntentBatch kind intentIndex rest

/-- The Ups of a packet, classified so far. -/
structure UpScan where
  immediateUpMask : BitVec 16
  deferredUpMask : BitVec 16
  staleUpCount : ℕ
  upIntents : List PreparedUpIntent

/-- No Up is classified. -/
def UpScan.empty : UpScan := ⟨0#16, 0#16, 0, []⟩

/-- Take an Up that is due. -/
def UpScan.addImmediate (up : PreparedUpIntent) (slot : ℕ) (scan : UpScan) : UpScan :=
  { scan with
    immediateUpMask := scan.immediateUpMask ||| slotBit 16 slot
    upIntents := scan.upIntents ++ [up] }

/-- Take an Up that waits. -/
def UpScan.addDeferred (up : PreparedUpIntent) (slot : ℕ) (scan : UpScan) : UpScan :=
  { scan with
    deferredUpMask := scan.deferredUpMask ||| slotBit 16 slot
    upIntents := scan.upIntents ++ [up] }

/-- Prepare one Down. -/
def prepareDown (registry : KeyRegistry) (intent : CompactIntent) :
    Except CoordinatorError PreparedDownIntent := do
  let scanCode ← okOr (.invalidKeySlot intent.keySlot) (registry.scanCodeFor intent.keySlot)
  PreparedDownIntent.tryNew intent scanCode

/-- The Up of a cancelled generation, with the generation that the schedule lost. -/
def cancelledUpIntent (identity : AuthoredUpIdentity) (slot : ℕ) : PreparedUpIntent :=
  ⟨CompactIntent.new identity.generationId slot, 0, identity⟩

namespace RuntimeDispatchCoordinator

variable (coordinator : RuntimeDispatchCoordinator)

/-- The source action of an intent of a packet. -/
def packetIntentSourceActionIndex (packet : CompiledPacket) (intentIndex : ℕ) (kind : ActionKind) :
    Except CoordinatorError ℕ := do
  let batches ← okOr (.invalidBatchIndex packet.firstBatchIndex)
    (slice coordinator.schedule.batches packet.firstBatchIndex packet.batchCount)
  findIntentBatch kind intentIndex batches

/-- The cancelled generation whose authored Up is at a place of the schedule. -/
def cancelledUpAt (packetIndex intentIndex slot : ℕ) : Option AuthoredUpIdentity :=
  (coordinator.cancelledUpBySlot slot).filter fun identity =>
    identity.packetIndex = packetIndex && identity.intentIndex = intentIndex &&
      identity.keySlot = slot

/-- Check that an Up is at the place that the compiler gave its generation. -/
def checkUpLocation (generationId packetIndex intentIndex : ℕ) : Except CoordinatorError Unit :=
  failIf (coordinator.upIntentLocation generationId ≠ some (packetIndex, intentIndex))
    (accountingError "authored Up location differs from compiler-owned generation identity")

/-- Classify an Up without a generation. -/
def scanUnownedUp (packetIndex intentIndex slot : ℕ) (scan : UpScan) :
    Except CoordinatorError UpScan :=
  match coordinator.cancelledUpAt packetIndex intentIndex slot with
  | some identity => do
    (coordinator.validateInvalidatedUpIdentity identity).mapError .invariant
    pure (scan.addImmediate (cancelledUpIntent identity slot) slot)
  | none => pure { scan with staleUpCount := saturatingAdd 8 scan.staleUpCount 1 }

/-- Classify an Up of the generation that holds its key. Only an Up that waits needs its source. -/
def scanHeldUp (packet : CompiledPacket) (authoredTicks intentIndex : ℕ) (intent : CompactIntent)
    (identity : AuthoredUpIdentity) (active : ActiveGeneration) (scan : UpScan) :
    Except CoordinatorError UpScan :=
  if active.releaseNotBeforeTicks ≤ authoredTicks then
    pure (scan.addImmediate ⟨intent, 0, identity⟩ intent.keySlot)
  else do
    let sourceActionIndex ← coordinator.packetIntentSourceActionIndex packet intentIndex .up
    pure (scan.addDeferred ⟨intent, sourceActionIndex, identity⟩ intent.keySlot)

/-- Classify an Up with a generation. -/
def scanOwnedUp (packet : PacketView) (authoredTicks intentIndex : ℕ) (intent : CompactIntent)
    (scan : UpScan) : Except CoordinatorError UpScan := do
  let active ← okOr (accountingError "authored Up has no active generation")
    (coordinator.activeBySlot intent.keySlot)
  failIf (active.generationId ≠ intent.generationId)
    (accountingError "authored Up generation does not own its key slot")
  let identity ← AuthoredUpIdentity.tryNew intent.generationId intent.keySlot packet.packetIndex
    intentIndex
  coordinator.checkUpLocation intent.generationId packet.packetIndex intentIndex
  coordinator.scanHeldUp packet.header authoredTicks intentIndex intent identity active scan

/-- Classify one Up. -/
def scanUp (packet : PacketView) (authoredTicks : ℕ) (scan : UpScan)
    (placed : CompactIntent × ℕ) : Except CoordinatorError UpScan := do
  let (intent, offset) := placed
  let intentIndex := packet.header.upIntentStart + offset
  failIf (packet.registry.scanCodeFor intent.keySlot = none) (.invalidKeySlot intent.keySlot)
  if intent.generationId = noGenerationId then
    coordinator.scanUnownedUp packet.packetIndex intentIndex intent.keySlot scan
  else coordinator.scanOwnedUp packet authoredTicks intentIndex intent scan

/-- The slots of releases that are due only after a packet that presses their keys. -/
def pendingBlockedMask (authoredTicks : ℕ) (downMask : BitVec 16) : BitVec 16 :=
  maskOf 16 (((List.range maxKeys).filterMap fun slot =>
    (coordinator.pendingReleaseBySlot slot).filter fun release =>
      authoredTicks < release.dueTicks && downMask.getLsbD slot).map (·.keySlot))

/-- The latest release that blocks a packet. -/
def latestRequiredReleaseTicks (packet : PacketView) (authoredTicks : ℕ)
    (blockedMask : BitVec 16) : ℕ :=
  let pending := (coordinator.pendingReleases.filter fun release =>
    blockedMask.getLsbD release.keySlot).map (·.dueTicks)
  let held := packet.upIntents.filterMap fun intent =>
    if blockedMask.getLsbD intent.keySlot then
      (coordinator.activeBySlot intent.keySlot).map (·.releaseNotBeforeTicks)
    else none
  (pending ++ held).max?.getD authoredTicks

/-- Check that no release that waits blocks a Down. -/
def checkBlocked (packet : PacketView) (authoredTicks : ℕ) (deferredUpMask : BitVec 16) :
    Except CoordinatorError Unit :=
  let downMask := packet.header.downMask
  let blockedMask := (deferredUpMask ||| coordinator.pendingBlockedMask authoredTicks downMask) &&&
    downMask
  failIf (blockedMask ≠ 0#16) (.physicalDeadlineInfeasible authoredTicks blockedMask
    (coordinator.latestRequiredReleaseTicks packet authoredTicks blockedMask))

/-- The classification of a packet. -/
def authoredFrame (packet : PacketView) (authoredTicks : ℕ) (scan : UpScan) :
    PreparedAuthoredFrame where
  firstBatchIndex := coordinator.cursor
  packetIndex := packet.packetIndex
  packetBatchCount := packet.header.batchCount
  authoredTicks
  immediateUpMask := scan.immediateUpMask
  deferredUpMask := scan.deferredUpMask
  downMask := packet.header.downMask
  staleUpCount := scan.staleUpCount

/-- Prepare the packet of a batch. -/
def prepareAuthoredPacketOf (batch : CompiledBatch) :
    Except CoordinatorError PreparedAuthoredPacket := do
  let authoredTicks ← coordinator.effectiveBatchScheduledTicks coordinator.cursor
  let packet ← (coordinator.schedule.viewPacketTicksUnvalidatedRegistry batch.packetId
    authoredTicks).mapError .schedule
  failIf (packet.header.firstBatchIndex ≠ coordinator.cursor)
    (accountingError "packet first batch does not match coordinator cursor")
  let scan ← packet.upIntents.zipIdx.foldlM (coordinator.scanUp packet authoredTicks) UpScan.empty
  let downIntents ← packet.downIntents.mapM (prepareDown packet.registry)
  coordinator.checkBlocked packet authoredTicks scan.deferredUpMask
  let frame := coordinator.authoredFrame packet authoredTicks scan
  pure
    { frame
      packet
      commit := ⟨frame, scan.upIntents, downIntents, packet.header.downSourceActionIndex⟩
      batchSourceActionIndex :=
        packet.header.downSourceActionIndex.getD batch.sourceActionIndex }

/-- Prepare the current packet, if there is one. -/
def prepareCurrentAuthoredPacket : Except CoordinatorError (Option PreparedAuthoredPacket) :=
  match coordinator.schedule.batches[coordinator.cursor]? with
  | none => .ok none
  | some batch => do
    let prepared ← coordinator.prepareAuthoredPacketOf batch
    pure (some prepared)

/-- Freeze an Up without a generation. -/
def freezeUnownedUp (prepared : PreparedAuthoredFrame) (intentIndex slot : ℕ)
    (frozen : List PreparedUpIntent) : Except CoordinatorError (List PreparedUpIntent) :=
  match coordinator.cancelledUpAt prepared.packetIndex intentIndex slot with
  | some identity => do
    failIf (prepared.immediateUpMask.getLsbD slot = false)
      (accountingError "cancelled authored Up is absent from its immediate release mask")
    (coordinator.validateInvalidatedUpIdentity identity).mapError .invariant
    pure (frozen ++ [cancelledUpIntent identity slot])
  | none => pure frozen

/-- Freeze an Up with a generation as the masks of the frame classify it. -/
def freezeOwnedUp (prepared : PreparedAuthoredFrame) (packet : CompiledPacket)
    (intentIndex : ℕ) (intent : CompactIntent) (frozen : List PreparedUpIntent) :
    Except CoordinatorError (List PreparedUpIntent) := do
  let identity ← AuthoredUpIdentity.tryNew intent.generationId intent.keySlot prepared.packetIndex
    intentIndex
  coordinator.checkUpLocation intent.generationId prepared.packetIndex intentIndex
  if prepared.immediateUpMask.getLsbD intent.keySlot then
    pure (frozen ++ [⟨intent, 0, identity⟩])
  else if prepared.deferredUpMask.getLsbD intent.keySlot then do
    let sourceActionIndex ← coordinator.packetIntentSourceActionIndex packet intentIndex .up
    pure (frozen ++ [⟨intent, sourceActionIndex, identity⟩])
  else pure frozen

/-- Freeze one Up. -/
def freezeUp (prepared : PreparedAuthoredFrame) (packet : CompiledPacket)
    (frozen : List PreparedUpIntent) (placed : CompactIntent × ℕ) :
    Except CoordinatorError (List PreparedUpIntent) :=
  let (intent, offset) := placed
  let intentIndex := packet.upIntentStart + offset
  if intent.generationId = noGenerationId then
    coordinator.freezeUnownedUp prepared intentIndex intent.keySlot frozen
  else coordinator.freezeOwnedUp prepared packet intentIndex intent frozen

/-- Freeze a commit again from the classification of its packet. -/
def prepareAuthoredCommit (prepared : PreparedAuthoredFrame) :
    Except CoordinatorError PreparedAuthoredCommit := do
  let packet ← okOr (.invalidBatchIndex prepared.packetIndex)
    coordinator.schedule.packets[prepared.packetIndex]?
  let view ← (coordinator.schedule.viewPacketTicks prepared.packetIndex
    prepared.authoredTicks).mapError .schedule
  let upIntents ← view.upIntents.zipIdx.foldlM (coordinator.freezeUp prepared packet) []
  let downIntents ← view.downIntents.mapM (prepareDown coordinator.schedule.keyRegistry)
  pure ⟨prepared, upIntents, downIntents, packet.downSourceActionIndex⟩

end RuntimeDispatchCoordinator

end SkyAutoPlayer.DispatchCore
