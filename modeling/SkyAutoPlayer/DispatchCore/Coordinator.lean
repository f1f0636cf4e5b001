import SkyAutoPlayer.DispatchCore.Model
import SkyAutoPlayer.DispatchCore.Time
import SkyAutoPlayer.Foundation.ErrorState

/-!
# The dispatch coordinator

The coordinator walks a compiled schedule packet by packet. It keeps the generation that holds each
key, the releases that wait for their floor, and for each key the authored Up of a generation whose
key a resumable cleanup released. A ledger has the status of every generation.
-/

namespace SkyAutoPlayer.DispatchCore

open Foundation

/-- The status of a generation. -/
inductive GenerationStatus where
  | scheduled
  | active
  | released
  | droppedConflict
  | droppedBackend
  | droppedExpired
  | cancelled
  deriving DecidableEq, Repr

namespace GenerationStatus

/-- The name that error texts have. -/
def debugName : GenerationStatus → String
  | .scheduled => "Scheduled"
  | .active => "Active"
  | .released => "Released"
  | .droppedConflict => "DroppedConflict"
  | .droppedBackend => "DroppedBackend"
  | .droppedExpired => "DroppedExpired"
  | .cancelled => "Cancelled"

/-- A generation is over. -/
def isTerminal : GenerationStatus → Bool
  | .released | .droppedConflict | .droppedBackend | .droppedExpired | .cancelled => true
  | .scheduled | .active => false

/-- The transitions of a generation's lifecycle. -/
def canTransitionTo : GenerationStatus → GenerationStatus → Bool
  | .scheduled, .active => true
  | .scheduled, .droppedConflict => true
  | .scheduled, .droppedExpired => true
  | .scheduled, .droppedBackend => true
  | .scheduled, .cancelled => true
  | .active, .released => true
  | .active, .droppedBackend => true
  | .active, .cancelled => true
  | _, _ => false

end GenerationStatus

/-- A violated invariant. -/
inductive CoordinatorInvariantError where
  | unknownGeneration (generationId generationCount : ℕ)
  | unexpectedTransition (generationId : ℕ) (expected actual next : GenerationStatus)
  | illegalTransition (generationId : ℕ) (old next : GenerationStatus)
  | accounting (message : String)
  deriving DecidableEq, Repr

/-- The text of a violated invariant. -/
def CoordinatorInvariantError.message : CoordinatorInvariantError → String
  | .unknownGeneration generationId generationCount =>
    s!"generation {generationId} is outside the prepared ledger of {generationCount} generations"
  | .unexpectedTransition generationId expected actual next =>
    s!"invalid generation transition for {generationId}: " ++
      "expected " ++ expected.debugName ++ ", actual " ++ actual.debugName ++ ", next " ++
      next.debugName
  | .illegalTransition generationId old next =>
    s!"illegal generation transition for {generationId}: " ++ old.debugName ++ " -> " ++
      next.debugName
  | .accounting message => "generation accounting invariant failed: " ++ message

/-- The errors of the coordinator. -/
inductive CoordinatorError where
  | invariant (error : CoordinatorInvariantError)
  | time (error : TimeArithmeticError)
  | invalidBatchIndex (index : ℕ)
  | schedule (error : RuntimeScheduleError)
  | preparedBatchMismatch (prepared cursor : ℕ)
  | invalidKeySlot (slot : ℕ)
  | timeConversion (message : String)
  | physicalDeadlineInfeasible (authoredTicks : ℕ) (blockedMask : BitVec 16)
      (latestRequiredReleaseTicks : ℕ)
  | pendingReleaseAlreadyRegistered (slot : ℕ)
  | pendingReleaseOwnershipMismatch (slot : ℕ)
  deriving DecidableEq, Repr

/-- The text of failed arithmetic. -/
def TimeArithmeticError.message : TimeArithmeticError → String
  | .overflow => "timestamp arithmetic overflow"
  | .underflow => "timestamp arithmetic underflow"
  | .negativeOrder => "timestamps are not in monotonic order"

/-- The text of an error. -/
def CoordinatorError.message : CoordinatorError → String
  | .invariant error => "coordinator invariant failure: " ++ error.message
  | .time error => "coordinator time arithmetic failure: " ++ error.message
  | .invalidBatchIndex index => s!"invalid batch index {index}"
  | .schedule error => "runtime schedule validation failed: " ++ error.message
  | .preparedBatchMismatch prepared cursor =>
    s!"prepared batch index {prepared} does not match coordinator cursor {cursor}"
  | .invalidKeySlot slot => s!"invalid key slot {slot}"
  | .timeConversion message => "time conversion failed: " ++ message
  | .physicalDeadlineInfeasible authoredTicks blockedMask latestRequiredReleaseTicks =>
    s!"physical deadline infeasible at authored tick TimelineTicks({authoredTicks}): " ++
      "blocked_mask=0x" ++ blockedMask.toHex ++
      s!", latest_required_release=TimelineTicks({latestRequiredReleaseTicks})"
  | .pendingReleaseAlreadyRegistered slot =>
    s!"pending release already exists for key slot {slot}"
  | .pendingReleaseOwnershipMismatch slot =>
    s!"pending release does not match active generation for key slot {slot}"

/-- The accounting failed. -/
def accountingError (message : String) : CoordinatorError := .invariant (.accounting message)

/-- The numbers of generations that are over. -/
structure GenerationCounters where
  released : ℕ
  droppedConflict : ℕ
  droppedBackend : ℕ
  droppedExpired : ℕ
  cancelled : ℕ
  deriving DecidableEq, Repr

namespace GenerationCounters

/-- No generation is over. -/
def zero : GenerationCounters := ⟨0, 0, 0, 0, 0⟩

/-- All generations that are over. -/
def terminalTotalChecked (counters : GenerationCounters) : Option ℕ := do
  let total ← checkedAdd 64 counters.released counters.droppedConflict
  let total ← checkedAdd 64 total counters.droppedBackend
  let total ← checkedAdd 64 total counters.droppedExpired
  checkedAdd 64 total counters.cancelled

/-- Count one more generation that is over. -/
def increment (status : GenerationStatus) (counters : GenerationCounters) :
    Except CoordinatorInvariantError GenerationCounters :=
  let overflow : CoordinatorInvariantError :=
    .accounting (status.debugName ++ " generation counter overflow")
  match status with
  | .released => do
    let released ← okOr overflow (checkedAdd 64 counters.released 1)
    pure { counters with released }
  | .droppedConflict => do
    let droppedConflict ← okOr overflow (checkedAdd 64 counters.droppedConflict 1)
    pure { counters with droppedConflict }
  | .droppedBackend => do
    let droppedBackend ← okOr overflow (checkedAdd 64 counters.droppedBackend 1)
    pure { counters with droppedBackend }
  | .droppedExpired => do
    let droppedExpired ← okOr overflow (checkedAdd 64 counters.droppedExpired 1)
    pure { counters with droppedExpired }
  | .cancelled => do
    let cancelled ← okOr overflow (checkedAdd 64 counters.cancelled 1)
    pure { counters with cancelled }
  | .scheduled | .active => pure counters

end GenerationCounters

/-- The generation that holds a key. -/
structure ActiveGeneration where
  generationId : ℕ
  scanCode : ℕ
  keySlot : ℕ
  sourceActionIndex : ℕ
  releaseNotBeforeTicks : ℕ
  deriving DecidableEq, Repr

/-- The classification of a packet: which of its Ups are due and which wait. -/
structure PreparedAuthoredFrame where
  firstBatchIndex : ℕ
  packetIndex : ℕ
  packetBatchCount : ℕ
  authoredTicks : ℕ
  immediateUpMask : BitVec 16
  deferredUpMask : BitVec 16
  downMask : BitVec 16
  staleUpCount : ℕ
  deriving DecidableEq, Repr

/-- An authored Up by its generation, its slot and its place in the schedule. -/
structure AuthoredUpIdentity where
  generationSlot : CompactIntent
  packetIndex : ℕ
  intentIndex : ℕ
  deriving DecidableEq

namespace AuthoredUpIdentity

/-- Identify an authored Up. The schedule's places fit into 32 bits. -/
def tryNew (generationId keySlot packetIndex intentIndex : ℕ) :
    Except CoordinatorError AuthoredUpIdentity := do
  failIf (generationId = noGenerationId ∨ maxCompactGenerationId < generationId ∨ maxKeys ≤ keySlot)
    (accountingError "frozen authored Up identity has an invalid generation or slot")
  let packetIndex ← okOr
    (accountingError "frozen authored Up packet index exceeds compiler u32 range")
    (fit 32 packetIndex)
  let intentIndex ← okOr
    (accountingError "frozen authored Up intent index exceeds compiler u32 range")
    (fit 32 intentIndex)
  pure ⟨CompactIntent.new generationId keySlot, packetIndex, intentIndex⟩

/-- The generation that the Up releases. -/
def generationId (identity : AuthoredUpIdentity) : ℕ := identity.generationSlot.generationId

/-- The slot that the Up releases. -/
def keySlot (identity : AuthoredUpIdentity) : ℕ := identity.generationSlot.keySlot

end AuthoredUpIdentity

/-- A prepared Up. -/
structure PreparedUpIntent where
  intent : CompactIntent
  sourceActionIndex : ℕ
  identity : AuthoredUpIdentity
  deriving DecidableEq

/-- A prepared Down; 2 ^ 32 - 1 stands for no generation. -/
structure PreparedDownIntent where
  generation : ℕ
  scanCode : ℕ
  keySlot : ℕ
  deriving DecidableEq, Repr

namespace PreparedDownIntent

/-- A generation in 32 bits. -/
def frozenGeneration (generationId : ℕ) : Option ℕ :=
  if generationId = noGenerationId then some (2 ^ 32 - 1)
  else (fit 32 generationId).filter (· ≠ 2 ^ 32 - 1)

/-- Prepare a Down. -/
def tryNew (intent : CompactIntent) (scanCode : ℕ) : Except CoordinatorError PreparedDownIntent := do
  failIf (maxKeys ≤ intent.keySlot) (.invalidKeySlot intent.keySlot)
  let generation ← okOr
    (accountingError "frozen authored Down generation exceeds compiler u32 range")
    (frozenGeneration intent.generationId)
  pure ⟨generation, scanCode, intent.keySlot⟩

/-- The generation that the Down presses. -/
def generationId (down : PreparedDownIntent) : ℕ :=
  if down.generation = 2 ^ 32 - 1 then noGenerationId else down.generation

end PreparedDownIntent

/-- What a commit applies, frozen before the packet is sent. -/
structure PreparedAuthoredCommit where
  frame : PreparedAuthoredFrame
  upIntents : List PreparedUpIntent
  downIntents : List PreparedDownIntent
  downSourceActionIndex : Option ℕ
  deriving DecidableEq

/-- A packet with its classification and its commit. -/
structure PreparedAuthoredPacket where
  frame : PreparedAuthoredFrame
  packet : PacketView
  commit : PreparedAuthoredCommit
  batchSourceActionIndex : ℕ
  deriving DecidableEq

/-- A release that waits for its floor. -/
structure PendingRelease where
  generationId : ℕ
  keySlot : ℕ
  authoredReleaseTicks : ℕ
  dueTicks : ℕ
  sourceActionIndex : ℕ
  deriving DecidableEq, Repr

/-- A packet that has only Ups without a generation. -/
structure PreparedStalePacket where
  firstBatchIndex : ℕ
  packetIndex : ℕ
  packetBatchCount : ℕ
  effectiveScheduledTicks : ℕ
  sourceActionIndex : ℕ
  suppressedIntentCount : ℕ
  deriving DecidableEq, Repr

/-- The state of the coordinator. -/
structure RuntimeDispatchCoordinator where
  schedule : RuntimeSchedule
  minHoldUs : ℕ
  minHoldTicks : ℕ
  batchScheduledTicks : List ℕ
  cursor : ℕ
  activeBySlot : SlotTable ActiveGeneration
  activeMask : BitVec 16
  blockedMask : BitVec 16
  counters : GenerationCounters
  activatedGenerationCount : ℕ
  generationStates : List GenerationStatus
  generationCount : ℕ
  upIntentLocations : List (Option (ℕ × ℕ))
  cancelledUpBySlot : SlotTable AuthoredUpIdentity
  pendingReleaseBySlot : SlotTable PendingRelease
  pendingReleaseMask : BitVec 16

namespace RuntimeDispatchCoordinator

/-- Enter the place of one Up into the places of the generations. -/
def recordUpLocation (generationCount packetIndex start : ℕ) (locations : List (Option (ℕ × ℕ)))
    (placed : CompactIntent × ℕ) : Except CoordinatorError (List (Option (ℕ × ℕ))) :=
  let generationId := placed.1.generationId
  if generationId = noGenerationId then .ok locations
  else
    match locations[generationId]? with
    | none => .error (.invariant (.unknownGeneration generationId generationCount))
    | some (some _) =>
      .error (accountingError "generation owns more than one authored Up intent")
    | some none => .ok (locations.set generationId (some (packetIndex, start + placed.2)))

/-- Enter the places of a packet's Ups. -/
def recordPacketUps (schedule : RuntimeSchedule) (locations : List (Option (ℕ × ℕ)))
    (placed : CompiledPacket × ℕ) : Except CoordinatorError (List (Option (ℕ × ℕ))) := do
  let (packet, packetIndex) := placed
  let intents ← okOr (.schedule (.invalidPacketIntentRange packetIndex))
    (slice schedule.intents packet.upIntentStart packet.upIntentLen)
  intents.zipIdx.foldlM
    (recordUpLocation schedule.generationCount packetIndex packet.upIntentStart) locations

/-- The coordinator of a schedule, before its first packet. -/
def tryNewTicks (schedule : RuntimeSchedule) (minHoldUs minHoldTicks : ℕ)
    (usToTicks : ℕ → Except CoordinatorError ℕ) :
    Except CoordinatorError RuntimeDispatchCoordinator := do
  let batchScheduledTicks ← schedule.batches.mapM fun batch => usToTicks batch.scheduledUs
  let upIntentLocations ← schedule.packets.zipIdx.foldlM (recordPacketUps schedule)
    (List.replicate schedule.generationCount none)
  pure
    { schedule
      minHoldUs
      minHoldTicks
      batchScheduledTicks
      cursor := 0
      activeBySlot := SlotTable.empty
      activeMask := 0#16
      blockedMask := 0#16
      counters := GenerationCounters.zero
      activatedGenerationCount := 0
      generationStates := List.replicate schedule.generationCount .scheduled
      generationCount := schedule.generationCount
      upIntentLocations
      cancelledUpBySlot := SlotTable.empty
      pendingReleaseBySlot := SlotTable.empty
      pendingReleaseMask := 0#16 }

variable (coordinator : RuntimeDispatchCoordinator)

/-- The tick of a batch. -/
def effectiveBatchScheduledTicks (index : ℕ) : Except CoordinatorError ℕ :=
  okOr (.invalidBatchIndex index) coordinator.batchScheduledTicks[index]?

/-- The place of a generation's authored Up. -/
def upIntentLocation (generationId : ℕ) : Option (ℕ × ℕ) :=
  (coordinator.upIntentLocations[generationId]?).join

/-- The releases that wait, by their slots. -/
def pendingReleases : List PendingRelease :=
  (List.range maxKeys).filterMap coordinator.pendingReleaseBySlot

/-- A slot is in the range of a packet's Ups, and in its mask. -/
def ownsUp (packet : CompiledPacket) (intentIndex slot : ℕ) : Bool :=
  packet.upIntentStart ≤ intentIndex && intentIndex < packet.upIntentStart + packet.upIntentLen &&
    packet.upMask.getLsbD slot

/-- Check that a cancelled Up is still where the compiler put it, without its generation. -/
def validateInvalidatedUpIdentity (identity : AuthoredUpIdentity) :
    Except CoordinatorInvariantError Unit := do
  let mapped ← okOr (.unknownGeneration identity.generationId coordinator.generationCount)
    coordinator.upIntentLocations[identity.generationId]?
  failIf (mapped ≠ some (identity.packetIndex, identity.intentIndex))
    (.accounting "cancelled-Up token differs from compiler-owned location")
  let compact ← okOr (.accounting "cancelled-Up token location is outside the schedule")
    coordinator.schedule.intents[identity.intentIndex]?
  let packet ← okOr (.accounting "cancelled-Up token packet is outside the schedule")
    coordinator.schedule.packets[identity.packetIndex]?
  failIf (compact.generationId ≠ noGenerationId ∨ compact.keySlot ≠ identity.keySlot ∨
      ownsUp packet identity.intentIndex identity.keySlot = false)
    (.accounting "cancelled-Up token does not identify a retained invalidated authored Up")

/-- Check that an Up lost its generation and its place in the packet's mask. -/
def validateDroppedExpiredUpIdentity (identity : AuthoredUpIdentity) :
    Except CoordinatorInvariantError Unit := do
  let mapped ← okOr (.unknownGeneration identity.generationId coordinator.generationCount)
    coordinator.upIntentLocations[identity.generationId]?
  failIf (mapped ≠ some (identity.packetIndex, identity.intentIndex))
    (.accounting "dropped-Up identity differs from compiler-owned location")
  let compact ← okOr (.accounting "dropped-Up location is outside the schedule")
    coordinator.schedule.intents[identity.intentIndex]?
  let packet ← okOr (.accounting "dropped-Up packet is outside the schedule")
    coordinator.schedule.packets[identity.packetIndex]?
  failIf (compact.generationId ≠ noGenerationId ∨ compact.keySlot ≠ identity.keySlot ∨
      packet.upMask.getLsbD identity.keySlot = true)
    (.accounting "dropped-Up identity is not invalidated from its physical packet")

end RuntimeDispatchCoordinator

end SkyAutoPlayer.DispatchCore
