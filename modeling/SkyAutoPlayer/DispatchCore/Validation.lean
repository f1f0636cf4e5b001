import SkyAutoPlayer.DispatchCore.Model
import SkyAutoPlayer.DispatchCore.Time

/-!
# Admission of compiled schedules

The validator walks the packets of a schedule, the Up batches of a packet before its Down
batches. For every slot it keeps the press that is open and the last release, and rejects a
release that comes before the hold of its press is over and a press that comes before the
release gap is over. At the end no press may be open.
-/

namespace SkyAutoPlayer.DispatchCore

open Foundation

/-- The validator's errors. -/
inductive ScheduleTimingError where
  | timestampOverflow
  | sameKeyHoldTooShort (scanCode downSourceActionIndex upSourceActionIndex downScheduledUs
      upScheduledUs intervalUs requiredMinHoldUs downScheduledTicks upScheduledTicks
      requiredMinHoldTicks earliestReleaseTicks : ℕ)
  | sameKeyReleaseGapTooShort (scanCode previousUpSourceActionIndex nextDownSourceActionIndex
      previousUpScheduledUs nextDownScheduledUs releaseGapUs requiredReleaseGapUs
      previousUpTicks nextDownTicks requiredReleaseGapTicks : ℕ)
  | generationOwnershipMismatch (scanCode expectedGenerationId actualGenerationId
      upSourceActionIndex : ℕ)
  | invalidBatchRange (packetIndex : ℕ)
  | unclosedGeneration (scanCode downSourceActionIndex downScheduledUs : ℕ)
  deriving DecidableEq, Repr

/-- The error's text. -/
def ScheduleTimingError.message : ScheduleTimingError → String
  | .timestampOverflow =>
    "schedule and timing configuration exceed supported timestamp range"
  | .sameKeyHoldTooShort scanCode downIndex upIndex downUs upUs intervalUs requiredUs downTicks
      upTicks requiredTicks earliestReleaseTicks =>
    s!"same-key hold too short for scan code {scanCode}: down action {downIndex} at " ++
      s!"{downUs}us ({downTicks} ticks), up action {upIndex} at {upUs}us ({upTicks} ticks), " ++
      s!"interval={intervalUs}us, required={requiredUs}us ({requiredTicks} ticks), " ++
      s!"earliest release={earliestReleaseTicks} ticks"
  | .sameKeyReleaseGapTooShort scanCode upIndex downIndex upUs downUs gapUs requiredUs _ _ _ =>
    s!"same-key release gap too short for scan code {scanCode}: previous up action " ++
      s!"{upIndex} at {upUs}us, next down action {downIndex} at {downUs}us, " ++
      s!"gap={gapUs}us, required={requiredUs}us"
  | .generationOwnershipMismatch scanCode expected actual upIndex =>
    s!"generation ownership mismatch for scan code {scanCode}: expected generation " ++
      s!"{expected}, found {actual} at up action {upIndex}"
  | .invalidBatchRange packetIndex =>
    s!"schedule contains an invalid compiled batch range for packet {packetIndex}"
  | .unclosedGeneration scanCode downIndex downUs =>
    s!"schedule ends with an open musical generation for scan code {scanCode}: down action " ++
      s!"{downIndex} at {downUs}us"

/-- The generation that the validator finds open on a slot. -/
structure ValidatedOpenGeneration where
  generationId : ℕ
  scanCode : ℕ
  downSourceActionIndex : ℕ
  downScheduledUs : ℕ
  downScheduledTicks : ℕ
  deriving DecidableEq, Repr

/-- The last release the validator has seen on a slot. -/
structure ReleaseBoundary where
  sourceActionIndex : ℕ
  scheduledUs : ℕ
  scheduledTicks : ℕ
  deriving DecidableEq, Repr

/-- The floors a schedule is validated against, and the conversion of its times. -/
structure TimingFloors where
  effectiveMinHoldUs : ℕ
  effectiveMinHoldTicks : ℕ
  minReleaseGapUs : ℕ
  minReleaseGapTicks : ℕ
  microsecondsToTicks : ℕ → Option ℕ

/-- What the validator carries from intent to intent. -/
structure ValidationWalk where
  openBySlot : SlotTable ValidatedOpenGeneration
  lastReleaseBySlot : SlotTable ReleaseBoundary

/-- The validator before the first packet. -/
def ValidationWalk.initial : ValidationWalk := ⟨SlotTable.empty, SlotTable.empty⟩

/-- Reject the release of a press whose hold is not over. -/
def checkHold (floors : TimingFloors) (batch : CompiledBatch) (batchTicks : ℕ)
    (active : ValidatedOpenGeneration) : Except ScheduleTimingError Unit := do
  let earliestReleaseTicks ← okOr .timestampOverflow
    (checkedAdd 64 active.downScheduledTicks floors.effectiveMinHoldTicks)
  failIf (batchTicks < earliestReleaseTicks)
    (.sameKeyHoldTooShort active.scanCode active.downSourceActionIndex batch.sourceActionIndex
      active.downScheduledUs batch.scheduledUs (batch.scheduledUs - active.downScheduledUs)
      floors.effectiveMinHoldUs active.downScheduledTicks batchTicks
      floors.effectiveMinHoldTicks earliestReleaseTicks)

/-- Reject a press whose release gap is not over. -/
def checkReleaseGap (floors : TimingFloors) (scanCode : ℕ) (batch : CompiledBatch)
    (batchTicks : ℕ) (lastRelease : Option ReleaseBoundary) : Except ScheduleTimingError Unit :=
  match lastRelease with
  | none => .ok ()
  | some previousUp =>
    failIf (0 < floors.minReleaseGapUs ∧
        batchTicks - previousUp.scheduledTicks < floors.minReleaseGapTicks)
      (.sameKeyReleaseGapTooShort scanCode previousUp.sourceActionIndex batch.sourceActionIndex
        previousUp.scheduledUs batch.scheduledUs (batch.scheduledUs - previousUp.scheduledUs)
        floors.minReleaseGapUs previousUp.scheduledTicks batchTicks floors.minReleaseGapTicks)

/-- The walk after an open press was released. -/
def ValidationWalk.release (floors : TimingFloors) (batch : CompiledBatch) (batchTicks : ℕ)
    (walk : ValidationWalk) (slot : ℕ) : ValidationWalk where
  openBySlot := Function.update walk.openBySlot slot none
  lastReleaseBySlot :=
    if 0 < floors.minReleaseGapUs then
      Function.update walk.lastReleaseBySlot slot
        (some ⟨batch.sourceActionIndex, batch.scheduledUs, batchTicks⟩)
    else walk.lastReleaseBySlot

/-- The walk after a press. -/
def ValidationWalk.press (scanCode : ℕ) (batch : CompiledBatch) (batchTicks : ℕ)
    (walk : ValidationWalk) (intent : CompactIntent) : ValidationWalk :=
  { walk with
    openBySlot := Function.update walk.openBySlot intent.keySlot
      (some ⟨intent.generationId, scanCode, batch.sourceActionIndex, batch.scheduledUs,
        batchTicks⟩) }

/-- Walk one Up intent: a release without an open press must name no generation. -/
def validateUpIntent (floors : TimingFloors) (scanCode : ℕ) (batch : CompiledBatch)
    (batchTicks : ℕ) (walk : ValidationWalk) (intent : CompactIntent) :
    Except ScheduleTimingError ValidationWalk :=
  match walk.openBySlot intent.keySlot with
  | none => do
    failIf (intent.generationId ≠ noGenerationId)
      (.generationOwnershipMismatch scanCode noGenerationId intent.generationId
        batch.sourceActionIndex)
    pure walk
  | some active => do
    failIf (active.generationId ≠ intent.generationId)
      (.generationOwnershipMismatch scanCode active.generationId intent.generationId
        batch.sourceActionIndex)
    checkHold floors batch batchTicks active
    pure (walk.release floors batch batchTicks intent.keySlot)

/-- Walk one Down intent. -/
def validateDownIntent (floors : TimingFloors) (scanCode : ℕ) (batch : CompiledBatch)
    (batchTicks : ℕ) (walk : ValidationWalk) (intent : CompactIntent) :
    Except ScheduleTimingError ValidationWalk := do
  failIf (intent.generationId = noGenerationId ∨ (walk.openBySlot intent.keySlot).isSome)
    (.generationOwnershipMismatch scanCode noGenerationId intent.generationId
      batch.sourceActionIndex)
  checkReleaseGap floors scanCode batch batchTicks (walk.lastReleaseBySlot intent.keySlot)
  pure (walk.press scanCode batch batchTicks intent)

/-- Walk one intent of a batch. -/
def validateIntent (floors : TimingFloors) (registry : KeyRegistry) (packetIndex : ℕ)
    (batch : CompiledBatch) (batchTicks : ℕ) (walk : ValidationWalk) (intent : CompactIntent) :
    Except ScheduleTimingError ValidationWalk := do
  failIf (maxKeys ≤ intent.keySlot) (.invalidBatchRange packetIndex)
  let scanCode ← okOr (.invalidBatchRange packetIndex) (registry.scanCodeFor intent.keySlot)
  match batch.kind with
  | .up => validateUpIntent floors scanCode batch batchTicks walk intent
  | .down => validateDownIntent floors scanCode batch batchTicks walk intent

/-- Walk one batch of a packet. -/
def validateBatch (floors : TimingFloors) (schedule : RuntimeSchedule) (packetIndex : ℕ)
    (walk : ValidationWalk) (batch : CompiledBatch) :
    Except ScheduleTimingError ValidationWalk := do
  let batchTicks ← okOr .timestampOverflow (floors.microsecondsToTicks batch.scheduledUs)
  let intents ← okOr (.invalidBatchRange packetIndex) (schedule.intentSlice batch)
  intents.foldlM (validateIntent floors schedule.keyRegistry packetIndex batch batchTicks) walk

/-- Walk one packet, its Up batches before its Down batches. -/
def validatePacket (floors : TimingFloors) (schedule : RuntimeSchedule) (walk : ValidationWalk)
    (packet : CompiledPacket × ℕ) : Except ScheduleTimingError ValidationWalk := do
  let batches ← okOr (.invalidBatchRange packet.2)
    (slice schedule.batches packet.1.firstBatchIndex packet.1.batchCount)
  let released ← (batches.filter (fun batch => batch.kind = .up)).foldlM
    (validateBatch floors schedule packet.2) walk
  (batches.filter (fun batch => batch.kind = .down)).foldlM
    (validateBatch floors schedule packet.2) released

/-- Reject the first slot whose press is still open. -/
def rejectUnclosedPress (openBySlot : SlotTable ValidatedOpenGeneration) : Except ScheduleTimingError Unit :=
  match (List.range maxKeys).findSome? openBySlot with
  | none => .ok ()
  | some active =>
    .error (.unclosedGeneration active.scanCode active.downSourceActionIndex
      active.downScheduledUs)

/-- Validate every same-key hold and release gap of a schedule. -/
def validateFeasibility (floors : TimingFloors) (schedule : RuntimeSchedule) :
    Except ScheduleTimingError Unit := do
  let lastScheduledUs := (schedule.batches.getLast?.map (·.scheduledUs)).getD 0
  let _ ← okOr .timestampOverflow (checkedAdd 64 lastScheduledUs floors.effectiveMinHoldUs)
  let walk ← schedule.packets.zipIdx.foldlM (validatePacket floors schedule)
    ValidationWalk.initial
  rejectUnclosedPress walk.openBySlot

/-- Validate holds and release gaps in the runtime tick domain. -/
def validateMinHoldAndReleaseGapFeasibilityTicks (schedule : RuntimeSchedule)
    (effectiveMinHoldUs effectiveMinHoldTicks minReleaseGapUs minReleaseGapTicks : ℕ)
    (microsecondsToTicks : ℕ → Option ℕ) : Except ScheduleTimingError Unit :=
  validateFeasibility ⟨effectiveMinHoldUs, effectiveMinHoldTicks, minReleaseGapUs,
    minReleaseGapTicks, microsecondsToTicks⟩ schedule

/-- Validate holds and release gaps in microseconds. -/
def validateMinHoldAndReleaseGapFeasibility (schedule : RuntimeSchedule)
    (effectiveMinHoldUs minReleaseGapUs : ℕ) : Except ScheduleTimingError Unit :=
  validateMinHoldAndReleaseGapFeasibilityTicks schedule effectiveMinHoldUs effectiveMinHoldUs
    minReleaseGapUs minReleaseGapUs some

end SkyAutoPlayer.DispatchCore
