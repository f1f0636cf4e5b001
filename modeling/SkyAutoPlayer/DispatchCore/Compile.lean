import Mathlib.Data.List.Sort
import Mathlib.Data.List.SplitBy
import SkyAutoPlayer.DispatchCore.Model

/-!
# Compiling authored actions

The compiler takes the actions one timestamp group at a time. A first pass checks the group's
actions, a second compiles all releases and a third the group's single press action, so that a
packet's Up intents precede its Down intents. Each press opens a generation on its slot, and
the next release of the slot closes it; at the end no generation may be open.
-/

namespace SkyAutoPlayer.DispatchCore

open Foundation

/-- The largest accepted number of actions. -/
def maxActions : ℕ := 1000000

/-- The longest accepted reason, in UTF-8 bytes. -/
def maxReasonBytes : ℕ := 128

/-- The compiler's errors. -/
inductive CompileError where
  | invalidAllowedScanCodeCount
  | duplicateAllowedScanCode (scanCode : ℕ)
  | tooManyActions
  | nonMonotonicSourceIndex (previous current : ℕ)
  | nonMonotonicSchedule (previous current : ℕ)
  | sameTimestampDownBatch (scheduledUs : ℕ)
  | duplicateSameTimestampUp (scanCode scheduledUs : ℕ)
  | tooManyBatchesAtTimestamp (scheduledUs : ℕ)
  | invalidBatchSize (actionIndex : ℕ)
  | duplicateBatchScanCode (actionIndex scanCode : ℕ)
  | scanCodeNotAllowed (actionIndex scanCode : ℕ)
  | reasonTooLong (actionIndex : ℕ)
  | tooManyReasons
  | generationOverflow
  | unclosedGeneration (scanCode downSourceActionIndex downScheduledUs : ℕ)
  | overlappingSameKeyDown (scanCode firstDownActionIndex secondDownActionIndex
      firstScheduledUs secondScheduledUs : ℕ)
  | matchedSameTimestampUpDown (scanCode scheduledUs upSourceActionIndex
      downSourceActionIndex : ℕ)
  deriving DecidableEq, Repr

/-- The error's text. -/
def CompileError.message : CompileError → String
  | .invalidAllowedScanCodeCount =>
    s!"allowed_scan_codes must contain between 1 and {maxKeys} entries"
  | .duplicateAllowedScanCode scanCode =>
    s!"allowed_scan_codes contains duplicate scan code {scanCode}"
  | .tooManyActions => s!"action count exceeds the configured cap of {maxActions}"
  | .nonMonotonicSourceIndex previous current =>
    s!"source_action_index must be strictly increasing: previous={previous}, current={current}"
  | .nonMonotonicSchedule previous current =>
    s!"scheduled_us must be nondecreasing: previous={previous}, current={current}"
  | .sameTimestampDownBatch scheduledUs =>
    s!"multiple same-timestamp down actions are not one atomic chord; merge them before " ++
      s!"dispatch: timestamp={scheduledUs}"
  | .duplicateSameTimestampUp scanCode scheduledUs =>
    s!"duplicate same-timestamp up action for scan code {scanCode}: timestamp={scheduledUs}"
  | .tooManyBatchesAtTimestamp scheduledUs =>
    s!"too many authored batches at timestamp {scheduledUs} for packet metadata"
  | .invalidBatchSize actionIndex =>
    s!"action {actionIndex} must contain between 1 and {maxKeys} scan codes"
  | .duplicateBatchScanCode actionIndex scanCode =>
    s!"action {actionIndex} contains duplicate scan code {scanCode}"
  | .scanCodeNotAllowed actionIndex scanCode =>
    s!"action {actionIndex} uses scan code {scanCode} outside the prepared allowlist"
  | .reasonTooLong actionIndex =>
    s!"action {actionIndex} reason exceeds {maxReasonBytes} UTF-8 bytes"
  | .tooManyReasons => "too many unique reasons for the u16 reason table"
  | .generationOverflow => "generation identifier overflow"
  | .unclosedGeneration scanCode downSourceActionIndex downScheduledUs =>
    s!"unclosed musical generation for scan code {scanCode}: down action " ++
      s!"{downSourceActionIndex} at {downScheduledUs}us"
  | .overlappingSameKeyDown scanCode firstDown secondDown firstScheduledUs secondScheduledUs =>
    s!"overlapping same-key down actions on scan code {scanCode}: first down at index " ++
      s!"{firstDown} (scheduled_us={firstScheduledUs}), second down at index {secondDown} " ++
      s!"(scheduled_us={secondScheduledUs})"
  | .matchedSameTimestampUpDown scanCode scheduledUs upIndex downIndex =>
    s!"matched same-timestamp Up+Down for scan code {scanCode}: up action {upIndex}, " ++
      s!"down action {downIndex}, timestamp={scheduledUs}"

/-- The press that currently holds a slot. -/
structure OpenGeneration where
  generationId : ℕ
  downActionIndex : ℕ
  downScheduledUs : ℕ
  deriving DecidableEq, Repr

/-- What the compiler carries from group to group. A reason's identifier is its position in the
reason table. -/
structure CompilerState where
  nextGenerationId : ℕ
  openGenerationBySlot : SlotTable OpenGeneration
  reasonTable : List String
  batches : List CompiledBatch
  intents : List CompactIntent
  packets : List CompiledPacket
  previousSourceIndex : Option ℕ
  previousScheduledUs : Option ℕ

/-- The compiler before the first group. -/
def CompilerState.initial : CompilerState where
  nextGenerationId := 0
  openGenerationBySlot := SlotTable.empty
  reasonTable := []
  batches := []
  intents := []
  packets := []
  previousSourceIndex := none
  previousScheduledUs := none

/-- Reject an allowlist of no or too many codes, or with a repeated code. -/
def checkAllowedScanCodes (allowedScanCodes : List ℕ) : Except CompileError Unit := do
  failIf (allowedScanCodes = [] ∨ maxKeys < allowedScanCodes.length)
    .invalidAllowedScanCodeCount
  checkDistinct [] allowedScanCodes
where
  checkDistinct : List ℕ → List ℕ → Except CompileError Unit
    | _, [] => .ok ()
    | seen, scanCode :: rest =>
      if scanCode ∈ seen then .error (.duplicateAllowedScanCode scanCode)
      else checkDistinct (seen ++ [scanCode]) rest

/-- The identifier of a reason, appending a new reason to the table. -/
def getOrInsertReason (reasonTable : List String) (reason : String) :
    Except CompileError (ℕ × List String) :=
  match reasonTable.idxOf? reason with
  | some id => .ok (id, reasonTable)
  | none =>
    if reasonTable.length < 2 ^ 16 then
      .ok (reasonTable.length, reasonTable ++ [reason])
    else .error .tooManyReasons

/-- Reject a source index that does not increase. -/
def checkSourceIndex (previous : Option ℕ) (current : ℕ) : Except CompileError Unit :=
  match previous with
  | none => .ok ()
  | some previous => failIf (current ≤ previous) (.nonMonotonicSourceIndex previous current)

/-- Reject a time that decreases. -/
def checkSchedule (previous : Option ℕ) (current : ℕ) : Except CompileError Unit :=
  match previous with
  | none => .ok ()
  | some previous => failIf (current < previous) (.nonMonotonicSchedule previous current)

/-- Reject a code outside the allowlist or repeated within its action. -/
def checkScanCodes (registry : KeyRegistry) (actionIndex : ℕ) :
    BitVec 16 → List ℕ → Except CompileError Unit
  | _, [] => .ok ()
  | batchSeenMask, scanCode :: rest => do
    let keySlot ← okOr (.scanCodeNotAllowed actionIndex scanCode) (registry.slotFor scanCode)
    failIf (batchSeenMask &&& slotBit 16 keySlot ≠ 0#16)
      (.duplicateBatchScanCode actionIndex scanCode)
    checkScanCodes registry actionIndex (batchSeenMask ||| slotBit 16 keySlot) rest

/-- What the first pass over a group carries. -/
structure GroupScan where
  reasonTable : List String
  previousSourceIndex : Option ℕ
  previousScheduledUs : Option ℕ
  downAction : Option KeyActionInput
  deriving DecidableEq, Repr

/-- The scan after an accepted action. -/
def GroupScan.advance (scan : GroupScan) (action : KeyActionInput)
    (reasonTable : List String) : GroupScan where
  reasonTable := reasonTable
  previousSourceIndex := some action.sourceActionIndex
  previousScheduledUs := some action.scheduledUs
  downAction := if action.kind = .down then some action else scan.downAction

/-- Check one action of a group. -/
def scanAction (registry : KeyRegistry) (scan : GroupScan) (action : KeyActionInput) :
    Except CompileError GroupScan := do
  checkSourceIndex scan.previousSourceIndex action.sourceActionIndex
  checkSchedule scan.previousScheduledUs action.scheduledUs
  failIf (action.scanCodes = [] ∨ maxKeys < action.scanCodes.length)
    (.invalidBatchSize action.sourceActionIndex)
  failIf (maxReasonBytes < action.reason.utf8ByteSize) (.reasonTooLong action.sourceActionIndex)
  checkScanCodes registry action.sourceActionIndex 0#16 action.scanCodes
  let interned ← getOrInsertReason scan.reasonTable action.reason
  failIf (action.kind = .down ∧ scan.downAction.isSome)
    (.sameTimestampDownBatch action.scheduledUs)
  pure (scan.advance action interned.2)

/-- The slot of a code the first pass has allowed; other codes sort last. -/
def slotOf (registry : KeyRegistry) (scanCode : ℕ) : ℕ := (registry.slotFor scanCode).getD 0xff

/-- An action's codes in slot order. -/
def sortedScanCodes (registry : KeyRegistry) (action : KeyActionInput) : List ℕ :=
  action.scanCodes.insertionSort (fun a b => slotOf registry a ≤ slotOf registry b)

/-- An arena length as a 32-bit start index. -/
def arenaIndex (length : ℕ) : Except CompileError ℕ := okOr .tooManyActions (fit 32 length)

/-- What compiling a group's releases carries. -/
structure UpPass where
  openGenerationBySlot : SlotTable OpenGeneration
  reasonTable : List String
  upMask : BitVec 16
  seenUpMask : BitVec 16
  physicalUpSourceActionIndexBySlot : SlotTable ℕ
  intents : List CompactIntent
  groupBatches : List CompiledBatch

/-- Release one slot, closing its open generation. -/
def releaseSlot (action : KeyActionInput) (pass : UpPass) (keySlot : ℕ) : UpPass :=
  let generationId := (pass.openGenerationBySlot keySlot).map (·.generationId)
  { pass with
    openGenerationBySlot := Function.update pass.openGenerationBySlot keySlot none
    seenUpMask := pass.seenUpMask ||| slotBit 16 keySlot
    upMask := if generationId.isSome then pass.upMask ||| slotBit 16 keySlot else pass.upMask
    physicalUpSourceActionIndexBySlot :=
      if generationId.isSome then
        Function.update pass.physicalUpSourceActionIndexBySlot keySlot
          (some action.sourceActionIndex)
      else pass.physicalUpSourceActionIndexBySlot
    intents := pass.intents ++
      [CompactIntent.new (generationId.getD noGenerationId) keySlot] }

/-- Compile one released code. -/
def compileUpCode (registry : KeyRegistry) (action : KeyActionInput) (pass : UpPass)
    (scanCode : ℕ) : Except CompileError UpPass := do
  let keySlot := slotOf registry scanCode
  failIf (pass.seenUpMask &&& slotBit 16 keySlot ≠ 0#16)
    (.duplicateSameTimestampUp scanCode action.scheduledUs)
  pure (releaseSlot action pass keySlot)

/-- The batch of an action whose intents start at a position. -/
def actionBatch (packetId : ℕ) (action : KeyActionInput) (reasonId intentStart : ℕ) :
    CompiledBatch where
  sourceActionIndex := action.sourceActionIndex
  kind := action.kind
  scheduledUs := action.scheduledUs
  reasonId := reasonId
  intentStart := intentStart
  intentLen := action.scanCodes.length
  packetId := packetId

/-- Compile one release action. -/
def compileUp (registry : KeyRegistry) (packetId : ℕ) (pass : UpPass)
    (action : KeyActionInput) : Except CompileError UpPass := do
  let interned ← getOrInsertReason pass.reasonTable action.reason
  let intentStart ← arenaIndex pass.intents.length
  let released ← (sortedScanCodes registry action).foldlM (compileUpCode registry action)
    { pass with reasonTable := interned.2 }
  pure { released with
    groupBatches := released.groupBatches ++
      [actionBatch packetId action interned.1 intentStart] }

/-- What compiling a group's presses carries. -/
structure DownPass where
  openGenerationBySlot : SlotTable OpenGeneration
  nextGenerationId : ℕ
  downMask : BitVec 16
  intents : List CompactIntent

/-- Open a generation on one slot. -/
def pressSlot (action : KeyActionInput) (pass : DownPass) (keySlot : ℕ) : DownPass where
  openGenerationBySlot := Function.update pass.openGenerationBySlot keySlot
    (some ⟨pass.nextGenerationId, action.sourceActionIndex, action.scheduledUs⟩)
  nextGenerationId := pass.nextGenerationId + 1
  downMask := pass.downMask ||| slotBit 16 keySlot
  intents := pass.intents ++ [CompactIntent.new pass.nextGenerationId keySlot]

/-- Reject a press of a key whose open press this timestamp has released. -/
def rejectMatchedUp (physicalUp : Option ℕ) (action : KeyActionInput) (scanCode : ℕ) :
    Except CompileError Unit :=
  match physicalUp with
  | none => .ok ()
  | some upSourceActionIndex =>
    .error (.matchedSameTimestampUpDown scanCode action.scheduledUs upSourceActionIndex
      action.sourceActionIndex)

/-- Reject a press of a key that is still open. -/
def rejectOverlap (openGeneration : Option OpenGeneration) (action : KeyActionInput)
    (scanCode : ℕ) : Except CompileError Unit :=
  match openGeneration with
  | none => .ok ()
  | some first =>
    .error (.overlappingSameKeyDown scanCode first.downActionIndex action.sourceActionIndex
      first.downScheduledUs action.scheduledUs)

/-- Compile one pressed code. -/
def compileDownCode (registry : KeyRegistry) (physicalUps : SlotTable ℕ)
    (action : KeyActionInput) (pass : DownPass) (scanCode : ℕ) :
    Except CompileError DownPass := do
  let keySlot := slotOf registry scanCode
  rejectMatchedUp (physicalUps keySlot) action scanCode
  rejectOverlap (pass.openGenerationBySlot keySlot) action scanCode
  failIf (maxCompactGenerationId < pass.nextGenerationId) .generationOverflow
  let _ ← okOr .generationOverflow (checkedAdd 64 pass.nextGenerationId 1)
  pure (pressSlot action pass keySlot)

/-- The press pass with the batch and the reasons it adds. -/
structure DownResult where
  pass : DownPass
  reasonTable : List String
  groupBatches : List CompiledBatch
  downSourceActionIndex : Option ℕ

/-- Compile the group's press action, when it has one. -/
def compileDown (registry : KeyRegistry) (packetId : ℕ) (downAction : Option KeyActionInput)
    (nextGenerationId : ℕ) (ups : UpPass) : Except CompileError DownResult :=
  let start : DownPass := ⟨ups.openGenerationBySlot, nextGenerationId, 0#16, ups.intents⟩
  match downAction with
  | none => .ok ⟨start, ups.reasonTable, ups.groupBatches, none⟩
  | some action => do
    let interned ← getOrInsertReason ups.reasonTable action.reason
    let intentStart ← arenaIndex ups.intents.length
    let pressed ← (sortedScanCodes registry action).foldlM
      (compileDownCode registry ups.physicalUpSourceActionIndexBySlot action) start
    pure ⟨pressed, interned.2,
      ups.groupBatches ++ [actionBatch packetId action interned.1 intentStart],
      some action.sourceActionIndex⟩

/-- A group's batches in authored order. -/
def sortBatches (batches : List CompiledBatch) : List CompiledBatch :=
  batches.insertionSort (fun a b => a.sourceActionIndex ≤ b.sourceActionIndex)

/-- The time of a group, which all its actions share. -/
def groupTime (group : List KeyActionInput) : ℕ := (group.head?.map (·.scheduledUs)).getD 0

/-- Compile one timestamp group. -/
def compileGroup (registry : KeyRegistry) (state : CompilerState)
    (group : List KeyActionInput) : Except CompileError CompilerState := do
  let packetId ← arenaIndex state.packets.length
  let firstBatchIndex ← arenaIndex state.batches.length
  let scan ← group.foldlM (scanAction registry)
    ⟨state.reasonTable, state.previousSourceIndex, state.previousScheduledUs, none⟩
  let upIntentStart ← arenaIndex state.intents.length
  let ups ← (group.filter (fun action => action.kind = .up)).foldlM
    (compileUp registry packetId)
    ⟨state.openGenerationBySlot, scan.reasonTable, 0#16, 0#16, SlotTable.empty, state.intents, []⟩
  let downIntentStart ← arenaIndex ups.intents.length
  let downs ← compileDown registry packetId scan.downAction state.nextGenerationId ups
  let batchCount ← okOr (.tooManyBatchesAtTimestamp (groupTime group)) (fit 16 group.length)
  let packet : CompiledPacket :=
    { packetId := packetId
      scheduledUs := groupTime group
      firstBatchIndex := firstBatchIndex
      batchCount := batchCount
      upMask := ups.upMask
      downMask := downs.pass.downMask
      upIntentStart := upIntentStart
      upIntentLen := ups.intents.length - upIntentStart
      downIntentStart := downIntentStart
      downIntentLen := downs.pass.intents.length - downIntentStart
      downSourceActionIndex := downs.downSourceActionIndex }
  pure
    { nextGenerationId := downs.pass.nextGenerationId
      openGenerationBySlot := downs.pass.openGenerationBySlot
      reasonTable := downs.reasonTable
      batches := state.batches ++ sortBatches downs.groupBatches
      intents := downs.pass.intents
      packets := state.packets ++ [packet]
      previousSourceIndex := scan.previousSourceIndex
      previousScheduledUs := scan.previousScheduledUs }

/-- The maximal runs of consecutive actions with one time. -/
def timestampGroups (actions : List KeyActionInput) : List (List KeyActionInput) :=
  actions.splitBy (fun a b => a.scheduledUs == b.scheduledUs)

/-- Reject the first slot whose press is still open. -/
def rejectUnclosed (registry : KeyRegistry) (openGenerationBySlot : SlotTable OpenGeneration) :
    Except CompileError Unit :=
  match (List.range maxKeys).find? (fun slot => (openGenerationBySlot slot).isSome) with
  | none => .ok ()
  | some slot =>
    match openGenerationBySlot slot with
    | none => .ok ()
    | some first =>
      .error (.unclosedGeneration ((registry.scanCodeFor slot).getD 0) first.downActionIndex
        first.downScheduledUs)

/-- Compile authored actions over an allowlist. -/
def compileRuntimeIntents (actions : List KeyActionInput) (allowedScanCodes : List ℕ) :
    Except CompileError RuntimeSchedule := do
  checkAllowedScanCodes allowedScanCodes
  failIf (maxActions < actions.length) .tooManyActions
  let registry := KeyRegistry.new allowedScanCodes
  let final ← (timestampGroups actions).foldlM (compileGroup registry) CompilerState.initial
  rejectUnclosed registry final.openGenerationBySlot
  pure
    { packets := final.packets
      batches := final.batches
      intents := final.intents
      generationCount := final.nextGenerationId
      keyRegistry := registry
      reasonTable := final.reasonTable }

end SkyAutoPlayer.DispatchCore
