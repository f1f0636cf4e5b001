import SkyAutoPlayer.DispatchWin32.PhysicalPacket
import SkyAutoPlayer.Foundation.PastCount
import SkyAutoPlayer.Player.GuardSpacing

/-!
# The audit of holds and release gaps

The worker audits its own sends. It keeps, for every key, the completion of the Down that holds it
and the completion of its last Up, counts the Ups and Downs that came too early, and rings the
anomalies. A lifecycle reset drops what it keeps of the keys and no count.

The counts are compared with the log of all key events: an Up is early by the previous event of its
key since the last reset, and a Down by the last Up of its key. A run that the physical timing guard
admits has no early event.
-/

namespace SkyAutoPlayer.Player

open Foundation DispatchWin32

/-- The number of anomalies kept. -/
def productionAnomalyCapacity : ℕ := 32

/-- The completion of the Down that holds a key, while it is valid. -/
structure ProductionHoldAnchor where
  valid : Bool
  completionTicks : ℕ
  deriving DecidableEq, Repr

/-- An anomaly of one key event. -/
structure ProductionForensicsAnomaly where
  kind : ℕ
  slot : ℕ
  sourceActionIndex : ℕ
  mask : BitVec 16
  targetTicks : ℕ
  observedTicks : ℕ
  auxTicks : ℕ
  deltaTicks : ℕ
  deriving DecidableEq, Repr

/-- The evidence of the sends. An anomaly is in the ring where the source marks it valid. -/
structure ProductionHoldForensics where
  anchors : ℕ → ProductionHoldAnchor
  lastUpCompletionTicks : SlotTable ℕ
  anomalies : SlotTable ProductionForensicsAnomaly
  nextAnomaly : ℕ
  anomalyCount : ℕ
  anomalyRingOverwrites : ℕ
  pairSamples : ℕ
  minHoldStartAfterDownCompletionTicks : ℕ
  holdFloorViolationCount : ℕ
  releaseFloorSamples : ℕ
  minDownStartAfterUpCompletionTicks : ℕ
  releaseFloorViolationCount : ℕ
  sameKeyOverlapForensicsCount : ℕ
  anchorOverwriteCount : ℕ
  unmatchedUpCount : ℕ
  structuralAnomalyCount : ℕ
  timingDiagnosticCount : ℕ
  effectiveMinHoldTicks : ℕ
  frameTicks : ℕ

/-- What the worker's lifecycle tells its observers. -/
inductive ObserverLifecycle where
  | resetAll
  deriving DecidableEq, Repr

/-- The samples around a send, with the action and the target it was for. -/
structure SendSamples where
  sourceActionIndex : ℕ
  target : ℕ
  started : ℕ
  completion : ℕ
  deriving DecidableEq, Repr

namespace ProductionHoldForensics

/-- No evidence. -/
def empty : ProductionHoldForensics where
  anchors _ := ⟨false, 0⟩
  lastUpCompletionTicks := SlotTable.empty
  anomalies := SlotTable.empty
  nextAnomaly := 0
  anomalyCount := 0
  anomalyRingOverwrites := 0
  pairSamples := 0
  minHoldStartAfterDownCompletionTicks := 0
  holdFloorViolationCount := 0
  releaseFloorSamples := 0
  minDownStartAfterUpCompletionTicks := 0
  releaseFloorViolationCount := 0
  sameKeyOverlapForensicsCount := 0
  anchorOverwriteCount := 0
  unmatchedUpCount := 0
  structuralAnomalyCount := 0
  timingDiagnosticCount := 0
  effectiveMinHoldTicks := 0
  frameTicks := 0

/-- Set the floors to audit. -/
def setFramePolicies (effectiveMinHoldTicks frameTicks : ℕ) (forensics : ProductionHoldForensics) :
    ProductionHoldForensics :=
  { forensics with effectiveMinHoldTicks, frameTicks }

/-- Drop what is kept of the keys on a reset. -/
def observeLifecycle (change : ObserverLifecycle) (forensics : ProductionHoldForensics) :
    ProductionHoldForensics :=
  match change with
  | .resetAll =>
    { forensics with
      anchors := fun _ => ⟨false, 0⟩
      lastUpCompletionTicks := SlotTable.empty }

/-- Put an anomaly into the ring and count it by its kind. -/
def recordAnomaly (anomaly : ProductionForensicsAnomaly) (forensics : ProductionHoldForensics) :
    ProductionHoldForensics :=
  let structural := (1 ≤ anomaly.kind ∧ anomaly.kind ≤ 6) ∨ anomaly.kind = 8
  { forensics with
    anomalyRingOverwrites :=
      if (forensics.anomalies forensics.nextAnomaly).isSome then
        saturatingAdd 64 forensics.anomalyRingOverwrites 1
      else forensics.anomalyRingOverwrites
    anomalies := Function.update forensics.anomalies forensics.nextAnomaly (some anomaly)
    nextAnomaly := (forensics.nextAnomaly + 1) % productionAnomalyCapacity
    anomalyCount := saturatingAdd 64 forensics.anomalyCount 1
    structuralAnomalyCount :=
      if structural then saturatingAdd 64 forensics.structuralAnomalyCount 1
      else forensics.structuralAnomalyCount
    timingDiagnosticCount :=
      if structural then forensics.timingDiagnosticCount
      else saturatingAdd 64 forensics.timingDiagnosticCount 1 }

/-- The distance of two ticks. -/
def absDiff (left right : ℕ) : ℕ := max left right - min left right

/-- Record the release of a key that the same call presses. -/
def observeOverlap (sameCallDownMask : BitVec 16) (samples : SendSamples) (slot : ℕ)
    (forensics : ProductionHoldForensics) : ProductionHoldForensics :=
  let held := (forensics.anchors slot).completionTicks
  if sameCallDownMask &&& slotBit 16 slot ≠ 0#16 then
    recordAnomaly ⟨6, slot, samples.sourceActionIndex, slotBit 16 slot, samples.target,
        samples.started, held, absDiff samples.completion held⟩
      { forensics with
        sameKeyOverlapForensicsCount := saturatingAdd 64 forensics.sameKeyOverlapForensicsCount 1 }
  else forensics

/-- Sample the hold of a released key, and count it when it is short. -/
def observeHold (samples : SendSamples) (slot : ℕ) (forensics : ProductionHoldForensics) :
    ProductionHoldForensics :=
  let held := (forensics.anchors slot).completionTicks
  let holdStart := checkedSub samples.started held
  let holdStartTicks := holdStart.getD 0
  let pairSamples := saturatingAdd 64 forensics.pairSamples 1
  let sampled := { forensics with
    pairSamples
    minHoldStartAfterDownCompletionTicks :=
      if pairSamples = 1 then holdStartTicks
      else min forensics.minHoldStartAfterDownCompletionTicks holdStartTicks }
  if holdStart = none ∨ holdStartTicks < sampled.effectiveMinHoldTicks then
    recordAnomaly ⟨9, slot, samples.sourceActionIndex, slotBit 16 slot, samples.target,
        samples.started, held, holdStartTicks⟩
      { sampled with
        holdFloorViolationCount := saturatingAdd 64 sampled.holdFloorViolationCount 1 }
  else sampled

/-- Record the release of a key that no Down holds. -/
def observeUnmatchedUp (samples : SendSamples) (slot : ℕ) (forensics : ProductionHoldForensics) :
    ProductionHoldForensics :=
  recordAnomaly ⟨4, slot, samples.sourceActionIndex, slotBit 16 slot, samples.target,
      samples.completion, 0, 0⟩
    { forensics with unmatchedUpCount := saturatingAdd 64 forensics.unmatchedUpCount 1 }

/-- Observe the Up of one key. -/
def observeUp (sameCallDownMask : BitVec 16) (samples : SendSamples)
    (forensics : ProductionHoldForensics) (slot : ℕ) : ProductionHoldForensics :=
  let observed :=
    if (forensics.anchors slot).valid then
      observeHold samples slot (observeOverlap sameCallDownMask samples slot forensics)
    else observeUnmatchedUp samples slot forensics
  { observed with
    lastUpCompletionTicks :=
      Function.update observed.lastUpCompletionTicks slot (some samples.completion)
    anchors := Function.update observed.anchors slot { observed.anchors slot with valid := false } }

/-- Observe the Ups of a call. -/
def observeUps (upMask sameCallDownMask : BitVec 16) (samples : SendSamples)
    (forensics : ProductionHoldForensics) : ProductionHoldForensics :=
  (slots upMask).foldl (observeUp sameCallDownMask samples) forensics

/-- Sample the gap after a release, and count it when it is short. A start before the completion is
a fault of the order. -/
def observeRelease (samples : SendSamples) (slot released : ℕ)
    (forensics : ProductionHoldForensics) : ProductionHoldForensics :=
  let releaseFloorSamples := saturatingAdd 64 forensics.releaseFloorSamples 1
  match checkedSub samples.started released with
  | none =>
    recordAnomaly ⟨8, slot, samples.sourceActionIndex, slotBit 16 slot, samples.target,
        samples.started, released, absDiff released samples.started⟩
      { forensics with
        releaseFloorSamples
        minDownStartAfterUpCompletionTicks := 0
        releaseFloorViolationCount := saturatingAdd 64 forensics.releaseFloorViolationCount 1 }
  | some gap =>
    let sampled := { forensics with
      releaseFloorSamples
      minDownStartAfterUpCompletionTicks :=
        if releaseFloorSamples = 1 then gap
        else min forensics.minDownStartAfterUpCompletionTicks gap }
    if gap < sampled.frameTicks then
      recordAnomaly ⟨7, slot, samples.sourceActionIndex, slotBit 16 slot, samples.target,
          samples.started, released, gap⟩
        { sampled with
          releaseFloorViolationCount := saturatingAdd 64 sampled.releaseFloorViolationCount 1 }
    else sampled

/-- Record the press of a key that a Down holds already. -/
def observeOverwrite (samples : SendSamples) (slot : ℕ) (forensics : ProductionHoldForensics) :
    ProductionHoldForensics :=
  let held := forensics.anchors slot
  if held.valid then
    recordAnomaly ⟨5, slot, samples.sourceActionIndex, slotBit 16 slot, samples.target,
        samples.started, held.completionTicks, absDiff samples.completion held.completionTicks⟩
      { forensics with anchorOverwriteCount := saturatingAdd 64 forensics.anchorOverwriteCount 1 }
  else forensics

/-- Observe the Down of one key. -/
def observeDown (samples : SendSamples) (forensics : ProductionHoldForensics) (slot : ℕ) :
    ProductionHoldForensics :=
  let sampled :=
    match forensics.lastUpCompletionTicks slot with
    | some released => observeRelease samples slot released forensics
    | none => forensics
  let observed := observeOverwrite samples slot sampled
  { observed with
    anchors := Function.update observed.anchors slot ⟨true, samples.completion⟩ }

/-- Observe the Downs of a call. -/
def observeDowns (downMask : BitVec 16) (samples : SendSamples)
    (forensics : ProductionHoldForensics) : ProductionHoldForensics :=
  (slots downMask).foldl (observeDown samples) forensics

/-- Observe a packet that was sent, first its Ups and then its Downs. The masks are over the
instrument's slots. -/
def observePacket (packet : PhysicalPacket) (samples : SendSamples) (fullTransportSuccess : Bool)
    (forensics : ProductionHoldForensics) : ProductionHoldForensics :=
  if !fullTransportSuccess then forensics
  else
    observeDowns packet.downMask samples
      (observeUps packet.upMask packet.downMask samples forensics)

/-- Observe the result of sending a packet. -/
def observePacketResult (packet : PhysicalPacket) (samples : SendSamples)
    (status : SendTransactionStatus) (forensics : ProductionHoldForensics) :
    ProductionHoldForensics :=
  observePacket packet samples (status = .complete) forensics

/-- Observe the Ups that recover a missed packet. -/
def observeRecoveryUp (upMask : BitVec 16) (samples : SendSamples) (fullTransportSuccess : Bool)
    (forensics : ProductionHoldForensics) : ProductionHoldForensics :=
  if !fullTransportSuccess then forensics else observeUps upMask 0#16 samples forensics

end ProductionHoldForensics

/-- What the counts of early events depend on. -/
structure HoldAudit where
  anchors : ℕ → ProductionHoldAnchor
  lastUpCompletionTicks : SlotTable ℕ
  effectiveMinHoldTicks : ℕ
  frameTicks : ℕ
  holdFloorViolationCount : ℕ
  releaseFloorViolationCount : ℕ

namespace ProductionHoldForensics

variable {forensics : ProductionHoldForensics} {samples : SendSamples} {slot : ℕ}

/-- The part of the evidence that the counts of early events depend on. -/
def audit (forensics : ProductionHoldForensics) : HoldAudit where
  anchors := forensics.anchors
  lastUpCompletionTicks := forensics.lastUpCompletionTicks
  effectiveMinHoldTicks := forensics.effectiveMinHoldTicks
  frameTicks := forensics.frameTicks
  holdFloorViolationCount := forensics.holdFloorViolationCount
  releaseFloorViolationCount := forensics.releaseFloorViolationCount

@[simp] theorem audit_recordAnomaly (anomaly : ProductionForensicsAnomaly) :
    (forensics.recordAnomaly anomaly).audit = forensics.audit := rfl

@[simp] theorem audit_observeOverlap (sameCallDownMask : BitVec 16) :
    (forensics.observeOverlap sameCallDownMask samples slot).audit = forensics.audit := by
  rw [observeOverlap]
  split
  · rfl
  · rfl

@[simp] theorem audit_observeUnmatchedUp :
    (forensics.observeUnmatchedUp samples slot).audit = forensics.audit := rfl

@[simp] theorem audit_observeOverwrite :
    (forensics.observeOverwrite samples slot).audit = forensics.audit := by
  rw [observeOverwrite]
  split
  · rfl
  · rfl

/-- A start counts as short when it precedes the end of the floor. -/
theorem checkedSub_short {started completed floor : ℕ} :
    (checkedSub started completed = none ∨ (checkedSub started completed).getD 0 < floor) ↔
      started < completed + floor := by
  rw [checkedSub]
  split
  case isTrue h =>
    simp only [reduceCtorEq, false_or, Option.getD_some]
    omega
  case isFalse h =>
    simp only [true_or, true_iff]
    omega

/-- A hold is counted when it is short. -/
theorem audit_observeHold :
    (forensics.observeHold samples slot).audit =
      { forensics.audit with
        holdFloorViolationCount :=
          if samples.started < (forensics.anchors slot).completionTicks +
              forensics.effectiveMinHoldTicks then
            saturatingAdd 64 forensics.holdFloorViolationCount 1
          else forensics.holdFloorViolationCount } := by
  rw [observeHold]
  simp only [checkedSub_short]
  split
  · rfl
  · rfl

/-- A gap is counted when it is short. -/
theorem audit_observeRelease (released : ℕ) :
    (forensics.observeRelease samples slot released).audit =
      { forensics.audit with
        releaseFloorViolationCount :=
          if samples.started < released + forensics.frameTicks then
            saturatingAdd 64 forensics.releaseFloorViolationCount 1
          else forensics.releaseFloorViolationCount } := by
  rw [observeRelease, checkedSub]
  by_cases hafter : released ≤ samples.started
  · simp only [if_pos hafter]
    by_cases hshort : samples.started - released < forensics.frameTicks
    · have hearly : samples.started < released + forensics.frameTicks := by omega
      rw [if_pos hshort, if_pos hearly]
      rfl
    · have hlate : ¬samples.started < released + forensics.frameTicks := by omega
      rw [if_neg hshort, if_neg hlate]
      rfl
  · have hearly : samples.started < released + forensics.frameTicks := by omega
    simp only [if_neg hafter, if_pos hearly]
    rfl

/-- An Up ends the hold of its key, and starts the gap of its next Down. -/
theorem audit_observeUp (sameCallDownMask : BitVec 16) :
    (forensics.observeUp sameCallDownMask samples slot).audit =
      { forensics.audit with
        anchors := Function.update forensics.anchors slot
          { forensics.anchors slot with valid := false }
        lastUpCompletionTicks :=
          Function.update forensics.lastUpCompletionTicks slot (some samples.completion)
        holdFloorViolationCount :=
          if (forensics.anchors slot).valid = true ∧
              samples.started < (forensics.anchors slot).completionTicks +
                forensics.effectiveMinHoldTicks then
            saturatingAdd 64 forensics.holdFloorViolationCount 1
          else forensics.holdFloorViolationCount } := by
  have hup (observed : ProductionHoldForensics) (count : ℕ)
      (h : observed.audit = { forensics.audit with holdFloorViolationCount := count }) :
      audit { observed with
        lastUpCompletionTicks :=
          Function.update observed.lastUpCompletionTicks slot (some samples.completion)
        anchors :=
          Function.update observed.anchors slot { observed.anchors slot with valid := false } } =
      { forensics.audit with
        anchors := Function.update forensics.anchors slot
          { forensics.anchors slot with valid := false }
        lastUpCompletionTicks :=
          Function.update forensics.lastUpCompletionTicks slot (some samples.completion)
        holdFloorViolationCount := count } := by
    simp only [audit, HoldAudit.mk.injEq] at h ⊢
    obtain ⟨hanchors, hlastUp, hhold, hframe, hcount, hrelease⟩ := h
    rw [hanchors, hlastUp, hhold, hframe, hcount, hrelease]
    exact ⟨rfl, rfl, rfl, rfl, rfl, rfl⟩
  rw [observeUp]
  apply hup
  by_cases hvalid : (forensics.anchors slot).valid = true
  · have hoverlap : (forensics.observeOverlap sameCallDownMask samples slot).audit =
        forensics.audit := audit_observeOverlap sameCallDownMask
    simp only [hvalid, if_true, true_and]
    rw [audit_observeHold, hoverlap]
    simp only [audit, HoldAudit.mk.injEq] at hoverlap
    obtain ⟨hanchors, -, hhold, -, hcount, -⟩ := hoverlap
    rw [hanchors, hhold, hcount]
  · simp only [hvalid, if_false, false_and, Bool.false_eq_true]
    rfl

/-- A Down starts the hold of its key. -/
theorem audit_observeDown :
    (forensics.observeDown samples slot).audit =
      { forensics.audit with
        anchors := Function.update forensics.anchors slot ⟨true, samples.completion⟩
        releaseFloorViolationCount :=
          if ∃ released, forensics.lastUpCompletionTicks slot = some released ∧
              samples.started < released + forensics.frameTicks then
            saturatingAdd 64 forensics.releaseFloorViolationCount 1
          else forensics.releaseFloorViolationCount } := by
  have hdown (sampled : ProductionHoldForensics) (count : ℕ)
      (h : sampled.audit = { forensics.audit with releaseFloorViolationCount := count }) :
      audit { sampled.observeOverwrite samples slot with
        anchors := Function.update (sampled.observeOverwrite samples slot).anchors slot
          ⟨true, samples.completion⟩ } =
      { forensics.audit with
        anchors := Function.update forensics.anchors slot ⟨true, samples.completion⟩
        releaseFloorViolationCount := count } := by
    have hkeep : (sampled.observeOverwrite samples slot).audit = sampled.audit :=
      audit_observeOverwrite
    rw [← hkeep] at h
    simp only [audit, HoldAudit.mk.injEq] at h ⊢
    obtain ⟨hanchors, hlastUp, hhold, hframe, hcount, hrelease⟩ := h
    rw [hanchors, hlastUp, hhold, hframe, hcount, hrelease]
    exact ⟨rfl, rfl, rfl, rfl, rfl, rfl⟩
  rw [observeDown]
  apply hdown
  cases hreleased : forensics.lastUpCompletionTicks slot with
  | none =>
    simp only [reduceCtorEq, false_and, exists_false, if_false]
    rfl
  | some released =>
    simp only [Option.some.injEq, exists_eq_left']
    exact audit_observeRelease released

end ProductionHoldForensics

/-- A key event with the samples around its send. -/
structure ObservedKey where
  event : KeyEvent
  startedQpc : ℕ
  completedQpc : ℕ
  deriving DecidableEq, Repr

/-- An event is of a key. -/
def ObservedKey.touches (slot : ℕ) (key : ObservedKey) : Bool :=
  key.event = .up slot || key.event = .down slot

/-- An event is the Up of a key. -/
def ObservedKey.releases (slot : ℕ) (key : ObservedKey) : Bool := key.event = .up slot

/-- What the log of a run has: a key event, or a reset. -/
inductive ForensicsEntry where
  | key (key : ObservedKey)
  | reset
  deriving DecidableEq, Repr

/-- The key events since the last reset, with one more entry. -/
def keepSinceReset (keys : List ObservedKey) : ForensicsEntry → List ObservedKey
  | .key key => keys ++ [key]
  | .reset => []

/-- The key events since the last reset. -/
def sinceReset (log : List ForensicsEntry) : List ObservedKey := log.foldl keepSinceReset []

/-- An Up whose key's previous event since the last reset is a Down starts less than a hold after
that Down's completion. -/
def breaksHold (hold : ℕ) (log : List ForensicsEntry) : ForensicsEntry → Bool
  | .reset => false
  | .key key =>
    match key.event with
    | .up slot => (lastWhere (ObservedKey.touches slot) (sinceReset log)).any fun previous =>
        previous.event = .down slot && key.startedQpc < previous.completedQpc + hold
    | .down _ => false

/-- A Down starts less than a release gap after the completion of its key's last Up since the last
reset. -/
def breaksRelease (gap : ℕ) (log : List ForensicsEntry) : ForensicsEntry → Bool
  | .reset => false
  | .key key =>
    match key.event with
    | .up _ => false
    | .down slot => (lastWhere (ObservedKey.releases slot) (sinceReset log)).any fun released =>
        key.startedQpc < released.completedQpc + gap

/-- A further key event comes last. -/
theorem sinceReset_key (log : List ForensicsEntry) (key : ObservedKey) :
    sinceReset (log ++ [.key key]) = sinceReset log ++ [key] := by
  rw [sinceReset, List.foldl_append]
  rfl

/-- Nothing is since a reset at the end. -/
theorem sinceReset_reset (log : List ForensicsEntry) : sinceReset (log ++ [.reset]) = [] := by
  rw [sinceReset, List.foldl_append]
  rfl

/-- A count that saturates. -/
def saturated (count : ℕ) : ℕ := min count (2 ^ 64 - 1)

/-- One more of a count that saturates, or not. -/
theorem saturated_add (count : ℕ) (counted : Prop) [Decidable counted] :
    (if counted then saturatingAdd 64 (saturated count) 1 else saturated count) =
      saturated (count + if counted then 1 else 0) := by
  split
  · exact saturatingAdd_min 64 count
  · rfl

/-- The audit keeps what the log has of every key since the last reset, and counts its early
events. -/
structure Tracks (hold gap : ℕ) (log : List ForensicsEntry) (audit : HoldAudit) : Prop where
  effectiveMinHoldTicks : audit.effectiveMinHoldTicks = hold
  frameTicks : audit.frameTicks = gap
  anchor : ∀ slot completion, ((audit.anchors slot).valid = true ∧
      (audit.anchors slot).completionTicks = completion) ↔
    ∃ previous, lastWhere (ObservedKey.touches slot) (sinceReset log) = some previous ∧
      previous.event = .down slot ∧ previous.completedQpc = completion
  lastUp : ∀ slot, audit.lastUpCompletionTicks slot =
    (lastWhere (ObservedKey.releases slot) (sinceReset log)).map (·.completedQpc)
  holdCount : audit.holdFloorViolationCount = saturated (countPast (breaksHold hold) log)
  releaseCount : audit.releaseFloorViolationCount = saturated (countPast (breaksRelease gap) log)

namespace Tracks

variable {hold gap : ℕ} {log : List ForensicsEntry} {forensics : ProductionHoldForensics}

/-- The audit counts an Up exactly when it breaks the hold. -/
theorem breaksHold_up (h : Tracks hold gap log forensics.audit) (slot started completed : ℕ) :
    breaksHold hold log (.key ⟨.up slot, started, completed⟩) = true ↔
      (forensics.anchors slot).valid = true ∧
        started < (forensics.anchors slot).completionTicks + forensics.effectiveMinHoldTicks := by
  have hhold : forensics.effectiveMinHoldTicks = hold := h.effectiveMinHoldTicks
  rw [hhold]
  simp only [breaksHold, Option.any_eq_true, Bool.and_eq_true, decide_eq_true_eq]
  constructor
  · intro ⟨previous, hprevious, hdown, hshort⟩
    obtain ⟨hvalid, hcompletion⟩ := (h.anchor slot previous.completedQpc).mpr
      ⟨previous, hprevious, hdown, rfl⟩
    have hsame : (forensics.anchors slot).completionTicks = previous.completedQpc := hcompletion
    exact ⟨hvalid, hsame ▸ hshort⟩
  · intro ⟨hvalid, hshort⟩
    obtain ⟨previous, hprevious, hdown, hcompletion⟩ := (h.anchor slot _).mp ⟨hvalid, rfl⟩
    exact ⟨previous, hprevious, hdown, hcompletion ▸ hshort⟩

/-- The audit counts a Down exactly when it breaks the release gap. -/
theorem breaksRelease_down (h : Tracks hold gap log forensics.audit)
    (slot started completed : ℕ) :
    breaksRelease gap log (.key ⟨.down slot, started, completed⟩) = true ↔
      ∃ released, forensics.lastUpCompletionTicks slot = some released ∧
        started < released + forensics.frameTicks := by
  have hgap : forensics.frameTicks = gap := h.frameTicks
  have hlast : forensics.lastUpCompletionTicks slot =
      (lastWhere (ObservedKey.releases slot) (sinceReset log)).map (·.completedQpc) := h.lastUp slot
  rw [hgap, hlast]
  simp only [breaksRelease, Option.any_eq_true, decide_eq_true_eq, Option.map_eq_some_iff]
  constructor
  · intro ⟨released, hreleased, hshort⟩
    exact ⟨_, ⟨released, hreleased, rfl⟩, hshort⟩
  · intro ⟨_, ⟨released, hreleased, hsame⟩, hshort⟩
    exact ⟨released, hreleased, hsame ▸ hshort⟩

/-- Observing the Up of a key tracks it. -/
theorem observeUp (h : Tracks hold gap log forensics.audit) (sameCallDownMask : BitVec 16)
    (samples : SendSamples) (slot : ℕ) :
    Tracks hold gap (log ++ [.key ⟨.up slot, samples.started, samples.completion⟩])
      (forensics.observeUp sameCallDownMask samples slot).audit := by
  have hbreaks := h.breaksHold_up slot samples.started samples.completion
  rw [ProductionHoldForensics.audit_observeUp]
  constructor
  case effectiveMinHoldTicks => exact h.effectiveMinHoldTicks
  case frameTicks => exact h.frameTicks
  case anchor =>
    intro other completion
    rw [sinceReset_key, lastWhere_concat]
    by_cases hother : other = slot
    · subst hother
      simp [ObservedKey.touches]
    · have hsame := h.anchor other completion
      have huntouched : ObservedKey.touches other ⟨.up slot, samples.started, samples.completion⟩ =
          false := by simp [ObservedKey.touches, Ne.symm hother]
      rw [huntouched]
      simpa [ProductionHoldForensics.audit, hother] using hsame
  case lastUp =>
    intro other
    rw [sinceReset_key, lastWhere_concat]
    by_cases hother : other = slot
    · subst hother
      simp [ObservedKey.releases]
    · have hsame := h.lastUp other
      have huntouched : ObservedKey.releases other ⟨.up slot, samples.started, samples.completion⟩ =
          false := by simp [ObservedKey.releases, Ne.symm hother]
      rw [huntouched]
      simpa [ProductionHoldForensics.audit, hother] using hsame
  case holdCount =>
    have hcount : forensics.holdFloorViolationCount =
        saturated (countPast (breaksHold hold) log) := h.holdCount
    simp only [countPast_concat, hbreaks, hcount, saturated_add]
  case releaseCount =>
    rw [countPast_concat]
    exact h.releaseCount

/-- Observing the Down of a key tracks it. -/
theorem observeDown (h : Tracks hold gap log forensics.audit) (samples : SendSamples)
    (slot : ℕ) :
    Tracks hold gap (log ++ [.key ⟨.down slot, samples.started, samples.completion⟩])
      (forensics.observeDown samples slot).audit := by
  have hbreaks := h.breaksRelease_down slot samples.started samples.completion
  rw [ProductionHoldForensics.audit_observeDown]
  constructor
  case effectiveMinHoldTicks => exact h.effectiveMinHoldTicks
  case frameTicks => exact h.frameTicks
  case anchor =>
    intro other completion
    rw [sinceReset_key, lastWhere_concat]
    by_cases hother : other = slot
    · subst hother
      simp [ObservedKey.touches]
    · have hsame := h.anchor other completion
      have huntouched : ObservedKey.touches other
          ⟨.down slot, samples.started, samples.completion⟩ = false := by
        simp [ObservedKey.touches, Ne.symm hother]
      rw [huntouched]
      simpa [ProductionHoldForensics.audit, hother] using hsame
  case lastUp =>
    intro other
    have hunreleased : ObservedKey.releases other
        ⟨.down slot, samples.started, samples.completion⟩ = false := by
      simp [ObservedKey.releases]
    rw [sinceReset_key, lastWhere_concat, hunreleased]
    exact h.lastUp other
  case holdCount =>
    rw [countPast_concat]
    exact h.holdCount
  case releaseCount =>
    have hcount : forensics.releaseFloorViolationCount =
        saturated (countPast (breaksRelease gap) log) := h.releaseCount
    simp only [countPast_concat, hbreaks, hcount, saturated_add]

/-- Without evidence an empty log is tracked. -/
theorem empty (hold gap : ℕ) :
    Tracks hold gap [] (ProductionHoldForensics.empty.setFramePolicies hold gap).audit where
  effectiveMinHoldTicks := rfl
  frameTicks := rfl
  anchor slot completion := by
    simp [ProductionHoldForensics.empty, ProductionHoldForensics.setFramePolicies,
      ProductionHoldForensics.audit, sinceReset, lastWhere]
  lastUp _ := rfl
  holdCount := rfl
  releaseCount := rfl

/-- A reset is tracked, and counts nothing. -/
theorem reset (h : Tracks hold gap log forensics.audit) (change : ObserverLifecycle) :
    Tracks hold gap (log ++ [.reset]) (forensics.observeLifecycle change).audit := by
  cases change
  constructor
  case effectiveMinHoldTicks => exact h.effectiveMinHoldTicks
  case frameTicks => exact h.frameTicks
  case anchor =>
    intro slot completion
    rw [sinceReset_reset]
    simp [ProductionHoldForensics.observeLifecycle, ProductionHoldForensics.audit, lastWhere]
  case lastUp =>
    intro slot
    rw [sinceReset_reset]
    rfl
  case holdCount =>
    rw [countPast_concat]
    exact h.holdCount
  case releaseCount =>
    rw [countPast_concat]
    exact h.releaseCount

/-- Observing Ups one after another tracks them. -/
theorem observeUps (h : Tracks hold gap log forensics.audit) (sameCallDownMask : BitVec 16)
    (samples : SendSamples) (keys : List ℕ) :
    Tracks hold gap
      (log ++ keys.map fun slot => .key ⟨.up slot, samples.started, samples.completion⟩)
      (keys.foldl (ProductionHoldForensics.observeUp sameCallDownMask samples)
        forensics).audit := by
  induction keys generalizing log forensics with
  | nil =>
    rw [List.map_nil, List.append_nil]
    exact h
  | cons slot rest ih =>
    have hrest := ih (h.observeUp sameCallDownMask samples slot)
    rwa [List.append_assoc, List.singleton_append] at hrest

/-- Observing Downs one after another tracks them. -/
theorem observeDowns (h : Tracks hold gap log forensics.audit) (samples : SendSamples)
    (keys : List ℕ) :
    Tracks hold gap
      (log ++ keys.map fun slot => .key ⟨.down slot, samples.started, samples.completion⟩)
      (keys.foldl (ProductionHoldForensics.observeDown samples) forensics).audit := by
  induction keys generalizing log forensics with
  | nil =>
    rw [List.map_nil, List.append_nil]
    exact h
  | cons slot rest ih =>
    have hrest := ih (h.observeDown samples slot)
    rwa [List.append_assoc, List.singleton_append] at hrest

end Tracks

/-- A recovery is observed like a packet without Downs. -/
theorem ProductionHoldForensics.observeRecoveryUp_eq (upMask : BitVec 16) (samples : SendSamples)
    (fullTransportSuccess : Bool) (forensics : ProductionHoldForensics) :
    forensics.observeRecoveryUp upMask samples fullTransportSuccess =
      forensics.observePacket ⟨upMask, 0#16⟩ samples fullTransportSuccess := by
  rw [observeRecoveryUp, observePacket, observeDowns, slots_zero, List.foldl_nil]

/-- What the worker tells its audit. -/
inductive ForensicsEvent where
  | packet (sent : PhysicalPacket) (samples : SendSamples) (status : SendTransactionStatus)
  | recoveryUp (upMask : BitVec 16) (samples : SendSamples) (fullTransportSuccess : Bool)
  | lifecycle (change : ObserverLifecycle)
  deriving DecidableEq, Repr

/-- The audit after an event. -/
def ProductionHoldForensics.observe (forensics : ProductionHoldForensics) :
    ForensicsEvent → ProductionHoldForensics
  | .packet sent samples status => forensics.observePacketResult sent samples status
  | .recoveryUp upMask samples fullTransportSuccess =>
    forensics.observeRecoveryUp upMask samples fullTransportSuccess
  | .lifecycle change => forensics.observeLifecycle change

/-- The audit of a session, after a run of events. -/
def ProductionHoldForensics.after (hold gap : ℕ) (events : List ForensicsEvent) :
    ProductionHoldForensics :=
  events.foldl ProductionHoldForensics.observe
    (ProductionHoldForensics.empty.setFramePolicies hold gap)

/-- The key events of a packet in their order, with its samples. -/
def keyEntries (sent : PhysicalPacket) (samples : SendSamples) : List ForensicsEntry :=
  sent.keyEvents.map fun event => .key ⟨event, samples.started, samples.completion⟩

/-- What an event adds to the log: the keys that were sent with success, or a reset. -/
def ForensicsEvent.entries : ForensicsEvent → List ForensicsEntry
  | .packet sent samples status => if status = .complete then keyEntries sent samples else []
  | .recoveryUp upMask samples fullTransportSuccess =>
    if fullTransportSuccess then keyEntries ⟨upMask, 0#16⟩ samples else []
  | .lifecycle _ => [.reset]

/-- The log of a run of events. -/
def forensicsLog (events : List ForensicsEvent) : List ForensicsEntry :=
  events.flatMap ForensicsEvent.entries

namespace Tracks

variable {hold gap : ℕ} {log : List ForensicsEntry} {forensics : ProductionHoldForensics}

/-- Observing a packet tracks its keys. -/
theorem observePacket (h : Tracks hold gap log forensics.audit) (sent : PhysicalPacket)
    (samples : SendSamples) :
    Tracks hold gap (log ++ keyEntries sent samples)
      (forensics.observePacket sent samples true).audit := by
  have hups := h.observeUps sent.downMask samples (slots sent.upMask)
  have hdowns := hups.observeDowns samples (slots sent.downMask)
  rw [keyEntries, PhysicalPacket.keyEvents, List.map_append, List.map_map, List.map_map,
    ← List.append_assoc]
  exact hdowns

/-- Observing an event tracks its entries. -/
theorem observe (h : Tracks hold gap log forensics.audit) (event : ForensicsEvent) :
    Tracks hold gap (log ++ event.entries) (forensics.observe event).audit := by
  cases event with
  | packet sent samples status =>
    rw [ForensicsEvent.entries, ProductionHoldForensics.observe,
      ProductionHoldForensics.observePacketResult]
    by_cases hcomplete : status = .complete
    · simpa [hcomplete] using h.observePacket sent samples
    · simpa [hcomplete, ProductionHoldForensics.observePacket] using h
  | recoveryUp upMask samples fullTransportSuccess =>
    rw [ForensicsEvent.entries, ProductionHoldForensics.observe,
      ProductionHoldForensics.observeRecoveryUp_eq]
    cases fullTransportSuccess with
    | false => simpa [ProductionHoldForensics.observePacket] using h
    | true => exact h.observePacket ⟨upMask, 0#16⟩ samples
  | lifecycle change => exact h.reset change

/-- A run of events tracks its log. -/
theorem after (hold gap : ℕ) (events : List ForensicsEvent) :
    Tracks hold gap (forensicsLog events)
      (ProductionHoldForensics.after hold gap events).audit := by
  induction events using List.reverseRecOn with
  | nil => exact Tracks.empty hold gap
  | append_singleton events event ih =>
    rw [forensicsLog, List.flatMap_append, List.flatMap_singleton, ProductionHoldForensics.after,
      List.foldl_append]
    exact ih.observe event

end Tracks

/-- What the audit is told along a run of the guard: barriers come with resets. -/
def auditedEvents (sourceActionIndex target : ObservedPacket → ℕ) : GuardEvent → List ForensicsEvent
  | .packet packet => [.packet ⟨packet.upMask, packet.downMask⟩
      ⟨sourceActionIndex packet, target packet, packet.startedQpc, packet.completedQpc⟩ .complete]
  | .cleanupBarrier _ => [.lifecycle .resetAll]
  | .invalidation => []

/-- The key events of a guard's packet. -/
def ObservedPacket.keys (packet : ObservedPacket) : List ObservedKey :=
  (PhysicalPacket.mk packet.upMask packet.downMask).keyEvents.map fun event =>
    ⟨event, packet.startedQpc, packet.completedQpc⟩

section Guard

variable (sourceActionIndex target : ObservedPacket → ℕ)

/-- The log of a run of the guard. -/
def guardLog (events : List GuardEvent) : List ForensicsEntry :=
  forensicsLog (events.flatMap (auditedEvents sourceActionIndex target))

/-- A further event adds its entries. -/
theorem guardLog_concat (events : List GuardEvent) (event : GuardEvent) :
    guardLog sourceActionIndex target (events ++ [event]) =
      guardLog sourceActionIndex target events ++
        forensicsLog (auditedEvents sourceActionIndex target event) := by
  rw [guardLog, forensicsLog, List.flatMap_append, List.flatMap_append, List.flatMap_singleton]
  rfl

/-- A packet's entries are its keys. -/
theorem forensicsLog_packet (packet : ObservedPacket) :
    forensicsLog (auditedEvents sourceActionIndex target (.packet packet)) =
      packet.keys.map .key := by
  simp [forensicsLog, auditedEvents, ForensicsEvent.entries, keyEntries, ObservedPacket.keys]

/-- The keys of a part that has no reset come last. -/
theorem sinceReset_keys (log : List ForensicsEntry) (keys : List ObservedKey) :
    sinceReset (log ++ keys.map .key) = sinceReset log ++ keys := by
  induction keys using List.reverseRecOn with
  | nil => simp
  | append_singleton keys key ih =>
    rw [List.map_append, ← List.append_assoc, List.map_singleton, sinceReset_key, ih,
      List.append_assoc]

/-- The audit keeps the keys of the packets since the last barrier. -/
theorem sinceReset_guardLog (events : List GuardEvent) :
    sinceReset (guardLog sourceActionIndex target events) =
      (sinceBarrier events).flatMap ObservedPacket.keys := by
  induction events using List.reverseRecOn with
  | nil => rfl
  | append_singleton events event ih =>
    rw [guardLog_concat, sinceBarrier, List.foldl_append]
    cases event with
    | packet packet =>
      rw [forensicsLog_packet, sinceReset_keys, ih, List.foldl_cons, List.foldl_nil, trackBarrier,
        List.flatMap_append, List.flatMap_singleton]
      rfl
    | cleanupBarrier completedQpc =>
      exact sinceReset_reset _
    | invalidation =>
      rw [List.foldl_cons, List.foldl_nil, trackBarrier]
      simpa [forensicsLog, auditedEvents, sinceBarrier] using ih

end Guard

/-- The Ups of a packet are those of its mask. -/
theorem ObservedPacket.mem_keys {packet : ObservedPacket} {key : ObservedKey}
    (h : key ∈ packet.keys) :
    key.startedQpc = packet.startedQpc ∧ key.completedQpc = packet.completedQpc ∧
      (∀ slot, key.event = .up slot → slot ∈ slots packet.upMask) ∧
      ∀ slot, key.event = .down slot → slot ∈ slots packet.downMask := by
  obtain ⟨event, hevent, rfl⟩ := List.mem_map.mp h
  rw [PhysicalPacket.keyEvents, List.mem_append, List.mem_map, List.mem_map] at hevent
  refine ⟨rfl, rfl, ?_, ?_⟩
  · intro slot heq
    obtain ⟨other, hother, rfl⟩ | ⟨other, hother, rfl⟩ := hevent
    · exact KeyEvent.up.inj heq ▸ hother
    · cases heq
  · intro slot heq
    obtain ⟨other, hother, rfl⟩ | ⟨other, hother, rfl⟩ := hevent
    · cases heq
    · exact KeyEvent.down.inj heq ▸ hother

section Clean

variable {hold gap : ℕ} {sourceActionIndex target : ObservedPacket → ℕ} {before : List GuardEvent}
  {packet : ObservedPacket}

/-- A key event before another one of a packet is of a packet since the last barrier, or of the same
packet. -/
theorem mem_since {front : List ObservedKey} {p : ObservedKey → Bool} {previous : ObservedKey}
    (h : lastWhere p (sinceReset (guardLog sourceActionIndex target before ++ front.map .key)) =
      some previous) :
    p previous = true ∧
      ((∃ earlier ∈ sinceBarrier before, previous ∈ earlier.keys) ∨ previous ∈ front) := by
  obtain ⟨hmem, hp⟩ := lastWhere_eq_some h
  rw [sinceReset_keys, sinceReset_guardLog, List.mem_append, List.mem_flatMap] at hmem
  exact ⟨hp, hmem⟩

/-- An Up of a spaced packet keeps the hold. -/
theorem breaksHold_of_spaced (hspaced : Spaced hold gap before packet)
    (hmasks : PhysicalTimingGuard.validatePacketMasks packet.upMask packet.downMask = .ok ())
    {front back : List ObservedKey} {key : ObservedKey}
    (hkeys : packet.keys = front ++ key :: back) :
    breaksHold hold (guardLog sourceActionIndex target before ++ front.map .key) (.key key) =
      false := by
  have hkey := ObservedPacket.mem_keys (hkeys ▸ List.mem_append_right front List.mem_cons_self)
  have hfront (previous : ObservedKey) (hmem : previous ∈ front) : previous ∈ packet.keys :=
    hkeys ▸ List.mem_append_left (key :: back) hmem
  obtain ⟨event, started, completed⟩ := key
  cases event with
  | down slot => rfl
  | up slot =>
    rw [Bool.eq_false_iff]
    intro hbreaks
    simp only [breaksHold, Option.any_eq_true, Bool.and_eq_true, decide_eq_true_eq] at hbreaks
    obtain ⟨previous, hprevious, hdown, hshort⟩ := hbreaks
    have hreleased := hkey.2.2.1 slot rfl
    obtain ⟨-, ⟨earlier, hearlier, hmem⟩ | hmem⟩ := mem_since hprevious
    · obtain ⟨-, hcompleted, -, hpressed⟩ := ObservedPacket.mem_keys hmem
      have hheld := hspaced.hold earlier hearlier slot (hpressed slot hdown) hreleased
      rw [hcompleted] at hshort
      have hstarted : started = packet.startedQpc := hkey.1
      omega
    · have hsame := ObservedPacket.mem_keys (hfront _ hmem)
      exact PhysicalTimingGuard.disjoint_of_masks hmasks hreleased (hsame.2.2.2 slot hdown)

/-- A Down of a spaced packet keeps the release gap. -/
theorem breaksRelease_of_spaced (hspaced : Spaced hold gap before packet)
    (hmasks : PhysicalTimingGuard.validatePacketMasks packet.upMask packet.downMask = .ok ())
    {front back : List ObservedKey} {key : ObservedKey}
    (hkeys : packet.keys = front ++ key :: back) :
    breaksRelease gap (guardLog sourceActionIndex target before ++ front.map .key) (.key key) =
      false := by
  have hkey := ObservedPacket.mem_keys (hkeys ▸ List.mem_append_right front List.mem_cons_self)
  have hfront (previous : ObservedKey) (hmem : previous ∈ front) : previous ∈ packet.keys :=
    hkeys ▸ List.mem_append_left (key :: back) hmem
  obtain ⟨event, started, completed⟩ := key
  cases event with
  | up slot => rfl
  | down slot =>
    rw [Bool.eq_false_iff]
    intro hbreaks
    simp only [breaksRelease, Option.any_eq_true, decide_eq_true_eq] at hbreaks
    obtain ⟨released, hlast, hshort⟩ := hbreaks
    have hpressed := hkey.2.2.2 slot rfl
    obtain ⟨hreleases, ⟨earlier, hearlier, hmem⟩ | hmem⟩ := mem_since hlast
    · obtain ⟨-, hcompleted, hups, -⟩ := ObservedPacket.mem_keys hmem
      have hup := hups slot (of_decide_eq_true hreleases)
      have hgap := hspaced.gap earlier hearlier slot hup hpressed
      rw [hcompleted] at hshort
      have hstarted : started = packet.startedQpc := hkey.1
      omega
    · have hsame := ObservedPacket.mem_keys (hfront _ hmem)
      exact PhysicalTimingGuard.disjoint_of_masks hmasks
        (hsame.2.2.1 slot (of_decide_eq_true hreleases)) hpressed

/-- A run that the guard admits has no early event. -/
theorem guardLog_clean (sourceActionIndex target : ObservedPacket → ℕ) {startQpc : ℕ}
    {events : List GuardEvent}
    (hrun : GuardRun (GuardSession.new hold gap startQpc) events) :
    countPast (breaksHold hold) (guardLog sourceActionIndex target events) = 0 ∧
      countPast (breaksRelease gap) (guardLog sourceActionIndex target events) = 0 := by
  induction events using List.reverseRecOn with
  | nil => exact ⟨rfl, rfl⟩
  | append_singleton events event ih =>
    obtain ⟨hbefore, hadmits, -⟩ := guarded_append.mp hrun
    obtain ⟨hhold, hrelease⟩ := ih hbefore
    have hevidence := (Evidence.new hold gap startQpc).run hbefore
    rw [List.nil_append] at hevidence
    rw [guardLog_concat]
    cases event with
    | packet packet =>
      have hspaced := hevidence.spaced hadmits
      obtain ⟨-, -, window, hquery, -⟩ := hadmits
      obtain ⟨-, hmasks, -⟩ := PhysicalTimingGuard.query_eq_ok hquery
      rw [forensicsLog_packet]
      constructor
      · rw [countPast_append_eq, hhold]
        intro front entry back hsplit
        obtain ⟨first, rest, hkeys, rfl, hrest⟩ := List.map_eq_append_iff.mp hsplit
        obtain ⟨key, last, rfl, rfl, rfl⟩ := List.map_eq_cons_iff.mp hrest
        exact breaksHold_of_spaced hspaced hmasks hkeys
      · rw [countPast_append_eq, hrelease]
        intro front entry back hsplit
        obtain ⟨first, rest, hkeys, rfl, hrest⟩ := List.map_eq_append_iff.mp hsplit
        obtain ⟨key, last, rfl, rfl, rfl⟩ := List.map_eq_cons_iff.mp hrest
        exact breaksRelease_of_spaced hspaced hmasks hkeys
    | cleanupBarrier completedQpc =>
      constructor
      · exact (countPast_concat _ _ _).trans hhold
      · exact (countPast_concat _ _ _).trans hrelease
    | invalidation =>
      constructor
      · simpa [forensicsLog, auditedEvents] using hhold
      · simpa [forensicsLog, auditedEvents] using hrelease

end Clean

/-- The samples of an event. -/
def ForensicsEvent.times : ForensicsEvent → List ℕ
  | .packet _ samples _ => [samples.started, samples.completion]
  | .recoveryUp _ samples _ => [samples.started, samples.completion]
  | .lifecycle _ => []

/-- No sample is before an earlier one. -/
def InOrder (events : List ForensicsEvent) : Prop :=
  (events.flatMap ForensicsEvent.times).Pairwise (· ≤ ·)

/-- A key pressed and released at once, again and again. -/
def earlyRounds (count : ℕ) : List ForensicsEvent :=
  (List.replicate count [.packet ⟨0#16, 1#16⟩ ⟨0, 0, 0, 0⟩ .complete,
    .packet ⟨1#16, 0#16⟩ ⟨0, 0, 0, 0⟩ .complete]).flatten

/-- A round more comes last. -/
theorem earlyRounds_succ (count : ℕ) :
    earlyRounds (count + 1) = earlyRounds count ++
      [.packet ⟨0#16, 1#16⟩ ⟨0, 0, 0, 0⟩ .complete,
        .packet ⟨1#16, 0#16⟩ ⟨0, 0, 0, 0⟩ .complete] := by
  rw [earlyRounds, List.replicate_succ', List.flatten_concat]
  rfl

/-- The rounds are in order. -/
theorem earlyRounds_inOrder (count : ℕ) : InOrder (earlyRounds count) := by
  have hzero : ∀ time ∈ (earlyRounds count).flatMap ForensicsEvent.times, time = 0 := by
    induction count with
    | zero => exact fun time h => absurd h List.not_mem_nil
    | succ count ih =>
      intro time htime
      rw [earlyRounds_succ, List.flatMap_append, List.mem_append] at htime
      rcases htime with hbefore | hlast
      · exact ih time hbefore
      · simpa [ForensicsEvent.times] using hlast
  apply List.pairwise_of_forall_mem_list
  intro first hfirst second hsecond
  rw [hzero first hfirst]
  exact Nat.zero_le second

/-- Every round has an early Up. -/
theorem countPast_earlyRounds (count : ℕ) :
    countPast (breaksHold 1) (forensicsLog (earlyRounds count)) = count := by
  induction count with
  | zero => rfl
  | succ count ih =>
    have hlast : forensicsLog [.packet ⟨0#16, 1#16⟩ ⟨0, 0, 0, 0⟩ .complete,
        .packet ⟨1#16, 0#16⟩ ⟨0, 0, 0, 0⟩ .complete] =
          [.key ⟨.down 0, 0, 0⟩, .key ⟨.up 0, 0, 0⟩] := by decide
    have hsplit : forensicsLog (earlyRounds (count + 1)) =
        forensicsLog (earlyRounds count) ++ [.key ⟨.down 0, 0, 0⟩] ++ [.key ⟨.up 0, 0, 0⟩] := by
      rw [earlyRounds_succ, forensicsLog, List.flatMap_append, ← forensicsLog, ← forensicsLog,
        hlast, List.append_assoc]
      rfl
    have hdown : breaksHold 1 (forensicsLog (earlyRounds count)) (.key ⟨.down 0, 0, 0⟩) = false :=
      rfl
    have hup : breaksHold 1 (forensicsLog (earlyRounds count) ++ [.key ⟨.down 0, 0, 0⟩])
        (.key ⟨.up 0, 0, 0⟩) = true := by
      simp [breaksHold, sinceReset_key, lastWhere_concat, ObservedKey.touches]
    rw [hsplit, countPast_concat, countPast_concat, hdown, hup, ih]
    rfl

/-- A run can have more early Ups than the count holds. -/
theorem violation_count_saturates :
    ¬∀ (hold gap : ℕ) (events : List ForensicsEvent), InOrder events →
      (ProductionHoldForensics.after hold gap events).holdFloorViolationCount =
        countPast (breaksHold hold) (forensicsLog events) ∧
      (ProductionHoldForensics.after hold gap events).releaseFloorViolationCount =
        countPast (breaksRelease gap) (forensicsLog events) := by
  intro h
  have hbound (count : ℕ) : count ≤ 2 ^ 64 - 1 := by
    have hexact := (h 1 1 (earlyRounds count) (earlyRounds_inOrder count)).1
    have hcount : (ProductionHoldForensics.after 1 1 (earlyRounds count)).holdFloorViolationCount =
        saturated (countPast (breaksHold 1) (forensicsLog (earlyRounds count))) :=
      (Tracks.after 1 1 (earlyRounds count)).holdCount
    rw [hcount, countPast_earlyRounds, saturated] at hexact
    omega
  have hlimit := hbound (2 ^ 64)
  omega

/-- In every run the audit counts the early Ups and the early Downs exactly, until a count
saturates. Along every run that the guard admits it counts none. -/
theorem forensics_count_violations (hold gap : ℕ) :
    (∀ events : List ForensicsEvent,
      (ProductionHoldForensics.after hold gap events).holdFloorViolationCount =
        min (countPast (breaksHold hold) (forensicsLog events)) (2 ^ 64 - 1) ∧
      (ProductionHoldForensics.after hold gap events).releaseFloorViolationCount =
        min (countPast (breaksRelease gap) (forensicsLog events)) (2 ^ 64 - 1)) ∧
    ∀ (startQpc : ℕ) (events : List GuardEvent) (sourceActionIndex target : ObservedPacket → ℕ),
      GuardRun (GuardSession.new hold gap startQpc) events →
      (ProductionHoldForensics.after hold gap
        (events.flatMap (auditedEvents sourceActionIndex target))).holdFloorViolationCount = 0 ∧
      (ProductionHoldForensics.after hold gap
        (events.flatMap (auditedEvents sourceActionIndex target))).releaseFloorViolationCount =
          0 := by
  have hcounts (events : List ForensicsEvent) := Tracks.after hold gap events
  constructor
  · intro events
    exact ⟨(hcounts events).holdCount, (hcounts events).releaseCount⟩
  · intro startQpc events sourceActionIndex target hrun
    obtain ⟨hhold, hrelease⟩ := guardLog_clean sourceActionIndex target hrun
    have htracks := hcounts (events.flatMap (auditedEvents sourceActionIndex target))
    constructor
    · refine htracks.holdCount.trans ?_
      rw [guardLog] at hhold
      rw [hhold]
      rfl
    · refine htracks.releaseCount.trans ?_
      rw [guardLog] at hrelease
      rw [hrelease]
      rfl

/-- A press, its release after the hold, a cleanup, and the next press after the barrier. -/
def cleanGuardEvents : List GuardEvent :=
  [.packet ⟨100, 0#16, 1#16, 100, 105⟩, .packet ⟨120, 1#16, 0#16, 135, 136⟩, .cleanupBarrier 140,
    .packet ⟨150, 0#16, 1#16, 152, 153⟩]

/-- The audit of the admitted sends counts no early event. -/
theorem cleanGuardEvents_clean :
    (ProductionHoldForensics.after 30 12 (cleanGuardEvents.flatMap
      (auditedEvents (fun _ => 0) ObservedPacket.authoredTargetQpc))).holdFloorViolationCount = 0 ∧
    (ProductionHoldForensics.after 30 12 (cleanGuardEvents.flatMap
      (auditedEvents (fun _ => 0) ObservedPacket.authoredTargetQpc))).releaseFloorViolationCount =
        0 := by
  have hrun : GuardRun (GuardSession.new 30 12 0) cleanGuardEvents := by
    have hcleaned : 136 ≤ 140 := by decide
    exact ⟨⟨by decide, by decide, _, rfl, by decide⟩, ⟨by decide, by decide, _, rfl, by decide⟩,
      hcleaned, ⟨by decide, by decide, _, rfl, by decide⟩, trivial⟩
  exact (forensics_count_violations 30 12).2 0 cleanGuardEvents _ _ hrun

end SkyAutoPlayer.Player
