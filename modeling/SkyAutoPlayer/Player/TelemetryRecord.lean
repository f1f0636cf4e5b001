import Mathlib.Tactic.NormNum
import SkyAutoPlayer.DispatchWin32.PhysicalPacket
import SkyAutoPlayer.Player.PhysicalTimingGuard

/-!
# The records of the dispatches

An observation of a send becomes one record of the telemetry. The record splits the lateness of the send
into what the physical floors have moved it by and what is left, and splits what is left into the time
before which the previous send had not returned and the rest. Each of the differences is checked, and one
that does not fit ends the playback.
-/

namespace SkyAutoPlayer.Player

open Foundation DispatchCore DispatchWin32

/-- The text of an arithmetic failure. -/
def timeArithmeticText : TimeArithmeticError → String
  | .overflow => "timestamp arithmetic overflow"
  | .underflow => "timestamp arithmetic underflow"
  | .negativeOrder => "timestamps are not in monotonic order"

/-- Where a sample of the clock comes from. -/
inductive TimestampProvenance where
  | measured
  | derivedFromPreCall
  | unavailable
  | derivedFromWakeQpc
  | derivedFromSendInputCompletion
  deriving DecidableEq, Repr

/-- What a record says of its packet. -/
structure TraceContext where
  eventIndex : ℕ
  sourceActionIndex : ℕ
  compiledPacketIndex : Option ℕ
  kind : ℕ
  outcome : ℕ
  polyphony : ℕ
  flags : ℕ
  sendStatus : ℕ
  win32Error : ℕ
  upMask : BitVec 16
  downMask : BitVec 16

/-- The instants of a dispatch, those that were sampled. -/
structure TraceTiming where
  authoredTicks : ℕ
  effectiveDeadlineTicks : ℕ
  wakeTicks : Option ℕ
  wakeQpcTicks : Option ℕ
  targetCrossingQpcTicks : Option ℕ
  physicalTargetQpcTicks : Option ℕ
  physicalNotBeforeQpcTicks : Option ℕ
  holdFloorQpcTicks : Option ℕ
  releaseFloorQpcTicks : Option ℕ
  previousSendinputCompletionQpcTicks : Option ℕ
  previousSenderCompletionKnown : Bool
  holdFloorMask : BitVec 16
  releaseFloorMask : BitVec 16
  finalPolicyQpcTicks : Option ℕ
  preCallQpcTicks : Option ℕ
  sendinputCompletionQpcTicks : Option ℕ
  postSendQpcTicks : Option ℕ
  observationQpcTicks : Option ℕ
  preCallTicks : Option ℕ
  sendinputCompletionTicks : Option ℕ
  completionResidualUs : ℕ
  corePostSendDurationUs : ℕ
  postSendMetricsAvailable : Bool
  completionErrorTicks : ℤ
  authoredCompletionErrorTicks : ℤ

/-- How many events of a packet were sent. -/
structure TraceDelivery where
  requested : ℕ
  sent : ℕ
  skipped : ℕ
  sendAttempts : ℕ

/-- One record of the telemetry. -/
structure RtTraceRecord where
  compiledPacketIndex : ℕ
  authoredOffsetTicks : ℕ
  effectiveDeadlineOffsetTicks : ℕ
  wakeOffsetTicks : ℕ
  wakeQpcTicks : ℕ
  targetCrossingQpcTicks : ℕ
  finalPolicyQpcTicks : ℕ
  preCallQpcTicks : ℕ
  sendinputCompletionQpcTicks : ℕ
  postSendQpcTicks : ℕ
  observationQpcTicks : ℕ
  sendStartedTicks : ℕ
  sendCompletedTicks : ℕ
  authoredLatenessTicks : ℤ
  physicalFloorDisplacementTicks : ℕ
  holdFloorDisplacementTicks : ℕ
  releaseFloorDisplacementTicks : ℕ
  otherFloorDisplacementTicks : ℕ
  residualLatenessTicks : ℤ
  holDelayLowerBoundTicks : ℕ
  unattributedLatenessTicks : ℕ
  sendinputEnvelopeTicks : ℕ
  dispatchCostUs : ℕ
  corePostSendDurationUs : ℕ
  dispatchStartErrorTicks : ℤ
  completionErrorTicks : ℤ
  authoredCompletionErrorTicks : ℤ
  traceRecordIndex : ℕ
  sourceActionIndex : ℕ
  eventIndex : ℕ
  appliedLeadTicks : ℕ
  win32Error : ℕ
  upMask : BitVec 16
  downMask : BitVec 16
  holdFloorMask : BitVec 16
  releaseFloorMask : BitVec 16
  compiledPacketIndexAvailable : Bool
  wakeOffsetAvailable : Bool
  wakeQpcAvailable : Bool
  targetCrossingQpcAvailable : Bool
  finalPolicyQpcAvailable : Bool
  preCallQpcAvailable : Bool
  sendinputCompletionQpcAvailable : Bool
  postSendQpcAvailable : Bool
  observationQpcAvailable : Bool
  authoredLatenessAvailable : Bool
  authoredTargetOverdue : Bool
  floorDisplacementAvailable : Bool
  residualLatenessAvailable : Bool
  holDelayAvailable : Bool
  unattributedLatenessAvailable : Bool
  sendinputEnvelopeAvailable : Bool
  transportAnomaly : Bool
  wakeOffsetProvenance : TimestampProvenance
  wakeQpcProvenance : TimestampProvenance
  targetCrossingQpcProvenance : TimestampProvenance
  finalPolicyQpcProvenance : TimestampProvenance
  preCallQpcProvenance : TimestampProvenance
  sendinputCompletionQpcProvenance : TimestampProvenance
  postSendQpcProvenance : TimestampProvenance
  observationQpcProvenance : TimestampProvenance
  sendStartedTicksProvenance : TimestampProvenance
  sendCompletedTicksProvenance : TimestampProvenance
  postSendMetricsAvailable : Bool
  kind : ℕ
  outcome : ℕ
  polyphony : ℕ
  flags : ℕ
  sendStatus : ℕ
  requestedCount : ℕ
  sentCount : ℕ
  skippedCount : ℕ
  sendAttempts : ℕ

/-- The kinds of a record's packet. -/
def traceKindDown : ℕ := 0
def traceKindUp : ℕ := 1
def traceKindMixed : ℕ := 2

/-- The flags of a record. -/
def traceFlagSentFull : ℕ := 1
def traceFlagRecovery : ℕ := 2
def traceFlagAnomaly : ℕ := 8

/-- The status of a record whose packet was not sent. -/
def traceSendStatusNotAttempted : ℕ := 8

/-- The number of a send's status. -/
def traceSendStatusCode : SendTransactionStatus → ℕ
  | .complete => 0
  | .preparationRejected => 1
  | .zeroProgress => 2
  | .partialProgress => 3
  | .integrityLost => 4
  | .clockFailureBeforeSend => 6
  | .clockFailureAfterSend => 7

/-- The number of an outcome's name. -/
def traceOutcomeCode (outcome : String) : ℕ :=
  match outcome with
  | "sent" => 0
  | "deferred_release" => 1
  | "failed_note_off" => 2
  | "blocked_unfocused" => 3
  | "suppressed_stale_up" => 4
  | "recovered_zero_progress_but_late" => 5
  | "strict_completion_slo_exceeded" => 6
  | "chord_integrity_lost" => 7
  | "aborted" => 8
  | "down_unobserved_backlog" => 10
  | _ => 255

/-- A count as a byte. -/
def toByte (count : ℕ) : Except TimeArithmeticError ℕ := okOr .overflow (fit 8 count)

/-- A difference that a signed word holds. -/
abbrev FitsSigned (difference : ℤ) : Prop := -2 ^ 63 ≤ difference ∧ difference < 2 ^ 63

/-- A difference as a signed word. -/
def toSigned (difference : ℤ) : Except TimeArithmeticError ℤ :=
  if FitsSigned difference then .ok difference else .error .overflow

/-- The difference of signed words, up to the least and the greatest of them. -/
def saturatingSignedSub (first second : ℤ) : ℤ :=
  max (-2 ^ 63) (min (first - second) (2 ^ 63 - 1))

/-- How far a value is past a baseline that it is not before. -/
def checkedDisplacement (value baseline : Option ℕ) : Except TimeArithmeticError (Option ℕ) :=
  match value, baseline with
  | some value, some baseline => (okOr .overflow (checkedSub value baseline)).map some
  | _, _ => .ok none

/-- How far a value is past a baseline, or before it. -/
def checkedSignedDelta (value baseline : Option ℕ) : Except TimeArithmeticError (Option ℤ) :=
  match value, baseline with
  | some value, some baseline => (toSigned (value - baseline)).map some
  | _, _ => .ok none

/-- A sample is measured where there is one. -/
def provenance (available : Bool) : TimestampProvenance :=
  if available then .measured else .unavailable

namespace TraceTiming

/-- How far the packet's instant is past the floors that are known. -/
def otherFloorDisplacement (timing : TraceTiming) : Except TimeArithmeticError (Option ℕ) :=
  match timing.physicalNotBeforeQpcTicks, timing.physicalTargetQpcTicks with
  | some notBefore, some target =>
    let knownFloor :=
      max (max target (timing.holdFloorQpcTicks.getD target)) (timing.releaseFloorQpcTicks.getD target)
    (okOr .overflow (checkedSub notBefore knownFloor)).map some
  | _, _ => .ok none

/-- How long the previous send has kept the packet from being sent, at least. -/
def holDelayLowerBound (timing : TraceTiming) : Option ℕ :=
  match timing.preCallQpcTicks, timing.physicalNotBeforeQpcTicks,
    timing.previousSenderCompletionKnown with
  | some preCall, some notBefore, true =>
    some (min (timing.previousSendinputCompletionQpcTicks.getD notBefore) preCall - notBefore)
  | _, _, _ => none

end TraceTiming

/-- The lateness that the previous send does not account for. -/
def unattributedLateness (residual : Option ℤ) (hol : Option ℕ) :
    Except TimeArithmeticError (Option ℕ) :=
  match residual, hol with
  | some residual, some hol =>
    (toSigned hol).map fun hol => some (max (saturatingSignedSub residual hol) 0).toNat
  | _, _ => .ok none

/-- The parts of a dispatch's lateness. -/
structure LatenessParts where
  physicalFloorDisplacementTicks : Option ℕ
  holdFloorDisplacementTicks : Option ℕ
  releaseFloorDisplacementTicks : Option ℕ
  otherFloorDisplacementTicks : Option ℕ
  residualLatenessTicks : Option ℤ
  holDelayLowerBoundTicks : Option ℕ
  unattributedLatenessTicks : Option ℕ
  sendinputEnvelopeTicks : Option ℕ
  authoredLatenessTicks : Option ℤ

/-- The parts of a dispatch's lateness, each of them checked. -/
def TraceTiming.latenessParts (timing : TraceTiming) : Except TimeArithmeticError LatenessParts := do
  let physicalFloorDisplacementTicks ←
    checkedDisplacement timing.physicalNotBeforeQpcTicks timing.physicalTargetQpcTicks
  let holdFloorDisplacementTicks ←
    checkedDisplacement timing.holdFloorQpcTicks timing.physicalTargetQpcTicks
  let releaseFloorDisplacementTicks ←
    checkedDisplacement timing.releaseFloorQpcTicks timing.physicalTargetQpcTicks
  let otherFloorDisplacementTicks ← timing.otherFloorDisplacement
  let residualLatenessTicks ←
    checkedSignedDelta timing.preCallQpcTicks timing.physicalNotBeforeQpcTicks
  let unattributedLatenessTicks ←
    unattributedLateness residualLatenessTicks timing.holDelayLowerBound
  let sendinputEnvelopeTicks ←
    checkedDisplacement timing.sendinputCompletionQpcTicks timing.preCallQpcTicks
  let authoredLatenessTicks ←
    checkedSignedDelta (timing.preCallQpcTicks.or timing.observationQpcTicks)
      timing.physicalTargetQpcTicks
  pure {
    physicalFloorDisplacementTicks
    holdFloorDisplacementTicks
    releaseFloorDisplacementTicks
    otherFloorDisplacementTicks
    residualLatenessTicks
    holDelayLowerBoundTicks := timing.holDelayLowerBound
    unattributedLatenessTicks
    sendinputEnvelopeTicks
    authoredLatenessTicks }

/-- The counts of a record: the polyphony, and the events requested, sent and skipped, and the attempts. -/
def TraceDelivery.counts (delivery : TraceDelivery) (polyphony : ℕ) :
    Except TimeArithmeticError (ℕ × ℕ × ℕ × ℕ × ℕ) := do
  failIf (delivery.requested < delivery.sent ∨ delivery.requested < delivery.skipped ∨
    delivery.requested < saturatingAdd 64 delivery.sent delivery.skipped ∨
    polyphony < delivery.requested) .overflow
  let polyphony ← toByte polyphony
  let requested ← toByte delivery.requested
  let sent ← toByte delivery.sent
  let skipped ← toByte delivery.skipped
  let sendAttempts ← toByte delivery.sendAttempts
  pure (polyphony, requested, sent, skipped, sendAttempts)

/-- The record of a dispatch whose counts and parts are known. -/
def RtTraceRecord.assemble (context : TraceContext) (timing : TraceTiming) (delivery : TraceDelivery)
    (counts : ℕ × ℕ × ℕ × ℕ × ℕ) (parts : LatenessParts) : RtTraceRecord :=
  let wakeOffsetTicks := timing.wakeQpcTicks.bind fun _ => timing.wakeTicks
  let sendStartedTicks := timing.preCallQpcTicks.bind fun _ => timing.preCallTicks
  let sendCompletedTicks :=
    timing.sendinputCompletionQpcTicks.bind fun _ => timing.sendinputCompletionTicks
  { traceRecordIndex := 0
    compiledPacketIndex := context.compiledPacketIndex.getD 0
    compiledPacketIndexAvailable := context.compiledPacketIndex.isSome
    sourceActionIndex := context.sourceActionIndex
    eventIndex := context.eventIndex
    kind := context.kind
    outcome := context.outcome
    polyphony := counts.1
    flags := context.flags
    sendStatus := context.sendStatus
    upMask := context.upMask
    downMask := context.downMask
    authoredOffsetTicks := timing.authoredTicks
    effectiveDeadlineOffsetTicks := timing.effectiveDeadlineTicks
    wakeOffsetTicks := wakeOffsetTicks.getD 0
    wakeOffsetAvailable := wakeOffsetTicks.isSome
    wakeQpcTicks := timing.wakeQpcTicks.getD 0
    wakeQpcAvailable := timing.wakeQpcTicks.isSome
    targetCrossingQpcTicks := timing.targetCrossingQpcTicks.getD 0
    targetCrossingQpcAvailable := timing.targetCrossingQpcTicks.isSome
    finalPolicyQpcTicks := timing.finalPolicyQpcTicks.getD 0
    finalPolicyQpcAvailable := timing.finalPolicyQpcTicks.isSome
    holdFloorMask := timing.holdFloorMask
    releaseFloorMask := timing.releaseFloorMask
    preCallQpcTicks := timing.preCallQpcTicks.getD 0
    preCallQpcAvailable := timing.preCallQpcTicks.isSome
    sendinputCompletionQpcTicks := timing.sendinputCompletionQpcTicks.getD 0
    sendinputCompletionQpcAvailable := timing.sendinputCompletionQpcTicks.isSome
    postSendQpcTicks := timing.postSendQpcTicks.getD 0
    postSendQpcAvailable := timing.postSendQpcTicks.isSome
    observationQpcTicks := timing.observationQpcTicks.getD 0
    observationQpcAvailable := timing.observationQpcTicks.isSome
    authoredLatenessTicks := parts.authoredLatenessTicks.getD 0
    authoredTargetOverdue := parts.authoredLatenessTicks.any fun late => 0 < late
    physicalFloorDisplacementTicks := parts.physicalFloorDisplacementTicks.getD 0
    holdFloorDisplacementTicks := parts.holdFloorDisplacementTicks.getD 0
    releaseFloorDisplacementTicks := parts.releaseFloorDisplacementTicks.getD 0
    otherFloorDisplacementTicks := parts.otherFloorDisplacementTicks.getD 0
    residualLatenessTicks := parts.residualLatenessTicks.getD 0
    holDelayLowerBoundTicks := parts.holDelayLowerBoundTicks.getD 0
    unattributedLatenessTicks := parts.unattributedLatenessTicks.getD 0
    sendinputEnvelopeTicks := parts.sendinputEnvelopeTicks.getD 0
    floorDisplacementAvailable := parts.physicalFloorDisplacementTicks.isSome
    residualLatenessAvailable := parts.residualLatenessTicks.isSome
    authoredLatenessAvailable := parts.authoredLatenessTicks.isSome
    holDelayAvailable := parts.holDelayLowerBoundTicks.isSome
    unattributedLatenessAvailable := parts.unattributedLatenessTicks.isSome
    sendinputEnvelopeAvailable := parts.sendinputEnvelopeTicks.isSome
    transportAnomaly := context.sendStatus ≠ traceSendStatusNotAttempted &&
      (context.sendStatus ≠ traceSendStatusCode .complete || context.win32Error ≠ 0 ||
        delivery.skipped ≠ 0 || delivery.sendAttempts ≠ 1)
    wakeOffsetProvenance :=
      if wakeOffsetTicks.isSome then .derivedFromWakeQpc else .unavailable
    wakeQpcProvenance := provenance timing.wakeQpcTicks.isSome
    targetCrossingQpcProvenance := provenance timing.targetCrossingQpcTicks.isSome
    finalPolicyQpcProvenance := provenance timing.finalPolicyQpcTicks.isSome
    preCallQpcProvenance := provenance timing.preCallQpcTicks.isSome
    sendinputCompletionQpcProvenance := provenance timing.sendinputCompletionQpcTicks.isSome
    postSendQpcProvenance := provenance timing.postSendQpcTicks.isSome
    observationQpcProvenance := provenance timing.observationQpcTicks.isSome
    sendStartedTicksProvenance :=
      if sendStartedTicks.isSome then .derivedFromPreCall else .unavailable
    sendCompletedTicksProvenance :=
      if sendCompletedTicks.isSome then .derivedFromSendInputCompletion else .unavailable
    sendStartedTicks := sendStartedTicks.getD 0
    sendCompletedTicks := sendCompletedTicks.getD 0
    dispatchCostUs := timing.completionResidualUs
    corePostSendDurationUs := timing.corePostSendDurationUs
    postSendMetricsAvailable := timing.postSendMetricsAvailable
    dispatchStartErrorTicks := parts.authoredLatenessTicks.getD 0
    completionErrorTicks := timing.completionErrorTicks
    authoredCompletionErrorTicks := timing.authoredCompletionErrorTicks
    appliedLeadTicks := 0
    win32Error := context.win32Error
    requestedCount := counts.2.1
    sentCount := counts.2.2.1
    skippedCount := counts.2.2.2.1
    sendAttempts := counts.2.2.2.2 }

/-- The record of a dispatch. Every failure of it is the same, so that the order of the checks does not
matter. -/
def RtTraceRecord.dispatched (context : TraceContext) (timing : TraceTiming)
    (delivery : TraceDelivery) : Except TimeArithmeticError RtTraceRecord := do
  let counts ← delivery.counts context.polyphony
  let parts ← timing.latenessParts
  pure (RtTraceRecord.assemble context timing delivery counts parts)

/-- The instants of a hand-over to the sender. -/
structure PrecisionHandoffEvidence where
  admissionWakeQpc : Option ℕ
  targetCrossingQpc : ℕ
  finalPolicyQpc : Option ℕ

/-- What an observation says of its packet and of the send's result. -/
structure DownTraceObservation where
  eventIndex : ℕ
  compiledPacketIndex : Option ℕ
  traceKind : ℕ
  resultStatus : SendTransactionStatus
  sendAttempts : ℕ
  retryReason : PacketRetryReason
  chordIntegrityLost : Bool
  lastWin32Error : ℕ
  authoredTicks : ℕ
  effectiveDeadlineTicks : ℕ

/-- Whether the send was complete. -/
def DownTraceObservation.resultSuccess (trace : DownTraceObservation) : Bool :=
  trace.resultStatus = .complete

/-- What the worker has observed of a send. -/
structure DownObservation where
  physicalTargetQpc : ℕ
  physicalTimingWindow : PhysicalTimingWindow
  finalPolicyQpc : Option ℕ
  preCallQpc : ℕ
  sendinputCompletionQpc : ℕ
  previousSendinputCompletionQpc : Option ℕ
  previousSenderCompletionKnown : Bool
  dispatchReadyQpc : Option ℕ
  wakeQpc : Option ℕ
  precisionHandoff : Option PrecisionHandoffEvidence
  requestedPacket : PhysicalPacket
  confirmedMask : BitVec 16
  skippedMask : BitVec 16
  trace : DownTraceObservation

namespace DownObservation

/-- How many events were requested. -/
def requestedCount (observation : DownObservation) : ℕ := observation.requestedPacket.eventCount

/-- How many events were confirmed: all of a complete send. -/
def confirmedCount (observation : DownObservation) : ℕ :=
  if observation.trace.resultSuccess then observation.requestedPacket.eventCount
  else countOnes observation.confirmedMask

/-- How many keys were skipped. -/
def skippedCount (observation : DownObservation) : ℕ := countOnes observation.skippedMask

end DownObservation

/-- What the observer has measured of a send. -/
structure DownSendMeasures where
  corePostSendUs : ℕ
  completionResidualUs : ℕ
  postSendMetricsAvailable : Bool
  completionErrorTicks : ℤ
  authoredCompletionErrorTicks : ℤ
  preCallTicks : Option ℕ
  sendinputCompletionTicks : Option ℕ
  wakeTicks : Option ℕ
  observerQpcTicks : ℕ
  recoveredPartialUp : Bool
  strictCompletionLate : Bool

/-- Whether records are kept. -/
inductive TelemetryMode where
  | off
  | ring
  deriving DecidableEq, Repr

/-- The records that are kept, up to a number of them. -/
structure TelemetryCollector where
  mode : TelemetryMode
  capacity : ℕ
  records : List RtTraceRecord
  attempted : ℕ
  accepted : ℕ
  dropped : ℕ
  truncated : Bool

/-- Keep one more record, which is built only when there is room for it. -/
def TelemetryCollector.tryPush (build : Except TimeArithmeticError RtTraceRecord)
    (telemetry : TelemetryCollector) : Except TimeArithmeticError TelemetryCollector :=
  let tried := { telemetry with attempted := saturatingAdd 64 telemetry.attempted 1 }
  if tried.mode = .off then .ok tried
  else if tried.records.length = tried.capacity then
    .ok { tried with dropped := saturatingAdd 64 tried.dropped 1, truncated := true }
  else build.map fun record =>
    { tried with
      records := tried.records ++
        [{ record with traceRecordIndex := min tried.accepted (2 ^ 32 - 1) }]
      accepted := saturatingAdd 64 tried.accepted 1 }

/-- The text that ends the playback when a record cannot be built. -/
def recordOverflowText (error : TimeArithmeticError) : String :=
  "native telemetry record overflow: " ++ timeArithmeticText error

namespace DownObservation

/-- The name of a send's outcome. -/
def outcomeName (measures : DownSendMeasures) (observation : DownObservation) : String :=
  let trace := observation.trace
  if measures.recoveredPartialUp then "recovered_partial_up_retry"
  else if measures.strictCompletionLate then "strict_completion_slo_exceeded"
  else if trace.chordIntegrityLost then "chord_integrity_lost"
  else if trace.resultSuccess ∧ observation.confirmedCount = observation.requestedCount then "sent"
  else "partial_note_on"

/-- The flags of a send's record. -/
def traceFlags (measures : DownSendMeasures) (observation : DownObservation) : ℕ :=
  (if observation.trace.resultSuccess ∧ observation.confirmedCount = observation.requestedCount then
    traceFlagSentFull else 0) |||
  (if measures.recoveredPartialUp ∨ observation.trace.chordIntegrityLost then
    traceFlagRecovery else 0) |||
  if observation.outcomeName measures ≠ "sent" then traceFlagAnomaly else 0

/-- The instants of a send. -/
def traceTiming (measures : DownSendMeasures) (observation : DownObservation) : TraceTiming where
  authoredTicks := observation.trace.authoredTicks
  effectiveDeadlineTicks := observation.trace.effectiveDeadlineTicks
  wakeTicks := measures.wakeTicks
  wakeQpcTicks := observation.wakeQpc
  targetCrossingQpcTicks := observation.precisionHandoff.map fun handoff => handoff.targetCrossingQpc
  physicalTargetQpcTicks := some observation.physicalTargetQpc
  physicalNotBeforeQpcTicks := some observation.physicalTimingWindow.packetNotBeforeQpc
  holdFloorQpcTicks := some observation.physicalTimingWindow.musicalUpNotBeforeQpc
  releaseFloorQpcTicks := some observation.physicalTimingWindow.downNotBeforeQpc
  previousSendinputCompletionQpcTicks := observation.previousSendinputCompletionQpc
  previousSenderCompletionKnown := observation.previousSenderCompletionKnown
  holdFloorMask := observation.physicalTimingWindow.holdFloorMask
  releaseFloorMask := observation.physicalTimingWindow.releaseFloorMask
  finalPolicyQpcTicks := observation.finalPolicyQpc
  preCallQpcTicks := some observation.preCallQpc
  sendinputCompletionQpcTicks := some observation.sendinputCompletionQpc
  postSendQpcTicks := observation.dispatchReadyQpc
  observationQpcTicks := some measures.observerQpcTicks
  preCallTicks := measures.preCallTicks
  sendinputCompletionTicks := measures.sendinputCompletionTicks
  completionResidualUs := measures.completionResidualUs
  corePostSendDurationUs := measures.corePostSendUs
  postSendMetricsAvailable := measures.postSendMetricsAvailable
  completionErrorTicks := measures.completionErrorTicks
  authoredCompletionErrorTicks := measures.authoredCompletionErrorTicks

/-- The record of a send. -/
def telemetryRecord (measures : DownSendMeasures) (observation : DownObservation) :
    Except TimeArithmeticError RtTraceRecord :=
  RtTraceRecord.dispatched
    { eventIndex := observation.trace.eventIndex
      sourceActionIndex := observation.trace.eventIndex
      compiledPacketIndex := observation.trace.compiledPacketIndex
      kind := observation.trace.traceKind
      outcome := traceOutcomeCode (observation.outcomeName measures)
      polyphony := observation.requestedCount
      flags := observation.traceFlags measures
      sendStatus := traceSendStatusCode observation.trace.resultStatus
      win32Error := observation.trace.lastWin32Error
      upMask := observation.requestedPacket.upMask
      downMask := observation.requestedPacket.downMask }
    (observation.traceTiming measures)
    { requested := observation.requestedCount
      sent := observation.confirmedCount
      skipped := observation.skippedCount
      sendAttempts := observation.trace.sendAttempts }

/-- The telemetry of a send: the name of its outcome, whether it is published at once, and the records. -/
def recordDownSendTelemetry (measures : DownSendMeasures) (telemetry : TelemetryCollector)
    (observation : DownObservation) : Except String ((String × Bool) × TelemetryCollector) :=
  let forcePublish := !observation.trace.resultSuccess || observation.trace.retryReason ≠ .none ||
    observation.trace.chordIntegrityLost
  match telemetry.tryPush (observation.telemetryRecord measures) with
  | .error error => .error (recordOverflowText error)
  | .ok telemetry => .ok ((observation.outcomeName measures, forcePublish), telemetry)

end DownObservation

/-- Why a Down was not sent. -/
inductive DownMissKind where
  | unobservedBacklog
  deriving DecidableEq, Repr

/-- What the worker knows of the timing of a Down that was not sent. -/
inductive DownMissTimingEvidence where
  | physical (window : PhysicalTimingWindow)

/-- What the worker has observed of a Down that was not sent. -/
structure DownMissObservation where
  sourceActionIndex : ℕ
  compiledPacketIndex : Option ℕ
  authoredTicks : ℕ
  effectiveDeadlineTicks : ℕ
  timingEvidence : DownMissTimingEvidence
  observedQpc : ℕ
  upMask : BitVec 16
  downMask : BitVec 16
  kind : DownMissKind

namespace DownMissObservation

/-- The window of a Down that was not sent. -/
def window (observation : DownMissObservation) : PhysicalTimingWindow :=
  match observation.timingEvidence with
  | .physical window => window

/-- The outcome and the status of a Down that was not sent. -/
def outcomeAndStatus (observation : DownMissObservation) : String × ℕ :=
  match observation.kind with
  | .unobservedBacklog => ("down_unobserved_backlog", traceSendStatusNotAttempted)

/-- The kind of the packet of a Down that was not sent. -/
def traceKind (observation : DownMissObservation) : ℕ :=
  if observation.upMask ≠ 0#16 then
    if observation.downMask ≠ 0#16 then traceKindMixed else traceKindUp
  else traceKindDown

/-- The instants of a Down that was not sent. -/
def traceTiming (observation : DownMissObservation) : TraceTiming where
  authoredTicks := observation.authoredTicks
  effectiveDeadlineTicks := observation.effectiveDeadlineTicks
  wakeTicks := none
  wakeQpcTicks := none
  targetCrossingQpcTicks := none
  physicalTargetQpcTicks := some observation.window.authoredTargetQpc
  physicalNotBeforeQpcTicks := some observation.window.packetNotBeforeQpc
  holdFloorQpcTicks := some observation.window.musicalUpNotBeforeQpc
  releaseFloorQpcTicks := some observation.window.downNotBeforeQpc
  previousSendinputCompletionQpcTicks := none
  previousSenderCompletionKnown := false
  holdFloorMask := observation.window.holdFloorMask
  releaseFloorMask := observation.window.releaseFloorMask
  finalPolicyQpcTicks := none
  preCallQpcTicks := none
  sendinputCompletionQpcTicks := none
  postSendQpcTicks := none
  observationQpcTicks := some observation.observedQpc
  preCallTicks := none
  sendinputCompletionTicks := none
  completionResidualUs := 0
  corePostSendDurationUs := 0
  postSendMetricsAvailable := false
  completionErrorTicks := 0
  authoredCompletionErrorTicks := 0

/-- The record of a Down that was not sent. -/
def telemetryRecord (observation : DownMissObservation) :
    Except TimeArithmeticError RtTraceRecord :=
  RtTraceRecord.dispatched
    { eventIndex := observation.sourceActionIndex
      sourceActionIndex := observation.sourceActionIndex
      compiledPacketIndex := observation.compiledPacketIndex
      kind := observation.traceKind
      outcome := traceOutcomeCode observation.outcomeAndStatus.1
      polyphony := countOnes observation.downMask
      flags := traceFlagAnomaly
      sendStatus := observation.outcomeAndStatus.2
      win32Error := 0
      upMask := observation.upMask
      downMask := observation.downMask }
    observation.traceTiming
    { requested := countOnes observation.downMask
      sent := 0
      skipped := countOnes observation.downMask
      sendAttempts := 0 }

/-- The telemetry of a Down that was not sent. -/
def drainDownMiss (telemetry : TelemetryCollector) (observation : DownMissObservation) :
    Except String TelemetryCollector :=
  match telemetry.tryPush observation.telemetryRecord with
  | .error error => .error (recordOverflowText error)
  | .ok telemetry => .ok telemetry

end DownMissObservation

/-- The instants of a window in their order: neither floor is before the target, and the packet's instant
is the later of the two. -/
structure PhysicalTimingWindow.Ordered (window : PhysicalTimingWindow) : Prop where
  up : window.authoredTargetQpc ≤ window.musicalUpNotBeforeQpc
  down : window.authoredTargetQpc ≤ window.downNotBeforeQpc
  packet : window.packetNotBeforeQpc = max window.musicalUpNotBeforeQpc window.downNotBeforeQpc

/-- Every window that a guard answers is in order. -/
theorem PhysicalTimingGuard.query_ordered {guard : PhysicalTimingGuard} {target : ℕ}
    {upMask downMask : BitVec 16} {window : PhysicalTimingWindow}
    (h : guard.query target upMask downMask = .ok window) :
    window.Ordered ∧ window.authoredTargetQpc = target := by
  simp only [query, Except.bind_eq_ok, Except.pure_eq_ok] at h
  obtain ⟨-, -, -, -, -, -, rfl⟩ := h
  have hfloor := floorForMask_fst target downMask guard.downNotBeforeQpc
  refine ⟨⟨?_, ?_, rfl⟩, rfl⟩
  · change target ≤ (floorForMask target upMask guard.musicalUpNotBeforeQpc).1
    rw [floorForMask_fst]
    exact le_max_left _ _
  · change target ≤ (raiseToBarrier target downMask guard.resumeDownNotBeforeQpc _).1
    rw [raiseToBarrier_fst (hfloor ▸ le_max_left _ _), hfloor]
    exact le_trans (le_max_left _ _) (le_max_left _ _)

/-- The displacement from an earlier baseline. -/
theorem checkedDisplacement_of_le {value baseline : ℕ} (h : baseline ≤ value) :
    checkedDisplacement (some value) (some baseline) = .ok (some (value - baseline)) := by
  simp [checkedDisplacement, checkedSub, h, okOr, Except.map]

/-- The difference of instants that a signed word holds. -/
theorem checkedSignedDelta_of_fits {value baseline : ℕ} (h : FitsSigned (value - baseline)) :
    checkedSignedDelta (some value) (some baseline) = .ok (some (value - baseline)) := by
  rw [checkedSignedDelta, toSigned, if_pos h]
  rfl

/-- What is left of a difference that a bound holds is at least nothing. -/
theorem saturated_rest {bound : ℤ} {preCall notBefore hol : ℕ}
    (hfits : -bound ≤ (preCall : ℤ) - notBefore ∧ (preCall : ℤ) - notBefore < bound) :
    (max (max (-bound) (min ((preCall : ℤ) - notBefore - hol) (bound - 1))) 0).toNat =
      preCall - notBefore - hol := by
  omega

/-- The rest of a lateness of which no more than all is accounted for. -/
theorem unattributedLateness_of_le {preCall notBefore hol : ℕ}
    (hfits : FitsSigned (preCall - notBefore)) (hhol : hol ≤ preCall - notBefore) :
    unattributedLateness (some (preCall - notBefore)) (some hol) =
      .ok (some (preCall - notBefore - hol)) := by
  have hholFits : FitsSigned (hol : ℤ) := by
    have hlow : (-2 ^ 63 : ℤ) ≤ 0 := by norm_num
    have hhigh := hfits.2
    constructor <;> omega
  rw [unattributedLateness, toSigned, if_pos hholFits, Except.map, saturatingSignedSub,
    saturated_rest hfits]

/-- The counts of a record whose events are few and not more than were requested. -/
theorem TraceDelivery.counts_ok {delivery : TraceDelivery} {polyphony : ℕ}
    (hrequested : delivery.requested ≤ polyphony) (hpolyphony : polyphony < 2 ^ 8)
    (hdelivered : delivery.sent + delivery.skipped ≤ delivery.requested)
    (hattempts : delivery.sendAttempts < 2 ^ 8) :
    delivery.counts polyphony = .ok (polyphony, delivery.requested, delivery.sent, delivery.skipped,
      delivery.sendAttempts) := by
  have hbyte : ∀ count < 2 ^ 8, toByte count = .ok count := by
    intro count hcount
    rw [toByte, fit, if_pos hcount, okOr]
  have hsaturated : saturatingAdd 64 delivery.sent delivery.skipped ≤ delivery.requested :=
    Nat.le_trans (Nat.min_le_left _ _) hdelivered
  unfold counts
  rw [failIf_of_not _ (by omega), hbyte polyphony hpolyphony, hbyte _ (by omega),
    hbyte delivery.sent (by omega), hbyte delivery.skipped (by omega), hbyte _ hattempts]
  rfl

/-- A collector takes every record that can be built. -/
theorem TelemetryCollector.tryPush_ok {record : RtTraceRecord} (telemetry : TelemetryCollector) :
    ∃ after, telemetry.tryPush (.ok record) = .ok after := by
  unfold tryPush
  dsimp only
  split_ifs
  · exact ⟨_, rfl⟩
  · exact ⟨_, rfl⟩
  · exact ⟨_, rfl⟩

/-- The packet's instant of an ordered window is not before its target. -/
theorem PhysicalTimingWindow.Ordered.target_le {window : PhysicalTimingWindow}
    (h : window.Ordered) : window.authoredTargetQpc ≤ window.packetNotBeforeQpc := by
  rw [h.packet]
  exact le_trans h.up (le_max_left _ _)

/-- The floors of an ordered window are all that moves the packet's instant. -/
theorem TraceTiming.otherFloorDisplacement_of_ordered {window : PhysicalTimingWindow}
    {timing : TraceTiming} (h : window.Ordered)
    (htarget : timing.physicalTargetQpcTicks = some window.authoredTargetQpc)
    (hnotBefore : timing.physicalNotBeforeQpcTicks = some window.packetNotBeforeQpc)
    (hhold : timing.holdFloorQpcTicks = some window.musicalUpNotBeforeQpc)
    (hrelease : timing.releaseFloorQpcTicks = some window.downNotBeforeQpc) :
    timing.otherFloorDisplacement = .ok (some 0) := by
  have hknown : max (max window.authoredTargetQpc window.musicalUpNotBeforeQpc)
      window.downNotBeforeQpc = window.packetNotBeforeQpc := by
    rw [max_eq_right h.up, h.packet]
  unfold otherFloorDisplacement
  simp only [htarget, hnotBefore, hhold, hrelease, Option.getD_some, hknown, checkedSub, le_refl,
    if_true, okOr, Except.map, Nat.sub_self]

/-- The previous send accounts for no more than the whole lateness that the floors leave. -/
theorem TraceTiming.holDelayLowerBound_le {timing : TraceTiming} {preCall notBefore hol : ℕ}
    (hpreCall : timing.preCallQpcTicks = some preCall)
    (hnotBefore : timing.physicalNotBeforeQpcTicks = some notBefore)
    (h : timing.holDelayLowerBound = some hol) : hol ≤ preCall - notBefore := by
  unfold holDelayLowerBound at h
  rw [hpreCall, hnotBefore] at h
  cases hknown : timing.previousSenderCompletionKnown with
  | false => simp [hknown] at h
  | true =>
    simp only [hknown, Option.some.injEq] at h
    omega

/-- The parts of a send's lateness over an ordered window. -/
theorem TraceTiming.latenessParts_ok {window : PhysicalTimingWindow} {timing : TraceTiming}
    {preCall completion : ℕ} (h : window.Ordered)
    (htarget : timing.physicalTargetQpcTicks = some window.authoredTargetQpc)
    (hnotBefore : timing.physicalNotBeforeQpcTicks = some window.packetNotBeforeQpc)
    (hhold : timing.holdFloorQpcTicks = some window.musicalUpNotBeforeQpc)
    (hrelease : timing.releaseFloorQpcTicks = some window.downNotBeforeQpc)
    (hpreCall : timing.preCallQpcTicks = some preCall)
    (hcompletion : timing.sendinputCompletionQpcTicks = some completion)
    (horder : preCall ≤ completion)
    (hresidual : FitsSigned (preCall - window.packetNotBeforeQpc))
    (hauthored : FitsSigned (preCall - window.authoredTargetQpc)) :
    timing.latenessParts = .ok
      { physicalFloorDisplacementTicks := some (window.packetNotBeforeQpc - window.authoredTargetQpc)
        holdFloorDisplacementTicks := some (window.musicalUpNotBeforeQpc - window.authoredTargetQpc)
        releaseFloorDisplacementTicks := some (window.downNotBeforeQpc - window.authoredTargetQpc)
        otherFloorDisplacementTicks := some 0
        residualLatenessTicks := some (preCall - window.packetNotBeforeQpc)
        holDelayLowerBoundTicks := timing.holDelayLowerBound
        unattributedLatenessTicks := timing.holDelayLowerBound.map fun hol =>
          preCall - window.packetNotBeforeQpc - hol
        sendinputEnvelopeTicks := some (completion - preCall)
        authoredLatenessTicks := some (preCall - window.authoredTargetQpc) } := by
  have hunattributed : unattributedLateness (some (preCall - window.packetNotBeforeQpc))
      timing.holDelayLowerBound = .ok (timing.holDelayLowerBound.map fun hol =>
        preCall - window.packetNotBeforeQpc - hol) := by
    cases hhol : timing.holDelayLowerBound with
    | none => rfl
    | some hol =>
      exact unattributedLateness_of_le hresidual (holDelayLowerBound_le hpreCall hnotBefore hhol)
  unfold latenessParts
  rw [otherFloorDisplacement_of_ordered h htarget hnotBefore hhold hrelease, htarget, hnotBefore,
    hhold, hrelease, hpreCall, hcompletion, checkedDisplacement_of_le h.target_le,
    checkedDisplacement_of_le h.up, checkedDisplacement_of_le h.down,
    checkedDisplacement_of_le horder, checkedSignedDelta_of_fits hresidual, Option.some_or,
    checkedSignedDelta_of_fits hauthored]
  simp only [bind, Except.bind, hunattributed]
  rfl

/-- An observation reports the outcome of a send. -/
structure DownObservation.Reports (observation : DownObservation) (outcome : SendTransactionOutcome) :
    Prop where
  resultStatus : observation.trace.resultStatus = outcome.status
  sendAttempts : observation.trace.sendAttempts = outcome.evidence.attempts
  retryReason : observation.trace.retryReason = outcome.evidence.retryReason
  lastWin32Error : observation.trace.lastWin32Error = outcome.evidence.lastWin32Error.getD 0
  confirmedMask : observation.confirmedMask = outcome.evidence.confirmedMask
  skippedMask : observation.skippedMask = outcome.evidence.skippedMask
  preCallQpc : outcome.evidence.startedTicks = some observation.preCallQpc
  sendinputCompletionQpc : outcome.evidence.completedTicks = some observation.sendinputCompletionQpc

/-- How the record of a send splits its lateness. -/
structure RtTraceRecord.AddsUp (record : RtTraceRecord) (senderKnown : Bool) : Prop where
  available : record.authoredLatenessAvailable = true ∧ record.floorDisplacementAvailable = true ∧
    record.residualLatenessAvailable = true
  authored : record.authoredLatenessTicks =
    record.physicalFloorDisplacementTicks + record.residualLatenessTicks
  physicalFloor : record.physicalFloorDisplacementTicks =
    max record.holdFloorDisplacementTicks record.releaseFloorDisplacementTicks
  otherFloor : record.otherFloorDisplacementTicks = 0
  residual : senderKnown = true →
    record.holDelayAvailable = true ∧ record.unattributedLatenessAvailable = true ∧
      (record.holDelayLowerBoundTicks + record.unattributedLatenessTicks : ℤ) =
        max record.residualLatenessTicks 0

/-- A complete send skips no key and is one attempt. -/
theorem preparedSendOutcome_complete (packet : PhysicalPacket)
    {first : Except PreparedSendFailure PlatformSendResult}
    (h : (preparedSendOutcome packet first).status = .complete) :
    (preparedSendOutcome packet first).evidence.skippedMask = 0#16 ∧
      (preparedSendOutcome packet first).evidence.attempts = 1 := by
  cases first with
  | error failure =>
    unfold preparedSendOutcome at h
    dsimp only at h
    split at h <;> cases h
  | ok result => exact ⟨rfl, rfl⟩

/-- No packet has more events than a byte counts. -/
theorem eventCount_lt_byte (packet : PhysicalPacket) : packet.eventCount < 2 ^ 8 := by
  have hcount : ∀ mask : BitVec 16, countOnes mask ≤ 16 := by
    intro mask
    have hle := List.length_filter_le mask.getLsbD (List.range 16)
    rwa [List.length_range] at hle
  have hup := hcount packet.upMask
  have hdown := hcount packet.downMask
  unfold PhysicalPacket.eventCount
  omega

/-- The record of a complete send over an ordered window can be built, and it adds up. -/
theorem DownObservation.telemetryRecord_ok {observation : DownObservation}
    {first : Except PreparedSendFailure PlatformSendResult} {packet : PhysicalPacket}
    (measures : DownSendMeasures) (hwindow : observation.physicalTimingWindow.Ordered)
    (hreports : observation.Reports (preparedSendOutcome packet first))
    (hcomplete : (preparedSendOutcome packet first).status = .complete)
    (htarget : observation.physicalTargetQpc = observation.physicalTimingWindow.authoredTargetQpc)
    (horder : observation.preCallQpc ≤ observation.sendinputCompletionQpc)
    (hauthored : FitsSigned (observation.preCallQpc - observation.physicalTargetQpc))
    (hresidual : FitsSigned (observation.preCallQpc -
      observation.physicalTimingWindow.packetNotBeforeQpc)) :
    ∃ record, observation.telemetryRecord measures = .ok record ∧
      record.AddsUp observation.previousSenderCompletionKnown := by
  obtain ⟨hskipped, hattempts⟩ := preparedSendOutcome_complete packet hcomplete
  have hsuccess : observation.trace.resultSuccess = true := by
    rw [DownTraceObservation.resultSuccess, hreports.resultStatus, hcomplete]
    rfl
  have hconfirmed : observation.confirmedCount = observation.requestedCount := by
    rw [confirmedCount, hsuccess, if_pos rfl, requestedCount]
  have hnone : observation.skippedCount = 0 := by
    rw [skippedCount, hreports.skippedMask, hskipped, countOnes, slots_zero, List.length_nil]
  have hcounts := @TraceDelivery.counts_ok
    ⟨observation.requestedCount, observation.confirmedCount, observation.skippedCount,
      observation.trace.sendAttempts⟩ observation.requestedCount le_rfl
    (eventCount_lt_byte observation.requestedPacket) (by simp only [hconfirmed, hnone]; omega)
    (by simp only [hreports.sendAttempts, hattempts]; omega)
  rw [htarget] at hauthored
  have hparts := @TraceTiming.latenessParts_ok observation.physicalTimingWindow
    (observation.traceTiming measures) _ _ hwindow (congrArg some htarget) rfl rfl rfl rfl rfl horder
    hresidual hauthored
  unfold telemetryRecord RtTraceRecord.dispatched
  rw [hcounts, hparts]
  refine ⟨_, rfl, ⟨rfl, rfl, rfl⟩, ?_, ?_, rfl, ?_⟩
  · have hle := hwindow.target_le
    simp only [RtTraceRecord.assemble, Option.getD_some]
    omega
  · have hpacket := hwindow.packet
    simp only [RtTraceRecord.assemble, Option.getD_some]
    omega
  · intro hknown
    simp only [RtTraceRecord.assemble, TraceTiming.holDelayLowerBound, traceTiming, hknown,
      Option.map_some, Option.getD_some, Option.isSome_some, true_and]
    omega

/-- The record of a Down that was not sent can be built over an ordered window. -/
theorem DownMissObservation.telemetryRecord_ok {observation : DownMissObservation}
    (hwindow : observation.window.Ordered)
    (hauthored : FitsSigned (observation.observedQpc - observation.window.authoredTargetQpc)) :
    ∃ record, observation.telemetryRecord = .ok record := by
  have hdown := eventCount_lt_byte ⟨0#16, observation.downMask⟩
  have hnone : countOnes (0#16) = 0 := by simp [countOnes]
  rw [PhysicalPacket.eventCount, hnone, Nat.zero_add] at hdown
  have hcounts := @TraceDelivery.counts_ok
    ⟨countOnes observation.downMask, 0, countOnes observation.downMask, 0⟩
    (countOnes observation.downMask) le_rfl hdown (Nat.zero_add _).le (show 0 < 2 ^ 8 by decide)
  have hparts : ∃ parts, observation.traceTiming.latenessParts = .ok parts := by
    unfold TraceTiming.latenessParts
    rw [@TraceTiming.otherFloorDisplacement_of_ordered _ observation.traceTiming hwindow rfl rfl rfl
      rfl]
    simp only [traceTiming, checkedDisplacement_of_le hwindow.target_le,
      checkedDisplacement_of_le hwindow.up, checkedDisplacement_of_le hwindow.down, Option.none_or,
      checkedSignedDelta_of_fits hauthored, TraceTiming.holDelayLowerBound, bind, Except.bind]
    exact ⟨_, rfl⟩
  obtain ⟨parts, hparts⟩ := hparts
  unfold telemetryRecord RtTraceRecord.dispatched
  rw [hcounts, hparts]
  exact ⟨_, rfl⟩

/-- For every window that a guard answers, the record of every complete send of its packet can be built and
adds up, so that no telemetry of it ends the playback, and neither does that of a Down of such a window that
was not sent. -/
theorem telemetry_accepts_dispatches {guard : PhysicalTimingGuard} {target : ℕ}
    {packet : PhysicalPacket} {window : PhysicalTimingWindow}
    (hquery : guard.query target packet.upMask packet.downMask = .ok window) :
    (∀ (observation : DownObservation) (first : Except PreparedSendFailure PlatformSendResult)
        (measures : DownSendMeasures),
      observation.Reports (preparedSendOutcome packet first) →
      (preparedSendOutcome packet first).status = .complete →
      observation.requestedPacket = packet →
      observation.physicalTimingWindow = window →
      observation.physicalTargetQpc = window.authoredTargetQpc →
      observation.preCallQpc ≤ observation.sendinputCompletionQpc →
      FitsSigned (observation.preCallQpc - window.authoredTargetQpc) →
      FitsSigned (observation.preCallQpc - window.packetNotBeforeQpc) →
      (∃ record, observation.telemetryRecord measures = .ok record ∧
        record.AddsUp observation.previousSenderCompletionKnown) ∧
      ∀ telemetry, ∃ result, observation.recordDownSendTelemetry measures telemetry = .ok result) ∧
    ∀ observation : DownMissObservation, observation.timingEvidence = .physical window →
      FitsSigned (observation.observedQpc - window.authoredTargetQpc) →
      ∀ telemetry, ∃ after, observation.drainDownMiss telemetry = .ok after := by
  obtain ⟨hordered, -⟩ := PhysicalTimingGuard.query_ordered hquery
  constructor
  · intro observation first measures hreports hcomplete _ hwindow htarget horder hauthored hresidual
    subst hwindow
    rw [← htarget] at hauthored
    obtain ⟨record, hrecord, hadds⟩ := DownObservation.telemetryRecord_ok measures hordered hreports
      hcomplete htarget horder hauthored hresidual
    refine ⟨⟨record, hrecord, hadds⟩, ?_⟩
    intro telemetry
    obtain ⟨after, hafter⟩ := @TelemetryCollector.tryPush_ok record telemetry
    unfold DownObservation.recordDownSendTelemetry
    rw [hrecord, hafter]
    exact ⟨_, rfl⟩
  · intro observation hevidence hauthored telemetry
    have hwindow : observation.window = window := by
      rw [DownMissObservation.window, hevidence]
    obtain ⟨record, hrecord⟩ := DownMissObservation.telemetryRecord_ok (hwindow ▸ hordered)
      (hwindow ▸ hauthored)
    obtain ⟨after, hafter⟩ := @TelemetryCollector.tryPush_ok record telemetry
    unfold DownMissObservation.drainDownMiss
    rw [hrecord, hafter]
    exact ⟨_, rfl⟩

/-- A guard whose first key may go up from 130 on and whose second key may go down from 120 on. -/
def heldGuard : PhysicalTimingGuard :=
  { PhysicalTimingGuard.new 30 12 with
    musicalUpNotBeforeQpc := fun slot => if slot = 0 then some 130 else none
    downNotBeforeQpc := fun slot => if slot = 1 then some 120 else none }

/-- The send of a mixed packet at 135 whose target was 100, after a send that returned at 132. -/
def mixedObservation : DownObservation where
  physicalTargetQpc := 100
  physicalTimingWindow := ⟨100, 130, 120, 130, 1#16, 2#16⟩
  finalPolicyQpc := none
  preCallQpc := 135
  sendinputCompletionQpc := 140
  previousSendinputCompletionQpc := some 132
  previousSenderCompletionKnown := true
  dispatchReadyQpc := none
  wakeQpc := none
  precisionHandoff := none
  requestedPacket := ⟨1#16, 2#16⟩
  confirmedMask := 3#16
  skippedMask := 0#16
  trace := ⟨0, some 0, traceKindMixed, .complete, 1, .none, false, 0, 0, 0⟩

/-- The record of that send can be built and adds up. -/
theorem mixed_send_recorded :
    (∃ record, mixedObservation.telemetryRecord ⟨0, 0, false, 0, 0, none, none, none, 150, false,
      false⟩ = .ok record ∧ record.AddsUp true) ∧
    ∀ telemetry, ∃ result, mixedObservation.recordDownSendTelemetry
      ⟨0, 0, false, 0, 0, none, none, none, 150, false, false⟩ telemetry = .ok result := by
  have hquery : heldGuard.query 100 1#16 2#16 = .ok ⟨100, 130, 120, 130, 1#16, 2#16⟩ := by decide
  apply (@telemetry_accepts_dispatches heldGuard 100 ⟨1#16, 2#16⟩ _ hquery).1 mixedObservation
    (.ok ⟨2, 2, 135, some 140, 0, none⟩)
  · exact ⟨by decide, by decide, by decide, by decide, by decide, by decide, rfl, rfl⟩
  · decide
  · rfl
  · rfl
  · rfl
  · decide
  · decide
  · decide

end SkyAutoPlayer.Player
