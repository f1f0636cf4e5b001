import Mathlib.Data.List.Sort
import SkyAutoPlayer.Foundation.Checked
import SkyAutoPlayer.Foundation.SlotMask

/-!
# Offline whole-stream timing estimates

The analysis folds over the whole packet stream once. Its history keeps, for every key, the
earliest tick of the next Up (`hNotBefore`, one hold after the last Down completed) and of the
next Down (`tNotBefore`, one release gap after the last Up completed), together with the tick
at which the modeled worker became free. Each packet is rejected or contributes one row. A
cancellable caller supplies the flag's value at every checkpoint; the plain entry point has no
flag.
-/

namespace SkyAutoPlayer.Player

open Foundation

/-- The number of instrument slots. -/
def instrumentSlotCount : ℕ := 15

/-- The mask of all instrument slots. -/
def instrumentMask : BitVec 16 := 0x7fff#16

/-- Whether a packet sends key events or only updates bookkeeping. -/
inductive ModelPacketKind where
  | physical
  | metadata
  deriving DecidableEq, Repr

/-- One ordered schedule boundary, in relative authored ticks. -/
structure ModelPacket where
  authoredTargetTicks : ℕ
  upMask : BitVec 16
  downMask : BitVec 16
  kind : ModelPacketKind
  deriving DecidableEq, Repr

/-- The assumptions of the analysis, as durations in microseconds. -/
structure WholeStreamModelConfig where
  qpcFrequencyHz : ℕ
  effectiveMinHoldUs : ℕ
  physicalReleaseGapUs : ℕ
  estimatedSenderSetupUs : ℕ
  estimatedPerInputUs : ℕ
  estimatedPostSendUs : ℕ
  estimatedMetadataCostUs : ℕ
  resumeDownBarrierTicks : Option ℕ
  deriving DecidableEq, Repr

/-- The sign of a packet's slack. -/
inductive SlackClass where
  | positive
  | zero
  | negative
  deriving DecidableEq, Repr

/-- The row the analysis reports for one packet. -/
structure WholeStreamPacketEstimate where
  packetIndex : ℕ
  authoredTargetTicks : ℕ
  modeledReadyTicks : ℕ
  modeledSenderCompletionTicks : Option ℕ
  modeledWorkerFreeTicks : ℕ
  hFloorDisplacementTicks : ℕ
  tFloorDisplacementTicks : ℕ
  resumeFloorDisplacementTicks : ℕ
  totalFloorDisplacementTicks : ℕ
  holDelayLowerBoundTicks : ℕ
  modeledLatenessTicks : ℕ
  signedSlackTicks : ℤ
  slackClass : SlackClass
  deriving DecidableEq, Repr

/-- Percentiles of the signed slacks. -/
structure TickPercentiles where
  p50 : ℤ
  p95 : ℤ
  p99 : ℤ
  deriving DecidableEq, Repr

/-- The whole-stream report. -/
structure WholeStreamModelReport where
  modelKind : String
  guarantee : Bool
  packetCount : ℕ
  positiveSlackCount : ℕ
  zeroSlackCount : ℕ
  negativeSlackCount : ℕ
  slackTicks : TickPercentiles
  packets : List WholeStreamPacketEstimate
  deriving DecidableEq, Repr

/-- The ways the analysis fails. -/
inductive WholeStreamModelError where
  | cancelled
  | zeroQpcFrequency
  | invalidPacketMask
  | invalidPacketKind
  | nonChronologicalTargets (previousIndex currentIndex : ℕ)
  | arithmeticOverflow
  deriving DecidableEq, Repr

/-- The message of an analysis failure. -/
def WholeStreamModelError.message : WholeStreamModelError → String
  | .cancelled => "whole-stream model analysis was cancelled"
  | .zeroQpcFrequency => "QPC frequency must be nonzero"
  | .invalidPacketMask => "packet masks exceed or overlap the instrument slots"
  | .invalidPacketKind =>
    "metadata packets must have empty masks and physical packets must not"
  | .nonChronologicalTargets previousIndex currentIndex =>
    "authored target at packet " ++ toString currentIndex ++ " precedes packet " ++
      toString previousIndex
  | .arithmeticOverflow => "whole-stream model arithmetic overflow"

/-- Convert microseconds to ticks, rounding up; the product is formed in 128 bits. -/
def usToTicksCeil (us frequencyHz : ℕ) : Except WholeStreamModelError ℕ := do
  let product ← okOr .arithmeticOverflow (checkedMul 128 us frequencyHz)
  let rounded ← okOr .arithmeticOverflow (checkedAdd 128 product 999999)
  okOr .arithmeticOverflow (fit 64 (rounded / 1000000))

/-- The signed difference of two ticks, when it is a signed 64-bit value. -/
def signedDifference (left right : ℕ) : Except WholeStreamModelError ℤ :=
  let difference : ℤ := left - right
  if -(2 ^ 63) ≤ difference ∧ difference < 2 ^ 63 then .ok difference
  else .error .arithmeticOverflow

/-- The nearest-rank percentiles of the collected slacks. -/
def percentiles (values : List ℤ) : TickPercentiles :=
  if values = [] then ⟨0, 0, 0⟩
  else
    let sorted := values.insertionSort (· ≤ ·)
    let at' (percent : ℕ) : ℤ :=
      let scaled := min (values.length * percent) (2 ^ 64 - 1)
      let rank := max ((scaled + 99) / 100) 1
      sorted.getD (min (rank - 1) (values.length - 1)) 0
    ⟨at' 50, at' 95, at' 99⟩

/-- Fail when a caller's cancellation flag is set at a checkpoint. -/
def checkCancelled (cancelled : Option (ℕ → Bool)) (checkpoint : ℕ) :
    Except WholeStreamModelError Unit :=
  failIf (cancelled.any (fun flag => flag checkpoint)) .cancelled

/-- The cancellation checkpoint every 256 packets. -/
def checkPeriodically (cancelled : Option (ℕ → Bool)) (packetIndex : ℕ) :
    Except WholeStreamModelError Unit :=
  if packetIndex % 256 = 0 then checkCancelled cancelled (packetIndex / 256 + 1) else .ok ()

/-- The configured durations converted to ticks. -/
structure TickCosts where
  hTicks : ℕ
  tTicks : ℕ
  setupTicks : ℕ
  inputTicks : ℕ
  postSendTicks : ℕ
  metadataTicks : ℕ
  deriving DecidableEq, Repr

/-- Convert every configured duration once, before the packet loop. -/
def tickCosts (config : WholeStreamModelConfig) : Except WholeStreamModelError TickCosts := do
  let hTicks ← usToTicksCeil config.effectiveMinHoldUs config.qpcFrequencyHz
  let tTicks ← usToTicksCeil config.physicalReleaseGapUs config.qpcFrequencyHz
  let setupTicks ← usToTicksCeil config.estimatedSenderSetupUs config.qpcFrequencyHz
  let inputTicks ← usToTicksCeil config.estimatedPerInputUs config.qpcFrequencyHz
  let postSendTicks ← usToTicksCeil config.estimatedPostSendUs config.qpcFrequencyHz
  let metadataTicks ← usToTicksCeil config.estimatedMetadataCostUs config.qpcFrequencyHz
  pure { hTicks, tTicks, setupTicks, inputTicks, postSendTicks, metadataTicks }

/-- How many packets so far had positive, zero and negative slack. -/
structure SlackCounts where
  positive : ℕ
  zero : ℕ
  negative : ℕ
  deriving DecidableEq, Repr

/-- Count one more packet by the sign of its slack. -/
def SlackCounts.record (counts : SlackCounts) (slack : ℤ) :
    Except WholeStreamModelError SlackCounts := do
  if 0 < slack then
    let count ← okOr .arithmeticOverflow (checkedAdd 64 counts.positive 1)
    pure { counts with positive := count }
  else if slack = 0 then
    let count ← okOr .arithmeticOverflow (checkedAdd 64 counts.zero 1)
    pure { counts with zero := count }
  else
    let count ← okOr .arithmeticOverflow (checkedAdd 64 counts.negative 1)
    pure { counts with negative := count }

/-- The state of the packet loop. -/
structure AnalysisHistory where
  hNotBefore : SlotTable ℕ
  tNotBefore : SlotTable ℕ
  previousWorkerFree : Option ℕ
  counts : SlackCounts
  slackValues : List ℤ
  previousTarget : Option (ℕ × ℕ)
  rows : List WholeStreamPacketEstimate

/-- The state before the first packet. -/
def AnalysisHistory.initial : AnalysisHistory where
  hNotBefore := SlotTable.empty
  tNotBefore := SlotTable.empty
  previousWorkerFree := none
  counts := ⟨0, 0, 0⟩
  slackValues := []
  previousTarget := none
  rows := []

/-- Fold the floors of a mask's slots; an empty mask has no floor. -/
def foldFloor (floors : SlotTable ℕ) (mask : BitVec 16) : Option ℕ :=
  (slots mask).foldl
    (fun floor slot => some (max (floor.getD 0) ((floors slot).getD 0))) none

/-- The floors that constrain one packet. -/
structure PacketFloors where
  hFloor : Option ℕ
  tFloor : Option ℕ
  resumeFloor : Option ℕ
  deriving DecidableEq, Repr

/-- The hold floor of the Ups, the release floor of the Downs, and the resume barrier. -/
def packetFloors (config : WholeStreamModelConfig) (history : AnalysisHistory)
    (packet : ModelPacket) : PacketFloors where
  hFloor := foldFloor history.hNotBefore packet.upMask
  tFloor := foldFloor history.tNotBefore packet.downMask
  resumeFloor := if packet.downMask ≠ 0#16 then config.resumeDownBarrierTicks else none

/-- The earliest ready tick under the floors alone. -/
def PacketFloors.floorReady (floors : PacketFloors) (target : ℕ) : ℕ :=
  max (max (max target (floors.hFloor.getD target)) (floors.tFloor.getD target))
    (floors.resumeFloor.getD target)

/-- The latest of the floors and the previous worker's end. -/
def PacketFloors.constraintReady (floors : PacketFloors) (previousWorkerFree : Option ℕ) : ℕ :=
  max (max (max (floors.hFloor.getD 0) (floors.tFloor.getD 0)) (floors.resumeFloor.getD 0))
    (previousWorkerFree.getD 0)

/-- How far one floor displaces a packet from its authored target. -/
def floorDisplacement (floor : Option ℕ) (target : ℕ) : ℕ :=
  (floor.map (fun ticks => max ticks target - target)).getD 0

/-- The effect of one modeled send on the per-key floors and the worker. -/
structure ModeledSend where
  senderCompletion : Option ℕ
  workerFree : ℕ
  hNotBefore : SlotTable ℕ
  tNotBefore : SlotTable ℕ

/-- The floor a completion puts on the opposite direction, absent for an empty mask. -/
def nextFloor (mask : BitVec 16) (completion ticks : ℕ) :
    Except WholeStreamModelError (Option ℕ) :=
  if mask ≠ 0#16 then do
    let floor ← okOr .arithmeticOverflow (checkedAdd 64 completion ticks)
    pure (some floor)
  else pure none

/-- Send a physical packet: one completion for all its keys, Ups before Downs. -/
def modelPhysicalSend (costs : TickCosts) (history : AnalysisHistory) (packet : ModelPacket)
    (ready : ℕ) : Except WholeStreamModelError ModeledSend := do
  let eventCount := countOnes packet.upMask + countOnes packet.downMask
  let eventCost ← okOr .arithmeticOverflow (checkedMul 64 costs.inputTicks eventCount)
  let envelope ← okOr .arithmeticOverflow (checkedAdd 64 costs.setupTicks eventCost)
  let senderCompletion ← okOr .arithmeticOverflow (checkedAdd 64 ready envelope)
  let workerFree ←
    okOr .arithmeticOverflow (checkedAdd 64 senderCompletion costs.postSendTicks)
  let nextTFloor ← nextFloor packet.upMask senderCompletion costs.tTicks
  let nextHFloor ← nextFloor packet.downMask senderCompletion costs.hTicks
  let hAfterUps := history.hNotBefore.putAll none (slots packet.upMask)
  let tAfterUps := history.tNotBefore.putAll nextTFloor (slots packet.upMask)
  pure {
    senderCompletion := some senderCompletion
    workerFree
    hNotBefore := hAfterUps.putAll nextHFloor (slots packet.downMask)
    tNotBefore := tAfterUps.putAll none (slots packet.downMask) }

/-- Process a metadata packet: it only occupies the worker. -/
def modelMetadata (costs : TickCosts) (history : AnalysisHistory) (ready : ℕ) :
    Except WholeStreamModelError ModeledSend := do
  let workerFree ← okOr .arithmeticOverflow (checkedAdd 64 ready costs.metadataTicks)
  pure {
    senderCompletion := none
    workerFree
    hNotBefore := history.hNotBefore
    tNotBefore := history.tNotBefore }

/-- Model one packet's cost by its kind. -/
def modelSend (costs : TickCosts) (history : AnalysisHistory) (packet : ModelPacket)
    (ready : ℕ) : Except WholeStreamModelError ModeledSend :=
  match packet.kind with
  | .physical => modelPhysicalSend costs history packet ready
  | .metadata => modelMetadata costs history ready

/-- Reject a target before its predecessor's. -/
def checkChronological (previousTarget : Option (ℕ × ℕ)) (packetIndex : ℕ)
    (packet : ModelPacket) : Except WholeStreamModelError Unit :=
  match previousTarget with
  | none => .ok ()
  | some (previousIndex, previousTicks) =>
    failIf (packet.authoredTargetTicks < previousTicks)
      (.nonChronologicalTargets previousIndex packetIndex)

/-- The sign class reported for a slack. -/
def slackClassOf (slack : ℤ) : SlackClass :=
  if 0 < slack then .positive else if slack = 0 then .zero else .negative

/-- Analyze one packet and append its row. -/
def analyzePacket (config : WholeStreamModelConfig) (costs : TickCosts)
    (cancelled : Option (ℕ → Bool)) (history : AnalysisHistory) (packetIndex : ℕ)
    (packet : ModelPacket) : Except WholeStreamModelError AnalysisHistory := do
  checkPeriodically cancelled packetIndex
  checkChronological history.previousTarget packetIndex packet
  failIf ((packet.upMask ||| packet.downMask) &&& ~~~instrumentMask ≠ 0#16 ∨
    packet.upMask &&& packet.downMask ≠ 0#16) .invalidPacketMask
  failIf ((packet.kind = .physical ∧ packet.upMask ||| packet.downMask = 0#16) ∨
    (packet.kind ≠ .physical ∧ (packet.upMask ≠ 0#16 ∨ packet.downMask ≠ 0#16)))
    .invalidPacketKind
  let target := packet.authoredTargetTicks
  let floors := packetFloors config history packet
  let floorReady := floors.floorReady target
  let constraintReady := floors.constraintReady history.previousWorkerFree
  let ready := max target constraintReady
  let slack ← signedDifference target constraintReady
  let counts ← history.counts.record slack
  let totalFloorDisplacement ← okOr .arithmeticOverflow (checkedSub floorReady target)
  let modeledLateness ← okOr .arithmeticOverflow (checkedSub ready target)
  let sent ← modelSend costs history packet ready
  pure {
    hNotBefore := sent.hNotBefore
    tNotBefore := sent.tNotBefore
    previousWorkerFree := some sent.workerFree
    counts
    slackValues := history.slackValues ++ [slack]
    previousTarget := some (packetIndex, target)
    rows := history.rows ++ [{
      packetIndex
      authoredTargetTicks := target
      modeledReadyTicks := ready
      modeledSenderCompletionTicks := sent.senderCompletion
      modeledWorkerFreeTicks := sent.workerFree
      hFloorDisplacementTicks := floorDisplacement floors.hFloor target
      tFloorDisplacementTicks := floorDisplacement floors.tFloor target
      resumeFloorDisplacementTicks := floorDisplacement floors.resumeFloor target
      totalFloorDisplacementTicks := totalFloorDisplacement
      holDelayLowerBoundTicks :=
        (history.previousWorkerFree.map (fun free => free - floorReady)).getD 0
      modeledLatenessTicks := modeledLateness
      signedSlackTicks := slack
      slackClass := slackClassOf slack }] }

/-- Analyze the remaining packets in order. -/
def analyzePackets (config : WholeStreamModelConfig) (costs : TickCosts)
    (cancelled : Option (ℕ → Bool)) (history : AnalysisHistory) (packetIndex : ℕ) :
    List ModelPacket → Except WholeStreamModelError AnalysisHistory
  | [] => .ok history
  | packet :: rest => do
    let next ← analyzePacket config costs cancelled history packetIndex packet
    analyzePackets config costs cancelled next (packetIndex + 1) rest

/-- The analysis shared by the plain and the cancellable entry point. -/
def analyzeWholeStreamInner (packets : List ModelPacket) (config : WholeStreamModelConfig)
    (cancelled : Option (ℕ → Bool)) :
    Except WholeStreamModelError WholeStreamModelReport := do
  checkCancelled cancelled 0
  failIf (config.qpcFrequencyHz = 0) .zeroQpcFrequency
  let costs ← tickCosts config
  let history ← analyzePackets config costs cancelled AnalysisHistory.initial 0 packets
  checkCancelled cancelled ((packets.length + 255) / 256 + 1)
  pure {
    modelKind := "offline_whole_stream_risk_estimate"
    guarantee := false
    packetCount := history.rows.length
    positiveSlackCount := history.counts.positive
    zeroSlackCount := history.counts.zero
    negativeSlackCount := history.counts.negative
    slackTicks := percentiles history.slackValues
    packets := history.rows }

/-- Analyze a whole stream without a cancellation flag. -/
def analyzeWholeStream (packets : List ModelPacket) (config : WholeStreamModelConfig) :
    Except WholeStreamModelError WholeStreamModelReport :=
  analyzeWholeStreamInner packets config none

/-- Analyze a whole stream, giving up when the flag is set at a checkpoint. -/
def analyzeWholeStreamCancellable (packets : List ModelPacket)
    (config : WholeStreamModelConfig) (cancelled : ℕ → Bool) :
    Except WholeStreamModelError WholeStreamModelReport :=
  analyzeWholeStreamInner packets config (some cancelled)

/-- The conversion is the exact ceiling whenever the product and the result fit. -/
theorem usToTicksCeil_eq_ok {us frequencyHz ticks : ℕ} :
    usToTicksCeil us frequencyHz = .ok ticks ↔
      us * frequencyHz + 999999 < 2 ^ 128 ∧ (us * frequencyHz + 999999) / 1000000 < 2 ^ 64 ∧
        (us * frequencyHz + 999999) / 1000000 = ticks := by
  simp only [usToTicksCeil, Except.bind_eq_ok, okOr_eq_ok, checkedMul_eq_some,
    checkedAdd_eq_some, fit_eq_some]
  constructor
  · rintro ⟨_, ⟨_, rfl⟩, _, ⟨hsum, rfl⟩, hfit, rfl⟩
    exact ⟨hsum, hfit, rfl⟩
  · rintro ⟨hsum, hfit, rfl⟩
    exact ⟨_, ⟨by omega, rfl⟩, _, ⟨hsum, rfl⟩, hfit, rfl⟩

/-- The folded floor of a mask is absent for the empty mask and otherwise its latest floor. -/
theorem foldFloor_eq (floors : SlotTable ℕ) (mask : BitVec 16) :
    foldFloor floors mask =
      if mask = 0#16 then none else some (floors.latest (slots mask)) := by
  have hfold : ∀ (list : List ℕ) (start : ℕ),
      list.foldl (fun floor slot => some (max (floor.getD 0) ((floors slot).getD 0)))
        (some start) = some (max start (floors.latest list)) := by
    intro list
    induction list with
    | nil =>
      intro start
      simp [SlotTable.latest]
    | cons slot rest ih =>
      intro start
      rw [List.foldl_cons, ih, SlotTable.latest_cons]
      simp only [Option.getD_some, max_assoc]
  unfold foldFloor
  by_cases hmask : mask = 0#16
  · simp [hmask]
  · rw [if_neg hmask]
    cases hslots : slots mask with
    | nil => exact absurd (slots_eq_nil_iff.mp hslots) hmask
    | cons slot rest =>
      rw [List.foldl_cons, hfold, SlotTable.latest_cons]
      simp

/-- What a successful analysis of one packet established and produced. -/
structure PacketAnalyzed (config : WholeStreamModelConfig) (costs : TickCosts)
    (history : AnalysisHistory) (packet : ModelPacket) (next : AnalysisHistory)
    (row : WholeStreamPacketEstimate) : Prop where
  masks : ¬((packet.upMask ||| packet.downMask) &&& ~~~instrumentMask ≠ 0#16 ∨
    packet.upMask &&& packet.downMask ≠ 0#16)
  kind : ¬((packet.kind = .physical ∧ packet.upMask ||| packet.downMask = 0#16) ∨
    (packet.kind ≠ .physical ∧ (packet.upMask ≠ 0#16 ∨ packet.downMask ≠ 0#16)))
  rows : next.rows = history.rows ++ [row]
  workerFree : next.previousWorkerFree = some row.modeledWorkerFreeTicks
  ready : row.modeledReadyTicks = max packet.authoredTargetTicks
    ((packetFloors config history packet).constraintReady history.previousWorkerFree)
  displacement : packet.authoredTargetTicks + row.totalFloorDisplacementTicks =
    (packetFloors config history packet).floorReady packet.authoredTargetTicks
  sent : ∃ sent, modelSend costs history packet row.modeledReadyTicks = .ok sent ∧
    row.modeledSenderCompletionTicks = sent.senderCompletion ∧
    next.hNotBefore = sent.hNotBefore ∧ next.tNotBefore = sent.tNotBefore

/-- A successful packet analysis passed every check and appended exactly one row. -/
theorem analyzePacket_analyzed {config : WholeStreamModelConfig} {costs : TickCosts}
    {cancelled : Option (ℕ → Bool)} {history next : AnalysisHistory} {packetIndex : ℕ}
    {packet : ModelPacket}
    (h : analyzePacket config costs cancelled history packetIndex packet = .ok next) :
    ∃ row, PacketAnalyzed config costs history packet next row := by
  simp only [analyzePacket, Except.bind_eq_ok, failIf_eq_ok, okOr_eq_ok, checkedSub_eq_some,
    Except.pure_eq_ok] at h
  obtain ⟨_, _, _, _, _, hmasks, _, hkind, slack, _, counts, _, displacement,
    ⟨hfloor, hdisplacement⟩, lateness, _, sent, hsent, rfl⟩ := h
  exact ⟨_, {
    masks := hmasks
    kind := hkind
    rows := rfl
    workerFree := rfl
    ready := rfl
    displacement := by
      change packet.authoredTargetTicks + displacement = _
      omega
    sent := ⟨sent, hsent, rfl, rfl, rfl⟩ }⟩

/-- What a successful modeled physical send established and produced. -/
structure PhysicalSendModeled (costs : TickCosts) (history : AnalysisHistory)
    (packet : ModelPacket) (completion : ℕ) (sent : ModeledSend) : Prop where
  completed : sent.senderCompletion = some completion
  releaseFits : packet.upMask ≠ 0#16 → completion + costs.tTicks < 2 ^ 64
  holdFits : packet.downMask ≠ 0#16 → completion + costs.hTicks < 2 ^ 64
  hNotBefore : sent.hNotBefore = (history.hNotBefore.putAll none (slots packet.upMask)).putAll
    (some (completion + costs.hTicks)) (slots packet.downMask)
  tNotBefore : sent.tNotBefore = (history.tNotBefore.putAll
    (some (completion + costs.tTicks)) (slots packet.upMask)).putAll none (slots packet.downMask)

/-- A computed next floor fits, and filling the mask with it is filling with the exact sum. -/
theorem nextFloor_eq_ok {mask : BitVec 16} {completion ticks : ℕ} {floor : Option ℕ}
    (h : nextFloor mask completion ticks = .ok floor) :
    (mask ≠ 0#16 → completion + ticks < 2 ^ 64) ∧
      ∀ table : SlotTable ℕ, table.putAll floor (slots mask) =
        table.putAll (some (completion + ticks)) (slots mask) := by
  unfold nextFloor at h
  by_cases hmask : mask = 0#16
  · subst hmask
    exact ⟨fun hne => absurd rfl hne, fun table => by simp [SlotTable.putAll]⟩
  · simp only [hmask, ne_eq, not_false_eq_true, if_true, Except.bind_eq_ok, okOr_eq_ok,
      checkedAdd_eq_some, Except.pure_eq_ok] at h
    obtain ⟨_, ⟨hlt, rfl⟩, rfl⟩ := h
    exact ⟨fun _ => hlt, fun _ => rfl⟩

/-- A successful modeled send completes at one tick and moves both floors from it. -/
theorem modelPhysicalSend_modeled {costs : TickCosts} {history : AnalysisHistory}
    {packet : ModelPacket} {ready : ℕ} {sent : ModeledSend}
    (h : modelPhysicalSend costs history packet ready = .ok sent) :
    ∃ completion, PhysicalSendModeled costs history packet completion sent := by
  simp only [modelPhysicalSend, Except.bind_eq_ok, okOr_eq_ok, Except.pure_eq_ok] at h
  obtain ⟨_, _, _, _, completion, _, _, _, releaseFloor, hrelease, holdFloor, hhold, rfl⟩ := h
  obtain ⟨hreleaseFits, hreleaseFill⟩ := nextFloor_eq_ok hrelease
  obtain ⟨hholdFits, hholdFill⟩ := nextFloor_eq_ok hhold
  exact ⟨completion, {
    completed := rfl
    releaseFits := hreleaseFits
    holdFits := hholdFits
    hNotBefore := hholdFill _
    tNotBefore := congrArg (SlotTable.putAll none (slots packet.downMask)) (hreleaseFill _) }⟩

/-- A modeled metadata packet leaves the per-key floors alone. -/
theorem modelMetadata_eq_ok {costs : TickCosts} {history : AnalysisHistory} {ready : ℕ}
    {sent : ModeledSend} (h : modelMetadata costs history ready = .ok sent) :
    sent.hNotBefore = history.hNotBefore ∧ sent.tNotBefore = history.tNotBefore := by
  simp only [modelMetadata, Except.bind_eq_ok, Except.pure_eq_ok] at h
  obtain ⟨_, _, rfl⟩ := h
  exact ⟨rfl, rfl⟩

end SkyAutoPlayer.Player
