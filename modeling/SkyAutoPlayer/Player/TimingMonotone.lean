import Mathlib.Data.List.Forall2
import SkyAutoPlayer.Player.TimingModel

/-!
# Longer durations never make the analysis earlier

Two analyses of one stream are compared packet by packet. The invariant orders their histories:
every floor, the end of the worker and every row of the one are no later than those of the other.
-/

namespace SkyAutoPlayer.Player

open Foundation

/-- Every duration and the barrier are at most those of another configuration, with no barrier below
every barrier. The clocks have one frequency. -/
structure WholeStreamModelConfig.Below (config larger : WholeStreamModelConfig) : Prop where
  frequency : config.qpcFrequencyHz = larger.qpcFrequencyHz
  minHold : config.effectiveMinHoldUs ≤ larger.effectiveMinHoldUs
  releaseGap : config.physicalReleaseGapUs ≤ larger.physicalReleaseGapUs
  senderSetup : config.estimatedSenderSetupUs ≤ larger.estimatedSenderSetupUs
  perInput : config.estimatedPerInputUs ≤ larger.estimatedPerInputUs
  postSend : config.estimatedPostSendUs ≤ larger.estimatedPostSendUs
  metadataCost : config.estimatedMetadataCostUs ≤ larger.estimatedMetadataCostUs
  barrier : config.resumeDownBarrierTicks ≤ larger.resumeDownBarrierTicks

/-- Every duration in ticks is at most that of another configuration. -/
structure TickCosts.Below (costs larger : TickCosts) : Prop where
  hTicks : costs.hTicks ≤ larger.hTicks
  tTicks : costs.tTicks ≤ larger.tTicks
  setupTicks : costs.setupTicks ≤ larger.setupTicks
  inputTicks : costs.inputTicks ≤ larger.inputTicks
  postSendTicks : costs.postSendTicks ≤ larger.postSendTicks
  metadataTicks : costs.metadataTicks ≤ larger.metadataTicks

/-- A packet is ready no later than in another analysis, and no floor displaces it further. -/
structure WholeStreamPacketEstimate.Below (row larger : WholeStreamPacketEstimate) : Prop where
  packetIndex : row.packetIndex = larger.packetIndex
  authoredTarget : row.authoredTargetTicks = larger.authoredTargetTicks
  ready : row.modeledReadyTicks ≤ larger.modeledReadyTicks
  hFloor : row.hFloorDisplacementTicks ≤ larger.hFloorDisplacementTicks
  tFloor : row.tFloorDisplacementTicks ≤ larger.tFloorDisplacementTicks
  resumeFloor : row.resumeFloorDisplacementTicks ≤ larger.resumeFloorDisplacementTicks
  totalFloor : row.totalFloorDisplacementTicks ≤ larger.totalFloorDisplacementTicks
  lateness : row.modeledLatenessTicks ≤ larger.modeledLatenessTicks
  slack : larger.signedSlackTicks ≤ row.signedSlackTicks

/-- No floor is later than in another analysis. -/
structure PacketFloors.Below (floors larger : PacketFloors) : Prop where
  hFloor : floors.hFloor ≤ larger.hFloor
  tFloor : floors.tFloor ≤ larger.tFloor
  resumeFloor : floors.resumeFloor ≤ larger.resumeFloor

/-- No send ends later than in another analysis, or leaves a later floor. -/
structure ModeledSend.Below (sent larger : ModeledSend) : Prop where
  workerFree : sent.workerFree ≤ larger.workerFree
  hNotBefore : ∀ slot, sent.hNotBefore slot ≤ larger.hNotBefore slot
  tNotBefore : ∀ slot, sent.tNotBefore slot ≤ larger.tNotBefore slot

/-- No floor, worker's end or row is later than in another analysis. -/
structure AnalysisHistory.Below (history larger : AnalysisHistory) : Prop where
  hNotBefore : ∀ slot, history.hNotBefore slot ≤ larger.hNotBefore slot
  tNotBefore : ∀ slot, history.tNotBefore slot ≤ larger.tNotBefore slot
  previousWorkerFree : history.previousWorkerFree ≤ larger.previousWorkerFree
  rows : List.Forall₂ WholeStreamPacketEstimate.Below history.rows larger.rows

/-- Longer durations have no fewer ticks. -/
theorem usToTicksCeil_mono {us longer frequencyHz ticks later : ℕ} (h : us ≤ longer)
    (hticks : usToTicksCeil us frequencyHz = .ok ticks)
    (hlater : usToTicksCeil longer frequencyHz = .ok later) : ticks ≤ later := by
  obtain ⟨-, -, rfl⟩ := usToTicksCeil_eq_ok.mp hticks
  obtain ⟨-, -, rfl⟩ := usToTicksCeil_eq_ok.mp hlater
  apply Nat.div_le_div_right
  apply Nat.add_le_add_right
  exact Nat.mul_le_mul_right frequencyHz h

/-- The converted durations are ordered like the durations. -/
theorem tickCosts_mono {config larger : WholeStreamModelConfig} (h : config.Below larger)
    {costs later : TickCosts} (hcosts : tickCosts config = .ok costs)
    (hlater : tickCosts larger = .ok later) : costs.Below later := by
  rw [tickCosts, h.frequency] at hcosts
  simp only [tickCosts, Except.bind_eq_ok, Except.pure_eq_ok] at hcosts hlater
  obtain ⟨_, hhold, _, hgap, _, hsetup, _, hinput, _, hpost, _, hmetadata, rfl⟩ := hcosts
  obtain ⟨_, hhold', _, hgap', _, hsetup', _, hinput', _, hpost', _, hmetadata', rfl⟩ := hlater
  exact {
    hTicks := usToTicksCeil_mono h.minHold hhold hhold'
    tTicks := usToTicksCeil_mono h.releaseGap hgap hgap'
    setupTicks := usToTicksCeil_mono h.senderSetup hsetup hsetup'
    inputTicks := usToTicksCeil_mono h.perInput hinput hinput'
    postSendTicks := usToTicksCeil_mono h.postSend hpost hpost'
    metadataTicks := usToTicksCeil_mono h.metadataCost hmetadata hmetadata' }

/-- A mask has no later floor in an earlier table. -/
theorem foldFloor_mono {floors later : SlotTable ℕ} (h : ∀ slot, floors slot ≤ later slot)
    (mask : BitVec 16) : foldFloor floors mask ≤ foldFloor later mask := by
  rw [foldFloor_eq, foldFloor_eq]
  by_cases hmask : mask = 0#16
  · simp [hmask]
  · simpa [hmask] using SlotTable.latest_mono h (slots mask)

/-- The floors of a packet are ordered like the histories. -/
theorem packetFloors_mono {config larger : WholeStreamModelConfig} (hconfig : config.Below larger)
    {history later : AnalysisHistory} (h : history.Below later) (packet : ModelPacket) :
    (packetFloors config history packet).Below (packetFloors larger later packet) where
  hFloor := foldFloor_mono h.hNotBefore packet.upMask
  tFloor := foldFloor_mono h.tNotBefore packet.downMask
  resumeFloor := by
    by_cases hdown : packet.downMask ≠ 0#16
    · simpa [packetFloors, hdown] using hconfig.barrier
    · simp [packetFloors, hdown]

/-- An absent tick counts as an early one. -/
theorem max_getD_mono {ticks later : Option ℕ} (h : ticks ≤ later) (early : ℕ) :
    max early (ticks.getD early) ≤ max early (later.getD early) := by
  cases ticks with
  | none => simp
  | some ticks =>
    cases later with
    | none => exact absurd h Option.not_some_le_none
    | some later =>
      rw [Option.some_le_some] at h
      simp only [Option.getD_some]
      omega

namespace PacketFloors

variable {floors larger : PacketFloors}

/-- Later floors let a packet go later. -/
theorem Below.floorReady_le (h : floors.Below larger) (target : ℕ) :
    floors.floorReady target ≤ larger.floorReady target := by
  have hhold := max_getD_mono h.hFloor target
  have hgap := max_getD_mono h.tFloor target
  have hresume := max_getD_mono h.resumeFloor target
  rw [floorReady, floorReady]
  omega

/-- Later floors and a later end of the worker constrain a packet further. -/
theorem Below.constraintReady_le (h : floors.Below larger) {workerFree laterFree : Option ℕ}
    (hworker : workerFree ≤ laterFree) :
    floors.constraintReady workerFree ≤ larger.constraintReady laterFree := by
  have hhold := max_getD_mono h.hFloor 0
  have hgap := max_getD_mono h.tFloor 0
  have hresume := max_getD_mono h.resumeFloor 0
  have hfree := max_getD_mono hworker 0
  rw [constraintReady, constraintReady]
  omega

end PacketFloors

/-- A later floor displaces further. -/
theorem floorDisplacement_mono {floor later : Option ℕ} (h : floor ≤ later) (target : ℕ) :
    floorDisplacement floor target ≤ floorDisplacement later target := by
  cases floor with
  | none => simp [floorDisplacement]
  | some floor =>
    cases later with
    | none => exact absurd h Option.not_some_le_none
    | some later =>
      rw [Option.some_le_some] at h
      simp only [floorDisplacement, Option.map_some, Option.getD_some]
      omega

/-- A later completion leaves a later floor. -/
theorem nextFloor_mono {mask : BitVec 16} {completion later ticks longer : ℕ}
    (hcompletion : completion ≤ later) (hticks : ticks ≤ longer) {floor laterFloor : Option ℕ}
    (hfloor : nextFloor mask completion ticks = .ok floor)
    (hlater : nextFloor mask later longer = .ok laterFloor) : floor ≤ laterFloor := by
  rw [nextFloor] at hfloor hlater
  by_cases hmask : mask ≠ 0#16
  · simp only [if_pos hmask, Except.bind_eq_ok, okOr_eq_ok, checkedAdd_eq_some,
      Except.pure_eq_ok] at hfloor hlater
    obtain ⟨_, ⟨-, rfl⟩, rfl⟩ := hfloor
    obtain ⟨_, ⟨-, rfl⟩, rfl⟩ := hlater
    rw [Option.some_le_some]
    omega
  · rw [if_neg hmask, Except.pure_eq_ok] at hfloor
    simp [← hfloor]

section Send

variable {costs larger : TickCosts} {history later : AnalysisHistory}

/-- A physical packet that is ready later is sent later. -/
theorem modelPhysicalSend_mono (hcosts : costs.Below larger) (h : history.Below later)
    {packet : ModelPacket} {ready laterReady : ℕ} (hready : ready ≤ laterReady)
    {sent laterSent : ModeledSend} (hsent : modelPhysicalSend costs history packet ready = .ok sent)
    (hlater : modelPhysicalSend larger later packet laterReady = .ok laterSent) :
    sent.Below laterSent := by
  simp only [modelPhysicalSend, Except.bind_eq_ok, okOr_eq_ok, checkedMul_eq_some,
    checkedAdd_eq_some, Except.pure_eq_ok] at hsent hlater
  obtain ⟨_, ⟨-, rfl⟩, _, ⟨-, rfl⟩, completion, ⟨-, hcompletion⟩, _, ⟨-, rfl⟩, gapFloor, hgap,
    holdFloor, hhold, rfl⟩ := hsent
  obtain ⟨_, ⟨-, rfl⟩, _, ⟨-, rfl⟩, completion', ⟨-, hcompletion'⟩, _, ⟨-, rfl⟩, gapFloor', hgap',
    holdFloor', hhold', rfl⟩ := hlater
  have hinput := Nat.mul_le_mul_right (countOnes packet.upMask + countOnes packet.downMask)
    hcosts.inputTicks
  have hsetup := hcosts.setupTicks
  have hpost := hcosts.postSendTicks
  have hcompleted : completion ≤ completion' := by omega
  have hgapFloor := nextFloor_mono hcompleted hcosts.tTicks hgap hgap'
  have hholdFloor := nextFloor_mono hcompleted hcosts.hTicks hhold hhold'
  constructor
  · change completion + costs.postSendTicks ≤ completion' + larger.postSendTicks
    omega
  · intro slot
    apply SlotTable.putAll_mono _ hholdFloor
    intro slot
    exact SlotTable.putAll_mono h.hNotBefore (Option.none_le) _ slot
  · intro slot
    apply SlotTable.putAll_mono _ (Option.none_le)
    intro slot
    exact SlotTable.putAll_mono h.tNotBefore hgapFloor _ slot

/-- A metadata packet that is ready later frees the worker later. -/
theorem modelMetadata_mono (hcosts : costs.Below larger) (h : history.Below later)
    {ready laterReady : ℕ} (hready : ready ≤ laterReady) {sent laterSent : ModeledSend}
    (hsent : modelMetadata costs history ready = .ok sent)
    (hlater : modelMetadata larger later laterReady = .ok laterSent) : sent.Below laterSent := by
  simp only [modelMetadata, Except.bind_eq_ok, okOr_eq_ok, checkedAdd_eq_some,
    Except.pure_eq_ok] at hsent hlater
  obtain ⟨_, ⟨-, rfl⟩, rfl⟩ := hsent
  obtain ⟨_, ⟨-, rfl⟩, rfl⟩ := hlater
  have hmetadata := hcosts.metadataTicks
  exact {
    workerFree := by
      change ready + costs.metadataTicks ≤ laterReady + larger.metadataTicks
      omega
    hNotBefore := h.hNotBefore
    tNotBefore := h.tNotBefore }

/-- A packet that is ready later is done later. -/
theorem modelSend_mono (hcosts : costs.Below larger) (h : history.Below later)
    {packet : ModelPacket} {ready laterReady : ℕ} (hready : ready ≤ laterReady)
    {sent laterSent : ModeledSend} (hsent : modelSend costs history packet ready = .ok sent)
    (hlater : modelSend larger later packet laterReady = .ok laterSent) : sent.Below laterSent := by
  cases hkind : packet.kind with
  | physical =>
    rw [modelSend, hkind] at hsent hlater
    exact modelPhysicalSend_mono hcosts h hready hsent hlater
  | metadata =>
    rw [modelSend, hkind] at hsent hlater
    exact modelMetadata_mono hcosts h hready hsent hlater

end Send

/-- The slack of a packet falls with its constraint. -/
theorem signedDifference_anti {target ready later : ℕ} (h : ready ≤ later) {slack laterSlack : ℤ}
    (hslack : signedDifference target ready = .ok slack)
    (hlater : signedDifference target later = .ok laterSlack) : laterSlack ≤ slack := by
  simp only [signedDifference] at hslack hlater
  split at hslack
  · split at hlater
    · obtain rfl := Except.ok.inj hslack
      obtain rfl := Except.ok.inj hlater
      omega
    · cases hlater
  · cases hslack

section Run

variable {config larger : WholeStreamModelConfig} {costs laterCosts : TickCosts}
  {cancelled laterCancelled : Option (ℕ → Bool)}

/-- Analyzing a packet keeps the histories ordered and appends ordered rows. -/
theorem analyzePacket_mono (hconfig : config.Below larger) (hcosts : costs.Below laterCosts)
    {history later next laterNext : AnalysisHistory} (h : history.Below later)
    {packetIndex : ℕ} {packet : ModelPacket}
    (hnext : analyzePacket config costs cancelled history packetIndex packet = .ok next)
    (hlater : analyzePacket larger laterCosts laterCancelled later packetIndex packet =
      .ok laterNext) : next.Below laterNext := by
  simp only [analyzePacket, Except.bind_eq_ok, failIf_eq_ok, okOr_eq_ok, checkedSub_eq_some,
    Except.pure_eq_ok] at hnext hlater
  obtain ⟨_, _, _, _, _, _, _, _, slack, hslack, counts, _, displacement, ⟨_, hdisplacement⟩,
    lateness, ⟨_, hlateness⟩, sent, hsent, rfl⟩ := hnext
  obtain ⟨_, _, _, _, _, _, _, _, slack', hslack', counts', _, displacement', ⟨_, hdisplacement'⟩,
    lateness', ⟨_, hlateness'⟩, sent', hsent', rfl⟩ := hlater
  have hfloors := packetFloors_mono hconfig h packet
  have hfloorReady := hfloors.floorReady_le packet.authoredTargetTicks
  have hconstraint := hfloors.constraintReady_le h.previousWorkerFree
  have hready : max packet.authoredTargetTicks
        ((packetFloors config history packet).constraintReady history.previousWorkerFree) ≤
      max packet.authoredTargetTicks
        ((packetFloors larger later packet).constraintReady later.previousWorkerFree) :=
    Nat.max_le.mpr ⟨Nat.le_max_left _ _, Nat.le_trans hconstraint (Nat.le_max_right _ _)⟩
  have hsends := modelSend_mono hcosts h hready hsent hsent'
  exact {
    hNotBefore := hsends.hNotBefore
    tNotBefore := hsends.tNotBefore
    previousWorkerFree := Option.some_le_some.mpr hsends.workerFree
    rows := List.rel_append h.rows (.cons {
      packetIndex := rfl
      authoredTarget := rfl
      ready := hready
      hFloor := floorDisplacement_mono hfloors.hFloor _
      tFloor := floorDisplacement_mono hfloors.tFloor _
      resumeFloor := floorDisplacement_mono hfloors.resumeFloor _
      totalFloor := by
        change displacement ≤ displacement'
        omega
      lateness := by
        change lateness ≤ lateness'
        omega
      slack := signedDifference_anti hconstraint hslack hslack' } .nil) }

/-- Analyzing the remaining packets keeps the histories ordered. -/
theorem analyzePackets_mono (hconfig : config.Below larger) (hcosts : costs.Below laterCosts)
    (packets : List ModelPacket) {history later final laterFinal : AnalysisHistory}
    (h : history.Below later) {packetIndex : ℕ}
    (hfinal : analyzePackets config costs cancelled history packetIndex packets = .ok final)
    (hlater : analyzePackets larger laterCosts laterCancelled later packetIndex packets =
      .ok laterFinal) : final.Below laterFinal := by
  induction packets generalizing history later packetIndex with
  | nil =>
    obtain rfl := Except.ok.inj hfinal
    obtain rfl := Except.ok.inj hlater
    exact h
  | cons packet rest ih =>
    obtain ⟨next, hnext, hrest⟩ := Except.bind_eq_ok.mp hfinal
    obtain ⟨laterNext, hlaterNext, hlaterRest⟩ := Except.bind_eq_ok.mp hlater
    exact ih (analyzePacket_mono hconfig hcosts h hnext hlaterNext) hrest hlaterRest

/-- The rows of the remaining packets follow those of the packets before. -/
theorem analyzePackets_length {packets : List ModelPacket} {history final : AnalysisHistory}
    {packetIndex : ℕ}
    (h : analyzePackets config costs cancelled history packetIndex packets = .ok final) :
    final.rows.length = history.rows.length + packets.length := by
  induction packets generalizing history packetIndex with
  | nil =>
    obtain rfl := Except.ok.inj h
    rfl
  | cons packet rest ih =>
    obtain ⟨next, hnext, hrest⟩ := Except.bind_eq_ok.mp h
    obtain ⟨row, hrow⟩ := analyzePacket_analyzed hnext
    rw [ih hrest, hrow.rows, List.length_append, List.length_singleton, List.length_cons]
    omega

/-- The reports of one stream, also of cancellable analyses, are ordered like their
configurations. -/
theorem analyzeWholeStreamInner_mono (hconfig : config.Below larger) {packets : List ModelPacket}
    {report laterReport : WholeStreamModelReport}
    (h : analyzeWholeStreamInner packets config cancelled = .ok report)
    (hlater : analyzeWholeStreamInner packets larger laterCancelled = .ok laterReport) :
    report.packets.length = packets.length ∧
      List.Forall₂ WholeStreamPacketEstimate.Below report.packets laterReport.packets := by
  simp only [analyzeWholeStreamInner, Except.bind_eq_ok, Except.pure_eq_ok] at h hlater
  obtain ⟨_, _, _, _, costs, hcosts, final, hfinal, _, _, rfl⟩ := h
  obtain ⟨_, _, _, _, laterCosts, hlaterCosts, laterFinal, hlaterFinal, _, _, rfl⟩ := hlater
  have hinitial : AnalysisHistory.initial.Below AnalysisHistory.initial := {
    hNotBefore := fun _ => Option.none_le
    tNotBefore := fun _ => Option.none_le
    previousWorkerFree := Option.none_le
    rows := .nil }
  have hbelow := analyzePackets_mono hconfig (tickCosts_mono hconfig hcosts hlaterCosts) packets
    hinitial hfinal hlaterFinal
  constructor
  · rw [analyzePackets_length hfinal]
    simp [AnalysisHistory.initial]
  · exact hbelow.rows

end Run

/-- Whenever two analyses of one stream succeed, and every duration and the barrier of one are at
most those of the other, every packet has a row in both, it is ready no later in the one, and no
floor displaces it further there. -/
theorem analyzeWholeStream_mono {config larger : WholeStreamModelConfig}
    (hconfig : config.Below larger) {packets : List ModelPacket}
    {report laterReport : WholeStreamModelReport}
    (h : analyzeWholeStream packets config = .ok report)
    (hlater : analyzeWholeStream packets larger = .ok laterReport) :
    ∀ (index : ℕ) (packet : ModelPacket), packets[index]? = some packet →
      ∃ row laterRow : WholeStreamPacketEstimate, report.packets[index]? = some row ∧
        laterReport.packets[index]? = some laterRow ∧ row.Below laterRow := by
  obtain ⟨hlength, hrows⟩ := analyzeWholeStreamInner_mono hconfig h hlater
  obtain ⟨hsame, hbelow⟩ := List.forall₂_iff_get.mp hrows
  intro index packet hpacket
  have hindex : index < report.packets.length := by
    rw [hlength]
    exact (List.getElem?_eq_some_iff.mp hpacket).1
  have hlaterIndex : index < laterReport.packets.length := hsame ▸ hindex
  exact ⟨_, _, List.getElem?_eq_getElem hindex, List.getElem?_eq_getElem hlaterIndex,
    hbelow index hindex hlaterIndex⟩

/-- A key pressed, released and pressed again. -/
def pressedTwice : List ModelPacket :=
  [⟨0, 0#16, 1#16, .physical⟩, ⟨10, 1#16, 0#16, .physical⟩, ⟨14, 0#16, 1#16, .physical⟩]

/-- One megahertz, a hold of ten ticks and a gap of four. -/
def shortDurations : WholeStreamModelConfig where
  qpcFrequencyHz := 1000000
  effectiveMinHoldUs := 10
  physicalReleaseGapUs := 4
  estimatedSenderSetupUs := 0
  estimatedPerInputUs := 1
  estimatedPostSendUs := 0
  estimatedMetadataCostUs := 0
  resumeDownBarrierTicks := none

/-- A longer hold, and a barrier. -/
def longDurations : WholeStreamModelConfig :=
  { shortDurations with effectiveMinHoldUs := 12, resumeDownBarrierTicks := some 5 }

/-- The key is pressed again later under the longer hold. -/
theorem pressedTwice_later :
    ∃ report laterReport, analyzeWholeStream pressedTwice shortDurations = .ok report ∧
      analyzeWholeStream pressedTwice longDurations = .ok laterReport ∧
      ∀ (index : ℕ) (packet : ModelPacket), pressedTwice[index]? = some packet →
        ∃ row laterRow : WholeStreamPacketEstimate, report.packets[index]? = some row ∧
          laterReport.packets[index]? = some laterRow ∧ row.Below laterRow := by
  have hbelow : shortDurations.Below longDurations := by
    constructor
    case barrier => exact Option.none_le
    all_goals decide
  obtain ⟨report, hreport⟩ := Except.exists_of_isOk
    (show (analyzeWholeStream pressedTwice shortDurations).isOk = true by decide +kernel)
  obtain ⟨laterReport, hlater⟩ := Except.exists_of_isOk
    (show (analyzeWholeStream pressedTwice longDurations).isOk = true by decide +kernel)
  exact ⟨report, laterReport, hreport, hlater, analyzeWholeStream_mono hbelow hreport hlater⟩

end SkyAutoPlayer.Player
