import SkyAutoPlayer.Player.PhysicalTimingGuard
import SkyAutoPlayer.Player.TimingModel

/-!
# The offline analysis and the live guard agree

Replaying the analyzed stream through a live guard keeps the guard's evidence equal to the
analysis's per-key history. One packet preserves that agreement and makes both sides compute
the same floor; the whole stream follows by induction over its packets.
-/

namespace SkyAutoPlayer.Player

open Foundation DispatchCore

/-- The guard's evidence is the analysis's history under the converted durations. -/
structure Agrees (config : WholeStreamModelConfig) (costs : TickCosts)
    (history : AnalysisHistory) (guard : PhysicalTimingGuard) : Prop where
  valid : guard.valid = true
  hold : guard.effectiveMinHoldTicks = costs.hTicks
  frame : guard.frameTicks = costs.tTicks
  musicalUp : guard.musicalUpNotBeforeQpc = history.hNotBefore
  down : guard.downNotBeforeQpc = history.tNotBefore
  barrier : guard.resumeDownNotBeforeQpc = config.resumeDownBarrierTicks

/-- The guard a stream starts with: fresh, or resumed one frame before the barrier. -/
def matchingGuard (config : WholeStreamModelConfig) (holdTicks frameTicks : ℕ) :
    EStateM.Result PhysicalTimingGuardError PhysicalTimingGuard Unit :=
  match config.resumeDownBarrierTicks with
  | none => .ok () (PhysicalTimingGuard.new holdTicks frameTicks)
  | some barrier =>
    (PhysicalTimingGuard.establishResumeDownBarrier (barrier - frameTicks)).run
      (PhysicalTimingGuard.new holdTicks frameTicks)

/-- Query a physical packet and observe its modeled completion; metadata is not queried. -/
def replayPacket (packet : ModelPacket) (row : WholeStreamPacketEstimate) :
    GuardM (Option PhysicalTimingWindow) :=
  match packet.kind, row.modeledSenderCompletionTicks with
  | .physical, some completion => do
    let guard ← get
    let window ← EStateM.ofExcept
      (guard.query packet.authoredTargetTicks packet.upMask packet.downMask)
    PhysicalTimingGuard.observeSuccessfulPacket completion packet.upMask packet.downMask
    pure (some window)
  | _, _ => pure none

/-- Replay the analyzed packets in order, collecting every window. -/
def replayStream : List (ModelPacket × WholeStreamPacketEstimate) →
    GuardM (List (Option PhysicalTimingWindow))
  | [] => pure []
  | (packet, row) :: rest => do
    let window ← replayPacket packet row
    let windows ← replayStream rest
    pure (window :: windows)

/-- When the modeled worker became free before the packet at an index. -/
def workerFreeBefore (start : Option ℕ) (rows : List WholeStreamPacketEstimate) :
    ℕ → Option ℕ
  | 0 => start
  | index + 1 => rows[index]?.map (·.modeledWorkerFreeTicks)

/-- The live window and the analysis's row describe the same readiness. -/
def RowAgrees (workerFree : Option ℕ) (packet : ModelPacket) (row : WholeStreamPacketEstimate)
    (window : Option PhysicalTimingWindow) : Prop :=
  packet.kind = .physical → ∃ live, window = some live ∧
    live.packetNotBeforeQpc = packet.authoredTargetTicks + row.totalFloorDisplacementTicks ∧
    row.modeledReadyTicks = max live.packetNotBeforeQpc (workerFree.getD 0)

/-- A computed observation floor is the sum when the mask is nonempty. -/
theorem observedFloor_run {mask : BitVec 16} {completed duration : ℕ}
    {guard : PhysicalTimingGuard} (hfits : mask ≠ 0#16 → completed + duration < 2 ^ 64) :
    ∃ floor, (PhysicalTimingGuard.observedFloor mask completed duration).run guard =
        .ok floor guard ∧
      ∀ table : SlotTable ℕ, table.putAll floor (slots mask) =
        table.putAll (some (completed + duration)) (slots mask) := by
  by_cases hmask : mask = 0#16
  · subst hmask
    refine ⟨none, ?_, fun table => by simp [SlotTable.putAll]⟩
    simp [PhysicalTimingGuard.observedFloor]
  · refine ⟨some (completed + duration), ?_, fun _ => rfl⟩
    have hadd : (PhysicalTimingGuard.addOrInvalidate completed duration).run guard =
        .ok (completed + duration) guard := by
      simp [PhysicalTimingGuard.addOrInvalidate, EStateM.run,
        checkedAddDuration_of_lt (hfits hmask)]
    rw [PhysicalTimingGuard.observedFloor, if_pos hmask, EStateM.run_bind_of_ok hadd]
    rfl

/-- The analysis's accepted masks pass the guard's own mask check. -/
theorem validatePacketMasks_of_analyzed {packet : ModelPacket}
    (h : ¬((packet.upMask ||| packet.downMask) &&& ~~~instrumentMask ≠ 0#16 ∨
      packet.upMask &&& packet.downMask ≠ 0#16)) :
    PhysicalTimingGuard.validatePacketMasks packet.upMask packet.downMask = .ok () :=
  failIf_of_not _ h

/-- Observing a modeled completion moves an agreeing guard to the next history. -/
theorem observe_agrees {config : WholeStreamModelConfig} {costs : TickCosts}
    {history next : AnalysisHistory} {guard : PhysicalTimingGuard} {packet : ModelPacket}
    {completion : ℕ} {sent : ModeledSend} (hagree : Agrees config costs history guard)
    (hmasks : PhysicalTimingGuard.validatePacketMasks packet.upMask packet.downMask = .ok ())
    (hsent : PhysicalSendModeled costs history packet completion sent)
    (hnextH : next.hNotBefore = sent.hNotBefore) (hnextT : next.tNotBefore = sent.tNotBefore) :
    ∃ guard', (PhysicalTimingGuard.observeSuccessfulPacket completion packet.upMask
        packet.downMask).run guard = .ok () guard' ∧ Agrees config costs next guard' := by
  have hvalid : guard.ensureValid = .ok () := failIf_of_not _ (by simp [hagree.valid])
  obtain ⟨downFloor, hdownFloor, hdownFill⟩ :=
    @observedFloor_run _ _ guard.frameTicks guard
      (fun hup => hagree.frame ▸ hsent.releaseFits hup)
  obtain ⟨upFloor, hupFloor, hupFill⟩ :=
    @observedFloor_run _ _ guard.effectiveMinHoldTicks guard
      (fun hdown => hagree.hold ▸ hsent.holdFits hdown)
  refine ⟨{ guard with
    musicalUpNotBeforeQpc := (guard.musicalUpNotBeforeQpc.putAll none
      (slots packet.upMask)).putAll upFloor (slots packet.downMask)
    downNotBeforeQpc := (guard.downNotBeforeQpc.putAll downFloor
      (slots packet.upMask)).putAll none (slots packet.downMask) }, ?_, ?_⟩
  · have hget : (get : GuardM PhysicalTimingGuard).run guard = .ok guard guard := rfl
    have hensure : (EStateM.ofExcept guard.ensureValid : GuardM Unit).run guard =
        .ok () guard := by rw [hvalid]; rfl
    have hcheck : (EStateM.ofExcept (PhysicalTimingGuard.validatePacketMasks packet.upMask
        packet.downMask) : GuardM Unit).run guard = .ok () guard := by rw [hmasks]; rfl
    unfold PhysicalTimingGuard.observeSuccessfulPacket
    rw [EStateM.run_bind_of_ok hget, EStateM.run_bind_of_ok hensure,
      EStateM.run_bind_of_ok hcheck, EStateM.run_bind_of_ok hget,
      EStateM.run_bind_of_ok hdownFloor, EStateM.run_bind_of_ok hget,
      EStateM.run_bind_of_ok hupFloor]
    rfl
  · exact {
      valid := hagree.valid
      hold := hagree.hold
      frame := hagree.frame
      musicalUp := by
        change (guard.musicalUpNotBeforeQpc.putAll none _).putAll upFloor _ = _
        rw [hupFill, hnextH, hsent.hNotBefore, hagree.musicalUp, hagree.hold]
      down := by
        change (guard.downNotBeforeQpc.putAll downFloor _).putAll none _ = _
        rw [hdownFill, hnextT, hsent.tNotBefore, hagree.down, hagree.frame]
      barrier := hagree.barrier }

/-- An agreeing guard's window starts exactly at the analysis's floor. -/
theorem windowFor_agrees {config : WholeStreamModelConfig} {costs : TickCosts}
    {history : AnalysisHistory} {guard : PhysicalTimingGuard} {packet : ModelPacket}
    (hagree : Agrees config costs history guard) :
    (guard.windowFor packet.authoredTargetTicks packet.upMask
      packet.downMask).packetNotBeforeQpc =
        (packetFloors config history packet).floorReady packet.authoredTargetTicks := by
  have hdownWindow : packet.authoredTargetTicks ≤ (PhysicalTimingGuard.floorForMask
      packet.authoredTargetTicks packet.downMask guard.downNotBeforeQpc).1 := by
    rw [PhysicalTimingGuard.floorForMask_fst]
    exact le_max_left _ _
  unfold PhysicalTimingGuard.windowFor
  dsimp only
  rw [PhysicalTimingGuard.raiseToBarrier_fst hdownWindow, PhysicalTimingGuard.floorForMask_fst,
    PhysicalTimingGuard.floorForMask_fst, hagree.musicalUp, hagree.down, hagree.barrier]
  simp only [PacketFloors.floorReady, packetFloors, foldFloor_eq]
  by_cases hup : packet.upMask = 0#16 <;> by_cases hdown : packet.downMask = 0#16 <;>
    cases config.resumeDownBarrierTicks <;>
    simp [hup, hdown]
  all_goals omega

/-- The worker's end and the floors together are the analysis's modeled readiness. -/
theorem ready_eq_max_floorReady (floors : PacketFloors) (target : ℕ) (workerFree : Option ℕ) :
    max target (floors.constraintReady workerFree) =
      max (floors.floorReady target) (workerFree.getD 0) := by
  obtain ⟨hFloor, tFloor, resumeFloor⟩ := floors
  cases hFloor <;> cases tFloor <;> cases resumeFloor <;>
    simp [PacketFloors.constraintReady, PacketFloors.floorReady]

/-- One analyzed packet replays on an agreeing guard, with an agreeing row and guard. -/
theorem analyzePacket_replays {config : WholeStreamModelConfig} {costs : TickCosts}
    {cancelled : Option (ℕ → Bool)} {history next : AnalysisHistory} {packetIndex : ℕ}
    {packet : ModelPacket} {guard : PhysicalTimingGuard}
    (h : analyzePacket config costs cancelled history packetIndex packet = .ok next)
    (hagree : Agrees config costs history guard) :
    ∃ row window guard', next.rows = history.rows ++ [row] ∧
      next.previousWorkerFree = some row.modeledWorkerFreeTicks ∧
      (replayPacket packet row).run guard = .ok window guard' ∧
      Agrees config costs next guard' ∧
      RowAgrees history.previousWorkerFree packet row window := by
  obtain ⟨row, hrow⟩ := analyzePacket_analyzed h
  obtain ⟨sent, hsent, hcompletion, hnextH, hnextT⟩ := hrow.sent
  unfold modelSend at hsent
  cases hkind : packet.kind with
  | metadata =>
    simp only [hkind] at hsent
    obtain ⟨hsentH, hsentT⟩ := modelMetadata_eq_ok hsent
    refine ⟨row, none, guard, hrow.rows, hrow.workerFree, ?_, ?_, fun h => nomatch hkind ▸ h⟩
    · simp [replayPacket, hkind]
    · exact { hagree with
        musicalUp := by rw [hagree.musicalUp, hnextH, hsentH]
        down := by rw [hagree.down, hnextT, hsentT] }
  | physical =>
    simp only [hkind] at hsent
    obtain ⟨completion, hmodeled⟩ := modelPhysicalSend_modeled hsent
    have hmasks := validatePacketMasks_of_analyzed hrow.masks
    have hnonempty : ¬(packet.upMask = 0#16 ∧ packet.downMask = 0#16) := by
      rintro ⟨hup, hdown⟩
      exact hrow.kind (Or.inl ⟨hkind, by simp [hup, hdown]⟩)
    obtain ⟨guard', hobserve, hagree'⟩ := observe_agrees hagree hmasks hmodeled hnextH hnextT
    have hquery : guard.query packet.authoredTargetTicks packet.upMask packet.downMask =
        .ok (guard.windowFor packet.authoredTargetTicks packet.upMask packet.downMask) := by
      unfold PhysicalTimingGuard.query PhysicalTimingGuard.ensureValid
      rw [failIf_of_not _ (by simp [hagree.valid]), hmasks, failIf_of_not _ hnonempty]
      rfl
    refine ⟨row, some (guard.windowFor packet.authoredTargetTicks packet.upMask packet.downMask),
      guard', hrow.rows, hrow.workerFree, ?_, hagree', fun _ => ⟨_, rfl, ?_, ?_⟩⟩
    · have hget : (get : GuardM PhysicalTimingGuard).run guard = .ok guard guard := rfl
      have hread : (EStateM.ofExcept (guard.query packet.authoredTargetTicks packet.upMask
          packet.downMask) : GuardM PhysicalTimingWindow).run guard =
          .ok (guard.windowFor packet.authoredTargetTicks packet.upMask packet.downMask) guard := by
        rw [hquery]
        rfl
      simp only [replayPacket, hkind, hcompletion, hmodeled.completed]
      rw [EStateM.run_bind_of_ok hget, EStateM.run_bind_of_ok hread,
        EStateM.run_bind_of_ok hobserve]
      rfl
    · rw [windowFor_agrees hagree, hrow.displacement]
    · rw [windowFor_agrees hagree, hrow.ready, ready_eq_max_floorReady]

/-- A successful analysis of a stream appends one agreeing row for every packet. -/
theorem analyzePackets_replays {config : WholeStreamModelConfig} {costs : TickCosts}
    {cancelled : Option (ℕ → Bool)} {history final : AnalysisHistory} {packetIndex : ℕ}
    {packets : List ModelPacket} {guard : PhysicalTimingGuard}
    (h : analyzePackets config costs cancelled history packetIndex packets = .ok final)
    (hagree : Agrees config costs history guard) :
    ∃ rows windows guard', final.rows = history.rows ++ rows ∧ rows.length = packets.length ∧
      (replayStream (packets.zip rows)).run guard = .ok windows guard' ∧
      ∀ index packet row, packets[index]? = some packet → rows[index]? = some row →
        ∃ window, windows[index]? = some window ∧
          RowAgrees (workerFreeBefore history.previousWorkerFree rows index) packet row
            window := by
  induction packets generalizing history packetIndex guard with
  | nil =>
    cases h
    exact ⟨[], [], guard, by simp, rfl, rfl, by simp⟩
  | cons packet rest ih =>
    rw [analyzePackets, Except.bind_eq_ok] at h
    obtain ⟨next, hpacket, hrest⟩ := h
    obtain ⟨row, window, guard', hrows, hfree, hreplay, hagree', hrowAgrees⟩ :=
      analyzePacket_replays hpacket hagree
    obtain ⟨rows, windows, guard'', hfinal, hlength, hreplayRest, hrestAgrees⟩ :=
      ih hrest hagree'
    refine ⟨row :: rows, window :: windows, guard'', ?_, by simp [hlength], ?_, ?_⟩
    · rw [hfinal, hrows, List.append_assoc]
      rfl
    · rw [List.zip_cons_cons, replayStream, EStateM.run_bind_of_ok hreplay,
        EStateM.run_bind_of_ok hreplayRest]
      rfl
    · intro index p r hp hr
      cases index with
      | zero =>
        simp only [List.getElem?_cons_zero, Option.some.injEq] at hp hr
        subst hp hr
        exact ⟨window, rfl, hrowAgrees⟩
      | succ index =>
        simp only [List.getElem?_cons_succ] at hp hr
        obtain ⟨w, hw, hagrees⟩ := hrestAgrees index p r hp hr
        refine ⟨w, by simpa using hw, ?_⟩
        cases index with
        | zero => simpa [workerFreeBefore, hfree] using hagrees
        | succ index => simpa [workerFreeBefore] using hagrees

/-- The matching initial guard exists and agrees with the initial history. -/
theorem matchingGuard_agrees {config : WholeStreamModelConfig} {costs : TickCosts}
    (hbarrier : ∀ barrier, config.resumeDownBarrierTicks = some barrier →
      costs.tTicks ≤ barrier ∧ barrier < 2 ^ 64) :
    ∃ guard, matchingGuard config costs.hTicks costs.tTicks = .ok () guard ∧
      Agrees config costs AnalysisHistory.initial guard := by
  unfold matchingGuard
  cases hresume : config.resumeDownBarrierTicks with
  | none =>
    exact ⟨_, rfl, { valid := rfl, hold := rfl, frame := rfl, musicalUp := rfl, down := rfl,
                     barrier := hresume.symm }⟩
  | some barrier =>
    obtain ⟨hframe, hlt⟩ := hbarrier barrier hresume
    have hsum : barrier - costs.tTicks + costs.tTicks = barrier := Nat.sub_add_cancel hframe
    have hget : (get : GuardM PhysicalTimingGuard).run
        (PhysicalTimingGuard.new costs.hTicks costs.tTicks) = .ok _ _ := rfl
    have hadd : (PhysicalTimingGuard.addOrInvalidate (barrier - costs.tTicks) costs.tTicks).run
        (PhysicalTimingGuard.new costs.hTicks costs.tTicks) =
          .ok barrier (PhysicalTimingGuard.new costs.hTicks costs.tTicks) := by
      simp [PhysicalTimingGuard.addOrInvalidate, EStateM.run,
        checkedAddDuration_of_lt (hsum.symm ▸ hlt), hsum]
    refine ⟨{ PhysicalTimingGuard.new costs.hTicks costs.tTicks with
      resumeDownNotBeforeQpc := some barrier }, ?_, ?_⟩
    · change (PhysicalTimingGuard.establishResumeDownBarrier (barrier - costs.tTicks)).run _ = _
      unfold PhysicalTimingGuard.establishResumeDownBarrier
      rw [EStateM.run_bind_of_ok hget]
      exact EStateM.run_bind_of_ok hadd
    · exact { valid := rfl, hold := rfl, frame := rfl, musicalUp := rfl, down := rfl,
              barrier := hresume.symm }

/-- A report's rows come from the packet loop under the converted durations. -/
theorem analyzeWholeStream_rows {packets : List ModelPacket} {config : WholeStreamModelConfig}
    {report : WholeStreamModelReport} (h : analyzeWholeStream packets config = .ok report) :
    ∃ costs final, tickCosts config = .ok costs ∧
      analyzePackets config costs none AnalysisHistory.initial 0 packets = .ok final ∧
      report.packets = final.rows := by
  simp only [analyzeWholeStream, analyzeWholeStreamInner, Except.bind_eq_ok,
    Except.pure_eq_ok] at h
  obtain ⟨_, _, _, _, costs, hcosts, final, hfinal, _, _, rfl⟩ := h
  exact ⟨costs, final, hcosts, hfinal, rfl⟩

/-- The converted hold and gap are the microsecond conversions of the configuration. -/
theorem tickCosts_hold_gap {config : WholeStreamModelConfig} {costs : TickCosts}
    (h : tickCosts config = .ok costs) :
    usToTicksCeil config.effectiveMinHoldUs config.qpcFrequencyHz = .ok costs.hTicks ∧
      usToTicksCeil config.physicalReleaseGapUs config.qpcFrequencyHz = .ok costs.tTicks := by
  simp only [tickCosts, Except.bind_eq_ok, Except.pure_eq_ok] at h
  obtain ⟨hTicks, hhold, tTicks, hgap, _, _, _, _, _, _, _, _, rfl⟩ := h
  exact ⟨hhold, hgap⟩

/-- Along every analyzed stream the live guard, started from the matching barrier, accepts
every packet, places it at the analysis's floor, and the modeled readiness is the later of
that floor and the worker's end. -/
theorem guard_agrees_with_analysis {packets : List ModelPacket}
    {config : WholeStreamModelConfig} {report : WholeStreamModelReport} {holdTicks gapTicks : ℕ}
    (hreport : analyzeWholeStream packets config = .ok report)
    (hhold : usToTicksCeil config.effectiveMinHoldUs config.qpcFrequencyHz = .ok holdTicks)
    (hgap : usToTicksCeil config.physicalReleaseGapUs config.qpcFrequencyHz = .ok gapTicks)
    (hbarrier : ∀ barrier, config.resumeDownBarrierTicks = some barrier →
      gapTicks ≤ barrier ∧ barrier < 2 ^ 64) :
    ∃ guard windows final, matchingGuard config holdTicks gapTicks = .ok () guard ∧
      report.packets.length = packets.length ∧
      (replayStream (packets.zip report.packets)).run guard = .ok windows final ∧
      ∀ index packet row, packets[index]? = some packet →
        report.packets[index]? = some row → packet.kind = .physical →
        ∃ live, windows[index]? = some (some live) ∧
          live.packetNotBeforeQpc =
            packet.authoredTargetTicks + row.totalFloorDisplacementTicks ∧
          row.modeledReadyTicks = max live.packetNotBeforeQpc
            ((workerFreeBefore none report.packets index).getD 0) := by
  obtain ⟨costs, final, hcosts, hpackets, hrows⟩ := analyzeWholeStream_rows hreport
  obtain ⟨hholdCosts, hgapCosts⟩ := tickCosts_hold_gap hcosts
  rw [hholdCosts] at hhold
  rw [hgapCosts] at hgap
  cases hhold
  cases hgap
  obtain ⟨guard, hguard, hagree⟩ := matchingGuard_agrees hbarrier
  obtain ⟨rows, windows, guard', hfinal, hlength, hreplay, hagrees⟩ :=
    analyzePackets_replays hpackets hagree
  have hreportRows : report.packets = rows := by
    rw [hrows, hfinal]
    rfl
  subst hreportRows
  refine ⟨guard, windows, guard', hguard, hlength, hreplay, ?_⟩
  intro index packet row hpacket hrow hphysical
  obtain ⟨window, hwindow, hrowAgrees⟩ := hagrees index packet row hpacket hrow
  obtain ⟨live, rfl, hfloor, hready⟩ := hrowAgrees hphysical
  exact ⟨live, hwindow, hfloor, hready⟩

/-- A repeated key resumed behind a barrier, with a metadata boundary in between. -/
def resumedRepeatChain : List ModelPacket :=
  [⟨0, 0#16, 1#16, .physical⟩, ⟨10, 1#16, 0#16, .physical⟩, ⟨12, 0#16, 0#16, .metadata⟩,
    ⟨14, 2#16, 1#16, .physical⟩]

/-- One megahertz, a hold of ten ticks, a gap of four, and a barrier at tick five. -/
def resumedRepeatConfig : WholeStreamModelConfig where
  qpcFrequencyHz := 1000000
  effectiveMinHoldUs := 10
  physicalReleaseGapUs := 4
  estimatedSenderSetupUs := 0
  estimatedPerInputUs := 1
  estimatedPostSendUs := 0
  estimatedMetadataCostUs := 0
  resumeDownBarrierTicks := some 5

/-- The resumed repeat chain is analyzed, and its live replay agrees. -/
theorem guard_agrees_on_resumedRepeatChain :
    ∃ report guard windows final,
      analyzeWholeStream resumedRepeatChain resumedRepeatConfig = .ok report ∧
      matchingGuard resumedRepeatConfig 10 4 = .ok () guard ∧
      (replayStream (resumedRepeatChain.zip report.packets)).run guard = .ok windows final ∧
      ∀ (index : ℕ) (packet : ModelPacket) (row : WholeStreamPacketEstimate),
        resumedRepeatChain[index]? = some packet →
        report.packets[index]? = some row → packet.kind = .physical →
        ∃ live : PhysicalTimingWindow, windows[index]? = some (some live) ∧
          live.packetNotBeforeQpc =
            packet.authoredTargetTicks + row.totalFloorDisplacementTicks := by
  have hbarrier : ∀ barrier, resumedRepeatConfig.resumeDownBarrierTicks = some barrier →
      4 ≤ barrier ∧ barrier < 2 ^ 64 := by
    intro barrier h
    cases h
    decide
  have hhold : usToTicksCeil resumedRepeatConfig.effectiveMinHoldUs
      resumedRepeatConfig.qpcFrequencyHz = .ok 10 := usToTicksCeil_eq_ok.mpr (by decide)
  have hgap : usToTicksCeil resumedRepeatConfig.physicalReleaseGapUs
      resumedRepeatConfig.qpcFrequencyHz = .ok 4 := usToTicksCeil_eq_ok.mpr (by decide)
  obtain ⟨report, hreport⟩ := Except.exists_of_isOk
    (show (analyzeWholeStream resumedRepeatChain resumedRepeatConfig).isOk = true by
      decide +kernel)
  obtain ⟨guard, windows, final, hguard, _, hreplay, hagrees⟩ :=
    guard_agrees_with_analysis hreport hhold hgap hbarrier
  refine ⟨report, guard, windows, final, hreport, hguard, hreplay, ?_⟩
  intro index packet row hpacket hrow hphysical
  obtain ⟨live, hlive, hfloor, _⟩ := hagrees index packet row hpacket hrow hphysical
  exact ⟨live, hlive, hfloor⟩

end SkyAutoPlayer.Player
