import SkyAutoPlayer.DispatchCore.KeyTiming

/-!
# Holds and gaps by generation

The validator keeps one open press and one last release for every key while it walks a schedule. On a
compiled schedule, and under a monotone conversion without overflow, it accepts exactly when every
release comes at least the hold after the press of its generation, and every press at least the gap
after the last release of its key that closed a press.
-/

namespace SkyAutoPlayer.DispatchCore

open Foundation

/-- The last release of a key that closed a press. -/
def previousOwnedUp (slot : ℕ) (before : List WalkedIntent) : Option WalkedIntent :=
  (before.filter fun walked => walked.batch.kind = .up ∧ walked.slot = slot ∧
    walked.intent.generationId ≠ noGenerationId).getLast?

/-- Every generation is held long enough, and every press comes long enough after the last release of
its key that closed a press, when the gap is positive. -/
structure HoldsAndGaps (floors : TimingFloors) (schedule : RuntimeSchedule) : Prop where
  holds : ∀ down ∈ scheduleWalk schedule, ∀ up ∈ scheduleWalk schedule,
    down.batch.kind = .down → up.batch.kind = .up →
      up.intent.generationId = down.intent.generationId →
        floors.ticks down.batch.scheduledUs + floors.effectiveMinHoldTicks ≤
          floors.ticks up.batch.scheduledUs
  gaps : 0 < floors.minReleaseGapUs → ∀ before down after,
    scheduleWalk schedule = before ++ down :: after → down.batch.kind = .down →
      ∀ up, previousOwnedUp down.slot before = some up →
        floors.ticks up.batch.scheduledUs + floors.minReleaseGapTicks ≤
          floors.ticks down.batch.scheduledUs

/-- The conversion is monotone, and neither it nor the hold overflows on the times of a schedule. -/
structure ConvertsMonotonically (floors : TimingFloors) (schedule : RuntimeSchedule) : Prop where
  monotone : ∀ {early late earlyTicks lateTicks : ℕ}, early ≤ late →
    floors.microsecondsToTicks early = some earlyTicks →
      floors.microsecondsToTicks late = some lateTicks → earlyTicks ≤ lateTicks
  converts : ∀ batch ∈ schedule.batches, ∃ ticks,
    floors.microsecondsToTicks batch.scheduledUs = some ticks ∧
      ticks + floors.effectiveMinHoldTicks < 2 ^ 64
  lastFits : (schedule.batches.getLast?.map (·.scheduledUs)).getD 0 + floors.effectiveMinHoldUs <
    2 ^ 64

variable {floors : TimingFloors} {registry : KeyRegistry} {schedule : RuntimeSchedule}
  {before : List WalkedIntent} {walked : WalkedIntent} {slot : ℕ}

/-- One more element is the last release of its key if it closed a press. -/
theorem previousOwnedUp_concat :
    previousOwnedUp slot (before ++ [walked]) =
      if walked.batch.kind = .up ∧ walked.slot = slot ∧
        walked.intent.generationId ≠ noGenerationId then some walked
      else previousOwnedUp slot before := by
  unfold previousOwnedUp
  rw [List.filter_append, List.filter_cons, List.filter_nil]
  simp only [decide_eq_true_eq]
  split
  · rw [List.getLast?_concat]
  · rw [List.append_nil]

/-- What the validator keeps comes from the elements it has walked. -/
structure KeepsWalked (floors : TimingFloors) (before : List WalkedIntent) (walk : ValidationWalk) :
    Prop where
  pressed : ∀ slot, ∀ active ∈ walk.openBySlot slot, active.generationId ≠ noGenerationId ∧
    ∃ down ∈ before, down.batch.kind = .down ∧ down.slot = slot ∧
      down.intent.generationId = active.generationId ∧
        active.downScheduledTicks = floors.ticks down.batch.scheduledUs
  released : 0 < floors.minReleaseGapUs → ∀ slot,
    (walk.lastReleaseBySlot slot).map (·.scheduledTicks) =
      (previousOwnedUp slot before).map fun up => floors.ticks up.batch.scheduledUs

/-- An owned element keeps it so. -/
theorem KeepsWalked.step {walk : ValidationWalk} (h : KeepsWalked floors before walk)
    (howned : walked.Owned walk) :
    KeepsWalked floors (before ++ [walked]) (walkStep floors registry walk walked) := by
  have hpressed : ∀ slot, ∀ active ∈ walk.openBySlot slot, active.generationId ≠ noGenerationId ∧
      ∃ down ∈ before ++ [walked], down.batch.kind = .down ∧ down.slot = slot ∧
        down.intent.generationId = active.generationId ∧
          active.downScheduledTicks = floors.ticks down.batch.scheduledUs := by
    intro slot active hactive
    obtain ⟨hreal, down, hdown, hrest⟩ := h.pressed slot active hactive
    exact ⟨hreal, down, List.mem_append_left _ hdown, hrest⟩
  unfold WalkedIntent.Owned at howned
  unfold walkStep
  cases hkind : walked.batch.kind with
  | up =>
    rw [hkind] at howned
    dsimp only at howned ⊢
    cases hopen : walk.openBySlot walked.intent.keySlot with
    | none =>
      -- a stale release names no generation
      rw [hopen] at howned
      rw [if_neg (by simp)]
      refine ⟨hpressed, fun hgap slot => ?_⟩
      rw [previousOwnedUp_concat, if_neg fun hup => hup.2.2 howned.symm]
      exact h.released hgap slot
    | some active =>
      rw [hopen] at howned
      have hreal : walked.intent.generationId ≠ noGenerationId := by
        have hgeneration : active.generationId = walked.intent.generationId := howned
        rw [← hgeneration]
        exact (h.pressed _ active hopen).1
      rw [if_pos (by simp)]
      refine ⟨fun slot other hother => ?_, fun hgap slot => ?_⟩
      · by_cases hslot : slot = walked.intent.keySlot
        · subst hslot
          simp [ValidationWalk.release] at hother
        · simp only [ValidationWalk.release, Function.update_of_ne hslot] at hother
          exact hpressed slot other hother
      · rw [previousOwnedUp_concat, ValidationWalk.release]
        dsimp only
        rw [if_pos hgap]
        by_cases hslot : slot = walked.intent.keySlot
        · subst hslot
          rw [Function.update_self, if_pos ⟨hkind, rfl, hreal⟩]
          rfl
        · rw [Function.update_of_ne hslot, if_neg fun hup => hslot hup.2.1.symm]
          exact h.released hgap slot
  | down =>
    rw [hkind] at howned
    dsimp only at howned ⊢
    refine ⟨fun slot active hactive => ?_, fun hgap slot => ?_⟩
    · by_cases hslot : slot = walked.intent.keySlot
      · subst hslot
        simp only [ValidationWalk.press, Function.update_self] at hactive
        obtain rfl := Option.some.inj hactive
        exact ⟨howned.1, walked, List.mem_append_right _ List.mem_cons_self, hkind, rfl, rfl, rfl⟩
      · simp only [ValidationWalk.press, Function.update_of_ne hslot] at hactive
        exact hpressed slot active hactive
    · rw [previousOwnedUp_concat, if_neg fun hup => by simp [hkind] at hup]
      exact h.released hgap slot

/-- Owned elements leave the validator with what it has walked. -/
theorem keepsWalked_foldl
    (howned : Guarded WalkedIntent.Owned (walkStep floors registry) ValidationWalk.initial before) :
    KeepsWalked floors before (before.foldl (walkStep floors registry) ValidationWalk.initial) := by
  induction before using List.reverseRecOn with
  | nil => exact ⟨nofun, fun _ _ => rfl⟩
  | append_singleton before walked ih =>
    obtain ⟨hbefore, hwalked, -⟩ := guarded_append.mp howned
    rw [List.foldl_append]
    exact (ih hbefore).step hwalked

/-- The batches of a packet are batches of the schedule. -/
theorem mem_batches_of_packet {packet : CompiledPacket} {batch : CompiledBatch}
    (hbatch : batch ∈ packetBatches schedule packet) : batch ∈ schedule.batches := by
  unfold packetBatches at hbatch
  cases hslice : slice schedule.batches packet.firstBatchIndex packet.batchCount with
  | none =>
    rw [hslice] at hbatch
    cases hbatch
  | some own =>
    rw [hslice] at hbatch
    obtain ⟨earlier, later, hparts, -⟩ := slice_eq_some.mp hslice
    rw [hparts]
    exact List.mem_append_left _ (List.mem_append_right _ hbatch)

section Sound

variable (h : schedule.Sound)
include h

/-- The elements of a sound schedule have the times of batches, and their times do not decrease. -/
theorem scheduleWalk_times :
    (∀ walked ∈ scheduleWalk schedule, walked.batch ∈ schedule.batches) ∧
      (scheduleWalk schedule).Pairwise fun a b => a.batch.scheduledUs ≤ b.batch.scheduledUs := by
  have hpacket : ∀ packet ∈ schedule.packets, ∀ walked ∈ packetWalk schedule packet,
      walked.batch ∈ schedule.batches ∧ walked.batch.scheduledUs = packet.scheduledUs := by
    intro packet hpacket walked hwalked
    obtain ⟨own, hown, -, htimes, -⟩ := (h.packets packet hpacket).batches
    have hbatch : walked.batch ∈ packetBatches schedule packet := by
      rcases List.mem_append.mp hwalked with hup | hdown
      · exact ((kindWalk_spec schedule .up _).2 walked hup).1
      · exact ((kindWalk_spec schedule .down _).2 walked hdown).1
    refine ⟨mem_batches_of_packet hbatch, htimes _ ?_⟩
    rwa [packetBatches, hown] at hbatch
  refine ⟨fun walked hwalked => ?_, ?_⟩
  · obtain ⟨packet, hmem, hwalked⟩ := List.mem_flatMap.mp hwalked
    exact (hpacket packet hmem walked hwalked).1
  · rw [scheduleWalk, List.pairwise_flatMap]
    refine ⟨fun packet hmem => ?_, ?_⟩
    · refine List.pairwise_of_forall_mem_list fun a ha b hb => ?_
      rw [(hpacket packet hmem a ha).2, (hpacket packet hmem b hb).2]
    · refine h.times.imp_of_mem fun {first second} hfirst hsecond hlt a ha b hb => ?_
      rw [(hpacket first hfirst a ha).2, (hpacket second hsecond b hb).2]
      exact hlt.le

/-- A generation of a sound schedule is pressed once. -/
theorem down_unique {one other : WalkedIntent} (hone : one ∈ scheduleWalk schedule)
    (hother : other ∈ scheduleWalk schedule) (hdown : one.batch.kind = .down)
    (hdownOther : other.batch.kind = .down)
    (hsame : one.intent.generationId = other.intent.generationId) : one = other := by
  have hids : (((scheduleWalk schedule).filter fun walked => walked.batch.kind = .down).map
      fun walked => walked.intent.generationId) = PressLedger.downIds schedule.frames := by
    rw [RuntimeSchedule.frames, downIds_packets, scheduleWalk, List.filter_flatMap, List.map_flatMap]
    refine List.flatMap_congr fun packet hpacket => ?_
    obtain ⟨ups, downs, hwalk, -, hdowns, hupKinds, hdownKinds⟩ := (h.packets packet hpacket).walk
    rw [hwalk, List.filter_append, List.filter_eq_nil_iff.mpr, List.nil_append,
      List.filter_eq_self.mpr, ← hdowns, List.map_map]
    · rfl
    · exact fun walked hwalked => decide_eq_true (hdownKinds walked hwalked).1
    · intro walked hwalked
      rw [(hupKinds walked hwalked).1]
      decide
  have hnodup : (PressLedger.downIds schedule.frames).Nodup := by
    rw [h.coherent.downIds_eq]
    exact List.nodup_range
  rw [← hids] at hnodup
  exact List.inj_on_of_nodup_map hnodup (List.mem_filter.mpr ⟨hone, decide_eq_true hdown⟩)
    (List.mem_filter.mpr ⟨hother, decide_eq_true hdownOther⟩) hsame

/-- The validator's records are timely exactly when holds and gaps are long enough. -/
theorem timely_iff_holdsAndGaps (hconverts : ConvertsMonotonically floors schedule) :
    Guarded (fun state walked => WalkedIntent.Timely floors state walked)
        (walkStep floors schedule.keyRegistry) ValidationWalk.initial (scheduleWalk schedule) ↔
      HoldsAndGaps floors schedule := by
  obtain ⟨howned, -⟩ := @RuntimeSchedule.Sound.walk_owned floors schedule.keyRegistry schedule h
  obtain ⟨hbatches, htimes⟩ := scheduleWalk_times h
  have hreal := guarded_iff.mp howned
  have hticks : ∀ walked ∈ scheduleWalk schedule,
      floors.microsecondsToTicks walked.batch.scheduledUs =
        some (floors.ticks walked.batch.scheduledUs) ∧
      floors.ticks walked.batch.scheduledUs + floors.effectiveMinHoldTicks < 2 ^ 64 := by
    intro walked hwalked
    obtain ⟨ticks, hsome, hfits⟩ := hconverts.converts _ (hbatches walked hwalked)
    rw [TimingFloors.ticks, hsome]
    exact ⟨rfl, hfits⟩
  have hkeeps : ∀ before walked after, scheduleWalk schedule = before ++ walked :: after →
      KeepsWalked floors before
        (before.foldl (walkStep floors schedule.keyRegistry) ValidationWalk.initial) := by
    intro before walked after hsplit
    rw [hsplit] at howned
    exact keepsWalked_foldl (guarded_append.mp howned).1
  constructor
  · intro htimely
    have hat := guarded_iff.mp htimely
    refine ⟨fun down hdown up hup hdownKind hupKind hsame => ?_,
      fun hgap before down after hsplit hdownKind up hprevious => ?_⟩
    · obtain ⟨before, after, hsplit⟩ := List.append_of_mem hup
      obtain ⟨pre, post, hpre⟩ := List.append_of_mem hdown
      have hgeneration : down.intent.generationId ≠ noGenerationId := by
        have hownedDown := hreal pre down post hpre
        rw [WalkedIntent.Owned, hdownKind] at hownedDown
        exact hownedDown.1
      have hownedUp := hreal before up after hsplit
      have htimelyUp := hat before up after hsplit
      rw [WalkedIntent.Owned, hupKind] at hownedUp
      rw [WalkedIntent.Timely, hupKind] at htimelyUp
      dsimp only at hownedUp htimelyUp
      cases hopen : (before.foldl (walkStep floors schedule.keyRegistry)
          ValidationWalk.initial).openBySlot up.intent.keySlot with
      | none =>
        rw [hopen] at hownedUp
        exact absurd (hownedUp.trans hsame).symm hgeneration
      | some active =>
        rw [hopen] at hownedUp
        have hactive : active.generationId = up.intent.generationId := hownedUp
        obtain ⟨-, pressed, hpressed, hpressedKind, -, hpressedId, hpressedTicks⟩ :=
          (hkeeps before up after hsplit).pressed _ active hopen
        have hpressedMem : pressed ∈ scheduleWalk schedule := by
          rw [hsplit]
          exact List.mem_append_left _ hpressed
        obtain rfl : pressed = down := down_unique h hpressedMem hdown hpressedKind hdownKind
          (hpressedId.trans (hactive.trans hsame))
        rw [← hpressedTicks]
        exact (htimelyUp active hopen).2
    · have htimelyDown := hat before down after hsplit
      rw [WalkedIntent.Timely, hdownKind] at htimelyDown
      have hreleased := (hkeeps before down after hsplit).released hgap down.slot
      rw [hprevious, Option.map_some, Option.map_eq_some_iff] at hreleased
      obtain ⟨boundary, hboundary, hboundaryTicks⟩ := hreleased
      have hgapTicks := htimelyDown hgap boundary hboundary
      rw [hboundaryTicks] at hgapTicks
      have hupMem : up ∈ before := by
        have hlast := List.mem_of_getLast? hprevious
        exact (List.mem_filter.mp hlast).1
      have horder : up.batch.scheduledUs ≤ down.batch.scheduledUs := by
        rw [hsplit, List.pairwise_append] at htimes
        exact htimes.2.2 up hupMem down List.mem_cons_self
      have hdownMem : down ∈ scheduleWalk schedule := by
        rw [hsplit]
        exact List.mem_append_right _ List.mem_cons_self
      have hupWalk : up ∈ scheduleWalk schedule := by
        rw [hsplit]
        exact List.mem_append_left _ hupMem
      have hle := hconverts.monotone horder (hticks up hupWalk).1 (hticks down hdownMem).1
      omega
  · intro hboth
    refine guarded_iff.mpr fun before walked after hsplit => ?_
    have hmem : walked ∈ scheduleWalk schedule := by
      rw [hsplit]
      exact List.mem_append_right _ List.mem_cons_self
    have hownedAt := hreal before walked after hsplit
    unfold WalkedIntent.Owned at hownedAt
    unfold WalkedIntent.Timely
    cases hkind : walked.batch.kind with
    | up =>
      rw [hkind] at hownedAt
      intro active hactive
      rw [show _ = some active from hactive] at hownedAt
      have hsame : active.generationId = walked.intent.generationId := hownedAt
      obtain ⟨-, down, hdown, hdownKind, -, hdownId, hdownTicks⟩ :=
        (hkeeps before walked after hsplit).pressed _ active hactive
      have hdownMem : down ∈ scheduleWalk schedule := by
        rw [hsplit]
        exact List.mem_append_left _ hdown
      rw [hdownTicks]
      exact ⟨(hticks down hdownMem).2,
        hboth.holds down hdownMem walked hmem hdownKind hkind (hsame.symm.trans hdownId.symm)⟩
    | down =>
      intro hgap boundary hboundary
      have hreleased := (hkeeps before walked after hsplit).released hgap walked.slot
      rw [show (before.foldl (walkStep floors schedule.keyRegistry)
        ValidationWalk.initial).lastReleaseBySlot walked.slot = some boundary from hboundary,
        Option.map_some, eq_comm, Option.map_eq_some_iff] at hreleased
      obtain ⟨up, hprevious, hupTicks⟩ := hreleased
      have hlong := hboth.gaps hgap before walked after hsplit hkind up hprevious
      omega

end Sound

/-- The validator accepts a compiled schedule, under a monotone conversion without overflow, exactly
when every generation is held for the hold, and every press comes the gap after the last release of
its key that closed a press, when the gap is positive. -/
theorem validator_decides_holds_and_gaps {actions : List KeyActionInput}
    {allowedScanCodes : List ℕ} {schedule : RuntimeSchedule}
    {effectiveMinHoldUs effectiveMinHoldTicks minReleaseGapUs minReleaseGapTicks : ℕ}
    {microsecondsToTicks : ℕ → Option ℕ}
    (hcompiled : compileRuntimeIntents actions allowedScanCodes = .ok schedule)
    (hconverts : ConvertsMonotonically ⟨effectiveMinHoldUs, effectiveMinHoldTicks, minReleaseGapUs,
      minReleaseGapTicks, microsecondsToTicks⟩ schedule) :
    validateMinHoldAndReleaseGapFeasibilityTicks schedule effectiveMinHoldUs effectiveMinHoldTicks
        minReleaseGapUs minReleaseGapTicks microsecondsToTicks = .ok () ↔
      HoldsAndGaps ⟨effectiveMinHoldUs, effectiveMinHoldTicks, minReleaseGapUs, minReleaseGapTicks,
        microsecondsToTicks⟩ schedule := by
  have hsound := compiled_sound hcompiled
  rw [← timely_iff_holdsAndGaps hsound hconverts, validateMinHoldAndReleaseGapFeasibilityTicks,
    validateFeasibility_sound hsound,
    ← @timely_iff_slots _ schedule.keyRegistry]
  constructor
  · rintro ⟨-, -, htimely⟩
    exact htimely
  · intro htimely
    refine ⟨hconverts.lastFits, fun _ _ batch hbatch => ?_, htimely⟩
    obtain ⟨ticks, hticks, -⟩ := hconverts.converts batch (mem_batches_of_packet hbatch)
    rw [hticks]
    rfl

/-- With a stale release among its actions, a schedule keeps a hold of ten ticks and a gap of ten. -/
theorem validator_decides_holds_and_gaps_stale : ∃ schedule,
    compileRuntimeIntents staleReleaseActions [22, 21] = .ok schedule ∧
      HoldsAndGaps ⟨10, 10, 10, 10, some⟩ schedule := by
  have hcheck : (compileRuntimeIntents staleReleaseActions [22, 21]).toOption.any (fun schedule =>
      decide ((∀ batch ∈ schedule.batches, batch.scheduledUs + 10 < 2 ^ 64) ∧
        (schedule.batches.getLast?.map (·.scheduledUs)).getD 0 + 10 < 2 ^ 64) &&
      (validateMinHoldAndReleaseGapFeasibilityTicks schedule 10 10 10 10 some).isOk) = true := by
    decide +kernel
  obtain ⟨schedule, hschedule, hpasses⟩ := Except.exists_of_any hcheck
  obtain ⟨hfits, hok⟩ := Bool.and_eq_true_iff.mp hpasses
  obtain ⟨hbatches, hlast⟩ := of_decide_eq_true hfits
  obtain ⟨⟨⟩, haccepted⟩ := Except.exists_of_isOk hok
  have hconverts : ConvertsMonotonically ⟨10, 10, 10, 10, some⟩ schedule :=
    ⟨fun hle hearly hlate => Option.some.inj hearly ▸ Option.some.inj hlate ▸ hle,
      fun batch hbatch => ⟨_, rfl, hbatches batch hbatch⟩, hlast⟩
  exact ⟨schedule, hschedule, (validator_decides_holds_and_gaps hschedule hconverts).mp haccepted⟩

end SkyAutoPlayer.DispatchCore
