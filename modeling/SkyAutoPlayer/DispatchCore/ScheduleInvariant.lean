import SkyAutoPlayer.DispatchCore.CompiledSchedule
import SkyAutoPlayer.DispatchCore.ValidatedWalk

/-!
# The invariant of compiled schedules

Everything after compilation relies on the same facts about a schedule: its packets increase in
time and refer to intents and batches inside the arenas, their slots have scan codes, their
masks are the slots of their intents, and as a press stream the packets are coherent and end
with every key free.
-/

namespace SkyAutoPlayer.DispatchCore

open Foundation

/-- A packet whose ranges, slots and masks are in order. -/
structure SoundPacket (schedule : RuntimeSchedule) (packet : CompiledPacket) : Prop where
  ups : slice schedule.intents packet.upIntentStart packet.upIntentLen =
    some (packetUps schedule.intents packet)
  downs : slice schedule.intents packet.downIntentStart packet.downIntentLen =
    some (packetDowns schedule.intents packet)
  slots : ∀ intent ∈ packetUps schedule.intents packet ++ packetDowns schedule.intents packet,
    intent.keySlot < schedule.keyRegistry.scanCodes.length
  batches : ∃ own, slice schedule.batches packet.firstBatchIndex packet.batchCount = some own ∧
    ReadableBatches schedule own ∧
    (∀ batch ∈ own, batch.scheduledUs = packet.scheduledUs) ∧
    kindIntents schedule.intents .up own = packetUps schedule.intents packet ∧
    kindIntents schedule.intents .down own = packetDowns schedule.intents packet
  upMask : packet.upMask = maskOf 16 (((packetUps schedule.intents packet).filter
    (fun intent => intent.ownedGeneration.isSome)).map (·.keySlot))
  downMask : packet.downMask =
    maskOf 16 ((packetDowns schedule.intents packet).map (·.keySlot))

/-- A schedule that playback can rely on. -/
structure RuntimeSchedule.Sound (schedule : RuntimeSchedule) : Prop where
  registry : schedule.keyRegistry.WellFormed
  packets : ∀ packet ∈ schedule.packets, SoundPacket schedule packet
  times : schedule.packets.Pairwise fun a b => a.scheduledUs < b.scheduledUs
  coherent : PressLedger.Coherent schedule.frames
  closed : ∀ slot, (PressLedger.ofFrames schedule.frames).owner slot = none
  next : (PressLedger.ofFrames schedule.frames).next = schedule.generationCount
  generationCount : schedule.generationCount ≤ maxKeys * maxActions

variable {registry : KeyRegistry}

/-- The slot of an allowed code is a position of the registry. -/
theorem slotOf_lt_length {scanCode : ℕ} (h : scanCode ∈ registry.scanCodes) :
    slotOf registry scanCode < registry.scanCodes.length := by
  rw [slotOf_of_mem h]
  exact List.idxOf_lt_length_of_mem h

/-- A position of the registry has a scan code. -/
theorem scanCodeFor_isSome {slot : ℕ} :
    (registry.scanCodeFor slot).isSome = true ↔ slot < registry.scanCodes.length := by
  rw [KeyRegistry.scanCodeFor, isSome_getElem?]

/-- The slots of well-shaped actions are positions of the registry. -/
theorem actionSlots_lt {action : KeyActionInput} (hshape : ActionShape registry action) :
    ∀ slot ∈ actionSlots registry action, slot < registry.scanCodes.length := by
  intro slot hslot
  obtain ⟨scanCode, hcode, rfl⟩ := mem_actionSlots.mp hslot
  exact slotOf_lt_length (hshape.allowed scanCode hcode)

/-- Batches that encode well-shaped actions are readable. -/
theorem readable_of_encodes (hregistry : registry.WellFormed) {state : CompilerState}
    {actions : List KeyActionInput} {batches : List CompiledBatch}
    (hshapes : ∀ action ∈ actions, ActionShape registry action)
    (h : List.Forall₂ (EncodesAction registry state.intents state.reasonTable) actions batches) :
    ReadableBatches (scheduleOf registry state) batches := by
  intro batch hbatch
  obtain ⟨index, hget⟩ := List.mem_iff_getElem?.mp hbatch
  obtain ⟨action, haction, hencodes⟩ := exists_of_forall₂ h hget
  obtain ⟨part, hpart, hslots⟩ := hencodes.intents
  refine ⟨part, hpart, fun intent hintent => ?_⟩
  have hslot : intent.keySlot ∈ actionSlots registry action :=
    hslots ▸ List.mem_map_of_mem hintent
  have hlt := actionSlots_lt (hshapes action (List.mem_of_getElem? haction)) _ hslot
  exact ⟨Nat.lt_of_lt_of_le hlt hregistry.count, scanCodeFor_isSome.mpr hlt⟩

/-- The packet of a well-shaped group is sound. -/
theorem EncodesGroup.soundPacket (hregistry : registry.WellFormed) {state : CompilerState}
    {group : List KeyActionInput} {packet : CompiledPacket}
    (h : EncodesGroup registry state.intents state.reasonTable state.batches group packet)
    (hshapes : ∀ action ∈ group, ActionShape registry action) :
    SoundPacket (scheduleOf registry state) packet := by
  obtain ⟨ups, hups, hupSlots⟩ := h.ups
  obtain ⟨downs, hdowns, hdownSlots⟩ := h.downs
  obtain ⟨own, hown, hencodes, -, hupOwn, hdownOwn⟩ := h.batches
  obtain ⟨own', hown', htimes⟩ := h.batch_time
  obtain rfl : own' = own := Option.some.inj (hown'.symm.trans hown)
  have hupsEq : packetUps state.intents packet = ups := by
    rw [packetUps, hups]
    rfl
  have hdownsEq : packetDowns state.intents packet = downs := by
    rw [packetDowns, hdowns]
    rfl
  have hslot : ∀ slot ∈ upSlots registry group ++ downSlots registry group,
      slot < registry.scanCodes.length := by
    intro slot hslot
    rw [upSlots, downSlots, slotsOf, slotsOf, ← List.flatMap_append] at hslot
    obtain ⟨action, haction, hmem⟩ := List.mem_flatMap.mp hslot
    refine actionSlots_lt (hshapes action ?_) slot hmem
    exact (List.mem_append.mp haction).elim (fun h => (List.mem_filter.mp h).1)
      fun h => (List.mem_filter.mp h).1
  refine
    { ups := hups.trans (congrArg some hupsEq.symm)
      downs := hdowns.trans (congrArg some hdownsEq.symm)
      slots := fun intent hintent => hslot _ ?_
      batches := ⟨own', hown', readable_of_encodes hregistry hshapes hencodes,
        fun batch hbatch => (htimes batch hbatch).2, hupOwn, hdownOwn⟩
      upMask := h.upMask
      downMask := h.downMask }
  rw [← hupSlots, ← hdownSlots, ← List.map_append, ← hupsEq, ← hdownsEq]
  exact List.mem_map_of_mem hintent

/-- The groups of an accepted input and the packets of its schedule. -/
theorem Accepted.group_shapes {actions : List KeyActionInput} {allowedScanCodes : List ℕ}
    (h : Accepted actions allowedScanCodes) : ∀ group ∈ timestampGroups actions,
      ∀ action ∈ group, ActionShape ⟨allowedScanCodes⟩ action := by
  intro group hgroup action haction
  refine h.shapes action ?_
  rw [← (timestampGroups_spec actions).1]
  exact List.mem_flatten.mpr ⟨group, hgroup, haction⟩

/-- Compiled schedules are sound. -/
theorem compiled_sound {actions : List KeyActionInput} {allowedScanCodes : List ℕ}
    {schedule : RuntimeSchedule}
    (h : compileRuntimeIntents actions allowedScanCodes = .ok schedule) : schedule.Sound := by
  obtain ⟨haccepted, rfl⟩ := compileRuntimeIntents_eq_ok.mp h
  obtain ⟨hflatten, hnonempty⟩ := timestampGroups_spec actions
  have hroom := (@laid_compiledState _ haccepted.wellFormed _ haccepted.groups
    (fun group hgroup => ⟨hnonempty group hgroup, timestampGroups_time actions group hgroup⟩)
    0 (by
      rw [hflatten]
      exact haccepted.action_count)).2
  exact
    { registry := haccepted.wellFormed
      packets := fun packet hpacket => by
        obtain ⟨index, hget⟩ := List.mem_iff_getElem?.mp hpacket
        obtain ⟨group, hgroup, hencodes⟩ := exists_of_forall₂ haccepted.laid.packets hget
        exact hencodes.soundPacket haccepted.wellFormed
          (haccepted.group_shapes group (List.mem_of_getElem? hgroup))
      times := haccepted.reencodes.times
      coherent := haccepted.laid.coherent
      closed := haccepted.ledger_closed
      next := haccepted.laid.next
      generationCount := hroom.generations }

/-- The schedule of a compilation has readable ranges. -/
theorem RuntimeSchedule.Sound.readable {schedule : RuntimeSchedule} (h : schedule.Sound) :
    schedule.Readable := by
  intro packet hpacket
  obtain ⟨own, hown, hreadable, -⟩ := (h.packets packet hpacket).batches
  exact ⟨own, hown, hreadable⟩

/-- The presses of a sound schedule have generations below its count. -/
theorem RuntimeSchedule.Sound.down_lt {schedule : RuntimeSchedule} (h : schedule.Sound)
    {packet : CompiledPacket} (hpacket : packet ∈ schedule.packets) {intent : CompactIntent}
    (hintent : intent ∈ packetDowns schedule.intents packet) :
    intent.generationId < schedule.generationCount := by
  have hmem : intent.generationId ∈ PressLedger.downIds schedule.frames := by
    rw [RuntimeSchedule.frames, downIds_packets]
    exact List.mem_flatMap.mpr ⟨packet, hpacket, List.mem_map_of_mem hintent⟩
  rw [h.coherent.downIds_eq, h.next] at hmem
  exact List.mem_range.mp hmem

/-- The generations of a sound schedule are not the sentinel. -/
theorem RuntimeSchedule.Sound.ne_noGenerationId {schedule : RuntimeSchedule}
    (h : schedule.Sound) {generationId : ℕ} (hlt : generationId < schedule.generationCount) :
    generationId ≠ noGenerationId := by
  have hbound := h.generationCount
  simp only [maxKeys, maxActions] at hbound
  unfold noGenerationId
  omega

end SkyAutoPlayer.DispatchCore
