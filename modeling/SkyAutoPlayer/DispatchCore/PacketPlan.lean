import SkyAutoPlayer.DispatchCore.Coordinator
import SkyAutoPlayer.DispatchCore.ScheduleInvariant
import SkyAutoPlayer.Foundation.CheckSequence

/-!
# The places of a compiled schedule

Every generation of a compiled schedule has one press and one release, on one slot and in a strictly
later packet, and the coordinator of a schedule finds the release of every generation where the
compiler put it.
-/

namespace SkyAutoPlayer.DispatchCore

open Foundation

/-- A packet of the schedule presses a slot for a generation. -/
def RuntimeSchedule.Presses (schedule : RuntimeSchedule) (packetIndex slot generationId : ℕ) : Prop :=
  ∃ frame, schedule.frames[packetIndex]? = some frame ∧ (slot, generationId) ∈ frame.downs

/-- An intent of a packet's releases has a slot. -/
def RuntimeSchedule.HasUp (schedule : RuntimeSchedule) (packetIndex intentIndex slot : ℕ) : Prop :=
  ∃ packet, schedule.packets[packetIndex]? = some packet ∧ packet.upIntentStart ≤ intentIndex ∧
    intentIndex < packet.upIntentStart + packet.upIntentLen ∧
    ∃ intent, schedule.intents[intentIndex]? = some intent ∧ intent.keySlot = slot

/-- An intent of a packet's releases releases a slot for a generation. -/
def RuntimeSchedule.Releases (schedule : RuntimeSchedule)
    (packetIndex intentIndex slot generationId : ℕ) : Prop :=
  schedule.HasUp packetIndex intentIndex slot ∧ generationId ≠ noGenerationId ∧
    ∃ intent, schedule.intents[intentIndex]? = some intent ∧ intent.generationId = generationId

/-- A sound schedule whose places fit. -/
structure RuntimeSchedule.Arranged (schedule : RuntimeSchedule) : Prop where
  sound : schedule.Sound
  packetsFit : schedule.packets.length ≤ maxActions
  intentsFit : schedule.intents.length ≤ maxKeys * maxActions

/-- Compiled schedules are sound, and their places fit. -/
theorem compiled_arranged {actions : List KeyActionInput} {allowedScanCodes : List ℕ}
    {schedule : RuntimeSchedule}
    (h : compileRuntimeIntents actions allowedScanCodes = .ok schedule) : schedule.Arranged := by
  have hsound := compiled_sound h
  obtain ⟨haccepted, rfl⟩ := compileRuntimeIntents_eq_ok.mp h
  obtain ⟨hflatten, hnonempty⟩ := timestampGroups_spec actions
  have hroom := (@laid_compiledState _ haccepted.wellFormed _ haccepted.groups
    (fun group hgroup => ⟨hnonempty group hgroup, timestampGroups_time actions group hgroup⟩)
    0 (by
      rw [hflatten]
      exact haccepted.action_count)).2
  exact ⟨hsound, hroom.packets, hroom.intents⟩

variable {schedule : RuntimeSchedule}

/-- The elements of a slice, by their places. -/
theorem slice_getElem? {α : Type} {list part : List α} {start len offset : ℕ}
    (h : slice list start len = some part) (hlt : offset < len) :
    part[offset]? = list[start + offset]? := by
  obtain ⟨before, rest, rfl, rfl, rfl⟩ := slice_eq_some.mp h
  rw [List.append_assoc, List.getElem?_append_right (by omega), Nat.add_sub_cancel_left,
    List.getElem?_append_left hlt]

/-- The frame of a packet is at the packet's place. -/
theorem frame_of_packet {packetIndex : ℕ} {packet : CompiledPacket}
    (hpacket : schedule.packets[packetIndex]? = some packet) :
    schedule.frames[packetIndex]? = some (packetFrame schedule.intents packet) := by
  rw [RuntimeSchedule.frames, List.getElem?_map, hpacket]
  rfl

section Sound

variable (h : schedule.Sound)
include h

/-- The releases of a packet are the intents of its range. -/
theorem packetUps_getElem? {packetIndex intentIndex : ℕ} {packet : CompiledPacket}
    (hpacket : schedule.packets[packetIndex]? = some packet)
    (hstart : packet.upIntentStart ≤ intentIndex)
    (hend : intentIndex < packet.upIntentStart + packet.upIntentLen) :
    (packetUps schedule.intents packet)[intentIndex - packet.upIntentStart]? =
      schedule.intents[intentIndex]? := by
  have hlt : intentIndex - packet.upIntentStart < packet.upIntentLen := by omega
  have hget := slice_getElem? (h.packets packet (List.mem_of_getElem? hpacket)).ups hlt
  rwa [Nat.add_sub_cancel' hstart] at hget

/-- A packet has as many releases as its range is long. -/
theorem packetUps_length {packetIndex : ℕ} {packet : CompiledPacket}
    (hpacket : schedule.packets[packetIndex]? = some packet) :
    (packetUps schedule.intents packet).length = packet.upIntentLen := by
  obtain ⟨_, _, _, _, hlength⟩ :=
    slice_eq_some.mp (h.packets packet (List.mem_of_getElem? hpacket)).ups
  exact hlength

/-- A release is in the frame of its packet. -/
theorem mem_ups_of_releases {packetIndex intentIndex slot generationId : ℕ}
    (hrelease : schedule.Releases packetIndex intentIndex slot generationId) :
    ∃ frame, schedule.frames[packetIndex]? = some frame ∧
      (slot, some generationId) ∈ frame.ups := by
  obtain ⟨⟨packet, hpacket, hstart, hend, intent, hintent, rfl⟩, hsome, found, hfound, rfl⟩ := hrelease
  rw [hintent] at hfound
  obtain rfl := Option.some.inj hfound
  refine ⟨_, frame_of_packet hpacket, List.mem_map.mpr ⟨intent, ?_, ?_⟩⟩
  · have hget := packetUps_getElem? h hpacket hstart hend
    rw [hintent] at hget
    exact List.mem_of_getElem? hget
  · rw [CompactIntent.ownedGeneration, if_neg hsome]

/-- A generation is pressed in one packet and on one slot. -/
theorem presses_unique {packetIndex other slot otherSlot generationId : ℕ}
    (hone : schedule.Presses packetIndex slot generationId)
    (htwo : schedule.Presses other otherSlot generationId) :
    packetIndex = other ∧ slot = otherSlot := by
  obtain ⟨_, hframe, hdown⟩ := hone
  obtain ⟨_, hother, hdownOther⟩ := htwo
  exact h.coherent.down_unique hframe hother hdown hdownOther

/-- A packet releases a slot once. -/
theorem up_unique {packetIndex intentIndex other slot : ℕ}
    (hone : schedule.HasUp packetIndex intentIndex slot)
    (htwo : schedule.HasUp packetIndex other slot) : intentIndex = other := by
  obtain ⟨packet, hpacket, hstart, hend, intent, hintent, rfl⟩ := hone
  obtain ⟨found, hfound, hstart', hend', second, hsecond, hslot⟩ := htwo
  obtain rfl := Option.some.inj (hpacket.symm.trans hfound)
  have hnodup := (h.coherent packetIndex _ (frame_of_packet hpacket)).ups_nodup
  rw [packetFrame, List.map_map] at hnodup
  have hplaces := List.getElem?_inj (i := intentIndex - packet.upIntentStart)
    (j := other - packet.upIntentStart) (by rw [List.length_map, packetUps_length h hpacket]; omega)
    hnodup
  simp only [List.getElem?_map, packetUps_getElem? h hpacket hstart hend, hintent,
    packetUps_getElem? h hpacket hstart' hend', hsecond, Option.map_some, Function.comp_apply,
    hslot, true_iff] at hplaces
  omega

/-- The generation that a packet releases is pressed before on the same slot. -/
theorem pressed_of_releases {packetIndex intentIndex slot generationId : ℕ}
    (hrelease : schedule.Releases packetIndex intentIndex slot generationId) :
    ∃ pressed, pressed < packetIndex ∧ schedule.Presses pressed slot generationId := by
  obtain ⟨_, hframe, hup⟩ := mem_ups_of_releases h hrelease
  obtain ⟨pressed, found, hlt, hfound, hdown⟩ := h.coherent.up_pressed hframe hup
  exact ⟨pressed, hlt, found, hfound, hdown⟩

/-- A generation has the slot of its press where it is released. -/
theorem releases_slot {pressed packetIndex intentIndex slot other generationId : ℕ}
    (hpress : schedule.Presses pressed slot generationId)
    (hrelease : schedule.Releases packetIndex intentIndex other generationId) :
    slot = other ∧ pressed < packetIndex := by
  obtain ⟨earlier, hlt, hearlier⟩ := pressed_of_releases h hrelease
  obtain ⟨rfl, rfl⟩ := presses_unique h hpress hearlier
  exact ⟨rfl, hlt⟩

/-- A generation is released at one place. -/
theorem releases_unique {packetIndex intentIndex slot other otherIntent otherSlot generationId : ℕ}
    (hone : schedule.Releases packetIndex intentIndex slot generationId)
    (htwo : schedule.Releases other otherIntent otherSlot generationId) :
    packetIndex = other ∧ intentIndex = otherIntent := by
  have hordered : ∀ {first second firstIntent secondIntent slot otherSlot : ℕ},
      schedule.Releases first firstIntent slot generationId →
      schedule.Releases second secondIntent otherSlot generationId → ¬first < second := by
    intro first second firstIntent secondIntent slot otherSlot hfirst hsecond hlt
    obtain ⟨pressed, hpressed, hpress⟩ := pressed_of_releases h hfirst
    obtain ⟨rfl, hbefore⟩ := releases_slot h hpress hsecond
    obtain ⟨frame, hframe, hup⟩ := mem_ups_of_releases h hfirst
    obtain ⟨_, hother, hlast⟩ := mem_ups_of_releases h hsecond
    obtain ⟨_, hpressFrame, hdown⟩ := hpress
    -- The slot still has its owner behind the first release.
    have howner := h.coherent.owner_between hpressFrame hdown hother hlast
      (Nat.lt_succ_of_lt hpressed) hlt
    rw [List.take_add_one, hframe, Option.toList_some, PressLedger.ofFrames_concat] at howner
    rcases (PressLedger.after_owner_eq_some (h.coherent first frame hframe)).mp howner with
      hagain | ⟨hkept, -⟩
    · have hsame := (h.coherent.down_unique hpressFrame hframe hdown hagain).1
      omega
    · exact hkept (List.mem_map.mpr ⟨_, hup, rfl⟩)
  have hpacket : packetIndex = other := by
    have hnot := hordered hone htwo
    have hnot' := hordered htwo hone
    omega
  subst hpacket
  obtain ⟨pressed, -, hpress⟩ := pressed_of_releases h hone
  obtain ⟨rfl, -⟩ := releases_slot h hpress htwo
  exact ⟨rfl, up_unique h hone.1 htwo.1⟩

/-- Every generation of a schedule is pressed, and released in a later packet. -/
theorem exists_press_release {generationId : ℕ} (hlt : generationId < schedule.generationCount) :
    ∃ pressed released intentIndex slot, schedule.Presses pressed slot generationId ∧
      schedule.Releases released intentIndex slot generationId ∧ pressed < released := by
  have hmem : generationId ∈ PressLedger.upIds schedule.frames := by
    rw [(h.coherent.upIds_perm h.closed).mem_iff, List.mem_range, h.next]
    exact hlt
  obtain ⟨frame, hframe, hup⟩ := List.mem_flatMap.mp hmem
  obtain ⟨released, hreleased⟩ := List.mem_iff_getElem?.mp hframe
  rw [RuntimeSchedule.frames, List.getElem?_map, Option.map_eq_some_iff] at hreleased
  obtain ⟨packet, hpacket, rfl⟩ := hreleased
  obtain ⟨up, hup, hsome⟩ := List.mem_filterMap.mp hup
  obtain ⟨intent, hintent, rfl⟩ := List.mem_map.mp hup
  dsimp only at hsome
  rw [CompactIntent.ownedGeneration] at hsome
  split at hsome
  · cases hsome
  · rename_i hreal
    obtain rfl := Option.some.inj hsome
    obtain ⟨offset, hoffset⟩ := List.mem_iff_getElem?.mp hintent
    have hlength : offset < packet.upIntentLen := by
      rw [← packetUps_length h hpacket]
      exact (List.getElem?_eq_some_iff.mp hoffset).1
    have hget := packetUps_getElem? h hpacket (Nat.le_add_right _ offset) (by omega)
    rw [Nat.add_sub_cancel_left, hoffset] at hget
    have hrelease : schedule.Releases released (packet.upIntentStart + offset) intent.keySlot
        intent.generationId :=
      ⟨⟨packet, hpacket, by omega, by omega, intent, hget.symm, rfl⟩, hreal, intent, hget.symm, rfl⟩
    obtain ⟨pressed, hbefore, hpress⟩ := pressed_of_releases h hrelease
    exact ⟨pressed, released, _, intent.keySlot, hpress, hrelease, hbefore⟩

/-- Pressed slots have scan codes. -/
theorem presses_slot_lt {packetIndex slot generationId : ℕ}
    (hpress : schedule.Presses packetIndex slot generationId) :
    slot < schedule.keyRegistry.scanCodes.length ∧ generationId < schedule.generationCount := by
  obtain ⟨frame, hframe, hdown⟩ := hpress
  obtain ⟨packet, hpacket, rfl⟩ := List.mem_map.mp (List.mem_of_getElem? hframe)
  obtain ⟨intent, hintent, hpair⟩ := List.mem_map.mp hdown
  obtain ⟨rfl, rfl⟩ := Prod.mk.inj hpair
  exact ⟨(h.packets packet hpacket).slots intent (List.mem_append_right _ hintent),
    h.down_lt hpacket hintent⟩

end Sound

namespace RuntimeDispatchCoordinator

variable {locations recorded : List (Option (ℕ × ℕ))} (generationId : ℕ) (place : ℕ × ℕ)

/-- One Up enters its own place only. -/
theorem recordUpLocation_place {generationCount packetIndex start : ℕ} {placed : CompactIntent × ℕ}
    (h : recordUpLocation generationCount packetIndex start locations placed = .ok recorded) :
    recorded[generationId]? = some (some place) ↔ locations[generationId]? = some (some place) ∨
      placed.1.generationId = generationId ∧ generationId ≠ noGenerationId ∧
        place = (packetIndex, start + placed.2) := by
  unfold recordUpLocation at h
  dsimp only at h
  split at h
  · rename_i hnone
    obtain rfl := Except.ok.inj h
    refine Iff.symm (or_iff_left ?_)
    rintro ⟨rfl, hsome, -⟩
    exact hsome hnone
  · rename_i hsome
    split at h
    · cases h
    · cases h
    · rename_i hempty
      obtain rfl := Except.ok.inj h
      by_cases hsame : placed.1.generationId = generationId
      · rw [hsame] at hempty hsome
        have hlt := (List.getElem?_eq_some_iff.mp hempty).1
        rw [hsame, List.getElem?_set_self hlt, hempty]
        simp [hsome, eq_comm]
      · rw [List.getElem?_set_ne hsame]
        simp [hsame]

/-- The Ups of a list enter their own places only. -/
theorem recordUpLocations_place {generationCount packetIndex start : ℕ}
    {list : List (CompactIntent × ℕ)}
    (h : list.foldlM (recordUpLocation generationCount packetIndex start) locations =
      .ok recorded) :
    recorded[generationId]? = some (some place) ↔ locations[generationId]? = some (some place) ∨
      ∃ placed ∈ list, placed.1.generationId = generationId ∧ generationId ≠ noGenerationId ∧
        place = (packetIndex, start + placed.2) := by
  induction list generalizing locations with
  | nil =>
    obtain rfl := Except.pure_eq_ok.mp h
    simp
  | cons placed rest ih =>
    rw [List.foldlM_cons, Except.bind_eq_ok] at h
    obtain ⟨middle, hmiddle, hrest⟩ := h
    rw [ih hrest, recordUpLocation_place generationId place hmiddle]
    simp [or_assoc]

/-- A packet has an Up of a generation at a place. -/
def PlacesUp (schedule : RuntimeSchedule) (placed : CompiledPacket × ℕ) : Prop :=
  place.1 = placed.2 ∧ placed.1.upIntentStart ≤ place.2 ∧
    place.2 < placed.1.upIntentStart + placed.1.upIntentLen ∧ generationId ≠ noGenerationId ∧
    ∃ intent, schedule.intents[place.2]? = some intent ∧ intent.generationId = generationId

/-- The Ups of a packet enter their own places only. -/
theorem recordPacketUps_place {schedule : RuntimeSchedule} {placed : CompiledPacket × ℕ}
    (h : recordPacketUps schedule locations placed = .ok recorded) :
    recorded[generationId]? = some (some place) ↔ locations[generationId]? = some (some place) ∨
      PlacesUp generationId place schedule placed := by
  simp only [recordPacketUps, Except.bind_eq_ok, okOr_eq_ok] at h
  obtain ⟨intents, hintents, hrecorded⟩ := h
  refine (recordUpLocations_place generationId place hrecorded).trans (or_congr_right ?_)
  obtain ⟨_, _, _, _, hcount⟩ := slice_eq_some.mp hintents
  constructor
  · rintro ⟨⟨intent, offset⟩, hmem, hgeneration, hsome, rfl⟩
    have hget := List.mem_zipIdx_iff_getElem?.mp hmem
    have hlt := (List.getElem?_eq_some_iff.mp hget).1
    rw [slice_getElem? hintents (by omega)] at hget
    exact ⟨rfl, Nat.le_add_right _ _, by dsimp only; omega, hsome, intent, hget, hgeneration⟩
  · rintro ⟨hpacket, hstart, hend, hsome, intent, hintent, hgeneration⟩
    refine ⟨(intent, place.2 - placed.1.upIntentStart), ?_, hgeneration, hsome, ?_⟩
    · apply List.mem_zipIdx_iff_getElem?.mpr
      rw [slice_getElem? hintents (by omega), Nat.add_sub_cancel' hstart]
      exact hintent
    · rw [Nat.add_sub_cancel' hstart, ← hpacket]

/-- The Ups of all packets enter their own places only. -/
theorem recordAllUps_place {schedule : RuntimeSchedule} {packets : List (CompiledPacket × ℕ)}
    (h : packets.foldlM (recordPacketUps schedule) locations = .ok recorded) :
    recorded[generationId]? = some (some place) ↔ locations[generationId]? = some (some place) ∨
      ∃ placed ∈ packets, PlacesUp generationId place schedule placed := by
  induction packets generalizing locations with
  | nil =>
    obtain rfl := Except.pure_eq_ok.mp h
    simp
  | cons placed rest ih =>
    rw [List.foldlM_cons, Except.bind_eq_ok] at h
    obtain ⟨middle, hmiddle, hrest⟩ := h
    rw [ih hrest, recordPacketUps_place generationId place hmiddle, or_assoc,
      List.exists_mem_cons_iff]

/-- A coordinator knows the place of every generation's release. -/
structure Fresh (initial : RuntimeDispatchCoordinator) : Prop where
  arranged : initial.schedule.Arranged
  generationCount : initial.generationCount = initial.schedule.generationCount
  located : ∀ generationId packetIndex intentIndex,
    initial.upIntentLocations[generationId]? = some (some (packetIndex, intentIndex)) ↔
      ∃ slot, initial.schedule.Releases packetIndex intentIndex slot generationId

/-- The coordinator of a compiled schedule knows the places. -/
theorem fresh_tryNewTicks {actions : List KeyActionInput} {allowedScanCodes : List ℕ}
    {schedule : RuntimeSchedule} {minHoldUs minHoldTicks : ℕ}
    {usToTicks : ℕ → Except CoordinatorError ℕ} {initial : RuntimeDispatchCoordinator}
    (hcompiled : compileRuntimeIntents actions allowedScanCodes = .ok schedule)
    (hnew : tryNewTicks schedule minHoldUs minHoldTicks usToTicks = .ok initial) :
    initial.Fresh := by
  have harranged := compiled_arranged hcompiled
  simp only [tryNewTicks, Except.bind_eq_ok, Except.pure_eq_ok] at hnew
  obtain ⟨ticks, -, locations, hlocations, rfl⟩ := hnew
  constructor
  · exact harranged
  · rfl
  · intro generationId packetIndex intentIndex
    dsimp only
    rw [recordAllUps_place generationId (packetIndex, intentIndex) hlocations]
    constructor
    · rintro (hempty | ⟨⟨packet, index⟩, hmem, rfl, hstart, hend, hsome, intent, hintent, hsame⟩)
      · rw [List.getElem?_replicate] at hempty
        split at hempty
        · cases Option.some.inj hempty
        · cases hempty
      · have hpacket := List.mem_zipIdx_iff_getElem?.mp hmem
        exact ⟨_, ⟨packet, hpacket, hstart, hend, intent, hintent, rfl⟩, hsome, intent, hintent,
          hsame⟩
    · rintro ⟨slot, ⟨packet, hpacket, hstart, hend, intent, hintent, rfl⟩, hsome, found, hfound,
        hsame⟩
      exact .inr ⟨(packet, packetIndex), List.mem_zipIdx_iff_getElem?.mpr hpacket, rfl, hstart,
        hend, hsome, found, hfound, hsame⟩

end RuntimeDispatchCoordinator

end SkyAutoPlayer.DispatchCore
