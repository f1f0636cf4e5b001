import SkyAutoPlayer.DispatchCore.LedgerAudit

/-!
# Updates of the ledger

Each part of the ledger is kept by the updates that touch it. An owner comes and leaves together with
the status of its generation; a generation that moves on is counted, and no Up is kept for it; an Up
loses its generation, or its place in the mask, once the generation is over.
-/

namespace SkyAutoPlayer.DispatchCore

open Foundation

namespace RuntimeDispatchCoordinator

variable {initial coordinator : RuntimeDispatchCoordinator} {tables : SlotTables}
  {schedule : RuntimeSchedule} {states after : List GenerationStatus}
  {kept : SlotTable AuthoredUpIdentity} {generationId : ℕ} {old next : GenerationStatus}

/-- The owner of a slot leaves with the release that waits behind it. -/
theorem Owners.release (hfresh : initial.Fresh) (h : initial.Owners tables states) {slot : ℕ}
    {active : ActiveGeneration} (howner : tables.active slot = some active)
    (hnext : next ≠ .active) :
    initial.Owners
      { active := Function.update tables.active slot none
        activeMask := tables.activeMask &&& ~~~slotBit 16 slot
        blockedMask := tables.blockedMask &&& ~~~slotBit 16 slot
        pending := Function.update tables.pending slot none
        pendingMask := tables.pendingMask &&& ~~~slotBit 16 slot }
      (states.set active.generationId next) := by
  have hlt := (List.getElem?_eq_some_iff.mp (h.owned slot active howner).status).1
  constructor
  · intro other second hsecond
    obtain ⟨hother, hbefore⟩ := update_none_eq_some.mp hsecond
    have howned := h.owned other second hbefore
    have hdifferent : active.generationId ≠ second.generationId := fun hsame =>
      hother (h.slot_unique hfresh howner hbefore hsame).symm
    exact ⟨howned.keySlot, (List.getElem?_set_ne hdifferent).trans howned.status, howned.floor⟩
  · intro generationId hgeneration
    rcases (getElem?_set_eq_some hlt).mp hgeneration with ⟨-, hsame⟩ | ⟨hdifferent, hbefore⟩
    · exact absurd hsame hnext
    · obtain ⟨other, second, hsecond, rfl⟩ := h.owner generationId hbefore
      refine ⟨other, second, update_none_eq_some.mpr ⟨?_, hsecond⟩, rfl⟩
      rintro rfl
      rw [howner] at hsecond
      rw [Option.some.inj hsecond] at hdifferent
      exact hdifferent rfl
  · exact h.activeMask.clear slot
  · exact h.blockedMask.clear slot
  · intro other release hrelease
    obtain ⟨hother, hbefore⟩ := update_none_eq_some.mp hrelease
    obtain ⟨second, hawaits⟩ := h.pending other release hbefore
    exact ⟨second, hawaits.keySlot, update_none_eq_some.mpr ⟨hother, hawaits.owner⟩,
      hawaits.generation, hawaits.held, hawaits.early⟩
  · exact h.pendingMask.clear slot

/-- A scheduled generation gets a slot that has no owner. -/
theorem Owners.press (hfresh : initial.Fresh) (h : initial.Owners tables states)
    {active : ActiveGeneration} (hfree : tables.active active.keySlot = none)
    (hscheduled : states[active.generationId]? = some .scheduled)
    (hfloor : initial.HoldsUntil active.keySlot active.generationId active.releaseNotBeforeTicks) :
    initial.Owners
      { tables with
        active := Function.update tables.active active.keySlot (some active)
        activeMask := tables.activeMask ||| slotBit 16 active.keySlot
        blockedMask := tables.blockedMask ||| slotBit 16 active.keySlot }
      (states.set active.generationId .active) := by
  have hlt := (List.getElem?_eq_some_iff.mp hscheduled).1
  have hslot : active.keySlot < 16 := by
    obtain ⟨_, _, hpress, _, _⟩ := hfloor
    have hregistry := hfresh.arranged.sound.registry.count
    have hslotLt := (presses_slot_lt hfresh.arranged.sound hpress).1
    simp only [maxKeys] at hregistry
    omega
  have hother : ∀ slot second, tables.active slot = some second → slot ≠ active.keySlot := by
    rintro _ second hsecond rfl
    rw [hfree] at hsecond
    cases hsecond
  constructor
  · intro slot second hsecond
    rcases update_some_eq_some.mp hsecond with ⟨rfl, rfl⟩ | ⟨-, hbefore⟩
    · exact ⟨rfl, List.getElem?_set_self hlt, hfloor⟩
    · have howned := h.owned slot second hbefore
      refine ⟨howned.keySlot, (getElem?_set_eq_some hlt).mpr ?_, howned.floor⟩
      by_cases hsame : active.generationId = second.generationId
      · exact .inl ⟨hsame, rfl⟩
      · exact .inr ⟨hsame, howned.status⟩
  · intro generationId hgeneration
    rcases (getElem?_set_eq_some hlt).mp hgeneration with ⟨rfl, -⟩ | ⟨-, hbefore⟩
    · exact ⟨active.keySlot, active, Function.update_self .., rfl⟩
    · obtain ⟨slot, second, hsecond, hsame⟩ := h.owner generationId hbefore
      exact ⟨slot, second, update_some_eq_some.mpr (.inr ⟨hother slot second hsecond, hsecond⟩),
        hsame⟩
  · exact h.activeMask.set hslot active
  · exact h.blockedMask.set hslot active
  · intro slot release hrelease
    obtain ⟨second, hawaits⟩ := h.pending slot release hrelease
    exact ⟨second, hawaits.keySlot,
      update_some_eq_some.mpr (.inr ⟨hother slot second hawaits.owner, hawaits.owner⟩),
      hawaits.generation, hawaits.held, hawaits.early⟩
  · exact h.pendingMask

/-- A release begins to wait. -/
theorem Owners.defer (h : initial.Owners tables states) {slot : ℕ} {release : PendingRelease}
    {active : ActiveGeneration} (hawaits : initial.Awaits tables.active slot release active) :
    initial.Owners
      { tables with
        pending := Function.update tables.pending slot (some release)
        pendingMask := tables.pendingMask ||| slotBit 16 slot } states := by
  refine ⟨h.owned, h.owner, h.activeMask, h.blockedMask, ?_,
    h.pendingMask.set (h.activeMask.lt hawaits.owner) release⟩
  intro other second hsecond
  rcases update_some_eq_some.mp hsecond with ⟨rfl, rfl⟩ | ⟨-, hbefore⟩
  · exact ⟨active, hawaits⟩
  · exact h.pending other second hbefore

/-- A generation that is not active changes to a status that is not active. -/
theorem Owners.inactive (h : initial.Owners tables states) (hold : states[generationId]? = some old)
    (hinactive : old ≠ .active) (hnext : next ≠ .active) :
    initial.Owners tables (states.set generationId next) := by
  have hlt := (List.getElem?_eq_some_iff.mp hold).1
  refine ⟨fun slot active hactive => ?_, fun other hother => ?_, h.activeMask, h.blockedMask,
    h.pending, h.pendingMask⟩
  · have howned := h.owned slot active hactive
    refine ⟨howned.keySlot, (List.getElem?_set_ne ?_).trans howned.status, howned.floor⟩
    rintro rfl
    rw [howned.status] at hold
    exact hinactive (Option.some.inj hold).symm
  · rcases (getElem?_set_eq_some hlt).mp hother with ⟨-, hsame⟩ | ⟨-, hbefore⟩
    · exact absurd hsame hnext
    · exact h.owner other hbefore

/-- What was changed for a generation that is over stays so. -/
theorem ChangesOver.forward (h : initial.ChangesOver schedule states)
    (hforward : Forward states after) : initial.ChangesOver schedule after := by
  constructor
  · intro index intent hintent hchanged
    obtain ⟨generationId, packetIndex, slot, hrelease, hover⟩ :=
      h.intents index intent hintent hchanged
    exact ⟨generationId, packetIndex, slot, hrelease, hover.forward hforward⟩
  · intro packetIndex packet upMask slot hpacket hsame hset hclear
    obtain ⟨generationId, intentIndex, hrelease, hover⟩ :=
      h.masks packetIndex packet upMask slot hpacket hsame hset hclear
    exact ⟨generationId, intentIndex, hrelease, hover.forward hforward⟩

/-- A kept Up stays while its generation is cancelled. -/
theorem KeepsUp.of_status {slot : ℕ} {identity : AuthoredUpIdentity}
    (h : initial.KeepsUp schedule states slot identity)
    (hstatus : after[identity.generationId]? = some .cancelled) :
    initial.KeepsUp schedule after slot identity :=
  ⟨h.keySlot, hstatus, h.place, h.intent, h.mask⟩

/-- A transition goes forward. -/
theorem Transits.forward {activated : ℕ} {counters : GenerationCounters}
    (h : coordinator.Transits generationId old next activated counters) :
    Forward coordinator.generationStates (coordinator.generationStates.set generationId next) :=
  Changes.set h.status (GenerationStatus.rank_lt_of_canTransitionTo h.allowed).1

/-- A generation that is not over gets a status, which is counted if the generation is over by it. -/
theorem count_set_live (hold : states[generationId]? = some old) (hlive : old.isTerminal = false)
    {status : GenerationStatus} (hterminal : status.isTerminal = true) :
    (states.set generationId next).count status =
      states.count status + if next = status then 1 else 0 := by
  have hadd := count_set_add hold next status
  rwa [if_neg (by rintro rfl; simp [hlive] at hterminal), Nat.add_zero] at hadd

/-- The counters of a transition count the statuses after it. -/
theorem Transits.countersOf {activated : ℕ} {counters : GenerationCounters}
    (h : coordinator.Transits generationId old next activated counters)
    (hcounters : coordinator.counters = countersOf coordinator.generationStates) :
    counters =
      RuntimeDispatchCoordinator.countersOf (coordinator.generationStates.set generationId next) := by
  obtain ⟨-, hlive⟩ := GenerationStatus.rank_lt_of_canTransitionTo h.allowed
  have hnotTerminal : old.isTerminal = false := by
    rw [← Bool.not_eq_true, GenerationStatus.isTerminal_iff]
    omega
  have hcount : ∀ status : GenerationStatus, status.isTerminal = true →
      (coordinator.generationStates.set generationId next).count status =
        coordinator.generationStates.count status + if next = status then 1 else 0 :=
    fun status => count_set_live h.status hnotTerminal
  have hterminal := h.terminal
  rw [countTerminal, hcounters] at hterminal
  rw [RuntimeDispatchCoordinator.countersOf, hcount .released rfl, hcount .droppedConflict rfl,
    hcount .droppedBackend rfl, hcount .droppedExpired rfl, hcount .cancelled rfl]
  cases next with
  | scheduled | active =>
    rw [← Except.ok.inj hterminal]
    rfl
  | released | droppedConflict | droppedBackend | droppedExpired | cancelled =>
    simp only [GenerationStatus.isTerminal, if_true, GenerationCounters.increment,
      Except.mapError_eq_ok, Except.bind_eq_ok, okOr_eq_ok, checkedAdd_eq_some,
      Except.pure_eq_ok] at hterminal
    obtain ⟨_, ⟨-, rfl⟩, rfl⟩ := hterminal
    rfl

/-- An Up is kept in one more slot at most. -/
theorem keptCount_keep (kept : SlotTable AuthoredUpIdentity) (slot : ℕ)
    (identity : AuthoredUpIdentity) :
    keptCount (Function.update kept slot (some identity)) ≤ keptCount kept + 1 := by
  refine (Finset.card_le_card fun other hother => ?_).trans (Finset.card_insert_le slot _)
  rw [Finset.mem_filter] at hother
  by_cases hsame : other = slot
  · rw [hsame]
    exact Finset.mem_insert_self _ _
  · rw [Function.update_of_ne hsame] at hother
    exact Finset.mem_insert_of_mem (Finset.mem_filter.mpr hother)

/-- The Up of a slot is not kept any more. -/
theorem keptCount_clear {slot : ℕ} {identity : AuthoredUpIdentity}
    (hkept : kept slot = some identity) (hslot : slot < maxKeys) :
    keptCount (Function.update kept slot none) + 1 ≤ keptCount kept := by
  rw [keptCount, ← Finset.card_insert_of_notMem (a := slot) (by simp)]
  apply Finset.card_le_card
  intro other hother
  rw [Finset.mem_filter]
  rcases Finset.mem_insert.mp hother with rfl | hother
  · exact ⟨Finset.mem_range.mpr hslot, by rw [hkept, Option.isSome_some]⟩
  · rw [Finset.mem_filter] at hother
    obtain ⟨value, hvalue⟩ := Option.isSome_iff_exists.mp hother.2
    rw [(update_none_eq_some.mp hvalue).2]
    exact ⟨hother.1, rfl⟩

/-- A transition counts what is activated. -/
theorem Transits.countsActivated {activated : ℕ} {counters : GenerationCounters}
    (htransits : coordinator.Transits generationId old next activated counters)
    (h : CountsActivated coordinator.generationStates kept coordinator.activatedGenerationCount) :
    CountsActivated (coordinator.generationStates.set generationId next) kept activated := by
  obtain ⟨hpressed, hfits⟩ := h
  have hcount := count_set_add htransits.status next
  have hreleased := hcount .released
  have hactive := hcount .active
  have hscheduled := hcount .scheduled
  have hallowed := htransits.allowed
  have hactivation := htransits.activation
  rw [CountsActivated, List.length_set]
  rw [countActivation] at hactivation
  split at hactivation
  · rename_i hpress
    obtain ⟨rfl, rfl⟩ := hpress
    rw [okOr_eq_ok, checkedAdd_eq_some] at hactivation
    simp only [reduceCtorEq, if_false, if_true] at hreleased hactive hscheduled
    omega
  · have hsame := Except.ok.inj hactivation
    cases old <;> cases next <;> simp_all [GenerationStatus.canTransitionTo] <;> omega

/-- A generation that moves on keeps the accounts. -/
theorem Accounts.moving {activated : ℕ} {counters : GenerationCounters}
    (h : Accounts initial coordinator)
    (htransits : coordinator.Transits generationId old next activated counters) :
    Accounts initial (coordinator.moving generationId next activated counters) := by
  refine ⟨⟨h.timing.1, h.timing.2, h.timing.3, h.timing.4⟩, h.derives,
    h.changes.forward htransits.forward, ?_, List.length_set.trans h.length,
    htransits.countersOf h.counters, htransits.countsActivated h.activated⟩
  intro slot identity hidentity
  have hkept := h.kept slot identity hidentity
  apply hkept.of_status
  refine (List.getElem?_set_ne ?_).trans hkept.status
  rintro rfl
  have hallowed := htransits.allowed
  rw [Option.some.inj (htransits.status.symm.trans hkept.status)] at hallowed
  cases next <;> cases hallowed

/-- The tables of the slots are not in the accounts. -/
theorem Accounts.withTables (h : Accounts initial coordinator)
    {activeBySlot : SlotTable ActiveGeneration} {pendingReleaseBySlot : SlotTable PendingRelease}
    {activeMask blockedMask pendingReleaseMask : BitVec 16} :
    Accounts initial
      { coordinator with
        activeBySlot
        activeMask
        blockedMask
        pendingReleaseBySlot
        pendingReleaseMask } :=
  ⟨⟨h.timing.1, h.timing.2, h.timing.3, h.timing.4⟩, h.derives, h.changes, h.kept, h.length,
    h.counters, h.activated⟩

/-- A place releases one generation. -/
theorem releases_generation_unique
    {packetIndex intentIndex slot other otherSlot generationId second : ℕ}
    (hone : schedule.Releases packetIndex intentIndex slot generationId)
    (htwo : schedule.Releases other intentIndex otherSlot second) : generationId = second := by
  obtain ⟨-, -, intent, hintent, rfl⟩ := hone
  obtain ⟨-, -, found, hfound, rfl⟩ := htwo
  rw [Option.some.inj (hintent.symm.trans hfound)]

section Losing

variable {packetIndex intentIndex slot : ℕ}
  (hrelease : initial.schedule.Releases packetIndex intentIndex slot generationId)
  (hover : Over coordinator.generationStates generationId)
  (hkept : ∀ slot identity, coordinator.cancelledUpBySlot slot = some identity →
    identity.generationId ≠ generationId)
include hrelease hover hkept

/-- The Up of a generation that is over loses its generation. -/
theorem Accounts.loseGeneration (h : Accounts initial coordinator) :
    Accounts initial
      { coordinator with
        schedule :=
          { coordinator.schedule with
            intents := coordinator.schedule.intents.set intentIndex
              (CompactIntent.new noGenerationId slot) } } := by
  obtain ⟨⟨_, _, _, _, own, hown, hslot⟩, -, -⟩ := id hrelease
  have hlt : intentIndex < coordinator.schedule.intents.length := by
    rw [h.derives.intentsLength]
    exact (List.getElem?_eq_some_iff.mp hown).1
  refine ⟨⟨h.timing.1, h.timing.2, h.timing.3, h.timing.4⟩,
    ⟨h.derives.generationCount, h.derives.batches, h.derives.keyRegistry, h.derives.packetsLength,
      h.derives.packets, List.length_set.trans h.derives.intentsLength, ?_⟩,
    ⟨?_, h.changes.masks⟩, ?_, h.length, h.counters, h.activated⟩
  · intro index intent hintent
    by_cases hsame : intentIndex = index
    · subst hsame
      rw [hown] at hintent
      obtain rfl := Option.some.inj hintent
      exact .inr ((List.getElem?_set_self hlt).trans (by rw [hslot]))
    · exact (h.derives.intents index intent hintent).imp (List.getElem?_set_ne hsame).trans
        (List.getElem?_set_ne hsame).trans
  · intro index intent hintent hchanged
    by_cases hsame : intentIndex = index
    · subst hsame
      exact ⟨generationId, packetIndex, slot, hrelease, hover⟩
    · exact h.changes.intents index intent hintent fun hbefore =>
        hchanged ((List.getElem?_set_ne hsame).trans hbefore)
  · intro other identity hidentity
    have hbefore := h.kept other identity hidentity
    refine ⟨hbefore.keySlot, hbefore.status, hbefore.place, ?_, hbefore.mask⟩
    refine (List.getElem?_set_ne ?_).trans hbefore.intent
    rintro rfl
    exact hkept other identity hidentity (releases_generation_unique hbefore.place hrelease)

/-- The Up of a generation that is over loses its place in the mask of its packet. -/
theorem Accounts.loseMask (hfresh : initial.Fresh) (h : Accounts initial coordinator) :
    Accounts initial
      { coordinator with
        schedule :=
          { coordinator.schedule with
            packets := coordinator.schedule.packets.modify packetIndex fun packet =>
              { packet with upMask := packet.upMask &&& ~~~slotBit 16 slot } } } := by
  have hsame : ∀ other mask, other ≠ slot →
      (mask &&& ~~~slotBit 16 slot).getLsbD other = mask.getLsbD other := by
    intro other mask hother
    by_cases hlt : other < 16
    · rw [BitVec.getLsbD_and, getLsbD_not_of_lt hlt, getLsbD_slotBit]
      simp [hother]
    · rw [BitVec.getLsbD_of_ge _ _ (not_lt.mp hlt), BitVec.getLsbD_of_ge _ _ (not_lt.mp hlt)]
  refine ⟨⟨h.timing.1, h.timing.2, h.timing.3, h.timing.4⟩,
    ⟨h.derives.generationCount, h.derives.batches, h.derives.keyRegistry,
      (List.length_modify _ _ _).trans h.derives.packetsLength, ?_, h.derives.intentsLength,
      h.derives.intents⟩,
    ⟨h.changes.intents, ?_⟩, ?_, h.length, h.counters, h.activated⟩
  · intro index packet hpacket
    obtain ⟨upMask, hderived⟩ := h.derives.packets index packet hpacket
    dsimp only
    rw [List.getElem?_modify, hderived]
    split
    · exact ⟨_, rfl⟩
    · exact ⟨_, rfl⟩
  · intro index packet upMask other hpacket hafter hset hclear
    obtain ⟨before, hderived⟩ := h.derives.packets index packet hpacket
    by_cases hbefore : before.getLsbD other = false
    · exact h.changes.masks index packet before other hpacket hderived hset hbefore
    · dsimp only at hafter
      simp only [List.getElem?_modify, hderived, Option.map_eq_map, Option.map_some,
        Option.some.injEq] at hafter
      split at hafter
      · rename_i hplace
        subst hplace
        obtain rfl : before &&& ~~~slotBit 16 slot = upMask := congrArg CompiledPacket.upMask hafter
        by_cases hother : other = slot
        · subst hother
          exact ⟨generationId, intentIndex, hrelease, hover⟩
        · rw [hsame other _ hother] at hclear
          exact absurd hclear hbefore
      · obtain rfl : before = upMask := congrArg CompiledPacket.upMask hafter
        exact absurd hclear hbefore
  · intro other identity hidentity
    have hkeeps := h.kept other identity hidentity
    obtain ⟨packet, hpacket, hmask⟩ := hkeeps.mask
    refine ⟨hkeeps.keySlot, hkeeps.status, hkeeps.place, hkeeps.intent, ?_⟩
    dsimp only
    rw [List.getElem?_modify, hpacket]
    refine ⟨_, rfl, ?_⟩
    split
    · rename_i hplace
      dsimp only
      rw [hsame other _ _, hmask]
      rintro rfl
      have hup := hrelease.1
      rw [hplace] at hup
      have hintent := up_unique hfresh.arranged.sound hup hkeeps.place.1
      rw [hintent] at hrelease
      exact hkept other identity hidentity (releases_generation_unique hkeeps.place hrelease)
    · exact hmask

end Losing

/-- An intent that still has its generation is the compiled one. -/
theorem Derives.slot_of_generation (hfresh : initial.Fresh) (h : initial.Derives schedule)
    {packetIndex index slot : ℕ} {compact : CompactIntent}
    (hrelease : initial.schedule.Releases packetIndex index slot generationId)
    (hcompact : schedule.intents[index]? = some compact)
    (hgeneration : compact.generationId = generationId) : compact.keySlot = slot := by
  have hslot : slot < 16 := (hfresh.slot_lt hrelease).trans (by decide)
  obtain ⟨⟨_, _, _, _, intent, hintent, hkey⟩, hsome, -⟩ := hrelease
  rcases h.intents index intent hintent with hsame | hlost
  · rw [← Option.some.inj (hsame.symm.trans hcompact)]
    exact hkey
  · rw [← Option.some.inj (hlost.symm.trans hcompact), hkey,
      CompactIntent.generationId_new hslot (.inr rfl)] at hgeneration
    exact absurd hgeneration.symm hsome

/-- The Up that the coordinator finds for a generation is where the compiler put it. -/
theorem Accounts.releases_of_location (hfresh : initial.Fresh) (h : Accounts initial coordinator)
    {packetIndex intentIndex : ℕ} {compact : CompactIntent}
    (hlocated : coordinator.upIntentLocation generationId = some (packetIndex, intentIndex))
    (hcompact : coordinator.schedule.intents[intentIndex]? = some compact)
    (hgeneration : compact.generationId = generationId) :
    initial.schedule.Releases packetIndex intentIndex compact.keySlot generationId := by
  rw [upIntentLocation, h.timing.upIntentLocations, Option.join_eq_some_iff] at hlocated
  obtain ⟨slot, hrelease⟩ := (hfresh.located _ _ _).mp hlocated
  rw [h.derives.slot_of_generation hfresh hrelease hcompact hgeneration]
  exact hrelease

/-- The Up of a generation that is over is made stale. -/
theorem Accounts.invalidateUp (hfresh : initial.Fresh) (h : Accounts initial coordinator)
    (hover : Over coordinator.generationStates generationId)
    (hkept : ∀ slot identity, coordinator.cancelledUpBySlot slot = some identity →
      identity.generationId ≠ generationId) :
    Accounts initial (coordinator.invalidateUpForGeneration generationId) := by
  unfold invalidateUpForGeneration
  split
  · exact h
  · rename_i packetIndex intentIndex compact howned
    by_cases hnone : generationId = noGenerationId
    · simp [ownedUpOf, hnone] at howned
    · simp only [ownedUpOf, if_neg hnone, bind, Option.bind_eq_some_iff] at howned
      obtain ⟨⟨_, _⟩, hlocated, found, hfound, hsame⟩ := howned
      obtain ⟨hgeneration, hplace⟩ := Option.ite_none_right_eq_some.mp hsame
      simp only [Option.some.injEq, Prod.mk.injEq] at hplace
      obtain ⟨rfl, rfl, rfl⟩ := hplace
      have hrelease := h.releases_of_location hfresh hlocated hfound hgeneration
      have hlost := h.loseGeneration hrelease hover hkept
      apply hlost.loseMask hrelease _ _ hfresh
      · exact hover
      · exact hkept

/-- Making an Up stale changes the schedule only. -/
theorem invalidateUp_eq (coordinator : RuntimeDispatchCoordinator) (generationId : ℕ) :
    coordinator.invalidateUpForGeneration generationId =
      { coordinator with
        schedule := (coordinator.invalidateUpForGeneration generationId).schedule } := by
  unfold invalidateUpForGeneration
  split <;> rfl

end RuntimeDispatchCoordinator

end SkyAutoPlayer.DispatchCore
