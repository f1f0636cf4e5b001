import SkyAutoPlayer.DispatchCore.GenerationLedger

/-!
# A coordinator with a ledger passes every audit

The owners of the slots are as many as the active generations, the generations that were released or
are active were all pressed, and the counters are the counts of the statuses. So no check of the
coordinator's invariants finds anything, and the accounting never goes below zero.
-/

namespace SkyAutoPlayer.DispatchCore

open Foundation

namespace RuntimeDispatchCoordinator

/-- Every generation is scheduled, active or over. -/
theorem length_eq_counts (states : List GenerationStatus) :
    states.count .scheduled + states.count .active +
      states.countP GenerationStatus.isTerminal = states.length := by
  induction states with
  | nil => rfl
  | cons status rest ih =>
    cases status <;> simp [GenerationStatus.isTerminal, List.countP_cons] at ih ⊢ <;> omega

/-- The counters of a ledger count the generations that are over. -/
theorem terminalTotal_countersOf (states : List GenerationStatus) :
    (countersOf states).released + (countersOf states).droppedConflict +
      (countersOf states).droppedBackend + (countersOf states).droppedExpired +
      (countersOf states).cancelled = states.countP GenerationStatus.isTerminal := by
  unfold countersOf
  induction states with
  | nil => rfl
  | cons status rest ih =>
    cases status <;> simp [GenerationStatus.isTerminal, List.countP_cons] at ih ⊢ <;> omega

variable {initial coordinator : RuntimeDispatchCoordinator} {tables : SlotTables}
  {states : List GenerationStatus}

/-- A slot that is released is a slot of the instrument. -/
theorem Fresh.slot_lt (hfresh : initial.Fresh) {packetIndex intentIndex slot generationId : ℕ}
    (hrelease : initial.schedule.Releases packetIndex intentIndex slot generationId) :
    slot < maxKeys := by
  obtain ⟨_, -, hpress⟩ := pressed_of_releases hfresh.arranged.sound hrelease
  exact (presses_slot_lt hfresh.arranged.sound hpress).1.trans_le
    hfresh.arranged.sound.registry.count

/-- The slots with owners are slots of the instrument. -/
theorem Owners.slot_lt (hfresh : initial.Fresh) (h : initial.Owners tables states) {slot : ℕ}
    {active : ActiveGeneration} (hactive : tables.active slot = some active) : slot < maxKeys := by
  obtain ⟨_, _, hpress, _, _⟩ := (h.owned slot active hactive).floor
  exact (presses_slot_lt hfresh.arranged.sound hpress).1.trans_le
    hfresh.arranged.sound.registry.count

/-- Two slots have owners of different generations. -/
theorem Owners.slot_unique (hfresh : initial.Fresh) (h : initial.Owners tables states)
    {slot other : ℕ} {active second : ActiveGeneration}
    (hactive : tables.active slot = some active) (hsecond : tables.active other = some second)
    (hsame : active.generationId = second.generationId) : slot = other := by
  obtain ⟨_, _, hpress, _, _⟩ := (h.owned slot active hactive).floor
  obtain ⟨_, _, hother, _, _⟩ := (h.owned other second hsecond).floor
  rw [hsame] at hpress
  exact (presses_unique hfresh.arranged.sound hpress hother).2

/-- There are as many owners as active generations. -/
theorem Owners.countOnes (hfresh : initial.Fresh) (h : initial.Owners tables states) :
    countOnes tables.activeMask = states.count .active := by
  have hnodup : (slots tables.activeMask).Nodup := List.nodup_range.filter _
  have hmem : ∀ slot, slot ∈ (slots tables.activeMask).toFinset ↔
      ∃ active, tables.active slot = some active := by
    intro slot
    rw [List.mem_toFinset, mem_slots, h.activeMask, Option.isSome_iff_exists]
  rw [Foundation.countOnes, ← List.toFinset_card_of_nodup hnodup, ← card_places]
  apply Finset.card_nbij fun slot => ((tables.active slot).map (·.generationId)).getD 0
  · intro slot hslot
    obtain ⟨active, hactive⟩ := (hmem slot).mp hslot
    rw [Finset.mem_coe, mem_places]
    simpa [hactive] using (h.owned slot active hactive).status
  · intro slot hslot other hother hsame
    obtain ⟨active, hactive⟩ := (hmem slot).mp hslot
    obtain ⟨second, hsecond⟩ := (hmem other).mp hother
    simp only [hactive, hsecond, Option.map_some, Option.getD_some] at hsame
    exact h.slot_unique hfresh hactive hsecond hsame
  · intro generationId hgeneration
    rw [Finset.mem_coe, mem_places] at hgeneration
    obtain ⟨slot, active, hactive, rfl⟩ := h.owner generationId hgeneration
    refine ⟨slot, (hmem slot).mpr ⟨active, hactive⟩, ?_⟩
    simp [hactive]

/-- The kept Up of a cancelled generation is valid. -/
theorem KeepsUp.valid (hfresh : initial.Fresh) (htiming : initial.SameTiming coordinator)
    (hderives : initial.Derives coordinator.schedule) {slot : ℕ} {identity : AuthoredUpIdentity}
    (h : initial.KeepsUp coordinator.schedule states slot identity) :
    coordinator.validateInvalidatedUpIdentity identity = .ok () := by
  have hlt := hfresh.slot_lt h.place
  obtain ⟨⟨packet, hpacket, hstart, hend, -⟩, -⟩ := h.place
  obtain ⟨found, hfound, hmask⟩ := h.mask
  obtain ⟨upMask, hderived⟩ := hderives.packets _ packet hpacket
  rw [hfound] at hderived
  obtain rfl := Option.some.inj hderived
  have howns : ownsUp { packet with upMask := upMask } identity.intentIndex slot = true := by
    simp only [ownsUp, Bool.and_eq_true, decide_eq_true_eq]
    exact ⟨⟨hstart, hend⟩, hmask⟩
  have hlocated : coordinator.upIntentLocations[identity.generationId]? =
      some (some (identity.packetIndex, identity.intentIndex)) := by
    rw [htiming.upIntentLocations]
    exact (hfresh.located _ _ _).mpr ⟨slot, h.place⟩
  have hslot : slot < 16 := hlt.trans (by decide)
  simp [validateInvalidatedUpIdentity, hlocated, h.intent, hfound, h.keySlot, howns, hslot, okOr,
    failIf, bind, Except.bind]

/-- The number of generations fits into the counters. -/
theorem Accounts.length_lt (hfresh : initial.Fresh) (h : Accounts initial coordinator) :
    coordinator.generationStates.length + 1 < 2 ^ 64 := by
  have hbound := hfresh.arranged.sound.generationCount
  rw [h.length, h.timing.generationCount, hfresh.generationCount]
  simp only [maxKeys, maxActions] at hbound
  omega

/-- The masks of a coordinator with a ledger. -/
theorem Ledger.marks (h : Ledger initial coordinator) :
    Marks coordinator.activeMask coordinator.activeBySlot ∧
      Marks coordinator.blockedMask coordinator.activeBySlot ∧
      Marks coordinator.pendingReleaseMask coordinator.pendingReleaseBySlot :=
  ⟨h.owners.activeMask, h.owners.blockedMask, h.owners.pendingMask⟩

section Audit

variable (hfresh : initial.Fresh) (h : Ledger initial coordinator)
include hfresh h

/-- The counters count the generations that are over. -/
theorem Ledger.terminalTotal : coordinator.counters.terminalTotalChecked =
    some (coordinator.generationStates.countP GenerationStatus.isTerminal) := by
  have hcount := terminalTotal_countersOf coordinator.generationStates
  have htotal := length_eq_counts coordinator.generationStates
  have hfits := h.length_lt hfresh
  rw [← h.counters] at hcount
  simp only [GenerationCounters.terminalTotalChecked, bind, Option.bind_eq_some_iff,
    checkedAdd_eq_some]
  exact ⟨_, ⟨by omega, rfl⟩, _, ⟨by omega, rfl⟩, _, ⟨by omega, rfl⟩, by omega, by omega⟩

/-- The lengths of the ledger are right. -/
theorem Ledger.checkLedgerLength : coordinator.checkLedgerLength = .ok () := by
  apply failIf_eq_ok.mpr
  rw [h.length, h.derives.generationCount, h.timing.generationCount, hfresh.generationCount]
  simp

/-- The counters agree with the mask. -/
theorem Ledger.checkLocalCounters : coordinator.checkLocalCounters = .ok () := by
  obtain ⟨hactivated, htotal⟩ := h.activated
  have hsum := length_eq_counts coordinator.generationStates
  have hfits := h.length_lt hfresh
  have hreleased : coordinator.counters.released =
      coordinator.generationStates.count .released := by
    rw [h.counters, countersOf]
  rw [h.length] at hsum htotal hfits
  simp only [RuntimeDispatchCoordinator.checkLocalCounters, Except.bind_eq_ok, okOr_eq_ok,
    failIf_eq_ok, checkedAdd_eq_some, h.terminalTotal hfresh, h.owners.countOnes hfresh, hreleased,
    Option.some.injEq, exists_eq_left', exists_const]
  refine ⟨by omega, by omega, by omega, _, ⟨by omega, rfl⟩, by omega, _, ⟨by omega, rfl⟩, by omega⟩

omit hfresh in
/-- The owner of a slot is checked. -/
theorem Ledger.checkActiveSlot (slot : ℕ) : coordinator.checkActiveSlot slot = .ok () := by
  have hactiveMask := h.marks.1 slot
  have hblockedMask := h.marks.2.1 slot
  unfold RuntimeDispatchCoordinator.checkActiveSlot
  cases hactive : coordinator.activeBySlot slot with
  | none =>
    rw [hactive] at hactiveMask hblockedMask
    exact failIf_of_not _ (by simp [hactiveMask, hblockedMask])
  | some active =>
    have howned := h.owners.owned slot active hactive
    have hpending : (coordinator.pendingReleaseBySlot slot).any (fun pending =>
        !decide (pending.generationId = active.generationId) ||
          !decide (pending.keySlot = slot)) = false := by
      cases hwaits : coordinator.pendingReleaseBySlot slot with
      | none => rfl
      | some release =>
        obtain ⟨found, hawaits⟩ := h.owners.pending slot release hwaits
        obtain rfl := Option.some.inj (hactive.symm.trans hawaits.owner)
        simp [hawaits.generation, hawaits.keySlot]
    rw [hactive] at hactiveMask hblockedMask
    simp [failIf, howned.keySlot, hactiveMask, hblockedMask, hpending, checkGenerationStatus,
      howned.status, okOr, bind, Except.bind]

/-- The tables of a slot agree. -/
theorem Ledger.checkSlot (slot : ℕ) : coordinator.checkSlot slot = .ok () := by
  have hactiveMask := h.marks.1 slot
  have hblockedMask := h.marks.2.1 slot
  have hpendingMask := h.marks.2.2 slot
  have hunkept : (coordinator.activeBySlot slot).isSome = true →
      coordinator.cancelledUpBySlot slot = none := by
    intro hsome
    refine Option.eq_none_iff_forall_ne_some.mpr fun identity hidentity => ?_
    rw [h.free slot identity hidentity] at hsome
    cases hsome
  have hwaiting : coordinator.checkPendingSlot slot = .ok () := by
    unfold RuntimeDispatchCoordinator.checkPendingSlot
    cases hpending : coordinator.pendingReleaseBySlot slot with
    | none =>
      rw [hpending] at hpendingMask
      simp [failIf, hpendingMask, bind, Except.bind, pure, Except.pure]
    | some release =>
      obtain ⟨active, hawaits⟩ := h.owners.pending slot release hpending
      have howner : coordinator.activeBySlot slot = some active := hawaits.owner
      rw [hpending] at hpendingMask
      simp [failIf, hpendingMask, checkPendingRelease, hawaits.keySlot, howner,
        hawaits.generation, okOr, bind, Except.bind]
  have hkeeping : coordinator.checkCancelledSlot slot = .ok () := by
    unfold RuntimeDispatchCoordinator.checkCancelledSlot
    cases hcancelled : coordinator.cancelledUpBySlot slot with
    | none => rfl
    | some identity =>
      have hkept := h.kept slot identity hcancelled
      have hfree := h.free slot identity hcancelled
      have hnotPending : coordinator.pendingReleaseBySlot slot = none := by
        refine Option.eq_none_iff_forall_ne_some.mpr fun release hrelease => ?_
        obtain ⟨active, hawaits⟩ := h.owners.pending slot release hrelease
        cases hfree.symm.trans hawaits.owner
      rw [hfree] at hactiveMask hblockedMask
      simp [failIf, hkept.keySlot, hactiveMask, hblockedMask, hnotPending,
        hkept.valid hfresh h.timing h.derives, checkGenerationStatus, hkept.status, okOr, bind,
        Except.bind]
  simp only [RuntimeDispatchCoordinator.checkSlot, Except.bind_eq_ok, failIf_eq_ok,
    h.checkActiveSlot slot, hwaiting, hkeeping, exists_const, and_self, and_true, not_and]
  intro hsome
  simp [hunkept hsome]

/-- The local audit finds nothing. -/
theorem Ledger.checkLocalInvariants : coordinator.checkLocalInvariants = .ok () := by
  have hslots : (List.range maxKeys).forM coordinator.checkSlot = .ok () :=
    Except.forM_eq_ok.mpr fun slot _ => h.checkSlot hfresh slot
  simp [RuntimeDispatchCoordinator.checkLocalInvariants, h.checkLedgerLength hfresh,
    h.checkLocalCounters hfresh, hslots, bind, Except.bind]

/-- The full audit finds nothing. -/
theorem Ledger.checkInvariants : coordinator.checkInvariants = .ok () := by
  obtain ⟨hactivated, htotal⟩ := h.activated
  have hsum := length_eq_counts coordinator.generationStates
  have hfits := h.length_lt hfresh
  have hreleased : coordinator.counters.released =
      coordinator.generationStates.count .released := by
    rw [h.counters, countersOf]
  have hlength := h.length
  rw [hlength] at hsum htotal hfits
  simp only [RuntimeDispatchCoordinator.checkInvariants, checkLedgerCounts, Except.bind_eq_ok,
    okOr_eq_ok, failIf_eq_ok, checkedAdd_eq_some, h.checkLocalInvariants hfresh,
    h.terminalTotal hfresh, h.owners.countOnes hfresh, hreleased, hlength, Option.some.injEq,
    exists_eq_left', exists_const, Option.bind_eq_some_iff]
  refine ⟨trivial, by simp, by omega, by omega, by omega, _, ⟨by omega, rfl⟩, by omega, by simp,
    by simp, _, ⟨_, ⟨by omega, rfl⟩, by omega, rfl⟩, by omega⟩

/-- The accounting is that of the ledger. -/
theorem Ledger.generationAccounting : coordinator.generationAccounting = some
    { total := coordinator.generationCount
      activated := coordinator.activatedGenerationCount
      scheduled := coordinator.generationStates.count .scheduled
      active := coordinator.generationStates.count .active
      released := coordinator.generationStates.count .released
      droppedConflict := coordinator.generationStates.count .droppedConflict
      droppedBackend := coordinator.generationStates.count .droppedBackend
      droppedExpired := coordinator.generationStates.count .droppedExpired
      cancelled := coordinator.generationStates.count .cancelled } := by
  have hsum := length_eq_counts coordinator.generationStates
  rw [h.length] at hsum
  have hscheduled : (checkedSub coordinator.generationCount
      (coordinator.generationStates.count .active)).bind (checkedSub ·
        (coordinator.generationStates.countP GenerationStatus.isTerminal)) =
      some (coordinator.generationStates.count .scheduled) := by
    simp only [Option.bind_eq_some_iff, checkedSub_eq_some]
    exact ⟨_, ⟨by omega, rfl⟩, by omega, by omega⟩
  simp only [RuntimeDispatchCoordinator.generationAccounting, h.terminalTotal hfresh,
    h.owners.countOnes hfresh, hscheduled, bind, Option.bind_some]
  rw [h.counters]
  rfl

end Audit

end RuntimeDispatchCoordinator

end SkyAutoPlayer.DispatchCore
