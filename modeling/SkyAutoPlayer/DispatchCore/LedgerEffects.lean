import SkyAutoPlayer.DispatchCore.LedgerUpdates

/-!
# The ledger along a commit

A commit that some earlier state prepared is issued: its Ups have the places of the compiled schedule
and its Downs are the presses of its packet; an Up that is due has a floor that its packet meets and
an Up that waits has a later one, unless its generation is over by now. An issued commit stays issued,
and every one of its effects keeps the ledger, whatever state it meets.
-/

namespace SkyAutoPlayer.DispatchCore

open Foundation

namespace RuntimeDispatchCoordinator

variable {initial coordinator after : RuntimeDispatchCoordinator} {states later : List GenerationStatus}

/-- A generation is over, or its hold ends by the tick if its release is due, and later if not. -/
def Classified (initial : RuntimeDispatchCoordinator) (states : List GenerationStatus) (due : Bool)
    (authoredTicks generationId : ℕ) : Prop :=
  Over states generationId ∨
    ∀ slot floor, initial.HoldsUntil slot generationId floor →
      (due = true ↔ floor ≤ authoredTicks)

/-- A prepared Up has the place of its generation's release, and is classified by its mask. -/
structure UpIssued (initial : RuntimeDispatchCoordinator) (states : List GenerationStatus)
    (frame : PreparedAuthoredFrame) (up : PreparedUpIntent) : Prop where
  place : ∃ slot, initial.schedule.Releases frame.packetIndex up.identity.intentIndex slot
    up.identity.generationId
  classified : initial.Classified states (frame.immediateUpMask.getLsbD up.identity.keySlot)
    frame.authoredTicks up.identity.generationId

/-- A commit was prepared for a packet of the compiled schedule. -/
structure Issued (initial : RuntimeDispatchCoordinator) (states : List GenerationStatus)
    (commit : PreparedAuthoredCommit) : Prop where
  ticks : initial.packetTicks commit.frame.packetIndex = some commit.frame.authoredTicks
  ups : ∀ up ∈ commit.upIntents, initial.UpIssued states commit.frame up
  downs : ∀ down ∈ commit.downIntents, down.generationId ≠ noGenerationId →
    initial.schedule.Presses commit.frame.packetIndex down.keySlot down.generationId

/-- What is classified stays classified. -/
theorem Classified.forward {due : Bool} {authoredTicks generationId : ℕ}
    (h : initial.Classified states due authoredTicks generationId) (hforward : Forward states later) :
    initial.Classified later due authoredTicks generationId :=
  h.imp_left (·.forward hforward)

/-- The release of a generation that holds a key is due exactly when its hold ends by the tick. -/
theorem Classified.due_iff {due : Bool} {authoredTicks slot : ℕ} {active : ActiveGeneration}
    (h : initial.Classified states due authoredTicks active.generationId)
    (howned : initial.OwnsSlot states slot active) :
    due = true ↔ active.releaseNotBeforeTicks ≤ authoredTicks := by
  rcases h with hover | hfloor
  · exact absurd howned.status hover.not_active
  · exact hfloor slot active.releaseNotBeforeTicks howned.floor

/-- An issued Up stays issued. -/
theorem UpIssued.forward {frame : PreparedAuthoredFrame} {up : PreparedUpIntent}
    (h : initial.UpIssued states frame up) (hforward : Forward states later) :
    initial.UpIssued later frame up :=
  ⟨h.place, h.classified.forward hforward⟩

/-- An issued commit stays issued. -/
theorem Issued.forward {commit : PreparedAuthoredCommit} (h : initial.Issued states commit)
    (hforward : Forward states later) : initial.Issued later commit :=
  ⟨h.ticks, fun up hup => (h.ups up hup).forward hforward, h.downs⟩

/-- Moving the cursor keeps the ledger. -/
theorem Ledger.advance (h : Ledger initial coordinator) {packetBatchCount : ℕ}
    (hadvance : coordinator.advance packetBatchCount = .ok after) :
    Ledger initial after ∧ after.generationStates = coordinator.generationStates := by
  simp only [RuntimeDispatchCoordinator.advance, Except.bind_eq_ok, okOr_eq_ok,
    Except.pure_eq_ok] at hadvance
  obtain ⟨cursor, _, rfl⟩ := hadvance
  exact ⟨⟨⟨⟨h.timing.1, h.timing.2, h.timing.3, h.timing.4⟩, h.derives, h.changes, h.kept, h.length,
    h.counters, h.activated⟩, h.owners, h.free⟩, rfl⟩

/-- Where nothing waits there is nothing to take. -/
theorem clearPendingRelease_of_none (coordinator : RuntimeDispatchCoordinator) {slot : ℕ}
    (h : Marks coordinator.pendingReleaseMask coordinator.pendingReleaseBySlot)
    (hnone : coordinator.pendingReleaseBySlot slot = none) :
    coordinator.clearPendingRelease slot = coordinator := by
  obtain ⟨hmask, htable⟩ := h.clear_of_none hnone
  rw [clearPendingRelease, hmask, htable]

section Effects

variable (hfresh : initial.Fresh) (h : Ledger initial coordinator)
include hfresh h

/-- An owner that leaves with its generation and the release that waits keeps the ledger. -/
theorem Ledger.release {slot activated : ℕ} {active : ActiveGeneration} {next : GenerationStatus}
    {counters : GenerationCounters} (howner : coordinator.activeBySlot slot = some active)
    (htransits : coordinator.Transits active.generationId .active next activated counters) :
    Ledger initial
      (((coordinator.moving active.generationId next activated counters).clearOwner
        slot).clearPendingRelease slot) := by
  have hnext : next ≠ .active := by
    rintro rfl
    cases htransits.allowed
  refine ⟨(h.moving htransits).withTables, h.owners.release hfresh howner hnext, ?_⟩
  intro other identity hidentity
  change Function.update coordinator.activeBySlot slot none other = none
  by_cases hother : other = slot
  · rw [hother, Function.update_self]
  · rw [Function.update_of_ne hother]
    exact h.free other identity hidentity

/-- A release does not wait in the slot of an Up that is due. -/
theorem UpIssued.pending_none {frame : PreparedAuthoredFrame} {up : PreparedUpIntent}
    {active : ActiveGeneration}
    (hissued : initial.UpIssued coordinator.generationStates frame up)
    (hticks : initial.packetTicks frame.packetIndex = some frame.authoredTicks)
    (hdue : frame.immediateUpMask.getLsbD up.identity.keySlot = true)
    (howner : coordinator.activeBySlot up.identity.keySlot = some active)
    (hgeneration : active.generationId = up.identity.generationId) :
    coordinator.pendingReleaseBySlot up.identity.keySlot = none := by
  apply Option.eq_none_iff_forall_ne_some.mpr
  intro release hrelease
  obtain ⟨found, hawaits⟩ := h.owners.pending _ release hrelease
  obtain rfl := Option.some.inj (howner.symm.trans hawaits.owner)
  obtain ⟨packetIndex, intentIndex, ticks, hreleases, hpacket, hearly⟩ := hawaits.early
  obtain ⟨slot, hplace⟩ := hissued.place
  rw [← hawaits.generation, hgeneration] at hreleases
  obtain ⟨rfl, -⟩ := releases_unique hfresh.arranged.sound hreleases hplace
  obtain rfl := Option.some.inj (hticks.symm.trans hpacket)
  have hclassified := hissued.classified
  rw [← hgeneration] at hclassified
  have hle := (hclassified.due_iff (h.owners.owned _ active howner)).mp hdue
  omega

/-- Releasing a cancelled generation keeps the ledger. -/
theorem Ledger.reconciling {identity : AuthoredUpIdentity}
    (htoken : coordinator.cancelledUpBySlot identity.keySlot = some identity)
    (hstatus : coordinator.generationStates[identity.generationId]? = some .cancelled) :
    Ledger initial (coordinator.reconciling identity) := by
  have hforward : Forward coordinator.generationStates
      (coordinator.generationStates.set identity.generationId .released) :=
    Changes.set hstatus (Nat.lt_succ_self 2)
  have hkept := h.kept _ identity htoken
  have hcount := count_set_add hstatus GenerationStatus.released
  refine ⟨⟨⟨h.timing.1, h.timing.2, h.timing.3, h.timing.4⟩, h.derives, h.changes.forward hforward,
    ?_, List.length_set.trans h.length, ?_, ?_⟩,
    h.owners.inactive hstatus (by decide) (by decide), ?_⟩
  · intro other second hsecond
    obtain ⟨hother, hbefore⟩ := update_none_eq_some.mp hsecond
    have hsecondKept := h.kept other second hbefore
    apply hsecondKept.of_status
    refine (List.getElem?_set_ne ?_).trans hsecondKept.status
    -- The Ups of one generation are in one place, and so in one slot.
    intro hsame
    have hplace := hkept.place
    rw [hsame] at hplace
    obtain ⟨_, -, hpress⟩ := pressed_of_releases hfresh.arranged.sound hplace
    have hfirst := (releases_slot hfresh.arranged.sound hpress hplace).1
    have hsecondSlot := (releases_slot hfresh.arranged.sound hpress hsecondKept.place).1
    exact hother (hsecondSlot.symm.trans hfirst)
  · have hreleased := hcount .released
    have hconflict := hcount .droppedConflict
    have hbackend := hcount .droppedBackend
    have hexpired := hcount .droppedExpired
    have hcancelled := hcount .cancelled
    simp only [reduceCtorEq, if_false, if_true, Nat.add_zero] at hreleased hconflict
    simp only [reduceCtorEq, if_false, if_true, Nat.add_zero] at hbackend hexpired hcancelled
    simp only [RuntimeDispatchCoordinator.reconciling, h.counters, countersOf, hreleased, hconflict,
      hbackend, hexpired, ← hcancelled, Nat.add_sub_cancel]
  · obtain ⟨hpressed, hfits⟩ := h.activated
    have hreleased := hcount .released
    have hactive := hcount .active
    have hscheduled := hcount .scheduled
    have hclear := keptCount_clear htoken (hfresh.slot_lt hkept.place)
    simp only [reduceCtorEq, if_false, if_true] at hreleased hactive hscheduled
    simp only [CountsActivated, RuntimeDispatchCoordinator.reconciling, List.length_set]
    omega
  · exact fun other second hsecond => h.free other second (update_none_eq_some.mp hsecond).2

/-- The effect of an issued Up keeps the ledger. -/
theorem Ledger.up {frame : PreparedAuthoredFrame} {started : ℕ} {up : PreparedUpIntent}
    (hticks : initial.packetTicks frame.packetIndex = some frame.authoredTicks)
    (hissued : initial.UpIssued coordinator.generationStates frame up)
    (heffect : UpEffect coordinator frame started up after) : Ledger initial after := by
  cases heffect with
  | releases active activated counters due owner generation held transits =>
    have hreleased := h.release hfresh owner transits
    have hnone := hissued.pending_none hfresh h hticks due owner generation
    rw [clearPendingRelease_of_none
      ((coordinator.moving active.generationId .released activated counters).clearOwner _)
      h.marks.2.2 hnone] at hreleased
    exact hreleased
  | reconciles token status => exact h.reconciling hfresh token status
  | dropped => exact h
  | waits active notDue owner generation =>
    have howned := h.owners.owned _ active owner
    obtain ⟨slot, hplace⟩ := hissued.place
    obtain ⟨_, _, hpress, -, -⟩ := howned.floor
    rw [generation] at hpress
    obtain ⟨rfl, -⟩ := releases_slot hfresh.arranged.sound hpress hplace
    have hclassified := hissued.classified
    rw [notDue, ← generation] at hclassified
    have hlate : frame.authoredTicks < active.releaseNotBeforeTicks := by
      have hnot := (hclassified.due_iff howned).not.mp Bool.false_ne_true
      omega
    exact ⟨h.withTables, h.owners.defer ⟨rfl, owner, generation, Nat.le_max_left _ _,
      frame.packetIndex, _, frame.authoredTicks, hplace, hticks, hlate⟩, h.free⟩

/-- The effect of a Down keeps the ledger, where no cancelled Up is in its slot. -/
theorem Ledger.down {releaseNotBeforeTicks : ℕ} {sourceActionIndex : Option ℕ}
    {down : PreparedDownIntent}
    (hfloor : down.generationId ≠ noGenerationId →
      initial.HoldsUntil down.keySlot down.generationId releaseNotBeforeTicks)
    (htoken : coordinator.cancelledUpBySlot down.keySlot = none)
    (heffect : DownEffect coordinator releaseNotBeforeTicks sourceActionIndex down after) :
    Ledger initial after := by
  cases heffect with
  | unmatched none => exact h
  | presses activated counters real free transits =>
    let active := pressing releaseNotBeforeTicks sourceActionIndex down
    have howner : coordinator.activeBySlot active.keySlot = none := free
    refine ⟨(h.moving transits).withTables,
      h.owners.press hfresh howner transits.status (hfloor real), ?_⟩
    intro other identity hidentity
    change Function.update coordinator.activeBySlot down.keySlot (some active) other = none
    rw [Function.update_of_ne]
    · exact h.free other identity hidentity
    · rintro rfl
      exact nomatch htoken.symm.trans hidentity

/-- The effect of a missed Down keeps the ledger. -/
theorem Ledger.miss {down : PreparedDownIntent} (heffect : MissEffect coordinator down after) :
    Ledger initial after := by
  cases heffect with
  | unmatched none => exact h
  | drops activated counters transits =>
    have hmoved := h.moving transits
    have hstatus := List.getElem?_set_self (a := GenerationStatus.droppedExpired)
      (List.getElem?_eq_some_iff.mp transits.status).1
    have haccounts := hmoved.invalidateUp hfresh ⟨_, hstatus, rfl⟩ (by
      intro slot identity hidentity hsame
      have hcancelled := (hmoved.kept slot identity hidentity).status
      rw [hsame] at hcancelled
      exact nomatch hcancelled.symm.trans hstatus)
    rw [invalidateUp_eq] at haccounts ⊢
    exact ⟨haccounts, h.owners.inactive transits.status (by decide) (by decide), h.free⟩

/-- The effect of a release that waited keeps the ledger. -/
theorem Ledger.pending {started slot : ℕ} (heffect : PendingEffect coordinator started slot after) :
    Ledger initial after := by
  cases heffect with
  | releases release active activated counters waits owner held transits =>
    exact h.release hfresh owner transits

end Effects

end RuntimeDispatchCoordinator

end SkyAutoPlayer.DispatchCore
