import SkyAutoPlayer.DispatchCore.CoordinatorCleanup

/-!
# Owners and cancelled Ups

No slot has an owner and the authored Up of a cancelled generation at the same time. Ups only take
owners and cancelled Ups away, a Down gets an owner only where no cancelled Up is left, and a
resumable cleanup cancels all owners or none, since after its first pass nothing can fail.
-/

namespace SkyAutoPlayer.DispatchCore

open Foundation EStateM

namespace RuntimeDispatchCoordinator

/-- No slot has both an owner and the authored Up of a cancelled generation. -/
def Exclusive (coordinator : RuntimeDispatchCoordinator) : Prop :=
  ∀ slot, coordinator.activeBySlot slot = none ∨ coordinator.cancelledUpBySlot slot = none

/-- Owners and cancelled Ups are taken away, and none is added. -/
structure Loses (before after : RuntimeDispatchCoordinator) : Prop where
  active : ∀ slot, after.activeBySlot slot = none ∨
    after.activeBySlot slot = before.activeBySlot slot
  cancelled : ∀ slot, after.cancelledUpBySlot slot = none ∨
    after.cancelledUpBySlot slot = before.cancelledUpBySlot slot

namespace Loses

variable {before middle after : RuntimeDispatchCoordinator}

/-- The same tables lose nothing. -/
theorem of_eq (hactive : after.activeBySlot = before.activeBySlot)
    (hcancelled : after.cancelledUpBySlot = before.cancelledUpBySlot) : Loses before after := by
  constructor
  · intro slot
    rw [hactive]
    exact .inr rfl
  · intro slot
    rw [hcancelled]
    exact .inr rfl

/-- What was not there is not there later. -/
theorem cancelled_none (h : Loses before after) {slot : ℕ}
    (hnone : before.cancelledUpBySlot slot = none) : after.cancelledUpBySlot slot = none := by
  cases h.cancelled slot with
  | inl hafter => exact hafter
  | inr hsame => rw [hsame, hnone]

/-- Losing keeps owners and cancelled Ups apart. -/
theorem exclusive (h : Loses before after) (hexclusive : before.Exclusive) : after.Exclusive := by
  intro slot
  cases hexclusive slot with
  | inl hactive =>
    apply Or.inl
    cases h.active slot with
    | inl hafter => exact hafter
    | inr hsame => rw [hsame, hactive]
  | inr hcancelled => exact .inr (h.cancelled_none hcancelled)

end Loses

variable {coordinator after : RuntimeDispatchCoordinator}

/-- A transition replaces one status, from the expected one, and the counters. -/
theorem transitionGeneration_eq_ok {generationId : ℕ} {expected next : GenerationStatus}
    (h : coordinator.transitionGeneration generationId expected next = .ok after) :
    coordinator.generationStates[generationId]? = some expected ∧
      ∃ activatedGenerationCount counters,
        coordinator.countActivation expected next = .ok activatedGenerationCount ∧
        coordinator.countTerminal next = .ok counters ∧
        after =
          { coordinator with
            activatedGenerationCount
            counters
            generationStates := coordinator.generationStates.set generationId next } := by
  simp only [transitionGeneration, Except.bind_eq_ok, okOr_eq_ok, failIf_eq_ok,
    Except.pure_eq_ok] at h
  obtain ⟨actual, hactual, _, hexpected, _, _, activated, hactivated, counters, hcounters, hafter⟩ :=
    h
  have hsame : actual = expected := not_not.mp hexpected
  rw [hsame] at hactual
  exact ⟨hactual, activated, counters, hactivated, hcounters, hafter.symm⟩

/-- A transition keeps the tables. -/
theorem Loses.transitionGeneration {generationId : ℕ} {expected next : GenerationStatus}
    (h : coordinator.transitionGeneration generationId expected next = .ok after) :
    Loses coordinator after := by
  obtain ⟨_, _, _, _, _, rfl⟩ := transitionGeneration_eq_ok h
  exact Loses.of_eq rfl rfl

/-- Releasing an owner loses the owner. -/
theorem Loses.clearOwner (h : Loses coordinator after) (slot : ℕ) :
    Loses coordinator (after.clearOwner slot) := by
  constructor
  · intro other
    by_cases hslot : other = slot
    · simp [RuntimeDispatchCoordinator.clearOwner, hslot]
    · simpa [RuntimeDispatchCoordinator.clearOwner, hslot] using h.active other
  · exact h.cancelled

/-- An Up that is consumed for its cancelled generation loses the cancelled Up. -/
theorem Loses.reconcileResumableCancelledUp {identity : AuthoredUpIdentity}
    (h : coordinator.reconcileResumableCancelledUp identity = .ok after) :
    Loses coordinator after := by
  simp only [RuntimeDispatchCoordinator.reconcileResumableCancelledUp, Except.bind_eq_ok,
    okOr_eq_ok, failIf_eq_ok, Except.mapError_eq_ok, Except.pure_eq_ok] at h
  obtain ⟨_, _, _, _, _, _, _, _, _, _, counters, _, rfl⟩ := h
  constructor
  · intro slot
    exact .inr rfl
  · intro slot
    by_cases hslot : slot = identity.keySlot
    · simp [hslot]
    · simp [hslot]

/-- An Up without an owner takes at most its cancelled Up away. -/
theorem Loses.consumeUnownedUp {identity : AuthoredUpIdentity}
    (h : coordinator.consumeUnownedUp identity = .ok after) : Loses coordinator after := by
  unfold RuntimeDispatchCoordinator.consumeUnownedUp at h
  split at h
  · exact Loses.reconcileResumableCancelledUp h
  · split at h
    · obtain rfl := Except.ok.inj h
      exact Loses.of_eq rfl rfl
    · cases h

/-- An Up that is due takes its owner or its cancelled Up away. -/
theorem Loses.commitImmediateUp {started : ℕ} {identity : AuthoredUpIdentity}
    (h : coordinator.commitImmediateUp started identity = .ok after) : Loses coordinator after := by
  unfold RuntimeDispatchCoordinator.commitImmediateUp at h
  split at h
  · simp only [releaseOwner, Except.bind_eq_ok, failIf_eq_ok, Except.pure_eq_ok] at h
    obtain ⟨_, _, released, hreleased, rfl⟩ := h
    exact (Loses.transitionGeneration hreleased).clearOwner _
  · exact Loses.consumeUnownedUp h

/-- An Up that waits keeps the tables. -/
theorem Loses.registerDeferredUp {prepared : PreparedAuthoredFrame} {up : PreparedUpIntent}
    (h : coordinator.registerDeferredUp prepared up = .ok after) : Loses coordinator after := by
  simp only [RuntimeDispatchCoordinator.registerDeferredUp, Except.bind_eq_ok, okOr_eq_ok,
    failIf_eq_ok, Except.pure_eq_ok] at h
  obtain ⟨_, _, _, _, _, _, rfl⟩ := h
  exact Loses.of_eq rfl rfl

/-- An Up adds no owner and no cancelled Up. -/
theorem Loses.commitUp {prepared : PreparedAuthoredFrame} {started : ℕ} {up : PreparedUpIntent}
    (h : coordinator.commitUp prepared started up = .ok after) : Loses coordinator after := by
  simp only [RuntimeDispatchCoordinator.commitUp, Except.bind_eq_ok, failIf_eq_ok] at h
  obtain ⟨_, _, h⟩ := h
  unfold commitClassifiedUp at h
  split at h
  · exact Loses.commitImmediateUp h
  · split at h
    · exact Loses.registerDeferredUp h
    · cases h

/-- A missed Down keeps the tables. -/
theorem Loses.commitMissedDown {down : PreparedDownIntent}
    (h : coordinator.commitMissedDown down = .ok after) : Loses coordinator after := by
  unfold RuntimeDispatchCoordinator.commitMissedDown at h
  split at h
  · obtain rfl := Except.ok.inj h
    exact Loses.of_eq rfl rfl
  · simp only [dropDown, Except.bind_eq_ok, failIf_eq_ok, Except.pure_eq_ok] at h
    obtain ⟨_, _, dropped, hdropped, rfl⟩ := h
    obtain ⟨_, _, _, _, _, rfl⟩ := transitionGeneration_eq_ok hdropped
    unfold invalidateUpForGeneration
    split
    · exact Loses.of_eq rfl rfl
    · exact Loses.of_eq rfl rfl

/-- A release that was due takes its owner away. -/
theorem Loses.commitPendingRelease {started slot : ℕ}
    (h : coordinator.commitPendingRelease started slot = .ok after) : Loses coordinator after := by
  simp only [RuntimeDispatchCoordinator.commitPendingRelease, Except.bind_eq_ok, okOr_eq_ok,
    failIf_eq_ok, Except.pure_eq_ok] at h
  obtain ⟨_, _, _, _, _, _, released, hreleased, rfl⟩ := h
  have hloses := (Loses.transitionGeneration hreleased).clearOwner slot
  exact ⟨hloses.active, hloses.cancelled⟩

/-- Moving the cursor keeps the tables. -/
theorem Loses.advance {packetBatchCount : ℕ}
    (h : coordinator.advance packetBatchCount = .ok after) : Loses coordinator after := by
  simp only [RuntimeDispatchCoordinator.advance, Except.bind_eq_ok, okOr_eq_ok,
    Except.pure_eq_ok] at h
  obtain ⟨_, _, rfl⟩ := h
  exact Loses.of_eq rfl rfl

/-- A Down keeps the tables apart where no cancelled Up is left, and keeps the cancelled Ups. -/
theorem commitDown_exclusive {releaseNotBeforeTicks : ℕ} {sourceActionIndex : Option ℕ}
    {down : PreparedDownIntent}
    (h : coordinator.commitDown releaseNotBeforeTicks sourceActionIndex down = .ok after)
    (hnone : coordinator.cancelledUpBySlot down.keySlot = none) (hexclusive : coordinator.Exclusive) :
    after.Exclusive ∧ after.cancelledUpBySlot = coordinator.cancelledUpBySlot := by
  unfold commitDown at h
  split at h
  · obtain rfl := Except.ok.inj h
    exact ⟨hexclusive, rfl⟩
  · simp only [activateDown, Except.bind_eq_ok, failIf_eq_ok, Except.pure_eq_ok] at h
    obtain ⟨_, _, activated, hactivated, rfl⟩ := h
    obtain ⟨_, _, _, _, _, rfl⟩ := transitionGeneration_eq_ok hactivated
    constructor
    · intro slot
      by_cases hslot : slot = down.keySlot
      · rw [hslot]
        exact .inr hnone
      · simpa [hslot] using hexclusive slot
    · rfl

end RuntimeDispatchCoordinator

open RuntimeDispatchCoordinator

/-- Updates that only lose keep every property that survives losing. -/
theorem keeps_of_loses {property : RuntimeDispatchCoordinator → Prop}
    {next : RuntimeDispatchCoordinator → Except CoordinatorError RuntimeDispatchCoordinator}
    (hproperty : ∀ before after, Loses before after → property before → property after)
    (hnext : ∀ before after, next before = .ok after → Loses before after) :
    Keeps property (update next) :=
  Keeps.update fun before after hafter => hproperty before after (hnext before after hafter)

/-- The Ups of a packet keep what survives losing. -/
theorem keeps_commitPreparedUpIntentsFrozen {property : RuntimeDispatchCoordinator → Prop}
    (hproperty : ∀ before after, Loses before after → property before → property after)
    (prepared : PreparedAuthoredFrame) (upIntents : List PreparedUpIntent) (started : ℕ) :
    Keeps property (commitPreparedUpIntentsFrozen prepared upIntents started) := by
  unfold commitPreparedUpIntentsFrozen
  apply Keeps.bind (Keeps.check _)
  intro _
  apply Keeps.forM
  intro up _
  exact keeps_of_loses hproperty fun _ _ => Loses.commitUp

/-- Moving the cursor keeps what survives losing. -/
theorem keeps_advance {property : RuntimeDispatchCoordinator → Prop}
    (hproperty : ∀ before after, Loses before after → property before → property after)
    (packetBatchCount : ℕ) : Keeps property (update (advance · packetBatchCount)) :=
  keeps_of_loses hproperty fun _ _ => Loses.advance

/-- Losing keeps the tables apart. -/
theorem exclusive_of_loses (before after : RuntimeDispatchCoordinator) (h : Loses before after) :
    before.Exclusive → after.Exclusive :=
  h.exclusive

/-- A commit of Ups that wait keeps the tables apart. -/
theorem keeps_exclusive_metadata (commit : PreparedAuthoredCommit) :
    Keeps Exclusive (commitPreparedAuthoredFrameMetadataFrozen commit) := by
  unfold commitPreparedAuthoredFrameMetadataFrozen
  apply Keeps.bind (Keeps.check _)
  intro _
  apply Keeps.bind (keeps_commitPreparedUpIntentsFrozen exclusive_of_loses _ _ _)
  intro _
  exact keeps_advance exclusive_of_loses _

/-- A commit of releases that were due keeps the tables apart. -/
theorem keeps_exclusive_pendingRelease (releaseMask : BitVec 16) (started : ℕ) :
    Keeps Exclusive (commitPendingReleaseSuccess releaseMask started) := by
  apply Keeps.forM
  intro slot _
  exact keeps_of_loses exclusive_of_loses fun _ _ => Loses.commitPendingRelease

/-- A commit of a missed deadline keeps the tables apart. -/
theorem keeps_exclusive_deadlineMiss (commit : PreparedAuthoredCommit)
    (confirmedUpMask missedDownMask : BitVec 16) (started : ℕ) :
    Keeps Exclusive
      (commitPreparedAuthoredFrameDeadlineMiss commit confirmedUpMask missedDownMask started) := by
  unfold commitPreparedAuthoredFrameDeadlineMiss
  apply Keeps.bind (Keeps.check _)
  intro _
  apply Keeps.bind (keeps_commitPreparedUpIntentsFrozen exclusive_of_loses _ _ _)
  intro _
  apply Keeps.bind
  · apply Keeps.forM
    intro down _
    exact keeps_of_loses exclusive_of_loses fun _ _ => Loses.commitMissedDown
  intro _
  apply Keeps.bind (Keeps.check _)
  intro _
  exact keeps_advance exclusive_of_loses _

/-- A commit of a stale packet keeps the tables apart. -/
theorem keeps_exclusive_stale (prepared : PreparedStalePacket) :
    Keeps Exclusive (commitStalePacket prepared) := by
  unfold commitStalePacket
  apply Keeps.bind (Keeps.check _)
  intro _
  exact keeps_advance exclusive_of_loses _

/-- The tables are apart, and no Down of a commit meets a cancelled Up. -/
def ClearForDowns (commit : PreparedAuthoredCommit) (coordinator : RuntimeDispatchCoordinator) :
    Prop :=
  coordinator.Exclusive ∧
    ∀ down ∈ commit.downIntents, coordinator.cancelledUpBySlot down.keySlot = none

/-- Losing keeps a commit's Downs clear. -/
theorem clearForDowns_of_loses {commit : PreparedAuthoredCommit}
    (before after : RuntimeDispatchCoordinator) (h : Loses before after) :
    ClearForDowns commit before → ClearForDowns commit after := by
  intro hclear
  exact ⟨h.exclusive hclear.1, fun down hdown => h.cancelled_none (hclear.2 down hdown)⟩

/-- A checked commit's Downs meet no cancelled Up. -/
theorem clearForDowns_of_checkSuccess {commit : PreparedAuthoredCommit}
    {coordinator : RuntimeDispatchCoordinator} {releaseNotBeforeTicks : ℕ}
    (h : checkSuccess commit coordinator = .ok releaseNotBeforeTicks)
    (hexclusive : coordinator.Exclusive) : ClearForDowns commit coordinator := by
  simp only [checkSuccess, validateFrozenAuthoredCommit, Except.bind_eq_ok] at h
  obtain ⟨_, _, _, ⟨_, _, _, _, hdowns⟩, _⟩ := h
  constructor
  · exact hexclusive
  · intro down hdown
    have hvalid := Except.forM_eq_ok.mp hdowns down hdown
    simp only [validateFrozenDown, failIf_eq_ok, not_or, not_not] at hvalid
    exact hvalid.2

/-- A commit of a sent packet keeps the tables apart. -/
theorem keeps_exclusive_success (commit : PreparedAuthoredCommit) (started : ℕ) :
    Keeps Exclusive (commitPreparedAuthoredFrameSuccessFrozen commit started) := by
  unfold commitPreparedAuthoredFrameSuccessFrozen
  constructor
  intro coordinator hexclusive
  apply Keeps.check_bind hexclusive
  intro releaseNotBeforeTicks hcheck
  have hclear := clearForDowns_of_checkSuccess hcheck hexclusive
  suffices hkeeps : Keeps (ClearForDowns commit) _ from (hkeeps.run coordinator hclear).1
  apply Keeps.bind (keeps_commitPreparedUpIntentsFrozen clearForDowns_of_loses _ _ _)
  intro _
  apply Keeps.bind
  · apply Keeps.forM
    intro down hdown
    apply Keeps.update
    intro before after hafter hbefore
    obtain ⟨happart, hsame⟩ := commitDown_exclusive hafter (hbefore.2 down hdown) hbefore.1
    exact ⟨happart, fun other hother => by rw [hsame]; exact hbefore.2 other hother⟩
  intro _
  exact keeps_advance clearForDowns_of_loses _

end SkyAutoPlayer.DispatchCore
