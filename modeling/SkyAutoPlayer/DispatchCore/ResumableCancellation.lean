import SkyAutoPlayer.DispatchCore.SlotOwnership

/-!
# A resumable cancellation is all or nothing

The first pass of a resumable cleanup collects the authored Up of every owner. The owners of
different slots have different generations, and their Ups have different places, since a place of
the schedule has one slot. So the second pass finds every generation active and every Up as it was
collected, and ends with no owner at all.
-/

namespace SkyAutoPlayer.DispatchCore

open Foundation EStateM

/-- An identity holds what it was made from. -/
theorem AuthoredUpIdentity.tryNew_eq_ok {generationId keySlot packetIndex intentIndex : ℕ}
    {identity : AuthoredUpIdentity}
    (h : AuthoredUpIdentity.tryNew generationId keySlot packetIndex intentIndex = .ok identity) :
    identity.generationId = generationId ∧ identity.keySlot = keySlot ∧
      identity.packetIndex = packetIndex ∧ identity.intentIndex = intentIndex := by
  simp only [tryNew, Except.bind_eq_ok, failIf_eq_ok, okOr_eq_ok, fit_eq_some,
    Except.pure_eq_ok] at h
  obtain ⟨_, hvalid, _, ⟨_, rfl⟩, _, ⟨_, rfl⟩, rfl⟩ := h
  simp only [not_or, Nat.not_lt, Nat.not_le, maxKeys] at hvalid
  have hslot : keySlot < 16 := by omega
  refine ⟨CompactIntent.generationId_new hslot (.inl hvalid.2.1), CompactIntent.keySlot_new hslot,
    rfl, rfl⟩

namespace RuntimeDispatchCoordinator

/-- The authored Up of a slot's owner, as the first pass found it. -/
structure LiveUp (coordinator : RuntimeDispatchCoordinator) (slot : ℕ)
    (identity : AuthoredUpIdentity) : Prop where
  keySlot : identity.keySlot = slot
  active : coordinator.generationStates[identity.generationId]? = some .active
  located : coordinator.upIntentLocation identity.generationId =
    some (identity.packetIndex, identity.intentIndex)
  placed : ∃ compact, coordinator.schedule.intents[identity.intentIndex]? = some compact ∧
    compact.generationId = identity.generationId ∧ compact.keySlot = slot
  inPacket : ∃ packet, coordinator.schedule.packets[identity.packetIndex]? = some packet ∧
    ownsUp packet identity.intentIndex slot = true

variable {coordinator after : RuntimeDispatchCoordinator}

namespace LiveUp

variable {slot other : ℕ} {identity second : AuthoredUpIdentity}

/-- The Ups of two slots have different places. -/
theorem place_ne (hfirst : coordinator.LiveUp slot identity)
    (hsecond : coordinator.LiveUp other second) (h : slot ≠ other) :
    identity.intentIndex ≠ second.intentIndex := by
  intro hplace
  apply h
  obtain ⟨compact, hcompact, _, hslot⟩ := hfirst.placed
  obtain ⟨found, hfound, _, hother⟩ := hsecond.placed
  rw [hplace, hfound] at hcompact
  obtain rfl := Option.some.inj hcompact
  rw [← hslot, hother]

/-- The owners of two slots have different generations. -/
theorem generation_ne (hfirst : coordinator.LiveUp slot identity)
    (hsecond : coordinator.LiveUp other second) (h : slot ≠ other) :
    identity.generationId ≠ second.generationId := by
  intro hgeneration
  apply hfirst.place_ne hsecond h
  have hlocated := hfirst.located
  rw [hgeneration, hsecond.located] at hlocated
  exact (congrArg Prod.snd (Option.some.inj hlocated)).symm

end LiveUp

/-- What the second pass needs of the authored Ups that it has not reached. -/
structure Cancellable (coordinator : RuntimeDispatchCoordinator)
    (identities : List (ℕ × AuthoredUpIdentity)) : Prop where
  distinct : (identities.map Prod.fst).Nodup
  live : ∀ live ∈ identities, coordinator.LiveUp live.1 live.2
  counted : coordinator.counters.cancelled + identities.length < 2 ^ 64

/-- The coordinator after the status of one generation is cancelled. -/
def countCancelled (coordinator : RuntimeDispatchCoordinator) (generationId : ℕ) :
    RuntimeDispatchCoordinator :=
  { coordinator with
    counters := { coordinator.counters with cancelled := coordinator.counters.cancelled + 1 }
    generationStates := coordinator.generationStates.set generationId .cancelled }

/-- A live generation can be cancelled. -/
theorem transitionGeneration_cancel {generationId : ℕ}
    (hactive : coordinator.generationStates[generationId]? = some .active)
    (hcounted : coordinator.counters.cancelled + 1 < 2 ^ 64) :
    coordinator.transitionGeneration generationId .active .cancelled =
      .ok (coordinator.countCancelled generationId) := by
  have hcount : coordinator.countTerminal .cancelled =
      .ok { coordinator.counters with cancelled := coordinator.counters.cancelled + 1 } := by
    have hfit : checkedAdd 64 coordinator.counters.cancelled 1 =
        some (coordinator.counters.cancelled + 1) := checkedAdd_eq_some.mpr ⟨hcounted, rfl⟩
    simp [countTerminal, GenerationStatus.isTerminal, GenerationCounters.increment, hfit, okOr,
      Except.mapError, bind, Except.bind, pure, Except.pure]
  simp [transitionGeneration, hactive, okOr, failIf, GenerationStatus.canTransitionTo,
    countActivation, hcount, countCancelled, bind, Except.bind, pure, Except.pure]

/-- The Up of a live generation can lose its generation while the schedule stays. -/
theorem LiveUp.invalidate {slot : ℕ} {identity : AuthoredUpIdentity}
    (h : coordinator.LiveUp slot identity) (hschedule : after.schedule = coordinator.schedule) :
    after.invalidateAuthoredUpForResumableCancellation identity =
      .ok
        { after with
          schedule :=
            { coordinator.schedule with
              intents := coordinator.schedule.intents.set identity.intentIndex
                (CompactIntent.new noGenerationId identity.keySlot) } } := by
  obtain ⟨compact, hcompact, hgeneration, hslot⟩ := h.placed
  obtain ⟨packet, hpacket, howns⟩ := h.inPacket
  rw [← h.keySlot] at hslot howns
  simp [invalidateAuthoredUpForResumableCancellation, checkUpInPacket, hschedule, hcompact,
    hgeneration, hslot, hpacket, howns, okOr, failIf, bind, Except.bind, pure, Except.pure]

/-- The coordinator after one generation is cancelled. -/
def cancelled (coordinator : RuntimeDispatchCoordinator) (slot : ℕ)
    (identity : AuthoredUpIdentity) : RuntimeDispatchCoordinator :=
  { coordinator.countCancelled identity.generationId with
    schedule :=
      { coordinator.schedule with
        intents := coordinator.schedule.intents.set identity.intentIndex
          (CompactIntent.new noGenerationId identity.keySlot) }
    cancelledUpBySlot := Function.update coordinator.cancelledUpBySlot slot (some identity) }

/-- Cancelling one slot's generation keeps the other slots' Ups. -/
theorem LiveUp.of_cancelled {slot other : ℕ} {identity second : AuthoredUpIdentity}
    (hfirst : coordinator.LiveUp slot identity) (hsecond : coordinator.LiveUp other second)
    (h : slot ≠ other) : (coordinator.cancelled slot identity).LiveUp other second := by
  have hgeneration := hfirst.generation_ne hsecond h
  have hplace := hfirst.place_ne hsecond h
  constructor
  · exact hsecond.keySlot
  · change (coordinator.generationStates.set identity.generationId .cancelled)[_]? = _
    rw [List.getElem?_set_ne hgeneration]
    exact hsecond.active
  · exact hsecond.located
  · change ∃ compact, (coordinator.schedule.intents.set identity.intentIndex _)[_]? = _ ∧ _
    rw [List.getElem?_set_ne hplace]
    exact hsecond.placed
  · exact hsecond.inPacket

/-- Cancelling one generation succeeds. -/
theorem cancelLiveGeneration_run {slot : ℕ} {identity : AuthoredUpIdentity}
    (h : coordinator.LiveUp slot identity)
    (hcounted : coordinator.counters.cancelled + 1 < 2 ^ 64) :
    (cancelLiveGeneration (slot, identity)).run coordinator =
      .ok PUnit.unit (coordinator.cancelled slot identity) := by
  have hcancel : (update fun state : RuntimeDispatchCoordinator =>
      state.transitionGeneration identity.generationId .active .cancelled).run coordinator =
        .ok PUnit.unit (coordinator.countCancelled identity.generationId) :=
    update_run_eq_ok.mpr (transitionGeneration_cancel h.active hcounted)
  have hinvalidate : (update fun state : RuntimeDispatchCoordinator =>
      state.invalidateAuthoredUpForResumableCancellation identity).run
        (coordinator.countCancelled identity.generationId) = .ok PUnit.unit _ :=
    update_run_eq_ok.mpr (h.invalidate rfl)
  rw [cancelLiveGeneration, run_bind_of_ok hcancel, run_bind_of_ok hinvalidate]
  rfl

/-- Cancelling one generation leaves the later ones cancellable. -/
theorem Cancellable.step {slot : ℕ} {identity : AuthoredUpIdentity}
    {rest : List (ℕ × AuthoredUpIdentity)}
    (h : coordinator.Cancellable ((slot, identity) :: rest)) :
    (cancelLiveGeneration (slot, identity)).run coordinator =
        .ok PUnit.unit (coordinator.cancelled slot identity) ∧
      (coordinator.cancelled slot identity).Cancellable rest := by
  have hhead := h.live _ List.mem_cons_self
  have hcounted := h.counted
  have hdistinct := h.distinct
  rw [List.length_cons] at hcounted
  rw [List.map_cons, List.nodup_cons] at hdistinct
  constructor
  · exact cancelLiveGeneration_run hhead (by omega)
  · constructor
    · exact hdistinct.2
    · intro live hmem
      apply hhead.of_cancelled (h.live live (List.mem_cons_of_mem _ hmem))
      intro hslot
      exact hdistinct.1 (List.mem_map.mpr ⟨live, hmem, hslot.symm⟩)
    · change coordinator.counters.cancelled + 1 + rest.length < 2 ^ 64
      omega

/-- The second pass succeeds. -/
theorem Cancellable.run {identities : List (ℕ × AuthoredUpIdentity)}
    (h : coordinator.Cancellable identities) :
    ∃ after, (identities.forM cancelLiveGeneration).run coordinator = .ok PUnit.unit after := by
  induction identities generalizing coordinator with
  | nil => exact ⟨coordinator, rfl⟩
  | cons live rest ih =>
    obtain ⟨hrun, hrest⟩ := h.step
    obtain ⟨after, hafter⟩ := ih hrest
    rw [List.forM_eq_forM] at hafter ⊢
    rw [List.forM_cons, run_bind_of_ok hrun]
    exact ⟨after, hafter⟩

/-- A checked owner has its own slot and an active generation. -/
theorem active_of_checkSlot {slot : ℕ} {active : ActiveGeneration}
    (h : coordinator.checkSlot slot = .ok ()) (hactive : coordinator.activeBySlot slot = some active) :
    active.keySlot = slot ∧
      coordinator.generationStates[active.generationId]? = some .active := by
  simp only [checkSlot, checkActiveSlot, hactive, checkGenerationStatus, Except.bind_eq_ok,
    failIf_eq_ok, okOr_eq_ok, not_or, not_not] at h
  obtain ⟨_, _, _, ⟨_, hmasks, state, hstate, hsame⟩, _⟩ := h
  rw [hsame] at hstate
  exact ⟨hmasks.1, hstate⟩

/-- The first pass finds the Up of an owner. -/
theorem liveUp_of_liveIdentity {slot : ℕ} {active : ActiveGeneration}
    {identity : AuthoredUpIdentity} (hcheck : coordinator.checkSlot slot = .ok ())
    (hactive : coordinator.activeBySlot slot = some active)
    (h : coordinator.liveIdentity slot active = .ok identity) :
    coordinator.LiveUp slot identity := by
  obtain ⟨hslot, hstate⟩ := active_of_checkSlot hcheck hactive
  simp only [liveIdentity, authoredUpIdentityForLiveGeneration, checkUpInPacket,
    Except.bind_eq_ok, okOr_eq_ok, failIf_eq_ok, Except.pure_eq_ok, not_or, not_not] at h
  obtain ⟨_, ⟨⟨packetIndex, intentIndex⟩, hlocated, compact, hcompact, _, hplaced, _, ⟨packet,
    hpacket, howns⟩, hidentity⟩, _, _, rfl⟩ := h
  obtain ⟨hgeneration, hkey, hpacketIndex, hintentIndex⟩ :=
    AuthoredUpIdentity.tryNew_eq_ok hidentity
  rw [hslot] at hkey hplaced howns
  constructor
  · exact hkey
  · rw [hgeneration]
    exact hstate
  · rw [hgeneration, hpacketIndex, hintentIndex]
    exact hlocated
  · rw [hintentIndex, hgeneration]
    exact ⟨compact, hcompact, hplaced⟩
  · rw [hpacketIndex, hintentIndex]
    exact ⟨packet, hpacket, by simpa using howns⟩

/-- The first pass adds one Up for each slot at most, in the order of the slots. -/
theorem collect_slots {slots : List ℕ} {before identities : List (ℕ × AuthoredUpIdentity)}
    (hcheck : ∀ slot ∈ slots, coordinator.checkSlot slot = .ok ())
    (h : slots.foldlM coordinator.collectIdentity before = .ok identities) :
    ∃ added, identities = before ++ added ∧ (added.map Prod.fst).Sublist slots ∧
      ∀ live ∈ added, coordinator.LiveUp live.1 live.2 := by
  induction slots generalizing before with
  | nil =>
    obtain rfl := Except.pure_eq_ok.mp h
    exact ⟨[], by simp⟩
  | cons slot rest ih =>
    rw [List.foldlM_cons, Except.bind_eq_ok] at h
    obtain ⟨middle, hmiddle, hrest⟩ := h
    obtain ⟨added, hadded, hsublist, hlive⟩ :=
      ih (fun other hother => hcheck other (List.mem_cons_of_mem _ hother)) hrest
    unfold collectIdentity at hmiddle
    split at hmiddle
    · obtain rfl := Except.ok.inj hmiddle
      exact ⟨added, hadded, hsublist.cons slot, hlive⟩
    · rename_i active hactive
      simp only [Except.bind_eq_ok, Except.pure_eq_ok] at hmiddle
      obtain ⟨identity, hidentity, rfl⟩ := hmiddle
      have hhead := liveUp_of_liveIdentity (hcheck slot List.mem_cons_self) hactive hidentity
      refine ⟨(slot, identity) :: added, by simpa using hadded, ?_, ?_⟩
      · rw [List.map_cons]
        exact hsublist.cons_cons slot
      · exact List.forall_mem_cons.mpr ⟨hhead, hlive⟩

/-- What the first pass collects can be cancelled. -/
theorem cancellable_of_collectIdentities {identities : List (ℕ × AuthoredUpIdentity)}
    (h : coordinator.collectIdentities = .ok identities) : coordinator.Cancellable identities := by
  simp only [collectIdentities, checkLocalInvariants, Except.bind_eq_ok, Except.mapError_eq_ok,
    failIf_eq_ok, Except.pure_eq_ok] at h
  obtain ⟨_, ⟨_, _, _, _, hslots⟩, _, hcollect, _, hcounted, rfl⟩ := h
  obtain ⟨added, hadded, hsublist, hlive⟩ := collect_slots (Except.forM_eq_ok.mp hslots) hcollect
  rw [List.nil_append] at hadded
  obtain rfl := hadded
  constructor
  · exact hsublist.nodup List.nodup_range
  · exact hlive
  · by_contra hfull
    apply hcounted
    rw [checkedAdd, fit, if_neg hfull]

end RuntimeDispatchCoordinator

open RuntimeDispatchCoordinator

/-- A resumable cancellation keeps owners and cancelled Ups apart. -/
theorem keeps_exclusive_cancelLive :
    Keeps Exclusive cancelLiveGenerationsAfterVerifiedResumableCleanup := by
  unfold cancelLiveGenerationsAfterVerifiedResumableCleanup
  constructor
  intro coordinator hexclusive
  apply Keeps.check_bind hexclusive
  intro identities hcollect
  obtain ⟨middle, hmiddle⟩ := (cancellable_of_collectIdentities hcollect).run
  have hcleared : middle.clearLiveOwners.Exclusive := fun _ => .inl rfl
  have hclear : (modify clearLiveOwners : CoordinatorM PUnit).run middle =
      .ok PUnit.unit middle.clearLiveOwners := rfl
  rw [run_bind_of_ok hmiddle, run_bind_of_ok hclear]
  apply Keeps.check_bind hcleared
  intro _ _
  exact hcleared

end SkyAutoPlayer.DispatchCore
