import SkyAutoPlayer.DispatchCore.LedgerEffects

/-!
# Cancellations and cleanups always succeed

A coordinator with a ledger passes the audit before a cancellation, and finds the authored Up of every
owner where the compiler put it, since only generations that are over have lost theirs. The statuses
change first and the tables are emptied last. In between only the accounts are kept, which do not
speak of the tables; once no generation is active, empty tables are right. A terminal cleanup leaves
no generation that is not over, so its audit finds nothing.
-/

namespace SkyAutoPlayer.DispatchCore

open Foundation EStateM

/-- A generation and a place that fit identify an Up. -/
theorem AuthoredUpIdentity.exists_tryNew {generationId keySlot packetIndex intentIndex : ℕ}
    (hgeneration : generationId ≤ maxCompactGenerationId) (hslot : keySlot < maxKeys)
    (hpacket : packetIndex < 2 ^ 32) (hintent : intentIndex < 2 ^ 32) :
    ∃ identity, AuthoredUpIdentity.tryNew generationId keySlot packetIndex intentIndex =
      .ok identity := by
  have hsome := ne_noGenerationId hgeneration
  have hinside : ¬(generationId = noGenerationId ∨ maxCompactGenerationId < generationId ∨
      maxKeys ≤ keySlot) := by
    omega
  exact ⟨⟨CompactIntent.new generationId keySlot, packetIndex, intentIndex⟩, by
    simp only [tryNew, failIf_of_not _ hinside, fit, if_pos hpacket, if_pos hintent, okOr, bind,
      Except.bind, pure, Except.pure]⟩

namespace RuntimeDispatchCoordinator

variable {initial coordinator : RuntimeDispatchCoordinator}

section Loop

variable (hfresh : initial.Fresh) (h : Accounts initial coordinator)
include hfresh h

/-- Cancelling one generation keeps the accounts. -/
theorem Accounts.cancelled {slot : ℕ} {identity : AuthoredUpIdentity}
    (hlive : coordinator.LiveUp slot identity)
    (hcounted : coordinator.counters.cancelled + 1 < 2 ^ 64) :
    Accounts initial (coordinator.cancelled slot identity) := by
  obtain ⟨activated, counters, htransits, hsame⟩ :=
    transits_of_transitionGeneration (transitionGeneration_cancel hlive.active hcounted)
  have hmoved := h.moving htransits
  rw [← hsame] at hmoved
  have hlt := (List.getElem?_eq_some_iff.mp hlive.active).1
  have hstatus := List.getElem?_set_self (a := GenerationStatus.cancelled) hlt
  obtain ⟨compact, hcompact, hgeneration, hkey⟩ := hlive.placed
  have hrelease := h.releases_of_location hfresh hlive.located hcompact hgeneration
  rw [hkey, ← hlive.keySlot] at hrelease
  have hlost := hmoved.loseGeneration hrelease ⟨_, hstatus, rfl⟩ (by
    intro other second hsecond hgenerations
    have hcancelled := (h.kept other second hsecond).status
    rw [hgenerations] at hcancelled
    exact nomatch hcancelled.symm.trans hlive.active)
  refine ⟨⟨h.timing.1, h.timing.2, h.timing.3, h.timing.4⟩, hlost.derives, hlost.changes, ?_,
    hlost.length, hlost.counters, ?_⟩
  · intro other second hsecond
    rcases update_some_eq_some.mp hsecond with ⟨rfl, rfl⟩ | ⟨-, hbefore⟩
    · obtain ⟨packet, hpacket, howns⟩ := hlive.inPacket
      rw [ownsUp, Bool.and_eq_true] at howns
      refine ⟨hlive.keySlot, hstatus, ?_, ?_, packet, hpacket, howns.2⟩
      · rw [← hlive.keySlot]
        exact hrelease
      · rw [← hlive.keySlot]
        exact List.getElem?_set_self (List.getElem?_eq_some_iff.mp hcompact).1
    · exact hlost.kept other second hbefore
  · obtain ⟨hpressed, hfits⟩ := h.activated
    have hcount := count_set_add hlive.active GenerationStatus.cancelled
    have hreleased := hcount .released
    have hactive := hcount .active
    have hscheduled := hcount .scheduled
    have hkeep := keptCount_keep coordinator.cancelledUpBySlot slot identity
    simp only [reduceCtorEq, if_false, if_true] at hreleased hactive hscheduled
    simp only [CountsActivated, RuntimeDispatchCoordinator.cancelled, countCancelled,
      List.length_set]
    omega

end Loop

/-- An active generation is cancelled. -/
def CancelsActive (_ : ℕ) (old new : GenerationStatus) : Prop :=
  old = .active ∧ new = .cancelled

/-- What is left where the Ups of some owners are cancelled. -/
structure CancelsLive (initial coordinator : RuntimeDispatchCoordinator)
    (identities : List (ℕ × AuthoredUpIdentity)) (after : RuntimeDispatchCoordinator) : Prop where
  accounts : Accounts initial after
  changes : Changes CancelsActive coordinator.generationStates after.generationStates
  cancelled : ∀ live ∈ identities, after.generationStates[live.2.generationId]? = some .cancelled
  kept : ∀ live ∈ identities, after.cancelledUpBySlot live.1 = some live.2
  others : ∀ slot, slot ∉ identities.map Prod.fst →
    after.cancelledUpBySlot slot = coordinator.cancelledUpBySlot slot
  cursor : after.cursor = coordinator.cursor

/-- The second pass keeps the accounts. -/
theorem cancelsLive_run (hfresh : initial.Fresh) (h : Accounts initial coordinator)
    {identities : List (ℕ × AuthoredUpIdentity)} (hcancel : coordinator.Cancellable identities) :
    ∃ middle, (identities.forM cancelLiveGeneration).run coordinator = .ok PUnit.unit middle ∧
      CancelsLive initial coordinator identities middle := by
  induction identities generalizing coordinator with
  | nil =>
    exact ⟨coordinator, rfl, h, Changes.refl _, nofun, nofun, fun _ _ => rfl, rfl⟩
  | cons live rest ih =>
    obtain ⟨slot, identity⟩ := live
    obtain ⟨hrun, hrest⟩ := hcancel.step
    have hlive := hcancel.live _ List.mem_cons_self
    have hcounted := hcancel.counted
    have hdistinct := hcancel.distinct
    rw [List.length_cons] at hcounted
    rw [List.map_cons, List.nodup_cons] at hdistinct
    have hnext := h.cancelled hfresh hlive (by omega)
    obtain ⟨middle, hmiddle, hlast⟩ := ih hnext hrest
    have hlt := (List.getElem?_eq_some_iff.mp hlive.active).1
    have hstep : Changes CancelsActive coordinator.generationStates
        (coordinator.cancelled slot identity).generationStates :=
      Changes.set hlive.active ⟨rfl, rfl⟩
    refine ⟨middle, ?_, hlast.accounts, hstep.trans hlast.changes ?_, ?_, ?_, ?_, hlast.cursor⟩
    · rw [List.forM_eq_forM] at hmiddle ⊢
      rw [List.forM_cons, run_bind_of_ok hrun]
      exact hmiddle
    · rintro generationId old between new ⟨-, rfl⟩ ⟨hnever, -⟩
      cases hnever
    · rintro other hother
      rcases List.mem_cons.mp hother with rfl | hother
      · obtain ⟨new, hnew, rfl | ⟨hnever, -⟩⟩ :=
          hlast.changes _ _ (List.getElem?_set_self (a := GenerationStatus.cancelled) hlt)
        · exact hnew
        · cases hnever
      · exact hlast.cancelled other hother
    · rintro other hother
      rcases List.mem_cons.mp hother with rfl | hother
      · rw [hlast.others slot hdistinct.1]
        exact Function.update_self ..
      · exact hlast.kept other hother
    · intro other hother
      rw [List.map_cons, List.mem_cons, not_or] at hother
      rw [hlast.others other hother.2]
      exact Function.update_of_ne hother.1 _ _

section Collecting

variable (hfresh : initial.Fresh) (h : Ledger initial coordinator)
include hfresh h

/-- The authored Up of an owner is where the compiler put it. -/
theorem Ledger.liveIdentity {slot : ℕ} {active : ActiveGeneration}
    (howner : coordinator.activeBySlot slot = some active) :
    ∃ identity, coordinator.liveIdentity slot active = .ok identity ∧
      identity.generationId = active.generationId := by
  have howned := h.owners.owned slot active howner
  have hsound := hfresh.arranged.sound
  obtain ⟨_, _, hpress, _, _⟩ := howned.floor
  have hgeneration := (presses_slot_lt hsound hpress).2
  obtain ⟨_, packetIndex, intentIndex, other, hother, hrelease, -⟩ :=
    exists_press_release hsound hgeneration
  obtain ⟨-, rfl⟩ := presses_unique hsound hpress hother
  -- The generation is not over, so its Up is as it was compiled.
  have hactive : ¬Over coordinator.generationStates active.generationId := fun hover =>
    hover.not_active howned.status
  have hlocated : coordinator.upIntentLocation active.generationId =
      some (packetIndex, intentIndex) := by
    rw [upIntentLocation, h.timing.upIntentLocations, Option.join_eq_some_iff]
    exact (hfresh.located _ _ _).mpr ⟨slot, hrelease⟩
  obtain ⟨⟨packet, hpacket, hstart, hend, compact, hcompact, hslot⟩, hsome, same, hsame, hid⟩ :=
    id hrelease
  obtain rfl := Option.some.inj (hcompact.symm.trans hsame)
  have hintent : coordinator.schedule.intents[intentIndex]? = some compact := by
    by_contra hchanged
    obtain ⟨generationId, _, _, hlost, hover⟩ :=
      h.changes.intents intentIndex compact hcompact hchanged
    rw [releases_generation_unique hlost hrelease] at hover
    exact hactive hover
  obtain ⟨upMask, hderived⟩ := h.derives.packets packetIndex packet hpacket
  have hmask : upMask.getLsbD slot = true := by
    by_contra hclear
    have hset : packet.upMask.getLsbD slot = true := by
      have hget := packetUps_getElem? hsound hpacket hstart hend
      rw [hcompact] at hget
      rw [(hsound.packets packet (List.mem_of_getElem? hpacket)).upMask, getLsbD_maskOf,
        Bool.and_eq_true, decide_eq_true_eq, decide_eq_true_eq]
      refine ⟨(hfresh.slot_lt hrelease).trans (by decide), List.mem_map.mpr ⟨compact,
        List.mem_filter.mpr ⟨List.mem_of_getElem? hget, ?_⟩, hslot⟩⟩
      rw [CompactIntent.ownedGeneration, if_neg (by rwa [hid]), Option.isSome_some]
    obtain ⟨generationId, place, hlost, hover⟩ := h.changes.masks packetIndex packet upMask slot
      hpacket hderived hset (by simpa using hclear)
    rw [up_unique hsound hlost.1 hrelease.1] at hlost
    rw [releases_generation_unique hlost hrelease] at hover
    exact hactive hover
  have howns : ownsUp { packet with upMask := upMask } intentIndex slot = true := by
    simp only [ownsUp, Bool.and_eq_true, decide_eq_true_eq]
    exact ⟨⟨hstart, hend⟩, hmask⟩
  have hcount := hsound.generationCount
  have hpackets := hfresh.arranged.packetsFit
  have hintents := hfresh.arranged.intentsFit
  have hpacketLt := (List.getElem?_eq_some_iff.mp hpacket).1
  have hintentLt := (List.getElem?_eq_some_iff.mp hcompact).1
  simp only [maxKeys, maxActions] at hcount hpackets hintents
  have hcompactId : active.generationId ≤ maxCompactGenerationId := by
    unfold maxCompactGenerationId
    omega
  obtain ⟨identity, hidentity⟩ := AuthoredUpIdentity.exists_tryNew hcompactId
    (hfresh.slot_lt hrelease) (show packetIndex < 2 ^ 32 by omega)
    (show intentIndex < 2 ^ 32 by omega)
  have htoken : coordinator.cancelledUpBySlot slot = none := by
    apply Option.eq_none_iff_forall_ne_some.mpr
    intro second hsecond
    cases (h.free slot second hsecond).symm.trans howner
  refine ⟨identity, ?_, (AuthoredUpIdentity.tryNew_eq_ok hidentity).1⟩
  simp [RuntimeDispatchCoordinator.liveIdentity, authoredUpIdentityForLiveGeneration, hlocated,
    hintent, hid, hslot, howned.keySlot, checkUpInPacket, hderived, howns, hidentity, htoken, okOr,
    failIf, bind, Except.bind, pure, Except.pure]

/-- The first pass collects the Ups of all owners and of nothing else. -/
theorem Ledger.collect (slots : List ℕ) (before : List (ℕ × AuthoredUpIdentity)) :
    ∃ added, slots.foldlM coordinator.collectIdentity before = .ok (before ++ added) ∧
      added.length ≤ slots.length ∧
      (∀ live ∈ added, ∃ active, coordinator.activeBySlot live.1 = some active ∧
        active.generationId = live.2.generationId) ∧
      ∀ slot ∈ slots, ∀ active, coordinator.activeBySlot slot = some active →
        ∃ identity, (slot, identity) ∈ added ∧ identity.generationId = active.generationId := by
  induction slots generalizing before with
  | nil => exact ⟨[], by simp [pure, Except.pure]⟩
  | cons slot rest ih =>
    cases hactive : coordinator.activeBySlot slot with
    | none =>
      obtain ⟨added, hadded, hlength, howners, hall⟩ := ih before
      refine ⟨added, ?_, Nat.le_succ_of_le hlength, howners, ?_⟩
      · rw [List.foldlM_cons, collectIdentity, hactive]
        exact hadded
      · intro other hother active howner
        rcases List.mem_cons.mp hother with rfl | hother
        · exact nomatch hactive.symm.trans howner
        · exact hall other hother active howner
    | some active =>
      obtain ⟨identity, hidentity, hgeneration⟩ := h.liveIdentity hfresh hactive
      obtain ⟨added, hadded, hlength, howners, hall⟩ := ih (before ++ [(slot, identity)])
      refine ⟨(slot, identity) :: added, ?_, Nat.succ_le_succ hlength,
        List.forall_mem_cons.mpr ⟨⟨active, hactive, hgeneration.symm⟩, howners⟩, ?_⟩
      · rw [List.foldlM_cons, collectIdentity, hactive]
        dsimp only
        rw [hidentity]
        rw [List.append_assoc] at hadded
        exact hadded
      · intro other hother second howner
        rcases List.mem_cons.mp hother with rfl | hother
        · obtain rfl := Option.some.inj (hactive.symm.trans howner)
          exact ⟨identity, List.mem_cons_self, hgeneration⟩
        · obtain ⟨found, hfound, hsame⟩ := hall other hother second howner
          exact ⟨found, List.mem_cons_of_mem _ hfound, hsame⟩

/-- A resumable cancellation succeeds, and cancels exactly the generations that hold keys. -/
theorem Ledger.cancelLive : ∃ identities last,
    cancelLiveGenerationsAfterVerifiedResumableCleanup.run coordinator =
        .ok identities.length last ∧
      Ledger initial last ∧ last.activeBySlot = SlotTable.empty ∧
      CancelsLive initial coordinator identities last ∧
      identities.length = coordinator.generationStates.count .active ∧
      (∀ live ∈ identities, ∃ active, coordinator.activeBySlot live.1 = some active) ∧
      ∀ slot active, coordinator.activeBySlot slot = some active →
        ∃ identity, (slot, identity) ∈ identities ∧
          identity.generationId = active.generationId := by
  obtain ⟨identities, hfound, hlength, howners, hall⟩ := h.collect hfresh (List.range maxKeys) []
  rw [List.nil_append] at hfound
  have hcollect : coordinator.collectIdentities = .ok identities := by
    have hroom : checkedAdd 64 coordinator.counters.cancelled identities.length =
        some (coordinator.counters.cancelled + identities.length) := by
      have hcancelled : coordinator.counters.cancelled =
          coordinator.generationStates.count .cancelled := by
        rw [h.counters, countersOf]
      have hle : coordinator.generationStates.count .cancelled ≤ coordinator.generationStates.length :=
        List.count_le_length
      have hbound := hfresh.arranged.sound.generationCount
      have hcount := h.length
      rw [h.timing.generationCount, hfresh.generationCount] at hcount
      rw [List.length_range] at hlength
      simp only [maxKeys, maxActions] at hbound hlength
      exact checkedAdd_eq_some.mpr ⟨by omega, rfl⟩
    simp [collectIdentities, h.checkLocalInvariants hfresh, hfound, hroom, Except.mapError, failIf,
      bind, Except.bind, pure, Except.pure]
  have hcancel := cancellable_of_collectIdentities hcollect
  obtain ⟨middle, hmiddle, hlive⟩ := cancelsLive_run hfresh h.toAccounts hcancel
  have hslots : ∀ slot active, coordinator.activeBySlot slot = some active →
      ∃ identity, (slot, identity) ∈ identities ∧ identity.generationId = active.generationId :=
    fun slot active howner =>
      hall slot (List.mem_range.mpr (h.owners.slot_lt hfresh howner)) active howner
  have hactive : ∀ generationId, coordinator.generationStates[generationId]? = some .active →
      ∃ live ∈ identities, live.2.generationId = generationId := by
    intro generationId hstatus
    obtain ⟨slot, active, howner, rfl⟩ := h.owners.owner generationId hstatus
    obtain ⟨identity, hmem, hsame⟩ := hslots slot active howner
    exact ⟨(slot, identity), hmem, hsame⟩
  have hnone : NoneActive middle.generationStates := by
    intro generationId hstatus
    have hlt := (List.getElem?_eq_some_iff.mp hstatus).1
    rw [hlive.accounts.length, hlive.accounts.timing.generationCount, ← h.timing.generationCount,
      ← h.length] at hlt
    obtain ⟨new, hnew, hchange⟩ := hlive.changes generationId _ (List.getElem?_eq_getElem hlt)
    obtain rfl := Option.some.inj (hstatus.symm.trans hnew)
    rcases hchange with hsame | ⟨-, hnever⟩
    · obtain ⟨live, hmem, rfl⟩ :=
        hactive generationId (by rw [List.getElem?_eq_getElem hlt, ← hsame])
      cases hstatus.symm.trans (hlive.cancelled live hmem)
    · cases hnever
  have hledger : Ledger initial middle.clearLiveOwners :=
    ⟨hlive.accounts.withTables, Owners.empty hnone, fun _ _ _ => rfl⟩
  have hcheck : (check collectIdentities).run coordinator = .ok identities coordinator :=
    check_run_eq_ok.mpr ⟨hcollect, rfl⟩
  have hclear : (modify RuntimeDispatchCoordinator.clearLiveOwners : CoordinatorM PUnit).run
      middle = .ok PUnit.unit middle.clearLiveOwners := rfl
  have haudit : (check fun coordinator : RuntimeDispatchCoordinator =>
      coordinator.checkLocalInvariants.mapError CoordinatorError.invariant).run
        middle.clearLiveOwners = .ok () middle.clearLiveOwners :=
    check_run_eq_ok.mpr ⟨Except.mapError_eq_ok.mpr (hledger.checkLocalInvariants hfresh), rfl⟩
  refine ⟨identities, middle.clearLiveOwners, ?_, hledger, rfl,
    ⟨hledger.toAccounts, hlive.changes, hlive.cancelled, hlive.kept, hlive.others, hlive.cursor⟩, ?_,
    fun live hmem => (howners live hmem).imp fun _ howner => howner.1, hslots⟩
  · rw [cancelLiveGenerationsAfterVerifiedResumableCleanup, run_bind_of_ok hcheck,
      run_bind_of_ok hmiddle, run_bind_of_ok hclear, run_bind_of_ok haudit]
    rfl
  · have hnodup : (identities.map (·.2.generationId)).Nodup :=
      List.pairwise_map.mpr ((List.pairwise_map.mp hcancel.distinct).imp_of_mem
        fun hone htwo hne => (hcancel.live _ hone).generation_ne (hcancel.live _ htwo) hne)
    have hplaces : (identities.map (·.2.generationId)).toFinset =
        places coordinator.generationStates .active := by
      ext generationId
      rw [List.mem_toFinset, mem_places, List.mem_map]
      constructor
      · rintro ⟨live, hmem, rfl⟩
        exact (hcancel.live live hmem).active
      · exact hactive generationId
    rw [← card_places, ← hplaces, List.toFinset_card_of_nodup hnodup, List.length_map]

end Collecting

/-- A generation that is not over is cancelled. -/
def CancelsUnfinished (_ : ℕ) (old new : GenerationStatus) : Prop :=
  old.isTerminal = false ∧ new = .cancelled

/-- Cancelling what is not over goes forward. -/
theorem forward_of_cancelsUnfinished {states after : List GenerationStatus}
    (h : Changes CancelsUnfinished states after) : Forward states after := by
  apply h.mono
  rintro generationId old new ⟨hlive, rfl⟩
  rw [← Bool.not_eq_true, GenerationStatus.isTerminal_iff] at hlive
  exact Nat.lt_of_not_le hlive

/-- A generation that is not over can be cancelled. -/
theorem transitionGeneration_unfinished {generationId : ℕ} {status : GenerationStatus}
    (hstatus : coordinator.generationStates[generationId]? = some status)
    (hlive : status.isTerminal = false) (hcounted : coordinator.counters.cancelled + 1 < 2 ^ 64) :
    coordinator.transitionGeneration generationId status .cancelled =
      .ok (coordinator.countCancelled generationId) := by
  have hfit : checkedAdd 64 coordinator.counters.cancelled 1 =
      some (coordinator.counters.cancelled + 1) := checkedAdd_eq_some.mpr ⟨hcounted, rfl⟩
  have hcount : coordinator.countTerminal .cancelled =
      .ok { coordinator.counters with cancelled := coordinator.counters.cancelled + 1 } := by
    simp [countTerminal, GenerationStatus.isTerminal, GenerationCounters.increment, hfit, okOr,
      Except.mapError, bind, Except.bind, pure, Except.pure]
  cases status with
  | scheduled | active =>
    simp [transitionGeneration, hstatus, okOr, failIf, GenerationStatus.canTransitionTo,
      countActivation, hcount, countCancelled, bind, Except.bind, pure, Except.pure]
  | released | droppedConflict | droppedBackend | droppedExpired | cancelled => cases hlive

section Cleanup

variable (hfresh : initial.Fresh) (h : Accounts initial coordinator)
include hfresh h

/-- Cancelling a generation at the end of a session succeeds, and keeps the accounts. -/
theorem Accounts.cancelUnfinished {generationId : ℕ} {status : GenerationStatus}
    (hstatus : coordinator.generationStates[generationId]? = some status) :
    ∃ after, coordinator.cancelUnfinished generationId = .ok after ∧ Accounts initial after ∧
      Changes CancelsUnfinished coordinator.generationStates after.generationStates ∧
      Over after.generationStates generationId := by
  cases hterminal : status.isTerminal with
  | true =>
    refine ⟨coordinator, ?_, h, Changes.refl _, status, hstatus, hterminal⟩
    rw [RuntimeDispatchCoordinator.cancelUnfinished, hstatus]
    cases status <;> first | rfl | cases hterminal
  | false =>
    have hroom : coordinator.counters.cancelled + 1 < 2 ^ 64 := by
      have hle : coordinator.generationStates.count .cancelled ≤
          coordinator.generationStates.length := List.count_le_length
      have hfits := h.length_lt hfresh
      rw [h.counters, countersOf]
      dsimp only
      omega
    have htransition := transitionGeneration_unfinished hstatus hterminal hroom
    obtain ⟨activated, counters, htransits, hsame⟩ := transits_of_transitionGeneration htransition
    have hmoved := h.moving htransits
    rw [← hsame] at hmoved
    have hcancelled := List.getElem?_set_self (a := GenerationStatus.cancelled)
      (List.getElem?_eq_some_iff.mp hstatus).1
    have hlast := hmoved.invalidateUp hfresh ⟨_, hcancelled, rfl⟩ (by
      intro slot identity hidentity hgeneration
      have hkept := (h.kept slot identity hidentity).status
      rw [hgeneration] at hkept
      rw [Option.some.inj (hstatus.symm.trans hkept)] at hterminal
      cases hterminal)
    have hchanges : Changes CancelsUnfinished coordinator.generationStates
        (coordinator.generationStates.set generationId .cancelled) :=
      Changes.set hstatus ⟨hterminal, rfl⟩
    refine ⟨_, ?_, hlast, ?_, ?_⟩
    · rw [RuntimeDispatchCoordinator.cancelUnfinished, hstatus]
      cases status with
      | scheduled | active =>
        dsimp only
        rw [htransition]
        rfl
      | released | droppedConflict | droppedBackend | droppedExpired | cancelled => cases hterminal
    · rw [invalidateUp_eq]
      exact hchanges
    · rw [invalidateUp_eq]
      exact ⟨_, hcancelled, rfl⟩

/-- The loop of the cleanup succeeds, and cancels all that is not over. -/
theorem Accounts.cancelUnfinished_run {generations : List ℕ}
    (hlt : ∀ generationId ∈ generations, generationId < initial.generationCount) :
    ∃ middle,
      (generations.forM fun generationId =>
        update (RuntimeDispatchCoordinator.cancelUnfinished · generationId) :
          CoordinatorM PUnit).run coordinator = .ok PUnit.unit middle ∧
      Accounts initial middle ∧
      Changes CancelsUnfinished coordinator.generationStates middle.generationStates ∧
      ∀ generationId ∈ generations, Over middle.generationStates generationId := by
  induction generations generalizing coordinator with
  | nil => exact ⟨coordinator, rfl, h, Changes.refl _, nofun⟩
  | cons generationId rest ih =>
    have hlength : generationId < coordinator.generationStates.length := by
      rw [h.length, h.timing.generationCount]
      exact hlt generationId List.mem_cons_self
    obtain ⟨next, hnext, hkept, hchanges, hover⟩ :=
      h.cancelUnfinished hfresh (List.getElem?_eq_getElem hlength)
    obtain ⟨middle, hrun, hmiddle, hrest, hall⟩ :=
      ih hkept fun other hmem => hlt other (List.mem_cons_of_mem _ hmem)
    refine ⟨middle, ?_, hmiddle, hchanges.trans hrest ?_, List.forall_mem_cons.mpr
      ⟨hover.forward (forward_of_cancelsUnfinished hrest), hall⟩⟩
    · have hupdate : (update (RuntimeDispatchCoordinator.cancelUnfinished · generationId) :
          CoordinatorM PUnit).run coordinator = .ok PUnit.unit next := update_run_eq_ok.mpr hnext
      rw [List.forM_eq_forM] at hrun ⊢
      rw [List.forM_cons, run_bind_of_ok hupdate]
      exact hrun
    · rintro other old between new ⟨-, rfl⟩ ⟨hnever, -⟩
      cases hnever

end Cleanup

/-- No slot has an owner, a release that waits or a kept Up. -/
def quiet (coordinator : RuntimeDispatchCoordinator) : RuntimeDispatchCoordinator :=
  coordinator.clearLiveOwners.clearCancelledUps

/-- Where every generation is over, empty tables are right. -/
theorem Accounts.quiet (h : Accounts initial coordinator)
    (hover : ∀ generationId, generationId < initial.generationCount →
      Over coordinator.generationStates generationId) : Ledger initial coordinator.quiet := by
  have hnone : NoneActive coordinator.generationStates := by
    intro generationId hactive
    have hlt := (List.getElem?_eq_some_iff.mp hactive).1
    rw [h.length, h.timing.generationCount] at hlt
    exact (hover generationId hlt).not_active hactive
  refine ⟨⟨⟨h.timing.1, h.timing.2, h.timing.3, h.timing.4⟩, h.derives, h.changes, nofun, h.length,
    h.counters, ?_⟩, Owners.empty hnone, nofun⟩
  obtain ⟨hpressed, hfits⟩ := h.activated
  simp only [CountsActivated, keptCount, RuntimeDispatchCoordinator.quiet, clearLiveOwners,
    clearCancelledUps, SlotTable.empty, Option.isSome_none, Bool.false_eq_true, Finset.filter_false,
    Finset.card_empty]
  omega

/-- The audit after a cleanup finds nothing where every generation is over. -/
theorem Ledger.checkPostCleanupInvariants (hfresh : initial.Fresh)
    (h : Ledger initial coordinator.quiet)
    (hover : ∀ generationId, generationId < initial.generationCount →
      Over coordinator.generationStates generationId) :
    coordinator.quiet.checkPostCleanupInvariants = .ok () := by
  have hstates : ¬∃ state ∈ coordinator.generationStates,
      state = GenerationStatus.scheduled ∨ state = .active := by
    rintro ⟨state, hmem, hlive⟩
    obtain ⟨generationId, hstate⟩ := List.mem_iff_getElem?.mp hmem
    have hlt := (List.getElem?_eq_some_iff.mp hstate).1
    have hlength : coordinator.generationStates.length = coordinator.generationCount := h.length
    have hcount : coordinator.generationCount = initial.generationCount := h.timing.generationCount
    rw [hlength, hcount] at hlt
    obtain ⟨status, hsome, hterminal⟩ := hover generationId hlt
    rw [← Option.some.inj (hstate.symm.trans hsome)] at hterminal
    rcases hlive with rfl | rfl
    · cases hterminal
    · cases hterminal
  simp only [RuntimeDispatchCoordinator.checkPostCleanupInvariants, h.checkInvariants hfresh]
  simp [RuntimeDispatchCoordinator.quiet, clearLiveOwners, clearCancelledUps, SlotTable.empty, failIf,
    hstates, bind, Except.bind]

section Results

variable (hfresh : initial.Fresh) (h : Ledger initial coordinator)
include hfresh h

/-- The generations that hold keys are the active ones. -/
theorem Ledger.mem_activeGenerations (generationId : ℕ) :
    generationId ∈ coordinator.activeGenerations ↔
      coordinator.generationStates[generationId]? = some .active := by
  rw [activeGenerations, List.mem_mergeSort, List.mem_filterMap]
  constructor
  · rintro ⟨slot, -, hslot⟩
    obtain ⟨active, hactive, rfl⟩ := Option.map_eq_some_iff.mp hslot
    exact (h.owners.owned slot active hactive).status
  · intro hstatus
    obtain ⟨slot, active, hactive, rfl⟩ := h.owners.owner generationId hstatus
    refine ⟨slot, List.mem_range.mpr (h.owners.slot_lt hfresh hactive), ?_⟩
    have howner : coordinator.activeBySlot slot = some active := hactive
    rw [howner, Option.map_some]

/-- The generations that hold keys are reported once each, in their order. -/
theorem Ledger.activeGenerations_pairwise : coordinator.activeGenerations.Pairwise (· < ·) := by
  have hnodup : ((List.range maxKeys).filterMap fun slot =>
      (coordinator.activeBySlot slot).map (·.generationId)).Nodup := by
    apply List.nodup_range.filterMap
    intro slot other generationId hslot hother
    obtain ⟨active, hactive, rfl⟩ := Option.map_eq_some_iff.mp hslot
    obtain ⟨second, hsecond, hsame⟩ := Option.map_eq_some_iff.mp hother
    exact h.owners.slot_unique hfresh hactive hsecond hsame.symm
  have hsorted : coordinator.activeGenerations.SortedLE := List.sortedLE_mergeSort
  exact (hsorted.sortedLT_of_nodup ((List.mergeSort_perm _ _).nodup_iff.mpr hnodup)).pairwise

/-- Terminal cleanup cancels all that is not over, and its audits find nothing. -/
theorem Ledger.cancelAll :
    ∃ last, cancelAll.run coordinator = .ok coordinator.activeGenerations last ∧
      Ledger initial last ∧
      Changes CancelsUnfinished coordinator.generationStates last.generationStates ∧
      (∀ generationId, generationId < initial.generationCount →
        Over last.generationStates generationId) ∧
      last.checkPostCleanupInvariants = .ok () := by
  have hlength : coordinator.generationStates.length = initial.generationCount := by
    rw [h.length, h.timing.generationCount]
  obtain ⟨middle, hrun, hmiddle, hchanges, hall⟩ := h.cancelUnfinished_run hfresh fun generationId
      (hmem : generationId ∈ List.range coordinator.generationStates.length) => by
    rw [← hlength]
    exact List.mem_range.mp hmem
  have hover : ∀ generationId, generationId < initial.generationCount →
      Over middle.generationStates generationId := by
    intro generationId hlt
    apply hall
    rw [hlength]
    exact List.mem_range.mpr hlt
  have hlast := hmiddle.quiet hover
  have haudit : ∀ {state : RuntimeDispatchCoordinator}, Ledger initial state →
      (check fun coordinator : RuntimeDispatchCoordinator =>
        coordinator.checkInvariants.mapError CoordinatorError.invariant).run state =
          .ok () state := fun hstate =>
    check_run_eq_ok.mpr ⟨Except.mapError_eq_ok.mpr (hstate.checkInvariants hfresh), rfl⟩
  have hget : (get : CoordinatorM RuntimeDispatchCoordinator).run coordinator =
      .ok coordinator coordinator := rfl
  have hempty : (modify fun coordinator : RuntimeDispatchCoordinator =>
      coordinator.clearLiveOwners.clearCancelledUps : CoordinatorM PUnit).run middle =
        .ok PUnit.unit middle.quiet := rfl
  refine ⟨middle.quiet, ?_, hlast, hchanges, hover, hlast.checkPostCleanupInvariants hfresh hover⟩
  rw [DispatchCore.cancelAll, run_bind_of_ok (haudit h), run_bind_of_ok hget, run_bind_of_ok hrun,
    run_bind_of_ok hempty, run_bind_of_ok (haudit hlast)]
  rfl

end Results

end RuntimeDispatchCoordinator

end SkyAutoPlayer.DispatchCore
