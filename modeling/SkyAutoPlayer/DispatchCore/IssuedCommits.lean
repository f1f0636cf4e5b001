import SkyAutoPlayer.DispatchCore.FrozenAgreement
import SkyAutoPlayer.DispatchCore.LedgerEffects

/-!
# Prepared packets are issued

A packet that is prepared where the coordinator has a ledger finds the places of the compiled
schedule, and classifies each of its releases by the floor of the owner that it releases, or for a
generation that is over. So every commit that is ever prepared is an issued one.
-/

namespace SkyAutoPlayer.DispatchCore

open Foundation

/-- A prepared Down presses the slot of its intent for its generation. -/
theorem prepareDown_eq_ok {registry : KeyRegistry} {intent : CompactIntent}
    {down : PreparedDownIntent} (h : prepareDown registry intent = .ok down) :
    down.keySlot = intent.keySlot ∧ down.generationId = intent.generationId := by
  simp only [prepareDown, PreparedDownIntent.tryNew, Except.bind_eq_ok, okOr_eq_ok, failIf_eq_ok,
    Except.pure_eq_ok] at h
  obtain ⟨_, _, _, _, generation, hgeneration, rfl⟩ := h
  unfold PreparedDownIntent.frozenGeneration at hgeneration
  refine ⟨rfl, ?_⟩
  split at hgeneration
  · rename_i hnone
    rw [PreparedDownIntent.generationId, hnone, ← Option.some.inj hgeneration, if_pos rfl]
  · obtain ⟨hfit, hreal⟩ := Option.filter_eq_some_iff.mp hgeneration
    rw [fit_eq_some] at hfit
    rw [PreparedDownIntent.generationId, if_neg (of_decide_eq_true hreal)]
    exact hfit.2.symm

namespace RuntimeDispatchCoordinator

variable {initial coordinator : RuntimeDispatchCoordinator}

/-- The hold of a generation has one end. -/
theorem HoldsUntil.unique (hfresh : initial.Fresh) {slot other generationId floor second : ℕ}
    (hone : initial.HoldsUntil slot generationId floor)
    (htwo : initial.HoldsUntil other generationId second) : floor = second := by
  obtain ⟨packetIndex, ticks, hpress, hticks, rfl⟩ := hone
  obtain ⟨otherPacket, otherTicks, hother, hotherTicks, rfl⟩ := htwo
  obtain ⟨rfl, -⟩ := presses_unique hfresh.arranged.sound hpress hother
  rw [Option.some.inj (hticks.symm.trans hotherTicks)]

/-- A packet is the compiled one, except for its mask. -/
theorem Derives.packet {schedule : RuntimeSchedule} (h : initial.Derives schedule) {index : ℕ}
    {header : CompiledPacket} (hheader : schedule.packets[index]? = some header) :
    ∃ packet, initial.schedule.packets[index]? = some packet ∧
      header = { packet with upMask := header.upMask } := by
  have hlt := (List.getElem?_eq_some_iff.mp hheader).1
  rw [h.packetsLength] at hlt
  have hpacket := List.getElem?_eq_getElem hlt
  obtain ⟨upMask, hderived⟩ := h.packets index _ hpacket
  refine ⟨_, hpacket, ?_⟩
  rw [Option.some.inj (hheader.symm.trans hderived)]

/-- An intent with a generation is the compiled one. -/
theorem Derives.intent {schedule : RuntimeSchedule} (h : initial.Derives schedule) {index : ℕ}
    {intent : CompactIntent} (hintent : schedule.intents[index]? = some intent)
    (hsome : intent.generationId ≠ noGenerationId) :
    initial.schedule.intents[index]? = some intent := by
  have hlt := (List.getElem?_eq_some_iff.mp hintent).1
  rw [h.intentsLength] at hlt
  have hinitial := List.getElem?_eq_getElem hlt
  rcases h.intents index _ hinitial with hsame | hlost
  · rw [hinitial, Option.some.inj (hsame.symm.trans hintent)]
  · rw [Option.some.inj (hintent.symm.trans hlost),
      CompactIntent.generationId_new (CompactIntent.keySlot_lt _) (.inr rfl)] at hsome
    exact absurd rfl hsome

/-- No slot has an owner and the Up of a cancelled generation. -/
theorem Ledger.exclusive (h : Ledger initial coordinator) : coordinator.Exclusive := by
  intro slot
  cases hcancelled : coordinator.cancelledUpBySlot slot with
  | none => exact .inr rfl
  | some identity => exact .inl (h.free slot identity hcancelled)

section Issuing

variable (hfresh : initial.Fresh) (h : Ledger initial coordinator)
include hfresh h

/-- The Up of an owner has the place of its release, and is classified by the owner's floor. -/
theorem Ledger.upIssued {frame : PreparedAuthoredFrame} {up : PreparedUpIntent}
    {intent : CompactIntent} {intentIndex sourceActionIndex : ℕ} {active : ActiveGeneration}
    {identity : AuthoredUpIdentity}
    (howner : coordinator.activeBySlot intent.keySlot = some active)
    (hgeneration : active.generationId = intent.generationId)
    (hidentity : AuthoredUpIdentity.tryNew intent.generationId intent.keySlot frame.packetIndex
      intentIndex = .ok identity)
    (hlocation : coordinator.checkUpLocation intent.generationId frame.packetIndex intentIndex =
      .ok ())
    (hdue : frame.immediateUpMask.getLsbD intent.keySlot = true ↔
      active.releaseNotBeforeTicks ≤ frame.authoredTicks)
    (hup : up = ⟨intent, sourceActionIndex, identity⟩) :
    initial.UpIssued coordinator.generationStates frame up := by
  subst hup
  obtain ⟨hid, hslot, -, hindex⟩ := AuthoredUpIdentity.tryNew_eq_ok hidentity
  have hlocated := not_not.mp (failIf_eq_ok.mp hlocation)
  rw [upIntentLocation, h.timing.upIntentLocations, Option.join_eq_some_iff] at hlocated
  constructor
  · rw [hid, hindex]
    exact (hfresh.located _ _ _).mp hlocated
  · rw [hid, hslot]
    right
    intro slot floor hholds
    rw [← hgeneration] at hholds
    rw [← (h.owners.owned _ active howner).floor.unique hfresh hholds]
    exact hdue

/-- An Up that is scanned is issued. -/
theorem Ledger.upIssued_of_scanUp {packet : PacketView} {frame : PreparedAuthoredFrame}
    {scan after final : UpScan} {placed : CompactIntent × ℕ} (hframes : Frames packet final frame)
    (hdue : coordinator.DueSlots frame.authoredTicks final) (hwithin : after.Within final)
    (hscan : coordinator.scanUp packet frame.authoredTicks scan placed = .ok after) :
    ∀ up ∈ after.upIntents, up ∈ scan.upIntents ∨
      initial.UpIssued coordinator.generationStates frame up := by
  obtain ⟨-, hscanned⟩ := scanned_of_scanUp hscan
  have howned : placed.1.generationId ≠ noGenerationId → ∀ active,
      coordinator.activeBySlot placed.1.keySlot = some active →
      active.generationId = placed.1.generationId := by
    intro hsome active hactive
    simp only [scanUp, if_neg hsome, scanOwnedUp, hactive, okOr, Except.bind_eq_ok, failIf_eq_ok,
      not_not, Except.ok.injEq, exists_eq_left'] at hscan
    obtain ⟨_, -, _, hsame, -⟩ := hscan
    exact hsame
  have hadded : ∀ up, after.upIntents = scan.upIntents ++ [up] →
      initial.UpIssued coordinator.generationStates frame up →
      ∀ other ∈ after.upIntents, other ∈ scan.upIntents ∨
        initial.UpIssued coordinator.generationStates frame other := by
    intro up hafter hup other hother
    rw [hafter] at hother
    rcases List.mem_append.mp hother with hbefore | hself
    · exact .inl hbefore
    · rw [List.mem_singleton.mp hself]
      exact .inr hup
  cases hscanned with
  | cancelled identity hnone hfound hvalid =>
    apply hadded _ rfl
    obtain ⟨htoken, hplace⟩ := Option.filter_eq_some_iff.mp hfound
    simp only [Bool.and_eq_true, decide_eq_true_eq] at hplace
    have hkept := h.kept _ identity htoken
    have hrelease := hkept.place
    rw [hplace.1.1, ← hframes.place] at hrelease
    exact ⟨⟨_, hrelease⟩, .inl ⟨_, hkept.status, rfl⟩⟩
  | stale => exact fun up hup => .inl hup
  | due active identity hsome hactive hidentity hlocation hfloor =>
    rw [← hframes.place] at hidentity hlocation
    refine hadded _ rfl (h.upIssued hfresh hactive (howned hsome active hactive) hidentity hlocation
      ?_ rfl)
    have hslot := placed.1.keySlot_lt
    have hbit := hwithin.immediate placed.1.keySlot (by simp [UpScan.addImmediate, hslot])
    rw [hframes.immediate, hbit]
    exact iff_of_true rfl hfloor
  | waits active identity sourceActionIndex hsome hactive hidentity hlocation hfloor hsource =>
    rw [← hframes.place] at hidentity hlocation
    refine hadded _ rfl (h.upIssued hfresh hactive (howned hsome active hactive) hidentity hlocation
      ?_ rfl)
    rw [hframes.immediate, not_due_of_waits h.exclusive hdue hactive hfloor]
    exact iff_of_false Bool.false_ne_true hfloor

/-- All Ups that are scanned are issued. -/
theorem Ledger.upIssued_of_scan {packet : PacketView} {frame : PreparedAuthoredFrame}
    {list : List (CompactIntent × ℕ)} {scan final : UpScan} (hframes : Frames packet final frame)
    (hdue : coordinator.DueSlots frame.authoredTicks final)
    (hscan : list.foldlM (coordinator.scanUp packet frame.authoredTicks) scan = .ok final)
    (hbefore : ∀ up ∈ scan.upIntents, initial.UpIssued coordinator.generationStates frame up) :
    ∀ up ∈ final.upIntents, initial.UpIssued coordinator.generationStates frame up := by
  induction list generalizing scan with
  | nil =>
    obtain rfl := Except.pure_eq_ok.mp hscan
    exact hbefore
  | cons placed rest ih =>
    rw [List.foldlM_cons, Except.bind_eq_ok] at hscan
    obtain ⟨middle, hmiddle, hrest⟩ := hscan
    refine ih hrest fun up hup => ?_
    exact (h.upIssued_of_scanUp hfresh hframes hdue (within_of_scan hrest) hmiddle up hup).elim
      (hbefore up) id

/-- Preparing the current packet issues its commit. -/
theorem Ledger.issued_of_prepare {prepared : PreparedAuthoredPacket}
    (hprepared : coordinator.prepareCurrentAuthoredPacket = .ok (some prepared)) :
    initial.Issued coordinator.generationStates prepared.commit := by
  unfold prepareCurrentAuthoredPacket at hprepared
  split at hprepared
  · cases hprepared
  · simp only [Except.bind_eq_ok, Except.pure_eq_ok] at hprepared
    obtain ⟨found, hfound, hsame⟩ := hprepared
    obtain rfl := Option.some.inj hsame
    simp only [prepareAuthoredPacketOf, effectiveBatchScheduledTicks, Except.bind_eq_ok, okOr_eq_ok,
      Except.mapError_eq_ok, failIf_eq_ok, Except.pure_eq_ok, not_not] at hfound
    obtain ⟨ticks, hticks, packet, hview, _, hcursor, scan, hscan, downIntents, hdowns, -, -, rfl⟩ :=
      hfound
    obtain ⟨hindex, hheader, -⟩ := view_eq_ok hview
    rw [← hindex] at hheader
    obtain ⟨compiled, hcompiled, hderived⟩ := h.derives.packet hheader
    have hempty : coordinator.DueSlots ticks UpScan.empty := by
      intro slot hslot
      simp [UpScan.empty] at hslot
    constructor
    · have hfirst : compiled.firstBatchIndex = packet.header.firstBatchIndex := by
        rw [hderived]
      change initial.packetTicks packet.packetIndex = some ticks
      rw [packetTicks, hcompiled, Option.bind_eq_bind, Option.bind_some,
        ← h.timing.batchScheduledTicks, hfirst, hcursor]
      exact hticks
    · have hframes : Frames packet scan (coordinator.authoredFrame packet ticks scan) :=
        ⟨rfl, rfl, rfl⟩
      exact h.upIssued_of_scan hfresh hframes (dueSlots_of_scan hscan hempty) hscan
        fun _ hup => absurd hup List.not_mem_nil
    · intro down hdown hsome
      obtain ⟨offset, hoffset⟩ := List.mem_iff_getElem?.mp hdown
      obtain ⟨intent, hget, hprepare⟩ := exists_of_forall₂ (forall₂_of_mapM hdowns) hoffset
      obtain ⟨hslot, hgeneration⟩ := prepareDown_eq_ok hprepare
      rw [hgeneration] at hsome
      have hstart : packet.header.downIntentStart = compiled.downIntentStart := by
        rw [hderived]
      have hlen : packet.header.downIntentLen = compiled.downIntentLen := by
        rw [hderived]
      simp only [RuntimeSchedule.viewPacketTicksUnvalidatedRegistry, Except.bind_eq_ok, okOr_eq_ok,
        Except.pure_eq_ok] at hview
      obtain ⟨header, -, _, -, downs, hrange, rfl⟩ := hview
      obtain ⟨_, _, _, _, hlength⟩ := slice_eq_some.mp hrange
      have hlt : offset < header.downIntentLen := by
        rw [← hlength]
        exact (List.getElem?_eq_some_iff.mp hget).1
      have hplaced := (slice_getElem? hrange hlt).symm.trans hget
      have hinitial := h.derives.intent hplaced hsome
      dsimp only at hstart hlen
      rw [hstart] at hinitial
      rw [hlen] at hlt
      have hdownRange :=
        (hfresh.arranged.sound.packets compiled (List.mem_of_getElem? hcompiled)).downs
      have hmem := (slice_getElem? hdownRange hlt).trans hinitial
      rw [hslot, hgeneration]
      exact ⟨packetFrame initial.schedule.intents compiled, frame_of_packet hcompiled,
        List.mem_map_of_mem (List.mem_of_getElem? hmem)⟩

end Issuing

end RuntimeDispatchCoordinator

end SkyAutoPlayer.DispatchCore
