import SkyAutoPlayer.DispatchCore.Compile
import SkyAutoPlayer.DispatchCore.ResumableCancellation

/-!
# Two ways to freeze a commit

A packet is prepared with its commit, and the commit can be frozen again from the packet's frame
alone. The first way classifies an Up by its owner's floor, the second by the masks of the frame.
The two agree where no slot has both an owner and a cancelled Up: a bit of an owner's slot is due
only for the owner's floor, so that the masks tell every Up what its owner told.
-/

namespace SkyAutoPlayer.DispatchCore

open Foundation EStateM

namespace CompactIntent

/-- An intent has one of sixteen slots. -/
theorem keySlot_lt (intent : CompactIntent) : intent.keySlot < 16 := by
  have hmask : (0x0f : ℕ) = 2 ^ 4 - 1 := rfl
  rw [keySlot, hmask, Nat.and_two_pow_sub_one_eq_mod]
  omega

end CompactIntent

/-- Later masks contain what was classified so far. -/
structure UpScan.Within (scan final : UpScan) : Prop where
  immediate : Foundation.Within scan.immediateUpMask final.immediateUpMask
  deferred : Foundation.Within scan.deferredUpMask final.deferredUpMask

namespace UpScan.Within

variable {scan middle final : UpScan}

/-- A scan contains itself. -/
theorem refl (scan : UpScan) : scan.Within scan := ⟨fun _ h => h, fun _ h => h⟩

/-- Containment composes. -/
theorem trans (hfirst : scan.Within middle) (hsecond : middle.Within final) : scan.Within final :=
  ⟨fun slot h => hsecond.immediate slot (hfirst.immediate slot h),
    fun slot h => hsecond.deferred slot (hfirst.deferred slot h)⟩

/-- Taking an Up that is due keeps the masks. -/
theorem addImmediate (up : PreparedUpIntent) (slot : ℕ) (scan : UpScan) :
    scan.Within (scan.addImmediate up slot) := by
  constructor
  · intro other hother
    simp [UpScan.addImmediate, hother]
  · exact fun _ h => h

/-- Taking an Up that waits keeps the masks. -/
theorem addDeferred (up : PreparedUpIntent) (slot : ℕ) (scan : UpScan) :
    scan.Within (scan.addDeferred up slot) := by
  constructor
  · exact fun _ h => h
  · intro other hother
    simp [UpScan.addDeferred, hother]

end UpScan.Within

namespace RuntimeDispatchCoordinator

variable {coordinator : RuntimeDispatchCoordinator} {packet : PacketView} {authoredTicks : ℕ}

/-- Slots that are due have a cancelled Up, or an owner whose floor is not later than the packet. -/
def DueSlots (coordinator : RuntimeDispatchCoordinator) (authoredTicks : ℕ) (scan : UpScan) :
    Prop :=
  ∀ slot, scan.immediateUpMask.getLsbD slot = true → coordinator.cancelledUpBySlot slot ≠ none ∨
    ∃ active, coordinator.activeBySlot slot = some active ∧
      active.releaseNotBeforeTicks ≤ authoredTicks

/-- How an Up is classified. -/
inductive Scanned (coordinator : RuntimeDispatchCoordinator) (packet : PacketView)
    (authoredTicks intentIndex : ℕ) (intent : CompactIntent) (scan : UpScan) : UpScan → Prop
  | cancelled (identity : AuthoredUpIdentity) (hnone : intent.generationId = noGenerationId)
      (hfound : coordinator.cancelledUpAt packet.packetIndex intentIndex intent.keySlot =
        some identity)
      (hvalid : coordinator.validateInvalidatedUpIdentity identity = .ok ()) :
      Scanned coordinator packet authoredTicks intentIndex intent scan
        (scan.addImmediate (cancelledUpIntent identity intent.keySlot) intent.keySlot)
  | stale (hnone : intent.generationId = noGenerationId)
      (hfound : coordinator.cancelledUpAt packet.packetIndex intentIndex intent.keySlot = none) :
      Scanned coordinator packet authoredTicks intentIndex intent scan
        { scan with staleUpCount := saturatingAdd 8 scan.staleUpCount 1 }
  | due (active : ActiveGeneration) (identity : AuthoredUpIdentity)
      (hsome : intent.generationId ≠ noGenerationId)
      (hactive : coordinator.activeBySlot intent.keySlot = some active)
      (hidentity : AuthoredUpIdentity.tryNew intent.generationId intent.keySlot packet.packetIndex
        intentIndex = .ok identity)
      (hlocation : coordinator.checkUpLocation intent.generationId packet.packetIndex intentIndex =
        .ok ())
      (hfloor : active.releaseNotBeforeTicks ≤ authoredTicks) :
      Scanned coordinator packet authoredTicks intentIndex intent scan
        (scan.addImmediate ⟨intent, 0, identity⟩ intent.keySlot)
  | waits (active : ActiveGeneration) (identity : AuthoredUpIdentity) (sourceActionIndex : ℕ)
      (hsome : intent.generationId ≠ noGenerationId)
      (hactive : coordinator.activeBySlot intent.keySlot = some active)
      (hidentity : AuthoredUpIdentity.tryNew intent.generationId intent.keySlot packet.packetIndex
        intentIndex = .ok identity)
      (hlocation : coordinator.checkUpLocation intent.generationId packet.packetIndex intentIndex =
        .ok ())
      (hfloor : ¬active.releaseNotBeforeTicks ≤ authoredTicks)
      (hsource : coordinator.packetIntentSourceActionIndex packet.header intentIndex .up =
        .ok sourceActionIndex) :
      Scanned coordinator packet authoredTicks intentIndex intent scan
        (scan.addDeferred ⟨intent, sourceActionIndex, identity⟩ intent.keySlot)

/-- A classified Up has a scan code and one of the classifications. -/
theorem scanned_of_scanUp {scan after : UpScan} {placed : CompactIntent × ℕ}
    (h : coordinator.scanUp packet authoredTicks scan placed = .ok after) :
    packet.registry.scanCodeFor placed.1.keySlot ≠ none ∧
      coordinator.Scanned packet authoredTicks (packet.header.upIntentStart + placed.2) placed.1
        scan after := by
  simp only [scanUp, Except.bind_eq_ok, failIf_eq_ok] at h
  obtain ⟨_, hcode, h⟩ := h
  constructor
  · exact hcode
  · split at h
    · rename_i hnone
      unfold scanUnownedUp at h
      split at h
      · rename_i identity hfound
        simp only [Except.bind_eq_ok, Except.mapError_eq_ok, Except.pure_eq_ok] at h
        obtain ⟨_, hvalid, rfl⟩ := h
        exact .cancelled identity hnone hfound hvalid
      · rename_i hfound
        obtain rfl := Except.pure_eq_ok.mp h
        exact .stale hnone hfound
    · rename_i hsome
      simp only [scanOwnedUp, Except.bind_eq_ok, okOr_eq_ok, failIf_eq_ok] at h
      obtain ⟨active, hactive, _, _, identity, hidentity, _, hlocation, h⟩ := h
      unfold scanHeldUp at h
      split at h
      · rename_i hfloor
        obtain rfl := Except.pure_eq_ok.mp h
        exact .due active identity hsome hactive hidentity hlocation hfloor
      · rename_i hfloor
        simp only [Except.bind_eq_ok, Except.pure_eq_ok] at h
        obtain ⟨sourceActionIndex, hsource, rfl⟩ := h
        exact .waits active identity sourceActionIndex hsome hactive hidentity hlocation hfloor
          hsource

namespace Scanned

variable {intentIndex : ℕ} {intent : CompactIntent} {scan after : UpScan}

/-- One Up adds to the masks. -/
theorem within (h : coordinator.Scanned packet authoredTicks intentIndex intent scan after) :
    scan.Within after := by
  cases h with
  | cancelled => exact UpScan.Within.addImmediate _ _ _
  | stale => exact ⟨fun _ h => h, fun _ h => h⟩
  | due => exact UpScan.Within.addImmediate _ _ _
  | waits => exact UpScan.Within.addDeferred _ _ _

/-- An Up of a slot that was added is due for the slot. -/
theorem dueSlots_addImmediate {up : PreparedUpIntent} {slot : ℕ}
    (hdue : coordinator.DueSlots authoredTicks scan)
    (hslot : coordinator.cancelledUpBySlot slot ≠ none ∨
      ∃ active, coordinator.activeBySlot slot = some active ∧
        active.releaseNotBeforeTicks ≤ authoredTicks) :
    coordinator.DueSlots authoredTicks (scan.addImmediate up slot) := by
  intro other hother
  simp only [UpScan.addImmediate, BitVec.getLsbD_or, getLsbD_slotBit, Bool.or_eq_true,
    Bool.and_eq_true, decide_eq_true_eq] at hother
  cases hother with
  | inl hbefore => exact hdue other hbefore
  | inr hsame =>
    rw [hsame.2]
    exact hslot

/-- One Up keeps why slots are due. -/
theorem dueSlots (h : coordinator.Scanned packet authoredTicks intentIndex intent scan after)
    (hdue : coordinator.DueSlots authoredTicks scan) : coordinator.DueSlots authoredTicks after := by
  cases h with
  | cancelled identity hnone hfound hvalid =>
    apply dueSlots_addImmediate hdue
    apply Or.inl
    intro hempty
    rw [cancelledUpAt, hempty] at hfound
    cases hfound
  | stale => exact hdue
  | due active identity hsome hactive hidentity hlocation hfloor =>
    exact dueSlots_addImmediate hdue (.inr ⟨active, hactive, hfloor⟩)
  | waits => exact hdue

end Scanned

/-- All Ups of a packet add to the masks. -/
theorem within_of_scan {list : List (CompactIntent × ℕ)} {scan final : UpScan}
    (h : list.foldlM (coordinator.scanUp packet authoredTicks) scan = .ok final) :
    scan.Within final := by
  induction list generalizing scan with
  | nil =>
    obtain rfl := Except.pure_eq_ok.mp h
    exact UpScan.Within.refl scan
  | cons placed rest ih =>
    rw [List.foldlM_cons, Except.bind_eq_ok] at h
    obtain ⟨middle, hmiddle, hrest⟩ := h
    exact (scanned_of_scanUp hmiddle).2.within.trans (ih hrest)

/-- All Ups of a packet keep why slots are due. -/
theorem dueSlots_of_scan {list : List (CompactIntent × ℕ)} {scan final : UpScan}
    (h : list.foldlM (coordinator.scanUp packet authoredTicks) scan = .ok final)
    (hdue : coordinator.DueSlots authoredTicks scan) : coordinator.DueSlots authoredTicks final := by
  induction list generalizing scan with
  | nil =>
    obtain rfl := Except.pure_eq_ok.mp h
    exact hdue
  | cons placed rest ih =>
    rw [List.foldlM_cons, Except.bind_eq_ok] at h
    obtain ⟨middle, hmiddle, hrest⟩ := h
    exact ih hrest ((scanned_of_scanUp hmiddle).2.dueSlots hdue)

/-- Every Up of a packet that was prepared has a scan code. -/
theorem scanCode_of_scan {list : List (CompactIntent × ℕ)} {scan final : UpScan}
    (h : list.foldlM (coordinator.scanUp packet authoredTicks) scan = .ok final) :
    ∀ placed ∈ list, packet.registry.scanCodeFor placed.1.keySlot ≠ none := by
  induction list generalizing scan with
  | nil => exact fun _ hmem => absurd hmem List.not_mem_nil
  | cons placed rest ih =>
    rw [List.foldlM_cons, Except.bind_eq_ok] at h
    obtain ⟨middle, hmiddle, hrest⟩ := h
    exact List.forall_mem_cons.mpr ⟨(scanned_of_scanUp hmiddle).1, ih hrest⟩

/-- A frame of a packet has the packet's place and the masks of a scan. -/
structure Frames (packet : PacketView) (final : UpScan) (prepared : PreparedAuthoredFrame) :
    Prop where
  place : prepared.packetIndex = packet.packetIndex
  immediate : prepared.immediateUpMask = final.immediateUpMask
  deferred : prepared.deferredUpMask = final.deferredUpMask

/-- An owner's slot is due only when its floor is not later than the packet. -/
theorem not_due_of_waits {final : UpScan} {slot : ℕ} {active : ActiveGeneration}
    (hexclusive : coordinator.Exclusive) (hdue : coordinator.DueSlots authoredTicks final)
    (hactive : coordinator.activeBySlot slot = some active)
    (hfloor : ¬active.releaseNotBeforeTicks ≤ authoredTicks) :
    final.immediateUpMask.getLsbD slot = false := by
  by_contra hbit
  rw [Bool.not_eq_false] at hbit
  cases hdue slot hbit with
  | inl hcancelled =>
    cases hexclusive slot with
    | inl hnone => simp [hactive] at hnone
    | inr hnone => exact hcancelled hnone
  | inr howner =>
    obtain ⟨found, hfound, hearly⟩ := howner
    rw [hactive] at hfound
    obtain rfl := Option.some.inj hfound
    exact hfloor hearly

/-- The masks of the frame tell one Up what its owner told. -/
theorem freezeUp_of_scanned {final scan after : UpScan} {prepared : PreparedAuthoredFrame}
    {placed : CompactIntent × ℕ} (hexclusive : coordinator.Exclusive)
    (hframes : Frames packet final prepared) (hdue : coordinator.DueSlots authoredTicks final)
    (hwithin : after.Within final)
    (h : coordinator.Scanned packet authoredTicks (packet.header.upIntentStart + placed.2) placed.1
      scan after) :
    coordinator.freezeUp prepared packet.header scan.upIntents placed = .ok after.upIntents := by
  obtain ⟨intent, offset⟩ := placed
  have hslot := intent.keySlot_lt
  unfold freezeUp
  dsimp only at h ⊢
  cases h with
  | cancelled identity hnone hfound hvalid =>
    have hbit : prepared.immediateUpMask.getLsbD intent.keySlot = true := by
      rw [hframes.immediate]
      apply hwithin.immediate
      simp [UpScan.addImmediate, hslot]
    rw [if_pos hnone, freezeUnownedUp, hframes.place, hfound]
    simp [failIf, hbit, hvalid, Except.mapError, UpScan.addImmediate, bind, Except.bind, pure,
      Except.pure]
  | stale hnone hfound =>
    rw [if_pos hnone, freezeUnownedUp, hframes.place, hfound]
    rfl
  | due active identity hsome hactive hidentity hlocation hfloor =>
    have hbit : prepared.immediateUpMask.getLsbD intent.keySlot = true := by
      rw [hframes.immediate]
      apply hwithin.immediate
      simp [UpScan.addImmediate, hslot]
    rw [if_neg hsome, freezeOwnedUp, hframes.place, hidentity]
    simp [hlocation, hbit, UpScan.addImmediate, bind, Except.bind, pure, Except.pure]
  | waits active identity sourceActionIndex hsome hactive hidentity hlocation hfloor hsource =>
    have hnot : prepared.immediateUpMask.getLsbD intent.keySlot = false := by
      rw [hframes.immediate]
      exact not_due_of_waits hexclusive hdue hactive hfloor
    have hbit : prepared.deferredUpMask.getLsbD intent.keySlot = true := by
      rw [hframes.deferred]
      apply hwithin.deferred
      simp [UpScan.addDeferred, hslot]
    rw [if_neg hsome, freezeOwnedUp, hframes.place, hidentity]
    simp [hlocation, hnot, hbit, hsource, UpScan.addDeferred, bind, Except.bind, pure, Except.pure]

/-- The masks of the frame tell all Ups what their owners told, in the same order. -/
theorem freeze_of_scan {list : List (CompactIntent × ℕ)} {scan final : UpScan}
    {prepared : PreparedAuthoredFrame} (hexclusive : coordinator.Exclusive)
    (hframes : Frames packet final prepared) (hdue : coordinator.DueSlots authoredTicks final)
    (h : list.foldlM (coordinator.scanUp packet authoredTicks) scan = .ok final) :
    list.foldlM (coordinator.freezeUp prepared packet.header) scan.upIntents =
      .ok final.upIntents := by
  induction list generalizing scan with
  | nil =>
    obtain rfl := Except.pure_eq_ok.mp h
    rfl
  | cons placed rest ih =>
    rw [List.foldlM_cons, Except.bind_eq_ok] at h
    obtain ⟨middle, hmiddle, hrest⟩ := h
    have hhead := freezeUp_of_scanned hexclusive hframes hdue (within_of_scan hrest)
      (scanned_of_scanUp hmiddle).2
    rw [List.foldlM_cons, hhead]
    exact ih hrest

/-- Prepared Downs have scan codes. -/
theorem scanCode_of_prepareDown {registry : KeyRegistry} {intents : List CompactIntent}
    {downIntents : List PreparedDownIntent}
    (h : intents.mapM (prepareDown registry) = .ok downIntents) :
    ∀ intent ∈ intents, registry.scanCodeFor intent.keySlot ≠ none := by
  induction intents generalizing downIntents with
  | nil => exact fun _ hmem => absurd hmem List.not_mem_nil
  | cons intent rest ih =>
    simp only [List.mapM_cons, prepareDown, Except.bind_eq_ok, okOr_eq_ok] at h
    obtain ⟨_, ⟨scanCode, hcode, _⟩, _, hrest, _⟩ := h
    have hhead : registry.scanCodeFor intent.keySlot ≠ none := by simp [hcode]
    exact List.forall_mem_cons.mpr ⟨hhead, ih hrest⟩

/-- Intents with scan codes are valid. -/
theorem validateIntents_of_scanCode {registry : KeyRegistry} {intents : List CompactIntent}
    (h : ∀ intent ∈ intents, registry.scanCodeFor intent.keySlot ≠ none) :
    validateIntents registry intents = .ok () := by
  induction intents with
  | nil => rfl
  | cons intent rest ih =>
    obtain ⟨hhead, hrest⟩ := List.forall_mem_cons.mp h
    rw [validateIntents, failIf_of_not _ hhead]
    exact ih hrest

/-- A packet is at its place, with the schedule's registry. -/
theorem view_eq_ok {schedule : RuntimeSchedule} {index effectiveTicks : ℕ} {view : PacketView}
    (h : schedule.viewPacketTicksUnvalidatedRegistry index effectiveTicks = .ok view) :
    view.packetIndex = index ∧ schedule.packets[index]? = some view.header ∧
      view.registry = schedule.keyRegistry := by
  simp only [RuntimeSchedule.viewPacketTicksUnvalidatedRegistry, Except.bind_eq_ok, okOr_eq_ok,
    Except.pure_eq_ok] at h
  obtain ⟨header, hheader, _, _, _, _, rfl⟩ := h
  exact ⟨rfl, hheader, rfl⟩

/-- A packet whose intents have scan codes is valid. -/
theorem viewPacketTicks_of_scanCode {schedule : RuntimeSchedule} {index effectiveTicks : ℕ}
    {view : PacketView}
    (h : schedule.viewPacketTicksUnvalidatedRegistry index effectiveTicks = .ok view)
    (hups : ∀ intent ∈ view.upIntents, view.registry.scanCodeFor intent.keySlot ≠ none)
    (hdowns : ∀ intent ∈ view.downIntents, view.registry.scanCodeFor intent.keySlot ≠ none) :
    schedule.viewPacketTicks index effectiveTicks = .ok view := by
  have hvalid : view.validateRegistry = .ok () :=
    validateIntents_of_scanCode (List.forall_mem_append.mpr ⟨hups, hdowns⟩)
  rw [RuntimeSchedule.viewPacketTicks, h]
  simp only [bind, Except.bind, hvalid]
  rfl

/-- The intents of a packet are those that a scan numbers. -/
theorem scanCode_of_zipIdx {registry : KeyRegistry} {intents : List CompactIntent}
    (h : ∀ placed ∈ intents.zipIdx, registry.scanCodeFor placed.1.keySlot ≠ none) :
    ∀ intent ∈ intents, registry.scanCodeFor intent.keySlot ≠ none := by
  intro intent hmem
  obtain ⟨index, hindex, hget⟩ := List.getElem_of_mem hmem
  apply h (intent, index)
  rw [← hget]
  exact List.mem_zipIdx_iff_getElem?.mpr (List.getElem?_eq_getElem hindex)

/-- Preparing a packet and freezing its frame again give the same commit. -/
theorem prepareAuthoredCommit_of_prepare {prepared : PreparedAuthoredPacket}
    {batch : CompiledBatch} (hexclusive : coordinator.Exclusive)
    (h : coordinator.prepareAuthoredPacketOf batch = .ok prepared) :
    coordinator.prepareAuthoredCommit prepared.frame = .ok prepared.commit := by
  simp only [prepareAuthoredPacketOf, Except.bind_eq_ok, Except.mapError_eq_ok, failIf_eq_ok,
    Except.pure_eq_ok] at h
  obtain ⟨ticks, _, packet, hview, _, _, scan, hscan, downIntents, hdowns, _, _, rfl⟩ := h
  obtain ⟨hplace, hheader, hregistry⟩ := view_eq_ok hview
  have hvalid := viewPacketTicks_of_scanCode hview
    (scanCode_of_zipIdx (scanCode_of_scan hscan)) (scanCode_of_prepareDown hdowns)
  have hstart : coordinator.DueSlots ticks UpScan.empty := by
    intro slot hslot
    simp [UpScan.empty] at hslot
  have hframes : Frames packet scan (coordinator.authoredFrame packet ticks scan) := ⟨rfl, rfl, rfl⟩
  have hfrozen := freeze_of_scan hexclusive hframes (dueSlots_of_scan hscan hstart) hscan
  rw [← hplace] at hheader hvalid
  rw [hregistry] at hdowns
  have hups : packet.upIntents.zipIdx.foldlM
      (coordinator.freezeUp (coordinator.authoredFrame packet ticks scan) packet.header) [] =
        .ok scan.upIntents := hfrozen
  unfold prepareAuthoredCommit
  dsimp only
  have hindex : (coordinator.authoredFrame packet ticks scan).packetIndex = packet.packetIndex := rfl
  have hticks : (coordinator.authoredFrame packet ticks scan).authoredTicks = ticks := rfl
  rw [hindex, hticks, hheader, hvalid]
  simp only [okOr, Except.mapError, bind, Except.bind, hups, hdowns]
  rfl

end RuntimeDispatchCoordinator

/-- A call that changes the coordinator. -/
inductive CoordinatorCall where
  | commitMetadata (commit : PreparedAuthoredCommit)
  | commitSuccess (commit : PreparedAuthoredCommit) (started : ℕ)
  | commitDeadlineMiss (commit : PreparedAuthoredCommit) (confirmedUpMask missedDownMask : BitVec 16)
      (started : ℕ)
  | commitStale (prepared : PreparedStalePacket)
  | commitPendingRelease (releaseMask : BitVec 16) (started : ℕ)
  | cancelLive

/-- What a call does. -/
def CoordinatorCall.run : CoordinatorCall → CoordinatorM Unit
  | .commitMetadata commit => commitPreparedAuthoredFrameMetadataFrozen commit
  | .commitSuccess commit started => commitPreparedAuthoredFrameSuccessFrozen commit started
  | .commitDeadlineMiss commit confirmedUpMask missedDownMask started =>
    commitPreparedAuthoredFrameDeadlineMiss commit confirmedUpMask missedDownMask started
  | .commitStale prepared => commitStalePacket prepared
  | .commitPendingRelease releaseMask started => commitPendingReleaseSuccess releaseMask started
  | .cancelLive => do
    let _ ← cancelLiveGenerationsAfterVerifiedResumableCleanup

/-- The coordinator after calls, of which some may have failed. -/
def coordinatorAfter (calls : List CoordinatorCall) (coordinator : RuntimeDispatchCoordinator) :
    RuntimeDispatchCoordinator :=
  calls.foldl (fun state call => (call.run.run state).state) coordinator

open RuntimeDispatchCoordinator

/-- Every call keeps owners and cancelled Ups apart. -/
theorem CoordinatorCall.keeps_exclusive (call : CoordinatorCall) : Keeps Exclusive call.run := by
  cases call with
  | commitMetadata commit => exact keeps_exclusive_metadata commit
  | commitSuccess commit started => exact keeps_exclusive_success commit started
  | commitDeadlineMiss commit confirmedUpMask missedDownMask started =>
    exact keeps_exclusive_deadlineMiss commit confirmedUpMask missedDownMask started
  | commitStale prepared => exact keeps_exclusive_stale prepared
  | commitPendingRelease releaseMask started =>
    exact keeps_exclusive_pendingRelease releaseMask started
  | cancelLive =>
    apply Keeps.bind keeps_exclusive_cancelLive
    intro _
    exact Keeps.pure _

/-- Owners and cancelled Ups are apart after any calls. -/
theorem exclusive_coordinatorAfter {coordinator : RuntimeDispatchCoordinator}
    (hexclusive : coordinator.Exclusive) (calls : List CoordinatorCall) :
    (coordinatorAfter calls coordinator).Exclusive := by
  induction calls generalizing coordinator with
  | nil => exact hexclusive
  | cons call rest ih => exact ih (call.keeps_exclusive.run coordinator hexclusive)

/-- A new coordinator has no owners. -/
theorem exclusive_new {schedule : RuntimeSchedule} {minHoldUs minHoldTicks : ℕ}
    {usToTicks : ℕ → Except CoordinatorError ℕ} {initial : RuntimeDispatchCoordinator}
    (h : tryNewTicks schedule minHoldUs minHoldTicks usToTicks = .ok initial) :
    initial.Exclusive := by
  simp only [tryNewTicks, Except.bind_eq_ok, Except.pure_eq_ok] at h
  obtain ⟨_, _, _, _, rfl⟩ := h
  exact fun _ => .inl rfl

/-- After any calls, whatever commit a packet was prepared with is frozen again from its frame. -/
theorem frozen_commits_agree {schedule : RuntimeSchedule} {minHoldUs minHoldTicks : ℕ}
    {usToTicks : ℕ → Except CoordinatorError ℕ} {initial : RuntimeDispatchCoordinator}
    (hnew : tryNewTicks schedule minHoldUs minHoldTicks usToTicks = .ok initial)
    (calls : List CoordinatorCall) {prepared : PreparedAuthoredPacket}
    (hprepared : (coordinatorAfter calls initial).prepareCurrentAuthoredPacket =
      .ok (some prepared)) :
    (coordinatorAfter calls initial).prepareAuthoredCommit prepared.frame = .ok prepared.commit := by
  have hexclusive := exclusive_coordinatorAfter (exclusive_new hnew) calls
  unfold prepareCurrentAuthoredPacket at hprepared
  split at hprepared
  · cases hprepared
  · simp only [Except.bind_eq_ok, Except.pure_eq_ok] at hprepared
    obtain ⟨found, hfound, hsame⟩ := hprepared
    obtain rfl := Option.some.inj hsame
    exact prepareAuthoredCommit_of_prepare hexclusive hfound

/-- A key is pressed and held. -/
def heldKeyActions : List KeyActionInput :=
  [⟨0, .down, 0, [21], "onset"⟩, ⟨1, .up, 10, [21], "release"⟩]

/-- The calls that send the first packet of a coordinator and then cancel what it pressed. -/
def pressAndCancel (coordinator : RuntimeDispatchCoordinator) : List CoordinatorCall :=
  match coordinator.prepareCurrentAuthoredPacket with
  | .ok (some prepared) => [.commitSuccess prepared.commit 0, .cancelLive]
  | _ => []

/-- The Up of a key that is cancelled while it is held is frozen twice in the same way. -/
theorem frozen_commits_agree_cancelled : ∃ schedule initial, ∃ prepared : PreparedAuthoredPacket,
    compileRuntimeIntents heldKeyActions [21] = .ok schedule ∧
      tryNewTicks schedule 5 5 .ok = .ok initial ∧
      (coordinatorAfter (pressAndCancel initial) initial).prepareAuthoredCommit prepared.frame =
        .ok prepared.commit ∧
      prepared.commit.upIntents.length = 1 := by
  have hcheck : (compileRuntimeIntents heldKeyActions [21]).toOption.any (fun schedule =>
      (tryNewTicks schedule 5 5 .ok).toOption.any (fun initial =>
        (coordinatorAfter (pressAndCancel initial) initial).prepareCurrentAuthoredPacket.toOption.any
          (fun prepared => prepared.any fun prepared =>
            decide (prepared.commit.upIntents.length = 1)))) = true := by
    decide +kernel
  obtain ⟨schedule, hschedule, hnewCheck⟩ := Except.exists_of_any hcheck
  obtain ⟨initial, hnew, hpreparedCheck⟩ := Except.exists_of_any hnewCheck
  obtain ⟨found, hfound, hany⟩ := Except.exists_of_any hpreparedCheck
  obtain ⟨prepared, rfl, hlength⟩ := (Option.any_eq_true _ _).mp hany
  exact ⟨schedule, initial, prepared, hschedule, hnew, frozen_commits_agree hnew _ hfound,
    of_decide_eq_true hlength⟩

end SkyAutoPlayer.DispatchCore
