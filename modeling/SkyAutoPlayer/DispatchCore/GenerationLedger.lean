import SkyAutoPlayer.DispatchCore.CoordinatorEffects
import SkyAutoPlayer.DispatchCore.PacketPlan
import SkyAutoPlayer.Foundation.ListChanges
import SkyAutoPlayer.Foundation.MarkedSlots
import SkyAutoPlayer.Foundation.PlaceCount

/-!
# The ledger of a coordinator

After any calls the coordinator's tables agree with its ledger. A slot has an owner exactly for each
generation that is active, with the floor of its own press; a release waits only behind an owner that
it is too early for; the Up of a cancelled generation is kept where no owner is; an intent or a mask
of the schedule is changed only for a generation that is over; and the counters count the statuses.
Every part of the ledger speaks of the fields that it needs, so that it holds as it is where those do
not change.
-/

namespace SkyAutoPlayer.DispatchCore

open Foundation

/-- A generation is over. -/
def Over (states : List GenerationStatus) (generationId : ℕ) : Prop :=
  ∃ status, states[generationId]? = some status ∧ status.isTerminal = true

/-- Statuses only go forward. -/
abbrev Forward (before after : List GenerationStatus) : Prop :=
  Changes (fun _ (old new : GenerationStatus) => old.rank < new.rank) before after

/-- Going forward composes. -/
theorem Forward.trans {before middle after : List GenerationStatus} (hfirst : Forward before middle)
    (hsecond : Forward middle after) : Forward before after :=
  Changes.trans hfirst hsecond fun _ _ _ _ hone htwo => hone.trans htwo

/-- What is over stays over. -/
theorem Over.forward {before after : List GenerationStatus} {generationId : ℕ}
    (hover : Over before generationId) (h : Forward before after) : Over after generationId := by
  obtain ⟨status, hstatus, hterminal⟩ := hover
  obtain ⟨later, hlater, hforward⟩ := h generationId status hstatus
  refine ⟨later, hlater, ?_⟩
  rcases hforward with rfl | hlt
  · exact hterminal
  · rw [GenerationStatus.isTerminal_iff] at hterminal ⊢
    omega

/-- An active generation is not over. -/
theorem Over.not_active {states : List GenerationStatus} {generationId : ℕ}
    (h : Over states generationId) : states[generationId]? ≠ some .active := by
  obtain ⟨status, hstatus, hterminal⟩ := h
  rw [hstatus]
  rintro ⟨⟩
  cases hterminal

/-- No generation is active. -/
def NoneActive (states : List GenerationStatus) : Prop :=
  ∀ generationId : ℕ, states[generationId]? ≠ some .active

/-- The tables of the slots. -/
structure SlotTables where
  active : SlotTable ActiveGeneration
  activeMask : BitVec 16
  blockedMask : BitVec 16
  pending : SlotTable PendingRelease
  pendingMask : BitVec 16

namespace RuntimeDispatchCoordinator

variable (initial coordinator : RuntimeDispatchCoordinator)

/-- The tables of a coordinator. -/
abbrev tables : SlotTables where
  active := coordinator.activeBySlot
  activeMask := coordinator.activeMask
  blockedMask := coordinator.blockedMask
  pending := coordinator.pendingReleaseBySlot
  pendingMask := coordinator.pendingReleaseMask

/-- The tick of a packet. -/
def packetTicks (packetIndex : ℕ) : Option ℕ := do
  let packet ← coordinator.schedule.packets[packetIndex]?
  coordinator.batchScheduledTicks[packet.firstBatchIndex]?

/-- A generation presses its slot, and the hold of the press ends at a tick. -/
def HoldsUntil (slot generationId floor : ℕ) : Prop :=
  ∃ packetIndex ticks, initial.schedule.Presses packetIndex slot generationId ∧
    initial.packetTicks packetIndex = some ticks ∧ floor = ticks + initial.minHoldTicks

/-- What a coordinator was made with is the same. -/
structure SameTiming : Prop where
  minHoldTicks : coordinator.minHoldTicks = initial.minHoldTicks
  batchScheduledTicks : coordinator.batchScheduledTicks = initial.batchScheduledTicks
  upIntentLocations : coordinator.upIntentLocations = initial.upIntentLocations
  generationCount : coordinator.generationCount = initial.generationCount

/-- The schedule is the compiled one, except that intents lost their generations and masks bits. -/
structure Derives (schedule : RuntimeSchedule) : Prop where
  generationCount : schedule.generationCount = initial.schedule.generationCount
  batches : schedule.batches = initial.schedule.batches
  keyRegistry : schedule.keyRegistry = initial.schedule.keyRegistry
  packetsLength : schedule.packets.length = initial.schedule.packets.length
  packets : ∀ (index : ℕ) (packet : CompiledPacket), initial.schedule.packets[index]? = some packet →
    ∃ upMask, schedule.packets[index]? = some { packet with upMask := upMask }
  intentsLength : schedule.intents.length = initial.schedule.intents.length
  intents : ∀ (index : ℕ) (intent : CompactIntent),
    initial.schedule.intents[index]? = some intent →
    schedule.intents[index]? = some intent ∨
      schedule.intents[index]? = some (CompactIntent.new noGenerationId intent.keySlot)

/-- An intent or a mask is changed only for a generation that is over. -/
structure ChangesOver (schedule : RuntimeSchedule) (states : List GenerationStatus) : Prop where
  intents : ∀ (index : ℕ) (intent : CompactIntent),
    initial.schedule.intents[index]? = some intent → schedule.intents[index]? ≠ some intent →
    ∃ generationId packetIndex slot,
      initial.schedule.Releases packetIndex index slot generationId ∧ Over states generationId
  masks : ∀ (packetIndex : ℕ) (packet : CompiledPacket) (upMask : BitVec 16) (slot : ℕ),
    initial.schedule.packets[packetIndex]? = some packet →
    schedule.packets[packetIndex]? = some { packet with upMask := upMask } →
    packet.upMask.getLsbD slot = true → upMask.getLsbD slot = false →
    ∃ generationId intentIndex,
      initial.schedule.Releases packetIndex intentIndex slot generationId ∧
        Over states generationId

/-- The owner of a slot is an active generation, with the floor of its own press. -/
structure OwnsSlot (states : List GenerationStatus) (slot : ℕ) (active : ActiveGeneration) :
    Prop where
  keySlot : active.keySlot = slot
  status : states[active.generationId]? = some .active
  floor : initial.HoldsUntil slot active.generationId active.releaseNotBeforeTicks

/-- A release waits behind its own owner, whose hold ends after the release's packet. -/
structure Awaits (table : SlotTable ActiveGeneration) (slot : ℕ) (release : PendingRelease)
    (active : ActiveGeneration) : Prop where
  keySlot : release.keySlot = slot
  owner : table slot = some active
  generation : active.generationId = release.generationId
  held : active.releaseNotBeforeTicks ≤ release.dueTicks
  early : ∃ packetIndex intentIndex ticks,
    initial.schedule.Releases packetIndex intentIndex slot release.generationId ∧
      initial.packetTicks packetIndex = some ticks ∧ ticks < active.releaseNotBeforeTicks

/-- The owners of the slots are the active generations, and releases wait only behind them. -/
structure Owners (tables : SlotTables) (states : List GenerationStatus) : Prop where
  owned : ∀ slot active, tables.active slot = some active → initial.OwnsSlot states slot active
  owner : ∀ generationId, states[generationId]? = some .active →
    ∃ slot active, tables.active slot = some active ∧ active.generationId = generationId
  activeMask : Marks tables.activeMask tables.active
  blockedMask : Marks tables.blockedMask tables.active
  pending : ∀ slot release, tables.pending slot = some release →
    ∃ active, initial.Awaits tables.active slot release active
  pendingMask : Marks tables.pendingMask tables.pending

/-- The Up of a cancelled generation is kept in its slot. -/
structure KeepsUp (schedule : RuntimeSchedule) (states : List GenerationStatus) (slot : ℕ)
    (identity : AuthoredUpIdentity) : Prop where
  keySlot : identity.keySlot = slot
  status : states[identity.generationId]? = some .cancelled
  place : initial.schedule.Releases identity.packetIndex identity.intentIndex slot
    identity.generationId
  intent : schedule.intents[identity.intentIndex]? = some (CompactIntent.new noGenerationId slot)
  mask : ∃ packet, schedule.packets[identity.packetIndex]? = some packet ∧
    packet.upMask.getLsbD slot = true

/-- The statuses of a ledger, counted. -/
def countersOf (states : List GenerationStatus) : GenerationCounters where
  released := states.count .released
  droppedConflict := states.count .droppedConflict
  droppedBackend := states.count .droppedBackend
  droppedExpired := states.count .droppedExpired
  cancelled := states.count .cancelled

/-- The slots that keep an Up, counted. -/
def keptCount (kept : SlotTable AuthoredUpIdentity) : ℕ :=
  ((Finset.range maxKeys).filter fun slot => (kept slot).isSome).card

/-- What is released, active or kept was activated, and what is scheduled was not. -/
def CountsActivated (states : List GenerationStatus) (kept : SlotTable AuthoredUpIdentity)
    (activated : ℕ) : Prop :=
  states.count .released + states.count .active + keptCount kept ≤ activated ∧
    activated + states.count .scheduled ≤ states.length

/-- The ledger apart from the tables of the slots. -/
structure Accounts : Prop where
  timing : initial.SameTiming coordinator
  derives : initial.Derives coordinator.schedule
  changes : initial.ChangesOver coordinator.schedule coordinator.generationStates
  kept : ∀ slot identity, coordinator.cancelledUpBySlot slot = some identity →
    initial.KeepsUp coordinator.schedule coordinator.generationStates slot identity
  length : coordinator.generationStates.length = coordinator.generationCount
  counters : coordinator.counters = countersOf coordinator.generationStates
  activated : CountsActivated coordinator.generationStates coordinator.cancelledUpBySlot
    coordinator.activatedGenerationCount

/-- What every call keeps. -/
structure Ledger : Prop extends Accounts initial coordinator where
  owners : initial.Owners coordinator.tables coordinator.generationStates
  free : ∀ slot identity, coordinator.cancelledUpBySlot slot = some identity →
    coordinator.activeBySlot slot = none

variable {initial coordinator}

/-- Where no generation is active, empty tables are right. -/
theorem Owners.empty {states : List GenerationStatus} (hnone : NoneActive states) :
    initial.Owners ⟨SlotTable.empty, 0#16, 0#16, SlotTable.empty, 0#16⟩ states :=
  ⟨nofun, fun generationId hactive => absurd hactive (hnone generationId), Marks.empty, Marks.empty,
    nofun, Marks.empty⟩

/-- The coordinator of a compiled schedule has a ledger. -/
theorem ledger_of_new {schedule : RuntimeSchedule} {minHoldUs minHoldTicks : ℕ}
    {usToTicks : ℕ → Except CoordinatorError ℕ}
    (hnew : tryNewTicks schedule minHoldUs minHoldTicks usToTicks = .ok initial) :
    Ledger initial initial := by
  simp only [tryNewTicks, Except.bind_eq_ok, Except.pure_eq_ok] at hnew
  obtain ⟨ticks, -, locations, -, rfl⟩ := hnew
  have hnone : NoneActive (List.replicate schedule.generationCount .scheduled) := by
    intro generationId hactive
    rw [List.getElem?_replicate] at hactive
    split at hactive <;> cases hactive
  refine ⟨⟨⟨rfl, rfl, rfl, rfl⟩, ⟨rfl, rfl, rfl, rfl, ?_, rfl, ?_⟩, ⟨?_, ?_⟩, ?_,
    List.length_replicate, ?_, ?_⟩, Owners.empty hnone, fun _ _ _ => rfl⟩
  · exact fun index packet hpacket => ⟨packet.upMask, hpacket⟩
  · exact fun index intent hintent => .inl hintent
  · exact fun index intent hintent hchanged => absurd hintent hchanged
  · intro packetIndex packet upMask slot hpacket hsame hset hclear
    have hmask : packet.upMask = upMask :=
      congrArg CompiledPacket.upMask (Option.some.inj (hpacket.symm.trans hsame))
    rw [hmask, hclear] at hset
    cases hset
  · intro slot identity hidentity
    cases hidentity
  · simp [countersOf, GenerationCounters.zero, List.count_replicate]
  · simp [CountsActivated, keptCount, SlotTable.empty, List.count_replicate]

end RuntimeDispatchCoordinator

end SkyAutoPlayer.DispatchCore
