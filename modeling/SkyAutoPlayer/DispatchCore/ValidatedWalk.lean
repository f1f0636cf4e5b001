import Mathlib.Data.List.TakeDrop
import SkyAutoPlayer.DispatchCore.Validation
import SkyAutoPlayer.Foundation.Guarded

/-!
# The validator's walk

A schedule whose ranges are readable is one list of presses and releases, packet by packet and
releases first. The validator accepts it exactly when every element names the generation that
holds its slot, every hold and release gap is long enough, and no press is left open.
-/

namespace SkyAutoPlayer.DispatchCore

open Foundation

/-- A press or release of the walk: its intent and the batch it belongs to. -/
structure WalkedIntent where
  batch : CompiledBatch
  intent : CompactIntent
  deriving DecidableEq, Repr

/-- The ticks of an authored time, when its conversion succeeds. -/
def TimingFloors.ticks (floors : TimingFloors) (microseconds : ℕ) : ℕ :=
  (floors.microsecondsToTicks microseconds).getD 0

/-- An element names the generation that holds its slot; a press needs a free slot. -/
def WalkedIntent.Owned (walk : ValidationWalk) (walked : WalkedIntent) : Prop :=
  match walked.batch.kind with
  | .up => ((walk.openBySlot walked.intent.keySlot).map (·.generationId)).getD noGenerationId =
    walked.intent.generationId
  | .down => walked.intent.generationId ≠ noGenerationId ∧
    walk.openBySlot walked.intent.keySlot = none

/-- A release comes after its hold, a press after its release gap. -/
def WalkedIntent.Timely (floors : TimingFloors) (walk : ValidationWalk)
    (walked : WalkedIntent) : Prop :=
  match walked.batch.kind with
  | .up => ∀ active ∈ walk.openBySlot walked.intent.keySlot,
    active.downScheduledTicks + floors.effectiveMinHoldTicks < 2 ^ 64 ∧
    active.downScheduledTicks + floors.effectiveMinHoldTicks ≤
      floors.ticks walked.batch.scheduledUs
  | .down => 0 < floors.minReleaseGapUs →
    ∀ previousUp ∈ walk.lastReleaseBySlot walked.intent.keySlot,
      floors.minReleaseGapTicks ≤
        floors.ticks walked.batch.scheduledUs - previousUp.scheduledTicks

/-- The walk after an element. -/
def walkStep (floors : TimingFloors) (registry : KeyRegistry) (walk : ValidationWalk)
    (walked : WalkedIntent) : ValidationWalk :=
  match walked.batch.kind with
  | .up =>
    if (walk.openBySlot walked.intent.keySlot).isSome then
      walk.release floors walked.batch (floors.ticks walked.batch.scheduledUs)
        walked.intent.keySlot
    else walk
  | .down => walk.press ((registry.scanCodeFor walked.intent.keySlot).getD 0) walked.batch
    (floors.ticks walked.batch.scheduledUs) walked.intent

/-- The hold check passes when the hold is over. -/
theorem checkHold_eq_ok {floors : TimingFloors} {batch : CompiledBatch} {batchTicks : ℕ}
    {active : ValidatedOpenGeneration} {done : Unit} :
    checkHold floors batch batchTicks active = .ok done ↔
      active.downScheduledTicks + floors.effectiveMinHoldTicks < 2 ^ 64 ∧
        active.downScheduledTicks + floors.effectiveMinHoldTicks ≤ batchTicks := by
  simp only [checkHold, Except.bind_eq_ok, okOr_eq_ok, checkedAdd_eq_some, failIf_eq_ok, not_lt]
  constructor
  · rintro ⟨_, ⟨hfits, rfl⟩, hle⟩
    exact ⟨hfits, hle⟩
  · rintro ⟨hfits, hle⟩
    exact ⟨_, ⟨hfits, rfl⟩, hle⟩

/-- The gap check passes when the release gap is over. -/
theorem checkReleaseGap_eq_ok {floors : TimingFloors} {scanCode : ℕ} {batch : CompiledBatch}
    {batchTicks : ℕ} {lastRelease : Option ReleaseBoundary} {done : Unit} :
    checkReleaseGap floors scanCode batch batchTicks lastRelease = .ok done ↔
      (0 < floors.minReleaseGapUs → ∀ previousUp ∈ lastRelease,
        floors.minReleaseGapTicks ≤ batchTicks - previousUp.scheduledTicks) := by
  cases lastRelease with
  | none => simp [checkReleaseGap]
  | some previousUp => simp [checkReleaseGap]

/-- An intent of a known slot is walked exactly when it is owned and timely. -/
theorem validateIntent_eq_ok {floors : TimingFloors} {registry : KeyRegistry} {packetIndex : ℕ}
    {batch : CompiledBatch} {walk result : ValidationWalk} {intent : CompactIntent}
    (hslot : intent.keySlot < maxKeys)
    (hcode : (registry.scanCodeFor intent.keySlot).isSome = true) :
    validateIntent floors registry packetIndex batch (floors.ticks batch.scheduledUs) walk
        intent = .ok result ↔
      (WalkedIntent.Owned walk ⟨batch, intent⟩ ∧ WalkedIntent.Timely floors walk ⟨batch, intent⟩) ∧
        result = walkStep floors registry walk ⟨batch, intent⟩ := by
  obtain ⟨scanCode, hscanCode⟩ := Option.isSome_iff_exists.mp hcode
  simp only [validateIntent, Except.bind_eq_ok, failIf_eq_ok, okOr_eq_ok, not_le, hslot,
    hscanCode, exists_const, true_and, Option.some.injEq, exists_eq_left']
  unfold WalkedIntent.Owned WalkedIntent.Timely walkStep
  cases hkind : batch.kind with
  | up =>
    simp only [validateUpIntent]
    cases hopen : walk.openBySlot intent.keySlot with
    | none =>
      simp only [Except.bind_eq_ok, failIf_eq_ok, Except.pure_eq_ok, not_not, exists_const,
        Option.map_none, Option.getD_none, Option.isSome_none, Bool.false_eq_true, if_false]
      exact ⟨fun h => ⟨⟨h.1.symm, by simp⟩, h.2.symm⟩, fun h => ⟨h.1.1.symm, h.2.symm⟩⟩
    | some active =>
      simp only [Except.bind_eq_ok, failIf_eq_ok, checkHold_eq_ok, Except.pure_eq_ok, not_not,
        exists_const, Option.map_some, Option.getD_some, Option.isSome_some, if_true]
      constructor
      · rintro ⟨howned, htimely, rfl⟩
        refine ⟨⟨howned, fun other hother => ?_⟩, rfl⟩
        obtain rfl := Option.some.inj hother
        exact htimely
      · rintro ⟨⟨howned, htimely⟩, rfl⟩
        exact ⟨howned, htimely active rfl, rfl⟩
  | down =>
    simp only [validateDownIntent, Except.bind_eq_ok, failIf_eq_ok, checkReleaseGap_eq_ok,
      Except.pure_eq_ok, exists_const, not_or, hscanCode, Option.getD_some]
    rw [Bool.not_eq_true, Option.isSome_eq_false_iff, Option.isNone_iff_eq_none]
    exact ⟨fun h => ⟨⟨h.1, h.2.1⟩, h.2.2.symm⟩, fun h => ⟨h.1.1, h.1.2, h.2.symm⟩⟩

/-- The batches of a packet. -/
def packetBatches (schedule : RuntimeSchedule) (packet : CompiledPacket) : List CompiledBatch :=
  (slice schedule.batches packet.firstBatchIndex packet.batchCount).getD []

/-- The elements of a batch. -/
def batchWalk (schedule : RuntimeSchedule) (batch : CompiledBatch) : List WalkedIntent :=
  ((schedule.intentSlice batch).getD []).map fun intent => ⟨batch, intent⟩

/-- The elements of the batches of one kind. -/
def kindWalk (schedule : RuntimeSchedule) (kind : ActionKind) (batches : List CompiledBatch) :
    List WalkedIntent :=
  (batches.filter (fun batch => batch.kind = kind)).flatMap (batchWalk schedule)

/-- The elements of a packet, releases first. -/
def packetWalk (schedule : RuntimeSchedule) (packet : CompiledPacket) : List WalkedIntent :=
  kindWalk schedule .up (packetBatches schedule packet) ++
    kindWalk schedule .down (packetBatches schedule packet)

/-- The elements of a schedule. -/
def scheduleWalk (schedule : RuntimeSchedule) : List WalkedIntent :=
  schedule.packets.flatMap (packetWalk schedule)

/-- When the walk admits an element. -/
def WalkAdmits (floors : TimingFloors) (walk : ValidationWalk) (walked : WalkedIntent) : Prop :=
  WalkedIntent.Owned walk walked ∧ WalkedIntent.Timely floors walk walked

/-- Batches whose ranges are readable and whose slots are known. -/
def ReadableBatches (schedule : RuntimeSchedule) (batches : List CompiledBatch) : Prop :=
  ∀ batch ∈ batches, ∃ intents, schedule.intentSlice batch = some intents ∧
    ∀ intent ∈ intents, intent.keySlot < maxKeys ∧
      (schedule.keyRegistry.scanCodeFor intent.keySlot).isSome = true

/-- A schedule whose ranges are readable and whose slots are known. -/
def RuntimeSchedule.Readable (schedule : RuntimeSchedule) : Prop :=
  ∀ packet ∈ schedule.packets, ∃ batches,
    slice schedule.batches packet.firstBatchIndex packet.batchCount = some batches ∧
    ReadableBatches schedule batches

variable {floors : TimingFloors} {schedule : RuntimeSchedule}

/-- A readable batch is walked exactly when its time converts and its elements are admitted. -/
theorem validateBatch_eq_ok {packetIndex : ℕ} {walk result : ValidationWalk}
    {batch : CompiledBatch} (hreadable : ReadableBatches schedule [batch]) :
    validateBatch floors schedule packetIndex walk batch = .ok result ↔
      (floors.microsecondsToTicks batch.scheduledUs).isSome = true ∧
      Guarded (WalkAdmits floors) (walkStep floors schedule.keyRegistry) walk
        (batchWalk schedule batch) ∧
      result = (batchWalk schedule batch).foldl (walkStep floors schedule.keyRegistry) walk := by
  obtain ⟨intents, hslice, hslots⟩ := hreadable batch (List.mem_singleton_self batch)
  have hwalk : batchWalk schedule batch = intents.map fun intent => ⟨batch, intent⟩ := by
    rw [batchWalk, hslice]
    rfl
  have hintents : ∀ {walk result : ValidationWalk},
      intents.foldlM (validateIntent floors schedule.keyRegistry packetIndex batch
        (floors.ticks batch.scheduledUs)) walk = .ok result ↔
      Guarded (fun walk intent => WalkAdmits floors walk ⟨batch, intent⟩)
        (fun walk intent => walkStep floors schedule.keyRegistry walk ⟨batch, intent⟩) walk
        intents ∧
      result = intents.foldl
        (fun walk intent => walkStep floors schedule.keyRegistry walk ⟨batch, intent⟩) walk := by
    intro walk result
    refine @foldlM_eq_ok_of_invariant _ _ _ _ _ _ (fun _ rest => ∀ intent ∈ rest,
      intent.keySlot < maxKeys ∧
        (schedule.keyRegistry.scanCodeFor intent.keySlot).isSome = true)
      (fun state intent rest h next => ?_) (fun state intent rest h _ => ?_) _ _ _ hslots
    · exact validateIntent_eq_ok (h intent List.mem_cons_self).1 (h intent List.mem_cons_self).2
    · exact fun other hother => h other (List.mem_cons_of_mem _ hother)
  rw [hwalk, guarded_map, List.foldl_map]
  simp only [validateBatch, Except.bind_eq_ok, okOr_eq_ok, hslice, Option.some.injEq,
    exists_eq_left']
  constructor
  · rintro ⟨batchTicks, hticks, hrun⟩
    have hsame : batchTicks = floors.ticks batch.scheduledUs := by
      rw [TimingFloors.ticks, hticks, Option.getD_some]
    rw [hsame] at hrun
    exact ⟨by rw [hticks]; rfl, hintents.mp hrun⟩
  · rintro ⟨hsome, hrun⟩
    obtain ⟨batchTicks, hticks⟩ := Option.isSome_iff_exists.mp hsome
    have hsame : batchTicks = floors.ticks batch.scheduledUs := by
      rw [TimingFloors.ticks, hticks, Option.getD_some]
    refine ⟨batchTicks, hticks, ?_⟩
    rw [hsame]
    exact hintents.mpr hrun

/-- Readable batches are walked exactly when their times convert and their elements are
admitted one after the other. -/
theorem validateBatches_eq_ok {packetIndex : ℕ} {walk result : ValidationWalk}
    {batches : List CompiledBatch} (hreadable : ReadableBatches schedule batches) :
    batches.foldlM (validateBatch floors schedule packetIndex) walk = .ok result ↔
      (∀ batch ∈ batches, (floors.microsecondsToTicks batch.scheduledUs).isSome = true) ∧
      Guarded (WalkAdmits floors) (walkStep floors schedule.keyRegistry) walk
        (batches.flatMap (batchWalk schedule)) ∧
      result = (batches.flatMap (batchWalk schedule)).foldl
        (walkStep floors schedule.keyRegistry) walk := by
  induction batches generalizing walk with
  | nil =>
    rw [List.foldlM_nil, Except.pure_eq_ok]
    exact ⟨fun h => ⟨nofun, trivial, h.symm⟩, fun h => h.2.2.symm⟩
  | cons batch rest ih =>
    have hbatch : ReadableBatches schedule [batch] := fun other hother => by
      rw [List.mem_singleton.mp hother]
      exact hreadable batch List.mem_cons_self
    have hrest : ReadableBatches schedule rest := fun other hother =>
      hreadable other (List.mem_cons_of_mem _ hother)
    rw [List.foldlM_cons, Except.bind_eq_ok, List.flatMap_cons, guarded_append, List.foldl_append,
      List.forall_mem_cons]
    constructor
    · rintro ⟨middle, hfirst, hthen⟩
      obtain ⟨htime, hguarded, rfl⟩ := (validateBatch_eq_ok hbatch).mp hfirst
      obtain ⟨htimes, hguardeds, rfl⟩ := (ih hrest).mp hthen
      exact ⟨⟨htime, htimes⟩, ⟨hguarded, hguardeds⟩, rfl⟩
    · rintro ⟨⟨htime, htimes⟩, ⟨hguarded, hguardeds⟩, rfl⟩
      exact ⟨_, (validateBatch_eq_ok hbatch).mpr ⟨htime, hguarded, rfl⟩,
        (ih hrest).mpr ⟨htimes, hguardeds, rfl⟩⟩

/-- Conditions on the batches of both kinds are conditions on all batches. -/
theorem forall_mem_kinds {batches : List CompiledBatch} {P : CompiledBatch → Prop} :
    ((∀ batch ∈ batches.filter (fun batch => batch.kind = .up), P batch) ∧
      ∀ batch ∈ batches.filter (fun batch => batch.kind = .down), P batch) ↔
      ∀ batch ∈ batches, P batch := by
  simp only [List.mem_filter, decide_eq_true_eq]
  refine ⟨fun h batch hbatch => ?_, fun h => ⟨fun batch hbatch => h batch hbatch.1,
    fun batch hbatch => h batch hbatch.1⟩⟩
  cases hkind : batch.kind with
  | up => exact h.1 batch ⟨hbatch, hkind⟩
  | down => exact h.2 batch ⟨hbatch, hkind⟩

/-- A readable packet is walked exactly when its times convert and its elements are admitted. -/
theorem validatePacket_eq_ok {walk result : ValidationWalk} {packet : CompiledPacket × ℕ}
    {batches : List CompiledBatch}
    (hslice : slice schedule.batches packet.1.firstBatchIndex packet.1.batchCount = some batches)
    (hreadable : ReadableBatches schedule batches) :
    validatePacket floors schedule walk packet = .ok result ↔
      (∀ batch ∈ packetBatches schedule packet.1,
        (floors.microsecondsToTicks batch.scheduledUs).isSome = true) ∧
      Guarded (WalkAdmits floors) (walkStep floors schedule.keyRegistry) walk
        (packetWalk schedule packet.1) ∧
      result = (packetWalk schedule packet.1).foldl
        (walkStep floors schedule.keyRegistry) walk := by
  have hbatches : packetBatches schedule packet.1 = batches := by
    rw [packetBatches, hslice]
    rfl
  have hkind : ∀ kind, ReadableBatches schedule
      (batches.filter (fun batch => batch.kind = kind)) := fun kind batch hbatch =>
    hreadable batch (List.mem_filter.mp hbatch).1
  rw [packetWalk, hbatches, ← forall_mem_kinds, guarded_append, List.foldl_append]
  simp only [validatePacket, Except.bind_eq_ok, okOr_eq_ok, hslice, Option.some.injEq,
    exists_eq_left', validateBatches_eq_ok (hkind .up), validateBatches_eq_ok (hkind .down)]
  constructor
  · rintro ⟨_, ⟨htimes, hguarded, rfl⟩, htimes', hguarded', rfl⟩
    exact ⟨⟨htimes, htimes'⟩, ⟨hguarded, hguarded'⟩, rfl⟩
  · rintro ⟨⟨htimes, htimes'⟩, ⟨hguarded, hguarded'⟩, rfl⟩
    exact ⟨_, ⟨htimes, hguarded, rfl⟩, htimes', hguarded', rfl⟩

/-- The end check passes when no press is open. -/
theorem rejectUnclosedPress_eq_ok {openBySlot : SlotTable ValidatedOpenGeneration} {done : Unit} :
    rejectUnclosedPress openBySlot = .ok done ↔ ∀ slot < maxKeys, openBySlot slot = none := by
  unfold rejectUnclosedPress
  split
  · rename_i hnone
    rw [List.findSome?_eq_none_iff] at hnone
    exact ⟨fun _ slot hslot => hnone slot (List.mem_range.mpr hslot), fun _ => rfl⟩
  · rename_i active hsome
    obtain ⟨slot, hslot, hopen⟩ := List.exists_of_findSome?_eq_some hsome
    refine ⟨nofun, fun h => ?_⟩
    rw [h slot (List.mem_range.mp hslot)] at hopen
    cases hopen

/-- The validator accepts a readable schedule exactly when its times fit and convert, its
elements are admitted one after the other, and no press is left open. -/
theorem validateFeasibility_eq_ok (hreadable : schedule.Readable) {done : Unit} :
    validateFeasibility floors schedule = .ok done ↔
      (schedule.batches.getLast?.map (·.scheduledUs)).getD 0 + floors.effectiveMinHoldUs <
        2 ^ 64 ∧
      (∀ packet ∈ schedule.packets, ∀ batch ∈ packetBatches schedule packet,
        (floors.microsecondsToTicks batch.scheduledUs).isSome = true) ∧
      Guarded (WalkAdmits floors) (walkStep floors schedule.keyRegistry)
        ValidationWalk.initial (scheduleWalk schedule) ∧
      ∀ slot < maxKeys, ((scheduleWalk schedule).foldl
        (walkStep floors schedule.keyRegistry) ValidationWalk.initial).openBySlot slot = none := by
  have hpackets : ∀ (packets : List CompiledPacket) (start : ℕ) (walk result : ValidationWalk),
      (∀ packet ∈ packets, packet ∈ schedule.packets) →
      ((packets.zipIdx start).foldlM (validatePacket floors schedule) walk = .ok result ↔
        (∀ packet ∈ packets, ∀ batch ∈ packetBatches schedule packet,
          (floors.microsecondsToTicks batch.scheduledUs).isSome = true) ∧
        Guarded (WalkAdmits floors) (walkStep floors schedule.keyRegistry) walk
          (packets.flatMap (packetWalk schedule)) ∧
        result = (packets.flatMap (packetWalk schedule)).foldl
          (walkStep floors schedule.keyRegistry) walk) := by
    intro packets
    induction packets with
    | nil =>
      intro start walk result _
      rw [List.zipIdx_nil, List.foldlM_nil, Except.pure_eq_ok]
      exact ⟨fun h => ⟨nofun, trivial, h.symm⟩, fun h => h.2.2.symm⟩
    | cons packet rest ih =>
      intro start walk result hmem
      obtain ⟨batches, hslice, hbatches⟩ := hreadable packet (hmem packet List.mem_cons_self)
      have hrest := fun middle => ih (start + 1) middle result
        fun other hother => hmem other (List.mem_cons_of_mem _ hother)
      rw [List.zipIdx_cons, List.foldlM_cons, Except.bind_eq_ok, List.flatMap_cons,
        guarded_append, List.foldl_append, List.forall_mem_cons]
      simp only [hrest, @validatePacket_eq_ok floors schedule _ _ (packet, start) batches hslice
        hbatches]
      constructor
      · rintro ⟨_, ⟨htimes, hguarded, rfl⟩, htimes', hguarded', rfl⟩
        exact ⟨⟨htimes, htimes'⟩, ⟨hguarded, hguarded'⟩, rfl⟩
      · rintro ⟨⟨htimes, htimes'⟩, ⟨hguarded, hguarded'⟩, rfl⟩
        exact ⟨_, ⟨htimes, hguarded, rfl⟩, htimes', hguarded', rfl⟩
  simp only [validateFeasibility, Except.bind_eq_ok, okOr_eq_ok, checkedAdd_eq_some,
    hpackets schedule.packets 0 _ _ (fun _ h => h), rejectUnclosedPress_eq_ok]
  constructor
  · rintro ⟨_, ⟨hfits, -⟩, _, ⟨htimes, hguarded, rfl⟩, hclosed⟩
    exact ⟨hfits, htimes, hguarded, hclosed⟩
  · rintro ⟨hfits, htimes, hguarded, hclosed⟩
    exact ⟨_, ⟨hfits, rfl⟩, _, ⟨htimes, hguarded, rfl⟩, hclosed⟩

end SkyAutoPlayer.DispatchCore
