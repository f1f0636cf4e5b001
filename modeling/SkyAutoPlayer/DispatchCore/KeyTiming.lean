import SkyAutoPlayer.DispatchCore.CompileAcceptance
import SkyAutoPlayer.DispatchCore.ScheduleInvariant

/-!
# The timing of one key

On a compiled schedule the validator's walk is a table of independent keys. Each key reads its
own events, remembers the time of its open press and of its last release, and asks that a
release comes after the hold and a press after the release gap. The validator accepts the
schedule exactly when every key does, and the times fit and convert.
-/

namespace SkyAutoPlayer.DispatchCore

open Foundation

/-- The time of a key's open press and of the last release that closed a press. -/
structure KeyTimeline where
  since : Option ℕ
  releasedAt : Option ℕ
  deriving DecidableEq, Repr

namespace KeyTimeline

/-- A key before its first event. -/
def initial : KeyTimeline := ⟨none, none⟩

/-- A release closes an open press; a press opens one. -/
def step (timeline : KeyTimeline) (event : KeyEvent) : KeyTimeline :=
  match event.kind with
  | .up => if timeline.since.isSome then ⟨none, some event.time⟩ else timeline
  | .down => { timeline with since := some event.time }

end KeyTimeline

/-- A release comes after the hold of its press, a press after the gap of the last release. -/
def KeyFeasible (floors : TimingFloors) (timeline : KeyTimeline) (event : KeyEvent) : Prop :=
  match event.kind with
  | .up => ∀ since ∈ timeline.since,
    floors.ticks since + floors.effectiveMinHoldTicks < 2 ^ 64 ∧
    floors.ticks since + floors.effectiveMinHoldTicks ≤ floors.ticks event.time
  | .down => 0 < floors.minReleaseGapUs → ∀ releasedAt ∈ timeline.releasedAt,
    floors.minReleaseGapTicks ≤ floors.ticks event.time - floors.ticks releasedAt

/-- All events of a key are feasible. -/
def FeasibleEvents (floors : TimingFloors) (events : List KeyEvent) : Prop :=
  Guarded (KeyFeasible floors) KeyTimeline.step KeyTimeline.initial events

/-- The event an element of the walk is for its key. -/
def WalkedIntent.event (walked : WalkedIntent) : KeyEvent :=
  ⟨walked.batch.scheduledUs, walked.batch.kind⟩

/-- The slot of an element of the walk. -/
def WalkedIntent.slot (walked : WalkedIntent) : ℕ := walked.intent.keySlot

variable {floors : TimingFloors} {registry : KeyRegistry}

/-- The walk's records and the timelines agree, key by key. -/
structure Tracks (floors : TimingFloors) (walk : ValidationWalk) (table : ℕ → KeyTimeline) :
    Prop where
  since : ∀ slot, (table slot).since = (walk.openBySlot slot).map (·.downScheduledUs)
  releasedAt : 0 < floors.minReleaseGapUs →
    ∀ slot, (table slot).releasedAt = (walk.lastReleaseBySlot slot).map (·.scheduledUs)
  openTicks : ∀ slot, ∀ active ∈ walk.openBySlot slot,
    active.downScheduledTicks = floors.ticks active.downScheduledUs
  releaseTicks : ∀ slot, ∀ previousUp ∈ walk.lastReleaseBySlot slot,
    previousUp.scheduledTicks = floors.ticks previousUp.scheduledUs

/-- Tracked records are timely exactly when their key's event is feasible. -/
theorem Tracks.timely_iff {walk : ValidationWalk} {table : ℕ → KeyTimeline}
    (h : Tracks floors walk table) (walked : WalkedIntent) :
    walked.Timely floors walk ↔ KeyFeasible floors (table walked.slot) walked.event := by
  unfold WalkedIntent.Timely KeyFeasible WalkedIntent.event WalkedIntent.slot
  dsimp only
  cases walked.batch.kind with
  | up =>
    dsimp only
    rw [h.since]
    have hticks := h.openTicks walked.intent.keySlot
    cases hopen : walk.openBySlot walked.intent.keySlot with
    | none => simp
    | some active =>
      rw [hopen] at hticks
      simp [hticks active rfl]
  | down =>
    dsimp only
    refine imp_congr_right fun hgap => ?_
    rw [h.releasedAt hgap]
    have hticks := h.releaseTicks walked.intent.keySlot
    cases hlast : walk.lastReleaseBySlot walked.intent.keySlot with
    | none => simp
    | some previousUp =>
      rw [hlast] at hticks
      simp [hticks previousUp rfl]

/-- A step of the walk is a step of the key it belongs to. -/
theorem Tracks.step {walk : ValidationWalk} {table : ℕ → KeyTimeline}
    (h : Tracks floors walk table) (walked : WalkedIntent) :
    Tracks floors (walkStep floors registry walk walked)
      (entryStep WalkedIntent.slot (fun timeline walked => timeline.step walked.event) table
        walked) := by
  have hsince := h.since walked.intent.keySlot
  unfold walkStep entryStep KeyTimeline.step WalkedIntent.event WalkedIntent.slot
  dsimp only
  cases hkind : walked.batch.kind with
  | up =>
    dsimp only
    cases hopen : walk.openBySlot walked.intent.keySlot with
    | none =>
      rw [hopen, Option.map_none] at hsince
      rw [hsince]
      simp only [Option.isSome_none, Bool.false_eq_true, if_false, Function.update_eq_self]
      exact h
    | some active =>
      rw [hopen, Option.map_some] at hsince
      rw [hsince]
      simp only [Option.isSome_some, if_true]
      constructor
      · intro slot
        by_cases hslot : slot = walked.intent.keySlot
        · subst hslot
          simp [ValidationWalk.release]
        · simp [ValidationWalk.release, hslot, h.since]
      · intro hgap slot
        by_cases hslot : slot = walked.intent.keySlot
        · subst hslot
          simp [ValidationWalk.release, hgap]
        · simp [ValidationWalk.release, hslot, hgap, h.releasedAt hgap]
      · intro slot other hother
        by_cases hslot : slot = walked.intent.keySlot
        · subst hslot
          simp [ValidationWalk.release] at hother
        · simp only [ValidationWalk.release, Function.update_of_ne hslot] at hother
          exact h.openTicks slot other hother
      · intro slot other hother
        simp only [ValidationWalk.release] at hother
        split at hother
        · by_cases hslot : slot = walked.intent.keySlot
          · subst hslot
            rw [Function.update_self] at hother
            obtain rfl := Option.some.inj hother
            rfl
          · rw [Function.update_of_ne hslot] at hother
            exact h.releaseTicks slot other hother
        · exact h.releaseTicks slot other hother
  | down =>
    dsimp only
    constructor
    · intro slot
      by_cases hslot : slot = walked.intent.keySlot
      · subst hslot
        simp [ValidationWalk.press]
      · simp [ValidationWalk.press, hslot, h.since]
    · intro hgap slot
      by_cases hslot : slot = walked.intent.keySlot
      · subst hslot
        simp [ValidationWalk.press, h.releasedAt hgap]
      · simp [ValidationWalk.press, hslot, h.releasedAt hgap]
    · intro slot other hother
      by_cases hslot : slot = walked.intent.keySlot
      · subst hslot
        simp only [ValidationWalk.press, Function.update_self] at hother
        obtain rfl := Option.some.inj hother
        rfl
      · simp only [ValidationWalk.press, Function.update_of_ne hslot] at hother
        exact h.openTicks slot other hother
    · exact h.releaseTicks

/-- A walk is timely exactly when the events of every slot are feasible. -/
theorem timely_iff_slots (walk : List WalkedIntent) :
    Guarded (fun state walked => WalkedIntent.Timely floors state walked)
        (walkStep floors registry) ValidationWalk.initial walk ↔
      ∀ slot, FeasibleEvents floors
        ((walk.filter (fun walked => walked.slot = slot)).map (·.event)) := by
  have hstart : Tracks floors ValidationWalk.initial (fun _ => KeyTimeline.initial) :=
    ⟨fun _ => rfl, fun _ _ => rfl, nofun, nofun⟩
  have hsimulation := @guarded_simulation _ _ _ _ (walkStep floors registry)
    (fun table walked => KeyFeasible floors (table walked.slot) walked.event) _ (Tracks floors)
    walk (fun state table htracks walked _ => htracks.timely_iff walked)
    (fun state table htracks walked _ => htracks.step walked) _ _ hstart
  rw [hsimulation, @guarded_pointwise _ _ _ _ WalkedIntent.slot
    (fun timeline walked => KeyFeasible floors timeline walked.event)]
  simp only [FeasibleEvents, guarded_map]

/-- The walk's open presses are the ledger's owners. -/
def HeldBy (ledger : PressLedger ℕ) (walk : ValidationWalk) : Prop :=
  ∀ slot, (walk.openBySlot slot).map (·.generationId) = ledger.owner slot

/-- Releases of distinct slots are owned when each names what its slot holds, and they free
exactly their slots. -/
theorem ups_owned {walk : ValidationWalk} {ups : List WalkedIntent}
    (hkind : ∀ walked ∈ ups, walked.batch.kind = .up) (hnodup : (ups.map (·.slot)).Nodup)
    (howned : ∀ walked ∈ ups, (walk.openBySlot walked.slot).map (·.generationId) =
      walked.intent.ownedGeneration) :
    Guarded WalkedIntent.Owned (walkStep floors registry) walk ups ∧
      ∀ slot, (ups.foldl (walkStep floors registry) walk).openBySlot slot =
        if slot ∈ ups.map (·.slot) then none else walk.openBySlot slot := by
  induction ups generalizing walk with
  | nil => exact ⟨trivial, fun _ => rfl⟩
  | cons walked rest ih =>
    obtain ⟨hfresh, hrestNodup⟩ := List.nodup_cons.mp hnodup
    have hup := hkind walked List.mem_cons_self
    have hown := howned walked List.mem_cons_self
    -- the release frees its slot and keeps the others
    have hopen : ∀ slot, (walkStep floors registry walk walked).openBySlot slot =
        if slot = walked.slot then none else walk.openBySlot slot := by
      intro slot
      simp only [walkStep, hup]
      by_cases hslot : slot = walked.slot
      · subst hslot
        rw [if_pos rfl]
        split
        · simp [ValidationWalk.release, WalkedIntent.slot]
        · rename_i hfree
          exact Option.not_isSome_iff_eq_none.mp hfree
      · rw [if_neg hslot]
        split
        · exact Function.update_of_ne hslot _ _
        · rfl
    have hrest := @ih (walkStep floors registry walk walked)
      (fun other hother => hkind other (List.mem_cons_of_mem _ hother)) hrestNodup
      (fun other hother => by
        have hne : other.slot ≠ walked.slot := fun heq =>
          hfresh (List.mem_map.mpr ⟨other, hother, heq⟩)
        rw [hopen, if_neg hne]
        exact howned other (List.mem_cons_of_mem _ hother))
    refine ⟨⟨?_, hrest.1⟩, fun slot => ?_⟩
    · unfold WalkedIntent.Owned
      rw [hup]
      dsimp only
      change (walk.openBySlot walked.slot).map (·.generationId) = _ at hown
      change ((walk.openBySlot walked.slot).map (·.generationId)).getD noGenerationId = _
      rw [hown]
      unfold CompactIntent.ownedGeneration
      split
      · rename_i heq
        exact heq.symm
      · rfl
    · rw [List.foldl_cons, hrest.2, hopen]
      by_cases hslot : slot = walked.slot
      · simp [hslot]
      · simp [hslot]

/-- Presses of distinct free slots are owned, and they open exactly their slots. -/
theorem downs_owned {walk : ValidationWalk} {downs : List WalkedIntent}
    (hkind : ∀ walked ∈ downs, walked.batch.kind = .down)
    (hnodup : (downs.map (·.slot)).Nodup)
    (hfree : ∀ walked ∈ downs, walked.intent.generationId ≠ noGenerationId ∧
      walk.openBySlot walked.slot = none) :
    Guarded WalkedIntent.Owned (walkStep floors registry) walk downs ∧
      (∀ walked ∈ downs, ((downs.foldl (walkStep floors registry) walk).openBySlot
        walked.slot).map (·.generationId) = some walked.intent.generationId) ∧
      ∀ slot ∉ downs.map (·.slot), (downs.foldl (walkStep floors registry) walk).openBySlot slot =
        walk.openBySlot slot := by
  induction downs generalizing walk with
  | nil => exact ⟨trivial, nofun, fun _ _ => rfl⟩
  | cons walked rest ih =>
    obtain ⟨hfresh, hrestNodup⟩ := List.nodup_cons.mp hnodup
    have hdown := hkind walked List.mem_cons_self
    have hopenOther : ∀ slot, slot ≠ walked.slot →
        (walkStep floors registry walk walked).openBySlot slot = walk.openBySlot slot := by
      intro slot hslot
      simp only [walkStep, hdown]
      exact Function.update_of_ne hslot _ _
    have hopenOwn : ((walkStep floors registry walk walked).openBySlot walked.slot).map
        (·.generationId) = some walked.intent.generationId := by
      simp [walkStep, hdown, ValidationWalk.press, WalkedIntent.slot]
    have hrest := @ih (walkStep floors registry walk walked)
      (fun other hother => hkind other (List.mem_cons_of_mem _ hother)) hrestNodup
      (fun other hother => by
        have hne : other.slot ≠ walked.slot := fun heq =>
          hfresh (List.mem_map.mpr ⟨other, hother, heq⟩)
        rw [hopenOther _ hne]
        exact hfree other (List.mem_cons_of_mem _ hother))
    refine ⟨⟨?_, hrest.1⟩, fun other hother => ?_, fun slot hslot => ?_⟩
    · unfold WalkedIntent.Owned
      rw [hdown]
      exact hfree walked List.mem_cons_self
    · rw [List.foldl_cons]
      rcases List.mem_cons.mp hother with rfl | hother
      · rw [hrest.2.2 _ hfresh]
        exact hopenOwn
      · exact hrest.2.1 other hother
    · rw [List.map_cons, List.mem_cons, not_or] at hslot
      rw [List.foldl_cons, hrest.2.2 slot hslot.2, hopenOther slot hslot.1]

/-- The elements of one kind carry the kind and refer to the batches' intents. -/
theorem kindWalk_spec (schedule : RuntimeSchedule) (kind : ActionKind)
    (batches : List CompiledBatch) :
    (kindWalk schedule kind batches).map (·.intent) =
        kindIntents schedule.intents kind batches ∧
      ∀ walked ∈ kindWalk schedule kind batches,
        walked.batch ∈ batches ∧ walked.batch.kind = kind := by
  constructor
  · rw [kindWalk, List.map_flatMap, kindIntents]
    refine List.flatMap_congr fun batch _ => ?_
    rw [batchWalk, List.map_map]
    exact List.map_id _
  · intro walked hwalked
    obtain ⟨batch, hbatch, hmem⟩ := List.mem_flatMap.mp hwalked
    obtain ⟨intent, -, rfl⟩ := List.mem_map.mp hmem
    obtain ⟨hbatches, hkind⟩ := List.mem_filter.mp hbatch
    exact ⟨hbatches, of_decide_eq_true hkind⟩

/-- The releases and presses of a sound packet, element by element. -/
theorem SoundPacket.walk {schedule : RuntimeSchedule} {packet : CompiledPacket}
    (h : SoundPacket schedule packet) : ∃ ups downs : List WalkedIntent,
    packetWalk schedule packet = ups ++ downs ∧
    ups.map (·.intent) = packetUps schedule.intents packet ∧
    downs.map (·.intent) = packetDowns schedule.intents packet ∧
    (∀ walked ∈ ups, walked.batch.kind = .up ∧ walked.batch.scheduledUs = packet.scheduledUs) ∧
    ∀ walked ∈ downs, walked.batch.kind = .down ∧
      walked.batch.scheduledUs = packet.scheduledUs := by
  obtain ⟨own, hown, -, htimes, hups, hdowns⟩ := h.batches
  have hbatches : packetBatches schedule packet = own := by
    rw [packetBatches, hown]
    rfl
  obtain ⟨hupIntents, hupKinds⟩ := kindWalk_spec schedule .up own
  obtain ⟨hdownIntents, hdownKinds⟩ := kindWalk_spec schedule .down own
  refine ⟨_, _, by rw [packetWalk, hbatches], hupIntents.trans hups, hdownIntents.trans hdowns,
    fun walked hwalked => ?_, fun walked hwalked => ?_⟩
  · exact ⟨(hupKinds walked hwalked).2, htimes _ (hupKinds walked hwalked).1⟩
  · exact ⟨(hdownKinds walked hwalked).2, htimes _ (hdownKinds walked hwalked).1⟩

/-- A packet that the ledger admits is owned, and the walk follows the ledger. -/
theorem packet_owned {schedule : RuntimeSchedule} {packet : CompiledPacket}
    {ledger : PressLedger ℕ} {walk : ValidationWalk} (hpacket : SoundPacket schedule packet)
    (hadmits : ledger.Admits (packetFrame schedule.intents packet))
    (hdowns : ∀ intent ∈ packetDowns schedule.intents packet,
      intent.generationId ≠ noGenerationId)
    (hheld : HeldBy ledger walk) :
    Guarded WalkedIntent.Owned (walkStep floors registry) walk (packetWalk schedule packet) ∧
      HeldBy (ledger.after (packetFrame schedule.intents packet))
        ((packetWalk schedule packet).foldl (walkStep floors registry) walk) := by
  obtain ⟨ups, downs, hwalk, hupIntents, hdownIntents, hupKinds, hdownKinds⟩ := hpacket.walk
  have hupSlots : ups.map (·.slot) =
      (packetFrame schedule.intents packet).ups.map Prod.fst := by
    rw [packetFrame, List.map_map, ← hupIntents, List.map_map]
    rfl
  have hdownSlots : downs.map (·.slot) =
      (packetFrame schedule.intents packet).downs.map Prod.fst := by
    rw [packetFrame, List.map_map, ← hdownIntents, List.map_map]
    rfl
  obtain ⟨hupOwned, hupOpen⟩ := @ups_owned floors registry walk ups
    (fun walked hwalked => (hupKinds walked hwalked).1)
    (by rw [hupSlots]; exact hadmits.ups_nodup)
    (fun walked hwalked => by
      rw [hheld]
      refine (hadmits.ups_owner (walked.slot, walked.intent.ownedGeneration) ?_).symm
      refine List.mem_map.mpr ⟨walked.intent, ?_, rfl⟩
      rw [← hupIntents]
      exact List.mem_map_of_mem hwalked)
  have hdownMem : ∀ walked ∈ downs, (walked.slot, walked.intent.generationId) ∈
      (packetFrame schedule.intents packet).downs := fun walked hwalked =>
    List.mem_map.mpr ⟨walked.intent, hdownIntents ▸ List.mem_map_of_mem hwalked, rfl⟩
  obtain ⟨hdownOwned, hdownOpen, hdownKeep⟩ := @downs_owned floors registry
    (ups.foldl (walkStep floors registry) walk) downs
    (fun walked hwalked => (hdownKinds walked hwalked).1)
    (by rw [hdownSlots]; exact hadmits.downs_nodup)
    (fun walked hwalked => by
      refine ⟨hdowns _ (hdownIntents ▸ List.mem_map_of_mem hwalked), ?_⟩
      have hfree := hadmits.downs_free _ (hdownMem walked hwalked)
      have hnone : walk.openBySlot walked.slot = none := by
        rw [← Option.map_eq_none_iff, hheld]
        exact hfree
      rw [hupOpen, hnone, ite_self])
  rw [hwalk, guarded_append, List.foldl_append]
  refine ⟨⟨hupOwned, hdownOwned⟩, fun slot => ?_⟩
  by_cases hdown : slot ∈ downs.map (·.slot)
  · obtain ⟨walked, hwalked, rfl⟩ := List.mem_map.mp hdown
    rw [hdownOpen walked hwalked, PressLedger.after_owner_of_mem hadmits
      (hdownMem walked hwalked)]
  · rw [hdownKeep slot hdown, hupOpen, PressLedger.after_owner_of_notMem (hdownSlots ▸ hdown),
      ← hupSlots, ← hheld]
    split <;> rfl

/-- The walk of a sound schedule is owned, and ends with no press open. -/
theorem RuntimeSchedule.Sound.walk_owned {schedule : RuntimeSchedule} (h : schedule.Sound) :
    Guarded WalkedIntent.Owned (walkStep floors registry) ValidationWalk.initial
        (scheduleWalk schedule) ∧
      ∀ slot, ((scheduleWalk schedule).foldl (walkStep floors registry)
        ValidationWalk.initial).openBySlot slot = none := by
  have hpackets : ∀ packets : List CompiledPacket, (∀ packet ∈ packets,
      packet ∈ schedule.packets) →
      PressLedger.Coherent (packets.map (packetFrame schedule.intents)) →
      Guarded WalkedIntent.Owned (walkStep floors registry) ValidationWalk.initial
        (packets.flatMap (packetWalk schedule)) ∧
      HeldBy (PressLedger.ofFrames (packets.map (packetFrame schedule.intents)))
        ((packets.flatMap (packetWalk schedule)).foldl (walkStep floors registry)
          ValidationWalk.initial) := by
    intro packets
    induction packets using List.reverseRecOn with
    | nil => exact fun _ _ => ⟨trivial, fun _ => rfl⟩
    | append_singleton packets packet ih =>
      intro hmem hcoherent
      rw [List.map_append, List.map_singleton, PressLedger.coherent_concat] at hcoherent
      obtain ⟨howned, hheld⟩ :=
        ih (fun other hother => hmem other (List.mem_append_left _ hother)) hcoherent.1
      have hlast : packet ∈ schedule.packets := hmem packet (by simp)
      obtain ⟨hown, hafter⟩ := @packet_owned floors registry schedule packet _ _
        (h.packets packet hlast) hcoherent.2
        (fun intent hintent => h.ne_noGenerationId (h.down_lt hlast hintent)) hheld
      rw [List.flatMap_append, List.flatMap_singleton, guarded_append, List.foldl_append,
        List.map_append, List.map_singleton, PressLedger.ofFrames_concat]
      exact ⟨⟨howned, hown⟩, hafter⟩
  obtain ⟨howned, hheld⟩ := hpackets schedule.packets (fun _ hmem => hmem) h.coherent
  refine ⟨howned, fun slot => ?_⟩
  have hclosed := hheld slot
  have hnone := h.closed slot
  rw [RuntimeSchedule.frames] at hnone
  rw [hnone, Option.map_eq_none_iff] at hclosed
  exact hclosed

/-- The validator accepts a sound schedule exactly when its times fit and convert and the
events of every slot are feasible. -/
theorem validateFeasibility_sound {schedule : RuntimeSchedule} (h : schedule.Sound)
    {done : Unit} : validateFeasibility floors schedule = .ok done ↔
      (schedule.batches.getLast?.map (·.scheduledUs)).getD 0 + floors.effectiveMinHoldUs <
        2 ^ 64 ∧
      (∀ packet ∈ schedule.packets, ∀ batch ∈ packetBatches schedule packet,
        (floors.microsecondsToTicks batch.scheduledUs).isSome = true) ∧
      ∀ slot, FeasibleEvents floors
        (((scheduleWalk schedule).filter (fun walked => walked.slot = slot)).map (·.event)) := by
  obtain ⟨howned, hclosed⟩ := @RuntimeSchedule.Sound.walk_owned floors schedule.keyRegistry
    schedule h
  rw [validateFeasibility_eq_ok h.readable]
  have hguarded : Guarded (WalkAdmits floors) (walkStep floors schedule.keyRegistry)
      ValidationWalk.initial (scheduleWalk schedule) ↔ ∀ slot, FeasibleEvents floors
        (((scheduleWalk schedule).filter (fun walked => walked.slot = slot)).map (·.event)) := by
    rw [← @timely_iff_slots floors schedule.keyRegistry]
    exact guarded_and.trans ⟨fun hboth => hboth.2, fun htimely => ⟨howned, htimely⟩⟩
  rw [hguarded]
  exact ⟨fun hall => ⟨hall.1, hall.2.1, hall.2.2.1⟩,
    fun hall => ⟨hall.1, hall.2.1, hall.2.2, fun slot _ => hclosed slot⟩⟩

end SkyAutoPlayer.DispatchCore
