import Mathlib.Data.List.Forall2
import SkyAutoPlayer.DispatchCore.CompiledLayout
import SkyAutoPlayer.Foundation.PressLedger

/-!
# The compiled schedule re-encodes its input

A laid-out schedule is described group by group: each authored action has its batch, each group
its packet, and the packet's intent ranges hold exactly the group's slots. The ranges of the
arenas follow each other without gaps, and read as press frames the packets form a coherent
stream: every generation is pressed once and released once, in a strictly later packet.
-/

namespace SkyAutoPlayer.DispatchCore

open Foundation

/-- The Up intents of a packet. -/
def packetUps (intents : List CompactIntent) (packet : CompiledPacket) : List CompactIntent :=
  (slice intents packet.upIntentStart packet.upIntentLen).getD []

/-- The Down intents of a packet. -/
def packetDowns (intents : List CompactIntent) (packet : CompiledPacket) : List CompactIntent :=
  (slice intents packet.downIntentStart packet.downIntentLen).getD []

/-- The generation of an intent that has one. -/
def CompactIntent.ownedGeneration (intent : CompactIntent) : Option ℕ :=
  if intent.generationId = noGenerationId then none else some intent.generationId

/-- A packet as a frame of a press stream: slots with the generations they close or open. -/
def packetFrame (intents : List CompactIntent) (packet : CompiledPacket) : PressFrame ℕ where
  ups := (packetUps intents packet).map fun intent => (intent.keySlot, intent.ownedGeneration)
  downs := (packetDowns intents packet).map fun intent => (intent.keySlot, intent.generationId)

/-- The press stream of a schedule. -/
def RuntimeSchedule.frames (schedule : RuntimeSchedule) : List (PressFrame ℕ) :=
  schedule.packets.map (packetFrame schedule.intents)

/-- A batch re-encodes an authored action: its kind, time, index, reason and slots. -/
structure EncodesAction (registry : KeyRegistry) (intents : List CompactIntent)
    (reasonTable : List String) (action : KeyActionInput) (batch : CompiledBatch) : Prop where
  kind : batch.kind = action.kind
  scheduledUs : batch.scheduledUs = action.scheduledUs
  sourceActionIndex : batch.sourceActionIndex = action.sourceActionIndex
  reason : reasonTable[batch.reasonId]? = some action.reason
  intents : ∃ part, slice intents batch.intentStart batch.intentLen = some part ∧
    part.map (·.keySlot) = actionSlots registry action

/-- The intents the batches of one kind refer to, batch by batch. -/
def kindIntents (intents : List CompactIntent) (kind : ActionKind)
    (batches : List CompiledBatch) : List CompactIntent :=
  (batches.filter (fun batch => batch.kind = kind)).flatMap fun batch =>
    (slice intents batch.intentStart batch.intentLen).getD []

/-- A packet re-encodes a group: its time, its batches, its slots and its masks. -/
structure EncodesGroup (registry : KeyRegistry) (intents : List CompactIntent)
    (reasonTable : List String) (batches : List CompiledBatch) (group : List KeyActionInput)
    (packet : CompiledPacket) : Prop where
  scheduledUs : ∀ action ∈ group, packet.scheduledUs = action.scheduledUs
  batches : ∃ own, slice batches packet.firstBatchIndex packet.batchCount = some own ∧
    List.Forall₂ (EncodesAction registry intents reasonTable) group own ∧
    (∀ batch ∈ own, batch.packetId = packet.packetId) ∧
    kindIntents intents .up own = packetUps intents packet ∧
    kindIntents intents .down own = packetDowns intents packet
  ups : ∃ ups, slice intents packet.upIntentStart packet.upIntentLen = some ups ∧
    ups.map (·.keySlot) = upSlots registry group
  downs : ∃ downs, slice intents packet.downIntentStart packet.downIntentLen = some downs ∧
    downs.map (·.keySlot) = downSlots registry group
  upMask : packet.upMask = maskOf 16 ((packetUps intents packet).filter
    (fun intent => intent.ownedGeneration.isSome) |>.map (·.keySlot))
  downMask : packet.downMask = maskOf 16 ((packetDowns intents packet).map (·.keySlot))

/-- The description of a laid-out compiler state. -/
structure Laid (registry : KeyRegistry) (groups : List (List KeyActionInput))
    (state : CompilerState) : Prop where
  actions : List.Forall₂ (EncodesAction registry state.intents state.reasonTable)
    groups.flatten state.batches
  packets : List.Forall₂
    (EncodesGroup registry state.intents state.reasonTable state.batches) groups state.packets
  packetIds : state.packets.map (·.packetId) = List.range groups.length
  batchRanges : Tiles 0 (state.packets.map fun packet =>
    (packet.firstBatchIndex, packet.batchCount)) state.batches.length
  intentRanges : Tiles 0 (state.packets.flatMap fun packet =>
    [(packet.upIntentStart, packet.upIntentLen), (packet.downIntentStart, packet.downIntentLen)])
    state.intents.length
  coherent : PressLedger.Coherent (state.packets.map (packetFrame state.intents))
  owner : ∀ slot, (PressLedger.ofFrames (state.packets.map (packetFrame state.intents))).owner
    slot = (state.openGenerationBySlot slot).map (·.generationId)
  next : (PressLedger.ofFrames (state.packets.map (packetFrame state.intents))).next =
    state.nextGenerationId

variable {registry : KeyRegistry}

/-- Growing the arenas keeps a batch's encoding. -/
theorem EncodesAction.append {intents : List CompactIntent} {reasons : List String}
    {action : KeyActionInput} {batch : CompiledBatch}
    (h : EncodesAction registry intents reasons action batch) (more : List CompactIntent)
    {reasons' : List String} (hreasons : reasons <+: reasons') :
    EncodesAction registry (intents ++ more) reasons' action batch where
  kind := h.kind
  scheduledUs := h.scheduledUs
  sourceActionIndex := h.sourceActionIndex
  reason := by
    obtain ⟨rest, rfl⟩ := hreasons
    obtain ⟨hlt, -⟩ := List.getElem?_eq_some_iff.mp h.reason
    rw [List.getElem?_append_left hlt, h.reason]
  intents := by
    obtain ⟨part, hpart, hslots⟩ := h.intents
    exact ⟨part, slice_append hpart more, hslots⟩

/-- Growing the intents keeps a slice read with a default. -/
theorem slice_getD_append {α : Type} {list part : List α} {start len : ℕ}
    (h : slice list start len = some part) (more : List α) :
    (slice (list ++ more) start len).getD [] = (slice list start len).getD [] := by
  rw [slice_append h, h]

/-- Growing the intents keeps a packet's frame, when its ranges are inside. -/
theorem packetFrame_append {intents : List CompactIntent} {packet : CompiledPacket}
    {ups downs : List CompactIntent}
    (hups : slice intents packet.upIntentStart packet.upIntentLen = some ups)
    (hdowns : slice intents packet.downIntentStart packet.downIntentLen = some downs)
    (more : List CompactIntent) :
    packetUps (intents ++ more) packet = packetUps intents packet ∧
      packetDowns (intents ++ more) packet = packetDowns intents packet ∧
      packetFrame (intents ++ more) packet = packetFrame intents packet := by
  have hupsEq : packetUps (intents ++ more) packet = packetUps intents packet :=
    slice_getD_append hups more
  have hdownsEq : packetDowns (intents ++ more) packet = packetDowns intents packet :=
    slice_getD_append hdowns more
  exact ⟨hupsEq, hdownsEq, by rw [packetFrame, hupsEq, hdownsEq, packetFrame]⟩

/-- Batches that encode actions read the same intents from a larger arena. -/
theorem kindIntents_append {intents : List CompactIntent} {reasons : List String}
    {actions : List KeyActionInput} {batches : List CompiledBatch}
    (h : List.Forall₂ (EncodesAction registry intents reasons) actions batches)
    (kind : ActionKind) (more : List CompactIntent) :
    kindIntents (intents ++ more) kind batches = kindIntents intents kind batches := by
  unfold kindIntents
  rw [List.flatMap_def, List.flatMap_def]
  congr 1
  refine List.map_congr_left fun batch hbatch => ?_
  obtain ⟨index, hget⟩ := List.mem_iff_getElem?.mp (List.mem_filter.mp hbatch).1
  obtain ⟨action, -, hencodes⟩ := exists_of_forall₂ h hget
  obtain ⟨part, hpart, -⟩ := hencodes.intents
  exact slice_getD_append hpart more

/-- Growing the arenas keeps a packet's encoding. -/
theorem EncodesGroup.append {intents : List CompactIntent} {reasons : List String}
    {batches : List CompiledBatch} {group : List KeyActionInput} {packet : CompiledPacket}
    (h : EncodesGroup registry intents reasons batches group packet)
    (moreIntents : List CompactIntent) (moreBatches : List CompiledBatch)
    {reasons' : List String} (hreasons : reasons <+: reasons') :
    EncodesGroup registry (intents ++ moreIntents) reasons' (batches ++ moreBatches) group
      packet := by
  obtain ⟨ups, hups, hupSlots⟩ := h.ups
  obtain ⟨downs, hdowns, hdownSlots⟩ := h.downs
  obtain ⟨hupsEq, hdownsEq, -⟩ := packetFrame_append hups hdowns moreIntents
  obtain ⟨own, hown, hencodes, hids, hupOwn, hdownOwn⟩ := h.batches
  refine
    { scheduledUs := h.scheduledUs
      batches := ⟨own, slice_append hown moreBatches,
        hencodes.imp fun _ _ haction => haction.append moreIntents hreasons, hids, ?_, ?_⟩
      ups := ⟨ups, slice_append hups moreIntents, hupSlots⟩
      downs := ⟨downs, slice_append hdowns moreIntents, hdownSlots⟩
      upMask := ?_
      downMask := ?_ }
  · rw [kindIntents_append hencodes, hupsEq, hupOwn]
  · rw [kindIntents_append hencodes, hdownsEq, hdownOwn]
  · rw [hupsEq]
    exact h.upMask
  · rw [hdownsEq]
    exact h.downMask

/-- Actions of a kind at the head of a group. -/
theorem filter_kind_cons (kind : ActionKind) (action : KeyActionInput)
    (rest : List KeyActionInput) :
    (action :: rest).filter (fun action => action.kind = kind) =
      if action.kind = kind then
        action :: rest.filter (fun action => action.kind = kind)
      else rest.filter (fun action => action.kind = kind) := by
  rw [List.filter_cons]
  simp only [decide_eq_true_eq]

/-- A batch placed at its intents reads exactly them. -/
theorem actionBatch_encodes {packetId : ℕ} {reasons : List String} {action : KeyActionInput}
    {before part rest : List CompactIntent} (hreason : action.reason ∈ reasons)
    (hslots : part.map (·.keySlot) = actionSlots registry action) :
    slice (before ++ part ++ rest) before.length action.scanCodes.length = some part ∧
    EncodesAction registry (before ++ part ++ rest) reasons action
      (actionBatch packetId action (reasons.idxOf action.reason) before.length) := by
  have hlength : part.length = action.scanCodes.length := by
    have hmap := congrArg List.length hslots
    rwa [List.length_map, actionSlots_length] at hmap
  have hslice : slice (before ++ part ++ rest) before.length action.scanCodes.length =
      some part := by
    rw [← hlength]
    exact slice_middle before part rest
  exact ⟨hslice, ⟨rfl, rfl, rfl, List.getElem?_idxOf hreason, part, hslice, hslots⟩⟩

/-- The batches of a group, placed at its Up and Down intents, encode its actions in order and
together read exactly those intents. -/
theorem placeBatches_encodes {packetId : ℕ} {reasons : List String}
    {group : List KeyActionInput} (hreasons : ∀ action ∈ group, action.reason ∈ reasons)
    {intents beforeUps ups afterUps beforeDowns downs afterDowns : List CompactIntent}
    (hintents : intents = beforeUps ++ ups ++ afterUps)
    (hups : ups.map (·.keySlot) = upSlots registry group)
    (hintents' : intents = beforeDowns ++ downs ++ afterDowns)
    (hdowns : downs.map (·.keySlot) = downSlots registry group) :
    List.Forall₂ (EncodesAction registry intents reasons) group
      (placeBatches packetId reasons beforeUps.length beforeDowns.length group) ∧
    (∀ batch ∈ placeBatches packetId reasons beforeUps.length beforeDowns.length group,
      batch.packetId = packetId) ∧
    kindIntents intents .up
      (placeBatches packetId reasons beforeUps.length beforeDowns.length group) = ups ∧
    kindIntents intents .down
      (placeBatches packetId reasons beforeUps.length beforeDowns.length group) = downs := by
  induction group generalizing beforeUps ups beforeDowns downs with
  | nil =>
    have hupsNil : ups = [] := List.map_eq_nil_iff.mp hups
    have hdownsNil : downs = [] := List.map_eq_nil_iff.mp hdowns
    exact ⟨List.Forall₂.nil, nofun, by rw [hupsNil]; rfl, by rw [hdownsNil]; rfl⟩
  | cons action rest ih =>
    have hreason := hreasons action List.mem_cons_self
    have hrest : ∀ other ∈ rest, other.reason ∈ reasons := fun other hother =>
      hreasons other (List.mem_cons_of_mem _ hother)
    cases hkind : action.kind with
    | up =>
      rw [upSlots, filter_kind_cons, if_pos hkind, slotsOf_cons] at hups
      rw [downSlots, filter_kind_cons, if_neg (by rw [hkind]; decide)] at hdowns
      obtain ⟨own, others, rfl, hown, hothers⟩ := List.map_eq_append_iff.mp hups
      have hshape : intents = beforeUps ++ own ++ (others ++ afterUps) := by
        rw [hintents]
        simp only [List.append_assoc]
      obtain ⟨hslice, hencodes⟩ := @actionBatch_encodes registry packetId reasons action
        beforeUps own (others ++ afterUps) hreason hown
      rw [← hshape] at hslice hencodes
      have hlength : own.length = action.scanCodes.length := by
        have hmap := congrArg List.length hown
        rwa [List.length_map, actionSlots_length] at hmap
      obtain ⟨hall, hids, hupOwn, hdownOwn⟩ := @ih hrest (beforeUps ++ own) others beforeDowns
        downs (by rw [hshape]; simp only [List.append_assoc]) hothers hintents' hdowns
      rw [List.length_append, hlength] at hall hids hupOwn hdownOwn
      simp only [placeBatches, hkind]
      refine ⟨List.Forall₂.cons hencodes hall, List.forall_mem_cons.mpr ⟨rfl, hids⟩, ?_, ?_⟩
      · rw [kindIntents, List.filter_cons_of_pos (by simp [actionBatch, hkind]),
          List.flatMap_cons]
        change (slice intents beforeUps.length action.scanCodes.length).getD [] ++
          kindIntents intents .up _ = _
        rw [hslice, hupOwn]
        rfl
      · rw [kindIntents, List.filter_cons_of_neg (by simp [actionBatch, hkind])]
        exact hdownOwn
    | down =>
      rw [upSlots, filter_kind_cons, if_neg (by rw [hkind]; decide)] at hups
      rw [downSlots, filter_kind_cons, if_pos hkind, slotsOf_cons] at hdowns
      obtain ⟨own, others, rfl, hown, hothers⟩ := List.map_eq_append_iff.mp hdowns
      have hshape : intents = beforeDowns ++ own ++ (others ++ afterDowns) := by
        rw [hintents']
        simp only [List.append_assoc]
      obtain ⟨hslice, hencodes⟩ := @actionBatch_encodes registry packetId reasons action
        beforeDowns own (others ++ afterDowns) hreason hown
      rw [← hshape] at hslice hencodes
      have hlength : own.length = action.scanCodes.length := by
        have hmap := congrArg List.length hown
        rwa [List.length_map, actionSlots_length] at hmap
      obtain ⟨hall, hids, hupOwn, hdownOwn⟩ := @ih hrest beforeUps ups (beforeDowns ++ own)
        others hintents hups (by rw [hshape]; simp only [List.append_assoc]) hothers
      rw [List.length_append, hlength] at hall hids hupOwn hdownOwn
      simp only [placeBatches, hkind]
      refine ⟨List.Forall₂.cons hencodes hall, List.forall_mem_cons.mpr ⟨rfl, hids⟩, ?_, ?_⟩
      · rw [kindIntents, List.filter_cons_of_neg (by simp [actionBatch, hkind])]
        exact hupOwn
      · rw [kindIntents, List.filter_cons_of_pos (by simp [actionBatch, hkind]),
          List.flatMap_cons]
        change (slice intents beforeDowns.length action.scanCodes.length).getD [] ++
          kindIntents intents .down _ = _
        rw [hslice, hdownOwn]
        rfl

/-- The generations of an admitted state fit into intents. -/
structure Representable (state : CompilerState) (pressed : ℕ) : Prop where
  held : ∀ slot first, state.openGenerationBySlot slot = some first →
    first.generationId ≤ maxCompactGenerationId
  room : state.nextGenerationId + pressed ≤ maxCompactGenerationId

/-- A representable generation is not the sentinel. -/
theorem ne_noGenerationId {generationId : ℕ} (h : generationId ≤ maxCompactGenerationId) :
    generationId ≠ noGenerationId := by
  unfold maxCompactGenerationId at h
  unfold noGenerationId
  omega

/-- A release intent names its slot and the generation that holds it. -/
theorem upIntent_spec {state : CompilerState} {pressed : ℕ} (hstate : Representable state pressed)
    {slot : ℕ} (hslot : slot < maxKeys) :
    (upIntent state.openGenerationBySlot slot).keySlot = slot ∧
      (upIntent state.openGenerationBySlot slot).ownedGeneration =
        (state.openGenerationBySlot slot).map (·.generationId) := by
  have hlt : slot < 16 := by
    rw [maxKeys] at hslot
    omega
  refine ⟨CompactIntent.keySlot_new hlt, ?_⟩
  unfold CompactIntent.ownedGeneration upIntent
  cases hopen : state.openGenerationBySlot slot with
  | none => simp [CompactIntent.generationId_new hlt (Or.inr rfl)]
  | some first =>
    have hle := hstate.held slot first hopen
    simp [CompactIntent.generationId_new hlt (Or.inl hle), ne_noGenerationId hle]

/-- The frame of a laid-out group: its releases with the generations that hold their slots, and
its presses with consecutive new generations. -/
theorem groupPacket_frame {state : CompilerState} {group : List KeyActionInput}
    (hups : ∀ slot ∈ upSlots registry group, slot < maxKeys)
    (hdowns : ∀ slot ∈ downSlots registry group, slot < maxKeys)
    (hstate : Representable state (downSlots registry group).length)
    {intents : List CompactIntent} (hintents : intents =
      state.intents ++ groupUpIntents registry state group ++
        groupDownIntents registry state group) :
    packetUps intents (groupPacket registry state group) =
        groupUpIntents registry state group ∧
      packetDowns intents (groupPacket registry state group) =
        groupDownIntents registry state group ∧
      packetFrame intents (groupPacket registry state group) =
        ⟨(upSlots registry group).map fun slot =>
            (slot, (state.openGenerationBySlot slot).map (·.generationId)),
          (downSlots registry group).zipIdx state.nextGenerationId⟩ := by
  have hupLength : (groupUpIntents registry state group).length =
      (upSlots registry group).length := List.length_map _
  have hdownLength : (groupDownIntents registry state group).length =
      (downSlots registry group).length := by
    rw [groupDownIntents, List.length_map, List.length_zipIdx]
  have hupsEq : packetUps intents (groupPacket registry state group) =
      groupUpIntents registry state group := by
    rw [packetUps, hintents, groupPacket, ← hupLength, slice_middle]
    rfl
  have hdownsEq : packetDowns intents (groupPacket registry state group) =
      groupDownIntents registry state group := by
    have hslice := slice_middle (state.intents ++ groupUpIntents registry state group)
      (groupDownIntents registry state group) []
    rw [List.append_nil, List.length_append, hupLength, hdownLength] at hslice
    rw [packetDowns, hintents, groupPacket, hslice]
    rfl
  refine ⟨hupsEq, hdownsEq, ?_⟩
  rw [packetFrame, hupsEq, hdownsEq]
  congr 1
  · rw [groupUpIntents, List.map_map]
    refine List.map_congr_left fun slot hslot => ?_
    obtain ⟨hkey, howned⟩ := upIntent_spec hstate (hups slot hslot)
    exact Prod.ext hkey howned
  · rw [groupDownIntents, List.map_map]
    refine (List.map_congr_left fun press hpress => ?_).trans (List.map_id _)
    obtain ⟨slot, generation⟩ := press
    obtain ⟨hle, hlt, heq⟩ := List.mem_zipIdx hpress
    have hslot : slot < 16 := by
      have hlt' := hdowns slot (heq ▸ List.getElem_mem _)
      rw [maxKeys] at hlt'
      omega
    have hbound : generation ≤ maxCompactGenerationId := by
      have hroom := hstate.room
      omega
    exact Prod.ext (CompactIntent.keySlot_new hslot)
      (CompactIntent.generationId_new hslot (Or.inl hbound))

/-- A pressed slot carries the generation of its place among the group's presses. -/
theorem mem_zipIdx_idxOf {slots : List ℕ} {slot start : ℕ} (h : slot ∈ slots) :
    (slot, start + slots.idxOf slot) ∈ slots.zipIdx start := by
  rw [List.mem_iff_getElem?]
  refine ⟨slots.idxOf slot, ?_⟩
  rw [List.getElem?_zipIdx, List.getElem?_idxOf h]
  rfl

/-- The released keys of a group's frame are the group's Up slots. -/
theorem releases_fst (state : CompilerState) (slots : List ℕ) :
    (slots.map fun slot =>
      (slot, (state.openGenerationBySlot slot).map (·.generationId))).map Prod.fst = slots := by
  rw [List.map_map]
  exact List.map_id _

/-- The ledger admits the frame of an admitted group. -/
theorem GroupAdmits.ledger_admits {state : CompilerState} {group : List KeyActionInput}
    (h : GroupAdmits registry state group) (hnodup : (downSlots registry group).Nodup)
    {ledger : PressLedger ℕ}
    (howner : ∀ slot, ledger.owner slot =
      (state.openGenerationBySlot slot).map (·.generationId))
    (hnext : ledger.next = state.nextGenerationId) :
    ledger.Admits ⟨(upSlots registry group).map fun slot =>
        (slot, (state.openGenerationBySlot slot).map (·.generationId)),
      (downSlots registry group).zipIdx state.nextGenerationId⟩ where
  ups_nodup := by
    rw [releases_fst]
    exact h.ups_nodup
  ups_owner := by
    intro up hup
    obtain ⟨slot, -, rfl⟩ := List.mem_map.mp hup
    exact (howner slot).symm
  downs_nodup := by
    rw [List.zipIdx_map_fst]
    exact hnodup
  downs_free := by
    rintro ⟨slot, generation⟩ hdown
    obtain ⟨-, -, heq⟩ := List.mem_zipIdx hdown
    have hslot : slot ∈ downSlots registry group := heq ▸ List.getElem_mem _
    rw [howner, h.downs_free slot hslot]
    rfl
  downs_fresh := by
    rw [List.zipIdx_map_snd, hnext, List.length_zipIdx]

/-- The ledger after an admitted group follows the compiler's open generations. -/
theorem GroupAdmits.ledger_after {state : CompilerState} {group : List KeyActionInput}
    (h : GroupAdmits registry state group) (hnodup : (downSlots registry group).Nodup)
    {ledger : PressLedger ℕ}
    (howner : ∀ slot, ledger.owner slot =
      (state.openGenerationBySlot slot).map (·.generationId))
    (hnext : ledger.next = state.nextGenerationId) (slot : ℕ) :
    (ledger.after ⟨(upSlots registry group).map fun slot =>
        (slot, (state.openGenerationBySlot slot).map (·.generationId)),
      (downSlots registry group).zipIdx state.nextGenerationId⟩).owner slot =
    ((layoutGroup registry state group).openGenerationBySlot slot).map (·.generationId) := by
  have hadmits := h.ledger_admits hnodup howner hnext
  have hfst : ((downSlots registry group).zipIdx state.nextGenerationId).map Prod.fst =
      downSlots registry group := List.zipIdx_map_fst _ _
  by_cases hdown : slot ∈ downSlots registry group
  · rw [PressLedger.after_owner_of_mem hadmits (mem_zipIdx_idxOf hdown)]
    have hsome : ∃ action, (scanned state group).downAction = some action := by
      rw [downSlots, h.downAction] at hdown
      cases hnone : (scanned state group).downAction with
      | none =>
        rw [hnone] at hdown
        cases hdown
      | some action => exact ⟨action, rfl⟩
    obtain ⟨action, haction⟩ := hsome
    simp only [layoutGroup, if_pos hdown, haction, Option.map_some]
  · rw [PressLedger.after_owner_of_notMem (by rwa [hfst]), releases_fst, howner]
    simp only [layoutGroup, if_neg hdown]
    split <;> rfl

/-- The compiler's initial state is laid out. -/
theorem laid_initial : Laid registry [] CompilerState.initial where
  actions := List.Forall₂.nil
  packets := List.Forall₂.nil
  packetIds := rfl
  batchRanges := rfl
  intentRanges := rfl
  coherent := PressLedger.coherent_nil
  owner _ := rfl
  next := rfl

/-- A laid-out state with room represents its generations. -/
theorem Laid.representable {groups : List (List KeyActionInput)} {state : CompilerState}
    (h : Laid registry groups state) {group : List KeyActionInput} {later : ℕ}
    (hroom : Roomy state (group.length + later))
    (hscan : Guarded (ScanAdmits registry) scanStep (startScan state) group) :
    Representable state (downSlots registry group).length := by
  have hgenerations := hroom.generations
  have hslots := GroupAdmits.slots_le hscan
  refine ⟨fun slot first hfirst => ?_, ?_⟩
  · have hheld := h.owner slot
    rw [hfirst] at hheld
    have hlt := h.coherent.owner_lt hheld
    rw [h.next] at hlt
    simp only [maxActions, maxKeys, maxCompactGenerationId] at *
    omega
  · simp only [maxActions, maxKeys, maxCompactGenerationId] at *
    omega

/-- The mask of a group's owned releases. -/
theorem groupPacket_upMask {state : CompilerState} {group : List KeyActionInput} {pressed : ℕ}
    (hstate : Representable state pressed)
    (hups : ∀ slot ∈ upSlots registry group, slot < maxKeys) :
    ((groupUpIntents registry state group).filter
        (fun intent => intent.ownedGeneration.isSome)).map (·.keySlot) =
      (upSlots registry group).filter
        (fun slot => (state.openGenerationBySlot slot).isSome) := by
  rw [groupUpIntents, List.filter_map, List.map_map]
  have hfilter : (upSlots registry group).filter ((fun intent : CompactIntent =>
      intent.ownedGeneration.isSome) ∘ upIntent state.openGenerationBySlot) =
      (upSlots registry group).filter (fun slot => (state.openGenerationBySlot slot).isSome) := by
    refine List.filter_congr fun slot hslot => ?_
    rw [Function.comp_apply, (upIntent_spec hstate (hups slot hslot)).2, Option.isSome_map]
  rw [hfilter]
  refine (List.map_congr_left fun slot hslot => ?_).trans (List.map_id _)
  exact (upIntent_spec hstate (hups slot (List.mem_filter.mp hslot).1)).1

/-- Laying out a group appends its packet. -/
theorem layoutGroup_packets (state : CompilerState) (group : List KeyActionInput) :
    (layoutGroup registry state group).packets =
      state.packets ++ [groupPacket registry state group] := rfl

/-- Laying out a group appends its batches. -/
theorem layoutGroup_batches (state : CompilerState) (group : List KeyActionInput) :
    (layoutGroup registry state group).batches = state.batches ++
      placeBatches state.packets.length (scanned state group).reasonTable state.intents.length
        (state.intents.length + (upSlots registry group).length) group := rfl

/-- Laying out an admitted group of one time keeps the description. -/
theorem Laid.step (hregistry : registry.WellFormed) {groups : List (List KeyActionInput)}
    {state : CompilerState} (h : Laid registry groups state) {group : List KeyActionInput}
    {later : ℕ} (hroom : Roomy state (group.length + later))
    (hadmits : GroupAdmits registry state group)
    (htime : ∀ action ∈ group, action.scheduledUs = groupTime group) :
    Laid registry (groups ++ [group]) (layoutGroup registry state group) := by
  have hstate := h.representable hroom hadmits.scan
  have hshapes := scan_shapes hadmits.scan
  have hups : ∀ slot ∈ upSlots registry group, slot < maxKeys := fun slot hslot =>
    lt_of_mem_slotsOf hregistry
      (fun action haction => (hshapes action (List.mem_filter.mp haction).1).allowed) hslot
  have hdowns : ∀ slot ∈ downSlots registry group, slot < maxKeys := fun slot hslot =>
    lt_of_mem_slotsOf hregistry
      (fun action haction => (hshapes action (List.mem_filter.mp haction).1).allowed) hslot
  obtain ⟨-, hdownNodup, -, -⟩ := scanned_down hadmits.scan
  obtain ⟨hgrows, hreasons⟩ := scan_reasons (startScan state) group
  have hintents : (layoutGroup registry state group).intents =
      state.intents ++ (groupUpIntents registry state group ++
        groupDownIntents registry state group) := List.append_assoc _ _ _
  have hupKeys : (groupUpIntents registry state group).map (·.keySlot) =
      upSlots registry group := by
    rw [groupUpIntents, List.map_map]
    exact (List.map_congr_left fun slot hslot => (upIntent_spec hstate (hups slot hslot)).1).trans
      (List.map_id _)
  obtain ⟨hupsEq, hdownsEq, hframe⟩ := @groupPacket_frame registry state group hups hdowns hstate
    (layoutGroup registry state group).intents rfl
  have hdownKeys : (groupDownIntents registry state group).map (·.keySlot) =
      downSlots registry group := by
    have hfst := congrArg (fun frame => frame.downs.map Prod.fst) hframe
    dsimp only [packetFrame] at hfst
    rw [hdownsEq, List.map_map, List.zipIdx_map_fst] at hfst
    exact hfst
  have hupLength : (groupUpIntents registry state group).length =
      (upSlots registry group).length := List.length_map _
  have hdownLength : (groupDownIntents registry state group).length =
      (downSlots registry group).length := by
    rw [groupDownIntents, List.length_map, List.length_zipIdx]
  -- the frames of earlier packets are unchanged, and the group adds its own
  have hframes : (layoutGroup registry state group).packets.map
      (packetFrame (layoutGroup registry state group).intents) =
      state.packets.map (packetFrame state.intents) ++
        [⟨(upSlots registry group).map fun slot =>
            (slot, (state.openGenerationBySlot slot).map (·.generationId)),
          (downSlots registry group).zipIdx state.nextGenerationId⟩] := by
    rw [layoutGroup_packets, List.map_append, List.map_singleton, hframe, hintents]
    congr 1
    refine List.map_congr_left fun packet hpacket => ?_
    obtain ⟨index, hget⟩ := List.mem_iff_getElem?.mp hpacket
    obtain ⟨earlier, -, hencodes⟩ := exists_of_forall₂ h.packets hget
    obtain ⟨ups, hupSlice, -⟩ := hencodes.ups
    obtain ⟨downs, hdownSlice, -⟩ := hencodes.downs
    exact (packetFrame_append hupSlice hdownSlice _).2.2
  have hplacedAll := @placeBatches_encodes registry state.packets.length
    (scanned state group).reasonTable group hreasons (layoutGroup registry state group).intents
    state.intents (groupUpIntents registry state group) (groupDownIntents registry state group)
    (state.intents ++ groupUpIntents registry state group)
    (groupDownIntents registry state group) [] rfl hupKeys (by rw [List.append_nil]; rfl)
    hdownKeys
  rw [List.length_append, hupLength] at hplacedAll
  obtain ⟨hplaced, hids, hupOwn, hdownOwn⟩ := hplacedAll
  have hcount : (placeBatches state.packets.length (scanned state group).reasonTable
      state.intents.length (state.intents.length + (upSlots registry group).length)
      group).length = group.length := hplaced.length_eq.symm
  have hledger := hadmits.ledger_admits hdownNodup h.owner h.next
  refine
    { actions := ?_, packets := ?_, packetIds := ?_, batchRanges := ?_, intentRanges := ?_
      coherent := ?_, owner := fun slot => ?_, next := ?_ }
  · rw [List.flatten_append, List.flatten_singleton, hintents]
    refine List.rel_append (h.actions.imp fun _ _ haction => haction.append _ hgrows) ?_
    rw [← hintents]
    exact hplaced
  · refine List.rel_append ?_ (List.Forall₂.cons ?_ List.Forall₂.nil)
    · rw [hintents]
      exact h.packets.imp fun _ _ hpacket => hpacket.append _ _ hgrows
    · refine
        { scheduledUs := fun action haction => (htime action haction).symm
          batches := ⟨_, ?_, hplaced, hids, hupOwn.trans hupsEq.symm,
            hdownOwn.trans hdownsEq.symm⟩
          ups := ⟨_, ?_, hupKeys⟩
          downs := ⟨_, ?_, hdownKeys⟩
          upMask := ?_
          downMask := ?_ }
      · have hslice := slice_middle state.batches
          (placeBatches state.packets.length (scanned state group).reasonTable
            state.intents.length (state.intents.length + (upSlots registry group).length) group)
          []
        rw [List.append_nil, hcount] at hslice
        exact hslice
      · have hslice := slice_middle state.intents (groupUpIntents registry state group)
          (groupDownIntents registry state group)
        rw [hupLength] at hslice
        exact hslice
      · have hslice := slice_middle (state.intents ++ groupUpIntents registry state group)
          (groupDownIntents registry state group) []
        rw [List.append_nil, List.length_append, hupLength, hdownLength] at hslice
        exact hslice
      · rw [hupsEq, groupPacket_upMask hstate hups]
        rfl
      · rw [hdownsEq, hdownKeys]
        rfl
  · rw [layoutGroup_packets, List.map_append, h.packetIds, List.length_append,
      List.length_singleton, List.range_succ, List.map_singleton, h.packets.length_eq]
    rfl
  · rw [layoutGroup_packets, List.map_append]
    refine h.batchRanges.append ⟨rfl, ?_⟩
    rw [layoutGroup_batches, List.length_append, hcount]
    rfl
  · rw [layoutGroup_packets, List.flatMap_append]
    refine h.intentRanges.append ⟨rfl, rfl, ?_⟩
    rw [hintents, List.length_append, List.length_append, hupLength, hdownLength,
      ← Nat.add_assoc]
    rfl
  · rw [hframes]
    exact PressLedger.coherent_concat.mpr ⟨h.coherent, hledger⟩
  · rw [hframes, PressLedger.ofFrames_concat]
    exact hadmits.ledger_after hdownNodup h.owner h.next slot
  · rw [hframes, PressLedger.ofFrames_concat, PressLedger.after, h.next]
    dsimp only
    rw [List.length_zipIdx]
    rfl

/-- The state after admitted groups is laid out. -/
theorem laid_compiledState (hregistry : registry.WellFormed)
    {groups : List (List KeyActionInput)}
    (hguarded : Guarded (GroupAdmits registry) (layoutGroup registry) CompilerState.initial
      groups)
    (hgroups : ∀ group ∈ groups, group ≠ [] ∧
      ∀ action ∈ group, action.scheduledUs = groupTime group)
    {later : ℕ} (hcount : groups.flatten.length + later ≤ maxActions) :
    Laid registry groups (compiledState registry groups) ∧
      Roomy (compiledState registry groups) later := by
  induction groups using List.reverseRecOn generalizing later with
  | nil =>
    refine ⟨laid_initial, ?_⟩
    rw [List.flatten_nil, List.length_nil, maxActions] at hcount
    constructor <;>
      simp only [compiledState, CompilerState.initial, List.foldl_nil, List.length_nil,
        Nat.zero_add, maxActions, maxKeys] <;>
      omega
  | append_singleton groups group ih =>
    obtain ⟨hbefore, hadmits, -⟩ := guarded_append.mp hguarded
    obtain ⟨hnonempty, htime⟩ := hgroups group (by simp)
    rw [List.flatten_append, List.flatten_singleton, List.length_append, Nat.add_assoc] at hcount
    obtain ⟨hlaid, hroom⟩ := ih hbefore
      (fun other hother => hgroups other (List.mem_append_left _ hother)) hcount
    have hstate : compiledState registry (groups ++ [group]) =
        layoutGroup registry (compiledState registry groups) group := by
      rw [compiledState, List.foldl_append]
      rfl
    rw [hstate]
    exact ⟨hlaid.step hregistry hroom hadmits htime, hadmits.roomy hnonempty hroom⟩

/-- A scan ends at or after every scanned action. -/
theorem scan_covers {scan : GroupScan} {group : List KeyActionInput}
    (h : Guarded (ScanAdmits registry) scanStep scan group) : ∀ action ∈ group,
      (∃ last ∈ (group.foldl scanStep scan).previousSourceIndex,
        action.sourceActionIndex ≤ last) ∧
      ∃ last ∈ (group.foldl scanStep scan).previousScheduledUs, action.scheduledUs ≤ last := by
  induction group using List.reverseRecOn with
  | nil => exact nofun
  | append_singleton group last ih =>
    obtain ⟨hbefore, hadmits, -⟩ := guarded_append.mp h
    intro action haction
    rw [List.foldl_append]
    refine ⟨⟨last.sourceActionIndex, rfl, ?_⟩, ⟨last.scheduledUs, rfl, ?_⟩⟩
    · rcases List.mem_append.mp haction with hgroup | hlast
      · obtain ⟨⟨previous, hprevious, hle⟩, -⟩ := ih hbefore action hgroup
        exact hle.trans (Nat.le_of_lt (hadmits.index previous hprevious))
      · rw [List.mem_singleton.mp hlast]
    · rcases List.mem_append.mp haction with hgroup | hlast
      · obtain ⟨-, previous, hprevious, hle⟩ := ih hbefore action hgroup
        exact hle.trans (hadmits.time previous hprevious)
      · rw [List.mem_singleton.mp hlast]

/-- The actions of admitted groups are sorted, and the state remembers how far they reach. -/
theorem guarded_sorted {groups : List (List KeyActionInput)}
    (h : Guarded (GroupAdmits registry) (layoutGroup registry) CompilerState.initial groups) :
    groups.flatten.Pairwise (fun a b => a.sourceActionIndex < b.sourceActionIndex) ∧
    groups.flatten.Pairwise (fun a b => a.scheduledUs ≤ b.scheduledUs) ∧
    ∀ action ∈ groups.flatten,
      (∃ last ∈ (compiledState registry groups).previousSourceIndex,
        action.sourceActionIndex ≤ last) ∧
      ∃ last ∈ (compiledState registry groups).previousScheduledUs,
        action.scheduledUs ≤ last := by
  induction groups using List.reverseRecOn with
  | nil => exact ⟨List.Pairwise.nil, List.Pairwise.nil, nofun⟩
  | append_singleton groups group ih =>
    obtain ⟨hbefore, hadmits, -⟩ := guarded_append.mp h
    obtain ⟨hindices, htimes, hcovers⟩ := ih hbefore
    obtain ⟨hindexFirst, htimeFirst, hgroupIndices, hgroupTimes⟩ := scan_sorted hadmits.scan
    have hgroupCovers := scan_covers hadmits.scan
    have hstate : compiledState registry (groups ++ [group]) =
        layoutGroup registry (compiledState registry groups) group := by
      rw [compiledState, List.foldl_append]
      rfl
    rw [List.flatten_append, List.flatten_singleton, hstate]
    refine ⟨List.pairwise_append.mpr ⟨hindices, hgroupIndices, fun a ha b hb => ?_⟩,
      List.pairwise_append.mpr ⟨htimes, hgroupTimes, fun a ha b hb => ?_⟩,
      fun action haction => ?_⟩
    · obtain ⟨⟨last, hlast, hle⟩, -⟩ := hcovers a ha
      exact Nat.lt_of_le_of_lt hle (hindexFirst last hlast b hb)
    · obtain ⟨-, last, hlast, hle⟩ := hcovers a ha
      exact hle.trans (htimeFirst last hlast b hb)
    · rcases List.mem_append.mp haction with hold | hnew
      · -- any action of the nonempty group continues from the last one
        obtain ⟨⟨last, hlast, hle⟩, last', hlast', hle'⟩ := hcovers action hold
        cases group with
        | nil => exact ⟨⟨last, hlast, hle⟩, last', hlast', hle'⟩
        | cons first rest =>
          obtain ⟨⟨next, hnext, hnextLe⟩, next', hnext', hnextLe'⟩ :=
            hgroupCovers first List.mem_cons_self
          have hltIndex := hindexFirst last hlast first List.mem_cons_self
          have hleTime := htimeFirst last' hlast' first List.mem_cons_self
          exact ⟨⟨next, hnext, by omega⟩, next', hnext', by omega⟩
      · exact hgroupCovers action hnew

/-- Every timestamp group has one time. -/
theorem timestampGroups_time (actions : List KeyActionInput) :
    ∀ group ∈ timestampGroups actions, ∀ action ∈ group,
      action.scheduledUs = groupTime group := by
  intro group hgroup action haction
  have hchain := List.isChain_of_mem_splitBy hgroup
  have hpairwise : group.Pairwise (fun a b => a.scheduledUs = b.scheduledUs) := by
    have hequal : group.IsChain (fun a b => a.scheduledUs = b.scheduledUs) :=
      hchain.imp fun _ _ h => by simpa using h
    have htrans : IsTrans KeyActionInput (fun a b => a.scheduledUs = b.scheduledUs) :=
      ⟨fun _ _ _ hab hbc => hab.trans hbc⟩
    exact List.isChain_iff_pairwise.mp hequal
  cases group with
  | nil => cases haction
  | cons first rest =>
    rcases List.mem_cons.mp haction with rfl | hrest
    · rfl
    · exact ((List.pairwise_cons.mp hpairwise).1 action hrest).symm

/-- The times of sorted timestamp groups increase strictly. -/
theorem timestampGroups_sorted {actions : List KeyActionInput}
    (htimes : actions.Pairwise (fun a b => a.scheduledUs ≤ b.scheduledUs)) :
    (timestampGroups actions).Pairwise (fun a b => groupTime a < groupTime b) := by
  have htrans : IsTrans (List KeyActionInput) (fun a b => groupTime a < groupTime b) :=
    ⟨fun _ _ _ hab hbc => hab.trans hbc⟩
  rw [← List.isChain_iff_pairwise]
  obtain ⟨hflatten, hnonempty⟩ := timestampGroups_spec actions
  rw [← hflatten, List.pairwise_flatten] at htimes
  have hdiffer : (timestampGroups actions).IsChain (fun a b => ∃ ha hb,
      ((a.getLast ha).scheduledUs == (b.head hb).scheduledUs) = false) :=
    List.isChain_getLast_head_splitBy
      (fun a b : KeyActionInput => a.scheduledUs == b.scheduledUs) actions
  rw [List.isChain_iff_getElem] at hdiffer ⊢
  intro i hi
  obtain ⟨hfirst, hsecond, hne⟩ := hdiffer i hi
  have hle := List.pairwise_iff_getElem.mp htimes.2 i (i + 1) (by omega) hi (by omega) _
    (List.getLast_mem hfirst) _ (List.head_mem hsecond)
  have hlast := timestampGroups_time actions _ (List.getElem_mem _) _ (List.getLast_mem hfirst)
  have hhead := timestampGroups_time actions _ (List.getElem_mem _) _ (List.head_mem hsecond)
  have hdistinct : ((timestampGroups actions)[i].getLast hfirst).scheduledUs ≠
      ((timestampGroups actions)[i + 1].head hsecond).scheduledUs := by simpa using hne
  have hlt := Nat.lt_of_le_of_ne hle hdistinct
  rwa [hlast, hhead] at hlt

/-- The scan codes of a batch's intents, through the registry. -/
def batchScanCodes (schedule : RuntimeSchedule) (batch : CompiledBatch) : List (Option ℕ) :=
  ((schedule.intentSlice batch).getD []).map fun intent =>
    schedule.keyRegistry.scanCodeFor intent.keySlot

/-- A schedule re-encodes authored actions: its batches reproduce them in order, its packets
partition the batches and tile the intents at strictly increasing times, its masks are the slots
of owned releases and of presses, and every generation is pressed exactly once and released
exactly once, on the same slot and in a strictly later packet. -/
structure Reencodes (actions : List KeyActionInput) (schedule : RuntimeSchedule) : Prop where
  batches : List.Forall₂ (fun action batch => batch.kind = action.kind ∧
    batch.scheduledUs = action.scheduledUs ∧
    batch.sourceActionIndex = action.sourceActionIndex ∧
    schedule.reasonTable[batch.reasonId]? = some action.reason ∧
    (batchScanCodes schedule batch).Perm (action.scanCodes.map some)) actions schedule.batches
  times : schedule.packets.Pairwise fun a b => a.scheduledUs < b.scheduledUs
  packetIds : schedule.packets.map (·.packetId) = List.range schedule.packets.length
  batchRanges : Tiles 0 (schedule.packets.map fun packet =>
    (packet.firstBatchIndex, packet.batchCount)) schedule.batches.length
  packetBatches : ∀ packet ∈ schedule.packets, ∃ own,
    slice schedule.batches packet.firstBatchIndex packet.batchCount = some own ∧
    ∀ batch ∈ own, batch.packetId = packet.packetId ∧ batch.scheduledUs = packet.scheduledUs
  intentRanges : Tiles 0 (schedule.packets.flatMap fun packet =>
    [(packet.upIntentStart, packet.upIntentLen), (packet.downIntentStart, packet.downIntentLen)])
    schedule.intents.length
  masks : ∀ packet ∈ schedule.packets, packet.upMask &&& packet.downMask = 0#16 ∧
    packet.upMask = maskOf 16 ((packetUps schedule.intents packet).filter
      (fun intent => intent.ownedGeneration.isSome) |>.map (·.keySlot)) ∧
    packet.downMask = maskOf 16 ((packetDowns schedule.intents packet).map (·.keySlot))
  pressed : (schedule.packets.flatMap fun packet =>
    (packetDowns schedule.intents packet).map (·.generationId)) =
      List.range schedule.generationCount
  released : (schedule.packets.flatMap fun packet =>
    (packetUps schedule.intents packet).filterMap (·.ownedGeneration)).Perm
      (List.range schedule.generationCount)
  matched : ∀ (later earlier : ℕ) (upPacket downPacket : CompiledPacket) (up down : CompactIntent),
    schedule.packets[later]? = some upPacket → schedule.packets[earlier]? = some downPacket →
    up ∈ packetUps schedule.intents upPacket → down ∈ packetDowns schedule.intents downPacket →
    up.ownedGeneration = some down.generationId →
      up.keySlot = down.keySlot ∧ earlier < later

/-- The laid-out state of an accepted input. -/
theorem Accepted.laid {actions : List KeyActionInput} {allowedScanCodes : List ℕ}
    (h : Accepted actions allowedScanCodes) :
    Laid ⟨allowedScanCodes⟩ (timestampGroups actions)
      (compiledState ⟨allowedScanCodes⟩ (timestampGroups actions)) := by
  obtain ⟨hflatten, hnonempty⟩ := timestampGroups_spec actions
  have hcount : (timestampGroups actions).flatten.length + 0 ≤ maxActions := by
    rw [hflatten]
    exact h.action_count
  exact (laid_compiledState h.wellFormed h.groups (fun group hgroup =>
    ⟨hnonempty group hgroup, timestampGroups_time actions group hgroup⟩) hcount).1

/-- The actions of an accepted input are sorted. -/
theorem Accepted.sorted {actions : List KeyActionInput} {allowedScanCodes : List ℕ}
    (h : Accepted actions allowedScanCodes) :
    actions.Pairwise (fun a b => a.sourceActionIndex < b.sourceActionIndex) ∧
      actions.Pairwise (fun a b => a.scheduledUs ≤ b.scheduledUs) := by
  obtain ⟨hindices, htimes, -⟩ := guarded_sorted h.groups
  rw [(timestampGroups_spec actions).1] at hindices htimes
  exact ⟨hindices, htimes⟩

/-- Every action of an accepted input is well shaped. -/
theorem Accepted.shapes {actions : List KeyActionInput} {allowedScanCodes : List ℕ}
    (h : Accepted actions allowedScanCodes) :
    ∀ action ∈ actions, ActionShape ⟨allowedScanCodes⟩ action := by
  intro action haction
  rw [← (timestampGroups_spec actions).1] at haction
  obtain ⟨group, hgroup, hmem⟩ := List.mem_flatten.mp haction
  exact h.groups.forall_mem (P := fun group => ∀ action ∈ group, ActionShape _ action)
    (fun _ _ hadmits => scan_shapes hadmits.scan) group hgroup action hmem

/-- After an accepted input no slot of the ledger is held. -/
theorem Accepted.ledger_closed {actions : List KeyActionInput} {allowedScanCodes : List ℕ}
    (h : Accepted actions allowedScanCodes) :
    ∀ slot, (PressLedger.ofFrames ((compiledState ⟨allowedScanCodes⟩
      (timestampGroups actions)).packets.map (packetFrame (compiledState ⟨allowedScanCodes⟩
        (timestampGroups actions)).intents))).owner slot = none := by
  intro slot
  by_cases hslot : slot < maxKeys
  · rw [h.laid.owner, h.closed slot hslot]
    rfl
  · cases howner : (PressLedger.ofFrames ((compiledState ⟨allowedScanCodes⟩
      (timestampGroups actions)).packets.map (packetFrame (compiledState ⟨allowedScanCodes⟩
        (timestampGroups actions)).intents))).owner slot with
    | none => rfl
    | some press =>
      -- a held slot was pressed by some group, so it is an instrument slot
      obtain ⟨index, frame, hframe, hdown⟩ := h.laid.coherent.owner_pressed howner
      rw [List.getElem?_map, Option.map_eq_some_iff] at hframe
      obtain ⟨packet, hpacket, rfl⟩ := hframe
      obtain ⟨group, hgroup, hencodes⟩ := exists_of_forall₂ h.laid.packets hpacket
      obtain ⟨downs, hslice, hslots⟩ := hencodes.downs
      obtain ⟨intent, hintent, hkey⟩ := List.mem_map.mp hdown
      have hmem : slot ∈ downSlots ⟨allowedScanCodes⟩ group := by
        rw [← hslots, List.mem_map]
        rw [packetDowns, hslice] at hintent
        exact ⟨intent, hintent, (Prod.mk.inj hkey).1⟩
      refine absurd (lt_of_mem_slotsOf h.wellFormed (fun action haction => ?_) hmem) hslot
      refine (h.shapes action ?_).allowed
      rw [← (timestampGroups_spec actions).1]
      exact List.mem_flatten.mpr
        ⟨group, List.mem_of_getElem? hgroup, (List.mem_filter.mp haction).1⟩

/-- The codes a batch reads back are its action's codes. -/
theorem EncodesAction.scanCodes {state : CompilerState} {action : KeyActionInput}
    {batch : CompiledBatch}
    (h : EncodesAction registry state.intents state.reasonTable action batch)
    (hallowed : ∀ scanCode ∈ action.scanCodes, scanCode ∈ registry.scanCodes) :
    (batchScanCodes (scheduleOf registry state) batch).Perm (action.scanCodes.map some) := by
  obtain ⟨part, hpart, hslots⟩ := h.intents
  have hcodes : batchScanCodes (scheduleOf registry state) batch =
      (sortedScanCodes registry action).map (registry.scanCodeFor ∘ slotOf registry) := by
    have hslice : (scheduleOf registry state).intentSlice batch = some part := hpart
    rw [batchScanCodes, hslice, ← List.map_map]
    change part.map _ = (actionSlots registry action).map _
    rw [← hslots, List.map_map]
    rfl
  have hid : (sortedScanCodes registry action).map (registry.scanCodeFor ∘ slotOf registry) =
      (sortedScanCodes registry action).map some :=
    List.map_congr_left fun scanCode hcode =>
      scanCodeFor_slotOf (hallowed scanCode ((sortedScanCodes_perm action).mem_iff.mp hcode))
  rw [hcodes, hid]
  exact (sortedScanCodes_perm action).map some

/-- A laid-out packet's time is its group's. -/
theorem EncodesGroup.groupTime {intents : List CompactIntent} {reasons : List String}
    {batches : List CompiledBatch} {group : List KeyActionInput} {packet : CompiledPacket}
    (h : EncodesGroup registry intents reasons batches group packet) (hgroup : group ≠ []) :
    packet.scheduledUs = DispatchCore.groupTime group := by
  cases group with
  | nil => exact absurd rfl hgroup
  | cons first rest => exact h.scheduledUs first List.mem_cons_self

/-- The batches of a laid-out packet have its time. -/
theorem EncodesGroup.batch_time {intents : List CompactIntent} {reasons : List String}
    {batches : List CompiledBatch} {group : List KeyActionInput} {packet : CompiledPacket}
    (h : EncodesGroup registry intents reasons batches group packet) : ∃ own,
    slice batches packet.firstBatchIndex packet.batchCount = some own ∧
    ∀ batch ∈ own, batch.packetId = packet.packetId ∧ batch.scheduledUs = packet.scheduledUs := by
  obtain ⟨own, hown, hencodes, hids, -, -⟩ := h.batches
  refine ⟨own, hown, fun batch hbatch => ⟨hids batch hbatch, ?_⟩⟩
  obtain ⟨index, hget⟩ := List.mem_iff_getElem?.mp hbatch
  obtain ⟨action, haction, hsame⟩ := exists_of_forall₂ hencodes hget
  rw [hsame.scheduledUs, h.scheduledUs action (List.mem_of_getElem? haction)]

/-- The presses of a packet list are the identifiers its press stream presses. -/
theorem downIds_packets (intents : List CompactIntent) (packets : List CompiledPacket) :
    PressLedger.downIds (packets.map (packetFrame intents)) =
      packets.flatMap fun packet => (packetDowns intents packet).map (·.generationId) := by
  rw [PressLedger.downIds, List.flatMap_map]
  refine List.flatMap_congr fun packet _ => ?_
  rw [packetFrame, List.map_map]
  rfl

/-- The owned releases of a packet list are the identifiers its press stream releases. -/
theorem upIds_packets (intents : List CompactIntent) (packets : List CompiledPacket) :
    PressLedger.upIds (packets.map (packetFrame intents)) =
      packets.flatMap fun packet =>
        (packetUps intents packet).filterMap (·.ownedGeneration) := by
  rw [PressLedger.upIds, List.flatMap_map]
  refine List.flatMap_congr fun packet _ => ?_
  rw [packetFrame, List.filterMap_map]
  rfl

/-- A released slot's mask bit and a pressed slot's mask bit never meet. -/
theorem packet_masks_disjoint {intents : List CompactIntent} {packet : CompiledPacket}
    {ledger : PressLedger ℕ} (h : ledger.Admits (packetFrame intents packet)) :
    maskOf 16 (((packetUps intents packet).filter
        (fun intent => intent.ownedGeneration.isSome)).map (·.keySlot)) &&&
      maskOf 16 ((packetDowns intents packet).map (·.keySlot)) = 0#16 := by
  rw [and_eq_zero_iff]
  intro slot hup
  rw [getLsbD_maskOf] at hup ⊢
  simp only [Bool.and_eq_true, decide_eq_true_eq] at hup
  obtain ⟨intent, hintent, hkey⟩ := List.mem_map.mp hup.2
  obtain ⟨hmem, howned⟩ := List.mem_filter.mp hintent
  have howner := h.ups_owner (intent.keySlot, intent.ownedGeneration)
    (List.mem_map.mpr ⟨intent, hmem, rfl⟩)
  have hnot : slot ∉ (packetDowns intents packet).map (·.keySlot) := by
    intro hdown
    obtain ⟨down, hdownMem, hdownKey⟩ := List.mem_map.mp hdown
    have hfree := h.downs_free (down.keySlot, down.generationId)
      (List.mem_map.mpr ⟨down, hdownMem, rfl⟩)
    dsimp only at howner hfree
    rw [hdownKey, ← hkey, ← howner] at hfree
    rw [hfree] at howned
    cases howned
  simp [hnot]

/-- The frame of a packet stands at the packet's index. -/
theorem packetFrame_getElem? {intents : List CompactIntent} {packets : List CompiledPacket}
    {index : ℕ} {packet : CompiledPacket} (h : packets[index]? = some packet) :
    (packets.map (packetFrame intents))[index]? = some (packetFrame intents packet) := by
  rw [List.getElem?_map, h]
  rfl

/-- The schedule of a laid-out state whose ledger is closed re-encodes its actions. -/
theorem Laid.reencodes {groups : List (List KeyActionInput)} {state : CompilerState}
    (h : Laid registry groups state)
    (hshapes : ∀ action ∈ groups.flatten, ActionShape registry action)
    (hnonempty : ∀ group ∈ groups, group ≠ [])
    (htimes : groups.Pairwise (fun a b => groupTime a < groupTime b))
    (hclosed : ∀ slot,
      (PressLedger.ofFrames (state.packets.map (packetFrame state.intents))).owner slot = none) :
    Reencodes groups.flatten (scheduleOf registry state) where
  batches := by
    refine (List.forall₂_and_left _ _ |>.mpr ⟨hshapes, h.actions⟩).imp ?_
    rintro action batch ⟨hshape, hbatch⟩
    exact ⟨hbatch.kind, hbatch.scheduledUs, hbatch.sourceActionIndex, hbatch.reason,
      hbatch.scanCodes hshape.allowed⟩
  times := by
    rw [List.pairwise_iff_getElem] at htimes ⊢
    intro i j hi hj hlt
    obtain ⟨first, hfirst, hencodes⟩ := exists_of_forall₂ h.packets (List.getElem?_eq_getElem hi)
    obtain ⟨second, hsecond, hencodes'⟩ :=
      exists_of_forall₂ h.packets (List.getElem?_eq_getElem hj)
    obtain ⟨hi', rfl⟩ := List.getElem?_eq_some_iff.mp hfirst
    obtain ⟨hj', rfl⟩ := List.getElem?_eq_some_iff.mp hsecond
    have hle := htimes i j hi' hj' hlt
    rwa [← hencodes.groupTime (hnonempty _ (List.getElem_mem hi')),
      ← hencodes'.groupTime (hnonempty _ (List.getElem_mem hj'))] at hle
  packetIds := h.packetIds.trans (by rw [h.packets.length_eq]; rfl)
  batchRanges := h.batchRanges
  packetBatches packet hpacket := by
    obtain ⟨index, hget⟩ := List.mem_iff_getElem?.mp hpacket
    obtain ⟨group, -, hencodes⟩ := exists_of_forall₂ h.packets hget
    exact hencodes.batch_time
  intentRanges := h.intentRanges
  masks packet hpacket := by
    obtain ⟨index, hget⟩ := List.mem_iff_getElem?.mp hpacket
    obtain ⟨group, -, hencodes⟩ := exists_of_forall₂ h.packets hget
    refine ⟨?_, hencodes.upMask, hencodes.downMask⟩
    rw [hencodes.upMask, hencodes.downMask]
    exact packet_masks_disjoint (h.coherent index _ (packetFrame_getElem? hget))
  pressed := by
    have hids := h.coherent.downIds_eq
    rw [downIds_packets, h.next] at hids
    exact hids
  released := by
    have hids := h.coherent.upIds_perm hclosed
    rw [upIds_packets, h.next] at hids
    exact hids
  matched later earlier upPacket downPacket up down hlater hearlier hup hdown hgeneration := by
    have hupMem : (up.keySlot, some down.generationId) ∈
        (packetFrame state.intents upPacket).ups :=
      List.mem_map.mpr ⟨up, hup, by rw [hgeneration]⟩
    have hdownMem : (down.keySlot, down.generationId) ∈
        (packetFrame state.intents downPacket).downs := List.mem_map.mpr ⟨down, hdown, rfl⟩
    obtain ⟨index, found, hlt, hfound, hpressed⟩ := h.coherent.up_pressed
      (packetFrame_getElem? hlater) hupMem
    obtain ⟨heq, hkey⟩ := h.coherent.down_unique (packetFrame_getElem? hearlier) hfound
      hdownMem hpressed
    exact ⟨hkey.symm, heq ▸ hlt⟩

/-- The schedule of accepted actions re-encodes them. -/
theorem Accepted.reencodes {actions : List KeyActionInput} {allowedScanCodes : List ℕ}
    (h : Accepted actions allowedScanCodes) :
    Reencodes actions (scheduleOf ⟨allowedScanCodes⟩
      (compiledState ⟨allowedScanCodes⟩ (timestampGroups actions))) := by
  obtain ⟨hflatten, hnonempty⟩ := timestampGroups_spec actions
  have hreencodes := h.laid.reencodes (by rw [hflatten]; exact h.shapes)
    hnonempty (timestampGroups_sorted h.sorted.2) h.ledger_closed
  rwa [hflatten] at hreencodes

/-- Whatever the compiler accepts, its schedule re-encodes faithfully. -/
theorem compiled_schedule_reencodes (actions : List KeyActionInput)
    (allowedScanCodes : List ℕ) (schedule : RuntimeSchedule)
    (h : compileRuntimeIntents actions allowedScanCodes = .ok schedule) :
    Reencodes actions schedule := by
  obtain ⟨haccepted, rfl⟩ := compileRuntimeIntents_eq_ok.mp h
  exact haccepted.reencodes

/-- A chord, an early release, and a release of an unheld key at the time it is pressed again. -/
def staleReleaseActions : List KeyActionInput :=
  [⟨0, .down, 0, [21, 22], "onset"⟩, ⟨1, .up, 10, [21], "release"⟩,
    ⟨2, .down, 20, [21], "onset"⟩, ⟨5, .up, 20, [22, 21], "release"⟩,
    ⟨6, .up, 30, [21], "release"⟩]

/-- The stale release compiles and is re-encoded. -/
theorem staleReleaseActions_reencoded : ∃ schedule,
    compileRuntimeIntents staleReleaseActions [22, 21] = .ok schedule ∧
      Reencodes staleReleaseActions schedule := by
  have hok : (compileRuntimeIntents staleReleaseActions [22, 21]).isOk = true := by
    decide +kernel
  obtain ⟨schedule, hschedule⟩ := Except.exists_of_isOk hok
  exact ⟨schedule, hschedule, compiled_schedule_reencodes _ _ schedule hschedule⟩

end SkyAutoPlayer.DispatchCore
