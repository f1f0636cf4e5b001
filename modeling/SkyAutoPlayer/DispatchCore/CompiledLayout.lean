import SkyAutoPlayer.DispatchCore.CompilePasses

/-!
# The layout of a compiled group

When its checks pass, compiling a group has one outcome: `layoutGroup`. It appends the group's
batches in authored order, its Up intents and then its Down intents, and one packet that refers
to them. `compileGroup` succeeds exactly when the group's actions are admitted, no slot is
released twice, and no pressed slot is held when the group begins.
-/

namespace SkyAutoPlayer.DispatchCore

open Foundation

variable {registry : KeyRegistry}

/-- The slots a group releases. -/
def upSlots (registry : KeyRegistry) (group : List KeyActionInput) : List ℕ :=
  slotsOf registry (group.filter (fun action => action.kind = .up))

/-- The slots a group presses. -/
def downSlots (registry : KeyRegistry) (group : List KeyActionInput) : List ℕ :=
  slotsOf registry (group.filter (fun action => action.kind = .down))

/-- The scan at the start of a group. -/
def startScan (state : CompilerState) : GroupScan :=
  ⟨state.reasonTable, state.previousSourceIndex, state.previousScheduledUs, none⟩

/-- The scan at the end of a group. -/
def scanned (state : CompilerState) (group : List KeyActionInput) : GroupScan :=
  group.foldl scanStep (startScan state)

/-- The batches of a group in authored order, releases and presses each from their position. -/
def placeBatches (packetId : ℕ) (reasonTable : List String) :
    ℕ → ℕ → List KeyActionInput → List CompiledBatch
  | _, _, [] => []
  | upStart, downStart, action :: rest =>
    match action.kind with
    | .up =>
      actionBatch packetId action (reasonTable.idxOf action.reason) upStart ::
        placeBatches packetId reasonTable (upStart + action.scanCodes.length) downStart rest
    | .down =>
      actionBatch packetId action (reasonTable.idxOf action.reason) downStart ::
        placeBatches packetId reasonTable upStart (downStart + action.scanCodes.length) rest

/-- The intents releasing the group's slots. -/
def groupUpIntents (registry : KeyRegistry) (state : CompilerState)
    (group : List KeyActionInput) : List CompactIntent :=
  (upSlots registry group).map (upIntent state.openGenerationBySlot)

/-- The intents pressing the group's slots. -/
def groupDownIntents (registry : KeyRegistry) (state : CompilerState)
    (group : List KeyActionInput) : List CompactIntent :=
  ((downSlots registry group).zipIdx state.nextGenerationId).map
    (fun press => CompactIntent.new press.2 press.1)

/-- The packet of a group. -/
def groupPacket (registry : KeyRegistry) (state : CompilerState)
    (group : List KeyActionInput) : CompiledPacket where
  packetId := state.packets.length
  scheduledUs := groupTime group
  firstBatchIndex := state.batches.length
  batchCount := group.length
  upMask := maskOf 16 ((upSlots registry group).filter
    (fun slot => (state.openGenerationBySlot slot).isSome))
  downMask := maskOf 16 (downSlots registry group)
  upIntentStart := state.intents.length
  upIntentLen := (upSlots registry group).length
  downIntentStart := state.intents.length + (upSlots registry group).length
  downIntentLen := (downSlots registry group).length
  downSourceActionIndex := (scanned state group).downAction.map (·.sourceActionIndex)

/-- The compiler's state after a group whose checks pass. -/
def layoutGroup (registry : KeyRegistry) (state : CompilerState)
    (group : List KeyActionInput) : CompilerState where
  nextGenerationId := state.nextGenerationId + (downSlots registry group).length
  openGenerationBySlot slot :=
    if slot ∈ downSlots registry group then
      (scanned state group).downAction.map fun action =>
        ⟨state.nextGenerationId + (downSlots registry group).idxOf slot,
          action.sourceActionIndex, action.scheduledUs⟩
    else if slot ∈ upSlots registry group then none
    else state.openGenerationBySlot slot
  reasonTable := (scanned state group).reasonTable
  batches := state.batches ++ placeBatches state.packets.length (scanned state group).reasonTable
    state.intents.length (state.intents.length + (upSlots registry group).length) group
  intents := state.intents ++ groupUpIntents registry state group ++
    groupDownIntents registry state group
  packets := state.packets ++ [groupPacket registry state group]
  previousSourceIndex := (scanned state group).previousSourceIndex
  previousScheduledUs := (scanned state group).previousScheduledUs

/-- When a group's checks pass. -/
structure GroupAdmits (registry : KeyRegistry) (state : CompilerState)
    (group : List KeyActionInput) : Prop where
  scan : Guarded (ScanAdmits registry) scanStep (startScan state) group
  ups_nodup : (upSlots registry group).Nodup
  downs_free : ∀ slot ∈ downSlots registry group, state.openGenerationBySlot slot = none

/-- The arenas stay small enough for their indices. -/
structure Roomy (state : CompilerState) (actions : ℕ) : Prop where
  packets : state.packets.length + actions ≤ maxActions
  batches : state.batches.length + actions ≤ maxActions
  intents : state.intents.length + maxKeys * actions ≤ maxKeys * maxActions
  generations : state.nextGenerationId + maxKeys * actions ≤ maxKeys * maxActions

/-- Admitted actions follow the previous index and time in order. -/
theorem scan_sorted {scan : GroupScan} {group : List KeyActionInput}
    (h : Guarded (ScanAdmits registry) scanStep scan group) :
    (∀ previous ∈ scan.previousSourceIndex, ∀ action ∈ group,
      previous < action.sourceActionIndex) ∧
    (∀ previous ∈ scan.previousScheduledUs, ∀ action ∈ group, previous ≤ action.scheduledUs) ∧
    group.Pairwise (fun a b => a.sourceActionIndex < b.sourceActionIndex) ∧
    group.Pairwise (fun a b => a.scheduledUs ≤ b.scheduledUs) := by
  induction group generalizing scan with
  | nil => exact ⟨nofun, nofun, List.Pairwise.nil, List.Pairwise.nil⟩
  | cons action rest ih =>
    obtain ⟨hadmits, hrest⟩ := h
    obtain ⟨hindex, htime, hindices, htimes⟩ := ih hrest
    have hindexRest := hindex _ rfl
    have htimeRest := htime _ rfl
    refine ⟨fun previous hprevious other hother => ?_, fun previous hprevious other hother => ?_,
      List.pairwise_cons.mpr ⟨hindexRest, hindices⟩, List.pairwise_cons.mpr ⟨htimeRest, htimes⟩⟩
    · have hfirst := hadmits.index previous hprevious
      rcases List.mem_cons.mp hother with rfl | hother
      · exact hfirst
      · exact hfirst.trans (hindexRest other hother)
    · have hfirst := hadmits.time previous hprevious
      rcases List.mem_cons.mp hother with rfl | hother
      · exact hfirst
      · exact hfirst.trans (htimeRest other hother)

/-- A scan only appends reasons, and knows every scanned reason. -/
theorem scan_reasons (scan : GroupScan) (group : List KeyActionInput) :
    scan.reasonTable <+: (group.foldl scanStep scan).reasonTable ∧
      ∀ action ∈ group, action.reason ∈ (group.foldl scanStep scan).reasonTable := by
  induction group generalizing scan with
  | nil => exact ⟨List.prefix_rfl, nofun⟩
  | cons action rest ih =>
    obtain ⟨hgrows, hmem⟩ := ih (scanStep scan action)
    refine ⟨(internReason_grows _ _).trans hgrows, fun other hother => ?_⟩
    rcases List.mem_cons.mp hother with rfl | hother
    · exact hgrows.subset (mem_internReason _ _)
    · exact hmem other hother

/-- The scanned press action is the group's only one. -/
theorem scan_downAction {scan : GroupScan} {group : List KeyActionInput}
    (h : Guarded (ScanAdmits registry) scanStep scan group) :
    scan.downAction.toList ++ group.filter (fun action => action.kind = .down) =
      (group.foldl scanStep scan).downAction.toList := by
  induction group generalizing scan with
  | nil => simp
  | cons action rest ih =>
    obtain ⟨hadmits, hrest⟩ := h
    have hih := ih hrest
    rw [List.foldl_cons, ← hih]
    by_cases hdown : action.kind = .down
    · rw [hadmits.single hdown]
      simp [hdown, scanStep, GroupScan.advance]
    · simp [hdown, scanStep, GroupScan.advance]

/-- An admitted group's press action. -/
theorem GroupAdmits.downAction {state : CompilerState} {group : List KeyActionInput}
    (h : GroupAdmits registry state group) :
    group.filter (fun action => action.kind = .down) =
      (scanned state group).downAction.toList := scan_downAction h.scan

/-- The batches in authored order are the releases' and the press's batches. -/
theorem placeBatches_perm (packetId : ℕ) (reasonTable : List String) (upStart downStart : ℕ)
    (group : List KeyActionInput) :
    (batchesFrom packetId reasonTable upStart
        (group.filter (fun action => action.kind = .up)) ++
      batchesFrom packetId reasonTable downStart
        (group.filter (fun action => action.kind = .down))).Perm
      (placeBatches packetId reasonTable upStart downStart group) := by
  induction group generalizing upStart downStart with
  | nil => exact List.Perm.refl _
  | cons action rest ih =>
    cases hkind : action.kind with
    | up =>
      simp only [placeBatches, hkind, List.filter_cons, decide_true, if_true, reduceCtorEq,
        decide_false, Bool.false_eq_true, if_false, batchesFrom, List.cons_append]
      exact (ih _ _).cons _
    | down =>
      simp only [placeBatches, hkind, List.filter_cons, decide_true, if_true, reduceCtorEq,
        decide_false, Bool.false_eq_true, if_false, batchesFrom]
      exact List.perm_middle.trans ((ih _ _).cons _)

/-- The placed batches keep the authored order. -/
theorem placeBatches_sourceActionIndex (packetId : ℕ) (reasonTable : List String)
    (upStart downStart : ℕ) (group : List KeyActionInput) :
    (placeBatches packetId reasonTable upStart downStart group).map (·.sourceActionIndex) =
      group.map (·.sourceActionIndex) := by
  induction group generalizing upStart downStart with
  | nil => rfl
  | cons action rest ih =>
    cases hkind : action.kind with
    | up =>
      simp only [placeBatches, hkind, List.map_cons, ih]
      rfl
    | down =>
      simp only [placeBatches, hkind, List.map_cons, ih]
      rfl

/-- Sorting the batches by source index restores the authored order. -/
theorem sortBatches_eq_placeBatches {packetId : ℕ} {reasonTable : List String}
    {upStart downStart : ℕ} {group : List KeyActionInput}
    (hsorted : group.Pairwise (fun a b => a.sourceActionIndex < b.sourceActionIndex)) :
    sortBatches (batchesFrom packetId reasonTable upStart
        (group.filter (fun action => action.kind = .up)) ++
      batchesFrom packetId reasonTable downStart
        (group.filter (fun action => action.kind = .down))) =
      placeBatches packetId reasonTable upStart downStart group := by
  have hindices : ((placeBatches packetId reasonTable upStart downStart group).map
      (·.sourceActionIndex)).Pairwise (· < ·) := by
    rw [placeBatches_sourceActionIndex]
    exact List.pairwise_map.mpr hsorted
  have hperm : (sortBatches (batchesFrom packetId reasonTable upStart
        (group.filter (fun action => action.kind = .up)) ++
      batchesFrom packetId reasonTable downStart
        (group.filter (fun action => action.kind = .down)))).Perm
      (placeBatches packetId reasonTable upStart downStart group) :=
    (List.perm_insertionSort _ _).trans (placeBatches_perm _ _ _ _ _)
  refine List.Perm.eq_of_pairwise (fun a b ha hb hab hba => ?_)
    (List.pairwise_insertionSort _ _)
    ((List.pairwise_map.mp hindices).imp fun h => Nat.le_of_lt h) hperm
  have hnodup : ((placeBatches packetId reasonTable upStart downStart group).map
      (·.sourceActionIndex)).Nodup := hindices.imp fun h => Nat.ne_of_lt h
  exact List.inj_on_of_nodup_map hnodup (hperm.mem_iff.mp ha) hb (Nat.le_antisymm hab hba)

/-- Distinct instrument slots are at most fifteen. -/
theorem length_le_maxKeys {slots : List ℕ} (hnodup : slots.Nodup)
    (hlt : ∀ slot ∈ slots, slot < maxKeys) : slots.length ≤ maxKeys := by
  have hsubset : slots ⊆ List.range maxKeys := fun slot hslot =>
    List.mem_range.mpr (hlt slot hslot)
  have hle := (List.subperm_of_subset hnodup hsubset).length_le
  rwa [List.length_range] at hle

/-- Actions name at most fifteen slots each. -/
theorem slotsOf_length_le {actions : List KeyActionInput}
    (h : ∀ action ∈ actions, action.scanCodes.length ≤ maxKeys) :
    (slotsOf registry actions).length ≤ maxKeys * actions.length := by
  induction actions with
  | nil => rfl
  | cons action rest ih =>
    have hrest := ih fun other hother => h other (List.mem_cons_of_mem _ hother)
    have hfirst := h action List.mem_cons_self
    rw [slotsOf_cons, List.length_append, actionSlots_length, List.length_cons, Nat.mul_succ]
    omega

/-- Actions name at least one slot each. -/
theorem length_le_slotsOf {actions : List KeyActionInput}
    (h : ∀ action ∈ actions, action.scanCodes ≠ []) :
    actions.length ≤ (slotsOf registry actions).length := by
  induction actions with
  | nil => rfl
  | cons action rest ih =>
    have hrest := ih fun other hother => h other (List.mem_cons_of_mem _ hother)
    have hfirst := List.length_pos_of_ne_nil (h action List.mem_cons_self)
    rw [slotsOf_cons, List.length_append, actionSlots_length, List.length_cons]
    omega

/-- What an admitted action satisfies on its own. -/
structure ActionShape (registry : KeyRegistry) (action : KeyActionInput) : Prop where
  nonempty : action.scanCodes ≠ []
  count : action.scanCodes.length ≤ maxKeys
  reason : action.reason.utf8ByteSize ≤ maxReasonBytes
  nodup : action.scanCodes.Nodup
  allowed : ∀ scanCode ∈ action.scanCodes, scanCode ∈ registry.scanCodes

/-- Admitted actions are well shaped. -/
theorem scan_shapes {scan : GroupScan} {group : List KeyActionInput}
    (h : Guarded (ScanAdmits registry) scanStep scan group) :
    ∀ action ∈ group, ActionShape registry action :=
  h.forall_mem fun _ _ hadmits =>
    ⟨hadmits.nonempty, hadmits.count, hadmits.reason, hadmits.nodup, hadmits.allowed⟩

/-- An admitted group has at most sixteen actions. -/
theorem GroupAdmits.length_le (hregistry : registry.WellFormed) {state : CompilerState}
    {group : List KeyActionInput} (h : GroupAdmits registry state group) : group.length ≤ 16 := by
  have hshapes := scan_shapes h.scan
  have hups : (group.filter (fun action => action.kind = .up)).length ≤ maxKeys := by
    refine (@length_le_slotsOf registry _ fun action haction => ?_).trans
      (length_le_maxKeys h.ups_nodup fun slot hslot => ?_)
    · exact (hshapes action (List.mem_filter.mp haction).1).nonempty
    · exact lt_of_mem_slotsOf hregistry
        (fun action haction => (hshapes action (List.mem_filter.mp haction).1).allowed) hslot
  have hdowns : (group.filter (fun action => action.kind = .down)).length ≤ 1 := by
    rw [h.downAction]
    cases (scanned state group).downAction <;> simp
  have hsplit : (group.filter (fun action => action.kind = .up)).length +
      (group.filter (fun action => action.kind = .down)).length = group.length := by
    have hother : group.filter (fun action => action.kind = .down) =
        group.filter (fun action => !decide (action.kind = .up)) :=
      List.filter_congr fun action _ => by cases action.kind <;> rfl
    rw [hother, ← List.length_append]
    exact (List.filter_append_perm _ group).length_eq
  rw [maxKeys] at hups
  omega

/-- A group's slots are at most fifteen for each of its actions. -/
theorem GroupAdmits.slots_le {state : CompilerState} {group : List KeyActionInput}
    (h : Guarded (ScanAdmits registry) scanStep (startScan state) group) :
    (upSlots registry group).length + (downSlots registry group).length ≤
      maxKeys * group.length := by
  have hshapes := scan_shapes h
  have hperm := List.filter_append_perm (fun action : KeyActionInput => action.kind = .up) group
  have hother : group.filter (fun action => action.kind = .down) =
      group.filter (fun action => !decide (action.kind = .up)) :=
    List.filter_congr fun action _ => by cases action.kind <;> rfl
  have hall : (slotsOf registry (group.filter (fun action => action.kind = .up) ++
      group.filter (fun action => !decide (action.kind = .up)))).length ≤
      maxKeys * group.length := by
    rw [← hperm.length_eq]
    exact slotsOf_length_le fun action haction =>
      (hshapes action (hperm.mem_iff.mp haction)).count
  rw [slotsOf, List.flatMap_append, List.length_append] at hall
  rw [upSlots, downSlots, hother]
  exact hall

/-- The press pass over an optional press action. -/
def pressAll (registry : KeyRegistry) (downAction : Option KeyActionInput) (start : DownPass) :
    DownPass :=
  match downAction with
  | none => start
  | some action => (actionSlots registry action).foldl (pressSlot action) start

/-- What the press pass does. -/
theorem pressAll_pressed {downAction : Option KeyActionInput} {start : DownPass}
    (hnodup : (slotsOf registry downAction.toList).Nodup) :
    (∀ slot, (pressAll registry downAction start).openGenerationBySlot slot =
      if slot ∈ slotsOf registry downAction.toList then
        downAction.map fun action =>
          ⟨start.nextGenerationId + (slotsOf registry downAction.toList).idxOf slot,
            action.sourceActionIndex, action.scheduledUs⟩
      else start.openGenerationBySlot slot) ∧
    (pressAll registry downAction start).nextGenerationId =
      start.nextGenerationId + (slotsOf registry downAction.toList).length ∧
    (pressAll registry downAction start).downMask =
      start.downMask ||| maskOf 16 (slotsOf registry downAction.toList) ∧
    (pressAll registry downAction start).intents = start.intents ++
      ((slotsOf registry downAction.toList).zipIdx start.nextGenerationId).map
        (fun press => CompactIntent.new press.2 press.1) := by
  cases downAction with
  | none => exact ⟨fun _ => rfl, rfl, by simp [pressAll, slotsOf, maskOf], by
      simp [pressAll, slotsOf]⟩
  | some action =>
    have hslots : slotsOf registry (some action).toList = actionSlots registry action := by
      simp [slotsOf]
    rw [hslots] at hnodup ⊢
    obtain ⟨hopen, hnext, hmask, hintents⟩ := pressSlots_pressed action hnodup start
    exact ⟨hopen, hnext, hmask, hintents⟩

/-- The press action compiles exactly when its slots are free and unreleased. -/
theorem compileDown_eq_ok {packetId nextGenerationId : ℕ} {downAction : Option KeyActionInput}
    {ups : UpPass} {result : DownResult}
    (hnodup : (slotsOf registry downAction.toList).Nodup)
    (hreason : ∀ action ∈ downAction, action.reason ∈ ups.reasonTable)
    (hintents : ups.intents.length < 2 ^ 32)
    (hroom : nextGenerationId + (slotsOf registry downAction.toList).length ≤
      maxCompactGenerationId) :
    compileDown registry packetId downAction nextGenerationId ups = .ok result ↔
      (∀ slot ∈ slotsOf registry downAction.toList,
        ups.physicalUpSourceActionIndexBySlot slot = none ∧
          ups.openGenerationBySlot slot = none) ∧
      result = ⟨pressAll registry downAction
          ⟨ups.openGenerationBySlot, nextGenerationId, 0#16, ups.intents⟩, ups.reasonTable,
        ups.groupBatches ++
          batchesFrom packetId ups.reasonTable ups.intents.length downAction.toList,
        downAction.map (·.sourceActionIndex)⟩ := by
  cases downAction with
  | none =>
    simp only [compileDown, Except.ok.injEq]
    constructor
    · rintro rfl
      exact ⟨nofun, by simp [pressAll, batchesFrom]⟩
    · rintro ⟨-, rfl⟩
      simp [pressAll, batchesFrom]
  | some action =>
    have hslots : slotsOf registry (some action).toList = actionSlots registry action := by
      simp [slotsOf]
    rw [hslots] at hnodup hroom ⊢
    have hcodes := @compileDownCodes_eq_ok registry ups.physicalUpSourceActionIndexBySlot action
      (sortedScanCodes registry action) hnodup
      ⟨ups.openGenerationBySlot, nextGenerationId, 0#16, ups.intents⟩
    have hroom' : nextGenerationId + (sortedScanCodes registry action).length ≤
        maxCompactGenerationId := by
      rwa [actionSlots_length, ← (@sortedScanCodes_perm registry action).length_eq]
        at hroom
    simp only [compileDown, Except.bind_eq_ok, getOrInsertReason_eq_ok, arenaIndex_eq_ok,
      internReason_of_mem (hreason action rfl), hcodes hroom', Except.pure_eq_ok]
    constructor
    · rintro ⟨_, ⟨-, rfl⟩, _, ⟨-, rfl⟩, _, ⟨hfree, rfl⟩, rfl⟩
      exact ⟨hfree, rfl⟩
    · rintro ⟨hfree, rfl⟩
      exact ⟨_, ⟨Or.inl (hreason action rfl), rfl⟩, _, ⟨hintents, rfl⟩, _, ⟨hfree, rfl⟩, rfl⟩

/-- The release pass at the start of a group. -/
def startUps (state : CompilerState) (group : List KeyActionInput) : UpPass :=
  ⟨state.openGenerationBySlot, (scanned state group).reasonTable, 0#16, 0#16, SlotTable.empty,
    state.intents, []⟩

/-- The releases of a scanned group compile exactly when no slot is released twice. -/
theorem compileGroupUps_eq_ok (hregistry : registry.WellFormed) {state : CompilerState}
    {group : List KeyActionInput}
    (hscan : Guarded (ScanAdmits registry) scanStep (startScan state) group)
    (hroom : state.intents.length + maxKeys * group.length < 2 ^ 32) (packetId : ℕ) :
    ((upSlots registry group).Nodup →
      ∃ ups, (group.filter (fun action => action.kind = .up)).foldlM
        (compileUp registry packetId) (startUps state group) = .ok ups) ∧
    ∀ ups, (group.filter (fun action => action.kind = .up)).foldlM
        (compileUp registry packetId) (startUps state group) = .ok ups →
      (upSlots registry group).Nodup ∧
      Released (upSlots registry group) (startUps state group) ups ∧
      ups.groupBatches = batchesFrom packetId (scanned state group).reasonTable
        state.intents.length (group.filter (fun action => action.kind = .up)) := by
  have hshapes := scan_shapes hscan
  have hslots : ∀ action ∈ group.filter (fun action => action.kind = .up),
      ∀ scanCode ∈ action.scanCodes, slotOf registry scanCode < 16 := by
    intro action haction scanCode hcode
    have hlt := slotOf_lt hregistry
      ((hshapes action (List.mem_filter.mp haction).1).allowed scanCode hcode)
    rw [maxKeys] at hlt
    omega
  have hreasons : ∀ action ∈ group.filter (fun action => action.kind = .up),
      action.reason ∈ (startUps state group).reasonTable := fun action haction =>
    (scan_reasons (startScan state) group).2 action (List.mem_filter.mp haction).1
  have hle := GroupAdmits.slots_le hscan
  have hcompile := @compileUps_eq_ok registry packetId _ (startUps state group) hslots hreasons
    (show state.intents.length + (upSlots registry group).length < 2 ^ 32 by omega)
  refine ⟨fun hnodup => hcompile.1 ⟨hnodup, fun slot _ => by simp [startUps]⟩,
    fun ups hups => ?_⟩
  obtain ⟨hnodup, -, hreleased, hbatches⟩ := hcompile.2 ups hups
  exact ⟨hnodup, hreleased, hbatches⟩

/-- A slot that the releases of a group leave free and unmatched was free before them. -/
theorem released_free {slots : List ℕ} {before after : UpPass} (h : Released slots before after)
    (hphysical : before.physicalUpSourceActionIndexBySlot = SlotTable.empty) (slot : ℕ) :
    (after.physicalUpSourceActionIndexBySlot slot = none ∧
      after.openGenerationBySlot slot = none) ↔ before.openGenerationBySlot slot = none := by
  have hmatched := h.physical slot
  rw [hphysical] at hmatched
  rw [h.openGenerationBySlot, SlotTable.putAll_apply]
  cases hafter : after.physicalUpSourceActionIndexBySlot slot <;>
    cases hbefore : before.openGenerationBySlot slot <;>
    by_cases hslot : slot ∈ slots <;>
    simp_all [SlotTable.empty]

/-- The press slots of a scanned group are distinct and known, with room for generations. -/
theorem scanned_down {state : CompilerState}
    {group : List KeyActionInput}
    (hscan : Guarded (ScanAdmits registry) scanStep (startScan state) group) :
    slotsOf registry (scanned state group).downAction.toList = downSlots registry group ∧
      (downSlots registry group).Nodup ∧
      (∀ action ∈ (scanned state group).downAction,
        action.reason ∈ (scanned state group).reasonTable) ∧
      batchesFrom state.packets.length (scanned state group).reasonTable
          (state.intents.length + (upSlots registry group).length)
          (scanned state group).downAction.toList =
        batchesFrom state.packets.length (scanned state group).reasonTable
          (state.intents.length + (upSlots registry group).length)
          (group.filter (fun action => action.kind = .down)) := by
  have hshapes := scan_shapes hscan
  have hdown : group.filter (fun action => action.kind = .down) =
      (scanned state group).downAction.toList := scan_downAction hscan
  refine ⟨by rw [downSlots, hdown], ?_, fun action haction => ?_, by rw [hdown]⟩
  · rw [downSlots, hdown]
    cases hsome : (scanned state group).downAction with
    | none => exact List.nodup_nil
    | some action =>
      have hmem : action ∈ group.filter (fun action => action.kind = .down) := by
        rw [hdown, hsome]
        simp
      have hshape := hshapes action (List.mem_filter.mp hmem).1
      simpa [slotsOf] using actionSlots_nodup hshape.nodup hshape.allowed
  · have hmem : action ∈ group.filter (fun action => action.kind = .down) := by
      rw [hdown]
      simpa using haction
    exact (scan_reasons (startScan state) group).2 action (List.mem_filter.mp hmem).1

/-- The group's packet and state, assembled from its passes, are its layout. -/
theorem assemble_eq_layoutGroup {state : CompilerState} {group : List KeyActionInput}
    {ups : UpPass} (hscan : Guarded (ScanAdmits registry) scanStep (startScan state) group)
    (hreleased : Released (upSlots registry group) (startUps state group) ups)
    (hbatches : ups.groupBatches = batchesFrom state.packets.length
      (scanned state group).reasonTable state.intents.length
      (group.filter (fun action => action.kind = .up))) :
    let pressed := pressAll registry (scanned state group).downAction
      ⟨ups.openGenerationBySlot, state.nextGenerationId, 0#16, ups.intents⟩
    (⟨pressed.nextGenerationId, pressed.openGenerationBySlot, (scanned state group).reasonTable,
      state.batches ++ sortBatches (ups.groupBatches ++
        batchesFrom state.packets.length (scanned state group).reasonTable
          (state.intents.length + (upSlots registry group).length)
          (group.filter (fun action => action.kind = .down))),
      pressed.intents,
      state.packets ++ [⟨state.packets.length, groupTime group, state.batches.length,
        group.length, ups.upMask, pressed.downMask, state.intents.length,
        ups.intents.length - state.intents.length, ups.intents.length,
        pressed.intents.length - ups.intents.length,
        (scanned state group).downAction.map (·.sourceActionIndex)⟩],
      (scanned state group).previousSourceIndex, (scanned state group).previousScheduledUs⟩ :
        CompilerState) = layoutGroup registry state group := by
  obtain ⟨hslots, hnodup, -, -⟩ := scanned_down hscan
  obtain ⟨hopen, hnext, hmask, hintents⟩ := @pressAll_pressed registry
    (scanned state group).downAction
    ⟨ups.openGenerationBySlot, state.nextGenerationId, 0#16, ups.intents⟩ (by rwa [hslots])
  rw [hslots] at hopen hnext hmask hintents
  dsimp only at hopen hnext hmask hintents ⊢
  have hupIntents : ups.intents = state.intents ++ groupUpIntents registry state group :=
    hreleased.intents
  have hopenAll : (pressAll registry (scanned state group).downAction
      ⟨ups.openGenerationBySlot, state.nextGenerationId, 0#16, ups.intents⟩).openGenerationBySlot =
      (layoutGroup registry state group).openGenerationBySlot := by
    funext slot
    rw [hopen, hreleased.openGenerationBySlot, SlotTable.putAll_apply]
    rfl
  have hlengths : (groupUpIntents registry state group).length =
      (upSlots registry group).length := List.length_map _
  rw [hopenAll, hnext, hmask, hintents, hbatches,
    sortBatches_eq_placeBatches (scan_sorted hscan).2.2.1, hreleased.upMask, hupIntents]
  simp only [layoutGroup, groupPacket, groupDownIntents, startUps, List.length_append,
    List.length_map, List.length_zipIdx, hlengths, BitVec.zero_or, Nat.add_sub_cancel_left]

/-- A group compiles exactly when it is admitted, and its outcome is its layout. -/
theorem compileGroup_eq_ok (hregistry : registry.WellFormed) {state next : CompilerState}
    {group : List KeyActionInput} {later : ℕ} (hroom : Roomy state (group.length + later)) :
    compileGroup registry state group = .ok next ↔
      GroupAdmits registry state group ∧ next = layoutGroup registry state group := by
  obtain ⟨hpackets, hbatches, hintents, hgenerations⟩ := hroom
  have hroomIntents : state.intents.length + maxKeys * group.length < 2 ^ 32 := by
    simp only [maxActions, maxKeys] at hintents ⊢
    omega
  have hroomArenas : state.packets.length < 2 ^ 32 ∧ state.batches.length < 2 ^ 32 := by
    rw [maxActions] at hpackets hbatches
    omega
  have hlayout : ∀ {ups : UpPass}, (hscan : Guarded (ScanAdmits registry) scanStep
      (startScan state) group) →
      Released (upSlots registry group) (startUps state group) ups → ∀ {downs : DownResult},
      (compileDown registry state.packets.length (scanned state group).downAction
          state.nextGenerationId ups = .ok downs ↔
        (∀ slot ∈ downSlots registry group, state.openGenerationBySlot slot = none) ∧
        downs = ⟨pressAll registry (scanned state group).downAction
            ⟨ups.openGenerationBySlot, state.nextGenerationId, 0#16, ups.intents⟩,
          (scanned state group).reasonTable,
          ups.groupBatches ++ batchesFrom state.packets.length (scanned state group).reasonTable
            (state.intents.length + (upSlots registry group).length)
            (group.filter (fun action => action.kind = .down)),
          (scanned state group).downAction.map (·.sourceActionIndex)⟩) := by
    intro ups hscan hreleased downs
    obtain ⟨hslots, hnodup, hreason, hplaced⟩ := scanned_down hscan
    have hle := GroupAdmits.slots_le hscan
    have htable : ups.reasonTable = (scanned state group).reasonTable := hreleased.reasonTable
    have hlength : ups.intents.length =
        state.intents.length + (upSlots registry group).length := by
      rw [hreleased.intents, List.length_append, List.length_map]
      rfl
    rw [compileDown_eq_ok (by rwa [hslots]) (by rwa [htable]) (by omega) (by
      rw [hslots]
      simp only [maxActions, maxKeys, maxCompactGenerationId] at *
      omega), hslots, htable, hlength, hplaced]
    simp only [released_free hreleased rfl]
    rfl
  have hroomUps : ∀ {ups : UpPass}, Guarded (ScanAdmits registry) scanStep (startScan state)
      group → Released (upSlots registry group) (startUps state group) ups →
      ups.intents.length < 2 ^ 32 := by
    intro ups hscan hreleased
    have hle := GroupAdmits.slots_le hscan
    rw [hreleased.intents, List.length_append, List.length_map, startUps]
    dsimp only
    omega
  simp only [compileGroup, Except.bind_eq_ok, arenaIndex_eq_ok, okOr_eq_ok, fit_eq_some,
    foldlM_eq_ok (fun scan action result => @scanAction_eq_ok registry hregistry scan result
      action), Except.pure_eq_ok]
  constructor
  · rintro ⟨_, ⟨-, rfl⟩, _, ⟨-, rfl⟩, _, ⟨hscan, rfl⟩, _, ⟨-, rfl⟩, ups, hups, _, ⟨-, rfl⟩, downs,
      hdowns, _, ⟨-, rfl⟩, rfl⟩
    obtain ⟨hnodup, hreleased, hupBatches⟩ :=
      (compileGroupUps_eq_ok hregistry hscan hroomIntents _).2 ups hups
    obtain ⟨hfree, rfl⟩ := (hlayout hscan hreleased).mp hdowns
    exact ⟨⟨hscan, hnodup, hfree⟩, assemble_eq_layoutGroup hscan hreleased hupBatches⟩
  · rintro ⟨hadmits, rfl⟩
    obtain ⟨hscan, hnodup, hfree⟩ := hadmits
    have hups := compileGroupUps_eq_ok hregistry hscan hroomIntents state.packets.length
    obtain ⟨ups, hcompiled⟩ := hups.1 hnodup
    obtain ⟨-, hreleased, hupBatches⟩ := hups.2 ups hcompiled
    have hcount : group.length < 2 ^ 16 :=
      Nat.lt_of_le_of_lt (GroupAdmits.length_le hregistry ⟨hscan, hnodup, hfree⟩) (by decide)
    exact ⟨_, ⟨hroomArenas.1, rfl⟩, _, ⟨hroomArenas.2, rfl⟩, _, ⟨hscan, rfl⟩, _,
      ⟨by omega, rfl⟩, ups, hcompiled, _, ⟨hroomUps hscan hreleased, rfl⟩, _,
      (hlayout hscan hreleased).mpr ⟨hfree, rfl⟩, _, ⟨hcount, rfl⟩,
      assemble_eq_layoutGroup hscan hreleased hupBatches⟩

/-- The compiler's state after groups whose checks pass. -/
def compiledState (registry : KeyRegistry) (groups : List (List KeyActionInput)) :
    CompilerState :=
  groups.foldl (layoutGroup registry) CompilerState.initial

/-- The arenas keep enough room while admitted groups are laid out. -/
theorem GroupAdmits.roomy {state : CompilerState} {group : List KeyActionInput} {later : ℕ}
    (h : GroupAdmits registry state group) (hgroup : group ≠ [])
    (hroom : Roomy state (group.length + later)) :
    Roomy (layoutGroup registry state group) later := by
  obtain ⟨hpackets, hbatches, hintents, hgenerations⟩ := hroom
  have hslots := GroupAdmits.slots_le h.scan
  have hpos := List.length_pos_of_ne_nil hgroup
  have hplaced : (placeBatches state.packets.length (scanned state group).reasonTable
      state.intents.length (state.intents.length + (upSlots registry group).length)
      group).length = group.length := by
    have hmap := congrArg List.length (placeBatches_sourceActionIndex state.packets.length
      (scanned state group).reasonTable state.intents.length
      (state.intents.length + (upSlots registry group).length) group)
    rwa [List.length_map, List.length_map] at hmap
  simp only [maxKeys, maxActions] at *
  constructor
  · simp only [layoutGroup, List.length_append, List.length_singleton, maxActions]
    omega
  · simp only [layoutGroup, List.length_append, hplaced, maxActions]
    omega
  · simp only [layoutGroup, List.length_append, groupUpIntents, groupDownIntents,
      List.length_map, List.length_zipIdx, maxActions, maxKeys]
    omega
  · simp only [layoutGroup, maxActions, maxKeys]
    omega

/-- Groups compile exactly when each is admitted, and their outcome is their layout. -/
theorem compileGroups_eq_ok (hregistry : registry.WellFormed)
    {groups : List (List KeyActionInput)} {final : CompilerState}
    (hgroups : ∀ group ∈ groups, group ≠ []) (hroom : groups.flatten.length ≤ maxActions) :
    groups.foldlM (compileGroup registry) CompilerState.initial = .ok final ↔
      Guarded (GroupAdmits registry) (layoutGroup registry) CompilerState.initial groups ∧
        final = compiledState registry groups := by
  refine @foldlM_eq_ok_of_invariant _ _ _ _ _ _
    (fun state rest => Roomy state rest.flatten.length ∧ ∀ group ∈ rest, group ≠ [])
    (fun state group rest h next => ?_) (fun state group rest h hgood => ?_) _ _ _ ⟨?_, hgroups⟩
  · rw [List.flatten_cons, List.length_append] at h
    exact compileGroup_eq_ok hregistry h.1
  · rw [List.flatten_cons, List.length_append] at h
    exact ⟨hgood.roomy (h.2 group List.mem_cons_self) h.1,
      fun other hother => h.2 other (List.mem_cons_of_mem _ hother)⟩
  · rw [maxActions] at hroom
    constructor <;>
      simp only [CompilerState.initial, List.length_nil, Nat.zero_add, maxActions, maxKeys] <;>
      omega

/-- The end check passes when no slot is held. -/
theorem rejectUnclosed_eq_ok {openGenerationBySlot : SlotTable OpenGeneration} {done : Unit} :
    rejectUnclosed registry openGenerationBySlot = .ok done ↔
      ∀ slot < maxKeys, openGenerationBySlot slot = none := by
  unfold rejectUnclosed
  split
  · rename_i hnone
    refine ⟨fun _ slot hslot => ?_, fun _ => rfl⟩
    have hopen := List.find?_eq_none.mp hnone slot (List.mem_range.mpr hslot)
    simpa using hopen
  · rename_i slot hsome
    have hopen := List.find?_some hsome
    have hslot := List.mem_range.mp (List.mem_of_find?_eq_some hsome)
    obtain ⟨first, hfirst⟩ := Option.isSome_iff_exists.mp hopen
    rw [hfirst]
    refine ⟨nofun, fun hall => ?_⟩
    rw [hall slot hslot] at hfirst
    cases hfirst

/-- The allowlist check passes on one to fifteen distinct codes. -/
theorem checkAllowedScanCodes_eq_ok {allowedScanCodes : List ℕ} {done : Unit} :
    checkAllowedScanCodes allowedScanCodes = .ok done ↔
      allowedScanCodes ≠ [] ∧ allowedScanCodes.length ≤ maxKeys ∧ allowedScanCodes.Nodup := by
  have hdistinct : ∀ seen codes : List ℕ, checkAllowedScanCodes.checkDistinct seen codes =
      .ok done ↔ codes.Nodup ∧ ∀ code ∈ codes, code ∉ seen := by
    intro seen codes
    induction codes generalizing seen with
    | nil => simp [checkAllowedScanCodes.checkDistinct]
    | cons code rest ih =>
      unfold checkAllowedScanCodes.checkDistinct
      split
      · rename_i hseen
        exact ⟨nofun, fun h => absurd hseen (h.2 code List.mem_cons_self)⟩
      · rename_i hfresh
        rw [ih]
        simp only [List.nodup_cons, List.mem_append, List.mem_cons, List.not_mem_nil, or_false]
        constructor
        · rintro ⟨hnodup, hrest⟩
          refine ⟨⟨fun hmem => hrest code hmem (Or.inr rfl), hnodup⟩, ?_⟩
          rintro other (rfl | hother)
          · exact hfresh
          · exact fun hseen => hrest other hother (Or.inl hseen)
        · rintro ⟨⟨hcode, hnodup⟩, hrest⟩
          refine ⟨hnodup, fun other hother hseen => ?_⟩
          rcases hseen with hseen | rfl
          · exact hrest other (Or.inr hother) hseen
          · exact hcode hother
  simp only [checkAllowedScanCodes, Except.bind_eq_ok, failIf_eq_ok, hdistinct]
  simp [not_or, and_assoc]

/-- A valid allowlist is its own registry. -/
theorem registry_of_nodup {allowedScanCodes : List ℕ} (h : allowedScanCodes.Nodup) :
    KeyRegistry.new allowedScanCodes = ⟨allowedScanCodes⟩ := by
  have hkeep : keepFirst id [] allowedScanCodes = allowedScanCodes :=
    keepFirst_eq_self h (by simp)
  rw [KeyRegistry.new, hkeep]

/-- When the compiler accepts its input. -/
structure Accepted (actions : List KeyActionInput) (allowedScanCodes : List ℕ) : Prop where
  allowed_nonempty : allowedScanCodes ≠ []
  allowed_count : allowedScanCodes.length ≤ maxKeys
  allowed_nodup : allowedScanCodes.Nodup
  action_count : actions.length ≤ maxActions
  groups : Guarded (GroupAdmits ⟨allowedScanCodes⟩) (layoutGroup ⟨allowedScanCodes⟩)
    CompilerState.initial (timestampGroups actions)
  closed : ∀ slot < maxKeys,
    (compiledState ⟨allowedScanCodes⟩ (timestampGroups actions)).openGenerationBySlot slot = none

/-- The registry of an accepted input. -/
theorem Accepted.wellFormed {actions : List KeyActionInput} {allowedScanCodes : List ℕ}
    (h : Accepted actions allowedScanCodes) :
    KeyRegistry.WellFormed ⟨allowedScanCodes⟩ := ⟨h.allowed_nodup, h.allowed_count⟩

/-- The schedule a compiler state stands for. -/
def scheduleOf (registry : KeyRegistry) (state : CompilerState) : RuntimeSchedule where
  packets := state.packets
  batches := state.batches
  intents := state.intents
  generationCount := state.nextGenerationId
  keyRegistry := registry
  reasonTable := state.reasonTable

/-- The groups are nonempty and their concatenation is the action list. -/
theorem timestampGroups_spec (actions : List KeyActionInput) :
    (timestampGroups actions).flatten = actions ∧
      ∀ group ∈ timestampGroups actions, group ≠ [] :=
  ⟨List.flatten_splitBy _ _, fun _ hgroup heq =>
    List.nil_notMem_splitBy _ _ (heq ▸ hgroup)⟩

/-- The compiler succeeds exactly on accepted inputs, with the schedule of their layout. -/
theorem compileRuntimeIntents_eq_ok {actions : List KeyActionInput}
    {allowedScanCodes : List ℕ} {schedule : RuntimeSchedule} :
    compileRuntimeIntents actions allowedScanCodes = .ok schedule ↔
      Accepted actions allowedScanCodes ∧ schedule =
        scheduleOf ⟨allowedScanCodes⟩
          (compiledState ⟨allowedScanCodes⟩ (timestampGroups actions)) := by
  obtain ⟨hflatten, hgroups⟩ := timestampGroups_spec actions
  simp only [compileRuntimeIntents, Except.bind_eq_ok, failIf_eq_ok, not_lt,
    checkAllowedScanCodes_eq_ok, rejectUnclosed_eq_ok, Except.pure_eq_ok]
  constructor
  · rintro ⟨_, ⟨hnonempty, hallowed, hnodup⟩, _, hcount, final, hfinal, _, hclosed, rfl⟩
    rw [registry_of_nodup hnodup] at hfinal
    obtain ⟨hguarded, rfl⟩ := (compileGroups_eq_ok ⟨hnodup, hallowed⟩ hgroups
      (by rwa [hflatten])).mp hfinal
    refine ⟨⟨hnonempty, hallowed, hnodup, hcount, hguarded, hclosed⟩, ?_⟩
    rw [registry_of_nodup hnodup]
    rfl
  · rintro ⟨h, rfl⟩
    refine ⟨(), ⟨h.allowed_nonempty, h.allowed_count, h.allowed_nodup⟩, (), h.action_count, _,
      ?_, (), h.closed, ?_⟩
    · rw [registry_of_nodup h.allowed_nodup]
      exact (compileGroups_eq_ok h.wellFormed hgroups (by
        rw [hflatten]
        exact h.action_count)).mpr ⟨h.groups, rfl⟩
    · rw [registry_of_nodup h.allowed_nodup]
      rfl

end SkyAutoPlayer.DispatchCore
