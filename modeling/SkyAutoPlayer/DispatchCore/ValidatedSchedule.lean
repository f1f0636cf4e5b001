import SkyAutoPlayer.DispatchCore.KeyTiming

/-!
# What the validator accepts of the compiler's schedules

The elements of a compiled schedule's walk that belong to one slot are the events of the slot's
key in the authored actions. On compiled schedules the validator therefore decides a property of
the authored actions alone: their times fit and convert, and the events of every key are
feasible.
-/

namespace SkyAutoPlayer.DispatchCore

open Foundation

variable {floors : TimingFloors} {registry : KeyRegistry}

/-- The batch of an action holds one event for each of the action's keys. -/
theorem batchWalk_events {state : CompilerState} {action : KeyActionInput}
    {batch : CompiledBatch} {scanCode : ℕ} (hcode : scanCode ∈ registry.scanCodes)
    (hshape : ActionShape registry action)
    (h : EncodesAction registry state.intents state.reasonTable action batch) :
    ((batchWalk (scheduleOf registry state) batch).filter
        (fun walked => walked.slot = slotOf registry scanCode)).map (·.event) =
      if scanCode ∈ action.scanCodes then [action.event] else [] := by
  obtain ⟨part, hpart, hslots⟩ := h.intents
  have hslice : (scheduleOf registry state).intentSlice batch = some part := hpart
  have hevent : (⟨batch.scheduledUs, batch.kind⟩ : KeyEvent) = action.event := by
    rw [h.kind, h.scheduledUs]
    rfl
  have hmem : slotOf registry scanCode ∈ actionSlots registry action ↔
      scanCode ∈ action.scanCodes := by
    have hslot := @slotOf_mem_slotsOf registry [action] scanCode hcode
      (by simpa using hshape.allowed)
    simpa [slotsOf] using hslot
  -- the batch names each slot once
  have hcount : (part.filter fun intent => intent.keySlot = slotOf registry scanCode).length =
      if scanCode ∈ action.scanCodes then 1 else 0 := by
    have hnodup := (actionSlots_nodup hshape.nodup hshape.allowed).count (a := slotOf registry
      scanCode)
    rw [← hslots, List.count, List.countP_map, List.countP_eq_length_filter, hslots] at hnodup
    simp only [hmem] at hnodup
    exact hnodup
  rw [batchWalk, hslice, Option.getD_some, List.filter_map, List.map_map]
  have hconst : ((fun walked : WalkedIntent => walked.event) ∘ fun intent => ⟨batch, intent⟩) =
      fun _ => action.event := by
    funext intent
    exact hevent
  rw [hconst, List.map_const']
  change List.replicate (part.filter fun intent =>
    intent.keySlot = slotOf registry scanCode).length action.event = _
  rw [hcount]
  split <;> rfl

/-- The batches of a group's actions of one kind hold the group's events of that kind. -/
theorem kindWalk_events {state : CompilerState} {actions : List KeyActionInput}
    {batches : List CompiledBatch} {scanCode : ℕ} (hcode : scanCode ∈ registry.scanCodes)
    (hshapes : ∀ action ∈ actions, ActionShape registry action) (kind : ActionKind)
    (h : List.Forall₂ (EncodesAction registry state.intents state.reasonTable) actions batches) :
    ((kindWalk (scheduleOf registry state) kind batches).filter
        (fun walked => walked.slot = slotOf registry scanCode)).map (·.event) =
      kindEvents scanCode kind actions := by
  induction h with
  | nil => rfl
  | @cons action batch rest batches hbatch hrest ih =>
    have hih := ih fun other hother => hshapes other (List.mem_cons_of_mem _ hother)
    have hevents := batchWalk_events hcode (hshapes action List.mem_cons_self) hbatch
    unfold kindWalk kindEvents at hih ⊢
    by_cases hkind : action.kind = kind
    · rw [List.filter_cons_of_pos (by simp [hbatch.kind, hkind]),
        List.filter_cons_of_pos (by simp [hkind]), List.flatMap_cons, List.filter_append,
        List.map_append, hevents, hih]
      by_cases hmem : scanCode ∈ action.scanCodes
      · rw [if_pos hmem, List.filter_cons_of_pos (by simp [hmem])]
        rfl
      · rw [if_neg hmem, List.filter_cons_of_neg (by simp [hmem])]
        rfl
    · rw [List.filter_cons_of_neg (by simp [hbatch.kind, hkind]),
        List.filter_cons_of_neg (by simp [hkind]), hih]

/-- The elements of a packet that belong to a key are the group's events of the key. -/
theorem packetWalk_events {state : CompilerState} {group : List KeyActionInput}
    {packet : CompiledPacket} {scanCode : ℕ} (hcode : scanCode ∈ registry.scanCodes)
    (hshapes : ∀ action ∈ group, ActionShape registry action)
    (h : EncodesGroup registry state.intents state.reasonTable state.batches group packet) :
    ((packetWalk (scheduleOf registry state) packet).filter
        (fun walked => walked.slot = slotOf registry scanCode)).map (·.event) =
      groupEvents scanCode group := by
  obtain ⟨own, hown, hencodes, -⟩ := h.batches
  have hbatches : packetBatches (scheduleOf registry state) packet = own := by
    have hslice : slice (scheduleOf registry state).batches packet.firstBatchIndex
        packet.batchCount = some own := hown
    rw [packetBatches, hslice]
    rfl
  rw [packetWalk, hbatches, List.filter_append, List.map_append,
    kindWalk_events hcode hshapes .up hencodes, kindWalk_events hcode hshapes .down hencodes,
    groupEvents]

/-- The walk of a laid-out schedule holds, for each key, the events of its groups. -/
theorem scheduleWalk_events {state : CompilerState} {groups : List (List KeyActionInput)}
    {packets : List CompiledPacket} {scanCode : ℕ} (hcode : scanCode ∈ registry.scanCodes)
    (hshapes : ∀ group ∈ groups, ∀ action ∈ group, ActionShape registry action)
    (h : List.Forall₂ (EncodesGroup registry state.intents state.reasonTable state.batches)
      groups packets) :
    ((packets.flatMap (packetWalk (scheduleOf registry state))).filter
        (fun walked => walked.slot = slotOf registry scanCode)).map (·.event) =
      groups.flatMap (groupEvents scanCode) := by
  induction h with
  | nil => rfl
  | @cons group packet groups packets hpacket hrest ih =>
    rw [List.flatMap_cons, List.filter_append, List.map_append, List.flatMap_cons,
      packetWalk_events hcode (hshapes group List.mem_cons_self) hpacket,
      ih fun other hother => hshapes other (List.mem_cons_of_mem _ hother)]

/-- Batches have the times of the actions they encode. -/
theorem encoded_times {intents : List CompactIntent} {reasons : List String}
    {actions : List KeyActionInput} {batches : List CompiledBatch}
    (h : List.Forall₂ (EncodesAction registry intents reasons) actions batches) :
    batches.map (·.scheduledUs) = actions.map (·.scheduledUs) := by
  induction h with
  | nil => rfl
  | cons hbatch _ ih => rw [List.map_cons, List.map_cons, ih, hbatch.scheduledUs]

/-- The times of the packets' batches are the times of the groups' actions. -/
theorem packetBatches_times {state : CompilerState} {groups : List (List KeyActionInput)}
    {packets : List CompiledPacket} {P : ℕ → Prop}
    (h : List.Forall₂ (EncodesGroup registry state.intents state.reasonTable state.batches)
      groups packets) :
    (∀ packet ∈ packets, ∀ batch ∈ packetBatches (scheduleOf registry state) packet,
        P batch.scheduledUs) ↔ ∀ action ∈ groups.flatten, P action.scheduledUs := by
  induction h with
  | nil => simp
  | @cons group packet groups packets hpacket hrest ih =>
    obtain ⟨own, hown, hencodes, -⟩ := hpacket.batches
    have hbatches : packetBatches (scheduleOf registry state) packet = own := by
      have hslice : slice (scheduleOf registry state).batches packet.firstBatchIndex
          packet.batchCount = some own := hown
      rw [packetBatches, hslice]
      rfl
    have hhead : (∀ batch ∈ own, P batch.scheduledUs) ↔
        ∀ action ∈ group, P action.scheduledUs := by
      have htimes := encoded_times hencodes
      rw [← List.forall_mem_map (f := CompiledBatch.scheduledUs) (P := P), htimes,
        List.forall_mem_map]
    rw [List.forall_mem_cons, ih, hbatches, hhead, List.flatten_cons]
    simp only [List.mem_append, or_imp, forall_and]

/-- The elements of a sound schedule's walk have slots of the registry. -/
theorem RuntimeSchedule.Sound.walk_slot_lt {schedule : RuntimeSchedule} (h : schedule.Sound) :
    ∀ walked ∈ scheduleWalk schedule,
      walked.slot < schedule.keyRegistry.scanCodes.length := by
  intro walked hwalked
  obtain ⟨packet, hpacket, hmem⟩ := List.mem_flatMap.mp hwalked
  obtain ⟨ups, downs, hwalk, hups, hdowns, -, -⟩ := (h.packets packet hpacket).walk
  refine (h.packets packet hpacket).slots walked.intent ?_
  rw [hwalk] at hmem
  rw [← hups, ← hdowns, ← List.map_append]
  exact List.mem_map_of_mem hmem

/-- The validator accepts the schedule of accepted actions exactly when the actions' times fit
and convert and the events of every key are feasible. -/
theorem validateFeasibility_compiled {actions : List KeyActionInput}
    {allowedScanCodes : List ℕ} {schedule : RuntimeSchedule}
    (h : compileRuntimeIntents actions allowedScanCodes = .ok schedule) {done : Unit} :
    validateFeasibility floors schedule = .ok done ↔
      (actions.getLast?.map (·.scheduledUs)).getD 0 + floors.effectiveMinHoldUs < 2 ^ 64 ∧
      (∀ action ∈ actions, (floors.microsecondsToTicks action.scheduledUs).isSome = true) ∧
      ∀ scanCode ∈ allowedScanCodes, FeasibleEvents floors (keyEvents scanCode actions) := by
  have hsound := compiled_sound h
  obtain ⟨haccepted, rfl⟩ := compileRuntimeIntents_eq_ok.mp h
  obtain ⟨hflatten, htimes, hsorted⟩ := timestampGroups_sound haccepted.sorted.2
  have hlaid := haccepted.laid
  have hshapes := haccepted.group_shapes
  have hactions := hlaid.actions
  rw [hflatten] at hactions
  have hlast : ((compiledState ⟨allowedScanCodes⟩ (timestampGroups actions)).batches.getLast?.map
      (·.scheduledUs)).getD 0 = (actions.getLast?.map (·.scheduledUs)).getD 0 := by
    rw [← List.getLast?_map, ← List.getLast?_map, encoded_times hactions]
  have hconvert := @packetBatches_times ⟨allowedScanCodes⟩ _ _ _
    (fun time => (floors.microsecondsToTicks time).isSome = true) hlaid.packets
  rw [hflatten] at hconvert
  have hslots : (∀ slot, FeasibleEvents floors (((scheduleWalk (scheduleOf ⟨allowedScanCodes⟩
        (compiledState ⟨allowedScanCodes⟩ (timestampGroups actions)))).filter
          (fun walked => walked.slot = slot)).map (·.event))) ↔
      ∀ scanCode ∈ allowedScanCodes, FeasibleEvents floors (keyEvents scanCode actions) := by
    have hcode : ∀ scanCode ∈ allowedScanCodes, ((scheduleWalk (scheduleOf ⟨allowedScanCodes⟩
        (compiledState ⟨allowedScanCodes⟩ (timestampGroups actions)))).filter
          (fun walked => walked.slot = slotOf ⟨allowedScanCodes⟩ scanCode)).map (·.event) =
        keyEvents scanCode actions := by
      intro scanCode hscanCode
      rw [← hflatten, keyEvents_eq_flatMap htimes hsorted]
      rw [hflatten]
      exact @scheduleWalk_events ⟨allowedScanCodes⟩ _ _ _ scanCode hscanCode hshapes
        hlaid.packets
    refine ⟨fun hall scanCode hscanCode => ?_, fun hall slot => ?_⟩
    · rw [← hcode scanCode hscanCode]
      exact hall _
    · by_cases hlt : slot < allowedScanCodes.length
      · have hslot : slotOf ⟨allowedScanCodes⟩ allowedScanCodes[slot] = slot := by
          rw [@slotOf_of_mem ⟨allowedScanCodes⟩ _ (List.getElem_mem hlt)]
          exact haccepted.allowed_nodup.idxOf_getElem slot hlt
        have hevents := hcode _ (List.getElem_mem hlt)
        rw [hslot] at hevents
        rw [hevents]
        exact hall _ (List.getElem_mem hlt)
      · have hnil : (scheduleWalk (scheduleOf ⟨allowedScanCodes⟩ (compiledState
            ⟨allowedScanCodes⟩ (timestampGroups actions)))).filter
              (fun walked => walked.slot = slot) = [] := by
          rw [List.filter_eq_nil_iff]
          intro walked hwalked heq
          have hwalkedLt := hsound.walk_slot_lt walked hwalked
          rw [of_decide_eq_true heq] at hwalkedLt
          exact hlt hwalkedLt
        rw [hnil]
        trivial
  rw [validateFeasibility_sound hsound, hslots]
  exact and_congr (by rw [← hlast]; rfl) (and_congr hconvert Iff.rfl)

end SkyAutoPlayer.DispatchCore
