import Mathlib.Data.List.Dedup
import Mathlib.Data.List.Perm.Basic
import SkyAutoPlayer.DispatchCore.CompiledSchedule

/-!
# What the compiler accepts

Well-formed inputs are described without the compiler: bounds on the allowlist and on each
action, sorted indices and times, the pairs of actions one timestamp may hold, and a two-state
automaton that reads the events of one key. The compiler accepts exactly the well-formed inputs.
-/

namespace SkyAutoPlayer.DispatchCore

open Foundation

/-- A press or a release of one key. -/
structure KeyEvent where
  time : ℕ
  kind : ActionKind
  deriving DecidableEq, Repr

/-- The place of an event: by time, releases before presses. -/
def KeyEvent.order (event : KeyEvent) : ℕ :=
  2 * event.time + match event.kind with
    | .up => 0
    | .down => 1

/-- The event an action is for each of its keys. -/
def KeyActionInput.event (action : KeyActionInput) : KeyEvent :=
  ⟨action.scheduledUs, action.kind⟩

/-- The events of a key in time order, releases before presses. -/
def keyEvents (scanCode : ℕ) (actions : List KeyActionInput) : List KeyEvent :=
  ((actions.filter (fun action => scanCode ∈ action.scanCodes)).map (·.event)).insertionSort
    (fun a b => a.order ≤ b.order)

/-- A key is released, with the time of the last release that closed a press, or pressed. -/
inductive KeyState where
  | released (closedAt : Option ℕ)
  | pressed
  deriving DecidableEq, Repr

/-- One event of a key. A press must not meet a pressed key, nor a key whose press was closed at
the same time. -/
def keyStep : KeyState → KeyEvent → Option KeyState
  | .pressed, ⟨time, .up⟩ => some (.released (some time))
  | .pressed, ⟨_, .down⟩ => none
  | .released closedAt, ⟨_, .up⟩ => some (.released closedAt)
  | .released closedAt, ⟨time, .down⟩ => if closedAt = some time then none else some .pressed

/-- The inputs the compiler is meant for. -/
structure WellFormedInput (actions : List KeyActionInput) (allowedScanCodes : List ℕ) : Prop where
  allowed_nonempty : allowedScanCodes ≠ []
  allowed_count : allowedScanCodes.length ≤ maxKeys
  allowed_nodup : allowedScanCodes.Nodup
  action_count : actions.length ≤ maxActions
  indices : actions.Pairwise (fun a b => a.sourceActionIndex < b.sourceActionIndex)
  times : actions.Pairwise (fun a b => a.scheduledUs ≤ b.scheduledUs)
  codes : ∀ action ∈ actions, action.scanCodes ≠ [] ∧ action.scanCodes.length ≤ maxKeys ∧
    action.scanCodes.Nodup ∧ ∀ scanCode ∈ action.scanCodes, scanCode ∈ allowedScanCodes
  reason_lengths : ∀ action ∈ actions, action.reason.utf8ByteSize ≤ maxReasonBytes
  reason_count : (actions.map (·.reason)).dedup.length ≤ 2 ^ 16
  one_down : actions.Pairwise (fun a b => a.scheduledUs = b.scheduledUs →
    ¬(a.kind = .down ∧ b.kind = .down))
  one_up : actions.Pairwise (fun a b => a.scheduledUs = b.scheduledUs → a.kind = .up →
    b.kind = .up → a.scanCodes.Disjoint b.scanCodes)
  keys : ∀ scanCode ∈ allowedScanCodes, ∃ closedAt,
    (keyEvents scanCode actions).foldlM keyStep (.released none) = some (.released closedAt)

variable {registry : KeyRegistry}

/-- What a scan knows of the actions it has passed. -/
structure ScanFollows (earlier : List KeyActionInput) (scan : GroupScan) : Prop where
  index : scan.previousSourceIndex = earlier.getLast?.map (·.sourceActionIndex)
  time : scan.previousScheduledUs = earlier.getLast?.map (·.scheduledUs)
  reasons_nodup : scan.reasonTable.Nodup
  mem_reasons : ∀ reason, reason ∈ scan.reasonTable ↔ reason ∈ earlier.map (·.reason)

/-- One more action is known after its step. -/
theorem ScanFollows.step {earlier : List KeyActionInput} {scan : GroupScan}
    (h : ScanFollows earlier scan) (action : KeyActionInput) :
    ScanFollows (earlier ++ [action]) (scanStep scan action) where
  index := by
    rw [List.getLast?_concat]
    rfl
  time := by
    rw [List.getLast?_concat]
    rfl
  reasons_nodup := by
    have hnodup := h.reasons_nodup
    simp only [scanStep, GroupScan.advance, internReason]
    split
    · exact hnodup
    · rename_i hnew
      exact List.nodup_append'.mpr ⟨hnodup, List.nodup_singleton _, by simpa using hnew⟩
  mem_reasons reason := by
    have hmem := h.mem_reasons reason
    simp only [scanStep, GroupScan.advance, internReason, List.map_append, List.mem_append,
      List.map_singleton, List.mem_singleton]
    split
    · rename_i hknown
      rw [hmem]
      refine ⟨Or.inl, fun hor => hor.elim id fun heq => ?_⟩
      rw [heq]
      exact (h.mem_reasons _).mp hknown
    · rw [List.mem_append, List.mem_singleton, hmem]

/-- A whole run of actions is known after its scan. -/
theorem ScanFollows.run {earlier : List KeyActionInput} {scan : GroupScan}
    (h : ScanFollows earlier scan) (actions : List KeyActionInput) :
    ScanFollows (earlier ++ actions) (actions.foldl scanStep scan) := by
  induction actions generalizing earlier scan with
  | nil =>
    rw [List.append_nil]
    exact h
  | cons action rest ih =>
    have hrest := ih (h.step action)
    rw [List.append_assoc, List.singleton_append] at hrest
    exact hrest

/-- The scan at the start of a group knows the actions of all groups before it. -/
theorem scanFollows_compiledState (groups : List (List KeyActionInput)) :
    ScanFollows groups.flatten (startScan (compiledState registry groups)) := by
  induction groups using List.reverseRecOn with
  | nil => exact ⟨rfl, rfl, List.nodup_nil, fun _ => Iff.rfl⟩
  | append_singleton groups group ih =>
    obtain ⟨hindex, htime, hnodup, hmem⟩ := ih.run group
    rw [compiledState, List.foldl_concat, List.flatten_append, List.flatten_singleton]
    exact ⟨hindex, htime, hnodup, hmem⟩

/-- The press action a scan holds was scanned, or was held before. -/
theorem scan_downAction_mem {scan : GroupScan} {actions : List KeyActionInput}
    {action : KeyActionInput} (hstart : scan.downAction = none)
    (h : (actions.foldl scanStep scan).downAction = some action) :
    action ∈ actions ∧ action.kind = .down := by
  induction actions using List.reverseRecOn with
  | nil => rw [List.foldl_nil, hstart] at h; cases h
  | append_singleton rest last ih =>
    rw [List.foldl_concat, scanStep, GroupScan.advance] at h
    dsimp only at h
    split at h
    · rename_i hdown
      obtain rfl := Option.some.inj h
      exact ⟨by simp, hdown⟩
    · obtain ⟨hmem, hdown⟩ := ih h
      exact ⟨List.mem_append_left _ hmem, hdown⟩

/-- A pairwise condition on one time holds of all actions when it holds in every group. -/
theorem pairwise_groups {groups : List (List KeyActionInput)}
    (htimes : ∀ group ∈ groups, ∀ action ∈ group, action.scheduledUs = groupTime group)
    (hsorted : groups.Pairwise (fun a b => groupTime a < groupTime b))
    {R : KeyActionInput → KeyActionInput → Prop} :
    groups.flatten.Pairwise (fun a b => a.scheduledUs = b.scheduledUs → R a b) ↔
      ∀ group ∈ groups, group.Pairwise R := by
  rw [List.pairwise_flatten]
  have hacross : groups.Pairwise fun first second => ∀ a ∈ first, ∀ b ∈ second,
      a.scheduledUs = b.scheduledUs → R a b := by
    refine hsorted.imp_of_mem fun {first second} hfirst hsecond hlt a ha b hb heq => ?_
    rw [htimes first hfirst a ha, htimes second hsecond b hb] at heq
    omega
  refine ⟨fun h group hgroup => ?_, fun h => ⟨fun group hgroup => ?_, hacross⟩⟩
  · refine (h.1 group hgroup).imp_of_mem fun {a b} ha hb hab => hab ?_
    rw [htimes group hgroup a ha, htimes group hgroup b hb]
  · exact (h group hgroup).imp fun {a b} hab (_ : a.scheduledUs = b.scheduledUs) => hab

/-- A pairwise condition on the actions of one kind. -/
theorem pairwise_kind {group : List KeyActionInput} {kind : ActionKind}
    {R : KeyActionInput → KeyActionInput → Prop} :
    (group.filter (fun action => action.kind = kind)).Pairwise R ↔
      group.Pairwise (fun a b => a.kind = kind → b.kind = kind → R a b) := by
  rw [List.pairwise_filter]
  simp only [decide_eq_true_eq]

/-- Two actions share no slot exactly when they share no code. -/
theorem actionSlots_disjoint {a b : KeyActionInput}
    (ha : ∀ scanCode ∈ a.scanCodes, scanCode ∈ registry.scanCodes)
    (hb : ∀ scanCode ∈ b.scanCodes, scanCode ∈ registry.scanCodes) :
    (actionSlots registry a).Disjoint (actionSlots registry b) ↔
      a.scanCodes.Disjoint b.scanCodes := by
  constructor
  · intro h scanCode hcodeA hcodeB
    exact h (mem_actionSlots.mpr ⟨scanCode, hcodeA, rfl⟩)
      (mem_actionSlots.mpr ⟨scanCode, hcodeB, rfl⟩)
  · intro h slot hslotA hslotB
    obtain ⟨first, hfirst, hslot⟩ := mem_actionSlots.mp hslotA
    obtain ⟨second, hsecond, hslot'⟩ := mem_actionSlots.mp hslotB
    have heq := slotOf_injective (ha first hfirst) (hb second hsecond) (hslot.trans hslot'.symm)
    exact h hfirst (heq ▸ hsecond)

/-- No slot of a group is released twice when its releases share no code. -/
theorem upSlots_nodup {group : List KeyActionInput}
    (hshapes : ∀ action ∈ group, ActionShape registry action) :
    (upSlots registry group).Nodup ↔
      group.Pairwise (fun a b => a.kind = .up → b.kind = .up →
        a.scanCodes.Disjoint b.scanCodes) := by
  rw [← pairwise_kind, upSlots, slotsOf, List.nodup_flatMap]
  have hshape : ∀ action ∈ group.filter (fun action => action.kind = .up),
      ActionShape registry action := fun action haction =>
    hshapes action (List.mem_filter.mp haction).1
  constructor
  · intro h
    exact h.2.imp_of_mem fun ha hb hab =>
      (actionSlots_disjoint (hshape _ ha).allowed (hshape _ hb).allowed).mp hab
  · intro h
    refine ⟨fun action haction => ?_, h.imp_of_mem fun ha hb hab =>
      (actionSlots_disjoint (hshape _ ha).allowed (hshape _ hb).allowed).mpr hab⟩
    exact actionSlots_nodup (hshape action haction).nodup (hshape action haction).allowed

/-- An admitted group has no two press actions. -/
theorem scan_one_down {scan : GroupScan} {group : List KeyActionInput}
    (h : Guarded (ScanAdmits registry) scanStep scan group) :
    group.Pairwise (fun a b => ¬(a.kind = .down ∧ b.kind = .down)) := by
  have hfilter := scan_downAction h
  have hnone : (group.filter (fun action => action.kind = .down)).Pairwise
      (fun _ _ => False) := by
    refine List.Pairwise.sublist (List.sublist_append_right scan.downAction.toList _) ?_
    rw [hfilter]
    cases (group.foldl scanStep scan).downAction <;> simp
  exact (pairwise_kind.mp hnone).imp fun hab hboth => hab hboth.1 hboth.2

/-- The reason table of admitted actions stays within its bound. -/
theorem scan_reason_count {scan : GroupScan} {group : List KeyActionInput}
    (h : Guarded (ScanAdmits registry) scanStep scan group)
    (hscan : scan.reasonTable.length ≤ 2 ^ 16) :
    (group.foldl scanStep scan).reasonTable.length ≤ 2 ^ 16 := by
  refine h.foldl_invariant (P := fun scan => scan.reasonTable.length ≤ 2 ^ 16)
    (fun scan action hle hadmits => ?_) hscan
  simp only [scanStep, GroupScan.advance, internReason]
  split
  · exact hle
  · rename_i hnew
    have hroom := hadmits.room.resolve_left hnew
    rw [List.length_append, List.length_singleton]
    omega

/-- The known reasons are as many as the distinct reasons. -/
theorem ScanFollows.reason_count {earlier : List KeyActionInput} {scan : GroupScan}
    (h : ScanFollows earlier scan) :
    scan.reasonTable.length = (earlier.map (·.reason)).dedup.length := by
  refine List.Perm.length_eq ((List.perm_ext_iff_of_nodup h.reasons_nodup
    (List.nodup_dedup _)).mpr fun reason => ?_)
  rw [h.mem_reasons, List.mem_dedup]

/-- The scan of every group of a well-formed input passes. -/
theorem WellFormedInput.scans {actions : List KeyActionInput} {allowedScanCodes : List ℕ}
    (h : WellFormedInput actions allowedScanCodes) {before after : List (List KeyActionInput)}
    {group : List KeyActionInput} (hgroups : timestampGroups actions = before ++ group :: after) :
    Guarded (ScanAdmits ⟨allowedScanCodes⟩) scanStep
      (startScan (compiledState ⟨allowedScanCodes⟩ before)) group := by
  obtain ⟨hflatten, -⟩ := timestampGroups_spec actions
  refine guarded_iff.mpr fun first action rest hsplit => ?_
  subst hsplit
  have hfollows := ScanFollows.run
    (@scanFollows_compiledState ⟨allowedScanCodes⟩ before) first
  have hactions : actions = (before.flatten ++ first) ++ action :: (rest ++ after.flatten) := by
    rw [← hflatten, hgroups]
    simp
  have hmem : action ∈ actions := by
    rw [hactions]
    simp
  obtain ⟨hnonempty, hcount, hnodup, hallowed⟩ := h.codes action hmem
  -- what a sorted action list says about the actions before this one
  have hbefore : ∀ {R : KeyActionInput → KeyActionInput → Prop}, actions.Pairwise R →
      ∀ other ∈ before.flatten ++ first, R other action := by
    intro R hpairwise other hother
    rw [hactions] at hpairwise
    exact (List.pairwise_append.mp hpairwise).2.2 other hother action List.mem_cons_self
  refine
    { index := fun previous hprevious => ?_
      time := fun previous hprevious => ?_
      nonempty := hnonempty
      count := hcount
      reason := h.reason_lengths action hmem
      nodup := hnodup
      allowed := hallowed
      room := ?_
      single := fun hdown => ?_ }
  · rw [hfollows.index] at hprevious
    obtain ⟨last, hlast, rfl⟩ := Option.mem_map.mp hprevious
    exact hbefore h.indices last (List.mem_of_mem_getLast? hlast)
  · rw [hfollows.time] at hprevious
    obtain ⟨last, hlast, rfl⟩ := Option.mem_map.mp hprevious
    exact hbefore h.times last (List.mem_of_mem_getLast? hlast)
  · by_contra hfull
    obtain ⟨hnew, hlength⟩ := not_or.mp hfull
    have hnodupNew : (action.reason :: (first.foldl scanStep
        (startScan (compiledState ⟨allowedScanCodes⟩ before))).reasonTable).Nodup :=
      List.nodup_cons.mpr ⟨hnew, hfollows.reasons_nodup⟩
    have hsubset : (action.reason :: (first.foldl scanStep
        (startScan (compiledState ⟨allowedScanCodes⟩ before))).reasonTable) ⊆
        (actions.map (·.reason)).dedup := by
      intro reason hreason
      rw [List.mem_dedup, hactions, List.map_append, List.mem_append]
      rcases List.mem_cons.mp hreason with rfl | hreason
      · exact Or.inr (List.mem_map.mpr ⟨action, List.mem_cons_self, rfl⟩)
      · exact Or.inl ((hfollows.mem_reasons _).mp hreason)
    have hle := (List.subperm_of_subset hnodupNew hsubset).length_le
    have hbound := h.reason_count
    rw [List.length_cons] at hle
    omega
  · cases hheld : (first.foldl scanStep
        (startScan (compiledState ⟨allowedScanCodes⟩ before))).downAction with
    | none => rfl
    | some held =>
      obtain ⟨hheldMem, hheldDown⟩ := scan_downAction_mem rfl hheld
      have htimes := timestampGroups_time actions (first ++ action :: rest) (by
        rw [hgroups]
        simp)
      have hsame : held.scheduledUs = action.scheduledUs := by
        rw [htimes held (List.mem_append_left _ hheldMem), htimes action (by simp)]
      exact absurd ⟨hheldDown, hdown⟩
        (hbefore h.one_down held (List.mem_append_right _ hheldMem) hsame)

/-- The slot of an allowed code is named exactly by the actions with the code. -/
theorem slotOf_mem_slotsOf {actions : List KeyActionInput} {scanCode : ℕ}
    (hcode : scanCode ∈ registry.scanCodes) (hallowed : ∀ action ∈ actions,
      ∀ scanCode ∈ action.scanCodes, scanCode ∈ registry.scanCodes) :
    slotOf registry scanCode ∈ slotsOf registry actions ↔
      ∃ action ∈ actions, scanCode ∈ action.scanCodes := by
  rw [slotsOf, List.mem_flatMap]
  constructor
  · rintro ⟨action, haction, hslot⟩
    obtain ⟨other, hother, heq⟩ := mem_actionSlots.mp hslot
    have hsame := slotOf_injective (hallowed action haction other hother) hcode heq
    exact ⟨action, haction, hsame ▸ hother⟩
  · rintro ⟨action, haction, hmem⟩
    exact ⟨action, haction, mem_actionSlots.mpr ⟨scanCode, hmem, rfl⟩⟩

/-- The events a group's actions of one kind are for a key. -/
def kindEvents (scanCode : ℕ) (kind : ActionKind) (group : List KeyActionInput) :
    List KeyEvent :=
  ((group.filter (fun action => action.kind = kind)).filter
    (fun action => scanCode ∈ action.scanCodes)).map (·.event)

/-- The events of a group for a key, releases first. -/
def groupEvents (scanCode : ℕ) (group : List KeyActionInput) : List KeyEvent :=
  kindEvents scanCode .up group ++ kindEvents scanCode .down group

/-- The events of one kind in a group of one time are equal. -/
theorem mem_kindEvents {scanCode : ℕ} {kind : ActionKind} {group : List KeyActionInput}
    (htime : ∀ action ∈ group, action.scheduledUs = groupTime group) :
    ∀ event ∈ kindEvents scanCode kind group, event = ⟨groupTime group, kind⟩ := by
  intro event hevent
  obtain ⟨action, haction, rfl⟩ := List.mem_map.mp hevent
  obtain ⟨hgroup, hkind⟩ := List.mem_filter.mp (List.mem_filter.mp haction).1
  rw [KeyActionInput.event, htime action hgroup, of_decide_eq_true hkind]

/-- A group's events are its actions' events. -/
theorem groupEvents_perm (scanCode : ℕ) (group : List KeyActionInput) :
    (groupEvents scanCode group).Perm
      ((group.filter (fun action => scanCode ∈ action.scanCodes)).map (·.event)) := by
  have hother : group.filter (fun action => action.kind = .down) =
      group.filter (fun action => !decide (action.kind = .up)) :=
    List.filter_congr fun action _ => by cases action.kind <;> rfl
  rw [groupEvents, kindEvents, kindEvents, ← List.map_append, ← List.filter_append, hother]
  exact ((List.filter_append_perm _ group).filter _).map _

/-- The place of an event determines it. -/
theorem KeyEvent.order_injective {a b : KeyEvent} (h : a.order = b.order) : a = b := by
  obtain ⟨time, kind⟩ := a
  obtain ⟨time', kind'⟩ := b
  cases kind <;> cases kind' <;> simp only [KeyEvent.order] at h <;> simp <;> omega

/-- The events of sorted groups are read group by group. -/
theorem keyEvents_eq_flatMap {groups : List (List KeyActionInput)}
    (htimes : ∀ group ∈ groups, ∀ action ∈ group, action.scheduledUs = groupTime group)
    (hsorted : groups.Pairwise (fun a b => groupTime a < groupTime b)) (scanCode : ℕ) :
    keyEvents scanCode groups.flatten = groups.flatMap (groupEvents scanCode) := by
  have hperm : (keyEvents scanCode groups.flatten).Perm
      (groups.flatMap (groupEvents scanCode)) := by
    refine (List.perm_insertionSort _ _).trans ?_
    rw [List.filter_flatten, List.map_flatten, List.map_map, ← List.flatMap_def]
    exact List.Perm.flatMap_left _ fun group _ => (groupEvents_perm scanCode group).symm
  -- every event of a group is at the group's place or right after it
  have hplace : ∀ group ∈ groups, ∀ event ∈ groupEvents scanCode group,
      2 * groupTime group ≤ event.order ∧ event.order ≤ 2 * groupTime group + 1 := by
    intro group hgroup event hevent
    rcases List.mem_append.mp hevent with hevent | hevent
    · rw [mem_kindEvents (htimes group hgroup) event hevent]
      simp [KeyEvent.order]
    · rw [mem_kindEvents (htimes group hgroup) event hevent]
      simp [KeyEvent.order]
  have hordered : (groups.flatMap (groupEvents scanCode)).Pairwise
      (fun a b => a.order ≤ b.order) := by
    rw [List.pairwise_flatMap]
    refine ⟨fun group hgroup => ?_, hsorted.imp_of_mem fun {a b} ha hb hlt x hx y hy => ?_⟩
    · have hsame : ∀ kind, (kindEvents scanCode kind group).Pairwise
          (fun a b => a.order ≤ b.order) := fun kind =>
        List.pairwise_of_forall_mem_list fun a ha b hb => by
          rw [mem_kindEvents (htimes group hgroup) a ha,
            mem_kindEvents (htimes group hgroup) b hb]
      refine List.pairwise_append.mpr ⟨hsame .up, hsame .down, fun a ha b hb => ?_⟩
      rw [mem_kindEvents (htimes group hgroup) a ha, mem_kindEvents (htimes group hgroup) b hb]
      simp [KeyEvent.order]
    · have hupper := (hplace a ha x hx).2
      have hlower := (hplace b hb y hy).1
      omega
  exact List.Perm.eq_of_pairwise
    (fun a b _ _ hab hba => KeyEvent.order_injective (Nat.le_antisymm hab hba))
    (List.pairwise_insertionSort _ _) hordered hperm

/-- A key's state after a release. -/
def KeyState.release (time : ℕ) : KeyState → KeyState
  | .pressed => .released (some time)
  | .released closedAt => .released closedAt

/-- A release is always possible. -/
theorem keyStep_up (state : KeyState) (time : ℕ) :
    keyStep state ⟨time, .up⟩ = some (state.release time) := by
  cases state <;> rfl

/-- Releasing at one time is idempotent. -/
theorem KeyState.release_release (state : KeyState) (time : ℕ) :
    (state.release time).release time = state.release time := by
  cases state <;> rfl

/-- Releases at one time act as one release. -/
theorem keyStep_ups {time : ℕ} {events : List KeyEvent}
    (hevents : ∀ event ∈ events, event = ⟨time, .up⟩) (state : KeyState) :
    events.foldlM keyStep state = some (if events = [] then state else state.release time) := by
  induction events generalizing state with
  | nil => rfl
  | cons event rest ih =>
    have hrest := ih fun other hother => hevents other (List.mem_cons_of_mem _ hother)
    rw [hevents event List.mem_cons_self, List.foldlM_cons, keyStep_up]
    change rest.foldlM keyStep (state.release time) = _
    rw [hrest, KeyState.release_release, ite_self, if_neg (List.cons_ne_nil _ _)]

/-- A key's state agrees with the compiler: it is pressed when its slot is held, and a released
key was last closed in an earlier group. -/
def Follows (groups : List (List KeyActionInput)) (state : CompilerState) (slot : ℕ) :
    KeyState → Prop
  | .pressed => (state.openGenerationBySlot slot).isSome
  | .released closedAt => state.openGenerationBySlot slot = none ∧
    ∀ time ∈ closedAt, ∃ group ∈ groups, groupTime group = time

/-- The press events of a scanned group are one event or none. -/
theorem kindEvents_down {state : CompilerState} {group : List KeyActionInput} {scanCode : ℕ}
    (hcode : scanCode ∈ registry.scanCodes)
    (hscan : Guarded (ScanAdmits registry) scanStep (startScan state) group)
    (htime : ∀ action ∈ group, action.scheduledUs = groupTime group) :
    kindEvents scanCode .down group =
      if slotOf registry scanCode ∈ downSlots registry group then [⟨groupTime group, .down⟩]
      else [] := by
  have hshapes := scan_shapes hscan
  have hdown : group.filter (fun action => action.kind = .down) =
      (scanned state group).downAction.toList := scan_downAction hscan
  have hslot := @slotOf_mem_slotsOf registry (group.filter (fun action => action.kind = .down))
    scanCode hcode fun action haction => (hshapes action (List.mem_filter.mp haction).1).allowed
  have hevents := @mem_kindEvents scanCode .down group htime
  rw [downSlots]
  simp only [hslot]
  unfold kindEvents at hevents ⊢
  rw [hdown] at hevents ⊢
  cases hsome : (scanned state group).downAction with
  | none => simp
  | some action =>
    by_cases hmem : scanCode ∈ action.scanCodes
    · rw [hsome] at hevents
      have hevent := hevents action.event (by simp [hmem])
      simp [hmem, hevent]
    · simp [hmem]

/-- A key's releases in a group are none exactly when the group does not release its slot. -/
theorem kindEvents_up_eq_nil {group : List KeyActionInput} {scanCode : ℕ}
    (hcode : scanCode ∈ registry.scanCodes)
    (hshapes : ∀ action ∈ group, ActionShape registry action) :
    kindEvents scanCode .up group = [] ↔
      slotOf registry scanCode ∉ upSlots registry group := by
  have hslot := @slotOf_mem_slotsOf registry (group.filter (fun action => action.kind = .up))
    scanCode hcode fun action haction => (hshapes action (List.mem_filter.mp haction).1).allowed
  rw [upSlots, hslot, kindEvents, List.map_eq_nil_iff, List.filter_eq_nil_iff]
  simp only [decide_eq_true_eq, not_exists, not_and]

/-- A key's run through a group: an optional release, then an optional press. -/
theorem groupEvents_run {state : CompilerState} {group : List KeyActionInput} {scanCode : ℕ}
    (hcode : scanCode ∈ registry.scanCodes)
    (hscan : Guarded (ScanAdmits registry) scanStep (startScan state) group)
    (htime : ∀ action ∈ group, action.scheduledUs = groupTime group) (keyState : KeyState) :
    (groupEvents scanCode group).foldlM keyStep keyState =
      let released := if slotOf registry scanCode ∈ upSlots registry group then
        keyState.release (groupTime group) else keyState
      if slotOf registry scanCode ∈ downSlots registry group then
        keyStep released ⟨groupTime group, .down⟩
      else some released := by
  have hups := keyStep_ups (@mem_kindEvents scanCode .up group htime) keyState
  have hnil := kindEvents_up_eq_nil hcode (scan_shapes hscan)
  have hreleased : (if kindEvents scanCode .up group = [] then keyState
      else keyState.release (groupTime group)) =
      if slotOf registry scanCode ∈ upSlots registry group then
        keyState.release (groupTime group) else keyState := by
    by_cases hup : slotOf registry scanCode ∈ upSlots registry group
    · rw [if_neg (fun h => hnil.mp h hup), if_pos hup]
    · rw [if_pos (hnil.mpr hup), if_neg hup]
  rw [hreleased] at hups
  rw [groupEvents, List.foldlM_append, hups, kindEvents_down hcode hscan htime]
  dsimp only
  rw [Option.bind_eq_bind, Option.bind_some]
  by_cases hdown : slotOf registry scanCode ∈ downSlots registry group
  · rw [if_pos hdown, if_pos hdown]
    rw [List.foldlM_cons]
    exact bind_pure _
  · rw [if_neg hdown, if_neg hdown]
    rfl

/-- The compiler's slot after a scanned group: held after a press, free after a release. -/
theorem layoutGroup_open {state : CompilerState} {group : List KeyActionInput}
    (hscan : Guarded (ScanAdmits registry) scanStep (startScan state) group) (slot : ℕ) :
    ((layoutGroup registry state group).openGenerationBySlot slot).isSome =
      if slot ∈ downSlots registry group then true
      else if slot ∈ upSlots registry group then false
      else (state.openGenerationBySlot slot).isSome := by
  have hfilter : group.filter (fun action => action.kind = .down) =
      (scanned state group).downAction.toList := scan_downAction hscan
  simp only [layoutGroup]
  split
  · rename_i hdown
    rw [downSlots, hfilter] at hdown
    cases hnone : (scanned state group).downAction with
    | none =>
      rw [hnone] at hdown
      cases hdown
    | some action => rfl
  · split <;> rfl

/-- Following one more group. -/
theorem Follows.concat {groups : List (List KeyActionInput)} {group : List KeyActionInput}
    {before after : CompilerState} {slot : ℕ} {closedAt : Option ℕ}
    (h : Follows groups before slot (.released closedAt))
    (hafter : (after.openGenerationBySlot slot).isSome = false) :
    Follows (groups ++ [group]) after slot (.released closedAt) := by
  refine ⟨Option.not_isSome_iff_eq_none.mp (by rw [hafter]; decide), fun time htime => ?_⟩
  obtain ⟨earlier, hearlier, hsame⟩ := h.2 time htime
  exact ⟨earlier, List.mem_append_left _ hearlier, hsame⟩

/-- One group: the key's automaton passes exactly when a pressed slot is free, and then follows
the compiler. -/
theorem keyRun_group {groups : List (List KeyActionInput)} {state : CompilerState}
    {group : List KeyActionInput} {scanCode : ℕ} {keyState : KeyState}
    (hcode : scanCode ∈ registry.scanCodes)
    (hfollows : Follows groups state (slotOf registry scanCode) keyState)
    (hscan : Guarded (ScanAdmits registry) scanStep (startScan state) group)
    (htime : ∀ action ∈ group, action.scheduledUs = groupTime group)
    (hlater : ∀ earlier ∈ groups, groupTime earlier < groupTime group) :
    ((∃ after, (groupEvents scanCode group).foldlM keyStep keyState = some after) ↔
      (slotOf registry scanCode ∈ downSlots registry group →
        state.openGenerationBySlot (slotOf registry scanCode) = none)) ∧
    ∀ after, (groupEvents scanCode group).foldlM keyStep keyState = some after →
      Follows (groups ++ [group]) (layoutGroup registry state group)
        (slotOf registry scanCode) after := by
  have hopen := layoutGroup_open hscan (slotOf registry scanCode)
  rw [groupEvents_run hcode hscan htime]
  dsimp only
  cases keyState with
  | pressed =>
    -- a held slot may be released here, but not pressed
    have hheld : state.openGenerationBySlot (slotOf registry scanCode) ≠ none :=
      Option.isSome_iff_ne_none.mp hfollows
    by_cases hdown : slotOf registry scanCode ∈ downSlots registry group
    · rw [if_pos hdown]
      have hnone : keyStep (if slotOf registry scanCode ∈ upSlots registry group then
          KeyState.pressed.release (groupTime group) else KeyState.pressed)
          ⟨groupTime group, .down⟩ = none := by
        split <;> simp [keyStep, KeyState.release]
      rw [hnone]
      exact ⟨⟨nofun, fun h => absurd (h hdown) hheld⟩, nofun⟩
    · rw [if_neg hdown] at hopen ⊢
      refine ⟨⟨fun _ h => absurd h hdown, fun _ => ⟨_, rfl⟩⟩, fun after hafter => ?_⟩
      obtain rfl := Option.some.inj hafter
      by_cases hup : slotOf registry scanCode ∈ upSlots registry group
      · rw [if_pos hup] at hopen ⊢
        refine ⟨Option.not_isSome_iff_eq_none.mp (by rw [hopen]; decide), fun time heq => ?_⟩
        exact ⟨group, by simp, Option.some.inj heq⟩
      · rw [if_neg hup] at hopen ⊢
        exact hopen.trans hfollows
  | released closedAt =>
    have hreleased : (if slotOf registry scanCode ∈ upSlots registry group then
        (KeyState.released closedAt).release (groupTime group)
        else KeyState.released closedAt) = .released closedAt := by
      split <;> rfl
    rw [hreleased]
    by_cases hdown : slotOf registry scanCode ∈ downSlots registry group
    · have hearlier : closedAt ≠ some (groupTime group) := fun heq => by
        obtain ⟨earlier, hmem, hsame⟩ := hfollows.2 _ (by rw [heq]; rfl)
        have hlt := hlater earlier hmem
        omega
      rw [if_pos hdown] at hopen ⊢
      rw [keyStep, if_neg hearlier]
      refine ⟨⟨fun _ _ => hfollows.1, fun _ => ⟨_, rfl⟩⟩, fun after hafter => ?_⟩
      obtain rfl := Option.some.inj hafter
      exact hopen
    · rw [if_neg hdown] at hopen ⊢
      refine ⟨⟨fun _ h => absurd h hdown, fun _ => ⟨_, rfl⟩⟩, fun after hafter => ?_⟩
      obtain rfl := Option.some.inj hafter
      refine Follows.concat hfollows (hopen.trans ?_)
      rw [hfollows.1, Option.isSome_none, ite_self]

/-- A slot is free whenever a group presses it. -/
def FreePress (registry : KeyRegistry) (slot : ℕ) (state : CompilerState)
    (group : List KeyActionInput) : Prop :=
  slot ∈ downSlots registry group → state.openGenerationBySlot slot = none

/-- All groups: the key's automaton passes exactly when its slot is free at every press, and
then follows the compiler. -/
theorem keyRun_groups {groups : List (List KeyActionInput)} {scanCode : ℕ}
    (hcode : scanCode ∈ registry.scanCodes)
    (hscans : ∀ before group after, groups = before ++ group :: after →
      Guarded (ScanAdmits registry) scanStep (startScan (compiledState registry before)) group)
    (htimes : ∀ group ∈ groups, ∀ action ∈ group, action.scheduledUs = groupTime group)
    (hsorted : groups.Pairwise (fun a b => groupTime a < groupTime b)) :
    ((∃ after, (groups.flatMap (groupEvents scanCode)).foldlM keyStep (.released none) =
        some after) ↔
      Guarded (FreePress registry (slotOf registry scanCode)) (layoutGroup registry)
        CompilerState.initial groups) ∧
    ∀ after, (groups.flatMap (groupEvents scanCode)).foldlM keyStep (.released none) =
        some after →
      Follows groups (compiledState registry groups) (slotOf registry scanCode) after := by
  induction groups using List.reverseRecOn with
  | nil =>
    refine ⟨⟨fun _ => trivial, fun _ => ⟨_, rfl⟩⟩, fun after hafter => ?_⟩
    obtain rfl := Option.some.inj hafter
    exact ⟨rfl, nofun⟩
  | append_singleton groups group ih =>
    obtain ⟨hbefore, -, hlater⟩ := List.pairwise_append.mp hsorted
    obtain ⟨hpass, hstate⟩ := ih
      (fun before other after h => hscans before other (after ++ [group]) (by rw [h]; simp))
      (fun other hother => htimes other (List.mem_append_left _ hother)) hbefore
    have hscan := hscans groups group [] (by simp)
    have htime := htimes group (by simp)
    have hgroup : ∀ middle, (groups.flatMap (groupEvents scanCode)).foldlM keyStep
        (.released none) = some middle → _ := fun middle hmiddle =>
      keyRun_group hcode (hstate middle hmiddle) hscan htime
        fun earlier hearlier => hlater earlier hearlier group (by simp)
    have hrun : (((groups ++ [group]).flatMap (groupEvents scanCode)).foldlM keyStep
        (.released none)) = ((groups.flatMap (groupEvents scanCode)).foldlM keyStep
          (.released none)).bind fun middle => (groupEvents scanCode group).foldlM keyStep
            middle := by
      rw [List.flatMap_append, List.flatMap_singleton, List.foldlM_append]
      rfl
    rw [hrun, guarded_append]
    simp only [Guarded, and_true, Option.bind_eq_some_iff]
    constructor
    · constructor
      · rintro ⟨after, middle, hmiddle, hafter⟩
        exact ⟨hpass.mp ⟨middle, hmiddle⟩, (hgroup middle hmiddle).1.mp ⟨after, hafter⟩⟩
      · rintro ⟨hguarded, hfree⟩
        obtain ⟨middle, hmiddle⟩ := hpass.mpr hguarded
        obtain ⟨after, hafter⟩ := (hgroup middle hmiddle).1.mpr hfree
        exact ⟨after, middle, hmiddle, hafter⟩
    · rintro after ⟨middle, hmiddle, hafter⟩
      rw [compiledState, List.foldl_concat]
      exact (hgroup middle hmiddle).2 after hafter

/-- A held slot was pressed by a group. -/
theorem pressed_of_open {groups : List (List KeyActionInput)} {slot : ℕ}
    (h : (compiledState registry groups).openGenerationBySlot slot ≠ none) :
    ∃ group ∈ groups, slot ∈ downSlots registry group := by
  induction groups using List.reverseRecOn with
  | nil => exact absurd rfl h
  | append_singleton groups group ih =>
    rw [compiledState, List.foldl_concat] at h
    by_cases hdown : slot ∈ downSlots registry group
    · exact ⟨group, by simp, hdown⟩
    · simp only [layoutGroup, if_neg hdown] at h
      split at h
      · exact absurd rfl h
      · obtain ⟨earlier, hearlier, hmem⟩ := ih h
        exact ⟨earlier, List.mem_append_left _ hearlier, hmem⟩

/-- The groups of a sorted input: one time each, in increasing order. -/
theorem timestampGroups_sound {actions : List KeyActionInput}
    (h : actions.Pairwise (fun a b => a.scheduledUs ≤ b.scheduledUs)) :
    (timestampGroups actions).flatten = actions ∧
      (∀ group ∈ timestampGroups actions, ∀ action ∈ group,
        action.scheduledUs = groupTime group) ∧
      (timestampGroups actions).Pairwise (fun a b => groupTime a < groupTime b) :=
  ⟨(timestampGroups_spec actions).1, timestampGroups_time actions, timestampGroups_sorted h⟩

/-- A slot pressed by well-shaped actions is the slot of an allowed code. -/
theorem code_of_downSlot {group : List KeyActionInput} {slot : ℕ}
    (hshapes : ∀ action ∈ group, ActionShape registry action)
    (h : slot ∈ downSlots registry group) :
    ∃ scanCode ∈ registry.scanCodes, slotOf registry scanCode = slot := by
  obtain ⟨action, haction, hslot⟩ := List.mem_flatMap.mp h
  obtain ⟨scanCode, hcode, heq⟩ := mem_actionSlots.mp hslot
  exact ⟨scanCode, (hshapes action (List.mem_filter.mp haction).1).allowed scanCode hcode, heq⟩

/-- An accepted input is well formed. -/
theorem Accepted.wellFormedInput {actions : List KeyActionInput} {allowedScanCodes : List ℕ}
    (h : Accepted actions allowedScanCodes) : WellFormedInput actions allowedScanCodes := by
  obtain ⟨hindices, hsortedTimes⟩ := h.sorted
  obtain ⟨hflatten, htimes, hsorted⟩ := timestampGroups_sound hsortedTimes
  have hshapes := h.shapes
  have hgroups := guarded_iff.mp h.groups
  have hscans : ∀ before group after, timestampGroups actions = before ++ group :: after →
      Guarded (ScanAdmits ⟨allowedScanCodes⟩) scanStep
        (startScan (compiledState ⟨allowedScanCodes⟩ before)) group :=
    fun before group after hsplit => (hgroups before group after hsplit).scan
  have hgroup : ∀ {P : List KeyActionInput → Prop},
      (∀ state group, GroupAdmits ⟨allowedScanCodes⟩ state group → P group) →
      ∀ group ∈ timestampGroups actions, P group := fun hP => h.groups.forall_mem hP
  refine
    { allowed_nonempty := h.allowed_nonempty
      allowed_count := h.allowed_count
      allowed_nodup := h.allowed_nodup
      action_count := h.action_count
      indices := hindices
      times := hsortedTimes
      codes := fun action haction => ⟨(hshapes action haction).nonempty,
        (hshapes action haction).count, (hshapes action haction).nodup,
        (hshapes action haction).allowed⟩
      reason_lengths := fun action haction => (hshapes action haction).reason
      reason_count := ?_
      one_down := ?_
      one_up := ?_
      keys := fun scanCode hcode => ?_ }
  · have hfollows := @scanFollows_compiledState ⟨allowedScanCodes⟩ (timestampGroups actions)
    rw [hflatten] at hfollows
    rw [← hfollows.reason_count]
    exact h.groups.foldl_invariant (P := fun state => state.reasonTable.length ≤ 2 ^ 16)
      (fun state group hle hadmits => scan_reason_count hadmits.scan hle) (Nat.zero_le _)
  · have hdowns := (pairwise_groups htimes hsorted).mpr
      (hgroup fun state group hadmits => scan_one_down hadmits.scan)
    rwa [hflatten] at hdowns
  · have hups := (pairwise_groups htimes hsorted).mpr (hgroup fun state group hadmits =>
      (upSlots_nodup (scan_shapes hadmits.scan)).mp hadmits.ups_nodup)
    rwa [hflatten] at hups
  · obtain ⟨hpass, hstate⟩ := @keyRun_groups ⟨allowedScanCodes⟩ (timestampGroups actions)
      scanCode hcode hscans htimes hsorted
    have hfree : Guarded (FreePress ⟨allowedScanCodes⟩ (slotOf ⟨allowedScanCodes⟩ scanCode))
        (layoutGroup ⟨allowedScanCodes⟩) CompilerState.initial (timestampGroups actions) :=
      guarded_iff.mpr fun before group after hsplit hdown =>
        (hgroups before group after hsplit).downs_free _ hdown
    obtain ⟨after, hafter⟩ := hpass.mpr hfree
    have hfollows := hstate after hafter
    rw [← keyEvents_eq_flatMap htimes hsorted, hflatten] at hafter
    cases after with
    | released closedAt => exact ⟨closedAt, hafter⟩
    | pressed =>
      have hclosed := h.closed _ (slotOf_lt h.wellFormed hcode)
      exact absurd hclosed (Option.isSome_iff_ne_none.mp hfollows)

/-- A well-formed input is accepted. -/
theorem WellFormedInput.accepted {actions : List KeyActionInput} {allowedScanCodes : List ℕ}
    (h : WellFormedInput actions allowedScanCodes) : Accepted actions allowedScanCodes := by
  obtain ⟨hflatten, htimes, hsorted⟩ := timestampGroups_sound h.times
  have hscans : ∀ before group after, timestampGroups actions = before ++ group :: after →
      Guarded (ScanAdmits ⟨allowedScanCodes⟩) scanStep
        (startScan (compiledState ⟨allowedScanCodes⟩ before)) group :=
    fun before group after hsplit => h.scans hsplit
  have hshapes : ∀ group ∈ timestampGroups actions, ∀ action ∈ group,
      ActionShape ⟨allowedScanCodes⟩ action := by
    intro group hgroup action haction
    obtain ⟨before, after, hsplit⟩ := List.append_of_mem hgroup
    exact scan_shapes (hscans before group after hsplit) action haction
  have hrun : ∀ scanCode ∈ allowedScanCodes,
      Guarded (FreePress ⟨allowedScanCodes⟩ (slotOf ⟨allowedScanCodes⟩ scanCode))
        (layoutGroup ⟨allowedScanCodes⟩) CompilerState.initial (timestampGroups actions) ∧
      (compiledState ⟨allowedScanCodes⟩ (timestampGroups actions)).openGenerationBySlot
        (slotOf ⟨allowedScanCodes⟩ scanCode) = none := by
    intro scanCode hcode
    obtain ⟨hpass, hstate⟩ := @keyRun_groups ⟨allowedScanCodes⟩ (timestampGroups actions)
      scanCode hcode hscans htimes hsorted
    obtain ⟨closedAt, hkey⟩ := h.keys scanCode hcode
    rw [← hflatten, keyEvents_eq_flatMap htimes hsorted] at hkey
    exact ⟨hpass.mp ⟨_, hkey⟩, (hstate _ hkey).1⟩
  refine
    { allowed_nonempty := h.allowed_nonempty
      allowed_count := h.allowed_count
      allowed_nodup := h.allowed_nodup
      action_count := h.action_count
      groups := guarded_iff.mpr fun before group after hsplit => ?_
      closed := fun slot _ => ?_ }
  · have hgroup : group ∈ timestampGroups actions := by
      rw [hsplit]
      simp
    refine ⟨hscans before group after hsplit, ?_, fun slot hslot => ?_⟩
    · refine (upSlots_nodup (hshapes group hgroup)).mpr ?_
      exact (pairwise_groups htimes hsorted).mp (by rw [hflatten]; exact h.one_up) group hgroup
    · obtain ⟨scanCode, hcode, rfl⟩ := code_of_downSlot (hshapes group hgroup) hslot
      exact guarded_iff.mp (hrun scanCode hcode).1 before group after hsplit hslot
  · by_contra hopen
    obtain ⟨group, hgroup, hslot⟩ := pressed_of_open hopen
    obtain ⟨scanCode, hcode, rfl⟩ := code_of_downSlot (hshapes group hgroup) hslot
    exact hopen (hrun scanCode hcode).2

/-- What compiles is well formed. -/
theorem wellFormedInput_of_compiled {actions : List KeyActionInput} {allowedScanCodes : List ℕ}
    {schedule : RuntimeSchedule}
    (h : compileRuntimeIntents actions allowedScanCodes = .ok schedule) :
    WellFormedInput actions allowedScanCodes :=
  (compileRuntimeIntents_eq_ok.mp h).1.wellFormedInput

/-- What is well formed compiles. -/
theorem WellFormedInput.compiles {actions : List KeyActionInput} {allowedScanCodes : List ℕ}
    (h : WellFormedInput actions allowedScanCodes) :
    ∃ schedule, compileRuntimeIntents actions allowedScanCodes = .ok schedule :=
  ⟨_, compileRuntimeIntents_eq_ok.mpr ⟨h.accepted, rfl⟩⟩

/-- The compiler accepts exactly the well-formed inputs. -/
theorem compileRuntimeIntents_accepts (actions : List KeyActionInput)
    (allowedScanCodes : List ℕ) :
    (∃ schedule, compileRuntimeIntents actions allowedScanCodes = .ok schedule) ↔
      WellFormedInput actions allowedScanCodes := by
  constructor
  · rintro ⟨schedule, hschedule⟩
    exact wellFormedInput_of_compiled hschedule
  · intro h
    exact h.compiles

end SkyAutoPlayer.DispatchCore
