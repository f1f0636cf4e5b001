import Mathlib.Tactic.Set
import SkyAutoPlayer.AppCore.ScheduleActions
import SkyAutoPlayer.DispatchCore.OnsetEvents
import SkyAutoPlayer.DispatchWin32.Clock

/-!
# Admitting a planned schedule

The application converts a planned schedule to dispatch actions, compiles them over the Sky scan
codes, and validates the result. In microseconds the planner and the dispatch core draw the same
line: no repeat is impossible exactly when the schedule compiles and is feasible. The native
admission repeats the validation after rounding every time up to QPC ticks.
-/

namespace SkyAutoPlayer.Player

open Foundation
open AppCore (DraftOnset KeyAction MaterializedTimingPolicy ScheduleMetadata TempoScale
  buildScheduleFromScaledOnsets finalActions groupKey keyOnsets retainFirstOnsets skyScanCodes
  withNextOnset draftActions actionOrder)
open DispatchCore (KeyActionInput KeyEvent RuntimeSchedule TimingFloors WellFormedInput
  compileRuntimeIntents keyEvents keyStep maxActions onsetEvents sortEvents sortEvents_perm
  validateMinHoldAndReleaseGapFeasibility validateMinHoldAndReleaseGapFeasibilityTicks)
open DispatchWin32 (QpcClock)

/-- The dispatch kind of a planned action. -/
def dispatchKind : AppCore.ActionKind → DispatchCore.ActionKind
  | .down => .down
  | .up => .up

/-- The dispatch action of a planned action at a position. -/
def dispatchAction (entry : KeyAction × ℕ) : KeyActionInput where
  sourceActionIndex := entry.2 % 2 ^ 32
  kind := dispatchKind entry.1.kind
  scheduledUs := entry.1.atUs
  scanCodes := entry.1.scanCodes
  reason := entry.1.reason

/-- The dispatch actions of planned actions, indexed in order. -/
def dispatchActions (actions : List KeyAction) : List KeyActionInput :=
  actions.zipIdx.map dispatchAction

/-- Give a failure the text that is reported for it. -/
def describeError {ε α : Type} (describe : ε → String) : Except ε α → Except String α
  | .ok value => .ok value
  | .error error => .error (describe error)

/-- Compile a planned schedule over the Sky scan codes. -/
def compileDispatchSchedule (schedule : ScheduleMetadata) : Except String RuntimeSchedule :=
  describeError (fun error => s!"native schedule compilation failed: {error.message}")
    (compileRuntimeIntents (dispatchActions schedule.actions) skyScanCodes)

/-- Validate a compiled schedule in microseconds and then in the clock's ticks. -/
def validateNativeScheduleTimingWithReleaseGap (schedule : RuntimeSchedule)
    (effectiveMinHoldUs minReleaseGapUs : ℕ) (qpcClock : QpcClock) : Except String Unit := do
  describeError (fun error => s!"native schedule admission failed: {error.message}")
    (validateMinHoldAndReleaseGapFeasibility schedule effectiveMinHoldUs minReleaseGapUs)
  let effectiveMinHoldTicks ←
    describeError (fun error => s!"native hold-floor conversion failed: {error.debug}")
      (qpcClock.durationFromUs effectiveMinHoldUs)
  let minReleaseGapTicks ←
    describeError (fun error => s!"native release-gap conversion failed: {error.debug}")
      (qpcClock.durationFromUs minReleaseGapUs)
  describeError (fun error => s!"native tick-domain admission failed: {error.message}")
    (validateMinHoldAndReleaseGapFeasibilityTicks schedule effectiveMinHoldUs
      effectiveMinHoldTicks minReleaseGapUs minReleaseGapTicks
      (fun microseconds => (qpcClock.timelineFromUs microseconds).toOption))

variable {policy : MaterializedTimingPolicy}

/-- A described computation succeeds exactly when the computation does. -/
theorem describeError_eq_ok {ε α : Type} {describe : ε → String} {computation : Except ε α}
    {value : α} : describeError describe computation = .ok value ↔ computation = .ok value := by
  cases computation <;> simp [describeError]

/-- A property of the planned actions is a property of the dispatch actions. -/
theorem dispatchActions_pairwise {actions : List KeyAction}
    {R : KeyAction → KeyAction → Prop} {S : KeyActionInput → KeyActionInput → Prop}
    (h : actions.Pairwise R)
    (hRS : ∀ a b, R a.1 b.1 → S (dispatchAction a) (dispatchAction b)) :
    (dispatchActions actions).Pairwise S := by
  rw [dispatchActions, List.pairwise_map]
  have hzip : actions.zipIdx.Pairwise (fun a b => R a.1 b.1) := by
    rw [← List.pairwise_map (f := Prod.fst), List.zipIdx_map_fst]
    exact h
  exact hzip.imp fun {a b} hab => hRS a b hab

/-- A dispatch action is the image of a planned action. -/
theorem mem_dispatchActions {actions : List KeyAction} {input : KeyActionInput}
    (h : input ∈ dispatchActions actions) : ∃ action ∈ actions,
      input.kind = dispatchKind action.kind ∧ input.scheduledUs = action.atUs ∧
      input.scanCodes = action.scanCodes ∧ input.reason = action.reason := by
  obtain ⟨entry, hentry, rfl⟩ := List.mem_map.mp h
  refine ⟨entry.1, ?_, rfl, rfl, rfl, rfl⟩
  have hmem := List.mem_map_of_mem (f := Prod.fst) hentry
  rwa [List.zipIdx_map_fst] at hmem

/-- The positions of dispatch actions increase. -/
theorem dispatchActions_indices {actions : List KeyAction} (hcount : actions.length ≤ 2 ^ 32) :
    (dispatchActions actions).Pairwise
      (fun a b => a.sourceActionIndex < b.sourceActionIndex) := by
  rw [List.pairwise_iff_getElem]
  intro i j hi hj hlt
  rw [dispatchActions, List.length_map, List.length_zipIdx] at hi hj
  simp only [dispatchActions, List.getElem_map, List.getElem_zipIdx, dispatchAction]
  rw [Nat.mod_eq_of_lt (by omega), Nat.mod_eq_of_lt (by omega)]
  omega

/-- The events of a key are its planned actions. -/
theorem dispatchActions_events (actions : List KeyAction) (scanCode : ℕ) :
    ((dispatchActions actions).filter (fun action => scanCode ∈ action.scanCodes)).map (·.event) =
      (actions.filter (fun action => scanCode ∈ action.scanCodes)).map
        (fun action => ⟨action.atUs, dispatchKind action.kind⟩) := by
  have hzip : actions = actions.zipIdx.map Prod.fst := (List.zipIdx_map_fst _ _).symm
  conv_rhs => rw [hzip]
  rw [dispatchActions, List.filter_map, List.filter_map, List.map_map, List.map_map]
  rfl

/-- The reasons a schedule can give. -/
theorem schedule_reasons {drafts : List DraftOnset} :
    ∀ action ∈ finalActions ((withNextOnset drafts).flatMap (draftActions policy)),
      action.reason ∈ ["mixed", "onset", "release", "repeat_release"] := by
  intro action haction
  obtain ⟨key, -, rfl⟩ := AppCore.mem_finalActions.mp haction
  rcases List.mem_cons.mp (AppCore.mergeGroup_reason _ key) with hmixed | hmem
  · rw [hmixed]
    simp
  · obtain ⟨member, hmember, hreason⟩ := List.mem_map.mp hmem
    rw [← hreason]
    obtain ⟨entry, -, rfl | rfl⟩ := AppCore.mem_draftActions.mp hmember
    · simp [AppCore.onsetAction]
    · cases entry.2 <;> simp [AppCore.releaseAction]

/-- The keys of a schedule's action: some, distinct and among the onsets' keys. -/
theorem schedule_scanCodes {drafts : List DraftOnset} :
    ∀ action ∈ finalActions ((withNextOnset drafts).flatMap (draftActions policy)),
      action.scanCodes ≠ [] ∧ action.scanCodes.Nodup ∧
        ∀ scanCode ∈ action.scanCodes, ∃ draft ∈ drafts, draft.scanCode = scanCode := by
  intro action haction
  obtain ⟨key, hkey, rfl⟩ := AppCore.mem_finalActions.mp haction
  refine ⟨?_, AppCore.mergeGroup_nodup _ key, fun scanCode hcode => ?_⟩
  · obtain ⟨member, hmember, rfl⟩ := List.mem_map.mp hkey
    obtain ⟨entry, -, rfl | rfl⟩ := AppCore.mem_draftActions.mp hmember
    · exact List.ne_nil_of_mem (AppCore.mem_mergeGroup_scanCodes.mpr
        ⟨_, hmember, rfl, List.mem_singleton_self entry.1.scanCode⟩)
    · exact List.ne_nil_of_mem (AppCore.mem_mergeGroup_scanCodes.mpr
        ⟨_, hmember, rfl, List.mem_singleton_self entry.1.scanCode⟩)
  · have hpressed := @AppCore.mem_finalActions_key policy drafts scanCode key.1 key.2
    obtain ⟨onset, honset, -⟩ := hpressed.mp ⟨_, haction, rfl, hcode⟩
    obtain ⟨draft, hdraft, -⟩ := List.mem_map.mp honset
    obtain ⟨hmem, hsame⟩ := List.mem_filter.mp hdraft
    exact ⟨draft, hmem, of_decide_eq_true hsame⟩

/-- Two actions of one time and kind are out of order. -/
theorem actionOrder_ne {a b : KeyAction} (hlt : actionOrder a < actionOrder b)
    (hat : a.atUs = b.atUs) : a.kind ≠ b.kind := by
  intro hkind
  simp only [actionOrder, hat, hkind] at hlt
  omega

/-- A planned kind and its dispatch kind determine each other. -/
theorem dispatchKind_injective {a b : AppCore.ActionKind} (h : dispatchKind a = dispatchKind b) :
    a = b := by
  cases a <;> cases b <;> first | rfl | cases h

/-- The dispatch actions of a schedule are well formed when the automaton of every key passes. -/
theorem schedule_wellFormed {drafts : List DraftOnset} {actions : List KeyAction}
    (hactions : actions = finalActions ((withNextOnset drafts).flatMap (draftActions policy)))
    (hcodes : ∀ draft ∈ drafts, draft.scanCode ∈ skyScanCodes)
    (hcount : actions.length ≤ maxActions)
    (hkeys : ∀ scanCode ∈ skyScanCodes, ∃ closedAt,
      (keyEvents scanCode (dispatchActions actions)).foldlM keyStep (.released none) =
        some (.released closedAt)) :
    WellFormedInput (dispatchActions actions) skyScanCodes := by
  have hsorted : actions.Pairwise (fun a b => actionOrder a < actionOrder b) := by
    rw [hactions]
    exact AppCore.finalActions_sorted _
  have hlength : (dispatchActions actions).length = actions.length := by
    rw [dispatchActions, List.length_map, List.length_zipIdx]
  have hreason : ∀ input ∈ dispatchActions actions,
      input.reason ∈ ["mixed", "onset", "release", "repeat_release"] := by
    intro input hinput
    obtain ⟨action, haction, -, -, -, hsame⟩ := mem_dispatchActions hinput
    rw [hsame]
    exact schedule_reasons action (hactions ▸ haction)
  refine
    { allowed_nonempty := by decide
      allowed_count := by decide
      allowed_nodup := by decide
      action_count := by rwa [hlength]
      indices := dispatchActions_indices (hcount.trans (by decide))
      times := dispatchActions_pairwise hsorted fun a b hlt => ?_
      codes := fun input hinput => ?_
      reason_lengths := fun input hinput => ?_
      reason_count := ?_
      one_down := dispatchActions_pairwise hsorted fun a b hlt hat hboth => ?_
      one_up := dispatchActions_pairwise hsorted fun a b hlt hat hfirst hsecond => ?_
      keys := hkeys }
  · change a.1.atUs ≤ b.1.atUs
    unfold actionOrder at hlt
    split at hlt <;> split at hlt <;> omega
  · obtain ⟨action, haction, -, -, hsame, -⟩ := mem_dispatchActions hinput
    obtain ⟨hnonempty, hnodup, hkeys⟩ := schedule_scanCodes action (hactions ▸ haction)
    have hallowed : action.scanCodes ⊆ skyScanCodes := fun scanCode hcode => by
      obtain ⟨draft, hdraft, rfl⟩ := hkeys scanCode hcode
      exact hcodes draft hdraft
    rw [hsame]
    exact ⟨hnonempty, (List.subperm_of_subset hnodup hallowed).length_le, hnodup, hallowed⟩
  · have hmem := hreason input hinput
    simp only [List.mem_cons, List.not_mem_nil, or_false] at hmem
    rcases hmem with heq | heq | heq | heq <;> rw [heq] <;> decide
  · have hsubset : ((dispatchActions actions).map (·.reason)).dedup ⊆
        ["mixed", "onset", "release", "repeat_release"] := by
      intro reason hmem
      obtain ⟨input, hinput, rfl⟩ := List.mem_map.mp (List.mem_dedup.mp hmem)
      exact hreason input hinput
    exact (List.subperm_of_subset (List.nodup_dedup _) hsubset).length_le.trans (by decide)
  · exact actionOrder_ne hlt hat (dispatchKind_injective (hboth.1.trans hboth.2.symm))
  · exact absurd (dispatchKind_injective (hfirst.trans hsecond.symm)) (actionOrder_ne hlt hat)

/-- The events of a key are the presses and releases of its onsets. -/
theorem schedule_keyEvents {drafts : List DraftOnset} {scanCode : ℕ}
    (honsets : (keyOnsets scanCode drafts).Pairwise (· < ·)) :
    keyEvents scanCode (dispatchActions
        (finalActions ((withNextOnset drafts).flatMap (draftActions policy)))) =
      sortEvents (onsetEvents policy.minHoldUs (keyOnsets scanCode drafts)) := by
  set actions := finalActions ((withNextOnset drafts).flatMap (draftActions policy)) with hactions
  refine sortEvents_perm ?_
  rw [dispatchActions_events]
  -- both sides list distinct events, so it is enough that they have the same members
  refine (List.perm_ext_iff_of_nodup ?_ ?_).mpr fun event => ?_
  · have hkeys : (actions.map groupKey).Nodup := AppCore.finalActions_keys _
    refine List.Nodup.map_on (fun a ha b hb heq => ?_)
      ((List.Nodup.of_map _ hkeys).filter _)
    have hsame : groupKey a = groupKey b := by
      obtain ⟨hat, hkind⟩ := KeyEvent.mk.inj heq
      exact Prod.ext hat (dispatchKind_injective hkind)
    exact List.inj_on_of_nodup_map hkeys (List.mem_filter.mp ha).1 (List.mem_filter.mp hb).1 hsame
  · refine List.nodup_flatMap.mpr ⟨fun onset _ => by simp, ?_⟩
    refine honsets.imp fun {a b} hlt => ?_
    intro event hfirst hsecond
    simp only [List.mem_cons, List.not_mem_nil, or_false] at hfirst hsecond
    rcases hfirst with rfl | rfl <;> rcases hsecond with heq | heq <;>
      simp only [KeyEvent.mk.injEq, reduceCtorEq, and_false, and_true] at heq
    · omega
    · omega
  · have hmem := fun kind => @AppCore.mem_finalActions_key policy drafts scanCode event.time kind
    simp only [List.mem_map, List.mem_filter, decide_eq_true_eq, onsetEvents, List.mem_flatMap,
      List.mem_cons, List.not_mem_nil, or_false]
    obtain ⟨time, kind⟩ := event
    dsimp only at hmem
    constructor
    · rintro ⟨action, ⟨haction, hcode⟩, heq⟩
      obtain ⟨rfl, rfl⟩ := KeyEvent.mk.inj heq
      obtain ⟨onset, honset, hkey⟩ := (hmem action.kind).mp ⟨action, haction, rfl, hcode⟩
      refine ⟨onset, honset, hkey.imp (fun h => ?_) fun h => ?_⟩
      · obtain ⟨hat, hkind⟩ := Prod.mk.inj h
        rw [hat, hkind]
        rfl
      · obtain ⟨hat, hkind⟩ := Prod.mk.inj h
        rw [hat, hkind]
        rfl
    · rintro ⟨onset, honset, heq | heq⟩
      · obtain ⟨rfl, rfl⟩ := KeyEvent.mk.inj heq
        obtain ⟨action, haction, hkey, hcode⟩ := (hmem .down).mpr ⟨_, honset, Or.inl rfl⟩
        obtain ⟨hat, hkind⟩ := Prod.mk.inj hkey
        exact ⟨action, ⟨haction, hcode⟩, by rw [hat, hkind]; rfl⟩
      · obtain ⟨rfl, rfl⟩ := KeyEvent.mk.inj heq
        obtain ⟨action, haction, hkey, hcode⟩ := (hmem .up).mpr ⟨_, honset, Or.inr rfl⟩
        obtain ⟨hat, hkind⟩ := Prod.mk.inj hkey
        exact ⟨action, ⟨haction, hcode⟩, by rw [hat, hkind]; rfl⟩

/-- What building a schedule of sorted onsets over the Sky scan codes establishes. -/
structure BuiltSchedule (drafts : List DraftOnset) (policy : MaterializedTimingPolicy)
    (metadata : ScheduleMetadata) : Prop where
  hold : 0 < policy.minHoldUs
  codes : ∀ draft ∈ drafts, draft.scanCode ∈ skyScanCodes
  onsets : ∀ scanCode, (keyOnsets scanCode (retainFirstOnsets drafts)).Pairwise (· < ·)
  fits : ∀ draft ∈ retainFirstOnsets drafts, draft.atUs + policy.minHoldUs < 2 ^ 64
  actions : metadata.actions =
    finalActions ((withNextOnset (retainFirstOnsets drafts)).flatMap (draftActions policy))
  impossible : metadata.impossibleSameKeyRepeats = 0 ↔ ∀ scanCode,
    (keyOnsets scanCode (retainFirstOnsets drafts)).IsChain
      (fun onset next => onset + policy.minHoldUs + policy.minReleaseGapUs ≤ next)

/-- A build establishes it. -/
theorem built_of_build {drafts : List DraftOnset} {tempo : TempoScale}
    {metadata : ScheduleMetadata} (hhold : 0 < policy.minHoldUs)
    (hsorted : drafts.Pairwise (fun a b => a.atUs ≤ b.atUs))
    (hindices : (drafts.map (·.sourceIndex)).Nodup)
    (hcodes : ∀ draft ∈ drafts, draft.scanCode ∈ skyScanCodes)
    (hbuild : buildScheduleFromScaledOnsets drafts tempo policy = .ok metadata) :
    BuiltSchedule drafts policy metadata := by
  obtain ⟨hfits, hactions, himpossible⟩ := AppCore.buildSchedule_spec hindices hbuild
  exact
    { hold := hhold
      codes := hcodes
      onsets := AppCore.keyOnsets_sorted hsorted
      fits := hfits
      actions := hactions
      impossible := by rw [himpossible, AppCore.impossible_eq_zero hhold] }

namespace BuiltSchedule

variable {drafts : List DraftOnset} {metadata : ScheduleMetadata}

/-- The events of a key. -/
theorem keyEvents (h : BuiltSchedule drafts policy metadata) (scanCode : ℕ) :
    keyEvents scanCode (dispatchActions metadata.actions) =
      sortEvents (onsetEvents policy.minHoldUs
        (keyOnsets scanCode (retainFirstOnsets drafts))) := by
  rw [h.actions]
  exact schedule_keyEvents (h.onsets scanCode)

/-- The onsets of a key outside the Sky scan codes are none. -/
theorem keyOnsets_of_notMem (h : BuiltSchedule drafts policy metadata) {scanCode : ℕ}
    (hcode : scanCode ∉ skyScanCodes) :
    keyOnsets scanCode (retainFirstOnsets drafts) = [] := by
  refine List.eq_nil_iff_forall_not_mem.mpr fun onset honset => hcode ?_
  obtain ⟨draft, hdraft, -⟩ := List.mem_map.mp (AppCore.mem_keyOnsets_retained.mp honset)
  obtain ⟨hmem, hsame⟩ := List.mem_filter.mp hdraft
  exact of_decide_eq_true hsame ▸ h.codes draft hmem

/-- The hold of every onset fits. -/
theorem onset_fits (h : BuiltSchedule drafts policy metadata) {scanCode onset : ℕ}
    (honset : onset ∈ keyOnsets scanCode (retainFirstOnsets drafts)) :
    onset + policy.minHoldUs < 2 ^ 64 := by
  obtain ⟨draft, hdraft, rfl⟩ := List.mem_map.mp honset
  exact h.fits draft (List.mem_filter.mp hdraft).1

/-- The automaton of a key passes exactly when every release comes before the next onset. -/
theorem keyRun_iff (h : BuiltSchedule drafts policy metadata) (scanCode : ℕ) :
    (∃ closedAt, (DispatchCore.keyEvents scanCode (dispatchActions metadata.actions)).foldlM
        keyStep (.released none) = some (.released closedAt)) ↔
      (keyOnsets scanCode (retainFirstOnsets drafts)).IsChain
        (fun onset next => onset + policy.minHoldUs < next) := by
  rw [h.keyEvents]
  exact DispatchCore.keyRun_onsets h.hold (h.onsets scanCode) fun _ _ => nofun

/-- The schedule compiles exactly when every release comes before the key's next onset. -/
theorem compiles_iff (h : BuiltSchedule drafts policy metadata)
    (hcount : metadata.actions.length ≤ maxActions) :
    (∃ compiled, compileDispatchSchedule metadata = .ok compiled) ↔ ∀ scanCode,
      (keyOnsets scanCode (retainFirstOnsets drafts)).IsChain
        (fun onset next => onset + policy.minHoldUs < next) := by
  simp only [compileDispatchSchedule, describeError_eq_ok]
  constructor
  · rintro ⟨compiled, hcompiled⟩ scanCode
    have hwellFormed := DispatchCore.wellFormedInput_of_compiled hcompiled
    by_cases hcode : scanCode ∈ skyScanCodes
    · exact (h.keyRun_iff scanCode).mp (hwellFormed.keys scanCode hcode)
    · rw [h.keyOnsets_of_notMem hcode]
      exact List.isChain_nil
  · intro hchain
    have hwellFormed : WellFormedInput (dispatchActions metadata.actions) skyScanCodes := by
      refine schedule_wellFormed h.actions (fun draft hdraft => h.codes draft ?_) hcount
        fun scanCode _ => (h.keyRun_iff scanCode).mpr (hchain scanCode)
      exact (Foundation.keepFirst_sublist _ [] drafts).subset hdraft
    exact hwellFormed.compiles

/-- A compiled schedule is feasible exactly when its times fit and convert, and every hold and
release gap is long enough in ticks. -/
theorem feasible_iff (h : BuiltSchedule drafts policy metadata)
    (hcount : metadata.actions.length ≤ maxActions) {compiled : RuntimeSchedule}
    (hcompiled : compileDispatchSchedule metadata = .ok compiled)
    {floors : TimingFloors} {done : Unit} :
    DispatchCore.validateFeasibility floors compiled = .ok done ↔
      (metadata.actions.getLast?.map (·.atUs)).getD 0 + floors.effectiveMinHoldUs < 2 ^ 64 ∧
      (∀ action ∈ metadata.actions, (floors.microsecondsToTicks action.atUs).isSome = true) ∧
      ∀ scanCode,
        (∀ onset ∈ keyOnsets scanCode (retainFirstOnsets drafts),
          floors.ticks onset + floors.effectiveMinHoldTicks < 2 ^ 64 ∧
          floors.ticks onset + floors.effectiveMinHoldTicks ≤
            floors.ticks (onset + policy.minHoldUs)) ∧
        (0 < floors.minReleaseGapUs → (keyOnsets scanCode (retainFirstOnsets drafts)).IsChain
          fun onset next => floors.minReleaseGapTicks ≤
            floors.ticks next - floors.ticks (onset + policy.minHoldUs)) := by
  have hchain := (h.compiles_iff hcount).mp ⟨compiled, hcompiled⟩
  have htimes : (dispatchActions metadata.actions).map (·.scheduledUs) =
      metadata.actions.map (·.atUs) := by
    rw [dispatchActions, List.map_map]
    conv_rhs => rw [← List.zipIdx_map_fst 0 metadata.actions]
    rw [List.map_map]
    rfl
  have hconvert : (∀ input ∈ dispatchActions metadata.actions,
      (floors.microsecondsToTicks input.scheduledUs).isSome = true) ↔
      ∀ action ∈ metadata.actions, (floors.microsecondsToTicks action.atUs).isSome = true := by
    rw [← List.forall_mem_map (f := KeyActionInput.scheduledUs)
      (P := fun time => (floors.microsecondsToTicks time).isSome = true), htimes,
      List.forall_mem_map]
  rw [compileDispatchSchedule, describeError_eq_ok] at hcompiled
  rw [DispatchCore.validateFeasibility_compiled hcompiled, hconvert, ← List.getLast?_map, htimes,
    List.getLast?_map]
  refine and_congr Iff.rfl (and_congr Iff.rfl ?_)
  have hkey : ∀ scanCode, DispatchCore.FeasibleEvents floors
      (DispatchCore.keyEvents scanCode (dispatchActions metadata.actions)) ↔
      DispatchCore.FeasibleEvents floors (onsetEvents policy.minHoldUs
        (keyOnsets scanCode (retainFirstOnsets drafts))) := fun scanCode => by
    rw [h.keyEvents, DispatchCore.sortEvents_onsets h.hold (h.onsets scanCode) (hchain scanCode)]
  constructor
  · intro hall scanCode
    by_cases hcode : scanCode ∈ skyScanCodes
    · exact DispatchCore.feasible_onsetEvents.mp ((hkey scanCode).mp (hall scanCode hcode))
    · rw [h.keyOnsets_of_notMem hcode]
      exact ⟨nofun, fun _ => List.isChain_nil⟩
  · intro hall scanCode _
    exact (hkey scanCode).mpr (DispatchCore.feasible_onsetEvents.mpr (hall scanCode))

/-- Onsets that leave room for the hold and a positive gap are released before they repeat. -/
theorem released_of_room {onsets : List ℕ} (hgap : 0 < policy.minReleaseGapUs) :
    onsets.IsChain
        (fun onset next => onset + policy.minHoldUs + policy.minReleaseGapUs ≤ next) ↔
      onsets.IsChain (fun onset next => onset + policy.minHoldUs < next) ∧
        onsets.IsChain (fun onset next =>
          policy.minReleaseGapUs ≤ next - (onset + policy.minHoldUs)) := by
  simp only [List.isChain_iff_forall_rel_of_append_cons_cons]
  constructor
  · intro hroom
    refine ⟨fun onset next before after hsplit => ?_, fun onset next before after hsplit => ?_⟩
    · have hle := hroom hsplit
      omega
    · have hle := hroom hsplit
      omega
  · rintro ⟨hreleased, hgaps⟩ onset next before after hsplit
    have hlt := hreleased hsplit
    have hle := hgaps hsplit
    omega

/-- A compiled schedule whose times fit is feasible in microseconds exactly when every release
gap is long enough. -/
theorem microseconds_feasible_iff (h : BuiltSchedule drafts policy metadata)
    (hgap : 0 < policy.minReleaseGapUs) (hcount : metadata.actions.length ≤ maxActions)
    (hfits : (metadata.actions.getLast?.map (·.atUs)).getD 0 + policy.minHoldUs < 2 ^ 64)
    {compiled : RuntimeSchedule} (hcompiled : compileDispatchSchedule metadata = .ok compiled) :
    validateMinHoldAndReleaseGapFeasibility compiled policy.minHoldUs
        policy.minReleaseGapUs = .ok () ↔
      ∀ scanCode, (keyOnsets scanCode (retainFirstOnsets drafts)).IsChain
        (fun onset next => policy.minReleaseGapUs ≤ next - (onset + policy.minHoldUs)) := by
  have hfeasible := @feasible_iff policy drafts metadata h hcount compiled hcompiled
    ⟨policy.minHoldUs, policy.minHoldUs, policy.minReleaseGapUs, policy.minReleaseGapUs, some⟩ ()
  simp only [TimingFloors.ticks, Option.getD_some] at hfeasible
  constructor
  · intro hvalid scanCode
    exact ((hfeasible.mp hvalid).2.2 scanCode).2 hgap
  · intro hgaps
    exact hfeasible.mpr ⟨hfits, fun _ _ => rfl, fun scanCode =>
      ⟨fun onset honset => ⟨h.onset_fits honset, le_rfl⟩, fun _ => hgaps scanCode⟩⟩

/-- No repeat is impossible exactly when every key is released before its next onset, and early
enough. -/
theorem playable_iff (h : BuiltSchedule drafts policy metadata)
    (hgap : 0 < policy.minReleaseGapUs) : metadata.impossibleSameKeyRepeats = 0 ↔
      (∀ scanCode, (keyOnsets scanCode (retainFirstOnsets drafts)).IsChain
        (fun onset next => onset + policy.minHoldUs < next)) ∧
      ∀ scanCode, (keyOnsets scanCode (retainFirstOnsets drafts)).IsChain
        (fun onset next => policy.minReleaseGapUs ≤ next - (onset + policy.minHoldUs)) := by
  simp only [h.impossible, released_of_room hgap, forall_and]

end BuiltSchedule

/-- The planner and the dispatch core agree in microseconds: no repeat is impossible exactly when
the schedule compiles and is feasible. -/
theorem planner_agrees_with_dispatch {drafts : List DraftOnset} {tempo : TempoScale}
    {policy : MaterializedTimingPolicy} {metadata : ScheduleMetadata}
    (hhold : 0 < policy.minHoldUs) (hgap : 0 < policy.minReleaseGapUs)
    (hsorted : drafts.Pairwise (fun a b => a.atUs ≤ b.atUs))
    (hindices : (drafts.map (·.sourceIndex)).Nodup)
    (hcodes : ∀ draft ∈ drafts, draft.scanCode ∈ skyScanCodes)
    (hbuild : buildScheduleFromScaledOnsets drafts tempo policy = .ok metadata)
    (hcount : metadata.actions.length ≤ maxActions)
    (hfits : (metadata.actions.getLast?.map (·.atUs)).getD 0 + policy.minHoldUs < 2 ^ 64) :
    metadata.impossibleSameKeyRepeats = 0 ↔
      ∃ compiled, compileDispatchSchedule metadata = .ok compiled ∧
        validateMinHoldAndReleaseGapFeasibility compiled policy.minHoldUs
          policy.minReleaseGapUs = .ok () := by
  have hbuilt := built_of_build hhold hsorted hindices hcodes hbuild
  rw [hbuilt.playable_iff hgap, ← hbuilt.compiles_iff hcount]
  constructor
  · rintro ⟨⟨compiled, hcompiled⟩, hgaps⟩
    exact ⟨compiled, hcompiled,
      (hbuilt.microseconds_feasible_iff hgap hcount hfits hcompiled).mpr hgaps⟩
  · rintro ⟨compiled, hcompiled, hvalid⟩
    exact ⟨⟨compiled, hcompiled⟩,
      (hbuilt.microseconds_feasible_iff hgap hcount hfits hcompiled).mp hvalid⟩

/-- The tempo that keeps every time and recommends nothing. -/
def unitTempo : TempoScale := ⟨true, some, fun _ _ => none⟩

/-- A chord with a duplicated note, and a repeat that just leaves room for its gap. -/
def tightRepeat : List DraftOnset :=
  [⟨0, 0x15, 0⟩, ⟨0, 0x16, 1⟩, ⟨0, 0x15, 2⟩, ⟨150, 0x15, 3⟩]

/-- Planner and dispatch agree on the tight repeat. -/
theorem tightRepeat_agrees : ∃ metadata,
    buildScheduleFromScaledOnsets tightRepeat unitTempo ⟨100, 50⟩ = .ok metadata ∧
    (metadata.impossibleSameKeyRepeats = 0 ↔
      ∃ compiled, compileDispatchSchedule metadata = .ok compiled ∧
        validateMinHoldAndReleaseGapFeasibility compiled 100 50 = .ok ()) := by
  have hok : (buildScheduleFromScaledOnsets tightRepeat unitTempo ⟨100, 50⟩).toOption.any
      (fun metadata => decide (metadata.actions.length ≤ maxActions ∧
        (metadata.actions.getLast?.map (·.atUs)).getD 0 + 100 < 2 ^ 64)) = true := by
    decide +kernel
  obtain ⟨metadata, hbuild, hchecks⟩ := Except.exists_of_any hok
  obtain ⟨hcount, hfits⟩ := of_decide_eq_true hchecks
  have hagrees := @planner_agrees_with_dispatch tightRepeat unitTempo ⟨100, 50⟩ metadata
    (by decide) (by decide) (by decide) (by decide) (by decide) hbuild hcount hfits
  exact ⟨metadata, hbuild, hagrees⟩

/-- The clock converts a time or a duration without overflow. -/
def Converts (clock : QpcClock) (microseconds : ℕ) : Prop :=
  (clock.durationFromUs microseconds).isOk = true
deriving Decidable

/-- A conversion without overflow is the ceiling. -/
theorem Converts.eq_ceilTicks {clock : QpcClock} {microseconds : ℕ}
    (h : Converts clock microseconds) :
    clock.durationFromUs microseconds = .ok (clock.ceilTicks microseconds) ∧
      clock.ceilTicks microseconds < 2 ^ 64 := by
  obtain ⟨ticks, hticks⟩ := Except.exists_of_isOk h
  obtain ⟨-, hfits, rfl⟩ := QpcClock.durationFromUs_eq_ok.mp hticks
  exact ⟨hticks, hfits⟩

/-- The floors of the native admission in the clock's ticks. -/
def nativeFloors (policy : MaterializedTimingPolicy) (clock : QpcClock) : TimingFloors where
  effectiveMinHoldUs := policy.minHoldUs
  effectiveMinHoldTicks := clock.ceilTicks policy.minHoldUs
  minReleaseGapUs := policy.minReleaseGapUs
  minReleaseGapTicks := clock.ceilTicks policy.minReleaseGapUs
  microsecondsToTicks microseconds := (clock.timelineFromUs microseconds).toOption

/-- Native admission is the validation in microseconds and in ticks. -/
theorem validateNative_eq_ok {compiled : RuntimeSchedule} {clock : QpcClock}
    (hhold : Converts clock policy.minHoldUs) (hgap : Converts clock policy.minReleaseGapUs) :
    validateNativeScheduleTimingWithReleaseGap compiled policy.minHoldUs policy.minReleaseGapUs
        clock = .ok () ↔
      validateMinHoldAndReleaseGapFeasibility compiled policy.minHoldUs
        policy.minReleaseGapUs = .ok () ∧
      DispatchCore.validateFeasibility (nativeFloors policy clock) compiled = .ok () := by
  simp only [validateNativeScheduleTimingWithReleaseGap, Except.bind_eq_ok, describeError_eq_ok,
    hhold.eq_ceilTicks.1, hgap.eq_ceilTicks.1, Except.ok.injEq, exists_eq_left']
  exact ⟨fun ⟨_, hmicroseconds, hticks⟩ => ⟨hmicroseconds, hticks⟩,
    fun ⟨hmicroseconds, hticks⟩ => ⟨(), hmicroseconds, hticks⟩⟩

/-- Every hold of an onset and every gap before the key's next onset is long enough after
rounding. -/
def RoundsFeasibly (drafts : List DraftOnset) (policy : MaterializedTimingPolicy)
    (clock : QpcClock) : Prop :=
  ∀ scanCode,
    (∀ onset ∈ keyOnsets scanCode (retainFirstOnsets drafts),
      clock.ceilTicks onset + clock.ceilTicks policy.minHoldUs ≤
        clock.ceilTicks (onset + policy.minHoldUs)) ∧
    (keyOnsets scanCode (retainFirstOnsets drafts)).IsChain fun onset next =>
      clock.ceilTicks (onset + policy.minHoldUs) + clock.ceilTicks policy.minReleaseGapUs ≤
        clock.ceilTicks next

namespace BuiltSchedule

variable {drafts : List DraftOnset} {metadata : ScheduleMetadata}

/-- An onset and its release are times of the schedule. -/
theorem onset_mem (h : BuiltSchedule drafts policy metadata) {scanCode onset : ℕ}
    (honset : onset ∈ keyOnsets scanCode (retainFirstOnsets drafts)) :
    (∃ action ∈ metadata.actions, action.atUs = onset) ∧
      ∃ action ∈ metadata.actions, action.atUs = onset + policy.minHoldUs := by
  have hkey := fun atUs kind => @AppCore.mem_finalActions_key policy (retainFirstOnsets drafts)
    scanCode atUs kind
  rw [← h.actions] at hkey
  obtain ⟨press, hpress, hpressKey, -⟩ := (hkey onset .down).mpr ⟨onset, honset, Or.inl rfl⟩
  obtain ⟨release, hrelease, hreleaseKey, -⟩ :=
    (hkey (onset + policy.minHoldUs) .up).mpr ⟨onset, honset, Or.inr rfl⟩
  exact ⟨⟨press, hpress, congrArg Prod.fst hpressKey⟩,
    release, hrelease, congrArg Prod.fst hreleaseKey⟩

/-- A schedule whose times convert is feasible in ticks exactly when its holds and gaps are long
enough after rounding. -/
theorem native_feasible_iff (h : BuiltSchedule drafts policy metadata)
    (hgap : 0 < policy.minReleaseGapUs) (hcount : metadata.actions.length ≤ maxActions)
    (hfits : (metadata.actions.getLast?.map (·.atUs)).getD 0 + policy.minHoldUs < 2 ^ 64)
    {compiled : RuntimeSchedule} (hcompiled : compileDispatchSchedule metadata = .ok compiled)
    {clock : QpcClock} (hconverts : ∀ action ∈ metadata.actions, Converts clock action.atUs) :
    DispatchCore.validateFeasibility (nativeFloors policy clock) compiled = .ok () ↔
      RoundsFeasibly drafts policy clock := by
  have hticks : ∀ microseconds, Converts clock microseconds →
      (nativeFloors policy clock).microsecondsToTicks microseconds =
        some (clock.ceilTicks microseconds) ∧
      (nativeFloors policy clock).ticks microseconds = clock.ceilTicks microseconds := by
    intro microseconds hmicroseconds
    have hsome : (nativeFloors policy clock).microsecondsToTicks microseconds =
        some (clock.ceilTicks microseconds) := by
      simp only [nativeFloors, QpcClock.timelineFromUs, hmicroseconds.eq_ceilTicks.1,
        Except.toOption]
    exact ⟨hsome, by rw [TimingFloors.ticks, hsome, Option.getD_some]⟩
  have honset : ∀ {scanCode onset}, onset ∈ keyOnsets scanCode (retainFirstOnsets drafts) →
      Converts clock onset ∧ Converts clock (onset + policy.minHoldUs) := by
    intro scanCode onset hmem
    obtain ⟨⟨press, hpress, rfl⟩, release, hrelease, hat⟩ := h.onset_mem hmem
    exact ⟨hconverts press hpress, hat ▸ hconverts release hrelease⟩
  rw [h.feasible_iff hcount hcompiled]
  have hall : ∀ action ∈ metadata.actions,
      ((nativeFloors policy clock).microsecondsToTicks action.atUs).isSome = true := by
    intro action haction
    rw [(hticks _ (hconverts action haction)).1, Option.isSome_some]
  have hkeys : ∀ scanCode,
      ((∀ onset ∈ keyOnsets scanCode (retainFirstOnsets drafts),
          (nativeFloors policy clock).ticks onset +
            (nativeFloors policy clock).effectiveMinHoldTicks < 2 ^ 64 ∧
          (nativeFloors policy clock).ticks onset +
            (nativeFloors policy clock).effectiveMinHoldTicks ≤
            (nativeFloors policy clock).ticks (onset + policy.minHoldUs)) ↔
        ∀ onset ∈ keyOnsets scanCode (retainFirstOnsets drafts),
          clock.ceilTicks onset + clock.ceilTicks policy.minHoldUs ≤
            clock.ceilTicks (onset + policy.minHoldUs)) := by
    intro scanCode
    refine forall₂_congr fun onset hmem => ?_
    obtain ⟨hpress, hrelease⟩ := honset hmem
    rw [(hticks _ hpress).2, (hticks _ hrelease).2]
    have hbound := hrelease.eq_ceilTicks.2
    simp only [nativeFloors]
    omega
  have hgaps : ∀ scanCode,
      ((0 < (nativeFloors policy clock).minReleaseGapUs →
        (keyOnsets scanCode (retainFirstOnsets drafts)).IsChain fun onset next =>
          (nativeFloors policy clock).minReleaseGapTicks ≤
            (nativeFloors policy clock).ticks next -
              (nativeFloors policy clock).ticks (onset + policy.minHoldUs)) ↔
        (keyOnsets scanCode (retainFirstOnsets drafts)).IsChain fun onset next =>
          clock.ceilTicks (onset + policy.minHoldUs) + clock.ceilTicks policy.minReleaseGapUs ≤
            clock.ceilTicks next) := by
    intro scanCode
    have hreleased := (h.compiles_iff hcount).mp ⟨compiled, hcompiled⟩ scanCode
    have hpositive : 0 < (nativeFloors policy clock).minReleaseGapUs := hgap
    simp only [hpositive, forall_const, List.isChain_iff_forall_rel_of_append_cons_cons] at hreleased ⊢
    refine forall₅_congr fun onset next before after hsplit => ?_
    have hmem : onset ∈ keyOnsets scanCode (retainFirstOnsets drafts) := by
      rw [hsplit]
      simp
    have hnext : next ∈ keyOnsets scanCode (retainFirstOnsets drafts) := by
      rw [hsplit]
      simp
    rw [(hticks _ (honset hmem).2).2, (hticks _ (honset hnext).1).2]
    -- the release comes before the next onset, so the difference does not truncate
    have hle := clock.ceilTicks_mono (hreleased hsplit).le
    simp only [nativeFloors]
    omega
  rw [RoundsFeasibly]
  constructor
  · rintro ⟨-, -, hfeasible⟩ scanCode
    exact ⟨(hkeys scanCode).mp (hfeasible scanCode).1, (hgaps scanCode).mp (hfeasible scanCode).2⟩
  · intro hrounds
    exact ⟨hfits, hall, fun scanCode =>
      ⟨(hkeys scanCode).mpr (hrounds scanCode).1, (hgaps scanCode).mpr (hrounds scanCode).2⟩⟩

end BuiltSchedule

/-- A schedule compiles only when all its onsets are over the Sky scan codes. -/
theorem codes_of_compiled {drafts : List DraftOnset} {metadata : ScheduleMetadata}
    (hactions : metadata.actions =
      finalActions ((withNextOnset (retainFirstOnsets drafts)).flatMap (draftActions policy)))
    (hwellFormed : WellFormedInput (dispatchActions metadata.actions) skyScanCodes) :
    ∀ draft ∈ drafts, draft.scanCode ∈ skyScanCodes := by
  intro draft hdraft
  have honset : draft.atUs ∈ keyOnsets draft.scanCode (retainFirstOnsets drafts) :=
    AppCore.mem_keyOnsets_retained.mpr
      (List.mem_map.mpr ⟨draft, List.mem_filter.mpr ⟨hdraft, decide_eq_true rfl⟩, rfl⟩)
  have hkey := @AppCore.mem_finalActions_key policy (retainFirstOnsets drafts) draft.scanCode
    draft.atUs .down
  rw [← hactions] at hkey
  obtain ⟨action, haction, -, hcode⟩ := hkey.mpr ⟨draft.atUs, honset, Or.inl rfl⟩
  obtain ⟨entry, hentry, rfl⟩ : ∃ entry ∈ metadata.actions.zipIdx, entry.1 = action := by
    have hmem := haction
    rw [← List.zipIdx_map_fst 0 metadata.actions] at hmem
    exact List.mem_map.mp hmem
  have hcodes := hwellFormed.codes _ (List.mem_map_of_mem (f := dispatchAction) hentry)
  exact hcodes.2.2.2 _ hcode

/-- On a whole number of ticks for each microsecond nothing is lost by rounding. -/
theorem roundsFeasibly_of_dvd {drafts : List DraftOnset} {clock : QpcClock}
    (hfrequency : 1000000 ∣ clock.frequencyHz)
    (hroom : ∀ scanCode, (keyOnsets scanCode (retainFirstOnsets drafts)).IsChain
      (fun onset next => onset + policy.minHoldUs + policy.minReleaseGapUs ≤ next)) :
    RoundsFeasibly drafts policy clock := by
  obtain ⟨ticksPerUs, hticks⟩ := hfrequency
  intro scanCode
  simp only [QpcClock.ceilTicks_of_dvd hticks, ← Nat.add_mul]
  refine ⟨fun _ _ => le_rfl, (hroom scanCode).imp fun onset next hle => ?_⟩
  exact Nat.mul_le_mul_right ticksPerUs hle

/-- A playable schedule compiles, and the native admission accepts it exactly when its holds and
release gaps are still long enough after rounding; on a whole number of ticks for each microsecond
they always are. -/
theorem playable_schedule_admission {drafts : List DraftOnset} {tempo : TempoScale}
    {policy : MaterializedTimingPolicy} {metadata : ScheduleMetadata} {clock : QpcClock}
    (hhold : 0 < policy.minHoldUs) (hgap : 0 < policy.minReleaseGapUs)
    (hsorted : drafts.Pairwise (fun a b => a.atUs ≤ b.atUs))
    (hindices : (drafts.map (·.sourceIndex)).Nodup)
    (hbuild : buildScheduleFromScaledOnsets drafts tempo policy = .ok metadata)
    (hplayable : metadata.impossibleSameKeyRepeats = 0)
    (hcount : metadata.actions.length ≤ maxActions)
    (hfits : (metadata.actions.getLast?.map (·.atUs)).getD 0 + policy.minHoldUs < 2 ^ 64)
    (hconverts : ∀ action ∈ metadata.actions, Converts clock action.atUs)
    (hholdConverts : Converts clock policy.minHoldUs)
    (hgapConverts : Converts clock policy.minReleaseGapUs) :
    ((∀ draft ∈ drafts, draft.scanCode ∈ skyScanCodes) →
      ∃ compiled, compileDispatchSchedule metadata = .ok compiled) ∧
    ∀ compiled, compileDispatchSchedule metadata = .ok compiled →
      (validateNativeScheduleTimingWithReleaseGap compiled policy.minHoldUs
        policy.minReleaseGapUs clock = .ok () ↔ RoundsFeasibly drafts policy clock) ∧
      (1000000 ∣ clock.frequencyHz →
        validateNativeScheduleTimingWithReleaseGap compiled policy.minHoldUs
          policy.minReleaseGapUs clock = .ok ()) := by
  have hbuilt := fun hcodes => built_of_build hhold hsorted hindices hcodes hbuild
  refine ⟨fun hcodes => ((hbuilt hcodes).compiles_iff hcount).mpr
    (((hbuilt hcodes).playable_iff hgap).mp hplayable).1, fun compiled hcompiled => ?_⟩
  have hcodes : ∀ draft ∈ drafts, draft.scanCode ∈ skyScanCodes := by
    have hcompiles := hcompiled
    rw [compileDispatchSchedule, describeError_eq_ok] at hcompiles
    exact codes_of_compiled (AppCore.buildSchedule_spec hindices hbuild).2.1
      (DispatchCore.wellFormedInput_of_compiled hcompiles)
  specialize hbuilt hcodes
  have hmicroseconds : validateMinHoldAndReleaseGapFeasibility compiled policy.minHoldUs
      policy.minReleaseGapUs = .ok () :=
    (hbuilt.microseconds_feasible_iff hgap hcount hfits hcompiled).mpr
      ((hbuilt.playable_iff hgap).mp hplayable).2
  have hnative : validateNativeScheduleTimingWithReleaseGap compiled policy.minHoldUs
      policy.minReleaseGapUs clock = .ok () ↔ RoundsFeasibly drafts policy clock := by
    rw [validateNative_eq_ok hholdConverts hgapConverts, and_iff_right hmicroseconds]
    exact hbuilt.native_feasible_iff hgap hcount hfits hcompiled hconverts
  exact ⟨hnative, fun hfrequency =>
    hnative.mpr (roundsFeasibly_of_dvd hfrequency (hbuilt.impossible.mp hplayable))⟩

/-- The tight repeat is admitted at ten ticks for each microsecond. -/
theorem tightRepeat_admitted : ∃ metadata compiled,
    buildScheduleFromScaledOnsets tightRepeat unitTempo ⟨100, 50⟩ = .ok metadata ∧
      compileDispatchSchedule metadata = .ok compiled ∧
      validateNativeScheduleTimingWithReleaseGap compiled 100 50 ⟨10000000, by decide⟩ =
        .ok () := by
  have hok : (buildScheduleFromScaledOnsets tightRepeat unitTempo ⟨100, 50⟩).toOption.any
      (fun metadata => decide (metadata.impossibleSameKeyRepeats = 0 ∧
        metadata.actions.length ≤ maxActions ∧
        (metadata.actions.getLast?.map (·.atUs)).getD 0 + 100 < 2 ^ 64 ∧
        ∀ action ∈ metadata.actions, Converts ⟨10000000, by decide⟩ action.atUs)) = true := by
    decide +kernel
  obtain ⟨metadata, hbuild, hchecks⟩ := Except.exists_of_any hok
  obtain ⟨hplayable, hcount, hfits, hconverts⟩ := of_decide_eq_true hchecks
  obtain ⟨hcompiles, hadmits⟩ := @playable_schedule_admission tightRepeat unitTempo ⟨100, 50⟩
    metadata ⟨10000000, by decide⟩ (by decide) (by decide) (by decide) (by decide) hbuild
    hplayable hcount hfits hconverts (by decide) (by decide)
  obtain ⟨compiled, hcompiled⟩ := hcompiles (by decide)
  exact ⟨metadata, compiled, hbuild, hcompiled, (hadmits compiled hcompiled).2 (by decide)⟩

/-- An onset whose hold loses a tick to rounding at 3.125 MHz. -/
def fractionalOnset : List DraftOnset := [⟨1, 0x15, 0⟩]

/-- The native admission rejects a playable schedule when rounding shortens its hold. -/
theorem fractionalOnset_rejected : ∃ metadata compiled,
    buildScheduleFromScaledOnsets fractionalOnset unitTempo ⟨100, 50⟩ = .ok metadata ∧
      metadata.impossibleSameKeyRepeats = 0 ∧ metadata.actions.length ≤ maxActions ∧
      (metadata.actions.getLast?.map (·.atUs)).getD 0 + 100 < 2 ^ 64 ∧
      (∀ microseconds ∈ 100 :: 50 :: metadata.actions.map (·.atUs),
        Converts ⟨3125000, by decide⟩ microseconds) ∧
      compileDispatchSchedule metadata = .ok compiled ∧
      validateNativeScheduleTimingWithReleaseGap compiled 100 50 ⟨3125000, by decide⟩ ≠
        .ok () := by
  have hok : (buildScheduleFromScaledOnsets fractionalOnset unitTempo ⟨100, 50⟩).toOption.any
      (fun metadata => decide (metadata.impossibleSameKeyRepeats = 0 ∧
        metadata.actions.length ≤ maxActions ∧
        (metadata.actions.getLast?.map (·.atUs)).getD 0 + 100 < 2 ^ 64 ∧
        (∀ microseconds ∈ 100 :: 50 :: metadata.actions.map (·.atUs),
          Converts ⟨3125000, by decide⟩ microseconds)) &&
        (compileDispatchSchedule metadata).toOption.any (fun compiled =>
          !(validateNativeScheduleTimingWithReleaseGap compiled 100 50
            ⟨3125000, by decide⟩).isOk)) = true := by
    decide +kernel
  obtain ⟨metadata, hbuild, hchecks⟩ := Except.exists_of_any hok
  obtain ⟨hbounds, hcompiles⟩ := Bool.and_eq_true_iff.mp hchecks
  obtain ⟨hplayable, hcount, hfits, hconverts⟩ := of_decide_eq_true hbounds
  obtain ⟨compiled, hcompiled, hrejects⟩ := Except.exists_of_any hcompiles
  refine ⟨metadata, compiled, hbuild, hplayable, hcount, hfits, hconverts, hcompiled, ?_⟩
  intro hvalid
  rw [hvalid] at hrejects
  cases hrejects

end SkyAutoPlayer.Player
