import Mathlib.Data.Finset.Sort
import SkyAutoPlayer.AppCore.ScheduleActions
import SkyAutoPlayer.Foundation.Buckets

/-!
# What a schedule conserves

Merging and sorting neither drop nor double a key event: the presses of a schedule are the distinct
onsets of its drafts, the releases are the same onsets one hold later, and the repeat statistics are
those of the consecutive onsets of each key.
-/

namespace SkyAutoPlayer.AppCore

open Foundation

/-- The distinct onsets of the drafts, by time and key. -/
def onsetPairs (drafts : List DraftOnset) : Finset (ℕ × ℕ) :=
  (drafts.map fun draft => (draft.atUs, draft.scanCode)).toFinset

/-- The key events of one kind, by time and key. -/
def keyEvents (kind : ActionKind) (actions : List KeyAction) : List (ℕ × ℕ) :=
  (actions.filter fun action => action.kind = kind).flatMap fun action =>
    action.scanCodes.map fun scanCode => (action.atUs, scanCode)

/-- The distinct onset times of a key, in order. -/
def onsetTimes (scanCode : ℕ) (drafts : List DraftOnset) : List ℕ :=
  (keyOnsets scanCode drafts).toFinset.sort (· ≤ ·)

/-- The differences between consecutive onsets of one key, of every key. -/
def sameKeyIntervals (drafts : List DraftOnset) : List ℕ :=
  (drafts.map (·.scanCode)).dedup.flatMap fun scanCode => differences (onsetTimes scanCode drafts)

/-- One action comes before another: earlier, or a release at the time of a press. -/
def ActsBefore (first second : KeyAction) : Prop :=
  first.atUs < second.atUs ∨
    first.atUs = second.atUs ∧ first.kind = .up ∧ second.kind = .down

variable {policy : MaterializedTimingPolicy}

/-- The interval from an onset to the next one of its key. -/
def repeatInterval (entry : DraftOnset × Option ℕ) : Option ℕ :=
  entry.2.map (· - entry.1.atUs)

/-- The running minimum of the repeat intervals. -/
theorem actualHold_shortest (draft : DraftOnset) (nextAt : Option ℕ)
    (progress : ScheduleProgress) :
    (actualHold policy nextAt draft.atUs progress).2.shortest =
      (repeatInterval (draft, nextAt)).toList.foldl
        (fun current interval => some (runningMin current interval)) progress.shortest := by
  cases nextAt with
  | none => rfl
  | some nextAt =>
    simp only [actualHold, repeatHold_eq, repeatInterval, Option.map_some, Option.toList_some,
      List.foldl_cons, List.foldl_nil]
    split <;> rfl

/-- The shortest interval of the scheduled onsets is the least repeat interval. -/
theorem scheduleDrafts_shortest {drafts : List DraftOnset}
    (hindices : (drafts.map (·.sourceIndex)).Nodup) {progress : ScheduleProgress}
    (h : scheduleDrafts policy (nextOnsets drafts).nextBySource drafts = .ok progress) :
    progress.shortest = ((withNextOnset drafts).filterMap repeatInterval).min? := by
  have hrun : ∀ (rest : List DraftOnset) (start progress : ScheduleProgress),
      rest.foldlM (scheduleDraft policy (nextOnsets drafts).nextBySource) start =
        .ok progress →
      progress.shortest = ((rest.map fun draft =>
        (draft, ((nextOnsets drafts).nextBySource draft.sourceIndex).join)).filterMap
          repeatInterval).foldl (fun current interval => some (runningMin current interval))
            start.shortest := by
    intro rest
    induction rest with
    | nil =>
      intro start progress hrun
      rw [List.foldlM_nil, Except.pure_eq_ok] at hrun
      rw [← hrun]
      rfl
    | cons draft rest ih =>
      intro start progress hrun
      rw [List.foldlM_cons, Except.bind_eq_ok] at hrun
      obtain ⟨middle, hstep, hrest⟩ := hrun
      simp only [scheduleDraft, Except.bind_eq_ok, okOr_eq_ok, checkedAdd_eq_some,
        Except.pure_eq_ok] at hstep
      obtain ⟨_, -, rfl⟩ := hstep
      have hmiddle := @actualHold_shortest policy draft
        ((nextOnsets drafts).nextBySource draft.sourceIndex).join start
      rw [ih _ _ hrest, hmiddle, List.map_cons, List.filterMap_cons]
      cases repeatInterval
        (draft, ((nextOnsets drafts).nextBySource draft.sourceIndex).join) <;> rfl
  have hall := hrun drafts ScheduleProgress.initial progress h
  rw [nextOnsets_eq_withNextOnset hindices] at hall
  rw [hall]
  exact foldl_runningMin_eq_min? (fun _ => rfl) (fun _ _ => rfl) _

/-- The repeat intervals of one key are the differences of its onsets. -/
theorem repeatIntervals_of_key (scanCode : ℕ) (drafts : List DraftOnset) :
    ((withNextOnset drafts).filter fun entry => entry.1.scanCode = scanCode).filterMap
        repeatInterval = differences (keyOnsets scanCode drafts) := by
  induction drafts with
  | nil => rfl
  | cons draft rest ih =>
    by_cases hcode : draft.scanCode = scanCode
    · have hhead : (keyOnsets scanCode rest).head? =
          (rest.find? fun other => other.scanCode = draft.scanCode).map (·.atUs) := by
        rw [keyOnsets, List.head?_map, List.head?_filter, hcode]
      have honsets : keyOnsets scanCode (draft :: rest) =
          draft.atUs :: keyOnsets scanCode rest := by
        rw [keyOnsets, List.filter_cons_of_pos (by simpa using hcode), List.map_cons]
        rfl
      rw [withNextOnset, List.filter_cons_of_pos (by simpa using hcode), List.filterMap_cons, ih,
        honsets, differences_cons, hhead, repeatInterval]
      cases (rest.find? fun other => other.scanCode = draft.scanCode) <;> rfl
    · have honsets : keyOnsets scanCode (draft :: rest) = keyOnsets scanCode rest := by
        rw [keyOnsets, List.filter_cons_of_neg (by simpa using hcode)]
        rfl
      rw [withNextOnset, List.filter_cons_of_neg (by simpa using hcode), ih, honsets]

/-- The retained onsets of a key are its distinct onset times in order. -/
theorem keyOnsets_retained {drafts : List DraftOnset}
    (hsorted : drafts.Pairwise fun a b => a.atUs ≤ b.atUs) (scanCode : ℕ) :
    keyOnsets scanCode (retainFirstOnsets drafts) = onsetTimes scanCode drafts := by
  have hstrict := keyOnsets_sorted hsorted scanCode
  have hsame : (keyOnsets scanCode drafts).toFinset =
      (keyOnsets scanCode (retainFirstOnsets drafts)).toFinset := by
    ext onset
    rw [List.mem_toFinset, List.mem_toFinset, mem_keyOnsets_retained]
  rw [onsetTimes, hsame]
  exact ((List.toFinset_sort _ (hstrict.imp Nat.ne_of_lt)).mpr (hstrict.imp Nat.le_of_lt)).symm

/-- The repeat intervals of the retained onsets are the differences of every key's onsets. -/
theorem repeatIntervals_perm {drafts : List DraftOnset}
    (hsorted : drafts.Pairwise fun a b => a.atUs ≤ b.atUs) :
    ((withNextOnset (retainFirstOnsets drafts)).filterMap repeatInterval).Perm
      (sameKeyIntervals drafts) := by
  have hcover : ∀ entry ∈ withNextOnset (retainFirstOnsets drafts),
      entry.1.scanCode ∈ (drafts.map (·.scanCode)).dedup := by
    intro entry hentry
    have hdraft : entry.1 ∈ retainFirstOnsets drafts := by
      rw [← withNextOnset_fst (retainFirstOnsets drafts)]
      exact List.mem_map_of_mem hentry
    rw [List.mem_dedup]
    exact List.mem_map_of_mem ((keepFirst_sublist _ [] drafts).subset hdraft)
  have hbuckets := (perm_flatMap_bucket (List.nodup_dedup _) hcover).filterMap repeatInterval
  refine hbuckets.symm.trans (List.Perm.of_eq ?_)
  rw [List.filterMap_flatMap, sameKeyIntervals]
  congr 1
  funext scanCode
  rw [repeatIntervals_of_key, keyOnsets_retained hsorted]

/-- The differences below a positive hold and the release gap are the repeats that are too
close. -/
theorem countP_tooClose (hhold : 0 < policy.minHoldUs) (entries : List (DraftOnset × Option ℕ)) :
    entries.countP (tooClose policy) = (entries.filterMap repeatInterval).countP
      fun interval => interval < policy.minHoldUs + policy.minReleaseGapUs := by
  induction entries with
  | nil => rfl
  | cons entry entries ih =>
    obtain ⟨draft, nextAt⟩ := entry
    cases nextAt with
    | none =>
      rw [List.filterMap_cons_none rfl, List.countP_cons, ih]
      simp [tooClose]
    | some nextAt =>
      have hsame : nextAt - draft.atUs - policy.minReleaseGapUs < policy.minHoldUs ↔
          nextAt - draft.atUs < policy.minHoldUs + policy.minReleaseGapUs := by omega
      simp [tooClose, repeatInterval, List.countP_cons, ih, hsame]

/-- The key events of a kind are the keys of its actions. -/
theorem mem_keyEvents {kind : ActionKind} {actions : List KeyAction} {atUs scanCode : ℕ} :
    (atUs, scanCode) ∈ keyEvents kind actions ↔
      ∃ action ∈ actions, groupKey action = (atUs, kind) ∧ scanCode ∈ action.scanCodes := by
  simp only [keyEvents, List.mem_flatMap, List.mem_filter, List.mem_map, decide_eq_true_eq,
    groupKey, Prod.mk.injEq]
  constructor
  · rintro ⟨action, ⟨haction, hkind⟩, code, hcode, rfl, rfl⟩
    exact ⟨action, haction, ⟨rfl, hkind⟩, hcode⟩
  · rintro ⟨action, haction, ⟨rfl, hkind⟩, hcode⟩
    exact ⟨action, ⟨haction, hkind⟩, scanCode, hcode, rfl, rfl⟩

/-- The key events of final actions are distinct. -/
theorem keyEvents_nodup (kind : ActionKind) (actions : List KeyAction) :
    (keyEvents kind (finalActions actions)).Nodup := by
  rw [keyEvents, List.nodup_flatMap]
  constructor
  · intro action haction
    obtain ⟨key, -, rfl⟩ := mem_finalActions.mp (List.mem_filter.mp haction).1
    exact (mergeGroup_nodup actions key).map fun _ _ h => (Prod.mk.inj h).2
  · have hkeys := List.pairwise_map.mp (finalActions_keys actions)
    refine (hkeys.filter _).imp_of_mem ?_
    intro first second hfirst hsecond hne event hleft hright
    obtain ⟨_, -, rfl⟩ := List.mem_map.mp hleft
    obtain ⟨_, -, heq⟩ := List.mem_map.mp hright
    have hkind := (of_decide_eq_true (List.mem_filter.mp hfirst).2).trans
      (of_decide_eq_true (List.mem_filter.mp hsecond).2).symm
    exact hne (by rw [groupKey, groupKey, (Prod.mk.inj heq).1, hkind])

/-- An onset of a key is one of the drafts' pairs. -/
theorem mem_onsetPairs {drafts : List DraftOnset} {atUs scanCode : ℕ} :
    (atUs, scanCode) ∈ onsetPairs drafts ↔ atUs ∈ keyOnsets scanCode drafts := by
  simp only [onsetPairs, keyOnsets, List.mem_toFinset, List.mem_map, List.mem_filter,
    decide_eq_true_eq, Prod.mk.injEq]
  constructor
  · rintro ⟨draft, hdraft, hat, hcode⟩
    exact ⟨draft, ⟨hdraft, hcode⟩, hat⟩
  · rintro ⟨draft, ⟨hdraft, hcode⟩, hat⟩
    exact ⟨draft, hdraft, hat, hcode⟩

/-- One draft is retained of every distinct onset. -/
theorem length_retainFirstOnsets (drafts : List DraftOnset) :
    (retainFirstOnsets drafts).length = (onsetPairs drafts).card := by
  let pair : DraftOnset → ℕ × ℕ := fun draft => (draft.atUs, draft.scanCode)
  have hnodup : ((retainFirstOnsets drafts).map pair).Nodup :=
    List.pairwise_map.mpr (keepFirst_pairwise pair [] drafts)
  have hsame : onsetPairs drafts = ((retainFirstOnsets drafts).map pair).toFinset := by
    ext ⟨atUs, scanCode⟩
    rw [mem_onsetPairs, ← mem_keyOnsets_retained, ← mem_onsetPairs]
    rfl
  rw [hsame, List.toFinset_card_of_nodup hnodup, List.length_map]

/-- Orders of final actions: each acts before the next. -/
theorem actsBefore_of_actionOrder {first second : KeyAction}
    (h : actionOrder first < actionOrder second) : ActsBefore first second := by
  obtain ⟨at₁, codes₁, kind₁, reason₁⟩ := first
  obtain ⟨at₂, codes₂, kind₂, reason₂⟩ := second
  cases kind₁ <;> cases kind₂ <;> simp [actionOrder, ActsBefore] at h ⊢ <;> omega

/-- A schedule of drafts in time order presses every distinct onset once, releases each one hold
later once, keeps its actions in order, counts every draft, and reports the least same-key interval
and the number of those without room for the hold and the release gap. -/
theorem schedule_conserves_onsets {drafts : List DraftOnset} {tempo : TempoScale}
    {metadata : ScheduleMetadata} (hsorted : drafts.Pairwise fun a b => a.atUs ≤ b.atUs)
    (hindices : (drafts.map (·.sourceIndex)).Nodup) (hhold : 0 < policy.minHoldUs)
    (h : buildScheduleFromScaledOnsets drafts tempo policy = .ok metadata) :
    (keyEvents .down metadata.actions).Perm (onsetPairs drafts).toList ∧
      (keyEvents .up metadata.actions).Perm
        ((onsetPairs drafts).toList.map fun onset => (onset.1 + policy.minHoldUs, onset.2)) ∧
      metadata.actions.Pairwise ActsBefore ∧
      metadata.noteCount = (onsetPairs drafts).card + metadata.duplicateNoteCount ∧
      metadata.shortestSameKeyIntervalUs = (sameKeyIntervals drafts).min? ∧
      metadata.impossibleSameKeyRepeats = (sameKeyIntervals drafts).countP
        fun interval => interval < policy.minHoldUs + policy.minReleaseGapUs := by
  obtain ⟨-, hactions, himpossible⟩ := buildSchedule_spec hindices h
  have hkeys (kind : ActionKind) (atUs scanCode : ℕ) :
      (atUs, scanCode) ∈ keyEvents kind metadata.actions ↔
        ∃ onset ∈ keyOnsets scanCode drafts,
          (atUs, kind) = (onset, .down) ∨ (atUs, kind) = (onset + policy.minHoldUs, .up) := by
    rw [mem_keyEvents, hactions, mem_finalActions_key]
    simp only [mem_keyOnsets_retained]
  have hnodup (kind : ActionKind) : (keyEvents kind metadata.actions).Nodup := by
    rw [hactions]
    exact keyEvents_nodup kind _
  refine ⟨?_, ?_, ?_, ?_, ?_, ?_⟩
  · apply (List.perm_ext_iff_of_nodup (hnodup .down) (Finset.nodup_toList _)).mpr
    rintro ⟨atUs, scanCode⟩
    rw [hkeys, Finset.mem_toList, mem_onsetPairs]
    simp
  · have hshift : ((onsetPairs drafts).toList.map
        fun onset => (onset.1 + policy.minHoldUs, onset.2)).Nodup := by
      apply (Finset.nodup_toList _).map
      rintro ⟨at₁, code₁⟩ ⟨at₂, code₂⟩ heq
      simpa using heq
    apply (List.perm_ext_iff_of_nodup (hnodup .up) hshift).mpr
    rintro ⟨atUs, scanCode⟩
    rw [hkeys, List.mem_map]
    simp only [Finset.mem_toList, Prod.exists, Prod.mk.injEq, mem_onsetPairs]
    constructor
    · rintro ⟨onset, honset, hpress | hrelease⟩
      · cases hpress.2
      · exact ⟨onset, scanCode, honset, hrelease.1.symm, rfl⟩
    · rintro ⟨onset, code, honset, rfl, rfl⟩
      exact ⟨onset, honset, .inr ⟨rfl, trivial⟩⟩
  · rw [hactions]
    exact (finalActions_sorted _).imp actsBefore_of_actionOrder
  · simp only [buildScheduleFromScaledOnsets, Except.bind_eq_ok, failIf_eq_ok, okOr_eq_ok,
      Except.pure_eq_ok] at h
    obtain ⟨_, -, progress, -, _, -, rfl⟩ := h
    have hle : (retainFirstOnsets drafts).length ≤ drafts.length :=
      (keepFirst_sublist _ [] drafts).length_le
    rw [← length_retainFirstOnsets]
    simp only
    omega
  · simp only [buildScheduleFromScaledOnsets, Except.bind_eq_ok, failIf_eq_ok, okOr_eq_ok,
      Except.pure_eq_ok] at h
    obtain ⟨_, -, progress, hprogress, _, -, rfl⟩ := h
    have hretained : ((retainFirstOnsets drafts).map (·.sourceIndex)).Nodup :=
      hindices.sublist ((keepFirst_sublist _ [] drafts).map _)
    rw [scheduleDrafts_shortest hretained hprogress]
    exact min?_perm (repeatIntervals_perm hsorted)
  · rw [himpossible, countP_tooClose hhold]
    exact (repeatIntervals_perm hsorted).countP_eq _

/-- A repeated key with a duplicate: two onsets of three notes. -/
theorem schedule_conserves_onsets_repeat :
    ∃ metadata, buildScheduleFromScaledOnsets
        [⟨0, 0x15, 0⟩, ⟨60000, 0x15, 1⟩, ⟨60000, 0x15, 2⟩] ⟨true, some, fun _ _ => none⟩
        ⟨50000, 30000⟩ = .ok metadata ∧
      metadata.actions.Pairwise ActsBefore ∧
      metadata.noteCount = 2 + metadata.duplicateNoteCount := by
  obtain ⟨metadata, h⟩ : ∃ metadata, buildScheduleFromScaledOnsets
      [⟨0, 0x15, 0⟩, ⟨60000, 0x15, 1⟩, ⟨60000, 0x15, 2⟩] ⟨true, some, fun _ _ => none⟩
      ⟨50000, 30000⟩ = .ok metadata := ⟨_, rfl⟩
  obtain ⟨-, -, hordered, hcount, -, -⟩ :=
    schedule_conserves_onsets (by decide) (by decide) (by decide) h
  have honsets : (onsetPairs [⟨0, 0x15, 0⟩, ⟨60000, 0x15, 1⟩, ⟨60000, 0x15, 2⟩]).card = 2 := by
    decide
  exact ⟨metadata, h, hordered, honsets ▸ hcount⟩

end SkyAutoPlayer.AppCore
