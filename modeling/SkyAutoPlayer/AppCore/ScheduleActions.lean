import Mathlib.Data.List.Chain
import SkyAutoPlayer.AppCore.SongSchedule
import SkyAutoPlayer.Foundation.Guarded

/-!
# The actions of a schedule

Every retained onset gets the minimum hold, so the schedule's actions are the presses of the
retained onsets and their releases one hold later, merged by time and kind. The impossible
repeats are the retained onsets whose next onset of the same key leaves no room for the hold
and the release gap.
-/

namespace SkyAutoPlayer.AppCore

open Foundation

variable {policy : MaterializedTimingPolicy}

/-- Each onset with the next onset of its key. -/
def withNextOnset : List DraftOnset → List (DraftOnset × Option ℕ)
  | [] => []
  | draft :: rest =>
    (draft, (rest.find? (fun other => other.scanCode = draft.scanCode)).map (·.atUs)) ::
      withNextOnset rest

/-- The onsets of a key. -/
def keyOnsets (scanCode : ℕ) (drafts : List DraftOnset) : List ℕ :=
  (drafts.filter (fun draft => draft.scanCode = scanCode)).map (·.atUs)

/-- The backward walk knows the first onset of every key. -/
theorem nextOnsets_next (drafts : List DraftOnset) (scanCode : ℕ) :
    (nextOnsets drafts).next scanCode =
      (drafts.find? (fun draft => draft.scanCode = scanCode)).map (·.atUs) := by
  induction drafts with
  | nil => rfl
  | cons draft rest ih =>
    change (recordNext draft (nextOnsets rest)).next scanCode = _
    by_cases hcode : draft.scanCode = scanCode
    · subst hcode
      simp [recordNext]
    · have hne : scanCode ≠ draft.scanCode := fun heq => hcode heq.symm
      simp [recordNext, hcode, hne, ih]

/-- The backward walk gives every onset the next onset of its key. -/
theorem nextOnsets_eq_withNextOnset {drafts : List DraftOnset}
    (hindices : (drafts.map (·.sourceIndex)).Nodup) :
    drafts.map (fun draft =>
      (draft, ((nextOnsets drafts).nextBySource draft.sourceIndex).join)) =
      withNextOnset drafts := by
  induction drafts with
  | nil => rfl
  | cons draft rest ih =>
    obtain ⟨hfresh, hrest⟩ := List.nodup_cons.mp hindices
    rw [List.map_cons, withNextOnset, ← ih hrest]
    congr 1
    · refine Prod.ext rfl ?_
      change ((recordNext draft (nextOnsets rest)).nextBySource draft.sourceIndex).join = _
      rw [recordNext]
      dsimp only
      rw [Function.update_self, Option.join_some, nextOnsets_next]
    · refine List.map_congr_left fun other hother => Prod.ext rfl ?_
      have hne : other.sourceIndex ≠ draft.sourceIndex := fun heq =>
        hfresh (List.mem_map.mpr ⟨other, hother, heq⟩)
      change ((recordNext draft (nextOnsets rest)).nextBySource other.sourceIndex).join = _
      rw [recordNext]
      dsimp only
      rw [Function.update_of_ne hne]

/-- A repeat leaves no room for the hold and the release gap. -/
def tooClose (policy : MaterializedTimingPolicy) (entry : DraftOnset × Option ℕ) : Bool :=
  match entry.2 with
  | none => false
  | some nextAt => decide (nextAt - entry.1.atUs - policy.minReleaseGapUs < policy.minHoldUs)

/-- A repeat keeps the minimum hold; only a repeat without room is counted. -/
theorem repeatHold_eq (interval : ℕ) (progress : ScheduleProgress) :
    repeatHold policy interval progress =
      (policy.minHoldUs, if interval - policy.minReleaseGapUs < policy.minHoldUs then
        { progress with impossible := progress.impossible + 1 } else progress) := by
  unfold repeatHold MaterializedTimingPolicy.targetHoldUs
  dsimp only
  split <;> rfl

/-- Every onset gets the minimum hold. -/
theorem actualHold_fst (nextAt : Option ℕ) (atUs : ℕ) (progress : ScheduleProgress) :
    (actualHold policy nextAt atUs progress).1 = policy.minHoldUs := by
  cases nextAt with
  | none => rfl
  | some nextAt => rw [actualHold, repeatHold_eq]

/-- An onset is counted exactly when its repeat is too close. -/
theorem actualHold_impossible (draft : DraftOnset) (nextAt : Option ℕ)
    (progress : ScheduleProgress) :
    (actualHold policy nextAt draft.atUs progress).2.impossible =
        progress.impossible + (if tooClose policy (draft, nextAt) then 1 else 0) ∧
      (actualHold policy nextAt draft.atUs progress).2.actions = progress.actions := by
  cases nextAt with
  | none => simp [actualHold, tooClose]
  | some nextAt =>
    simp only [actualHold, repeatHold_eq, tooClose, decide_eq_true_eq]
    split <;> exact ⟨rfl, rfl⟩

/-- The press and the release of an onset. -/
def draftActions (policy : MaterializedTimingPolicy) (entry : DraftOnset × Option ℕ) :
    List KeyAction :=
  [onsetAction entry.1, releaseAction entry.1 entry.2 (entry.1.atUs + policy.minHoldUs)]

/-- The scheduled onsets: their holds fit, their actions are the presses and releases, and the
impossible repeats are counted. -/
theorem scheduleDrafts_spec {drafts : List DraftOnset}
    (hindices : (drafts.map (·.sourceIndex)).Nodup) {progress : ScheduleProgress}
    (h : scheduleDrafts policy (nextOnsets drafts).nextBySource drafts = .ok progress) :
    (∀ draft ∈ drafts, draft.atUs + policy.minHoldUs < 2 ^ 64) ∧
      progress.actions = (withNextOnset drafts).flatMap (draftActions policy) ∧
      progress.impossible = (withNextOnset drafts).countP (tooClose policy) := by
  have hrun : ∀ (rest : List DraftOnset) (start progress : ScheduleProgress),
      rest.foldlM (scheduleDraft policy (nextOnsets drafts).nextBySource) start =
        .ok progress →
      (∀ draft ∈ rest, draft.atUs + policy.minHoldUs < 2 ^ 64) ∧
      progress.actions = start.actions ++ (rest.map (fun draft =>
        (draft, ((nextOnsets drafts).nextBySource draft.sourceIndex).join))).flatMap
          (draftActions policy) ∧
      progress.impossible = start.impossible + (rest.map (fun draft =>
        (draft, ((nextOnsets drafts).nextBySource draft.sourceIndex).join))).countP
          (tooClose policy) := by
    intro rest
    induction rest with
    | nil =>
      intro start progress hrun
      rw [List.foldlM_nil, Except.pure_eq_ok] at hrun
      subst hrun
      exact ⟨nofun, by simp, by simp⟩
    | cons draft rest ih =>
      intro start progress hrun
      rw [List.foldlM_cons, Except.bind_eq_ok] at hrun
      obtain ⟨middle, hstep, hrest⟩ := hrun
      simp only [scheduleDraft, Except.bind_eq_ok, okOr_eq_ok, checkedAdd_eq_some,
        Except.pure_eq_ok, actualHold_fst] at hstep
      obtain ⟨_, ⟨hfits, rfl⟩, rfl⟩ := hstep
      obtain ⟨hrestFits, hactions, himpossible⟩ := ih _ _ hrest
      obtain ⟨hcount, hkept⟩ := @actualHold_impossible policy draft
        ((nextOnsets drafts).nextBySource draft.sourceIndex).join start
      refine ⟨List.forall_mem_cons.mpr ⟨hfits, hrestFits⟩, ?_, ?_⟩
      · rw [hactions, hkept, List.map_cons, List.flatMap_cons, draftActions, List.append_assoc]
      · rw [himpossible, hcount, List.map_cons, List.countP_cons]
        omega
  have hall := hrun drafts ScheduleProgress.initial progress h
  rw [nextOnsets_eq_withNextOnset hindices] at hall
  simpa [ScheduleProgress.initial] using hall

/-- A relation between every onset and the next of its key is a relation between consecutive
onsets of each key. -/
theorem forall_withNextOnset {R : ℕ → ℕ → Prop} {drafts : List DraftOnset} :
    (∀ entry ∈ withNextOnset drafts, ∀ nextAt ∈ entry.2, R entry.1.atUs nextAt) ↔
      ∀ scanCode, (keyOnsets scanCode drafts).IsChain R := by
  induction drafts with
  | nil => exact ⟨fun _ _ => List.isChain_nil, fun _ => nofun⟩
  | cons draft rest ih =>
    have hhead : ∀ scanCode, (keyOnsets scanCode rest).head? =
        (rest.find? (fun other => other.scanCode = scanCode)).map (·.atUs) := fun scanCode => by
      rw [keyOnsets, List.head?_map, List.head?_filter]
    rw [withNextOnset, List.forall_mem_cons, ih]
    constructor
    · rintro ⟨hnext, hrest⟩ scanCode
      by_cases hcode : draft.scanCode = scanCode
      · subst hcode
        rw [keyOnsets, List.filter_cons_of_pos (by simp), List.map_cons]
        refine List.isChain_cons.mpr ⟨fun nextAt hnextAt => hnext nextAt ?_, hrest _⟩
        have hsame := hhead draft.scanCode
        rw [keyOnsets] at hsame
        rwa [hsame] at hnextAt
      · rw [keyOnsets, List.filter_cons_of_neg (by simpa using hcode)]
        exact hrest scanCode
    · intro h
      have hown := h draft.scanCode
      rw [keyOnsets, List.filter_cons_of_pos (by simp), List.map_cons] at hown
      obtain ⟨hnext, -⟩ := List.isChain_cons.mp hown
      refine ⟨fun nextAt hnextAt => hnext nextAt ?_, fun scanCode => ?_⟩
      · have hsame := hhead draft.scanCode
        rw [keyOnsets] at hsame
        rw [hsame]
        exact hnextAt
      · have hkey := h scanCode
        by_cases hcode : draft.scanCode = scanCode
        · rw [keyOnsets, List.filter_cons_of_pos (by simpa using hcode), List.map_cons] at hkey
          exact (List.isChain_cons.mp hkey).2
        · rwa [keyOnsets, List.filter_cons_of_neg (by simpa using hcode)] at hkey

/-- No repeat is impossible exactly when every key's onsets leave room for the hold and the
release gap. -/
theorem impossible_eq_zero {drafts : List DraftOnset} (hhold : 0 < policy.minHoldUs) :
    (withNextOnset drafts).countP (tooClose policy) = 0 ↔
      ∀ scanCode, (keyOnsets scanCode drafts).IsChain
        (fun onset next => onset + policy.minHoldUs + policy.minReleaseGapUs ≤ next) := by
  rw [← forall_withNextOnset, List.countP_eq_zero]
  refine forall₂_congr fun entry _ => ?_
  obtain ⟨draft, nextAt⟩ := entry
  cases nextAt with
  | none => simp [tooClose]
  | some nextAt =>
    simp only [tooClose, decide_eq_true_eq, Option.mem_def, Option.some.injEq, forall_eq']
    omega

/-- The retained onsets of a key increase. -/
theorem keyOnsets_sorted {drafts : List DraftOnset}
    (hsorted : drafts.Pairwise (fun a b => a.atUs ≤ b.atUs)) (scanCode : ℕ) :
    (keyOnsets scanCode (retainFirstOnsets drafts)).Pairwise (· < ·) := by
  have hretained := hsorted.sublist
    (keepFirst_sublist (fun draft => (draft.atUs, draft.scanCode)) [] drafts)
  have hdistinct := keepFirst_pairwise
    (fun draft : DraftOnset => (draft.atUs, draft.scanCode)) [] drafts
  refine List.pairwise_map.mpr (((hretained.and hdistinct).filter _).imp_of_mem ?_)
  rintro a b ha hb ⟨hle, hne⟩
  have hcode : a.scanCode = b.scanCode :=
    (of_decide_eq_true (List.mem_filter.mp ha).2).trans
      (of_decide_eq_true (List.mem_filter.mp hb).2).symm
  have hat : a.atUs ≠ b.atUs := fun heq => hne (by rw [heq, hcode])
  omega

/-- The retained onsets of a key are its onsets. -/
theorem mem_keyOnsets_retained {drafts : List DraftOnset} {scanCode onset : ℕ} :
    onset ∈ keyOnsets scanCode (retainFirstOnsets drafts) ↔
      onset ∈ keyOnsets scanCode drafts := by
  simp only [keyOnsets, List.mem_map, List.mem_filter, decide_eq_true_eq]
  constructor
  · rintro ⟨draft, ⟨hdraft, hcode⟩, rfl⟩
    exact ⟨draft, ⟨(keepFirst_sublist _ [] drafts).subset hdraft, hcode⟩, rfl⟩
  · rintro ⟨draft, ⟨hdraft, hcode⟩, rfl⟩
    let key : DraftOnset → ℕ × ℕ := fun draft => (draft.atUs, draft.scanCode)
    obtain ⟨kept, hkept, hkey⟩ := exists_mem_keepFirst hdraft
      (List.not_mem_nil : key draft ∉ [])
    obtain ⟨hat, hsame⟩ := Prod.mk.inj hkey
    exact ⟨kept, ⟨hkept, hsame.trans hcode⟩, hat⟩

/-- A merged action has its group's key. -/
@[simp] theorem groupKey_mergeGroup (actions : List KeyAction) (key : ℕ × ActionKind) :
    groupKey (mergeGroup actions key) = key := rfl

/-- The final actions are the merged groups of the scheduled actions. -/
theorem mem_finalActions {actions : List KeyAction} {action : KeyAction} :
    action ∈ finalActions actions ↔
      ∃ key ∈ actions.map groupKey, mergeGroup actions key = action := by
  rw [finalActions, (List.perm_insertionSort _ _).mem_iff, groupActions, List.mem_map]
  simp only [(List.perm_insertionSort _ _).mem_iff, mem_keepFirst_id]

/-- The final actions have distinct times and kinds. -/
theorem finalActions_keys (actions : List KeyAction) :
    ((finalActions actions).map groupKey).Nodup := by
  have hperm : ((finalActions actions).map groupKey).Perm
      (keepFirst id [] (actions.map groupKey)) := by
    refine ((List.perm_insertionSort _ _).map groupKey).trans ?_
    rw [groupActions, List.map_map]
    exact (List.Perm.of_eq (List.map_id _)).trans (List.perm_insertionSort _ _)
  exact hperm.nodup_iff.mpr (keepFirst_id_nodup _)

/-- The final actions are in order, releases before presses of one time. -/
theorem finalActions_sorted (actions : List KeyAction) :
    (finalActions actions).Pairwise (fun a b => actionOrder a < actionOrder b) := by
  have hsorted : (finalActions actions).Pairwise (fun a b => actionOrder a ≤ actionOrder b) :=
    List.pairwise_insertionSort _ _
  refine (hsorted.and (List.pairwise_map.mp (finalActions_keys actions))).imp ?_
  rintro ⟨at₁, codes₁, kind₁, reason₁⟩ ⟨at₂, codes₂, kind₂, reason₂⟩ ⟨hle, hne⟩
  refine Nat.lt_of_le_of_ne hle fun heq => hne ?_
  cases kind₁ <;> cases kind₂ <;> simp only [actionOrder, groupKey] at heq ⊢ <;>
    simp at heq ⊢ <;> omega

/-- A merged action presses or releases the keys of its group. -/
theorem mem_mergeGroup_scanCodes {actions : List KeyAction} {key : ℕ × ActionKind}
    {scanCode : ℕ} : scanCode ∈ (mergeGroup actions key).scanCodes ↔
      ∃ action ∈ actions, groupKey action = key ∧ scanCode ∈ action.scanCodes := by
  simp only [mergeGroup, mem_keepFirst_id, List.mem_flatMap, List.mem_filter,
    decide_eq_true_eq, and_assoc]

/-- The keys of a merged action are distinct. -/
theorem mergeGroup_nodup (actions : List KeyAction) (key : ℕ × ActionKind) :
    (mergeGroup actions key).scanCodes.Nodup := keepFirst_id_nodup _

/-- The reason of a merged action is one of its group's reasons, or `mixed`. -/
theorem mergeGroup_reason (actions : List KeyAction) (key : ℕ × ActionKind) :
    (mergeGroup actions key).reason ∈ "mixed" :: actions.map (·.reason) := by
  simp only [mergeGroup]
  generalize hreasons : keepFirst id [] ((actions.filter
    (fun action => groupKey action = key)).map (·.reason)) = reasons
  unfold mergedReason
  split
  · rename_i reason
    have hmem : reason ∈ keepFirst id [] ((actions.filter
        (fun action => groupKey action = key)).map (·.reason)) := by
      rw [hreasons]
      exact List.mem_singleton_self _
    rw [mem_keepFirst_id] at hmem
    obtain ⟨action, haction, rfl⟩ := List.mem_map.mp hmem
    exact List.mem_cons_of_mem _ (List.mem_map_of_mem (List.mem_filter.mp haction).1)
  · exact List.mem_cons_self

/-- The onsets' actions: each is the press or the release of an entry. -/
theorem mem_draftActions {entries : List (DraftOnset × Option ℕ)} {action : KeyAction} :
    action ∈ entries.flatMap (draftActions policy) ↔ ∃ entry ∈ entries,
      action = onsetAction entry.1 ∨
        action = releaseAction entry.1 entry.2 (entry.1.atUs + policy.minHoldUs) := by
  simp [List.mem_flatMap, draftActions]

/-- Every onset is an entry. -/
theorem withNextOnset_fst (drafts : List DraftOnset) :
    (withNextOnset drafts).map Prod.fst = drafts := by
  induction drafts with
  | nil => rfl
  | cons draft rest ih => rw [withNextOnset, List.map_cons, ih]

/-- A built schedule: its retained onsets' holds fit, its actions are their merged presses and
releases, and its impossible repeats are counted. -/
theorem buildSchedule_spec {drafts : List DraftOnset} {tempo : TempoScale}
    {metadata : ScheduleMetadata} (hindices : (drafts.map (·.sourceIndex)).Nodup)
    (h : buildScheduleFromScaledOnsets drafts tempo policy = .ok metadata) :
    (∀ draft ∈ retainFirstOnsets drafts, draft.atUs + policy.minHoldUs < 2 ^ 64) ∧
      metadata.actions = finalActions ((withNextOnset (retainFirstOnsets drafts)).flatMap
        (draftActions policy)) ∧
      metadata.impossibleSameKeyRepeats =
        (withNextOnset (retainFirstOnsets drafts)).countP (tooClose policy) := by
  simp only [buildScheduleFromScaledOnsets, Except.bind_eq_ok, failIf_eq_ok, okOr_eq_ok,
    Except.pure_eq_ok] at h
  obtain ⟨_, -, progress, hprogress, _, -, rfl⟩ := h
  have hretained : ((retainFirstOnsets drafts).map (·.sourceIndex)).Nodup :=
    hindices.sublist ((keepFirst_sublist _ [] drafts).map _)
  obtain ⟨hfits, hactions, himpossible⟩ := scheduleDrafts_spec hretained hprogress
  exact ⟨hfits, congrArg finalActions hactions, himpossible⟩

/-- The presses and releases of the final actions: a key is pressed at its onsets and released
one hold later. -/
theorem mem_finalActions_key {drafts : List DraftOnset} {scanCode atUs : ℕ}
    {kind : ActionKind} :
    (∃ action ∈ finalActions ((withNextOnset drafts).flatMap (draftActions policy)),
        groupKey action = (atUs, kind) ∧ scanCode ∈ action.scanCodes) ↔
      ∃ onset ∈ keyOnsets scanCode drafts,
        (atUs, kind) = (onset, .down) ∨ (atUs, kind) = (onset + policy.minHoldUs, .up) := by
  have hentries := withNextOnset_fst drafts
  have honset : ∀ onset, onset ∈ keyOnsets scanCode drafts ↔
      ∃ entry ∈ withNextOnset drafts, entry.1.scanCode = scanCode ∧ entry.1.atUs = onset := by
    intro onset
    simp only [keyOnsets, List.mem_map, List.mem_filter, decide_eq_true_eq]
    constructor
    · rintro ⟨draft, ⟨hdraft, hcode⟩, hat⟩
      rw [← hentries] at hdraft
      obtain ⟨entry, hentry, rfl⟩ := List.mem_map.mp hdraft
      exact ⟨entry, hentry, hcode, hat⟩
    · rintro ⟨entry, hentry, hcode, hat⟩
      exact ⟨entry.1, ⟨hentries ▸ List.mem_map_of_mem hentry, hcode⟩, hat⟩
  constructor
  · rintro ⟨action, haction, hkey, hmem⟩
    obtain ⟨key, -, rfl⟩ := mem_finalActions.mp haction
    rw [groupKey_mergeGroup] at hkey
    subst hkey
    obtain ⟨member, hmember, hkey, hcode⟩ := mem_mergeGroup_scanCodes.mp hmem
    obtain ⟨entry, hentry, rfl | rfl⟩ := mem_draftActions.mp hmember
    · have hcodeEq : scanCode = entry.1.scanCode := List.mem_singleton.mp hcode
      exact ⟨entry.1.atUs, (honset _).mpr ⟨entry, hentry, hcodeEq.symm, rfl⟩, Or.inl hkey.symm⟩
    · have hcodeEq : scanCode = entry.1.scanCode := List.mem_singleton.mp hcode
      exact ⟨entry.1.atUs, (honset _).mpr ⟨entry, hentry, hcodeEq.symm, rfl⟩, Or.inr hkey.symm⟩
  · rintro ⟨onset, hmem, hkey⟩
    obtain ⟨entry, hentry, rfl, rfl⟩ := (honset onset).mp hmem
    have hmember : ∃ member ∈ (withNextOnset drafts).flatMap (draftActions policy),
        groupKey member = (atUs, kind) ∧ entry.1.scanCode ∈ member.scanCodes := by
      rcases hkey with hkey | hkey
      · exact ⟨onsetAction entry.1, mem_draftActions.mpr ⟨entry, hentry, Or.inl rfl⟩,
          hkey.symm, List.mem_singleton_self _⟩
      · exact ⟨_, mem_draftActions.mpr ⟨entry, hentry, Or.inr rfl⟩, hkey.symm,
          List.mem_singleton_self _⟩
    obtain ⟨member, hmember, hgroup, hcode⟩ := hmember
    exact ⟨mergeGroup _ (atUs, kind),
      mem_finalActions.mpr ⟨_, hgroup ▸ List.mem_map_of_mem hmember, rfl⟩, rfl,
      mem_mergeGroup_scanCodes.mpr ⟨member, hmember, hgroup, hcode⟩⟩

end SkyAutoPlayer.AppCore
