import Mathlib.Data.List.Count
import SkyAutoPlayer.Desktop.UpdateOffers

/-!
# Update snapshots and revisions

A transition makes one snapshot, with a revision of its own, and the call that made it publishes it once
or loses it. So the snapshots have distinct revisions, and the last one describes the service. Together
with the offers this is what the user interface sees of the service.
-/

namespace SkyAutoPlayer.Desktop

open Foundation AppCore

/-- An event is the end of a snapshot with a revision. -/
def UpdateEvent.emits (revision : ℕ) : UpdateEvent → Bool
  | .published snapshot | .lost snapshot => snapshot.revision = revision
  | _ => false

/-- The snapshot of a transition. -/
def UpdateEvent.applied? : UpdateEvent → Option UpdateSnapshot
  | .applied snapshot => some snapshot
  | _ => none

/-- The revision of a published snapshot. -/
def UpdateEvent.publishedRevision? : UpdateEvent → Option ℕ
  | .published snapshot => some snapshot.revision
  | _ => none

/-- A call has a snapshot with a revision left to publish. -/
def UpdateCall.emits (revision : ℕ) (call : UpdateCall) : Bool :=
  call.publishing.any fun pending => pending.snapshot.revision = revision

/-- Whether a revision has been given to a snapshot. -/
def UpdateShared.issued (shared : UpdateShared) (revision : ℕ) : ℕ :=
  if 1 ≤ revision ∧ revision ≤ shared.state.revision then 1 else 0

/-- What holds of the snapshots in any run. -/
structure RevisionsKept (shared : UpdateShared) (calls : List UpdateCall) : Prop where
  counts : ∀ revision, shared.history.countP (UpdateEvent.emits revision) +
    calls.countP (UpdateCall.emits revision) = shared.issued revision
  latest : ∀ snapshot, .applied snapshot ∈ shared.history →
    snapshot.revision ≤ shared.state.revision ∧
      (snapshot.revision = shared.state.revision → snapshot = shared.state.snapshot)
  emitted : ∀ snapshot, .published snapshot ∈ shared.history ∨ .lost snapshot ∈ shared.history →
    .applied snapshot ∈ shared.history
  pending : ∀ call ∈ calls, ∀ pending ∈ call.publishing, .applied pending.snapshot ∈ shared.history

variable {shared after : UpdateShared} {call moved : UpdateCall} {choice : UpdateChoice}
  {calls : List UpdateCall} {index : ℕ}

/-- A step that is no transition makes no snapshot. -/
theorem task_step_frame {task next : UpdateTask} (hstep : task.step choice shared = some (after, next)) :
    after.state = shared.state ∧ ∃ marks, after.history = marks ++ shared.history ∧
      ∀ event ∈ marks, event.applied? = none ∧ ∀ revision, event.emits revision = false := by
  have hstill {later : UpdateShared} (hstate : later.state = shared.state)
      (hhistory : later.history = shared.history) :
      later.state = shared.state ∧ ∃ marks, later.history = marks ++ shared.history ∧
        ∀ event ∈ marks, event.applied? = none ∧ ∀ revision, event.emits revision = false :=
    ⟨hstate, [], hhistory, fun _ hmem => absurd hmem List.not_mem_nil⟩
  have hmark {later : UpdateShared} {event : UpdateEvent} (hstate : later.state = shared.state)
      (hhistory : later.history = event :: shared.history) (happlied : event.applied? = none)
      (hemits : ∀ revision, event.emits revision = false) :
      later.state = shared.state ∧ ∃ marks, later.history = marks ++ shared.history ∧
        ∀ event ∈ marks, event.applied? = none ∧ ∀ revision, event.emits revision = false := by
    refine ⟨hstate, [event], hhistory, fun other hmem => ?_⟩
    obtain rfl := List.mem_singleton.mp hmem
    exact ⟨happlied, hemits⟩
  cases task with
  | check origin phase =>
    obtain ⟨⟨later, nextPhase⟩, hmoved, hpair⟩ := Option.map_eq_some_iff.mp hstep
    obtain ⟨rfl, rfl⟩ := Prod.mk.inj hpair
    unfold CheckPhase.step at hmoved
    cases phase with
    | locking =>
      dsimp only at hmoved
      split at hmoved
      · cases hmoved
      · split at hmoved <;> obtain ⟨rfl, rfl⟩ := Prod.mk.inj (Option.some.inj hmoved) <;>
          exact hstill rfl rfl
    | asking channel changes =>
      dsimp only at hmoved
      split at hmoved
      · rcases concludeCheck_cases (Option.some.inj hmoved) with
          ⟨preferences, transition, rfl, -, -⟩ | ⟨preferences, candidate, transition, rfl, -, -, -⟩
        · exact hstill rfl rfl
        · exact hmark rfl rfl rfl fun _ => rfl
      · obtain ⟨rfl, rfl⟩ := Prod.mk.inj (Option.some.inj hmoved)
        exact hstill rfl rfl
      · obtain ⟨rfl, rfl⟩ := Prod.mk.inj (Option.some.inj hmoved)
        exact hstill rfl rfl
    | unlocking =>
      obtain ⟨rfl, rfl⟩ := Prod.mk.inj (Option.some.inj hmoved)
      exact hstill rfl rfl
    | announcing | concluding | «over» => cases hmoved
  | install requestedTarget phase =>
    obtain ⟨⟨later, nextPhase⟩, hmoved, hpair⟩ := Option.map_eq_some_iff.mp hstep
    obtain ⟨rfl, rfl⟩ := Prod.mk.inj hpair
    obtain ⟨⟨hhistory, hstate, -, -⟩, -, -⟩ := InstallPhase.step_spec hmoved
    exact hstill hstate hhistory
  | patch change phase =>
    obtain ⟨⟨later, nextPhase⟩, hmoved, hpair⟩ := Option.map_eq_some_iff.mp hstep
    obtain ⟨rfl, rfl⟩ := Prod.mk.inj hpair
    rcases PatchPhase.step_cases hmoved with ⟨preferences, rfl, -, -⟩ |
      ⟨preferences, channel, exclusion, -, -, rfl, -⟩ | ⟨number, exclusion, -, -, rfl⟩
    · exact hstill rfl rfl
    · exact hstill rfl rfl
    · exact hmark rfl rfl rfl fun _ => rfl
  | reload done =>
    unfold UpdateTask.step at hstep
    cases done with
    | true => cases hstep
    | false =>
      dsimp only at hstep
      split at hstep
      · cases hstep
      · split at hstep <;> obtain ⟨rfl, rfl⟩ := Prod.mk.inj (Option.some.inj hstep) <;>
          exact hstill rfl rfl
  | playback | calibration =>
    obtain ⟨⟨later, nextPhase⟩, hmoved, hpair⟩ := Option.map_eq_some_iff.mp hstep
    obtain ⟨rfl, rfl⟩ := Prod.mk.inj hpair
    exact hstill rfl rfl
  | shutdown begun =>
    cases begun with
    | true => cases hstep
    | false =>
      obtain ⟨rfl, rfl⟩ := Prod.mk.inj (Option.some.inj hstep)
      exact hstill rfl rfl

/-- A snapshot that is published or lost is applied before. -/
theorem RevisionsKept.of_publish (h : RevisionsKept shared calls) {pending : PendingPublication}
    {published : Bool} (hcall : calls[index]? = some call) (hpending : call.publishing = some pending) :
    RevisionsKept (shared.publish published pending call).1
      (calls.set index (shared.publish published pending call).2) := by
  have happlied := h.pending call (List.mem_of_getElem? hcall) pending hpending
  have hemits (revision : ℕ) : call.emits revision = decide (pending.snapshot.revision = revision) := by
    rw [UpdateCall.emits, hpending]
    rfl
  obtain ⟨event, hevent, hhistory, hstate, hquiet⟩ : ∃ event,
      (event = .published pending.snapshot ∨ event = .lost pending.snapshot) ∧
        (shared.publish published pending call).1.history = event :: shared.history ∧
          (shared.publish published pending call).1.state = shared.state ∧
            (shared.publish published pending call).2.publishing = none := by
    unfold UpdateShared.publish
    split
    · exact ⟨_, .inl rfl, rfl, rfl, rfl⟩
    · exact ⟨_, .inr rfl, rfl, rfl, rfl⟩
  constructor
  · intro revision
    have hcount := @countP_set_add _ calls index call (shared.publish published pending call).2
      (UpdateCall.emits revision) hcall
    have hnone : (shared.publish published pending call).2.emits revision = false := by
      rw [UpdateCall.emits, hquiet]
      rfl
    have hbefore := h.counts revision
    have hend : event.emits revision = decide (pending.snapshot.revision = revision) := by
      rcases hevent with rfl | rfl <;> rfl
    have hissued : (shared.publish published pending call).1.issued revision =
        shared.issued revision := by
      rw [UpdateShared.issued, hstate, UpdateShared.issued]
    rw [hissued, hhistory, List.countP_cons, hend]
    rw [hnone, hemits] at hcount
    by_cases hsame : pending.snapshot.revision = revision
    · rw [decide_eq_true hsame] at hcount ⊢
      dsimp only [Bool.toNat_true, Bool.toNat_false] at hcount
      rw [if_pos rfl]
      omega
    · rw [decide_eq_false hsame] at hcount ⊢
      dsimp only [Bool.toNat_false] at hcount
      rw [if_neg (by decide)]
      omega
  · intro snapshot hmem
    rw [hhistory] at hmem
    rw [hstate]
    rcases List.mem_cons.mp hmem with heq | hold
    · rcases hevent with rfl | rfl <;> cases heq
    · exact h.latest snapshot hold
  · intro snapshot hmem
    rw [hhistory] at hmem ⊢
    apply List.mem_cons_of_mem
    rcases hmem with hmem | hmem <;> rcases List.mem_cons.mp hmem with heq | hold
    · rcases hevent with rfl | rfl
      · rw [UpdateEvent.published.inj heq]
        exact happlied
      · cases heq
    · exact h.emitted snapshot (.inl hold)
    · rcases hevent with rfl | rfl
      · cases heq
      · rw [UpdateEvent.lost.inj heq]
        exact happlied
    · exact h.emitted snapshot (.inr hold)
  · intro other hother left hleft
    rw [hhistory]
    apply List.mem_cons_of_mem
    rcases List.mem_or_eq_of_mem_set hother with hold | rfl
    · exact h.pending other hold left hleft
    · rw [hquiet] at hleft
      cases hleft

/-- The marks of a transition are no snapshots. -/
theorem UpdateTask.resets_spec {task : UpdateTask} {event : UpdateEvent} (h : event ∈ task.resets) :
    event.applied? = none ∧ ∀ revision, event.emits revision = false := by
  unfold UpdateTask.resets at h
  split at h
  · obtain rfl := List.mem_singleton.mp h
    exact ⟨rfl, fun _ => rfl⟩
  · exact absurd h List.not_mem_nil

/-- Marks that are no snapshots end none. -/
theorem countP_emits_of_marks {marks : List UpdateEvent} {revision : ℕ}
    (h : ∀ event ∈ marks, event.applied? = none ∧ ∀ revision, event.emits revision = false) :
    marks.countP (UpdateEvent.emits revision) = 0 :=
  List.countP_eq_zero.mpr fun event hmem => Bool.eq_false_iff.mp ((h event hmem).2 revision)

/-- Marks that are no snapshots contain none. -/
theorem mem_of_marks {marks history : List UpdateEvent} {event : UpdateEvent}
    (h : ∀ event ∈ marks, event.applied? = none ∧ ∀ revision, event.emits revision = false)
    (hevent : event.applied? ≠ none ∨ ∃ revision, event.emits revision = true)
    (hmem : event ∈ marks ++ history) : event ∈ history := by
  rcases List.mem_append.mp hmem with hmark | hold
  · obtain ⟨happlied, hemits⟩ := h event hmark
    rcases hevent with hsome | ⟨revision, hends⟩
    · exact absurd happlied hsome
    · rw [hemits] at hends
      cases hends
  · exact hold

/-- A transition gives the next revision to its snapshot. -/
theorem RevisionsKept.of_apply (h : RevisionsKept shared calls) {pending : PendingTransition}
    (hcall : calls[index]? = some call) (hquiet : call.publishing = none) :
    RevisionsKept (shared.apply pending call).1
      (calls.set index (shared.apply pending call).2) := by
  have hmarks := fun event => @UpdateTask.resets_spec call.task event
  have hrevision : (shared.apply pending call).1.state.revision = shared.state.revision + 1 := rfl
  have hhistory : (shared.apply pending call).1.history = call.task.resets ++
      .applied (shared.state.applyTransition pending.transition).2 :: shared.history := rfl
  constructor
  · intro revision
    have hcount := @countP_set_add _ calls index call (shared.apply pending call).2
      (UpdateCall.emits revision) hcall
    have hnone : call.emits revision = false := by
      rw [UpdateCall.emits, hquiet]
      rfl
    have hsome : (shared.apply pending call).2.emits revision =
        decide (shared.state.revision + 1 = revision) := rfl
    have hbefore := h.counts revision
    have hissued : (shared.apply pending call).1.issued revision = shared.issued revision +
        (decide (shared.state.revision + 1 = revision)).toNat := by
      rw [UpdateShared.issued, hrevision, UpdateShared.issued]
      by_cases hsame : shared.state.revision + 1 = revision
      · rw [decide_eq_true hsame, if_pos (by omega), if_neg (by omega)]
        rfl
      · rw [decide_eq_false hsame]
        split <;> split <;> simp <;> omega
    have hstart : (UpdateEvent.applied
        (shared.state.applyTransition pending.transition).2).emits revision = false := rfl
    rw [hissued, hhistory, List.countP_append, countP_emits_of_marks hmarks, List.countP_cons, hstart,
      if_neg (by decide)]
    rw [hnone, hsome] at hcount
    dsimp only [Bool.toNat_false] at hcount
    omega
  · intro snapshot hmem
    rw [hhistory] at hmem
    have happlied : (UpdateEvent.applied snapshot).applied? ≠ none := Option.some_ne_none snapshot
    have hlater := mem_of_marks hmarks (.inl happlied) hmem
    rw [hrevision]
    rcases List.mem_cons.mp hlater with heq | hold
    · rw [UpdateEvent.applied.inj heq]
      exact ⟨le_rfl, fun _ => rfl⟩
    · have hbound := (h.latest snapshot hold).1
      exact ⟨by omega, fun hsame => by omega⟩
  · intro snapshot hmem
    rw [hhistory] at hmem ⊢
    have hends : (UpdateEvent.published snapshot).emits snapshot.revision = true ∧
        (UpdateEvent.lost snapshot).emits snapshot.revision = true :=
      ⟨decide_eq_true rfl, decide_eq_true rfl⟩
    apply List.mem_append_right
    apply List.mem_cons_of_mem
    apply h.emitted snapshot
    rcases hmem with hmem | hmem
    · rcases List.mem_cons.mp (mem_of_marks hmarks (.inr ⟨_, hends.1⟩) hmem) with heq | hold
      · cases heq
      · exact .inl hold
    · rcases List.mem_cons.mp (mem_of_marks hmarks (.inr ⟨_, hends.2⟩) hmem) with heq | hold
      · cases heq
      · exact .inr hold
  · intro other hother left hleft
    rw [hhistory]
    apply List.mem_append_right
    rcases List.mem_or_eq_of_mem_set hother with hold | rfl
    · exact List.mem_cons_of_mem _ (h.pending other hold left hleft)
    · obtain rfl := Option.some.inj hleft
      exact List.mem_cons_self

/-- A step that is no transition keeps the snapshots. -/
theorem RevisionsKept.of_task_step (h : RevisionsKept shared calls) {next : UpdateTask}
    {seen : List UpdateEvent} (hcall : calls[index]? = some call) (hquiet : call.publishing = none)
    (hstep : call.task.step choice shared = some (after, next)) :
    RevisionsKept after (calls.set index ⟨next, none, seen⟩) := by
  obtain ⟨hstate, marks, hhistory, hmarks⟩ := task_step_frame hstep
  constructor
  · intro revision
    have hnone : call.emits revision = false := by
      rw [UpdateCall.emits, hquiet]
      rfl
    have hsame : (calls.set index ⟨next, none, seen⟩).countP (UpdateCall.emits revision) =
        calls.countP (UpdateCall.emits revision) := countP_set_of_eq hcall hnone.symm
    rw [UpdateShared.issued, hstate, hhistory, List.countP_append, countP_emits_of_marks hmarks,
      Nat.zero_add, hsame]
    exact h.counts revision
  · intro snapshot hmem
    rw [hhistory] at hmem
    rw [hstate]
    have happlied : (UpdateEvent.applied snapshot).applied? ≠ none := Option.some_ne_none snapshot
    exact h.latest snapshot (mem_of_marks hmarks (.inl happlied) hmem)
  · intro snapshot hmem
    rw [hhistory] at hmem ⊢
    apply List.mem_append_right
    apply h.emitted snapshot
    rcases hmem with hmem | hmem
    · exact .inl (mem_of_marks hmarks (.inr ⟨snapshot.revision, decide_eq_true rfl⟩) hmem)
    · exact .inr (mem_of_marks hmarks (.inr ⟨snapshot.revision, decide_eq_true rfl⟩) hmem)
  · intro other hother left hleft
    rw [hhistory]
    apply List.mem_append_right
    rcases List.mem_or_eq_of_mem_set hother with hold | rfl
    · exact h.pending other hold left hleft
    · cases hleft

/-- A step of a call keeps the snapshots. -/
theorem RevisionsKept.step (h : RevisionsKept shared calls) (hcall : calls[index]? = some call)
    (hstep : updateStep choice call shared = some (after, moved)) :
    RevisionsKept after (calls.set index moved) := by
  unfold updateStep at hstep
  cases hpublishing : call.publishing with
  | some pending =>
    rw [hpublishing] at hstep
    have hkept := @RevisionsKept.of_publish _ _ _ _ h pending choice.published hcall hpublishing
    obtain ⟨rfl, rfl⟩ := Prod.mk.inj (Option.some.inj hstep)
    exact hkept
  | none =>
    rw [hpublishing] at hstep
    dsimp only at hstep
    cases hpending : call.task.transition? with
    | some pending =>
      rw [hpending] at hstep
      have hkept := @RevisionsKept.of_apply _ _ _ _ h pending hcall hpublishing
      obtain ⟨rfl, rfl⟩ := Prod.mk.inj (Option.some.inj hstep)
      exact hkept
    | none =>
      rw [hpending] at hstep
      obtain ⟨⟨later, next⟩, hmade, hpair⟩ := Option.map_eq_some_iff.mp hstep
      obtain ⟨rfl, rfl⟩ := Prod.mk.inj hpair
      exact h.of_task_step hcall hpublishing hmade

/-- A call that begins has no snapshot. -/
theorem RevisionsKept.begin (h : RevisionsKept shared calls) (op : UpdateOp) :
    RevisionsKept shared (calls ++ [updateProgram.start op]) := by
  refine ⟨fun revision => ?_, h.latest, h.emitted, fun other hother left hleft => ?_⟩
  · have hnone : (updateProgram.start op).emits revision = false := rfl
    rw [List.countP_append, List.countP_singleton, hnone, if_neg (by decide)]
    exact h.counts revision
  · rcases List.mem_append.mp hother with hold | hnew
    · exact h.pending other hold left hleft
    · obtain rfl := List.mem_singleton.mp hnew
      cases hleft

/-- What holds of the service and its calls while installations meet the changes of the preferences as
the code expects them. -/
structure OffersKept (shared : UpdateShared) (calls : List UpdateCall) : Prop where
  held : calls.countP (fun call => call.task.holds) = shared.settingsHeld.toNat
  placed : ∀ call ∈ calls, call.Placed shared
  history : HistoryKept shared

/-- A call that has the lock of the settings keeps it from everyone. -/
theorem OffersKept.settingsHeld (h : OffersKept shared calls) (hcall : call ∈ calls)
    (hholds : call.task.holds = true) : shared.settingsHeld = true := by
  have hpositive : 0 < calls.countP (fun call => call.task.holds) :=
    List.countP_pos_iff.mpr ⟨call, hcall, hholds⟩
  rw [h.held] at hpositive
  cases hheld : shared.settingsHeld with
  | true => rfl
  | false =>
    rw [hheld] at hpositive
    cases hpositive

/-- A step of a call keeps the offers. -/
theorem OffersKept.step (h : OffersKept shared calls) (hcall : calls[index]? = some call)
    (hmeets : MeetsOffers choice call shared)
    (hstep : updateStep choice call shared = some (after, moved)) :
    OffersKept after (calls.set index moved) := by
  have hmem := List.mem_of_getElem? hcall
  have hmoves := updateStep_moves h.history (h.placed call hmem) (h.settingsHeld hmem) hmeets hstep
  refine ⟨?_, fun other hother => ?_, hmoves.kept⟩
  · have hcount := @countP_set_add _ calls index call moved (fun call => call.task.holds) hcall
    have hbefore := h.held
    have hholds := hmoves.holds
    omega
  · rcases List.mem_or_eq_of_mem_set hother with hold | rfl
    · refine (h.placed other hold).mono hmoves.grown hmoves.changes fun hholds => ?_
      rcases hmoves.free with hsame | hfree
      · exact hsame
      · rw [h.settingsHeld hold hholds] at hfree
        cases hfree
    · exact hmoves.placed

/-- A call that begins keeps the offers. -/
theorem OffersKept.begin (h : OffersKept shared calls) (op : UpdateOp) :
    OffersKept shared (calls ++ [updateProgram.start op]) := by
  refine ⟨?_, fun other hother => ?_, h.history⟩
  · rw [List.countP_append, h.held, List.countP_singleton]
    cases op <;> rfl
  · rcases List.mem_append.mp hother with hold | hnew
    · exact h.placed other hold
    · obtain rfl := List.mem_singleton.mp hnew
      apply UpdateCall.placed_of_task
      cases op with
      | check =>
        exact CheckPhase.placed_of_undecided (fun _ hnone => absurd hnone (Option.not_mem_none _)) rfl
      | install =>
        exact ⟨fun _ hnone => absurd hnone (Option.not_mem_none _),
          fun _ hnone => absurd hnone (Option.not_mem_none _)⟩
      | patch | reload | playback | calibration | shutdown => trivial

/-- The snapshots that were published have distinct revisions, and the one with the highest revision of
all describes the service, once no snapshot is left to publish and none was lost. -/
structure SnapshotsNumbered (shared : UpdateShared) (calls : List UpdateCall) : Prop where
  distinct : (shared.history.filterMap UpdateEvent.publishedRevision?).Nodup
  latest : ∀ snapshot, .published snapshot ∈ shared.history →
    snapshot.revision ≤ shared.state.revision ∧
      (snapshot.revision = shared.state.revision → snapshot = shared.state.snapshot)
  final : (∀ call ∈ calls, call.publishing = none) → (∀ snapshot, .lost snapshot ∉ shared.history) →
    shared.state.revision ≠ 0 → .published shared.state.snapshot ∈ shared.history

/-- A published revision ends a snapshot. -/
theorem UpdateEvent.emits_of_published {event : UpdateEvent} {revision : ℕ}
    (h : event.publishedRevision? = some revision) : event.emits revision = true := by
  cases event with
  | published snapshot => exact decide_eq_true (Option.some.inj h)
  | reset | returned | found | applied | lost => cases h

/-- Snapshots that are counted are numbered. -/
theorem RevisionsKept.numbered (h : RevisionsKept shared calls) : SnapshotsNumbered shared calls where
  distinct := by
    rw [List.nodup_iff_count_le_one]
    intro revision
    rw [List.count_filterMap]
    have hle : shared.history.countP (fun event =>
        event.publishedRevision? == some revision) ≤
          shared.history.countP (UpdateEvent.emits revision) :=
      List.countP_mono_left fun event _ hsome => UpdateEvent.emits_of_published (eq_of_beq hsome)
    have hcounts := h.counts revision
    have hissued : shared.issued revision ≤ 1 := by
      rw [UpdateShared.issued]
      split <;> omega
    omega
  latest snapshot hmem := h.latest snapshot (h.emitted snapshot (.inl hmem))
  final hquiet hnone hsome := by
    have hcounts := h.counts shared.state.revision
    have hcalls : calls.countP (UpdateCall.emits shared.state.revision) = 0 := by
      rw [List.countP_eq_zero]
      intro call hcall
      rw [UpdateCall.emits, hquiet call hcall]
      exact Bool.false_ne_true
    rw [hcalls, UpdateShared.issued, if_pos ⟨Nat.one_le_iff_ne_zero.mpr hsome, le_rfl⟩] at hcounts
    have hpositive : 0 < shared.history.countP (UpdateEvent.emits shared.state.revision) := by omega
    obtain ⟨event, hevent, hends⟩ := List.countP_pos_iff.mp hpositive
    cases event with
    | published snapshot =>
      have hrevision := of_decide_eq_true hends
      rw [← (h.latest snapshot (h.emitted snapshot (.inl hevent))).2 hrevision]
      exact hevent
    | lost snapshot => exact absurd hevent (hnone snapshot)
    | reset | returned | found | applied => cases hends

/-- The snapshots of the service are numbered in every run. And as long as no installation puts a
candidate into the state that was dropped since it copied it, or publishes one that was ruled out since
by a change that has returned, the service offers, readies and installs nothing that a change of the
preferences ruled out before, unless a later check found it again. -/
theorem offers_respect_preferences {preferences : UpdatePreferences}
    {actions : List (PoolAction UpdateOp UpdateChoice)} {pool : CallPool UpdateShared UpdateCall}
    (hrun : (updateMachine preferences).run (updateMachine preferences).initial actions = some pool) :
    SnapshotsNumbered pool.shared pool.calls ∧
      ((updateMachine preferences).Meets (CallPool.StepMeets MeetsOffers)
        (updateMachine preferences).initial actions → Respected pool.shared.history) := by
  constructor
  · have hinvariant : (updateMachine preferences).Invariant fun pool =>
        RevisionsKept pool.shared pool.calls := by
      refine CallProgram.invariant_of_steps ?_ (fun _ _ op h => h.begin op)
        fun _ _ _ _ _ _ _ h hcall hstep => h.step hcall hstep
      refine ⟨fun revision => ?_, fun _ hmem => absurd hmem List.not_mem_nil,
        fun _ hmem => absurd hmem (by simp [UpdateShared.initial]),
          fun _ hmem => absurd hmem List.not_mem_nil⟩
      rw [UpdateShared.issued, if_neg fun hbound => Nat.not_succ_le_zero 0 (hbound.1.trans hbound.2)]
      rfl
    exact (hinvariant.holds ⟨actions, hrun⟩).numbered
  · intro hmeets
    have hinitial : OffersKept (.initial preferences) [] := by
      refine ⟨rfl, fun _ hmem => absurd hmem List.not_mem_nil, fun _ _ hmem => ?_, fun _ _ hmem => ?_,
        fun _ hnone => absurd hnone (Option.not_mem_none _), fun _ hnone => ?_, trivial⟩
      · exact absurd hmem List.not_mem_nil
      · exact absurd hmem List.not_mem_nil
      · exact absurd hnone (Option.not_mem_none _)
    have hkept := CallProgram.run_preserves_of_steps (P := OffersKept)
      (fun _ _ op h => h.begin op)
      (fun _ _ _ _ _ _ _ h hcall hcondition hstep => h.step hcall hcondition hstep)
      hrun hmeets hinitial
    exact hkept.history.respected

/-- An update that is found, downloaded and installed, and a program that saves and publishes
everything. -/
def foundRelease (version : String) (download : DownloadAnswer) : UpdateChoice :=
  ⟨1000, .ok .default, .ok (), .ok [⟨version, none, none⟩], .ok "0123456789abcdef0123456789abcdef",
    download, .ok (), true⟩

/-- A check finds an update, the user installs it after a chunk of progress, and skips it then. -/
def installedThenSkipped : List (PoolAction UpdateOp UpdateChoice) :=
  [@PoolAction.begin UpdateOp UpdateChoice (.check .manual)] ++
    List.replicate 7 (@PoolAction.advance UpdateOp UpdateChoice 0 (foundRelease "5.0.0" (.chunk 10 (some 40)))) ++
      [@PoolAction.begin UpdateOp UpdateChoice (.install "5.0.0")] ++
        List.replicate 9 (@PoolAction.advance UpdateOp UpdateChoice 1 (foundRelease "5.0.0" (.chunk 10 (some 40)))) ++
          List.replicate 7 (@PoolAction.advance UpdateOp UpdateChoice 1 (foundRelease "5.0.0" (.ended (.ok 40)))) ++
            [@PoolAction.begin UpdateOp UpdateChoice (.patch ⟨none, none, some "5.0.0"⟩)] ++
              List.replicate 4 (@PoolAction.advance UpdateOp UpdateChoice 2 (foundRelease "5.0.0" (.ended (.ok 40))))

/-- An update that is installed before it is skipped is offered and installed as the user prefers. -/
theorem offers_respect_preferences_scenario :
    ∃ pool : CallPool UpdateShared UpdateCall, SnapshotsNumbered pool.shared pool.calls ∧
      Respected pool.shared.history ∧ pool.shared.state.revision = 7 ∧
        pool.shared.state.candidate = none := by
  have hcheck : ((updateMachine .default).run (updateMachine .default).initial
      installedThenSkipped).any (fun pool => pool.shared.state.revision = 7 ∧
        pool.shared.state.candidate = none) = true := by decide +kernel
  have hmeets : (updateMachine .default).Meets (CallPool.StepMeets MeetsOffers)
      (updateMachine .default).initial installedThenSkipped := by decide +kernel
  obtain ⟨pool, hrun, hpool⟩ := (Option.any_eq_true _ _).mp hcheck
  obtain ⟨hnumbered, hrespected⟩ := offers_respect_preferences hrun
  exact ⟨pool, hnumbered, hrespected hmeets, of_decide_eq_true hpool⟩

/-- A check finds an update, the user installs it, and skips it while it is downloaded. The download
then ends. -/
def skippedInDownload : List (PoolAction UpdateOp UpdateChoice) :=
  [@PoolAction.begin UpdateOp UpdateChoice (.check .manual)] ++
    List.replicate 7 (@PoolAction.advance UpdateOp UpdateChoice 0 (foundRelease "5.0.0" (.ended (.ok 40)))) ++
      [@PoolAction.begin UpdateOp UpdateChoice (.install "5.0.0")] ++
        List.replicate 6 (@PoolAction.advance UpdateOp UpdateChoice 1 (foundRelease "5.0.0" (.ended (.ok 40)))) ++
          [@PoolAction.begin UpdateOp UpdateChoice (.patch ⟨none, none, some "5.0.0"⟩)] ++
            List.replicate 4 (@PoolAction.advance UpdateOp UpdateChoice 2 (foundRelease "5.0.0" (.ended (.ok 40)))) ++
              List.replicate 2 (@PoolAction.advance UpdateOp UpdateChoice 1 (foundRelease "5.0.0" (.ended (.ok 40))))

/-- A download that ends after the user has skipped its version is ready to install and offered. -/
theorem skipped_update_is_ready :
    ¬∀ (preferences : UpdatePreferences) (actions : List (PoolAction UpdateOp UpdateChoice))
      (pool : CallPool UpdateShared UpdateCall),
      (updateMachine preferences).run (updateMachine preferences).initial actions = some pool →
        SnapshotsNumbered pool.shared pool.calls ∧ Respected pool.shared.history := by
  intro h
  have hcheck : ((updateMachine .default).run (updateMachine .default).initial
      skippedInDownload).any (fun pool => decide (¬Respected pool.shared.history)) = true := by
    decide +kernel
  obtain ⟨pool, hrun, hpool⟩ := (Option.any_eq_true _ _).mp hcheck
  exact of_decide_eq_true hpool (h .default skippedInDownload pool hrun).2

end SkyAutoPlayer.Desktop
