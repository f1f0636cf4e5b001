import Mathlib.Logic.Relation
import SkyAutoPlayer.DispatchCore.IssuedCommits
import SkyAutoPlayer.DispatchCore.LedgerCancellation

/-!
# Every call keeps the ledger

A call applies its effects one after the other and may stop at any of them. Each effect keeps the
ledger and moves at most one generation by one step of its lifecycle. A release is made when the hold
of its generation is over, or it is the Up of a cancelled generation whose key was released before.
-/

namespace SkyAutoPlayer.DispatchCore

open Foundation EStateM

/-- One step in the lifecycle of a generation. -/
inductive LifecycleStep (held kept : ℕ → Prop) (generationId : ℕ) :
    GenerationStatus → GenerationStatus → Prop
  | presses : LifecycleStep held kept generationId .scheduled .active
  | drops : LifecycleStep held kept generationId .scheduled .droppedExpired
  | releases (h : held generationId) : LifecycleStep held kept generationId .active .released
  | reconciles (h : kept generationId) : LifecycleStep held kept generationId .cancelled .released
  | cancels : LifecycleStep held kept generationId .active .cancelled

/-- Some steps in the lifecycle of a generation. -/
def Lifecycle (held kept : ℕ → Prop) (generationId : ℕ) :
    GenerationStatus → GenerationStatus → Prop :=
  Relation.TransGen (LifecycleStep held kept generationId)

/-- The steps of a lifecycle go forward. -/
theorem Lifecycle.rank_lt {held kept : ℕ → Prop} {generationId : ℕ} {old new : GenerationStatus}
    (h : Lifecycle held kept generationId old new) : old.rank < new.rank := by
  have hstep : ∀ {before after : GenerationStatus},
      LifecycleStep held kept generationId before after → before.rank < after.rank := by
    intro before after h
    cases h <;> simp [GenerationStatus.rank]
  induction h with
  | single h => exact hstep h
  | tail _ h ih => exact ih.trans (hstep h)

namespace RuntimeDispatchCoordinator

variable {initial start coordinator after : RuntimeDispatchCoordinator}

/-- The hold of a generation is over at a tick. -/
def HeldBy (initial : RuntimeDispatchCoordinator) (started generationId : ℕ) : Prop :=
  ∃ slot floor, initial.HoldsUntil slot generationId floor ∧ floor ≤ started

/-- One of a commit's Ups is kept for its cancelled generation. -/
def KeptFor (coordinator : RuntimeDispatchCoordinator) (upIntents : List PreparedUpIntent)
    (generationId : ℕ) : Prop :=
  ∃ up ∈ upIntents, up.identity.generationId = generationId ∧
    coordinator.cancelledUpBySlot up.identity.keySlot = some up.identity

/-- What a call leaves: the ledger, with each generation further in its lifecycle. -/
structure CallLeaves (initial start : RuntimeDispatchCoordinator) (started : ℕ)
    (upIntents : List PreparedUpIntent) (coordinator : RuntimeDispatchCoordinator) : Prop where
  ledger : Ledger initial coordinator
  changes : Changes (Lifecycle (initial.HeldBy started) (start.KeptFor upIntents))
    start.generationStates coordinator.generationStates

namespace CallLeaves

variable {started : ℕ} {upIntents : List PreparedUpIntent}

/-- A call that does nothing leaves everything. -/
theorem refl (h : Ledger initial start) : CallLeaves initial start started upIntents start :=
  ⟨h, Changes.refl _⟩

/-- A call goes forward. -/
theorem forward (h : CallLeaves initial start started upIntents coordinator) :
    Forward start.generationStates coordinator.generationStates :=
  h.changes.mono fun _ _ _ hsteps => hsteps.rank_lt

/-- One more generation is moved. -/
theorem step (h : CallLeaves initial start started upIntents coordinator)
    (hledger : Ledger initial after) {generationId : ℕ} {old new : GenerationStatus}
    (hstatus : coordinator.generationStates[generationId]? = some old)
    (hstep : LifecycleStep (initial.HeldBy started) (start.KeptFor upIntents) generationId old new)
    (hafter : after.generationStates = coordinator.generationStates.set generationId new) :
    CallLeaves initial start started upIntents after := by
  refine ⟨hledger, h.changes.trans ?_ fun _ _ _ _ hone htwo => Relation.TransGen.trans hone htwo⟩
  rw [hafter]
  exact Changes.set hstatus (.single hstep)

/-- No generation is moved. -/
theorem same (h : CallLeaves initial start started upIntents coordinator)
    (hledger : Ledger initial after)
    (hafter : after.generationStates = coordinator.generationStates) :
    CallLeaves initial start started upIntents after :=
  ⟨hledger, hafter ▸ h.changes⟩

/-- Moving the cursor keeps what a call leaves. -/
theorem advance (packetBatchCount : ℕ) : Keeps (CallLeaves initial start started upIntents)
    (update (RuntimeDispatchCoordinator.advance · packetBatchCount)) := by
  apply Keeps.update
  intro before after hadvance hbefore
  obtain ⟨hledger, hstates⟩ := hbefore.ledger.advance hadvance
  exact hbefore.same hledger hstates

end CallLeaves

/-- What the Ups of a commit leave: no Up is kept that was not kept before. -/
structure UpsCommitted (initial start : RuntimeDispatchCoordinator) (started : ℕ)
    (upIntents : List PreparedUpIntent) (coordinator : RuntimeDispatchCoordinator) : Prop
    extends CallLeaves initial start started upIntents coordinator where
  kept : ∀ slot identity, coordinator.cancelledUpBySlot slot = some identity →
    start.cancelledUpBySlot slot = some identity

section Steps

variable (hfresh : initial.Fresh) {started : ℕ} {upIntents : List PreparedUpIntent}
include hfresh

/-- One more Up. -/
theorem UpsCommitted.next {frame : PreparedAuthoredFrame} {up : PreparedUpIntent}
    (hmem : up ∈ upIntents)
    (hticks : initial.packetTicks frame.packetIndex = some frame.authoredTicks)
    (hissued : initial.UpIssued start.generationStates frame up)
    (h : UpsCommitted initial start started upIntents coordinator)
    (hcommit : coordinator.commitUp frame started up = .ok after) :
    UpsCommitted initial start started upIntents after := by
  have heffect := upEffect_of_commitUp hcommit
  have hledger := h.ledger.up hfresh hticks (hissued.forward h.forward) heffect
  refine ⟨?_, fun slot identity hidentity => ?_⟩
  · cases heffect with
    | releases active activated counters due owner generation held transits =>
      exact h.step hledger transits.status
        (.releases ⟨_, _, (h.ledger.owners.owned _ active owner).floor, held⟩) rfl
    | reconciles token status =>
      exact h.step hledger status (.reconciles ⟨up, hmem, rfl, h.kept _ _ token⟩) rfl
    | dropped => exact h.toCallLeaves
    | waits active notDue owner generation => exact h.same hledger rfl
  · rcases (Loses.commitUp hcommit).cancelled slot with hnone | hsame
    · exact nomatch hnone.symm.trans hidentity
    · exact h.kept slot identity (hsame.symm.trans hidentity)

/-- The Ups of an issued commit keep the ledger, wherever they stop. -/
theorem keeps_upsCommitted {commit : PreparedAuthoredCommit}
    (hissued : initial.Issued start.generationStates commit) :
    Keeps (UpsCommitted initial start started commit.upIntents)
      (commitPreparedUpIntentsFrozen commit.frame commit.upIntents started) := by
  unfold commitPreparedUpIntentsFrozen
  apply Keeps.bind (Keeps.check _)
  intro _
  apply Keeps.forM
  intro up hup
  apply Keeps.update
  intro before after hcommit hbefore
  exact hbefore.next hfresh hup hissued.ticks (hissued.ups up hup) hcommit

/-- One more Down, where no Up is kept in its slot. -/
theorem CallLeaves.down (h : CallLeaves initial start started upIntents coordinator)
    {down : PreparedDownIntent} {releaseNotBeforeTicks : ℕ} {sourceActionIndex : Option ℕ}
    (hfloor : down.generationId ≠ noGenerationId →
      initial.HoldsUntil down.keySlot down.generationId releaseNotBeforeTicks)
    (hfree : coordinator.cancelledUpBySlot down.keySlot = none)
    (hcommit : coordinator.commitDown releaseNotBeforeTicks sourceActionIndex down = .ok after) :
    CallLeaves initial start started upIntents after := by
  have heffect := downEffect_of_commitDown hcommit
  have hledger := h.ledger.down hfresh hfloor hfree heffect
  cases heffect with
  | unmatched none => exact h
  | presses activated counters real free transits => exact h.step hledger transits.status .presses rfl

/-- One more missed Down. -/
theorem CallLeaves.miss (h : CallLeaves initial start started upIntents coordinator)
    {down : PreparedDownIntent} (hcommit : coordinator.commitMissedDown down = .ok after) :
    CallLeaves initial start started upIntents after := by
  have heffect := missEffect_of_commitMissedDown hcommit
  have hledger := h.ledger.miss hfresh heffect
  cases heffect with
  | unmatched none => exact h
  | drops activated counters transits =>
    apply h.step hledger transits.status .drops
    rw [invalidateUp_eq]
    rfl

/-- One more release that waited. -/
theorem CallLeaves.pending (h : CallLeaves initial start started upIntents coordinator) {slot : ℕ}
    (hcommit : coordinator.commitPendingRelease started slot = .ok after) :
    CallLeaves initial start started upIntents after := by
  have heffect := pendingEffect_of_commitPendingRelease hcommit
  have hledger := h.ledger.pending hfresh heffect
  cases heffect with
  | releases release active activated counters waits owner held transits =>
    obtain ⟨found, hawaits⟩ := h.ledger.owners.pending slot release waits
    obtain rfl := Option.some.inj (owner.symm.trans hawaits.owner)
    exact h.step hledger transits.status
      (.releases ⟨_, _, (h.ledger.owners.owned slot active owner).floor, hawaits.held.trans held⟩) rfl

end Steps

section Calls

variable (hfresh : initial.Fresh) (h : Ledger initial start)
include hfresh h

/-- A commit of Ups that wait keeps the ledger. -/
theorem leaves_metadata {commit : PreparedAuthoredCommit}
    (hissued : initial.Issued start.generationStates commit) :
    CallLeaves initial start commit.frame.authoredTicks commit.upIntents
      ((commitPreparedAuthoredFrameMetadataFrozen commit).run start).state := by
  unfold commitPreparedAuthoredFrameMetadataFrozen
  apply Keeps.check_bind (CallLeaves.refl h)
  intro _ _
  apply (keeps_upsCommitted hfresh hissued).bind_run ⟨.refl h, fun _ _ => id⟩
    fun _ hafter => hafter.toCallLeaves
  intro _ middle hups
  exact (CallLeaves.advance _).run middle hups.toCallLeaves

/-- A commit of a sent packet keeps the ledger. -/
theorem leaves_success {commit : PreparedAuthoredCommit}
    (hissued : initial.Issued start.generationStates commit) (started : ℕ) :
    CallLeaves initial start started commit.upIntents
      ((commitPreparedAuthoredFrameSuccessFrozen commit started).run start).state := by
  unfold commitPreparedAuthoredFrameSuccessFrozen
  apply Keeps.check_bind (CallLeaves.refl h)
  intro releaseNotBeforeTicks hcheck
  have hclear := (clearForDowns_of_checkSuccess hcheck h.exclusive).2
  have hfloor : releaseNotBeforeTicks = commit.frame.authoredTicks + initial.minHoldTicks := by
    simp only [checkSuccess, Except.bind_eq_ok, Except.mapError_eq_ok,
      checkedAddDuration_eq_ok] at hcheck
    obtain ⟨_, _, _, _, _, rfl⟩ := hcheck
    rw [h.timing.minHoldTicks]
  apply (keeps_upsCommitted hfresh hissued).bind_run ⟨.refl h, fun _ _ => id⟩
    fun _ hafter => hafter.toCallLeaves
  intro _ middle hups
  let free (coordinator : RuntimeDispatchCoordinator) : Prop :=
    ∀ down ∈ commit.downIntents, coordinator.cancelledUpBySlot down.keySlot = none
  have hfree : free middle := fun down hdown =>
    Option.eq_none_iff_forall_ne_some.mpr fun identity hidentity =>
      nomatch (hclear down hdown).symm.trans (hups.kept _ identity hidentity)
  have hkeeps : Keeps (fun coordinator => CallLeaves initial start started commit.upIntents
        coordinator ∧ free coordinator)
      (commit.downIntents.forM fun down =>
        update (commitDown · releaseNotBeforeTicks commit.downSourceActionIndex down)) := by
    apply Keeps.forM
    intro down hdown
    apply Keeps.update
    rintro before after hcommit ⟨hleaves, hbefore⟩
    obtain ⟨-, hsame⟩ := commitDown_exclusive hcommit (hbefore down hdown) hleaves.ledger.exclusive
    refine ⟨hleaves.down hfresh (fun hreal => ?_) (hbefore down hdown) hcommit, ?_⟩
    · exact ⟨_, _, hissued.downs down hdown hreal, hissued.ticks, hfloor⟩
    · intro other hother
      rw [hsame]
      exact hbefore other hother
  apply hkeeps.bind_run ⟨hups.toCallLeaves, hfree⟩ fun _ hafter => hafter.1
  intro _ last hlast
  exact (CallLeaves.advance _).run last hlast.1

/-- A commit of a missed deadline keeps the ledger. -/
theorem leaves_deadlineMiss {commit : PreparedAuthoredCommit}
    (hissued : initial.Issued start.generationStates commit)
    (confirmedUpMask missedDownMask : BitVec 16) (started : ℕ) :
    CallLeaves initial start started commit.upIntents
      ((commitPreparedAuthoredFrameDeadlineMiss commit confirmedUpMask missedDownMask
        started).run start).state := by
  unfold commitPreparedAuthoredFrameDeadlineMiss
  apply Keeps.check_bind (CallLeaves.refl h)
  intro _ _
  apply (keeps_upsCommitted hfresh hissued).bind_run ⟨.refl h, fun _ _ => id⟩
    fun _ hafter => hafter.toCallLeaves
  intro _ middle hups
  have hkeeps : Keeps (CallLeaves initial start started commit.upIntents)
      (commit.downIntents.forM fun down => update (commitMissedDown · down)) := by
    apply Keeps.forM
    intro down _
    apply Keeps.update
    intro before after hcommit hbefore
    exact hbefore.miss hfresh hcommit
  apply hkeeps.bind_run hups.toCallLeaves fun _ hafter => hafter
  intro _ last hlast
  apply Keeps.check_bind hlast
  intro _ _
  exact (CallLeaves.advance _).run last hlast

/-- A commit of releases that waited keeps the ledger. -/
theorem leaves_pendingRelease (releaseMask : BitVec 16) (started : ℕ) :
    CallLeaves initial start started []
      ((commitPendingReleaseSuccess releaseMask started).run start).state := by
  have hkeeps : Keeps (CallLeaves initial start started [])
      (commitPendingReleaseSuccess releaseMask started) := by
    apply Keeps.forM
    intro slot _
    apply Keeps.update
    intro before after hcommit hbefore
    exact hbefore.pending hfresh hcommit
  exact hkeeps.run start (.refl h)

omit hfresh in
/-- A commit of a stale packet keeps the ledger. -/
theorem leaves_stale (prepared : PreparedStalePacket) (started : ℕ) :
    CallLeaves initial start started [] ((commitStalePacket prepared).run start).state := by
  unfold commitStalePacket
  apply Keeps.check_bind (CallLeaves.refl h)
  intro _ _
  exact (CallLeaves.advance _).run start (.refl h)

/-- A resumable cancellation keeps the ledger. -/
theorem leaves_cancelLive (started : ℕ) :
    CallLeaves initial start started [] (CoordinatorCall.cancelLive.run.run start).state := by
  obtain ⟨identities, last, hrun, hledger, -, hlive, -⟩ := h.cancelLive hfresh
  rw [CoordinatorCall.run, run_bind_of_ok hrun]
  refine ⟨hledger, hlive.changes.mono ?_⟩
  rintro generationId old new ⟨rfl, rfl⟩
  exact .single .cancels

end Calls

end RuntimeDispatchCoordinator

open RuntimeDispatchCoordinator

/-- The commit that a call was given. -/
def CoordinatorCall.commits : CoordinatorCall → List PreparedAuthoredCommit
  | .commitMetadata commit => [commit]
  | .commitSuccess commit _ => [commit]
  | .commitDeadlineMiss commit _ _ _ => [commit]
  | .commitStale _ | .commitPendingRelease _ _ | .cancelLive => []

/-- The tick that a call releases keys at. -/
def CoordinatorCall.started : CoordinatorCall → ℕ
  | .commitMetadata commit => commit.frame.authoredTicks
  | .commitSuccess _ started => started
  | .commitDeadlineMiss _ _ _ started => started
  | .commitPendingRelease _ started => started
  | .commitStale _ | .cancelLive => 0

/-- The Ups of a call's commit. -/
def CoordinatorCall.upIntents (call : CoordinatorCall) : List PreparedUpIntent :=
  call.commits.flatMap (·.upIntents)

/-- Every call keeps the ledger, whether it succeeds or fails. -/
theorem CoordinatorCall.leaves {initial coordinator : RuntimeDispatchCoordinator}
    (hfresh : initial.Fresh) (h : Ledger initial coordinator) (call : CoordinatorCall)
    (hissued : ∀ commit ∈ call.commits, initial.Issued coordinator.generationStates commit) :
    CallLeaves initial coordinator call.started call.upIntents
      (call.run.run coordinator).state := by
  cases call with
  | commitMetadata commit =>
    simpa [run, started, upIntents, commits] using
      leaves_metadata hfresh h (hissued commit List.mem_cons_self)
  | commitSuccess commit started =>
    simpa [run, CoordinatorCall.started, upIntents, commits] using
      leaves_success hfresh h (hissued commit List.mem_cons_self) started
  | commitDeadlineMiss commit confirmedUpMask missedDownMask started =>
    simpa [run, CoordinatorCall.started, upIntents, commits] using
      leaves_deadlineMiss hfresh h (hissued commit List.mem_cons_self) confirmedUpMask
        missedDownMask started
  | commitStale prepared => exact leaves_stale h prepared 0
  | commitPendingRelease releaseMask started =>
    exact leaves_pendingRelease hfresh h releaseMask started
  | cancelLive => exact leaves_cancelLive hfresh h 0

end SkyAutoPlayer.DispatchCore
