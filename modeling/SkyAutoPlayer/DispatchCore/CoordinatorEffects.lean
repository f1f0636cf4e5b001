import SkyAutoPlayer.DispatchCore.CoordinatorAudit
import SkyAutoPlayer.DispatchCore.ResumableCancellation

/-!
# What a commit does to one intent

Every intent of a commit has one effect. An Up releases its owner, or is consumed for its cancelled
generation or its dropped one, or begins to wait; a Down gets its owner, or its generation is
dropped; a release that waited takes its owner away. The effects say all that the updates change.
-/

namespace SkyAutoPlayer.DispatchCore

open Foundation

/-- How far a generation's lifecycle is. -/
def GenerationStatus.rank : GenerationStatus → ℕ
  | .scheduled => 0
  | .active => 1
  | .cancelled => 2
  | .released | .droppedConflict | .droppedBackend | .droppedExpired => 3

/-- A generation is over from the rank of a cancelled one on. -/
theorem GenerationStatus.isTerminal_iff {status : GenerationStatus} :
    status.isTerminal = true ↔ 2 ≤ status.rank := by
  cases status <;> simp [isTerminal, rank]

/-- A transition of the lifecycle goes forward from a generation that is not over. -/
theorem GenerationStatus.rank_lt_of_canTransitionTo {old next : GenerationStatus}
    (h : old.canTransitionTo next = true) : old.rank < next.rank ∧ old.rank < 2 := by
  cases old <;> cases next <;> simp_all [canTransitionTo, rank]

namespace RuntimeDispatchCoordinator

variable {coordinator after : RuntimeDispatchCoordinator}

/-- One generation moves on, and the counters follow. -/
def moving (coordinator : RuntimeDispatchCoordinator) (generationId : ℕ) (next : GenerationStatus)
    (activated : ℕ) (counters : GenerationCounters) : RuntimeDispatchCoordinator :=
  { coordinator with
    activatedGenerationCount := activated
    counters
    generationStates := coordinator.generationStates.set generationId next }

/-- A generation may move on, and the counters have room for it. -/
structure Transits (coordinator : RuntimeDispatchCoordinator) (generationId : ℕ)
    (old next : GenerationStatus) (activated : ℕ) (counters : GenerationCounters) : Prop where
  status : coordinator.generationStates[generationId]? = some old
  allowed : old.canTransitionTo next = true
  activation : coordinator.countActivation old next = .ok activated
  terminal : coordinator.countTerminal next = .ok counters

/-- A transition moves one generation, and changes nothing else. -/
theorem transits_of_transitionGeneration {generationId : ℕ} {old next : GenerationStatus}
    (h : coordinator.transitionGeneration generationId old next = .ok after) :
    ∃ activated counters, coordinator.Transits generationId old next activated counters ∧
      after = coordinator.moving generationId next activated counters := by
  simp only [transitionGeneration, Except.bind_eq_ok, okOr_eq_ok, failIf_eq_ok,
    Except.pure_eq_ok] at h
  obtain ⟨actual, hactual, _, hexpected, _, hallowed, activated, hactivated, counters, hcounters,
    rfl⟩ := h
  rw [not_not.mp hexpected] at hactual
  exact ⟨activated, counters, ⟨hactual, by simpa using hallowed, hactivated, hcounters⟩, rfl⟩

/-- A cancelled generation is released. -/
def reconciling (coordinator : RuntimeDispatchCoordinator) (identity : AuthoredUpIdentity) :
    RuntimeDispatchCoordinator :=
  { coordinator with
    counters :=
      { coordinator.counters with
        cancelled := coordinator.counters.cancelled - 1
        released := coordinator.counters.released + 1 }
    generationStates := coordinator.generationStates.set identity.generationId .released
    cancelledUpBySlot :=
      Function.update coordinator.cancelledUpBySlot identity.keySlot none }

/-- An Up that waits. -/
def waiting (prepared : PreparedAuthoredFrame) (up : PreparedUpIntent) (active : ActiveGeneration) :
    PendingRelease where
  generationId := up.identity.generationId
  keySlot := up.identity.keySlot
  authoredReleaseTicks := prepared.authoredTicks
  dueTicks := max active.releaseNotBeforeTicks prepared.authoredTicks
  sourceActionIndex := up.sourceActionIndex

/-- An Up begins to wait. -/
def deferring (coordinator : RuntimeDispatchCoordinator) (prepared : PreparedAuthoredFrame)
    (up : PreparedUpIntent) (active : ActiveGeneration) : RuntimeDispatchCoordinator :=
  { coordinator with
    pendingReleaseBySlot := Function.update coordinator.pendingReleaseBySlot up.identity.keySlot
      (some (waiting prepared up active))
    pendingReleaseMask := coordinator.pendingReleaseMask ||| slotBit 16 up.identity.keySlot }

/-- What the commit of an Up does. -/
inductive UpEffect (coordinator : RuntimeDispatchCoordinator) (prepared : PreparedAuthoredFrame)
    (started : ℕ) (up : PreparedUpIntent) : RuntimeDispatchCoordinator → Prop where
  | releases (active : ActiveGeneration) (activated : ℕ) (counters : GenerationCounters)
      (due : prepared.immediateUpMask.getLsbD up.identity.keySlot = true)
      (owner : coordinator.activeBySlot up.identity.keySlot = some active)
      (generation : active.generationId = up.identity.generationId)
      (held : active.releaseNotBeforeTicks ≤ started)
      (transits : coordinator.Transits active.generationId .active .released activated counters) :
      UpEffect coordinator prepared started up
        ((coordinator.moving active.generationId .released activated counters).clearOwner
          up.identity.keySlot)
  | reconciles
      (token : coordinator.cancelledUpBySlot up.identity.keySlot = some up.identity)
      (status : coordinator.generationStates[up.identity.generationId]? = some .cancelled) :
      UpEffect coordinator prepared started up (coordinator.reconciling up.identity)
  | dropped : UpEffect coordinator prepared started up coordinator
  | waits (active : ActiveGeneration)
      (notDue : prepared.immediateUpMask.getLsbD up.identity.keySlot = false)
      (owner : coordinator.activeBySlot up.identity.keySlot = some active)
      (generation : active.generationId = up.identity.generationId) :
      UpEffect coordinator prepared started up (coordinator.deferring prepared up active)

/-- The commit of an Up has one of the effects. -/
theorem upEffect_of_commitUp {prepared : PreparedAuthoredFrame} {started : ℕ}
    {up : PreparedUpIntent} (h : coordinator.commitUp prepared started up = .ok after) :
    UpEffect coordinator prepared started up after := by
  simp only [commitUp, Except.bind_eq_ok, failIf_eq_ok] at h
  obtain ⟨_, _, h⟩ := h
  unfold commitClassifiedUp at h
  split at h
  · rename_i hdue
    unfold commitImmediateUp at h
    split at h
    · rename_i active hactive
      simp only [releaseOwner, Except.bind_eq_ok, failIf_eq_ok, Except.pure_eq_ok, not_or,
        not_not, not_lt] at h
      obtain ⟨_, ⟨hgeneration, hheld⟩, _, hreleased, rfl⟩ := h
      rw [← hgeneration] at hreleased
      obtain ⟨activated, counters, htransits, rfl⟩ := transits_of_transitionGeneration hreleased
      exact .releases active activated counters hdue hactive hgeneration hheld htransits
    · unfold consumeUnownedUp at h
      split at h
      · rename_i htoken
        simp only [reconcileResumableCancelledUp, countReconciled, Except.bind_eq_ok, okOr_eq_ok,
          failIf_eq_ok, Except.mapError_eq_ok, Except.pure_eq_ok, checkedAdd_eq_some] at h
        obtain ⟨_, _, _, _, _, _, actual, hactual, _, hstatus, counters, ⟨_, _, _, ⟨_, rfl⟩, rfl⟩,
          rfl⟩ := h
        rw [not_not.mp hstatus] at hactual
        exact .reconciles htoken hactual
      · split at h
        · obtain rfl := Except.ok.inj h
          exact .dropped
        · cases h
  · rename_i hnot
    split at h
    · simp only [registerDeferredUp, Except.bind_eq_ok, okOr_eq_ok, failIf_eq_ok,
        Except.pure_eq_ok, not_not] at h
      obtain ⟨active, hactive, _, hgeneration, _, _, rfl⟩ := h
      exact .waits active (by simpa using hnot) hactive hgeneration
    · cases h

/-- The owner that a Down gives its key. -/
def pressing (releaseNotBeforeTicks : ℕ) (sourceActionIndex : Option ℕ)
    (down : PreparedDownIntent) : ActiveGeneration where
  generationId := down.generationId
  scanCode := down.scanCode
  keySlot := down.keySlot
  sourceActionIndex := sourceActionIndex.getD 0
  releaseNotBeforeTicks

/-- A slot gets an owner. -/
def giveOwner (coordinator : RuntimeDispatchCoordinator) (active : ActiveGeneration) :
    RuntimeDispatchCoordinator :=
  { coordinator with
    activeBySlot := Function.update coordinator.activeBySlot active.keySlot (some active)
    activeMask := coordinator.activeMask ||| slotBit 16 active.keySlot
    blockedMask := coordinator.blockedMask ||| slotBit 16 active.keySlot }

/-- What the commit of a Down does. -/
inductive DownEffect (coordinator : RuntimeDispatchCoordinator) (releaseNotBeforeTicks : ℕ)
    (sourceActionIndex : Option ℕ) (down : PreparedDownIntent) :
    RuntimeDispatchCoordinator → Prop where
  | unmatched (none : down.generationId = noGenerationId) :
      DownEffect coordinator releaseNotBeforeTicks sourceActionIndex down coordinator
  | presses (activated : ℕ) (counters : GenerationCounters)
      (real : down.generationId ≠ noGenerationId)
      (free : coordinator.activeBySlot down.keySlot = none)
      (transits : coordinator.Transits down.generationId .scheduled .active activated counters) :
      DownEffect coordinator releaseNotBeforeTicks sourceActionIndex down
        ((coordinator.moving down.generationId .active activated counters).giveOwner
          (pressing releaseNotBeforeTicks sourceActionIndex down))

/-- The commit of a Down has one of the effects. -/
theorem downEffect_of_commitDown {releaseNotBeforeTicks : ℕ} {sourceActionIndex : Option ℕ}
    {down : PreparedDownIntent}
    (h : coordinator.commitDown releaseNotBeforeTicks sourceActionIndex down = .ok after) :
    DownEffect coordinator releaseNotBeforeTicks sourceActionIndex down after := by
  unfold commitDown at h
  split at h
  · rename_i hnone
    obtain rfl := Except.ok.inj h
    exact .unmatched hnone
  · rename_i hreal
    simp only [activateDown, claimsSlot, Except.bind_eq_ok, failIf_eq_ok, Except.pure_eq_ok,
      Bool.or_eq_true, not_or, Bool.not_eq_true, Option.isSome_eq_false_iff,
      Option.isNone_iff_eq_none] at h
    obtain ⟨_, ⟨⟨hfree, -⟩, -⟩, _, hactivated, rfl⟩ := h
    obtain ⟨activated, counters, htransits, rfl⟩ := transits_of_transitionGeneration hactivated
    exact .presses activated counters hreal hfree htransits

/-- What the commit of a missed Down does. -/
inductive MissEffect (coordinator : RuntimeDispatchCoordinator) (down : PreparedDownIntent) :
    RuntimeDispatchCoordinator → Prop where
  | unmatched (none : down.generationId = noGenerationId) : MissEffect coordinator down coordinator
  | drops (activated : ℕ) (counters : GenerationCounters)
      (transits : coordinator.Transits down.generationId .scheduled .droppedExpired activated
        counters) :
      MissEffect coordinator down
        ((coordinator.moving down.generationId .droppedExpired activated
          counters).invalidateUpForGeneration down.generationId)

/-- The commit of a missed Down has one of the effects. -/
theorem missEffect_of_commitMissedDown {down : PreparedDownIntent}
    (h : coordinator.commitMissedDown down = .ok after) : MissEffect coordinator down after := by
  unfold commitMissedDown at h
  split at h
  · rename_i hnone
    obtain rfl := Except.ok.inj h
    exact .unmatched hnone
  · simp only [dropDown, Except.bind_eq_ok, failIf_eq_ok, Except.pure_eq_ok] at h
    obtain ⟨_, _, _, hdropped, rfl⟩ := h
    obtain ⟨activated, counters, htransits, rfl⟩ := transits_of_transitionGeneration hdropped
    exact .drops activated counters htransits

/-- What the commit of a release that waited does. -/
inductive PendingEffect (coordinator : RuntimeDispatchCoordinator) (started slot : ℕ) :
    RuntimeDispatchCoordinator → Prop where
  | releases (release : PendingRelease) (active : ActiveGeneration) (activated : ℕ)
      (counters : GenerationCounters)
      (waits : coordinator.pendingReleaseBySlot slot = some release)
      (owner : coordinator.activeBySlot slot = some active)
      (held : release.dueTicks ≤ started)
      (transits : coordinator.Transits active.generationId .active .released activated counters) :
      PendingEffect coordinator started slot
        (((coordinator.moving active.generationId .released activated counters).clearOwner
          slot).clearPendingRelease slot)

/-- The commit of a release that waited has its effect. -/
theorem pendingEffect_of_commitPendingRelease {started slot : ℕ}
    (h : coordinator.commitPendingRelease started slot = .ok after) :
    PendingEffect coordinator started slot after := by
  simp only [commitPendingRelease, Except.bind_eq_ok, okOr_eq_ok, failIf_eq_ok,
    Except.pure_eq_ok, not_or, not_not, not_lt] at h
  obtain ⟨release, hrelease, active, hactive, _, ⟨hgeneration, hheld⟩, _, hreleased, rfl⟩ := h
  rw [← hgeneration] at hreleased
  obtain ⟨activated, counters, htransits, rfl⟩ := transits_of_transitionGeneration hreleased
  exact .releases release active activated counters hrelease hactive hheld htransits

end RuntimeDispatchCoordinator

end SkyAutoPlayer.DispatchCore
