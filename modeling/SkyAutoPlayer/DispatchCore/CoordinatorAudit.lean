import SkyAutoPlayer.DispatchCore.CoordinatorCleanup

/-!
# Auditing the coordinator

The full audit scans the ledger of generations and compares it with the masks and the counters.
Terminal cleanup cancels every generation that is not over, between two audits, and then nothing
that is live is left.
-/

namespace SkyAutoPlayer.DispatchCore

open Foundation

/-- How the generations of a schedule are distributed. -/
structure GenerationAccounting where
  total : ℕ
  activated : ℕ
  scheduled : ℕ
  active : ℕ
  released : ℕ
  droppedConflict : ℕ
  droppedBackend : ℕ
  droppedExpired : ℕ
  cancelled : ℕ
  deriving DecidableEq, Repr

namespace RuntimeDispatchCoordinator

variable (coordinator : RuntimeDispatchCoordinator)

/-- Check the ledger's active and terminal generations against the mask and the counters. -/
def checkLedgerCounts (scheduled active terminal : ℕ) : Except CoordinatorInvariantError Unit := do
  let countedTerminal ← okOr (.accounting "terminal counter overflow")
    coordinator.counters.terminalTotalChecked
  failIf (coordinator.generationCount < coordinator.activatedGenerationCount)
    (.accounting "activated generation count exceeds total generation count")
  failIf (coordinator.activatedGenerationCount < coordinator.counters.released)
    (.accounting "released generation count exceeds activated generation count")
  failIf (coordinator.activatedGenerationCount < active)
    (.accounting "active generation count exceeds activated generation count")
  let releasedPlusActive ← okOr (.accounting "released plus active generation count overflow")
    (checkedAdd 64 coordinator.counters.released active)
  failIf (coordinator.activatedGenerationCount < releasedPlusActive)
    (.accounting "released plus active generation count exceeds activated generation count")
  failIf (active ≠ countOnes coordinator.activeMask)
    (.accounting (s!"active ledger count {active} != active mask count " ++
      s!"{countOnes coordinator.activeMask}"))
  failIf (terminal ≠ countedTerminal)
    (.accounting s!"terminal ledger count {terminal} != counters {countedTerminal}")
  let accounted ← okOr
    (.accounting "scheduled, active, and terminal generation count overflow")
    ((checkedAdd 64 scheduled active).bind (checkedAdd 64 · terminal))
  failIf (accounted ≠ coordinator.generationCount)
    (.accounting (s!"scheduled + active + terminal {accounted} != generation count " ++
      s!"{coordinator.generationCount}"))

/-- Check that the masks, the counters and the ledger agree exactly. -/
def checkInvariants : Except CoordinatorInvariantError Unit := do
  coordinator.checkLocalInvariants
  failIf (coordinator.generationStates.length ≠ coordinator.generationCount)
    (.accounting (s!"ledger length {coordinator.generationStates.length} != generation count " ++
      s!"{coordinator.generationCount}"))
  coordinator.checkLedgerCounts (coordinator.generationStates.count .scheduled)
    (coordinator.generationStates.count .active)
    (coordinator.generationStates.countP GenerationStatus.isTerminal)

/-- How the generations are distributed, by the counters alone. It panics where the counters are
not those of the ledger. -/
def generationAccounting : Option GenerationAccounting := do
  let counters := coordinator.counters
  let terminal ← counters.terminalTotalChecked
  let active := countOnes coordinator.activeMask
  let scheduled ← (checkedSub coordinator.generationCount active).bind (checkedSub · terminal)
  pure
    { total := coordinator.generationCount
      activated := coordinator.activatedGenerationCount
      scheduled
      active
      released := counters.released
      droppedConflict := counters.droppedConflict
      droppedBackend := counters.droppedBackend
      droppedExpired := counters.droppedExpired
      cancelled := counters.cancelled }

/-- Check that a terminal cleanup left nothing that is live. -/
def checkPostCleanupInvariants : Except CoordinatorInvariantError Unit := do
  coordinator.checkInvariants
  failIf (coordinator.activeMask ≠ 0#16 ∨ coordinator.blockedMask ≠ 0#16)
    (.accounting "terminal cleanup left a live coordinator mask")
  failIf (∃ slot ∈ List.range maxKeys, (coordinator.activeBySlot slot).isSome = true)
    (.accounting "terminal cleanup left a live coordinator slot")
  failIf (coordinator.pendingReleaseMask ≠ 0#16 ∨
      ∃ slot ∈ List.range maxKeys, (coordinator.pendingReleaseBySlot slot).isSome = true)
    (.accounting "terminal cleanup left a pending release")
  failIf (∃ slot ∈ List.range maxKeys, (coordinator.cancelledUpBySlot slot).isSome = true)
    (.accounting "terminal cleanup left an unmatched cancelled-Up token")
  failIf (∃ state ∈ coordinator.generationStates, state = .scheduled ∨ state = .active)
    (.accounting "terminal cleanup left a nonterminal generation")

/-- The generations that hold keys, in their order. -/
def activeGenerations : List ℕ :=
  ((List.range maxKeys).filterMap fun slot =>
    (coordinator.activeBySlot slot).map (·.generationId)).mergeSort

/-- Cancel a generation that is not over, and make its Up stale. -/
def cancelUnfinished (generationId : ℕ) : Except CoordinatorError RuntimeDispatchCoordinator :=
  match coordinator.generationStates[generationId]? with
  | some .scheduled => do
    let cancelled ← coordinator.transitionGeneration generationId .scheduled .cancelled
    pure (cancelled.invalidateUpForGeneration generationId)
  | some .active => do
    let cancelled ← coordinator.transitionGeneration generationId .active .cancelled
    pure (cancelled.invalidateUpForGeneration generationId)
  | _ => .ok coordinator

/-- No slot has the authored Up of a cancelled generation. -/
def clearCancelledUps : RuntimeDispatchCoordinator :=
  { coordinator with cancelledUpBySlot := SlotTable.empty }

end RuntimeDispatchCoordinator

open EStateM RuntimeDispatchCoordinator

/-- Cancel every generation that is not over, at the end of a session. -/
def cancelAll : CoordinatorM (List ℕ) := do
  check fun coordinator => coordinator.checkInvariants.mapError CoordinatorError.invariant
  let before ← get
  (List.range before.generationStates.length).forM fun generationId =>
    update (cancelUnfinished · generationId)
  modify fun coordinator => coordinator.clearLiveOwners.clearCancelledUps
  check fun coordinator => coordinator.checkInvariants.mapError CoordinatorError.invariant
  pure before.activeGenerations

end SkyAutoPlayer.DispatchCore
