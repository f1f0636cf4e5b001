import SkyAutoPlayer.DispatchCore.LedgerCalls
import SkyAutoPlayer.Foundation.StateMachine

/-!
# Runs of a coordinator

A run prepares packets and makes calls, and a call may be given any commit that was prepared before,
however stale it is. Calls may fail halfway. Whatever the run does, the audits find nothing, a
cancellation and a terminal cleanup succeed, and the generations go through their lifecycles: never
back, and released only when their holds are over.
-/

namespace SkyAutoPlayer.DispatchCore

open Foundation EStateM RuntimeDispatchCoordinator

/-- A coordinator with the commits that were prepared from it. -/
structure CoordinatorHistory where
  coordinator : RuntimeDispatchCoordinator
  commits : List PreparedAuthoredCommit

/-- What is done with a coordinator. -/
inductive CoordinatorAction where
  | prepare
  | call (call : CoordinatorCall)
  | cancelAll

namespace CoordinatorHistory

variable (history : CoordinatorHistory)

/-- The current packet is prepared, if that succeeds. -/
def prepared : CoordinatorHistory :=
  match history.coordinator.prepareCurrentAuthoredPacket with
  | .ok (some packet) => { history with commits := packet.commit :: history.commits }
  | _ => history

/-- A call is made. -/
def called (call : CoordinatorCall) : CoordinatorHistory :=
  { history with coordinator := (call.run.run history.coordinator).state }

/-- The session is cleaned up. -/
def cleanedUp : CoordinatorHistory :=
  { history with coordinator := (cancelAll.run history.coordinator).state }

end CoordinatorHistory

/-- A coordinator under all that can be done with it. Only commits that were prepared from it are
used. -/
def coordinatorMachine (initial : RuntimeDispatchCoordinator) :
    Machine CoordinatorHistory CoordinatorAction where
  initial := ⟨initial, []⟩
  step history
    | .prepare => some history.prepared
    | .call call =>
      if ∀ commit ∈ call.commits, commit ∈ history.commits then some (history.called call) else none
    | .cancelAll => some history.cleanedUp

/-- A coordinator has a ledger, and all that was prepared from it is issued. -/
structure Accounted (initial : RuntimeDispatchCoordinator) (history : CoordinatorHistory) : Prop where
  ledger : Ledger initial history.coordinator
  commits : ∀ commit ∈ history.commits, initial.Issued history.coordinator.generationStates commit

variable {initial : RuntimeDispatchCoordinator} {history after : CoordinatorHistory}
  {actions : List CoordinatorAction}

/-- A coordinator that went forward still has all that was prepared from it. -/
theorem Accounted.forward (h : Accounted initial history)
    (hledger : Ledger initial after.coordinator)
    (hforward : Forward history.coordinator.generationStates after.coordinator.generationStates)
    (hcommits : after.commits = history.commits) : Accounted initial after := by
  refine ⟨hledger, ?_⟩
  rw [hcommits]
  exact fun commit hcommit => (h.commits commit hcommit).forward hforward

section Steps

variable (hfresh : initial.Fresh) (h : Accounted initial history)
include hfresh h

/-- Preparing changes nothing but what is prepared. -/
theorem Accounted.prepared : Accounted initial history.prepared ∧
    history.prepared.coordinator = history.coordinator := by
  unfold CoordinatorHistory.prepared
  split
  · rename_i packet hpacket
    exact ⟨⟨h.ledger, List.forall_mem_cons.mpr
      ⟨h.ledger.issued_of_prepare hfresh hpacket, h.commits⟩⟩, rfl⟩
  · exact ⟨h, rfl⟩

/-- What a call leaves, where its commit was prepared from the coordinator. -/
theorem Accounted.leaves {call : CoordinatorCall}
    (hcommits : ∀ commit ∈ call.commits, commit ∈ history.commits) :
    CallLeaves initial history.coordinator call.started call.upIntents
      (history.called call).coordinator :=
  call.leaves hfresh h.ledger fun commit hcommit => h.commits commit (hcommits commit hcommit)

/-- Every action keeps the ledger, and goes forward. -/
theorem Accounted.step {action : CoordinatorAction}
    (hstep : (coordinatorMachine initial).step history action = some after) :
    Accounted initial after ∧
      Forward history.coordinator.generationStates after.coordinator.generationStates := by
  cases action with
  | prepare =>
    obtain rfl := Option.some.inj hstep
    obtain ⟨hprepared, hsame⟩ := h.prepared hfresh
    rw [hsame]
    exact ⟨hprepared, Changes.refl _⟩
  | call call =>
    obtain ⟨hcommits, hafter⟩ := Option.ite_none_right_eq_some.mp hstep
    obtain rfl := Option.some.inj hafter
    have hleaves := h.leaves hfresh hcommits
    exact ⟨h.forward hleaves.ledger hleaves.forward rfl, hleaves.forward⟩
  | cancelAll =>
    obtain rfl := Option.some.inj hstep
    obtain ⟨last, hrun, hledger, hchanges, -⟩ := h.ledger.cancelAll hfresh
    have hforward := forward_of_cancelsUnfinished hchanges
    have hlast : history.cleanedUp.coordinator = last := by
      rw [CoordinatorHistory.cleanedUp, hrun]
      rfl
    rw [← hlast] at hledger hforward
    exact ⟨h.forward hledger hforward rfl, hforward⟩

end Steps

/-- The ledger is kept along every run. -/
theorem accounted_of_run (hfresh : initial.Fresh) (hledger : Ledger initial initial)
    (hrun : (coordinatorMachine initial).run (coordinatorMachine initial).initial actions =
      some history) : Accounted initial history := by
  apply Machine.run_preserves _ hrun
  · exact ⟨hledger, fun _ hmem => absurd hmem List.not_mem_nil⟩
  · intro before action next hbefore hstep
    exact (hbefore.step hfresh hstep).1

/-- Every run goes forward. -/
theorem Accounted.run (hfresh : initial.Fresh) (h : Accounted initial history)
    (hrun : (coordinatorMachine initial).run history actions = some after) :
    Forward history.coordinator.generationStates after.coordinator.generationStates := by
  have hboth : Accounted initial after ∧
      Forward history.coordinator.generationStates after.coordinator.generationStates := by
    apply Machine.run_preserves _ hrun
    · exact ⟨h, Changes.refl _⟩
    · rintro before action next ⟨hbefore, hforward⟩ hstep
      obtain ⟨hnext, hagain⟩ := hbefore.step hfresh hstep
      exact ⟨hnext, hforward.trans hagain⟩
  exact hboth.2

section Results

variable {keyActions : List KeyActionInput} {allowedScanCodes : List ℕ} {schedule : RuntimeSchedule}
  {minHoldUs minHoldTicks : ℕ} {usToTicks : ℕ → Except CoordinatorError ℕ}

/-- A new coordinator has its schedule. -/
theorem schedule_of_tryNewTicks
    (hnew : tryNewTicks schedule minHoldUs minHoldTicks usToTicks = .ok initial) :
    initial.schedule = schedule := by
  simp only [tryNewTicks, Except.bind_eq_ok, Except.pure_eq_ok] at hnew
  obtain ⟨_, _, _, _, rfl⟩ := hnew
  rfl

variable (hcompiled : compileRuntimeIntents keyActions allowedScanCodes = .ok schedule)
  (hnew : tryNewTicks schedule minHoldUs minHoldTicks usToTicks = .ok initial)
  (hrun : (coordinatorMachine initial).run (coordinatorMachine initial).initial actions =
    some history)
include hcompiled hnew hrun

/-- After any run of a compiled schedule the coordinator has a ledger. -/
theorem accounted_after_run : initial.Fresh ∧ Accounted initial history :=
  have hfresh := fresh_tryNewTicks hcompiled hnew
  ⟨hfresh, accounted_of_run hfresh (ledger_of_new hnew) hrun⟩

/-- After any run the full audit finds nothing, and the accounting adds up. -/
theorem audit_after_run :
    history.coordinator.checkInvariants = .ok () ∧
      ∃ accounting, history.coordinator.generationAccounting = some accounting ∧
        accounting.scheduled + accounting.active + accounting.released +
            accounting.droppedConflict + accounting.droppedBackend + accounting.droppedExpired +
            accounting.cancelled = accounting.total ∧
        accounting.total = schedule.generationCount ∧
        accounting.released + accounting.active ≤ accounting.activated ∧
        accounting.activated ≤ accounting.total := by
  obtain ⟨hfresh, hledger, -⟩ := accounted_after_run hcompiled hnew hrun
  obtain ⟨hpressed, hfits⟩ := hledger.activated
  have hreleased := (Nat.le_add_right _ _).trans hpressed
  have hactivated := (Nat.le_add_right _ _).trans hfits
  rw [hledger.length] at hactivated
  refine ⟨hledger.checkInvariants hfresh, _, hledger.generationAccounting hfresh, ?_, ?_,
    hreleased, hactivated⟩
  · have hterminal := terminalTotal_countersOf history.coordinator.generationStates
    have hlength := length_eq_counts history.coordinator.generationStates
    rw [hledger.length] at hlength
    simp only [countersOf] at hterminal
    dsimp only
    omega
  · change history.coordinator.generationCount = schedule.generationCount
    rw [hledger.timing.generationCount, hfresh.generationCount, schedule_of_tryNewTicks hnew]

/-- After any run terminal cleanup succeeds. It reports the generations that held keys, each once and
in their order, cancels exactly what is not over, and leaves nothing that is live. -/
theorem cleanup_after_run :
    ∃ held last, cancelAll.run history.coordinator = .ok held last ∧
      held.Pairwise (· < ·) ∧
      (∀ generationId, generationId ∈ held ↔
        history.coordinator.generationStates[generationId]? = some .active) ∧
      (∀ (generationId : ℕ) (status : GenerationStatus),
        history.coordinator.generationStates[generationId]? = some status →
        last.generationStates[generationId]? =
          some (if status.isTerminal then status else .cancelled)) ∧
      last.checkPostCleanupInvariants = .ok () := by
  obtain ⟨hfresh, hledger, -⟩ := accounted_after_run hcompiled hnew hrun
  obtain ⟨last, hlast, -, honly, hover, haudit⟩ := hledger.cancelAll hfresh
  refine ⟨_, last, hlast, hledger.activeGenerations_pairwise hfresh,
    hledger.mem_activeGenerations hfresh, ?_, haudit⟩
  intro generationId status hstatus
  obtain ⟨new, hnew, hchange⟩ := honly generationId status hstatus
  rcases hchange with rfl | ⟨hlive, rfl⟩
  · have hlt := (List.getElem?_eq_some_iff.mp hstatus).1
    rw [hledger.length, hledger.timing.generationCount] at hlt
    obtain ⟨found, hfound, hterminal⟩ := hover generationId hlt
    rw [hnew] at hfound
    rw [Option.some.inj hfound, hterminal, if_pos rfl, ← Option.some.inj hfound]
    exact hnew
  · rw [hlive]
    exact hnew

/-- After any run a resumable cancellation succeeds. It counts the active generations and cancels
exactly these, keeps the authored Up of each in its slot beside those that were kept before, leaves no
owner, and does not move the cursor. -/
theorem cancellation_after_run :
    ∃ last, cancelLiveGenerationsAfterVerifiedResumableCleanup.run history.coordinator =
        .ok (history.coordinator.generationStates.count .active) last ∧
      (∀ (generationId : ℕ) (status : GenerationStatus),
        history.coordinator.generationStates[generationId]? = some status →
        last.generationStates[generationId]? =
          some (if status = .active then .cancelled else status)) ∧
      (∀ slot active, history.coordinator.activeBySlot slot = some active →
        ∃ identity, last.cancelledUpBySlot slot = some identity ∧
          identity.generationId = active.generationId ∧
          last.validateInvalidatedUpIdentity identity = .ok ()) ∧
      (∀ slot, history.coordinator.activeBySlot slot = none →
        last.cancelledUpBySlot slot = history.coordinator.cancelledUpBySlot slot) ∧
      (∀ slot, last.activeBySlot slot = none) ∧ last.cursor = history.coordinator.cursor ∧
      last.checkInvariants = .ok () := by
  obtain ⟨hfresh, hledger, -⟩ := accounted_after_run hcompiled hnew hrun
  obtain ⟨identities, last, hlast, hlastLedger, hempty, hlive, hcount, howners, hslots⟩ :=
    hledger.cancelLive hfresh
  rw [hcount] at hlast
  refine ⟨last, hlast, ?_, ?_, ?_, congrFun hempty, hlive.cursor, hlastLedger.checkInvariants hfresh⟩
  · intro generationId status hstatus
    obtain ⟨new, hnew, rfl | ⟨rfl, rfl⟩⟩ := hlive.changes generationId status hstatus
    · rw [hnew, if_neg]
      rintro rfl
      obtain ⟨slot, active, howner, rfl⟩ := hledger.owners.owner generationId hstatus
      obtain ⟨identity, hmem, hsame⟩ := hslots slot active howner
      have hcancelled := hlive.cancelled _ hmem
      rw [hsame] at hcancelled
      exact nomatch hnew.symm.trans hcancelled
    · rw [hnew, if_pos rfl]
  · intro slot active howner
    obtain ⟨identity, hmem, hsame⟩ := hslots slot active howner
    have hkept := hlive.kept _ hmem
    exact ⟨identity, hkept, hsame, (hlastLedger.kept slot identity hkept).valid hfresh
      hlastLedger.timing hlastLedger.derives⟩
  · intro slot hnone
    apply hlive.others
    intro hmem
    obtain ⟨live, hlive, rfl⟩ := List.mem_map.mp hmem
    obtain ⟨active, howner⟩ := howners live hlive
    exact nomatch hnone.symm.trans howner

/-- After any run the slots hold what the schedule says: an owner is active until its authored press
and the minimum hold, a release waits behind the owner that it releases, because its packet came
before the end of that hold, and an Up is kept at the compiled place of a cancelled generation, in a
slot without an owner. -/
theorem tables_after_run :
    (∀ slot active, history.coordinator.activeBySlot slot = some active →
      initial.OwnsSlot history.coordinator.generationStates slot active) ∧
    (∀ slot release, history.coordinator.pendingReleaseBySlot slot = some release →
      ∃ active, initial.Awaits history.coordinator.activeBySlot slot release active) ∧
    ∀ slot identity, history.coordinator.cancelledUpBySlot slot = some identity →
      initial.KeepsUp history.coordinator.schedule history.coordinator.generationStates slot
          identity ∧ history.coordinator.activeBySlot slot = none := by
  obtain ⟨-, hledger, -⟩ := accounted_after_run hcompiled hnew hrun
  exact ⟨hledger.owners.owned, hledger.owners.pending, fun slot identity hidentity =>
    ⟨hledger.kept slot identity hidentity, hledger.free slot identity hidentity⟩⟩

/-- After any run every commit that was ever prepared still has the tick of its packet, names its
packet's presses, and tells for every generation that holds a key now whether its hold ends by that
tick. -/
theorem commits_stay_classified :
    ∀ commit ∈ history.commits,
      initial.packetTicks commit.frame.packetIndex = some commit.frame.authoredTicks ∧
      (∀ up ∈ commit.upIntents, ∀ slot active,
        history.coordinator.activeBySlot slot = some active →
        active.generationId = up.identity.generationId →
        (commit.frame.immediateUpMask.getLsbD up.identity.keySlot = true ↔
          active.releaseNotBeforeTicks ≤ commit.frame.authoredTicks)) ∧
      ∀ down ∈ commit.downIntents, down.generationId ≠ noGenerationId →
        schedule.Presses commit.frame.packetIndex down.keySlot down.generationId := by
  obtain ⟨-, hledger, hcommits⟩ := accounted_after_run hcompiled hnew hrun
  intro commit hcommit
  have hissued := hcommits commit hcommit
  rw [← schedule_of_tryNewTicks hnew]
  refine ⟨hissued.ticks, fun up hup slot active howner hgeneration => ?_, hissued.downs⟩
  have hclassified := (hissued.ups up hup).classified
  rw [← hgeneration] at hclassified
  exact hclassified.due_iff (hledger.owners.owned slot active howner)

/-- In every run the statuses of the generations only go forward, and an active generation owns
exactly one slot; a call moves a generation along its lifecycle only, releases an active one not
before its authored press and the minimum hold, and a cancelled one only by its own kept Up. -/
theorem lifecycle_along_run :
    (∀ later after, (coordinatorMachine initial).run history later = some after →
      Forward history.coordinator.generationStates after.coordinator.generationStates) ∧
    (∀ generationId, history.coordinator.generationStates[generationId]? = some .active →
      ∃! slot, ∃ active, history.coordinator.activeBySlot slot = some active ∧
        active.generationId = generationId) ∧
    ∀ call after, (coordinatorMachine initial).step history (.call call) = some after →
      Changes (Lifecycle (initial.HeldBy call.started)
        (history.coordinator.KeptFor call.upIntents)) history.coordinator.generationStates
          after.coordinator.generationStates := by
  obtain ⟨hfresh, haccounted⟩ := accounted_after_run hcompiled hnew hrun
  refine ⟨fun later after hlater => haccounted.run hfresh hlater, ?_, ?_⟩
  · intro generationId hactive
    obtain ⟨slot, active, howner, hgeneration⟩ := haccounted.ledger.owners.owner generationId hactive
    refine ⟨slot, ⟨active, howner, hgeneration⟩, ?_⟩
    rintro other ⟨second, hsecond, hsame⟩
    exact haccounted.ledger.owners.slot_unique hfresh hsecond howner (hsame.trans hgeneration.symm)
  · intro call after hstep
    obtain ⟨hcommits, hafter⟩ := Option.ite_none_right_eq_some.mp hstep
    obtain rfl := Option.some.inj hafter
    exact (haccounted.leaves hfresh hcommits).changes

end Results

/-- A key is pressed, its generation is cancelled, and the packet of its release is prepared. -/
def cancelledActions (initial : RuntimeDispatchCoordinator) : List CoordinatorAction :=
  [.prepare] ++ (pressAndCancel initial).map .call ++ [.prepare]

/-- A run with a cancelled generation, after which the release is committed for its kept Up. -/
theorem cancelled_run : ∃ schedule initial history, ∃ commit : PreparedAuthoredCommit, ∃ after,
    compileRuntimeIntents heldKeyActions [21] = .ok schedule ∧
      tryNewTicks schedule 5 5 .ok = .ok initial ∧
      (coordinatorMachine initial).run (coordinatorMachine initial).initial
        (cancelledActions initial) = some history ∧
      (coordinatorMachine initial).step history (.call (.commitSuccess commit 10)) = some after ∧
      history.coordinator.generationStates = [.cancelled] ∧
      after.coordinator.generationStates = [.released] := by
  have hcheck : (compileRuntimeIntents heldKeyActions [21]).toOption.any (fun schedule =>
      (tryNewTicks schedule 5 5 .ok).toOption.any (fun initial =>
        ((coordinatorMachine initial).run (coordinatorMachine initial).initial
          (cancelledActions initial)).any (fun history =>
            decide (history.coordinator.generationStates = [.cancelled]) &&
              history.commits.head?.any (fun commit =>
                ((coordinatorMachine initial).step history (.call (.commitSuccess commit 10))).any
                  (fun after => decide (after.coordinator.generationStates = [.released])))))) =
      true := by
    decide +kernel
  obtain ⟨schedule, hschedule, hnewCheck⟩ := Except.exists_of_any hcheck
  obtain ⟨initial, hnew, hrunCheck⟩ := Except.exists_of_any hnewCheck
  obtain ⟨history, hrun, hboth⟩ := (Option.any_eq_true _ _).mp hrunCheck
  rw [Bool.and_eq_true] at hboth
  obtain ⟨commit, -, hstep⟩ := (Option.any_eq_true _ _).mp hboth.2
  obtain ⟨after, hafter, hreleased⟩ := (Option.any_eq_true _ _).mp hstep
  exact ⟨schedule, initial, history, commit, after, hschedule, hnew, hrun, hafter,
    of_decide_eq_true hboth.1, of_decide_eq_true hreleased⟩

/-- The audit after a run with a cancelled generation. -/
theorem audit_after_run_cancelled : ∃ history : CoordinatorHistory,
    history.coordinator.generationStates = [.cancelled] ∧
      history.coordinator.checkInvariants = .ok () := by
  obtain ⟨schedule, initial, history, -, -, hschedule, hnew, hrun, -, hcancelled, -⟩ := cancelled_run
  exact ⟨history, hcancelled, (audit_after_run hschedule hnew hrun).1⟩

/-- The cleanup after a run with a cancelled generation. -/
theorem cleanup_after_run_cancelled : ∃ (history : CoordinatorHistory)
    (last : RuntimeDispatchCoordinator),
    history.coordinator.generationStates = [.cancelled] ∧
      cancelAll.run history.coordinator = .ok [] last ∧
      last.checkPostCleanupInvariants = .ok () := by
  obtain ⟨schedule, initial, history, -, -, hschedule, hnew, hrun, -, hcancelled, -⟩ := cancelled_run
  obtain ⟨held, last, hlast, -, hmem, -, haudit⟩ := cleanup_after_run hschedule hnew hrun
  have hnone : held = [] := by
    apply List.eq_nil_iff_forall_not_mem.mpr
    intro generationId hheld
    have hactive := (hmem generationId).mp hheld
    rw [hcancelled] at hactive
    cases generationId with
    | zero => cases hactive
    | succ other => cases hactive
  rw [hnone] at hlast
  exact ⟨history, last, hcancelled, hlast, haudit⟩

/-- A cancellation after a run with a generation that is cancelled already. -/
theorem cancellation_after_run_cancelled : ∃ (history : CoordinatorHistory)
    (last : RuntimeDispatchCoordinator),
    history.coordinator.generationStates = [.cancelled] ∧
      cancelLiveGenerationsAfterVerifiedResumableCleanup.run history.coordinator = .ok 0 last ∧
      last.generationStates[0]? = some .cancelled := by
  obtain ⟨schedule, initial, history, -, -, hschedule, hnew, hrun, -, hcancelled, -⟩ := cancelled_run
  obtain ⟨last, hlast, hstates, -⟩ := cancellation_after_run hschedule hnew hrun
  rw [hcancelled] at hlast hstates
  exact ⟨history, last, hcancelled, hlast, hstates 0 .cancelled rfl⟩

/-- The slots after a run with a cancelled generation. -/
theorem tables_after_run_cancelled : ∃ history : CoordinatorHistory,
    history.coordinator.generationStates = [.cancelled] ∧
      ∀ slot identity, history.coordinator.cancelledUpBySlot slot = some identity →
        history.coordinator.activeBySlot slot = none := by
  obtain ⟨schedule, initial, history, -, -, hschedule, hnew, hrun, -, hcancelled, -⟩ := cancelled_run
  exact ⟨history, hcancelled, fun slot identity hidentity =>
    ((tables_after_run hschedule hnew hrun).2.2 slot identity hidentity).2⟩

/-- A commit that was prepared in a run with a cancelled generation. -/
theorem commits_stay_classified_cancelled : ∃ (initial : RuntimeDispatchCoordinator)
    (history : CoordinatorHistory) (commit : PreparedAuthoredCommit),
    history.coordinator.generationStates = [.cancelled] ∧ commit ∈ history.commits ∧
      initial.packetTicks commit.frame.packetIndex = some commit.frame.authoredTicks := by
  obtain ⟨schedule, initial, history, commit, after, hschedule, hnew, hrun, hstep, hcancelled, -⟩ :=
    cancelled_run
  have hcommit := (Option.ite_none_right_eq_some.mp hstep).1 commit (List.mem_singleton_self _)
  exact ⟨initial, history, commit, hcancelled, hcommit,
    (commits_stay_classified hschedule hnew hrun commit hcommit).1⟩

/-- The lifecycle of a generation that is cancelled and then released by its kept Up. -/
theorem lifecycle_along_run_cancelled : ∃ (initial : RuntimeDispatchCoordinator)
    (history after : CoordinatorHistory) (call : CoordinatorCall),
    history.coordinator.generationStates = [.cancelled] ∧
      after.coordinator.generationStates = [.released] ∧
      Changes (Lifecycle (initial.HeldBy call.started)
        (history.coordinator.KeptFor call.upIntents)) history.coordinator.generationStates
          after.coordinator.generationStates := by
  obtain ⟨schedule, initial, history, commit, after, hschedule, hnew, hrun, hstep, hcancelled,
    hreleased⟩ := cancelled_run
  exact ⟨initial, history, after, _, hcancelled, hreleased,
    (lifecycle_along_run hschedule hnew hrun).2.2 _ after hstep⟩

end SkyAutoPlayer.DispatchCore
