import SkyAutoPlayer.Desktop.PresentationDelivery

/-!
# A waiting completion runs

Every step of the worker brings a completion that it has, or that waits in its queue, nearer to its end.
So the worker alone clears the slot of the session, whatever the publications to the event hub answer.
-/

namespace SkyAutoPlayer.Desktop

open Foundation

/-- How much a worker has taken, or may take. -/
def pendingWork (worker : PresentationWorker) (state : PresentationState) : ℕ :=
  state.critical.length + worker.pendingCritical.toList.length +
    state.latestSnapshot.toList.length + worker.pendingSnapshot.toList.length

/-- What is left of the presentation of a frame. -/
def FrameStage.rank : FrameStage → ℕ
  | .projecting => 12
  | .publishing => 11
  | .checking => 10
  | .diagnosing => 9

/-- What is left of the presentation of the end of a session, before its completion. -/
def FinalStage.rank : FinalStage → ℕ
  | .diagnosing => 7
  | .checking => 6
  | .stating => 5
  | .announcing => 4

/-- What is left of a completion. -/
def CompletionPhase.rank : CompletionPhase → ℕ
  | .reporting _ => 3
  | .settling => 2
  | .clearing _ => 1

/-- What is left of a failure to store. -/
def FailureStage.rank : FailureStage → ℕ
  | .failed => 3
  | .closed => 2
  | .reason => 1

/-- Something is left of a failure to store. -/
theorem FailureStage.rank_pos (stage : FailureStage) : 0 < stage.rank := by
  cases stage <;> exact Nat.succ_pos _

/-- How much a worker does at most before it takes up something else, with a message that it has taken
or without one. -/
def WorkerPhase.rank (holds : Bool) : WorkerPhase → ℕ
  | .receiving => 4
  | .taking => if holds then 3 else 8
  | .choosing => if holds then 2 else 7
  | .idling => 6
  | .frame stage => stage.rank
  | .admitting _ => 11
  | .stating => 10
  | .finalizing _ stage => stage.rank
  | .completing _ phase _ => phase.rank
  | .closing => 1
  | .recording _ stage => 8 + stage.rank
  | .failing _ stage => 5 + stage.rank
  | .reporting _ => 5
  | .rejecting _ => 4
  | .draining _ => 3
  | .leaving | .ended => 0

/-- How far a worker is from the end of what it has taken or may take. -/
def distance (worker : PresentationWorker) (state : PresentationState) : ℕ :=
  20 * pendingWork worker state + worker.phase.rank worker.pendingCritical.isSome

/-- A completion is with the worker, or waits in its queue. -/
def CompletionWaits (worker : PresentationWorker) (state : PresentationState) : Prop :=
  ∃ number, number ∈ worker.numbers ∨ number ∈ waitingNumbers state.critical

variable {active : PresentedPlayback} {choice : PresentationChoice} {state after : PresentationState}
  {worker moved : PresentationWorker}

/-- A failure touches no frame. -/
theorem recordFailure_latest {error : String} {stage : FailureStage} :
    (recordFailure choice error stage state).1.latestSnapshot = state.latestSnapshot := by
  cases stage with
  | failed | closed => rfl
  | reason =>
    unfold recordFailure
    dsimp only
    split <;> rfl

/-- A failure is stored part by part. -/
theorem recordFailure_rank {error : String} {stage later : FailureStage}
    (h : (recordFailure choice error stage state).2 = some later) : later.rank < stage.rank := by
  cases stage with
  | failed =>
    obtain rfl := Option.some.inj h
    decide
  | closed =>
    obtain rfl := Option.some.inj h
    decide
  | reason => cases h

/-- A completion touches no frame. -/
theorem completionStep_latest {completion : PresentationCompletion} {phase : CompletionPhase} :
    (completionStep active choice completion phase state).1.latestSnapshot =
      state.latestSnapshot := by
  cases phase with
  | reporting => rfl
  | settling =>
    unfold completionStep
    dsimp only
    split <;> rfl
  | clearing retirement =>
    unfold completionStep
    dsimp only
    split <;> rfl

/-- A completion of a session that holds the slot comes nearer to its end. -/
theorem completionStep_rank {completion : PresentationCompletion} {phase later : CompletionPhase}
    (hslot : state.activeSlot = some .presented)
    (h : (completionStep active choice completion phase state).2 = some later) :
    later.rank < phase.rank := by
  cases phase with
  | reporting failed =>
    obtain rfl := Option.some.inj h
    exact Nat.lt_succ_self 2
  | settling =>
    unfold completionStep at h
    dsimp only at h
    split at h <;> obtain rfl := Option.some.inj h <;> exact Nat.one_lt_two
  | clearing retirement =>
    unfold completionStep at h
    dsimp only at h
    rw [if_pos hslot] at h
    cases h

/-- A worker beside which nothing waits has nothing to receive. -/
theorem not_waits_of_empty (hpending : worker.pendingCritical = none)
    (hphase : worker.phase.numbers = []) (hcritical : state.critical = []) : ¬CompletionWaits worker state := by
  rintro ⟨number, hworker | hwaiting⟩
  · unfold PresentationWorker.numbers at hworker
    rw [hpending, hphase] at hworker
    exact absurd hworker List.not_mem_nil
  · rw [hcritical] at hwaiting
    exact absurd hwaiting List.not_mem_nil

/-- What a frame does next is less than what is left of it. -/
theorem frameStep_rank (holds : Bool) (stage : FrameStage) :
    (frameStep choice worker state stage).rank holds < stage.rank := by
  unfold frameStep afterPublication
  cases stage with
  | projecting =>
    dsimp only
    split
    · exact Nat.lt_of_sub_eq_succ rfl
    · split <;> exact Nat.lt_of_sub_eq_succ rfl
  | checking =>
    dsimp only
    split <;> exact Nat.lt_of_sub_eq_succ rfl
  | publishing | diagnosing =>
    dsimp only
    split
    · exact Nat.lt_of_sub_eq_succ rfl
    · split <;> exact Nat.lt_of_sub_eq_succ rfl

/-- What the end of a session does next is less than what is left of it. -/
theorem finalStep_rank (holds : Bool) (completion : PresentationCompletion) (stage : FinalStage) :
    (finalStep choice state completion stage).rank holds < stage.rank := by
  unfold finalStep afterFinalPublication failFinalization
  cases stage <;> dsimp only <;> split <;> exact Nat.lt_of_sub_eq_succ rfl

/-- What a worker does with a message is less than what was left of it. -/
theorem admitMessage_rank (holds : Bool) (message : PresentationMessage) :
    (admitMessage choice worker state message).rank holds < 11 := by
  unfold admitMessage
  cases message with
  | state order =>
    dsimp only
    split
    · exact Nat.lt_of_sub_eq_succ rfl
    · split <;> exact Nat.lt_of_sub_eq_succ rfl
  | finalize order completion =>
    dsimp only
    split <;> exact Nat.lt_of_sub_eq_succ rfl

/-- A worker that rejects a message has little left to do for it. -/
theorem rejectedPhase_rank (holds : Bool) (failure : WorkerFailure) (message : PresentationMessage) :
    (rejectedPhase failure message).rank holds = 3 := by
  cases message <;> rfl

/-- A worker that takes something up has less left to take. -/
theorem chooseWork_distance (hphase : worker.phase = .choosing) :
    distance worker.chooseWork state < distance worker state := by
  unfold distance pendingWork
  rw [hphase]
  unfold PresentationWorker.chooseWork
  cases worker.pendingCritical with
  | none =>
    cases worker.pendingSnapshot with
    | none => simp [WorkerPhase.rank]
    | some order =>
      simp [WorkerPhase.rank, FrameStage.rank]
      omega
  | some message =>
    cases worker.pendingSnapshot with
    | none =>
      simp [WorkerPhase.rank]
      omega
    | some order =>
      dsimp only
      split
      · simp [WorkerPhase.rank]
        omega
      · simp [WorkerPhase.rank, FrameStage.rank]
        omega

/-- A step of a worker that has something to do, and whose session holds the slot, brings it nearer to
its end. -/
theorem workerStep_distance (hsound : worker.Sound state)
    (hkept : worker.phase = .leaving → waitingNumbers state.critical = [])
    (hwaits : CompletionWaits worker state) (hslot : state.activeSlot = some .presented)
    (hstill : after.activeSlot = some .presented)
    (hstep : workerStep active choice worker state = some (after, moved)) :
    distance moved after < distance worker state := by
  unfold workerStep at hstep
  cases hphase : worker.phase with
  | receiving =>
    rw [hphase] at hstep
    dsimp only at hstep
    unfold distance pendingWork
    rw [hphase]
    split at hstep
    case h_1 message rest hpending hcritical =>
      obtain ⟨rfl, rfl⟩ := Prod.mk.inj (Option.some.inj hstep)
      simp [hpending, hcritical, WorkerPhase.rank]
    case h_2 hother =>
      obtain ⟨rfl, rfl⟩ := Prod.mk.inj (Option.some.inj hstep)
      cases hpending : worker.pendingCritical with
      | some message => simp [WorkerPhase.rank]
      | none =>
        cases hcritical : state.critical with
        | nil =>
          exact absurd hwaits (not_waits_of_empty hpending (by rw [hphase]; rfl) hcritical)
        | cons message rest => exact absurd hcritical (hother message rest hpending)
  | taking =>
    rw [hphase] at hstep
    dsimp only at hstep
    unfold distance pendingWork
    rw [hphase]
    split at hstep <;> obtain ⟨rfl, rfl⟩ := Prod.mk.inj (Option.some.inj hstep)
    · cases worker.pendingCritical <;> simp [WorkerPhase.rank]
    · cases worker.pendingCritical <;> cases state.latestSnapshot <;> simp [WorkerPhase.rank] <;> omega
  | choosing =>
    rw [hphase] at hstep
    obtain ⟨rfl, rfl⟩ := Prod.mk.inj (Option.some.inj hstep)
    exact chooseWork_distance hphase
  | idling =>
    rw [hphase] at hstep
    obtain ⟨rfl, rfl⟩ := Prod.mk.inj (Option.some.inj hstep)
    unfold distance
    rw [hphase]
    refine Nat.add_lt_add_left ?_ _
    dsimp only
    split <;> exact Nat.lt_of_sub_eq_succ rfl
  | frame stage =>
    rw [hphase] at hstep
    obtain ⟨rfl, rfl⟩ := Prod.mk.inj (Option.some.inj hstep)
    unfold distance
    rw [hphase]
    exact Nat.add_lt_add_left (frameStep_rank _ stage) _
  | admitting message =>
    rw [hphase] at hstep
    obtain ⟨rfl, rfl⟩ := Prod.mk.inj (Option.some.inj hstep)
    unfold distance
    rw [hphase]
    exact Nat.add_lt_add_left (admitMessage_rank _ message) _
  | stating =>
    rw [hphase] at hstep
    obtain ⟨rfl, rfl⟩ := Prod.mk.inj (Option.some.inj hstep)
    unfold distance
    rw [hphase]
    refine Nat.add_lt_add_left ?_ _
    dsimp only
    cases choice.publication <;> exact Nat.lt_of_sub_eq_succ rfl
  | finalizing completion stage =>
    rw [hphase] at hstep
    obtain ⟨rfl, rfl⟩ := Prod.mk.inj (Option.some.inj hstep)
    unfold distance
    rw [hphase]
    exact Nat.add_lt_add_left (finalStep_rank _ completion stage) _
  | completing completion phase next =>
    rw [hphase] at hstep
    obtain ⟨rfl, rfl⟩ := Prod.mk.inj (Option.some.inj hstep)
    obtain ⟨hcritical, -, -, hrun⟩ :=
      completionStep_cases (rfl : completionStep active choice completion phase state = _)
    unfold distance pendingWork
    rw [hphase, hcritical, completionStep_latest]
    rcases hrun with ⟨hsome, -, -⟩ | ⟨-, -, hcleared⟩
    · obtain ⟨later, hlater⟩ := Option.isSome_iff_exists.mp hsome
      rw [hlater]
      exact Nat.add_lt_add_left (completionStep_rank hslot hlater) _
    · rw [hcleared] at hstill
      cases hstill
  | closing =>
    rw [hphase] at hstep
    obtain ⟨rfl, rfl⟩ := Prod.mk.inj (Option.some.inj hstep)
    unfold distance
    rw [hphase]
    exact Nat.add_lt_add_left Nat.one_pos _
  | recording error stage =>
    rw [hphase] at hstep
    obtain ⟨rfl, rfl⟩ := Prod.mk.inj (Option.some.inj hstep)
    have hcritical := (@recordFailure_frame choice state error stage).1
    unfold distance pendingWork
    rw [hphase, hcritical, recordFailure_latest]
    refine Nat.add_lt_add_left ?_ _
    split
    case h_1 later hlater => exact Nat.add_lt_add_left (recordFailure_rank hlater) 8
    case h_2 => exact Nat.lt_add_of_pos_right stage.rank_pos
  | failing failure stage =>
    rw [hphase] at hstep
    obtain ⟨rfl, rfl⟩ := Prod.mk.inj (Option.some.inj hstep)
    have hcritical := (@recordFailure_frame choice state failure.reason stage).1
    unfold distance pendingWork
    rw [hphase, hcritical, recordFailure_latest]
    refine Nat.add_lt_add_left ?_ _
    split
    case h_1 later hlater => exact Nat.add_lt_add_left (recordFailure_rank hlater) 5
    case h_2 => exact Nat.lt_add_of_pos_right stage.rank_pos
  | reporting failure =>
    rw [hphase] at hstep
    obtain ⟨rfl, rfl⟩ := Prod.mk.inj (Option.some.inj hstep)
    unfold distance
    rw [hphase]
    exact Nat.add_lt_add_left (Nat.lt_of_sub_eq_succ rfl) _
  | rejecting failure =>
    rw [hphase] at hstep
    obtain ⟨rfl, rfl⟩ := Prod.mk.inj (Option.some.inj hstep)
    unfold distance pendingWork
    rw [hphase]
    cases worker.pendingCritical with
    | none => exact Nat.add_lt_add_left (Nat.lt_of_sub_eq_succ rfl) _
    | some message =>
      simp [rejectedPhase_rank]
      omega
  | draining failure =>
    rw [hphase] at hstep
    dsimp only at hstep
    split at hstep
    case h_1 message rest hcritical =>
      obtain ⟨rfl, rfl⟩ := Prod.mk.inj (Option.some.inj hstep)
      unfold distance pendingWork
      dsimp only
      rw [hcritical, List.length_cons, rejectedPhase_rank]
      omega
    case h_2 =>
      obtain ⟨rfl, rfl⟩ := Prod.mk.inj (Option.some.inj hstep)
      unfold distance
      rw [hphase]
      exact Nat.add_lt_add_left (Nat.lt_of_sub_eq_succ rfl) _
  | leaving =>
    obtain ⟨number, hworker | hwaiting⟩ := hwaits
    · have hpending := hsound.pending (by rw [hphase]; trivial)
      unfold PresentationWorker.numbers at hworker
      rw [hphase] at hworker
      cases hcritical : worker.pendingCritical with
      | none =>
        rw [hcritical] at hworker
        exact absurd hworker List.not_mem_nil
      | some message =>
        rw [hcritical, Option.map_some, Option.getD_some, hpending message hcritical] at hworker
        exact absurd hworker List.not_mem_nil
    · rw [hkept hphase] at hwaiting
      exact absurd hwaiting List.not_mem_nil
  | ended =>
    rw [hphase] at hstep
    cases hstep

/-- A completion that waits has not run while the session holds the slot, so it still waits. -/
theorem workerStep_waits (hsound : worker.Sound state)
    (hkept : worker.phase = .leaving → waitingNumbers state.critical = [])
    (hsettled : state.Settled) (hwaits : CompletionWaits worker state)
    (hslot : state.activeSlot = some .presented) (hstill : after.activeSlot = some .presented)
    (hstep : workerStep active choice worker state = some (after, moved)) : CompletionWaits moved after := by
  obtain ⟨number, hnumber⟩ := hwaits
  have hcount := (workerStep_count hsound hkept hstep number).2
  have hbefore : state.completed = [] := hsettled hslot
  have hafter : after.completed = [] := workerStep_settled hsettled hstep hstill
  unfold PresentationState.count at hcount
  rw [hbefore, hafter, List.count_nil] at hcount
  have hpositive : 0 < worker.numbers.count number + (waitingNumbers state.critical).count number := by
    rcases hnumber with hworker | hwaiting
    · have hworkerCount := List.count_pos_iff.mpr hworker
      omega
    · have hwaitingCount := List.count_pos_iff.mpr hwaiting
      omega
  refine ⟨number, ?_⟩
  rcases Nat.eq_zero_or_pos (moved.numbers.count number) with hnone | hmoved
  · exact .inr (List.count_pos_iff.mp (by omega))
  · exact .inl (List.count_pos_iff.mp hmoved)

/-- The worker makes steps until it has ended. -/
theorem workerStep_isSome (hphase : worker.phase ≠ .ended) :
    ∃ after moved, workerStep active choice worker state = some (after, moved) := by
  unfold workerStep
  cases hworker : worker.phase with
  | ended => exact absurd hworker hphase
  | receiving | taking | draining =>
    dsimp only
    split <;> exact ⟨_, _, rfl⟩
  | choosing | idling | frame | admitting | stating | finalizing | completing | closing | recording
  | failing | reporting | rejecting | leaving => exact ⟨_, _, rfl⟩

/-- The worker that has ended has nothing that waits. -/
theorem ended_not_waits (hsound : worker.Sound state) (hended : worker.phase = .ended) :
    ¬CompletionWaits worker state := by
  obtain ⟨-, hcritical, hpending⟩ := hsound.ended hended
  exact not_waits_of_empty hpending (by rw [hended]; rfl) hcritical

/-- The worker alone clears the slot of the session, in a number of steps that does not depend on what
its environment answers. -/
def ClearsAlone (active : PresentedPlayback) (system : PresentationSystem) : Prop :=
  ∃ bound, ∀ choices : List PresentationChoice, bound < choices.length →
    (presentationMachine active).Meets NoneDropped system (choices.map .work) →
      ∃ taken rest cleared, taken ++ rest = choices ∧
        (presentationMachine active).run system (taken.map .work) = some cleared ∧
          cleared.pool.shared.activeSlot ≠ some .presented

/-- A worker beside which a completion waits clears the slot of its session. -/
theorem clears_of_distance {choices : List PresentationChoice} {system : PresentationSystem}
    (h : system.Sound) (hwaits : CompletionWaits system.worker system.pool.shared)
    (hslot : system.pool.shared.activeSlot = some .presented)
    (hlength : distance system.worker system.pool.shared < choices.length)
    (hmeets : (presentationMachine active).Meets NoneDropped system (choices.map .work)) :
    ∃ taken rest cleared, taken ++ rest = choices ∧
      (presentationMachine active).run system (taken.map .work) = some cleared ∧
        cleared.pool.shared.activeSlot ≠ some .presented := by
  -- By induction on the choices: each of them brings the worker nearer, or clears the slot.
  induction choices generalizing system with
  | nil => exact absurd hlength (Nat.not_lt_zero _)
  | cons choice rest ih =>
    obtain ⟨hkept, hlater⟩ := hmeets
    have hrunning : system.worker.phase ≠ .ended := fun hended =>
      ended_not_waits h.worker hended hwaits
    obtain ⟨after, moved, hworked⟩ :=
      @workerStep_isSome active choice system.pool.shared system.worker hrunning
    have hstep : (presentationMachine active).step system (.work choice) =
        some ⟨⟨after, system.pool.calls⟩, moved⟩ := by
      show (workerStep active choice system.worker system.pool.shared).map _ = _
      rw [hworked]
      rfl
    have hqueue := fun hleaving => waitingNumbers_eq_nil (hkept hleaving)
    by_cases hstill : after.activeSlot = some .presented
    · have hnearer := workerStep_distance h.worker hqueue hwaits hslot hstill hworked
      have hlengthRest : distance moved after < rest.length := by
        rw [List.length_cons] at hlength
        omega
      obtain ⟨taken, remaining, cleared, hchoices, hrun, hcleared⟩ :=
        ih (h.work hkept hworked)
          (workerStep_waits h.worker hqueue h.settled hwaits hslot hstill hworked) hstill hlengthRest
          (hlater _ hstep)
      refine ⟨choice :: taken, remaining, cleared, congrArg (choice :: ·) hchoices, ?_, hcleared⟩
      rw [List.map_cons, Machine.run, List.foldlM_cons, hstep]
      exact hrun
    · refine ⟨[choice], rest, ⟨⟨after, system.pool.calls⟩, moved⟩, rfl, ?_, hstill⟩
      rw [List.map_singleton, Machine.run, List.foldlM_cons, hstep]
      rfl

/-- As long as the worker drops no finalization with its queue, every finalization runs its completion
once, and a completion that is with the worker, or waits in its queue, is run by it, so the slot of the
session is cleared. -/
theorem finalization_delivered_once {actions : List PresentationAction} {system : PresentationSystem}
    (hrun : (presentationMachine active).run (presentationMachine active).initial actions =
      some system)
    (hmeets : (presentationMachine active).Meets NoneDropped (presentationMachine active).initial
      actions) :
    system.Delivers ∧
      (CompletionWaits system.worker system.pool.shared →
        system.pool.shared.activeSlot = some .presented → ClearsAlone active system) := by
  have hsound := sound_of_run hrun hmeets sound_initial
  refine ⟨hsound.delivers, fun hwaits hslot => ?_⟩
  exact ⟨distance system.worker system.pool.shared, fun choices hlength hkept =>
    clears_of_distance hsound hwaits hslot hlength hkept⟩

/-- A session that has finished and whose keys were released. -/
def finishedRetirement : TerminalRetirement :=
  ⟨.workerJoined, .verified 0, .finished "finished" "Playback finished"⟩

/-- A session that is presented. -/
def scenarioPlayback : PresentedPlayback := ⟨"playback-1", "prepared-1", "song-1", true⟩

/-- No lock is busy, and a publication ends in a given way. -/
def answered (publication : PublicationAnswer) : PresentationChoice := ⟨false, true, false, publication⟩

/-- A finalization is put into the queue, and the worker presents it. -/
def presentedToEnd : List PresentationAction :=
  [.publish (.begin (.finalize finishedRetirement true))] ++
    List.replicate 3 (.publish (.advance 0 (answered .published))) ++
      List.replicate 13 (.work (answered .published))

/-- A finalization that is presented to its end clears the slot. -/
theorem finalization_delivered_once_scenario :
    ∃ system : PresentationSystem, system.Delivers ∧ system.pool.shared.completed = [0] ∧
      system.worker.phase = .ended ∧ system.pool.shared.activeSlot = none := by
  have hcheck : ((presentationMachine scenarioPlayback).run
      (presentationMachine scenarioPlayback).initial presentedToEnd).any (fun system =>
        system.pool.shared.completed = [0] ∧ system.worker.phase = .ended ∧
          system.pool.shared.activeSlot = none) = true := by decide +kernel
  have hmeets : (presentationMachine scenarioPlayback).Meets NoneDropped
      (presentationMachine scenarioPlayback).initial presentedToEnd := by decide +kernel
  obtain ⟨system, hrun, hsystem⟩ := (Option.any_eq_true _ _).mp hcheck
  exact ⟨system, (finalization_delivered_once hrun hmeets).1, of_decide_eq_true hsystem⟩

/-- A finalization finds the queue open. The worker fails on an earlier message and empties the queue,
then the finalization is put in, and the worker drops the queue. -/
def droppedWithQueue : List PresentationAction :=
  [PresentationAction.publish (.begin .publishState)] ++
    List.replicate 3 (PresentationAction.publish (.advance 0 (answered .published))) ++
      [PresentationAction.publish (.begin (.finalize finishedRetirement true))] ++
        List.replicate 2 (PresentationAction.publish (.advance 1 (answered .published))) ++
          List.replicate 11 (PresentationAction.work (answered (.failed "native event hub is closed"))) ++
            [PresentationAction.publish (.advance 1 (answered .published)), .work (answered .published)]

/-- A finalization that is put in behind the last look of the worker never runs its completion. -/
theorem late_finalization_is_lost :
    ¬∀ (active : PresentedPlayback) (actions : List PresentationAction) (system : PresentationSystem),
      (presentationMachine active).run (presentationMachine active).initial actions = some system →
        system.Delivers := by
  intro h
  have hcheck : ((presentationMachine scenarioPlayback).run
      (presentationMachine scenarioPlayback).initial droppedWithQueue).any (fun system =>
        system.worker.phase = .ended ∧ system.pool.shared.completed = [] ∧
          ∃ call ∈ system.pool.calls, call.number = some 0 ∧ call.phase = .returned (.ok ())) =
            true := by
    decide +kernel
  obtain ⟨system, hrun, hsystem⟩ := (Option.any_eq_true _ _).mp hcheck
  obtain ⟨hended, hcompleted, call, hcall, hnumber, hreturned⟩ := of_decide_eq_true hsystem
  have hdelivered := ((h scenarioPlayback droppedWithQueue system hrun).delivered hended call hcall 0
    (.ok ()) hnumber hreturned).1
  rw [hcompleted] at hdelivered
  cases hdelivered

end SkyAutoPlayer.Desktop
