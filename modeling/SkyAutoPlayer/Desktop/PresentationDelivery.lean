import SkyAutoPlayer.Desktop.PresentationQueue

/-!
# Every completion runs once

A completion is made with a finalization and moves from its publisher through the queue to the worker,
or back to whoever rejects it, until it has run. So it is always at exactly one place, unless the worker
drops it with the queue. That happens when a publisher finds the queue open, the worker looks at the
queue for the last time, and only then the message is put in.
-/

namespace SkyAutoPlayer.Desktop

open Foundation

/-- The number of the completion that a message carries. -/
def PresentationMessage.numbers (message : PresentationMessage) : List ℕ :=
  (message.completion?.map PresentationCompletion.number).toList

/-- The number of the completion that a publisher still has to run or to hand over. -/
def PublisherPhase.numbers : PublisherPhase → List ℕ
  | .checking message | .sending message | .failing message _ _ | .reporting message _ =>
    message.numbers
  | .completing completion _ _ => [completion.number]
  | _ => []

/-- The number of the completion that a worker works on. -/
def WorkerPhase.numbers : WorkerPhase → List ℕ
  | .admitting message => message.numbers
  | .finalizing completion _ | .completing completion _ _ => [completion.number]
  | _ => []

/-- The numbers of the completions that a worker has taken. -/
def PresentationWorker.numbers (worker : PresentationWorker) : List ℕ :=
  (worker.pendingCritical.map PresentationMessage.numbers).getD [] ++ worker.phase.numbers

/-- The numbers of the completions that wait. -/
def waitingNumbers (messages : List PresentationMessage) : List ℕ :=
  messages.flatMap PresentationMessage.numbers

namespace PresentationState

/-- How often a completion waits in the queue or has run. -/
def count (state : PresentationState) (number : ℕ) : ℕ :=
  (waitingNumbers state.critical).count number + state.completed.count number

/-- Whether a completion has been made. -/
def issued (state : PresentationState) (number : ℕ) : ℕ := if number < state.boxed then 1 else 0

end PresentationState

variable {active : PresentedPlayback} {choice : PresentationChoice} {state after : PresentationState}
  {call next : PublisherCall} {worker moved : PresentationWorker}

@[simp] theorem waitingNumbers_nil : waitingNumbers [] = [] := rfl

@[simp] theorem waitingNumbers_cons {message : PresentationMessage}
    {messages : List PresentationMessage} :
    waitingNumbers (message :: messages) = message.numbers ++ waitingNumbers messages := rfl

@[simp] theorem waitingNumbers_append {messages others : List PresentationMessage} :
    waitingNumbers (messages ++ others) = waitingNumbers messages ++ waitingNumbers others :=
  List.flatMap_append

/-- A failure touches neither the queue nor what has run. -/
theorem recordFailure_frame {error : String} {stage : FailureStage} :
    (recordFailure choice error stage state).1.critical = state.critical ∧
      (recordFailure choice error stage state).1.completed = state.completed ∧
        (recordFailure choice error stage state).1.boxed = state.boxed ∧
          (recordFailure choice error stage state).1.activeSlot = state.activeSlot ∧
            (recordFailure choice error stage state).1.receiver = state.receiver := by
  cases stage with
  | failed | closed => exact ⟨rfl, rfl, rfl, rfl, rfl⟩
  | reason =>
    unfold recordFailure
    dsimp only
    split <;> exact ⟨rfl, rfl, rfl, rfl, rfl⟩

/-- A message that is refused hands its completion to its publisher. -/
theorem rejectMessage_numbers {message : PresentationMessage} {error : String} :
    (rejectMessage message error).numbers = message.numbers := by
  cases message <;> rfl

/-- A step of a completion leaves it where it is, or ends it. -/
theorem completionStep_cases {completion : PresentationCompletion} {phase : CompletionPhase}
    {run : PresentationState × Option CompletionPhase}
    (h : completionStep active choice completion phase state = run) :
    run.1.critical = state.critical ∧ run.1.boxed = state.boxed ∧
      run.1.receiver = state.receiver ∧
      ((run.2.isSome = true ∧ run.1.completed = state.completed ∧
          run.1.activeSlot = state.activeSlot) ∨
        (run.2 = none ∧ run.1.completed = state.completed ++ [completion.number] ∧
          run.1.activeSlot = none)) := by
  subst h
  cases phase with
  | reporting failed => exact ⟨rfl, rfl, rfl, .inl ⟨rfl, rfl, rfl⟩⟩
  | settling =>
    unfold completionStep
    dsimp only
    split <;> exact ⟨rfl, rfl, rfl, .inl ⟨rfl, rfl, rfl⟩⟩
  | clearing retirement =>
    unfold completionStep
    dsimp only
    split
    · exact ⟨rfl, rfl, rfl, .inr ⟨rfl, rfl, rfl⟩⟩
    · exact ⟨rfl, rfl, rfl, .inl ⟨rfl, rfl, rfl⟩⟩

/-- A step of a publisher makes a completion, moves it, or runs it. -/
theorem publisherStep_count (hstep : publisherStep active choice call state = some (after, next))
    (number : ℕ) :
    next.phase.numbers.count number + after.count number + state.issued number =
      call.phase.numbers.count number + state.count number + after.issued number := by
  unfold publisherStep at hstep
  cases hphase : call.phase with
  | ordering =>
    rw [hphase] at hstep
    have hordered : orderMessage call state = (after, next) := Option.some.inj hstep
    unfold orderMessage at hordered
    split at hordered
    case h_1 retirement attached _ =>
      split at hordered <;> obtain ⟨rfl, rfl⟩ := Prod.mk.inj hordered
      all_goals
        show [state.boxed].count number + state.count number + state.issued number =
          [].count number + state.count number + (if number < state.boxed + 1 then 1 else 0)
        unfold PresentationState.issued
        simp only [List.count_singleton, List.count_nil, beq_iff_eq]
        split <;> split <;> split <;> omega
    case h_2 =>
      obtain ⟨rfl, rfl⟩ := Prod.mk.inj hordered
      rfl
  | sending message =>
    rw [hphase] at hstep
    have hsent : sendMessage message call state = (after, next) := Option.some.inj hstep
    unfold sendMessage at hsent
    split at hsent
    · obtain ⟨rfl, rfl⟩ := Prod.mk.inj hsent
      rfl
    · split at hsent <;> obtain ⟨rfl, rfl⟩ := Prod.mk.inj hsent
      · rfl
      · show [].count number + ((waitingNumbers (state.critical ++ [message])).count number +
          state.completed.count number) + state.issued number =
            message.numbers.count number + state.count number + state.issued number
        unfold PresentationState.count
        rw [waitingNumbers_append, waitingNumbers_cons, waitingNumbers_nil, List.append_nil,
          List.count_append, List.count_nil]
        omega
  | failing message error stage =>
    rw [hphase] at hstep
    obtain ⟨rfl, rfl⟩ := Prod.mk.inj (Option.some.inj hstep)
    obtain ⟨hcritical, hcompleted, hboxed, -, -⟩ :=
      @recordFailure_frame choice state error stage
    unfold PresentationState.count PresentationState.issued
    rw [hcritical, hcompleted, hboxed]
    dsimp only
    split <;> rfl
  | completing completion phase error =>
    rw [hphase] at hstep
    obtain ⟨rfl, rfl⟩ := Prod.mk.inj (Option.some.inj hstep)
    obtain ⟨hcritical, hboxed, -, hrun⟩ :=
      completionStep_cases (rfl : completionStep active choice completion phase state = _)
    unfold PresentationState.count PresentationState.issued
    rw [hcritical, hboxed]
    rcases hrun with ⟨hsome, hcompleted, -⟩ | ⟨hnone, hcompleted, -⟩
    · obtain ⟨later, hlater⟩ := Option.isSome_iff_exists.mp hsome
      rw [hcompleted, hlater]
      rfl
    · rw [hcompleted, hnone, List.count_append]
      show [].count number + _ + _ = [completion.number].count number + _ + _
      rw [List.count_nil]
      omega
  | replacing order =>
    rw [hphase] at hstep
    dsimp only at hstep
    split at hstep <;> obtain ⟨rfl, rfl⟩ := Prod.mk.inj (Option.some.inj hstep) <;> rfl
  | asking =>
    rw [hphase] at hstep
    dsimp only at hstep
    split at hstep <;> obtain ⟨rfl, rfl⟩ := Prod.mk.inj (Option.some.inj hstep) <;> rfl
  | checking message =>
    rw [hphase] at hstep
    obtain ⟨rfl, rfl⟩ := Prod.mk.inj (Option.some.inj hstep)
    dsimp only
    split <;> rfl
  | reporting message error =>
    rw [hphase] at hstep
    obtain ⟨rfl, rfl⟩ := Prod.mk.inj (Option.some.inj hstep)
    rw [rejectMessage_numbers]
    rfl
  | offering =>
    rw [hphase] at hstep
    obtain ⟨rfl, rfl⟩ := Prod.mk.inj (Option.some.inj hstep)
    dsimp only
    split <;> rfl
  | numbering | playing =>
    rw [hphase] at hstep
    obtain ⟨rfl, rfl⟩ := Prod.mk.inj (Option.some.inj hstep)
    rfl
  | returned | offered | refused | «over» =>
    rw [hphase] at hstep
    cases hstep

/-- A worker that no longer looks at the message it has taken. -/
def WorkerPhase.PastPending : WorkerPhase → Prop
  | .receiving | .taking | .choosing | .frame _ | .failing _ _ | .reporting _ | .rejecting _ => False
  | _ => True

/-- No completion waits beside a worker that no longer looks, and a worker that has ended has dropped
its queue. -/
structure PresentationWorker.Sound (worker : PresentationWorker) (state : PresentationState) :
    Prop where
  pending : worker.phase.PastPending → ∀ message ∈ worker.pendingCritical, message.numbers = []
  ended : worker.phase = .ended →
    state.receiver = false ∧ state.critical = [] ∧ worker.pendingCritical = none

/-- What is counted at a worker. -/
theorem PresentationWorker.count_numbers (worker : PresentationWorker) (number : ℕ) :
    worker.numbers.count number =
      ((worker.pendingCritical.map PresentationMessage.numbers).getD []).count number +
        worker.phase.numbers.count number :=
  List.count_append

/-- A worker that chooses its work keeps what it has taken. -/
theorem chooseWork_count (number : ℕ) (hphase : worker.phase = .choosing) :
    worker.chooseWork.numbers.count number = worker.numbers.count number := by
  rw [worker.chooseWork.count_numbers, worker.count_numbers, hphase]
  unfold PresentationWorker.chooseWork
  cases hcritical : worker.pendingCritical with
  | none =>
    cases worker.pendingSnapshot with
    | none | some => rfl
  | some message =>
    cases worker.pendingSnapshot with
    | none => exact Nat.zero_add _
    | some order =>
      dsimp only
      split
      · exact Nat.zero_add _
      · rfl

/-- A frame carries no completion. -/
theorem frameStep_numbers {stage : FrameStage} :
    (frameStep choice worker state stage).numbers = [] := by
  unfold frameStep afterPublication
  cases stage <;> dsimp only <;> repeat' split
  all_goals rfl

/-- The end of a session keeps its completion. -/
theorem finalStep_numbers {completion : PresentationCompletion} {stage : FinalStage} :
    (finalStep choice state completion stage).numbers = [completion.number] := by
  unfold finalStep afterFinalPublication failFinalization
  cases stage <;> dsimp only <;> split <;> rfl

/-- A message that is admitted keeps its completion. -/
theorem admitMessage_numbers {message : PresentationMessage} :
    (admitMessage choice worker state message).numbers = message.numbers := by
  cases message with
  | state order =>
    unfold admitMessage
    dsimp only
    split
    · rfl
    · split <;> rfl
  | finalize order completion =>
    unfold admitMessage
    dsimp only
    split <;> rfl

/-- A message that is rejected keeps its completion. -/
theorem rejectedPhase_numbers {failure : WorkerFailure} {message : PresentationMessage} :
    (rejectedPhase failure message).numbers = message.numbers := by
  cases message <;> rfl

/-- Nothing is carried after a completion. -/
theorem AfterCompletion.phase_numbers (next : AfterCompletion) : next.phase.numbers = [] := by
  cases next <;> rfl

/-- Nothing is carried after a publication of a worker that carries nothing. -/
theorem afterPublication_numbers {answer : PublicationAnswer} :
    (afterPublication .receiving answer).numbers = [] := by
  cases answer <;> rfl

/-- A step of the worker moves a completion, or runs it. The worker that leaves drops none, when none
waits in the queue. -/
theorem workerStep_count (hsound : worker.Sound state)
    (hkept : worker.phase = .leaving → waitingNumbers state.critical = [])
    (hstep : workerStep active choice worker state = some (after, moved)) (number : ℕ) :
    after.boxed = state.boxed ∧
      moved.numbers.count number + after.count number =
        worker.numbers.count number + state.count number := by
  rw [moved.count_numbers, worker.count_numbers]
  unfold workerStep at hstep
  cases hphase : worker.phase with
  | receiving =>
    rw [hphase] at hstep
    dsimp only at hstep
    split at hstep
    case h_1 message rest hpending hcritical =>
      obtain ⟨rfl, rfl⟩ := Prod.mk.inj (Option.some.inj hstep)
      refine ⟨rfl, ?_⟩
      unfold PresentationState.count
      dsimp only
      rw [hcritical, hpending, waitingNumbers_cons, List.count_append]
      show message.numbers.count number + 0 + _ = 0 + 0 + _
      omega
    case h_2 =>
      obtain ⟨rfl, rfl⟩ := Prod.mk.inj (Option.some.inj hstep)
      exact ⟨rfl, rfl⟩
  | taking =>
    rw [hphase] at hstep
    dsimp only at hstep
    split at hstep <;> obtain ⟨rfl, rfl⟩ := Prod.mk.inj (Option.some.inj hstep) <;> exact ⟨rfl, rfl⟩
  | choosing =>
    rw [hphase] at hstep
    obtain ⟨rfl, rfl⟩ := Prod.mk.inj (Option.some.inj hstep)
    have hchosen := chooseWork_count number hphase
    rw [worker.chooseWork.count_numbers, worker.count_numbers, hphase] at hchosen
    exact ⟨rfl, congrArg (· + state.count number) hchosen⟩
  | idling =>
    rw [hphase] at hstep
    obtain ⟨rfl, rfl⟩ := Prod.mk.inj (Option.some.inj hstep)
    dsimp only
    split <;> exact ⟨rfl, rfl⟩
  | frame stage =>
    rw [hphase] at hstep
    obtain ⟨rfl, rfl⟩ := Prod.mk.inj (Option.some.inj hstep)
    dsimp only
    rw [frameStep_numbers]
    exact ⟨rfl, rfl⟩
  | admitting message =>
    rw [hphase] at hstep
    obtain ⟨rfl, rfl⟩ := Prod.mk.inj (Option.some.inj hstep)
    dsimp only
    rw [admitMessage_numbers]
    exact ⟨rfl, rfl⟩
  | stating =>
    rw [hphase] at hstep
    obtain ⟨rfl, rfl⟩ := Prod.mk.inj (Option.some.inj hstep)
    dsimp only
    rw [afterPublication_numbers]
    exact ⟨rfl, rfl⟩
  | finalizing completion stage =>
    rw [hphase] at hstep
    obtain ⟨rfl, rfl⟩ := Prod.mk.inj (Option.some.inj hstep)
    dsimp only
    rw [finalStep_numbers]
    exact ⟨rfl, rfl⟩
  | completing completion phase next =>
    rw [hphase] at hstep
    obtain ⟨rfl, rfl⟩ := Prod.mk.inj (Option.some.inj hstep)
    obtain ⟨hcritical, hboxed, -, hrun⟩ :=
      completionStep_cases (rfl : completionStep active choice completion phase state = _)
    refine ⟨hboxed, ?_⟩
    unfold PresentationState.count
    rw [hcritical]
    rcases hrun with ⟨hsome, hcompleted, -⟩ | ⟨hnone, hcompleted, -⟩
    · obtain ⟨later, hlater⟩ := Option.isSome_iff_exists.mp hsome
      rw [hcompleted, hlater]
      rfl
    · rw [hcompleted, hnone, List.count_append]
      dsimp only
      rw [next.phase_numbers, List.count_nil]
      show _ = _ + [completion.number].count number + _
      omega
  | closing =>
    rw [hphase] at hstep
    obtain ⟨rfl, rfl⟩ := Prod.mk.inj (Option.some.inj hstep)
    exact ⟨rfl, rfl⟩
  | recording error stage =>
    rw [hphase] at hstep
    obtain ⟨rfl, rfl⟩ := Prod.mk.inj (Option.some.inj hstep)
    obtain ⟨hcritical, hcompleted, hboxed, -, -⟩ :=
      @recordFailure_frame choice state error stage
    refine ⟨hboxed, ?_⟩
    unfold PresentationState.count
    rw [hcritical, hcompleted]
    dsimp only
    split <;> rfl
  | failing failure stage =>
    rw [hphase] at hstep
    obtain ⟨rfl, rfl⟩ := Prod.mk.inj (Option.some.inj hstep)
    obtain ⟨hcritical, hcompleted, hboxed, -, -⟩ :=
      @recordFailure_frame choice state failure.reason stage
    refine ⟨hboxed, ?_⟩
    unfold PresentationState.count
    rw [hcritical, hcompleted]
    dsimp only
    split <;> rfl
  | reporting failure =>
    rw [hphase] at hstep
    obtain ⟨rfl, rfl⟩ := Prod.mk.inj (Option.some.inj hstep)
    exact ⟨rfl, rfl⟩
  | rejecting failure =>
    rw [hphase] at hstep
    obtain ⟨rfl, rfl⟩ := Prod.mk.inj (Option.some.inj hstep)
    refine ⟨rfl, ?_⟩
    dsimp only
    cases worker.pendingCritical with
    | none => rfl
    | some message =>
      dsimp only
      rw [rejectedPhase_numbers]
      show 0 + message.numbers.count number + _ = message.numbers.count number + 0 + _
      omega
  | draining failure =>
    rw [hphase] at hstep
    dsimp only at hstep
    split at hstep
    case h_1 message rest hcritical =>
      obtain ⟨rfl, rfl⟩ := Prod.mk.inj (Option.some.inj hstep)
      refine ⟨rfl, ?_⟩
      unfold PresentationState.count
      dsimp only
      rw [hcritical, rejectedPhase_numbers, waitingNumbers_cons, List.count_append]
      show _ + _ + _ = _ + 0 + _
      omega
    case h_2 =>
      obtain ⟨rfl, rfl⟩ := Prod.mk.inj (Option.some.inj hstep)
      exact ⟨rfl, rfl⟩
  | leaving =>
    rw [hphase] at hstep
    obtain ⟨rfl, rfl⟩ := Prod.mk.inj (Option.some.inj hstep)
    refine ⟨rfl, ?_⟩
    unfold PresentationState.count
    rw [hkept hphase]
    have hpending := hsound.pending (by rw [hphase]; trivial)
    cases hcritical : worker.pendingCritical with
    | none => rfl
    | some message =>
      rw [Option.map_some, Option.getD_some, hpending message hcritical]
      rfl
  | ended =>
    rw [hphase] at hstep
    cases hstep

/-- A frame ends the worker only when no one holds the session, and does not stop it at once. -/
theorem frameStep_past {stage : FrameStage} :
    frameStep choice worker state stage ≠ .ended ∧
      ((frameStep choice worker state stage).PastPending → sessionAlive choice worker state = false) := by
  unfold frameStep afterPublication
  cases stage with
  | projecting =>
    dsimp only
    split
    case isTrue hgone => exact ⟨nofun, fun _ => hgone⟩
    · split <;> exact ⟨nofun, nofun⟩
  | checking =>
    dsimp only
    split <;> exact ⟨nofun, nofun⟩
  | publishing | diagnosing =>
    dsimp only
    split
    · exact ⟨nofun, nofun⟩
    · split <;> exact ⟨nofun, nofun⟩

/-- The end of a session does not stop the worker at once. -/
theorem finalStep_ne_ended {completion : PresentationCompletion} {stage : FinalStage} :
    finalStep choice state completion stage ≠ .ended := by
  unfold finalStep afterFinalPublication failFinalization
  cases stage <;> dsimp only <;> split <;> exact nofun

/-- A message that is admitted does not stop the worker at once. -/
theorem admitMessage_ne_ended {message : PresentationMessage} :
    admitMessage choice worker state message ≠ .ended := by
  unfold admitMessage
  cases message with
  | state order =>
    dsimp only
    split
    · exact nofun
    · split <;> exact nofun
  | finalize order completion =>
    dsimp only
    split <;> exact nofun

/-- A message that is rejected does not stop the worker at once. -/
theorem rejectedPhase_ne_ended {failure : WorkerFailure} {message : PresentationMessage} :
    rejectedPhase failure message ≠ .ended := by
  cases message <;> exact nofun

/-- A publication does not stop the worker at once. -/
theorem afterPublication_ne_ended {answer : PublicationAnswer} :
    afterPublication .receiving answer ≠ .ended := by
  cases answer <;> exact nofun

/-- A completion does not stop the worker at once. -/
theorem AfterCompletion.phase_ne_ended (next : AfterCompletion) : next.phase ≠ .ended := by
  cases next <;> exact nofun

/-- A session that no one holds has no completion with the worker. -/
theorem numbers_of_not_alive (h : sessionAlive choice worker state = false) :
    ∀ message ∈ worker.pendingCritical, message.numbers = [] := by
  intro message hmessage
  unfold sessionAlive at h
  rw [Option.mem_def.mp hmessage] at h
  cases message with
  | state order => rfl
  | finalize order completion => simp [PresentationMessage.completion?] at h

/-- A step of the worker keeps it sound. -/
theorem workerStep_sound (hsound : worker.Sound state)
    (hstep : workerStep active choice worker state = some (after, moved)) : moved.Sound after := by
  have hnone : ∀ message ∈ (none : Option PresentationMessage), message.numbers = [] := nofun
  unfold workerStep at hstep
  cases hphase : worker.phase with
  | receiving =>
    rw [hphase] at hstep
    dsimp only at hstep
    split at hstep <;> obtain ⟨rfl, rfl⟩ := Prod.mk.inj (Option.some.inj hstep) <;>
      exact ⟨nofun, nofun⟩
  | taking =>
    rw [hphase] at hstep
    dsimp only at hstep
    split at hstep <;> obtain ⟨rfl, rfl⟩ := Prod.mk.inj (Option.some.inj hstep) <;>
      exact ⟨nofun, nofun⟩
  | choosing =>
    rw [hphase] at hstep
    obtain ⟨rfl, rfl⟩ := Prod.mk.inj (Option.some.inj hstep)
    unfold PresentationWorker.chooseWork
    cases hcritical : worker.pendingCritical with
    | none =>
      cases worker.pendingSnapshot with
      | none => exact ⟨fun _ => hnone, nofun⟩
      | some order => exact ⟨nofun, nofun⟩
    | some message =>
      cases worker.pendingSnapshot with
      | none => exact ⟨fun _ => hnone, nofun⟩
      | some order =>
        dsimp only
        split
        · exact ⟨fun _ => hnone, nofun⟩
        · exact ⟨nofun, nofun⟩
  | frame stage =>
    rw [hphase] at hstep
    obtain ⟨rfl, rfl⟩ := Prod.mk.inj (Option.some.inj hstep)
    exact ⟨fun hpast => numbers_of_not_alive (frameStep_past.2 hpast),
      fun hended => absurd hended frameStep_past.1⟩
  | failing failure stage =>
    rw [hphase] at hstep
    obtain ⟨rfl, rfl⟩ := Prod.mk.inj (Option.some.inj hstep)
    split <;> exact ⟨nofun, nofun⟩
  | reporting failure =>
    rw [hphase] at hstep
    obtain ⟨rfl, rfl⟩ := Prod.mk.inj (Option.some.inj hstep)
    exact ⟨nofun, nofun⟩
  | rejecting failure =>
    rw [hphase] at hstep
    obtain ⟨rfl, rfl⟩ := Prod.mk.inj (Option.some.inj hstep)
    refine ⟨fun _ => hnone, fun hended => ?_⟩
    dsimp only at hended
    split at hended
    · exact absurd hended rejectedPhase_ne_ended
    · cases hended
  | draining failure =>
    have hpending := hsound.pending (by rw [hphase]; trivial)
    rw [hphase] at hstep
    dsimp only at hstep
    split at hstep <;> obtain ⟨rfl, rfl⟩ := Prod.mk.inj (Option.some.inj hstep)
    · exact ⟨fun _ => hpending, fun hended => absurd hended rejectedPhase_ne_ended⟩
    · exact ⟨fun _ => hpending, nofun⟩
  | idling =>
    have hpending := hsound.pending (by rw [hphase]; trivial)
    rw [hphase] at hstep
    obtain ⟨rfl, rfl⟩ := Prod.mk.inj (Option.some.inj hstep)
    split <;> exact ⟨fun _ => hpending, nofun⟩
  | admitting message =>
    have hpending := hsound.pending (by rw [hphase]; trivial)
    rw [hphase] at hstep
    obtain ⟨rfl, rfl⟩ := Prod.mk.inj (Option.some.inj hstep)
    exact ⟨fun _ => hpending, fun hended => absurd hended admitMessage_ne_ended⟩
  | stating =>
    have hpending := hsound.pending (by rw [hphase]; trivial)
    rw [hphase] at hstep
    obtain ⟨rfl, rfl⟩ := Prod.mk.inj (Option.some.inj hstep)
    exact ⟨fun _ => hpending, fun hended => absurd hended afterPublication_ne_ended⟩
  | finalizing completion stage =>
    have hpending := hsound.pending (by rw [hphase]; trivial)
    rw [hphase] at hstep
    obtain ⟨rfl, rfl⟩ := Prod.mk.inj (Option.some.inj hstep)
    exact ⟨fun _ => hpending, fun hended => absurd hended finalStep_ne_ended⟩
  | completing completion phase next =>
    have hpending := hsound.pending (by rw [hphase]; trivial)
    rw [hphase] at hstep
    obtain ⟨rfl, rfl⟩ := Prod.mk.inj (Option.some.inj hstep)
    refine ⟨fun _ => hpending, fun hended => ?_⟩
    dsimp only at hended
    split at hended
    · cases hended
    · exact absurd hended next.phase_ne_ended
  | closing =>
    have hpending := hsound.pending (by rw [hphase]; trivial)
    rw [hphase] at hstep
    obtain ⟨rfl, rfl⟩ := Prod.mk.inj (Option.some.inj hstep)
    exact ⟨fun _ => hpending, nofun⟩
  | recording error stage =>
    have hpending := hsound.pending (by rw [hphase]; trivial)
    rw [hphase] at hstep
    obtain ⟨rfl, rfl⟩ := Prod.mk.inj (Option.some.inj hstep)
    split <;> exact ⟨fun _ => hpending, nofun⟩
  | leaving =>
    rw [hphase] at hstep
    obtain ⟨rfl, rfl⟩ := Prod.mk.inj (Option.some.inj hstep)
    exact ⟨fun _ => hnone, fun _ => ⟨rfl, rfl, rfl⟩⟩
  | ended =>
    rw [hphase] at hstep
    cases hstep

/-- A publisher holds no completion but its own, and none before it has made it. -/
structure PublisherCall.Sound (call : PublisherCall) : Prop where
  ordering : call.phase = .ordering → call.number = none
  numbers : ∀ number ∈ call.phase.numbers, call.number = some number

/-- A message carries one completion at most. -/
theorem PresentationMessage.numbers_length (message : PresentationMessage) :
    message.numbers.length ≤ 1 := by
  cases message with
  | state order => exact Nat.zero_le 1
  | finalize order completion => exact le_rfl

/-- A publisher holds one completion at most. -/
theorem PublisherPhase.numbers_length (phase : PublisherPhase) : phase.numbers.length ≤ 1 := by
  cases phase with
  | checking message | sending message | failing message | reporting message =>
    exact message.numbers_length
  | completing => exact le_rfl
  | ordering | returned | offering | numbering | replacing | offered | asking | refused | playing
  | «over» => exact Nat.zero_le 1

/-- A publisher holds a completion no more often than it has made it. -/
theorem PublisherCall.Sound.count_le (h : call.Sound) (number : ℕ) :
    call.phase.numbers.count number ≤ call.number.toList.count number := by
  by_cases hmem : number ∈ call.phase.numbers
  · have hlength := call.phase.numbers_length
    have hcount : call.phase.numbers.count number ≤ call.phase.numbers.length := List.count_le_length
    rw [h.numbers number hmem, Option.toList_some, List.count_singleton_self]
    omega
  · rw [List.count_eq_zero.mpr hmem]
    exact Nat.zero_le _

/-- A message that is refused is not ordered anew. -/
theorem rejectMessage_ne_ordering {message : PresentationMessage} {error : String} :
    rejectMessage message error ≠ .ordering := by
  cases message <;> exact nofun

/-- A step of a publisher keeps it sound. -/
theorem publisherStep_sound (hsound : call.Sound)
    (hstep : publisherStep active choice call state = some (after, next)) :
    next.Sound ∧ ∀ number, next.number.toList.count number + state.issued number =
      call.number.toList.count number + after.issued number := by
  have hnumbers := hsound.numbers
  unfold publisherStep at hstep
  cases hphase : call.phase with
  | ordering =>
    have hnone := hsound.ordering hphase
    rw [hphase] at hstep
    have hordered : orderMessage call state = (after, next) := Option.some.inj hstep
    unfold orderMessage at hordered
    split at hordered
    case h_1 retirement attached _ =>
      have hissued (number : ℕ) : [state.boxed].count number + state.issued number =
          [].count number + (if number < state.boxed + 1 then 1 else 0) := by
        unfold PresentationState.issued
        simp only [List.count_singleton, List.count_nil, beq_iff_eq]
        split <;> split <;> split <;> omega
      split at hordered <;> obtain ⟨rfl, rfl⟩ := Prod.mk.inj hordered
      all_goals
        rw [hnone]
        refine ⟨⟨nofun, fun number hnumber => ?_⟩, hissued⟩
        rw [List.mem_singleton.mp hnumber]
    case h_2 =>
      obtain ⟨rfl, rfl⟩ := Prod.mk.inj hordered
      exact ⟨⟨nofun, nofun⟩, fun _ => rfl⟩
  | sending message =>
    rw [hphase] at hstep hnumbers
    have hsent : sendMessage message call state = (after, next) := Option.some.inj hstep
    unfold sendMessage at hsent
    split at hsent
    · obtain ⟨rfl, rfl⟩ := Prod.mk.inj hsent
      exact ⟨⟨nofun, hnumbers⟩, fun _ => rfl⟩
    · split at hsent <;> obtain ⟨rfl, rfl⟩ := Prod.mk.inj hsent
      · exact ⟨⟨nofun, hnumbers⟩, fun _ => rfl⟩
      · exact ⟨⟨nofun, nofun⟩, fun _ => rfl⟩
  | failing message error stage =>
    rw [hphase] at hstep hnumbers
    obtain ⟨rfl, rfl⟩ := Prod.mk.inj (Option.some.inj hstep)
    have hboxed := (@recordFailure_frame choice state error stage).2.2.1
    refine ⟨?_, fun number => ?_⟩
    · split <;> exact ⟨nofun, hnumbers⟩
    · unfold PresentationState.issued
      rw [hboxed]
  | completing completion phase error =>
    rw [hphase] at hstep hnumbers
    obtain ⟨rfl, rfl⟩ := Prod.mk.inj (Option.some.inj hstep)
    have hboxed :=
      (completionStep_cases (rfl : completionStep active choice completion phase state = _)).2.1
    refine ⟨?_, fun number => ?_⟩
    · split
      · exact ⟨nofun, hnumbers⟩
      · exact ⟨nofun, nofun⟩
    · unfold PresentationState.issued
      rw [hboxed]
  | checking message =>
    rw [hphase] at hstep hnumbers
    obtain ⟨rfl, rfl⟩ := Prod.mk.inj (Option.some.inj hstep)
    refine ⟨?_, fun _ => rfl⟩
    split <;> exact ⟨nofun, hnumbers⟩
  | reporting message error =>
    rw [hphase] at hstep hnumbers
    obtain ⟨rfl, rfl⟩ := Prod.mk.inj (Option.some.inj hstep)
    refine ⟨⟨fun h => absurd h rejectMessage_ne_ordering, ?_⟩, fun _ => rfl⟩
    rw [rejectMessage_numbers]
    exact hnumbers
  | offering =>
    rw [hphase] at hstep
    obtain ⟨rfl, rfl⟩ := Prod.mk.inj (Option.some.inj hstep)
    refine ⟨?_, fun _ => rfl⟩
    split <;> exact ⟨nofun, nofun⟩
  | numbering | playing =>
    rw [hphase] at hstep
    obtain ⟨rfl, rfl⟩ := Prod.mk.inj (Option.some.inj hstep)
    exact ⟨⟨nofun, nofun⟩, fun _ => rfl⟩
  | replacing | asking =>
    rw [hphase] at hstep
    dsimp only at hstep
    split at hstep <;> obtain ⟨rfl, rfl⟩ := Prod.mk.inj (Option.some.inj hstep) <;>
      exact ⟨⟨nofun, nofun⟩, fun _ => rfl⟩
  | returned | offered | refused | «over» =>
    rw [hphase] at hstep
    cases hstep

/-- No completion has run to its end while the slot still holds the session. -/
def PresentationState.Settled (state : PresentationState) : Prop :=
  state.activeSlot = some .presented → state.completed = []

/-- What an operation leaves alone. -/
structure PublisherFrame (state after : PresentationState) : Prop where
  receiver : after.receiver = state.receiver
  critical : state.receiver = false → after.critical = state.critical
  settled : state.Settled → after.Settled

/-- A publisher puts nothing into a queue that is gone, and leaves a cleared slot cleared. -/
theorem publisherStep_frame (hstep : publisherStep active choice call state = some (after, next)) :
    PublisherFrame state after := by
  unfold publisherStep at hstep
  cases hphase : call.phase with
  | ordering =>
    rw [hphase] at hstep
    have hordered : orderMessage call state = (after, next) := Option.some.inj hstep
    unfold orderMessage at hordered
    split at hordered
    case h_1 =>
      split at hordered <;> obtain ⟨rfl, rfl⟩ := Prod.mk.inj hordered <;> exact ⟨rfl, fun _ => rfl, id⟩
    case h_2 =>
      obtain ⟨rfl, rfl⟩ := Prod.mk.inj hordered
      exact ⟨rfl, fun _ => rfl, id⟩
  | sending message =>
    rw [hphase] at hstep
    have hsent : sendMessage message call state = (after, next) := Option.some.inj hstep
    unfold sendMessage at hsent
    split at hsent
    · obtain ⟨rfl, rfl⟩ := Prod.mk.inj hsent
      exact ⟨rfl, fun _ => rfl, id⟩
    case isFalse hreceiver =>
      split at hsent <;> obtain ⟨rfl, rfl⟩ := Prod.mk.inj hsent
      · exact ⟨rfl, fun _ => rfl, id⟩
      · exact ⟨rfl, fun h => absurd h hreceiver, id⟩
  | failing message error stage =>
    rw [hphase] at hstep
    obtain ⟨rfl, rfl⟩ := Prod.mk.inj (Option.some.inj hstep)
    obtain ⟨hcritical, hcompleted, -, hslot, hreceiver⟩ :=
      @recordFailure_frame choice state error stage
    refine ⟨hreceiver, fun _ => hcritical, fun hsettled hpresented => ?_⟩
    rw [hcompleted]
    exact hsettled (hslot ▸ hpresented)
  | completing completion phase error =>
    rw [hphase] at hstep
    obtain ⟨rfl, rfl⟩ := Prod.mk.inj (Option.some.inj hstep)
    obtain ⟨hcritical, -, hreceiver, hrun⟩ :=
      completionStep_cases (rfl : completionStep active choice completion phase state = _)
    refine ⟨hreceiver, fun _ => hcritical, fun hsettled hpresented => ?_⟩
    rcases hrun with ⟨-, hcompleted, hslot⟩ | ⟨-, -, hslot⟩
    · rw [hcompleted]
      exact hsettled (hslot ▸ hpresented)
    · rw [hslot] at hpresented
      cases hpresented
  | checking | reporting | offering | numbering =>
    rw [hphase] at hstep
    obtain ⟨rfl, rfl⟩ := Prod.mk.inj (Option.some.inj hstep)
    exact ⟨rfl, fun _ => rfl, id⟩
  | replacing =>
    rw [hphase] at hstep
    dsimp only at hstep
    split at hstep <;> obtain ⟨rfl, rfl⟩ := Prod.mk.inj (Option.some.inj hstep) <;>
      exact ⟨rfl, fun _ => rfl, id⟩
  | asking =>
    rw [hphase] at hstep
    dsimp only at hstep
    split at hstep <;> obtain ⟨rfl, rfl⟩ := Prod.mk.inj (Option.some.inj hstep)
    · exact ⟨rfl, fun _ => rfl, id⟩
    · exact ⟨rfl, fun _ => rfl, fun _ => nofun⟩
  | playing =>
    rw [hphase] at hstep
    obtain ⟨rfl, rfl⟩ := Prod.mk.inj (Option.some.inj hstep)
    refine ⟨rfl, fun _ => rfl, fun hsettled hpresented => hsettled ?_⟩
    dsimp only at hpresented
    split at hpresented
    · cases hpresented
    · exact hpresented
  | returned | offered | refused | «over» =>
    rw [hphase] at hstep
    cases hstep

/-- The worker leaves a cleared slot cleared. -/
theorem workerStep_settled (hsettled : state.Settled)
    (hstep : workerStep active choice worker state = some (after, moved)) : after.Settled := by
  unfold workerStep at hstep
  cases hphase : worker.phase with
  | receiving | taking | draining =>
    rw [hphase] at hstep
    dsimp only at hstep
    split at hstep <;> obtain ⟨rfl, rfl⟩ := Prod.mk.inj (Option.some.inj hstep) <;> exact hsettled
  | completing completion phase next =>
    rw [hphase] at hstep
    obtain ⟨rfl, rfl⟩ := Prod.mk.inj (Option.some.inj hstep)
    obtain ⟨-, -, -, hrun⟩ :=
      completionStep_cases (rfl : completionStep active choice completion phase state = _)
    intro hpresented
    rcases hrun with ⟨-, hcompleted, hslot⟩ | ⟨-, -, hslot⟩
    · rw [hcompleted]
      exact hsettled (hslot ▸ hpresented)
    · rw [hslot] at hpresented
      cases hpresented
  | recording error stage =>
    rw [hphase] at hstep
    obtain ⟨rfl, rfl⟩ := Prod.mk.inj (Option.some.inj hstep)
    obtain ⟨-, hcompleted, -, hslot, -⟩ := @recordFailure_frame choice state error stage
    intro hpresented
    rw [hcompleted]
    exact hsettled (hslot ▸ hpresented)
  | failing failure stage =>
    rw [hphase] at hstep
    obtain ⟨rfl, rfl⟩ := Prod.mk.inj (Option.some.inj hstep)
    obtain ⟨-, hcompleted, -, hslot, -⟩ := @recordFailure_frame choice state failure.reason stage
    intro hpresented
    rw [hcompleted]
    exact hsettled (hslot ▸ hpresented)
  | choosing | idling | frame | admitting | stating | finalizing | closing | reporting | rejecting
  | leaving =>
    rw [hphase] at hstep
    obtain ⟨rfl, rfl⟩ := Prod.mk.inj (Option.some.inj hstep)
    exact hsettled
  | ended =>
    rw [hphase] at hstep
    cases hstep

/-- Every completion that was made belongs to one call and is at one place. -/
structure PresentationSystem.Sound (system : PresentationSystem) : Prop where
  worker : system.worker.Sound system.pool.shared
  settled : system.pool.shared.Settled
  calls : ∀ call ∈ system.pool.calls, call.Sound
  numbered : ∀ number, (system.pool.calls.map fun call => call.number.toList.count number).sum =
    system.pool.shared.issued number
  placed : ∀ number, (system.pool.calls.map fun call => call.phase.numbers.count number).sum +
    system.worker.numbers.count number + system.pool.shared.count number =
      system.pool.shared.issued number

/-- When the worker leaves, no finalization waits in the queue. -/
def NoneDropped (system : PresentationSystem) : PresentationAction → Prop
  | .publish _ => True
  | .work _ => system.worker.phase = .leaving →
    ∀ message ∈ system.pool.shared.critical, message.completion? = none

instance (system : PresentationSystem) :
    (action : PresentationAction) → Decidable (NoneDropped system action)
  | .publish _ => isTrue trivial
  | .work _ => inferInstanceAs (Decidable (_ → _))

/-- Messages without completions carry no number. -/
theorem waitingNumbers_eq_nil {messages : List PresentationMessage}
    (h : ∀ message ∈ messages, message.completion? = none) : waitingNumbers messages = [] := by
  refine List.flatMap_eq_nil_iff.mpr fun message hmessage => ?_
  unfold PresentationMessage.numbers
  rw [h message hmessage]
  rfl

/-- An operation that begins carries no completion. -/
theorem publisherStart_sound (op : PublisherOp) :
    (publisherStart op).Sound ∧ (publisherStart op).number = none ∧
      (publisherStart op).phase.numbers = [] := by
  cases op <;> exact ⟨⟨fun _ => rfl, nofun⟩, rfl, rfl⟩

variable {system reached : PresentationSystem}

/-- An operation that begins keeps every completion at its place. -/
theorem PresentationSystem.Sound.begin (h : system.Sound) (op : PublisherOp) :
    PresentationSystem.Sound
      ⟨⟨system.pool.shared, system.pool.calls ++ [publisherStart op]⟩, system.worker⟩ := by
  obtain ⟨hsound, hnumber, hnumbers⟩ := publisherStart_sound op
  refine ⟨h.worker, h.settled, ?_, fun number => ?_, fun number => ?_⟩
  · intro call hcall
    rcases List.mem_append.mp hcall with hold | hnew
    · exact h.calls call hold
    · rw [List.mem_singleton.mp hnew]
      exact hsound
  · rw [List.map_append, List.sum_append, h.numbered, List.map_singleton, hnumber]
    rfl
  · rw [List.map_append, List.sum_append, List.map_singleton, hnumbers]
    exact h.placed number

/-- An operation that makes a step keeps every completion at one place. -/
theorem PresentationSystem.Sound.publish (h : system.Sound) {index : ℕ}
    (hcall : system.pool.calls[index]? = some call)
    (hstep : publisherStep active choice call system.pool.shared = some (after, next)) :
    PresentationSystem.Sound ⟨⟨after, system.pool.calls.set index next⟩, system.worker⟩ := by
  obtain ⟨hsound, hmade⟩ :=
    publisherStep_sound (h.calls call (List.mem_of_getElem? hcall)) hstep
  have hframe := publisherStep_frame hstep
  constructor
  · refine ⟨h.worker.pending, fun hended => ?_⟩
    obtain ⟨hreceiver, hcritical, hpending⟩ := h.worker.ended hended
    exact ⟨hframe.receiver.trans hreceiver, (hframe.critical hreceiver).trans hcritical, hpending⟩
  · exact hframe.settled h.settled
  · exact forall_mem_set h.calls hsound
  · intro number
    have hsum := @sum_map_set_add _ _ _ _ next (fun call : PublisherCall =>
      call.number.toList.count number) hcall
    have hbefore := h.numbered number
    have hmoved := hmade number
    dsimp only at hsum ⊢
    omega
  · intro number
    have hsum := @sum_map_set_add _ _ _ _ next (fun call : PublisherCall =>
      call.phase.numbers.count number) hcall
    have hbefore := h.placed number
    have hmoved := publisherStep_count hstep number
    dsimp only at hsum ⊢
    omega

/-- The worker keeps every completion at one place, unless it drops one with the queue. -/
theorem PresentationSystem.Sound.work (h : system.Sound)
    (hkept : system.worker.phase = .leaving →
      ∀ message ∈ system.pool.shared.critical, message.completion? = none)
    (hstep : workerStep active choice system.worker system.pool.shared = some (after, moved)) :
    PresentationSystem.Sound ⟨⟨after, system.pool.calls⟩, moved⟩ := by
  have hcount := workerStep_count h.worker (fun hleaving => waitingNumbers_eq_nil (hkept hleaving)) hstep
  have hissued (number : ℕ) : after.issued number = system.pool.shared.issued number := by
    unfold PresentationState.issued
    rw [(hcount number).1]
  refine ⟨workerStep_sound h.worker hstep, workerStep_settled h.settled hstep, h.calls,
    fun number => ?_, fun number => ?_⟩
  · rw [hissued]
    exact h.numbered number
  · have hmoved := (hcount number).2
    have hbefore := h.placed number
    have hsame := hissued number
    dsimp only at hmoved ⊢
    omega

/-- Every completion is at one place after a run in which the worker drops none. -/
theorem sound_of_run {actions : List PresentationAction}
    (hrun : (presentationMachine active).run system actions = some reached)
    (hmeets : (presentationMachine active).Meets NoneDropped system actions) (h : system.Sound) :
    reached.Sound := by
  refine Machine.run_preserves_of_meets ?_ hrun hmeets h
  intro before action later hcondition hbefore hmade
  cases action with
  | publish action =>
    obtain ⟨pool, hpool, rfl⟩ := Option.map_eq_some_iff.mp hmade
    rcases CallProgram.poolStep_cases hpool with
      ⟨op, rfl, rfl⟩ | ⟨index, choice, call, shared, next, rfl, hcall, hcallStep, rfl⟩
    · exact hbefore.begin op
    · exact hbefore.publish hcall hcallStep
  | work choice =>
    obtain ⟨⟨shared, worker⟩, hworked, rfl⟩ := Option.map_eq_some_iff.mp hmade
    exact hbefore.work hcondition hworked

/-- A presentation that has just begun has made no completion. -/
theorem sound_initial : (presentationMachine active).initial.Sound where
  worker := ⟨nofun, nofun⟩
  settled _ := rfl
  calls _ hcall := absurd hcall List.not_mem_nil
  numbered _ := rfl
  placed _ := rfl

/-- Every finalization runs its completion once: never twice, and by the time that its call has
returned and the worker has ended. Then the slot no longer holds the session. -/
structure PresentationSystem.Delivers (system : PresentationSystem) : Prop where
  once : ∀ number, system.pool.shared.completed.count number ≤ 1
  delivered : system.worker.phase = .ended → ∀ call ∈ system.pool.calls, ∀ number result,
    call.number = some number → call.phase = .returned result →
      system.pool.shared.completed.count number = 1 ∧
        system.pool.shared.activeSlot ≠ some .presented

/-- A completion that is at one place runs once. -/
theorem PresentationSystem.Sound.delivers (h : system.Sound) : system.Delivers := by
  constructor
  · intro number
    have hplaced := h.placed number
    have hissued : system.pool.shared.issued number ≤ 1 := by
      unfold PresentationState.issued
      split <;> omega
    unfold PresentationState.count at hplaced
    omega
  · intro hended call hcall number result hnumber hreturned
    obtain ⟨-, hcritical, hpending⟩ := h.worker.ended hended
    have hbound := @sum_map_add_le _ _ call
      (fun call : PublisherCall => call.phase.numbers.count number)
      (fun call : PublisherCall => call.number.toList.count number) ?_ hcall ?_
    · have hplaced := h.placed number
      have hnumbered := h.numbered number
      have hissued : system.pool.shared.issued number ≤ 1 := by
        unfold PresentationState.issued
        split <;> omega
      have hworker : system.worker.numbers = [] := by
        unfold PresentationWorker.numbers
        rw [hpending, hended]
        rfl
      have hown : call.number.toList.count number = 1 := by simp [hnumber]
      unfold PresentationState.count at hplaced
      rw [hworker, hcritical, waitingNumbers_nil, List.count_nil] at hplaced
      have hone : system.pool.shared.completed.count number = 1 := by
        omega
      refine ⟨hone, fun hpresented => ?_⟩
      rw [h.settled hpresented, List.count_nil] at hone
      cases hone
    · exact fun other hother => (h.calls other hother).count_le number
    · simp [hreturned, PublisherPhase.numbers]

end SkyAutoPlayer.Desktop
