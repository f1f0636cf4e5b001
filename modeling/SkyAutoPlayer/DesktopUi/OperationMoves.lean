import SkyAutoPlayer.DesktopUi.SessionMoves
import Mathlib.Order.Nat

/-!
# What a turn makes of the operation

An operation is timed when its timer runs under its own number. A turn keeps the operation with its number,
its timer and the token of the reconciliation, or it leaves the operation timed or none. Numbers and tokens
only grow, and as long as the number stays the operation does.
-/

namespace SkyAutoPlayer.DesktopUi

open Foundation PlaybackStore

/-- The timer runs for the present operation under its number, and for none where there is none. -/
def PlaybackStore.Timed (store : PlaybackStore) : Prop :=
  store.transportOperationTimer =
    store.playback.transportOperation.map fun operation => (store.transportOperationEpoch, operation)

/-- A turn keeps the operation, its number, its timer and the token. -/
structure OperationKept (before after : PlaybackStore) : Prop where
  operation : after.playback.transportOperation = before.playback.transportOperation
  epoch : after.transportOperationEpoch = before.transportOperationEpoch
  timer : after.transportOperationTimer = before.transportOperationTimer
  token : after.playbackReconciliationEpoch = before.playbackReconciliationEpoch
  terminal : ∀ timer ∈ after.terminalReconciliationTimer, timer ∈ before.terminalReconciliationTimer

/-- Numbers and tokens grow, and as long as the number stays the operation does. -/
structure NumbersGrow (before after : PlaybackStore) : Prop where
  epoch_le : before.transportOperationEpoch ≤ after.transportOperationEpoch
  same : after.transportOperationEpoch = before.transportOperationEpoch →
    after.playback.transportOperation = before.playback.transportOperation
  token_le : before.playbackReconciliationEpoch ≤ after.playbackReconciliationEpoch

/-- What a turn makes of the operation. -/
structure OperationMove (before after : PlaybackStore) : Prop extends NumbersGrow before after where
  terminal : ∀ timer ∈ after.terminalReconciliationTimer,
    timer ∈ before.terminalReconciliationTimer ∨ timer.token ≤ after.playbackReconciliationEpoch
  timed : OperationKept before after ∨ after.Timed

section Moves

variable {before middle after : PlaybackStore}

/-- Nothing is done. -/
theorem OperationKept.refl (store : PlaybackStore) : OperationKept store store :=
  ⟨rfl, rfl, rfl, rfl, fun _ h => h⟩

/-- What keeps a timed operation leaves it timed. -/
theorem OperationKept.keeps_timed (kept : OperationKept before after) (h : before.Timed) :
    after.Timed := by
  unfold Timed at h ⊢
  rw [kept.operation, kept.epoch, kept.timer]
  exact h

/-- One thing is done after another. -/
theorem OperationKept.trans (first : OperationKept before middle) (second : OperationKept middle after) :
    OperationKept before after where
  operation := second.operation.trans first.operation
  epoch := second.epoch.trans first.epoch
  timer := second.timer.trans first.timer
  token := second.token.trans first.token
  terminal timer h := first.terminal timer (second.terminal timer h)

/-- What keeps the operation is a move. -/
theorem OperationKept.move (kept : OperationKept before after) : OperationMove before after where
  epoch_le := kept.epoch.ge
  same _ := kept.operation
  token_le := kept.token.ge
  terminal timer h := .inl (kept.terminal timer h)
  timed := .inl kept

/-- Nothing is done. -/
theorem OperationMove.refl (store : PlaybackStore) : OperationMove store store :=
  (OperationKept.refl store).move

/-- One move is made after another. -/
theorem OperationMove.trans (first : OperationMove before middle) (second : OperationMove middle after) :
    OperationMove before after where
  epoch_le := first.epoch_le.trans second.epoch_le
  same h := by
    have hfirst := first.epoch_le
    have hsecond := second.epoch_le
    rw [second.same (by omega), first.same (by omega)]
  token_le := first.token_le.trans second.token_le
  terminal timer h := by
    rcases second.terminal timer h with hmiddle | hnew
    · exact (first.terminal timer hmiddle).imp id fun hle => hle.trans second.token_le
    · exact .inr hnew
  timed := by
    rcases second.timed with hkept | htimed
    · exact first.timed.imp (fun hfirst => hfirst.trans hkept) hkept.keeps_timed
    · exact .inr htimed

/-- A move leaves a timed operation timed. -/
theorem OperationMove.keeps_timed (move : OperationMove before after) (h : before.Timed) : after.Timed :=
  move.timed.elim (fun hkept => hkept.keeps_timed h) id

/-- An operation that loses its number is over. -/
theorem OperationMove.over (hepoch : before.transportOperationEpoch < after.transportOperationEpoch)
    (hoperation : after.playback.transportOperation = none)
    (htimer : after.transportOperationTimer = none)
    (htoken : after.playbackReconciliationEpoch = before.playbackReconciliationEpoch)
    (hterminal : ∀ timer ∈ after.terminalReconciliationTimer,
      timer ∈ before.terminalReconciliationTimer) : OperationMove before after where
  epoch_le := hepoch.le
  same h := absurd h hepoch.ne'
  token_le := htoken.ge
  terminal timer h := .inl (hterminal timer h)
  timed := .inr (by rw [Timed, hoperation, htimer]; rfl)

end Moves

variable {store begun after : PlaybackStore} {library : LibraryView} {turn : Turn}

/-- No timer runs. -/
theorem forall_mem_none {α : Type} {P : α → Prop} : ∀ x ∈ (none : Option α), P x :=
  fun _ h => absurd h (Option.not_mem_none _)

/-! ### Operations and timers -/

/-- The timer of a session's end has no part in the operation. -/
theorem clearTerminalReconciliationTimer_operation (store : PlaybackStore) :
    OperationKept store store.clearTerminalReconciliationTimer :=
  ⟨rfl, rfl, rfl, rfl, forall_mem_none⟩

/-- An operation that begins is timed. -/
theorem beginOperation_operation {operation : TransportOperation} {preempt : Bool} {epoch : ℕ}
    (h : store.beginOperation operation preempt = some (epoch, begun)) :
    OperationMove store begun ∧ begun.transportOperationEpoch = epoch ∧
      begun.playback.transportOperation = some operation ∧ begun.Timed := by
  unfold beginOperation at h
  split at h
  · cases h
  · obtain ⟨rfl, rfl⟩ := Prod.mk.inj (Option.some.inj h)
    refine ⟨⟨⟨Nat.le_succ _, fun hsame => ?_, Nat.le_succ _⟩, forall_mem_none, .inr rfl⟩, rfl, rfl,
      rfl⟩
    exact absurd hsame (Nat.succ_ne_self _)

/-- The end of an operation. -/
theorem finishOperation_operation (epoch : ℕ) (error : Option String) (store : PlaybackStore) :
    OperationMove store (store.finishOperation epoch error) := by
  unfold finishOperation
  split
  · exact .over (Nat.lt_succ_self _) rfl rfl rfl fun _ h => h
  · exact .refl store

/-- The end of an operation and of all its timers. -/
theorem endOperation_operation (error : Option String) (store : PlaybackStore) :
    OperationMove store (store.endOperation error) :=
  .over (Nat.lt_succ_self _) rfl rfl rfl forall_mem_none

/-- The end of an operation leaves none. -/
theorem endOperation_timed (error : Option String) (store : PlaybackStore) :
    (store.endOperation error).Timed := rfl

/-! ### Tasks -/

/-- A transition has the number of the present operation only if it is the present operation. -/
structure Transition.Sound (transition : Transition) (store : PlaybackStore) : Prop where
  isTransition : transition.operation.isTransition = true
  epoch_le : transition.epoch ≤ store.transportOperationEpoch
  current : transition.epoch = store.transportOperationEpoch →
    store.playback.transportOperation = some transition.operation

/-- What holds of a task: a question for the status has a token that was given, and a transition is
sound. -/
def UiTask.Sound (store : PlaybackStore) : UiTask → Prop
  | .reconcile query => query.token ≤ store.playbackReconciliationEpoch
  | .skipping transition _ => transition.Sound store
  | .retiring transition _ => transition.Sound store
  | .handingOff transition => transition.Sound store
  | .resolving transition _ => transition.Sound store
  | .preparing transition _ _ => transition.Sound store
  | _ => True

/-- A transition stays sound while numbers grow. -/
theorem Transition.Sound.move {transition : Transition} (h : transition.Sound store)
    (move : NumbersGrow store after) : transition.Sound after where
  isTransition := h.isTransition
  epoch_le := h.epoch_le.trans move.epoch_le
  current hcurrent := by
    have hbefore := h.epoch_le
    have hafter := move.epoch_le
    rw [move.same (by omega)]
    exact h.current (by omega)

/-- A task stays sound while numbers grow. -/
theorem UiTask.Sound.move {task : UiTask} (h : task.Sound store) (move : NumbersGrow store after) :
    task.Sound after := by
  cases task with
  | reconcile query => exact h.trans move.token_le
  | skipping transition sessionId => exact Transition.Sound.move h move
  | retiring transition sessionId => exact Transition.Sound.move h move
  | handingOff transition => exact Transition.Sound.move h move
  | resolving transition index => exact Transition.Sound.move h move
  | preparing transition identity context => exact Transition.Sound.move h move
  | prepare | start | stopOrphan | stop | control => exact trivial

/-- What a turn makes of the operation, with what it asks for: no status. -/
structure TurnMove (before : PlaybackStore) (turn : Turn) : Prop where
  move : OperationMove before turn.1
  sound : ∀ task ∈ turn.2, task.Sound turn.1
  quiet : ∀ query, .reconcile query ∉ turn.2

/-- A turn that asks for nothing. -/
theorem OperationMove.asks_nothing (move : OperationMove store after) : TurnMove store (after, []) :=
  ⟨move, fun _ h => absurd h List.not_mem_nil, fun _ => List.not_mem_nil⟩

/-- A turn that asks for one thing other than the status. -/
theorem OperationMove.asks {task : UiTask} (move : OperationMove store after) (hsound : task.Sound after)
    (hquiet : ∀ query, task ≠ .reconcile query) : TurnMove store (after, [task]) := by
  refine ⟨move, fun asked hasked => ?_, fun query hquery => ?_⟩
  · rw [List.mem_singleton.mp hasked]
    exact hsound
  · exact hquiet query (List.mem_singleton.mp hquery).symm

/-- A turn after a move. -/
theorem OperationMove.then_turn (move : OperationMove store begun) (h : TurnMove begun turn) :
    TurnMove store turn :=
  ⟨move.trans h.move, h.sound, h.quiet⟩

/-! ### Transitions -/

/-- A transition that looks for its song. -/
theorem resolveTarget_operation {transition : Transition} (h : transition.Sound store) :
    TurnMove store (transition.resolveTarget library store) := by
  unfold Transition.resolveTarget
  split
  · exact (finishOperation_operation _ _ store).asks_nothing
  · split
    · exact (finishOperation_operation _ _ store).asks_nothing
    · exact (OperationMove.refl store).asks h fun _ heq => UiTask.noConfusion heq

/-- A transition that goes on. -/
theorem afterRetirement_operation {transition : Transition} (h : transition.Sound store) :
    TurnMove store (transition.afterRetirement library store) := by
  unfold Transition.afterRetirement
  split
  · split
    · exact (OperationMove.refl store).asks h fun _ heq => UiTask.noConfusion heq
    · exact resolveTarget_operation h
  · exact (OperationMove.refl store).asks_nothing

/-- A transition that begins. -/
theorem transitionContextPlayback_operation {context : PlaybackContext} {position : ℕ}
    {operation : TransportOperation} {sessionId : Option String} {naturalRevision : Option ℕ}
    (h : operation.isTransition = true) :
    TurnMove store (transitionContextPlayback context position operation sessionId naturalRevision
      library store) := by
  unfold transitionContextPlayback
  split
  · exact (OperationMove.refl store).asks_nothing
  · rename_i epoch begun hbegun
    obtain ⟨hmove, hepoch, hoperation, -⟩ := beginOperation_operation hbegun
    have hsound : Transition.Sound ⟨context, position, operation, epoch, naturalRevision⟩ begun :=
      ⟨h, hepoch.ge, fun _ => hoperation⟩
    dsimp only
    split
    · exact (hmove.trans (finishOperation_operation _ _ begun)).asks_nothing
    · split
      · exact hmove.then_turn (afterRetirement_operation hsound)
      · split
        · exact hmove.asks hsound fun _ heq => UiTask.noConfusion heq
        · exact hmove.asks hsound fun _ heq => UiTask.noConfusion heq

/-! ### Events -/

/-- An event of a session that goes on keeps the operation or ends it. -/
theorem bindSession_operation {sessionId songId : String} {state : PlaybackUiState}
    {title : Option String} {snapshot : Option PlaybackSnapshot} {error : Option String} :
    OperationMove store (store.bindSession sessionId songId state title snapshot error) := by
  cases hconfirms : store.confirmsOperation sessionId songId state with
  | true =>
    simp only [bindSession, hconfirms, if_true]
    exact .over (Nat.lt_succ_self _) rfl rfl rfl fun _ h => h
  | false =>
    simp only [bindSession, hconfirms, Bool.false_eq_true, if_false]
    exact OperationKept.move ⟨rfl, rfl, rfl, rfl, fun _ h => h⟩

/-- The session's end is near. -/
def PlaybackEvent.reportsEnd : PlaybackEvent → Bool
  | .stateChanged _ _ state _ => state = .finished ∨ state = .failed
  | _ => false

/-- The timer of a session's end takes a new token, and a timed operation stays timed. -/
theorem armTerminalReconciliationTimer_operation {sessionId : String} {startRequestId : Option ℕ}
    (h : store.Timed) :
    OperationMove store (store.armTerminalReconciliationTimer sessionId startRequestId) where
  epoch_le := le_rfl
  same _ := rfl
  token_le := Nat.le_succ _
  terminal timer htimer := by
    obtain rfl := Option.some.inj htimer
    exact .inr le_rfl
  timed := .inr h

/-- What a session tells of its state. Where the session's end is near, a reconciliation that is under way
is no longer the present one. -/
theorem stateChanged_operation {sessionId songId : String} {state : PlaybackUiState}
    {message : Option String} (h : state = .finished ∨ state = .failed → store.Timed) :
    OperationMove store (store.stateChanged sessionId songId state message) := by
  unfold stateChanged
  dsimp only
  split
  · rename_i hend
    have hmove : OperationMove store (store.bindSession sessionId songId state none
        (if store.playback.sessionId = some sessionId then store.playback.snapshot else none)
        (if state = .failed then message else none)) := bindSession_operation
    exact hmove.trans (armTerminalReconciliationTimer_operation (hmove.keeps_timed (h hend)))
  · exact bindSession_operation.trans (clearTerminalReconciliationTimer_operation _).move

/-- The end of a session ends the operation, unless it is the one that goes on. -/
theorem unbindSession_operation {sessionId songId : String} {outcome : RetiredSessionOutcome}
    {operation : Option TransportOperation} {state : PlaybackUiState} {error : Option String}
    (h : operation.isSome → operation = store.playback.transportOperation) :
    OperationMove store (store.unbindSession sessionId songId outcome operation state error) := by
  cases operation with
  | some continuing =>
    have hcontinues := h rfl
    simp only [unbindSession, retire, Option.isSome_some, if_true, clearTerminalReconciliationTimer]
    exact OperationKept.move ⟨hcontinues, rfl, rfl, rfl, forall_mem_none⟩
  | none =>
    simp only [unbindSession, retire, Option.isSome_none, Bool.false_eq_true, if_false,
      clearOperationFromEvent, clearTransportTimer, clearTerminalReconciliationTimer]
    exact .over (Nat.lt_succ_self _) rfl rfl rfl forall_mem_none

/-- The operation that goes on is the present one. -/
theorem continueOperation_eq (h : store.continueOperation.isSome) :
    store.continueOperation = store.playback.transportOperation := by
  unfold continueOperation at h ⊢
  cases hoperation : store.playback.transportOperation with
  | none => rfl
  | some operation =>
    rw [hoperation, Option.isSome_filter] at h
    exact Option.filter_some_pos h

/-- A session that has finished. -/
theorem sessionFinished_operation {sessionId songId outcome : String} :
    TurnMove store (store.sessionFinished sessionId songId outcome library) := by
  have hmove : OperationMove store
      (store.unbindSession sessionId songId .finished store.continueOperation .idle none) :=
    unbindSession_operation continueOperation_eq
  unfold sessionFinished
  dsimp only
  split
  · exact hmove.asks_nothing
  · exact hmove.then_turn (transitionContextPlayback_operation rfl)

/-- A session that has failed. -/
theorem sessionFailed_operation {sessionId songId code message : String} :
    OperationMove store (store.sessionFailed sessionId songId code message) := by
  unfold sessionFailed
  apply unbindSession_operation
  intro hsome
  cases hsome

/-- The record of an event has no part in the operation. -/
theorem recordEnd_operation (event : PlaybackEvent) (store : PlaybackStore) :
    OperationKept store (store.recordEnd event) := by
  unfold recordEnd
  split
  · exact ⟨rfl, rfl, rfl, rfl, fun _ h => h⟩
  · exact .refl store

/-- What an event makes of the operation. -/
theorem handleEvent_operation (event : PlaybackEvent)
    (h : store.acceptsSessionEvent event.sessionId event.songId = true → event.reportsEnd = true →
      store.Timed) : TurnMove store (store.handleEvent event library) := by
  have hrecord := recordEnd_operation event store
  unfold handleEvent
  split
  · rename_i haccepts
    refine hrecord.move.then_turn ?_
    cases event with
    | stateChanged sessionId songId state message =>
      refine (stateChanged_operation fun hend => ?_).asks_nothing
      exact hrecord.keeps_timed (h haccepts (decide_eq_true hend))
    | snapshot sessionId songId title state currentUs => exact bindSession_operation.asks_nothing
    | finished sessionId songId outcome => exact sessionFinished_operation
    | failed sessionId songId code message =>
      exact sessionFailed_operation.asks_nothing
  · exact hrecord.move.asks_nothing

/-- An event that ends its session does not only report the end. -/
theorem reportsEnd_of_terminal {event : PlaybackEvent} (h : event.terminal = true) :
    event.reportsEnd = false := by
  cases event with
  | stateChanged => cases h
  | snapshot => cases h
  | finished => rfl
  | failed => rfl

/-- What an event that ends its session makes of the operation. -/
theorem handleEnd_operation {event : PlaybackEvent} (h : event.terminal = true) :
    TurnMove store (store.handleEvent event library) := by
  apply handleEvent_operation
  intro _ hreports
  rw [reportsEnd_of_terminal h] at hreports
  cases hreports

/-! ### Reconciliation -/

/-- The native session that is bound ends the operation. -/
theorem bindNative_operation (session : ActiveSession) (library : LibraryView)
    (store : PlaybackStore) : OperationMove store (store.bindNative session library) := by
  have htoken : (store.retireConflicting session).playbackReconciliationEpoch =
      store.playbackReconciliationEpoch := by
    unfold retireConflicting
    split
    · split
      · simp only [retire]
      · rfl
    · rfl
  exact .over (Nat.lt_succ_self _) rfl rfl htoken forall_mem_none

/-- The native session that is bound leaves no operation. -/
theorem bindNative_timed (session : ActiveSession) (library : LibraryView) (store : PlaybackStore) :
    (store.bindNative session library).Timed := rfl

/-- The end of a session that a status tells of. -/
theorem emitReconciledTerminal_operation {terminal : LastTerminal} :
    TurnMove store (store.emitReconciledTerminal terminal library) := by
  unfold emitReconciledTerminal
  split
  · exact (OperationMove.refl store).asks_nothing
  · exact handleEnd_operation (terminal_event terminal)

/-- A transition that gets its timer again is timed. -/
theorem armAgain_operation (query : StatusQuery) (store : PlaybackStore) :
    OperationMove store (store.armAgain query) := by
  unfold armAgain
  split
  · rename_i hagain
    obtain ⟨-, hoperation, hcurrent⟩ := hagain
    have hepoch : store.transportOperationEpoch = query.epoch := of_decide_eq_true hcurrent
    refine ⟨⟨le_rfl, fun _ => rfl, le_rfl⟩, forall_mem_none, .inr ?_⟩
    unfold Timed armOperationTimer clearTerminalReconciliationTimer clearTransportTimer
    dsimp only
    rw [hoperation, hepoch]
    rfl
  · exact .refl store

/-- Where no session is bound and none is played, the operation is over. -/
theorem withoutSession_operation (store : PlaybackStore) :
    OperationMove store store.withoutSession ∧ store.withoutSession.Timed := by
  unfold withoutSession
  split
  · exact ⟨.over (Nat.lt_succ_self _) rfl rfl rfl forall_mem_none, rfl⟩
  · exact ⟨endOperation_operation _ store, endOperation_timed _ store⟩

/-- A status without an active session. -/
theorem withoutActive_operation {query : StatusQuery} {lastTerminal : Option LastTerminal} :
    TurnMove store (store.withoutActive query lastTerminal library) := by
  have hcleared := clearTerminalReconciliationTimer_operation store
  unfold withoutActive
  split
  · rename_i terminal _
    have hemitted : TurnMove store.clearTerminalReconciliationTimer
        (store.clearTerminalReconciliationTimer.emitReconciledTerminal terminal library) :=
      emitReconciledTerminal_operation
    have hagain := armAgain_operation query
      (store.clearTerminalReconciliationTimer.emitReconciledTerminal terminal library).1
    exact ⟨hcleared.move.trans (hemitted.move.trans hagain),
      fun task htask => (hemitted.sound task htask).move hagain.toNumbersGrow, hemitted.quiet⟩
  · split
    · exact hcleared.move.then_turn (handleEnd_operation rfl)
    · exact (withoutSession_operation store).1.asks_nothing

/-- What a status makes of the operation. -/
theorem reconcile_operation {query : StatusQuery} {reply : Except String PlaybackStatus} :
    TurnMove store (store.reconcilePlaybackAfterTimeout query reply library) := by
  unfold reconcilePlaybackAfterTimeout
  split
  · split
    · exact (endOperation_operation _ store).asks_nothing
    · split
      · exact (bindNative_operation _ library store).asks_nothing
      · exact withoutActive_operation
  · exact (OperationMove.refl store).asks_nothing

/-! ### Starts and preparations -/

/-- A start that is over has no part in the operation. -/
theorem released_operation (startEpoch : ℕ) (store : PlaybackStore) : OperationKept store
    ((store.removePendingStart startEpoch).releaseStartRequest startEpoch) := by
  unfold releaseStartRequest
  split
  · exact ⟨rfl, rfl, rfl, rfl, fun _ h => h⟩
  · exact ⟨rfl, rfl, rfl, rfl, fun _ h => h⟩

/-- A request to start leaves a transition and a start what they are. -/
theorem startForOperation_operation {prepared : PreparedPlayback} {identity : PlaybackSongIdentity}
    {context : PlaybackContext} {operationEpoch : ℕ} {direct : Bool} {operation : TransportOperation}
    (hoperation : store.operationIsCurrent operationEpoch = true →
      store.playback.transportOperation = some operation)
    (hstarts : operation.isTransition = true ∨ operation = .starting)
    (h : store.startForOperation prepared identity context operationEpoch direct = .ok turn) :
    TurnMove store turn := by
  unfold startForOperation at h
  split at h
  · rename_i hcurrent
    split at h
    · cases h
    · obtain rfl := Except.ok.inj h
      have hsame : some ((store.playback.transportOperation.filter fun operation =>
          operation.isTransition).getD .starting) = store.playback.transportOperation := by
        rw [hoperation hcurrent]
        rcases hstarts with htransition | rfl
        · rw [Option.filter_some_pos htransition]
          rfl
        · rfl
      refine OperationMove.asks (OperationKept.move ⟨hsame, rfl, rfl, rfl, fun _ h => h⟩) trivial ?_
      exact fun _ heq => UiTask.noConfusion heq
  · obtain rfl := Except.ok.inj h
    exact (OperationMove.refl store).asks_nothing

/-- A start that has failed. -/
theorem startThrew_operation (request : StartRequest) (message : String) (store : PlaybackStore) :
    OperationMove store (store.startThrew request message) := by
  have hmove := finishOperation_operation request.operationEpoch (some message) store
  unfold startThrew
  dsimp only
  split
  · exact hmove.trans (OperationKept.move ⟨rfl, rfl, rfl, rfl, fun _ h => h⟩)
  · exact hmove

/-- A start that the native side has refused. -/
theorem startRefused_operation (request : StartRequest) (message : String) (store : PlaybackStore) :
    OperationMove store (store.startRefused request message) :=
  (released_operation request.startEpoch store).move.trans (startThrew_operation request message _)

/-- A session that is bound to be stopped. -/
theorem bindOrphan_operation (request : StartRequest) (sessionId : String) (store : PlaybackStore) :
    TurnMove store (store.bindOrphan request sessionId) := by
  unfold bindOrphan
  dsimp only
  split
  · rename_i epoch stopping hstopping
    have hbegun := (beginOperation_operation hstopping).1
    have hmove : OperationMove store stopping := by
      refine OperationMove.trans ?_ hbegun
      exact OperationKept.move ⟨rfl, rfl, rfl, rfl, fun _ h => h⟩
    exact hmove.asks trivial fun _ heq => UiTask.noConfusion heq
  · refine OperationMove.asks (OperationKept.move ⟨rfl, rfl, rfl, rfl, fun _ h => h⟩) trivial ?_
    exact fun _ heq => UiTask.noConfusion heq

/-- A session that the native side has started. -/
theorem startAnswered_operation {request : StartRequest} {sessionId : String} :
    TurnMove store (store.startAnswered request sessionId library) := by
  have hreleased := released_operation request.startEpoch store
  unfold startAnswered
  dsimp only
  split
  · exact hreleased.move.asks_nothing
  · split
    · split
      · have hremoved : OperationKept store (store.removePendingStart request.startEpoch) :=
          ⟨rfl, rfl, rfl, rfl, fun _ h => h⟩
        exact hremoved.move.then_turn (bindOrphan_operation request sessionId _)
      · exact hreleased.move.asks_nothing
    · split
      · exact (hreleased.move.trans (startThrew_operation request _ _)).asks_nothing
      · split
        · exact hreleased.move.asks_nothing
        · exact OperationMove.asks_nothing (OperationKept.move ⟨rfl, rfl, rfl, rfl, fun _ h => h⟩)

/-- A preparation that is answered has no part in the operation. -/
theorem applyPrepared_operation {identity : PlaybackSongIdentity} {context : PlaybackContext}
    {operationEpoch : ℕ} {reply : Except String PreparedPlayback} {prepared : Option PreparedPlayback}
    (h : store.applyPrepared identity context operationEpoch reply library = .ok (prepared, after)) :
    OperationKept store after := by
  unfold applyPrepared at h
  split at h
  · cases h
  · split at h
    · cases h
    · split at h
      · obtain ⟨-, rfl⟩ := Prod.mk.inj (Except.ok.inj h)
        exact ⟨rfl, rfl, rfl, rfl, fun _ h => h⟩
      · obtain ⟨-, rfl⟩ := Prod.mk.inj (Except.ok.inj h)
        exact .refl store

/-- The user's own preparation is answered. -/
theorem prepareAnswered_operation {identity : PlaybackSongIdentity} {context : PlaybackContext}
    {operationEpoch : ℕ} {reply : Except String PreparedPlayback} :
    OperationMove store (store.prepareAnswered identity context operationEpoch reply library) := by
  unfold prepareAnswered
  split
  · exact finishOperation_operation _ _ store
  · rename_i happlied
    exact (applyPrepared_operation happlied).move
  · rename_i happlied
    exact (applyPrepared_operation happlied).move.trans (finishOperation_operation _ _ _)

/-- A transition that has left a moment. -/
theorem handedOff_operation {transition : Transition} {elapsed sameOwner : Bool}
    (h : transition.Sound store) :
    TurnMove store (transition.handedOff elapsed sameOwner library store) := by
  unfold Transition.handedOff
  split
  · exact (OperationMove.refl store).asks_nothing
  · split
    · exact resolveTarget_operation h
    · exact (finishOperation_operation _ _ store).asks_nothing

/-- A transition that has found its song. -/
theorem resolved_operation {transition : Transition} {index : ℕ}
    {reply : Except String PlaybackSongIdentity} (h : transition.Sound store) :
    TurnMove store (transition.resolved index reply library store) := by
  unfold Transition.resolved
  split
  · exact (finishOperation_operation _ _ store).asks_nothing
  · split
    · exact (OperationMove.refl store).asks_nothing
    · split
      · exact (finishOperation_operation _ _ store).asks_nothing
      · exact (OperationMove.refl store).asks h fun _ heq => UiTask.noConfusion heq

/-- A transition whose song is prepared. -/
theorem prepared_operation {transition : Transition} {identity : PlaybackSongIdentity}
    {context : PlaybackContext} {reply : Except String PreparedPlayback}
    (h : transition.Sound store) :
    TurnMove store (transition.prepared identity context reply library store) := by
  unfold Transition.prepared
  split
  · exact (finishOperation_operation _ _ store).asks_nothing
  · rename_i happlied
    exact (applyPrepared_operation happlied).move.asks_nothing
  · rename_i after prepared happlied
    have hmove := (applyPrepared_operation happlied).move
    have hsound := h.move hmove.toNumbersGrow
    split
    · exact (hmove.trans (finishOperation_operation _ _ _)).asks_nothing
    · exact (hmove.trans (finishOperation_operation _ _ _)).asks_nothing
    · split
      · exact (hmove.trans (finishOperation_operation _ _ _)).asks_nothing
      · rename_i hstarted
        refine hmove.then_turn (startForOperation_operation (fun hcurrent => ?_)
          (.inl hsound.isTransition) hstarted)
        exact hsound.current (of_decide_eq_true hcurrent).symm

/-! ### Answers -/

/-- What a turn makes of the operation, with what it asks for. It asks for the status only under the token
of a session's end or when it leaves the operation timed. -/
structure TurnStep (before : PlaybackStore) (turn : Turn) : Prop where
  move : OperationMove before turn.1
  sound : ∀ task ∈ turn.2, task.Sound turn.1
  asked : ∀ query, .reconcile query ∈ turn.2 → turn.1.Timed ∨
    ∃ timer ∈ before.terminalReconciliationTimer, query.token = timer.token

/-- A turn that asks for no status. -/
theorem TurnMove.step (h : TurnMove store turn) : TurnStep store turn :=
  ⟨h.move, h.sound, fun query hquery => absurd hquery (h.quiet query)⟩

/-- An acknowledgement. -/
theorem acknowledged_operation {α : Type} (operationEpoch : Option ℕ) (reply : Except String α)
    (store : PlaybackStore) : OperationMove store (acknowledged operationEpoch reply store) := by
  unfold acknowledged
  split
  · exact finishOperation_operation _ _ store
  · exact .refl store

/-- A stop that is acknowledged. Where the session is over by then, a reconciliation that is under way is
no longer the present one. -/
theorem stopAcknowledged_operation {operationEpoch : ℕ} {sessionId : String}
    {startRequestId : Option ℕ} {reply : Except String PlaybackUiState}
    (h : ∀ state, reply = .ok state → state = .finished ∨ state = .failed → store.Timed) :
    TurnStep store (stopAcknowledged operationEpoch sessionId startRequestId reply store) := by
  unfold stopAcknowledged
  split
  · exact (finishOperation_operation _ _ store).asks_nothing.step
  · rename_i state
    split
    · rename_i hover
      have htimed := h state rfl hover
      refine ⟨⟨⟨le_rfl, fun _ => rfl, Nat.le_succ _⟩, fun _ h => .inl h, .inr htimed⟩,
        fun task htask => ?_, fun _ _ => .inl htimed⟩
      rw [List.mem_singleton.mp htask]
      exact le_rfl
    · exact (OperationMove.refl store).asks_nothing.step

/-- A transition that has awaited a session's end. -/
theorem retirementAwaited_operation {transition : Transition} {sessionId : String}
    {outcome : Option RetiredSessionOutcome} (hsound : transition.Sound store)
    (h : retirementAwaited transition sessionId outcome library store = some turn) :
    TurnMove store turn := by
  unfold retirementAwaited at h
  split at h
  · obtain rfl := Option.some.inj h
    exact (finishOperation_operation _ _ store).asks_nothing
  · split at h
    · split at h
      · obtain rfl := Option.some.inj h
        exact (OperationMove.refl store).asks_nothing
      · obtain rfl := Option.some.inj h
        exact afterRetirement_operation hsound
    · cases h

/-- The end of the user's own question for the status has no part in the operation. -/
theorem retryEnded_operation (store : PlaybackStore) : OperationKept store store.retryEnded :=
  ⟨rfl, rfl, rfl, rfl, fun _ h => h⟩

/-- What the answer to a task makes of the operation. -/
theorem answered_operation {task : UiTask} {answer : UiAnswer}
    (h : task.answered answer library store = some turn) (hsound : task.Sound store)
    (hstop : ∀ operationEpoch sessionId startRequestId state,
      task = .stop operationEpoch sessionId startRequestId → answer = .acknowledged (.ok state) →
        state = .finished ∨ state = .failed → store.Timed) : TurnStep store turn := by
  unfold UiTask.answered at h
  split at h
  · rename_i query reply
    obtain rfl := Option.some.inj h
    have hturn : TurnMove store (store.reconcilePlaybackAfterTimeout query reply library) :=
      reconcile_operation
    split
    · have hended := (retryEnded_operation
        (store.reconcilePlaybackAfterTimeout query reply library).1).move
      exact ⟨hturn.move.trans hended, fun task htask => (hturn.sound task htask).move hended.toNumbersGrow,
        fun query hquery => absurd hquery (hturn.quiet query)⟩
    · exact hturn.step
  · obtain rfl := Option.some.inj h
    exact prepareAnswered_operation.asks_nothing.step
  · obtain rfl := Option.some.inj h
    exact (startRefused_operation _ _ store).asks_nothing.step
  · obtain rfl := Option.some.inj h
    exact startAnswered_operation.step
  · obtain rfl := Option.some.inj h
    exact (acknowledged_operation _ _ store).asks_nothing.step
  · rename_i operationEpoch sessionId startRequestId reply
    obtain rfl := Option.some.inj h
    exact stopAcknowledged_operation fun state hreply hover =>
      hstop operationEpoch sessionId startRequestId state rfl (by rw [hreply]) hover
  · obtain rfl := Option.some.inj h
    exact (acknowledged_operation _ _ store).asks_nothing.step
  · obtain rfl := Option.some.inj h
    exact (finishOperation_operation _ _ store).asks_nothing.step
  · obtain rfl := Option.some.inj h
    refine TurnMove.step (OperationMove.asks (.refl store) ?_ fun _ heq => UiTask.noConfusion heq)
    exact hsound
  · exact (retirementAwaited_operation hsound h).step
  · obtain rfl := Option.some.inj h
    exact (handedOff_operation hsound).step
  · obtain rfl := Option.some.inj h
    exact (resolved_operation hsound).step
  · obtain rfl := Option.some.inj h
    exact (prepared_operation hsound).step
  · cases h

/-! ### Actions -/

/-- The user's preparation. -/
theorem prepareSelectedPlayback_operation {selection : Selection} {dryRun : Option Bool} :
    TurnMove store (store.prepareSelectedPlayback selection dryRun library) := by
  unfold prepareSelectedPlayback
  dsimp only
  split
  · exact (OperationMove.refl store).asks_nothing
  · split
    · exact (OperationMove.refl store).asks_nothing
    · split
      · exact OperationMove.asks_nothing (OperationKept.move ⟨rfl, rfl, rfl, rfl, fun _ h => h⟩)
      · split
        · exact (OperationMove.refl store).asks_nothing
        · rename_i epoch begun hbegun
          have hmove := (beginOperation_operation hbegun).1
          split
          · exact hmove.asks trivial fun _ heq => UiTask.noConfusion heq
          · exact (hmove.trans (finishOperation_operation _ _ begun)).asks_nothing

/-- The user's start. -/
theorem startPreparedPlayback_operation {decision : Option String} :
    TurnMove store (store.startPreparedPlayback decision library) := by
  unfold startPreparedPlayback
  dsimp only
  split
  · exact (OperationMove.refl store).asks_nothing
  · split
    · split
      · exact OperationMove.asks_nothing (OperationKept.move ⟨rfl, rfl, rfl, rfl, fun _ h => h⟩)
      · split
        · exact (OperationMove.refl store).asks_nothing
        · split
          · exact OperationMove.asks_nothing (OperationKept.move ⟨rfl, rfl, rfl, rfl, fun _ h => h⟩)
          · split
            · exact (OperationMove.refl store).asks_nothing
            · rename_i epoch begun hbegun
              obtain ⟨hmove, -, hoperation, -⟩ := beginOperation_operation hbegun
              split
              · exact (hmove.trans (finishOperation_operation _ _ begun)).asks_nothing
              · rename_i hstarted
                exact hmove.then_turn
                  (startForOperation_operation (fun _ => hoperation) (.inr rfl) hstarted)
    · exact OperationMove.asks_nothing (OperationKept.move ⟨rfl, rfl, rfl, rfl, fun _ h => h⟩)

/-- A prepared playback that the user forgets has no part in the operation. -/
theorem cancelPreparedPlayback_operation (store : PlaybackStore) :
    OperationKept store store.cancelPreparedPlayback := by
  unfold cancelPreparedPlayback
  split
  · exact .refl store
  · exact ⟨rfl, rfl, rfl, rfl, fun _ h => h⟩

/-- The user's stop. -/
theorem stopPlayback_operation (store : PlaybackStore) : TurnMove store store.stopPlayback := by
  unfold stopPlayback
  split
  · exact (OperationMove.refl store).asks_nothing
  · split
    · exact (OperationMove.refl store).asks_nothing
    · split
      · exact (OperationMove.refl store).asks_nothing
      · rename_i hbegun
        exact (beginOperation_operation hbegun).1.asks trivial fun _ heq => UiTask.noConfusion heq

/-- A pause or a resumption. -/
theorem controlPlayback_operation (operation : TransportOperation) (state : PlaybackUiState)
    (store : PlaybackStore) : TurnMove store (store.controlPlayback operation state) := by
  unfold controlPlayback
  split
  · exact (OperationMove.refl store).asks_nothing
  · split
    · exact (OperationMove.refl store).asks_nothing
    · rename_i hbegun
      exact (beginOperation_operation hbegun).1.asks trivial fun _ heq => UiTask.noConfusion heq

/-- A move to another song. -/
theorem movePlayback_operation {target : PlaybackContext → Option ℕ} {operation : TransportOperation}
    (h : operation.isTransition = true) :
    TurnMove store (store.movePlayback target operation library) := by
  unfold movePlayback
  split
  · exact (OperationMove.refl store).asks_nothing
  · split
    · exact (OperationMove.refl store).asks_nothing
    · split
      · exact (OperationMove.refl store).asks_nothing
      · exact transitionContextPlayback_operation h

/-- A preparation that is over ends its operation. -/
theorem cancelPreparing_operation (store : PlaybackStore) : OperationMove store store.cancelPreparing := by
  unfold cancelPreparing
  split
  · exact .over (Nat.lt_succ_self _) rfl rfl rfl fun _ h => h
  · exact .refl store

/-- A change of the settings. -/
theorem settingsPatched_operation (patchAutoPlay : Option Bool) (safe autoPlay : Bool)
    (store : PlaybackStore) :
    OperationMove store (store.settingsPatched patchAutoPlay safe autoPlay) := by
  unfold settingsPatched
  dsimp only
  have hpatched : OperationMove store { (if patchAutoPlay.isSome ∧ patchAutoPlay ≠ some store.autoPlay
      then { store with autoPlaySettingsRevision := store.autoPlaySettingsRevision + 1 }
      else store) with autoPlay } := by
    split <;> exact OperationKept.move ⟨rfl, rfl, rfl, rfl, fun _ h => h⟩
  split
  · exact hpatched
  · have hdropped := hpatched.trans (cancelPreparing_operation _)
    exact hdropped.trans (OperationKept.move ⟨rfl, rfl, rfl, rfl, fun _ h => h⟩)

/-- What leaves out the present preparation ends no other operation. -/
theorem cancelled_operation (store : PlaybackStore) :
    OperationMove store (store.cancelPreparing.dropPrepared.showError none) :=
  (cancelPreparing_operation store).trans (OperationKept.move ⟨rfl, rfl, rfl, rfl, fun _ h => h⟩)

/-- Another part of the library. -/
theorem playbackAfterBrowserNavigation_operation (store : PlaybackStore) :
    OperationMove store store.playbackAfterBrowserNavigation := by
  unfold playbackAfterBrowserNavigation
  dsimp only
  split
  · exact cancelled_operation store
  · exact (cancelled_operation store).trans
      (OperationKept.move ⟨rfl, rfl, rfl, rfl, fun _ h => h⟩)

/-- A selection. -/
theorem songSelected_operation (store : PlaybackStore) : OperationMove store store.songSelected := by
  unfold songSelected
  dsimp only
  split
  · exact cancelled_operation store
  · exact (cancelled_operation store).trans
      (OperationKept.move ⟨rfl, rfl, rfl, rfl, fun _ h => h⟩)

/-- A change of a source has no part in the operation. -/
theorem invalidatePlaybackMembershipContext_operation (preparedMatches : Bool)
    (store : PlaybackStore) :
    OperationKept store (store.invalidatePlaybackMembershipContext preparedMatches) := by
  unfold invalidatePlaybackMembershipContext
  split
  · exact ⟨rfl, rfl, rfl, rfl, fun _ h => h⟩
  · exact .refl store

/-- The timer of a session's end that runs out asks for the status under its own token. -/
theorem terminalTimedOut_operation
    (hterminal : ∀ timer ∈ store.terminalReconciliationTimer,
      timer.token ≤ store.playbackReconciliationEpoch)
    (h : store.terminalTimedOut = some turn) : TurnStep store turn := by
  have hfired := clearTerminalReconciliationTimer_operation store
  unfold terminalTimedOut at h
  split at h
  · cases h
  · rename_i timer htimer
    dsimp only at h
    split at h
    · obtain rfl := Option.some.inj h
      refine ⟨hfired.move, fun task htask => ?_, fun query hquery => .inr ⟨timer, htimer, ?_⟩⟩
      · rw [List.mem_singleton.mp htask]
        exact hterminal timer htimer
      · obtain rfl := UiTask.reconcile.inj (List.mem_singleton.mp hquery)
        rfl
    · obtain rfl := Option.some.inj h
      exact hfired.move.asks_nothing.step

/-- What an action makes of the operation, unless it asks for the status itself. -/
theorem made_operation {action : UiAction} (h : action.made library store = some turn)
    (hterminal : ∀ timer ∈ store.terminalReconciliationTimer,
      timer.token ≤ store.playbackReconciliationEpoch)
    (hevent : ∀ event, action = .eventReceived event →
      store.acceptsSessionEvent event.sessionId event.songId = true → event.reportsEnd = true →
        store.Timed)
    (hretry : action ≠ .retryPlaybackStatus) (htimeout : action ≠ .operationTimedOut) :
    TurnStep store turn := by
  cases action with
  | retryPlaybackStatus => exact absurd rfl hretry
  | operationTimedOut => exact absurd rfl htimeout
  | terminalTimedOut => exact terminalTimedOut_operation hterminal h
  | eventReceived event =>
    obtain rfl := Option.some.inj h
    exact (handleEvent_operation event (hevent event rfl)).step
  | prepareSelectedPlayback selection dryRun =>
    obtain rfl := Option.some.inj h
    exact prepareSelectedPlayback_operation.step
  | startPreparedPlayback decision =>
    obtain rfl := Option.some.inj h
    exact startPreparedPlayback_operation.step
  | cancelPreparedPlayback =>
    obtain rfl := Option.some.inj h
    exact (cancelPreparedPlayback_operation store).move.asks_nothing.step
  | stopPlayback =>
    obtain rfl := Option.some.inj h
    exact (stopPlayback_operation store).step
  | pausePlayback =>
    obtain rfl := Option.some.inj h
    exact (controlPlayback_operation .pausing .playing store).step
  | resumePlayback =>
    obtain rfl := Option.some.inj h
    exact (controlPlayback_operation .resuming .paused store).step
  | previousPlayback =>
    obtain rfl := Option.some.inj h
    exact (movePlayback_operation rfl).step
  | nextPlayback =>
    obtain rfl := Option.some.inj h
    exact (movePlayback_operation rfl).step
  | playbackForCatalogChange =>
    obtain rfl := Option.some.inj h
    have hdropped : OperationKept store.cancelPreparing store.cancelPreparing.dropPrepared :=
      ⟨rfl, rfl, rfl, rfl, fun _ h => h⟩
    exact ((cancelPreparing_operation store).trans hdropped.move).asks_nothing.step
  | settingsPatched patchAutoPlay safe autoPlay =>
    obtain rfl := Option.some.inj h
    exact (settingsPatched_operation patchAutoPlay safe autoPlay store).asks_nothing.step
  | playbackAfterBrowserNavigation =>
    obtain rfl := Option.some.inj h
    exact (playbackAfterBrowserNavigation_operation store).asks_nothing.step
  | songSelected =>
    obtain rfl := Option.some.inj h
    exact (songSelected_operation store).asks_nothing.step
  | sheetDetailRefreshed =>
    obtain rfl := Option.some.inj h
    exact (cancelled_operation store).asks_nothing.step
  | invalidatePlaybackMembershipContext preparedMatches =>
    obtain rfl := Option.some.inj h
    exact (invalidatePlaybackMembershipContext_operation preparedMatches store).move.asks_nothing.step
  | coreFailed fatal =>
    obtain rfl := Option.some.inj h
    have hover : OperationMove store (store.coreFailed fatal) :=
      .over (Nat.lt_succ_self _) rfl rfl rfl fun _ h => h
    exact hover.asks_nothing.step

end SkyAutoPlayer.DesktopUi
