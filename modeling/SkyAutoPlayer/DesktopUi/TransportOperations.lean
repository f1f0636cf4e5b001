import SkyAutoPlayer.DesktopUi.OperationMoves
import SkyAutoPlayer.DesktopUi.RetiredSessions

/-!
# A transport operation comes to an end

An operation is timed, or it is a transition whose timer has run out and whose status is asked for. The
answer ends the operation or times it again, as long as its token is the present one and the session that
is bound has not ended. A session that reports its end takes a new token without asking for the status,
and so does a stop of a session that is over: a transition that waits for its status then has neither a
timer nor an answer to come.
-/

namespace SkyAutoPlayer.DesktopUi

open Foundation PlaybackStore

namespace PlaybackStore

/-- No operation waits for a status. -/
def settled (store : PlaybackStore) : Bool :=
  store.playback.transportOperation = none ∨ store.transportOperationTimer.isSome

/-- The session that is bound has not ended. -/
def boundLive (store : PlaybackStore) : Bool :=
  store.playback.sessionId.all fun sessionId => store.sessionLedger.isRetired sessionId = false

end PlaybackStore

namespace Interface

/-- What comes takes no token from a status that an operation waits for, and no transition comes to wait
for one while the session that is bound has ended. -/
def keepsQuestion (ui : Interface) (input : UiInput) : Bool :=
  match input with
  | .act (.eventReceived event) _ =>
    ui.store.acceptsSessionEvent event.sessionId event.songId = true → event.reportsEnd = true →
      ui.store.settled = true
  | .act .operationTimedOut _ =>
    ui.store.transportOperationTimer.all fun timer => timer.2.isTransition = true →
      ui.store.boundLive = true
  | .answer index (.acknowledged (.ok state)) _ =>
    match ui.tasks[index]? with
    | some (_, .stop ..) => state = .finished ∨ state = .failed → ui.store.settled = true
    | _ => true
  | _ => true

end Interface

variable {store after : PlaybackStore} {library : LibraryView} {turn : Turn} {ui next : Interface}
  {operation : TransportOperation} {query : StatusQuery}

/-- A question for the status that waits for an answer. -/
def Interface.Asks (ui : Interface) (query : StatusQuery) : Prop :=
  .reconcile query ∈ ui.tasks.map Prod.snd

/-- A transition whose timer has run out waits for its status. -/
structure Rescued (ui : Interface) (operation : TransportOperation) (query : StatusQuery) : Prop where
  present : ui.store.playback.transportOperation = some operation
  transition : operation.isTransition = true
  timer : ui.store.transportOperationTimer = none
  asked : ui.Asks query
  current : query.token = ui.store.playbackReconciliationEpoch
  matching : ∀ other, ui.Asks other → other.token = ui.store.playbackReconciliationEpoch →
    other.operation = operation ∧ other.epoch = ui.store.transportOperationEpoch
  terminal : ∀ timer ∈ ui.store.terminalReconciliationTimer,
    timer.token < ui.store.playbackReconciliationEpoch
  live : ui.store.boundLive = true

/-- What holds of the operation in every run. -/
structure OperationSound (ui : Interface) : Prop where
  tasks : ∀ task ∈ ui.tasks.map Prod.snd, task.Sound ui.store
  terminal : ∀ timer ∈ ui.store.terminalReconciliationTimer,
    timer.token ≤ ui.store.playbackReconciliationEpoch
  settled : ui.store.Timed ∨ ∃ operation query, Rescued ui operation query

/-! ### The answer to a question -/

/-- A session that has failed leaves no operation. -/
theorem sessionFailed_timed {sessionId songId code message : String} :
    (store.sessionFailed sessionId songId code message).Timed := by
  simp only [sessionFailed, unbindSession, retire, Option.isSome_none, Bool.false_eq_true, if_false,
    clearOperationFromEvent, clearTransportTimer, clearTerminalReconciliationTimer]
  rfl

/-- The status of the present transition is used. -/
theorem canApply_of_matching (hoperation : store.playback.transportOperation = some query.operation)
    (hepoch : query.epoch = store.transportOperationEpoch)
    (htoken : query.token = store.playbackReconciliationEpoch) : store.canApply query = true :=
  decide_eq_true ⟨htoken.symm, .inr ⟨hoperation, decide_eq_true hepoch.symm⟩⟩

/-- A transition that is still the present operation is timed again. -/
theorem armAgain_timed (htransition : query.operation.isTransition = true)
    (hoperation : store.playback.transportOperation = some query.operation)
    (hepoch : query.epoch = store.transportOperationEpoch) : (store.armAgain query).Timed := by
  unfold armAgain
  rw [if_pos ⟨htransition, hoperation, decide_eq_true hepoch.symm⟩]
  unfold Timed armOperationTimer clearTerminalReconciliationTimer clearTransportTimer
  dsimp only
  rw [hoperation, hepoch]
  rfl

/-- The answer to the question of the present transition ends the operation or times it again. -/
theorem reconcile_timed (htransition : query.operation.isTransition = true)
    (hoperation : store.playback.transportOperation = some query.operation)
    (hepoch : query.epoch = store.transportOperationEpoch)
    (htoken : query.token = store.playbackReconciliationEpoch) (hlive : store.boundLive = true)
    (reply : Except String PlaybackStatus) (library : LibraryView) :
    (store.reconcilePlaybackAfterTimeout query reply library).1.Timed := by
  unfold reconcilePlaybackAfterTimeout
  rw [if_pos (canApply_of_matching hoperation hepoch htoken)]
  cases reply with
  | error message => exact endOperation_timed _ store
  | ok status =>
    dsimp only
    split
    · exact bindNative_timed _ library store
    · unfold withoutActive
      split
      · rename_i terminal _
        have hemitted : TurnMove store.clearTerminalReconciliationTimer
            (store.clearTerminalReconciliationTimer.emitReconciledTerminal terminal library) :=
          emitReconciledTerminal_operation
        rcases hemitted.move.timed with hkept | htimed
        · exact armAgain_timed htransition (hkept.operation.trans hoperation)
            (hepoch.trans hkept.epoch.symm)
        · exact (armAgain_operation query _).keeps_timed htimed
      · split
        · rename_i sessionId hbound
          unfold boundLive at hlive
          rw [hbound] at hlive
          have haccepts : store.clearTerminalReconciliationTimer.acceptsSessionEvent
              (store.sessionRetiredEvent sessionId).sessionId
              (store.sessionRetiredEvent sessionId).songId = true :=
            accepts_of_bound (of_decide_eq_true hlive) hbound
          unfold handleEvent
          rw [if_pos haccepts]
          exact sessionFailed_timed
        · exact (withoutSession_operation store).2

/-- Every answer to a question that waits for the present transition is an end of it or a new timer. -/
theorem Rescued.answered (h : Rescued ui operation query) {other : StatusQuery} (hasked : ui.Asks other)
    (htoken : other.token = ui.store.playbackReconciliationEpoch)
    (reply : Except String PlaybackStatus) (library : LibraryView) :
    (ui.store.reconcilePlaybackAfterTimeout other reply library).1.Timed := by
  obtain ⟨hoperation, hepoch⟩ := h.matching other hasked htoken
  apply reconcile_timed
  · rw [hoperation]
    exact h.transition
  · rw [hoperation]
    exact h.present
  · exact hepoch
  · exact htoken
  · exact h.live

/-! ### Steps -/

/-- The session that is bound stays one that has not ended. -/
theorem boundLive_of_move {known : String → Prop} (hmove : SessionMove known store after)
    (h : store.boundLive = true) : after.boundLive = true := by
  unfold boundLive at h ⊢
  have hof (hretired : after.sessionLedger.retiredSessions = store.sessionLedger.retiredSessions)
      (hbound : after.playback.sessionId = store.playback.sessionId ∨
        after.playback.sessionId = none) :
      after.playback.sessionId.all (fun sessionId =>
        after.sessionLedger.isRetired sessionId = false) = true := by
    unfold PlaybackSessionLedger.isRetired at h ⊢
    rcases hbound with hsame | hnone
    · rw [hsame, hretired]
      exact h
    · rw [hnone]
      rfl
  cases hmove with
  | kept kept => exact hof kept.retired kept.bound
  | bound sessionId _ live bound retired _ _ =>
    rcases bound with hbound | hnone
    · rw [hbound]
      unfold PlaybackSessionLedger.isRetired at live ⊢
      rw [retired]
      exact decide_eq_true live
    · rw [hnone]
      rfl
  | ended sessionId outcome _ bound =>
    rw [bound]
    rfl
  | dropped sessionId songId _ bound retired => exact hof retired bound

/-- No operation waits for a status where none does. -/
theorem OperationSound.timed (h : OperationSound ui) (hsettled : ui.store.settled = true) :
    ui.store.Timed := by
  rcases h.settled with htimed | ⟨operation, query, hrescued⟩
  · exact htimed
  · rcases of_decide_eq_true hsettled with hnone | hsome
    · rw [hrescued.present] at hnone
      cases hnone
    · rw [hrescued.timer] at hsome
      cases hsome

/-- A timer that runs is the one of the present operation. -/
theorem OperationSound.timer (h : OperationSound ui) {epoch : ℕ}
    (htimer : ui.store.transportOperationTimer = some (epoch, operation)) :
    ui.store.playback.transportOperation = some operation ∧
      epoch = ui.store.transportOperationEpoch := by
  have htimed : ui.store.Timed := h.timed (decide_eq_true (.inr (by rw [htimer]; rfl)))
  unfold Timed at htimed
  rw [htimer] at htimed
  obtain ⟨present, hpresent, hpair⟩ := Option.map_eq_some_iff.mp htimed.symm
  obtain ⟨rfl, rfl⟩ := Prod.mk.inj hpair
  exact ⟨hpresent, rfl⟩

/-- What was asked for stays so until it is answered. -/
theorem mem_eraseIdx_of_ne {tasks : List (ℕ × UiTask)} {index since : ℕ} {task other : UiTask}
    (htask : tasks[index]? = some (since, task)) (hne : other ≠ task)
    (hmem : other ∈ tasks.map Prod.snd) : other ∈ (tasks.eraseIdx index).map Prod.snd := by
  obtain ⟨asked, hasked, rfl⟩ := List.mem_map.mp hmem
  obtain ⟨place, hplace⟩ := List.mem_iff_getElem?.mp hasked
  refine List.mem_map_of_mem (List.mem_eraseIdx_iff_getElem?.mpr ⟨place, ?_, hplace⟩)
  rintro rfl
  rw [htask] at hplace
  obtain rfl := Option.some.inj hplace
  exact hne rfl

/-- What is left of the questions after one is answered was asked before. -/
theorem map_eraseIdx_subset {tasks : List (ℕ × UiTask)} {index : ℕ} :
    (tasks.eraseIdx index).map Prod.snd ⊆ tasks.map Prod.snd :=
  List.map_subset Prod.snd (List.eraseIdx_sublist tasks index).subset

/-- What is asked for after a turn. -/
theorem map_after {tasks : List (ℕ × UiTask)} :
    (ui.after tasks turn).tasks.map Prod.snd = tasks.map Prod.snd ++ turn.2 := by
  unfold Interface.after
  rw [List.map_append, List.map_map]
  have hid : Prod.snd ∘ (fun task : UiTask => (ui.statuses.length, task)) = id := rfl
  rw [hid, List.map_id]

/-- A turn keeps the operation sound. A question that it takes away is not the one that a transition waits
for, unless the turn leaves the operation timed. -/
theorem OperationSound.after_turn (h : OperationSound ui) (hstep : TurnStep ui.store turn)
    {tasks : List (ℕ × UiTask)} (hsubset : tasks.map Prod.snd ⊆ ui.tasks.map Prod.snd)
    (hlive : turn.1.Timed ∨ (ui.store.boundLive = true → turn.1.boundLive = true))
    (hkeeps : turn.1.Timed ∨ ∀ query, ui.Asks query →
      query.token = ui.store.playbackReconciliationEpoch → .reconcile query ∈ tasks.map Prod.snd) :
    OperationSound (ui.after tasks turn) := by
  have hgrow := hstep.move.toNumbersGrow
  have hsound : ∀ task ∈ (ui.after tasks turn).tasks.map Prod.snd, task.Sound turn.1 := by
    intro task htask
    rw [map_after] at htask
    rcases List.mem_append.mp htask with hold | hnew
    · exact (h.tasks task (hsubset hold)).move hgrow
    · exact hstep.sound task hnew
  have hterminal : ∀ timer ∈ turn.1.terminalReconciliationTimer,
      timer.token ≤ turn.1.playbackReconciliationEpoch := by
    intro timer htimer
    rcases hstep.move.terminal timer htimer with hbefore | hle
    · exact (h.terminal timer hbefore).trans hgrow.token_le
    · exact hle
  refine ⟨hsound, hterminal, ?_⟩
  by_cases htimed : turn.1.Timed
  · exact .inl htimed
  · have hkept := hstep.move.timed.resolve_right htimed
    rcases h.settled with hbefore | ⟨operation, query, hrescued⟩
    · exact absurd (hkept.keeps_timed hbefore) htimed
    · refine .inr ⟨operation, query, hkept.operation.trans hrescued.present, hrescued.transition,
        hkept.timer.trans hrescued.timer, ?_, hrescued.current.trans hkept.token.symm, ?_, ?_, ?_⟩
      · unfold Interface.Asks
        rw [map_after]
        exact List.mem_append_left _
          (hkeeps.resolve_left htimed query hrescued.asked hrescued.current)
      · intro other hother htoken
        have hbefore : other.token = ui.store.playbackReconciliationEpoch := htoken.trans hkept.token
        unfold Interface.Asks at hother
        rw [map_after] at hother
        rcases List.mem_append.mp hother with hold | hnew
        · obtain ⟨hoperation, hepoch⟩ := hrescued.matching other (hsubset hold) hbefore
          exact ⟨hoperation, hepoch.trans hkept.epoch.symm⟩
        · rcases hstep.asked other hnew with hnow | ⟨timer, htimer, heq⟩
          · exact absurd hnow htimed
          · have hlt := hrescued.terminal timer htimer
            omega
      · intro timer htimer
        have hlt := hrescued.terminal timer (hkept.terminal timer htimer)
        rw [show (ui.after tasks turn).store.playbackReconciliationEpoch =
          ui.store.playbackReconciliationEpoch from hkept.token]
        exact hlt
      · exact hlive.resolve_left htimed hrescued.live

/-- A transition waits for its status once it is asked for under a new token. -/
theorem OperationSound.asking (h : OperationSound ui) {asking : PlaybackStore}
    (hpresent : asking.playback.transportOperation = some query.operation)
    (htransition : query.operation.isTransition = true)
    (htimer : asking.transportOperationTimer = none)
    (hepoch : query.epoch = asking.transportOperationEpoch)
    (htoken : query.token = asking.playbackReconciliationEpoch)
    (hnew : asking.playbackReconciliationEpoch = ui.store.playbackReconciliationEpoch + 1)
    (hterminal : asking.terminalReconciliationTimer = ui.store.terminalReconciliationTimer)
    (hlive : asking.boundLive = true) :
    Rescued (ui.after ui.tasks (asking, [.reconcile query])) query.operation query where
  present := hpresent
  transition := htransition
  timer := htimer
  asked := by
    unfold Interface.Asks
    rw [map_after]
    exact List.mem_append_right _ (List.mem_singleton.mpr rfl)
  current := htoken
  matching other hother hcurrent := by
    unfold Interface.Asks at hother
    rw [map_after] at hother
    rcases List.mem_append.mp hother with hold | hasked
    · have hle : other.token ≤ ui.store.playbackReconciliationEpoch := h.tasks _ hold
      have hnext : other.token = asking.playbackReconciliationEpoch := hcurrent
      omega
    · obtain rfl := UiTask.reconcile.inj (List.mem_singleton.mp hasked)
      exact ⟨rfl, hepoch⟩
  terminal timer hmem := by
    have hle : timer.token ≤ ui.store.playbackReconciliationEpoch :=
      h.terminal timer (by rw [← hterminal]; exact hmem)
    have hlt : timer.token < asking.playbackReconciliationEpoch := by omega
    exact hlt
  live := hlive

/-- The tasks stay sound when a status is asked for under a new token. -/
theorem OperationSound.asking_sound (h : OperationSound ui) {asking : PlaybackStore}
    (hgrow : NumbersGrow ui.store asking) (htoken : query.token = asking.playbackReconciliationEpoch) :
    ∀ task ∈ (ui.after ui.tasks (asking, [.reconcile query])).tasks.map Prod.snd,
      task.Sound asking := by
  intro task htask
  rw [map_after] at htask
  rcases List.mem_append.mp htask with hold | hnew
  · exact (h.tasks task hold).move hgrow
  · rw [List.mem_singleton.mp hnew]
    exact htoken.le

/-- The user's own question takes the place of the one that a transition waits for. -/
theorem OperationSound.retry (h : OperationSound ui) :
    OperationSound (ui.after ui.tasks ui.store.retryPlaybackStatus) := by
  unfold retryPlaybackStatus
  split
  · refine h.after_turn (OperationMove.refl _).asks_nothing.step (List.Subset.refl _) (.inr id) ?_
    exact .inr fun query hasked _ => hasked
  · dsimp only
    refine ⟨h.asking_sound ⟨le_rfl, fun _ => rfl, Nat.le_succ _⟩ rfl,
      fun timer htimer => (h.terminal timer htimer).trans (Nat.le_succ _), ?_⟩
    rcases h.settled with htimed | ⟨operation, query, hrescued⟩
    · exact .inl htimed
    · have hoperation : ui.store.playback.transportOperation.getD .starting = operation := by
        rw [hrescued.present]
        rfl
      refine .inr ⟨_, _, h.asking ?_ ?_ hrescued.timer rfl rfl rfl rfl hrescued.live⟩
      · rw [hoperation]
        exact hrescued.present
      · rw [hoperation]
        exact hrescued.transition

/-- A timer that runs out asks for the status, and only a transition waits for it. -/
theorem OperationSound.timeout (h : OperationSound ui) (hturn : ui.store.operationTimedOut = some turn)
    (hlive : ∀ epoch operation, ui.store.transportOperationTimer = some (epoch, operation) →
      operation.isTransition = true → ui.store.boundLive = true) :
    OperationSound (ui.after ui.tasks turn) := by
  unfold operationTimedOut at hturn
  split at hturn
  · cases hturn
  · rename_i epoch operation htimer
    obtain ⟨hpresent, hepoch⟩ := h.timer htimer
    have hcurrent : ui.store.clearTransportTimer.operationIsCurrent epoch = true :=
      decide_eq_true hepoch.symm
    have hterminal : ∀ timer ∈ ui.store.terminalReconciliationTimer,
        timer.token ≤ ui.store.playbackReconciliationEpoch + 1 :=
      fun timer hmem => (h.terminal timer hmem).trans (Nat.le_succ _)
    dsimp only at hturn
    rw [if_pos hcurrent] at hturn
    split at hturn
    · rename_i htransition
      obtain rfl := Option.some.inj hturn
      refine ⟨h.asking_sound ⟨le_rfl, fun _ => rfl, Nat.le_succ _⟩ rfl, hterminal, ?_⟩
      exact .inr ⟨_, _, h.asking hpresent htransition rfl hepoch rfl rfl rfl
        (hlive epoch operation htimer htransition)⟩
    · obtain rfl := Option.some.inj hturn
      refine ⟨h.asking_sound ⟨Nat.le_succ _, fun hsame => ?_, Nat.le_succ _⟩ rfl, hterminal, .inl rfl⟩
      exact absurd hsame (Nat.succ_ne_self _)

/-- An action keeps the operation sound. -/
theorem OperationSound.act (h : OperationSound ui) {action : UiAction}
    (hkeeps : ui.keepsQuestion (.act action library) = true)
    (hmade : action.made library ui.store = some turn) : OperationSound (ui.after ui.tasks turn) := by
  by_cases hretry : action = .retryPlaybackStatus
  · subst hretry
    obtain rfl := Option.some.inj hmade
    exact h.retry
  · by_cases htimeout : action = .operationTimedOut
    · subst htimeout
      refine h.timeout hmade fun epoch operation htimer htransition => ?_
      unfold Interface.keepsQuestion at hkeeps
      dsimp only at hkeeps
      rw [htimer] at hkeeps
      exact of_decide_eq_true hkeeps htransition
    · have hstep : TurnStep ui.store turn := by
        refine made_operation hmade h.terminal ?_ hretry htimeout
        intro event hevent haccepts hreports
        subst hevent
        exact h.timed (of_decide_eq_true hkeeps haccepts hreports)
      have hmove : SessionMove (fun _ => True) ui.store turn.1 :=
        made_moves hmade fun _ _ _ => trivial
      exact h.after_turn hstep (List.Subset.refl _) (.inr (boundLive_of_move hmove))
        (.inr fun query hasked _ => hasked)

/-- An answer to the question of the present transition leaves the operation timed. -/
theorem OperationSound.answer_timed (h : OperationSound ui) {index since : ℕ}
    {reply : Except String PlaybackStatus} (htask : ui.tasks[index]? = some (since, .reconcile query))
    (happly : ui.store.canApply query = true)
    (hanswered : (UiTask.reconcile query).answered (.status reply) library ui.store = some turn) :
    turn.1.Timed := by
  have htoken : query.token = ui.store.playbackReconciliationEpoch :=
    (of_decide_eq_true happly).1.symm
  have hasked : ui.Asks query :=
    List.mem_map.mpr ⟨(since, .reconcile query), List.mem_of_getElem? htask, rfl⟩
  have htimed : (ui.store.reconcilePlaybackAfterTimeout query reply library).1.Timed := by
    rcases h.settled with htimed | ⟨operation, waiting, hrescued⟩
    · exact reconcile_operation.move.keeps_timed htimed
    · exact hrescued.answered hasked htoken reply library
  obtain rfl := Option.some.inj hanswered
  dsimp only
  split
  · exact (retryEnded_operation _).keeps_timed htimed
  · exact htimed

/-- An answer keeps the operation sound. -/
theorem OperationSound.answer (h : OperationSound ui) {index since : ℕ} {task : UiTask}
    {answer : UiAnswer} (hkeeps : ui.keepsQuestion (.answer index answer library) = true)
    (htask : ui.tasks[index]? = some (since, task))
    (hanswered : task.answered answer library ui.store = some turn) :
    OperationSound (ui.after (ui.tasks.eraseIdx index) turn) := by
  have hmem : task ∈ ui.tasks.map Prod.snd :=
    List.mem_map.mpr ⟨(since, task), List.mem_of_getElem? htask, rfl⟩
  have hstep : TurnStep ui.store turn := by
    refine answered_operation hanswered (h.tasks task hmem) ?_
    intro operationEpoch sessionId startRequestId state hstop hreply hover
    subst hstop
    subst hreply
    unfold Interface.keepsQuestion at hkeeps
    dsimp only at hkeeps
    rw [htask] at hkeeps
    exact h.timed (of_decide_eq_true hkeeps hover)
  by_cases hused : ∃ query reply, task = .reconcile query ∧ answer = .status reply ∧
      ui.store.canApply query = true
  · obtain ⟨query, reply, rfl, rfl, happly⟩ := hused
    have htimed := h.answer_timed htask happly hanswered
    exact h.after_turn hstep map_eraseIdx_subset (.inl htimed) (.inl htimed)
  · have hmove : SessionMove (fun _ => True) ui.store turn.1 := by
      refine answered_moves hanswered (fun _ _ _ _ _ => trivial) ?_
      intro query status session hquery hreply _
      exact Bool.eq_false_iff.mpr fun happly =>
        hused ⟨query, .ok status, hquery, hreply, happly⟩
    by_cases htimed : turn.1.Timed
    · exact h.after_turn hstep map_eraseIdx_subset (.inl htimed) (.inl htimed)
    · refine h.after_turn hstep map_eraseIdx_subset (.inr (boundLive_of_move hmove)) (.inr ?_)
      intro query hasked htoken
      refine mem_eraseIdx_of_ne htask (fun heq => ?_) hasked
      subst heq
      -- The question that waits for the transition could have been used, whatever the answer was.
      have happly : ui.store.canApply query = true := by
        rcases h.settled with hbefore | ⟨operation, waiting, hrescued⟩
        · exact absurd (hstep.move.keeps_timed hbefore) htimed
        · obtain ⟨hoperation, hepoch⟩ := hrescued.matching query hasked htoken
          exact canApply_of_matching (by rw [hoperation]; exact hrescued.present) hepoch htoken
      cases answer with
      | status reply => exact hused ⟨query, reply, rfl, rfl, happly⟩
      | prepared | started | acknowledged | retired | handedOff | row => cases hanswered

/-- A step that takes no token from a question keeps the operation sound. -/
theorem OperationSound.step (h : OperationSound ui) {input : UiInput}
    (hkeeps : ui.keepsQuestion input = true) (hstep : ui.step input = some next) :
    OperationSound next := by
  cases input with
  | statusChanged status =>
    obtain rfl := Option.some.inj hstep
    refine ⟨h.tasks, h.terminal, h.settled.imp id ?_⟩
    rintro ⟨operation, query, hrescued⟩
    exact ⟨operation, query, hrescued.present, hrescued.transition, hrescued.timer, hrescued.asked,
      hrescued.current, hrescued.matching, hrescued.terminal, hrescued.live⟩
  | act action library =>
    obtain ⟨turn, hmade, rfl⟩ := Option.map_eq_some_iff.mp hstep
    exact h.act hkeeps hmade
  | answer index answer library =>
    obtain ⟨since, task, turn, htask, -, hanswered, rfl⟩ := step_answer hstep
    exact h.answer hkeeps htask hanswered

/-- The operation is none, or its timer runs under its number. -/
def PlaybackStore.Ends (store : PlaybackStore) : Prop :=
  store.playback.transportOperation = none ∨ ∃ operation,
    store.playback.transportOperation = some operation ∧
      store.transportOperationTimer = some (store.transportOperationEpoch, operation)

/-- An operation that is timed ends. -/
theorem Timed.ends (h : store.Timed) : store.Ends := by
  unfold Timed at h
  cases hoperation : store.playback.transportOperation with
  | none => exact .inl hoperation
  | some operation =>
    rw [hoperation] at h
    exact .inr ⟨operation, hoperation, h⟩

/-- A transport operation has a timer that runs under its number, or a question for the status waits for an
answer under the present token, and every answer and every refusal ends the operation or times it
again. -/
def OperationEnds (ui : Interface) : Prop :=
  ui.store.Ends ∨ ∃ query, ui.Asks query ∧ query.token = ui.store.playbackReconciliationEpoch ∧
    ∀ (reply : Except String PlaybackStatus) (library : LibraryView),
      (ui.store.reconcilePlaybackAfterTimeout query reply library).1.Ends

/-- In a run that takes no token from a question, every transport operation comes to an end. -/
theorem transport_operations_end {inputs : List UiInput}
    (hrun : Interface.machine.run .initial inputs = some ui)
    (hkeeps : Interface.machine.Meets (fun ui input => ui.keepsQuestion input = true) .initial
      inputs) : OperationEnds ui := by
  have hsound : OperationSound ui := by
    refine Machine.run_preserves_of_meets (P := OperationSound) ?_ hrun hkeeps ?_
    · intro before input after hinput hbefore hstep
      exact hbefore.step hinput hstep
    · exact ⟨fun _ htask => absurd htask List.not_mem_nil, forall_mem_none, .inl rfl⟩
  rcases hsound.settled with htimed | ⟨operation, query, hrescued⟩
  · exact .inl (Timed.ends htimed)
  · refine .inr ⟨query, hrescued.asked, hrescued.current, fun reply library => ?_⟩
    exact Timed.ends (hrescued.answered hrescued.asked hrescued.current reply library)

/-- The next song is asked for and is started as session `t`, slowly: the timer of the transition runs out,
and the status is asked for. -/
def slowTransition : List UiInput :=
  [.act .nextPlayback currentLibrary,
    .act (.eventReceived (.finished "s" "song" "skipped")) currentLibrary,
    .answer 0 (.acknowledged (.ok .finished)) currentLibrary,
    .answer 0 (.retired (some .finished)) currentLibrary,
    .answer 0 (.row (.ok ⟨"next song", "Next song", false, 1⟩)) currentLibrary,
    .answer 0 (.prepared (.ok ⟨some "next plan", .ready, none, none, []⟩)) currentLibrary,
    .act .operationTimedOut currentLibrary,
    .statusChanged ⟨some ⟨"t", "next plan", "next song", "Next song", .starting⟩, none⟩,
    .answer 0 (.started (.ok "t")) currentLibrary]

/-- The session `t` ends before it has played, and then the status is answered. -/
def transitionEnds : List UiInput :=
  [.act (.eventReceived (.stateChanged "t" "next song" .finished none)) currentLibrary,
    .act (.eventReceived (.finished "t" "next song" "quit")) currentLibrary,
    .statusChanged
      ⟨none, some ⟨"t", "next plan", "next song", .finished, some "quit", none, none⟩⟩,
    .answer 0 (.status (.ok
      ⟨none, some ⟨"t", "next plan", "next song", .finished, some "quit", none, none⟩⟩))
      currentLibrary]

/-- The status of a slow transition is asked for, and it is the only one to end it. -/
theorem transport_operations_end_scenario : ∃ ui,
    Interface.machine.run .initial (songStarts ++ slowTransition) = some ui ∧
    ui.store.playback.transportOperation = some .advancing ∧
    ui.store.transportOperationTimer = none ∧ OperationEnds ui := by
  have hcheck : (Interface.machine.run .initial (songStarts ++ slowTransition)).any (fun ui =>
      ui.store.playback.transportOperation = some .advancing ∧
        ui.store.transportOperationTimer = none) = true := by decide +kernel
  obtain ⟨ui, hrun, hui⟩ := (Option.any_eq_true _ _).mp hcheck
  obtain ⟨hoperation, htimer⟩ := of_decide_eq_true hui
  exact ⟨ui, hrun, hoperation, htimer, transport_operations_end hrun (by decide +kernel)⟩

/-- The session of a slow transition ends before it has played: its last state takes the token of the status
that is asked for, and its end leaves the transition as it is. Then nothing is left that would end it. -/
theorem transition_is_orphaned : ∃ ui,
    Interface.machine.run .initial (songStarts ++ slowTransition ++ transitionEnds) = some ui ∧
    ui.tasks = [] ∧ ui.store.terminalReconciliationTimer = none ∧ ¬OperationEnds ui := by
  have hcheck : (Interface.machine.run .initial
      (songStarts ++ slowTransition ++ transitionEnds)).any (fun ui => ui.tasks = [] ∧
        ui.store.terminalReconciliationTimer = none ∧
        ui.store.playback.transportOperation = some .advancing ∧
        ui.store.transportOperationTimer = none) = true := by decide +kernel
  obtain ⟨ui, hrun, hui⟩ := (Option.any_eq_true _ _).mp hcheck
  obtain ⟨htasks, hterminal, hoperation, htimer⟩ := of_decide_eq_true hui
  refine ⟨ui, hrun, htasks, hterminal, fun hends => ?_⟩
  rcases hends with hstore | ⟨query, hasks, -⟩
  · rcases hstore with hnone | ⟨operation, -, htimed⟩
    · rw [hoperation] at hnone
      cases hnone
    · rw [htimer] at htimed
      cases htimed
  · unfold Interface.Asks at hasks
    rw [htasks] at hasks
    exact absurd hasks List.not_mem_nil

end SkyAutoPlayer.DesktopUi
