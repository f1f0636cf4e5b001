import SkyAutoPlayer.DesktopUi.PlaybackActions

/-!
# What a turn makes of the sessions

A turn keeps the sessions, or it binds one, ends one, drops the end of one that the interface does not
know, or takes the one that the native side plays. A session that an event or a start binds has not
ended.
-/

namespace SkyAutoPlayer.DesktopUi

open Foundation PlaybackStore

/-- A turn ends no session and binds none, and it may leave none bound. -/
structure SessionsKept (before after : PlaybackStore) : Prop where
  retired : after.sessionLedger.retiredSessions = before.sessionLedger.retiredSessions
  ended : after.ended = before.ended
  dropped : after.dropped = before.dropped
  bound : after.playback.sessionId = before.playback.sessionId ∨ after.playback.sessionId = none

/-- What a turn makes of the sessions. A session that it binds has a property. -/
inductive SessionMove (known : String → Prop) (before after : PlaybackStore) : Prop
  | kept (kept : SessionsKept before after)
  /-- A session that has not ended is bound. -/
  | bound (sessionId : String) (known : known sessionId)
      (live : before.sessionLedger.isRetired sessionId = false)
      (bound : after.playback.sessionId = some sessionId ∨ after.playback.sessionId = none)
      (retired : after.sessionLedger.retiredSessions = before.sessionLedger.retiredSessions)
      (ended : after.ended = before.ended) (dropped : after.dropped = before.dropped)
  /-- A session ends. -/
  | ended (sessionId : String) (outcome : RetiredSessionOutcome)
      (live : before.sessionLedger.isRetired sessionId = false)
      (bound : after.playback.sessionId = none)
      (retired : after.sessionLedger.retiredSessions =
        before.sessionLedger.retiredSessions.rememberRetiredSession sessionId outcome)
      (ended : after.ended = sessionId :: before.ended) (dropped : after.dropped = before.dropped)
  /-- The end of a session is not taken. -/
  | dropped (sessionId songId : String)
      (refused : before.acceptsSessionEvent sessionId songId = false)
      (bound : after.playback.sessionId = before.playback.sessionId ∨
        after.playback.sessionId = none)
      (retired : after.sessionLedger.retiredSessions = before.sessionLedger.retiredSessions)
      (ended : after.ended = sessionId :: before.ended)
      (dropped : after.dropped =
        if before.sessionLedger.isRetired sessionId then before.dropped
        else sessionId :: before.dropped)

namespace SessionsKept

variable {before middle after : PlaybackStore}

/-- Nothing is done. -/
theorem refl (store : PlaybackStore) : SessionsKept store store := ⟨rfl, rfl, rfl, .inl rfl⟩

/-- One thing is done after another. -/
theorem trans (first : SessionsKept before middle) (second : SessionsKept middle after) :
    SessionsKept before after where
  retired := second.retired.trans first.retired
  ended := second.ended.trans first.ended
  dropped := second.dropped.trans first.dropped
  bound := by
    rcases second.bound with hsame | hnone
    · rw [hsame]
      exact first.bound
    · exact .inr hnone

end SessionsKept

/-- What keeps the sessions after a move does not change what the move was. -/
theorem SessionMove.then_kept {known : String → Prop} {before middle after : PlaybackStore}
    (move : SessionMove known before middle) (kept : SessionsKept middle after) :
    SessionMove known before after := by
  have hnone (h : middle.playback.sessionId = none) : after.playback.sessionId = none :=
    kept.bound.elim (fun hsame => hsame.trans h) id
  cases move with
  | kept first => exact .kept (first.trans kept)
  | bound sessionId hknown live bound retired ended dropped =>
    have hbound : after.playback.sessionId = some sessionId ∨ after.playback.sessionId = none :=
      bound.elim (fun h => kept.bound.imp (fun hsame => hsame.trans h) id) fun h => .inr (hnone h)
    exact .bound sessionId hknown live hbound (kept.retired.trans retired) (kept.ended.trans ended)
      (kept.dropped.trans dropped)
  | ended sessionId outcome live bound retired ended dropped =>
    exact .ended sessionId outcome live (hnone bound) (kept.retired.trans retired)
      (kept.ended.trans ended) (kept.dropped.trans dropped)
  | dropped sessionId songId refused bound retired ended dropped =>
    have hbound : after.playback.sessionId = before.playback.sessionId ∨
        after.playback.sessionId = none :=
      bound.elim (fun h => kept.bound.imp (fun hsame => hsame.trans h) id) fun h => .inr (hnone h)
    exact .dropped sessionId songId refused hbound (kept.retired.trans retired)
      (kept.ended.trans ended) (kept.dropped.trans dropped)

variable {known : String → Prop} {store begun after : PlaybackStore} {library : LibraryView}
  {turn : Turn}

/-! ### Operations and timers -/

/-- The beginning of an operation keeps the sessions. -/
theorem beginOperation_keeps {operation : TransportOperation} {preempt : Bool} {epoch : ℕ}
    (h : store.beginOperation operation preempt = some (epoch, begun)) : SessionsKept store begun := by
  unfold beginOperation at h
  split at h
  · cases h
  · obtain ⟨-, rfl⟩ := Prod.mk.inj (Option.some.inj h)
    exact ⟨rfl, rfl, rfl, .inl rfl⟩

/-- An operation begins with the session that is bound. -/
theorem beginOperation_sessionId {operation : TransportOperation} {preempt : Bool} {epoch : ℕ}
    (h : store.beginOperation operation preempt = some (epoch, begun)) :
    begun.playback.sessionId = store.playback.sessionId := by
  unfold beginOperation at h
  split at h
  · cases h
  · obtain ⟨-, rfl⟩ := Prod.mk.inj (Option.some.inj h)
    rfl

/-- The end of an operation keeps the sessions. -/
theorem finishOperation_keeps (epoch : ℕ) (error : Option String) (store : PlaybackStore) :
    SessionsKept store (store.finishOperation epoch error) := by
  unfold finishOperation
  split
  · exact ⟨rfl, rfl, rfl, .inl rfl⟩
  · exact .refl store

/-! ### Transitions -/

/-- A transition that looks for its song keeps the sessions. -/
theorem resolveTarget_keeps (transition : Transition) (library : LibraryView) (store : PlaybackStore) :
    SessionsKept store (transition.resolveTarget library store).1 := by
  unfold Transition.resolveTarget
  split
  · exact finishOperation_keeps _ _ store
  · split
    · exact finishOperation_keeps _ _ store
    · exact .refl store

/-- A transition that goes on keeps the sessions. -/
theorem afterRetirement_keeps (transition : Transition) (library : LibraryView)
    (store : PlaybackStore) : SessionsKept store (transition.afterRetirement library store).1 := by
  unfold Transition.afterRetirement
  split
  · split
    · exact .refl store
    · exact resolveTarget_keeps transition library store
  · exact .refl store

/-- A transition that begins keeps the sessions. -/
theorem transitionContextPlayback_keeps (context : PlaybackContext) (position : ℕ)
    (operation : TransportOperation) (sessionId : Option String) (naturalRevision : Option ℕ)
    (library : LibraryView) (store : PlaybackStore) :
    SessionsKept store (transitionContextPlayback context position operation sessionId
      naturalRevision library store).1 := by
  unfold transitionContextPlayback
  split
  · exact .refl store
  · rename_i epoch begun hbegun
    have hkept := beginOperation_keeps hbegun
    dsimp only
    split
    · exact hkept.trans (finishOperation_keeps _ _ begun)
    · split
      · exact hkept.trans (afterRetirement_keeps _ library begun)
      · split
        · exact hkept
        · exact hkept

/-! ### Events -/

/-- The interface takes no event of a session that has ended. -/
theorem isRetired_of_accepts {sessionId songId : String}
    (h : store.acceptsSessionEvent sessionId songId = true) :
    store.sessionLedger.isRetired sessionId = false := by
  unfold acceptsSessionEvent at h
  split at h
  · cases h
  · rename_i hlive
    exact Bool.eq_false_iff.mpr hlive

/-- While a session is bound the interface takes no event of another one. -/
theorem eq_of_accepts {sessionId songId bound : String}
    (h : store.acceptsSessionEvent sessionId songId = true)
    (hbound : store.playback.sessionId = some bound) : bound = sessionId := by
  unfold acceptsSessionEvent at h
  split at h
  · cases h
  · rw [hbound] at h
    exact of_decide_eq_true h

/-- The interface takes the events of the session that is bound until it has ended. -/
theorem accepts_of_bound {sessionId songId : String}
    (hlive : store.sessionLedger.isRetired sessionId = false)
    (hbound : store.playback.sessionId = some sessionId) :
    store.acceptsSessionEvent sessionId songId = true := by
  unfold acceptsSessionEvent
  rw [if_neg (Bool.eq_false_iff.mp hlive), hbound]
  exact decide_eq_true rfl

/-- An event of a session that goes on binds it. -/
theorem bindSession_moves {sessionId songId : String} {state : PlaybackUiState}
    {title : Option String} {snapshot : Option PlaybackSnapshot} {error : Option String}
    (hknown : known sessionId) (hlive : store.sessionLedger.isRetired sessionId = false) :
    SessionMove known store (store.bindSession sessionId songId state title snapshot error) := by
  refine .bound sessionId hknown hlive (.inl rfl) PlaybackSessionLedger.retiredSessions_removePending ?_ ?_
  · unfold bindSession
    dsimp only
    split <;> rfl
  · unfold bindSession
    dsimp only
    split <;> rfl

/-- What a session tells of its state binds it. -/
theorem stateChanged_moves {sessionId songId : String} {state : PlaybackUiState}
    {message : Option String} (hknown : known sessionId)
    (hlive : store.sessionLedger.isRetired sessionId = false) :
    SessionMove known store (store.stateChanged sessionId songId state message) := by
  unfold stateChanged
  dsimp only
  split
  · exact (bindSession_moves hknown hlive).then_kept ⟨rfl, rfl, rfl, .inl rfl⟩
  · exact (bindSession_moves hknown hlive).then_kept ⟨rfl, rfl, rfl, .inl rfl⟩

/-- The end of a session leaves none bound. -/
theorem unbindSession_ends (sessionId songId : String) (outcome : RetiredSessionOutcome)
    (operation : Option TransportOperation) (state : PlaybackUiState) (error : Option String)
    (store : PlaybackStore) :
    (store.unbindSession sessionId songId outcome operation state error).playback.sessionId = none ∧
      (store.unbindSession sessionId songId outcome operation state
        error).sessionLedger.retiredSessions =
          store.sessionLedger.retiredSessions.rememberRetiredSession sessionId outcome ∧
      (store.unbindSession sessionId songId outcome operation state error).ended = store.ended ∧
      (store.unbindSession sessionId songId outcome operation state error).dropped =
        store.dropped := by
  refine ⟨rfl, PlaybackSessionLedger.retiredSessions_removePending, ?_, ?_⟩
  · unfold unbindSession retire
    dsimp only
    split
    · simp only [clearTerminalReconciliationTimer]
    · simp only [clearOperationFromEvent, clearTransportTimer, clearTerminalReconciliationTimer]
  · unfold unbindSession retire
    dsimp only
    split
    · simp only [clearTerminalReconciliationTimer]
    · simp only [clearOperationFromEvent, clearTransportTimer, clearTerminalReconciliationTimer]

/-- A session that has finished leaves none bound, also where the next song begins. -/
theorem sessionFinished_ends (sessionId songId outcome : String) (library : LibraryView)
    (store : PlaybackStore) : SessionsKept
      (store.unbindSession sessionId songId .finished store.continueOperation .idle none)
      (store.sessionFinished sessionId songId outcome library).1 := by
  unfold sessionFinished
  dsimp only
  split
  · exact .refl _
  · exact transitionContextPlayback_keeps ..

/-- The record of an event keeps what is bound, what has ended and what begins. -/
theorem recordEnd_keeps (event : PlaybackEvent) (store : PlaybackStore) :
    (store.recordEnd event).playback = store.playback ∧
      (store.recordEnd event).sessionLedger = store.sessionLedger := by
  unfold recordEnd
  split <;> exact ⟨rfl, rfl⟩

/-- The record of an event that does not end its session is none. -/
theorem recordEnd_of_not_terminal {event : PlaybackEvent} (h : event.terminal = false) :
    store.recordEnd event = store := by
  unfold recordEnd
  rw [h]
  rfl

/-- The record of an event that ends its session. -/
theorem recordEnd_of_terminal (store : PlaybackStore) {event : PlaybackEvent}
    (h : event.terminal = true) :
    (store.recordEnd event).ended = event.sessionId :: store.ended ∧
      (store.recordEnd event).dropped =
        if store.acceptsSessionEvent event.sessionId event.songId ∨
            store.sessionLedger.isRetired event.sessionId then store.dropped
        else event.sessionId :: store.dropped := by
  unfold recordEnd
  rw [h]
  exact ⟨rfl, rfl⟩

/-- An event that is not taken leaves no more than its record. -/
theorem refused_moves {event : PlaybackEvent}
    (h : store.acceptsSessionEvent event.sessionId event.songId = false) :
    SessionMove known store (store.recordEnd event) := by
  obtain ⟨hplayback, hledger⟩ := recordEnd_keeps event store
  have hretired : (store.recordEnd event).sessionLedger.retiredSessions =
      store.sessionLedger.retiredSessions := by rw [hledger]
  have hbound : (store.recordEnd event).playback.sessionId = store.playback.sessionId := by
    rw [hplayback]
  cases hterminal : event.terminal with
  | false => rw [recordEnd_of_not_terminal hterminal]; exact .kept (.refl store)
  | true =>
    obtain ⟨hended, hdropped⟩ := recordEnd_of_terminal store hterminal
    refine .dropped event.sessionId event.songId h (.inl hbound) hretired hended ?_
    rw [hdropped, h]
    simp

/-- An event that ends its session and that is taken. -/
theorem ends_moves {event : PlaybackEvent} (hterminal : event.terminal = true)
    (h : store.acceptsSessionEvent event.sessionId event.songId = true)
    {outcome : RetiredSessionOutcome} {operation : Option TransportOperation}
    {state : PlaybackUiState} {error : Option String} : SessionMove known store
      ((store.recordEnd event).unbindSession event.sessionId event.songId outcome operation state
        error) := by
  obtain ⟨-, hledger⟩ := recordEnd_keeps event store
  obtain ⟨hended, hdropped⟩ := recordEnd_of_terminal store hterminal
  obtain ⟨hnone, hretired, hkeptEnded, hkeptDropped⟩ := unbindSession_ends event.sessionId event.songId
    outcome operation state error (store.recordEnd event)
  rw [hledger] at hretired
  refine .ended event.sessionId outcome (isRetired_of_accepts h) hnone hretired
    (hkeptEnded.trans hended) (hkeptDropped.trans ?_)
  rw [hdropped, h]
  simp

/-- What an event makes of the sessions. It binds its own one. -/
theorem handleEvent_moves (event : PlaybackEvent)
    (hknown : store.acceptsSessionEvent event.sessionId event.songId = true →
      event.terminal = false → known event.sessionId) :
    SessionMove known store (store.handleEvent event library).1 := by
  unfold handleEvent
  split
  · rename_i haccepts
    have hlive := isRetired_of_accepts haccepts
    cases event with
    | stateChanged sessionId songId state message =>
      exact stateChanged_moves (hknown haccepts rfl) hlive
    | snapshot sessionId songId title state currentUs =>
      exact bindSession_moves (hknown haccepts rfl) hlive
    | finished sessionId songId outcome =>
      exact (ends_moves rfl haccepts).then_kept
        (sessionFinished_ends sessionId songId outcome library _)
    | failed sessionId songId code message => exact ends_moves rfl haccepts
  · rename_i hrefused
    exact refused_moves (Bool.eq_false_iff.mpr hrefused)

/-- The end of a session that a status tells of ends its event. -/
theorem terminal_event (terminal : LastTerminal) : terminal.event.terminal = true := by
  unfold LastTerminal.event
  split <;> rfl

/-! ### Reconciliation -/

/-- The end of an operation and of all its timers keeps the sessions. -/
theorem endOperation_keeps (error : Option String) (store : PlaybackStore) :
    SessionsKept store (store.endOperation error) := ⟨rfl, rfl, rfl, .inl rfl⟩

/-- A transition that gets its timer again keeps the sessions. -/
theorem armAgain_keeps (query : StatusQuery) (store : PlaybackStore) :
    SessionsKept store (store.armAgain query) := by
  unfold armAgain
  split
  · exact ⟨rfl, rfl, rfl, .inl rfl⟩
  · exact .refl store

/-- Where no session is bound and none is played, none ends. -/
theorem withoutSession_keeps (store : PlaybackStore) : SessionsKept store store.withoutSession := by
  unfold withoutSession
  split
  · exact ⟨rfl, rfl, rfl, .inl rfl⟩
  · exact endOperation_keeps _ store

/-- The end of a session that a status tells of. -/
theorem emitReconciledTerminal_moves (terminal : LastTerminal) (library : LibraryView)
    (store : PlaybackStore) :
    SessionMove known store (store.emitReconciledTerminal terminal library).1 := by
  unfold emitReconciledTerminal
  split
  · exact .kept (.refl store)
  · refine handleEvent_moves terminal.event fun _ hterminal => ?_
    rw [terminal_event terminal] at hterminal
    cases hterminal

/-- The timer of a session's end has no part in a move. -/
theorem SessionMove.of_cleared (h : SessionMove known store.clearTerminalReconciliationTimer after) :
    SessionMove known store after := by
  cases h with
  | kept kept => exact .kept ⟨kept.retired, kept.ended, kept.dropped, kept.bound⟩
  | bound sessionId hknown live bound retired ended dropped =>
    exact .bound sessionId hknown live bound retired ended dropped
  | ended sessionId outcome live bound retired ended dropped =>
    exact .ended sessionId outcome live bound retired ended dropped
  | dropped sessionId songId refused bound retired ended dropped =>
    exact .dropped sessionId songId refused bound retired ended dropped

/-- What a status without an active session makes of the sessions. -/
theorem withoutActive_moves (query : StatusQuery) (lastTerminal : Option LastTerminal)
    (library : LibraryView) (store : PlaybackStore) :
    SessionMove known store (store.withoutActive query lastTerminal library).1 := by
  unfold withoutActive
  split
  · rename_i terminal _
    apply SessionMove.of_cleared
    exact (emitReconciledTerminal_moves terminal library _).then_kept (armAgain_keeps query _)
  · split
    · rename_i bound _
      apply SessionMove.of_cleared
      exact handleEvent_moves (store.sessionRetiredEvent bound) fun _ hterminal => nomatch hterminal
    · exact .kept (withoutSession_keeps store)

/-- A status that is not used, that is refused or that has no active session. -/
theorem reconcile_moves {query : StatusQuery} {reply : Except String PlaybackStatus}
    (h : ∀ status session, reply = .ok status → status.active = some session →
      store.canApply query = false) :
    SessionMove known store (store.reconcilePlaybackAfterTimeout query reply library).1 := by
  unfold reconcilePlaybackAfterTimeout
  split
  · rename_i happly
    cases reply with
    | error message => exact .kept (endOperation_keeps _ store)
    | ok status =>
      dsimp only
      split
      · rename_i session hactive
        rw [h status session rfl hactive] at happly
        cases happly
      · exact withoutActive_moves query status.lastTerminal library store
  · exact .kept (.refl store)

/-- A status that is used and that has an active session binds it. -/
theorem reconcile_binds {query : StatusQuery} {status : PlaybackStatus} {session : ActiveSession}
    (happly : store.canApply query = true) (hactive : status.active = some session) :
    store.reconcilePlaybackAfterTimeout query (.ok status) library =
      (store.bindNative session library, []) := by
  unfold reconcilePlaybackAfterTimeout
  rw [if_pos happly]
  dsimp only
  rw [hactive]

/-- What the native session leaves of the sessions. -/
theorem bindNative_sessions (session : ActiveSession) (library : LibraryView)
    (store : PlaybackStore) :
    (store.bindNative session library).playback.sessionId = some session.sessionId ∧
      (store.bindNative session library).ended = store.ended ∧
      (store.bindNative session library).dropped = store.dropped ∧
      ((store.bindNative session library).sessionLedger.retiredSessions =
          store.sessionLedger.retiredSessions ∨
        ∃ bound, store.playback.sessionId = some bound ∧ store.conflicts session = true ∧
          (store.bindNative session library).sessionLedger.retiredSessions =
            store.sessionLedger.retiredSessions.rememberRetiredSession bound .failed) := by
  have hledger : (store.bindNative session library).sessionLedger.retiredSessions =
      (store.retireConflicting session).sessionLedger.retiredSessions :=
    PlaybackSessionLedger.retiredSessions_removePending
  have hended : (store.bindNative session library).ended =
      (store.retireConflicting session).ended := rfl
  have hdropped : (store.bindNative session library).dropped =
      (store.retireConflicting session).dropped := rfl
  refine ⟨rfl, ?_⟩
  rw [hledger, hended, hdropped]
  unfold retireConflicting
  split
  · rename_i bound hbound
    split
    · rename_i hconflict
      unfold retire
      dsimp only
      exact ⟨rfl, rfl, .inr ⟨bound, hbound, hconflict, rfl⟩⟩
    · exact ⟨rfl, rfl, .inl rfl⟩
  · exact ⟨rfl, rfl, .inl rfl⟩

/-! ### Starts and preparations -/

/-- A start that is no longer the present one keeps the sessions. -/
theorem releaseStartRequest_keeps (startEpoch : ℕ) (store : PlaybackStore) :
    SessionsKept store (store.releaseStartRequest startEpoch) := by
  unfold releaseStartRequest
  split
  · exact ⟨rfl, rfl, rfl, .inl rfl⟩
  · exact .refl store

/-- A start that is no longer under way keeps the sessions. -/
theorem removePendingStart_keeps (startEpoch : ℕ) (store : PlaybackStore) :
    SessionsKept store (store.removePendingStart startEpoch) := ⟨rfl, rfl, rfl, .inl rfl⟩

/-- A start that is released after it is over keeps the sessions. -/
theorem released_keeps (startEpoch : ℕ) (store : PlaybackStore) :
    SessionsKept store ((store.removePendingStart startEpoch).releaseStartRequest startEpoch) :=
  (removePendingStart_keeps startEpoch store).trans (releaseStartRequest_keeps startEpoch _)

/-- A request to start keeps the sessions. -/
theorem startForOperation_keeps {prepared : PreparedPlayback} {identity : PlaybackSongIdentity}
    {context : PlaybackContext} {operationEpoch : ℕ} {direct : Bool}
    (h : store.startForOperation prepared identity context operationEpoch direct = .ok turn) :
    SessionsKept store turn.1 := by
  unfold startForOperation at h
  split at h
  · split at h
    · cases h
    · obtain rfl := Except.ok.inj h
      exact ⟨rfl, rfl, rfl, .inl rfl⟩
  · obtain rfl := Except.ok.inj h
    exact .refl store

/-- A start that has failed keeps the sessions. -/
theorem startThrew_keeps (request : StartRequest) (message : String) (store : PlaybackStore) :
    SessionsKept store (store.startThrew request message) := by
  have hkept := finishOperation_keeps request.operationEpoch (some message) store
  unfold startThrew
  dsimp only
  split
  · exact hkept.trans ⟨rfl, rfl, rfl, .inl rfl⟩
  · exact hkept

/-- A start that the native side has refused keeps the sessions. -/
theorem startRefused_keeps (request : StartRequest) (message : String) (store : PlaybackStore) :
    SessionsKept store (store.startRefused request message) :=
  (released_keeps request.startEpoch store).trans (startThrew_keeps request message _)

namespace PlaybackStore

/-- The session that a start has made becomes the one that is bound. -/
def startBinds (request : StartRequest) (library : LibraryView) (store : PlaybackStore) : Bool :=
  store.playback.sessionId = none ∧
    (store.operationIsCurrent request.operationEpoch = true → library.contextCurrent = true)

end PlaybackStore

/-- A session that is bound to be stopped. -/
theorem bindOrphan_binds (request : StartRequest) (sessionId : String) (store : PlaybackStore) :
    (store.bindOrphan request sessionId).1.playback.sessionId = some sessionId ∧
      (store.bindOrphan request sessionId).1.sessionLedger.retiredSessions =
        store.sessionLedger.retiredSessions ∧
      (store.bindOrphan request sessionId).1.ended = store.ended ∧
      (store.bindOrphan request sessionId).1.dropped = store.dropped := by
  unfold bindOrphan
  dsimp only
  split
  · rename_i epoch stopping hstopping
    have hkept := beginOperation_keeps hstopping
    exact ⟨beginOperation_sessionId hstopping, hkept.retired, hkept.ended, hkept.dropped⟩
  · exact ⟨rfl, rfl, rfl, rfl⟩

/-- What a session that the native side has started makes of the sessions. -/
theorem startAnswered_moves {request : StartRequest} {sessionId : String}
    (hknown : store.startBinds request library = true → known sessionId) :
    SessionMove known store (store.startAnswered request sessionId library).1 := by
  have hreleased := released_keeps request.startEpoch store
  unfold startAnswered
  dsimp only
  split
  · exact .kept hreleased
  · rename_i hretired
    have hlive := Bool.eq_false_iff.mpr hretired
    split
    · rename_i hover
      split
      · rename_i hnone
        have hbinds : store.startBinds request library = true :=
          decide_eq_true ⟨hnone, fun hcurrent => absurd hcurrent hover⟩
        obtain ⟨hbound, hretired, hended, hdropped⟩ :=
          bindOrphan_binds request sessionId (store.removePendingStart request.startEpoch)
        exact .bound sessionId (hknown hbinds) hlive (.inl hbound) hretired hended hdropped
      · exact .kept hreleased
    · split
      · exact .kept (hreleased.trans (startThrew_keeps request _ _))
      · rename_i hcontext
        split
        · exact .kept hreleased
        · rename_i hother
          have hsame : store.playback.sessionId = none ∨
              store.playback.sessionId = some sessionId := by
            cases hbound : store.playback.sessionId with
            | none => exact .inl rfl
            | some bound =>
              rw [hbound] at hother
              exact .inr (by simpa using hother)
          rcases hsame with hnone | hearly
          · have hbinds : store.startBinds request library = true :=
              decide_eq_true ⟨hnone, fun _ => by simpa using hcontext⟩
            exact .bound sessionId (hknown hbinds) hlive (.inl rfl) rfl rfl rfl
          · exact .kept ⟨rfl, rfl, rfl, .inl hearly.symm⟩

/-- A preparation that is answered keeps the sessions. -/
theorem applyPrepared_keeps {identity : PlaybackSongIdentity} {context : PlaybackContext}
    {operationEpoch : ℕ} {reply : Except String PreparedPlayback} {prepared : Option PreparedPlayback}
    (h : store.applyPrepared identity context operationEpoch reply library = .ok (prepared, after)) :
    SessionsKept store after := by
  unfold applyPrepared at h
  split at h
  · cases h
  · split at h
    · cases h
    · split at h
      · obtain ⟨-, rfl⟩ := Prod.mk.inj (Except.ok.inj h)
        exact ⟨rfl, rfl, rfl, .inl rfl⟩
      · obtain ⟨-, rfl⟩ := Prod.mk.inj (Except.ok.inj h)
        exact .refl store

/-- The user's own preparation keeps the sessions. -/
theorem prepareAnswered_keeps (identity : PlaybackSongIdentity) (context : PlaybackContext)
    (operationEpoch : ℕ) (reply : Except String PreparedPlayback) (library : LibraryView)
    (store : PlaybackStore) :
    SessionsKept store (store.prepareAnswered identity context operationEpoch reply library) := by
  unfold prepareAnswered
  split
  · exact finishOperation_keeps _ _ store
  · rename_i happlied
    exact applyPrepared_keeps happlied
  · rename_i happlied
    exact (applyPrepared_keeps happlied).trans (finishOperation_keeps _ _ _)

/-- A transition that has left a moment keeps the sessions. -/
theorem handedOff_keeps (transition : Transition) (elapsed sameOwner : Bool) (library : LibraryView)
    (store : PlaybackStore) :
    SessionsKept store (transition.handedOff elapsed sameOwner library store).1 := by
  unfold Transition.handedOff
  split
  · exact .refl store
  · split
    · exact resolveTarget_keeps transition library store
    · exact finishOperation_keeps _ _ store

/-- A transition that has found its song keeps the sessions. -/
theorem resolved_keeps (transition : Transition) (index : ℕ)
    (reply : Except String PlaybackSongIdentity) (library : LibraryView) (store : PlaybackStore) :
    SessionsKept store (transition.resolved index reply library store).1 := by
  unfold Transition.resolved
  split
  · exact finishOperation_keeps _ _ store
  · split
    · exact .refl store
    · split
      · exact finishOperation_keeps _ _ store
      · exact .refl store

/-- A transition whose song is prepared keeps the sessions. -/
theorem prepared_keeps (transition : Transition) (identity : PlaybackSongIdentity)
    (context : PlaybackContext) (reply : Except String PreparedPlayback) (library : LibraryView)
    (store : PlaybackStore) :
    SessionsKept store (transition.prepared identity context reply library store).1 := by
  unfold Transition.prepared
  split
  · exact finishOperation_keeps _ _ store
  · rename_i happlied
    exact applyPrepared_keeps happlied
  · rename_i happlied
    have hkept := applyPrepared_keeps happlied
    split
    · exact hkept.trans (finishOperation_keeps _ _ _)
    · exact hkept.trans (finishOperation_keeps _ _ _)
    · split
      · exact hkept.trans (finishOperation_keeps _ _ _)
      · rename_i hstarted
        exact hkept.trans (startForOperation_keeps hstarted)

/-! ### Answers -/

/-- A stop that is acknowledged keeps the sessions. -/
theorem stopAcknowledged_keeps (operationEpoch : ℕ) (sessionId : String) (startRequestId : Option ℕ)
    (reply : Except String PlaybackUiState) (store : PlaybackStore) :
    SessionsKept store (stopAcknowledged operationEpoch sessionId startRequestId reply store).1 := by
  unfold stopAcknowledged
  split
  · exact finishOperation_keeps _ _ store
  · split
    · exact ⟨rfl, rfl, rfl, .inl rfl⟩
    · exact .refl store

/-- An acknowledgement keeps the sessions. -/
theorem acknowledged_keeps {α : Type} (operationEpoch : Option ℕ) (reply : Except String α)
    (store : PlaybackStore) : SessionsKept store (acknowledged operationEpoch reply store) := by
  unfold acknowledged
  split
  · exact finishOperation_keeps _ _ store
  · exact .refl store

/-- A transition that has awaited a session's end keeps the sessions. -/
theorem retirementAwaited_keeps {transition : Transition} {sessionId : String}
    {outcome : Option RetiredSessionOutcome}
    (h : retirementAwaited transition sessionId outcome library store = some turn) :
    SessionsKept store turn.1 := by
  unfold retirementAwaited at h
  split at h
  · obtain rfl := Option.some.inj h
    exact finishOperation_keeps _ _ store
  · split at h
    · split at h
      · obtain rfl := Option.some.inj h
        exact .refl store
      · obtain rfl := Option.some.inj h
        exact afterRetirement_keeps transition library store
    · cases h

/-- What the answer to a task makes of the sessions, unless it is a status with an active session that
is used. -/
theorem answered_moves {task : UiTask} {answer : UiAnswer}
    (h : task.answered answer library store = some turn)
    (hstart : ∀ request sessionId, task = .start request → answer = .started (.ok sessionId) →
      store.startBinds request library = true → known sessionId)
    (hstatus : ∀ query status session, task = .reconcile query → answer = .status (.ok status) →
      status.active = some session → store.canApply query = false) :
    SessionMove known store turn.1 := by
  unfold UiTask.answered at h
  split at h
  · rename_i query reply
    obtain rfl := Option.some.inj h
    have hmove : SessionMove known store (store.reconcilePlaybackAfterTimeout query reply library).1 :=
      reconcile_moves fun status session hreply hactive =>
        hstatus query status session rfl (by rw [hreply]) hactive
    dsimp only
    split
    · exact hmove.then_kept ⟨rfl, rfl, rfl, .inl rfl⟩
    · exact hmove
  · obtain rfl := Option.some.inj h
    exact .kept (prepareAnswered_keeps _ _ _ _ library store)
  · obtain rfl := Option.some.inj h
    exact .kept (startRefused_keeps _ _ store)
  · rename_i request sessionId
    obtain rfl := Option.some.inj h
    exact startAnswered_moves (hstart request sessionId rfl rfl)
  · obtain rfl := Option.some.inj h
    exact .kept (acknowledged_keeps _ _ store)
  · obtain rfl := Option.some.inj h
    exact .kept (stopAcknowledged_keeps _ _ _ _ store)
  · obtain rfl := Option.some.inj h
    exact .kept (acknowledged_keeps _ _ store)
  · obtain rfl := Option.some.inj h
    exact .kept (finishOperation_keeps _ _ store)
  · obtain rfl := Option.some.inj h
    exact .kept (.refl store)
  · exact .kept (retirementAwaited_keeps h)
  · obtain rfl := Option.some.inj h
    exact .kept (handedOff_keeps _ _ _ library store)
  · obtain rfl := Option.some.inj h
    exact .kept (resolved_keeps _ _ _ library store)
  · obtain rfl := Option.some.inj h
    exact .kept (prepared_keeps _ _ _ _ library store)
  · cases h

/-! ### Actions -/

/-- The user's preparation keeps the sessions. -/
theorem prepareSelectedPlayback_keeps (selection : Selection) (dryRun : Option Bool)
    (library : LibraryView) (store : PlaybackStore) :
    SessionsKept store (store.prepareSelectedPlayback selection dryRun library).1 := by
  unfold prepareSelectedPlayback
  dsimp only
  split
  · exact .refl store
  · split
    · exact .refl store
    · split
      · exact ⟨rfl, rfl, rfl, .inl rfl⟩
      · split
        · exact .refl store
        · rename_i epoch begun hbegun
          have hkept := beginOperation_keeps hbegun
          split
          · exact hkept
          · exact hkept.trans (finishOperation_keeps _ _ begun)

/-- The user's start keeps the sessions. -/
theorem startPreparedPlayback_keeps (decision : Option String) (library : LibraryView)
    (store : PlaybackStore) :
    SessionsKept store (store.startPreparedPlayback decision library).1 := by
  unfold startPreparedPlayback
  dsimp only
  split
  · exact .refl store
  · split
    · split
      · exact ⟨rfl, rfl, rfl, .inl rfl⟩
      · split
        · exact .refl store
        · split
          · exact ⟨rfl, rfl, rfl, .inl rfl⟩
          · split
            · exact .refl store
            · rename_i epoch begun hbegun
              have hkept := beginOperation_keeps hbegun
              split
              · exact hkept.trans (finishOperation_keeps _ _ begun)
              · rename_i hstarted
                exact hkept.trans (startForOperation_keeps hstarted)
    · exact ⟨rfl, rfl, rfl, .inl rfl⟩

/-- A prepared playback that the user forgets keeps the sessions. -/
theorem cancelPreparedPlayback_keeps (store : PlaybackStore) :
    SessionsKept store store.cancelPreparedPlayback := by
  unfold cancelPreparedPlayback
  split
  · exact .refl store
  · exact ⟨rfl, rfl, rfl, .inl rfl⟩

/-- The user's stop keeps the sessions. -/
theorem stopPlayback_keeps (store : PlaybackStore) : SessionsKept store store.stopPlayback.1 := by
  unfold stopPlayback
  split
  · exact .refl store
  · split
    · exact .refl store
    · split
      · exact .refl store
      · rename_i hbegun
        exact beginOperation_keeps hbegun

/-- The user's question for the status keeps the sessions. -/
theorem retryPlaybackStatus_keeps (store : PlaybackStore) :
    SessionsKept store store.retryPlaybackStatus.1 := by
  unfold retryPlaybackStatus
  split
  · exact .refl store
  · exact ⟨rfl, rfl, rfl, .inl rfl⟩

/-- A pause or a resumption keeps the sessions. -/
theorem controlPlayback_keeps (operation : TransportOperation) (state : PlaybackUiState)
    (store : PlaybackStore) : SessionsKept store (store.controlPlayback operation state).1 := by
  unfold controlPlayback
  split
  · exact .refl store
  · split
    · exact .refl store
    · rename_i hbegun
      exact beginOperation_keeps hbegun

/-- A move to another song keeps the sessions. -/
theorem movePlayback_keeps (target : PlaybackContext → Option ℕ) (operation : TransportOperation)
    (library : LibraryView) (store : PlaybackStore) :
    SessionsKept store (store.movePlayback target operation library).1 := by
  unfold movePlayback
  split
  · exact .refl store
  · split
    · exact .refl store
    · split
      · exact .refl store
      · exact transitionContextPlayback_keeps ..

/-- A preparation that is over keeps the sessions. -/
theorem cancelPreparing_keeps (store : PlaybackStore) : SessionsKept store store.cancelPreparing := by
  unfold cancelPreparing
  split
  · exact ⟨rfl, rfl, rfl, .inl rfl⟩
  · exact .refl store

/-- A change of the settings keeps the sessions. -/
theorem settingsPatched_keeps (patchAutoPlay : Option Bool) (safe autoPlay : Bool)
    (store : PlaybackStore) :
    SessionsKept store (store.settingsPatched patchAutoPlay safe autoPlay) := by
  unfold settingsPatched
  dsimp only
  have hrevised (store' : PlaybackStore) (h : SessionsKept store store') :
      SessionsKept store { store' with autoPlay } := h.trans ⟨rfl, rfl, rfl, .inl rfl⟩
  have hpatched : SessionsKept store { (if patchAutoPlay.isSome ∧ patchAutoPlay ≠ some store.autoPlay
      then { store with autoPlaySettingsRevision := store.autoPlaySettingsRevision + 1 }
      else store) with autoPlay } := by
    apply hrevised
    split
    · exact ⟨rfl, rfl, rfl, .inl rfl⟩
    · exact .refl store
  split
  · exact hpatched
  · exact hpatched.trans ((cancelPreparing_keeps _).trans ⟨rfl, rfl, rfl, .inl rfl⟩)

/-- What leaves out the present preparation keeps the sessions, and it may leave none bound. -/
theorem playbackAfterBrowserNavigation_keeps (store : PlaybackStore) :
    SessionsKept store store.playbackAfterBrowserNavigation := by
  have hcancelled : SessionsKept store (store.cancelPreparing.dropPrepared.showError none) :=
    (cancelPreparing_keeps store).trans ⟨rfl, rfl, rfl, .inl rfl⟩
  unfold playbackAfterBrowserNavigation
  dsimp only
  split
  · exact hcancelled
  · exact hcancelled.trans ⟨rfl, rfl, rfl, .inr rfl⟩

/-- A selection keeps the sessions, and it may leave none bound. -/
theorem songSelected_keeps (store : PlaybackStore) : SessionsKept store store.songSelected := by
  have hcancelled : SessionsKept store (store.cancelPreparing.dropPrepared.showError none) :=
    (cancelPreparing_keeps store).trans ⟨rfl, rfl, rfl, .inl rfl⟩
  unfold songSelected
  dsimp only
  split
  · exact hcancelled
  · exact hcancelled.trans ⟨rfl, rfl, rfl, .inr rfl⟩

/-- A change of a source keeps the sessions. -/
theorem invalidatePlaybackMembershipContext_keeps (preparedMatches : Bool) (store : PlaybackStore) :
    SessionsKept store (store.invalidatePlaybackMembershipContext preparedMatches) := by
  unfold invalidatePlaybackMembershipContext
  split
  · exact ⟨rfl, rfl, rfl, .inl rfl⟩
  · exact .refl store

/-- The timer of an operation keeps the sessions. -/
theorem operationTimedOut_keeps (h : store.operationTimedOut = some turn) :
    SessionsKept store turn.1 := by
  unfold operationTimedOut at h
  split at h
  · cases h
  · dsimp only at h
    split at h
    · split at h
      · obtain rfl := Option.some.inj h
        exact ⟨rfl, rfl, rfl, .inl rfl⟩
      · obtain rfl := Option.some.inj h
        exact ⟨rfl, rfl, rfl, .inl rfl⟩
    · obtain rfl := Option.some.inj h
      exact ⟨rfl, rfl, rfl, .inl rfl⟩

/-- The timer of a session's end keeps the sessions. -/
theorem terminalTimedOut_keeps (h : store.terminalTimedOut = some turn) :
    SessionsKept store turn.1 := by
  unfold terminalTimedOut at h
  split at h
  · cases h
  · dsimp only at h
    split at h
    · obtain rfl := Option.some.inj h
      exact ⟨rfl, rfl, rfl, .inl rfl⟩
    · obtain rfl := Option.some.inj h
      exact ⟨rfl, rfl, rfl, .inl rfl⟩

/-- What an action makes of the sessions. -/
theorem made_moves {action : UiAction} (h : action.made library store = some turn)
    (hknown : ∀ event, action = .eventReceived event →
      store.acceptsSessionEvent event.sessionId event.songId = true → known event.sessionId) :
    SessionMove known store turn.1 := by
  cases action with
  | eventReceived event =>
    obtain rfl := Option.some.inj h
    exact handleEvent_moves event fun haccepts _ => hknown event rfl haccepts
  | operationTimedOut => exact .kept (operationTimedOut_keeps h)
  | terminalTimedOut => exact .kept (terminalTimedOut_keeps h)
  | prepareSelectedPlayback selection dryRun =>
    obtain rfl := Option.some.inj h
    exact .kept (prepareSelectedPlayback_keeps selection dryRun library store)
  | startPreparedPlayback decision =>
    obtain rfl := Option.some.inj h
    exact .kept (startPreparedPlayback_keeps decision library store)
  | cancelPreparedPlayback =>
    obtain rfl := Option.some.inj h
    exact .kept (cancelPreparedPlayback_keeps store)
  | stopPlayback =>
    obtain rfl := Option.some.inj h
    exact .kept (stopPlayback_keeps store)
  | retryPlaybackStatus =>
    obtain rfl := Option.some.inj h
    exact .kept (retryPlaybackStatus_keeps store)
  | pausePlayback =>
    obtain rfl := Option.some.inj h
    exact .kept (controlPlayback_keeps .pausing .playing store)
  | resumePlayback =>
    obtain rfl := Option.some.inj h
    exact .kept (controlPlayback_keeps .resuming .paused store)
  | previousPlayback =>
    obtain rfl := Option.some.inj h
    exact .kept (movePlayback_keeps _ _ library store)
  | nextPlayback =>
    obtain rfl := Option.some.inj h
    exact .kept (movePlayback_keeps _ _ library store)
  | playbackForCatalogChange =>
    obtain rfl := Option.some.inj h
    exact .kept ((cancelPreparing_keeps store).trans ⟨rfl, rfl, rfl, .inl rfl⟩)
  | settingsPatched patchAutoPlay safe autoPlay =>
    obtain rfl := Option.some.inj h
    exact .kept (settingsPatched_keeps patchAutoPlay safe autoPlay store)
  | playbackAfterBrowserNavigation =>
    obtain rfl := Option.some.inj h
    exact .kept (playbackAfterBrowserNavigation_keeps store)
  | songSelected =>
    obtain rfl := Option.some.inj h
    exact .kept (songSelected_keeps store)
  | sheetDetailRefreshed =>
    obtain rfl := Option.some.inj h
    exact .kept ((cancelPreparing_keeps store).trans ⟨rfl, rfl, rfl, .inl rfl⟩)
  | invalidatePlaybackMembershipContext preparedMatches =>
    obtain rfl := Option.some.inj h
    exact .kept (invalidatePlaybackMembershipContext_keeps preparedMatches store)
  | coreFailed fatal =>
    obtain rfl := Option.some.inj h
    exact .kept ⟨rfl, rfl, rfl, .inl rfl⟩

end SkyAutoPlayer.DesktopUi
