import SkyAutoPlayer.DesktopUi.SessionMoves

/-!
# A session that has ended does not come back

The ledger keeps the interface from the events of a session that has ended and from the answer to its
start, but not from a status: one that the native side had before the session's end may be answered after
it, and it binds the session again. The interface is also free to bind a session whose end it did not
take, because it did not know the session then.
-/

namespace SkyAutoPlayer.DesktopUi

open Foundation PlaybackStore

namespace PlaybackStore

/-- Few sessions have ended: the ledger has forgotten none. -/
def Few (store : PlaybackStore) : Prop :=
  store.sessionLedger.retiredSessions.entries.length < maxRetiredSessionIds

/-- A status tells truly of its active session: the session has not ended, and where it is the one that is
bound no other start is under way. -/
def activeLive (session : ActiveSession) (store : PlaybackStore) : Bool :=
  store.sessionLedger.isRetired session.sessionId = false ∧ session.sessionId ∉ store.dropped ∧
    (store.playback.sessionId = some session.sessionId → store.conflicts session = false)

end PlaybackStore

namespace Interface

/-- What comes names no session that is over: an event that is taken and a start that binds its session
name none whose end was not taken, and a status that is used tells truly of its active session. -/
def namesLive (ui : Interface) (input : UiInput) : Bool :=
  match input with
  | .act (.eventReceived event) _ =>
    ui.store.acceptsSessionEvent event.sessionId event.songId = true →
      event.sessionId ∉ ui.store.dropped
  | .answer index (.started (.ok sessionId)) library =>
    match ui.tasks[index]? with
    | some (_, .start request) =>
      ui.store.startBinds request library = true → sessionId ∉ ui.store.dropped
    | _ => true
  | .answer index (.status (.ok status)) _ =>
    match ui.tasks[index]? with
    | some (_, .reconcile query) =>
      ui.store.canApply query = true → status.active.all fun session => ui.store.activeLive session
    | _ => true
  | _ => true

end Interface

/-- What the sessions are: the one that is bound has not ended, and every one that has ended is known to
have, unless its end was not taken. -/
structure SessionsSound (store : PlaybackStore) : Prop where
  bound : ∀ sessionId, store.playback.sessionId = some sessionId →
    store.sessionLedger.isRetired sessionId = false ∧ sessionId ∉ store.dropped
  ended : ∀ sessionId ∈ store.ended,
    store.sessionLedger.isRetired sessionId = true ∨ sessionId ∈ store.dropped

variable {before after store : PlaybackStore} {library : LibraryView} {turn : Turn} {ui next : Interface}

/-- Fewer sessions had ended before a move. -/
theorem few_of_move {known : String → Prop} (hmove : SessionMove known before after)
    (hfew : after.Few) : before.Few := by
  unfold Few at hfew ⊢
  cases hmove with
  | kept kept => rw [← kept.retired]; exact hfew
  | bound _ _ _ _ retired => rw [← retired]; exact hfew
  | ended sessionId outcome _ _ retired =>
    rw [retired] at hfew
    exact Nat.lt_of_le_of_lt (RetiredSessions.length_le_of_few hfew) hfew
  | dropped _ _ _ _ retired => rw [← retired]; exact hfew

/-- A move keeps the sessions sound. -/
theorem SessionsSound.move (h : SessionsSound before)
    (hmove : SessionMove (· ∉ before.dropped) before after) (hfew : after.Few) :
    SessionsSound after := by
  cases hmove with
  | kept kept =>
    have hretired (sessionId : String) : after.sessionLedger.isRetired sessionId =
        before.sessionLedger.isRetired sessionId := by
      unfold PlaybackSessionLedger.isRetired
      rw [kept.retired]
    constructor
    · intro sessionId hbound
      rw [hretired, kept.dropped]
      rcases kept.bound with hsame | hnone
      · exact h.bound sessionId (hsame.symm.trans hbound)
      · rw [hnone] at hbound
        cases hbound
    · intro sessionId hended
      rw [kept.ended] at hended
      rw [hretired, kept.dropped]
      exact h.ended sessionId hended
  | bound sessionId hknown live bound retired ended dropped =>
    have hretired (other : String) : after.sessionLedger.isRetired other =
        before.sessionLedger.isRetired other := by
      unfold PlaybackSessionLedger.isRetired
      rw [retired]
    constructor
    · intro other hother
      rw [hretired, dropped]
      rcases bound with hbound | hnone
      · obtain rfl : sessionId = other := Option.some.inj (hbound.symm.trans hother)
        exact ⟨live, hknown⟩
      · rw [hnone] at hother
        cases hother
    · intro other hended
      rw [ended] at hended
      rw [hretired, dropped]
      exact h.ended other hended
  | ended sessionId outcome live bound retired ended dropped =>
    have hretired (other : String) : after.sessionLedger.isRetired other =
        (before.sessionLedger.retiredSessions.rememberRetiredSession sessionId outcome).has other := by
      unfold PlaybackSessionLedger.isRetired
      rw [retired]
    unfold Few at hfew
    rw [retired] at hfew
    constructor
    · intro other hother
      rw [bound] at hother
      cases hother
    · intro other hended
      rw [ended] at hended
      rw [hretired, dropped]
      rcases List.mem_cons.mp hended with rfl | hearlier
      · exact .inl RetiredSessions.has_latest
      · exact (h.ended other hearlier).imp (RetiredSessions.has_of_few hfew) id
  | dropped sessionId songId refused bound retired ended dropped =>
    have hretired (other : String) : after.sessionLedger.isRetired other =
        before.sessionLedger.isRetired other := by
      unfold PlaybackSessionLedger.isRetired
      rw [retired]
    constructor
    · intro other hother
      have hbefore : before.playback.sessionId = some other := by
        rcases bound with hsame | hnone
        · exact hsame.symm.trans hother
        · rw [hnone] at hother
          cases hother
      obtain ⟨hlive, hdropped⟩ := h.bound other hbefore
      rw [hretired, dropped]
      refine ⟨hlive, ?_⟩
      split
      · exact hdropped
      · rename_i hunknown
        intro hmem
        rcases List.mem_cons.mp hmem with rfl | hearlier
        · rw [accepts_of_bound hlive hbefore] at refused
          cases refused
        · exact hdropped hearlier
    · intro other hended
      rw [ended] at hended
      rw [hretired, dropped]
      rcases List.mem_cons.mp hended with rfl | hearlier
      · cases hknown : before.sessionLedger.isRetired other with
        | true => exact .inl rfl
        | false => exact .inr (List.mem_cons_self ..)
      · refine (h.ended other hearlier).imp id fun hmem => ?_
        split
        · exact hmem
        · exact List.mem_cons_of_mem _ hmem

/-- Fewer sessions had ended before the native session was bound. -/
theorem few_of_bindNative (session : ActiveSession) (library : LibraryView)
    (hfew : (store.bindNative session library).Few) : store.Few := by
  unfold Few at hfew ⊢
  obtain ⟨-, -, -, hsame | ⟨bound, -, -, hretired⟩⟩ := bindNative_sessions session library store
  · rw [← hsame]
    exact hfew
  · rw [hretired] at hfew
    exact Nat.lt_of_le_of_lt (RetiredSessions.length_le_of_few hfew) hfew

/-- A native session that has not ended keeps the sessions sound. -/
theorem SessionsSound.bindNative {session : ActiveSession} (h : SessionsSound store)
    (hlive : store.activeLive session = true) (hfew : (store.bindNative session library).Few) :
    SessionsSound (store.bindNative session library) := by
  obtain ⟨hsession, hdropped, hsame⟩ := of_decide_eq_true hlive
  obtain ⟨hbound, hended, hkept, hretired⟩ := bindNative_sessions session library store
  have hknown (other : String) (hmem : store.sessionLedger.isRetired other = true) :
      (store.bindNative session library).sessionLedger.isRetired other = true := by
    unfold PlaybackSessionLedger.isRetired
    rcases hretired with heq | ⟨bound, -, -, heq⟩
    · rw [heq]
      exact hmem
    · unfold Few at hfew
      rw [heq] at hfew ⊢
      exact RetiredSessions.has_of_few hfew hmem
  have hstill : (store.bindNative session library).sessionLedger.isRetired session.sessionId =
      false := by
    unfold PlaybackSessionLedger.isRetired
    rcases hretired with heq | ⟨bound, hbefore, hconflict, heq⟩
    · rw [heq]
      exact hsession
    · rw [heq]
      refine Bool.eq_false_iff.mpr fun hmem => ?_
      rcases RetiredSessions.has_of_remember hmem with hother | hearlier
      · rw [hsame (by rw [hbefore, hother])] at hconflict
        cases hconflict
      · rw [show store.sessionLedger.retiredSessions.has session.sessionId =
          store.sessionLedger.isRetired session.sessionId from rfl, hsession] at hearlier
        cases hearlier
  constructor
  · intro other hother
    obtain rfl : session.sessionId = other := Option.some.inj (hbound.symm.trans hother)
    rw [hkept]
    exact ⟨hstill, hdropped⟩
  · intro other hmem
    rw [hended] at hmem
    rw [hkept]
    exact (h.ended other hmem).imp (hknown other) id

/-- The step of an answered task. -/
theorem step_answer {index : ℕ} {answer : UiAnswer}
    (hstep : ui.step (.answer index answer library) = some next) :
    ∃ since task turn, ui.tasks[index]? = some (since, task) ∧ ui.truthful since answer = true ∧
      task.answered answer library ui.store = some turn ∧
      next = ui.after (ui.tasks.eraseIdx index) turn := by
  unfold Interface.step at hstep
  dsimp only at hstep
  split at hstep
  · cases hstep
  · rename_i since task htask
    split at hstep
    · rename_i htruthful
      obtain ⟨turn, hanswered, rfl⟩ := Option.map_eq_some_iff.mp hstep
      exact ⟨since, task, turn, htask, htruthful, hanswered, rfl⟩
    · cases hstep

/-- An answered status that is used and has an active session leaves the native session bound. -/
theorem answered_status {query : StatusQuery} {status : PlaybackStatus} {session : ActiveSession}
    (happly : store.canApply query = true) (hactive : status.active = some session)
    (h : (UiTask.reconcile query).answered (.status (.ok status)) library store = some turn) :
    turn.1 = store.bindNative session library ∨
      turn.1 = (store.bindNative session library).retryEnded := by
  unfold UiTask.answered at h
  dsimp only at h
  rw [reconcile_binds happly hactive] at h
  obtain rfl := Option.some.inj h
  dsimp only
  split
  · exact .inr rfl
  · exact .inl rfl

/-- A step that names no session that is over keeps the sessions sound while few have ended. -/
theorem step_sound {input : UiInput} (hlive : ui.namesLive input = true)
    (hstep : ui.step input = some next) :
    (next.store.Few → ui.store.Few) ∧
      (next.store.Few → SessionsSound ui.store → SessionsSound next.store) := by
  have hmoved (hmove : SessionMove (· ∉ ui.store.dropped) ui.store next.store) :
      (next.store.Few → ui.store.Few) ∧
        (next.store.Few → SessionsSound ui.store → SessionsSound next.store) :=
    ⟨few_of_move hmove, fun hfew h => h.move hmove hfew⟩
  cases input with
  | statusChanged status =>
    obtain rfl := Option.some.inj hstep
    exact ⟨id, fun _ h => h⟩
  | act action library =>
    obtain ⟨turn, hmade, rfl⟩ := Option.map_eq_some_iff.mp hstep
    refine hmoved (made_moves hmade fun event haction haccepts => ?_)
    subst haction
    exact of_decide_eq_true hlive haccepts
  | answer index answer library =>
    obtain ⟨since, task, turn, htask, -, hanswered, rfl⟩ := step_answer hstep
    by_cases hbinds : ∃ query status session, task = .reconcile query ∧
        answer = .status (.ok status) ∧ status.active = some session ∧
          ui.store.canApply query = true
    · obtain ⟨query, status, session, rfl, rfl, hactive, happly⟩ := hbinds
      have hsession : ui.store.activeLive session = true := by
        unfold Interface.namesLive at hlive
        dsimp only at hlive
        rw [htask] at hlive
        have hall := of_decide_eq_true hlive happly
        rw [hactive] at hall
        exact hall
      have hnative : (turn.1.Few → ui.store.Few) ∧
          (turn.1.Few → SessionsSound ui.store → SessionsSound turn.1) := by
        rcases answered_status happly hactive hanswered with heq | heq
        · rw [heq]
          exact ⟨few_of_bindNative session library, fun hfew h => h.bindNative hsession hfew⟩
        · rw [heq]
          refine ⟨few_of_bindNative session library, fun hfew h => ?_⟩
          have hbound : SessionsSound (ui.store.bindNative session library) :=
            h.bindNative hsession hfew
          exact ⟨hbound.bound, hbound.ended⟩
      exact hnative
    · refine hmoved (answered_moves hanswered ?_ ?_)
      · intro request sessionId hrequest hreply hstarts
        subst hrequest
        subst hreply
        unfold Interface.namesLive at hlive
        dsimp only at hlive
        rw [htask] at hlive
        exact of_decide_eq_true hlive hstarts
      · intro query status session hquery hreply hactive
        refine Bool.eq_false_iff.mpr fun happly => hbinds ?_
        exact ⟨query, status, session, hquery, hreply, hactive, happly⟩

/-- What a session's end leaves: it is not bound again, its events change nothing, and neither do those of
another session than the one that is bound. -/
structure SessionsEnd (ui : Interface) : Prop where
  gone : ∀ sessionId ∈ ui.store.ended, ui.store.playback.sessionId ≠ some sessionId
  ignored : ∀ (event : PlaybackEvent) (library : LibraryView), event.sessionId ∈ ui.store.ended →
    ui.namesLive (.act (.eventReceived event) library) = true →
      (ui.store.handleEvent event library).1.playback = ui.store.playback ∧
        (ui.store.handleEvent event library).2 = []
  others : ∀ (event : PlaybackEvent) (library : LibraryView) (bound : String),
    ui.store.playback.sessionId = some bound → event.sessionId ≠ bound →
      (ui.store.handleEvent event library).1.playback = ui.store.playback ∧
        (ui.store.handleEvent event library).2 = []

/-- An event that is not taken changes nothing of the playback. -/
theorem handleEvent_of_refused {event : PlaybackEvent}
    (h : store.acceptsSessionEvent event.sessionId event.songId = false) :
    (store.handleEvent event library).1.playback = store.playback ∧
      (store.handleEvent event library).2 = [] := by
  unfold handleEvent
  rw [h]
  exact ⟨(recordEnd_keeps event store).1, rfl⟩

/-- Sound sessions end for good. -/
theorem SessionsSound.sessionsEnd (h : SessionsSound ui.store) : SessionsEnd ui where
  gone sessionId hended hbound := by
    obtain ⟨hlive, hdropped⟩ := h.bound sessionId hbound
    rcases h.ended sessionId hended with hretired | hmem
    · rw [hretired] at hlive
      cases hlive
    · exact hdropped hmem
  ignored event library hended hnames := by
    apply handleEvent_of_refused
    refine Bool.eq_false_iff.mpr fun haccepts => ?_
    rcases h.ended event.sessionId hended with hretired | hmem
    · rw [isRetired_of_accepts haccepts] at hretired
      cases hretired
    · exact of_decide_eq_true hnames haccepts hmem
  others event library bound hbound hother := by
    apply handleEvent_of_refused
    refine Bool.eq_false_iff.mpr fun haccepts => ?_
    exact hother (eq_of_accepts haccepts hbound).symm

/-- In a run that names no session that is over, and in which few sessions have ended, a session that has
ended does not come back. -/
theorem ended_sessions_stay_ended {inputs : List UiInput}
    (hrun : Interface.machine.run .initial inputs = some ui)
    (hlive : Interface.machine.Meets (fun ui input => ui.namesLive input = true) .initial inputs)
    (hfew : ui.store.Few) : SessionsEnd ui := by
  have hsound : ui.store.Few → SessionsSound ui.store := by
    refine Machine.run_preserves_of_meets (P := fun ui => ui.store.Few → SessionsSound ui.store)
      ?_ hrun hlive ?_
    · intro before input after hnames hbefore hstep hafter
      obtain ⟨hfewer, hkept⟩ := step_sound hnames hstep
      exact hkept hafter (hbefore (hfewer hafter))
    · intro _
      exact ⟨fun _ hbound => (nomatch hbound), fun _ hended => absurd hended List.not_mem_nil⟩
  exact (hsound hfew).sessionsEnd

/-- A library that is as it was when the playback began. -/
def currentLibrary : LibraryView := ⟨1, true, true, none⟩

/-- The user prepares and starts a song, and the native side plays it as session `s`. -/
def songStarts : List UiInput :=
  [.act (.prepareSelectedPlayback (.ok (⟨"song", "Song", false, 1⟩,
      ⟨2, 0, "song", none, false⟩)) none) currentLibrary,
    .answer 0 (.prepared (.ok ⟨some "plan", .ready, none, none, []⟩)) currentLibrary,
    .act (.startPreparedPlayback none) currentLibrary,
    .statusChanged ⟨some ⟨"s", "plan", "song", "Song", .playing⟩, none⟩,
    .answer 0 (.started (.ok "s")) currentLibrary,
    .act (.eventReceived (.stateChanged "s" "song" .playing none)) currentLibrary]

/-- The session plays and finishes, and its end is taken. -/
theorem ended_sessions_stay_ended_scenario : ∃ ui,
    Interface.machine.run .initial (songStarts ++
      [.act (.eventReceived (.finished "s" "song" "quit")) currentLibrary]) = some ui ∧
    "s" ∈ ui.store.ended ∧ SessionsEnd ui := by
  have hcheck : (Interface.machine.run .initial (songStarts ++
      [.act (.eventReceived (.finished "s" "song" "quit")) currentLibrary])).any (fun ui =>
        "s" ∈ ui.store.ended ∧
          ui.store.sessionLedger.retiredSessions.entries.length < maxRetiredSessionIds) = true := by
    decide +kernel
  obtain ⟨ui, hrun, hui⟩ := (Option.any_eq_true _ _).mp hcheck
  obtain ⟨hended, hfew⟩ := of_decide_eq_true hui
  exact ⟨ui, hrun, hended, ended_sessions_stay_ended hrun (by decide +kernel) hfew⟩

/-- The next song is asked for, and the native side is slow to skip: the status is asked for and is
answered from before the skip. The session's end is taken first, and then the answer binds the session
again. -/
theorem status_revives_session : (Interface.machine.run .initial (songStarts ++
    [.act .nextPlayback currentLibrary,
      .act .operationTimedOut currentLibrary,
      .act (.eventReceived (.finished "s" "song" "skipped")) currentLibrary,
      .statusChanged ⟨none, some ⟨"s", "plan", "song", .finished, some "skipped", none, none⟩⟩,
      .answer 1 (.status (.ok ⟨some ⟨"s", "plan", "song", "Song", .playing⟩, none⟩))
        currentLibrary])).any (fun ui =>
    "s" ∈ ui.store.ended ∧ ui.store.playback.sessionId = some "s" ∧
      ui.store.sessionLedger.retiredSessions.entries.length = 1) = true := by
  decide +kernel

end SkyAutoPlayer.DesktopUi
