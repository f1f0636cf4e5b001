import Mathlib.Data.List.Nodup

/-!
# The sessions that the user interface knows

The ledger remembers the starts that are under way and the sessions that have ended, the latest ones of
each. A start is known by its number, by its song and by its prepared plan.
-/

namespace SkyAutoPlayer.DesktopUi

/-- How a playback stands. -/
inductive PlaybackUiState where
  | idle
  | starting
  | playing
  | paused
  | stopping
  | finished
  | failed
  deriving DecidableEq, Repr

/-- A song that is played. -/
structure PlaybackSongIdentity where
  songId : String
  title : String
  liked : Bool
  generation : ℕ
  deriving DecidableEq

/-- The order of a shuffled source: a first place and a step, and how many steps were made. -/
structure ShuffleTraversal where
  originIndex : ℕ
  step : ℕ
  position : ℕ
  deriving DecidableEq

/-- Where a playback stands in its source. -/
structure PlaybackContext where
  total : ℕ
  currentIndex : ℕ
  currentSongId : String
  shuffleTraversal : Option ShuffleTraversal
  dryRun : Bool
  deriving DecidableEq

namespace PlaybackContext

/-- The position of a context in its order. -/
def position (context : PlaybackContext) : ℕ :=
  (context.shuffleTraversal.map ShuffleTraversal.position).getD context.currentIndex

/-- The place in the source of a position of the order. -/
def playbackContextIndexAt (position : ℕ) (context : PlaybackContext) : Option ℕ :=
  if context.total ≤ position then none
  else match context.shuffleTraversal with
    | some traversal => some ((traversal.originIndex + position * traversal.step) % context.total)
    | none => some position

/-- The position after the present one. -/
def nextPlaybackPosition (context : PlaybackContext) : Option ℕ :=
  if context.position + 1 < context.total then some (context.position + 1) else none

/-- The position before the present one, or the present one again once its song has run a while. -/
def previousPlaybackPosition (currentUs : ℕ) (context : PlaybackContext) : Option ℕ :=
  if 3_000_000 < currentUs then some context.position
  else if 0 < context.position then some (context.position - 1) else none

/-- The context at another place of the same order. -/
def moveTo (index position : ℕ) (songId : String) (context : PlaybackContext) : PlaybackContext :=
  { context with
    currentIndex := index
    currentSongId := songId
    shuffleTraversal := context.shuffleTraversal.map fun traversal => { traversal with position } }

end PlaybackContext

/-- A start that is under way. -/
structure PendingPlaybackStart where
  epoch : ℕ
  preparedId : String
  identity : PlaybackSongIdentity
  context : PlaybackContext
  deriving DecidableEq

/-- How a session ended. -/
inductive RetiredSessionOutcome where
  | finished
  | failed
  deriving DecidableEq, Repr

/-- The most starts that are remembered. -/
def maxPendingPlaybackStarts : ℕ := 16

/-- The most ended sessions that are remembered. -/
def maxRetiredSessionIds : ℕ := 512

/-- A list without its first elements, so that no more than a number of them remain. -/
def keepLatest {α : Type} (most : ℕ) (list : List α) : List α := list.drop (list.length - most)

/-- The sessions that have ended, each once and the latest last. -/
structure RetiredSessions where
  entries : List (String × RetiredSessionOutcome)
  distinct : (entries.map Prod.fst).Nodup
  deriving DecidableEq

namespace RetiredSessions

/-- No session has ended. -/
def empty : RetiredSessions := ⟨[], List.nodup_nil⟩

/-- The sessions that have ended, and one that has just ended. -/
def withLatest (sessionId : String) (outcome : RetiredSessionOutcome) (sessions : RetiredSessions) :
    List (String × RetiredSessionOutcome) :=
  (sessions.entries.filter fun retired => retired.1 ≠ sessionId) ++ [(sessionId, outcome)]

/-- A session that has just ended stands once. -/
theorem nodup_withLatest {sessionId : String} {outcome : RetiredSessionOutcome}
    {sessions : RetiredSessions} : ((sessions.withLatest sessionId outcome).map Prod.fst).Nodup := by
  unfold withLatest
  rw [List.map_append, List.nodup_append]
  refine ⟨?_, List.nodup_singleton _, fun earlier hearlier later hlater => ?_⟩
  · exact sessions.distinct.sublist (List.filter_sublist.map Prod.fst)
  · obtain ⟨retired, hretired, rfl⟩ := List.mem_map.mp hearlier
    rw [List.mem_singleton.mp hlater]
    exact of_decide_eq_true (List.mem_filter.mp hretired).2

/-- A session has ended. The session that ended first is forgotten when there are too many. -/
def rememberRetiredSession (sessionId : String) (outcome : RetiredSessionOutcome)
    (sessions : RetiredSessions) : RetiredSessions where
  entries := keepLatest maxRetiredSessionIds (sessions.withLatest sessionId outcome)
  distinct := nodup_withLatest.sublist ((List.drop_sublist _ _).map Prod.fst)

/-- How a session ended, if it has. -/
def outcome? (sessionId : String) (sessions : RetiredSessions) : Option RetiredSessionOutcome :=
  (sessions.entries.find? fun retired => retired.1 = sessionId).map Prod.snd

/-- A session has ended. -/
def has (sessionId : String) (sessions : RetiredSessions) : Bool :=
  sessions.entries.any fun retired => retired.1 = sessionId

variable {sessions : RetiredSessions} {sessionId other : String} {outcome : RetiredSessionOutcome}

/-- With a session that has just ended there are no fewer. -/
theorem length_le_withLatest :
    sessions.entries.length ≤ (sessions.withLatest sessionId outcome).length := by
  have hcount : (sessions.entries.filter fun retired => retired.1 = sessionId).length ≤ 1 := by
    have hle := List.nodup_iff_count_le_one.mp sessions.distinct sessionId
    rw [List.count_eq_countP, List.countP_map] at hle
    rw [← List.countP_eq_length_filter]
    refine Nat.le_trans (Nat.le_of_eq ?_) hle
    apply List.countP_congr
    intro retired _
    simp
  have hsplit := List.length_eq_length_filter_add (l := sessions.entries)
    fun retired => decide (retired.1 = sessionId)
  unfold withLatest
  rw [List.length_append, List.length_singleton]
  simp only [decide_not] at hsplit ⊢
  omega

/-- While few sessions have ended, none is forgotten. -/
theorem entries_of_few (h : (sessions.rememberRetiredSession sessionId outcome).entries.length <
    maxRetiredSessionIds) : (sessions.rememberRetiredSession sessionId outcome).entries =
      sessions.withLatest sessionId outcome := by
  unfold rememberRetiredSession keepLatest at h ⊢
  dsimp only at h ⊢
  rw [List.length_drop] at h
  have hmost : (sessions.withLatest sessionId outcome).length - maxRetiredSessionIds = 0 := by omega
  rw [hmost, List.drop_zero]

/-- While few sessions have ended, there have never been more. -/
theorem length_le_of_few (h : (sessions.rememberRetiredSession sessionId outcome).entries.length <
    maxRetiredSessionIds) : sessions.entries.length ≤
      (sessions.rememberRetiredSession sessionId outcome).entries.length := by
  rw [entries_of_few h]
  exact length_le_withLatest

/-- A session that has just ended is remembered. -/
theorem has_latest : (sessions.rememberRetiredSession sessionId outcome).has sessionId = true := by
  rw [has, List.any_eq_true]
  refine ⟨(sessionId, outcome), ?_, decide_eq_true rfl⟩
  unfold rememberRetiredSession keepLatest withLatest
  dsimp only
  rw [List.drop_append]
  apply List.mem_append_right
  have hmost : 0 < maxRetiredSessionIds := by simp [maxRetiredSessionIds]
  have hnone : ((sessions.entries.filter fun retired => retired.1 ≠ sessionId) ++
      [(sessionId, outcome)]).length - maxRetiredSessionIds -
        (sessions.entries.filter fun retired => retired.1 ≠ sessionId).length = 0 := by
    rw [List.length_append, List.length_singleton]
    omega
  rw [hnone, List.drop_zero]
  exact List.mem_singleton.mpr rfl

/-- While few sessions have ended, those that had ended before are remembered. -/
theorem has_of_few (h : (sessions.rememberRetiredSession sessionId outcome).entries.length <
    maxRetiredSessionIds) (hother : sessions.has other = true) :
    (sessions.rememberRetiredSession sessionId outcome).has other = true := by
  by_cases hsame : other = sessionId
  · rw [hsame]
    exact has_latest
  · rw [has, entries_of_few h, List.any_eq_true]
    obtain ⟨retired, hmem, hretired⟩ := List.any_eq_true.mp hother
    have hid : retired.1 = other := of_decide_eq_true hretired
    refine ⟨retired, List.mem_append_left _ (List.mem_filter.mpr ⟨hmem, ?_⟩), hretired⟩
    rw [hid]
    exact decide_eq_true hsame

/-- No other session ends. -/
theorem has_of_remember (h : (sessions.rememberRetiredSession sessionId outcome).has other = true) :
    other = sessionId ∨ sessions.has other = true := by
  obtain ⟨retired, hmem, hretired⟩ := List.any_eq_true.mp h
  unfold rememberRetiredSession keepLatest withLatest at hmem
  dsimp only at hmem
  rcases List.mem_append.mp (List.mem_of_mem_drop hmem) with hold | hnew
  · exact .inr (List.any_eq_true.mpr ⟨retired, (List.mem_filter.mp hold).1, hretired⟩)
  · obtain rfl := List.mem_singleton.mp hnew
    exact .inl (of_decide_eq_true hretired).symm

end RetiredSessions

/-- What the user interface remembers of sessions, in the order of its additions. -/
structure PlaybackSessionLedger where
  startEpoch : ℕ
  pendingStarts : List PendingPlaybackStart
  retiredSessions : RetiredSessions
  deriving DecidableEq

namespace PlaybackSessionLedger

/-- A ledger of nothing. -/
def empty : PlaybackSessionLedger := ⟨0, [], .empty⟩

/-- A start begins. -/
def beginStart (preparedId : String) (identity : PlaybackSongIdentity) (context : PlaybackContext)
    (ledger : PlaybackSessionLedger) : PendingPlaybackStart × PlaybackSessionLedger :=
  let pending : PendingPlaybackStart := ⟨ledger.startEpoch + 1, preparedId, identity, context⟩
  (pending, { ledger with
    startEpoch := ledger.startEpoch + 1
    pendingStarts := keepLatest maxPendingPlaybackStarts (ledger.pendingStarts ++ [pending]) })

/-- The start of a number. -/
def getPendingStart (epoch : ℕ) (ledger : PlaybackSessionLedger) : Option PendingPlaybackStart :=
  ledger.pendingStarts.find? fun pending => pending.epoch = epoch

/-- The latest start of a song. -/
def pendingStartForSong (songId : String) (ledger : PlaybackSessionLedger) :
    Option PendingPlaybackStart :=
  (ledger.pendingStarts.filter fun pending => pending.identity.songId = songId).getLast?

/-- The start of a prepared plan. -/
def pendingStartForPreparedId (preparedId : String) (ledger : PlaybackSessionLedger) :
    Option PendingPlaybackStart :=
  ledger.pendingStarts.find? fun pending => pending.preparedId = preparedId

/-- A start is over. -/
def removePendingStart (epoch : ℕ) (ledger : PlaybackSessionLedger) : PlaybackSessionLedger :=
  { ledger with pendingStarts := ledger.pendingStarts.filter fun pending => pending.epoch ≠ epoch }

/-- A start is over, if there is one. -/
def removePending (pending : Option PendingPlaybackStart) (ledger : PlaybackSessionLedger) :
    PlaybackSessionLedger :=
  match pending with
  | some pending => ledger.removePendingStart pending.epoch
  | none => ledger

/-- A session has ended. -/
def retire (sessionId : String) (outcome : RetiredSessionOutcome) (ledger : PlaybackSessionLedger) :
    PlaybackSessionLedger :=
  { ledger with
    retiredSessions := ledger.retiredSessions.rememberRetiredSession sessionId outcome }

/-- A session has ended. -/
def isRetired (sessionId : String) (ledger : PlaybackSessionLedger) : Bool :=
  ledger.retiredSessions.has sessionId

/-- A start that is over retires no session. -/
@[simp] theorem retiredSessions_removePending {ledger : PlaybackSessionLedger}
    {pending : Option PendingPlaybackStart} :
    (ledger.removePending pending).retiredSessions = ledger.retiredSessions := by
  cases pending <;> rfl

end PlaybackSessionLedger

end SkyAutoPlayer.DesktopUi
