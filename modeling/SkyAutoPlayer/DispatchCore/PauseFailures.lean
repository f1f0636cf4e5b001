import SkyAutoPlayer.DispatchCore.PauseClock

/-!
# Failing clock operations

An exit that fails has already forgotten its reason, and on an overflow its interval too, so the
clock is as it was only when no exit fails. A pause that opens before the epoch cannot be read after
it: the position of its start is negative. Both are stated for runs in which a failed call is
reported and the run goes on from the clock the call left behind.
-/

namespace SkyAutoPlayer.DispatchCore.PlaybackClockState

open Foundation

/-- The clock that a call leaves behind, whether or not it fails. -/
def reached (clock : PlaybackClockState) (call : PauseCall) : PlaybackClockState :=
  ((pauseCall call).run clock).state

/-- The clock that a run of calls leaves behind. -/
def reachedBy (clock : PlaybackClockState) (calls : List PauseCall) : PlaybackClockState :=
  calls.foldl reached clock

/-- A call that fails leaves the clock as it was. -/
def KeptOnError (clock : PlaybackClockState) (call : PauseCall) : Prop :=
  ∀ error after, (pauseCall call).run clock = .error error after → after = clock

/-- An exit of the last reason finds an interval that is open, not later than the sample, and short
enough. -/
def CallFits (clock : PlaybackClockState) : PauseCall → Prop
  | .enter _ _ => True
  | .exit reason now => clock.pauseReasons = {reason} →
      ∃ started, clock.pauseIntervalStarted = some started ∧ started ≤ now ∧
        clock.startPerf + (clock.pauseTime + (now - started)) < 2 ^ 64

/-- The reasons, the interval and the pause time belong together. -/
structure Consistent (clock : PlaybackClockState) : Prop where
  running : clock.pauseReasons = ∅ ↔ clock.pauseIntervalStarted = none
  attributed : clock.pauseIntervalStarted = none ↔ clock.pauseOpenReason = none
  epoch : clock.epoch = clock.startPerf + clock.pauseTime
  bounded : clock.epoch < 2 ^ 64

variable {clock : PlaybackClockState}

/-- A clock is paused by its last reason when nothing else holds it. -/
theorem reasons_of_rest {reason : PauseReason} (hmem : reason ∈ clock.pauseReasons)
    (hrest : clock.pauseReasons.erase reason = ∅) : clock.pauseReasons = {reason} :=
  (Finset.erase_eq_empty_iff _ _).mp hrest |>.resolve_left (Finset.ne_empty_of_mem hmem)

/-- A call that fits succeeds. -/
theorem CallFits.succeeds {call : PauseCall} (h : CallFits clock call) :
    ∃ after, (pauseCall call).run clock = .ok () after := by
  cases call with
  | enter reason now => exact ⟨_, pauseCall_enter clock reason now⟩
  | exit reason now =>
    by_cases hmem : reason ∈ clock.pauseReasons
    · by_cases hrest : clock.pauseReasons.erase reason = ∅
      · have hreasons := reasons_of_rest hmem hrest
        obtain ⟨started, hopen, hle, hfits⟩ := h hreasons
        exact ⟨_, pauseCall_exit_of_ok (exitPause_closes hreasons hopen hle hfits)⟩
      · exact ⟨_, pauseCall_exit_of_ok (exitPause_of_rest hmem hrest now)⟩
    · exact ⟨_, pauseCall_exit_of_ok (exitPause_of_not_mem hmem now)⟩

/-- An exit that does not fit fails, and no reason is left. -/
theorem exit_of_not_fits {reason : PauseReason} {now : ℕ}
    (h : ¬CallFits clock (.exit reason now)) :
    clock.pauseReasons = {reason} ∧ ∃ error after,
      (pauseCall (.exit reason now)).run clock = .error error after ∧ after.pauseReasons = ∅ := by
  obtain ⟨hreasons, hunfit⟩ := Classical.not_imp.mp h
  refine ⟨hreasons, ?_⟩
  by_cases hearly : ∀ started, clock.pauseIntervalStarted = some started → now < started
  · exact ⟨_, _, EStateM.run_bind_of_error (exitPause_early hreasons hearly), rfl⟩
  · push Not at hearly
    obtain ⟨started, hopen, hle⟩ := hearly
    have hfull : 2 ^ 64 ≤ clock.startPerf + (clock.pauseTime + (now - started)) := by
      by_contra hfits
      exact hunfit ⟨started, hopen, hle, Nat.not_le.mp hfits⟩
    exact ⟨_, _, EStateM.run_bind_of_error (exitPause_overflow hreasons hopen hle hfull), rfl⟩

/-- A failing call keeps the clock only when it cannot fail. -/
theorem keptOnError_iff (clock : PlaybackClockState) (call : PauseCall) :
    KeptOnError clock call ↔ CallFits clock call := by
  constructor
  · intro hkept
    cases call with
    | enter reason now => trivial
    | exit reason now =>
      by_contra hunfit
      obtain ⟨hreasons, error, after, hrun, hnone⟩ := exit_of_not_fits hunfit
      have hafter := hkept error after hrun
      rw [hafter, hreasons] at hnone
      exact Finset.singleton_ne_empty reason hnone
  · intro hfits error after herror
    obtain ⟨_, hok⟩ := hfits.succeeds
    rw [hok] at herror
    cases herror

/-- A new clock is consistent. -/
theorem consistent_new {start initial : ℕ} (h : new start initial = .ok clock) :
    Consistent clock := by
  simp only [new, Except.bind_eq_ok, checkedAddDuration_eq_ok, Except.pure_eq_ok] at h
  obtain ⟨epoch, ⟨hbound, rfl⟩, rfl⟩ := h
  exact ⟨by simp, by simp, rfl, hbound⟩

/-- Entering a reason keeps the clock consistent. -/
theorem Consistent.entered (h : Consistent clock) (reason : PauseReason) (now : ℕ) :
    Consistent (clock.entered reason now) := by
  rw [PlaybackClockState.entered]
  by_cases hempty : clock.pauseReasons = ∅
  · rw [if_pos hempty]
    exact ⟨by simp, by simp, h.epoch, h.bounded⟩
  · rw [if_neg hempty]
    have hopen := mt h.running.mpr hempty
    exact ⟨by simp [hopen], h.attributed, h.epoch, h.bounded⟩

/-- A call that fits keeps the clock consistent. -/
theorem Consistent.reached (h : Consistent clock) {call : PauseCall}
    (hfits : CallFits clock call) : Consistent (clock.reached call) := by
  cases call with
  | enter reason now =>
    rw [PlaybackClockState.reached, pauseCall_enter, EStateM.Result.state_ok]
    split
    · exact h
    · exact h.entered reason now
  | exit reason now =>
    by_cases hmem : reason ∈ clock.pauseReasons
    · by_cases hrest : clock.pauseReasons.erase reason = ∅
      · have hreasons := reasons_of_rest hmem hrest
        obtain ⟨started, hopen, hle, hbound⟩ := hfits hreasons
        rw [PlaybackClockState.reached,
          pauseCall_exit_of_ok (exitPause_closes hreasons hopen hle hbound)]
        exact ⟨by simp [closed], by simp [closed], rfl, hbound⟩
      · rw [PlaybackClockState.reached,
          pauseCall_exit_of_ok (exitPause_of_rest hmem hrest now)]
        have hopen := mt h.running.mpr (Finset.ne_empty_of_mem hmem)
        exact ⟨by simpa [hopen] using hrest, h.attributed, h.epoch, h.bounded⟩
    · rw [PlaybackClockState.reached, pauseCall_exit_of_ok (exitPause_of_not_mem hmem now)]
      exact h

/-- In a run whose calls fit, the clock stays consistent. -/
theorem Consistent.reachedBy {calls : List PauseCall} (h : Consistent clock)
    (hfits : ∀ earlier call later, calls = earlier ++ call :: later →
      CallFits (clock.reachedBy earlier) call) : Consistent (clock.reachedBy calls) := by
  induction calls using List.reverseRecOn with
  | nil => exact h
  | append_singleton calls call ih =>
    have hbefore : Consistent (clock.reachedBy calls) := by
      apply ih
      intro earlier middle later hsplit
      exact hfits earlier middle (later ++ [call]) (by simp [hsplit])
    have hlast := hbefore.reached (hfits calls call [] rfl)
    rwa [PlaybackClockState.reachedBy, List.foldl_concat]

/-- The interval of a consistent clock closes at a sample that is not earlier. -/
theorem Consistent.closes (h : Consistent clock) {reason : PauseReason}
    (hreasons : clock.pauseReasons = {reason}) :
    ∃ started, clock.pauseIntervalStarted = some started ∧
      ∀ now, started ≤ now →
        clock.startPerf + (clock.pauseTime + (now - started)) < 2 ^ 64 →
        (exitPause reason now).run clock =
          .ok (some (now - started, clock.pauseOpenReason.getD reason))
            (clock.closed started now) := by
  have hopen : clock.pauseIntervalStarted ≠ none := by
    rw [Ne, ← h.running, hreasons]
    exact Finset.singleton_ne_empty reason
  obtain ⟨started, hstarted⟩ := Option.ne_none_iff_exists'.mp hopen
  exact ⟨started, hstarted, fun now hle hfits => exitPause_closes hreasons hstarted hle hfits⟩

/-- In a run from a new clock, the failing calls leave the clock as it was exactly when every exit
fits; the clock is then consistent throughout, and a later exit can still close its interval. -/
theorem failing_exits_keep_clock {start initial : ℕ} (hnew : new start initial = .ok clock)
    (calls : List PauseCall) :
    ((∀ earlier call later, calls = earlier ++ call :: later →
        KeptOnError (clock.reachedBy earlier) call) ↔
      ∀ earlier call later, calls = earlier ++ call :: later →
        CallFits (clock.reachedBy earlier) call) ∧
    ((∀ earlier call later, calls = earlier ++ call :: later →
        CallFits (clock.reachedBy earlier) call) →
      Consistent (clock.reachedBy calls) ∧
        ∀ reason, (clock.reachedBy calls).pauseReasons = {reason} →
          ∃ started, (clock.reachedBy calls).pauseIntervalStarted = some started ∧
            ∀ now, CallFits (clock.reachedBy calls) (.exit reason now) →
              (exitPause reason now).run (clock.reachedBy calls) =
                .ok (some (now - started,
                    (clock.reachedBy calls).pauseOpenReason.getD reason))
                  ((clock.reachedBy calls).closed started now)) := by
  constructor
  · simp only [keptOnError_iff]
  · intro hfits
    have hconsistent := (consistent_new hnew).reachedBy hfits
    refine ⟨hconsistent, fun reason hreasons => ?_⟩
    obtain ⟨started, hopen, hcloses⟩ := hconsistent.closes hreasons
    refine ⟨started, hopen, fun now hfit => ?_⟩
    obtain ⟨started', hopen', hle, hbound⟩ := hfit hreasons
    rw [hopen, Option.some.injEq] at hopen'
    exact hcloses now (hopen' ▸ hle) (hopen' ▸ hbound)

/-- A manual pause leaves a consistent clock that a later exit resumes. -/
theorem failing_exits_keep_clock_manual :
    ∃ clock, new 1000 0 = .ok clock ∧ Consistent (clock.reachedBy [.enter .manual 1100]) ∧
      (exitPause .manual 1150).run (clock.reachedBy [.enter .manual 1100]) =
        .ok (some (50, .manual)) ((clock.reachedBy [.enter .manual 1100]).closed 1100 1150) := by
  have hnew : new 1000 0 = .ok ⟨1000, 0, ∅, none, none, 1000⟩ := rfl
  have hrun := (failing_exits_keep_clock hnew [.enter .manual 1100]).2
    fun earlier call later hsplit => by
      have hmem : call ∈ ([.enter .manual 1100] : List PauseCall) := hsplit ▸ by simp
      rw [List.mem_singleton.mp hmem]
      trivial
  obtain ⟨started, hopen, hcloses⟩ := hrun.2 .manual rfl
  obtain rfl : 1100 = started := Option.some.inj hopen
  exact ⟨_, hnew, hrun.1, hcloses 1150 fun _ => ⟨1100, rfl, by decide⟩⟩

/-- An exit sampled before its interval forgets the reason: the interval stays open on a clock that
is not paused, and no later exit closes it. -/
theorem early_exit_strands_interval :
    ∃ clock after, new 1000 0 = .ok clock ∧
      (exitPause .manual 1050).run (clock.reachedBy [.enter .manual 1100]) =
        .error .negativeOrder after ∧
      after ≠ clock.reachedBy [.enter .manual 1100] ∧ after.isPaused = false ∧
      after.pauseIntervalStarted = some 1100 ∧
      (exitPause .manual 1200).run after = .ok none after :=
  ⟨⟨1000, 0, ∅, none, none, 1000⟩, ⟨1000, 0, ∅, some 1100, some .manual, 1000⟩, rfl, rfl,
    by decide, rfl, rfl, rfl⟩

/-! ### Queries that allow samples before the epoch -/

/-- A pause call or a query of the elapsed time that allows samples before the epoch. -/
inductive ClockEvent where
  | call (made : PauseCall)
  | query (now : ℕ)
  deriving DecidableEq, Repr

/-- The sample of an event. -/
def ClockEvent.tick : ClockEvent → ℕ
  | .call made => made.tick
  | .query now => now

/-- The answers to the queries of a run. -/
def answers (clock : PlaybackClockState) :
    List ClockEvent → List (Except TimeArithmeticError ℕ)
  | [] => []
  | .call made :: events => (clock.reached made).answers events
  | .query now :: events => clock.getElapsedAllowPreEpoch now true :: clock.answers events

/-- A query that finds open, at or after the epoch, an interval from before the epoch. -/
def FindsEarlyPause (clock : PlaybackClockState) (now : ℕ) : Prop :=
  clock.epoch ≤ now ∧ ∃ started, clock.pauseIntervalStarted = some started ∧ started < clock.epoch

/-- The open interval belongs to a reason, no sample so far is later than the last one, and the
epoch is the start after the pauses. -/
structure Sampled (clock : PlaybackClockState) (last : ℕ) : Prop where
  running : clock.pauseReasons = ∅ ↔ clock.pauseIntervalStarted = none
  started : ∀ started, clock.pauseIntervalStarted = some started → started ≤ last
  epoch : clock.epoch = clock.startPerf + clock.pauseTime

/-- A later sample. -/
theorem Sampled.later {last now : ℕ} (h : Sampled clock last) (hle : last ≤ now) :
    Sampled clock now :=
  ⟨h.running, fun started hopen => (h.started started hopen).trans hle, h.epoch⟩

/-- What an exit at a later sample leaves behind: the clock, a clock with fewer reasons, a closed
clock, or a clock that lost an interval it could not add. -/
theorem reached_exit {last : ℕ} (h : Sampled clock last) (reason : PauseReason) (now : ℕ)
    (hle : last ≤ now) :
    clock.reached (.exit reason now) = clock ∨
      (clock.pauseReasons.erase reason ≠ ∅ ∧ clock.pauseReasons ≠ ∅ ∧
        clock.reached (.exit reason now) =
          { clock with pauseReasons := clock.pauseReasons.erase reason }) ∨
      ∃ started, clock.pauseIntervalStarted = some started ∧ started ≤ now ∧
        (clock.reached (.exit reason now) = clock.closed started now ∨
          clock.reached (.exit reason now) =
            { clock with
              pauseReasons := ∅
              pauseIntervalStarted := none
              pauseOpenReason := none }) := by
  by_cases hmem : reason ∈ clock.pauseReasons
  · have hheld := Finset.ne_empty_of_mem hmem
    by_cases hrest : clock.pauseReasons.erase reason = ∅
    · right; right
      have hreasons := reasons_of_rest hmem hrest
      obtain ⟨started, hopen⟩ := Option.ne_none_iff_exists'.mp (mt h.running.mpr hheld)
      have hstarted := (h.started started hopen).trans hle
      refine ⟨started, hopen, hstarted, ?_⟩
      by_cases hfits : clock.startPerf + (clock.pauseTime + (now - started)) < 2 ^ 64
      · left
        rw [reached, pauseCall_exit_of_ok (exitPause_closes hreasons hopen hstarted hfits)]
        rfl
      · right
        have hrun := exitPause_overflow hreasons hopen hstarted (Nat.not_lt.mp hfits)
        rw [reached, pauseCall, EStateM.run_bind_of_error hrun]
        rfl
    · right; left
      rw [reached, pauseCall_exit_of_ok (exitPause_of_rest hmem hrest now)]
      exact ⟨hrest, hheld, rfl⟩
  · left
    rw [reached, pauseCall_exit_of_ok (exitPause_of_not_mem hmem now)]
    rfl

/-- A call at a later sample keeps the samples in order. -/
theorem Sampled.reached {last : ℕ} (h : Sampled clock last) {call : PauseCall}
    (hle : last ≤ call.tick) : Sampled (clock.reached call) call.tick := by
  have hlater := h.later hle
  cases call with
  | enter reason now =>
    rw [PlaybackClockState.reached, pauseCall_enter, EStateM.Result.state_ok]
    split
    · exact hlater
    · rw [entered]
      by_cases hempty : clock.pauseReasons = ∅
      · rw [if_pos hempty]
        exact ⟨by simp, by simp [HoldChange.tick], h.epoch⟩
      · rw [if_neg hempty]
        have hopen := mt h.running.mpr hempty
        exact ⟨by simp [hopen], hlater.started, h.epoch⟩
  | exit reason now =>
    rcases reached_exit h reason now hle with hkeep | ⟨hrest, hheld, herase⟩ |
      ⟨started, hopen, -, hclosed | hlost⟩
    · rwa [hkeep]
    · rw [herase]
      have hopen := mt h.running.mpr hheld
      exact ⟨by simpa [hopen] using hrest, hlater.started, h.epoch⟩
    · rw [hclosed]
      exact ⟨by simp [closed], by simp [closed], rfl⟩
    · rw [hlost]
      exact ⟨by simp, by simp, h.epoch⟩

/-- A call at a later sample does not move playback back. -/
theorem Sampled.position_reached {last : ℕ} (h : Sampled clock last) {call : PauseCall}
    (hle : last ≤ call.tick) :
    clock.position call.tick ≤ (clock.reached call).position call.tick := by
  cases call with
  | enter reason now =>
    rw [PlaybackClockState.reached, pauseCall_enter, EStateM.Result.state_ok]
    split
    · exact le_rfl
    · rw [entered]
      by_cases hempty : clock.pauseReasons = ∅
      · have hopen := h.running.mp hempty
        simp [hempty, position, hopen, HoldChange.tick]
      · simp [hempty, position]
  | exit reason now =>
    rcases reached_exit h reason now hle with hkeep | ⟨-, -, herase⟩ |
      ⟨started, hopen, hstarted, hclosed | hlost⟩
    · rw [hkeep]
    · rw [herase]
      exact le_rfl
    · rw [hclosed]
      have hepoch := h.epoch
      simp only [position, closed, hopen, HoldChange.tick, Option.getD_some, Option.getD_none]
      omega
    · rw [hlost]
      simp only [position, hopen, HoldChange.tick, Option.getD_some, Option.getD_none]
      omega

/-- A query that finds an early pause fails. -/
theorem FindsEarlyPause.fails {now : ℕ} (h : clock.FindsEarlyPause now) :
    clock.getElapsedAllowPreEpoch now true = .error .negativeOrder := by
  obtain ⟨hepoch, started, hopen, hearly⟩ := h
  have hnow : ¬((true : Bool) = true ∧ now < clock.epoch) := fun h =>
    absurd h.2 (Nat.not_lt.mpr hepoch)
  rw [getElapsedAllowPreEpoch, if_neg hnow, getElapsed, hopen, Option.getD_some,
    checkedDurationSince_of_lt hearly]

/-- Any other query answers the position, and zero before the epoch. -/
theorem Sampled.answers_position {last now : ℕ} (h : Sampled clock last) (hle : last ≤ now)
    (hquery : ¬clock.FindsEarlyPause now) :
    clock.getElapsedAllowPreEpoch now true = .ok (clock.position now).toNat := by
  by_cases hnow : now < clock.epoch
  · have hzero : (clock.position now).toNat = 0 := by
      rw [position]
      cases hopen : clock.pauseIntervalStarted with
      | none =>
        simp only [Option.getD_none]
        omega
      | some started =>
        have := h.started started hopen
        simp only [Option.getD_some]
        omega
    rw [getElapsedAllowPreEpoch, if_pos ⟨rfl, hnow⟩, hzero]
  · rw [getElapsedAllowPreEpoch, if_neg fun h => hnow h.2, getElapsed_eq_ok]
    have hpos : 0 ≤ clock.position now := by
      rw [position]
      cases hopen : clock.pauseIntervalStarted with
      | none =>
        simp only [Option.getD_none]
        omega
      | some started =>
        have hstarted : ¬started < clock.epoch := fun hearly =>
          hquery ⟨Nat.not_lt.mp hnow, started, hopen, hearly⟩
        simp only [Option.getD_some]
        omega
    exact (Int.toNat_of_nonneg hpos).symm

/-- A run of calls and queries in which no query finds an early pause. -/
def NoEarlyPause (clock : PlaybackClockState) : List ClockEvent → Prop
  | [] => True
  | .call made :: events => (clock.reached made).NoEarlyPause events
  | .query now :: events => ¬clock.FindsEarlyPause now ∧ clock.NoEarlyPause events

/-- The answers are elapsed times that do not decrease. -/
def AnswersRise (clock : PlaybackClockState) (events : List ClockEvent) : Prop :=
  ∃ elapsed : List ℕ, clock.answers events = elapsed.map .ok ∧ elapsed.Pairwise (· ≤ ·)

/-- When every query is answered, none finds an early pause. -/
theorem noEarlyPause_of_answers {events : List ClockEvent}
    (h : ∀ answer ∈ clock.answers events, ∃ elapsed, answer = .ok elapsed) :
    clock.NoEarlyPause events := by
  induction events generalizing clock with
  | nil => trivial
  | cons event events ih =>
    cases event with
    | call made => exact ih h
    | query now =>
      constructor
      · intro hfinds
        obtain ⟨elapsed, hok⟩ := h _ List.mem_cons_self
        rw [hfinds.fails] at hok
        cases hok
      · exact ih fun answer hanswer => h answer (List.mem_cons_of_mem _ hanswer)

/-- Chronological queries that find no early pause answer elapsed times that do not decrease. -/
theorem Sampled.answers_rise {last : ℕ} (h : Sampled clock last) {events : List ClockEvent}
    (hevents : (last :: events.map ClockEvent.tick).Pairwise (· ≤ ·))
    (hquery : clock.NoEarlyPause events) :
    ∃ elapsed : List ℕ, clock.answers events = elapsed.map .ok ∧
      ((clock.position last).toNat :: elapsed).Pairwise (· ≤ ·) := by
  induction events generalizing clock last with
  | nil => exact ⟨[], rfl, List.pairwise_singleton _ _⟩
  | cons event events ih =>
    have hle : last ≤ event.tick := (List.pairwise_cons.mp hevents).1 _ (by simp)
    have hrest : (event.tick :: events.map ClockEvent.tick).Pairwise (· ≤ ·) :=
      (List.pairwise_cons.mp hevents).2
    have hmono := clock.position_mono hle
    have hraise {middle : ℤ} {elapsed : List ℕ} (hmiddle : clock.position last ≤ middle)
        (hpair : (middle.toNat :: elapsed).Pairwise (· ≤ ·)) :
        ((clock.position last).toNat :: elapsed).Pairwise (· ≤ ·) := by
      obtain ⟨hhead, htail⟩ := List.pairwise_cons.mp hpair
      exact List.pairwise_cons.mpr
        ⟨fun e he => (Int.toNat_le_toNat hmiddle).trans (hhead e he), htail⟩
    cases event with
    | call made =>
      obtain ⟨elapsed, hanswers, hpair⟩ := ih (h.reached hle) hrest hquery
      exact ⟨elapsed, hanswers, hraise (hmono.trans (h.position_reached hle)) hpair⟩
    | query now =>
      obtain ⟨elapsed, hanswers, hpair⟩ := ih (h.later hle) hrest hquery.2
      have hnow : clock.getElapsedAllowPreEpoch now true = .ok (clock.position now).toNat :=
        h.answers_position hle hquery.1
      refine ⟨(clock.position now).toNat :: elapsed, ?_, ?_⟩
      · rw [answers, hnow, hanswers, List.map_cons]
      · have hhead := Int.toNat_le_toNat hmono
        refine List.pairwise_cons.mpr ⟨fun e he => ?_, hpair⟩
        rcases List.mem_cons.mp he with rfl | he
        · exact hhead
        · exact hhead.trans ((List.pairwise_cons.mp hpair).1 e he)

/-- In a chronological run from a new clock, the queries that allow samples before the epoch
answer elapsed times that do not decrease exactly when none of them finds, at or after the epoch, an
open pause from before it. -/
theorem pre_epoch_queries_rise {start initial : ℕ} (hnew : new start initial = .ok clock)
    {events : List ClockEvent} (hevents : (events.map ClockEvent.tick).Pairwise (· ≤ ·)) :
    AnswersRise clock events ↔ NoEarlyPause clock events := by
  constructor
  · rintro ⟨elapsed, hanswers, -⟩
    apply noEarlyPause_of_answers
    intro answer hanswer
    rw [hanswers] at hanswer
    obtain ⟨time, -, rfl⟩ := List.mem_map.mp hanswer
    exact ⟨time, rfl⟩
  · intro hquery
    have hsampled : Sampled clock 0 := by
      simp only [new, Except.bind_eq_ok, checkedAddDuration_eq_ok, Except.pure_eq_ok] at hnew
      obtain ⟨epoch, ⟨-, rfl⟩, rfl⟩ := hnew
      exact ⟨by simp, by simp, rfl⟩
    have hordered : (0 :: events.map ClockEvent.tick).Pairwise (· ≤ ·) :=
      List.pairwise_cons.mpr ⟨fun _ _ => Nat.zero_le _, hevents⟩
    obtain ⟨elapsed, hanswers, hpair⟩ := hsampled.answers_rise hordered hquery
    exact ⟨elapsed, hanswers, (List.pairwise_cons.mp hpair).2⟩

/-- A pause that opens before the epoch and closes after it. -/
theorem pre_epoch_queries_rise_closed :
    ∃ clock, new 1000 0 = .ok clock ∧
      AnswersRise clock [.query 850, .call (.enter .focus 900), .query 950,
        .call (.exit .focus 1100), .query 1300] := by
  have hnew : new 1000 0 = .ok ⟨1000, 0, ∅, none, none, 1000⟩ := rfl
  have hearly (started now : ℕ) (h : now < 1000) :
      ¬FindsEarlyPause ⟨1000, 0, {.focus}, some started, some .focus, 1000⟩ now :=
    fun hfinds => absurd h (Nat.not_lt.mpr hfinds.1)
  have hopen (epoch now : ℕ) :
      ¬FindsEarlyPause ⟨1000, epoch - 1000, ∅, none, none, epoch⟩ now :=
    fun ⟨_, _, hnone, _⟩ => absurd hnone.symm (Option.some_ne_none _)
  refine ⟨_, hnew, (pre_epoch_queries_rise hnew (by decide)).mpr ?_⟩
  exact ⟨hopen 1000 850, hearly 900 950 (by decide), hopen 1200 1300, trivial⟩

/-- A pause that opens before the epoch cannot be queried after it. -/
theorem early_pause_fails_query :
    ∃ clock, new 1000 0 = .ok clock ∧
      ([.call (.enter .focus 900), .query 1100].map ClockEvent.tick).Pairwise (· ≤ ·) ∧
      clock.answers [.call (.enter .focus 900), .query 1100] = [.error .negativeOrder] ∧
      ¬AnswersRise clock [.call (.enter .focus 900), .query 1100] := by
  have hanswers : answers ⟨1000, 0, ∅, none, none, 1000⟩
      [.call (.enter .focus 900), .query 1100] = [.error .negativeOrder] := rfl
  refine ⟨_, rfl, by decide, hanswers, ?_⟩
  rintro ⟨elapsed, hok, -⟩
  cases elapsed <;> cases hanswers.symm.trans hok

end SkyAutoPlayer.DispatchCore.PlaybackClockState
