import Mathlib.Data.Int.Order.Basic
import SkyAutoPlayer.DispatchCore.PlaybackClock
import SkyAutoPlayer.Foundation.HeldTime

/-!
# Runs of the playback clock

Along chronological pause calls the clock is a function of the time under hold: its epoch is the
start after the initial pause and the closed intervals, and the playback position is frozen at the
start of the open interval. Only the reasons' union matters, so reasons may overlap, nest or repeat.
-/

namespace SkyAutoPlayer.DispatchCore

open Foundation

/-- A call of `enter_pause` or `exit_pause`. -/
abbrev PauseCall := HoldChange PauseReason

namespace PlaybackClockState

/-- Make one call; its answer is not needed here. -/
def pauseCall : PauseCall → ClockM Unit
  | .enter reason now => do
    let _ ← enterPause reason now
    pure ()
  | .exit reason now => do
    let _ ← exitPause reason now
    pure ()

/-- Make calls one after another, up to the first failure. -/
def pauseCalls : List PauseCall → ClockM Unit
  | [] => pure ()
  | call :: calls => do
    pauseCall call
    pauseCalls calls

/-- The playback position of a sample, negative before the epoch. -/
def position (clock : PlaybackClockState) (now : ℕ) : ℤ :=
  (clock.pauseIntervalStarted.getD now : ℤ) - clock.epoch

/-- The elapsed time is the position, once that is not negative. -/
theorem getElapsed_eq_ok {clock : PlaybackClockState} {now elapsed : ℕ} :
    clock.getElapsed now = .ok elapsed ↔ clock.position now = elapsed := by
  rw [getElapsed, checkedDurationSince_eq_ok, position]
  omega

/-- The position does not decrease from one sample to a later one. -/
theorem position_mono (clock : PlaybackClockState) {earlier later : ℕ} (h : earlier ≤ later) :
    clock.position earlier ≤ clock.position later := by
  cases hopen : clock.pauseIntervalStarted with
  | none => simp [position, hopen, h]
  | some started => simp [position, hopen]

/-- The clock after an initial pause has reached some time under hold. -/
structure Measures (start initial : ℕ) (held : HeldTime PauseReason)
    (clock : PlaybackClockState) : Prop where
  startPerf : clock.startPerf = start
  reasons : clock.pauseReasons = held.reasons
  started : clock.pauseIntervalStarted = held.since
  pauseTime : clock.pauseTime = initial + held.closedTicks
  epoch : clock.epoch = start + initial + held.closedTicks
  bounded : clock.epoch < 2 ^ 64

variable {start initial : ℕ} {clock after : PlaybackClockState} {held : HeldTime PauseReason}

/-- A new clock has no time under hold. -/
theorem measures_new (h : new start initial = .ok clock) :
    Measures start initial (HeldTime.after []) clock := by
  simp only [new, Except.bind_eq_ok, checkedAddDuration_eq_ok, Except.pure_eq_ok] at h
  obtain ⟨epoch, ⟨hbound, rfl⟩, rfl⟩ := h
  exact ⟨rfl, rfl, rfl, rfl, rfl, hbound⟩

/-- A pause entered again has no effect; a new reason is entered. -/
theorem pauseCall_enter (clock : PlaybackClockState) (reason : PauseReason) (now : ℕ) :
    (pauseCall (.enter reason now)).run clock =
      .ok () (if reason ∈ clock.pauseReasons then clock else clock.entered reason now) := by
  by_cases h : reason ∈ clock.pauseReasons
  · rw [pauseCall, EStateM.run_bind_of_ok (enterPause_of_mem h now), if_pos h, EStateM.run_pure]
  · rw [pauseCall, EStateM.run_bind_of_ok (enterPause_of_not_mem h now), if_neg h,
      EStateM.run_pure]

/-- Leaving the last reason goes on with the interval. -/
theorem exitPause_of_last {reason : PauseReason} (h : clock.pauseReasons = {reason}) (now : ℕ) :
    (exitPause reason now).run clock =
      (closeInterval reason now).run { clock with pauseReasons := ∅ } := by
  have hmem : reason ∈ clock.pauseReasons := by simp [h]
  have hrest : clock.pauseReasons.erase reason = ∅ := by simp [h]
  simp only [exitPause, EStateM.run_bind, EStateM.run_get, hmem, hrest, if_true, EStateM.run_set]

/-- An interval that is not open, or opened later than the sample, stops the call after the reason
is gone. -/
theorem exitPause_early {reason : PauseReason} (h : clock.pauseReasons = {reason}) {now : ℕ}
    (hearly : ∀ started, clock.pauseIntervalStarted = some started → now < started) :
    (exitPause reason now).run clock =
      .error .negativeOrder { clock with pauseReasons := ∅ } := by
  rw [exitPause_of_last h]
  cases hopen : clock.pauseIntervalStarted with
  | none =>
    simp only [closeInterval, EStateM.run_bind, EStateM.run_get, okOr,
      EStateM.ofExcept_error_run]
  | some started =>
    simp only [closeInterval, EStateM.run_bind, EStateM.run_get, okOr,
      EStateM.ofExcept_ok_run, checkedDurationSince_of_lt (hearly started hopen),
      EStateM.ofExcept_error_run]

/-- A completed pause that overflows moves nothing. -/
theorem updatePauseTime_overflow {duration : ℕ}
    (hfull : 2 ^ 64 ≤ clock.startPerf + (clock.pauseTime + duration)) :
    (updatePauseTime duration).run clock = .error .overflow clock := by
  simp only [updatePauseTime, EStateM.run_bind, EStateM.run_get]
  by_cases htime : clock.pauseTime + duration < 2 ^ 64
  · have hsum : okOr .overflow (checkedAdd 64 clock.pauseTime duration) =
        (.ok (clock.pauseTime + duration) : Except TimeArithmeticError ℕ) := by
      rw [okOr_eq_ok, checkedAdd_eq_some]
      exact ⟨htime, rfl⟩
    simp only [hsum, EStateM.ofExcept_ok_run, checkedAddDuration_of_le hfull,
      EStateM.ofExcept_error_run]
  · have hsum : okOr .overflow (checkedAdd 64 clock.pauseTime duration) =
        (.error .overflow : Except TimeArithmeticError ℕ) := by
      simp only [checkedAdd, fit, htime, if_false, okOr]
    simp only [hsum, EStateM.ofExcept_error_run]

/-- Leaving the last reason at a sample that is not earlier takes the interval and adds it. -/
theorem exitPause_timed {reason : PauseReason} {now started : ℕ}
    (h : clock.pauseReasons = {reason}) (hopen : clock.pauseIntervalStarted = some started)
    (hle : started ≤ now) :
    (exitPause reason now).run clock =
      (do
        updatePauseTime (now - started)
        pure (some (now - started, clock.pauseOpenReason.getD reason)) : ClockM _).run
        { clock with
          pauseReasons := ∅
          pauseIntervalStarted := none
          pauseOpenReason := none } := by
  rw [exitPause_of_last h]
  simp only [closeInterval, EStateM.run_bind, EStateM.run_get, hopen, okOr,
    EStateM.ofExcept_ok_run, checkedDurationSince_of_le hle, EStateM.run_modify]

/-- A completed pause that fits in 64 bits closes the interval. -/
theorem exitPause_closes {reason : PauseReason} {now started : ℕ}
    (h : clock.pauseReasons = {reason}) (hopen : clock.pauseIntervalStarted = some started)
    (hle : started ≤ now)
    (hfits : clock.startPerf + (clock.pauseTime + (now - started)) < 2 ^ 64) :
    (exitPause reason now).run clock =
      .ok (some (now - started, clock.pauseOpenReason.getD reason)) (clock.closed started now) := by
  have hupdate : (updatePauseTime (now - started)).run
      { clock with
        pauseReasons := ∅
        pauseIntervalStarted := none
        pauseOpenReason := none } = .ok () (clock.closed started now) := by
    apply updatePauseTime_eq_ok.mpr
    exact ⟨(Nat.le_add_left _ _).trans_lt hfits, hfits, rfl⟩
  rw [exitPause_timed h hopen hle, EStateM.run_bind_of_ok hupdate]
  rfl

/-- A completed pause that overflows stops the call after the reason and the interval are gone. -/
theorem exitPause_overflow {reason : PauseReason} {now started : ℕ}
    (h : clock.pauseReasons = {reason}) (hopen : clock.pauseIntervalStarted = some started)
    (hle : started ≤ now)
    (hfull : 2 ^ 64 ≤ clock.startPerf + (clock.pauseTime + (now - started))) :
    (exitPause reason now).run clock =
      .error .overflow
        { clock with
          pauseReasons := ∅
          pauseIntervalStarted := none
          pauseOpenReason := none } := by
  rw [exitPause_timed h hopen hle]
  exact EStateM.run_bind_of_error (updatePauseTime_overflow hfull)

/-- A call that exits has the outcome of its operation. -/
theorem pauseCall_exit_of_ok {reason : PauseReason} {now : ℕ} {result : Option (ℕ × PauseReason)}
    (h : (exitPause reason now).run clock = .ok result after) :
    (pauseCall (.exit reason now)).run clock = .ok () after := by
  rw [pauseCall, EStateM.run_bind_of_ok h, EStateM.run_pure]

/-- Entering a reason measures the change. -/
theorem Measures.enter (h : Measures start initial held clock)
    (hsince : held.since = none ↔ held.reasons = ∅) (reason : PauseReason) (now : ℕ) :
    Measures start initial (held.change (.enter reason now))
      (if reason ∈ clock.pauseReasons then clock else clock.entered reason now) := by
  by_cases hmem : reason ∈ clock.pauseReasons
  · have hreasons : held.reasons ≠ ∅ := by
      rintro hnone
      simp [h.reasons, hnone] at hmem
    obtain ⟨started, hopen⟩ := Option.ne_none_iff_exists'.mp (mt hsince.mp hreasons)
    rw [if_pos hmem]
    exact
      { startPerf := h.startPerf
        reasons := by
          rw [h.reasons] at hmem
          simp [HeldTime.change, h.reasons, hmem]
        started := by simp [HeldTime.change, h.started, hopen]
        pauseTime := h.pauseTime
        epoch := h.epoch
        bounded := h.bounded }
  · rw [if_neg hmem]
    by_cases hempty : clock.pauseReasons = ∅
    · have hopen : held.since = none := hsince.mpr (h.reasons ▸ hempty)
      rw [entered, if_pos hempty]
      exact
        { startPerf := h.startPerf
          reasons := by simp [HeldTime.change, h.reasons]
          started := by simp [HeldTime.change, hopen]
          pauseTime := h.pauseTime
          epoch := h.epoch
          bounded := h.bounded }
    · have hreasons : held.reasons ≠ ∅ := h.reasons ▸ hempty
      obtain ⟨started, hopen⟩ := Option.ne_none_iff_exists'.mp (mt hsince.mp hreasons)
      rw [entered, if_neg hempty]
      exact
        { startPerf := h.startPerf
          reasons := by simp [HeldTime.change, h.reasons]
          started := by simp [HeldTime.change, h.started, hopen]
          pauseTime := h.pauseTime
          epoch := h.epoch
          bounded := h.bounded }

/-- Exiting a reason that is not held measures the change. -/
theorem Measures.exit_absent (h : Measures start initial held clock)
    (hsince : held.since = none ↔ held.reasons = ∅) {reason : PauseReason}
    (hmem : reason ∉ clock.pauseReasons) (now : ℕ) :
    Measures start initial (held.change (.exit reason now)) clock := by
  have herase : held.reasons.erase reason = held.reasons :=
    Finset.erase_eq_of_notMem (h.reasons ▸ hmem)
  by_cases hempty : held.reasons = ∅
  · have hchange : held.change (.exit reason now) = held := by
      obtain ⟨reasons, closed, since⟩ := held
      obtain rfl : reasons = ∅ := hempty
      obtain rfl : since = none := hsince.mpr rfl
      simp [HeldTime.change]
    rwa [hchange]
  · have hchange : held.change (.exit reason now) = held := by
      rw [HeldTime.change, herase, if_neg hempty]
    rwa [hchange]

/-- Exiting one of several reasons measures the change. -/
theorem Measures.exit_rest (h : Measures start initial held clock) {reason : PauseReason}
    (hrest : clock.pauseReasons.erase reason ≠ ∅) (now : ℕ) :
    Measures start initial (held.change (.exit reason now))
      { clock with pauseReasons := clock.pauseReasons.erase reason } := by
  have hheld : held.reasons.erase reason ≠ ∅ := h.reasons ▸ hrest
  rw [HeldTime.change, if_neg hheld]
  exact
    { startPerf := h.startPerf
      reasons := by simp [h.reasons]
      started := h.started
      pauseTime := h.pauseTime
      epoch := h.epoch
      bounded := h.bounded }

/-- Exiting the last reason measures the change when the interval fits. -/
theorem Measures.exit_last (h : Measures start initial held clock) {reason : PauseReason}
    {now started : ℕ} (hreasons : clock.pauseReasons = {reason})
    (hopen : clock.pauseIntervalStarted = some started)
    (hfits : clock.startPerf + (clock.pauseTime + (now - started)) < 2 ^ 64) :
    Measures start initial (held.change (.exit reason now)) (clock.closed started now) := by
  have hticks := HeldTime.closedTicks_exit (h.reasons ▸ hreasons) (h.started ▸ hopen) now
  rw [h.startPerf, h.pauseTime] at hfits
  exact
    { startPerf := h.startPerf
      reasons := by simp [HeldTime.change, closed, ← h.reasons, hreasons]
      started := by simp [HeldTime.change, closed, ← h.reasons, hreasons]
      pauseTime := by rw [hticks, closed, h.pauseTime, Nat.add_assoc]
      epoch := by
        simp only [hticks, closed, h.pauseTime, h.startPerf]
        omega
      bounded := by rwa [closed, h.pauseTime, h.startPerf] }

/-- Exiting a reason at a sample that is not before the open interval measures the change, or
overflows. -/
theorem Measures.exit (h : Measures start initial held clock)
    (hsince : held.since = none ↔ held.reasons = ∅) (reason : PauseReason) {now : ℕ}
    (hnow : ∀ started, held.since = some started → started ≤ now) :
    (∃ after, (pauseCall (.exit reason now)).run clock = .ok () after ∧
        Measures start initial (held.change (.exit reason now)) after) ∨
      (∃ after, (pauseCall (.exit reason now)).run clock = .error .overflow after) ∧
        2 ^ 64 ≤ start + initial + (held.change (.exit reason now)).closedTicks := by
  by_cases hmem : reason ∈ clock.pauseReasons
  · by_cases hrest : clock.pauseReasons.erase reason = ∅
    · have hreasons : clock.pauseReasons = {reason} :=
        (Finset.erase_eq_empty_iff _ _).mp hrest |>.resolve_left (Finset.ne_empty_of_mem hmem)
      have hheld : held.reasons ≠ ∅ := h.reasons ▸ Finset.ne_empty_of_mem hmem
      obtain ⟨started, hopen⟩ := Option.ne_none_iff_exists'.mp (mt hsince.mp hheld)
      have hclock : clock.pauseIntervalStarted = some started := h.started.trans hopen
      have hle := hnow started hopen
      by_cases hfits : clock.startPerf + (clock.pauseTime + (now - started)) < 2 ^ 64
      · left
        exact ⟨_, pauseCall_exit_of_ok (exitPause_closes hreasons hclock hle hfits),
          h.exit_last hreasons hclock hfits⟩
      · right
        have hfull := Nat.not_lt.mp hfits
        have hticks := HeldTime.closedTicks_exit (h.reasons ▸ hreasons) hopen now
        constructor
        · exact ⟨_, EStateM.run_bind_of_error (exitPause_overflow hreasons hclock hle hfull)⟩
        · rw [hticks]
          rw [h.startPerf, h.pauseTime] at hfull
          omega
    · left
      exact ⟨_, pauseCall_exit_of_ok (exitPause_of_rest hmem hrest now), h.exit_rest hrest now⟩
  · left
    exact ⟨clock, pauseCall_exit_of_ok (exitPause_of_not_mem hmem now),
      h.exit_absent hsince hmem now⟩

/-- A call at a chronological sample measures its change, or overflows. -/
theorem Measures.call (h : Measures start initial held clock)
    (hsince : held.since = none ↔ held.reasons = ∅) (call : PauseCall)
    (hnow : ∀ started, held.since = some started → started ≤ call.tick) :
    (∃ after, (pauseCall call).run clock = .ok () after ∧
        Measures start initial (held.change call) after) ∨
      (∃ after, (pauseCall call).run clock = .error .overflow after) ∧
        2 ^ 64 ≤ start + initial + (held.change call).closedTicks := by
  cases call with
  | enter reason now => exact .inl ⟨_, pauseCall_enter clock reason now, h.enter hsince reason now⟩
  | exit reason now => exact h.exit hsince reason hnow

/-- Calls after calls. -/
theorem pauseCalls_append (earlier later : List PauseCall) :
    (pauseCalls (earlier ++ later)).run clock =
      (do pauseCalls earlier; pauseCalls later : ClockM Unit).run clock := by
  induction earlier generalizing clock with
  | nil => rfl
  | cons call earlier ih =>
    cases hcall : (pauseCall call).run clock with
    | ok answer middle =>
      simp only [List.cons_append, pauseCalls, EStateM.run_bind, hcall]
      rw [ih, EStateM.run_bind]
    | error error middle =>
      simp only [List.cons_append, pauseCalls, EStateM.run_bind, hcall]

/-- Chronological calls measure the time under hold, up to an overflow. -/
theorem measures_calls (hnew : new start initial = .ok clock) {calls : List PauseCall}
    (hcalls : Chronological start calls) :
    (∃ after, (pauseCalls calls).run clock = .ok () after ∧
        Measures start initial (HeldTime.after calls) after) ∨
      (∃ after, (pauseCalls calls).run clock = .error .overflow after) ∧
        2 ^ 64 ≤ start + initial + (HeldTime.after calls).closedTicks := by
  induction calls using List.reverseRecOn with
  | nil => exact .inl ⟨clock, rfl, measures_new hnew⟩
  | append_singleton calls call ih =>
    obtain ⟨hbefore, -, hearlier⟩ := chronological_append.mp hcalls
    have hnow (started : ℕ) (h : (HeldTime.after calls).since = some started) :
        started ≤ call.tick := by
      obtain ⟨earlier, hmem, rfl⟩ := HeldTime.since_mem h
      exact hearlier earlier hmem
    rw [HeldTime.after_append]
    rcases ih hbefore with ⟨middle, hrun, hmeasures⟩ | ⟨⟨middle, hrun⟩, hfull⟩
    · have hlast : (pauseCalls (calls ++ [call])).run clock =
          (do pauseCall call; pure () : ClockM Unit).run middle := by
        rw [pauseCalls_append]
        exact EStateM.run_bind_of_ok hrun
      rcases hmeasures.call (HeldTime.since_after calls) call hnow with
        ⟨after, hcall, hafter⟩ | ⟨⟨after, hcall⟩, hfull⟩
      · exact .inl ⟨after, hlast.trans (EStateM.run_bind_of_ok hcall), hafter⟩
      · exact .inr ⟨⟨after, hlast.trans (EStateM.run_bind_of_error hcall)⟩, hfull⟩
    · right
      constructor
      · refine ⟨middle, ?_⟩
        rw [pauseCalls_append]
        exact EStateM.run_bind_of_error hrun
      · have := HeldTime.closedTicks_change (HeldTime.after calls) call
        omega

/-- A run that succeeds measures the time under hold. -/
theorem measures_of_run (hnew : new start initial = .ok clock) {calls : List PauseCall}
    (hcalls : Chronological start calls) (hrun : (pauseCalls calls).run clock = .ok () after) :
    Measures start initial (HeldTime.after calls) after := by
  rcases measures_calls hnew hcalls with ⟨_, hok, hmeasures⟩ | ⟨⟨_, herror⟩, -⟩
  · rw [hok] at hrun
    cases hrun
    exact hmeasures
  · rw [herror] at hrun
    cases hrun

/-- The position of a chronological sample is the time since the start that was not under hold. -/
theorem Measures.position {calls : List PauseCall}
    (h : Measures start initial (HeldTime.after calls) after) (hcalls : Chronological start calls)
    {now : ℕ} (hstart : start ≤ now) (hnow : ∀ call ∈ calls, call.tick ≤ now) :
    after.position now = (now : ℤ) - start - initial - heldTicks calls start now := by
  have hmeasure := closedTicks_add_openTicks hcalls hstart hnow
  have hticks : (after.pauseIntervalStarted.getD now) + (HeldTime.after calls).openTicks now =
      now := by
    rw [h.started, HeldTime.openTicks]
    cases hopen : (HeldTime.after calls).since with
    | none => rfl
    | some started =>
      obtain ⟨call, hmem, rfl⟩ := HeldTime.since_mem hopen
      have := hnow call hmem
      simp only [Option.getD_some, Option.elim_some]
      omega
  rw [PlaybackClockState.position, h.epoch]
  omega

/-- What a successful run of pause calls comes to. The intervals are those during which some
reason is held, whichever reasons open and close them. -/
structure PauseLaw (start initial : ℕ) (clock : PlaybackClockState) (calls : List PauseCall)
    (after : PlaybackClockState) : Prop where
  epoch : after.epoch = start + initial + (HeldTime.after calls).closedTicks
  measure : ∀ now, start ≤ now → (∀ call ∈ calls, call.tick ≤ now) →
    after.epoch + (HeldTime.after calls).openTicks now =
      start + initial + heldTicks calls start now
  running : (HeldTime.after calls).reasons = ∅ →
    ∀ now, after.getElapsed now = checkedDurationSince now after.epoch
  frozen : ∀ earlier later middle, calls = earlier ++ later →
    (pauseCalls earlier).run clock = .ok () middle →
    (∀ part, part <+: later → (HeldTime.after (earlier ++ part)).reasons ≠ ∅) →
    ∀ now now', middle.getElapsed now = after.getElapsed now'
  monotone : ∀ earlier later middle, calls = earlier ++ later →
    (pauseCalls earlier).run clock = .ok () middle →
    ∀ now now', start ≤ now → (∀ call ∈ earlier, call.tick ≤ now) →
      (∀ call ∈ later, now ≤ call.tick) → now ≤ now' → (∀ call ∈ later, call.tick ≤ now') →
      ∀ elapsed, middle.getElapsed now = .ok elapsed →
        ∃ elapsed', after.getElapsed now' = .ok elapsed' ∧ elapsed ≤ elapsed'
  unattributed : ∀ calls' after', Chronological start calls' →
    (HeldTime.after calls').closed = (HeldTime.after calls).closed →
    (HeldTime.after calls').since = (HeldTime.after calls).since →
    (pauseCalls calls').run clock = .ok () after' →
    after'.epoch = after.epoch ∧ ∀ now, after'.getElapsed now = after.getElapsed now

/-- Chronological pause calls from the start fail only when the pauses overflow; otherwise the
clock measures the time under hold. -/
theorem pause_clock_measures_held_time (hnew : new start initial = .ok clock)
    {calls : List PauseCall} (hcalls : Chronological start calls) :
    ((∃ after, (pauseCalls calls).run clock = .ok () after) ↔
        start + initial + (HeldTime.after calls).closedTicks < 2 ^ 64) ∧
      (∀ error after, (pauseCalls calls).run clock = .error error after → error = .overflow) ∧
      ∀ after, (pauseCalls calls).run clock = .ok () after →
        PauseLaw start initial clock calls after := by
  have hrun := measures_calls hnew hcalls
  refine ⟨⟨?_, ?_⟩, ?_, fun after hok => ?_⟩
  · rintro ⟨after, hok⟩
    have hmeasures := measures_of_run hnew hcalls hok
    rw [← hmeasures.epoch]
    exact hmeasures.bounded
  · intro hfits
    rcases hrun with ⟨after, hok, -⟩ | ⟨-, hfull⟩
    · exact ⟨after, hok⟩
    · omega
  · intro error after herror
    rcases hrun with ⟨_, hok, -⟩ | ⟨⟨_, hoverflow⟩, -⟩
    · rw [hok] at herror
      cases herror
    · rw [hoverflow] at herror
      cases herror
      rfl
  · have hmeasures := measures_of_run hnew hcalls hok
    exact
      { epoch := hmeasures.epoch
        measure := fun now hstart hnow => by
          rw [hmeasures.epoch, Nat.add_assoc, closedTicks_add_openTicks hcalls hstart hnow]
        running := fun hreasons now => by
          have hsince := (HeldTime.since_after calls).mpr hreasons
          rw [getElapsed, hmeasures.started, hsince, Option.getD_none]
        frozen := fun earlier later middle hsplit hmiddle hheld now now' => by
          subst hsplit
          have hearlier := measures_of_run hnew (chronological_left hcalls) hmiddle
          obtain ⟨hclosed, hsince⟩ := HeldTime.after_of_held hheld
          obtain ⟨started, hopen⟩ := Option.ne_none_iff_exists'.mp
            (mt (HeldTime.since_after earlier).mp (by simpa using hheld [] List.nil_prefix))
          rw [getElapsed, getElapsed, hmeasures.started, hearlier.started, hmeasures.epoch,
            hearlier.epoch, hsince, hopen, HeldTime.closedTicks, HeldTime.closedTicks, hclosed]
          rfl
        monotone := fun earlier later middle hsplit hmiddle now now' hstart hnow hlater hle hnow'
            elapsed helapsed => by
          subst hsplit
          have hbefore := chronological_left hcalls
          have hearlier := measures_of_run hnew hbefore hmiddle
          have hall : ∀ call ∈ earlier ++ later, call.tick ≤ now' := by
            intro call hmem
            rcases List.mem_append.mp hmem with hmem | hmem
            · exact (hnow call hmem).trans hle
            · exact hnow' call hmem
          have hpos := hearlier.position hbefore hstart hnow
          have hpos' := hmeasures.position hcalls (hstart.trans hle) hall
          have hgrowth : heldTicks (earlier ++ later) start now' ≤
              heldTicks earlier start now + (now' - now) := heldTicks_growth hlater
          rw [getElapsed_eq_ok] at helapsed
          refine ⟨(after.position now').toNat, ?_, by omega⟩
          rw [getElapsed_eq_ok]
          omega
        unattributed := fun calls' after' hcalls' hclosed hsince hok' => by
          have hother := measures_of_run hnew hcalls' hok'
          have hepoch : after'.epoch = after.epoch := by
            rw [hother.epoch, hmeasures.epoch, HeldTime.closedTicks, HeldTime.closedTicks, hclosed]
          refine ⟨hepoch, fun now => ?_⟩
          rw [getElapsed, getElapsed, hother.started, hmeasures.started, hsince, hepoch] }

/-- A manual pause that a focus pause outlasts moves the epoch by their union. -/
theorem pause_clock_measures_held_time_overlap :
    ∃ clock after, new 1000 0 = .ok clock ∧
      (pauseCalls [.enter .manual 1100, .enter .focus 1200, .exit .manual 1300,
        .exit .focus 1500]).run clock = .ok () after ∧ after.epoch = 1400 := by
  have hnew : new 1000 0 = .ok ⟨1000, 0, ∅, none, none, 1000⟩ := rfl
  have hcalls : Chronological 1000 ([.enter .manual 1100, .enter .focus 1200, .exit .manual 1300,
      .exit .focus 1500] : List PauseCall) := by decide
  have law := pause_clock_measures_held_time hnew hcalls
  obtain ⟨after, hrun⟩ := law.1.mpr (by decide)
  exact ⟨_, after, hnew, hrun, (law.2.2 after hrun).epoch⟩

end PlaybackClockState

end SkyAutoPlayer.DispatchCore
