import SkyAutoPlayer.Player.PauseResume

/-!
# Accounting for pauses

A pause opens with the sample its iteration started with, or with a sample of the final gates, and
closes with a fresh sample. As long as no interval is opened with a sample from before the last
closing, the ticks of openings and closings never decrease, the clock's pause time is the sum of
the intervals, and playback never moves back over a pause. Two hand-overs in one iteration break
the rule: a focus pause that closes while a manual pause is requested, and a planned Down that
finds focus lost after a pause closed in the same iteration.
-/

namespace SkyAutoPlayer.Player

open Foundation DispatchCore DispatchWin32
open Procedure

/-- The clock sample that an answer carries. -/
def sampleOf : WorkerExchange → Option ℕ
  | ⟨.now _, .ok ticks⟩ => some ticks
  | ⟨.wait _, .deadline wakeQpc⟩ => some wakeQpc
  | _ => none

/-- The tick that an opening or a closing is made with. -/
def pauseTick : WorkerExchange → Option ℕ
  | ⟨.pauseOpened ticks _, _⟩ => some ticks
  | ⟨.pauseClosed ticks _, _⟩ => some ticks
  | _ => none

/-- An account of the openings and closings so far: the latest sample, the last tick, the opening
of the interval that is open, what the pause time has to be, and the position of the last
closing. -/
structure PauseLedger where
  latest : ℕ
  lastTick : ℕ
  openedAt : Option ℕ
  pauseTime : ℕ
  position : Option ℕ
  deriving DecidableEq, Repr

namespace PauseLedger

/-- The account of running playback. -/
def start (pauseTime : ℕ) : PauseLedger := ⟨0, 0, none, pauseTime, none⟩

/-- One exchange's effect on the account. -/
def record (ledger : PauseLedger) (event : WorkerExchange) : PauseLedger :=
  match event.question with
  | .pauseOpened ticks _ => { ledger with lastTick := ticks, openedAt := some ticks }
  | .pauseClosed ticks playback =>
    { ledger with
      lastTick := ticks
      openedAt := none
      pauseTime := ledger.pauseTime + (ticks - ledger.openedAt.getD ticks)
      position := (playback.getElapsed ticks).toOption }
  | _ => { ledger with latest := (sampleOf event).getD ledger.latest }

/-- What an opening or a closing owes to the account. -/
def Owes (ledger : PauseLedger) : WorkerQuestion → Prop
  | .pauseOpened ticks playback =>
    ledger.openedAt = none ∧ ledger.lastTick ≤ ticks ∧ playback.pauseTime = ledger.pauseTime ∧
      ∀ position, ledger.position = some position →
        ∃ opening, playback.getElapsed ticks = .ok opening ∧ position ≤ opening
  | .pauseClosed ticks playback =>
    ∃ started, ledger.openedAt = some started ∧ ledger.lastTick ≤ ticks ∧ started ≤ ticks ∧
      playback.pauseTime = ledger.pauseTime + (ticks - started)
  | _ => True

end PauseLedger

/-- The account of a run that starts with a clock. -/
def pauseLedger (start : PlaybackClockState) (events : List WorkerExchange) : PauseLedger :=
  events.foldl PauseLedger.record (PauseLedger.start start.pauseTime)

/-- Whether a resume was sampled later than the top of its iteration. -/
def ResumesLate (iteration : List WorkerExchange) (site : ClockSite) : Prop :=
  ∃ top ∈ iteration, ∃ resumed ∈ iteration, ∃ topTicks resumedTicks,
    top = ⟨.now .iterationTop, .ok topTicks⟩ ∧ resumed = ⟨.now site, .ok resumedTicks⟩ ∧
      topTicks < resumedTicks

/-- An iteration that opens no interval with a sample from before a closing: focus does not resume
late into a requested manual pause, and no planned Down finds focus lost after a late resume. -/
structure HandsOver (state : WorkerState) (iteration : List WorkerExchange) : Prop where
  toManual : ¬state.pauseCore.Holds .manual →
    (⟨.load .desiredPause .iterationTop, true⟩ : WorkerExchange) ∈ iteration →
      ¬ResumesLate iteration .focusRestored
  toFocus : (⟨.load .focusActive (.plannedFocus true), false⟩ : WorkerExchange) ∈ iteration →
    ¬ResumesLate iteration .focusRestored ∧ ¬ResumesLate iteration .manualResumed

/-- The clock agrees with the account. -/
structure Accounts (playback : PlaybackClockState) (ledger : PauseLedger) : Prop where
  openedAt : ledger.openedAt = playback.pauseIntervalStarted
  running : playback.pauseReasons = ∅ ↔ playback.pauseIntervalStarted = none
  lastOpened : ∀ ticks, ledger.openedAt = some ticks → ticks = ledger.lastTick
  pauseTime : playback.pauseTime = ledger.pauseTime
  position : ledger.openedAt = none → ∀ position, ledger.position = some position →
    position + playback.epoch = ledger.lastTick
  latest : ledger.lastTick ≤ ledger.latest

/-- The clock agrees with the account, and if a bound holds, a running clock may be paused with a
sample. -/
structure Opens (bound : Prop) (sample : ℕ) (playback : PlaybackClockState) (ledger : PauseLedger) :
    Prop where
  accounts : Accounts playback ledger
  sampled : sample ≤ ledger.latest
  opens : playback.pauseReasons = ∅ → bound → ledger.lastTick ≤ sample

/-- Quiet exchanges move the latest sample only. -/
theorem PauseLedger.record_of_unmoving {ledger : PauseLedger} {event : WorkerExchange}
    (h : pauseTick event = none) :
    ledger.record event = { ledger with latest := (sampleOf event).getD ledger.latest } := by
  obtain ⟨question, answer⟩ := event
  cases question <;> simp_all [record, pauseTick]

namespace Accounts

variable {playback : PlaybackClockState} {ledger : PauseLedger}

/-- A later sample keeps the agreement. -/
theorem sampled (h : Accounts playback ledger) {latest : ℕ} (hle : ledger.latest ≤ latest) :
    Accounts playback { ledger with latest } where
  openedAt := h.openedAt
  running := h.running
  lastOpened := h.lastOpened
  pauseTime := h.pauseTime
  position := h.position
  latest := h.latest.trans hle

/-- A running clock may be paused with a later sample. -/
theorem owes_opened (h : Accounts playback ledger) (hrunning : playback.pauseReasons = ∅)
    {reason : PauseReason} {ticks : ℕ} (hticks : ledger.lastTick ≤ ticks) :
    ledger.Owes (.pauseOpened ticks (playback.entered reason ticks)) := by
  have hnone : ledger.openedAt = none := h.openedAt.trans (h.running.mp hrunning)
  refine ⟨hnone, hticks, ?_, fun position hposition => ?_⟩
  · rw [← h.pauseTime, PlaybackClockState.entered, if_pos hrunning]
  · have hlast := h.position hnone position hposition
    refine ⟨ticks - playback.epoch, ?_, by omega⟩
    rw [PlaybackClockState.entered, if_pos hrunning]
    have hle : playback.epoch ≤ ticks := by omega
    exact checkedDurationSince_eq_ok.mpr ⟨hle, rfl⟩

/-- Pausing a running clock opens an interval. -/
theorem opened (h : Accounts playback ledger) (hrunning : playback.pauseReasons = ∅)
    {reason : PauseReason} {ticks : ℕ} (hsampled : ticks ≤ ledger.latest) :
    Accounts (playback.entered reason ticks)
      { ledger with lastTick := ticks, openedAt := some ticks } := by
  rw [PlaybackClockState.entered, if_pos hrunning]
  exact
    { openedAt := rfl
      running := by simp
      lastOpened := fun _ hticks => (Option.some.inj hticks).symm
      pauseTime := h.pauseTime
      position := by simp
      latest := hsampled }

/-- Another reason changes no account. -/
theorem added (h : Accounts playback ledger) (hpaused : playback.pauseReasons ≠ ∅)
    {reason : PauseReason} {ticks : ℕ} : Accounts (playback.entered reason ticks) ledger := by
  rw [PlaybackClockState.entered, if_neg hpaused]
  exact
    { openedAt := h.openedAt
      running := iff_of_false (by simp) fun hnone => hpaused (h.running.mpr hnone)
      lastOpened := h.lastOpened
      pauseTime := h.pauseTime
      position := h.position
      latest := h.latest }

/-- The last reason may be left with a sample that is not earlier. -/
theorem owes_closed (h : Accounts playback ledger) {started ticks : ℕ}
    (hstarted : playback.pauseIntervalStarted = some started) (hle : started ≤ ticks) :
    ledger.Owes (.pauseClosed ticks (playback.closed started ticks)) := by
  have hopened : ledger.openedAt = some started := h.openedAt.trans hstarted
  refine ⟨started, hopened, ?_, hle, ?_⟩
  · rwa [← h.lastOpened started hopened]
  · rw [← h.pauseTime]
    rfl

/-- Leaving the last reason closes the interval. -/
theorem closed (h : Accounts playback ledger) {started ticks : ℕ}
    (hstarted : playback.pauseIntervalStarted = some started) (hsampled : ticks ≤ ledger.latest) :
    Accounts (playback.closed started ticks)
      (ledger.record ⟨.pauseClosed ticks (playback.closed started ticks), ()⟩) := by
  have hopened : ledger.openedAt = some started := h.openedAt.trans hstarted
  have hposition : ∀ position,
      ((playback.closed started ticks).getElapsed ticks).toOption = some position →
        position + (playback.closed started ticks).epoch = ticks := by
    intro position hposition
    cases helapsed : (playback.closed started ticks).getElapsed ticks with
    | error error => simp [helapsed, Except.toOption] at hposition
    | ok elapsed =>
      have hle := checkedDurationSince_eq_ok.mp helapsed
      simp only [helapsed, Except.toOption, Option.some.injEq] at hposition
      simp only [PlaybackClockState.closed, Option.getD_none] at hle ⊢
      omega
  exact
    { openedAt := rfl
      running := by simp [PlaybackClockState.closed]
      lastOpened := by simp [PauseLedger.record]
      pauseTime := by
        simp [PlaybackClockState.closed, PauseLedger.record, hopened, h.pauseTime]
      position := fun _ => hposition
      latest := hsampled }

/-- Leaving one of several reasons changes no account. -/
theorem removed (h : Accounts playback ledger) {reason : PauseReason}
    (hrest : playback.pauseReasons.erase reason ≠ ∅) :
    Accounts { playback with pauseReasons := playback.pauseReasons.erase reason } ledger where
  openedAt := h.openedAt
  running := by
    refine iff_of_false hrest fun hnone => hrest ?_
    rw [h.running.mpr hnone]
    rfl
  lastOpened := h.lastOpened
  pauseTime := h.pauseTime
  position := h.position
  latest := h.latest

end Accounts

section Unmoving

set_option synthInstance.maxSize 1000

/-- Questions that neither open nor close an interval. -/
def WorkerQuestion.Unmoving : WorkerQuestion → Prop
  | .pauseOpened _ _ | .pauseClosed _ _ => False
  | _ => True

/-- A part of the worker that neither opens nor closes an interval and keeps the clock. -/
abbrev Steadily {ε α : Type} (procedure : WorkerM ε α) : Prop :=
  Within workerInterface WorkerQuestion.Unmoving WorkerState.playback procedure

variable {ε α : Type}

/-- Quiet questions do not move the clock. -/
theorem WorkerQuestion.Quiet.unmoving {question : WorkerQuestion} (h : question.Quiet) :
    question.Unmoving := by
  cases question <;> first | exact h | trivial

instance (priority := low) steadily_of_quietly {procedure : WorkerM ε α} [h : Quietly procedure] :
    Steadily procedure :=
  h.mono (fun _ => WorkerQuestion.Quiet.unmoving) fun _ _ hcore => congrArg PauseCore.playback hcore

/-- A guard operation keeps the clock. -/
instance steadily_timingGuard (missing : String) (describe : PhysicalTimingGuardError → String)
    (computation : GuardM Unit) : Steadily (timingGuard missing describe computation) := by
  refine Within.bind inferInstance fun state => ?_
  split
  · infer_instance
  · exact ⟨fun _ => wp_zoom.mpr ⟨fun _ _ _ => rfl, fun _ _ _ => rfl⟩⟩

instance (effectiveNow : Except String ℕ) (hwnd : ℤ) :
    Steadily (suspendLiveInputForDispatch effectiveNow hwnd) := by
  have hinvalidate : Steadily (update fun state =>
      state.invalidateDownAuthorization.invalidateGuard : WorkerM String Unit) :=
    within_update fun _ => rfl
  have hrelease : Steadily (ask (I := workerInterface) (.releaseAll hwnd) :
      WorkerM String (Except String Unit)) := within_ask trivial
  have hcancel : Steadily (ask (I := workerInterface) .cancelLiveGenerations :
      WorkerM String (Except String Unit)) := within_ask trivial
  have hforget : Steadily (update fun state =>
      { state.invalidateDownAuthorization with pendingUpRecovery := none } : WorkerM String Unit) :=
    within_update fun _ => rfl
  have hsuspended : Steadily (ask (I := workerInterface) .suspended : WorkerM String Unit) :=
    within_ask trivial
  unfold suspendLiveInputForDispatch
  infer_instance

instance (describe : String → String) (nowTicks : ℕ) (hwnd : ℤ) :
    Steadily (suspendOrTerminal describe nowTicks hwnd) := by
  have hsettle : Steadily (update fun state => { state with manualPauseSuspensionPending := false } :
      WorkerM LoopEnd Unit) := within_update fun _ => rfl
  unfold suspendOrTerminal
  infer_instance

instance (manualPauseActive : Bool) (nowTicks : ℕ) (preflightTarget : TargetStamp) :
    Steadily (restoreSuspension manualPauseActive nowTicks preflightTarget) := by
  unfold restoreSuspension suspendRestored
  infer_instance

instance (describe : String → String) (nowTicks : ℕ) :
    Steadily (suspendInSafetyWindow describe nowTicks) :=
  Within.bind (within_ask trivial) fun _ => inferInstance

instance (nowTicks : ℕ) : Steadily (suspendForManualPause nowTicks) := by
  have hdefer : Steadily (update fun state => { state with manualPauseSuspensionPending := true } :
      WorkerM LoopEnd Unit) := within_update fun _ => rfl
  unfold suspendForManualPause
  infer_instance

end Unmoving

namespace Opens

variable {bound bound' : Prop} {sample : ℕ} {playback : PlaybackClockState} {ledger : PauseLedger}

/-- A narrower bound promises less. -/
theorem weaken (h : Opens bound sample playback ledger) (hbound : bound' → bound) :
    Opens bound' sample playback ledger where
  accounts := h.accounts
  sampled := h.sampled
  opens hrunning hheld := h.opens hrunning (hbound hheld)

/-- A clock that is paused opens nothing. -/
theorem of_paused (h : Accounts playback ledger) (hsampled : sample ≤ ledger.latest)
    (hpaused : playback.pauseReasons ≠ ∅) : Opens bound sample playback ledger where
  accounts := h
  sampled := hsampled
  opens hrunning := absurd hrunning hpaused

/-- The latest sample may pause a running clock. -/
theorem of_latest (h : Accounts playback ledger) :
    Opens bound ledger.latest playback ledger where
  accounts := h
  sampled := le_rfl
  opens _ _ := h.latest

/-- A later sample keeps the promise. -/
theorem later (h : Opens bound sample playback ledger) {latest : ℕ}
    (hle : ledger.latest ≤ latest) : Opens bound sample playback { ledger with latest } where
  accounts := h.accounts.sampled hle
  sampled := h.sampled.trans hle
  opens := h.opens

end Opens

section Monitored

/-- Follow an iteration whose samples are in order. -/
def accountMonitor (iteration : List WorkerExchange) : Monitor workerInterface PauseLedger where
  requires ledger question := ledger.Owes question
  admits ledger event := event ∈ iteration ∧
    ∀ ticks, sampleOf event = some ticks → ledger.latest ≤ ticks
  record := PauseLedger.record

/-- The iteration finds focus lost before a planned Down that was due at its top. -/
def LosesPlannedFocus (iteration : List WorkerExchange) : Prop :=
  (⟨.load .focusActive (.plannedFocus true), false⟩ : WorkerExchange) ∈ iteration

variable {iteration : List WorkerExchange} {state : WorkerState} {ledger : PauseLedger}
  {bound : Prop} {sample : ℕ}

/-- Parts that neither open nor close keep what later samples keep. -/
theorem steady_playback {κ : Type} {allowed : WorkerQuestion → Prop} {kept : WorkerState → κ}
    {holds : PlaybackClockState → PauseLedger → Prop}
    (hallowed : ∀ question, allowed question → question.Unmoving)
    (hkept : ∀ state after, kept after = kept state → after.playback = state.playback)
    (hlatest : ∀ playback ledger latest, ledger.latest ≤ latest → holds playback ledger →
      holds playback { ledger with latest }) :
    Steady (accountMonitor iteration) allowed kept
      (fun state ledger => holds state.playback ledger) where
  asks ledger question h := by
    have hunmoving := hallowed question h
    cases question <;> trivial
  hears state ledger event h hadmits hholds := by
    have hmoves : pauseTick event = none := by
      have hunmoving := hallowed _ h
      obtain ⟨question, answer⟩ := event
      cases question <;> first | rfl | exact hunmoving.elim
    have hrecord : (accountMonitor iteration).record ledger event =
        { ledger with latest := (sampleOf event).getD ledger.latest } :=
      PauseLedger.record_of_unmoving hmoves
    rw [hrecord]
    refine hlatest _ _ _ ?_ hholds
    cases hsample : sampleOf event with
    | none => exact le_rfl
    | some ticks => exact hadmits.2 ticks hsample
  keeps state after ledger hsame hholds := by
    rw [hkept _ _ hsame]
    exact hholds

/-- The promise to open survives what neither opens nor closes. -/
theorem steady_opens : Steady (accountMonitor iteration) WorkerQuestion.Unmoving
    WorkerState.playback (fun state ledger => Opens bound sample state.playback ledger) :=
  steady_playback (fun _ h => h) (fun _ _ h => h) fun _ _ _ hle h => h.later hle

/-- A reason is added with a sample that may pause a running clock. -/
theorem wp_enterPause_accounts {reason : PauseReason} {ticks : ℕ}
    (h : Opens True ticks state.playback ledger) :
    wp (accountMonitor iteration) (enterPause reason ticks)
      (fun _ after ledger' => Accounts after.playback ledger' ∧
        after.playback.pauseReasons ≠ ∅ ∧ ledger.latest ≤ ledger'.latest)
      (fun _ _ _ => False) state ledger := by
  have hadded : (state.playback.entered reason ticks).pauseReasons ≠ ∅ := by
    simp [PlaybackClockState.pauseReasons_entered]
  refine wp_enterPause (fun hrunning => ⟨?_, fun _ => ?_⟩) fun hpaused => ?_
  · exact h.accounts.owes_opened hrunning (h.opens hrunning trivial)
  · exact ⟨h.accounts.opened hrunning h.sampled, hadded, le_rfl⟩
  · exact ⟨h.accounts.added hpaused, hadded, le_rfl⟩

/-- A held reason is left with a sample. -/
theorem wp_exitPause_accounts {reason : PauseReason} {ticks : ℕ}
    (h : Accounts state.playback ledger) (hsampled : ticks ≤ ledger.latest)
    (hheld : reason ∈ state.playback.pauseReasons) :
    wp (accountMonitor iteration) (exitPause reason ticks)
      (fun _ after ledger' => Accounts after.playback ledger' ∧ ledger'.latest = ledger.latest ∧
        (after.playback.pauseReasons = ∅ →
          state.playback.pauseReasons = {reason} ∧ ledger'.lastTick = ticks))
      (fun _ _ _ => True) state ledger := by
  refine wp_exitPause (fun started hlast hstarted hle => ⟨?_, fun _ => ?_⟩) (fun hanother => ?_)
    fun _ _ => trivial
  · exact h.owes_closed hstarted hle
  · exact ⟨h.closed hstarted hsampled, rfl, fun _ => ⟨hlast, rfl⟩⟩
  · have hrest : state.playback.pauseReasons.erase reason ≠ ∅ := by
      intro hempty
      refine hanother ?_
      rw [← Finset.insert_erase hheld, hempty]
      rfl
    exact ⟨h.removed hrest, rfl, fun hempty => absurd hempty hrest⟩

/-- A focus loss pauses with a sample that may pause a running clock. -/
theorem wp_enterFocusPause_accounts {focusTicks : ℕ}
    (h : Opens True focusTicks state.playback ledger) :
    wp (accountMonitor iteration) (enterFocusPause focusTicks)
      (fun _ after ledger' => Accounts after.playback ledger' ∧
        after.playback.pauseReasons ≠ ∅ ∧ ledger.latest ≤ ledger'.latest)
      (fun _ _ _ => True) state ledger := by
  have hpaused : Steady (accountMonitor iteration) WorkerQuestion.Unmoving WorkerState.playback
      (fun after ledger' => Accounts after.playback ledger' ∧ after.playback.pauseReasons ≠ ∅ ∧
        ledger.latest ≤ ledger'.latest) :=
    @steady_playback iteration _ _ _ (fun playback ledger' => Accounts playback ledger' ∧
      playback.pauseReasons ≠ ∅ ∧ ledger.latest ≤ ledger'.latest) (fun _ h => h) (fun _ _ h => h)
      fun _ _ _ hle h => ⟨h.1.sampled hle, h.2.1, h.2.2.trans hle⟩
  unfold enterFocusPause
  refine wp_bind.mpr (wp_update.mpr (wp_bind.mpr (wp_current.mpr (wp_ite.mpr ?_))))
  refine ⟨fun hheld => ⟨h.accounts, ?_, le_rfl⟩, fun _ => wp_bind.mpr (wp_mapError.mpr ?_)⟩
  · exact Finset.ne_empty_of_mem (of_decide_eq_true hheld)
  · refine wp_mono (wp_enterPause_accounts h) (fun _ after ledger' h => ?_) fun _ _ _ _ => trivial
    exact hpaused.wp_bind h (fun _ _ _ _ => trivial) fun _ _ _ h => h

section Control

variable {config : WorkerConfig} {nowTicks : ℕ} {manualPause : Bool} {first : WorkerState}

/-- Between iterations the clock agrees with the account. -/
def AgreesWithAccount (state : WorkerState) (ledger : PauseLedger) : Prop :=
  Accounts state.playback ledger

/-- Quiet parts keep the agreement. -/
theorem steady_agrees :
    Steady (accountMonitor iteration) WorkerQuestion.Quiet WorkerState.pauseCore AgreesWithAccount :=
  steady_playback (fun _ => WorkerQuestion.Quiet.unmoving) (fun _ _ h => congrArg PauseCore.playback h)
    fun _ _ _ hle h => h.sampled hle

/-- A resume that is not late closes no later than the top of its iteration. -/
theorem le_top_of_not_late {site : ClockSite} {resumedTicks : ℕ}
    (htop : (⟨.now .iterationTop, .ok nowTicks⟩ : WorkerExchange) ∈ iteration)
    (hresumed : (⟨.now site, .ok resumedTicks⟩ : WorkerExchange) ∈ iteration)
    (hnot : ¬ResumesLate iteration site) : resumedTicks ≤ nowTicks := by
  by_contra hlate
  exact hnot ⟨_, htop, _, hresumed, nowTicks, resumedTicks, rfl, rfl, not_le.mp hlate⟩

/-- A resume closes an interval no later than the top where something may open at the top. -/
theorem wp_resume_accounts (bound : Prop) {site : ClockSite} {reason : PauseReason}
    {describe : TimeArithmeticError → LoopEnd} {next : WorkerM LoopEnd Unit}
    {success : Unit → WorkerState → PauseLedger → Prop}
    (h : Accounts state.playback ledger) (hheld : reason ∈ state.playback.pauseReasons)
    (hdescribe : ∀ error, describe error ≠ .next) (hsampled : nowTicks ≤ ledger.latest)
    (hbound : ∀ resumedTicks, (⟨.now site, .ok resumedTicks⟩ : WorkerExchange) ∈ iteration →
      state.playback.pauseReasons = {reason} → bound → resumedTicks ≤ nowTicks)
    (hnext : ∀ after ledger, Opens bound nowTicks after.playback ledger →
      wp (accountMonitor iteration) next success (IfNext AgreesWithAccount) after ledger) :
    wp (accountMonitor iteration) (do
        let resumedTicks ← qpcTicksOrTerminal site
        mapError describe (exitPause reason resumedTicks)
        next)
      success (IfNext AgreesWithAccount) state ledger := by
  refine wp_bind.mpr (wp_qpcTicksOrTerminal trivial (fun resumedTicks hadmits => ?_)
    fun _ _ => nofun)
  have hle : ledger.latest ≤ resumedTicks := hadmits.2 _ rfl
  refine wp_bind.mpr (wp_mapError.mpr ?_)
  refine wp_mono (wp_exitPause_accounts (h.sampled hle) le_rfl hheld) ?_
    fun error _ _ _ hnext => absurd hnext (hdescribe error)
  rintro _ after ledger' ⟨haccounts, hlatest, hclosed⟩
  refine hnext _ _ ⟨haccounts, ?_, fun hrunning hheld => ?_⟩
  · rw [hlatest]
    exact hsampled.trans hle
  · obtain ⟨hlast, htick⟩ := hclosed hrunning
    rw [htick]
    exact hbound _ hadmits.1 hlast hheld

/-- Where a pause may open at the top after the focus section: a requested manual pause, and a
planned Down that finds focus lost. -/
def OpensAtTop (iteration : List WorkerExchange) (manualPause : Bool) : Prop :=
  manualPause = true ∨ LosesPlannedFocus iteration

/-- What the control section may rely on in its iteration. -/
structure Sampled (first : WorkerState) (iteration : List WorkerExchange) (nowTicks : ℕ)
    (manualPause : Bool) : Prop where
  handsOver : HandsOver first iteration
  top : (⟨.now .iterationTop, .ok nowTicks⟩ : WorkerExchange) ∈ iteration
  wanted : manualPause = true →
    (⟨.load .desiredPause .iterationTop, true⟩ : WorkerExchange) ∈ iteration

/-- The clock is still what it was, and opens as promised. -/
def Unmoved (bound : Prop) (playback : PlaybackClockState) (nowTicks : ℕ) (state : WorkerState)
    (ledger : PauseLedger) : Prop :=
  state.playback = playback ∧ Opens bound nowTicks state.playback ledger

/-- What neither opens nor closes keeps the clock as it was. -/
theorem steady_unmoved {playback : PlaybackClockState} :
    Steady (accountMonitor iteration) WorkerQuestion.Unmoving WorkerState.playback
      (Unmoved bound playback nowTicks) :=
  @steady_playback iteration _ _ _ (fun playback' ledger => playback' = playback ∧
    Opens bound nowTicks playback' ledger) (fun _ h => h) (fun _ _ h => h)
    fun _ _ _ hle h => ⟨h.1, h.2.later hle⟩

/-- An unmoved clock agrees with the account. -/
theorem Unmoved.ifNext {playback : PlaybackClockState} (error : LoopEnd) (after : WorkerState)
    (ledger : PauseLedger) (h : Unmoved bound playback nowTicks after ledger) :
    IfNext AgreesWithAccount error after ledger :=
  fun _ => h.2.accounts

/-- Leaving the focus pause closes no later than the top where a pause may open at the top. -/
theorem wp_resumeFocus_accounts (hsampled : Sampled first iteration nowTicks manualPause)
    (h : Unmoved True first.playback nowTicks state ledger)
    (hfocus : .focus ∈ first.playback.pauseReasons) :
    wp (accountMonitor iteration) resumeFocus
      (fun _ after ledger => Opens (OpensAtTop iteration manualPause) nowTicks after.playback ledger)
      (IfNext AgreesWithAccount) state ledger := by
  have hopens := @steady_opens iteration (OpensAtTop iteration manualPause) nowTicks
  refine wp_resume_accounts (OpensAtTop iteration manualPause) h.2.accounts (by rwa [h.1])
    (fun _ => nofun) h.2.sampled ?_ ?_
  · intro resumedTicks hresumed hlast hbound
    refine le_top_of_not_late hsampled.top hresumed ?_
    have hmanual : ¬first.pauseCore.Holds .manual := by
      rw [PauseCore.Holds]
      change .manual ∉ first.playback.pauseReasons
      rw [← h.1, hlast]
      decide
    exact hbound.elim (fun hpause => hsampled.handsOver.toManual hmanual (hsampled.wanted hpause))
      fun hlost => (hsampled.handsOver.toFocus hlost).1
  · intro after ledger h
    have hforget : Steadily (update WorkerState.forgetTarget : WorkerM LoopEnd Unit) :=
      within_update fun _ => rfl
    have hrestored : Steadily (update fun state => { state with focusRestoreStartedTicks := none } :
        WorkerM LoopEnd Unit) := within_update fun _ => rfl
    exact hopens.wp h (fun _ _ _ h => h) fun _ _ _ h _ => h.accounts

/-- A restoration resumes or leaves the clock as it was. -/
theorem wp_restoreFocus_accounts (hsampled : Sampled first iteration nowTicks manualPause)
    (h : Unmoved True first.playback nowTicks state ledger)
    (hfocus : .focus ∈ first.playback.pauseReasons) :
    wp (accountMonitor iteration) (restoreFocus config nowTicks manualPause)
      (fun _ after ledger => Opens (OpensAtTop iteration manualPause) nowTicks after.playback ledger)
      (IfNext AgreesWithAccount) state ledger := by
  have hforget : Steadily (update WorkerState.forgetTarget : WorkerM LoopEnd Unit) :=
    within_update fun _ => rfl
  have hinvalidate : Steadily (update WorkerState.invalidateGuard : WorkerM LoopEnd Unit) :=
    within_update fun _ => rfl
  have habandon : ∀ {state : WorkerState} {ledger : PauseLedger},
      Unmoved True first.playback nowTicks state ledger → wp (accountMonitor iteration) abandonRestore
        (fun _ after ledger => Opens (OpensAtTop iteration manualPause) nowTicks after.playback ledger)
        (IfNext AgreesWithAccount) state ledger :=
    fun h => wp_bind.mpr (wp_update.mpr (wp_fail.mpr fun _ => h.2.accounts))
  unfold restoreFocus
  refine steady_unmoved.wp_bind h Unmoved.ifNext fun stamp after ledger h => ?_
  cases stamp with
  | none => exact habandon h
  | some preflightTarget =>
    refine steady_unmoved.wp_bind h Unmoved.ifNext fun state after ledger h => ?_
    refine steady_unmoved.wp_bind h Unmoved.ifNext fun _ after ledger h => ?_
    refine steady_unmoved.wp_bind h Unmoved.ifNext fun passed after ledger h => ?_
    refine wp_ite.mpr ⟨fun _ => ?_, fun _ => ?_⟩
    · refine steady_unmoved.wp_bind h Unmoved.ifNext fun _ after ledger h => ?_
      refine steady_unmoved.wp_bind h Unmoved.ifNext fun stamp after ledger h => ?_
      cases stamp with
      | none => exact habandon h
      | some postRestoreTarget =>
        refine steady_unmoved.wp_bind h Unmoved.ifNext fun passed after ledger h => ?_
        exact wp_ite.mpr ⟨fun _ => wp_resumeFocus_accounts hsampled h hfocus, fun _ => habandon h⟩
    · exact steady_unmoved.wp_bind h Unmoved.ifNext fun _ after ledger h => habandon h

/-- The focus section leaves a clock that may be paused at the top where something may. -/
theorem wp_focusSection_accounts {focusOk : Bool}
    (hsampled : Sampled first iteration nowTicks manualPause)
    (h : Unmoved True first.playback nowTicks state ledger) :
    wp (accountMonitor iteration) (focusSection config nowTicks focusOk manualPause)
      (fun _ after ledger => Opens (OpensAtTop iteration manualPause) nowTicks after.playback ledger)
      (IfNext AgreesWithAccount) state ledger := by
  have hopens := @steady_opens iteration (OpensAtTop iteration manualPause) nowTicks
  refine wp_ite.mpr ⟨fun _ => ?_, fun _ => ?_⟩
  · refine wp_bind.mpr (wp_current.mpr (wp_onlyIf.mpr ⟨fun hheld => ?_, fun _ => ?_⟩))
    · have hfocus : .focus ∈ first.playback.pauseReasons := by
        rw [← h.1]
        exact of_decide_eq_true hheld
      refine wp_bind.mpr (wp_current.mpr (wp_bind.mpr (wp_update.mpr ?_)))
      have hunmoved := @steady_unmoved iteration True nowTicks first.playback
      refine hunmoved.wp_bind h Unmoved.ifNext fun elapsed after ledger h => ?_
      refine wp_onlyIf.mpr ⟨fun _ => wp_restoreFocus_accounts hsampled h hfocus, fun _ => ?_⟩
      exact h.2.weaken fun _ => trivial
    · exact h.2.weaken fun _ => trivial
  · refine wp_bind.mpr (wp_mapError.mpr (wp_mono (wp_enterFocusPause_accounts h.2) ?_
      fun _ _ _ _ => nofun))
    rintro entered after ledger' ⟨haccounts, hpaused, hlatest⟩
    have hpausedOpens : Opens (OpensAtTop iteration manualPause) nowTicks after.playback ledger' :=
      .of_paused haccounts (h.2.sampled.trans hlatest) hpaused
    exact hopens.wp hpausedOpens (fun _ _ _ h => h) fun _ _ _ h _ => h.accounts

/-- Leaving the manual pause closes no later than the top where a planned Down may pause there. -/
theorem wp_leaveManualPause_accounts (hsampled : Sampled first iteration nowTicks manualPause)
    {playback : PlaybackClockState}
    (h : Unmoved (LosesPlannedFocus iteration) playback nowTicks state ledger)
    (hmanual : .manual ∈ playback.pauseReasons) :
    wp (accountMonitor iteration) (leaveManualPause config nowTicks)
      (fun _ after ledger => Opens (LosesPlannedFocus iteration) nowTicks after.playback ledger)
      (IfNext AgreesWithAccount) state ledger := by
  have hopens := @steady_opens iteration (LosesPlannedFocus iteration) nowTicks
  unfold leaveManualPause
  refine steady_unmoved.wp_bind h Unmoved.ifNext fun state after ledger h => ?_
  refine steady_unmoved.wp_bind h Unmoved.ifNext fun _ after ledger h => ?_
  refine steady_unmoved.wp_bind h Unmoved.ifNext fun stamp after ledger h => ?_
  cases stamp with
  | none => exact wp_bind.mpr (wp_update.mpr (wp_fail.mpr fun _ => h.2.accounts))
  | some preflightTarget =>
    refine steady_unmoved.wp_bind h Unmoved.ifNext fun _ after ledger h => ?_
    refine steady_unmoved.wp_bind h Unmoved.ifNext fun passed after ledger h => ?_
    refine wp_ite.mpr ⟨fun _ => ?_, fun _ => ?_⟩
    · refine wp_resume_accounts (LosesPlannedFocus iteration) h.2.accounts (by rwa [h.1])
        (fun _ => nofun) h.2.sampled ?_ ?_
      · intro resumedTicks hresumed _ hlost
        exact le_top_of_not_late hsampled.top hresumed (hsampled.handsOver.toFocus hlost).2
      · exact fun _ _ h => hopens.wp h (fun _ _ _ h => h) fun _ _ _ h _ => h.accounts
    · exact wp_bind.mpr (wp_update.mpr (wp_fail.mpr fun _ => h.2.accounts))

/-- The manual section leaves a clock that may be paused at the top by a planned Down only. -/
theorem wp_manualSection_accounts (hsampled : Sampled first iteration nowTicks manualPause)
    (h : Opens (OpensAtTop iteration manualPause) nowTicks state.playback ledger) :
    wp (accountMonitor iteration) (manualSection config nowTicks manualPause)
      (fun _ after ledger => Opens (LosesPlannedFocus iteration) nowTicks after.playback ledger)
      (IfNext AgreesWithAccount) state ledger := by
  have hopens := @steady_opens iteration (LosesPlannedFocus iteration) nowTicks
  have hsettled : Opens (LosesPlannedFocus iteration) nowTicks state.playback ledger :=
    h.weaken Or.inr
  refine wp_bind.mpr (wp_current.mpr (wp_ite.mpr ⟨fun hentering => ?_, fun _ => ?_⟩))
  · have hpause : manualPause = true := by simp_all
    have hrunning : Opens True nowTicks state.playback ledger := h.weaken fun _ => Or.inl hpause
    refine wp_bind.mpr (wp_update.mpr ?_)
    refine steady_opens.wp_bind hrunning (fun _ _ _ h _ => h.accounts) fun _ after ledger h => ?_
    refine wp_bind.mpr (wp_mapError.mpr (wp_mono (wp_enterPause_accounts h) ?_
      fun _ _ _ => False.elim))
    rintro _ after ledger' ⟨haccounts, hpaused, hlatest⟩
    have hafter : Opens (LosesPlannedFocus iteration) nowTicks after.playback ledger' :=
      .of_paused haccounts (h.sampled.trans hlatest) hpaused
    exact hopens.wp hafter (fun _ _ _ h => h) fun _ _ _ h _ => h.accounts
  · refine wp_ite.mpr ⟨fun hleaving => ?_, fun _ => hsettled⟩
    refine wp_ite.mpr ⟨fun _ => hsettled, fun _ => ?_⟩
    have hheld : .manual ∈ state.playback.pauseReasons := by
      have hmanual : state.playback.hasPauseReason .manual = true := by simp_all
      exact of_decide_eq_true hmanual
    exact wp_leaveManualPause_accounts hsampled ⟨rfl, hsettled⟩ hheld

/-- The control section leaves a clock that may be paused at the top by a planned Down only. -/
theorem wp_controlSection_accounts (hhands : HandsOver first iteration)
    (htop : (⟨.now .iterationTop, .ok nowTicks⟩ : WorkerExchange) ∈ iteration)
    (h : Unmoved True first.playback nowTicks state ledger) :
    wp (accountMonitor iteration) (controlSection config nowTicks)
      (fun _ after ledger => Opens (LosesPlannedFocus iteration) nowTicks after.playback ledger)
      (IfNext AgreesWithAccount) state ledger := by
  unfold controlSection
  refine steady_unmoved.wp_bind h Unmoved.ifNext fun focusOk after ledger h => ?_
  refine steady_unmoved.wp_bind h Unmoved.ifNext fun state after ledger h => ?_
  refine steady_unmoved.wp_bind h Unmoved.ifNext fun _ after ledger h => ?_
  refine wp_bind.mpr (wp_ask.mpr ⟨trivial, fun manualPause hadmits => ?_⟩)
  have hsampled : Sampled first iteration nowTicks manualPause := by
    refine ⟨hhands, htop, fun hpause => ?_⟩
    rw [← hpause]
    exact hadmits.1
  have hwanted : Unmoved True first.playback nowTicks after
      ((accountMonitor iteration).record ledger ⟨.load .desiredPause .iterationTop, manualPause⟩) :=
    h
  refine steady_unmoved.wp_bind hwanted Unmoved.ifNext fun state after ledger h => ?_
  refine steady_unmoved.wp_bind h Unmoved.ifNext fun _ after ledger h => ?_
  refine wp_bind.mpr (wp_mono (wp_focusSection_accounts hsampled h) ?_ fun _ _ _ h => h)
  intro _ after ledger h
  refine wp_bind.mpr (wp_mono (wp_manualSection_accounts hsampled h) ?_ fun _ _ _ h => h)
  exact fun _ after ledger h => h

end Control

section Dispatch

variable {config : WorkerConfig} {immediate : Bool}

/-- A frame may be dispatched at a sample that may pause a running clock, at the top of the
iteration only if a planned Down loses focus there. -/
def Due (iteration : List WorkerExchange) (sample : ℕ) (immediate : Bool) (state : WorkerState)
    (ledger : PauseLedger) : Prop :=
  Opens (immediate = true → LosesPlannedFocus iteration) sample state.playback ledger

/-- Quiet parts keep a frame due. -/
theorem steady_due : Steady (accountMonitor iteration) WorkerQuestion.Quiet WorkerState.pauseCore
    (Due iteration sample immediate) :=
  steady_playback (fun _ => WorkerQuestion.Quiet.unmoving) (fun _ _ h => congrArg PauseCore.playback h)
    fun _ _ _ hle h => h.later hle

/-- What a dispatch step that the loop survives leaves. -/
def StaysDue (iteration : List WorkerExchange) (sample : ℕ) (immediate : Bool)
    (step : DispatchStep) (after : WorkerState) (ledger : PauseLedger) : Prop :=
  step.GoesOn → Due iteration sample immediate after ledger

/-- Parts that neither open nor close keep a frame due. -/
theorem keeps_due_steadily {α : Type} {procedure : WorkerM DispatchStep α}
    (h : Steadily procedure) : Keeps (accountMonitor iteration) (Due iteration sample immediate)
      (StaysDue iteration sample immediate) procedure :=
  steady_opens.keeps_of h fun _ _ _ h _ => h

/-- A focus loss with a sample that may pause a running clock keeps a frame due. -/
theorem wp_enterFocusPause_due {state : WorkerState} {ledger : PauseLedger} {focusTicks : ℕ}
    (h : Opens True focusTicks state.playback ledger) (hsampled : sample ≤ ledger.latest) :
    wp (accountMonitor iteration) (mapError DispatchStep.terminate (enterFocusPause focusTicks))
      (fun _ => Due iteration sample immediate) (StaysDue iteration sample immediate) state
      ledger := by
  refine wp_mapError.mpr (wp_mono (wp_enterFocusPause_accounts h) ?_ fun _ _ _ _ => False.elim)
  rintro entered after ledger' ⟨haccounts, hpaused, hlatest⟩
  exact .of_paused haccounts (hsampled.trans hlatest) hpaused

instance leaves_due : DispatchLeaves (accountMonitor iteration) (Due iteration sample immediate)
    (StaysDue iteration sample immediate) where
  terminates _ _ _ := False.elim
  quiet h := keeps_due_steadily (@steadily_of_quietly _ _ _ h)
  losesFocus := by
    refine Keeps.bind (keeps_due_steadily inferInstance) fun state => ?_
    split
    · refine ⟨fun state ledger h => wp_bind.mpr (wp_ask.mpr ⟨trivial, fun answer hadmits => ?_⟩)⟩
      cases answer with
      | error error => exact False.elim
      | ok focusTicks =>
        have hle : ledger.latest ≤ focusTicks := hadmits.2 _ rfl
        have hfresh : Opens True focusTicks state.playback { ledger with latest := focusTicks } :=
          .of_latest (h.accounts.sampled hle)
        refine wp_bind.mpr (wp_mono (wp_enterFocusPause_due hfresh (h.sampled.trans hle)) ?_
          fun _ _ _ h => h)
        exact fun _ _ _ h => h
    · exact keeps_due_steadily inferInstance
  sends packet := keeps_due_steadily (within_ask trivial)
  recovers packet := keeps_due_steadily (within_ask trivial)
  observes _ _ _ _ _ := keeps_due_steadily inferInstance

/-- The first gate of a planned Down pauses with the sample that the dispatch was due at. -/
theorem keeps_admitAuthoredDown_due {view : AuthoredBatchView}
    {preflightTarget : Option TargetStamp} :
    Keeps (accountMonitor iteration) (Due iteration sample immediate)
      (StaysDue iteration sample immediate)
      (admitAuthoredDown config view preflightTarget sample immediate) := by
  refine ⟨fun state ledger h => ?_⟩
  have hlost : wp (accountMonitor iteration)
      (outerFocusLost config (.plannedFocus immediate) view.hasDown : WorkerM DispatchStep Bool)
      (fun lost after ledger => Due iteration sample immediate after ledger ∧
        (lost = true → immediate = true → LosesPlannedFocus iteration))
      (StaysDue iteration sample immediate) state ledger := by
    refine wp_ite.mpr ⟨fun _ => wp_bind.mpr (wp_ite.mpr ⟨fun _ => ?_, fun _ => ?_⟩), fun _ => ?_⟩
    · refine ⟨trivial, fun focused hadmits => ⟨h, fun hlost himmediate => ?_⟩⟩
      have hunfocused : focused = false := by simpa using hlost
      rw [himmediate, hunfocused] at hadmits
      exact hadmits.1
    · exact ⟨h, nofun⟩
    · exact ⟨h, nofun⟩
  refine wp_bind.mpr (wp_mono hlost ?_ fun _ _ _ h => h)
  rintro lost after ledger ⟨h, hlost⟩
  refine wp_ite.mpr ⟨fun hlosing => ?_, fun _ => ?_⟩
  · refine wp_bind.mpr (wp_current.mpr (wp_ite.mpr ⟨fun _ => ?_, fun _ => False.elim⟩))
    have hopens : Opens True sample after.playback ledger := h.weaken fun _ => hlost hlosing
    refine wp_bind.mpr (wp_mono (wp_enterFocusPause_due hopens h.sampled) ?_ fun _ _ _ h => h)
    exact fun _ _ _ h => h
  · have hrest : Keeps (accountMonitor iteration) (Due iteration sample immediate)
        (StaysDue iteration sample immediate) (do
          injectFocusLossFault config view.hasDown
          admitPlannedTarget view preflightTarget) := inferInstance
    exact hrest.keeps after ledger h

/-- The dispatch section keeps the agreement. -/
theorem dispatchArgument_accounts :
    DispatchArgument config (accountMonitor iteration) (fun _ => Due iteration) AgreesWithAccount where
  steady _ _ _ := steady_due
  rested := steady_agrees
  rests h := h.accounts
  preflights h := steady_due.wp h (fun _ _ _ h => h) fun _ _ _ h _ => h.accounts
  samples {_ _ _ _ ledger _} h hadmits := by
    have hle : ledger.latest ≤ _ := hadmits.2 _ rfl
    exact .of_latest (h.accounts.sampled hle)
  wakes {_ _ _ _ ledger _ _} h hadmits := by
    have hle : ledger.latest ≤ _ := hadmits.2 _ rfl
    exact .of_latest (h.accounts.sampled hle)
  prepares {_ _ sample immediate _ _ _} h := by
    have hkeeps := @keeps_dispatchPreparedNormalFrame _ _ _ _ (@leaves_due iteration sample immediate)
    exact wp_mono ((hkeeps _ _ _ _).keeps _ _ h) (fun _ _ _ h _ => h.accounts)
      fun _ _ _ h hgoesOn => (h hgoesOn).accounts
  authors {_ sample immediate _ _ _ _} h := by
    have hkeeps := @keeps_dispatchAuthoredPacket _ _ _ _ (@leaves_due iteration sample immediate) config
    refine wp_mono ((hkeeps keeps_admitAuthoredDown_due _ _).keeps _ _ h) ?_ ?_
    · exact fun _ _ _ h => ⟨fun _ => h, fun _ => h.accounts⟩
    · intro step after ledger h
      refine ⟨fun hnoWork => h ?_, fun hgoesOn => (h hgoesOn).accounts⟩
      rw [hnoWork]
      trivial

/-- An iteration that hands over keeps the agreement. -/
theorem wp_iteration_accounts (hhands : HandsOver state iteration) (h : AgreesWithAccount state ledger) :
    wp (accountMonitor iteration) (Player.iteration config) (fun _ => AgreesWithAccount) (IfNext AgreesWithAccount) state
      ledger := by
  have hbefore : Steady (accountMonitor iteration) WorkerQuestion.Quiet WorkerState.pauseCore
      (fun after ledger => after.playback = state.playback ∧ Accounts after.playback ledger) :=
    @steady_playback iteration _ _ _ (fun playback ledger => playback = state.playback ∧
      Accounts playback ledger) (fun _ => WorkerQuestion.Quiet.unmoving)
      (fun _ _ h => congrArg PauseCore.playback h) fun _ _ _ hle h => ⟨h.1, h.2.sampled hle⟩
  have hfinished : Quietly (ask (I := workerInterface) .coordinatorFinished :
      WorkerM LoopEnd Bool) := within_ask trivial
  have hcontrol : wp (accountMonitor iteration) (iterationControl config)
      (fun result after ledger =>
        Opens (LosesPlannedFocus iteration) result.1 after.playback ledger)
      (IfNext AgreesWithAccount) state ledger := by
    unfold iterationControl
    refine hbefore.wp_bind ⟨rfl, h⟩ (fun _ _ _ h _ => h.2) fun finished after ledger h => ?_
    refine hbefore.wp_bind h (fun _ _ _ h _ => h.2) fun _ after ledger h => ?_
    refine hbefore.wp_bind h (fun _ _ _ h _ => h.2) fun _ after ledger h => ?_
    refine wp_bind.mpr (wp_qpcTicksOrTerminal trivial (fun nowTicks hadmits => ?_) fun _ _ => nofun)
    have hle : ledger.latest ≤ nowTicks := hadmits.2 _ rfl
    have hunmoved : Unmoved True state.playback nowTicks after
        ((accountMonitor iteration).record ledger ⟨.now .iterationTop, .ok nowTicks⟩) :=
      ⟨h.1, .of_latest (h.2.sampled hle)⟩
    refine wp_bind.mpr (wp_mono (wp_controlSection_accounts hhands hadmits.1 hunmoved) ?_
      fun _ _ _ h => h)
    exact fun _ _ _ h => h
  refine wp_bind.mpr (wp_mono hcontrol ?_ fun _ _ _ h => h)
  rintro ⟨nowTicks, paused⟩ after ledger h
  refine wp_ite.mpr ⟨fun _ => ?_, fun _ => ?_⟩
  · exact steady_agrees.wp h.accounts (fun _ _ _ h => h) fun _ _ _ h _ => h
  · have hdue : Due iteration nowTicks true after ledger := h.weaken fun hlost => hlost rfl
    exact dispatchArgument_accounts.wp_dispatchSection hdue

end Dispatch

end Monitored

/-- A sample is not earlier than the ones before. -/
def SampledInOrder (ledger : PauseLedger) (event : WorkerExchange) : Prop :=
  ∀ ticks, sampleOf event = some ticks → ledger.latest ≤ ticks

/-- Every exchange moves the latest sample to its own, if it has one. -/
theorem PauseLedger.latest_record (ledger : PauseLedger) (event : WorkerExchange) :
    (ledger.record event).latest = (sampleOf event).getD ledger.latest := by
  obtain ⟨question, answer⟩ := event
  cases question <;> rfl

/-- Samples that never decrease are taken in order. -/
theorem guarded_of_ordered {events : List WorkerExchange} {ledger : PauseLedger}
    (hordered : (events.filterMap sampleOf).Pairwise (· ≤ ·))
    (hlatest : ∀ ticks ∈ events.filterMap sampleOf, ledger.latest ≤ ticks) :
    Guarded SampledInOrder PauseLedger.record ledger events := by
  induction events generalizing ledger with
  | nil => trivial
  | cons event rest ih =>
    cases hsample : sampleOf event with
    | none =>
      rw [List.filterMap_cons_none hsample] at hordered hlatest
      refine ⟨fun ticks hticks => by simp [hsample] at hticks, ih hordered ?_⟩
      rwa [PauseLedger.latest_record, hsample]
    | some ticks =>
      rw [List.filterMap_cons_some hsample] at hordered hlatest
      obtain ⟨hrest, hordered⟩ := List.pairwise_cons.mp hordered
      refine ⟨fun other hother => ?_, ih hordered ?_⟩
      · obtain rfl : ticks = other := Option.some.inj (hsample.symm.trans hother)
        exact hlatest ticks List.mem_cons_self
      · rwa [PauseLedger.latest_record, hsample]

/-- Openings and closings that owe nothing never go back. -/
theorem ticks_ordered_of_owes {events : List WorkerExchange} {ledger : PauseLedger}
    (h : Guarded (fun ledger event => ledger.Owes event.question) PauseLedger.record ledger events) :
    (∀ ticks ∈ events.filterMap pauseTick, ledger.lastTick ≤ ticks) ∧
      (events.filterMap pauseTick).Pairwise (· ≤ ·) := by
  induction events generalizing ledger with
  | nil => exact ⟨nofun, List.Pairwise.nil⟩
  | cons event rest ih =>
    obtain ⟨howes, hrest⟩ := h
    obtain ⟨hle, hpairwise⟩ := ih hrest
    cases hticks : pauseTick event with
    | none =>
      rw [List.filterMap_cons_none hticks]
      rw [PauseLedger.record_of_unmoving hticks] at hle
      exact ⟨hle, hpairwise⟩
    | some ticks =>
      have hmove : ledger.lastTick ≤ ticks ∧ (ledger.record event).lastTick = ticks := by
        obtain ⟨question, answer⟩ := event
        cases question <;> simp only [pauseTick, reduceCtorEq, Option.some.injEq] at hticks
        · subst hticks
          exact ⟨howes.2.1, rfl⟩
        · subst hticks
          obtain ⟨started, -, hlast, -⟩ := howes
          exact ⟨hlast, rfl⟩
      rw [List.filterMap_cons_some hticks]
      rw [hmove.2] at hle
      refine ⟨fun other hother => ?_, List.pairwise_cons.mpr ⟨hle, hpairwise⟩⟩
      obtain rfl | hother := List.mem_cons.mp hother
      · exact hmove.1
      · exact hmove.1.trans (hle other hother)

/-- Running playback agrees with a new account. -/
theorem agrees_start {start : WorkerState} (hrunning : start.playback.pauseReasons = ∅)
    (hinterval : start.playback.pauseIntervalStarted = none) :
    AgreesWithAccount start (PauseLedger.start start.playback.pauseTime) where
  openedAt := hinterval.symm
  running := iff_of_true hrunning hinterval
  lastOpened := nofun
  pauseTime := rfl
  position _ := nofun
  latest := le_rfl

section Runs

variable {config : WorkerConfig}

/-- An iteration whose samples are in order is admitted. -/
theorem admits_iteration {iteration : List WorkerExchange} {ledger : PauseLedger}
    (hordered : Guarded SampledInOrder PauseLedger.record ledger iteration) :
    Guarded (accountMonitor iteration).admits PauseLedger.record ledger iteration :=
  guarded_and.mpr ⟨guarded_of_forall (fun _ hevent _ => hevent) _, hordered⟩

/-- An iteration that hands over and goes on keeps the agreement. -/
theorem agrees_after_iteration (state : WorkerState) (ledger : PauseLedger)
    (iteration : List WorkerExchange) (result : EStateM.Result LoopEnd WorkerState Unit)
    (after : WorkerState) (h : AgreesWithAccount state ledger) (hhands : HandsOver state iteration)
    (path : (Player.iteration config state).Path iteration result)
    (hordered : Guarded SampledInOrder PauseLedger.record ledger iteration)
    (goesOn : LoopExit.continues result = some after) :
    AgreesWithAccount after (iteration.foldl PauseLedger.record ledger) :=
  LoopExit.holds_of_wp (wp_iteration_accounts hhands h) path (admits_iteration hordered) goesOn

/-- An iteration that hands over owes nothing. -/
theorem owes_in_iteration (state : WorkerState) (ledger : PauseLedger)
    (iteration : List WorkerExchange) (h : AgreesWithAccount state ledger) (hhands : HandsOver state iteration)
    (begins : (Player.iteration config state).Begins iteration)
    (hordered : Guarded SampledInOrder PauseLedger.record ledger iteration) :
    Guarded (fun ledger event => ledger.Owes event.question) PauseLedger.record ledger iteration :=
  Dialogue.Safe.begins (wp_iteration_accounts hhands h) begins (admits_iteration hordered)

/-- When every iteration hands over and the samples never decrease, the ticks of openings and
closings never decrease, every opening and closing meets its account, and the pause time is the
account's. -/
theorem pauses_accounted {start state : WorkerState} {events current : List WorkerExchange}
    (hrunning : start.playback.pauseReasons = ∅)
    (hinterval : start.playback.pauseIntervalStarted = none)
    (run : Iterations (iteration config) HandsOver start events state)
    (begins : (iteration config state).Begins current) (hhands : HandsOver state current)
    (hordered : ((events ++ current).filterMap sampleOf).Pairwise (· ≤ ·)) :
    ((events ++ current).filterMap pauseTick).Pairwise (· ≤ ·) ∧
      (∀ before event after, events ++ current = before ++ event :: after →
        (pauseLedger start.playback before).Owes event.question) ∧
      state.playback.pauseTime = (pauseLedger start.playback events).pauseTime := by
  have hstart := agrees_start hrunning hinterval
  obtain ⟨hevents, hcurrent⟩ := guarded_append.mp
    (@guarded_of_ordered _ (PauseLedger.start start.playback.pauseTime) hordered
      fun _ _ => Nat.zero_le _)
  have hagrees := run.invariant agrees_after_iteration hevents hstart
  have howes := run.obligations agrees_after_iteration owes_in_iteration hevents hstart
  have hall := guarded_append.mpr
    ⟨howes, owes_in_iteration state _ current hagrees hhands begins hcurrent⟩
  exact ⟨(ticks_ordered_of_owes hall).2, fun before event after hsplit =>
    guarded_iff.mp hall before event after hsplit, hagrees.pauseTime⟩

end Runs

/-- Focus is lost and comes back. -/
def focusLossScript : List ScriptedIteration :=
  [{ ScriptedIteration.calm with focusActive := false }, .calm]

/-- Focus comes back in the iteration that requests a manual pause. -/
def lateResumeScript : List ScriptedIteration :=
  [{ ScriptedIteration.calm with focusActive := false },
    { ScriptedIteration.calm with desiredPause := true }]

/-- An answer that neither requests a manual pause nor loses focus before a planned Down. -/
def handsOverSurely : WorkerExchange → Bool
  | ⟨.load .desiredPause .iterationTop, requested⟩ => !requested
  | ⟨.load .focusActive (.plannedFocus true), focused⟩ => focused
  | _ => true

/-- An iteration of such answers hands over. -/
theorem handsOver_of_surely {state : WorkerState} {iteration : List WorkerExchange}
    (h : iteration.all handsOverSurely = true) : HandsOver state iteration := by
  have hall := List.all_eq_true.mp h
  exact
    { toManual := fun _ hrequested => absurd (hall _ hrequested) Bool.false_ne_true
      toFocus := fun hlost => absurd (hall _ hlost) Bool.false_ne_true }

/-- A focus pause is accounted for. -/
theorem focus_pause_accounted :
    ∃ events state, Iterations (iteration focusConfig) HandsOver startedWorker events state ∧
      events.filterMap pauseTick = [2, 5] ∧ (events.filterMap pauseTick).Pairwise (· ≤ ·) ∧
        state.playback.pauseTime = 3 := by
  have hrun : (converseIterations (iteration focusConfig) (scripted focusLossScript)
      (fun _ iteration => iteration.all handsOverSurely) 2 [] startedWorker 0).any
        (fun run => decide ((run.1.filterMap sampleOf).Pairwise (· ≤ ·)) &&
          decide (run.1.filterMap pauseTick = [2, 5]) &&
          decide ((pauseLedger startedWorker.playback run.1).pauseTime = 3)) = true := by
    decide +kernel
  obtain ⟨run, hconverse, hrun⟩ := (Option.any_eq_true _ _).mp hrun
  simp only [Bool.and_eq_true, decide_eq_true_eq] at hrun
  obtain ⟨⟨hordered, hticks⟩, htime⟩ := hrun
  have hiterations := Iterations.of_converse (fun state _ => @handsOver_of_surely state _)
    (.start startedWorker) hconverse
  have hnothing : HandsOver run.2.1 [] := handsOver_of_surely rfl
  obtain ⟨hpairwise, -, hpauseTime⟩ := pauses_accounted rfl rfl hiterations (.start _) hnothing
    (by simpa using hordered)
  exact ⟨run.1, run.2.1, hiterations, hticks, by simpa using hpairwise, hpauseTime.trans htime⟩

/-- A manual pause opens before the focus pause that handed over to it was closed. -/
theorem ticks_go_back :
    ∃ events state,
      Iterations (iteration focusConfig) (fun _ _ => True) startedWorker events state ∧
        (events.filterMap sampleOf).Pairwise (· ≤ ·) ∧
          ¬(events.filterMap pauseTick).Pairwise (· ≤ ·) := by
  have hrun : (converseIterations (iteration focusConfig) (scripted lateResumeScript)
      (fun _ _ => true) 2 [] startedWorker 0).any
        (fun run => decide ((run.1.filterMap sampleOf).Pairwise (· ≤ ·)) &&
          !decide ((run.1.filterMap pauseTick).Pairwise (· ≤ ·))) = true := by
    decide +kernel
  obtain ⟨run, hconverse, hrun⟩ := (Option.any_eq_true _ _).mp hrun
  simp only [Bool.and_eq_true, Bool.not_eq_true', decide_eq_true_eq, decide_eq_false_iff_not] at hrun
  have hiterations :
      Iterations (iteration focusConfig) (fun _ _ => True) startedWorker run.1 run.2.1 :=
    Iterations.of_converse (fun _ _ _ => trivial) (.start startedWorker) hconverse
  exact ⟨run.1, run.2.1, hiterations, hrun.1, hrun.2⟩

end SkyAutoPlayer.Player
