import SkyAutoPlayer.Player.DispatchFlow
import SkyAutoPlayer.Player.GuardSpacing

/-!
# Resuming after a pause

A pause leaves no key held and a fresh Down barrier, because a suspension stands between the last
send before the pause and the first one after it. The suspension is made when a manual pause
starts or when focus is restored; a manual pause that starts under a focus pause defers it. A
restoration that fails its first check invalidates the guard, and when a manual pause holds
playback as well and owes no suspension, nothing makes the guard valid again.
-/

namespace SkyAutoPlayer.Player

open Foundation DispatchCore DispatchWin32
open Procedure

/-- What the exchanges since the last physical send tell about pauses. -/
structure SendRecord where
  paused : Bool
  pausedSinceSend : Bool
  suspendedSinceSend : Bool
  deriving DecidableEq, Repr

namespace SendRecord

/-- No send, no pause and no suspension. -/
def start : SendRecord := ⟨false, false, false⟩

/-- One exchange's effect on the record. -/
def record (ghost : SendRecord) (event : WorkerExchange) : SendRecord :=
  match event.question with
  | .pauseOpened _ _ => { ghost with paused := true, pausedSinceSend := true }
  | .pauseClosed _ _ => { ghost with paused := false }
  | .suspended => { ghost with suspendedSinceSend := true }
  | .send _ | .sendRecoveryUps _ =>
    { ghost with pausedSinceSend := ghost.paused, suspendedSinceSend := false }
  | _ => ghost

/-- Quiet exchanges leave no record. -/
theorem record_quiet {ghost : SendRecord} {event : WorkerExchange} (h : event.question.Quiet) :
    ghost.record event = ghost := by
  unfold record
  split <;> simp_all [WorkerQuestion.Quiet]

end SendRecord

/-- The record after some exchanges of a run. -/
def sinceSend (events : List WorkerExchange) : SendRecord :=
  events.foldl SendRecord.record SendRecord.start

/-- An answer that fails the restoration's first check of foreground and target. -/
def FailsRestoreCheck (event : WorkerExchange) : Prop :=
  match event with
  | ⟨.loadStable .focusRestore, answer⟩ => ∃ generation, answer = some ⟨0, generation⟩
  | ⟨.load .focusActive .focusRestore, answer⟩ => answer = false
  | ⟨.foregroundWindowMatches .focusRestore _, answer⟩ => answer = false
  | ⟨.isCurrent .focusRestore _, answer⟩ => answer = false
  | _ => False

namespace PauseCore

/-- A reason that holds playback. -/
def Holds (core : PauseCore) (reason : PauseReason) : Prop :=
  reason ∈ core.playback.pauseReasons

/-- A manual pause under a focus pause that owes no suspension. -/
def HeldByBoth (core : PauseCore) : Prop :=
  core.Holds .focus ∧ core.Holds .manual ∧ core.manualPauseSuspensionPending = false

/-- A guard that answers queries. -/
def GuardValid (core : PauseCore) : Prop :=
  ∃ guard, core.physicalTimingGuard = some guard ∧ guard.valid = true

/-- A guard with a Down barrier from a cleanup. -/
def GuardBarred (core : PauseCore) : Prop :=
  ∃ guard, core.physicalTimingGuard = some guard ∧ guard.resumeDownNotBeforeQpc.isSome = true

/-- What a suspension leaves: the clock of before, and a guard that is ready for Downs. -/
structure Rearmed (playback : PlaybackClockState) (core : PauseCore) : Prop where
  playback : core.playback = playback
  valid : core.GuardValid
  barred : core.GuardBarred

variable {core : PauseCore}

/-- The clock's own test of a reason. -/
theorem hasPauseReason_iff {reason : PauseReason} :
    core.playback.hasPauseReason reason = true ↔ core.Holds reason :=
  decide_eq_true_iff

/-- The reasons after one is added. -/
theorem holds_entered {reason other : PauseReason} {ticks : ℕ} :
    Holds { core with playback := core.playback.entered reason ticks } other ↔
      other = reason ∨ core.Holds other := by
  simp [Holds, PlaybackClockState.pauseReasons_entered]

/-- The reasons after one is removed. -/
theorem holds_erased {reason other : PauseReason} :
    Holds { core with playback :=
      { core.playback with pauseReasons := core.playback.pauseReasons.erase reason } } other ↔
      other ≠ reason ∧ core.Holds other := by
  simp [Holds]

/-- No reason is left when the interval is closed. -/
theorem not_holds_closed {reason : PauseReason} {started ticks : ℕ} :
    ¬Holds { core with playback := core.playback.closed started ticks } reason := by
  simp [Holds, PlaybackClockState.closed]

/-- No reason holds playback exactly when neither focus nor a manual pause does. -/
theorem unpaused_iff (h : ¬core.Holds .systemSuspend) :
    core.playback.pauseReasons = ∅ ↔ ¬core.Holds .focus ∧ ¬core.Holds .manual := by
  constructor
  · intro hempty
    simp [Holds, hempty]
  · rintro ⟨hfocus, hmanual⟩
    refine Finset.eq_empty_of_forall_notMem fun reason => ?_
    cases reason with
    | manual => exact hmanual
    | focus => exact hfocus
    | systemSuspend => exact h

end PauseCore

/-- An iteration in which no restoration fails its first check while both reasons hold playback
and no suspension is owed. -/
def RestoresCleanly (state : WorkerState) (events : List WorkerExchange) : Prop :=
  state.pauseCore.HeldByBoth → ∀ event ∈ events, ¬FailsRestoreCheck event

/-- The state in which the loop starts. -/
structure WorkerState.Fresh (state : WorkerState) : Prop where
  unpaused : state.playback.pauseReasons = ∅
  guardValid : state.pauseCore.GuardValid
  nothingPending : state.manualPauseSuspensionPending = false

/-- What pauses leave behind. `owed` tells that the manual pause of the same iteration still has to
suspend. -/
structure Suspends (owed : Prop) (core : PauseCore) (ghost : SendRecord) : Prop where
  reasons : ¬core.Holds .systemSuspend
  paused : ghost.paused = true ↔ core.Holds .focus ∨ core.Holds .manual
  deferred : core.manualPauseSuspensionPending = true → core.Holds .focus ∧ core.Holds .manual
  manual : core.Holds .manual →
    core.manualPauseSuspensionPending = true ∨ ghost.suspendedSinceSend = true
  resumed : ¬core.Holds .focus → ¬core.Holds .manual → ghost.pausedSinceSend = true →
    ghost.suspendedSinceSend = true ∨ owed
  barred : ghost.suspendedSinceSend = true → core.GuardBarred
  valid : core.GuardValid ∨
    (core.Holds .focus ∧ (core.Holds .manual → core.manualPauseSuspensionPending = true)) ∨
    (¬core.Holds .focus ∧ ¬core.Holds .manual ∧ owed)

namespace Suspends

variable {owed : Prop} {core : PauseCore} {ghost : SendRecord}

/-- What is owed may be owed for nothing. -/
theorem of_none (h : Suspends False core ghost) : Suspends owed core ghost where
  reasons := h.reasons
  paused := h.paused
  deferred := h.deferred
  manual := h.manual
  resumed hfocus hmanual hpaused := (h.resumed hfocus hmanual hpaused).imp_right False.elim
  barred := h.barred
  valid := h.valid.imp_right (Or.imp_right fun h => ⟨h.1, h.2.1, h.2.2.elim⟩)

/-- What only a manual pause owes is settled by one. -/
theorem settled (h : Suspends owed core ghost) (hmanual : owed → core.Holds .manual) :
    Suspends False core ghost where
  reasons := h.reasons
  paused := h.paused
  deferred := h.deferred
  manual := h.manual
  resumed hfocus hnot hpaused :=
    (h.resumed hfocus hnot hpaused).imp_right fun howed => hnot (hmanual howed)
  barred := h.barred
  valid := h.valid.imp_right (Or.imp_right fun h => absurd (hmanual h.2.2) h.2.1)

/-- A suspension keeps the reasons and re-arms the guard. -/
theorem suspended {after : PauseCore} (h : Suspends False core ghost)
    (hrearmed : after.Rearmed core.playback) (hsettled : after.manualPauseSuspensionPending = false) :
    Suspends False after { ghost with suspendedSinceSend := true } := by
  have hholds : ∀ reason, after.Holds reason ↔ core.Holds reason := by
    simp [PauseCore.Holds, hrearmed.playback]
  exact
    { reasons := fun hheld => h.reasons ((hholds _).mp hheld)
      paused := by simp [hholds, h.paused]
      deferred := fun hpending => absurd hpending (by simp [hsettled])
      manual := fun _ => Or.inr rfl
      resumed := fun _ _ _ => Or.inl rfl
      barred := fun _ => hrearmed.barred
      valid := Or.inl hrearmed.valid }

/-- A focus loss pauses running playback. -/
theorem focusOpened (h : Suspends False core ghost) (hunpaused : core.playback.pauseReasons = ∅)
    (ticks : ℕ) :
    Suspends False { core with playback := core.playback.entered .focus ticks }
      { ghost with paused := true, pausedSinceSend := true } := by
  obtain ⟨hfocus, hmanual⟩ := (core.unpaused_iff h.reasons).mp hunpaused
  exact
    { reasons := by simp [PauseCore.holds_entered, h.reasons]
      paused := by simp [PauseCore.holds_entered]
      deferred := fun hpending => absurd (h.deferred hpending).1 hfocus
      manual := by simp [PauseCore.holds_entered, hmanual]
      resumed := by simp [PauseCore.holds_entered]
      barred := h.barred
      valid := by simp [PauseCore.holds_entered, hmanual] }

/-- A focus loss under another pause is only added. -/
theorem focusAdded (h : Suspends False core ghost) (hpaused : core.playback.pauseReasons ≠ ∅)
    (ticks : ℕ) :
    Suspends False { core with playback := core.playback.entered .focus ticks } ghost := by
  have hheld : core.Holds .focus ∨ core.Holds .manual := by
    by_contra hneither
    exact hpaused ((core.unpaused_iff h.reasons).mpr (not_or.mp hneither))
  have hvalid : core.GuardValid ∨
      (core.Holds .manual → core.manualPauseSuspensionPending = true) := by
    obtain hvalid | ⟨-, hpending⟩ | ⟨-, -, hnothing⟩ := h.valid
    · exact Or.inl hvalid
    · exact Or.inr hpending
    · exact hnothing.elim
  exact
    { reasons := by simp [PauseCore.holds_entered, h.reasons]
      paused := by simp [PauseCore.holds_entered, h.paused.mpr hheld]
      deferred := by simpa [PauseCore.holds_entered] using fun hpending => (h.deferred hpending).2
      manual := by simpa [PauseCore.holds_entered] using h.manual
      resumed := by simp [PauseCore.holds_entered]
      barred := h.barred
      valid := hvalid.imp_right fun hpending => by simpa [PauseCore.holds_entered] using hpending }

end Suspends

/-- What a restoration leaves before the focus reason is removed. -/
structure Restored (owed : Prop) (core : PauseCore) (ghost : SendRecord) : Prop where
  suspends : Suspends False core ghost
  focus : core.Holds .focus
  settled : core.manualPauseSuspensionPending = false
  ready : ¬core.Holds .manual → (ghost.suspendedSinceSend = true ∧ core.GuardValid) ∨ owed

namespace Restored

variable {owed : Prop} {core : PauseCore} {ghost : SendRecord}

/-- A suspension restores whatever is owed. -/
theorem of_suspended {after : PauseCore} (h : Suspends False core ghost)
    (hfocus : core.Holds .focus) (hrearmed : after.Rearmed core.playback)
    (hsettled : after.manualPauseSuspensionPending = false) :
    Restored owed after { ghost with suspendedSinceSend := true } where
  suspends := h.suspended hrearmed hsettled
  focus := by
    rw [PauseCore.Holds, hrearmed.playback]
    exact hfocus
  settled := hsettled
  ready _ := Or.inl ⟨rfl, hrearmed.valid⟩

/-- A manual pause that owes nothing left the guard valid. -/
theorem guardValid (h : Restored owed core ghost) (hmanual : core.Holds .manual) :
    core.GuardValid := by
  obtain hvalid | ⟨-, hpending⟩ | ⟨-, -, hnothing⟩ := h.suspends.valid
  · exact hvalid
  · exact absurd (hpending hmanual) (by simp [h.settled])
  · exact hnothing.elim

/-- Focus was the last reason. -/
theorem closed (h : Restored owed core ghost) (hlast : core.playback.pauseReasons = {.focus})
    (started ticks : ℕ) :
    Suspends owed { core with playback := core.playback.closed started ticks }
      { ghost with paused := false } := by
  have hmanual : ¬core.Holds .manual := by simp [PauseCore.Holds, hlast]
  exact
    { reasons := PauseCore.not_holds_closed
      paused := by simp [PauseCore.not_holds_closed]
      deferred := fun hpending => absurd hpending (by simp [h.settled])
      manual := fun hheld => absurd hheld PauseCore.not_holds_closed
      resumed := fun _ _ _ => (h.ready hmanual).imp_left And.left
      barred := h.suspends.barred
      valid := (h.ready hmanual).imp And.right fun howed =>
        Or.inr ⟨PauseCore.not_holds_closed, PauseCore.not_holds_closed, howed⟩ }

/-- A manual pause goes on holding playback. -/
theorem removed (h : Restored owed core ghost) (hanother : core.playback.pauseReasons ≠ {.focus}) :
    Suspends owed
      { core with playback :=
        { core.playback with pauseReasons := core.playback.pauseReasons.erase .focus } } ghost := by
  have hmanual : core.Holds .manual := by
    by_contra hmanual
    refine hanother (Finset.eq_singleton_iff_unique_mem.mpr ⟨h.focus, fun reason hreason => ?_⟩)
    cases reason with
    | manual => exact absurd hreason hmanual
    | focus => rfl
    | systemSuspend => exact absurd hreason h.suspends.reasons
  exact
    { reasons := fun hheld => h.suspends.reasons (PauseCore.holds_erased.mp hheld).2
      paused := by simp [PauseCore.holds_erased, hmanual, h.suspends.paused.mpr (Or.inl h.focus)]
      deferred := fun hpending => absurd hpending (by simp [h.settled])
      manual := fun _ => h.suspends.manual hmanual
      resumed := fun _ hnot => (hnot (PauseCore.holds_erased.mpr ⟨nofun, hmanual⟩)).elim
      barred := h.suspends.barred
      valid := Or.inl (h.guardValid hmanual) }

end Restored

/-- What comes before the manual reason is added: running playback is suspended, and under a focus
pause the suspension is deferred. -/
structure Prepared (core : PauseCore) (ghost : SendRecord) : Prop where
  reasons : ¬core.Holds .systemSuspend
  manual : ¬core.Holds .manual
  paused : ghost.paused = true ↔ core.Holds .focus
  deferred : core.Holds .focus ↔ core.manualPauseSuspensionPending = true
  suspended : ¬core.Holds .focus → ghost.suspendedSinceSend = true ∧ core.GuardValid
  barred : ghost.suspendedSinceSend = true → core.GuardBarred

namespace Prepared

variable {core : PauseCore} {ghost : SendRecord}

/-- The manual pause opens an interval. -/
theorem opened (h : Prepared core ghost) (hunpaused : core.playback.pauseReasons = ∅)
    (ticks : ℕ) :
    Suspends False { core with playback := core.playback.entered .manual ticks }
      { ghost with paused := true, pausedSinceSend := true } := by
  obtain ⟨hfocus, -⟩ := (core.unpaused_iff h.reasons).mp hunpaused
  exact
    { reasons := by simp [PauseCore.holds_entered, h.reasons]
      paused := by simp [PauseCore.holds_entered]
      deferred := fun hpending => absurd (h.deferred.mpr hpending) hfocus
      manual := fun _ => Or.inr (h.suspended hfocus).1
      resumed := by simp [PauseCore.holds_entered]
      barred := h.barred
      valid := Or.inl (h.suspended hfocus).2 }

/-- The manual pause joins a focus pause. -/
theorem added (h : Prepared core ghost) (hpaused : core.playback.pauseReasons ≠ ∅) (ticks : ℕ) :
    Suspends False { core with playback := core.playback.entered .manual ticks } ghost := by
  have hfocus : core.Holds .focus := by
    by_contra hfocus
    exact hpaused ((core.unpaused_iff h.reasons).mpr ⟨hfocus, h.manual⟩)
  have hpending := h.deferred.mp hfocus
  exact
    { reasons := by simp [PauseCore.holds_entered, h.reasons]
      paused := by simp [PauseCore.holds_entered, h.paused.mpr hfocus]
      deferred := fun _ => by simp [PauseCore.holds_entered, hfocus]
      manual := fun _ => Or.inl hpending
      resumed := by simp [PauseCore.holds_entered]
      barred := h.barred
      valid := Or.inr (Or.inl ⟨by simp [PauseCore.holds_entered, hfocus], fun _ => hpending⟩) }

end Prepared

namespace Suspends

variable {core : PauseCore} {ghost : SendRecord}

/-- A manual pause is the only reason once focus is back, and owes nothing. -/
theorem manual_alone (h : Suspends False core ghost) (hmanual : core.Holds .manual)
    (hfocus : ¬core.Holds .focus) :
    core.playback.pauseReasons = {.manual} ∧ core.manualPauseSuspensionPending = false := by
  refine ⟨Finset.eq_singleton_iff_unique_mem.mpr ⟨hmanual, fun reason hreason => ?_⟩, ?_⟩
  · cases reason with
    | manual => rfl
    | focus => exact absurd hreason hfocus
    | systemSuspend => exact absurd hreason h.reasons
  · by_contra hpending
    exact hfocus (h.deferred (by simpa using hpending)).1

/-- Leaving the manual pause resumes playback behind a suspension. -/
theorem manualClosed (h : Suspends False core ghost) (hmanual : core.Holds .manual)
    (hfocus : ¬core.Holds .focus) (started ticks : ℕ) :
    Suspends False { core with playback := core.playback.closed started ticks }
      { ghost with paused := false } := by
  have hsettled := (h.manual_alone hmanual hfocus).2
  have hsuspended : ghost.suspendedSinceSend = true :=
    (h.manual hmanual).resolve_left (by simp [hsettled])
  have hvalid : core.GuardValid :=
    h.valid.resolve_right fun hnot => hnot.elim (fun hheld => hfocus hheld.1) fun hnot => hnot.2.2
  exact
    { reasons := PauseCore.not_holds_closed
      paused := by simp [PauseCore.not_holds_closed]
      deferred := fun hpending => absurd hpending (by simp [hsettled])
      manual := fun hheld => absurd hheld PauseCore.not_holds_closed
      resumed := fun _ _ _ => Or.inl hsuspended
      barred := h.barred
      valid := Or.inl hvalid }

end Suspends

section Monitored

/-- Follow an iteration that restores cleanly from its start. -/
def resumeMonitor (first : PauseCore) : Monitor workerInterface SendRecord where
  requires _ _ := True
  admits _ event := first.HeldByBoth → ¬FailsRestoreCheck event
  record := SendRecord.record

variable {first : PauseCore} {state : WorkerState} {ghost : SendRecord} {owed : Prop}

/-- Quiet parts keep every property of the pause core and the record. -/
theorem steady_pauseCore (holds : PauseCore → SendRecord → Prop) :
    Steady (resumeMonitor first) WorkerQuestion.Quiet WorkerState.pauseCore
      (fun state ghost => holds state.pauseCore ghost) where
  asks _ _ _ := trivial
  hears state ghost event hquiet _ h := by
    have hrecord : (resumeMonitor first).record ghost event = ghost := SendRecord.record_quiet hquiet
    rw [hrecord]
    exact h
  keeps state after ghost hkept h := by
    rw [hkept]
    exact h

/-- A fresh barrier makes the guard valid. -/
theorem establishResumeDownBarrier_ok {guard after : PhysicalTimingGuard} {completedQpc : ℕ}
    (hrun : (PhysicalTimingGuard.establishResumeDownBarrier completedQpc).run guard =
      .ok () after) : after.valid = true ∧ after.resumeDownNotBeforeQpc.isSome = true := by
  simp only [PhysicalTimingGuard.establishResumeDownBarrier, EStateM.run_bind_eq_ok,
    EStateM.run_modify] at hrun
  obtain ⟨_, _, _, _, _, _, hmodify⟩ := hrun
  cases hmodify
  exact ⟨rfl, rfl⟩

/-- A suspension that succeeds re-arms the guard. -/
theorem wp_suspendLiveInputForDispatch (effectiveNow : Except String ℕ) (hwnd : ℤ) :
    wp (resumeMonitor first) (suspendLiveInputForDispatch effectiveNow hwnd)
      (fun _ after ghost' => after.pauseCore.Rearmed state.playback ∧
        ghost' = { ghost with suspendedSinceSend := true })
      (fun _ _ _ => True) state ghost := by
  have hcleanup := @steady_pauseCore first fun core ghost' =>
    core.playback = state.playback ∧ ghost' = ghost
  have hbarrier := @steady_pauseCore first fun core ghost' =>
    core.Rearmed state.playback ∧ ghost' = ghost
  have hrelease : Quietly (ask (I := workerInterface) (.releaseAll hwnd) :
      WorkerM String (Except String Unit)) := within_ask trivial
  have hcancel : Quietly (ask (I := workerInterface) .cancelLiveGenerations :
      WorkerM String (Except String Unit)) := within_ask trivial
  unfold suspendLiveInputForDispatch
  refine wp_bind.mpr (wp_update.mpr ?_)
  refine hcleanup.wp_bind ⟨rfl, rfl⟩ (fun _ _ _ _ => trivial) fun _ middle ghost' h => ?_
  refine hcleanup.wp_bind h (fun _ _ _ _ => trivial) fun _ middle ghost' h => ?_
  refine hcleanup.wp_bind h (fun _ _ _ _ => trivial) fun _ middle ghost' h => ?_
  refine hcleanup.wp_bind h (fun _ _ _ _ => trivial) fun _ middle ghost' h => ?_
  refine wp_bind.mpr (wp_timingGuard (fun guard after _ hrun => ?_) fun _ _ => trivial)
  obtain ⟨hvalid, hbarred⟩ := establishResumeDownBarrier_ok hrun
  have hrearmed : PauseCore.Rearmed state.playback
      ⟨middle.playback, some after, middle.manualPauseSuspensionPending⟩ :=
    ⟨h.1, ⟨after, rfl, hvalid⟩, ⟨after, rfl, hbarred⟩⟩
  refine hbarrier.wp_bind ⟨hrearmed, h.2⟩ (fun _ _ _ _ => trivial) fun _ middle ghost' h => ?_
  refine hbarrier.wp_bind h (fun _ _ _ _ => trivial) fun _ middle ghost' h => ?_
  refine hbarrier.wp_bind h (fun _ _ _ _ => trivial) fun _ middle ghost' h => ?_
  refine wp_bind.mpr (wp_update.mpr ⟨trivial, fun _ _ => ⟨h.1, ?_⟩⟩)
  rw [h.2]
  rfl

/-- A suspension of the loop also settles what a manual pause deferred. -/
theorem wp_suspendOrTerminal (describe : String → String) (nowTicks : ℕ) (hwnd : ℤ)
    {failure : LoopEnd → WorkerState → SendRecord → Prop}
    (hfailure : ∀ error after ghost, failure (terminal error) after ghost) :
    wp (resumeMonitor first) (suspendOrTerminal describe nowTicks hwnd)
      (fun _ after ghost' => after.pauseCore.Rearmed state.playback ∧
        after.manualPauseSuspensionPending = false ∧
        ghost' = { ghost with suspendedSinceSend := true })
      failure state ghost := by
  unfold suspendOrTerminal
  refine wp_bind.mpr (wp_current.mpr (wp_bind.mpr (wp_mapError.mpr ?_)))
  refine wp_mono (wp_suspendLiveInputForDispatch _ _) (fun _ after ghost' h => ?_) ?_
  · exact ⟨⟨h.1.playback, h.1.valid, h.1.barred⟩, rfl, h.2⟩
  · exact fun _ _ _ _ => hfailure _ _ _

/-- Adding the focus reason keeps the promise. -/
theorem wp_enterFocusPause {focusTicks : ℕ} (h : Suspends False state.pauseCore ghost) :
    wp (resumeMonitor first) (enterFocusPause focusTicks)
      (fun _ after ghost' => Suspends False after.pauseCore ghost' ∧
        (after.pauseCore.Holds .manual → state.pauseCore.Holds .manual))
      (fun _ _ _ => True) state ghost := by
  have hentered := @steady_pauseCore first fun core ghost' => Suspends False core ghost' ∧
    (core.Holds .manual → state.pauseCore.Holds .manual)
  have hreason : PauseCore.Holds { state.pauseCore with
      playback := state.playback.entered .focus focusTicks } .manual →
      state.pauseCore.Holds .manual :=
    fun hmanual => (state.pauseCore.holds_entered.mp hmanual).resolve_left nofun
  unfold enterFocusPause
  refine wp_bind.mpr (wp_update.mpr (wp_bind.mpr (wp_current.mpr ?_)))
  refine wp_ite.mpr ⟨fun _ => ⟨h, id⟩, fun _ => wp_bind.mpr (wp_mapError.mpr ?_)⟩
  refine wp_enterPause (fun hfirst => ⟨trivial, fun _ => ?_⟩) fun hanother => ?_
  · refine hentered.wp_bind ⟨h.focusOpened hfirst focusTicks, hreason⟩ (fun _ _ _ _ => trivial) ?_
    exact fun _ _ _ h => h
  · refine hentered.wp_bind ⟨h.focusAdded hanother focusTicks, hreason⟩ (fun _ _ _ _ => trivial) ?_
    exact fun _ _ _ h => h

/-- While both reasons hold playback and nothing is owed, an admitted first check succeeds. -/
theorem wp_restoreCheck {config : WorkerConfig} {preflightTarget : TargetStamp}
    {success : Bool → WorkerState → SendRecord → Prop}
    {failure : LoopEnd → WorkerState → SendRecord → Prop}
    (hhwnd : first.HeldByBoth → preflightTarget.hwnd ≠ 0)
    (hpassed : success true state ghost) (hfailed : ¬first.HeldByBoth → success false state ghost) :
    wp (resumeMonitor first) (restoreCheck config preflightTarget) success failure state ghost := by
  unfold restoreCheck focusMatchesHwnd foregroundMatches load targetStampStillCurrent
  by_cases hheld : first.HeldByBoth
  · simp_all [resumeMonitor, SendRecord.record, FailsRestoreCheck]
  · have hanswer : ∀ passed, success passed state ghost :=
      Bool.forall_bool.mpr ⟨hfailed hheld, hpassed⟩
    simp [resumeMonitor, SendRecord.record, hheld, hanswer]

/-- Between iterations nothing is owed. -/
def Resumes (state : WorkerState) (ghost : SendRecord) : Prop :=
  Suspends False state.pauseCore ghost

/-- Quiet parts keep the promise between iterations. -/
theorem steady_resumes :
    Steady (resumeMonitor first) WorkerQuestion.Quiet WorkerState.pauseCore Resumes :=
  steady_pauseCore (Suspends False)

/-- The suspension a restoration owes is made, or a manual pause makes it. -/
theorem wp_restoreSuspension {nowTicks : ℕ} {manualPause : Bool} {preflightTarget : TargetStamp}
    (h : Suspends False state.pauseCore ghost) (hfocus : state.pauseCore.Holds .focus) :
    wp (resumeMonitor first)
      (restoreSuspension (manualPause || state.playback.hasPauseReason .manual) nowTicks
        preflightTarget)
      (fun _ after ghost => Restored (manualPause = true) after.pauseCore ghost) (IfNext Resumes)
      state ghost := by
  have hsuspends : wp (resumeMonitor first)
      (suspendOrTerminal focusRestorationFailed nowTicks preflightTarget.hwnd)
      (fun _ after ghost => Restored (manualPause = true) after.pauseCore ghost) (IfNext Resumes)
      state ghost := by
    refine wp_mono (wp_suspendOrTerminal _ _ _ fun _ _ _ => nofun) ?_ fun _ _ _ h => h
    rintro _ after ghost' ⟨hrearmed, hsettled, rfl⟩
    exact Restored.of_suspended h hfocus hrearmed hsettled
  refine wp_ite.mpr ⟨fun hactive => ?_, fun _ => ?_⟩
  · refine wp_bind.mpr (wp_current.mpr (wp_onlyIf.mpr ⟨fun _ => hsuspends, fun hsettled => ?_⟩))
    refine ⟨h, hfocus, hsettled, fun hmanual => Or.inr ?_⟩
    have hnot : state.playback.hasPauseReason .manual = false := decide_eq_false hmanual
    simpa [hnot] using hactive
  · refine wp_bind.mpr (wp_mono hsuspends (fun _ after ghost hrestored => ?_) fun _ _ _ h => h)
    exact (steady_pauseCore (Restored (manualPause = true))).wp hrestored (fun _ _ _ h => h)
      fun _ _ _ h _ => h.suspends

/-- The metrics of a lifecycle step only stop the loop. -/
theorem wp_publishLifecycleMetrics {holds : PauseCore → SendRecord → Prop}
    (h : holds state.pauseCore ghost) :
    wp (resumeMonitor first) publishLifecycleMetrics (fun _ after ghost => holds after.pauseCore ghost)
      (IfNext Resumes) state ghost :=
  wp_bind.mpr (wp_qpcTicksOrTerminal trivial (fun _ _ => h) fun _ _ => nofun)

/-- Leaving the focus pause resumes playback, or hands it to a manual pause. -/
theorem wp_resumeFocus (h : Restored owed state.pauseCore ghost) :
    wp (resumeMonitor first) resumeFocus (fun _ after ghost => Suspends owed after.pauseCore ghost)
      (IfNext Resumes) state ghost := by
  have hrest : ∀ {state : WorkerState} {ghost : SendRecord}, Suspends owed state.pauseCore ghost →
      wp (resumeMonitor first) (do
        publishProgress
        onlyIf (← load .desiredPause .focusRestored) (update WorkerState.forgetTarget)
        update fun state => { state with focusRestoreStartedTicks := none }
        publishLifecycleMetrics)
        (fun _ after ghost => Suspends owed after.pauseCore ghost) (IfNext Resumes) state ghost := by
    intro state ghost h
    refine wp_bind.mpr (wp_bind.mpr (wp_current.mpr ⟨trivial, fun _ _ => ?_⟩))
    refine wp_bind.mpr ⟨trivial, fun _ _ => wp_bind.mpr (wp_onlyIf.mpr ?_)⟩
    exact ⟨fun _ => wp_publishLifecycleMetrics h, fun _ => wp_publishLifecycleMetrics h⟩
  unfold resumeFocus
  refine wp_bind.mpr (wp_qpcTicksOrTerminal trivial (fun resumedTicks _ => ?_) fun _ _ => nofun)
  refine wp_bind.mpr (wp_mapError.mpr (wp_exitPause ?_ ?_ fun _ _ => nofun))
  · exact fun started hlast _ _ => ⟨trivial, fun _ => hrest (h.closed hlast started resumedTicks)⟩
  · exact fun hanother => hrest (h.removed hanother)

/-- A restoration that is given up leaves the focus pause as it was. -/
theorem wp_abandonRestore {post : Unit → WorkerState → SendRecord → Prop}
    (h : Resumes state ghost) :
    wp (resumeMonitor first) abandonRestore post (IfNext Resumes) state ghost :=
  wp_bind.mpr (wp_update.mpr (wp_fail.mpr fun _ => h))

/-- The second check resumes playback or gives the restoration up. -/
theorem wp_finishRestore {config : WorkerConfig} {preflightTarget : TargetStamp}
    (h : Restored owed state.pauseCore ghost) :
    wp (resumeMonitor first) (finishRestore config preflightTarget)
      (fun _ after ghost => Suspends owed after.pauseCore ghost) (IfNext Resumes) state ghost := by
  have hrestored := @steady_pauseCore first (Restored owed)
  unfold finishRestore
  refine hrestored.wp_bind h (fun _ _ _ h _ => h.suspends) fun stamp after ghost h => ?_
  cases stamp with
  | none => exact wp_abandonRestore h.suspends
  | some postRestoreTarget =>
    refine hrestored.wp_bind h (fun _ _ _ h _ => h.suspends) fun passed after ghost h => ?_
    exact wp_ite.mpr ⟨fun _ => wp_resumeFocus h, fun _ => wp_abandonRestore h.suspends⟩

/-- A failed first check may invalidate the guard, since a suspension is still owed. -/
theorem Suspends.invalidated {core : PauseCore} (h : Suspends False core ghost)
    (hfocus : core.Holds .focus) (hclean : ¬core.HeldByBoth) :
    Suspends False
      { core with physicalTimingGuard := core.physicalTimingGuard.map PhysicalTimingGuard.invalidate }
      ghost where
  reasons := h.reasons
  paused := h.paused
  deferred := h.deferred
  manual := h.manual
  resumed := h.resumed
  barred hsuspended := by
    obtain ⟨guard, hguard, hbarred⟩ := h.barred hsuspended
    exact ⟨guard.invalidate, congrArg (Option.map _) hguard, hbarred⟩
  valid := by
    refine Or.inr (Or.inl ⟨hfocus, fun hmanual => ?_⟩)
    by_contra hpending
    exact hclean ⟨hfocus, hmanual, by simpa using hpending⟩

/-- A loaded target is restored. -/
theorem wp_restoreTarget {config : WorkerConfig} {nowTicks : ℕ} {manualPause : Bool}
    {preflightTarget : TargetStamp} (hhwnd : first.HeldByBoth → preflightTarget.hwnd ≠ 0)
    (hfirst : state.pauseCore = first) (h : Suspends False first ghost)
    (hfocus : first.Holds .focus) :
    wp (resumeMonitor first) (restoreTarget config nowTicks manualPause preflightTarget)
      (fun _ after ghost => Suspends (manualPause = true) after.pauseCore ghost) (IfNext Resumes)
      state ghost := by
  subst hfirst
  unfold restoreTarget
  refine wp_bind.mpr (wp_current.mpr (wp_bind.mpr (wp_update.mpr ?_)))
  refine wp_bind.mpr (wp_restoreCheck hhwnd ?_ fun hclean => ?_)
  · have hforgot : Suspends False state.forgetTarget.pauseCore ghost := h
    refine wp_bind.mpr (wp_mono (wp_restoreSuspension hforgot hfocus) ?_ fun _ _ _ h => h)
    exact fun _ after ghost hrestored => wp_finishRestore hrestored
  · exact wp_bind.mpr (wp_update.mpr (wp_abandonRestore (h.invalidated hfocus hclean)))

/-- Focus is restored after the grace period. -/
theorem wp_restoreFocus {config : WorkerConfig} {nowTicks : ℕ} {manualPause : Bool}
    (hfirst : state.pauseCore = first) (h : Suspends False first ghost)
    (hfocus : first.Holds .focus) :
    wp (resumeMonitor first) (restoreFocus config nowTicks manualPause)
      (fun _ after ghost => Suspends (manualPause = true) after.pauseCore ghost) (IfNext Resumes)
      state ghost := by
  refine wp_bind.mpr (wp_ask.mpr ⟨trivial, fun stamp hadmits => ?_⟩)
  cases stamp with
  | none =>
    have hresumes : Resumes state ghost := by rwa [Resumes, hfirst]
    exact wp_abandonRestore hresumes
  | some preflightTarget =>
    refine wp_restoreTarget (fun hheld hhwnd => hadmits hheld ⟨preflightTarget.generation, ?_⟩)
      hfirst h hfocus
    rw [← hhwnd]

/-- The grace period ends in a restoration, or leaves playback paused. -/
theorem wp_awaitFocusGrace {config : WorkerConfig} {nowTicks : ℕ} {manualPause : Bool}
    (hfirst : state.pauseCore = first) (h : Suspends False first ghost)
    (hfocus : first.Holds .focus) :
    wp (resumeMonitor first) (awaitFocusGrace config nowTicks manualPause)
      (fun _ after ghost => Suspends (manualPause = true) after.pauseCore ghost) (IfNext Resumes)
      state ghost := by
  have hunmoved := @steady_pauseCore first fun core ghost => core = first ∧ Suspends False first ghost
  unfold awaitFocusGrace
  refine wp_bind.mpr (wp_current.mpr (wp_bind.mpr (wp_update.mpr ?_)))
  refine hunmoved.wp_bind ⟨hfirst, h⟩ (fun _ _ _ h _ => ?_) fun elapsed after ghost h => ?_
  · rw [Resumes, h.1]
    exact h.2
  · refine wp_onlyIf.mpr ⟨fun _ => wp_restoreFocus h.1 h.2 hfocus, fun _ => ?_⟩
    rw [h.1]
    exact h.2.of_none

/-- The focus section pauses, restores, or leaves playback as it was. -/
theorem wp_focusSection {config : WorkerConfig} {nowTicks : ℕ} {focusOk manualPause : Bool}
    (hfirst : state.pauseCore = first) (h : Suspends False first ghost) :
    wp (resumeMonitor first) (focusSection config nowTicks focusOk manualPause)
      (fun _ after ghost => Suspends (manualPause = true) after.pauseCore ghost) (IfNext Resumes)
      state ghost := by
  subst hfirst
  refine wp_ite.mpr ⟨fun _ => ?_, fun _ => ?_⟩
  · refine wp_bind.mpr (wp_current.mpr (wp_onlyIf.mpr ⟨fun hfocus => ?_, fun _ => h.of_none⟩))
    exact wp_awaitFocusGrace rfl h (PauseCore.hasPauseReason_iff.mp hfocus)
  · refine wp_bind.mpr (wp_mapError.mpr (wp_mono (wp_enterFocusPause h) ?_ fun _ _ _ _ => nofun))
    rintro entered after ghost ⟨h, -⟩
    exact wp_onlyIf.mpr ⟨fun _ => wp_publishLifecycleMetrics h.of_none, fun _ => h.of_none⟩

/-- Running playback is suspended for a manual pause; under a focus pause the suspension waits. -/
theorem wp_suspendForManualPause {nowTicks : ℕ} (h : Suspends owed state.pauseCore ghost)
    (hmanual : ¬state.pauseCore.Holds .manual) :
    wp (resumeMonitor first) (suspendForManualPause nowTicks)
      (fun _ after ghost => Prepared after.pauseCore ghost) (IfNext Resumes) state ghost := by
  have hunpaused := state.pauseCore.unpaused_iff h.reasons
  refine wp_bind.mpr (wp_current.mpr (wp_ite.mpr ⟨fun hpaused => ?_, fun hrunning => ?_⟩))
  · have hfocus : state.pauseCore.Holds .focus := by
      by_contra hfocus
      have hempty : state.playback.pauseReasons = ∅ := hunpaused.mpr ⟨hfocus, hmanual⟩
      simp [PlaybackClockState.isPaused, hempty] at hpaused
    refine wp_onlyIf.mpr ⟨fun _ => wp_update.mpr ?_, fun hnot => ?_⟩
    · exact
        { reasons := h.reasons
          manual := hmanual
          paused := h.paused.trans (or_iff_left hmanual)
          deferred := iff_of_true hfocus rfl
          suspended := fun hnot => absurd hfocus hnot
          barred := h.barred }
    · exact absurd (PauseCore.hasPauseReason_iff.mpr hfocus) (ne_true_of_eq_false hnot)
  · have hempty : state.playback.pauseReasons = ∅ := by
      simpa [PlaybackClockState.isPaused] using hrunning
    obtain ⟨hfocus, -⟩ := hunpaused.mp hempty
    refine wp_bind.mpr (wp_bind.mpr ⟨trivial, fun hwnd _ => ?_⟩)
    refine wp_mono (wp_suspendOrTerminal _ _ _ fun _ _ _ => nofun) ?_ fun _ _ _ h => h
    rintro _ after ghost' ⟨hrearmed, hsettled, rfl⟩
    refine wp_publishLifecycleMetrics ?_
    have hholds : ∀ reason, ¬after.pauseCore.Holds reason := by
      simp [PauseCore.Holds, hrearmed.playback, hempty]
    have hpaused : ghost.paused = false := by
      simpa [hfocus, hmanual] using h.paused
    exact
      { reasons := hholds _
        manual := hholds _
        paused := by simp [hholds, resumeMonitor, SendRecord.record, hpaused]
        deferred := iff_of_false (hholds _) (ne_true_of_eq_false hsettled)
        suspended := fun _ => ⟨rfl, hrearmed.valid⟩
        barred := fun _ => hrearmed.barred }

/-- A manual pause starts behind its suspension. -/
theorem wp_enterManualPause {nowTicks : ℕ} (h : Suspends owed state.pauseCore ghost)
    (hmanual : ¬state.pauseCore.Holds .manual) :
    wp (resumeMonitor first) (enterManualPause nowTicks) (fun _ => Resumes) (IfNext Resumes) state
      ghost := by
  have hforgot : Suspends owed state.invalidateDownAuthorization.forgetTarget.pauseCore ghost := h
  unfold enterManualPause
  refine wp_bind.mpr (wp_update.mpr (wp_bind.mpr ?_))
  refine wp_mono (wp_suspendForManualPause hforgot hmanual) ?_ fun _ _ _ h => h
  intro _ after ghost h
  refine wp_bind.mpr (wp_mapError.mpr (wp_enterPause (fun hfirst => ⟨trivial, fun _ => ?_⟩) ?_))
  · exact steady_resumes.wp (h.opened hfirst nowTicks) (fun _ _ _ h => h) fun _ _ _ h _ => h
  · intro hanother
    exact steady_resumes.wp (h.added hanother nowTicks) (fun _ _ _ h => h) fun _ _ _ h _ => h

/-- A manual pause that is the only reason ends behind its suspension. -/
theorem wp_leaveManualPause {config : WorkerConfig} {nowTicks : ℕ}
    (h : Resumes state ghost) (hmanual : state.pauseCore.Holds .manual)
    (hfocus : ¬state.pauseCore.Holds .focus) :
    wp (resumeMonitor first) (leaveManualPause config nowTicks) (fun _ => Resumes)
      (IfNext Resumes) state ghost := by
  have hheld := @steady_pauseCore first fun core ghost =>
    Suspends False core ghost ∧ core.Holds .manual ∧ ¬core.Holds .focus
  obtain ⟨hlast, hsettled⟩ := Suspends.manual_alone h hmanual hfocus
  have hresume : ∀ {state : WorkerState} {ghost : SendRecord},
      Suspends False state.pauseCore ghost ∧ state.pauseCore.Holds .manual ∧
        ¬state.pauseCore.Holds .focus →
      wp (resumeMonitor first) resumeManual (fun _ => Resumes) (IfNext Resumes) state ghost := by
    rintro state ghost ⟨h, hmanual, hfocus⟩
    refine wp_bind.mpr (wp_qpcTicksOrTerminal trivial (fun resumedTicks _ => ?_) fun _ _ => nofun)
    refine wp_bind.mpr (wp_mapError.mpr (wp_exitPause ?_ ?_ fun _ _ => nofun))
    · refine fun started _ _ _ => ⟨trivial, fun _ => ?_⟩
      exact steady_resumes.wp (h.manualClosed hmanual hfocus started resumedTicks)
        (fun _ _ _ h => h) fun _ _ _ h _ => h
    · exact fun hanother => absurd (h.manual_alone hmanual hfocus).1 hanother
  unfold leaveManualPause
  refine wp_bind.mpr (wp_current.mpr (wp_bind.mpr (wp_onlyIf.mpr ?_)))
  refine ⟨fun hpending => ?_, fun _ => ?_⟩
  · exact absurd hpending (ne_true_of_eq_false hsettled)
  · refine hheld.wp_bind ⟨h, hmanual, hfocus⟩ (fun _ _ _ h _ => h.1) fun stamp after ghost h => ?_
    cases stamp with
    | none => exact wp_bind.mpr (wp_update.mpr (wp_fail.mpr fun _ => h.1))
    | some preflightTarget =>
      refine hheld.wp_bind h (fun _ _ _ h _ => h.1) fun _ after ghost h => ?_
      refine hheld.wp_bind h (fun _ _ _ h _ => h.1) fun passed after ghost h => ?_
      refine wp_ite.mpr ⟨fun _ => hresume h, fun _ => ?_⟩
      exact wp_bind.mpr (wp_update.mpr (wp_fail.mpr fun _ => h.1))

/-- The manual section settles what the focus section owed. -/
theorem wp_manualSection {config : WorkerConfig} {nowTicks : ℕ} {manualPause : Bool}
    (h : Suspends (manualPause = true) state.pauseCore ghost) :
    wp (resumeMonitor first) (manualSection config nowTicks manualPause) (fun _ => Resumes)
      (IfNext Resumes) state ghost := by
  have hmanualIff := @PauseCore.hasPauseReason_iff state.pauseCore .manual
  refine wp_bind.mpr (wp_current.mpr (wp_ite.mpr ⟨fun hentering => ?_, fun hnotEntering => ?_⟩))
  · have hnot : state.playback.hasPauseReason .manual = false := by simp_all
    exact wp_enterManualPause h fun hmanual =>
      absurd (hmanualIff.mpr hmanual) (ne_true_of_eq_false hnot)
  · have hsettled : Suspends False state.pauseCore ghost := by
      refine h.settled fun hpause => hmanualIff.mp ?_
      change state.playback.hasPauseReason .manual = true
      simpa [hpause] using hnotEntering
    refine wp_ite.mpr ⟨fun hleaving => wp_ite.mpr ⟨fun _ => hsettled, fun hfocus => ?_⟩,
      fun _ => hsettled⟩
    have hheld : state.playback.hasPauseReason .manual = true := by simp_all
    exact wp_leaveManualPause hsettled (hmanualIff.mp hheld) fun hheld =>
      hfocus (PauseCore.hasPauseReason_iff.mpr hheld)

/-- The control section keeps the promise, and tells whether playback is paused. -/
theorem wp_controlSection {config : WorkerConfig} {nowTicks : ℕ} (hfirst : state.pauseCore = first)
    (h : Suspends False first ghost) :
    wp (resumeMonitor first) (controlSection config nowTicks)
      (fun paused after ghost => Resumes after ghost ∧ paused = after.playback.isPaused)
      (IfNext Resumes) state ghost := by
  have hunmoved := @steady_pauseCore first fun core ghost => core = first ∧ Suspends False first ghost
  have hfailed : ∀ (error : LoopEnd) (after : WorkerState) (ghost : SendRecord),
      after.pauseCore = first ∧ Suspends False first ghost → IfNext Resumes error after ghost := by
    rintro error after ghost ⟨hfirst, h⟩ -
    rwa [Resumes, hfirst]
  unfold controlSection
  refine hunmoved.wp_bind ⟨hfirst, h⟩ hfailed fun focusOk after ghost h => ?_
  refine hunmoved.wp_bind h hfailed fun state after ghost h => ?_
  refine hunmoved.wp_bind h hfailed fun _ after ghost h => ?_
  refine hunmoved.wp_bind h hfailed fun manualPause after ghost h => ?_
  refine hunmoved.wp_bind h hfailed fun state after ghost h => ?_
  refine hunmoved.wp_bind h hfailed fun _ after ghost h => ?_
  refine wp_bind.mpr (wp_mono (wp_focusSection h.1 h.2) ?_ fun _ _ _ h => h)
  intro _ after ghost h
  refine wp_bind.mpr (wp_mono (wp_manualSection h) ?_ fun _ _ _ h => h)
  exact fun _ after ghost h => ⟨h, rfl⟩

/-- The iteration up to its control section keeps the promise. -/
theorem wp_iterationControl {config : WorkerConfig} (h : Resumes state ghost) :
    wp (resumeMonitor state.pauseCore) (iterationControl config)
      (fun result after ghost => Resumes after ghost ∧ result.2 = after.playback.isPaused)
      (IfNext Resumes) state ghost := by
  have hunmoved := @steady_pauseCore state.pauseCore fun core ghost =>
    core = state.pauseCore ∧ Suspends False state.pauseCore ghost
  have hfailed : ∀ (error : LoopEnd) (after : WorkerState) (ghost : SendRecord),
      after.pauseCore = state.pauseCore ∧ Suspends False state.pauseCore ghost →
        IfNext Resumes error after ghost := by
    rintro error after ghost ⟨hfirst, h⟩ -
    rwa [Resumes, hfirst]
  have hfinished : Quietly (ask (I := workerInterface) .coordinatorFinished :
      WorkerM LoopEnd Bool) := within_ask trivial
  unfold iterationControl
  refine hunmoved.wp_bind ⟨rfl, h⟩ hfailed fun finished after ghost h => ?_
  refine hunmoved.wp_bind h hfailed fun _ after ghost h => ?_
  refine hunmoved.wp_bind h hfailed fun _ after ghost h => ?_
  refine hunmoved.wp_bind h hfailed fun nowTicks after ghost h => ?_
  refine wp_bind.mpr (wp_mono (wp_controlSection h.1 h.2) ?_ fun _ _ _ h => h)
  exact fun _ after ghost h => h

end Monitored

section Dispatch

variable {first : PauseCore} {state : WorkerState} {ghost : SendRecord}

/-- Before a frame is dispatched no manual pause holds playback. -/
def Dispatches (state : WorkerState) (ghost : SendRecord) : Prop :=
  Suspends False state.pauseCore ghost ∧ ¬state.pauseCore.Holds .manual

/-- Quiet parts keep a frame ready. -/
theorem steady_dispatches :
    Steady (resumeMonitor first) WorkerQuestion.Quiet WorkerState.pauseCore Dispatches :=
  steady_pauseCore fun core ghost => Suspends False core ghost ∧ ¬core.Holds .manual

/-- A send starts a new record. -/
theorem Dispatches.sent (h : Dispatches state ghost) :
    Dispatches state { ghost with pausedSinceSend := ghost.paused, suspendedSinceSend := false } := by
  obtain ⟨h, hmanual⟩ := h
  have hunpaused : ¬state.pauseCore.Holds .focus → ghost.paused ≠ true := by
    intro hfocus hpaused
    exact (h.paused.mp hpaused).elim hfocus hmanual
  refine ⟨?_, hmanual⟩
  exact
    { reasons := h.reasons
      paused := h.paused
      deferred := h.deferred
      manual := fun hheld => absurd hheld hmanual
      resumed := fun hfocus _ hpaused => absurd hpaused (hunpaused hfocus)
      barred := nofun
      valid := h.valid }

/-- A completed packet leaves a valid guard valid and its barrier in place. -/
theorem observeSuccessfulPacket_ok {guard after : PhysicalTimingGuard} {completedQpc : ℕ}
    {upMask downMask : BitVec 16}
    (hrun : (PhysicalTimingGuard.observeSuccessfulPacket completedQpc upMask downMask).run guard =
      .ok () after) :
    after.valid = guard.valid ∧ after.resumeDownNotBeforeQpc = guard.resumeDownNotBeforeQpc := by
  obtain hok | ⟨error, hfailed, -⟩ | hfailed :=
    guard.observe_cases completedQpc upMask downMask
  · rw [hok] at hrun
    cases hrun
    exact ⟨rfl, rfl⟩
  · rw [hfailed] at hrun
    cases hrun
  · rw [hfailed] at hrun
    cases hrun

/-- A guard that kept its validity and its barrier serves as well. -/
theorem Dispatches.observed {guard after : PhysicalTimingGuard} (h : Dispatches state ghost)
    (hguard : state.physicalTimingGuard = some guard) (hvalid : after.valid = guard.valid)
    (hbarrier : after.resumeDownNotBeforeQpc = guard.resumeDownNotBeforeQpc) :
    Dispatches { state with physicalTimingGuard := some after } ghost := by
  obtain ⟨h, hmanual⟩ := h
  refine ⟨{ h with barred := ?_, valid := ?_ }, hmanual⟩
  · intro hsuspended
    obtain ⟨other, hother, hbarred⟩ := h.barred hsuspended
    obtain rfl : other = guard := Option.some.inj (hother.symm.trans hguard)
    exact ⟨after, rfl, by rwa [hbarrier]⟩
  · refine h.valid.imp_left fun hguardValid => ?_
    obtain ⟨other, hother, hotherValid⟩ := hguardValid
    obtain rfl : other = guard := Option.some.inj (hother.symm.trans hguard)
    exact ⟨after, rfl, by rwa [hvalid]⟩

/-- What a dispatch step that the loop survives leaves. -/
def DispatchesOn (step : DispatchStep) (after : WorkerState) (ghost : SendRecord) : Prop :=
  step.GoesOn → Dispatches after ghost

/-- A focus loss during the dispatch pauses playback for focus alone. -/
theorem keeps_enterFocusPause {focusTicks : ℕ} :
    Keeps (resumeMonitor first) Dispatches DispatchesOn
      (mapError DispatchStep.terminate (enterFocusPause focusTicks)) := by
  refine ⟨fun state ghost h => wp_mapError.mpr ?_⟩
  refine wp_mono (wp_enterFocusPause h.1) (fun _ after ghost hentered => ?_) fun _ _ _ _ => False.elim
  exact ⟨hentered.1, fun hmanual => h.2 (hentered.2 hmanual)⟩

/-- Quiet parts of a dispatch step keep a frame ready. -/
theorem keeps_dispatches_quiet {α : Type} {procedure : WorkerM DispatchStep α}
    (h : Quietly procedure) : Keeps (resumeMonitor first) Dispatches DispatchesOn procedure :=
  steady_dispatches.keeps_of h fun _ _ _ h _ => h

instance leaves_dispatches : DispatchLeaves (resumeMonitor first) Dispatches DispatchesOn where
  terminates _ _ _ := False.elim
  quiet h := keeps_dispatches_quiet h
  losesFocus := by
    refine Keeps.bind (keeps_dispatches_quiet inferInstance) fun state => ?_
    split
    · refine Keeps.bind (keeps_dispatches_quiet inferInstance) fun sample => ?_
      split
      · exact Keeps.bind keeps_enterFocusPause fun _ => keeps_pure ()
      · exact keeps_dispatches_quiet inferInstance
    · exact keeps_dispatches_quiet inferInstance
  sends packet := ⟨fun _ _ h => ⟨trivial, fun _ _ => h.sent⟩⟩
  recovers packet := ⟨fun _ _ h => ⟨trivial, fun _ _ => h.sent⟩⟩
  observes missing describe completedQpc upMask downMask := by
    refine ⟨fun state ghost h => wp_mapError.mpr (wp_timingGuard ?_ fun _ _ => False.elim)⟩
    intro guard after hguard hrun
    obtain ⟨hvalid, hbarrier⟩ := observeSuccessfulPacket_ok hrun
    exact h.observed hguard hvalid hbarrier

/-- The first gate of a planned Down pauses playback for focus alone. -/
theorem keeps_admitAuthoredDown {config : WorkerConfig} {view : AuthoredBatchView}
    {preflightTarget : Option TargetStamp} {nowTicks : ℕ} {immediate : Bool} :
    Keeps (resumeMonitor first) Dispatches DispatchesOn
      (admitAuthoredDown config view preflightTarget nowTicks immediate) := by
  have hpause := @keeps_enterFocusPause first nowTicks
  unfold admitAuthoredDown
  infer_instance

/-- The dispatch section keeps the promise between iterations. -/
theorem dispatchArgument_resumes (config : WorkerConfig) :
    DispatchArgument config (resumeMonitor first) (fun _ _ _ => Dispatches) Resumes where
  steady _ _ _ := steady_dispatches
  rested := steady_resumes
  rests h := h.1
  preflights h := steady_dispatches.wp h (fun _ _ _ h => h) fun _ _ _ h _ => h.1
  samples h hadmits := steady_dispatches.hears _ _ ⟨.now .waitStart, _⟩ trivial hadmits h
  wakes h hadmits := steady_dispatches.hears _ _ ⟨.wait _, _⟩ trivial hadmits h
  prepares h := by
    have hkeeps := @keeps_dispatchPreparedNormalFrame _ _ _ _ (@leaves_dispatches first)
    exact wp_mono ((hkeeps _ _ _ _).keeps _ _ h) (fun _ _ _ h _ => h.1)
      fun _ _ _ h hgoesOn => (h hgoesOn).1
  authors h := by
    have hkeeps := @keeps_dispatchAuthoredPacket _ _ _ _ (@leaves_dispatches first) config
    refine wp_mono ((hkeeps keeps_admitAuthoredDown _ _).keeps _ _ h) ?_ ?_
    · exact fun _ _ _ h => ⟨fun _ => h, fun _ => h.1⟩
    · intro step after ghost h
      refine ⟨fun hnoWork => h ?_, fun hgoesOn => (h hgoesOn).1⟩
      rw [hnoWork]
      trivial

/-- An iteration that restores cleanly keeps the promise. -/
theorem wp_iteration_resumes {config : WorkerConfig} (h : Resumes state ghost) :
    wp (resumeMonitor state.pauseCore) (iteration config) (fun _ => Resumes) (IfNext Resumes) state
      ghost := by
  refine wp_bind.mpr (wp_mono (wp_iterationControl h) ?_ fun _ _ _ h => h)
  rintro ⟨nowTicks, paused⟩ after ghost ⟨h, rfl⟩
  refine wp_ite.mpr ⟨fun _ => ?_, fun hrunning => ?_⟩
  · exact steady_resumes.wp h (fun _ _ _ h => h) fun _ _ _ h _ => h
  · have hempty : after.playback.pauseReasons = ∅ := by
      simpa [PlaybackClockState.isPaused] using hrunning
    have hmanual := ((after.pauseCore.unpaused_iff h.reasons).mp hempty).2
    have hdispatches : Dispatches after ghost := ⟨h, hmanual⟩
    exact (dispatchArgument_resumes config).wp_dispatchSection hdispatches

end Dispatch

/-- A fresh start keeps the promise. -/
theorem WorkerState.Fresh.resumes {start : WorkerState} (h : start.Fresh) :
    Resumes start SendRecord.start := by
  have hholds : ∀ reason, ¬start.pauseCore.Holds reason := by
    simp [PauseCore.Holds, WorkerState.pauseCore, h.unpaused]
  exact
    { reasons := hholds _
      paused := by simp [SendRecord.start, hholds]
      deferred := fun hpending => absurd hpending (ne_true_of_eq_false h.nothingPending)
      manual := fun hheld => absurd hheld (hholds _)
      resumed := fun _ _ => nofun
      barred := nofun
      valid := Or.inl h.guardValid }

/-- Clean restorations keep the promise between iterations. -/
theorem resumes_of_iterations {config : WorkerConfig} {start state : WorkerState}
    {events : List WorkerExchange} (hfresh : start.Fresh)
    (run : Iterations (iteration config) RestoresCleanly start events state) :
    Resumes state (sinceSend events) := by
  have hadmits : Guarded (fun _ _ => True) SendRecord.record SendRecord.start events :=
    guarded_of_forall (fun _ _ _ => trivial) _
  refine run.invariant ?_ hadmits hfresh.resumes
  intro state ghost iteration result after h hclean path _ goesOn
  refine LoopExit.holds_of_wp (wp_iteration_resumes h) path ?_ goesOn
  exact guarded_of_forall (fun event hevent _ hheld => hclean hheld event hevent) _

/-- When every restoration is clean, an iteration that leaves its control section unpaused has a
valid guard, and playback that was paused since the last send was suspended since then. -/
theorem resume_after_pause {config : WorkerConfig} {start state after : WorkerState}
    {events control : List WorkerExchange} {nowTicks : ℕ} (hfresh : start.Fresh)
    (run : Iterations (iteration config) RestoresCleanly start events state)
    (hclean : RestoresCleanly state control)
    (path : (iterationControl config state).Path control (.ok (nowTicks, false) after)) :
    after.pauseCore.GuardValid ∧
      ((sinceSend (events ++ control)).pausedSinceSend = true →
        (sinceSend (events ++ control)).suspendedSinceSend = true ∧
          after.pauseCore.GuardBarred) := by
  have hresumes := resumes_of_iterations hfresh run
  have hadmits : Guarded (resumeMonitor state.pauseCore).admits SendRecord.record
      (sinceSend events) control :=
    guarded_of_forall (fun event hevent _ hheld => hclean hheld event hevent) _
  obtain ⟨hafter, hunpaused⟩ := Dialogue.Safe.path (wp_iterationControl hresumes) path hadmits
  have hrecord : sinceSend (events ++ control) =
      control.foldl SendRecord.record (sinceSend events) := List.foldl_append ..
  have hempty : after.playback.pauseReasons = ∅ := by
    simpa [PlaybackClockState.isPaused] using hunpaused.symm
  obtain ⟨hfocus, hmanual⟩ := (after.pauseCore.unpaused_iff hafter.reasons).mp hempty
  rw [hrecord]
  refine ⟨?_, fun hpaused => ?_⟩
  · exact hafter.valid.resolve_right fun hnot =>
      hnot.elim (fun hheld => hfocus hheld.1) fun hnot => hnot.2.2
  · have hsuspended := (hafter.resumed hfocus hmanual hpaused).resolve_right id
    exact ⟨hsuspended, hafter.barred hsuspended⟩

/-- A configuration that requires focus, without a grace period and without a lease. -/
def focusConfig : WorkerConfig where
  requireFocus := true
  focusRestoreGraceTicks := 0
  pausedPollTicks := 1
  leaseTimeoutTicks := 0
  strictTiming := false
  focusLossFault := false

/-- A worker that has already sent a Down, at the start of its timeline. -/
def startedWorker : WorkerState where
  playback := ⟨0, 0, ∅, none, none, 0⟩
  physicalTimingGuard := some (PhysicalTimingGuard.new 0 0)
  verifiedTarget := none
  focusRestoreStartedTicks := none
  manualPauseSuspensionPending := false
  musicalPhysicalCommitStarted := true
  allowPreEpochStartupDispatch := false
  focusLossFaultInjected := false
  downBoundaryState := .awaitingFuture
  pendingUpRecovery := none
  preparedStream := none
  terminalTrigger := none

/-- What the environment of a scripted run answers in one iteration. -/
structure ScriptedIteration where
  focusActive : Bool
  desiredPause : Bool
  foreground : Bool
  plannedFocus : Bool
  plan : NextDispatchPlan

/-- An iteration in which everything goes well and nothing is due yet. -/
def ScriptedIteration.calm : ScriptedIteration := ⟨true, false, true, true, .metadata 1000 1000⟩

/-- A reply of the sender that inserted the whole packet. -/
def completeReply (packet : PhysicalPacket) (ticks : ℕ) : SenderReply where
  outcome :=
    { status := .complete
      evidence :=
        { SendEvidence.untouched (packet.upMask ||| packet.downMask) with
          attempts := 1
          startedTicks := some ticks
          completedTicks := some ticks } }
  timingError := none

/-- An environment that follows a script, one entry an iteration, in which everything else goes
well. The clock moves between the top of an iteration and its other samples. -/
def scripted (script : List ScriptedIteration) (iteration : ℕ) :
    (question : WorkerQuestion) → question.Answer × ℕ
  | .coordinatorFinished => (false, iteration)
  | .load .supervisorExpired .commandControl => (false, iteration + 1)
  | .load .focusActive (.plannedFocus _) => (entry.plannedFocus, iteration)
  | .load .focusActive _ => (entry.focusActive, iteration)
  | .load .desiredPause _ => (entry.desiredPause, iteration)
  | .load _ _ => (false, iteration)
  | .takePanic => (false, iteration)
  | .isCurrent _ _ => (true, iteration)
  | .foregroundWindowMatches _ _ => (entry.foreground, iteration)
  | .now .iterationTop => (.ok (2 * iteration), iteration)
  | .now _ => (.ok (2 * iteration + 1), iteration)
  | .loadStable _ => (some ⟨1, 1⟩, iteration)
  | .ownerIdentityStatus _ _ => (.bound 1, iteration)
  | .foregroundWindowOwnerMatches _ _ => (.matches, iteration)
  | .proveDownAge _ _ => (.fresh, iteration)
  | .observeModifiers => (none, iteration)
  | .hwndForSafetyRelease => (1, iteration)
  | .instrumentKeysPhysicallyUp _ | .releaseAll _ | .commitDeadlineMiss _ _
  | .cancelLiveGenerations | .commitStalePacket | .validateFrozenCommit _ | .commitMetadata
  | .settleSend _ | .settleMiss _ _ | .publishSend _ => (.ok (), iteration)
  | .wait _ => (.interrupted, iteration)
  | .publishProgress _ | .pauseOpened _ _ | .pauseClosed _ _ | .suspended => ((), iteration)
  | .planNext => (.ok entry.plan, iteration)
  | .prepareStalePacket => (.ok false, iteration)
  | .send packet | .sendRecoveryUps packet => (completeReply packet (2 * iteration + 1), iteration)
where
  /-- The script's entry for the iteration. -/
  entry : ScriptedIteration := script.getD (iteration - 1) .calm

/-- A manual pause, a focus loss under it, a restoration that fails its first check, one that
succeeds, and a manual resume. -/
def failedRestoreScript : List ScriptedIteration :=
  [{ ScriptedIteration.calm with desiredPause := true },
    { ScriptedIteration.calm with desiredPause := true, focusActive := false },
    { ScriptedIteration.calm with desiredPause := true, foreground := false },
    { ScriptedIteration.calm with desiredPause := true }]

/-- A manual pause that is left again. -/
def manualPauseScript : List ScriptedIteration :=
  [{ ScriptedIteration.calm with desiredPause := true }]

/-- Whether a scripted run leaves its last control section unpaused after a pause, with a guard
that passes a test. -/
def resumesWith (script : List ScriptedIteration) (test : PhysicalTimingGuard → Bool)
    (run : List WorkerExchange × WorkerState × ℕ) : Bool :=
  let control := (iterationControl focusConfig run.2.1).converse (scripted script) run.2.2
  match control.2.1 with
  | .ok (_, paused) after =>
    !paused && (sinceSend (run.1 ++ control.1)).pausedSinceSend &&
      after.physicalTimingGuard.all test
  | .error _ _ => false

/-- What a scripted run that resumes shows. -/
theorem exists_of_resumesWith {script : List ScriptedIteration}
    {test : PhysicalTimingGuard → Bool} {run : List WorkerExchange × WorkerState × ℕ}
    (h : resumesWith script test run = true) :
    ∃ control nowTicks after,
      (iterationControl focusConfig run.2.1).Path control (.ok (nowTicks, false) after) ∧
        (sinceSend (run.1 ++ control)).pausedSinceSend = true ∧
          ∀ guard, after.physicalTimingGuard = some guard → test guard = true := by
  have hpath := Dialogue.path_converse (scripted script) (iterationControl focusConfig run.2.1)
    run.2.2
  rw [resumesWith] at h
  split at h
  · next nowTicks paused after hresult =>
    rw [hresult] at hpath
    simp only [Bool.and_eq_true, Bool.not_eq_true'] at h
    obtain ⟨⟨rfl, hpaused⟩, htest⟩ := h
    refine ⟨_, nowTicks, after, hpath, hpaused, fun guard hguard => ?_⟩
    rw [hguard] at htest
    exact htest
  · cases h

/-- The worker of the scripted runs starts fresh. -/
theorem fresh_startedWorker : startedWorker.Fresh :=
  ⟨rfl, ⟨_, rfl, rfl⟩, rfl⟩

/-- A manual pause keeps its promise. -/
theorem resume_after_manual_pause :
    ∃ events control state nowTicks after, startedWorker.Fresh ∧
      Iterations (iteration focusConfig) RestoresCleanly startedWorker events state ∧
        (iterationControl focusConfig state).Path control (.ok (nowTicks, false) after) ∧
          (sinceSend (events ++ control)).pausedSinceSend = true ∧
            (sinceSend (events ++ control)).suspendedSinceSend = true ∧
              after.pauseCore.GuardValid := by
  have hrun : (converseIterations (iteration focusConfig) (scripted manualPauseScript)
      (fun state _ => !state.playback.hasPauseReason .focus) 1 [] startedWorker 0).any
        (fun run => !run.2.1.playback.hasPauseReason .focus &&
          resumesWith manualPauseScript (fun _ => true) run) = true := by
    decide +kernel
  have hclean : ∀ (state : WorkerState) (events : List WorkerExchange),
      (!state.playback.hasPauseReason .focus) = true → RestoresCleanly state events := by
    intro state events hfocus hheld
    have hnot : state.playback.hasPauseReason .focus = false := by simpa using hfocus
    exact absurd (PauseCore.hasPauseReason_iff.mpr hheld.1) (ne_true_of_eq_false hnot)
  obtain ⟨run, hconverse, hresumes⟩ := (Option.any_eq_true _ _).mp hrun
  obtain ⟨hfocus, hresumes⟩ := Bool.and_eq_true _ _ |>.mp hresumes
  obtain ⟨control, nowTicks, after, hpath, hpaused, -⟩ := exists_of_resumesWith hresumes
  have hiterations := Iterations.of_converse hclean (.start startedWorker) hconverse
  have hpromise := resume_after_pause fresh_startedWorker hiterations (hclean _ control hfocus) hpath
  exact ⟨run.1, control, run.2.1, nowTicks, after, fresh_startedWorker, hiterations, hpath, hpaused,
    (hpromise.2 hpaused).1, hpromise.1⟩

/-- A restoration that fails its first check under a manual pause leaves playback running with an
invalid guard. -/
theorem resume_with_invalid_guard :
    ∃ events control state nowTicks after, startedWorker.Fresh ∧
      Iterations (iteration focusConfig) (fun _ _ => True) startedWorker events state ∧
        (iterationControl focusConfig state).Path control (.ok (nowTicks, false) after) ∧
          (sinceSend (events ++ control)).pausedSinceSend = true ∧
            ¬after.pauseCore.GuardValid := by
  have hrun : (converseIterations (iteration focusConfig) (scripted failedRestoreScript)
      (fun _ _ => true) 4 [] startedWorker 0).any
        (resumesWith failedRestoreScript fun guard => !guard.valid) = true := by
    decide +kernel
  obtain ⟨run, hconverse, hresumes⟩ := (Option.any_eq_true _ _).mp hrun
  obtain ⟨control, nowTicks, after, hpath, hpaused, htest⟩ := exists_of_resumesWith hresumes
  have hiterations : Iterations (iteration focusConfig) (fun _ _ => True) startedWorker run.1 run.2.1 :=
    Iterations.of_converse (fun _ _ _ => trivial) (.start startedWorker) hconverse
  refine ⟨run.1, control, run.2.1, nowTicks, after, fresh_startedWorker, hiterations, hpath,
    hpaused, ?_⟩
  rintro ⟨guard, hguard, hvalid⟩
  simpa [hvalid] using htest guard hguard

end SkyAutoPlayer.Player
