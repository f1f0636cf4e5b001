import SkyAutoPlayer.Desktop.PlaybackSession

/-!
# The lease of a session

A step of a session leaves its lease alone, takes it, gives it back, or closes the coordinator with
it. A session gives its lease back only when its worker was joined or never started.
-/

namespace SkyAutoPlayer.Desktop

open Foundation

/-- The worker of a session cannot send any more. -/
def SessionWorker.Quiet : SessionWorker → Prop
  | .notStarted | .joined => True
  | .running | .exited => False

namespace PlaybackRun

/-- A phase of a session fits its worker, its lease and its retirement. -/
def Coherent (run : PlaybackRun) : Prop :=
  match run.phase with
  | .reserving | .refused _ | .ended => run.leased = false ∧ run.worker = .notStarted
  | .creating | .starting _ _ | .arming | .unwinding =>
    run.leased = run.physical ∧ run.worker = .notStarted
  | .confirming | .supervising | .joining _ | .abandoned => run.leased = run.physical
  | .retiring retirement =>
    run.leased = run.physical ∧ run.worker.Quiet ∧
      (retirement.release.isUnverified = true → run.physical = true)
  | .quarantining retirement held =>
    run.leased = false ∧ run.worker.Quiet ∧ held = true ∧
      retirement.release.isUnverified = true ∧ run.physical = true
  | .quarantineDropping retirement quarantined | .requarantining retirement quarantined =>
    run.leased = false ∧ run.worker.Quiet ∧ quarantined = true ∧
      retirement.release.isUnverified = true ∧ run.physical = true
  | .dropping retirement held =>
    run.leased = false ∧ run.worker.Quiet ∧ held = run.physical ∧
      retirement.release.isUnverified = false
  | .released _ _ => run.leased = false ∧ run.worker.Quiet

/-- The lease of a session is the one that the coordinator has recorded. -/
def recorded (run : PlaybackRun) : Bool :=
  run.leased || match run.phase with
    | .quarantining _ held | .dropping _ held => held
    | _ => false

/-- The coordinator has been closed for good for a session. -/
def closedGood (run : PlaybackRun) : Bool :=
  match run.phase with
  | .quarantineDropping _ _ | .requarantining _ _ => true
  | .released retirement _ => retirement.release.isUnverified
  | _ => false

/-- What the coordinator knows of a session. -/
structure Placed (activity : ActivityState) (run : PlaybackRun) : Prop where
  coherent : run.Coherent
  recorded : run.recorded = true →
    activity.physicalPlayback = some run.sessionId ∧ activity.physicalReleaseQuarantined = false
  closedGood : run.closedGood = true → activity.physicalReleaseQuarantined = true

variable {run next : PlaybackRun} {activity after : ActivityState} {choice : SessionChoice}

/-- A lease that is not recorded is about to be dropped. -/
theorem leaseLive_cases (h : run.leaseLive = true) : run.recorded = true ∨ run.closedGood = true := by
  unfold leaseLive at h
  unfold PlaybackRun.recorded PlaybackRun.closedGood
  cases hleased : run.leased with
  | true => exact .inl (by simp)
  | false =>
    rw [hleased, Bool.false_or] at h
    cases hphase : run.phase <;> rw [hphase] at h <;> simp_all

/-- A recorded lease exists. -/
theorem leaseLive_of_recorded (h : run.recorded = true) : run.leaseLive = true := by
  unfold PlaybackRun.recorded at h
  unfold leaseLive
  cases hleased : run.leased with
  | true => simp
  | false =>
    rw [hleased, Bool.false_or] at h
    cases hphase : run.phase <;> rw [hphase] at h <;> simp_all

/-- What a step of a session does to the lease and to the coordinator. -/
inductive LeaseStep (run next : PlaybackRun) (activity after : ActivityState) : Prop where
  | keeps (hactivity : after = activity) (hrecorded : next.recorded = run.recorded)
    (hclosed : next.closedGood = run.closedGood)
  | takes (hfree : activity.Free)
    (hactivity : after = { activity with physicalPlayback := some run.sessionId })
    (hrecorded : next.recorded = true) (hclosed : next.closedGood = false)
  | gives (hlive : run.recorded = true) (hactivity : after = activity.releasePlayback run.sessionId)
    (hrecorded : next.recorded = false) (hclosed : next.closedGood = false)
  | closes (hlive : run.recorded = true)
    (hactivity : after = (activity.quarantinePlayback run.sessionId).1)
    (hrecorded : next.recorded = false) (hclosed : next.closedGood = true)
  | drops (hclosed : run.closedGood = true) (hrecorded : run.recorded = false)
    (hactivity : after = activity.releasePlayback run.sessionId ∨
      after = (activity.quarantinePlayback run.sessionId).1)
    (hnextRecorded : next.recorded = false) (hnextClosed : next.closedGood = true)

/-- A stage of the start that succeeds leaves the session as it is. -/
theorem nextStage_coherent {stage : StartStage} {creation : Option String}
    (hleased : run.leased = run.physical) (hworker : run.worker = .notStarted) :
    ({ run with phase := nextStage creation stage } : PlaybackRun).Coherent ∧
      ({ run with phase := nextStage creation stage } : PlaybackRun).recorded = run.leased ∧
        ({ run with phase := nextStage creation stage } : PlaybackRun).closedGood = false := by
  have hquiet : run.worker.Quiet := by rw [hworker]; trivial
  unfold nextStage
  cases stage with
  | startPresentation =>
    cases creation with
    | none => exact ⟨⟨hleased, hworker⟩, Bool.or_false _, rfl⟩
    | some error => exact ⟨⟨hleased, hquiet, nofun⟩, Bool.or_false _, rfl⟩
  | registerPlayer | publishStarting | attachPresentation | spawnSupervisor =>
    exact ⟨⟨hleased, hworker⟩, Bool.or_false _, rfl⟩

/-- A session that reserves the physical input. -/
theorem reserve_spec (hphase : run.phase = .reserving) (hcoherent : run.Coherent)
    (hstep : run.reserve activity = (after, next)) :
    next.Coherent ∧ next.sessionId = run.sessionId ∧ LeaseStep run next activity after := by
  rw [Coherent, hphase] at hcoherent
  obtain ⟨hleased, hworker⟩ := hcoherent
  have hrecorded : run.recorded = false := by simp [PlaybackRun.recorded, hphase, hleased]
  have hclosed : run.closedGood = false := by simp [PlaybackRun.closedGood, hphase]
  unfold reserve at hstep
  split at hstep
  case isTrue hdry =>
    obtain ⟨rfl, rfl⟩ := Prod.mk.inj hstep
    refine ⟨⟨?_, hworker⟩, rfl, .keeps rfl ?_ hclosed.symm⟩
    · simp [physical, hleased, hdry]
    · rw [hrecorded]
      simp [PlaybackRun.recorded, hleased]
  case isFalse hreal =>
    split at hstep
    case h_1 granted hgranted =>
      obtain ⟨rfl, rfl⟩ := Prod.mk.inj hstep
      obtain ⟨hfree, hafter⟩ := ActivityState.reservePlayback_eq_ok.mp hgranted
      refine ⟨⟨?_, hworker⟩, rfl, .takes hfree hafter rfl rfl⟩
      simp [physical, hreal]
    case h_2 error _ =>
      obtain ⟨rfl, rfl⟩ := Prod.mk.inj hstep
      refine ⟨⟨hleased, hworker⟩, rfl, .keeps rfl ?_ hclosed.symm⟩
      rw [hrecorded]
      simp [PlaybackRun.recorded, hleased]

/-- A worker that was joined, or never started, can send no more. -/
theorem join_coherent {joinError : Option String} (hphase : run.phase = .joining joinError)
    (hcoherent : run.Coherent) (hstep : run.join choice joinError = some next) :
    next.Coherent ∧ next.sessionId = run.sessionId ∧ next.recorded = run.recorded ∧
      next.closedGood = run.closedGood := by
  rw [Coherent, hphase] at hcoherent
  unfold join at hstep
  split at hstep
  · cases hstep
  case isFalse hended =>
    dsimp only at hstep
    split at hstep
    · obtain rfl := Option.some.inj hstep
      exact ⟨hcoherent, rfl, by simp [PlaybackRun.recorded, hphase],
        by simp [PlaybackRun.closedGood, hphase]⟩
    case h_2 retirement hdecided =>
      obtain rfl := Option.some.inj hstep
      obtain ⟨hjoined, rfl⟩ := decidePlaybackHandoff_retire hdecided
      refine ⟨⟨hcoherent, ?_, joinedRetirement_spec.1⟩, rfl, by simp [PlaybackRun.recorded, hphase],
        by simp [PlaybackRun.closedGood, hphase]⟩
      have hnotRunning : run.worker ≠ .running := fun hrunning => hended ⟨hjoined, hrunning⟩
      cases hworker : run.worker with
      | running => exact absurd hworker hnotRunning
      | notStarted | exited | joined => trivial

/-- A session before its end only moves on. -/
theorem stepPhase_running (hphase : ∀ retirement, run.retirement? ≠ some retirement)
    (hcoherent : run.Coherent) (hstep : run.stepPhase choice activity = some (after, next)) :
    next.Coherent ∧ next.sessionId = run.sessionId ∧
      ((run.recorded = true → activity.physicalPlayback = some run.sessionId) →
        LeaseStep run next activity after) := by
  have hclosed : run.closedGood = false := by
    unfold PlaybackRun.closedGood
    unfold retirement? at hphase
    cases hrun : run.phase <;> simp_all
  have hrecorded : run.recorded = run.leased := by
    unfold PlaybackRun.recorded
    unfold retirement? at hphase
    cases hrun : run.phase <;> simp_all
  unfold stepPhase at hstep
  cases hrun : run.phase with
  | reserving =>
    rw [hrun] at hstep
    obtain ⟨hnext, hid, hlease⟩ := reserve_spec hrun hcoherent (Option.some.inj hstep)
    exact ⟨hnext, hid, fun _ => hlease⟩
  | creating =>
    rw [Coherent, hrun] at hcoherent
    rw [hrun] at hstep
    dsimp only at hstep
    split at hstep
    · obtain ⟨rfl, rfl⟩ := Prod.mk.inj (Option.some.inj hstep)
      exact ⟨hcoherent, rfl, fun _ => .keeps rfl (hrecorded ▸ Bool.or_false _) hclosed.symm⟩
    · split at hstep
      · obtain ⟨rfl, rfl⟩ := Prod.mk.inj (Option.some.inj hstep)
        exact ⟨hcoherent, rfl, fun _ => .keeps rfl (hrecorded ▸ Bool.or_false _) hclosed.symm⟩
      · split at hstep <;> obtain ⟨rfl, rfl⟩ := Prod.mk.inj (Option.some.inj hstep) <;>
          exact ⟨hcoherent, rfl, fun _ => .keeps rfl (hrecorded ▸ Bool.or_false _) hclosed.symm⟩
  | starting stage creation =>
    rw [Coherent, hrun] at hcoherent
    rw [hrun] at hstep
    dsimp only at hstep
    split at hstep
    · obtain ⟨rfl, rfl⟩ := Prod.mk.inj (Option.some.inj hstep)
      exact ⟨hcoherent.1, rfl, fun _ => .keeps rfl (hrecorded ▸ Bool.or_false _) hclosed.symm⟩
    · split at hstep
      · obtain ⟨rfl, rfl⟩ := Prod.mk.inj (Option.some.inj hstep)
        obtain ⟨hnext, hnextRecorded, hnextClosed⟩ :=
          @nextStage_coherent run stage creation hcoherent.1 hcoherent.2
        exact ⟨hnext, rfl, fun _ => .keeps rfl (hnextRecorded.trans hrecorded.symm)
          (hnextClosed.trans hclosed.symm)⟩
      · obtain ⟨rfl, rfl⟩ := Prod.mk.inj (Option.some.inj hstep)
        refine ⟨⟨hcoherent.1, ?_, ?_⟩, rfl, fun _ =>
          .keeps rfl (hrecorded ▸ Bool.or_false _) hclosed.symm⟩
        · rw [hcoherent.2]
          trivial
        · cases stage <;> exact nofun
  | arming =>
    rw [Coherent, hrun] at hcoherent
    rw [hrun] at hstep
    obtain ⟨rfl, rfl⟩ := Prod.mk.inj (Option.some.inj hstep)
    unfold arm
    split
    · exact ⟨hcoherent.1, rfl, fun _ => .keeps rfl (hrecorded ▸ Bool.or_false _) hclosed.symm⟩
    · split
      · exact ⟨hcoherent.1, rfl, fun _ => .keeps rfl (hrecorded ▸ Bool.or_false _) hclosed.symm⟩
      · split
        · exact ⟨hcoherent.1, rfl, fun _ => .keeps rfl (hrecorded ▸ Bool.or_false _) hclosed.symm⟩
        · refine ⟨⟨hcoherent.1, ?_, nofun⟩, rfl, fun _ =>
            .keeps rfl (hrecorded ▸ Bool.or_false _) hclosed.symm⟩
          rw [hcoherent.2]
          trivial
  | confirming =>
    rw [Coherent, hrun] at hcoherent
    rw [hrun] at hstep
    obtain ⟨rfl, rfl⟩ := Prod.mk.inj (Option.some.inj hstep)
    exact ⟨hcoherent, rfl, fun _ => .keeps rfl (hrecorded ▸ Bool.or_false _) hclosed.symm⟩
  | supervising =>
    have hsame := hcoherent
    rw [Coherent, hrun] at hcoherent
    rw [hrun] at hstep
    dsimp only at hstep
    split at hstep
    · obtain ⟨rfl, rfl⟩ := Prod.mk.inj (Option.some.inj hstep)
      exact ⟨hcoherent, rfl, fun _ => .keeps rfl (hrecorded ▸ Bool.or_false _) hclosed.symm⟩
    · split at hstep
      · obtain ⟨rfl, rfl⟩ := Prod.mk.inj (Option.some.inj hstep)
        exact ⟨hcoherent, rfl, fun _ => .keeps rfl (hrecorded ▸ Bool.or_false _) hclosed.symm⟩
      · obtain ⟨rfl, rfl⟩ := Prod.mk.inj (Option.some.inj hstep)
        exact ⟨hsame, rfl, fun _ => .keeps rfl rfl rfl⟩
  | joining joinError =>
    rw [hrun] at hstep
    dsimp only at hstep
    split at hstep
    · rw [Coherent, hrun] at hcoherent
      obtain ⟨rfl, rfl⟩ := Prod.mk.inj (Option.some.inj hstep)
      exact ⟨hcoherent, rfl, fun _ => .keeps rfl (hrecorded ▸ Bool.or_false _) hclosed.symm⟩
    · obtain ⟨joined, hjoined, hpair⟩ := Option.map_eq_some_iff.mp hstep
      obtain ⟨rfl, rfl⟩ := Prod.mk.inj hpair
      obtain ⟨hnext, hid, hkeepRecorded, hkeepClosed⟩ := join_coherent hrun hcoherent hjoined
      exact ⟨hnext, hid, fun _ => .keeps rfl hkeepRecorded hkeepClosed⟩
  | unwinding =>
    rw [Coherent, hrun] at hcoherent
    rw [hrun] at hstep
    obtain ⟨rfl, rfl⟩ := Prod.mk.inj (Option.some.inj hstep)
    refine ⟨⟨rfl, hcoherent.2⟩, rfl, fun _ => ?_⟩
    cases hleased : run.leased with
    | true => exact .gives (hrecorded.trans hleased) (if_pos rfl) rfl rfl
    | false => exact .keeps (if_neg (by decide)) (hrecorded.trans hleased).symm hclosed.symm
  | refused | ended | abandoned =>
    rw [hrun] at hstep
    cases hstep
  | retiring | quarantining | quarantineDropping | requarantining | dropping | released =>
    simp [retirement?, hrun] at hphase

/-- A session at its end gives the lease back, or closes the coordinator for good. -/
theorem stepPhase_retiring {retirement : TerminalRetirement}
    (hphase : run.retirement? = some retirement) (hcoherent : run.Coherent)
    (hown : run.recorded = true → activity.physicalPlayback = some run.sessionId)
    (hstep : run.stepPhase choice activity = some (after, next)) :
    next.Coherent ∧ next.sessionId = run.sessionId ∧ LeaseStep run next activity after := by
  have hkind := hcoherent
  unfold stepPhase at hstep
  cases hrun : run.phase with
  | retiring ended =>
    rw [Coherent, hrun] at hkind
    obtain ⟨hleased, hquiet, hphysical⟩ := hkind
    rw [hrun] at hstep
    obtain ⟨rfl, rfl⟩ := Prod.mk.inj (Option.some.inj hstep)
    have hrecorded : run.recorded = run.leased := by simp [PlaybackRun.recorded, hrun]
    have hclosed : run.closedGood = false := by simp [PlaybackRun.closedGood, hrun]
    cases hverdict : ended.release.isUnverified with
    | true =>
      rw [if_pos rfl]
      have hheld : run.leased = true := hleased.trans (hphysical hverdict)
      exact ⟨⟨rfl, hquiet, hheld, hverdict, hphysical hverdict⟩, rfl, .keeps rfl
        (hrecorded ▸ Bool.false_or _) hclosed.symm⟩
    | false =>
      rw [if_neg (by decide)]
      exact ⟨⟨rfl, hquiet, hleased, hverdict⟩, rfl, .keeps rfl (hrecorded ▸ Bool.false_or _)
        hclosed.symm⟩
  | quarantining ended held =>
    rw [Coherent, hrun] at hkind
    obtain ⟨hleased, hquiet, rfl, hverdict, hphysical⟩ := hkind
    have hrecorded : run.recorded = true := by simp [PlaybackRun.recorded, hrun]
    have hquarantine := @ActivityState.quarantinePlayback_of_own activity run.sessionId
      fun owner howner => Option.some.inj (howner.symm.trans (hown hrecorded))
    rw [hrun] at hstep
    dsimp only at hstep
    rw [if_pos rfl] at hstep
    obtain ⟨rfl, rfl⟩ := Prod.mk.inj (Option.some.inj hstep)
    refine ⟨⟨hleased, hquiet, ?_, hverdict, hphysical⟩, rfl, .closes hrecorded rfl ?_ rfl⟩
    · rw [hquarantine]
    · simp [PlaybackRun.recorded, hleased]
  | quarantineDropping ended quarantined =>
    rw [Coherent, hrun] at hkind
    have hrecorded : run.recorded = false := by simp [PlaybackRun.recorded, hrun, hkind.1]
    rw [hrun] at hstep
    obtain ⟨rfl, rfl⟩ := Prod.mk.inj (Option.some.inj hstep)
    refine ⟨hkind, rfl, .drops ?_ hrecorded (.inl rfl) ?_ rfl⟩
    · simp [PlaybackRun.closedGood, hrun]
    · simp [PlaybackRun.recorded, hkind.1]
  | requarantining ended quarantined =>
    rw [Coherent, hrun] at hkind
    obtain ⟨hleased, hquiet, rfl, hverdict, hphysical⟩ := hkind
    have hrecorded : run.recorded = false := by simp [PlaybackRun.recorded, hrun, hleased]
    rw [hrun] at hstep
    dsimp only at hstep
    rw [hphysical, if_pos rfl, Bool.true_or, if_pos rfl] at hstep
    obtain ⟨rfl, rfl⟩ := Prod.mk.inj (Option.some.inj hstep)
    refine ⟨⟨hleased, hquiet⟩, rfl, .drops ?_ hrecorded (.inr rfl) ?_ hverdict⟩
    · simp [PlaybackRun.closedGood, hrun]
    · simp [PlaybackRun.recorded, hleased]
  | dropping ended held =>
    rw [Coherent, hrun] at hkind
    obtain ⟨hleased, hquiet, -, hverdict⟩ := hkind
    have hclosed : run.closedGood = false := by simp [PlaybackRun.closedGood, hrun]
    have hnextRecorded : ({ run with phase := .released ended true } : PlaybackRun).recorded =
        false := by simp [PlaybackRun.recorded, hleased]
    rw [hrun] at hstep
    obtain ⟨rfl, rfl⟩ := Prod.mk.inj (Option.some.inj hstep)
    refine ⟨⟨hleased, hquiet⟩, rfl, ?_⟩
    cases held with
    | true =>
      refine .gives ?_ (if_pos rfl) hnextRecorded hverdict
      simp [PlaybackRun.recorded, hrun]
    | false =>
      refine .keeps (if_neg (by decide)) (hnextRecorded.trans ?_) (hverdict.trans hclosed.symm)
      simp [PlaybackRun.recorded, hrun, hleased]
  | released =>
    rw [hrun] at hstep
    cases hstep
  | reserving | refused | creating | starting | arming | confirming | supervising | joining
  | unwinding | ended | abandoned =>
    simp [retirement?, hrun] at hphase

/-- A step of a session keeps it coherent, and moves its lease one way. -/
theorem step_spec (hcoherent : run.Coherent)
    (hown : run.recorded = true → activity.physicalPlayback = some run.sessionId)
    (hstep : run.step choice activity = some (after, next)) :
    next.Coherent ∧ next.sessionId = run.sessionId ∧ LeaseStep run next activity after := by
  unfold step at hstep
  split at hstep
  · split at hstep
    case isTrue hrunning =>
      obtain ⟨rfl, rfl⟩ := Prod.mk.inj (Option.some.inj hstep)
      refine ⟨?_, rfl, .keeps rfl rfl rfl⟩
      unfold Coherent at hcoherent ⊢
      cases hphase : run.phase <;> rw [hphase] at hcoherent <;>
        simp_all [SessionWorker.Quiet, physical]
    · cases hstep
  · cases hretired : run.retirement? with
    | some retirement => exact stepPhase_retiring hretired hcoherent hown hstep
    | none =>
      obtain ⟨hnext, hid, hlease⟩ :=
        stepPhase_running (by simp [hretired]) hcoherent hstep
      exact ⟨hnext, hid, hlease hown⟩

/-- A lease that is gone was given back when its worker could not send any more. -/
theorem quiet_of_granted (hcoherent : run.Coherent) (hgranted : run.granted = true)
    (hgone : run.leaseLive = false) : run.worker.Quiet := by
  unfold PlaybackRun.granted at hgranted
  unfold leaseLive at hgone
  unfold Coherent at hcoherent
  cases hphase : run.phase <;> rw [hphase] at hgranted hgone hcoherent <;>
    simp_all [SessionWorker.Quiet]

/-- The coordinator was closed for a session only without evidence. -/
theorem unverified_of_closedGood (hcoherent : run.Coherent) (h : run.closedGood = true) :
    run.unverified = true := by
  unfold PlaybackRun.closedGood at h
  unfold Coherent at hcoherent
  unfold PlaybackRun.unverified retirement?
  cases hphase : run.phase <;> rw [hphase] at h hcoherent <;> simp_all

/-- A session without evidence still owns the physical input, or the coordinator is closed for it. -/
theorem recorded_or_closedGood (hcoherent : run.Coherent) (h : run.unverified = true) :
    run.recorded = true ∨ run.closedGood = true := by
  unfold PlaybackRun.unverified retirement? at h
  unfold Coherent at hcoherent
  unfold PlaybackRun.recorded PlaybackRun.closedGood
  cases hphase : run.phase <;> rw [hphase] at h hcoherent <;> simp_all

/-- A session that is retired stays retired that way. -/
theorem retirement_step {retirement : TerminalRetirement}
    (hstep : run.step choice activity = some (after, next))
    (h : run.retirement? = some retirement) : next.retirement? = some retirement := by
  unfold step at hstep
  split at hstep
  · split at hstep
    · obtain ⟨-, rfl⟩ := Prod.mk.inj (Option.some.inj hstep)
      exact h
    · cases hstep
  · unfold retirement? at h
    unfold stepPhase at hstep
    cases hphase : run.phase with
    | retiring ended =>
      rw [hphase] at h hstep
      obtain rfl := Option.some.inj h
      obtain ⟨-, rfl⟩ := Prod.mk.inj (Option.some.inj hstep)
      cases hverdict : ended.release.isUnverified <;> simp [retirement?]
    | quarantining ended held =>
      rw [hphase] at h hstep
      obtain rfl := Option.some.inj h
      dsimp only at hstep
      split at hstep <;> obtain ⟨-, rfl⟩ := Prod.mk.inj (Option.some.inj hstep) <;> rfl
    | requarantining ended quarantined =>
      rw [hphase] at h hstep
      obtain rfl := Option.some.inj h
      obtain ⟨-, rfl⟩ := Prod.mk.inj (Option.some.inj hstep)
      unfold retirement?
      dsimp only
      generalize (quarantined || _) = done
      cases done <;> rfl
    | quarantineDropping | dropping =>
      rw [hphase] at h hstep
      obtain rfl := Option.some.inj h
      obtain ⟨-, rfl⟩ := Prod.mk.inj (Option.some.inj hstep)
      rfl
    | released =>
      rw [hphase] at hstep
      cases hstep
    | reserving | refused | creating | starting | arming | confirming | supervising | joining
    | unwinding | ended | abandoned =>
      rw [hphase] at h
      cases h

/-- A session without evidence stays one. -/
theorem unverified_step (hstep : run.step choice activity = some (after, next))
    (h : run.unverified = true) : next.unverified = true := by
  obtain ⟨retirement, hretirement, hverdict⟩ := (Option.any_eq_true _ _).mp h
  exact (Option.any_eq_true _ _).mpr ⟨retirement, retirement_step hstep hretirement, hverdict⟩

/-- A session stays a dry run, or a real one. -/
theorem dryRun_step (hstep : run.step choice activity = some (after, next)) :
    next.dryRun = run.dryRun := by
  unfold step at hstep
  split at hstep
  · split at hstep
    · obtain ⟨-, rfl⟩ := Prod.mk.inj (Option.some.inj hstep)
      rfl
    · cases hstep
  · unfold stepPhase at hstep
    cases hphase : run.phase with
    | reserving =>
      rw [hphase] at hstep
      have hreserve : run.reserve activity = (after, next) := Option.some.inj hstep
      unfold reserve at hreserve
      split at hreserve
      · obtain ⟨-, rfl⟩ := Prod.mk.inj hreserve
        rfl
      · split at hreserve <;> obtain ⟨-, rfl⟩ := Prod.mk.inj hreserve <;> rfl
    | arming =>
      rw [hphase] at hstep
      obtain ⟨-, rfl⟩ := Prod.mk.inj (Option.some.inj hstep)
      unfold arm
      split
      · rfl
      · split
        · rfl
        · split <;> rfl
    | joining joinError =>
      rw [hphase] at hstep
      dsimp only at hstep
      split at hstep
      · obtain ⟨-, rfl⟩ := Prod.mk.inj (Option.some.inj hstep)
        rfl
      · obtain ⟨joined, hjoined, hpair⟩ := Option.map_eq_some_iff.mp hstep
        obtain ⟨-, rfl⟩ := Prod.mk.inj hpair
        unfold join at hjoined
        split at hjoined
        · cases hjoined
        · dsimp only at hjoined
          split at hjoined <;> obtain rfl := Option.some.inj hjoined <;> rfl
    | creating | starting | supervising | quarantining =>
      rw [hphase] at hstep
      dsimp only at hstep
      repeat' split at hstep
      all_goals
        obtain ⟨-, rfl⟩ := Prod.mk.inj (Option.some.inj hstep)
        rfl
    | confirming | retiring | quarantineDropping | requarantining | dropping | unwinding =>
      rw [hphase] at hstep
      obtain ⟨-, rfl⟩ := Prod.mk.inj (Option.some.inj hstep)
      rfl
    | refused | released | ended | abandoned =>
      rw [hphase] at hstep
      cases hstep

/-- The physical input is reserved for a session only when it is free. -/
theorem granted_step (hstep : run.step choice activity = some (after, next))
    (h : next.granted = true) : run.granted = true ∨ activity.Free := by
  have hphysical : run.physical = true := by
    rw [physical, ← dryRun_step hstep]
    exact (Bool.and_eq_true_iff.mp h).1
  unfold PlaybackRun.granted
  rw [hphysical, Bool.true_and]
  unfold step at hstep
  split at hstep
  · split at hstep
    · obtain ⟨-, rfl⟩ := Prod.mk.inj (Option.some.inj hstep)
      exact .inl (Bool.and_eq_true_iff.mp h).2
    · cases hstep
  · unfold stepPhase at hstep
    cases hphase : run.phase with
    | reserving =>
      rw [hphase] at hstep
      have hreserve : run.reserve activity = (after, next) := Option.some.inj hstep
      unfold reserve at hreserve
      rw [if_neg (by simpa [physical] using hphysical)] at hreserve
      split at hreserve
      case h_1 granted hgranted => exact .inr (ActivityState.reservePlayback_eq_ok.mp hgranted).1
      case h_2 error _ =>
        obtain ⟨-, rfl⟩ := Prod.mk.inj hreserve
        simp [PlaybackRun.granted] at h
    | refused =>
      rw [hphase] at hstep
      cases hstep
    | _ => exact .inl rfl

/-- A session gets a lease only when the physical input is free. -/
theorem leaseLive_step (hstep : run.step choice activity = some (after, next))
    (h : next.leaseLive = true) : run.leaseLive = true ∨ activity.Free := by
  have hleased : run.leased = true → run.leaseLive = true := by
    intro hleased
    rw [leaseLive, hleased, Bool.true_or]
  unfold step at hstep
  split at hstep
  · split at hstep
    · obtain ⟨-, rfl⟩ := Prod.mk.inj (Option.some.inj hstep)
      exact .inl h
    · cases hstep
  · unfold stepPhase at hstep
    cases hphase : run.phase with
    | reserving =>
      rw [hphase] at hstep
      have hreserve : run.reserve activity = (after, next) := Option.some.inj hstep
      unfold reserve at hreserve
      split at hreserve
      · obtain ⟨-, rfl⟩ := Prod.mk.inj hreserve
        exact .inl (hleased (by simpa [leaseLive] using h))
      · split at hreserve
        case h_1 granted hgranted => exact .inr (ActivityState.reservePlayback_eq_ok.mp hgranted).1
        case h_2 error _ =>
          obtain ⟨-, rfl⟩ := Prod.mk.inj hreserve
          exact .inl (hleased (by simpa [leaseLive] using h))
    | arming =>
      rw [hphase] at hstep
      obtain ⟨-, rfl⟩ := Prod.mk.inj (Option.some.inj hstep)
      unfold arm at h
      refine .inl (hleased ?_)
      split at h
      · simpa [leaseLive] using h
      · split at h
        · simpa [leaseLive] using h
        · split at h <;> simpa [leaseLive] using h
    | joining joinError =>
      rw [hphase] at hstep
      dsimp only at hstep
      split at hstep
      · obtain ⟨-, rfl⟩ := Prod.mk.inj (Option.some.inj hstep)
        exact .inl (hleased (by simpa [leaseLive] using h))
      · obtain ⟨joined, hjoined, hpair⟩ := Option.map_eq_some_iff.mp hstep
        obtain ⟨-, rfl⟩ := Prod.mk.inj hpair
        unfold join at hjoined
        split at hjoined
        · cases hjoined
        · dsimp only at hjoined
          split at hjoined <;> obtain rfl := Option.some.inj hjoined <;>
            exact .inl (hleased (by simpa [leaseLive] using h))
    | starting stage creation =>
      rw [hphase] at hstep
      dsimp only at hstep
      split at hstep
      · obtain ⟨-, rfl⟩ := Prod.mk.inj (Option.some.inj hstep)
        exact .inl (hleased (by simpa [leaseLive] using h))
      · split at hstep <;> obtain ⟨-, rfl⟩ := Prod.mk.inj (Option.some.inj hstep)
        · refine .inl (hleased ?_)
          cases stage <;> cases creation <;> simpa [leaseLive, nextStage] using h
        · exact .inl (hleased (by simpa [leaseLive] using h))
    | creating | supervising =>
      rw [hphase] at hstep
      dsimp only at hstep
      refine .inl (hleased ?_)
      repeat' split at hstep
      all_goals
        obtain ⟨-, rfl⟩ := Prod.mk.inj (Option.some.inj hstep)
        simpa [leaseLive, hphase] using h
    | confirming =>
      rw [hphase] at hstep
      obtain ⟨-, rfl⟩ := Prod.mk.inj (Option.some.inj hstep)
      exact .inl (hleased (by simpa [leaseLive] using h))
    | retiring retirement =>
      rw [hphase] at hstep
      obtain ⟨-, rfl⟩ := Prod.mk.inj (Option.some.inj hstep)
      refine .inl (hleased ?_)
      cases hverdict : retirement.release.isUnverified <;> simpa [leaseLive, hverdict] using h
    | quarantining retirement held =>
      rw [hphase] at hstep
      dsimp only at hstep
      refine .inl ?_
      split at hstep
      case isTrue hheld => simp [leaseLive, hphase, hheld]
      case isFalse =>
        obtain ⟨-, rfl⟩ := Prod.mk.inj (Option.some.inj hstep)
        exact hleased (by simpa [leaseLive] using h)
    | quarantineDropping | dropping =>
      rw [hphase] at hstep
      obtain ⟨-, rfl⟩ := Prod.mk.inj (Option.some.inj hstep)
      exact .inl (hleased (by simpa [leaseLive] using h))
    | requarantining retirement quarantined =>
      rw [hphase] at hstep
      obtain ⟨-, rfl⟩ := Prod.mk.inj (Option.some.inj hstep)
      refine .inl (hleased ?_)
      unfold leaseLive at h
      dsimp only at h
      generalize (quarantined || _) = done at h
      cases done <;> simpa using h
    | unwinding =>
      rw [hphase] at hstep
      obtain ⟨-, rfl⟩ := Prod.mk.inj (Option.some.inj hstep)
      simp [leaseLive] at h
    | refused | released | ended | abandoned =>
      rw [hphase] at hstep
      cases hstep

end PlaybackRun

end SkyAutoPlayer.Desktop
