import SkyAutoPlayer.Desktop.ActivityExclusion
import SkyAutoPlayer.Desktop.Calibration

/-!
# Calibrations end

An operation that goes on is the one that the service has recorded, and it holds the reservation. It
ends in one section, gives the reservation back and then the gate. So an orchestrator that returns has
ended its operation, unless the gate refused it: then another operation had given its reservation back
but not the gate.
-/

namespace SkyAutoPlayer.Desktop

open Foundation

namespace CalibrationEffect

/-- A reservation was given back. -/
def releases (number : ℕ) : CalibrationEffect → Bool
  | .released other => other = number
  | _ => false

/-- The end of an operation was published. -/
def finishes (number : ℕ) : CalibrationEffect → Bool
  | .finished other _ => other = number
  | _ => false

/-- The cache or the user interface sees the effect. -/
def isPublic : CalibrationEffect → Bool
  | .progress _ _ | .committed _ | .finished _ _ => true
  | .released _ | .shutdown => false

end CalibrationEffect

namespace CalibrationService

/-- How often a reservation was given back. -/
def released (service : CalibrationService) (number : ℕ) : ℕ :=
  service.effects.countP (CalibrationEffect.releases number)

/-- How often the end of an operation was published. -/
def finished (service : CalibrationService) (number : ℕ) : ℕ :=
  service.effects.countP (CalibrationEffect.finishes number)

/-- An operation goes on. -/
def busy (service : CalibrationService) : Bool :=
  service.operation.any fun operation => operation.state.isActive

end CalibrationService

namespace CalibrationPhase

/-- The operation has not ended yet. -/
def pending : CalibrationPhase → Bool
  | .withdrawn _ | .publishing _ _ | .releasing _ | .yielding | .over => false
  | _ => true

/-- The operation, or the orchestrator that has ended it, holds the reservation. -/
def holding : CalibrationPhase → Bool
  | .publishing _ held | .releasing held => held
  | phase => phase.pending

/-- The orchestrator was admitted by the gate. -/
def admitted : CalibrationPhase → Bool
  | .committing | .checking _ | .settling _ | .publishing _ _ | .releasing _ | .yielding => true
  | _ => false

/-- The orchestrator has returned, or was never started. -/
def returned : CalibrationPhase → Bool
  | .withdrawn _ | .over => true
  | _ => false

/-- How the operation is going to end, or has ended. -/
def ended? : CalibrationPhase → Option CalibrationEnd
  | .asking ended | .checking ended | .settling ended => some ended
  | _ => none

/-- Whether the orchestrator that has ended the operation holds the reservation. -/
def held? : CalibrationPhase → Option Bool
  | .publishing _ held | .releasing held => some held
  | _ => none

/-- How often the end of an operation may have been published. -/
def mayFinish : CalibrationPhase → ℕ
  | .releasing _ | .yielding | .over => 1
  | _ => 0

end CalibrationPhase

namespace CalibrationCall

/-- The operation of a call has not ended yet. -/
def pending : CalibrationCall → Bool
  | .run operation => operation.phase.pending
  | _ => false

/-- A call holds the reservation. -/
def holding : CalibrationCall → Bool
  | .run operation => operation.phase.holding
  | _ => false

/-- A call was admitted by the gate. -/
def admitted : CalibrationCall → Bool
  | .run operation => operation.phase.admitted
  | _ => false

/-- The number of the operation of a call. -/
def hasNumber (number : ℕ) : CalibrationCall → Bool
  | .run operation => operation.number = number
  | _ => false

end CalibrationCall

/-- A step meets the gate and the service as the code expects them: an orchestrator asks for admission
while no one else is admitted, unless the program closes, and an operation is announced before a
shutdown has returned. -/
def MeetsGate (choice : CalibrationChoice) (call : CalibrationCall) (service : CalibrationService) :
    Prop :=
  match call with
  | .run run =>
    match run.phase with
    | .asking _ | .askingCommit =>
      service.commitInProgress = true → service.activity.closing = true
    | .announcing => choice.published = true → .shutdown ∉ service.effects
    | _ => True
  | _ => True

instance (choice : CalibrationChoice) (call : CalibrationCall) (service : CalibrationService) :
    Decidable (MeetsGate choice call service) := by
  unfold MeetsGate
  cases call with
  | run run =>
    dsimp only
    cases run.phase <;> dsimp only <;> infer_instance
  | start | cancel | shutdown | playback | update => exact isTrue trivial

/-- What the service knows of an operation while the program does not close. -/
structure CalibrationRun.Placed (service : CalibrationService) (run : CalibrationRun) : Prop where
  pending : run.phase.pending = true → ∃ operation ∈ service.operation,
    operation.number = run.number ∧ operation.operationId = run.operationId ∧
      operation.state.isActive = true ∧ operation.reserved = true
  held : ∀ held ∈ run.phase.held?, held = true
  terminal : ∀ ended ∈ run.phase.ended?, ended.state.isTerminal = true
  released : service.released run.number = if run.phase.holding then 0 else 1
  finished : service.finished run.number ≤ run.phase.mayFinish

/-- What a step of an operation does while the program does not close. -/
structure RunMoves (run next : CalibrationRun) (service after : CalibrationService) : Prop where
  placed : next.Placed after
  holding : after.activity.calibrationActive.toNat + run.phase.holding.toNat =
    service.activity.calibrationActive.toNat + next.phase.holding.toNat
  pending : after.busy.toNat + run.phase.pending.toNat =
    service.busy.toNat + next.phase.pending.toNat
  operation : run.phase.pending = true ∨ after.operation = service.operation
  stated : ∀ operation ∈ after.operation,
    operation ∈ service.operation ∨ operation.state.isTerminal = true
  others : ∀ number, number ≠ run.number →
    after.released number = service.released number ∧ after.finished number = service.finished number

variable {service after : CalibrationService} {run next : CalibrationRun} {choice : CalibrationChoice}

/-- An operation that has not ended holds its reservation. -/
theorem CalibrationPhase.holding_of_pending {phase : CalibrationPhase} (h : phase.pending = true) :
    phase.holding = true := by
  cases phase <;> first | exact h | cases h

/-- The end of an operation that has not ended is not published. -/
theorem CalibrationPhase.mayFinish_of_pending {phase : CalibrationPhase} (h : phase.pending = true) :
    phase.mayFinish = 0 := by
  cases phase <;> first | rfl | cases h

/-- No orchestrator has ended an operation that has not ended. -/
theorem CalibrationPhase.held_of_pending {phase : CalibrationPhase} (h : phase.pending = true) :
    phase.held? = none := by
  cases phase <;> first | rfl | cases h

/-- A phase without an end has no end that is not terminal. -/
theorem CalibrationPhase.terminal_of_none {phase : CalibrationPhase} (h : phase.ended? = none) :
    ∀ ended ∈ phase.ended?, ended.state.isTerminal = true := by
  intro ended hended
  rw [h] at hended
  cases hended

/-- An orchestrator that has ended nothing has not lost its reservation. -/
theorem CalibrationPhase.held_of_none {phase : CalibrationPhase} (h : phase.held? = none) :
    ∀ held ∈ phase.held?, held = true := by
  intro held hheld
  rw [h] at hheld
  cases hheld

/-- An operation that goes on stays the recorded one. -/
theorem RunMoves.on {before phase : CalibrationPhase} (hplaced : run.Placed service)
    (hphase : run.phase = before) (hbefore : before.pending = true) (hnext : phase.pending = true)
    (hended : ∀ ended ∈ phase.ended?, ended.state.isTerminal = true)
    (hoperation : after.operation = service.operation)
    (hactivity : after.activity = service.activity)
    (hcounts : ∀ number, after.released number = service.released number ∧
      after.finished number = service.finished number) :
    RunMoves run { run with phase := phase } service after := by
  have hpending : run.phase.pending = true := hphase ▸ hbefore
  have hbusy : after.busy = service.busy := by rw [CalibrationService.busy, hoperation]; rfl
  constructor
  · constructor
    · intro _
      rw [hoperation]
      exact hplaced.pending hpending
    · exact CalibrationPhase.held_of_none (CalibrationPhase.held_of_pending hnext)
    · exact hended
    · rw [(hcounts run.number).1, hplaced.released, CalibrationPhase.holding_of_pending hpending,
        CalibrationPhase.holding_of_pending hnext]
    · rw [(hcounts run.number).2, CalibrationPhase.mayFinish_of_pending hnext,
        ← CalibrationPhase.mayFinish_of_pending hpending]
      exact hplaced.finished
  · rw [hactivity, CalibrationPhase.holding_of_pending hpending,
      CalibrationPhase.holding_of_pending hnext]
  · rw [hbusy, hpending, hnext]
  · exact .inl hpending
  · exact fun operation h => .inl (hoperation ▸ h)
  · exact fun number _ => hcounts number

/-- An operation goes on to a phase without an end. -/
theorem RunMoves.onward {before phase : CalibrationPhase} (hplaced : run.Placed service)
    (hphase : run.phase = before) (hbefore : before.pending = true) (hnext : phase.pending = true)
    (hnone : phase.ended? = none) : RunMoves run { run with phase := phase } service service :=
  .on hplaced hphase hbefore hnext (CalibrationPhase.terminal_of_none hnone) rfl rfl
    fun _ => ⟨rfl, rfl⟩

/-- What an effect adds to the count of reservations that were given back. -/
theorem released_append {effect : CalibrationEffect} {number : ℕ}
    (h : after.effects = service.effects ++ [effect]) :
    after.released number = service.released number + (effect.releases number).toNat := by
  unfold CalibrationService.released
  rw [h, List.countP_append, List.countP_singleton]
  cases effect.releases number <;> rfl

/-- What an effect adds to the count of ends that were published. -/
theorem finished_append {effect : CalibrationEffect} {number : ℕ}
    (h : after.effects = service.effects ++ [effect]) :
    after.finished number = service.finished number + (effect.finishes number).toNat := by
  unfold CalibrationService.finished
  rw [h, List.countP_append, List.countP_singleton]
  cases effect.finishes number <;> rfl

/-- An effect that gives no reservation back leaves their count. -/
theorem released_same {effect : CalibrationEffect} {number : ℕ}
    (h : after.effects = service.effects ++ [effect]) (hnone : effect.releases number = false) :
    after.released number = service.released number := by
  rw [released_append h, hnone]
  rfl

/-- An effect that publishes no end leaves their count. -/
theorem finished_same {effect : CalibrationEffect} {number : ℕ}
    (h : after.effects = service.effects ++ [effect]) (hnone : effect.finishes number = false) :
    after.finished number = service.finished number := by
  rw [finished_append h, hnone]
  rfl

/-- What is judged of a measurement ends in a terminal state. -/
theorem judgeResult_spec {request : CalibrationStartRequest} {result : ChildResult} :
    (judgeResult request result).pending = true ∧
      ∀ ended ∈ (judgeResult request result).ended?, ended.state.isTerminal = true := by
  cases result with
  | measured =>
    unfold judgeResult
    dsimp only
    split
    · exact ⟨rfl, fun ended h => Option.some.inj h ▸ rfl⟩
    · exact ⟨rfl, CalibrationPhase.terminal_of_none rfl⟩
  | cancelled => exact ⟨rfl, fun ended h => Option.some.inj h ▸ rfl⟩
  | failed error => exact ⟨rfl, fun ended h => Option.some.inj h ▸ rfl⟩

/-- The gate admits the only one that asks. -/
theorem gateShut_of_meets (hopen : service.activity.closing = false)
    (hgate : service.publicationClosing = false)
    (hmeets : service.commitInProgress = true → service.activity.closing = true) :
    service.gateShut = false := by
  unfold CalibrationService.gateShut
  rw [hgate, Bool.false_or]
  apply Bool.eq_false_iff.mpr
  intro hcommit
  rw [hmeets hcommit] at hopen
  cases hopen

/-- An operation that goes on has not ended. -/
theorem isTerminal_of_active {state : CalibrationState} (h : state.isActive = true) :
    state.isTerminal = false := by
  cases state <;> first | rfl | cases h

/-- A step of an operation, while the program does not close. -/
theorem calibrationRunStep_moves (hplaced : run.Placed service) (hclosed : service.closed = false)
    (hgate : service.publicationClosing = false) (hopen : service.activity.closing = false)
    (hmeets : MeetsGate choice (.run run) service)
    (hactive : run.phase.holding = true → service.activity.calibrationActive = true)
    (hstep : calibrationRunStep choice run service = some (after, next)) :
    RunMoves run next service after := by
  unfold calibrationRunStep at hstep
  unfold MeetsGate at hmeets
  dsimp only at hmeets
  cases hphase : run.phase with
  | announcing =>
    rw [hphase] at hstep
    dsimp only at hstep
    split at hstep <;> obtain ⟨rfl, rfl⟩ := Prod.mk.inj (Option.some.inj hstep)
    · refine .on hplaced hphase rfl rfl (CalibrationPhase.terminal_of_none rfl) rfl rfl
        fun number => ?_
      exact ⟨released_same rfl rfl, finished_same rfl rfl⟩
    · exact .onward hplaced hphase rfl rfl rfl
  | retracting error =>
    have hpending : run.phase.pending = true := by rw [hphase]; rfl
    obtain ⟨operation, hoperation, hnumber, -, hactiveState, hreserved⟩ := hplaced.pending hpending
    have hretract : service.retract = { service with
        activity := service.activity.releaseCalibration
        effects := service.effects ++ [.released run.number]
        operation := none } := by
      unfold CalibrationService.retract
      rw [Option.mem_def.mp hoperation, Option.bind_some, if_pos hreserved, hnumber]
      rfl
    have hbusy : service.busy = true := by
      rw [CalibrationService.busy, Option.mem_def.mp hoperation]
      exact hactiveState
    have hheld := hactive (CalibrationPhase.holding_of_pending hpending)
    have hreleased := hplaced.released
    have hfinished := hplaced.finished
    rw [hphase] at hstep hreleased hfinished
    obtain ⟨rfl, rfl⟩ := Prod.mk.inj (Option.some.inj hstep)
    rw [hretract]
    constructor
    · refine ⟨nofun, nofun, CalibrationPhase.terminal_of_none rfl, ?_, ?_⟩
      · rw [released_append rfl, hreleased]
        simp [CalibrationPhase.holding, CalibrationPhase.pending, CalibrationEffect.releases]
      · rw [finished_same rfl rfl]
        exact hfinished
    · rw [hheld, hphase]
      rfl
    · rw [hbusy, hphase]
      rfl
    · exact .inl hpending
    · exact nofun
    · intro number hne
      refine ⟨?_, finished_same rfl rfl⟩
      rw [released_append rfl]
      simp [CalibrationEffect.releases, Ne.symm hne]
  | spawning =>
    rw [hphase] at hstep
    obtain ⟨rfl, rfl⟩ := Prod.mk.inj (Option.some.inj hstep)
    split <;> exact .onward hplaced hphase rfl rfl rfl
  | running =>
    rw [hphase] at hstep
    obtain ⟨rfl, rfl⟩ := Prod.mk.inj (Option.some.inj hstep)
    rw [hclosed]
    exact .onward hplaced hphase rfl rfl rfl
  | measuring =>
    rw [hphase] at hstep
    obtain ⟨rfl, rfl⟩ := Prod.mk.inj (Option.some.inj hstep)
    exact .onward hplaced hphase rfl rfl rfl
  | measured result =>
    rw [hphase] at hstep
    obtain ⟨rfl, rfl⟩ := Prod.mk.inj (Option.some.inj hstep)
    rw [hclosed]
    exact .onward hplaced hphase rfl rfl rfl
  | judging result =>
    rw [hphase] at hstep
    obtain ⟨rfl, rfl⟩ := Prod.mk.inj (Option.some.inj hstep)
    split
    · exact .on hplaced hphase rfl rfl (fun ended h => Option.some.inj h ▸ rfl) rfl rfl
        fun _ => ⟨rfl, rfl⟩
    · exact .on hplaced hphase rfl judgeResult_spec.1 judgeResult_spec.2 rfl rfl
        fun _ => ⟨rfl, rfl⟩
  | preparing =>
    rw [hphase] at hstep
    obtain ⟨rfl, rfl⟩ := Prod.mk.inj (Option.some.inj hstep)
    split
    · exact .onward hplaced hphase rfl rfl rfl
    · exact .on hplaced hphase rfl rfl (fun ended h => Option.some.inj h ▸ rfl) rfl rfl
        fun _ => ⟨rfl, rfl⟩
  | asking ended =>
    have hterminal := hplaced.terminal
    rw [hphase] at hstep hmeets hterminal
    have hadmitted : service.gateShut = false := gateShut_of_meets hopen hgate hmeets
    dsimp only at hstep
    rw [hadmitted, if_neg (by decide)] at hstep
    obtain ⟨rfl, rfl⟩ := Prod.mk.inj (Option.some.inj hstep)
    exact .on hplaced hphase rfl rfl hterminal rfl rfl fun _ => ⟨rfl, rfl⟩
  | askingCommit =>
    rw [hphase] at hstep hmeets
    have hadmitted : service.gateShut = false := gateShut_of_meets hopen hgate hmeets
    dsimp only at hstep
    rw [hadmitted, if_neg (by decide)] at hstep
    obtain ⟨rfl, rfl⟩ := Prod.mk.inj (Option.some.inj hstep)
    exact .on hplaced hphase rfl rfl (CalibrationPhase.terminal_of_none rfl) rfl rfl
      fun _ => ⟨rfl, rfl⟩
  | committing =>
    rw [hphase] at hstep
    dsimp only at hstep
    split at hstep <;> obtain ⟨rfl, rfl⟩ := Prod.mk.inj (Option.some.inj hstep)
    · refine .on hplaced hphase rfl rfl (fun ended h => Option.some.inj h ▸ rfl) rfl rfl
        fun number => ?_
      exact ⟨released_same rfl rfl, finished_same rfl rfl⟩
    · exact .on hplaced hphase rfl rfl (fun ended h => Option.some.inj h ▸ rfl) rfl rfl
        fun _ => ⟨rfl, rfl⟩
  | checking ended =>
    have hterminal := hplaced.terminal
    rw [hphase] at hstep hterminal
    obtain ⟨rfl, rfl⟩ := Prod.mk.inj (Option.some.inj hstep)
    rw [hclosed]
    exact .on hplaced hphase rfl rfl hterminal rfl rfl fun _ => ⟨rfl, rfl⟩
  | settling ended =>
    have hpending : run.phase.pending = true := by rw [hphase]; rfl
    obtain ⟨operation, hoperation, -, hid, hactiveState, hreserved⟩ := hplaced.pending hpending
    have hunfinished : service.unfinished? run.operationId = some operation := by
      unfold CalibrationService.unfinished?
      rw [Option.mem_def.mp hoperation, Option.filter_some, if_pos]
      rw [hid, isTerminal_of_active hactiveState]
      simp
    have hbusy : service.busy = true := by
      rw [CalibrationService.busy, Option.mem_def.mp hoperation]
      exact hactiveState
    have hterminal := hplaced.terminal ended (by rw [hphase]; rfl)
    have hended : ended.state.isActive = false := by
      cases hstate : ended.state <;> rw [hstate] at hterminal <;> first | rfl | cases hterminal
    have hheld := hactive (CalibrationPhase.holding_of_pending hpending)
    have hreleased := hplaced.released
    have hfinished := hplaced.finished
    rw [hphase] at hstep hreleased hfinished
    dsimp only at hstep
    rw [hunfinished] at hstep
    obtain ⟨rfl, rfl⟩ := Prod.mk.inj (Option.some.inj hstep)
    rw [hreserved]
    constructor
    · refine ⟨nofun, fun held h => ?_, CalibrationPhase.terminal_of_none rfl, hreleased, hfinished⟩
      exact (Option.some.inj h).symm
    · rw [hphase]
      rfl
    · rw [hbusy, hphase]
      unfold CalibrationService.busy
      rw [Option.any_some, hended]
      rfl
    · exact .inl hpending
    · intro operation h
      obtain rfl := Option.some.inj h
      exact .inr hterminal
    · exact fun _ _ => ⟨rfl, rfl⟩
  | publishing ended held =>
    have hheld := hplaced.held held (by rw [hphase]; rfl)
    have hreleased := hplaced.released
    have hfinished := hplaced.finished
    rw [hphase] at hstep hreleased hfinished
    obtain ⟨rfl, rfl⟩ := Prod.mk.inj (Option.some.inj hstep)
    subst hheld
    have hfirst : service.finished run.number = 0 := Nat.le_zero.mp hfinished
    split
    · refine ⟨⟨nofun, fun held h => (Option.some.inj h).symm,
        CalibrationPhase.terminal_of_none rfl, ?_, ?_⟩, ?_, ?_, .inr rfl,
        fun _ => .inl, fun number hne => ⟨released_same rfl rfl, ?_⟩⟩
      · rw [released_same rfl rfl]
        exact hreleased
      · rw [finished_append rfl, hfirst]
        simp [CalibrationEffect.finishes, CalibrationPhase.mayFinish]
      · rw [hphase]
        rfl
      · rw [hphase]
        rfl
      · rw [finished_append rfl]
        simp [CalibrationEffect.finishes, Ne.symm hne]
    · refine ⟨⟨nofun, fun held h => (Option.some.inj h).symm,
        CalibrationPhase.terminal_of_none rfl, hreleased, ?_⟩, ?_, ?_, .inr rfl,
        fun _ => .inl, fun _ _ => ⟨rfl, rfl⟩⟩
      · exact hfirst ▸ Nat.zero_le 1
      · rw [hphase]
        rfl
      · rw [hphase]
        rfl
  | releasing held =>
    have hheld := hplaced.held held (by rw [hphase]; rfl)
    subst hheld
    have hcalibrating := hactive (by rw [hphase]; rfl)
    have hreleased := hplaced.released
    have hfinished := hplaced.finished
    rw [hphase] at hstep hreleased hfinished
    obtain ⟨rfl, rfl⟩ := Prod.mk.inj (Option.some.inj hstep)
    rw [if_pos rfl]
    refine ⟨⟨nofun, nofun, CalibrationPhase.terminal_of_none rfl, ?_, ?_⟩, ?_, ?_, .inr rfl, fun _ => .inl,
      fun number hne => ⟨?_, finished_same rfl rfl⟩⟩
    · rw [released_append rfl, hreleased]
      simp [CalibrationPhase.holding, CalibrationPhase.pending, CalibrationEffect.releases]
    · rw [finished_same rfl rfl]
      exact hfinished
    · rw [hcalibrating, hphase]
      rfl
    · rw [hphase]
      rfl
    · rw [released_append rfl]
      simp [CalibrationEffect.releases, Ne.symm hne]
  | yielding =>
    have hreleased := hplaced.released
    have hfinished := hplaced.finished
    rw [hphase] at hstep hreleased hfinished
    obtain ⟨rfl, rfl⟩ := Prod.mk.inj (Option.some.inj hstep)
    refine ⟨⟨nofun, nofun, CalibrationPhase.terminal_of_none rfl, hreleased, hfinished⟩, ?_, ?_, .inr rfl, fun _ => .inl,
      fun _ _ => ⟨rfl, rfl⟩⟩
    · rw [hphase]
      rfl
    · rw [hphase]
      rfl
  | withdrawn | «over» =>
    rw [hphase] at hstep
    cases hstep

/-- What a step of an operation does in any case. -/
structure RunFrame (run next : CalibrationRun) (service after : CalibrationService) : Prop where
  number : next.number = run.number
  begun : after.begun = service.begun
  closing : after.activity.closing = service.activity.closing
  closed : after.closed = service.closed
  gate : after.publicationClosing = service.publicationClosing
  admitted : (run.phase.admitted = true → service.commitInProgress = true) →
    after.commitInProgress.toNat + run.phase.admitted.toNat =
      service.commitInProgress.toNat + next.phase.admitted.toNat
  entering : after.commitInProgress = true →
    service.commitInProgress = true ∨ service.publicationClosing = false
  effects : after.effects = service.effects ∨ ∃ effect, after.effects = service.effects ++ [effect] ∧
    effect ≠ .shutdown ∧
      (effect.isPublic = true → run.phase.admitted = true ∨ .shutdown ∉ service.effects)

/-- A reservation that is given back touches neither the gate nor the numbers. -/
theorem release_frame {held : Option ℕ} :
    (service.release held).begun = service.begun ∧
      (service.release held).activity.closing = service.activity.closing ∧
        (service.release held).closed = service.closed ∧
          (service.release held).publicationClosing = service.publicationClosing ∧
            (service.release held).commitInProgress = service.commitInProgress ∧
              ((service.release held).effects = service.effects ∨
                ∃ number, (service.release held).effects = service.effects ++ [.released number]) := by
  cases held with
  | none => exact ⟨rfl, rfl, rfl, rfl, rfl, .inl rfl⟩
  | some number => exact ⟨rfl, rfl, rfl, rfl, rfl, .inr ⟨number, rfl⟩⟩

/-- A step that leaves the gate and the effects alone. -/
theorem RunFrame.still {phase : CalibrationPhase} (hadmitted : phase.admitted = run.phase.admitted) :
    RunFrame run { run with phase := phase } service service :=
  ⟨rfl, rfl, rfl, rfl, rfl, fun _ => by rw [hadmitted], .inl, .inl rfl⟩

/-- A step that gives a reservation back. -/
theorem RunFrame.of_release {held : Option ℕ} {phase : CalibrationPhase}
    (hadmitted : phase.admitted = run.phase.admitted) :
    RunFrame run { run with phase := phase } service (service.release held) := by
  obtain ⟨hbegun, hclosing, hclosed, hgate, hcommit, heffects⟩ := @release_frame service held
  refine ⟨rfl, hbegun, hclosing, hclosed, hgate, fun _ => ?_, fun h => .inl (hcommit ▸ h), ?_⟩
  · rw [hcommit, hadmitted]
  · rcases heffects with hsame | ⟨number, hnumber⟩
    · exact .inl hsame
    · exact .inr ⟨.released number, hnumber, nofun, nofun⟩

/-- A step of an operation leaves the numbers and the closing of the program alone, and publishes only
what the gate admits. -/
theorem calibrationRunStep_frame (hmeets : MeetsGate choice (.run run) service)
    (hstep : calibrationRunStep choice run service = some (after, next)) :
    RunFrame run next service after := by
  unfold calibrationRunStep at hstep
  unfold MeetsGate at hmeets
  dsimp only at hmeets
  cases hphase : run.phase with
  | announcing =>
    rw [hphase] at hstep hmeets
    dsimp only at hstep
    split at hstep
    case isTrue hpublished =>
      obtain ⟨rfl, rfl⟩ := Prod.mk.inj (Option.some.inj hstep)
      refine ⟨rfl, rfl, rfl, rfl, rfl, fun _ => ?_, .inl, .inr ⟨_, rfl, nofun, fun _ => ?_⟩⟩
      · rw [hphase]
        rfl
      · exact .inr (hmeets hpublished)
    case isFalse =>
      obtain ⟨rfl, rfl⟩ := Prod.mk.inj (Option.some.inj hstep)
      exact .still (by rw [hphase]; rfl)
  | retracting error =>
    rw [hphase] at hstep
    obtain ⟨rfl, rfl⟩ := Prod.mk.inj (Option.some.inj hstep)
    have hreleased := @RunFrame.of_release service run (service.operation.bind fun operation =>
      if operation.reserved then some operation.number else none) (.withdrawn error)
      (by rw [hphase]; rfl)
    exact ⟨rfl, hreleased.begun, hreleased.closing, hreleased.closed, hreleased.gate,
      hreleased.admitted, hreleased.entering, hreleased.effects⟩
  | releasing held =>
    rw [hphase] at hstep
    obtain ⟨rfl, rfl⟩ := Prod.mk.inj (Option.some.inj hstep)
    exact .of_release (by rw [hphase]; rfl)
  | running | measured =>
    rw [hphase] at hstep
    obtain ⟨rfl, rfl⟩ := Prod.mk.inj (Option.some.inj hstep)
    split <;> exact .still (by rw [hphase]; rfl)
  | spawning | preparing =>
    rw [hphase] at hstep
    obtain ⟨rfl, rfl⟩ := Prod.mk.inj (Option.some.inj hstep)
    split <;> exact .still (by rw [hphase]; rfl)
  | measuring =>
    rw [hphase] at hstep
    obtain ⟨rfl, rfl⟩ := Prod.mk.inj (Option.some.inj hstep)
    exact .still (by rw [hphase]; rfl)
  | judging result =>
    rw [hphase] at hstep
    obtain ⟨rfl, rfl⟩ := Prod.mk.inj (Option.some.inj hstep)
    split
    · exact .still (by rw [hphase]; rfl)
    · refine .still ?_
      rw [hphase]
      unfold judgeResult
      cases result with
      | measured =>
        dsimp only
        split <;> rfl
      | cancelled | failed => rfl
  | asking ended =>
    rw [hphase] at hstep
    dsimp only at hstep
    split at hstep
    · obtain ⟨rfl, rfl⟩ := Prod.mk.inj (Option.some.inj hstep)
      exact .still (by rw [hphase]; rfl)
    case isFalse hopen =>
      obtain ⟨rfl, rfl⟩ := Prod.mk.inj (Option.some.inj hstep)
      obtain ⟨hgate, hcommit⟩ := Bool.or_eq_false_iff.mp (Bool.eq_false_iff.mpr hopen)
      refine ⟨rfl, rfl, rfl, rfl, rfl, fun _ => ?_, fun _ => .inr hgate, .inl rfl⟩
      rw [hphase, hcommit]
      rfl
  | askingCommit =>
    rw [hphase] at hstep
    dsimp only at hstep
    split at hstep
    · obtain ⟨rfl, rfl⟩ := Prod.mk.inj (Option.some.inj hstep)
      exact .still (by rw [hphase]; rfl)
    case isFalse hopen =>
      obtain ⟨rfl, rfl⟩ := Prod.mk.inj (Option.some.inj hstep)
      obtain ⟨hgate, hcommit⟩ := Bool.or_eq_false_iff.mp (Bool.eq_false_iff.mpr hopen)
      refine ⟨rfl, rfl, rfl, rfl, rfl, fun _ => ?_, fun _ => .inr hgate, .inl rfl⟩
      rw [hphase, hcommit]
      rfl
  | committing =>
    rw [hphase] at hstep
    dsimp only at hstep
    split at hstep <;> obtain ⟨rfl, rfl⟩ := Prod.mk.inj (Option.some.inj hstep)
    · refine ⟨rfl, rfl, rfl, rfl, rfl, fun _ => ?_, .inl, .inr ⟨_, rfl, nofun, fun _ => ?_⟩⟩
      · rw [hphase]
        rfl
      · rw [hphase]
        exact .inl rfl
    · exact .still (by rw [hphase]; rfl)
  | checking ended =>
    rw [hphase] at hstep
    obtain ⟨rfl, rfl⟩ := Prod.mk.inj (Option.some.inj hstep)
    split <;> exact .still (by rw [hphase]; rfl)
  | settling ended =>
    rw [hphase] at hstep
    dsimp only at hstep
    split at hstep <;> obtain ⟨rfl, rfl⟩ := Prod.mk.inj (Option.some.inj hstep)
    · exact .still (by rw [hphase]; rfl)
    · refine ⟨rfl, rfl, rfl, rfl, rfl, fun _ => ?_, .inl, .inl rfl⟩
      rw [hphase]
      rfl
  | publishing ended held =>
    rw [hphase] at hstep
    obtain ⟨rfl, rfl⟩ := Prod.mk.inj (Option.some.inj hstep)
    split
    · refine ⟨rfl, rfl, rfl, rfl, rfl, fun _ => ?_, .inl, .inr ⟨_, rfl, nofun, fun _ => ?_⟩⟩
      · rw [hphase]
        rfl
      · rw [hphase]
        exact .inl rfl
    · exact .still (by rw [hphase]; rfl)
  | yielding =>
    rw [hphase] at hstep
    obtain ⟨rfl, rfl⟩ := Prod.mk.inj (Option.some.inj hstep)
    refine ⟨rfl, rfl, rfl, rfl, rfl, fun h => ?_, nofun, .inl rfl⟩
    rw [h (by rw [hphase]; rfl), hphase]
    rfl
  | withdrawn | «over» =>
    rw [hphase] at hstep
    cases hstep

/-- What the service knows of a shutdown. -/
def CalibrationShutdownPhase.Fits (service : CalibrationService) : CalibrationShutdownPhase → Prop
  | .closingActivity => True
  | .closingService | .closingGate => service.activity.closing = true
  | .draining => service.activity.closing = true ∧ service.publicationClosing = true
  | .containing | .waiting _ | .returned =>
    service.activity.closing = true ∧ service.publicationClosing = true ∧
      service.commitInProgress = false

/-- Nothing becomes public after the end of a shutdown. -/
def Quiet (effects : List CalibrationEffect) : Prop :=
  effects.Pairwise fun earlier later => earlier = .shutdown → later.isPublic = false

/-- Whether an operation has been recorded under a number. -/
def CalibrationService.issued (service : CalibrationService) (number : ℕ) : ℕ :=
  if number < service.begun then 1 else 0

/-- What a step of a call does in any case. -/
structure CallFrame (call next : CalibrationCall) (service after : CalibrationService) : Prop where
  numbers : ∀ number, (next.hasNumber number).toNat + service.issued number =
    (call.hasNumber number).toNat + after.issued number
  begun : service.begun ≤ after.begun
  closing : service.activity.closing = true → after.activity.closing = true
  gate : service.publicationClosing = true → after.publicationClosing = true
  closed : after.closed = true ∨ after.publicationClosing = true →
    service.closed = true ∨ service.publicationClosing = true ∨ after.activity.closing = true
  fits : ∀ phase, next = .shutdown phase → phase.Fits after
  admitted : (call.admitted = true → service.commitInProgress = true) →
    after.commitInProgress.toNat + call.admitted.toNat =
      service.commitInProgress.toNat + next.admitted.toNat
  entering : after.commitInProgress = true →
    service.commitInProgress = true ∨ service.publicationClosing = false
  effects : ∃ added, after.effects = service.effects ++ added ∧ Quiet added ∧
    (∀ effect ∈ added, effect.isPublic = true → call.admitted = true ∨ .shutdown ∉ service.effects) ∧
      (.shutdown ∈ added → service.publicationClosing = true ∧ service.commitInProgress = false)

variable {call moved : CalibrationCall}

/-- A step of a call that changes neither the gate nor the effects. -/
theorem CallFrame.still (hnumbers : ∀ number, moved.hasNumber number = call.hasNumber number)
    (hbegun : after.begun = service.begun)
    (hclosing : after.activity.closing = service.activity.closing)
    (hclosed : after.closed = service.closed)
    (hgate : after.publicationClosing = service.publicationClosing)
    (hcommit : after.commitInProgress = service.commitInProgress)
    (heffects : after.effects = service.effects)
    (hfits : ∀ phase, moved ≠ .shutdown phase) (hadmitted : moved.admitted = call.admitted) :
    CallFrame call moved service after where
  numbers number := by
    unfold CalibrationService.issued
    rw [hnumbers, hbegun]
  begun := hbegun.ge
  closing h := hclosing.trans h
  gate h := hgate.trans h
  closed h := by
    rw [hclosed, hgate] at h
    exact h.elim .inl fun hshut => .inr (.inl hshut)
  fits phase h := absurd h (hfits phase)
  admitted _ := by rw [hcommit, hadmitted]
  entering h := .inl (hcommit ▸ h)
  effects := ⟨[], by rw [heffects, List.append_nil], List.Pairwise.nil, nofun, nofun⟩

/-- What a step of an operation does is what its call does. -/
theorem RunFrame.callFrame (h : RunFrame run next service after) :
    CallFrame (.run run) (.run next) service after where
  numbers number := by
    unfold CalibrationService.issued CalibrationCall.hasNumber
    dsimp only
    rw [h.number, h.begun]
  begun := h.begun.ge
  closing hclosing := h.closing.trans hclosing
  gate hgate := h.gate.trans hgate
  closed hclosed := by
    rw [h.closed, h.gate] at hclosed
    exact hclosed.elim .inl fun hshut => .inr (.inl hshut)
  fits := nofun
  admitted := h.admitted
  entering := h.entering
  effects := by
    rcases h.effects with hsame | ⟨effect, hadded, hne, hpublic⟩
    · exact ⟨[], by rw [hsame, List.append_nil], List.Pairwise.nil, nofun, nofun⟩
    · refine ⟨[effect], hadded, List.pairwise_singleton _ _, fun added hmem => ?_, fun hmem => ?_⟩
      · rw [List.mem_singleton.mp hmem]
        exact hpublic
      · exact absurd (List.mem_singleton.mp hmem).symm hne

/-- A step of a shutdown. -/
theorem shutdownStep_frame {phase later : CalibrationShutdownPhase} (hfits : phase.Fits service)
    (hstep : calibrationShutdownStep choice phase service = some (after, later)) :
    CallFrame (.shutdown phase) (.shutdown later) service after := by
  unfold calibrationShutdownStep at hstep
  cases phase with
  | closingActivity =>
    obtain ⟨rfl, rfl⟩ := Prod.mk.inj (Option.some.inj hstep)
    refine ⟨fun _ => rfl, le_rfl, fun _ => rfl, id, fun _ => .inr (.inr rfl), fun _ h => ?_,
      fun _ => rfl, .inl, ⟨[], (List.append_nil _).symm, List.Pairwise.nil, nofun, nofun⟩⟩
    obtain rfl := CalibrationCall.shutdown.inj h
    exact rfl
  | closingService =>
    obtain ⟨rfl, rfl⟩ := Prod.mk.inj (Option.some.inj hstep)
    refine ⟨fun _ => rfl, le_rfl, id, id, fun _ => .inr (.inr hfits), fun _ h => ?_,
      fun _ => rfl, .inl, ⟨[], (List.append_nil _).symm, List.Pairwise.nil, nofun, nofun⟩⟩
    obtain rfl := CalibrationCall.shutdown.inj h
    exact hfits
  | closingGate =>
    obtain ⟨rfl, rfl⟩ := Prod.mk.inj (Option.some.inj hstep)
    refine ⟨fun _ => rfl, le_rfl, id, fun _ => rfl, fun _ => .inr (.inr hfits), fun _ h => ?_,
      fun _ => rfl, .inl, ⟨[], (List.append_nil _).symm, List.Pairwise.nil, nofun, nofun⟩⟩
    obtain rfl := CalibrationCall.shutdown.inj h
    exact ⟨hfits, rfl⟩
  | draining =>
    dsimp only at hstep
    split at hstep
    case isTrue hidle =>
      obtain ⟨rfl, rfl⟩ := Prod.mk.inj (Option.some.inj hstep)
      refine ⟨fun _ => rfl, le_rfl, id, id, fun _ => .inr (.inr hfits.1), fun _ h => ?_,
        fun _ => rfl, .inl, ⟨[], (List.append_nil _).symm, List.Pairwise.nil, nofun, nofun⟩⟩
      obtain rfl := CalibrationCall.shutdown.inj h
      exact ⟨hfits.1, hfits.2, hidle⟩
    case isFalse =>
      split at hstep
      · obtain ⟨rfl, rfl⟩ := Prod.mk.inj (Option.some.inj hstep)
        refine ⟨fun _ => rfl, le_rfl, id, id, fun _ => .inr (.inr hfits.1), fun _ h => ?_,
          fun _ => rfl, .inl, ⟨[], (List.append_nil _).symm, List.Pairwise.nil, nofun, nofun⟩⟩
        obtain rfl := CalibrationCall.shutdown.inj h
        exact hfits
      · cases hstep
  | containing =>
    obtain ⟨rfl, rfl⟩ := Prod.mk.inj (Option.some.inj hstep)
    unfold CalibrationService.contain
    split
    all_goals
      refine ⟨fun _ => rfl, le_rfl, id, id, fun _ => .inr (.inr hfits.1), fun _ h => ?_,
        fun _ => rfl, .inl, ⟨[], (List.append_nil _).symm, List.Pairwise.nil, nofun, nofun⟩⟩
      obtain rfl := CalibrationCall.shutdown.inj h
      exact hfits
  | waiting held =>
    obtain ⟨rfl, rfl⟩ := Prod.mk.inj (Option.some.inj hstep)
    obtain ⟨hclosing, hgate, hcommit⟩ := hfits
    cases held with
    | none =>
      refine ⟨fun _ => rfl, le_rfl, id, id, fun _ => .inr (.inr hclosing), fun _ h => ?_,
        fun _ => rfl, .inl, ⟨[.shutdown], rfl, List.pairwise_singleton _ _, ?_, fun _ => ⟨hgate, hcommit⟩⟩⟩
      · obtain rfl := CalibrationCall.shutdown.inj h
        exact ⟨hclosing, hgate, hcommit⟩
      · intro effect hmem hpublic
        rw [List.mem_singleton.mp hmem] at hpublic
        cases hpublic
    | some number =>
      refine ⟨fun _ => rfl, le_rfl, id, id, fun _ => .inr (.inr hclosing), fun _ h => ?_,
        fun _ => rfl, .inl, ⟨[.released number, .shutdown], List.append_assoc _ _ _, ?_, ?_,
          fun _ => ⟨hgate, hcommit⟩⟩⟩
      · obtain rfl := CalibrationCall.shutdown.inj h
        exact ⟨hclosing, hgate, hcommit⟩
      · exact List.pairwise_pair.mpr nofun
      · intro effect hmem hpublic
        rcases List.mem_pair.mp hmem with rfl | rfl <;> cases hpublic
  | returned => cases hstep

/-- An operation is recorded only when the physical input is free and no operation goes on. -/
theorem reserve_eq_ok {operationId : String} :
    service.reserve operationId = .ok after ↔
      service.busy = false ∧ service.activity.Free ∧ after = { service with
        activity := { service.activity with calibrationActive := true }
        operation := some ⟨service.begun, operationId, .running, true⟩
        begun := service.begun + 1 } := by
  unfold CalibrationService.reserve CalibrationService.busy
  cases service.operation.any fun operation => operation.state.isActive with
  | true => simp
  | false =>
    rw [if_neg (by decide)]
    cases hreserved : service.activity.reserveCalibration with
    | ok activity =>
      obtain ⟨hfree, rfl⟩ := ActivityState.reserveCalibration_eq_ok.mp hreserved
      constructor
      · intro h
        exact ⟨rfl, hfree, (Except.ok.inj h).symm⟩
      · rintro ⟨-, -, rfl⟩
        rfl
    | error error =>
      refine ⟨nofun, fun ⟨_, hfree, _⟩ => ?_⟩
      rw [ActivityState.reserveCalibration_eq_ok.mpr ⟨hfree, rfl⟩] at hreserved
      cases hreserved

/-- A step of a start records an operation, or changes nothing. -/
theorem calibrationStartStep_cases {request : CalibrationStartRequest} {phase : CalibrationStartPhase}
    (hstep : calibrationStartStep choice request phase service = some (after, moved)) :
    (after = service ∧ ∃ later, moved = .start request later) ∨
      ∃ operationId, service.reserve operationId = .ok after ∧
        moved = .run ⟨request, operationId, service.begun, .announcing⟩ := by
  unfold calibrationStartStep at hstep
  cases phase with
  | validating =>
    obtain ⟨rfl, rfl⟩ := Prod.mk.inj (Option.some.inj hstep)
    exact .inl ⟨rfl, _, rfl⟩
  | reserving operationId =>
    dsimp only at hstep
    split at hstep
    case h_1 reserved hreserved =>
      obtain ⟨rfl, rfl⟩ := Prod.mk.inj (Option.some.inj hstep)
      exact .inr ⟨operationId, hreserved, rfl⟩
    case h_2 =>
      obtain ⟨rfl, rfl⟩ := Prod.mk.inj (Option.some.inj hstep)
      exact .inl ⟨rfl, _, rfl⟩
  | rejected => cases hstep

/-- What a cancellation keeps of the recorded operation. -/
structure OperationKept (before after : Option CalibrationOperation) : Prop where
  active : after.any (fun operation => operation.state.isActive) =
    before.any fun operation => operation.state.isActive
  kept : ∀ recorded ∈ before, recorded.state.isActive = true →
    ∃ kept ∈ after, kept.number = recorded.number ∧ kept.operationId = recorded.operationId ∧
      kept.state.isActive = true ∧ kept.reserved = recorded.reserved
  stated : ∀ operation ∈ after, operation ∈ before ∨ operation.state.isActive = true

/-- Nothing is lost of an operation that stays. -/
theorem OperationKept.refl {operation : Option CalibrationOperation} :
    OperationKept operation operation :=
  ⟨rfl, fun recorded hrecorded hactive => ⟨recorded, hrecorded, rfl, rfl, hactive, rfl⟩, fun _ => .inl⟩

/-- A cancellation touches neither the activity nor the gate, and an operation that goes on stays the
recorded one. -/
theorem cancel_frame {operationId : String} :
    ∃ operation cancelled, (service.cancel operationId).1 =
      { service with operation := operation, cancelled := cancelled } ∧
        OperationKept service.operation operation := by
  have hsame : ∃ operation cancelled, service =
      { service with operation := operation, cancelled := cancelled } ∧
        OperationKept service.operation operation :=
    ⟨service.operation, service.cancelled, rfl, .refl⟩
  unfold CalibrationService.cancel
  cases hoperation : service.operation with
  | none =>
    rw [hoperation] at hsame
    exact hsame
  | some recorded =>
    rw [hoperation] at hsame
    dsimp only
    split
    · exact hsame
    · split
      case isTrue hgoing =>
        refine ⟨some { recorded with state := .cancelling }, recorded.number :: service.cancelled, rfl,
          ?_, fun found hfound _ => ?_, fun kept hkept => .inr ?_⟩
        · rcases hgoing with hstate | hstate <;> rw [Option.any_some, Option.any_some, hstate] <;> rfl
        · obtain rfl := Option.some.inj hfound
          exact ⟨_, rfl, rfl, rfl, rfl, rfl⟩
        · obtain rfl := Option.some.inj hkept
          rfl
      · split <;> exact hsame

/-- Another owner of the physical input touches no calibration. -/
theorem reservation_frame {activity changed : ActivityState} {phase later : ReservationPhase}
    {sessionId : String}
    (h : phase.step (ActivityState.reservePlayback sessionId)
          (ActivityState.releasePlayback sessionId) activity = some (changed, later) ∨
      phase.step ActivityState.reserveUpdate ActivityState.releaseUpdate activity =
        some (changed, later)) :
    changed.calibrationActive = activity.calibrationActive ∧ changed.closing = activity.closing := by
  rcases h with hplayback | hupdate
  · rcases ReservationPhase.step_cases hplayback with
      ⟨-, hgranted, -⟩ | ⟨-, rfl, -⟩ | ⟨-, rfl, -⟩
    · obtain ⟨-, rfl⟩ := ActivityState.reservePlayback_eq_ok.mp hgranted
      exact ⟨rfl, rfl⟩
    · exact ⟨rfl, rfl⟩
    · unfold ActivityState.releasePlayback
      split <;> exact ⟨rfl, rfl⟩
  · rcases ReservationPhase.step_cases hupdate with ⟨-, hgranted, -⟩ | ⟨-, rfl, -⟩ | ⟨-, rfl, -⟩
    · obtain ⟨-, rfl⟩ := ActivityState.reserveUpdate_eq_ok.mp hgranted
      exact ⟨rfl, rfl⟩
    · exact ⟨rfl, rfl⟩
    · exact ⟨rfl, rfl⟩

/-- What a step of any call does in any case. -/
theorem calibrationStep_frame (hmeets : MeetsGate choice call service)
    (hfits : ∀ phase, call = .shutdown phase → phase.Fits service)
    (hstep : calibrationStep choice call service = some (after, moved)) :
    CallFrame call moved service after := by
  unfold calibrationStep at hstep
  split at hstep
  · cases hstep
  · cases call with
    | start request phase =>
      rcases calibrationStartStep_cases hstep with ⟨rfl, later, rfl⟩ | ⟨operationId, hreserved, rfl⟩
      · exact .still (fun _ => rfl) rfl rfl rfl rfl rfl rfl nofun rfl
      · obtain ⟨-, -, rfl⟩ := reserve_eq_ok.mp hreserved
        refine ⟨fun number => ?_, Nat.le_succ _, id, id, ?_, nofun, fun _ => rfl, .inl,
          ⟨[], (List.append_nil _).symm, List.Pairwise.nil, nofun, nofun⟩⟩
        · unfold CalibrationService.issued CalibrationCall.hasNumber
          dsimp only
          by_cases hsame : service.begun = number
          · simp [hsame]
          · rw [decide_eq_false hsame]
            split <;> split <;> simp <;> omega
        · exact fun h => h.elim .inl fun hgate => .inr (.inl hgate)
    | run run =>
      obtain ⟨⟨shared, next⟩, hmoved, hpair⟩ := Option.map_eq_some_iff.mp hstep
      obtain ⟨rfl, rfl⟩ := Prod.mk.inj hpair
      exact (calibrationRunStep_frame hmeets hmoved).callFrame
    | cancel operationId result =>
      cases result with
      | none =>
        obtain ⟨rfl, rfl⟩ := Prod.mk.inj (Option.some.inj hstep)
        obtain ⟨operation, cancelled, hcancelled, -⟩ := @cancel_frame service operationId
        rw [hcancelled]
        exact .still (fun _ => rfl) rfl rfl rfl rfl rfl rfl nofun rfl
      | some => cases hstep
    | shutdown phase =>
      obtain ⟨⟨shared, later⟩, hmoved, hpair⟩ := Option.map_eq_some_iff.mp hstep
      obtain ⟨rfl, rfl⟩ := Prod.mk.inj hpair
      exact shutdownStep_frame (hfits phase rfl) hmoved
    | playback sessionId phase =>
      obtain ⟨⟨activity, later⟩, hmoved, hpair⟩ := Option.map_eq_some_iff.mp hstep
      obtain ⟨rfl, rfl⟩ := Prod.mk.inj hpair
      exact .still (fun _ => rfl) rfl (reservation_frame (.inl hmoved)).2 rfl rfl rfl rfl nofun rfl
    | update phase =>
      obtain ⟨⟨activity, later⟩, hmoved, hpair⟩ := Option.map_eq_some_iff.mp hstep
      obtain ⟨rfl, rfl⟩ := Prod.mk.inj hpair
      exact .still (fun _ => rfl) rfl (@reservation_frame _ _ _ _ "" (.inr hmoved)).2 rfl rfl rfl rfl
        nofun rfl

/-- What holds of the service and its calls in any case. -/
structure Gated (service : CalibrationService) (calls : List CalibrationCall) : Prop where
  numbers : ∀ number, calls.countP (CalibrationCall.hasNumber number) = service.issued number
  admitted : calls.countP CalibrationCall.admitted = service.commitInProgress.toNat
  fits : ∀ phase, .shutdown phase ∈ calls → phase.Fits service
  closes : service.closed = true ∨ service.publicationClosing = true →
    service.activity.closing = true
  ended : .shutdown ∈ service.effects →
    service.publicationClosing = true ∧ service.commitInProgress = false
  quiet : Quiet service.effects

/-- A shutdown stays as far as it is. -/
theorem CallFrame.fits_kept (h : CallFrame call moved service after)
    {phase : CalibrationShutdownPhase} (hfits : phase.Fits service) : phase.Fits after := by
  have hcommit (hgate : service.publicationClosing = true) (hidle : service.commitInProgress = false) :
      after.commitInProgress = false := by
    refine Bool.eq_false_iff.mpr fun hcommit => ?_
    rcases h.entering hcommit with hbefore | hopen
    · rw [hidle] at hbefore
      cases hbefore
    · rw [hgate] at hopen
      cases hopen
  cases phase with
  | closingActivity => trivial
  | closingService | closingGate => exact h.closing hfits
  | draining => exact ⟨h.closing hfits.1, h.gate hfits.2⟩
  | containing | waiting | returned =>
    exact ⟨h.closing hfits.1, h.gate hfits.2.1, hcommit hfits.2.1 hfits.2.2⟩

variable {calls : List CalibrationCall} {index : ℕ}

/-- An admitted call keeps the gate. -/
theorem Gated.commit_of_admitted (h : Gated service calls) (hcall : call ∈ calls)
    (hadmitted : call.admitted = true) : service.commitInProgress = true := by
  have hpositive : 0 < calls.countP CalibrationCall.admitted :=
    List.countP_pos_iff.mpr ⟨call, hcall, hadmitted⟩
  rw [h.admitted] at hpositive
  cases hcommit : service.commitInProgress with
  | true => rfl
  | false =>
    rw [hcommit] at hpositive
    cases hpositive

/-- A step keeps the gate in order. -/
theorem Gated.step (h : Gated service calls) (hcall : calls[index]? = some call)
    (hmeets : MeetsGate choice call service)
    (hstep : calibrationStep choice call service = some (after, moved)) :
    Gated after (calls.set index moved) := by
  have hmem := List.mem_of_getElem? hcall
  have hframe := calibrationStep_frame hmeets (fun phase hphase => h.fits phase (hphase ▸ hmem)) hstep
  obtain ⟨added, heffects, haddedQuiet, hpublic, hended⟩ := hframe.effects
  have hstopped : .shutdown ∈ after.effects →
      service.publicationClosing = true ∧ service.commitInProgress = false := by
    intro hshutdown
    rw [heffects] at hshutdown
    rcases List.mem_append.mp hshutdown with hold | hnew
    · exact h.ended hold
    · exact hended hnew
  constructor
  · intro number
    have hcount := @countP_set_add _ calls index call moved (CalibrationCall.hasNumber number) hcall
    have hbefore := h.numbers number
    have hnumbers := hframe.numbers number
    omega
  · have hcount := @countP_set_add _ calls index call moved CalibrationCall.admitted hcall
    have hbefore := h.admitted
    have hadmitted := hframe.admitted fun hcallAdmitted => h.commit_of_admitted hmem hcallAdmitted
    omega
  · intro phase hphase
    rcases List.mem_or_eq_of_mem_set hphase with hold | hnew
    · exact hframe.fits_kept (h.fits phase hold)
    · exact hframe.fits phase hnew.symm
  · intro hclosed
    rcases hframe.closed hclosed with hbefore | hbefore | hafter
    · exact hframe.closing (h.closes (.inl hbefore))
    · exact hframe.closing (h.closes (.inr hbefore))
    · exact hafter
  · intro hshutdown
    obtain ⟨hgate, hcommit⟩ := hstopped hshutdown
    refine ⟨hframe.gate hgate, Bool.eq_false_iff.mpr fun hcommitted => ?_⟩
    rcases hframe.entering hcommitted with hbefore | hopen
    · rw [hcommit] at hbefore
      cases hbefore
    · rw [hgate] at hopen
      cases hopen
  · rw [heffects]
    refine List.pairwise_append.mpr ⟨h.quiet, haddedQuiet, fun earlier hearlier later hlater hsame => ?_⟩
    refine Bool.eq_false_iff.mpr fun hlaterPublic => ?_
    have hshutdown : .shutdown ∈ service.effects := hsame ▸ hearlier
    rcases hpublic later hlater hlaterPublic with hadmitted | hnone
    · have hcommit := h.commit_of_admitted hmem hadmitted
      rw [(h.ended hshutdown).2] at hcommit
      cases hcommit
    · exact hnone hshutdown

/-- A call that begins keeps the gate in order. -/
theorem Gated.begin (h : Gated service calls) (op : CalibrationOp) :
    Gated service (calls ++ [calibrationStart op]) := by
  refine ⟨fun number => ?_, ?_, fun phase hphase => ?_, h.closes, h.ended, h.quiet⟩
  · rw [List.countP_append, h.numbers, List.countP_singleton]
    cases op <;> rfl
  · rw [List.countP_append, h.admitted, List.countP_singleton]
    cases op <;> rfl
  · rcases List.mem_append.mp hphase with hold | hnew
    · exact h.fits phase hold
    · have hbegun := List.mem_singleton.mp hnew
      cases op <;> cases hbegun
      trivial

end SkyAutoPlayer.Desktop
