import SkyAutoPlayer.Desktop.CalibrationEnds

/-!
# The order of calibrations

While the program does not close, exactly one call holds the reservation that the activity records, and
exactly one has an operation that goes on while the service records one. What the service knows of an
operation that has ended is then settled for good, and nothing that has ended keeps the physical input
from a later owner.
-/

namespace SkyAutoPlayer.Desktop

open Foundation

variable {service after : CalibrationService} {run next : CalibrationRun} {choice : CalibrationChoice}
  {call moved : CalibrationCall} {calls : List CalibrationCall} {index : ℕ}

/-- What holds of the service and its calls while the program does not close. -/
structure OpenOrder (service : CalibrationService) (calls : List CalibrationCall) : Prop where
  holding : calls.countP CalibrationCall.holding = service.activity.calibrationActive.toNat
  pending : calls.countP CalibrationCall.pending = service.busy.toNat
  placed : ∀ run, .run run ∈ calls → run.Placed service
  fresh : ∀ number, service.begun ≤ number →
    service.released number = 0 ∧ service.finished number = 0
  stated : ∀ operation ∈ service.operation,
    operation.state.isActive = true ∨ operation.state.isTerminal = true

/-- An operation has been recorded under the number of every run. -/
theorem Gated.number_lt (h : Gated service calls) (hrun : .run run ∈ calls) :
    run.number < service.begun := by
  have hpositive : 0 < calls.countP (CalibrationCall.hasNumber run.number) :=
    List.countP_pos_iff.mpr ⟨.run run, hrun, decide_eq_true rfl⟩
  rw [h.numbers, CalibrationService.issued] at hpositive
  split at hpositive
  case isTrue hlt => exact hlt
  case isFalse => cases hpositive

/-- Two runs at two places have two numbers. -/
theorem Gated.number_ne (h : Gated service calls) {other : ℕ} {found : CalibrationRun}
    (hrun : calls[index]? = some (.run run)) (hfound : calls[other]? = some (.run found))
    (hne : index ≠ other) : found.number ≠ run.number := by
  intro hsame
  have hcount : calls.countP (CalibrationCall.hasNumber run.number) ≤ 1 := by
    rw [h.numbers, CalibrationService.issued]
    split <;> omega
  exact hne (eq_of_countP_le_one hcount hrun (decide_eq_true rfl) hfound (decide_eq_true hsame))

/-- The gate is open while the program does not close. -/
theorem Gated.gate_open (h : Gated service calls) (hopen : service.activity.closing = false) :
    service.closed = false ∧ service.publicationClosing = false := by
  constructor
  · apply Bool.eq_false_iff.mpr
    intro hclosed
    rw [h.closes (.inl hclosed)] at hopen
    cases hopen
  · apply Bool.eq_false_iff.mpr
    intro hgate
    rw [h.closes (.inr hgate)] at hopen
    cases hopen

/-- The activity records the reservation that a call holds. -/
theorem OpenOrder.active_of_holding (h : OpenOrder service calls) (hcall : call ∈ calls)
    (hholding : call.holding = true) : service.activity.calibrationActive = true := by
  have hpositive : 0 < calls.countP CalibrationCall.holding :=
    List.countP_pos_iff.mpr ⟨call, hcall, hholding⟩
  rw [h.holding] at hpositive
  cases hactive : service.activity.calibrationActive with
  | true => rfl
  | false =>
    rw [hactive] at hpositive
    cases hpositive

/-- A call holds the reservation that the activity records. -/
theorem OpenOrder.holding_of_active (h : OpenOrder service calls)
    (hactive : service.activity.calibrationActive = true) :
    ∃ run, .run run ∈ calls ∧ run.phase.holding = true := by
  have hcount := h.holding
  rw [hactive] at hcount
  obtain ⟨call, hcall, hholding⟩ := List.countP_pos_iff.mp (by rw [hcount]; exact Nat.one_pos)
  cases call with
  | run run => exact ⟨run, hcall, hholding⟩
  | start | cancel | shutdown | playback | update => cases hholding

/-- A call has the operation that goes on. -/
theorem OpenOrder.pending_of_busy (h : OpenOrder service calls) (hbusy : service.busy = true) :
    ∃ run, .run run ∈ calls ∧ run.phase.pending = true := by
  have hcount := h.pending
  rw [hbusy] at hcount
  obtain ⟨call, hcall, hpending⟩ := List.countP_pos_iff.mp (by rw [hcount]; exact Nat.one_pos)
  cases call with
  | run run => exact ⟨run, hcall, hpending⟩
  | start | cancel | shutdown | playback | update => cases hpending

/-- At most one operation goes on. -/
theorem OpenOrder.pending_le (h : OpenOrder service calls) :
    calls.countP CalibrationCall.pending ≤ 1 := by
  rw [h.pending]
  exact Bool.toNat_le service.busy

/-- What the service knows of an operation stays while no count of it changes and its operation is
kept. -/
theorem CalibrationRun.Placed.kept (h : run.Placed service)
    (hreleased : after.released run.number = service.released run.number)
    (hfinished : after.finished run.number = service.finished run.number)
    (hoperation : run.phase.pending = true → OperationKept service.operation after.operation) :
    run.Placed after where
  pending hpending := by
    obtain ⟨recorded, hrecorded, hnumber, hid, hactive, hreserved⟩ := h.pending hpending
    obtain ⟨kept, hkept, hkeptNumber, hkeptId, hkeptActive, hkeptReserved⟩ :=
      (hoperation hpending).kept recorded hrecorded hactive
    exact ⟨kept, hkept, hkeptNumber.trans hnumber, hkeptId.trans hid, hkeptActive,
      hkeptReserved.trans hreserved⟩
  held := h.held
  terminal := h.terminal
  released := hreleased.trans h.released
  finished := hfinished ▸ h.finished

/-- A step of an operation keeps the order. -/
theorem OpenOrder.run_step (h : OpenOrder service calls) (hgated : Gated service calls)
    (hopen : service.activity.closing = false) (hcall : calls[index]? = some (.run run))
    (hmeets : MeetsGate choice (.run run) service)
    (hstep : calibrationRunStep choice run service = some (after, next)) :
    OpenOrder after (calls.set index (.run next)) := by
  have hmem := List.mem_of_getElem? hcall
  obtain ⟨hclosed, hgate⟩ := hgated.gate_open hopen
  have hmoves := calibrationRunStep_moves (h.placed run hmem) hclosed hgate hopen hmeets
    (h.active_of_holding hmem) hstep
  have hframe := calibrationRunStep_frame hmeets hstep
  constructor
  · have hcount := @countP_set_add _ calls index _ (.run next) CalibrationCall.holding hcall
    have hbefore := h.holding
    have hholding := hmoves.holding
    simp only [CalibrationCall.holding] at hcount
    omega
  · have hcount := @countP_set_add _ calls index _ (.run next) CalibrationCall.pending hcall
    have hbefore := h.pending
    have hpending := hmoves.pending
    simp only [CalibrationCall.pending] at hcount
    omega
  · intro found hfound
    obtain ⟨other, hother⟩ := List.mem_iff_getElem?.mp hfound
    by_cases hsame : index = other
    · rw [← hsame, List.getElem?_set_self (List.getElem?_eq_some_iff.mp hcall).1] at hother
      obtain rfl := CalibrationCall.run.inj (Option.some.inj hother)
      exact hmoves.placed
    · rw [List.getElem?_set_ne hsame] at hother
      obtain ⟨hreleased, hfinished⟩ :=
        hmoves.others found.number (hgated.number_ne hcall hother hsame)
      refine (h.placed found (List.mem_of_getElem? hother)).kept hreleased hfinished fun hpending => ?_
      rcases hmoves.operation with hrunning | hoperation
      · exact absurd (eq_of_countP_le_one h.pending_le hcall hrunning hother hpending) hsame
      · rw [hoperation]
        exact .refl
  · intro number hnumber
    rw [hframe.begun] at hnumber
    have hlt := hgated.number_lt hmem
    obtain ⟨hreleased, hfinished⟩ := hmoves.others number (by omega)
    rw [hreleased, hfinished]
    exact h.fresh number hnumber
  · intro operation hoperation
    rcases hmoves.stated operation hoperation with hbefore | hterminal
    · exact h.stated operation hbefore
    · exact .inr hterminal

/-- A step of a call that has no operation keeps the order, while it touches no calibration. -/
theorem OpenOrder.aside (h : OpenOrder service calls) (hcall : calls[index]? = some call)
    (hbefore : ∀ run, call ≠ .run run) (hafter : ∀ run, moved ≠ .run run)
    (hactive : after.activity.calibrationActive = service.activity.calibrationActive)
    (hoperation : OperationKept service.operation after.operation)
    (hbegun : after.begun = service.begun) (heffects : after.effects = service.effects) :
    OpenOrder after (calls.set index moved) := by
  have hreleased (number : ℕ) : after.released number = service.released number := by
    rw [CalibrationService.released, heffects, CalibrationService.released]
  have hfinished (number : ℕ) : after.finished number = service.finished number := by
    rw [CalibrationService.finished, heffects, CalibrationService.finished]
  have hbusy : after.busy = service.busy := hoperation.active
  have hidle {other : CalibrationCall} (hother : ∀ run, other ≠ .run run) :
      other.holding = false ∧ other.pending = false := by
    cases other with
    | run run => exact absurd rfl (hother run)
    | start | cancel | shutdown | playback | update => exact ⟨rfl, rfl⟩
  constructor
  · rw [countP_set_of_eq hcall ((hidle hafter).1.trans (hidle hbefore).1.symm), h.holding, hactive]
  · rw [countP_set_of_eq hcall ((hidle hafter).2.trans (hidle hbefore).2.symm), h.pending, hbusy]
  · intro run hrun
    rcases List.mem_or_eq_of_mem_set hrun with hold | hnew
    · exact (h.placed run hold).kept (hreleased run.number) (hfinished run.number) fun _ => hoperation
    · exact absurd hnew.symm (hafter run)
  · intro number hnumber
    rw [hreleased, hfinished]
    exact h.fresh number (hbegun ▸ hnumber)
  · intro operation hstated
    rcases hoperation.stated operation hstated with hold | hgoing
    · exact h.stated operation hold
    · exact .inl hgoing

/-- An operation that is recorded keeps the order. -/
theorem OpenOrder.reserve (h : OpenOrder service calls) {request : CalibrationStartRequest}
    {phase : CalibrationStartPhase} {operationId : String}
    (hcall : calls[index]? = some (.start request phase))
    (hreserved : service.reserve operationId = .ok after) :
    OpenOrder after
      (calls.set index (.run ⟨request, operationId, service.begun, .announcing⟩)) := by
  obtain ⟨hbusy, hfree, rfl⟩ := reserve_eq_ok.mp hreserved
  obtain ⟨hreleased, hfinished⟩ := h.fresh service.begun le_rfl
  constructor
  · have hcount := @countP_set_add _ calls index _
      (.run ⟨request, operationId, service.begun, .announcing⟩) CalibrationCall.holding hcall
    rw [h.holding, hfree.calibration] at hcount
    exact hcount
  · have hcount := @countP_set_add _ calls index _
      (.run ⟨request, operationId, service.begun, .announcing⟩) CalibrationCall.pending hcall
    rw [h.pending, hbusy] at hcount
    exact hcount
  · intro run hrun
    rcases List.mem_or_eq_of_mem_set hrun with hold | hnew
    · refine (h.placed run hold).kept rfl rfl fun hpending => ?_
      -- no operation goes on when one is recorded
      have hpositive : 0 < calls.countP CalibrationCall.pending :=
        List.countP_pos_iff.mpr ⟨.run run, hold, hpending⟩
      rw [h.pending, hbusy] at hpositive
      cases hpositive
    · obtain rfl := CalibrationCall.run.inj hnew
      refine ⟨fun _ => ⟨_, rfl, rfl, rfl, rfl, rfl⟩, nofun, nofun, hreleased, ?_⟩
      exact hfinished.le
  · intro number hnumber
    exact h.fresh number (Nat.le_of_succ_le hnumber)
  · intro operation hoperation
    obtain rfl := Option.some.inj hoperation
    exact .inl rfl

/-- A step of a call keeps the order, unless it begins to close the program. -/
theorem OpenOrder.step (h : OpenOrder service calls) (hgated : Gated service calls)
    (hopen : service.activity.closing = false) (hafter : after.activity.closing = false)
    (hcall : calls[index]? = some call) (hmeets : MeetsGate choice call service)
    (hstep : calibrationStep choice call service = some (after, moved)) :
    OpenOrder after (calls.set index moved) := by
  unfold calibrationStep at hstep
  split at hstep
  · cases hstep
  · cases call with
    | start request phase =>
      rcases calibrationStartStep_cases hstep with ⟨rfl, later, rfl⟩ | ⟨operationId, hreserved, rfl⟩
      · exact h.aside hcall (by simp) (by simp) rfl .refl rfl rfl
      · exact h.reserve hcall hreserved
    | run run =>
      obtain ⟨⟨shared, next⟩, hmoved, hpair⟩ := Option.map_eq_some_iff.mp hstep
      obtain ⟨rfl, rfl⟩ := Prod.mk.inj hpair
      exact h.run_step hgated hopen hcall hmeets hmoved
    | cancel operationId result =>
      cases result with
      | none =>
        obtain ⟨rfl, rfl⟩ := Prod.mk.inj (Option.some.inj hstep)
        obtain ⟨operation, cancelled, hcancelled, hkept⟩ := @cancel_frame service operationId
        rw [hcancelled]
        exact h.aside hcall (by simp) (by simp) rfl hkept rfl rfl
      | some => cases hstep
    | shutdown phase =>
      obtain ⟨⟨shared, later⟩, hmoved, hpair⟩ := Option.map_eq_some_iff.mp hstep
      obtain ⟨rfl, rfl⟩ := Prod.mk.inj hpair
      -- every shutdown after its first step has closed the activity
      have hfits := hgated.fits phase (List.mem_of_getElem? hcall)
      cases phase with
      | closingActivity =>
        obtain ⟨rfl, rfl⟩ := Prod.mk.inj (Option.some.inj hmoved)
        cases hafter
      | closingService | closingGate => exact absurd hfits (Bool.eq_false_iff.mp hopen)
      | draining | containing | waiting | returned =>
        exact absurd hfits.1 (Bool.eq_false_iff.mp hopen)
    | playback sessionId phase =>
      obtain ⟨⟨activity, later⟩, hmoved, hpair⟩ := Option.map_eq_some_iff.mp hstep
      obtain ⟨rfl, rfl⟩ := Prod.mk.inj hpair
      exact h.aside hcall (by simp) (by simp) (reservation_frame (.inl hmoved)).1 .refl rfl rfl
    | update phase =>
      obtain ⟨⟨activity, later⟩, hmoved, hpair⟩ := Option.map_eq_some_iff.mp hstep
      obtain ⟨rfl, rfl⟩ := Prod.mk.inj hpair
      exact h.aside hcall (by simp) (by simp) (@reservation_frame _ _ _ _ "" (.inr hmoved)).1 .refl rfl rfl

/-- A call that begins keeps the order. -/
theorem OpenOrder.begin (h : OpenOrder service calls) (op : CalibrationOp) :
    OpenOrder service (calls ++ [calibrationStart op]) := by
  refine ⟨?_, ?_, fun run hrun => ?_, h.fresh, h.stated⟩
  · rw [List.countP_append, h.holding, List.countP_singleton]
    cases op <;> rfl
  · rw [List.countP_append, h.pending, List.countP_singleton]
    cases op <;> rfl
  · rcases List.mem_append.mp hrun with hold | hnew
    · exact h.placed run hold
    · have hbegun := List.mem_singleton.mp hnew
      cases op <;> cases hbegun

/-- Calibrations end. Before the program closes, an operation goes on only in the hands of its
orchestrator, it is terminal from then on, and an orchestrator that has returned has given the
reservation back exactly once. What keeps a later owner out is the reservation of an orchestrator that
has not given it back yet. Nothing becomes public after a shutdown has returned. -/
structure CalibrationsEnd (service : CalibrationService) (calls : List CalibrationCall) : Prop where
  going : service.activity.closing = false → ∀ run, .run run ∈ calls → run.phase.pending = true →
    ∃ operation ∈ service.operation, operation.number = run.number ∧
      operation.operationId = run.operationId ∧ operation.state.isActive = true
  terminal : service.activity.closing = false → ∀ run, .run run ∈ calls →
    run.phase.pending = false → ∀ operation ∈ service.operation, operation.number = run.number →
      operation.state.isTerminal = true
  settled : service.activity.closing = false → ∀ run, .run run ∈ calls →
    run.phase.returned = true →
      service.released run.number = 1 ∧ service.finished run.number ≤ 1
  idle : service.activity.closing = false → service.busy = true →
    ∃ run, .run run ∈ calls ∧ run.phase.pending = true
  free : service.activity.closing = false → service.activity.calibrationActive = true →
    ∃ run, .run run ∈ calls ∧ run.phase.holding = true
  quiet : Quiet service.effects

/-- An orchestrator that has returned holds nothing. -/
theorem CalibrationPhase.idle_of_returned {phase : CalibrationPhase} (h : phase.returned = true) :
    phase.holding = false ∧ phase.mayFinish ≤ 1 := by
  cases phase <;> first | exact ⟨rfl, Nat.zero_le 1⟩ | exact ⟨rfl, Nat.le_refl 1⟩ | cases h

/-- Calibrations end where the gate and the order are kept. -/
theorem CalibrationsEnd.of_order (hgated : Gated service calls)
    (horder : service.activity.closing = false → OpenOrder service calls) :
    CalibrationsEnd service calls where
  going hopen run hrun hpending := by
    obtain ⟨operation, hoperation, hnumber, hid, hactive, -⟩ :=
      ((horder hopen).placed run hrun).pending hpending
    exact ⟨operation, hoperation, hnumber, hid, hactive⟩
  terminal hopen run hrun hended operation hoperation hnumber := by
    rcases (horder hopen).stated operation hoperation with hactive | hterminal
    · -- the operation goes on in the hands of the same orchestrator
      have hbusy : service.busy = true := by
        rw [CalibrationService.busy, Option.mem_def.mp hoperation]
        exact hactive
      obtain ⟨other, hother, hpending⟩ := (horder hopen).pending_of_busy hbusy
      obtain ⟨recorded, hrecorded, hsame, -⟩ := ((horder hopen).placed other hother).pending hpending
      obtain rfl := Option.mem_unique hoperation hrecorded
      obtain ⟨index, hindex⟩ := List.mem_iff_getElem?.mp hrun
      obtain ⟨place, hplace⟩ := List.mem_iff_getElem?.mp hother
      have hone : index = place := by
        by_contra hne
        exact hgated.number_ne hindex hplace hne (hsame.symm.trans hnumber)
      rw [hone, hplace] at hindex
      obtain rfl := CalibrationCall.run.inj (Option.some.inj hindex)
      rw [hpending] at hended
      cases hended
    · exact hterminal
  settled hopen run hrun hreturned := by
    have hplaced := (horder hopen).placed run hrun
    obtain ⟨hholding, hmay⟩ := CalibrationPhase.idle_of_returned hreturned
    have hreleased := hplaced.released
    rw [hholding] at hreleased
    exact ⟨hreleased, hplaced.finished.trans hmay⟩
  idle hopen hbusy := (horder hopen).pending_of_busy hbusy
  free hopen hactive := (horder hopen).holding_of_active hactive
  quiet := hgated.quiet

/-- A step keeps the gate and the order. -/
theorem gated_order_step
    (h : Gated service calls ∧ (service.activity.closing = false → OpenOrder service calls))
    (hcall : calls[index]? = some call) (hmeets : MeetsGate choice call service)
    (hstep : calibrationStep choice call service = some (after, moved)) :
    Gated after (calls.set index moved) ∧
      (after.activity.closing = false → OpenOrder after (calls.set index moved)) := by
  obtain ⟨hgated, horder⟩ := h
  refine ⟨hgated.step hcall hmeets hstep, fun hafter => ?_⟩
  have hopen : service.activity.closing = false := by
    apply Bool.eq_false_iff.mpr
    intro hclosing
    have hfits := fun phase (hphase : call = .shutdown phase) =>
      hgated.fits phase (hphase ▸ List.mem_of_getElem? hcall)
    rw [(calibrationStep_frame hmeets hfits hstep).closing hclosing] at hafter
    cases hafter
  exact (horder hopen).step hgated hopen hafter hcall hmeets hstep

/-- At the start of the program the gate and the order are kept. -/
theorem gated_order_initial :
    Gated .initial [] ∧ (CalibrationService.initial.activity.closing = false →
      OpenOrder .initial []) := by
  constructor
  · refine ⟨fun _ => rfl, rfl, fun _ h => absurd h List.not_mem_nil, nofun,
      fun h => absurd h List.not_mem_nil, List.Pairwise.nil⟩
  · exact fun _ => ⟨rfl, rfl, fun _ h => absurd h List.not_mem_nil, fun _ _ => ⟨rfl, rfl⟩,
      fun _ h => by cases h⟩

/-- As long as every orchestrator asks the gate while no other is admitted, or the program closes, and
no operation is announced after a shutdown has returned, calibrations end. -/
theorem calibrations_end {actions : List (PoolAction CalibrationOp CalibrationChoice)}
    {pool : CallPool CalibrationService CalibrationCall}
    (hrun : calibrationMachine.run calibrationMachine.initial actions = some pool)
    (hmeets : calibrationMachine.Meets (CallPool.StepMeets MeetsGate) calibrationMachine.initial
      actions) :
    CalibrationsEnd pool.shared pool.calls := by
  have hkept := CallProgram.run_preserves_of_steps
    (P := fun service calls => Gated service calls ∧
      (service.activity.closing = false → OpenOrder service calls))
    (fun _ _ op h => ⟨h.1.begin op, fun hopen => (h.2 hopen).begin op⟩)
    (fun _ _ _ _ _ _ _ h hcall hcondition hstep => gated_order_step h hcall hcondition hstep)
    hrun hmeets gated_order_initial
  exact .of_order hkept.1 hkept.2

/-- A quick calibration. -/
def quickRequest : CalibrationStartRequest := ⟨.quick, none⟩

/-- A request is admitted under an identifier, everything is published, and the child ends in a given
way. -/
def childEnds (operationId : String) (child : ChildResult) : CalibrationChoice :=
  ⟨.ok operationId, true, none, child, .ok (), .ok (some 200, 32), false⟩

/-- An operation ends with a committed cache, the next one fails, and the program shuts down. -/
def committedThenFailed : List (PoolAction CalibrationOp CalibrationChoice) :=
  [@PoolAction.begin CalibrationOp CalibrationChoice (.start quickRequest)] ++
    List.replicate 16 (@PoolAction.advance CalibrationOp CalibrationChoice 0 (childEnds "calibration-1" .measured)) ++
      [@PoolAction.begin CalibrationOp CalibrationChoice (.start quickRequest)] ++
        List.replicate 14 (@PoolAction.advance CalibrationOp CalibrationChoice 1 (childEnds "calibration-2" (.failed "no device"))) ++
          [@PoolAction.begin CalibrationOp CalibrationChoice .shutdown] ++
            List.replicate 6 (@PoolAction.advance CalibrationOp CalibrationChoice 2 (childEnds "calibration-3" .cancelled))

/-- Operations that are admitted one after the other both end. -/
theorem calibrations_end_scenario :
    ∃ pool : CallPool CalibrationService CalibrationCall, CalibrationsEnd pool.shared pool.calls ∧
      (pool.shared.released 0 = 1 ∧ pool.shared.finished 0 = 1 ∧ pool.shared.released 1 = 1 ∧
        pool.shared.finished 1 = 1 ∧ CalibrationEffect.shutdown ∈ pool.shared.effects) := by
  have hcheck : (calibrationMachine.run calibrationMachine.initial committedThenFailed).any
      (fun pool => pool.shared.released 0 = 1 ∧ pool.shared.finished 0 = 1 ∧
        pool.shared.released 1 = 1 ∧ pool.shared.finished 1 = 1 ∧
          CalibrationEffect.shutdown ∈ pool.shared.effects) = true := by decide +kernel
  have hmeets : calibrationMachine.Meets (CallPool.StepMeets MeetsGate) calibrationMachine.initial
      committedThenFailed := by decide +kernel
  obtain ⟨pool, hrun, hpool⟩ := (Option.any_eq_true _ _).mp hcheck
  exact ⟨pool, calibrations_end hrun hmeets, of_decide_eq_true hpool⟩

/-- An operation fails and gives its reservation back but not yet the gate. The next one is recorded,
fails too and finds the gate shut. -/
def refusedByGate : List (PoolAction CalibrationOp CalibrationChoice) :=
  [.begin (.start quickRequest)] ++
    List.replicate 13 (.advance 0 (childEnds "calibration-1" (.failed "no device"))) ++
      [.begin (.start quickRequest)] ++
        List.replicate 9 (.advance 1 (childEnds "calibration-2" (.failed "no device")))

/-- An orchestrator that the gate refuses returns, and its operation keeps the physical input for
good. -/
theorem refused_calibration_stays :
    ¬∀ (actions : List (PoolAction CalibrationOp CalibrationChoice))
      (pool : CallPool CalibrationService CalibrationCall),
      calibrationMachine.run calibrationMachine.initial actions = some pool →
        CalibrationsEnd pool.shared pool.calls := by
  intro h
  have hcheck : (calibrationMachine.run calibrationMachine.initial refusedByGate).any
      (fun pool => pool.shared.activity.closing = false ∧
        CalibrationCall.run ⟨quickRequest, "calibration-2", 1, .over⟩ ∈ pool.calls ∧
          pool.shared.released 1 = 0) = true := by decide +kernel
  obtain ⟨pool, hrun, hpool⟩ := (Option.any_eq_true _ _).mp hcheck
  obtain ⟨hopen, hcall, hreleased⟩ := of_decide_eq_true hpool
  have hsettled := ((h refusedByGate pool hrun).settled hopen _ hcall rfl).1
  rw [hreleased] at hsettled
  cases hsettled

end SkyAutoPlayer.Desktop
