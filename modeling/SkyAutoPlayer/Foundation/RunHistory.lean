import SkyAutoPlayer.Foundation.CallPool

/-!
# The states that a run has passed

A run passes the states that its beginnings end in. What is shown of a step may use that the run has
passed the state it is made in, so that a property of the last state can name an earlier one.
-/

namespace SkyAutoPlayer.Foundation

namespace Machine

variable {State Action : Type} {machine : Machine State Action} {state after passed : State}
  {actions rest : List Action}

/-- A run passes a state. -/
def Passes (machine : Machine State Action) (state : State) (actions : List Action) (passed : State) :
    Prop :=
  ∃ taken, taken <+: actions ∧ machine.run state taken = some passed

/-- Two runs follow each other. -/
theorem run_append {more : List Action} (h : machine.run state actions = some passed) :
    machine.run state (actions ++ more) = machine.run passed more := by
  induction actions generalizing state with
  | nil =>
    obtain rfl := Option.some.inj h
    rfl
  | cons action rest ih =>
    obtain ⟨middle, hfirst, hrest⟩ := run_cons h
    rw [List.cons_append, run, List.foldlM_cons, hfirst]
    exact ih hrest

/-- Every remaining action is made in a state that the run passes. -/
theorem meets_passes_of_run {taken : List Action} (hrun : machine.run state taken = some passed) :
    machine.Meets (fun passed _ => machine.Passes state (taken ++ rest) passed) passed rest := by
  induction rest generalizing taken passed with
  | nil => trivial
  | cons action rest ih =>
    refine ⟨⟨taken, List.prefix_append _ _, hrun⟩, fun next hstep => ?_⟩
    have hnext : machine.run state (taken ++ [action]) = some next := by
      rw [run_append hrun, run, List.foldlM_cons, hstep]
      rfl
    have hrest := ih hnext
    rwa [List.append_assoc] at hrest

/-- Every action of a run is made in a state that the run passes. -/
theorem meets_passes :
    machine.Meets (fun passed _ => machine.Passes state actions passed) state actions := by
  have hrest := @meets_passes_of_run _ _ machine state state actions [] rfl
  exact hrest

/-- A run meets two conditions when it meets each of them. -/
theorem Meets.and {first second : State → Action → Prop}
    (hfirst : machine.Meets first state actions) (hsecond : machine.Meets second state actions) :
    machine.Meets (fun state action => first state action ∧ second state action) state actions := by
  induction actions generalizing state with
  | nil => trivial
  | cons action rest ih =>
    refine ⟨⟨hfirst.1, hsecond.1⟩, fun next hstep => ?_⟩
    exact ih (hfirst.2 next hstep) (hsecond.2 next hstep)

end Machine

namespace CallProgram

variable {Op Call Choice Shared : Type} {program : CallProgram Op Call Choice Shared}
  {pool after : CallPool Shared Call} {actions : List (PoolAction Op Choice)} {initial : Shared}

/-- What a beginning call preserves, and every atomic step that meets a condition, holds after a run
of such steps. A step may use that the run has passed the state it is made in. -/
theorem run_preserves_of_passed_steps {P : Shared → List Call → Prop}
    {condition : Choice → Call → Shared → Prop}
    (hbegin : ∀ shared calls op, P shared calls → P shared (calls ++ [program.start op]))
    (hstep : ∀ shared calls index choice call after next,
      (program.machine initial).Passes pool actions ⟨shared, calls⟩ → P shared calls →
      calls[index]? = some call → condition choice call shared →
      program.step choice call shared = some (after, next) → P after (calls.set index next))
    (hrun : (program.machine initial).run pool actions = some after)
    (hmeets : (program.machine initial).Meets (CallPool.StepMeets condition) pool actions)
    (h : P pool.shared pool.calls) : P after.shared after.calls := by
  refine Machine.run_preserves_of_meets (P := fun pool => P pool.shared pool.calls) ?_ hrun
    (hmeets.and Machine.meets_passes) h
  rintro before action after ⟨hcondition, hpassed⟩ hbefore hmade
  rcases poolStep_cases hmade with
    ⟨op, rfl, rfl⟩ | ⟨index, choice, call, shared, next, rfl, hcall, hcallStep, rfl⟩
  · exact hbegin before.shared before.calls op hbefore
  · exact hstep before.shared before.calls index choice call shared next hpassed hbefore hcall
      (hcondition call hcall) hcallStep

end CallProgram

end SkyAutoPlayer.Foundation
