import Mathlib.Data.List.Basic

/-!
# Machines of guarded actions

A machine makes one action at a time, and an action is absent where it is not enabled. What the
initial state satisfies and every action preserves holds of every state that a run reaches.
-/

namespace SkyAutoPlayer.Foundation

/-- Where a machine begins, and what an action makes of a state. -/
structure Machine (State Action : Type) where
  initial : State
  step : State → Action → Option State

namespace Machine

variable {State Action : Type} {machine : Machine State Action} {state after : State}
  {actions : List Action}

/-- The state after some actions. -/
def run (machine : Machine State Action) (state : State) (actions : List Action) : Option State :=
  actions.foldlM machine.step state

/-- A run from the initial state ends in the state. -/
def Reachable (machine : Machine State Action) (state : State) : Prop :=
  ∃ actions, machine.run machine.initial actions = some state

/-- A property that the initial state has and every action preserves. -/
structure Invariant (machine : Machine State Action) (P : State → Prop) : Prop where
  initial : P machine.initial
  step : ∀ before action after, P before → machine.step before action = some after → P after

/-- A run of no action stays. -/
@[simp] theorem run_nil : machine.run state [] = some state := rfl

/-- A run makes its first action and then the others. -/
theorem run_cons {action : Action} (h : machine.run state (action :: actions) = some after) :
    ∃ middle, machine.step state action = some middle ∧ machine.run middle actions = some after := by
  rw [run, List.foldlM_cons] at h
  exact Option.bind_eq_some_iff.mp h

/-- What every action preserves holds after a run. -/
theorem run_preserves {P : State → Prop}
    (hstep : ∀ before action after, P before → machine.step before action = some after → P after)
    (hrun : machine.run state actions = some after) (h : P state) : P after := by
  induction actions generalizing state with
  | nil =>
    obtain rfl := Option.some.inj hrun
    exact h
  | cons action rest ih =>
    obtain ⟨middle, hfirst, hrest⟩ := run_cons hrun
    exact ih hrest (hstep state action middle h hfirst)

/-- Every action of a run meets a condition on the state it is made in. -/
def Meets (machine : Machine State Action) (condition : State → Action → Prop) :
    State → List Action → Prop
  | _, [] => True
  | state, action :: rest =>
    condition state action ∧
      ∀ after, machine.step state action = some after → machine.Meets condition after rest

/-- Whether a run meets a condition can be computed along the run. -/
instance Meets.decidable {condition : State → Action → Prop}
    [∀ state action, Decidable (condition state action)] :
    (actions : List Action) → (state : State) → Decidable (machine.Meets condition state actions)
  | [], _ => isTrue trivial
  | action :: rest, state =>
    have (after : State) : Decidable (machine.Meets condition after rest) :=
      Meets.decidable rest after
    inferInstanceAs (Decidable (condition state action ∧
      ∀ after ∈ machine.step state action, machine.Meets condition after rest))

/-- What every action that meets the condition preserves holds after a run of such actions. -/
theorem run_preserves_of_meets {condition : State → Action → Prop} {P : State → Prop}
    (hstep : ∀ before action after, condition before action → P before →
      machine.step before action = some after → P after)
    (hrun : machine.run state actions = some after)
    (hmeets : machine.Meets condition state actions) (h : P state) : P after := by
  induction actions generalizing state with
  | nil =>
    obtain rfl := Option.some.inj hrun
    exact h
  | cons action rest ih =>
    obtain ⟨hcondition, hrest⟩ := hmeets
    obtain ⟨middle, hfirst, hremaining⟩ := run_cons hrun
    exact ih hremaining (hrest middle hfirst) (hstep state action middle hcondition h hfirst)

/-- An invariant holds of every reachable state. -/
theorem Invariant.holds {P : State → Prop} (h : machine.Invariant P)
    (hreachable : machine.Reachable state) : P state := by
  obtain ⟨actions, hrun⟩ := hreachable
  exact run_preserves h.step hrun h.initial

end Machine

end SkyAutoPlayer.Foundation
