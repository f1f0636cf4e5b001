import Mathlib.Data.List.Basic
import SkyAutoPlayer.Foundation.Checked

/-!
# Stateful computations that keep their state on error

`EStateM ε σ` is the shape of a method that mutates its receiver and may return early: the
state reached so far survives the error. `Result.state` is that state either way. A method is made
of checks, which read the state, and of updates, which replace it all at once or not at all.
`Keeps property computation` says that the computation keeps a property of the state whether it
succeeds or fails; it composes along sequences and loops, so a method keeps what its updates keep.
-/

namespace EStateM

universe u

variable {ε σ α β : Type u}

/-- The state in which a computation stopped, whether it succeeded or failed. -/
def Result.state : EStateM.Result ε σ α → σ
  | .ok _ state => state
  | .error _ state => state

@[simp] theorem Result.state_ok (value : α) (state : σ) :
    (Result.ok value state : EStateM.Result ε σ α).state = state := rfl

@[simp] theorem Result.state_error (error : ε) (state : σ) :
    (Result.error error state : EStateM.Result ε σ α).state = state := rfl

/-- Run a stateless fallible computation. -/
def ofExcept : Except ε α → EStateM ε σ α
  | .ok value => fun state => .ok value state
  | .error error => fun state => .error error state

/-- A stateless success continues from the same state. -/
@[simp] theorem ofExcept_ok_run (value : α) (state : σ) :
    (ofExcept (.ok value) : EStateM ε σ α).run state = .ok value state := rfl

/-- A stateless failure stops in the same state. -/
@[simp] theorem ofExcept_error_run (error : ε) (state : σ) :
    (ofExcept (.error error) : EStateM ε σ α).run state = .error error state := rfl

/-- A stateless computation succeeds with its value and keeps the state. -/
theorem ofExcept_run_eq_ok {computation : Except ε α} {state after : σ} {value : α} :
    (ofExcept computation : EStateM ε σ α).run state = .ok value after ↔
      computation = .ok value ∧ state = after := by
  cases computation with
  | ok result => simp
  | error error => simp

/-- After a successful first part, a sequence runs its continuation. -/
theorem run_bind_of_ok {first : EStateM ε σ α} {next : α → EStateM ε σ β} {state after : σ}
    {value : α} (h : first.run state = .ok value after) :
    (first >>= next).run state = (next value).run after := by
  rw [EStateM.run_bind, h]

/-- After a failed first part, a sequence stops with the same failure. -/
theorem run_bind_of_error {first : EStateM ε σ α} {next : α → EStateM ε σ β} {state after : σ}
    {error : ε} (h : first.run state = .error error after) :
    (first >>= next).run state = .error error after := by
  rw [EStateM.run_bind, h]

/-- A sequence succeeds exactly when its first part and then its continuation succeed. -/
theorem run_bind_eq_ok {first : EStateM ε σ α} {next : α → EStateM ε σ β} {state after : σ}
    {result : β} : (first >>= next).run state = .ok result after ↔
      ∃ value middle, first.run state = .ok value middle ∧
        (next value).run middle = .ok result after := by
  rw [EStateM.run_bind]
  cases hfirst : first.run state with
  | ok value middle =>
    constructor
    · exact fun h => ⟨value, middle, rfl, h⟩
    · rintro ⟨_, _, h, hnext⟩
      cases h
      exact hnext
  | error error middle => exact ⟨nofun, fun ⟨_, _, h, _⟩ => nomatch h⟩

/-- A check of the state. -/
def check (test : σ → Except ε α) : EStateM ε σ α := fun state => (ofExcept (test state)).run state

/-- Replace the state, unless that fails. -/
def update (next : σ → Except ε σ) : EStateM ε σ PUnit := fun state =>
  match next state with
  | .ok after => .ok ⟨⟩ after
  | .error error => .error error state

/-- A check keeps the state. -/
theorem check_run_state (test : σ → Except ε α) (state : σ) :
    ((check test).run state).state = state := by
  change ((ofExcept (test state)).run state).state = state
  cases test state with
  | ok value => rfl
  | error error => rfl

/-- A check succeeds with the value of its test. -/
theorem check_run_eq_ok {test : σ → Except ε α} {state after : σ} {value : α} :
    (check test).run state = .ok value after ↔ test state = .ok value ∧ state = after :=
  ofExcept_run_eq_ok

/-- An update succeeds in the next state. -/
theorem update_run_eq_ok {next : σ → Except ε σ} {state after : σ} :
    (update next).run state = .ok PUnit.unit after ↔ next state = .ok after := by
  change (match next state with
    | .ok after => EStateM.Result.ok PUnit.unit after
    | .error error => .error error state) = .ok PUnit.unit after ↔ _
  cases next state with
  | ok middle => simp
  | error error => simp

/-- A computation keeps a property of the state, whether it succeeds or fails. -/
structure Keeps (property : σ → Prop) (computation : EStateM ε σ α) : Prop where
  run : ∀ state, property state → property (computation.run state).state

namespace Keeps

variable {property : σ → Prop}

/-- A value keeps every property. -/
theorem pure (value : α) : Keeps property (Pure.pure value : EStateM ε σ α) :=
  ⟨fun _ hstate => hstate⟩

/-- A check keeps every property. -/
theorem check (test : σ → Except ε α) : Keeps property (EStateM.check test) := by
  constructor
  intro state hstate
  rw [check_run_state]
  exact hstate

/-- An update keeps what its next states keep. -/
theorem update {next : σ → Except ε σ}
    (h : ∀ state after, next state = .ok after → property state → property after) :
    Keeps property (EStateM.update next) := by
  constructor
  intro state hstate
  change property (match next state with
    | .ok after => EStateM.Result.ok PUnit.unit after
    | .error error => EStateM.Result.error error state).state
  cases hnext : next state with
  | ok after => exact h state after hnext hstate
  | error error => exact hstate

/-- A sequence keeps what its parts keep. -/
theorem bind {first : EStateM ε σ α} {next : α → EStateM ε σ β} (hfirst : Keeps property first)
    (hnext : ∀ value, Keeps property (next value)) : Keeps property (first >>= next) := by
  constructor
  intro state hstate
  have hmiddle := hfirst.run state hstate
  cases hrun : first.run state with
  | ok value middle =>
    rw [run_bind_of_ok hrun]
    rw [hrun] at hmiddle
    exact (hnext value).run middle hmiddle
  | error error middle =>
    rw [run_bind_of_error hrun]
    rw [hrun] at hmiddle
    exact hmiddle

/-- A sequence ends in what its first part leaves after an error, or in what its continuation leaves. -/
theorem bind_run {final : σ → Prop} {first : EStateM ε σ α} {next : α → EStateM ε σ β} {state : σ}
    (hfirst : Keeps property first) (hstate : property state)
    (herror : ∀ after, property after → final after)
    (hnext : ∀ value middle, property middle → final ((next value).run middle).state) :
    final ((first >>= next).run state).state := by
  have hmiddle := hfirst.run state hstate
  cases hrun : first.run state with
  | ok value middle =>
    rw [run_bind_of_ok hrun]
    rw [hrun] at hmiddle
    exact hnext value middle hmiddle
  | error error middle =>
    rw [run_bind_of_error hrun]
    rw [hrun] at hmiddle
    exact herror middle hmiddle

/-- After a check, the continuation may use what the check found. -/
theorem check_bind {test : σ → Except ε α} {next : α → EStateM ε σ β} {state : σ}
    (hstate : property state)
    (hnext : ∀ value, test state = .ok value → property ((next value).run state).state) :
    property ((EStateM.check test >>= next).run state).state := by
  cases htest : test state with
  | ok value =>
    rw [run_bind_of_ok (check_run_eq_ok.mpr ⟨htest, rfl⟩)]
    exact hnext value htest
  | error error =>
    have hrun : (EStateM.check test).run state = .error error state := by
      change (ofExcept (test state)).run state = _
      rw [htest]
      rfl
    rw [run_bind_of_error hrun]
    exact hstate

/-- A loop keeps what its bodies keep. -/
theorem forM {body : α → EStateM ε σ PUnit} {list : List α}
    (h : ∀ element ∈ list, Keeps property (body element)) : Keeps property (list.forM body) := by
  induction list with
  | nil => exact pure _
  | cons head rest ih =>
    rw [List.forM_eq_forM, List.forM_cons]
    apply bind (h head List.mem_cons_self)
    intro _
    rw [← List.forM_eq_forM]
    exact ih fun element hmem => h element (List.mem_cons_of_mem _ hmem)

end Keeps

end EStateM

namespace Except

variable {ε α : Type*}

/-- A loop of checks passes exactly when every check does. -/
theorem forM_eq_ok {check : α → Except ε PUnit} {list : List α} :
    list.forM check = .ok PUnit.unit ↔ ∀ element ∈ list, check element = .ok PUnit.unit := by
  induction list with
  | nil => simp [List.forM, Pure.pure, Except.pure]
  | cons head rest ih =>
    rw [List.forM_eq_forM] at ih ⊢
    rw [List.forM_cons, seq_eq_ok, ih, List.forall_mem_cons]

end Except
