import Mathlib.Algebra.Order.BigOperators.Group.List
import Mathlib.Algebra.Order.Group.Nat
import Mathlib.Algebra.Ring.Nat
import SkyAutoPlayer.Foundation.StateMachine

/-!
# Any number of calls over a shared state

A pool keeps every call that has begun, in order, beside the state they share. An action begins a
call or makes one atomic step of one of them, so that what is counted over the calls changes by the
one call that moved.
-/

namespace SkyAutoPlayer.Foundation

/-- A shared state and the calls over it. -/
structure CallPool (Shared Call : Type) where
  shared : Shared
  calls : List Call

/-- Where an operation begins, and the atomic step at every point of a call, absent while it is
blocked or over. A choice stands for what the step cannot determine. -/
structure CallProgram (Op Call Choice Shared : Type) where
  start : Op → Call
  step : Choice → Call → Shared → Option (Shared × Call)

/-- One scheduling decision. -/
inductive PoolAction (Op Choice : Type) where
  | begin (op : Op)
  | advance (index : ℕ) (choice : Choice)

variable {Op Call Choice Shared : Type}

/-- The step that an action makes, if it makes one, meets a condition. -/
def CallPool.StepMeets (condition : Choice → Call → Shared → Prop) (pool : CallPool Shared Call) :
    PoolAction Op Choice → Prop
  | .begin _ => True
  | .advance index choice =>
    ∀ call, pool.calls[index]? = some call → condition choice call pool.shared

instance {condition : Choice → Call → Shared → Prop}
    [∀ choice call shared, Decidable (condition choice call shared)] (pool : CallPool Shared Call) :
    (action : PoolAction Op Choice) → Decidable (pool.StepMeets condition action)
  | .begin _ => isTrue trivial
  | .advance index choice =>
    inferInstanceAs (Decidable (∀ call ∈ pool.calls[index]?, condition choice call pool.shared))

namespace CallProgram

/-- What an action makes of a pool. -/
def poolStep (program : CallProgram Op Call Choice Shared) (pool : CallPool Shared Call) :
    PoolAction Op Choice → Option (CallPool Shared Call)
  | .begin op => some { pool with calls := pool.calls ++ [program.start op] }
  | .advance index choice => do
    let call ← pool.calls[index]?
    let (shared, next) ← program.step choice call pool.shared
    pure ⟨shared, pool.calls.set index next⟩

/-- The machine of a program that begins with no call. -/
def machine (program : CallProgram Op Call Choice Shared) (initial : Shared) :
    Machine (CallPool Shared Call) (PoolAction Op Choice) :=
  ⟨⟨initial, []⟩, program.poolStep⟩

/-- An action begins a call, or replaces a call by what its step makes of it. -/
theorem poolStep_cases {program : CallProgram Op Call Choice Shared} {pool after : CallPool Shared Call}
    {action : PoolAction Op Choice} (h : program.poolStep pool action = some after) :
    (∃ op, action = .begin op ∧ after = ⟨pool.shared, pool.calls ++ [program.start op]⟩) ∨
    ∃ index choice call shared next, action = .advance index choice ∧
      pool.calls[index]? = some call ∧ program.step choice call pool.shared = some (shared, next) ∧
      after = ⟨shared, pool.calls.set index next⟩ := by
  cases action with
  | begin op => exact .inl ⟨op, rfl, (Option.some.inj h).symm⟩
  | advance index choice =>
    obtain ⟨call, hcall, hrest⟩ := Option.bind_eq_some_iff.mp h
    obtain ⟨⟨shared, next⟩, hcallStep, hpure⟩ := Option.bind_eq_some_iff.mp hrest
    exact .inr ⟨index, choice, call, shared, next, rfl, hcall, hcallStep,
      (Option.some.inj hpure).symm⟩

/-- What a beginning call and every atomic step preserve is invariant. -/
theorem invariant_of_steps {program : CallProgram Op Call Choice Shared} {initial : Shared}
    {P : Shared → List Call → Prop} (hinitial : P initial [])
    (hbegin : ∀ shared calls op, P shared calls → P shared (calls ++ [program.start op]))
    (hstep : ∀ shared calls index choice call after next, P shared calls →
      calls[index]? = some call → program.step choice call shared = some (after, next) →
      P after (calls.set index next)) :
    (program.machine initial).Invariant fun pool => P pool.shared pool.calls where
  initial := hinitial
  step pool action after hpool hmade := by
    rcases poolStep_cases hmade with
      ⟨op, rfl, rfl⟩ | ⟨index, choice, call, shared, next, rfl, hcall, hcallStep, rfl⟩
    · exact hbegin pool.shared pool.calls op hpool
    · exact hstep pool.shared pool.calls index choice call shared next hpool hcall hcallStep

/-- What a beginning call preserves, and every atomic step that meets a condition, holds after a run
of such steps. -/
theorem run_preserves_of_steps {program : CallProgram Op Call Choice Shared} {initial : Shared}
    {P : Shared → List Call → Prop} {condition : Choice → Call → Shared → Prop}
    {pool after : CallPool Shared Call} {actions : List (PoolAction Op Choice)}
    (hbegin : ∀ shared calls op, P shared calls → P shared (calls ++ [program.start op]))
    (hstep : ∀ shared calls index choice call after next, P shared calls →
      calls[index]? = some call → condition choice call shared →
      program.step choice call shared = some (after, next) → P after (calls.set index next))
    (hrun : (program.machine initial).run pool actions = some after)
    (hmeets : (program.machine initial).Meets (CallPool.StepMeets condition) pool actions)
    (h : P pool.shared pool.calls) : P after.shared after.calls := by
  refine Machine.run_preserves_of_meets (P := fun pool => P pool.shared pool.calls) ?_ hrun hmeets h
  intro before action after hcondition hbefore hmade
  rcases poolStep_cases hmade with
    ⟨op, rfl, rfl⟩ | ⟨index, choice, call, shared, next, rfl, hcall, hcallStep, rfl⟩
  · exact hbegin before.shared before.calls op hbefore
  · exact hstep before.shared before.calls index choice call shared next hbefore hcall
      (hcondition call hcall) hcallStep

end CallProgram

section Lists

variable {α : Type} {list : List α} {index : ℕ} {value next : α} {test : α → Bool}

/-- Replacing an element changes a count by that element. -/
theorem countP_set_add (h : list[index]? = some value) :
    (list.set index next).countP test + (test value).toNat =
      list.countP test + (test next).toNat := by
  induction list generalizing index with
  | nil => simp at h
  | cons head rest ih =>
    cases index with
    | zero =>
      obtain rfl : head = value := by simpa using h
      rw [List.set_cons_zero, List.countP_cons, List.countP_cons]
      cases test head <;> cases test next <;> simp
    | succ index =>
      have hrest := ih (by simpa using h)
      rw [List.set_cons_succ, List.countP_cons, List.countP_cons]
      omega

/-- Replacing an element changes a sum by that element. -/
theorem sum_map_set_add {weight : α → ℕ} (h : list[index]? = some value) :
    ((list.set index next).map weight).sum + weight value = (list.map weight).sum + weight next := by
  induction list generalizing index with
  | nil => simp at h
  | cons head rest ih =>
    cases index with
    | zero =>
      obtain rfl : head = value := by simpa using h
      rw [List.set_cons_zero, List.map_cons, List.map_cons, List.sum_cons, List.sum_cons]
      omega
    | succ index =>
      have hrest := ih (by simpa using h)
      rw [List.set_cons_succ, List.map_cons, List.map_cons, List.sum_cons, List.sum_cons]
      omega

/-- An element that weighs nothing leaves room in a bound that holds of every element. -/
theorem sum_map_add_le {weight bound : α → ℕ} (h : ∀ element ∈ list, weight element ≤ bound element)
    (hvalue : value ∈ list) (hnone : weight value = 0) :
    (list.map weight).sum + bound value ≤ (list.map bound).sum := by
  induction list with
  | nil => exact absurd hvalue List.not_mem_nil
  | cons head rest ih =>
    have hhead := h head List.mem_cons_self
    have hrest := fun element hmem => h element (List.mem_cons_of_mem head hmem)
    rw [List.map_cons, List.map_cons, List.sum_cons, List.sum_cons]
    rcases List.mem_cons.mp hvalue with rfl | hmem
    · have hsum := List.sum_le_sum hrest
      omega
    · have hsum := ih hrest hmem
      omega

/-- A replacement that a test cannot tell keeps the count. -/
theorem countP_set_of_eq (h : list[index]? = some value) (htest : test next = test value) :
    (list.set index next).countP test = list.countP test := by
  have hcount := @countP_set_add _ list index value next test h
  rw [htest] at hcount
  exact Nat.add_right_cancel hcount

/-- An element that passes the test is counted. -/
theorem countP_pos_of_getElem? (h : list[index]? = some value) (htest : test value = true) :
    0 < list.countP test :=
  List.countP_pos_iff.mpr ⟨value, List.mem_of_getElem? h, htest⟩

/-- What all elements and the new one satisfy, all elements of the new list do. -/
theorem forall_mem_set {P : α → Prop} (h : ∀ element ∈ list, P element) (hnext : P next) :
    ∀ element ∈ list.set index next, P element := by
  intro element hmem
  rcases List.mem_or_eq_of_mem_set hmem with hold | rfl
  · exact h element hold
  · exact hnext

/-- When at most one element passes the test, two that do stand at one place. -/
theorem eq_of_countP_le_one (hcount : list.countP test ≤ 1) {other : ℕ} {found : α}
    (hvalue : list[index]? = some value) (htest : test value = true)
    (hfound : list[other]? = some found) (hother : test found = true) : index = other := by
  induction list generalizing index other with
  | nil => simp at hvalue
  | cons head rest ih =>
    rw [List.countP_cons] at hcount
    cases index with
    | zero =>
      cases other with
      | zero => rfl
      | succ other =>
        obtain rfl : head = value := by simpa using hvalue
        have hrest := @countP_pos_of_getElem? _ rest other found test (by simpa using hfound) hother
        rw [htest, if_pos rfl] at hcount
        omega
    | succ index =>
      cases other with
      | zero =>
        obtain rfl : head = found := by simpa using hfound
        have hrest := @countP_pos_of_getElem? _ rest index value test (by simpa using hvalue) htest
        rw [hother, if_pos rfl] at hcount
        omega
      | succ other =>
        have hsame := ih (by omega) (by simpa using hvalue) (by simpa using hfound)
        rw [hsame]

end Lists

end SkyAutoPlayer.Foundation
