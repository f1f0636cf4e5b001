import Mathlib.Logic.Function.Basic
import SkyAutoPlayer.Foundation.Checked

/-!
# Guarded lists

A loop that checks each element against its state and then updates the state succeeds on the
guarded lists. Guarded lists split at any point, follow a simulation from one state to another,
and over a table of independent entries they are the lists guarded at every entry.
-/

namespace SkyAutoPlayer.Foundation

universe u v

variable {ε : Type v} {α : Type u} {σ : Type v}

/-- Every element of a list is good for the state its step meets. -/
def Guarded (good : σ → α → Prop) (step : σ → α → σ) : σ → List α → Prop
  | _, [] => True
  | state, head :: rest => good state head ∧ Guarded good step (step state head) rest

/-- A guarded list stays guarded up to any point and after it. -/
theorem guarded_append {good : σ → α → Prop} {step : σ → α → σ} {state : σ}
    {first second : List α} : Guarded good step state (first ++ second) ↔
      Guarded good step state first ∧ Guarded good step (first.foldl step state) second := by
  induction first generalizing state with
  | nil => simp [Guarded]
  | cons head rest ih => simp [Guarded, ih, and_assoc]

/-- A list is guarded when each element is good for the state its predecessors leave. -/
theorem guarded_iff {good : σ → α → Prop} {step : σ → α → σ} {state : σ} {list : List α} :
    Guarded good step state list ↔ ∀ before a after, list = before ++ a :: after →
      good (before.foldl step state) a := by
  induction list generalizing state with
  | nil => exact ⟨fun _ before a after h => by simp at h, fun _ => trivial⟩
  | cons head rest ih =>
    constructor
    · rintro ⟨hhead, hrest⟩ before a after hsplit
      cases before with
      | nil =>
        obtain ⟨rfl, -⟩ := List.cons.inj hsplit
        exact hhead
      | cons first others =>
        obtain ⟨rfl, hothers⟩ := List.cons.inj hsplit
        exact ih.mp hrest others a after hothers
    · intro h
      refine ⟨h [] head rest rfl, ih.mpr fun before a after hsplit => ?_⟩
      exact h (head :: before) a after (congrArg (List.cons head) hsplit)

/-- Elements that are good for every state form a guarded list. -/
theorem guarded_of_forall {good : σ → α → Prop} {step : σ → α → σ} {list : List α}
    (h : ∀ a ∈ list, ∀ state, good state a) (state : σ) : Guarded good step state list := by
  induction list generalizing state with
  | nil => trivial
  | cons head rest ih =>
    have hrest : ∀ a ∈ rest, ∀ state, good state a := fun a ha => h a (List.mem_cons_of_mem _ ha)
    exact ⟨h head List.mem_cons_self state, ih hrest _⟩

/-- What good elements preserve holds after a guarded list. -/
theorem Guarded.foldl_invariant {good : σ → α → Prop} {step : σ → α → σ} {state : σ}
    {list : List α} (h : Guarded good step state list) {P : σ → Prop}
    (hstep : ∀ state a, P state → good state a → P (step state a)) (hP : P state) :
    P (list.foldl step state) := by
  induction list generalizing state with
  | nil => exact hP
  | cons head rest ih => exact ih h.2 (hstep _ _ hP h.1)

/-- What every good element satisfies holds of every element of a guarded list. -/
theorem Guarded.forall_mem {good : σ → α → Prop} {step : σ → α → σ} {state : σ} {list : List α}
    (h : Guarded good step state list) {P : α → Prop} (hP : ∀ state a, good state a → P a) :
    ∀ a ∈ list, P a := by
  induction list generalizing state with
  | nil => exact nofun
  | cons head rest ih =>
    intro a ha
    rcases List.mem_cons.mp ha with rfl | ha
    · exact hP _ _ h.1
    · exact ih h.2 a ha

/-- A fallible loop whose step checks and then updates succeeds exactly on guarded lists, with
the state of the unchecked loop. The step is known on the states that satisfy an invariant about
the rest of the list. -/
theorem foldlM_eq_ok_of_invariant {good : σ → α → Prop} {step : σ → α → σ}
    {f : σ → α → Except ε σ} {invariant : σ → List α → Prop}
    (hf : ∀ state a rest, invariant state (a :: rest) →
      ∀ result, f state a = .ok result ↔ good state a ∧ result = step state a)
    (hinvariant : ∀ state a rest, invariant state (a :: rest) → good state a →
      invariant (step state a) rest)
    {state result : σ} {list : List α} (h : invariant state list) :
    list.foldlM f state = .ok result ↔
      Guarded good step state list ∧ result = list.foldl step state := by
  induction list generalizing state with
  | nil =>
    rw [List.foldlM_nil, Except.pure_eq_ok]
    exact ⟨fun h => ⟨trivial, h.symm⟩, fun h => h.2.symm⟩
  | cons head rest ih =>
    rw [List.foldlM_cons, Except.bind_eq_ok]
    constructor
    · rintro ⟨next, hstep, hrest⟩
      obtain ⟨hgood, rfl⟩ := (hf _ _ _ h _).mp hstep
      obtain ⟨hguarded, rfl⟩ := (ih (hinvariant _ _ _ h hgood)).mp hrest
      exact ⟨⟨hgood, hguarded⟩, rfl⟩
    · rintro ⟨⟨hgood, hguarded⟩, rfl⟩
      exact ⟨step state head, (hf _ _ _ h _).mpr ⟨hgood, rfl⟩,
        (ih (hinvariant _ _ _ h hgood)).mpr ⟨hguarded, rfl⟩⟩

/-- A fallible loop whose step is known on every state succeeds exactly on guarded lists. -/
theorem foldlM_eq_ok {good : σ → α → Prop} {step : σ → α → σ} {f : σ → α → Except ε σ}
    (hf : ∀ state a result, f state a = .ok result ↔ good state a ∧ result = step state a)
    {state result : σ} {list : List α} : list.foldlM f state = .ok result ↔
      Guarded good step state list ∧ result = list.foldl step state :=
  @foldlM_eq_ok_of_invariant ε α σ good step f (fun _ _ => True) (fun state a _ _ => hf state a)
    (fun _ _ _ _ _ => trivial) state result list trivial

/-- Two conditions guard a list together when each of them does. -/
theorem guarded_and {first second : σ → α → Prop} {step : σ → α → σ} {state : σ} {list : List α} :
    Guarded (fun state a => first state a ∧ second state a) step state list ↔
      Guarded first step state list ∧ Guarded second step state list := by
  simp only [guarded_iff]
  exact ⟨fun h => ⟨fun before a after hsplit => (h before a after hsplit).1,
    fun before a after hsplit => (h before a after hsplit).2⟩,
    fun h before a after hsplit => ⟨h.1 before a after hsplit, h.2 before a after hsplit⟩⟩

/-- A relation that good steps keep, and under which the conditions agree, carries guardedness
from one state to the other. -/
theorem guarded_simulation {τ : Type*} {good : σ → α → Prop} {step : σ → α → σ}
    {good' : τ → α → Prop} {step' : τ → α → τ} {related : σ → τ → Prop} {list : List α}
    (hgood : ∀ state state', related state state' → ∀ a ∈ list, (good state a ↔ good' state' a))
    (hstep : ∀ state state', related state state' → ∀ a ∈ list,
      related (step state a) (step' state' a))
    {state : σ} {state' : τ} (h : related state state') :
    Guarded good step state list ↔ Guarded good' step' state' list := by
  induction list generalizing state state' with
  | nil => exact Iff.rfl
  | cons head rest ih =>
    have hhead := hgood state state' h head List.mem_cons_self
    have hrest := ih
      (fun s s' hs a ha => hgood s s' hs a (List.mem_cons_of_mem _ ha))
      (fun s s' hs a ha => hstep s s' hs a (List.mem_cons_of_mem _ ha))
      (hstep state state' h head List.mem_cons_self)
    exact and_congr hhead hrest

/-- The elements are mapped before they are checked. -/
theorem guarded_map {β : Type*} {good : σ → β → Prop} {step : σ → β → σ} {f : α → β}
    {state : σ} {list : List α} :
    Guarded good step state (list.map f) ↔
      Guarded (fun state a => good state (f a)) (fun state a => step state (f a)) state list := by
  induction list generalizing state with
  | nil => exact Iff.rfl
  | cons head rest ih => exact and_congr Iff.rfl ih

section Pointwise

variable {κ τ : Type*} [DecidableEq κ] {key : α → κ}

/-- The step of one entry of a table, as a step of the table. -/
def entryStep (key : α → κ) (step : τ → α → τ) (table : κ → τ) (a : α) : κ → τ :=
  Function.update table (key a) (step (table (key a)) a)

/-- Over a table of independent entries, a list is guarded when it is guarded at every entry. -/
theorem guarded_pointwise {good : τ → α → Prop} {step : τ → α → τ} {table : κ → τ}
    {list : List α} :
    Guarded (fun table a => good (table (key a)) a) (entryStep key step) table list ↔
      ∀ k, Guarded good step (table k) (list.filter (fun a => key a = k)) := by
  induction list generalizing table with
  | nil => exact ⟨fun _ _ => trivial, fun _ => trivial⟩
  | cons head rest ih =>
    rw [Guarded, ih]
    constructor
    · rintro ⟨hhead, hrest⟩ k
      have hk := hrest k
      by_cases hkey : key head = k
      · subst hkey
        rw [List.filter_cons_of_pos (by simp)]
        rw [entryStep, Function.update_self] at hk
        exact ⟨hhead, hk⟩
      · rw [List.filter_cons_of_neg (by simpa using hkey)]
        rwa [entryStep, Function.update_of_ne (fun heq => hkey heq.symm)] at hk
    · intro h
      have hown := h (key head)
      rw [List.filter_cons_of_pos (by simp)] at hown
      refine ⟨hown.1, fun k => ?_⟩
      by_cases hkey : key head = k
      · subst hkey
        rw [entryStep, Function.update_self]
        exact hown.2
      · have hk := h k
        rw [List.filter_cons_of_neg (by simpa using hkey)] at hk
        rwa [entryStep, Function.update_of_ne (fun heq => hkey heq.symm)]

end Pointwise

end SkyAutoPlayer.Foundation
