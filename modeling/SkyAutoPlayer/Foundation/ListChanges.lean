import Mathlib.Data.List.Basic

/-!
# Lists whose elements change by steps

A list is updated in place, one element at a time, and an element changes only by certain steps of its
own. What the updates do all in all is known element by element, and composes where the steps do.
-/

namespace SkyAutoPlayer.Foundation

/-- An element was put into its place, or is left in another one. -/
theorem getElem?_set_eq_some {α : Type} {list : List α} {index other : ℕ} {new value : α}
    (hlt : index < list.length) : (list.set index new)[other]? = some value ↔
      index = other ∧ new = value ∨ index ≠ other ∧ list[other]? = some value := by
  rw [List.getElem?_set]
  by_cases h : index = other <;> simp [h]
  omega

/-- Every element stays, or changes by a step. -/
def Changes {α : Type} (step : ℕ → α → α → Prop) (before after : List α) : Prop :=
  ∀ (index : ℕ) (old : α), before[index]? = some old →
    ∃ new, after[index]? = some new ∧ (new = old ∨ step index old new)

namespace Changes

variable {α : Type} {step first second : ℕ → α → α → Prop} {before middle after : List α}

/-- The same elements do not change. -/
theorem refl (list : List α) : Changes step list list := by
  intro index old hold
  exact ⟨old, hold, .inl rfl⟩

/-- One element is replaced. -/
theorem set {index : ℕ} {old new : α} (hold : before[index]? = some old)
    (hstep : step index old new) : Changes step before (before.set index new) := by
  intro other element helement
  by_cases hsame : index = other
  · subst hsame
    rw [hold] at helement
    obtain rfl := Option.some.inj helement
    have hlt := (List.getElem?_eq_some_iff.mp hold).1
    exact ⟨new, List.getElem?_set_self hlt, .inr hstep⟩
  · rw [List.getElem?_set_ne hsame]
    exact ⟨element, helement, .inl rfl⟩

/-- Changes compose where their steps do. -/
theorem comp (hbefore : Changes first before middle) (hafter : Changes second middle after)
    (hfirst : ∀ index old new, first index old new → step index old new)
    (hsecond : ∀ index old new, second index old new → step index old new)
    (hboth : ∀ index old between new, first index old between → second index between new →
      step index old new) : Changes step before after := by
  intro index old hold
  obtain ⟨between, hbetween, hone⟩ := hbefore index old hold
  obtain ⟨new, hnew, htwo⟩ := hafter index between hbetween
  refine ⟨new, hnew, ?_⟩
  rcases hone with rfl | hone
  · exact htwo.imp_right (hsecond index _ new)
  · rcases htwo with rfl | htwo
    · exact .inr (hfirst index old _ hone)
    · exact .inr (hboth index old between new hone htwo)

/-- Changes by transitive steps compose. -/
theorem trans (hbefore : Changes step before middle) (hafter : Changes step middle after)
    (hboth : ∀ index old between new, step index old between → step index between new →
      step index old new) : Changes step before after :=
  hbefore.comp hafter (fun _ _ _ h => h) (fun _ _ _ h => h) hboth

/-- Changes by some steps are changes by more steps. -/
theorem mono (h : Changes first before after)
    (hstep : ∀ index old new, first index old new → step index old new) :
    Changes step before after := by
  intro index old hold
  obtain ⟨new, hnew, hchange⟩ := h index old hold
  exact ⟨new, hnew, hchange.imp_right (hstep index old new)⟩

end Changes

end SkyAutoPlayer.Foundation
