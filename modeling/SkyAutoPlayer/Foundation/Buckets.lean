import Mathlib.Data.List.Perm.Basic
import Mathlib.Data.List.Basic

/-!
# Buckets of a list and consecutive differences

Distinct keys that cover a list split it into buckets; together the buckets are the list again, up
to order. The consecutive differences of a list of numbers are what a walk over it measures between
neighbours.
-/

namespace SkyAutoPlayer.Foundation

universe u v

variable {α : Type u} {κ : Type v} [DecidableEq κ]

/-- The buckets of distinct keys that cover a list are a permutation of it. -/
theorem perm_flatMap_bucket {key : α → κ} {keys : List κ} (hkeys : keys.Nodup) {list : List α}
    (hcover : ∀ a ∈ list, key a ∈ keys) :
    (keys.flatMap fun k => list.filter fun a => key a = k).Perm list := by
  induction keys generalizing list with
  | nil =>
    cases list with
    | nil => exact .nil
    | cons a list => exact absurd (hcover a List.mem_cons_self) List.not_mem_nil
  | cons k keys ih =>
    obtain ⟨hfresh, hrest⟩ := List.nodup_cons.mp hkeys
    let others := list.filter fun a => !decide (key a = k)
    have hothers : ∀ a ∈ others, key a ∈ keys := by
      intro a ha
      obtain ⟨hmem, hne⟩ := List.mem_filter.mp ha
      rcases List.mem_cons.mp (hcover a hmem) with heq | hkey
      · simp [heq] at hne
      · exact hkey
    have hsame : (keys.flatMap fun k' => list.filter fun a => key a = k') =
        keys.flatMap fun k' => others.filter fun a => key a = k' := by
      apply List.flatMap_congr
      intro k' hk'
      have hne : k' ≠ k := fun heq => hfresh (heq ▸ hk')
      rw [List.filter_filter]
      apply List.filter_congr
      intro a _
      by_cases heq : key a = k'
      · simp [heq, hne]
      · simp [heq]
    rw [List.flatMap_cons, hsame]
    exact ((ih hrest hothers).append_left _).trans (List.filter_append_perm _ list)

/-- The differences of neighbours. -/
def differences (values : List ℕ) : List ℕ := values.zipWith (fun a b => b - a) values.tail

@[simp] theorem differences_nil : differences [] = [] := rfl

/-- The first difference is that to the next value, when there is one. -/
theorem differences_cons (first : ℕ) (values : List ℕ) :
    differences (first :: values) =
      (values.head?.map (· - first)).toList ++ differences values := by
  cases values with
  | nil => rfl
  | cons next values => rfl

/-- A running minimum over a list is its minimum. -/
theorem foldl_runningMin_eq_min? {step : Option ℕ → ℕ → Option ℕ}
    (hnone : ∀ value, step none value = some value)
    (hsome : ∀ current value, step (some current) value = some (min current value))
    (values : List ℕ) : values.foldl step none = values.min? := by
  cases values with
  | nil => rfl
  | cons first values =>
    rw [List.foldl_cons, hnone, List.min?_cons']
    induction values generalizing first with
    | nil => rfl
    | cons next values ih => rw [List.foldl_cons, hsome, ih, List.foldl_cons]

/-- The minimum does not depend on the order. -/
theorem min?_perm {first second : List ℕ} (h : first.Perm second) : first.min? = second.min? := by
  cases hmin : second.min? with
  | none =>
    rw [List.min?_eq_none_iff] at hmin ⊢
    rw [hmin] at h
    exact List.perm_nil.mp h
  | some least =>
    rw [List.min?_eq_some_iff] at hmin ⊢
    exact ⟨h.mem_iff.mpr hmin.1, fun value hvalue => hmin.2 value (h.mem_iff.mp hvalue)⟩

end SkyAutoPlayer.Foundation
