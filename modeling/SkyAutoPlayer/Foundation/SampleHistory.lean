import Mathlib.Data.Nat.ModEq

/-!
# Histories of samples

A ring keeps the last values of a history, each at its index modulo the length of the ring. The
count of marked values among the last ones follows from the count before by the value that is added
and the value that is evicted. A run of a property is a maximal interval of indices that have it.
-/

namespace SkyAutoPlayer.Foundation

universe u

variable {α : Type u}

/-- A ring holds the last values of a history, each at its index modulo the length. -/
def HoldsLast (ring values : List α) : Prop :=
  ∀ index < values.length, values.length ≤ index + ring.length →
    ring[index % ring.length]? = values[index]?

/-- Indices that are less than the length of a ring apart have different places. -/
theorem place_ne {size index later : ℕ} (hlt : index < later) (hnear : later < index + size) :
    index % size ≠ later % size := by
  intro hsame
  have hdvd := (Nat.modEq_iff_dvd' (Nat.le_of_lt hlt)).mp hsame
  have hle := Nat.le_of_dvd (by omega) hdvd
  omega

/-- A value that is written to the next place belongs to the last ones. -/
theorem HoldsLast.push {ring values : List α} (h : HoldsLast ring values) (value : α) :
    HoldsLast (ring.set (values.length % ring.length) value) (values ++ [value]) := by
  intro index hindex hrecent
  rw [List.length_append, List.length_singleton] at hindex hrecent
  rw [List.length_set] at hrecent ⊢
  rcases Nat.lt_or_ge index values.length with hold | hnew
  · rw [List.getElem?_set_ne (place_ne hold (by omega)).symm, List.getElem?_append_left hold]
    exact h index hold (by omega)
  · have hlast : index = values.length := by omega
    have hplace : values.length % ring.length < ring.length := Nat.mod_lt _ (by omega)
    rw [hlast, List.getElem?_set_self hplace, List.getElem?_concat_length]

/-- The next place of a full ring holds the oldest of the last values. -/
theorem HoldsLast.oldest {ring values : List α} (h : HoldsLast ring values) (hpos : 0 < ring.length)
    (hfull : ring.length ≤ values.length) :
    ring[values.length % ring.length]? = values[values.length - ring.length]? := by
  have hplace := h (values.length - ring.length) (by omega) (by omega)
  rw [← Nat.mod_eq_sub_mod hfull] at hplace
  exact hplace

/-- How many of the last values are marked. -/
def countLast (size : ℕ) (values : List Bool) : ℕ :=
  (values.drop (values.length - size)).count true

/-- While there is room, a value is added. -/
theorem countLast_push_of_room {size : ℕ} {values : List Bool} (hroom : values.length < size)
    (value : Bool) : countLast size (values ++ [value]) = countLast size values + value.toNat := by
  have hbefore : values.length - size = 0 := by omega
  have hafter : (values ++ [value]).length - size = 0 := by simp; omega
  rw [countLast, countLast, hbefore, hafter, List.drop_zero, List.drop_zero, List.count_append]
  cases value <;> rfl

/-- When there is no more room, a value is added and the oldest one is evicted. -/
theorem countLast_push_of_full {size : ℕ} {values : List Bool} {oldest : Bool}
    (hfull : size ≤ values.length) (holdest : values[values.length - size]? = some oldest)
    (value : Bool) :
    countLast size (values ++ [value]) + oldest.toNat = countLast size values + value.toNat := by
  obtain ⟨hlt, hvalue⟩ := List.getElem?_eq_some_iff.mp holdest
  have hafter : (values ++ [value]).length - size = values.length - size + 1 := by simp; omega
  rw [countLast, countLast, hafter, List.drop_append_of_le_length (by omega), List.count_append,
    List.drop_eq_getElem_cons hlt, hvalue, List.count_cons]
  cases value <;> cases oldest <;> simp

/-- The indices from one to another are a run of a property that does not begin earlier. -/
structure RunFrom (P : ℕ → Prop) (first last : ℕ) : Prop where
  le : first ≤ last
  all : ∀ index, first ≤ index → index ≤ last → P index
  maximal : ∀ index, index + 1 = first → ¬P index

namespace RunFrom

variable {P : ℕ → Prop} {first other last : ℕ}

/-- A run has one beginning. -/
theorem unique (h : RunFrom P first last) (hother : RunFrom P other last) : first = other := by
  rcases Nat.lt_trichotomy first other with hlt | hsame | hgt
  · have hP := h.all (other - 1) (by omega) (by have := hother.le; omega)
    exact absurd hP (hother.maximal (other - 1) (by omega))
  · exact hsame
  · have hP := hother.all (first - 1) (by omega) (by have := h.le; omega)
    exact absurd hP (h.maximal (first - 1) (by omega))

/-- A run goes on. -/
theorem extend (h : RunFrom P first last) (hP : P (last + 1)) : RunFrom P first (last + 1) where
  le := Nat.le_succ_of_le h.le
  all index hfirst hlast := by
    rcases Nat.lt_or_ge last index with hnew | hold
    · have hindex : index = last + 1 := by omega
      rw [hindex]
      exact hP
    · exact h.all index hfirst hold
  maximal := h.maximal

/-- A run begins after an index that does not have the property. -/
theorem start (hnot : ∀ index, index + 1 = first → ¬P index) (hP : P first) :
    RunFrom P first first where
  le := Nat.le_refl first
  all index hfirst hlast := by
    have hindex : index = first := by omega
    rw [hindex]
    exact hP
  maximal := hnot

/-- A run was shorter before. -/
theorem shorten (h : RunFrom P first last) (hle : first ≤ other) (hother : other ≤ last) :
    RunFrom P first other where
  le := hle
  all index hfirst hlast := h.all index hfirst (Nat.le_trans hlast hother)
  maximal := h.maximal

end RunFrom

end SkyAutoPlayer.Foundation
