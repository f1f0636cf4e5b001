import Mathlib.Data.List.Basic

/-!
# Longest common subsequences

A number is the length of a longest common subsequence of two lists when some common subsequence
has it and none is longer. The length for two lists with a last element is the length without these
elements and one more if they are the same, and otherwise the greater length without one of them.
-/

namespace SkyAutoPlayer.Foundation

universe u

variable {α : Type u} {left right common : List α} {a b : α}

/-- The length of a longest list that is a subsequence of both lists. -/
structure LongestCommon (left right : List α) (length : ℕ) : Prop where
  reached : ∃ common : List α, common.Sublist left ∧ common.Sublist right ∧ common.length = length
  bound : ∀ common : List α, common.Sublist left → common.Sublist right → common.length ≤ length

/-- A subsequence of a list with a last element leaves the element out or ends with it. -/
theorem sublist_concat_cases (h : common.Sublist (left ++ [a])) :
    common.Sublist left ∨ ∃ init, common = init ++ [a] ∧ init.Sublist left := by
  obtain ⟨init, last, rfl, hinit, hlast⟩ := List.sublist_append_iff.mp h
  rcases List.sublist_singleton.mp hlast with hnil | hsingle
  · left
    rw [hnil, List.append_nil]
    exact hinit
  · right
    exact ⟨init, by rw [hsingle], hinit⟩

namespace LongestCommon

variable {first second : ℕ}

/-- Two lists have one greatest length. -/
theorem unique (hfirst : LongestCommon left right first)
    (hsecond : LongestCommon left right second) : first = second := by
  obtain ⟨one, honeLeft, honeRight, hone⟩ := hfirst.reached
  obtain ⟨other, hotherLeft, hotherRight, hother⟩ := hsecond.reached
  have hle := hsecond.bound one honeLeft honeRight
  have hge := hfirst.bound other hotherLeft hotherRight
  omega

/-- The lists can be exchanged. -/
theorem symm (h : LongestCommon left right first) : LongestCommon right left first := by
  obtain ⟨common, hleft, hright, hlength⟩ := h.reached
  constructor
  · exact ⟨common, hright, hleft, hlength⟩
  · intro common hright hleft
    exact h.bound common hleft hright

/-- An empty list has only the empty subsequence. -/
theorem nil_left (right : List α) : LongestCommon [] right 0 := by
  constructor
  · exact ⟨[], List.Sublist.refl [], List.nil_sublist right, rfl⟩
  · intro common hleft _
    rw [List.sublist_nil.mp hleft]
    exact Nat.le_refl 0

/-- An empty list has only the empty subsequence. -/
theorem nil_right (left : List α) : LongestCommon left [] 0 :=
  (nil_left left).symm

/-- A list is its own longest subsequence. -/
theorem self (list : List α) : LongestCommon list list list.length := by
  constructor
  · exact ⟨list, List.Sublist.refl list, List.Sublist.refl list, rfl⟩
  · intro common hleft _
    exact hleft.length_le

/-- A common subsequence is no longer than the first list. -/
theorem le_left (h : LongestCommon left right first) : first ≤ left.length := by
  obtain ⟨common, hleft, -, hlength⟩ := h.reached
  have hle := hleft.length_le
  omega

/-- A common subsequence is no longer than the second list. -/
theorem le_right (h : LongestCommon left right first) : first ≤ right.length :=
  h.symm.le_left

/-- The length is half of both lengths together only for equal lists. -/
theorem eq_of_double (h : LongestCommon left right first)
    (hdouble : 2 * first = left.length + right.length) : left = right := by
  have hleftLength := h.le_left
  have hrightLength := h.le_right
  obtain ⟨common, hleft, hright, hlength⟩ := h.reached
  have hcommonLeft := hleft.eq_of_length (by omega)
  have hcommonRight := hright.eq_of_length (by omega)
  exact hcommonLeft.symm.trans hcommonRight

/-- One more common element at the end. -/
theorem concat_same (h : LongestCommon left right first) :
    LongestCommon (left ++ [a]) (right ++ [a]) (first + 1) := by
  constructor
  · obtain ⟨common, hleft, hright, hlength⟩ := h.reached
    have hlonger : (common ++ [a]).length = first + 1 := by simp [hlength]
    exact ⟨common ++ [a], hleft.append_right [a], hright.append_right [a], hlonger⟩
  · intro common hleft hright
    rcases sublist_concat_cases hleft with hshort | ⟨init, rfl, hinitLeft⟩
    · -- without its last element, the subsequence is one of both lists
      rcases sublist_concat_cases hright with hboth | ⟨init, rfl, hinitRight⟩
      · exact Nat.le_succ_of_le (h.bound common hshort hboth)
      · have hinitLeft := (List.sublist_append_left init [a]).trans hshort
        have hle := h.bound init hinitLeft hinitRight
        simp only [List.length_append, List.length_singleton]
        omega
    · rcases sublist_concat_cases hright with hshort | ⟨init', hsame, hinitRight⟩
      · have hinitRight := (List.sublist_append_left init [a]).trans hshort
        have hle := h.bound init hinitLeft hinitRight
        simp only [List.length_append, List.length_singleton]
        omega
      · rw [← (List.append_inj' hsame rfl).1] at hinitRight
        have hle := h.bound init hinitLeft hinitRight
        simp only [List.length_append, List.length_singleton]
        omega

/-- Two different elements at the end, of which a common subsequence has at most one. -/
theorem concat_other (hne : a ≠ b) (hfirst : LongestCommon left (right ++ [b]) first)
    (hsecond : LongestCommon (left ++ [a]) right second) :
    LongestCommon (left ++ [a]) (right ++ [b]) (max first second) := by
  constructor
  · rcases Nat.le_total first second with hle | hle
    · obtain ⟨common, hleft, hright, hlength⟩ := hsecond.reached
      rw [Nat.max_eq_right hle]
      exact ⟨common, hleft, hright.trans (List.sublist_append_left right [b]), hlength⟩
    · obtain ⟨common, hleft, hright, hlength⟩ := hfirst.reached
      rw [Nat.max_eq_left hle]
      exact ⟨common, hleft.trans (List.sublist_append_left left [a]), hright, hlength⟩
  · intro common hleft hright
    rcases sublist_concat_cases hleft with hshort | ⟨init, rfl, -⟩
    · exact Nat.le_trans (hfirst.bound common hshort hright) (Nat.le_max_left first second)
    · rcases sublist_concat_cases hright with hshort | ⟨init', hsame, -⟩
      · exact Nat.le_trans (hsecond.bound _ hleft hshort) (Nat.le_max_right first second)
      · have hlast := (List.append_inj' hsame rfl).2
        exact absurd (List.cons.inj hlast).1 hne

end LongestCommon

end SkyAutoPlayer.Foundation
