import Mathlib.Data.Finset.Max
import Mathlib.Data.List.Sort
import Mathlib.Order.Interval.Finset.Nat

/-!
# Counts in an increasing list

In an increasing list the elements below a bound come first, so that the count of them is the
position where the others begin, and an interval of values is an interval of positions.
-/

namespace SkyAutoPlayer.Foundation

variable {list : List ℕ} {index bound low high : ℕ}

/-- How many elements are below a bound. -/
def countBelow (bound : ℕ) (list : List ℕ) : ℕ := list.countP (· < bound)

/-- How many elements are from one bound to another. -/
def countBetween (low high : ℕ) (list : List ℕ) : ℕ :=
  list.countP fun element => low ≤ element ∧ element ≤ high

/-- The positions of the elements below a bound come first. -/
theorem getElem_lt_iff (h : list.Pairwise (· < ·)) (hindex : index < list.length) :
    list[index] < bound ↔ index < countBelow bound list := by
  unfold countBelow
  induction list generalizing index with
  | nil => exact absurd hindex (Nat.not_lt_zero index)
  | cons head rest ih =>
    obtain ⟨hhead, hrest⟩ := List.pairwise_cons.mp h
    by_cases hbelow : head < bound
    · rw [List.countP_cons_of_pos (by simpa using hbelow)]
      cases index with
      | zero => simp [hbelow]
      | succ index =>
        rw [List.getElem_cons_succ, ih hrest (by simpa using hindex)]
        omega
    · have hnone : rest.countP (· < bound) = 0 := by
        rw [List.countP_eq_zero]
        intro element hmem
        have hlater := hhead element hmem
        simp
        omega
      rw [List.countP_cons_of_neg (by simpa using hbelow), hnone]
      have hlater : head ≤ (head :: rest)[index] := by
        cases index with
        | zero => exact Nat.le_refl head
        | succ index => exact Nat.le_of_lt (hhead _ (List.getElem_mem _))
      omega

/-- An element and those below it are one more than its position. -/
theorem countBelow_succ_getElem (h : list.Pairwise (· < ·)) (hindex : index < list.length) :
    countBelow (list[index] + 1) list = index + 1 := by
  have hself := @getElem_lt_iff list index (list[index] + 1) h hindex
  have hle : countBelow (list[index] + 1) list ≤ list.length := List.countP_le_length
  rcases Nat.lt_or_ge (index + 1) list.length with hmore | hlast
  · have hnext := @getElem_lt_iff list (index + 1) (list[index] + 1) h hmore
    have hlater := List.pairwise_iff_getElem.mp h index (index + 1) hindex hmore (Nat.lt_succ_self _)
    omega
  · omega

/-- A greater bound has no fewer elements below it. -/
theorem countBelow_mono {bound' : ℕ} (hle : bound ≤ bound') :
    countBelow bound list ≤ countBelow bound' list := by
  apply List.countP_mono_left
  intro element _ hmem
  simp only [decide_eq_true_eq] at hmem ⊢
  omega

/-- The elements of a list up to the first that fails are those that pass, when passing is a
property of a prefix. -/
theorem length_takeWhile_eq_countP {p : ℕ → Bool}
    (h : list.Pairwise fun earlier later => p later = true → p earlier = true) :
    (list.takeWhile p).length = list.countP p := by
  induction list with
  | nil => rfl
  | cons head rest ih =>
    obtain ⟨hhead, hrest⟩ := List.pairwise_cons.mp h
    by_cases hpass : p head = true
    · rw [List.takeWhile_cons_of_pos hpass, List.countP_cons_of_pos hpass, List.length_cons,
        ih hrest]
    · have hnone : rest.countP p = 0 := by
        rw [List.countP_eq_zero]
        intro element hmem hlater
        exact hpass (hhead element hmem hlater)
      rw [List.takeWhile_cons_of_neg hpass, List.countP_cons_of_neg hpass, hnone, List.length_nil]

/-- The elements up to an upper bound are those below a lower bound and those between both. -/
theorem countBelow_add_countBetween (hle : low ≤ high + 1) :
    countBelow low list + countBetween low high list = countBelow (high + 1) list := by
  unfold countBelow countBetween
  induction list with
  | nil => rfl
  | cons head rest ih =>
    simp only [List.countP_cons, decide_eq_true_eq]
    split_ifs <;> omega

/-- A smaller interval has fewer elements. -/
theorem countBetween_mono {inner outer : ℕ} (hlow : low ≤ inner) (hhigh : outer ≤ high) :
    countBetween inner outer list ≤ countBetween low high list := by
  apply List.countP_mono_left
  intro element _ hmem
  simp only [decide_eq_true_eq] at hmem ⊢
  omega

/-- An interval with elements has a first one, from which on it has all of them. -/
theorem exists_first (hpos : 0 < countBetween low high list) :
    ∃ first ∈ list, low ≤ first ∧ first ≤ high ∧
      ∀ element ∈ list, low ≤ element → element ≤ high → first ≤ element := by
  obtain ⟨some, hsome, hwithin⟩ := List.countP_pos_iff.mp hpos
  have hmem : some ∈ (list.filter fun element => low ≤ element ∧ element ≤ high).toFinset :=
    List.mem_toFinset.mpr (List.mem_filter.mpr ⟨hsome, hwithin⟩)
  obtain ⟨first, hfirst, hleast⟩ := Finset.exists_min_image _ id ⟨some, hmem⟩
  simp only [List.mem_toFinset, List.mem_filter, decide_eq_true_eq, id] at hfirst hleast
  exact ⟨first, hfirst.1, hfirst.2.1, hfirst.2.2, fun element helement hle hge =>
    hleast element ⟨helement, hle, hge⟩⟩

/-- An interval with elements has a last one, up to which it has all of them. -/
theorem exists_last (hpos : 0 < countBetween low high list) :
    ∃ last ∈ list, low ≤ last ∧ last ≤ high ∧
      ∀ element ∈ list, low ≤ element → element ≤ high → element ≤ last := by
  obtain ⟨some, hsome, hwithin⟩ := List.countP_pos_iff.mp hpos
  have hmem : some ∈ (list.filter fun element => low ≤ element ∧ element ≤ high).toFinset :=
    List.mem_toFinset.mpr (List.mem_filter.mpr ⟨hsome, hwithin⟩)
  obtain ⟨last, hlast, hgreatest⟩ := Finset.exists_max_image _ id ⟨some, hmem⟩
  simp only [List.mem_toFinset, List.mem_filter, decide_eq_true_eq, id] at hlast hgreatest
  exact ⟨last, hlast.1, hlast.2.1, hlast.2.2, fun element helement hle hge =>
    hgreatest element ⟨helement, hle, hge⟩⟩

/-- Intervals with the same elements have as many. -/
theorem countBetween_congr {low' high' : ℕ}
    (h : ∀ element ∈ list, (low ≤ element ∧ element ≤ high) ↔
      (low' ≤ element ∧ element ≤ high')) :
    countBetween low high list = countBetween low' high' list := by
  apply List.countP_congr
  intro element hmem
  simp only [decide_eq_true_eq]
  exact h element hmem

/-- An interval has no more elements than values. -/
theorem countBetween_le (h : list.Pairwise (· < ·)) :
    countBetween low high list ≤ high + 1 - low := by
  have hnodup : (list.filter fun element => low ≤ element ∧ element ≤ high).Nodup :=
    (h.imp Nat.ne_of_lt).filter _
  unfold countBetween
  rw [List.countP_eq_length_filter, ← List.toFinset_card_of_nodup hnodup, ← Nat.card_Icc]
  apply Finset.card_le_card
  intro element hmem
  simpa using (List.mem_filter.mp (List.mem_toFinset.mp hmem)).2

end SkyAutoPlayer.Foundation
