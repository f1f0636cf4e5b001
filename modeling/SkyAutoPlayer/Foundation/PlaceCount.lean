import Mathlib.Data.Finset.Card
import Mathlib.Data.Finset.Range
import Mathlib.Data.List.Induction

/-!
# The places of a value in a list

A value occurs in a list as often as there are places that hold it, and replacing one entry moves one
occurrence from the old value to the new one.
-/

namespace SkyAutoPlayer.Foundation

universe u

variable {α : Type u} [DecidableEq α]

/-- The places of a list that hold a value. -/
def places (list : List α) (value : α) : Finset ℕ :=
  (Finset.range list.length).filter fun index => list[index]? = some value

/-- A place holds its value. -/
@[simp] theorem mem_places {list : List α} {value : α} {index : ℕ} :
    index ∈ places list value ↔ list[index]? = some value := by
  rw [places, Finset.mem_filter, Finset.mem_range]
  exact ⟨And.right, fun h => ⟨(List.getElem?_eq_some_iff.mp h).1, h⟩⟩

/-- A value occurs once for each of its places. -/
theorem card_places (list : List α) (value : α) : (places list value).card = list.count value := by
  induction list using List.reverseRecOn with
  | nil => rfl
  | append_singleton list last ih =>
    have hbefore : ((Finset.range list.length).filter fun index =>
        (list ++ [last])[index]? = some value) = places list value := by
      apply Finset.filter_congr
      intro index hindex
      rw [List.getElem?_append_left (Finset.mem_range.mp hindex)]
    rw [places, List.length_append, List.length_singleton, Finset.range_add_one,
      Finset.filter_insert, hbefore, List.getElem?_concat_length, List.count_append, ← ih]
    by_cases h : last = value
    · have hnot : list.length ∉ places list value := by simp
      rw [if_pos (by rw [h]), Finset.card_insert_of_notMem hnot, h, List.count_singleton_self]
    · simp [h]

/-- Replacing an entry takes one occurrence from the old value and gives one to the new value. -/
theorem count_set_add {list : List α} {index : ℕ} {old : α} (h : list[index]? = some old)
    (new value : α) :
    (list.set index new).count value + (if old = value then 1 else 0) =
      list.count value + if new = value then 1 else 0 := by
  obtain ⟨hlt, hold⟩ := List.getElem?_eq_some_iff.mp h
  rw [List.count_set hlt, hold]
  simp only [beq_iff_eq]
  by_cases hsame : old = value
  · have hpositive : 0 < list.count value := by
      rw [List.count_pos_iff, ← hsame]
      exact List.mem_of_getElem? h
    simp only [if_pos hsame]
    omega
  · simp only [if_neg hsame]
    omega

end SkyAutoPlayer.Foundation
