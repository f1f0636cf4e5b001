import Mathlib.Data.List.Induction
import SkyAutoPlayer.Foundation.Checked

/-!
# Counting by the past

An element of a log is counted by what precedes it. A log that grows by one element counts at most
one more, and a part whose elements are not counted after what precedes them counts nothing.
-/

namespace SkyAutoPlayer.Foundation

universe u

variable {α : Type u}

/-- How many elements of a log are counted by what precedes them. -/
def countPast (p : List α → α → Bool) (log : List α) : ℕ :=
  (List.range log.length).countP fun index => (log[index]?).any (p (log.take index))

/-- Nothing is counted in an empty log. -/
@[simp] theorem countPast_nil (p : List α → α → Bool) : countPast p [] = 0 := rfl

/-- A further element is counted by the whole log before it. -/
theorem countPast_concat (p : List α → α → Bool) (log : List α) (a : α) :
    countPast p (log ++ [a]) = countPast p log + if p log a then 1 else 0 := by
  have hbefore : (List.range log.length).countP
        (fun index => ((log ++ [a])[index]?).any (p ((log ++ [a]).take index))) =
      countPast p log := by
    apply List.countP_congr
    intro index hindex
    have hlt := List.mem_range.mp hindex
    rw [List.getElem?_append_left hlt, List.take_append_of_le_length (Nat.le_of_lt hlt)]
  rw [countPast, List.length_append, List.length_singleton, List.range_succ, List.countP_append,
    hbefore, List.countP_singleton]
  simp

/-- A part that is not counted after what precedes it adds nothing. -/
theorem countPast_append_eq {p : List α → α → Bool} {log part : List α}
    (h : ∀ before a after, part = before ++ a :: after → p (log ++ before) a = false) :
    countPast p (log ++ part) = countPast p log := by
  induction part using List.reverseRecOn with
  | nil => rw [List.append_nil]
  | append_singleton part a ih =>
    have hlast : p (log ++ part) a = false := h part a [] rfl
    rw [← List.append_assoc, countPast_concat, hlast, ih]
    · rfl
    · intro before b after hsplit
      apply h before b (after ++ [a])
      rw [hsplit, List.append_assoc, List.cons_append]

/-- The last element with a property. -/
def lastWhere (p : α → Bool) (list : List α) : Option α := (list.filter p).getLast?

/-- A further element is the last one with a property if it has it. -/
theorem lastWhere_concat (p : α → Bool) (list : List α) (a : α) :
    lastWhere p (list ++ [a]) = if p a then some a else lastWhere p list := by
  rw [lastWhere, List.filter_append, lastWhere]
  cases ha : p a <;> simp [ha]

/-- The last element with a property is one of the list and has it. -/
theorem lastWhere_eq_some {p : α → Bool} {list : List α} {a : α} (h : lastWhere p list = some a) :
    a ∈ list ∧ p a = true :=
  List.mem_filter.mp (List.mem_of_getLast? h)

/-- A saturating counter is the least of the count and its limit. -/
theorem saturatingAdd_min (w count : ℕ) :
    saturatingAdd w (min count (2 ^ w - 1)) 1 = min (count + 1) (2 ^ w - 1) := by
  rw [saturatingAdd]
  omega

end SkyAutoPlayer.Foundation
