import Mathlib.Data.List.Induction

/-!
# Pages of a list

A window is cut from a list by an offset and a limit. A loop that counts what it accepts and keeps
it while the count is in the window computes the window of the accepted elements, and the windows at
the multiples of the limit are the list again.
-/

namespace SkyAutoPlayer.Foundation

universe u v

variable {α : Type u} {β : Type v}

/-- The part of a list from an offset, at most a limit long. -/
def window (offset limit : ℕ) (list : List α) : List α := (list.drop offset).take limit

@[simp] theorem window_nil (offset limit : ℕ) : window offset limit ([] : List α) = [] := by
  simp [window]

/-- Windows commute with maps. -/
theorem window_map (f : α → β) (offset limit : ℕ) (list : List α) :
    window offset limit (list.map f) = (window offset limit list).map f := by
  rw [window, window, List.map_take, List.map_drop]

/-- Windows commute with lookups that all succeed. -/
theorem window_filterMap {f : α → Option β} {list : List α} (h : ∀ a ∈ list, (f a).isSome)
    (offset limit : ℕ) :
    window offset limit (list.filterMap f) = (window offset limit list).filterMap f := by
  have hfound (part : List α) (found : List β) (hpart : part.map f = found.map some) :
      part.filterMap f = found := by
    have hid : (part.map f).filterMap id = (found.map some).filterMap id := by rw [hpart]
    simpa [List.filterMap_map] using hid
  have hexists : ∃ found : List β, list.map f = found.map some := by
    induction list with
    | nil => exact ⟨[], rfl⟩
    | cons a list ih =>
      obtain ⟨ha, hlist⟩ := List.forall_mem_cons.mp h
      obtain ⟨b, hb⟩ := Option.isSome_iff_exists.mp ha
      obtain ⟨found, hrest⟩ := ih hlist
      exact ⟨b :: found, by rw [List.map_cons, List.map_cons, hb, hrest]⟩
  obtain ⟨found, hall⟩ := hexists
  rw [hfound list found hall]
  symm
  apply hfound
  rw [← window_map, hall, window_map]

/-- A window of a longer list ends with the new element when there is room for it. -/
theorem window_concat (offset limit : ℕ) (list : List α) (a : α) :
    window offset limit (list ++ [a]) =
      if offset ≤ list.length ∧ (window offset limit list).length < limit then
        window offset limit list ++ [a]
      else window offset limit list := by
  by_cases hoffset : offset ≤ list.length
  · have hdrop : (list ++ [a]).drop offset = list.drop offset ++ [a] :=
      List.drop_append_of_le_length hoffset
    by_cases hroom : (list.drop offset).length < limit
    · have hwhole : window offset limit list = list.drop offset :=
        List.take_of_length_le (Nat.le_of_lt hroom)
      rw [if_pos ⟨hoffset, hwhole ▸ hroom⟩, hwhole, window, hdrop]
      exact List.take_of_length_le (by rw [List.length_append]; exact hroom)
    · have hfull : ¬(window offset limit list).length < limit := by
        rw [window, List.length_take]
        omega
      rw [if_neg fun h => hfull h.2, window, hdrop, window,
        List.take_append_of_le_length (Nat.not_lt.mp hroom)]
  · have hpast : (list ++ [a]).drop offset = [] :=
      List.drop_of_length_le (by rw [List.length_append, List.length_singleton]; omega)
    have hbefore : list.drop offset = [] := List.drop_of_length_le (by omega)
    rw [if_neg fun h => hoffset h.1, window, hpast, window, hbefore]

/-- Count an element, and keep it while the count is in the window. -/
def keepInWindow (offset limit : ℕ) (kept : List α × ℕ) (a : α) : List α × ℕ :=
  (if offset ≤ kept.2 ∧ kept.1.length < limit then kept.1 ++ [a] else kept.1, kept.2 + 1)

/-- Counting through a list keeps its window. -/
theorem foldl_keepInWindow (offset limit : ℕ) (list : List α) :
    list.foldl (keepInWindow offset limit) ([], 0) = (window offset limit list, list.length) := by
  induction list using List.reverseRecOn with
  | nil => simp
  | append_singleton list a ih =>
    rw [List.foldl_append, ih, List.foldl_cons, List.foldl_nil, window_concat, keepInWindow,
      List.length_append, List.length_singleton]

/-- Windows side by side are a prefix of the list. -/
theorem flatMap_window (limit count : ℕ) (list : List α) :
    ((List.range count).flatMap fun page => window (page * limit) limit list) =
      list.take (count * limit) := by
  induction count with
  | zero => simp
  | succ count ih =>
    rw [List.range_succ, List.flatMap_append, ih, List.flatMap_singleton, window, Nat.succ_mul]
    exact (List.take_add).symm

end SkyAutoPlayer.Foundation
