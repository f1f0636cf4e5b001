import Mathlib.Data.List.Forall2

/-!
# Slices of an arena

Records that refer to a shared arena carry a start and a length. A slice is the addressed part
when it lies inside the arena; it is unchanged when the arena grows. Ranges tile an arena when
each starts where the one before it ends.
-/

namespace SkyAutoPlayer.Foundation

universe u

variable {α : Type u}

/-- The addressed part of a list, when it lies inside the list. -/
def slice (list : List α) (start len : ℕ) : Option (List α) :=
  if start + len ≤ list.length then some ((list.drop start).take len) else none

/-- A slice is a part of the list between what precedes and what follows it. -/
theorem slice_eq_some {list part : List α} {start len : ℕ} :
    slice list start len = some part ↔
      ∃ before rest, list = before ++ part ++ rest ∧ before.length = start ∧
        part.length = len := by
  constructor
  · intro h
    unfold slice at h
    split at h
    · rename_i hle
      cases h
      refine ⟨list.take start, list.drop (start + len), ?_, by simp; omega, by simp; omega⟩
      rw [← List.drop_drop, List.append_assoc, List.take_append_drop, List.take_append_drop]
    · cases h
  · rintro ⟨before, rest, rfl, rfl, rfl⟩
    have hle : before.length + part.length ≤ (before ++ part ++ rest).length := by simp
    rw [slice, if_pos hle, List.append_assoc, List.drop_left, List.take_left]

/-- The middle of three parts is the slice at its own position. -/
theorem slice_middle (before part rest : List α) :
    slice (before ++ part ++ rest) before.length part.length = some part :=
  slice_eq_some.mpr ⟨before, rest, rfl, rfl, rfl⟩

/-- A slice is unchanged when the list grows. -/
theorem slice_append {list part : List α} {start len : ℕ} (h : slice list start len = some part)
    (more : List α) : slice (list ++ more) start len = some part := by
  obtain ⟨before, rest, rfl, hstart, hlen⟩ := slice_eq_some.mp h
  exact slice_eq_some.mpr ⟨before, rest ++ more, by simp, hstart, hlen⟩

/-- The partner of an entry in a pointwise related list. -/
theorem exists_of_forall₂ {β : Type u} {R : α → β → Prop} {first : List α} {second : List β}
    (h : List.Forall₂ R first second) {index : ℕ} {b : β} (hb : second[index]? = some b) :
    ∃ a, first[index]? = some a ∧ R a b := by
  obtain ⟨hlt, rfl⟩ := List.getElem?_eq_some_iff.mp hb
  have hfirst : index < first.length := h.length_eq ▸ hlt
  exact ⟨first[index], List.getElem?_eq_getElem hfirst,
    (List.forall₂_iff_get.mp h).2 index hfirst hlt⟩

/-- Consecutive ranges, given as start and length, from one position to another. -/
def Tiles : ℕ → List (ℕ × ℕ) → ℕ → Prop
  | start, [], stop => start = stop
  | start, (first, len) :: rest, stop => first = start ∧ Tiles (start + len) rest stop

/-- Tilings that meet at a position join. -/
theorem Tiles.append {start middle stop : ℕ} {first second : List (ℕ × ℕ)}
    (hfirst : Tiles start first middle) (hsecond : Tiles middle second stop) :
    Tiles start (first ++ second) stop := by
  induction first generalizing start with
  | nil =>
    cases hfirst
    exact hsecond
  | cons range rest ih => exact ⟨hfirst.1, ih hfirst.2⟩

end SkyAutoPlayer.Foundation
