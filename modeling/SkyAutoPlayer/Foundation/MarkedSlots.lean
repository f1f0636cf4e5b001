import SkyAutoPlayer.Foundation.SlotMask

/-!
# Masks of occupied slots

A table of slots is kept with a mask that has the bits of the occupied ones. Filling a slot sets its
bit and emptying it clears the bit.
-/

namespace SkyAutoPlayer.Foundation

variable {α : Type*} {mask : BitVec 16} {table : SlotTable α} {slot other : ℕ} {entry value : α}

/-- An entry is left when another slot is emptied. -/
theorem update_none_eq_some : Function.update table slot none other = some value ↔
    other ≠ slot ∧ table other = some value := by
  by_cases h : other = slot <;> simp [h]

/-- An entry was put into its slot, or is left in another one. -/
theorem update_some_eq_some : Function.update table slot (some entry) other = some value ↔
    other = slot ∧ entry = value ∨ other ≠ slot ∧ table other = some value := by
  by_cases h : other = slot <;> simp [h]

/-- A mask has the bits of the occupied slots. -/
def Marks (mask : BitVec 16) (table : SlotTable α) : Prop :=
  ∀ slot, mask.getLsbD slot = (table slot).isSome

namespace Marks

/-- No bit, no entry. -/
theorem empty : Marks 0#16 (SlotTable.empty : SlotTable α) := by
  intro slot
  simp [SlotTable.empty]

/-- A slot is emptied. -/
theorem clear (h : Marks mask table) (slot : ℕ) :
    Marks (mask &&& ~~~slotBit 16 slot) (Function.update table slot none) := by
  intro other
  by_cases hlt : other < 16
  · rw [BitVec.getLsbD_and, getLsbD_not_of_lt hlt, getLsbD_slotBit, h]
    by_cases hsame : other = slot
    · subst hsame
      simp [hlt]
    · simp [hsame]
  · have hnone : (table other).isSome = false := by
      rw [← h, BitVec.getLsbD_of_ge _ _ (not_lt.mp hlt)]
    rw [BitVec.getLsbD_of_ge _ _ (not_lt.mp hlt)]
    by_cases hsame : other = slot <;> simp [hsame, hnone]

/-- A slot is filled. -/
theorem set (h : Marks mask table) (hslot : slot < 16) (entry : α) :
    Marks (mask ||| slotBit 16 slot) (Function.update table slot (some entry)) := by
  intro other
  rw [BitVec.getLsbD_or, getLsbD_slotBit, h]
  by_cases hsame : other = slot <;> simp [hsame, hslot]

/-- Emptying an empty slot changes nothing. -/
theorem clear_of_none (h : Marks mask table) (hnone : table slot = none) :
    mask &&& ~~~slotBit 16 slot = mask ∧ Function.update table slot none = table := by
  have htable : Function.update table slot none = table := by
    rw [← hnone, Function.update_eq_self]
  refine ⟨mask_ext fun other => ?_, htable⟩
  rw [h.clear slot other, htable, h other]

/-- An occupied slot is a slot. -/
theorem lt (h : Marks mask table) (hsome : table slot = some entry) : slot < 16 := by
  apply BitVec.lt_of_getLsbD
  rw [h, hsome]
  rfl

end Marks

end SkyAutoPlayer.Foundation
