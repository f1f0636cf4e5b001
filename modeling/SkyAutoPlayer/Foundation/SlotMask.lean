import Mathlib.Algebra.Ring.Nat
import Mathlib.Data.List.Nodup
import Mathlib.Logic.Function.Basic

/-!
# Slot masks and slot tables

A mask of `w` slots is a bit vector, and a loop that repeatedly takes and clears the lowest
set bit visits `slots mask`: the set bits in ascending order. A slot table assigns an optional
entry to each slot; filling a list of slots with one entry changes exactly those slots, and
the latest entry over a list of slots is the running maximum such loops compute.
-/

namespace SkyAutoPlayer.Foundation

variable {w : ℕ}

/-- The set bits of a mask, in the ascending order of a lowest-set-bit loop. -/
def slots (mask : BitVec w) : List ℕ := (List.range w).filter mask.getLsbD

/-- The mask with exactly one slot, `1 << slot`. -/
def slotBit (w slot : ℕ) : BitVec w := 1#w <<< slot

/-- The number of set bits. -/
def countOnes (mask : BitVec w) : ℕ := (slots mask).length

/-- The union of the listed slots' bits. -/
def maskOf (w : ℕ) : List ℕ → BitVec w
  | [] => 0#w
  | slot :: rest => slotBit w slot ||| maskOf w rest

/-- A slot is visited exactly when its bit is set. -/
@[simp] theorem mem_slots {mask : BitVec w} {slot : ℕ} :
    slot ∈ slots mask ↔ mask.getLsbD slot = true := by
  constructor
  · intro h
    exact (List.mem_filter.mp h).2
  · intro h
    exact List.mem_filter.mpr ⟨List.mem_range.mpr (BitVec.lt_of_getLsbD h), h⟩

/-- Only the empty mask visits no slot. -/
theorem slots_eq_nil_iff {mask : BitVec w} : slots mask = [] ↔ mask = 0#w := by
  constructor
  · intro h
    apply BitVec.eq_of_getLsbD_eq
    intro i _
    have hnot : i ∉ slots mask := h ▸ List.not_mem_nil
    simpa using hnot
  · rintro rfl
    simp [slots]

/-- The empty mask visits no slot. -/
@[simp] theorem slots_zero : slots (0#w) = [] := slots_eq_nil_iff.mpr rfl

/-- A nonempty mask visits some slot. -/
theorem exists_slot_of_ne_zero {mask : BitVec w} (h : mask ≠ 0#w) :
    ∃ slot, mask.getLsbD slot = true := by
  obtain ⟨slot, hslot⟩ := List.exists_mem_of_ne_nil _ (mt slots_eq_nil_iff.mp h)
  exact ⟨slot, mem_slots.mp hslot⟩

/-- The bit of a one-slot mask. -/
@[simp] theorem getLsbD_slotBit (slot other : ℕ) :
    (slotBit w slot).getLsbD other = (decide (other < w) && decide (other = slot)) := by
  simp only [slotBit, BitVec.getLsbD_shiftLeft, BitVec.getLsbD_one]
  by_cases hlt : other < w <;> by_cases heq : other = slot <;> simp_all <;> omega

/-- Testing one bit of a word. -/
theorem and_slotBit_ne_zero {mask : BitVec w} {slot : ℕ} :
    mask &&& slotBit w slot ≠ 0#w ↔ mask.getLsbD slot = true := by
  constructor
  · intro h
    obtain ⟨bit, hbit⟩ := exists_slot_of_ne_zero h
    rw [BitVec.getLsbD_and, getLsbD_slotBit, Bool.and_eq_true, Bool.and_eq_true,
      decide_eq_true_eq, decide_eq_true_eq] at hbit
    rw [← hbit.2.2]
    exact hbit.1
  · intro h hzero
    have hbit := congrArg (fun word => word.getLsbD slot) hzero
    simp only [BitVec.getLsbD_and, getLsbD_slotBit, h, BitVec.lt_of_getLsbD h, decide_true,
      Bool.and_self, BitVec.getLsbD_zero, Bool.true_eq_false] at hbit

/-- A slot is in a union exactly when it is listed and within the width. -/
@[simp] theorem getLsbD_maskOf (list : List ℕ) (slot : ℕ) :
    (maskOf w list).getLsbD slot = (decide (slot < w) && decide (slot ∈ list)) := by
  induction list with
  | nil => simp [maskOf]
  | cons head rest ih =>
    simp only [maskOf, BitVec.getLsbD_or, getLsbD_slotBit, ih, List.mem_cons]
    by_cases hlt : slot < w <;> simp [hlt]

/-- The union of two slot lists' masks. -/
theorem maskOf_append (first second : List ℕ) :
    maskOf w (first ++ second) = maskOf w first ||| maskOf w second := by
  induction first with
  | nil => simp [maskOf]
  | cons head rest ih => simp [maskOf, ih, BitVec.or_assoc]

/-- Two masks are disjoint exactly when they share no slot. -/
theorem and_eq_zero_iff {a b : BitVec w} :
    a &&& b = 0#w ↔ ∀ slot, a.getLsbD slot = true → b.getLsbD slot = false := by
  constructor
  · intro h slot ha
    have hbit := congrArg (fun mask => mask.getLsbD slot) h
    simpa [ha] using hbit
  · intro h
    apply BitVec.eq_of_getLsbD_eq
    intro slot _
    cases ha : a.getLsbD slot with
    | false => simp [ha]
    | true => simp [ha, h slot ha]

/-- Nothing of a mask lies outside another exactly when it is contained in it. -/
theorem and_not_eq_zero_iff {a b : BitVec w} :
    a &&& ~~~b = 0#w ↔ ∀ slot, a.getLsbD slot = true → b.getLsbD slot = true := by
  constructor
  · intro h slot ha
    have hbit := and_eq_zero_iff.mp h slot ha
    have hlt := BitVec.lt_of_getLsbD ha
    simpa [hlt] using hbit
  · intro h
    refine and_eq_zero_iff.mpr fun slot ha => ?_
    simp [h slot ha]

/-- Masks with the same slots are equal. -/
theorem mask_ext {a b : BitVec w}
    (h : ∀ slot, a.getLsbD slot = true ↔ b.getLsbD slot = true) : a = b :=
  BitVec.eq_of_getLsbD_eq fun slot _ => Bool.eq_iff_iff.mpr (h slot)

/-- Every slot of the first mask is a slot of the second. -/
def Within (a b : BitVec w) : Prop := ∀ slot, a.getLsbD slot = true → b.getLsbD slot = true

/-- Slots outside a mask, for a slot of the width. -/
theorem getLsbD_not_of_lt {a : BitVec w} {slot : ℕ} (h : slot < w) :
    (~~~a).getLsbD slot = !a.getLsbD slot := by
  simp [h]

/-- An optional entry for each slot. -/
abbrev SlotTable (α : Type*) := ℕ → Option α

namespace SlotTable

variable {α : Type*}

/-- The table without entries. -/
def empty : SlotTable α := fun _ => none

/-- Give every listed slot the same entry. -/
def putAll (entry : Option α) (list : List ℕ) (table : SlotTable α) : SlotTable α :=
  list.foldl (fun current slot => Function.update current slot entry) table

/-- Filling changes exactly the listed slots. -/
theorem putAll_apply (entry : Option α) (list : List ℕ) (table : SlotTable α) (slot : ℕ) :
    putAll entry list table slot = if slot ∈ list then entry else table slot := by
  unfold putAll
  induction list generalizing table with
  | nil => rfl
  | cons head rest ih =>
    rw [List.foldl_cons, ih]
    by_cases hrest : slot ∈ rest
    · simp [hrest]
    · by_cases hhead : slot = head <;> simp [hrest, hhead]

/-- Filling one list of slots after another fills both. -/
theorem putAll_append (entry : Option α) (first second : List ℕ) (table : SlotTable α) :
    table.putAll entry (first ++ second) = (table.putAll entry first).putAll entry second := by
  rw [putAll, List.foldl_append]
  rfl

/-- The latest entry of the listed slots, an absent entry counting as zero. -/
def latest (table : SlotTable ℕ) (list : List ℕ) : ℕ :=
  list.foldl (fun latest slot => max latest ((table slot).getD 0)) 0

/-- Nothing is latest among no slots. -/
@[simp] theorem latest_nil (table : SlotTable ℕ) : table.latest [] = 0 := rfl

/-- A running maximum started later is the maximum with its start. -/
theorem foldl_max_eq (table : SlotTable ℕ) (list : List ℕ) (start : ℕ) :
    list.foldl (fun latest slot => max latest ((table slot).getD 0)) start =
      max start (table.latest list) := by
  unfold latest
  induction list generalizing start with
  | nil => simp
  | cons head rest ih =>
    simp only [List.foldl_cons]
    rw [ih (max start _), ih (max 0 _)]
    omega

/-- The latest entry of a nonempty list covers its first entry and the rest. -/
theorem latest_cons (table : SlotTable ℕ) (head : ℕ) (rest : List ℕ) :
    table.latest (head :: rest) = max ((table head).getD 0) (table.latest rest) := by
  have h := table.foldl_max_eq rest ((table head).getD 0)
  simpa [latest] using h

/-- The latest entry is no earlier than any listed slot's entry. -/
theorem le_latest {table : SlotTable ℕ} {list : List ℕ} {slot entry : ℕ} (hslot : slot ∈ list)
    (hentry : table slot = some entry) : entry ≤ table.latest list := by
  induction list with
  | nil => exact absurd hslot List.not_mem_nil
  | cons head rest ih =>
    rw [latest_cons]
    rcases List.mem_cons.mp hslot with rfl | hrest
    · rw [hentry, Option.getD_some]
      exact Nat.le_max_left _ _
    · exact Nat.le_trans (ih hrest) (Nat.le_max_right _ _)

/-- Later entries have a later latest entry. -/
theorem latest_mono {table later : SlotTable ℕ} (h : ∀ slot, table slot ≤ later slot)
    (list : List ℕ) : table.latest list ≤ later.latest list := by
  induction list with
  | nil => exact Nat.le_refl _
  | cons head rest ih =>
    have hhead : (table head).getD 0 ≤ (later head).getD 0 := by
      have hslot := h head
      cases hentry : table head with
      | none => simp
      | some entry =>
        rw [hentry] at hslot
        cases hlater : later head with
        | none => simp [hlater] at hslot
        | some other => simpa [hlater] using hslot
    rw [latest_cons, latest_cons]
    omega

/-- Filling with a later entry keeps the entries later. -/
theorem putAll_mono {table later : SlotTable ℕ} {entry other : Option ℕ}
    (h : ∀ slot, table slot ≤ later slot) (hentry : entry ≤ other) (list : List ℕ) (slot : ℕ) :
    table.putAll entry list slot ≤ later.putAll other list slot := by
  rw [putAll_apply, putAll_apply]
  by_cases hslot : slot ∈ list
  · simpa [hslot] using hentry
  · simpa [hslot] using h slot

end SlotTable

end SkyAutoPlayer.Foundation
