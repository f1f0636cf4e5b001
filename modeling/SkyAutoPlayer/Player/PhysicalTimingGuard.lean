import SkyAutoPlayer.DispatchCore.Time
import SkyAutoPlayer.Foundation.ErrorState
import SkyAutoPlayer.Foundation.SlotMask

/-!
# The live physical timing guard

The guard is the worker's evidence about completed sends: for every key, when its next Up and
its next Down may be sent, and one absolute barrier for Downs after a resumable cleanup. A
query reads it, a successful packet advances it, and any arithmetic failure invalidates it.
-/

namespace SkyAutoPlayer.Player

open Foundation DispatchCore

/-- The mask of all valid keys. -/
def validKeyMask : BitVec 16 := 0x7fff#16

/-- The timing window derived for one prepared physical packet. -/
structure PhysicalTimingWindow where
  authoredTargetQpc : ℕ
  musicalUpNotBeforeQpc : ℕ
  downNotBeforeQpc : ℕ
  packetNotBeforeQpc : ℕ
  holdFloorMask : BitVec 16
  releaseFloorMask : BitVec 16
  deriving DecidableEq, Repr

/-- Errors that make a query or an observation unusable. -/
inductive PhysicalTimingGuardError where
  | invalidated
  | invalidPacketMasks
  | arithmeticOverflow
  deriving DecidableEq, Repr

/-- Sender evidence for the instrument slots. -/
structure PhysicalTimingGuard where
  musicalUpNotBeforeQpc : SlotTable ℕ
  downNotBeforeQpc : SlotTable ℕ
  resumeDownNotBeforeQpc : Option ℕ
  effectiveMinHoldTicks : ℕ
  frameTicks : ℕ
  valid : Bool

/-- A guard operation keeps the guard it reached when it fails. -/
abbrev GuardM := EStateM PhysicalTimingGuardError PhysicalTimingGuard

namespace PhysicalTimingGuard

/-- A guard without evidence. -/
def new (effectiveMinHoldTicks frameTicks : ℕ) : PhysicalTimingGuard where
  musicalUpNotBeforeQpc := SlotTable.empty
  downNotBeforeQpc := SlotTable.empty
  resumeDownNotBeforeQpc := none
  effectiveMinHoldTicks
  frameTicks
  valid := true

/-- Drop the per-key evidence and fail closed. -/
def invalidate (guard : PhysicalTimingGuard) : PhysicalTimingGuard :=
  { guard with
    musicalUpNotBeforeQpc := SlotTable.empty
    downNotBeforeQpc := SlotTable.empty
    valid := false }

/-- Add a duration to a completion, invalidating the guard on overflow. -/
def addOrInvalidate (completed : ℕ) (duration : ℕ) : GuardM ℕ :=
  fun guard =>
    match checkedAddDuration completed duration with
    | .ok floor => .ok floor guard
    | .error _ => .error .arithmeticOverflow guard.invalidate

/-- Start a fresh Down barrier one frame after a verified resumable cleanup. -/
def establishResumeDownBarrier (cleanupCompletedQpc : ℕ) : GuardM Unit := do
  let barrier ← addOrInvalidate cleanupCompletedQpc (← get).frameTicks
  modify fun guard =>
    { guard with
      musicalUpNotBeforeQpc := SlotTable.empty
      downNotBeforeQpc := SlotTable.empty
      resumeDownNotBeforeQpc := some barrier
      valid := true }

/-- Fail when the evidence was invalidated. -/
def ensureValid (guard : PhysicalTimingGuard) : Except PhysicalTimingGuardError Unit :=
  failIf (guard.valid = false) .invalidated

/-- Fail on masks outside the instrument or with a key in both directions. -/
def validatePacketMasks (upMask downMask : BitVec 16) : Except PhysicalTimingGuardError Unit :=
  failIf ((upMask ||| downMask) &&& ~~~validKeyMask ≠ 0#16 ∨ upMask &&& downMask ≠ 0#16)
    .invalidPacketMasks

/-- The floor a completion puts on the opposite direction, absent for an empty mask. -/
def observedFloor (mask : BitVec 16) (completed : ℕ) (duration : ℕ) :
    GuardM (Option ℕ) :=
  if mask ≠ 0#16 then do
    let floor ← addOrInvalidate completed duration
    pure (some floor)
  else pure none

/-- Record the completion of a successful packet: first its Ups, then its Downs. -/
def observeSuccessfulPacket (completedQpc : ℕ) (upMask downMask : BitVec 16) :
    GuardM Unit := do
  EStateM.ofExcept (← get).ensureValid
  EStateM.ofExcept (validatePacketMasks upMask downMask)
  let newDownFloor ← observedFloor upMask completedQpc (← get).frameTicks
  let newUpFloor ← observedFloor downMask completedQpc (← get).effectiveMinHoldTicks
  modify fun guard =>
    { guard with
      musicalUpNotBeforeQpc := guard.musicalUpNotBeforeQpc.putAll none (slots upMask)
      downNotBeforeQpc := guard.downNotBeforeQpc.putAll newDownFloor (slots upMask) }
  modify fun guard =>
    { guard with
      musicalUpNotBeforeQpc := guard.musicalUpNotBeforeQpc.putAll newUpFloor (slots downMask)
      downNotBeforeQpc := guard.downNotBeforeQpc.putAll none (slots downMask) }

/-- One slot's step of `floorForMask`. -/
def raiseFloor (authoredTargetQpc : ℕ) (floors : SlotTable ℕ)
    (window : ℕ × BitVec 16) (slot : ℕ) : ℕ × BitVec 16 :=
  match floors slot with
  | some floor =>
    if authoredTargetQpc < floor then
      (max window.1 floor, window.2 ||| slotBit 16 slot)
    else window
  | none => window

/-- The latest floor beyond the target over a mask, and the slots whose floor is beyond it. -/
def floorForMask (authoredTargetQpc : ℕ) (mask : BitVec 16)
    (floors : SlotTable ℕ) : ℕ × BitVec 16 :=
  (slots mask).foldl (raiseFloor authoredTargetQpc floors) (authoredTargetQpc, 0#16)

/-- Raise a Down window to a resume barrier beyond the target. -/
def raiseToBarrier (authoredTargetQpc : ℕ) (downMask : BitVec 16)
    (barrier : Option ℕ) (window : ℕ × BitVec 16) : ℕ × BitVec 16 :=
  match barrier with
  | some resumeBarrier =>
    if downMask ≠ 0#16 ∧ authoredTargetQpc < resumeBarrier then
      (max window.1 resumeBarrier, window.2 ||| downMask)
    else window
  | none => window

/-- The window of a packet whose masks were accepted. -/
def windowFor (guard : PhysicalTimingGuard) (authoredTargetQpc : ℕ)
    (upMask downMask : BitVec 16) : PhysicalTimingWindow :=
  let up := floorForMask authoredTargetQpc upMask guard.musicalUpNotBeforeQpc
  let down := raiseToBarrier authoredTargetQpc downMask guard.resumeDownNotBeforeQpc
    (floorForMask authoredTargetQpc downMask guard.downNotBeforeQpc)
  { authoredTargetQpc
    musicalUpNotBeforeQpc := up.1
    downNotBeforeQpc := down.1
    packetNotBeforeQpc := max up.1 down.1
    holdFloorMask := up.2
    releaseFloorMask := down.2 }

/-- Compute a packet's window without changing the guard. -/
def query (guard : PhysicalTimingGuard) (authoredTargetQpc : ℕ)
    (upMask downMask : BitVec 16) : Except PhysicalTimingGuardError PhysicalTimingWindow := do
  guard.ensureValid
  validatePacketMasks upMask downMask
  failIf (upMask = 0#16 ∧ downMask = 0#16) .invalidPacketMasks
  pure (guard.windowFor authoredTargetQpc upMask downMask)

/-- The floor of a mask is the latest of the target and the mask's floors. -/
theorem floorForMask_fst (target : ℕ) (mask : BitVec 16) (floors : SlotTable ℕ) :
    (floorForMask target mask floors).1 = max target (floors.latest (slots mask)) := by
  have hfold : ∀ (list : List ℕ) (window : ℕ × BitVec 16), target ≤ window.1 →
      (list.foldl (raiseFloor target floors) window).1 = max window.1 (floors.latest list) := by
    intro list
    induction list with
    | nil =>
      intro window _
      simp [SlotTable.latest]
    | cons slot rest ih =>
      intro window hwindow
      rw [List.foldl_cons, SlotTable.latest_cons]
      cases hfloor : floors slot with
      | none =>
        have hstep : raiseFloor target floors window slot = window := by
          simp [raiseFloor, hfloor]
        rw [hstep, ih window hwindow]
        simp
      | some floor =>
        by_cases hlate : target < floor
        · have hstep : raiseFloor target floors window slot =
              (max window.1 floor, window.2 ||| slotBit 16 slot) := by
            simp [raiseFloor, hfloor, hlate]
          rw [hstep, ih _ (le_trans hwindow (le_max_left _ _))]
          simp only [Option.getD_some, max_assoc]
        · have hstep : raiseFloor target floors window slot = window := by
            simp [raiseFloor, hfloor, hlate]
          rw [hstep, ih window hwindow]
          simp only [Option.getD_some]
          omega
  exact hfold (slots mask) (target, 0#16) le_rfl

/-- A barrier raises a nonempty Down window to itself, and never lowers it. -/
theorem raiseToBarrier_fst {target : ℕ} {downMask : BitVec 16}
    {barrier : Option ℕ} {window : ℕ × BitVec 16} (hwindow : target ≤ window.1) :
    (raiseToBarrier target downMask barrier window).1 =
      max window.1 (if downMask ≠ 0#16 then barrier.getD 0 else 0) := by
  cases barrier with
  | none => simp [raiseToBarrier]
  | some resumeBarrier =>
    by_cases hdown : downMask = 0#16
    · simp [raiseToBarrier, hdown]
    · by_cases hlate : target < resumeBarrier
      · simp [raiseToBarrier, hdown, hlate]
      · simp only [raiseToBarrier, hlate, and_false, if_false, ne_eq, hdown, not_false_eq_true,
          if_true, Option.getD_some]
        omega

end PhysicalTimingGuard

end SkyAutoPlayer.Player
