import Mathlib.Data.List.NodupEquivFin
import SkyAutoPlayer.DispatchCore.Compile
import SkyAutoPlayer.Foundation.Guarded

/-!
# What the compiler's passes accept and produce

Each pass over a timestamp group checks an element and then updates its state. The inversion
lemmas below say exactly when a pass succeeds and what it produces: the first pass admits its
actions one after the other, the releases of a group need pairwise distinct slots, and a press
needs a slot that no generation holds when the group begins.
-/

namespace SkyAutoPlayer.DispatchCore

open Foundation

/-- The registry of a valid allowlist: at most fifteen distinct codes. -/
structure KeyRegistry.WellFormed (registry : KeyRegistry) : Prop where
  nodup : registry.scanCodes.Nodup
  count : registry.scanCodes.length ≤ maxKeys

variable {registry : KeyRegistry}

/-- The slot of an allowed code is its position. -/
theorem slotOf_of_mem {scanCode : ℕ} (h : scanCode ∈ registry.scanCodes) :
    slotOf registry scanCode = registry.scanCodes.idxOf scanCode := by
  have hfound : registry.slotFor scanCode = some (registry.scanCodes.idxOf scanCode) := by
    rw [KeyRegistry.slotFor, List.idxOf?_eq_some_iff]
    refine ⟨List.idxOf_lt_length_of_mem h, List.getElem_idxOf _, fun j hj => ?_⟩
    exact List.not_of_lt_findIdx hj |> fun hne => by simpa using hne
  rw [slotOf, hfound]
  rfl

/-- A registry finds exactly its codes. -/
theorem slotFor_isSome {scanCode : ℕ} :
    (registry.slotFor scanCode).isSome = true ↔ scanCode ∈ registry.scanCodes := by
  rw [KeyRegistry.slotFor]
  simp

/-- The scan code of an allowed code's slot is the code. -/
theorem scanCodeFor_slotOf {scanCode : ℕ} (h : scanCode ∈ registry.scanCodes) :
    registry.scanCodeFor (slotOf registry scanCode) = some scanCode := by
  rw [slotOf_of_mem h, KeyRegistry.scanCodeFor, List.getElem?_idxOf h]

/-- Allowed codes with one slot are equal. -/
theorem slotOf_injective {first second : ℕ} (hfirst : first ∈ registry.scanCodes)
    (hsecond : second ∈ registry.scanCodes)
    (heq : slotOf registry first = slotOf registry second) : first = second := by
  have hcode := scanCodeFor_slotOf hfirst
  rw [heq, scanCodeFor_slotOf hsecond] at hcode
  exact (Option.some.inj hcode).symm

/-- Allowed codes have instrument slots. -/
theorem slotOf_lt (hregistry : registry.WellFormed) {scanCode : ℕ}
    (h : scanCode ∈ registry.scanCodes) : slotOf registry scanCode < maxKeys := by
  rw [slotOf_of_mem h]
  exact Nat.lt_of_lt_of_le (List.idxOf_lt_length_of_mem h) hregistry.count

/-- A slot outside the seen mask, for a slot of the mask. -/
theorem and_slotBit_eq_zero {mask : BitVec 16} {slot : ℕ} (hslot : slot < 16) :
    mask &&& slotBit 16 slot = 0#16 ↔ mask.getLsbD slot = false := by
  rw [and_eq_zero_iff]
  constructor
  · intro h
    by_contra hset
    have hbit := h slot (by simpa using hset)
    rw [getLsbD_slotBit] at hbit
    simp [hslot] at hbit
  · intro h other hother
    rw [getLsbD_slotBit]
    by_cases heq : other = slot
    · rw [heq, h] at hother
      cases hother
    · simp [heq]

/-- An action's codes pass when they are allowed, distinct and not seen before. -/
theorem checkScanCodes_eq_ok (hregistry : registry.WellFormed) {actionIndex : ℕ}
    {seen : BitVec 16} {scanCodes : List ℕ} :
    checkScanCodes registry actionIndex seen scanCodes = .ok () ↔
      scanCodes.Nodup ∧ ∀ scanCode ∈ scanCodes, scanCode ∈ registry.scanCodes ∧
        seen.getLsbD (slotOf registry scanCode) = false := by
  induction scanCodes generalizing seen with
  | nil => simp [checkScanCodes]
  | cons scanCode rest ih =>
    simp only [checkScanCodes, Except.bind_eq_ok, okOr_eq_ok, failIf_eq_ok, ih]
    constructor
    · rintro ⟨keySlot, hslot, _, hunseen, hnodup, hrest⟩
      have hmem : scanCode ∈ registry.scanCodes :=
        slotFor_isSome.mp (by rw [hslot]; rfl)
      have hkeySlot : slotOf registry scanCode = keySlot := by rw [slotOf, hslot]; rfl
      have hlt : keySlot < maxKeys := hkeySlot ▸ slotOf_lt hregistry hmem
      rw [maxKeys] at hlt
      rw [not_not, and_slotBit_eq_zero (by omega)] at hunseen
      have hfresh : scanCode ∉ rest := by
        intro hagain
        have hbit := (hrest scanCode hagain).2
        rw [hkeySlot, BitVec.getLsbD_or, getLsbD_slotBit] at hbit
        simp at hbit
        omega
      refine ⟨List.nodup_cons.mpr ⟨hfresh, hnodup⟩, fun other hother => ?_⟩
      rcases List.mem_cons.mp hother with rfl | hother
      · exact ⟨hmem, hkeySlot ▸ hunseen⟩
      · have hbit := (hrest other hother).2
        rw [BitVec.getLsbD_or, Bool.or_eq_false_iff] at hbit
        exact ⟨(hrest other hother).1, hbit.1⟩
    · rintro ⟨hnodup, hcodes⟩
      obtain ⟨hmem, hunseen⟩ := hcodes scanCode List.mem_cons_self
      obtain ⟨hfresh, hrestNodup⟩ := List.nodup_cons.mp hnodup
      obtain ⟨keySlot, hslot⟩ := Option.isSome_iff_exists.mp (slotFor_isSome.mpr hmem)
      have hkeySlot : slotOf registry scanCode = keySlot := by rw [slotOf, hslot]; rfl
      have hlt : keySlot < maxKeys := hkeySlot ▸ slotOf_lt hregistry hmem
      rw [maxKeys] at hlt
      rw [hkeySlot] at hunseen
      refine ⟨keySlot, hslot, (), not_not.mpr ((and_slotBit_eq_zero (by omega)).mpr hunseen),
        hrestNodup, fun other hother => ?_⟩
      obtain ⟨hother', hbit⟩ := hcodes other (List.mem_cons_of_mem _ hother)
      refine ⟨hother', ?_⟩
      have hne : slotOf registry other ≠ keySlot := fun heq =>
        hfresh (slotOf_injective hother' hmem (heq.trans hkeySlot.symm) ▸ hother)
      rw [BitVec.getLsbD_or, hbit, getLsbD_slotBit]
      simp [hne]

/-- The identifier a reason gets and the table after it. -/
def internReason (reasonTable : List String) (reason : String) : ℕ × List String :=
  (reasonTable.idxOf reason,
    if reason ∈ reasonTable then reasonTable else reasonTable ++ [reason])

/-- A reason is refused only when it is new and the table is full. -/
theorem getOrInsertReason_eq_ok {reasonTable : List String} {reason : String}
    {result : ℕ × List String} : getOrInsertReason reasonTable reason = .ok result ↔
      (reason ∈ reasonTable ∨ reasonTable.length < 2 ^ 16) ∧
        result = internReason reasonTable reason := by
  unfold getOrInsertReason internReason
  split
  · rename_i id hid
    obtain ⟨hlt, hget, hfirst⟩ := List.idxOf?_eq_some_iff.mp hid
    have hmem : reason ∈ reasonTable := hget ▸ List.getElem_mem hlt
    have hidx : reasonTable.idxOf reason = id := by
      rw [List.idxOf?_eq_some_iff] at hid
      have hle : reasonTable.idxOf reason ≤ id := by
        by_contra hgt
        exact absurd (List.not_of_lt_findIdx (not_le.mp hgt)) (by simpa using hget)
      have hge : ¬ reasonTable.idxOf reason < id := fun hlt' =>
        hfirst _ hlt' (List.getElem_idxOf _)
      omega
    simp [hmem, hidx, eq_comm]
  · rename_i hnone
    have hmem : reason ∉ reasonTable := List.idxOf?_eq_none_iff.mp hnone
    rw [List.idxOf_of_notMem hmem, if_neg hmem]
    by_cases hroom : reasonTable.length < 2 ^ 16
    · rw [if_pos hroom, Except.ok.injEq]
      exact ⟨fun h => ⟨Or.inr hroom, h.symm⟩, fun h => h.2.symm⟩
    · rw [if_neg hroom]
      exact ⟨nofun, fun h => absurd h.1 (not_or.mpr ⟨hmem, hroom⟩)⟩

/-- A reason is always known after it was interned. -/
theorem mem_internReason (reasonTable : List String) (reason : String) :
    reason ∈ (internReason reasonTable reason).2 := by
  unfold internReason
  dsimp only
  split
  · assumption
  · simp

/-- Interning a known reason keeps the table. -/
theorem internReason_of_mem {reasonTable : List String} {reason : String}
    (h : reason ∈ reasonTable) :
    internReason reasonTable reason = (reasonTable.idxOf reason, reasonTable) := by
  rw [internReason, if_pos h]

/-- Interning appends to the table. -/
theorem internReason_grows (reasonTable : List String) (reason : String) :
    reasonTable <+: (internReason reasonTable reason).2 := by
  unfold internReason
  dsimp only
  split
  · exact List.prefix_rfl
  · exact List.prefix_append _ _

/-- When the first pass admits an action. -/
structure ScanAdmits (registry : KeyRegistry) (scan : GroupScan) (action : KeyActionInput) :
    Prop where
  index : ∀ previous ∈ scan.previousSourceIndex, previous < action.sourceActionIndex
  time : ∀ previous ∈ scan.previousScheduledUs, previous ≤ action.scheduledUs
  nonempty : action.scanCodes ≠ []
  count : action.scanCodes.length ≤ maxKeys
  reason : action.reason.utf8ByteSize ≤ maxReasonBytes
  nodup : action.scanCodes.Nodup
  allowed : ∀ scanCode ∈ action.scanCodes, scanCode ∈ registry.scanCodes
  room : action.reason ∈ scan.reasonTable ∨ scan.reasonTable.length < 2 ^ 16
  single : action.kind = .down → scan.downAction = none

/-- The scan after an admitted action. -/
def scanStep (scan : GroupScan) (action : KeyActionInput) : GroupScan :=
  scan.advance action (internReason scan.reasonTable action.reason).2

/-- A source index passes when it exceeds the previous one. -/
theorem checkSourceIndex_eq_ok {previous : Option ℕ} {current : ℕ} {done : Unit} :
    checkSourceIndex previous current = .ok done ↔ ∀ before ∈ previous, before < current := by
  cases previous <;> simp [checkSourceIndex]

/-- A time passes when it is not before the previous one. -/
theorem checkSchedule_eq_ok {previous : Option ℕ} {current : ℕ} {done : Unit} :
    checkSchedule previous current = .ok done ↔ ∀ before ∈ previous, before ≤ current := by
  cases previous <;> simp [checkSchedule]

/-- The first pass succeeds on exactly the admitted actions. -/
theorem scanAction_eq_ok (hregistry : registry.WellFormed) {scan result : GroupScan}
    {action : KeyActionInput} : scanAction registry scan action = .ok result ↔
      ScanAdmits registry scan action ∧ result = scanStep scan action := by
  simp only [scanAction, Except.bind_eq_ok, failIf_eq_ok, checkSourceIndex_eq_ok,
    checkSchedule_eq_ok, checkScanCodes_eq_ok hregistry, getOrInsertReason_eq_ok,
    Except.pure_eq_ok]
  constructor
  · rintro ⟨_, hindex, _, htime, _, hsize, _, hreason, _, ⟨hnodup, hcodes⟩, interned,
      ⟨hroom, rfl⟩, _, hsingle, rfl⟩
    obtain ⟨hnonempty, hcount⟩ := not_or.mp hsize
    refine ⟨⟨hindex, htime, hnonempty, not_lt.mp hcount, not_lt.mp hreason, hnodup,
      fun scanCode hmem => (hcodes scanCode hmem).1, hroom, fun hdown => ?_⟩, rfl⟩
    simpa [hdown] using hsingle
  · rintro ⟨h, rfl⟩
    refine ⟨(), h.index, (), h.time, (), not_or.mpr ⟨h.nonempty, not_lt.mpr h.count⟩, (),
      not_lt.mpr h.reason, (), ⟨h.nodup, fun scanCode hmem => ⟨h.allowed scanCode hmem, ?_⟩⟩, _,
      ⟨h.room, rfl⟩, (), ?_, rfl⟩
    · simp
    · rintro ⟨hdown, hsome⟩
      rw [h.single hdown] at hsome
      cases hsome

/-- The slots of an action's codes, in ascending order. -/
def actionSlots (registry : KeyRegistry) (action : KeyActionInput) : List ℕ :=
  (sortedScanCodes registry action).map (slotOf registry)

/-- The slots a list of actions names, action by action. -/
def slotsOf (registry : KeyRegistry) (actions : List KeyActionInput) : List ℕ :=
  actions.flatMap (actionSlots registry)

/-- Sorting keeps an action's codes. -/
theorem sortedScanCodes_perm (action : KeyActionInput) :
    (sortedScanCodes registry action).Perm action.scanCodes := List.perm_insertionSort _ _

/-- An action names as many slots as codes. -/
@[simp] theorem actionSlots_length (action : KeyActionInput) :
    (actionSlots registry action).length = action.scanCodes.length := by
  rw [actionSlots, List.length_map, (sortedScanCodes_perm action).length_eq]

/-- A code's slot is among its action's slots. -/
theorem mem_actionSlots {action : KeyActionInput} {slot : ℕ} :
    slot ∈ actionSlots registry action ↔
      ∃ scanCode ∈ action.scanCodes, slotOf registry scanCode = slot := by
  rw [actionSlots, List.mem_map]
  simp only [(sortedScanCodes_perm action).mem_iff]

/-- The slots of allowed codes are instrument slots. -/
theorem lt_of_mem_slotsOf (hregistry : registry.WellFormed) {actions : List KeyActionInput}
    (hallowed : ∀ action ∈ actions, ∀ scanCode ∈ action.scanCodes,
      scanCode ∈ registry.scanCodes) {slot : ℕ} (h : slot ∈ slotsOf registry actions) :
    slot < maxKeys := by
  obtain ⟨action, haction, hslot⟩ := List.mem_flatMap.mp h
  obtain ⟨scanCode, hcode, rfl⟩ := mem_actionSlots.mp hslot
  exact slotOf_lt hregistry (hallowed action haction scanCode hcode)

/-- Distinct allowed codes name distinct slots. -/
theorem actionSlots_nodup {action : KeyActionInput} (hnodup : action.scanCodes.Nodup)
    (hallowed : ∀ scanCode ∈ action.scanCodes, scanCode ∈ registry.scanCodes) :
    (actionSlots registry action).Nodup := by
  refine List.Nodup.map_on (fun a ha b hb heq => ?_) ?_
  · exact slotOf_injective (hallowed a ((sortedScanCodes_perm action).mem_iff.mp ha))
      (hallowed b ((sortedScanCodes_perm action).mem_iff.mp hb)) heq
  · exact (sortedScanCodes_perm action).nodup_iff.mpr hnodup

/-- The intent releasing a slot under a table of open generations. -/
def upIntent (openGenerationBySlot : SlotTable OpenGeneration) (keySlot : ℕ) : CompactIntent :=
  CompactIntent.new
    (((openGenerationBySlot keySlot).map (·.generationId)).getD noGenerationId) keySlot

/-- What releasing a list of slots does to a release pass. -/
structure Released (slots : List ℕ) (before after : UpPass) : Prop where
  openGenerationBySlot : after.openGenerationBySlot =
    before.openGenerationBySlot.putAll none slots
  reasonTable : after.reasonTable = before.reasonTable
  upMask : after.upMask = before.upMask |||
    maskOf 16 (slots.filter (fun slot => (before.openGenerationBySlot slot).isSome))
  seenUpMask : after.seenUpMask = before.seenUpMask ||| maskOf 16 slots
  physical : ∀ slot, (after.physicalUpSourceActionIndexBySlot slot).isSome = true ↔
    (before.physicalUpSourceActionIndexBySlot slot).isSome = true ∨
      slot ∈ slots ∧ (before.openGenerationBySlot slot).isSome = true
  intents : after.intents =
    before.intents ++ slots.map (upIntent before.openGenerationBySlot)

/-- Releasing nothing changes nothing. -/
theorem Released.refl (pass : UpPass) : Released [] pass pass where
  openGenerationBySlot := rfl
  reasonTable := rfl
  upMask := by simp [maskOf]
  seenUpMask := by simp [maskOf]
  physical := by simp
  intents := by simp

/-- Releases of distinct slots compose. -/
theorem Released.trans {first second : List ℕ} {before middle after : UpPass}
    (hdisjoint : first.Disjoint second) (hfirst : Released first before middle)
    (hsecond : Released second middle after) : Released (first ++ second) before after := by
  have hsame : ∀ slot ∈ second,
      middle.openGenerationBySlot slot = before.openGenerationBySlot slot := by
    intro slot hslot
    rw [hfirst.openGenerationBySlot, SlotTable.putAll_apply,
      if_neg (fun h => hdisjoint h hslot)]
  refine ⟨?_, ?_, ?_, ?_, fun slot => ?_, ?_⟩
  · rw [hsecond.openGenerationBySlot, hfirst.openGenerationBySlot,
      SlotTable.putAll_append]
  · rw [hsecond.reasonTable, hfirst.reasonTable]
  · have hfilter : second.filter (fun slot => (middle.openGenerationBySlot slot).isSome) =
        second.filter (fun slot => (before.openGenerationBySlot slot).isSome) :=
      List.filter_congr fun slot hslot => by rw [hsame slot hslot]
    rw [hsecond.upMask, hfirst.upMask, List.filter_append, maskOf_append, hfilter,
      BitVec.or_assoc]
  · rw [hsecond.seenUpMask, hfirst.seenUpMask, maskOf_append, BitVec.or_assoc]
  · rw [hsecond.physical, hfirst.physical, List.mem_append]
    by_cases hslot : slot ∈ second
    · rw [hsame slot hslot]
      tauto
    · tauto
  · have hmap : second.map (upIntent middle.openGenerationBySlot) =
        second.map (upIntent before.openGenerationBySlot) :=
      List.map_congr_left fun slot hslot => by rw [upIntent, hsame slot hslot, upIntent]
    rw [hsecond.intents, hfirst.intents, List.map_append, hmap, List.append_assoc]

/-- Releasing one slot. -/
theorem releaseSlot_released (action : KeyActionInput) (pass : UpPass) (keySlot : ℕ) :
    Released [keySlot] pass (releaseSlot action pass keySlot) where
  openGenerationBySlot := rfl
  reasonTable := rfl
  upMask := by
    cases hopen : pass.openGenerationBySlot keySlot <;> simp [releaseSlot, hopen, maskOf]
  seenUpMask := by simp [releaseSlot, maskOf]
  physical slot := by
    by_cases heq : slot = keySlot
    · subst heq
      cases hopen : pass.openGenerationBySlot slot <;> simp [releaseSlot, hopen]
    · cases hopen : pass.openGenerationBySlot keySlot <;> simp [releaseSlot, hopen, heq]
  intents := rfl

/-- Releasing distinct slots one after the other. -/
theorem releaseSlots_released (action : KeyActionInput) {slots : List ℕ} (hnodup : slots.Nodup)
    (pass : UpPass) : Released slots pass (slots.foldl (releaseSlot action) pass) := by
  induction slots generalizing pass with
  | nil => exact Released.refl pass
  | cons slot rest ih =>
    obtain ⟨hfresh, hrest⟩ := List.nodup_cons.mp hnodup
    exact (releaseSlot_released action pass slot).trans
      (List.singleton_disjoint.mpr hfresh) (ih hrest _)

/-- Releasing slots leaves the collected batches alone. -/
theorem releaseSlots_groupBatches (action : KeyActionInput) (slots : List ℕ) (pass : UpPass) :
    (slots.foldl (releaseSlot action) pass).groupBatches = pass.groupBatches := by
  induction slots generalizing pass with
  | nil => rfl
  | cons slot rest ih => exact ih _

/-- The codes of a release action compile when their slots are distinct and not yet released. -/
theorem compileUpCodes_eq_ok {action : KeyActionInput} {scanCodes : List ℕ}
    (hslots : ∀ scanCode ∈ scanCodes, slotOf registry scanCode < 16) {pass result : UpPass} :
    scanCodes.foldlM (compileUpCode registry action) pass = .ok result ↔
      ((scanCodes.map (slotOf registry)).Nodup ∧
        ∀ slot ∈ scanCodes.map (slotOf registry), pass.seenUpMask.getLsbD slot = false) ∧
      result = (scanCodes.map (slotOf registry)).foldl (releaseSlot action) pass := by
  induction scanCodes generalizing pass with
  | nil =>
    rw [List.foldlM_nil, Except.pure_eq_ok]
    exact ⟨fun h => ⟨⟨List.nodup_nil, nofun⟩, h.symm⟩, fun h => h.2.symm⟩
  | cons scanCode rest ih =>
    have hslot := hslots scanCode List.mem_cons_self
    have hrest : ∀ other ∈ rest, slotOf registry other < 16 := fun other hother =>
      hslots other (List.mem_cons_of_mem _ hother)
    simp only [List.foldlM_cons, compileUpCode, Except.bind_eq_ok, failIf_eq_ok, not_not,
      Except.pure_eq_ok, and_slotBit_eq_zero hslot]
    have hseen : ∀ slot, (releaseSlot action pass (slotOf registry scanCode)).seenUpMask.getLsbD
        slot = (pass.seenUpMask.getLsbD slot || (decide (slot < 16) &&
          decide (slot = slotOf registry scanCode))) := by
      intro slot
      rw [← getLsbD_slotBit, ← BitVec.getLsbD_or]
      rfl
    constructor
    · rintro ⟨_, ⟨_, hunseen, rfl⟩, htail⟩
      obtain ⟨⟨hnodup, hfree⟩, rfl⟩ := (ih hrest).mp htail
      refine ⟨⟨List.nodup_cons.mpr ⟨fun hagain => ?_, hnodup⟩, fun slot hmem => ?_⟩, rfl⟩
      · have hbit := hfree _ hagain
        rw [hseen] at hbit
        simp [hslot] at hbit
      · rcases List.mem_cons.mp hmem with rfl | hmem
        · exact hunseen
        · have hbit := hfree slot hmem
          rw [hseen, Bool.or_eq_false_iff] at hbit
          exact hbit.1
    · rintro ⟨⟨hnodup, hfree⟩, rfl⟩
      obtain ⟨hfresh, hrestNodup⟩ := List.nodup_cons.mp hnodup
      refine ⟨_, ⟨(), hfree _ List.mem_cons_self, rfl⟩, (ih hrest).mpr ⟨⟨hrestNodup, ?_⟩, rfl⟩⟩
      intro slot hmem
      have hne : slot ≠ slotOf registry scanCode := fun heq => hfresh (heq ▸ hmem)
      rw [hseen, hfree slot (List.mem_cons_of_mem _ hmem)]
      simp [hne]

/-- The batches of actions whose intents follow each other from a position. -/
def batchesFrom (packetId : ℕ) (reasonTable : List String) :
    ℕ → List KeyActionInput → List CompiledBatch
  | _, [] => []
  | start, action :: rest =>
    actionBatch packetId action (reasonTable.idxOf action.reason) start ::
      batchesFrom packetId reasonTable (start + action.scanCodes.length) rest

/-- The number of slots actions name is their number of codes. -/
theorem slotsOf_cons (action : KeyActionInput) (rest : List KeyActionInput) :
    slotsOf registry (action :: rest) = actionSlots registry action ++ slotsOf registry rest :=
  rfl

/-- An arena index is the length itself, below the 32-bit bound. -/
theorem arenaIndex_eq_ok {length index : ℕ} :
    arenaIndex length = .ok index ↔ length < 2 ^ 32 ∧ length = index := by
  rw [arenaIndex, okOr_eq_ok, fit_eq_some]

/-- The releases of a group compile exactly when no slot is released twice. -/
theorem compileUps_eq_ok {packetId : ℕ} {ups : List KeyActionInput} {pass : UpPass}
    (hslots : ∀ action ∈ ups, ∀ scanCode ∈ action.scanCodes, slotOf registry scanCode < 16)
    (hreasons : ∀ action ∈ ups, action.reason ∈ pass.reasonTable)
    (hroom : pass.intents.length + (slotsOf registry ups).length < 2 ^ 32) :
    (((slotsOf registry ups).Nodup ∧
        ∀ slot ∈ slotsOf registry ups, pass.seenUpMask.getLsbD slot = false) →
      ∃ result, ups.foldlM (compileUp registry packetId) pass = .ok result) ∧
    ∀ result, ups.foldlM (compileUp registry packetId) pass = .ok result →
      (slotsOf registry ups).Nodup ∧
      (∀ slot ∈ slotsOf registry ups, pass.seenUpMask.getLsbD slot = false) ∧
      Released (slotsOf registry ups) pass result ∧
      result.groupBatches = pass.groupBatches ++
        batchesFrom packetId pass.reasonTable pass.intents.length ups := by
  induction ups generalizing pass with
  | nil =>
    refine ⟨fun _ => ⟨pass, rfl⟩, fun result h => ?_⟩
    rw [List.foldlM_nil, Except.pure_eq_ok] at h
    subst h
    exact ⟨List.nodup_nil, nofun, Released.refl pass, by simp [batchesFrom]⟩
  | cons action rest ih =>
    have hreason := hreasons action List.mem_cons_self
    rw [slotsOf_cons, List.length_append, actionSlots_length] at hroom
    -- the pass after this action's codes and batch
    let next : UpPass :=
      { (actionSlots registry action).foldl (releaseSlot action) pass with
        groupBatches := pass.groupBatches ++
          [actionBatch packetId action (pass.reasonTable.idxOf action.reason)
            pass.intents.length] }
    have hcodes : ∀ scanCode ∈ sortedScanCodes registry action,
        slotOf registry scanCode < 16 := fun scanCode hmem =>
      hslots action List.mem_cons_self scanCode ((sortedScanCodes_perm action).mem_iff.mp hmem)
    have hstep : ∀ result, compileUp registry packetId pass action = .ok result ↔
        ((actionSlots registry action).Nodup ∧ ∀ slot ∈ actionSlots registry action,
          pass.seenUpMask.getLsbD slot = false) ∧ result = next := by
      intro result
      simp only [compileUp, Except.bind_eq_ok, getOrInsertReason_eq_ok, arenaIndex_eq_ok,
        compileUpCodes_eq_ok hcodes, internReason_of_mem hreason, Except.pure_eq_ok]
      constructor
      · rintro ⟨_, ⟨-, rfl⟩, _, ⟨-, rfl⟩, _, ⟨hgood, rfl⟩, rfl⟩
        exact ⟨hgood, by simp only [next, releaseSlots_groupBatches, actionSlots]⟩
      · rintro ⟨hgood, rfl⟩
        exact ⟨_, ⟨Or.inl hreason, rfl⟩, _, ⟨by omega, rfl⟩, _, ⟨hgood, rfl⟩,
          by simp only [next, releaseSlots_groupBatches, actionSlots]⟩
    have hnext : (actionSlots registry action).Nodup →
        Released (actionSlots registry action) pass next := fun hnodup => by
      obtain ⟨hopen, htable, hup, hseen, hphysical, hintents⟩ :=
        releaseSlots_released action hnodup pass
      exact ⟨hopen, htable, hup, hseen, hphysical, hintents⟩
    have hseenNext : (actionSlots registry action).Nodup → ∀ slot, slot < 16 →
        (next.seenUpMask.getLsbD slot = false ↔ pass.seenUpMask.getLsbD slot = false ∧
          slot ∉ actionSlots registry action) := by
      intro hnodup slot hslot
      rw [(hnext hnodup).seenUpMask, BitVec.getLsbD_or, getLsbD_maskOf]
      simp [hslot]
    have hrestSlots : ∀ slot ∈ slotsOf registry rest, slot < 16 := by
      intro slot hmem
      obtain ⟨other, hother, hslot⟩ := List.mem_flatMap.mp hmem
      obtain ⟨scanCode, hcode, rfl⟩ := mem_actionSlots.mp hslot
      exact hslots other (List.mem_cons_of_mem _ hother) scanCode hcode
    have hih : (actionSlots registry action).Nodup → _ := fun hnodup =>
      @ih next
        (fun other hother => hslots other (List.mem_cons_of_mem _ hother))
        (fun other hother => by
          rw [(hnext hnodup).reasonTable]
          exact hreasons other (List.mem_cons_of_mem _ hother))
        (by
          rw [(hnext hnodup).intents, List.length_append, List.length_map, actionSlots_length]
          omega)
    rw [slotsOf_cons]
    refine ⟨fun ⟨hnodup, hfree⟩ => ?_, fun result h => ?_⟩
    · obtain ⟨hown, hrest, hdisjoint⟩ := List.nodup_append'.mp hnodup
      obtain ⟨result, hresult⟩ := (hih hown).1 ⟨hrest, fun slot hmem =>
        (hseenNext hown slot (hrestSlots slot hmem)).mpr
          ⟨hfree slot (List.mem_append_right _ hmem), fun h => hdisjoint h hmem⟩⟩
      refine ⟨result, ?_⟩
      rw [List.foldlM_cons, Except.bind_eq_ok]
      exact ⟨next, (hstep next).mpr ⟨⟨hown, fun slot hmem =>
        hfree slot (List.mem_append_left _ hmem)⟩, rfl⟩, hresult⟩
    · rw [List.foldlM_cons, Except.bind_eq_ok] at h
      obtain ⟨middle, hmiddle, hresult⟩ := h
      obtain ⟨⟨hown, hownFree⟩, rfl⟩ := (hstep middle).mp hmiddle
      obtain ⟨hrest, hrestFree, hreleased, hbatches⟩ := (hih hown).2 result hresult
      have hdisjoint : (actionSlots registry action).Disjoint (slotsOf registry rest) :=
        fun slot hmem hagain =>
          ((hseenNext hown slot (hrestSlots slot hagain)).mp (hrestFree slot hagain)).2 hmem
      refine ⟨List.nodup_append'.mpr ⟨hown, hrest, hdisjoint⟩, fun slot hmem => ?_,
        (hnext hown).trans hdisjoint hreleased, ?_⟩
      · rcases List.mem_append.mp hmem with hmem | hmem
        · exact hownFree slot hmem
        · exact ((hseenNext hown slot (hrestSlots slot hmem)).mp (hrestFree slot hmem)).1
      · rw [hbatches, (hnext hown).reasonTable, (hnext hown).intents, List.length_append,
          List.length_map, actionSlots_length]
        simp [next, batchesFrom]

/-- What pressing a list of slots does to a press pass. -/
structure Pressed (action : KeyActionInput) (slots : List ℕ) (before after : DownPass) :
    Prop where
  openGenerationBySlot : ∀ slot, after.openGenerationBySlot slot =
    if slot ∈ slots then some ⟨before.nextGenerationId + slots.idxOf slot,
      action.sourceActionIndex, action.scheduledUs⟩
    else before.openGenerationBySlot slot
  nextGenerationId : after.nextGenerationId = before.nextGenerationId + slots.length
  downMask : after.downMask = before.downMask ||| maskOf 16 slots
  intents : after.intents = before.intents ++
    (slots.zipIdx before.nextGenerationId).map (fun press => CompactIntent.new press.2 press.1)

/-- Pressing distinct slots one after the other opens consecutive generations. -/
theorem pressSlots_pressed (action : KeyActionInput) {slots : List ℕ} (hnodup : slots.Nodup)
    (pass : DownPass) : Pressed action slots pass (slots.foldl (pressSlot action) pass) := by
  induction slots generalizing pass with
  | nil => exact ⟨fun _ => rfl, rfl, by simp [maskOf], by simp⟩
  | cons slot rest ih =>
    obtain ⟨hfresh, hrest⟩ := List.nodup_cons.mp hnodup
    obtain ⟨hopen, hnext, hmask, hintents⟩ := ih hrest (pressSlot action pass slot)
    refine ⟨fun other => ?_, ?_, ?_, ?_⟩
    · rw [List.foldl_cons, hopen]
      by_cases hother : other ∈ rest
      · have hne : slot ≠ other := fun heq => hfresh (heq ▸ hother)
        rw [if_pos hother, if_pos (List.mem_cons_of_mem _ hother), List.idxOf_cons_ne _ hne]
        simp only [pressSlot]
        rw [Nat.succ_eq_add_one, Nat.add_assoc, Nat.add_comm 1]
      · rw [if_neg hother]
        by_cases heq : other = slot
        · subst heq
          simp [pressSlot]
        · simp [pressSlot, heq, hother]
    · have hone : (pressSlot action pass slot).nextGenerationId = pass.nextGenerationId + 1 := rfl
      rw [List.foldl_cons, hnext, hone, List.length_cons]
      omega
    · rw [List.foldl_cons, hmask, pressSlot, maskOf, BitVec.or_assoc]
    · rw [List.foldl_cons, hintents, pressSlot]
      simp

/-- The codes of the press action compile when their slots are free and unreleased. -/
theorem compileDownCodes_eq_ok {physicalUps : SlotTable ℕ} {action : KeyActionInput}
    {scanCodes : List ℕ} (hnodup : (scanCodes.map (slotOf registry)).Nodup)
    {pass result : DownPass}
    (hroom : pass.nextGenerationId + scanCodes.length ≤ maxCompactGenerationId) :
    scanCodes.foldlM (compileDownCode registry physicalUps action) pass = .ok result ↔
      (∀ slot ∈ scanCodes.map (slotOf registry),
        physicalUps slot = none ∧ pass.openGenerationBySlot slot = none) ∧
      result = (scanCodes.map (slotOf registry)).foldl (pressSlot action) pass := by
  induction scanCodes generalizing pass with
  | nil =>
    rw [List.foldlM_nil, Except.pure_eq_ok]
    exact ⟨fun h => ⟨nofun, h.symm⟩, fun h => h.2.symm⟩
  | cons scanCode rest ih =>
    obtain ⟨hfresh, hrestNodup⟩ := List.nodup_cons.mp hnodup
    rw [List.length_cons] at hroom
    have hmatched : ∀ {done : Unit} {physicalUp : Option ℕ},
        rejectMatchedUp physicalUp action scanCode = .ok done ↔ physicalUp = none := by
      intro done physicalUp
      cases physicalUp <;> simp [rejectMatchedUp]
    have hoverlap : ∀ {done : Unit} {openGeneration : Option OpenGeneration},
        rejectOverlap openGeneration action scanCode = .ok done ↔ openGeneration = none := by
      intro done openGeneration
      cases openGeneration <;> simp [rejectOverlap]
    have hstep : ∀ next, compileDownCode registry physicalUps action pass scanCode = .ok next ↔
        (physicalUps (slotOf registry scanCode) = none ∧
          pass.openGenerationBySlot (slotOf registry scanCode) = none) ∧
        next = pressSlot action pass (slotOf registry scanCode) := by
      intro next
      simp only [compileDownCode, Except.bind_eq_ok, hmatched, hoverlap, failIf_eq_ok,
        okOr_eq_ok, checkedAdd_eq_some, Except.pure_eq_ok]
      unfold maxCompactGenerationId at *
      constructor
      · rintro ⟨_, hphysical, _, hopen, _, -, _, -, rfl⟩
        exact ⟨⟨hphysical, hopen⟩, rfl⟩
      · rintro ⟨⟨hphysical, hopen⟩, rfl⟩
        exact ⟨(), hphysical, (), hopen, (), by omega, _, ⟨by omega, rfl⟩, rfl⟩
    have hopen : ∀ slot ∈ rest.map (slotOf registry),
        (pressSlot action pass (slotOf registry scanCode)).openGenerationBySlot slot =
          pass.openGenerationBySlot slot := by
      intro slot hmem
      have hne : slot ≠ slotOf registry scanCode := fun heq => hfresh (heq ▸ hmem)
      simp [pressSlot, hne]
    have hrest := @ih hrestNodup (pressSlot action pass (slotOf registry scanCode))
      (by simp only [pressSlot]; omega)
    rw [List.foldlM_cons, Except.bind_eq_ok, List.map_cons, List.foldl_cons, List.forall_mem_cons]
    constructor
    · rintro ⟨next, hnext, htail⟩
      obtain ⟨hfree, rfl⟩ := (hstep next).mp hnext
      obtain ⟨hrestFree, rfl⟩ := hrest.mp htail
      exact ⟨⟨hfree, fun slot hmem => hopen slot hmem ▸ hrestFree slot hmem⟩, rfl⟩
    · rintro ⟨⟨hfree, hrestFree⟩, rfl⟩
      exact ⟨_, (hstep _).mpr ⟨hfree, rfl⟩, hrest.mpr ⟨fun slot hmem =>
        (hopen slot hmem).symm ▸ hrestFree slot hmem, rfl⟩⟩

end SkyAutoPlayer.DispatchCore
