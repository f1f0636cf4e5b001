import SkyAutoPlayer.Foundation.Checked
import SkyAutoPlayer.Foundation.SlotMask

/-!
# Physical packets and one transport attempt

A physical packet releases the slots of one mask and presses those of another in one send:
every Up in slot order, then every Down. A prepared packet carries the proof that it was
validated. One attempt hands the events to the operating system, which applies a prefix of
them to the keyboard and reports its length; the clock may fail before or after the call. The
attempt's outcome is the typed transaction the ownership state is updated from.
-/

namespace SkyAutoPlayer.DispatchWin32

open Foundation

/-- The mask of all instrument slots. -/
def fullInstrumentMask : BitVec 16 := 0x7fff#16

/-- The largest number of events in one packet. -/
def maxPacketEvents : ℕ := 15

/-- Failures of the QPC clock. -/
inductive QpcError where
  | frequencyUnavailable
  | counterUnavailable
  | deadlineOverflow
  | conversionOverflow
  deriving DecidableEq, Repr

/-- The slots one send releases and presses. -/
structure PhysicalPacket where
  upMask : BitVec 16
  downMask : BitVec 16
  deriving DecidableEq, Repr

/-- All slots a packet touches. -/
def PhysicalPacket.union (packet : PhysicalPacket) : BitVec 16 :=
  packet.upMask ||| packet.downMask

/-- The number of key events of a packet. -/
def PhysicalPacket.eventCount (packet : PhysicalPacket) : ℕ :=
  countOnes packet.upMask + countOnes packet.downMask

/-- A packet over the instrument's slots with no slot in both directions. -/
def PhysicalPacket.Valid (packet : PhysicalPacket) : Prop :=
  packet.upMask &&& packet.downMask = 0#16 ∧
    packet.upMask &&& ~~~fullInstrumentMask = 0#16 ∧
    packet.downMask &&& ~~~fullInstrumentMask = 0#16 ∧
    packet.eventCount ≤ maxPacketEvents

instance (packet : PhysicalPacket) : Decidable packet.Valid :=
  inferInstanceAs (Decidable (_ ∧ _ ∧ _ ∧ _))

/-- Why a packet cannot be prepared. -/
inductive PacketPreparationError where
  | empty
  | invalidMask
  | overlappingDirections (overlapMask : BitVec 16)
  deriving DecidableEq, Repr

/-- The message of a preparation failure. -/
def PacketPreparationError.message : PacketPreparationError → String
  | .empty => "physical packet is empty"
  | .invalidMask => "physical packet contains an invalid key mask"
  | .overlappingDirections overlapMask =>
    "physical packet contains keys present in both directions: 0x" ++ overlapMask.toHex

/-- A packet validated before the precision boundary. -/
structure PreparedPhysicalPacket where
  packet : PhysicalPacket
  length : ℕ
  valid : packet.Valid
  nonempty : packet.eventCount ≠ 0
  length_eq : length = packet.eventCount

/-- A borrowed view of a prepared packet, or of its Up prefix. -/
structure PreparedPacketView where
  packet : PhysicalPacket
  valid : packet.Valid

/-- Validate a packet: overlap first, then the masks, then emptiness. -/
def PreparedPhysicalPacket.tryNew (packet : PhysicalPacket) :
    Except PacketPreparationError PreparedPhysicalPacket :=
  if packet.upMask &&& packet.downMask ≠ 0#16 then
    .error (.overlappingDirections (packet.upMask &&& packet.downMask))
  else if hvalid : packet.Valid then
    if hempty : packet.eventCount = 0 then .error .empty
    else .ok ⟨packet, packet.eventCount, hvalid, hempty, rfl⟩
  else .error .invalidMask

/-- The view of the whole packet. -/
def PreparedPhysicalPacket.asView (prepared : PreparedPhysicalPacket) : PreparedPacketView :=
  ⟨prepared.packet, prepared.valid⟩

/-- The Up prefix of a valid packet is a valid packet. -/
theorem PhysicalPacket.Valid.upPrefix {packet : PhysicalPacket} (h : packet.Valid) :
    (PhysicalPacket.mk packet.upMask 0#16).Valid := by
  obtain ⟨_, hup, _, hcount⟩ := h
  refine ⟨by simp, hup, by simp, ?_⟩
  have hle : countOnes packet.upMask ≤ maxPacketEvents := by
    unfold PhysicalPacket.eventCount at hcount
    omega
  simpa [PhysicalPacket.eventCount, countOnes] using hle

/-- The Up prefix of a mixed packet, when the materialized length is the expected one. -/
def PreparedPhysicalPacket.upRecoveryView (prepared : PreparedPhysicalPacket) :
    Option PreparedPacketView :=
  if prepared.packet.upMask = 0#16 ∨ prepared.packet.downMask = 0#16 then none
  else if prepared.length ≠
      countOnes prepared.packet.upMask + countOnes prepared.packet.downMask then none
  else some ⟨⟨prepared.packet.upMask, 0#16⟩, prepared.valid.upPrefix⟩

/-- One key event handed to the operating system. -/
inductive KeyEvent where
  | up (slot : ℕ)
  | down (slot : ℕ)
  deriving DecidableEq, Repr

/-- The events of a packet: all Ups in slot order, then all Downs. -/
def PhysicalPacket.keyEvents (packet : PhysicalPacket) : List KeyEvent :=
  (slots packet.upMask).map .up ++ (slots packet.downMask).map .down

/-- The keyboard after one event. -/
def pressKey (held : BitVec 16) : KeyEvent → BitVec 16
  | .up slot => held &&& ~~~slotBit 16 slot
  | .down slot => held ||| slotBit 16 slot

/-- The keyboard after the first `count` events of a packet. -/
def PhysicalPacket.press (packet : PhysicalPacket) (count : ℕ) (held : BitVec 16) : BitVec 16 :=
  (packet.keyEvents.take count).foldl pressKey held

/-- What the clock and the operating system answer to one attempt. -/
structure TransportResponse where
  startSample : Except QpcError ℕ
  inserted : ℕ
  lastError : ℕ
  completedSample : Except QpcError ℕ

/-- The low-level result of one send. -/
structure PlatformSendResult where
  requested : ℕ
  inserted : ℕ
  startedTicks : ℕ
  completedTicks : Option ℕ
  win32Error : ℕ
  timingError : Option QpcError
  deriving DecidableEq, Repr

/-- A clock failure around a send, and whether the send had been called. -/
structure PreparedSendFailure where
  started : Option ℕ
  error : QpcError
  called : Bool
  deriving DecidableEq, Repr

/-- Why a send counts as one to retry. -/
inductive PacketRetryReason where
  | none
  | zeroProgress
  | partialProgress (insertedCount : ℕ)
  deriving DecidableEq, Repr

/-- The transport status of a transaction. -/
inductive SendTransactionStatus where
  | complete
  | preparationRejected
  | zeroProgress
  | partialProgress
  | integrityLost
  | clockFailureBeforeSend
  | clockFailureAfterSend
  deriving DecidableEq, Repr

/-- The name a status prints as. -/
def SendTransactionStatus.debugName : SendTransactionStatus → String
  | .complete => "Complete"
  | .preparationRejected => "PreparationRejected"
  | .zeroProgress => "ZeroProgress"
  | .partialProgress => "PartialProgress"
  | .integrityLost => "IntegrityLost"
  | .clockFailureBeforeSend => "ClockFailureBeforeSend"
  | .clockFailureAfterSend => "ClockFailureAfterSend"

/-- The evidence of a transaction. -/
structure SendEvidence where
  requestedMask : BitVec 16
  confirmedMask : BitVec 16
  skippedMask : BitVec 16
  firstInserted : ℕ
  attempts : ℕ
  zeroProgressRetries : ℕ
  retryReason : PacketRetryReason
  firstWin32Error : Option ℕ
  lastWin32Error : Option ℕ
  startedTicks : Option ℕ
  completedTicks : Option ℕ
  timingError : Option QpcError
  deriving DecidableEq, Repr

/-- One send transaction. -/
structure SendTransactionOutcome where
  status : SendTransactionStatus
  evidence : SendEvidence
  deriving DecidableEq, Repr

/-- Only a complete transaction is a success. -/
def SendTransactionOutcome.isSuccess (outcome : SendTransactionOutcome) : Bool :=
  outcome.status = .complete

/-- Evidence of a transaction that inserted nothing. -/
def SendEvidence.untouched (requestedMask : BitVec 16) : SendEvidence where
  requestedMask
  confirmedMask := 0#16
  skippedMask := 0#16
  firstInserted := 0
  attempts := 0
  zeroProgressRetries := 0
  retryReason := .none
  firstWin32Error := none
  lastWin32Error := none
  startedTicks := none
  completedTicks := none
  timingError := none

/-- The outcome of a packet rejected before any send. -/
def invalidPacketOutcome (packet : PhysicalPacket) : SendTransactionOutcome where
  status := .preparationRejected
  evidence := SendEvidence.untouched packet.union

/-- Classify a send by its clock evidence, its inserted count and the system error. -/
def classifySendStatus (inserted requested win32Error : ℕ)
    (startedTicks completedTicks : Option ℕ) : SendTransactionStatus :=
  if startedTicks.isNone ∨ completedTicks.isNone then
    if 0 < inserted then .clockFailureAfterSend else .clockFailureBeforeSend
  else if inserted < requested then
    if inserted = 0 then .zeroProgress else .integrityLost
  else if win32Error ≠ 0 then .integrityLost
  else .complete

/-- The start sample of an attempt: the caller's, or a fresh clock reading. -/
def startTicks (supplied : Option ℕ) (response : TransportResponse) : Except QpcError ℕ :=
  match supplied with
  | some ticks => .ok ticks
  | none => response.startSample

/-- Hand a prepared view to the operating system once; also returns the keyboard. -/
def sendOncePreparedView (view : PreparedPacketView) (supplied : Option ℕ)
    (response : TransportResponse) (held : BitVec 16) :
    Except PreparedSendFailure PlatformSendResult × BitVec 16 :=
  match startTicks supplied response with
  | .error error => (.error ⟨none, error, false⟩, held)
  | .ok started =>
    let requested := view.packet.eventCount
    let inserted := min response.inserted requested
    let win32Error := if inserted < requested then response.lastError else 0
    let pressed := view.packet.press inserted held
    match response.completedSample with
    | .error error => (.error ⟨some started, error, true⟩, pressed)
    | .ok completed =>
      (.ok {
        requested
        inserted
        startedTicks := started
        completedTicks := some completed
        win32Error
        timingError := none }, pressed)

/-- The typed transaction of one attempt. -/
def preparedSendOutcome (packet : PhysicalPacket)
    (first : Except PreparedSendFailure PlatformSendResult) : SendTransactionOutcome :=
  match first with
  | .error failure => {
      status := if failure.called then .clockFailureAfterSend else .clockFailureBeforeSend
      evidence := {
        SendEvidence.untouched packet.union with
        attempts := if failure.called then 1 else 0
        startedTicks := failure.started
        timingError := some failure.error } }
  | .ok result =>
    let inserted := min result.inserted result.requested
    let status := classifySendStatus inserted result.requested result.win32Error
      (some result.startedTicks) result.completedTicks
    let win32Error := if result.win32Error ≠ 0 then some result.win32Error else none
    { status
      evidence := {
        requestedMask := packet.union
        confirmedMask := if status = .complete then packet.union else 0#16
        skippedMask := 0#16
        firstInserted := inserted
        attempts := 1
        zeroProgressRetries := 0
        retryReason :=
          if inserted = 0 ∧ status ≠ .complete then .zeroProgress
          else if inserted < result.requested then .partialProgress inserted
          else .none
        firstWin32Error := win32Error
        lastWin32Error := win32Error
        startedTicks := some result.startedTicks
        completedTicks := result.completedTicks
        timingError := result.timingError } }

/-- One attempt without any retry policy; also returns the keyboard. -/
def sendPreparedPacketOnce (view : PreparedPacketView) (supplied : Option ℕ)
    (response : TransportResponse) (held : BitVec 16) : SendTransactionOutcome × BitVec 16 :=
  let sent := sendOncePreparedView view supplied response held
  (preparedSendOutcome view.packet sent.1, sent.2)

/-- An Up releases exactly its slot. -/
theorem getLsbD_pressKey_up (held : BitVec 16) (released slot : ℕ) :
    (pressKey held (.up released)).getLsbD slot =
      (held.getLsbD slot && !decide (slot = released)) := by
  rw [pressKey, BitVec.getLsbD_and]
  by_cases hlt : slot < 16
  · rw [getLsbD_not_of_lt hlt, getLsbD_slotBit, decide_eq_true hlt, Bool.true_and]
  · rw [BitVec.getLsbD_of_ge held _ (Nat.not_lt.mp hlt), Bool.false_and, Bool.false_and]

/-- A Down presses exactly its slot. -/
theorem getLsbD_pressKey_down (held : BitVec 16) (pressed slot : ℕ) :
    (pressKey held (.down pressed)).getLsbD slot =
      (held.getLsbD slot || (decide (slot < 16) && decide (slot = pressed))) := by
  rw [pressKey, BitVec.getLsbD_or, getLsbD_slotBit]

/-- A key is held after a list of Ups exactly when it was held and is not among them. -/
theorem foldl_pressKey_up (list : List ℕ) (held : BitVec 16) (slot : ℕ) :
    ((list.map KeyEvent.up).foldl pressKey held).getLsbD slot =
      (held.getLsbD slot && !decide (slot ∈ list)) := by
  induction list generalizing held with
  | nil => simp
  | cons head rest ih =>
    rw [List.map_cons, List.foldl_cons, ih, getLsbD_pressKey_up, Bool.and_assoc]
    congr 1
    by_cases heq : slot = head <;> by_cases hmem : slot ∈ rest <;> simp [heq, hmem]

/-- A key is held after a list of Downs exactly when it was held or is among them. -/
theorem foldl_pressKey_down (list : List ℕ) (held : BitVec 16) (slot : ℕ) :
    ((list.map KeyEvent.down).foldl pressKey held).getLsbD slot =
      (held.getLsbD slot || (decide (slot < 16) && decide (slot ∈ list))) := by
  induction list generalizing held with
  | nil => simp
  | cons head rest ih =>
    rw [List.map_cons, List.foldl_cons, ih, getLsbD_pressKey_down, Bool.or_assoc,
      ← Bool.and_or_distrib_left, ← Bool.decide_or]
    simp only [List.mem_cons]

/-- Any prefix of a packet only presses slots of its Down mask. -/
theorem PhysicalPacket.press_le (packet : PhysicalPacket) (count : ℕ) (held : BitVec 16)
    {slot : ℕ} (h : (packet.press count held).getLsbD slot = true) :
    held.getLsbD slot = true ∨ packet.downMask.getLsbD slot = true := by
  have hsplit : packet.keyEvents.take count =
      ((slots packet.upMask).take count).map .up ++
        ((slots packet.downMask).take (count - (slots packet.upMask).length)).map .down := by
    simp [PhysicalPacket.keyEvents, List.take_append, List.map_take]
  rw [PhysicalPacket.press, hsplit, List.foldl_append, foldl_pressKey_down,
    foldl_pressKey_up] at h
  simp only [Bool.or_eq_true, Bool.and_eq_true, decide_eq_true_eq] at h
  rcases h with ⟨hheld, _⟩ | ⟨_, hdown⟩
  · exact Or.inl hheld
  · exact Or.inr (mem_slots.mp (List.mem_of_mem_take hdown))

/-- A fully inserted packet releases its Ups and presses its Downs. -/
theorem PhysicalPacket.press_eventCount (packet : PhysicalPacket) (held : BitVec 16)
    (slot : ℕ) : (packet.press packet.eventCount held).getLsbD slot =
      ((held.getLsbD slot && !packet.upMask.getLsbD slot) || packet.downMask.getLsbD slot) := by
  have hall : packet.keyEvents.take packet.eventCount = packet.keyEvents := by
    apply List.take_of_length_le
    simp [PhysicalPacket.keyEvents, PhysicalPacket.eventCount, countOnes]
  have hdown : (decide (slot < 16) && packet.downMask.getLsbD slot) =
      packet.downMask.getLsbD slot := by
    by_cases hlt : slot < 16
    · simp [hlt]
    · simp [BitVec.getLsbD_of_ge _ _ (Nat.not_lt.mp hlt)]
  rw [PhysicalPacket.press, hall, PhysicalPacket.keyEvents, List.foldl_append,
    foldl_pressKey_down, foldl_pressKey_up]
  simp [mem_slots, hdown]

/-- No prefix of no events changes the keyboard. -/
theorem PhysicalPacket.press_zero (packet : PhysicalPacket) (held : BitVec 16) :
    packet.press 0 held = held := rfl

/-- What one attempt or rejection established about the keyboard, by its status. -/
inductive AttemptEvidence (packet : PhysicalPacket) (held pressed : BitVec 16)
    (outcome : SendTransactionOutcome) : Prop where
  | complete (status : outcome.status = .complete)
      (confirmed : outcome.evidence.confirmedMask = packet.union)
      (keyboard : ∀ slot, pressed.getLsbD slot =
        ((held.getLsbD slot && !packet.upMask.getLsbD slot) || packet.downMask.getLsbD slot))
  | untouched (status : outcome.status = .zeroProgress ∨
        outcome.status = .clockFailureBeforeSend ∨ outcome.status = .preparationRejected)
      (confirmed : outcome.evidence.confirmedMask = 0#16) (keyboard : pressed = held)
  | uncertain (status : outcome.status = .integrityLost ∨ outcome.status = .clockFailureAfterSend)
      (confirmed : outcome.evidence.confirmedMask = 0#16)
      (keyboard : ∀ slot, pressed.getLsbD slot = true →
        held.getLsbD slot = true ∨ packet.downMask.getLsbD slot = true)

/-- Every attempt ends complete, untouched or uncertain, with the matching keyboard. -/
theorem sendPreparedPacketOnce_evidence (view : PreparedPacketView) (supplied : Option ℕ)
    (response : TransportResponse) (held : BitVec 16) :
    AttemptEvidence view.packet held
      (sendPreparedPacketOnce view supplied response held).2
      (sendPreparedPacketOnce view supplied response held).1 := by
  unfold sendPreparedPacketOnce sendOncePreparedView
  cases startTicks supplied response with
  | error error => exact .untouched (Or.inr (Or.inl rfl)) rfl rfl
  | ok started =>
    cases response.completedSample with
    | error error => exact .uncertain (Or.inr rfl) rfl fun slot => view.packet.press_le _ held
    | ok completed =>
      by_cases hshort : min response.inserted view.packet.eventCount < view.packet.eventCount
      · by_cases hzero : min response.inserted view.packet.eventCount = 0
        · have hsome : 0 < view.packet.eventCount := hzero ▸ hshort
          refine .untouched (Or.inl ?_) ?_ ?_
          · simp [preparedSendOutcome, classifySendStatus, hzero, hsome]
          · simp [preparedSendOutcome, classifySendStatus, hzero, hsome]
          · simp only [hzero, view.packet.press_zero]
        · refine .uncertain (Or.inl ?_) ?_ fun slot => view.packet.press_le _ held
          · simp [preparedSendOutcome, classifySendStatus, hshort, hzero]
          · simp [preparedSendOutcome, classifySendStatus, hshort, hzero]
      · have hall : min response.inserted view.packet.eventCount = view.packet.eventCount := by
          omega
        refine .complete ?_ ?_ fun slot => ?_
        · simp [preparedSendOutcome, classifySendStatus, hall]
        · simp [preparedSendOutcome, classifySendStatus, hall]
        · simp only [hall, view.packet.press_eventCount]

end SkyAutoPlayer.DispatchWin32
