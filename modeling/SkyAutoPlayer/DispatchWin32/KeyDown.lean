import SkyAutoPlayer.DispatchWin32.KeyOwnership

/-!
# Pressing scan codes

The scan-code path presses a list of keys in one send. Keys believed held are skipped; the others
count as possibly held during the send, and the outcome rewrites the masks. The bits marked for the
send are the same bits that hold the residue of an earlier partial send, so a send that inserts
nothing gives up that residue too.
-/

namespace SkyAutoPlayer.DispatchWin32

open Foundation

/-- The scan codes of the instrument's keys, by slot. -/
def physicalInstrumentScanCodes : List ℕ :=
  [0x15, 0x16, 0x17, 0x18, 0x19, 0x23, 0x24, 0x25, 0x26, 0x27, 0x31, 0x32, 0x33, 0x34, 0x35]

/-- The mask of a scan code's slot. -/
def keyMask (scanCode : ℕ) : Option (BitVec 16) :=
  (physicalInstrumentScanCodes.idxOf? scanCode).map (slotBit 16)

/-- The mask of a list of scan codes, when the instrument has all of them. -/
def maskForScanCodes (scanCodes : List ℕ) : Option (BitVec 16) :=
  scanCodes.foldlM (fun mask scanCode => (keyMask scanCode).map fun bit => mask ||| bit) 0#16

/-- What the clock and the operating system answer to a scan-code send. -/
structure ScanCodeResponse where
  initialized : Except QpcError QpcClock
  frequency : Except QpcError ℕ
  transport : TransportResponse

/-- The samples of a send that needs no system call. -/
def noSyscallBoundaryWithClock (clock : Option QpcClock) (response : ScanCodeResponse) :
    ℕ × Option ℕ × Option QpcError :=
  match clock, response.initialized with
  | none, .error error => (0, none, some error)
  | _, _ =>
    match response.frequency with
    | .error _ => (0, none, some .frequencyUnavailable)
    | .ok _ =>
      match response.transport.startSample with
      | .ok ticks => (ticks, some ticks, none)
      | .error error => (0, none, some error)

/-- The result of a send that inserted nothing. -/
def PlatformSendResult.nothing (requested win32Error : ℕ) (timingError : Option QpcError) :
    PlatformSendResult where
  requested
  inserted := 0
  startedTicks := 0
  completedTicks := none
  win32Error
  timingError

/-- A length as an unsigned byte, or the largest one. -/
def lengthByte (length : ℕ) : ℕ := min length 255

/-- Hand scan codes to the operating system once. -/
def sendInputRawWithClock (scanCodes : List ℕ) (clock : QpcClock) (response : ScanCodeResponse) :
    PlatformSendResult :=
  if physicalInstrumentScanCodes.length < scanCodes.length ∨
      scanCodes.any (fun scanCode => (keyMask scanCode).isNone) then
    .nothing (lengthByte scanCodes.length) 87 none
  else if scanCodes = [] then
    let boundary := noSyscallBoundaryWithClock (some clock) response
    { requested := 0
      inserted := 0
      startedTicks := boundary.1
      completedTicks := boundary.2.1
      win32Error := 0
      timingError := boundary.2.2 }
  else
    match response.transport.startSample with
    | .error error => .nothing scanCodes.length 0 (some error)
    | .ok started =>
      let inserted := min response.transport.inserted scanCodes.length
      { requested := scanCodes.length
        inserted
        startedTicks := started
        completedTicks := response.transport.completedSample.toOption
        win32Error := if inserted ≠ scanCodes.length then response.transport.lastError else 0
        timingError :=
          match response.transport.completedSample with
          | .ok _ => none
          | .error error => some error }

/-- Hand scan codes to the operating system over a clock initialized for the call. -/
def sendInputRaw (scanCodes : List ℕ) (response : ScanCodeResponse) : PlatformSendResult :=
  match response.initialized with
  | .error error => .nothing (lengthByte scanCodes.length) 0 (some error)
  | .ok clock => sendInputRawWithClock scanCodes clock response

/-- A complete transaction without a send. -/
def boundaryOutcome (requestedMask confirmedMask skippedMask : BitVec 16)
    (boundary : ℕ × Option ℕ × Option QpcError) : SendTransactionOutcome where
  status := .complete
  evidence := {
    SendEvidence.untouched requestedMask with
    confirmedMask
    skippedMask
    startedTicks := some boundary.1
    completedTicks := boundary.2.1
    timingError := boundary.2.2 }

/-- Emit one note-on packet without retrying. -/
def emitDownOnceWith (scanCodes : List ℕ) (response : ScanCodeResponse)
    (send : List ℕ → PlatformSendResult) : SendTransactionOutcome :=
  if scanCodes = [] then boundaryOutcome 0#16 0#16 0#16 (noSyscallBoundaryWithClock none response)
  else
    let requestedMask := (maskForScanCodes scanCodes).getD 0#16
    let requested := scanCodes.length
    let result := send scanCodes
    let inserted := min result.inserted requested
    let status := classifySendStatus inserted requested result.win32Error
      (some result.startedTicks) result.completedTicks
    let win32Error := if result.win32Error ≠ 0 then some result.win32Error else none
    { status
      evidence := {
        requestedMask
        confirmedMask := if status = .complete then requestedMask else 0#16
        skippedMask := 0#16
        firstInserted := inserted
        attempts := 1
        zeroProgressRetries := 0
        retryReason :=
          if inserted = 0 ∧ status ≠ .complete then .zeroProgress
          else if inserted < requested then .partialProgress inserted
          else .none
        firstWin32Error := win32Error
        lastWin32Error := win32Error
        startedTicks := some result.startedTicks
        completedTicks := result.completedTicks
        timingError := result.timingError } }

namespace TrackedKeyState

/-- The send that the state's clock, or a clock of the call's own, makes. -/
def sendDown (keys : TrackedKeyState) (response : ScanCodeResponse) (scanCodes : List ℕ) :
    PlatformSendResult :=
  match keys.qpcClock with
  | some clock => sendInputRawWithClock scanCodes clock response
  | none => sendInputRaw scanCodes response

/-- Emit Downs over the state's clock. -/
def doEmitDown (keys : TrackedKeyState) (scanCodes : List ℕ) (response : ScanCodeResponse) :
    SendTransactionOutcome :=
  emitDownOnceWith scanCodes response (keys.sendDown response)

/-- Whether a scan code's key is believed held. -/
def holdsCode (keys : TrackedKeyState) (scanCode : ℕ) : Bool :=
  keys.activeMask &&& (keyMask scanCode).getD 0#16 ≠ 0#16

/-- The scan codes whose keys are not believed held. -/
def codesToSend (keys : TrackedKeyState) (scanCodes : List ℕ) : List ℕ :=
  scanCodes.filter fun scanCode => !keys.holdsCode scanCode

/-- The mask updates of a Down send by its status. -/
def settleDown (keys : TrackedKeyState) (mask : BitVec 16) (status : SendTransactionStatus) :
    TrackedKeyState :=
  match status with
  | .complete =>
    { keys with
      activeMask := keys.activeMask ||| mask
      possiblyActiveMask := keys.possiblyActiveMask &&& ~~~mask }
  | .integrityLost | .partialProgress =>
    { keys with
      activeMask := keys.activeMask &&& ~~~mask
      possiblyActiveMask := keys.possiblyActiveMask ||| mask
      chordSplitEvents := saturatingAdd 64 keys.chordSplitEvents 1 }
  | .clockFailureAfterSend =>
    { keys with
      activeMask := keys.activeMask &&& ~~~mask
      possiblyActiveMask := keys.possiblyActiveMask ||| mask }
  | .preparationRejected | .zeroProgress | .clockFailureBeforeSend =>
    { keys with possiblyActiveMask := keys.possiblyActiveMask &&& ~~~mask }

/-- Count a Down send by its status. -/
def countDown (keys : TrackedKeyState) (status : SendTransactionStatus) : TrackedKeyState :=
  let keys := if status = .partialProgress ∨ status = .integrityLost then
      { keys with
        sendinputPartialEvents := saturatingAdd 64 keys.sendinputPartialEvents 1 }
    else keys
  if status = .zeroProgress then
    { keys with
      sendinputZeroProgressFailures := saturatingAdd 64 keys.sendinputZeroProgressFailures 1 }
  else keys

/-- Record whether a Down send succeeded. -/
def reportDown (keys : TrackedKeyState) (sent : ℕ) (emitted : SendTransactionOutcome) :
    TrackedKeyState :=
  if emitted.isSuccess then
    if keys.failedReleaseMask = 0#16 then { keys with lastError := none } else keys
  else
    { keys with
      chordsRejected := saturatingAdd 64 keys.chordsRejected 1
      authoredKeysRejected := saturatingAdd 64 keys.authoredKeysRejected sent
      lastError := some ("note-on rejected; status=" ++ emitted.status.debugName) }

/-- Send the codes that are not believed held. -/
def sendCodes (keys : TrackedKeyState) (toSend : List ℕ) (requestedMask skippedMask : BitVec 16)
    (response : ScanCodeResponse) : SendTransactionOutcome × TrackedKeyState :=
  let mask := (maskForScanCodes toSend).getD 0#16
  let sending := { keys with
    possiblyActiveMask :=
      toSend.foldl (fun mask scanCode => mask ||| (keyMask scanCode).getD 0#16)
        keys.possiblyActiveMask }
  let emitted := sending.doEmitDown toSend response
  let timed := { sending with timingError := emitted.evidence.timingError }
  let settled := (timed.countDown emitted.status).settleDown mask emitted.status
  ({ status := emitted.status
     evidence := {
       emitted.evidence with
       requestedMask
       confirmedMask := if emitted.isSuccess then requestedMask else 0#16
       skippedMask } },
    settled.reportDown toSend.length emitted)

/-- Press the keys of a list of scan codes. -/
def keyDown (keys : TrackedKeyState) (scanCodes : List ℕ) (response : ScanCodeResponse) :
    SendTransactionOutcome × TrackedKeyState :=
  let requestedMask := (maskForScanCodes scanCodes).getD 0#16
  if scanCodes = [] ∨ requestedMask = 0#16 then
    (boundaryOutcome 0#16 0#16 0#16 (noSyscallBoundaryWithClock keys.qpcClock response), keys)
  else
    let toSend := keys.codesToSend scanCodes
    let duplicates := scanCodes.filter keys.holdsCode
    let skippedMask := (maskForScanCodes duplicates).getD 0#16
    if toSend = [] then
      (boundaryOutcome requestedMask requestedMask skippedMask
        (noSyscallBoundaryWithClock keys.qpcClock response), keys)
    else keys.sendCodes toSend requestedMask skippedMask response

end TrackedKeyState

/-- The keyboard after the keys of a list of scan codes are pressed. -/
def pressCodes (scanCodes : List ℕ) (held : BitVec 16) : BitVec 16 :=
  scanCodes.foldl (fun held scanCode => held ||| (keyMask scanCode).getD 0#16) held

/-- Press the keys of a list of scan codes; the system applies the prefix it inserts. -/
def Instrument.keyDown (instrument : Instrument) (scanCodes : List ℕ)
    (response : ScanCodeResponse) : SendTransactionOutcome × Instrument :=
  let toSend := instrument.keys.codesToSend scanCodes
  let inserted := if maskForScanCodes scanCodes = none then 0
    else (instrument.keys.sendDown response toSend).inserted
  ((instrument.keys.keyDown scanCodes response).1,
    { keys := (instrument.keys.keyDown scanCodes response).2
      held := pressCodes (toSend.take inserted) instrument.held })

/-- A key is held after a list of presses exactly when it was held or is among them. -/
theorem getLsbD_pressCodes (scanCodes : List ℕ) (held : BitVec 16) (slot : ℕ) :
    (pressCodes scanCodes held).getLsbD slot = true ↔ held.getLsbD slot = true ∨
      ∃ scanCode ∈ scanCodes, ((keyMask scanCode).getD 0#16).getLsbD slot = true := by
  induction scanCodes generalizing held with
  | nil => simp [pressCodes]
  | cons scanCode scanCodes ih =>
    rw [pressCodes, List.foldl_cons, ← pressCodes, ih, BitVec.getLsbD_or, Bool.or_eq_true,
      List.exists_mem_cons_iff, or_assoc]

/-- A list has a mask when the instrument has all of its keys, and the mask is their union. -/
theorem maskForScanCodes_eq_some {scanCodes : List ℕ} {mask : BitVec 16} :
    maskForScanCodes scanCodes = some mask ↔
      (∀ scanCode ∈ scanCodes, keyMask scanCode ≠ none) ∧ pressCodes scanCodes 0#16 = mask := by
  have hgeneral (start : BitVec 16) : scanCodes.foldlM
      (fun mask scanCode => (keyMask scanCode).map fun bit => mask ||| bit) start = some mask ↔
        (∀ scanCode ∈ scanCodes, keyMask scanCode ≠ none) ∧ pressCodes scanCodes start = mask := by
    induction scanCodes generalizing start with
    | nil => simp [pressCodes]
    | cons scanCode scanCodes ih =>
      cases hkey : keyMask scanCode with
      | none => simp [hkey]
      | some bit => simp [List.foldlM_cons, hkey, ih, pressCodes]
  exact hgeneral 0#16

/-- A key of the instrument has a slot. -/
theorem exists_slot_of_keyMask {scanCode : ℕ} (h : keyMask scanCode ≠ none) :
    ∃ slot, ((keyMask scanCode).getD 0#16).getLsbD slot = true := by
  obtain ⟨bit, hbit⟩ := Option.ne_none_iff_exists'.mp h
  obtain ⟨slot, hindex, rfl⟩ := Option.map_eq_some_iff.mp hbit
  have hlt : slot < physicalInstrumentScanCodes.length := by
    have := List.findIdx?_eq_some_iff_getElem.mp hindex
    exact this.1
  have hwidth : slot < 16 := Nat.lt_trans hlt (by decide)
  exact ⟨slot, by simp [hbit, hwidth]⟩

namespace TrackedKeyState

/-- The mask of the keys that a call sends. -/
def sentMask (keys : TrackedKeyState) (scanCodes : List ℕ) : BitVec 16 :=
  pressCodes (keys.codesToSend scanCodes) 0#16

/-- The keys that a call sends are not believed held. -/
theorem not_active_of_sent {keys : TrackedKeyState} {scanCodes : List ℕ} {slot : ℕ}
    (h : (keys.sentMask scanCodes).getLsbD slot = true) :
    keys.activeMask.getLsbD slot = false := by
  rw [sentMask, getLsbD_pressCodes] at h
  obtain hzero | ⟨scanCode, hmem, hslot⟩ := h
  · simp at hzero
  · have hfree : keys.activeMask &&& (keyMask scanCode).getD 0#16 = 0#16 := by
      have := (List.mem_filter.mp hmem).2
      simpa [holdsCode] using this
    by_contra hactive
    have := and_eq_zero_iff.mp hfree slot (by simpa using hactive)
    rw [hslot] at this
    cases this

/-- Whether the system call is reached and inserts an event. -/
def SystemInserts (keys : TrackedKeyState) (response : ScanCodeResponse) (toSend : List ℕ) :
    Prop :=
  toSend.length ≤ physicalInstrumentScanCodes.length ∧
    (keys.qpcClock ≠ none ∨ ∃ clock, response.initialized = .ok clock) ∧
    (∃ started, response.transport.startSample = .ok started) ∧ 0 < response.transport.inserted

/-- A send inserts an event exactly when the system call is reached and does. -/
theorem sendInputRawWithClock_inserted {toSend : List ℕ} (clock : QpcClock)
    (response : ScanCodeResponse) (hknown : ∀ scanCode ∈ toSend, keyMask scanCode ≠ none)
    (hsome : toSend ≠ []) :
    0 < (sendInputRawWithClock toSend clock response).inserted ↔
      toSend.length ≤ physicalInstrumentScanCodes.length ∧
        (∃ started, response.transport.startSample = .ok started) ∧
        0 < response.transport.inserted := by
  have hall : toSend.any (fun scanCode => (keyMask scanCode).isNone) = false := by
    simpa [List.any_eq_false, Option.isNone_iff_eq_none] using hknown
  rw [sendInputRawWithClock, hall]
  by_cases hlength : physicalInstrumentScanCodes.length < toSend.length
  · have hlong := Nat.not_le.mpr hlength
    simp [hlength, hlong, PlatformSendResult.nothing]
  · cases hstart : response.transport.startSample with
    | error error => simp [hlength, hsome, PlatformSendResult.nothing]
    | ok started =>
      have hpos := List.length_pos_iff.mpr hsome
      simp [hlength, hsome]
      omega

/-- A Down send inserts an event exactly when the system call is reached and does. -/
theorem sendDown_inserted (keys : TrackedKeyState) {toSend : List ℕ} (response : ScanCodeResponse)
    (hknown : ∀ scanCode ∈ toSend, keyMask scanCode ≠ none) (hsome : toSend ≠ []) :
    0 < (keys.sendDown response toSend).inserted ↔ keys.SystemInserts response toSend := by
  rw [sendDown, SystemInserts]
  cases hclock : keys.qpcClock with
  | some clock =>
    simp only
    rw [sendInputRawWithClock_inserted clock response hknown hsome]
    simp
  | none =>
    simp only [sendInputRaw]
    cases hinit : response.initialized with
    | error error => simp [PlatformSendResult.nothing]
    | ok clock =>
      simp only
      rw [sendInputRawWithClock_inserted clock response hknown hsome]
      simp

/-- The raw send inserts no more than it was handed. -/
theorem sendDown_inserted_le (keys : TrackedKeyState) (response : ScanCodeResponse)
    (toSend : List ℕ) : (keys.sendDown response toSend).inserted ≤ toSend.length := by
  have hclock (clock : QpcClock) :
      (sendInputRawWithClock toSend clock response).inserted ≤ toSend.length := by
    rw [sendInputRawWithClock]
    split
    · exact Nat.zero_le _
    · split
      · exact Nat.zero_le _
      · split
        · exact Nat.zero_le _
        · exact Nat.min_le_right _ _
  rw [sendDown]
  split
  · exact hclock _
  · rw [sendInputRaw]
    split
    · exact Nat.zero_le _
    · exact hclock _

/-- The statuses of a send that inserted nothing. -/
def InsertedNothing (status : SendTransactionStatus) : Prop :=
  status = .preparationRejected ∨ status = .zeroProgress ∨ status = .clockFailureBeforeSend

/-- A Down transaction has such a status exactly when it inserted nothing. -/
theorem doEmitDown_insertedNothing {keys : TrackedKeyState} {toSend : List ℕ}
    (response : ScanCodeResponse) (hsome : toSend ≠ []) :
    InsertedNothing (keys.doEmitDown toSend response).status ↔
      (keys.sendDown response toSend).inserted = 0 := by
  have hpos := List.length_pos_iff.mpr hsome
  have hle := keys.sendDown_inserted_le response toSend
  simp only [doEmitDown, emitDownOnceWith, if_neg hsome, InsertedNothing, classifySendStatus,
    Nat.min_eq_left hle]
  generalize (keys.sendDown response toSend).inserted = inserted at hle
  grind

/-- The obligations during a Down send. -/
theorem sending_obligations (keys : TrackedKeyState) (mask : BitVec 16) :
    ({ keys with possiblyActiveMask := keys.possiblyActiveMask ||| mask } :
      TrackedKeyState).releaseObligationMask = keys.releaseObligationMask ||| mask := by
  apply BitVec.eq_of_getLsbD_eq
  intro slot _
  simp only [releaseObligationMask, BitVec.getLsbD_or]
  grind

/-- A settled send that inserted nothing gives up the possibly held keys it sent. -/
theorem settleDown_of_nothing {keys : TrackedKeyState} {mask : BitVec 16}
    {status : SendTransactionStatus} (h : InsertedNothing status) :
    keys.settleDown mask status =
      { keys with possiblyActiveMask := keys.possiblyActiveMask &&& ~~~mask } := by
  obtain rfl | rfl | rfl := h <;> rfl

/-- Any other settled send keeps every obligation, when its keys are possibly held. -/
theorem settleDown_keeps {keys : TrackedKeyState} {mask : BitVec 16}
    {status : SendTransactionStatus} (h : ¬InsertedNothing status)
    (hpossible : Within mask keys.possiblyActiveMask) :
    Within keys.releaseObligationMask (keys.settleDown mask status).releaseObligationMask := by
  intro slot hslot
  have hlt := BitVec.lt_of_getLsbD hslot
  have hsent := hpossible slot
  cases status with
  | preparationRejected => exact absurd (.inl rfl) h
  | zeroProgress => exact absurd (.inr (.inl rfl)) h
  | clockFailureBeforeSend => exact absurd (.inr (.inr rfl)) h
  | complete | partialProgress | integrityLost | clockFailureAfterSend =>
    simp only [settleDown, releaseObligationMask, BitVec.getLsbD_or, BitVec.getLsbD_and,
      getLsbD_not_of_lt hlt] at hslot ⊢
    grind

/-- Settling depends on the masks alone, as far as obligations go. -/
theorem settleDown_congr {keys other : TrackedKeyState} {mask : BitVec 16}
    {status : SendTransactionStatus}
    (h : keys.activeMask = other.activeMask ∧
      keys.possiblyActiveMask = other.possiblyActiveMask ∧
      keys.failedReleaseMask = other.failedReleaseMask ∧ keys.inFlightMask = other.inFlightMask) :
    (keys.settleDown mask status).releaseObligationMask =
      (other.settleDown mask status).releaseObligationMask := by
  cases status <;> simp only [settleDown, releaseObligationMask, h]

/-- Counting a send touches no mask. -/
theorem countDown_masks (keys : TrackedKeyState) (status : SendTransactionStatus) :
    (keys.countDown status).activeMask = keys.activeMask ∧
      (keys.countDown status).possiblyActiveMask = keys.possiblyActiveMask ∧
      (keys.countDown status).failedReleaseMask = keys.failedReleaseMask ∧
      (keys.countDown status).inFlightMask = keys.inFlightMask := by
  unfold countDown
  split <;> split <;> exact ⟨rfl, rfl, rfl, rfl⟩

/-- Reporting a send touches no obligation. -/
theorem reportDown_obligations (keys : TrackedKeyState) (sent : ℕ)
    (emitted : SendTransactionOutcome) :
    (keys.reportDown sent emitted).releaseObligationMask = keys.releaseObligationMask := by
  unfold reportDown
  split
  · split <;> rfl
  · rfl

/-- A list with an unknown key is refused without effect. -/
theorem keyDown_unknown {keys : TrackedKeyState} {scanCodes : List ℕ}
    (h : maskForScanCodes scanCodes = none) (response : ScanCodeResponse) :
    keys.keyDown scanCodes response =
      (boundaryOutcome 0#16 0#16 0#16 (noSyscallBoundaryWithClock keys.qpcClock response),
        keys) := by
  rw [keyDown, h]
  simp

/-- A list of known keys that has none to send is answered without effect. -/
theorem keyDown_held {keys : TrackedKeyState} {scanCodes : List ℕ}
    (h : keys.codesToSend scanCodes = []) (response : ScanCodeResponse) :
    (keys.keyDown scanCodes response).2 = keys ∧
      (keys.keyDown scanCodes response).1.status = .complete := by
  rw [keyDown]
  split
  · exact ⟨rfl, rfl⟩
  · rw [if_pos h]
    exact ⟨rfl, rfl⟩

/-- A list of known keys sends those that are not believed held. -/
theorem keyDown_sends {keys : TrackedKeyState} {scanCodes : List ℕ} {mask : BitVec 16}
    (hknown : maskForScanCodes scanCodes = some mask) (hsend : keys.codesToSend scanCodes ≠ [])
    (response : ScanCodeResponse) :
    keys.keyDown scanCodes response =
      keys.sendCodes (keys.codesToSend scanCodes) mask
        ((maskForScanCodes (scanCodes.filter keys.holdsCode)).getD 0#16) response := by
  obtain ⟨hcodes, rfl⟩ := maskForScanCodes_eq_some.mp hknown
  obtain ⟨scanCode, hmem⟩ := List.exists_mem_of_ne_nil _ hsend
  have hlisted : scanCode ∈ scanCodes := (List.mem_filter.mp hmem).1
  obtain ⟨slot, hslot⟩ := exists_slot_of_keyMask (hcodes scanCode hlisted)
  have hnonzero : pressCodes scanCodes 0#16 ≠ 0#16 := by
    intro hzero
    have hbit : (pressCodes scanCodes 0#16).getLsbD slot = true :=
      (getLsbD_pressCodes scanCodes 0#16 slot).mpr (.inr ⟨scanCode, hlisted, hslot⟩)
    rw [hzero, BitVec.getLsbD_zero] at hbit
    cases hbit
  have hguard : ¬(scanCodes = [] ∨ pressCodes scanCodes 0#16 = 0#16) := by
    rintro (rfl | hzero)
    · cases hlisted
    · exact hnonzero hzero
  rw [keyDown, hknown]
  simp only [Option.getD_some]
  rw [if_neg hguard, if_neg hsend]

/-- Marking codes as possibly held marks their mask. -/
theorem pressCodes_eq_or (scanCodes : List ℕ) (held : BitVec 16) :
    pressCodes scanCodes held = held ||| pressCodes scanCodes 0#16 := by
  apply BitVec.eq_of_getLsbD_eq
  intro slot _
  rw [Bool.eq_iff_iff, BitVec.getLsbD_or, Bool.or_eq_true, getLsbD_pressCodes,
    getLsbD_pressCodes]
  simp

/-- The obligations after a send: all earlier ones and the sent keys, or, when nothing was
inserted, the earlier ones without the sent keys that were only possibly held. -/
theorem sendCodes_obligations (keys : TrackedKeyState) {toSend : List ℕ}
    (hknown : ∀ scanCode ∈ toSend, keyMask scanCode ≠ none) (hsome : toSend ≠ [])
    (requestedMask skippedMask : BitVec 16) (response : ScanCodeResponse) :
    (InsertedNothing (keys.sendCodes toSend requestedMask skippedMask response).1.status ↔
      ¬keys.SystemInserts response toSend) ∧
    (¬keys.SystemInserts response toSend →
      (keys.sendCodes toSend requestedMask skippedMask response).2.releaseObligationMask =
        keys.activeMask ||| (keys.possiblyActiveMask &&& ~~~pressCodes toSend 0#16) |||
          keys.failedReleaseMask ||| keys.inFlightMask) ∧
    (keys.SystemInserts response toSend →
      Within (keys.releaseObligationMask ||| pressCodes toSend 0#16)
        (keys.sendCodes toSend requestedMask skippedMask
          response).2.releaseObligationMask) := by
  have hmask : (maskForScanCodes toSend).getD 0#16 = pressCodes toSend 0#16 := by
    rw [maskForScanCodes_eq_some.mpr ⟨hknown, rfl⟩, Option.getD_some]
  -- The state during the send, and what its outcome makes of the masks.
  let sending : TrackedKeyState :=
    { keys with possiblyActiveMask := keys.possiblyActiveMask ||| pressCodes toSend 0#16 }
  have hstatus : (keys.sendCodes toSend requestedMask skippedMask response).1.status =
      (keys.doEmitDown toSend response).status := rfl
  have hobligations :
      (keys.sendCodes toSend requestedMask skippedMask response).2.releaseObligationMask =
        (sending.settleDown (pressCodes toSend 0#16)
          (keys.doEmitDown toSend response).status).releaseObligationMask := by
    rw [sendCodes, reportDown_obligations, hmask]
    apply settleDown_congr
    have hcount := countDown_masks
      { keys with
        possiblyActiveMask := pressCodes toSend keys.possiblyActiveMask
        timingError := (keys.doEmitDown toSend response).evidence.timingError }
      (keys.doEmitDown toSend response).status
    exact ⟨hcount.1, hcount.2.1.trans (pressCodes_eq_or toSend _), hcount.2.2⟩
  have hnothing : InsertedNothing (keys.doEmitDown toSend response).status ↔
      ¬keys.SystemInserts response toSend := by
    rw [doEmitDown_insertedNothing response hsome, ← keys.sendDown_inserted response hknown hsome]
    omega
  refine ⟨hstatus ▸ hnothing, fun hnone => ?_, fun hinserts => ?_⟩
  · rw [hobligations, settleDown_of_nothing (hnothing.mpr hnone)]
    apply BitVec.eq_of_getLsbD_eq
    intro slot hlt
    simp only [sending, releaseObligationMask, BitVec.getLsbD_or, BitVec.getLsbD_and,
      getLsbD_not_of_lt hlt]
    grind
  · rw [hobligations, ← sending_obligations]
    apply settleDown_keeps (fun h => hnothing.mp h hinserts)
    intro slot hslot
    simp [hslot]

end TrackedKeyState

/-- A call that ends without an insertion keeps the earlier obligations, and every key that may be
held after the call carries one. -/
def KeepsObligations (keys : TrackedKeyState) (scanCodes : List ℕ) (response : ScanCodeResponse) :
    Prop :=
  (TrackedKeyState.InsertedNothing (keys.keyDown scanCodes response).1.status →
      Within keys.releaseObligationMask
        (keys.keyDown scanCodes response).2.releaseObligationMask) ∧
    ∀ held, Instrument.Owned ⟨keys, held⟩ →
      ((Instrument.mk keys held).keyDown scanCodes response).2.Owned

/-- Giving up sent keys that were only possibly held keeps the obligations exactly when those keys
are owed elsewhere. -/
theorem within_given_up_iff {keys : TrackedKeyState} {mask : BitVec 16}
    (hfree : ∀ slot, mask.getLsbD slot = true → keys.activeMask.getLsbD slot = false) :
    Within keys.releaseObligationMask
        (keys.activeMask ||| (keys.possiblyActiveMask &&& ~~~mask) ||| keys.failedReleaseMask |||
          keys.inFlightMask) ↔
      Within (mask &&& keys.possiblyActiveMask)
        (keys.failedReleaseMask ||| keys.inFlightMask) := by
  constructor
  · intro h slot hslot
    have hlt := BitVec.lt_of_getLsbD hslot
    have hkept := h slot
    have hactive := hfree slot
    simp only [TrackedKeyState.releaseObligationMask, BitVec.getLsbD_or, BitVec.getLsbD_and,
      getLsbD_not_of_lt hlt] at hslot hkept ⊢
    grind
  · intro h slot hslot
    have hlt := BitVec.lt_of_getLsbD hslot
    have howed := h slot
    simp only [TrackedKeyState.releaseObligationMask, BitVec.getLsbD_or, BitVec.getLsbD_and,
      getLsbD_not_of_lt hlt] at hslot howed ⊢
    grind

/-- A call that changes nothing keeps every obligation. -/
theorem keepsObligations_of_unchanged {keys : TrackedKeyState} {scanCodes : List ℕ}
    {response : ScanCodeResponse} (hkeys : (keys.keyDown scanCodes response).2 = keys)
    (hheld : ∀ held, ((Instrument.mk keys held).keyDown scanCodes response).2.held = held) :
    KeepsObligations keys scanCodes response := by
  constructor
  · intro _
    rw [hkeys]
    exact fun _ h => h
  · intro held howned slot hslot
    rw [hheld] at hslot
    have := howned slot hslot
    rwa [Instrument.keyDown, hkeys]

/-- The keyboard after a call on known keys: a prefix of the sent keys is pressed. -/
theorem Instrument.keyDown_held_le {keys : TrackedKeyState} {held : BitVec 16}
    {scanCodes : List ℕ} {response : ScanCodeResponse} {slot : ℕ}
    (h : ((Instrument.mk keys held).keyDown scanCodes response).2.held.getLsbD slot = true) :
    held.getLsbD slot = true ∨ (keys.sentMask scanCodes).getLsbD slot = true := by
  rw [Instrument.keyDown] at h
  rcases (getLsbD_pressCodes _ _ slot).mp h with hheld | ⟨scanCode, hmem, hslot⟩
  · exact .inl hheld
  · right
    exact (getLsbD_pressCodes _ _ slot).mpr (.inr ⟨scanCode, List.mem_of_mem_take hmem, hslot⟩)

/-- Pressing keys keeps every obligation exactly when the list is refused, the system inserts an
event, or each possibly held key of the send is also owed to a failed release or a send in
flight. -/
theorem key_down_keeps_obligations_iff (keys : TrackedKeyState) (scanCodes : List ℕ)
    (response : ScanCodeResponse) :
    KeepsObligations keys scanCodes response ↔
      maskForScanCodes scanCodes = none ∨
        keys.SystemInserts response (keys.codesToSend scanCodes) ∨
        Within (keys.sentMask scanCodes &&& keys.possiblyActiveMask)
          (keys.failedReleaseMask ||| keys.inFlightMask) := by
  cases hlist : maskForScanCodes scanCodes with
  | none =>
    have hkeys : (keys.keyDown scanCodes response).2 = keys := by
      rw [TrackedKeyState.keyDown_unknown hlist]
    have hkeeps := keepsObligations_of_unchanged hkeys fun held => by
      simp [Instrument.keyDown, hlist, pressCodes]
    exact iff_of_true hkeeps (.inl rfl)
  | some mask =>
    by_cases hsend : keys.codesToSend scanCodes = []
    · have hkeeps := keepsObligations_of_unchanged
        (TrackedKeyState.keyDown_held hsend response).1 fun held => by
          simp [Instrument.keyDown, hsend, pressCodes]
      refine iff_of_true hkeeps (.inr (.inr fun slot hslot => ?_))
      simp [TrackedKeyState.sentMask, hsend, pressCodes] at hslot
    · have hknown : ∀ scanCode ∈ keys.codesToSend scanCodes, keyMask scanCode ≠ none :=
        fun scanCode hmem => (maskForScanCodes_eq_some.mp hlist).1 scanCode
          (List.mem_filter.mp hmem).1
      have hcall := TrackedKeyState.keyDown_sends hlist hsend response
      obtain ⟨hstatus, hlost, hkept⟩ := keys.sendCodes_obligations hknown hsend mask
        ((maskForScanCodes (scanCodes.filter keys.holdsCode)).getD 0#16) response
      rw [← hcall] at hstatus hlost hkept
      have hfree (slot : ℕ) (h : (keys.sentMask scanCodes).getLsbD slot = true) :
          keys.activeMask.getLsbD slot = false := TrackedKeyState.not_active_of_sent h
      by_cases hinserts : keys.SystemInserts response (keys.codesToSend scanCodes)
      · refine iff_of_true ⟨fun hnothing => absurd hinserts (hstatus.mp hnothing), ?_⟩
          (.inr (.inl hinserts))
        intro held howned slot hslot
        apply hkept hinserts slot
        rw [BitVec.getLsbD_or, Bool.or_eq_true]
        exact (Instrument.keyDown_held_le hslot).imp_left (howned slot)
      · have hmasks := within_given_up_iff hfree
        rw [TrackedKeyState.sentMask, ← hlost hinserts] at hmasks
        constructor
        · intro hkeeps
          exact .inr (.inr (hmasks.mp (hkeeps.1 (hstatus.mpr hinserts))))
        · rintro (hnone | hsome | howed)
          · cases hnone
          · exact absurd hsome hinserts
          · have hwithin := hmasks.mpr howed
            refine ⟨fun _ => hwithin, fun held howned slot hslot => ?_⟩
            have hzero : (keys.sendDown response (keys.codesToSend scanCodes)).inserted = 0 := by
              have := (keys.sendDown_inserted response hknown hsend).not.mpr hinserts
              omega
            have hheld : held.getLsbD slot = true := by
              simpa [Instrument.keyDown, hzero, pressCodes] using hslot
            exact hwithin slot (howned slot hheld)

/-- A system that inserts some events and reports the access-denied error for the others. -/
def denied (inserted : ℕ) : ScanCodeResponse where
  initialized := .error .counterUnavailable
  frequency := .ok 10000000
  transport := ⟨.ok 0, inserted, 5, .ok 0⟩

/-- A key that a partial chord left held is forgotten when pressing it again inserts nothing. -/
theorem key_down_forgets_residue :
    ∃ keys first second, keys = TrackedKeyState.withQpcClock ⟨10000000, by decide⟩ ∧
      first = (Instrument.mk keys 0#16).keyDown [0x15, 0x16] (denied 1) ∧
      second = first.2.keyDown [0x15] (denied 0) ∧
      first.1.status = .integrityLost ∧ first.2.held = 1#16 ∧
      first.2.keys.releaseObligationMask = 3#16 ∧ second.1.status = .zeroProgress ∧
      second.2.held = 1#16 ∧ second.2.keys.releaseObligationMask = 2#16 ∧
      ¬KeepsObligations first.2.keys [0x15] (denied 0) := by
  refine ⟨_, _, _, rfl, rfl, rfl, by decide, by decide, by decide, by decide, by decide,
    by decide, fun hkeeps => ?_⟩
  have hlost := hkeeps.1 (.inr (.inl (by decide))) 0 (by decide)
  exact absurd hlost (by decide)

end SkyAutoPlayer.DispatchWin32
