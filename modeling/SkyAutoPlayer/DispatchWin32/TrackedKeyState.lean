import SkyAutoPlayer.DispatchWin32.Clock
import SkyAutoPlayer.DispatchWin32.PhysicalPacket

/-!
# Tracked key ownership

The backend keeps four masks: keys it believes held, keys that may be held, keys whose release
failed, and keys of a send that has not returned. Their union is the release obligation. A
packet outcome rewrites the masks by its transport status. The instrument pairs the tracked
state with the keyboard the operating system maintains.
-/

namespace SkyAutoPlayer.DispatchWin32

open Foundation

/-- The backend's ownership masks and diagnostics. -/
structure TrackedKeyState where
  activeMask : BitVec 16
  possiblyActiveMask : BitVec 16
  failedReleaseMask : BitVec 16
  inFlightMask : BitVec 16
  releaseAttemptsTotal : ℕ
  lastError : Option String
  chordSplitEvents : ℕ
  sendinputPartialEvents : ℕ
  sendinputZeroProgressFailures : ℕ
  chordsRejected : ℕ
  authoredKeysRejected : ℕ
  timingError : Option QpcError
  qpcClock : Option QpcClock
  deriving DecidableEq, Repr

namespace TrackedKeyState

/-- A fresh state without a clock. -/
def new : TrackedKeyState where
  activeMask := 0#16
  possiblyActiveMask := 0#16
  failedReleaseMask := 0#16
  inFlightMask := 0#16
  releaseAttemptsTotal := 0
  lastError := none
  chordSplitEvents := 0
  sendinputPartialEvents := 0
  sendinputZeroProgressFailures := 0
  chordsRejected := 0
  authoredKeysRejected := 0
  timingError := none
  qpcClock := none

/-- A fresh state over a clock. -/
def withQpcClock (clock : QpcClock) : TrackedKeyState := { new with qpcClock := some clock }

/-- Every key that still carries a release obligation. -/
def releaseObligationMask (keys : TrackedKeyState) : BitVec 16 :=
  keys.activeMask ||| keys.possiblyActiveMask ||| keys.failedReleaseMask ||| keys.inFlightMask

/-- Count a rejected chord and its authored Downs. -/
def rejectChord (keys : TrackedKeyState) (packet : PhysicalPacket) : TrackedKeyState :=
  { keys with
    chordsRejected := saturatingAdd 64 keys.chordsRejected 1
    authoredKeysRejected :=
      saturatingAdd 64 keys.authoredKeysRejected (countOnes packet.downMask) }

/-- A split packet leaves every one of its keys possibly held. -/
def markUncertain (keys : TrackedKeyState) (packet : PhysicalPacket) : TrackedKeyState :=
  { keys with
    activeMask := keys.activeMask &&& ~~~packet.union
    possiblyActiveMask := keys.possiblyActiveMask ||| packet.union }

/-- The status-dependent part of reconciling a packet outcome. -/
def applyStatus (keys : TrackedKeyState) (packet : PhysicalPacket)
    (outcome : SendTransactionOutcome) : TrackedKeyState :=
  match outcome.status with
  | .complete =>
    let failedReleaseMask := keys.failedReleaseMask &&& ~~~packet.upMask
    { keys with
      activeMask := (keys.activeMask &&& ~~~packet.upMask) ||| packet.downMask
      possiblyActiveMask := keys.possiblyActiveMask &&& ~~~packet.union
      failedReleaseMask
      lastError := if failedReleaseMask = 0#16 then none else keys.lastError }
  | .zeroProgress =>
    { keys.rejectChord packet with
      sendinputZeroProgressFailures := saturatingAdd 64 keys.sendinputZeroProgressFailures 1
      lastError := some ("physical packet made zero progress: " ++
        toString packet.eventCount ++ " events requested") }
  | .preparationRejected =>
    { keys.rejectChord packet with
      lastError := some ("physical packet rejected before SendInput: " ++
        toString packet.eventCount ++ " events requested") }
  | .partialProgress | .integrityLost =>
    { (keys.markUncertain packet).rejectChord packet with
      sendinputPartialEvents := saturatingAdd 64 keys.sendinputPartialEvents 1
      chordSplitEvents := saturatingAdd 64 keys.chordSplitEvents 1
      lastError := some ("physical packet partially inserted: " ++
        toString outcome.evidence.firstInserted ++ " of " ++ toString packet.eventCount ++
        " events") }
  | .clockFailureBeforeSend =>
    { keys.rejectChord packet with
      timingError := outcome.evidence.timingError
      lastError := some ("physical packet QPC failure (" ++ outcome.status.debugName ++ ")") }
  | .clockFailureAfterSend =>
    { (keys.markUncertain packet).rejectChord packet with
      timingError := outcome.evidence.timingError
      lastError := some ("physical packet QPC failure (" ++ outcome.status.debugName ++ ")") }

/-- An unconfirmed Up of a failed packet becomes a failed release. -/
def recordFailedUps (keys : TrackedKeyState) (packet : PhysicalPacket)
    (outcome : SendTransactionOutcome) : TrackedKeyState :=
  if packet.upMask ≠ 0#16 ∧ outcome.isSuccess = false then
    let confirmedMask := outcome.evidence.confirmedMask
    { keys with
      activeMask := keys.activeMask &&& ~~~confirmedMask
      possiblyActiveMask := keys.possiblyActiveMask &&& ~~~confirmedMask
      failedReleaseMask := (keys.failedReleaseMask &&& ~~~confirmedMask) |||
        (packet.upMask &&& ~~~confirmedMask) }
  else keys

/-- Reconcile the ownership masks with a packet's outcome. -/
def applyPacketOutcome (keys : TrackedKeyState) (packet : PhysicalPacket)
    (outcome : SendTransactionOutcome) : TrackedKeyState :=
  let reconciled := (keys.applyStatus packet outcome).recordFailedUps packet outcome
  { reconciled with inFlightMask := reconciled.inFlightMask &&& ~~~packet.union }

end TrackedKeyState

/-- The tracked state and the keyboard the operating system maintains. -/
structure Instrument where
  keys : TrackedKeyState
  held : BitVec 16
  deriving DecidableEq, Repr

namespace Instrument

/-- The outcome of a sender without a clock. -/
def noClockOutcome (packet : PhysicalPacket) : SendTransactionOutcome where
  status := .zeroProgress
  evidence := SendEvidence.untouched packet.union

/-- Take authority over a view's keys before its send. -/
def beginSend (instrument : Instrument) (view : PreparedPacketView) : Instrument :=
  { instrument with
    keys := { instrument.keys with
      inFlightMask := instrument.keys.inFlightMask ||| view.packet.union } }

/-- Send a view once and reconcile its outcome. -/
def sendView (instrument : Instrument) (view : PreparedPacketView) (supplied : Option ℕ)
    (response : TransportResponse) : SendTransactionOutcome × Instrument :=
  let sending := instrument.beginSend view
  let sent := sendPreparedPacketOnce view supplied response sending.held
  (sent.1, {
    keys := sending.keys.applyPacketOutcome view.packet sent.1
    held := sent.2 })

/-- A send that unwinds after taking authority, having applied any prefix of its events. -/
def unwindSend (instrument : Instrument) (view : PreparedPacketView) (count : ℕ) : Instrument :=
  { instrument.beginSend view with held := view.packet.press count instrument.held }

/-- Send one packet from a caller-supplied start sample. -/
def sendPhysicalPacketWithStart (instrument : Instrument) (packet : PhysicalPacket)
    (startedTicks : ℕ) (response : TransportResponse) : SendTransactionOutcome × Instrument :=
  match PreparedPhysicalPacket.tryNew packet with
  | .error error =>
    let keys := { instrument.keys with
      lastError := some ("physical packet preparation failed: " ++ error.message) }
    (invalidPacketOutcome packet,
      { instrument with keys := keys.applyPacketOutcome packet (invalidPacketOutcome packet) })
  | .ok prepared =>
    match instrument.keys.qpcClock with
    | none =>
      (noClockOutcome packet,
        { instrument with keys := { instrument.keys with
            lastError := some "packet sender has no QPC clock" } })
    | some _ => instrument.sendView prepared.asView (some startedTicks) response

/-- Send one packet, sampling the clock first. -/
def sendPhysicalPacket (instrument : Instrument) (packet : PhysicalPacket)
    (response : TransportResponse) : SendTransactionOutcome × Instrument :=
  match instrument.keys.qpcClock with
  | none => instrument.sendPhysicalPacketWithStart packet 0 response
  | some _ =>
    match response.startSample with
    | .ok startedTicks => instrument.sendPhysicalPacketWithStart packet startedTicks response
    | .error error =>
      ({ status := .clockFailureBeforeSend
         evidence := { SendEvidence.untouched packet.union with timingError := some error } },
        { instrument with keys := { instrument.keys with timingError := some error } })

/-- Send a prepared view; the precision path samples its own start. -/
def sendPreparedPhysicalPacketViewFrom (instrument : Instrument) (view : PreparedPacketView)
    (supplied : Option ℕ) (response : TransportResponse) : SendTransactionOutcome × Instrument :=
  match instrument.keys.qpcClock with
  | none =>
    let keys := { instrument.keys with lastError := some "packet sender has no QPC clock" }
    (noClockOutcome view.packet,
      { instrument with
        keys := keys.applyPacketOutcome view.packet (noClockOutcome view.packet) })
  | some _ => instrument.sendView view supplied response

/-- Send a prepared view, sampling the start immediately before the send. -/
def sendPreparedPhysicalPacketView (instrument : Instrument) (view : PreparedPacketView)
    (response : TransportResponse) : SendTransactionOutcome × Instrument :=
  instrument.sendPreparedPhysicalPacketViewFrom view none response

/-- Send a prepared view from a caller-supplied start sample. -/
def sendPreparedPhysicalPacketViewWithStart (instrument : Instrument)
    (view : PreparedPacketView) (startedTicks : ℕ) (response : TransportResponse) :
    SendTransactionOutcome × Instrument :=
  instrument.sendPreparedPhysicalPacketViewFrom view (some startedTicks) response

/-- Send a whole prepared packet. -/
def sendPreparedPhysicalPacket (instrument : Instrument) (prepared : PreparedPhysicalPacket)
    (response : TransportResponse) : SendTransactionOutcome × Instrument :=
  instrument.sendPreparedPhysicalPacketView prepared.asView response

/-- Send a whole prepared packet from a caller-supplied start sample. -/
def sendPreparedPhysicalPacketWithStart (instrument : Instrument)
    (prepared : PreparedPhysicalPacket) (startedTicks : ℕ) (response : TransportResponse) :
    SendTransactionOutcome × Instrument :=
  instrument.sendPreparedPhysicalPacketViewWithStart prepared.asView startedTicks response

end Instrument

end SkyAutoPlayer.DispatchWin32
