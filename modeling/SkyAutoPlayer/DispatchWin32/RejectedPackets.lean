import Mathlib.Tactic.IntervalCases
import SkyAutoPlayer.DispatchWin32.KeyOwnership

/-!
# Rejected packets and the cleanup after them

A packet that the validator rejects leaves its Ups as failed releases, and a cleanup sends the failed
releases as one packet of its own, which the validator checks too. The masks have one slot more than the
instrument: an Up of that slot is rejected, becomes a failed release, and no later cleanup can send it.
-/

namespace SkyAutoPlayer.DispatchWin32

open Foundation

/-- A call on the keyboard, with what the system answers to it. -/
inductive KeyboardCall where
  | sendPhysicalPacket (packet : PhysicalPacket) (response : TransportResponse)
  | sendPhysicalPacketWithStart (packet : PhysicalPacket) (startedTicks : ℕ)
      (response : TransportResponse)
  | releaseScope (scope : ReleaseScope) (environment : ReleaseEnvironment)

/-- The instrument after a call. -/
def Instrument.afterCall (instrument : Instrument) : KeyboardCall → Instrument
  | .sendPhysicalPacket packet response => (instrument.sendPhysicalPacket packet response).2
  | .sendPhysicalPacketWithStart packet startedTicks response =>
    (instrument.sendPhysicalPacketWithStart packet startedTicks response).2
  | .releaseScope scope environment => (instrument.releaseScope scope environment).2

/-- The instrument after some calls. -/
def Instrument.afterCalls (instrument : Instrument) (calls : List KeyboardCall) : Instrument :=
  calls.foldl Instrument.afterCall instrument

/-- A call that gives the validator an Up outside of the instrument. A call that samples the clock first
gives it nothing when that fails. -/
def KeyboardCall.foreignUp : KeyboardCall → Bool
  | .sendPhysicalPacket packet response =>
    response.startSample.isOk && packet.upMask &&& ~~~fullInstrumentMask ≠ 0#16
  | .sendPhysicalPacketWithStart packet _ _ => packet.upMask &&& ~~~fullInstrumentMask ≠ 0#16
  | .releaseScope _ _ => false

/-- A cleanup of the tracked keys succeeds at its first attempt and leaves none of them. -/
def Instrument.CleansUp (instrument : Instrument) (environment : ReleaseEnvironment) : Prop :=
  let result := instrument.releaseScope .tracked environment
  result.1.releasedSuccessfully = true ∧ result.1.attempts ≤ 1 ∧
    result.2.keys.releaseObligationMask = 0#16

variable {mask : BitVec 16} {packet : PhysicalPacket} {keys : TrackedKeyState}
  {before middle after instrument : Instrument} {environment : ReleaseEnvironment}
  {response : TransportResponse}

/-- The instrument has the slots below the last one of a mask. -/
theorem getLsbD_fullInstrumentMask {slot : ℕ} (hlt : slot < 16) :
    fullInstrumentMask.getLsbD slot = !decide (slot = 15) := by
  interval_cases slot <;> decide

/-- A mask is over the instrument exactly when it does not have the last slot. -/
theorem outside_eq_zero_iff : mask &&& ~~~fullInstrumentMask = 0#16 ↔ mask.getLsbD 15 = false := by
  rw [and_not_eq_zero_iff]
  constructor
  · intro hwithin
    by_contra hlast
    have hfull := hwithin 15 (Bool.not_eq_false _ ▸ hlast)
    rw [getLsbD_fullInstrumentMask (by decide)] at hfull
    cases hfull
  · intro hlast slot hslot
    rw [getLsbD_fullInstrumentMask (BitVec.lt_of_getLsbD hslot)]
    have hother : slot ≠ 15 := by
      rintro rfl
      rw [hlast] at hslot
      cases hslot
    simp [hother]

/-- A mask without the last slot is over the instrument. -/
theorem and_fullInstrumentMask (h : mask.getLsbD 15 = false) : mask &&& fullInstrumentMask = mask := by
  apply BitVec.eq_of_getLsbD_eq
  intro slot hlt
  rw [BitVec.getLsbD_and, getLsbD_fullInstrumentMask hlt]
  by_cases hlast : slot = 15
  · rw [hlast, h, Bool.false_and]
  · simp [hlast]

/-- A mask without the last slot has at most the slots of the instrument. -/
theorem countOnes_le_maxPacketEvents (h : mask.getLsbD 15 = false) :
    countOnes mask ≤ maxPacketEvents := by
  have hslots : slots mask = (List.range 15).filter mask.getLsbD := by
    rw [slots, List.range_succ, List.filter_append, List.filter_singleton, h]
    exact List.append_nil _
  have hle := List.length_filter_le mask.getLsbD (List.range 15)
  rw [List.length_range] at hle
  rw [countOnes, hslots]
  exact hle

/-- A packet that was prepared does not have the last slot. -/
theorem PhysicalPacket.Valid.last (h : packet.Valid) :
    packet.upMask.getLsbD 15 = false ∧ packet.downMask.getLsbD 15 = false :=
  ⟨outside_eq_zero_iff.mp h.2.1, outside_eq_zero_iff.mp h.2.2.1⟩

/-- What a call does with the clock, with the keys in flight, and with the last slot. -/
structure Instrument.Moves (foreign : Bool) (before after : Instrument) : Prop where
  qpcClock : after.keys.qpcClock = before.keys.qpcClock
  inFlightMask : before.keys.inFlightMask = 0#16 → after.keys.inFlightMask = 0#16
  last : before.keys.inFlightMask = 0#16 → after.keys.releaseObligationMask.getLsbD 15 =
    (before.keys.releaseObligationMask.getLsbD 15 || foreign)

namespace Instrument.Moves

/-- What does not change the clock and the masks moves nothing. -/
theorem of_eq (hclock : after.keys.qpcClock = before.keys.qpcClock)
    (hinFlight : after.keys.inFlightMask = before.keys.inFlightMask)
    (hobligation : after.keys.releaseObligationMask = before.keys.releaseObligationMask) :
    Moves false before after where
  qpcClock := hclock
  inFlightMask := by
    intro h
    rw [hinFlight, h]
  last := by
    intro _
    rw [hobligation, Bool.or_false]

/-- A call that adds nothing of the last slot is followed by another one. -/
theorem trans {foreign : Bool} (hfirst : Moves false before middle)
    (hsecond : Moves foreign middle after) : Moves foreign before after where
  qpcClock := hsecond.qpcClock.trans hfirst.qpcClock
  inFlightMask := by
    intro h
    exact hsecond.inFlightMask (hfirst.inFlightMask h)
  last := by
    intro h
    rw [hsecond.last (hfirst.inFlightMask h), hfirst.last h, Bool.or_false]

end Instrument.Moves

/-- The outcome of a packet keeps the clock. -/
theorem TrackedKeyState.applyPacketOutcome_qpcClock (keys : TrackedKeyState)
    (packet : PhysicalPacket) (outcome : SendTransactionOutcome) :
    (keys.applyPacketOutcome packet outcome).qpcClock = keys.qpcClock := by
  have hstatus : (keys.applyStatus packet outcome).qpcClock = keys.qpcClock := by
    unfold applyStatus
    split <;> rfl
  unfold applyPacketOutcome recordFailedUps
  dsimp only
  split <;> exact hstatus

/-- The outcome of a packet changes no slot that the packet and the confirmation do not have. -/
theorem TrackedKeyState.applyPacketOutcome_other {outcome : SendTransactionOutcome} {slot : ℕ}
    (hup : packet.upMask.getLsbD slot = false) (hdown : packet.downMask.getLsbD slot = false)
    (hconfirmed : outcome.evidence.confirmedMask.getLsbD slot = false) (hlt : slot < 16) :
    (keys.applyPacketOutcome packet outcome).releaseObligationMask.getLsbD slot =
      keys.releaseObligationMask.getLsbD slot := by
  have hstatus : ∀ start : TrackedKeyState,
      (start.recordFailedUps packet outcome).releaseObligationMask.getLsbD slot =
        start.releaseObligationMask.getLsbD slot := by
    intro start
    unfold recordFailedUps
    split
    · simp only [releaseObligationMask, BitVec.getLsbD_or, BitVec.getLsbD_and,
        getLsbD_not_of_lt hlt, hup, hconfirmed, Bool.not_false, Bool.and_true, Bool.or_false]
    · rfl
  have hunion : packet.union.getLsbD slot = false := by
    simp [PhysicalPacket.union, hup, hdown]
  have hflight : (keys.applyPacketOutcome packet outcome).releaseObligationMask.getLsbD slot =
      ((keys.applyStatus packet outcome).recordFailedUps packet outcome).releaseObligationMask.getLsbD
        slot := by
    simp only [applyPacketOutcome, releaseObligationMask, BitVec.getLsbD_or, BitVec.getLsbD_and,
      getLsbD_not_of_lt hlt, hunion, Bool.not_false, Bool.and_true]
  rw [hflight, hstatus]
  unfold applyStatus
  split <;> simp only [releaseObligationMask, rejectChord, markUncertain, BitVec.getLsbD_or,
    BitVec.getLsbD_and, getLsbD_not_of_lt hlt, hup, hdown, hunion, Bool.not_false, Bool.and_true,
    Bool.or_false]

/-- An attempt confirms keys of its packet only. -/
theorem preparedSendOutcome_confirmed (packet : PhysicalPacket)
    (first : Except PreparedSendFailure PlatformSendResult) :
    Within (preparedSendOutcome packet first).evidence.confirmedMask packet.union := by
  intro slot hslot
  unfold preparedSendOutcome at hslot
  cases first with
  | error failure => simp [SendEvidence.untouched] at hslot
  | ok result =>
    dsimp only at hslot
    split at hslot
    · exact hslot
    · simp at hslot

/-- A prepared packet that is sent moves nothing of the last slot. -/
theorem Instrument.sendView_moves (instrument : Instrument) (view : PreparedPacketView)
    (supplied : Option ℕ) (response : TransportResponse) :
    Instrument.Moves false instrument (instrument.sendView view supplied response).2 where
  qpcClock := TrackedKeyState.applyPacketOutcome_qpcClock _ _ _
  inFlightMask := by
    intro h
    unfold Instrument.sendView
    dsimp only
    rw [TrackedKeyState.applyPacketOutcome_inFlightMask]
    exact or_union_and_not_eq_zero h
  last := by
    intro _
    obtain ⟨hup, hdown⟩ := view.valid.last
    have hunion : view.packet.union.getLsbD 15 = false := by
      rw [PhysicalPacket.union, BitVec.getLsbD_or, hup, hdown, Bool.or_false]
    have hconfirmed : (sendPreparedPacketOnce view supplied response
        (instrument.beginSend view).held).1.evidence.confirmedMask.getLsbD 15 = false := by
      by_contra hlast
      have hslot := preparedSendOutcome_confirmed view.packet _ 15 (Bool.not_eq_false _ ▸ hlast)
      rw [hunion] at hslot
      cases hslot
    unfold Instrument.sendView
    dsimp only
    rw [TrackedKeyState.applyPacketOutcome_other hup hdown hconfirmed (by decide)]
    simp only [beginSend, TrackedKeyState.releaseObligationMask, BitVec.getLsbD_or, hunion,
      Bool.or_false]

/-- A packet that is rejected leaves its Ups as releases that failed. -/
theorem TrackedKeyState.reject_releaseObligationMask (lastError : Option String)
    (h : keys.inFlightMask = 0#16) :
    (applyPacketOutcome { keys with lastError } packet
      (invalidPacketOutcome packet)).releaseObligationMask =
        keys.releaseObligationMask ||| packet.upMask := by
  have hflight : (applyPacketOutcome { keys with lastError } packet
      (invalidPacketOutcome packet)).inFlightMask = 0#16 := by
    rw [applyPacketOutcome_inFlightMask, h, BitVec.zero_and]
  rw [releaseObligationMask_eq, releaseObligationMask_eq, hflight, h]
  unfold applyPacketOutcome settledMask recordFailedUps
  split
  case isTrue =>
    simp only [invalidPacketOutcome, SendEvidence.untouched, applyStatus, rejectChord,
      BitVec.not_zero, BitVec.and_allOnes, BitVec.or_zero, BitVec.or_assoc]
  case isFalse hnone =>
    have hup : packet.upMask = 0#16 := by
      by_contra hup
      exact hnone ⟨hup, rfl⟩
    simp only [invalidPacketOutcome, applyStatus, rejectChord, hup, BitVec.or_zero]

/-- A packet from a start sample moves the last slot exactly when it has an Up of it. -/
theorem Instrument.sendPhysicalPacketWithStart_moves (instrument : Instrument)
    (packet : PhysicalPacket) (startedTicks : ℕ) (response : TransportResponse) :
    Instrument.Moves (decide (packet.upMask &&& ~~~fullInstrumentMask ≠ 0#16)) instrument
      (instrument.sendPhysicalPacketWithStart packet startedTicks response).2 := by
  have hforeign : decide (packet.upMask &&& ~~~fullInstrumentMask ≠ 0#16) =
      packet.upMask.getLsbD 15 := by
    cases hlast : packet.upMask.getLsbD 15 with
    | false => simp [outside_eq_zero_iff.mpr hlast]
    | true =>
      apply decide_eq_true
      intro hnone
      rw [outside_eq_zero_iff.mp hnone] at hlast
      cases hlast
  rw [hforeign]
  unfold Instrument.sendPhysicalPacketWithStart
  cases hprepared : PreparedPhysicalPacket.tryNew packet with
  | error error =>
    refine ⟨TrackedKeyState.applyPacketOutcome_qpcClock _ _ _, ?_, ?_⟩
    · intro h
      dsimp only
      rw [TrackedKeyState.applyPacketOutcome_inFlightMask]
      simp [h]
    · intro h
      dsimp only
      rw [TrackedKeyState.reject_releaseObligationMask _ h, BitVec.getLsbD_or]
  | ok prepared =>
    have hpacket : prepared.packet = packet := by
      unfold PreparedPhysicalPacket.tryNew at hprepared
      split_ifs at hprepared
      rw [← Except.ok.inj hprepared]
    have hlast := prepared.valid.last.1
    rw [hpacket] at hlast
    rw [hlast]
    cases instrument.keys.qpcClock with
    | none => exact Instrument.Moves.of_eq rfl rfl rfl
    | some clock => exact instrument.sendView_moves _ _ _

/-- A packet whose call samples the clock moves the last slot exactly when it is given to the validator
with an Up of it. -/
theorem Instrument.sendPhysicalPacket_moves {clock : QpcClock}
    (hclock : instrument.keys.qpcClock = some clock) (packet : PhysicalPacket)
    (response : TransportResponse) :
    Instrument.Moves (KeyboardCall.sendPhysicalPacket packet response).foreignUp instrument
      (instrument.sendPhysicalPacket packet response).2 := by
  simp only [Instrument.sendPhysicalPacket, KeyboardCall.foreignUp, hclock]
  cases response.startSample with
  | error error => exact Instrument.Moves.of_eq hclock.symm rfl rfl
  | ok startedTicks =>
    exact instrument.sendPhysicalPacketWithStart_moves packet startedTicks response

/-- A mask with the last slot is never sent, and so nothing of it is confirmed. -/
theorem emitUpOnce_last (h : mask.getLsbD 15 = true) (keys : TrackedKeyState)
    (response : TransportResponse) (held : BitVec 16) :
    (emitUpOnce keys mask response held).1.evidence.confirmedMask = 0#16 := by
  unfold emitUpOnce
  cases hprepared : PreparedPhysicalPacket.tryNew ⟨mask, 0#16⟩ with
  | error error => rfl
  | ok prepared =>
    -- a prepared packet is over the instrument
    unfold PreparedPhysicalPacket.tryNew at hprepared
    split_ifs at hprepared with hoverlap hvalid
    have hlast := hvalid.last.1
    rw [h] at hlast
    cases hlast

/-- A release of which nothing is confirmed leaves everything unresolved. -/
theorem residual_of_unconfirmed (h : mask ≠ 0#16) (state : LogicalInstrumentPhysicalState) :
    (normalizeReconciled mask (reconcileLogicalReleaseObservation mask 0#16 state)).residual =
      mask := by
  have hself : mask &&& ~~~(0#16) = mask := by rw [BitVec.not_zero, BitVec.and_allOnes]
  have hnormal : ∀ verdict : ReconciledRelease, verdict.residual = mask →
      (normalizeReconciled mask verdict).residual = mask := by
    intro verdict hverdict
    rcases normalizeReconciled_residual mask verdict with hsame | hmask
    · rw [hsame, hverdict]
    · exact hmask
  apply hnormal
  cases state with
  | allUp =>
    unfold reconcileLogicalReleaseObservation
    rw [if_neg (by simpa using Ne.symm h)]
    exact hself
  | held heldMask =>
    unfold reconcileLogicalReleaseObservation reconcileHeldReleaseObservation
    dsimp only
    split_ifs
    · rfl
    · rfl
    · simp only [ReconciledRelease.residual, BitVec.not_zero, BitVec.or_allOnes, BitVec.and_allOnes]
  | inconclusive => rfl

/-- An attempt discharges what its verdict has resolved. -/
theorem releaseAttempt_obligation (environment : ReleaseEnvironment) (attempt : ℕ)
    (progress : ReleaseProgress) :
    (releaseAttempt environment attempt progress).2.instrument.keys.releaseObligationMask =
      (progress.instrument.keys.discharge (progress.unresolvedMask &&&
        ~~~(releaseAttempt environment attempt progress).1.residual)).releaseObligationMask := rfl

/-- An attempt of a release resolves nothing of the last slot. -/
theorem releaseAttempt_last (environment : ReleaseEnvironment) (attempt : ℕ)
    (progress : ReleaseProgress) :
    (progress.unresolvedMask &&&
      ~~~(releaseAttempt environment attempt progress).1.residual).getLsbD 15 = false := by
  rw [BitVec.getLsbD_and, getLsbD_not_of_lt (by decide)]
  cases hlast : progress.unresolvedMask.getLsbD 15 with
  | false => rfl
  | true =>
    have hne : progress.unresolvedMask ≠ 0#16 := by
      intro hzero
      rw [hzero] at hlast
      cases hlast
    unfold releaseAttempt
    dsimp only
    rw [emitUpOnce_last hlast, residual_of_unconfirmed hne, hlast]
    rfl

/-- An attempt of a release moves nothing of the last slot. -/
theorem releaseAttempt_moves (environment : ReleaseEnvironment) (attempt : ℕ)
    (progress : ReleaseProgress) :
    Instrument.Moves false progress.instrument
      (releaseAttempt environment attempt progress).2.instrument where
  qpcClock := rfl
  inFlightMask := by
    intro h
    simp [releaseAttempt, TrackedKeyState.discharge, h]
  last := by
    intro _
    rw [releaseAttempt_obligation, TrackedKeyState.getLsbD_discharge _ _ (by decide),
      releaseAttempt_last, Bool.not_false, Bool.and_true, Bool.or_false]

/-- What an attempt leaves unresolved was unresolved before it. -/
theorem releaseAttempt_unresolved (environment : ReleaseEnvironment) (attempt : ℕ)
    (progress : ReleaseProgress) :
    Within (releaseAttempt environment attempt progress).2.unresolvedMask
      progress.unresolvedMask := by
  unfold releaseAttempt
  dsimp only
  intro slot hslot
  rcases normalizeReconciled_residual progress.unresolvedMask
    (reconcileLogicalReleaseObservation progress.unresolvedMask _ _) with hsame | hmask
  · rw [hsame] at hslot
    exact reconcile_residual_within _ _ _ slot hslot
  · rwa [hmask] at hslot

/-- How a release ends, seen from one of its attempts: nothing of the last slot has moved, and a success
has counted the attempt. -/
def ReleaseLoopResult.Follows (attempt : ℕ) (progress : ReleaseProgress) :
    ReleaseLoopResult → Prop
  | .released outcome cleaned =>
    Instrument.Moves false progress.instrument cleaned ∧ attempt < outcome.attempts
  | .exhausted final =>
    Instrument.Moves false progress.instrument final.instrument ∧
      Within final.unresolvedMask progress.unresolvedMask

/-- A release moves nothing of the last slot. -/
theorem releaseLoop_follows (environment : ReleaseEnvironment) (requestedMask : BitVec 16)
    (remaining attempt : ℕ) (progress : ReleaseProgress) :
    (releaseLoop environment requestedMask remaining attempt progress).Follows attempt progress := by
  induction remaining generalizing attempt progress with
  | zero => exact ⟨Instrument.Moves.of_eq rfl rfl rfl, fun _ hslot => hslot⟩
  | succ remaining ih =>
    have hmoves := releaseAttempt_moves environment attempt progress
    have hwithin := releaseAttempt_unresolved environment attempt progress
    have hrest := ih (attempt + 1) (releaseAttempt environment attempt progress).2
    unfold releaseLoop
    dsimp only
    split
    · exact ⟨Instrument.Moves.of_eq rfl rfl rfl, fun _ hslot => hslot⟩
    · split
      · exact ⟨hmoves.trans (Instrument.Moves.of_eq rfl rfl rfl), Nat.lt_succ_self attempt⟩
      · cases hresult : releaseLoop environment requestedMask remaining (attempt + 1)
          (releaseAttempt environment attempt progress).2 with
        | released outcome released =>
          rw [hresult] at hrest
          exact ⟨hmoves.trans hrest.1, Nat.lt_of_succ_lt hrest.2⟩
        | exhausted final =>
          rw [hresult] at hrest
          exact ⟨hmoves.trans hrest.1, fun slot hslot => hwithin slot (hrest.2 slot hslot)⟩

/-- The conclusion of a release that has found no end moves nothing of the last slot. -/
theorem finishRelease_moves (scope : ReleaseScope) (requestedMask : BitVec 16)
    {progress : ReleaseProgress} (h : Instrument.Moves false before progress.instrument)
    (hlast : progress.unresolvedMask.getLsbD 15 = true →
      before.keys.releaseObligationMask.getLsbD 15 = true) :
    Instrument.Moves false before (finishRelease scope requestedMask progress).2 := by
  unfold finishRelease
  dsimp only
  split
  case isTrue => exact ⟨h.qpcClock, h.inFlightMask, h.last⟩
  case isFalse =>
    refine ⟨h.qpcClock, h.inFlightMask, ?_⟩
    intro hinFlight
    have hkept := h.last hinFlight
    rw [TrackedKeyState.releaseObligationMask_eq, TrackedKeyState.settledMask] at hkept ⊢
    simp only [BitVec.getLsbD_or, Bool.or_false] at hkept ⊢
    cases hunresolved : progress.unresolvedMask.getLsbD 15 with
    | false => rw [Bool.or_false, hkept]
    | true => simp [hlast hunresolved]

/-- A release moves nothing of the last slot. -/
theorem Instrument.releaseScope_moves (instrument : Instrument) (scope : ReleaseScope)
    (environment : ReleaseEnvironment) :
    Instrument.Moves false instrument (instrument.releaseScope scope environment).2 := by
  have hrequested : (requestedReleaseMask instrument.keys scope).getLsbD 15 = true →
      instrument.keys.releaseObligationMask.getLsbD 15 = true := by
    intro hlast
    cases scope with
    | tracked => exact hlast
    | fullInstrument =>
      rw [requestedReleaseMask, getLsbD_fullInstrumentMask (by decide)] at hlast
      cases hlast
  have hfollows := releaseLoop_follows environment (requestedReleaseMask instrument.keys scope) 4 0
    ⟨instrument, requestedReleaseMask instrument.keys scope, false, none⟩
  unfold Instrument.releaseScope
  dsimp only
  split
  · exact Instrument.Moves.of_eq rfl rfl rfl
  · cases hresult : releaseLoop environment (requestedReleaseMask instrument.keys scope) 4 0
      ⟨instrument, requestedReleaseMask instrument.keys scope, false, none⟩ with
    | released outcome cleaned =>
      rw [hresult] at hfollows
      exact hfollows.1
    | exhausted final =>
      rw [hresult] at hfollows
      exact finishRelease_moves scope _ hfollows.1 fun hlast => hrequested (hfollows.2 15 hlast)

/-- A call moves the last slot exactly when it gives the validator an Up outside of the instrument. -/
theorem Instrument.afterCall_moves {clock : QpcClock}
    (hclock : instrument.keys.qpcClock = some clock) (call : KeyboardCall) :
    Instrument.Moves call.foreignUp instrument (instrument.afterCall call) := by
  cases call with
  | sendPhysicalPacket packet response => exact sendPhysicalPacket_moves hclock packet response
  | sendPhysicalPacketWithStart packet startedTicks response =>
    exact instrument.sendPhysicalPacketWithStart_moves packet startedTicks response
  | releaseScope scope environment => exact instrument.releaseScope_moves scope environment

/-- After some calls the last slot is owed exactly when it was before or one of the calls gave the
validator an Up outside of the instrument. -/
theorem Instrument.afterCalls_moves {clock : QpcClock}
    (hclock : instrument.keys.qpcClock = some clock) (calls : List KeyboardCall) :
    Instrument.Moves (calls.any KeyboardCall.foreignUp) instrument (instrument.afterCalls calls) := by
  induction calls generalizing instrument with
  | nil => exact Instrument.Moves.of_eq rfl rfl rfl
  | cons call rest ih =>
    have hfirst := Instrument.afterCall_moves hclock call
    have hrest := @ih (instrument.afterCall call) (hfirst.qpcClock.trans hclock)
    refine ⟨hrest.qpcClock.trans hfirst.qpcClock, ?_, ?_⟩
    · intro h
      exact hrest.inFlightMask (hfirst.inFlightMask h)
    · intro h
      rw [List.any_cons, ← Bool.or_assoc, ← hfirst.last h]
      exact hrest.last (hfirst.inFlightMask h)

/-- The instrument after some calls on a fresh one has its clock, nothing in flight, and owes the last slot
exactly when one of the calls gave the validator an Up outside of the instrument. -/
theorem afterCalls_fresh (clock : QpcClock) (calls : List KeyboardCall) :
    let instrument := (Session.fresh clock).instrument.afterCalls calls
    instrument.keys.qpcClock = some clock ∧
      instrument.keys.releaseObligationMask.getLsbD 15 = calls.any KeyboardCall.foreignUp := by
  have hmoves := @Instrument.afterCalls_moves (Session.fresh clock).instrument clock rfl calls
  have hfresh : (Session.fresh clock).instrument.keys.releaseObligationMask = 0#16 := by
    change (0#16 ||| 0#16 ||| 0#16 ||| 0#16) = 0#16
    decide
  refine ⟨hmoves.qpcClock, ?_⟩
  rw [hmoves.last rfl, hfresh, BitVec.getLsbD_zero, Bool.false_or]

/-- A mask over the instrument is prepared as a packet of Ups. -/
theorem tryNew_ups (hne : mask ≠ 0#16) (hlast : mask.getLsbD 15 = false) :
    ∃ prepared : PreparedPhysicalPacket, PreparedPhysicalPacket.tryNew ⟨mask, 0#16⟩ = .ok prepared ∧
      prepared.packet = ⟨mask, 0#16⟩ := by
  have hnone : countOnes (0#16) = 0 := by simp [countOnes]
  have hcount : (PhysicalPacket.mk mask 0#16).eventCount = countOnes mask := by
    rw [PhysicalPacket.eventCount, hnone, Nat.add_zero]
  have hsome : countOnes mask ≠ 0 := by
    intro hzero
    exact hne (slots_eq_nil_iff.mp (List.eq_nil_of_length_eq_zero hzero))
  have hvalid : (PhysicalPacket.mk mask 0#16).Valid := by
    refine ⟨BitVec.and_zero, outside_eq_zero_iff.mpr hlast, BitVec.zero_and, ?_⟩
    rw [hcount]
    exact countOnes_le_maxPacketEvents hlast
  unfold PreparedPhysicalPacket.tryNew
  rw [if_neg (not_not.mpr BitVec.and_zero), dif_pos hvalid, dif_neg (by rw [hcount]; exact hsome)]
  exact ⟨_, rfl, rfl⟩

/-- A release that is inserted as a whole is confirmed as a whole, exactly when it is over the instrument and
both samples of the clock succeed. -/
theorem emitUpOnce_confirms_iff {clock : QpcClock} (hclock : keys.qpcClock = some clock)
    (hne : mask ≠ 0#16) (hinserted : scanCodeCount mask ≤ response.inserted) (held : BitVec 16) :
    (emitUpOnce keys mask response held).1.evidence.confirmedMask &&& mask = mask ↔
      mask.getLsbD 15 = false ∧ response.startSample.isOk = true ∧
        response.completedSample.isOk = true := by
  cases hlast : mask.getLsbD 15 with
  | true =>
    rw [emitUpOnce_last hlast, BitVec.zero_and]
    simp [Ne.symm hne]
  | false =>
    obtain ⟨prepared, hprepared, hpacket⟩ := tryNew_ups hne hlast
    rw [scanCodeCount, and_fullInstrumentMask hlast] at hinserted
    have hcount : prepared.packet.eventCount = countOnes mask := by
      rw [hpacket, PhysicalPacket.eventCount]
      simp [countOnes]
    simp only [emitUpOnce, hprepared, hclock, sendPreparedPacketOnce, sendOncePreparedView,
      startTicks, PreparedPhysicalPacket.asView, hcount, Nat.min_eq_right hinserted]
    cases response.startSample with
    | error error =>
      simp [preparedSendOutcome, SendEvidence.untouched, Except.isOk, Except.toBool, Ne.symm hne]
    | ok started =>
      cases response.completedSample with
      | error error =>
        simp [preparedSendOutcome, SendEvidence.untouched, Except.isOk, Except.toBool, Ne.symm hne]
      | ok completed =>
        simp [preparedSendOutcome, classifySendStatus, PhysicalPacket.union, hpacket, Except.isOk,
          Except.toBool]

/-- A cleanup with nothing to release succeeds. -/
theorem Instrument.cleansUp_of_zero (h : instrument.keys.releaseObligationMask = 0#16)
    (environment : ReleaseEnvironment) : instrument.CleansUp environment := by
  unfold CleansUp Instrument.releaseScope requestedReleaseMask
  dsimp only
  rw [if_pos h]
  exact ⟨rfl, Nat.zero_le 1, h⟩

/-- A verified release of all keys leaves none of them. -/
theorem TrackedKeyState.discharge_all (keys : TrackedKeyState) :
    (keys.discharge (keys.releaseObligationMask &&&
      ~~~ReconciledRelease.verifiedAllUp.residual)).releaseObligationMask = 0#16 := by
  apply BitVec.eq_of_getLsbD_eq
  intro slot hlt
  rw [getLsbD_discharge _ _ hlt, BitVec.getLsbD_and, getLsbD_not_of_lt hlt,
    ReconciledRelease.residual, BitVec.getLsbD_zero, Bool.not_false, Bool.and_true,
    Bool.and_not_self]

/-- A cleanup with something to release succeeds exactly when its first attempt is verified. -/
theorem Instrument.cleansUp_iff_verified (h : instrument.keys.releaseObligationMask ≠ 0#16)
    (environment : ReleaseEnvironment) : instrument.CleansUp environment ↔
      (releaseAttempt environment 0
        ⟨instrument, instrument.keys.releaseObligationMask, false, none⟩).1 = .verifiedAllUp := by
  have hrest := releaseLoop_follows environment instrument.keys.releaseObligationMask 3 1
    (releaseAttempt environment 0
      ⟨instrument, instrument.keys.releaseObligationMask, false, none⟩).2
  unfold CleansUp Instrument.releaseScope requestedReleaseMask
  dsimp only
  rw [if_neg h, releaseLoop]
  dsimp only
  rw [if_neg h]
  constructor
  · intro hclean
    split at hclean
    case h_1 outcome cleaned hresult =>
      split at hresult
      case h_1 hverdict => exact hverdict
      case h_2 =>
        -- a later attempt counts itself
        rw [hresult] at hrest
        exact absurd hclean.2.1 (Nat.not_le_of_lt hrest.2)
    case h_2 progress hresult =>
      have hattempts : (4 : ℕ) ≤ 1 := hclean.2.1
      omega
  · intro hverdict
    rw [hverdict]
    refine ⟨rfl, le_rfl, ?_⟩
    change (releaseAttempt environment 0 ⟨instrument, instrument.keys.releaseObligationMask, false,
      none⟩).2.instrument.keys.releaseObligationMask = 0#16
    rw [releaseAttempt_obligation, hverdict]
    exact TrackedKeyState.discharge_all instrument.keys

/-- A cleanup whose first send is inserted as a whole and whose first probe sees all keys up succeeds at its
first attempt and leaves nothing, exactly if there is nothing to release or the release is over the
instrument and both samples of the clock succeed. -/
theorem Instrument.cleansUp_iff {clock : QpcClock} (hclock : instrument.keys.qpcClock = some clock)
    (hinserted : scanCodeCount instrument.keys.releaseObligationMask ≤
      (environment.transport 0).inserted)
    (hprobe : ∀ held unresolved, environment.probe 0 held unresolved = .allUp) :
    instrument.CleansUp environment ↔
      instrument.keys.releaseObligationMask.getLsbD 15 = false ∧
        (instrument.keys.releaseObligationMask ≠ 0#16 →
          (environment.transport 0).startSample.isOk = true ∧
            (environment.transport 0).completedSample.isOk = true) := by
  by_cases hzero : instrument.keys.releaseObligationMask = 0#16
  · have hclean := instrument.cleansUp_of_zero hzero environment
    simp [hclean, hzero]
  · set keys : TrackedKeyState := { instrument.keys with
      releaseAttemptsTotal := saturatingAdd 64 instrument.keys.releaseAttemptsTotal 1 } with hkeys
    have hconfirms := @emitUpOnce_confirms_iff _ keys (environment.transport 0) clock hclock hzero
      hinserted instrument.held
    have hverdict : (releaseAttempt environment 0
        ⟨instrument, instrument.keys.releaseObligationMask, false, none⟩).1 = .verifiedAllUp ↔
          (emitUpOnce keys instrument.keys.releaseObligationMask (environment.transport 0)
            instrument.held).1.evidence.confirmedMask &&& instrument.keys.releaseObligationMask =
              instrument.keys.releaseObligationMask := by
      unfold releaseAttempt
      dsimp only
      rw [hprobe, ← hkeys, reconcileLogicalReleaseObservation]
      split_ifs with hall
      · simp [normalizeReconciled, hall]
      · simp only [hall, iff_false, normalizeReconciled]
        split_ifs <;> exact fun h => by cases h
    rw [instrument.cleansUp_iff_verified hzero, hverdict, hconfirms]
    simp [hzero]

/-- After any calls on a fresh keyboard, a cleanup whose send is inserted as a whole and whose probe sees all
keys up succeeds at its first attempt and leaves no key owed, exactly if none of the calls gave the
validator an Up outside of the instrument and, where there is a key to release, both samples of the clock
around the send succeed. -/
theorem cleanup_after_rejected_packets (clock : QpcClock) (calls : List KeyboardCall)
    (environment : ReleaseEnvironment)
    (hinserted : ∀ attempt, scanCodeCount
      ((Session.fresh clock).instrument.afterCalls calls).keys.releaseObligationMask ≤
        (environment.transport attempt).inserted)
    (hprobe : ∀ attempt held unresolved, environment.probe attempt held unresolved = .allUp) :
    ((Session.fresh clock).instrument.afterCalls calls).CleansUp environment ↔
      (∀ call ∈ calls, call.foreignUp = false) ∧
        (((Session.fresh clock).instrument.afterCalls calls).keys.releaseObligationMask ≠ 0#16 →
          (environment.transport 0).startSample.isOk = true ∧
            (environment.transport 0).completedSample.isOk = true) := by
  obtain ⟨hclock, hlast⟩ := afterCalls_fresh clock calls
  rw [Instrument.cleansUp_iff hclock (hinserted 0) (hprobe 0), hlast, List.any_eq_false]
  simp only [Bool.not_eq_true]

/-- A system that answers every send with all of its events, and sees all keys up. -/
def obligingEnvironment : ReleaseEnvironment where
  transport := fun _ => ⟨.ok 0, 15, 0, .ok 0⟩
  probe := fun _ _ _ => .allUp

/-- A packet with the same key in both directions is rejected, and the cleanup after it succeeds. -/
theorem cleanup_after_overlap :
    ((Session.fresh ⟨10000000, by decide⟩).instrument.afterCalls
      [.sendPhysicalPacket ⟨1#16, 1#16⟩ ⟨.ok 0, 0, 0, .ok 0⟩]).CleansUp obligingEnvironment := by
  have hinserted : scanCodeCount ((Session.fresh ⟨10000000, by decide⟩).instrument.afterCalls
      [.sendPhysicalPacket ⟨1#16, 1#16⟩ ⟨.ok 0, 0, 0, .ok 0⟩]).keys.releaseObligationMask ≤ 15 := by
    decide
  apply (cleanup_after_rejected_packets ⟨10000000, by decide⟩
    [.sendPhysicalPacket ⟨1#16, 1#16⟩ ⟨.ok 0, 0, 0, .ok 0⟩] obligingEnvironment
    (fun _ => hinserted) (fun _ _ _ => rfl)).mpr
  exact ⟨by decide, fun _ => ⟨rfl, rfl⟩⟩

/-- An Up of the slot after the instrument's last one is rejected, and no cleanup after it succeeds or
discharges it. -/
theorem foreign_up_stays_owed :
    let instrument := (Session.fresh ⟨10000000, by decide⟩).instrument.afterCalls
      [.sendPhysicalPacket ⟨0x8000#16, 0#16⟩ ⟨.ok 0, 0, 0, .ok 0⟩]
    ¬instrument.CleansUp obligingEnvironment ∧
      (instrument.releaseScope .tracked obligingEnvironment).1.releasedSuccessfully = false ∧
      (instrument.releaseScope .tracked obligingEnvironment).2.keys.releaseObligationMask =
        0x8000#16 := by
  intro instrument
  have hfailed : (instrument.releaseScope .tracked obligingEnvironment).1.releasedSuccessfully =
      false := by decide +kernel
  refine ⟨?_, hfailed, by decide +kernel⟩
  intro hclean
  rw [hclean.1] at hfailed
  cases hfailed

end SkyAutoPlayer.DispatchWin32
