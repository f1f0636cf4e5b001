import Mathlib.Logic.Relation
import Mathlib.Tactic.Set
import SkyAutoPlayer.DispatchWin32.ReleaseScope

/-!
# No held key escapes ownership

Along every sequence of sends and releases, whatever prefixes, errors and clock failures the
system answers with, every key held on the keyboard carries a release obligation. Each send is
reconciled by the evidence of its one attempt; each release attempt discharges only keys that
the transport confirmed and a truthful probe did not see. A successful release therefore
leaves none of its requested keys held, and an unsuccessful one keeps its stuck keys owned.
-/

namespace SkyAutoPlayer.DispatchWin32

open Foundation

/-- Every held key carries a release obligation. -/
def Instrument.Owned (instrument : Instrument) : Prop :=
  Within instrument.held instrument.keys.releaseObligationMask

/-- The obligations of sends that have returned. -/
def TrackedKeyState.settledMask (keys : TrackedKeyState) : BitVec 16 :=
  keys.activeMask ||| keys.possiblyActiveMask ||| keys.failedReleaseMask

/-- The obligations are the settled ones and those in flight. -/
theorem TrackedKeyState.releaseObligationMask_eq (keys : TrackedKeyState) :
    keys.releaseObligationMask = keys.settledMask ||| keys.inFlightMask := rfl

/-- Without any confirmed key, recording failed Ups only adds failed releases. -/
theorem TrackedKeyState.recordFailedUps_of_unconfirmed {keys : TrackedKeyState}
    {packet : PhysicalPacket} {outcome : SendTransactionOutcome}
    (h : outcome.evidence.confirmedMask = 0#16) :
    ∃ added, keys.recordFailedUps packet outcome =
      { keys with failedReleaseMask := keys.failedReleaseMask ||| added } := by
  unfold recordFailedUps
  split
  · refine ⟨packet.upMask, ?_⟩
    simp only [h, BitVec.not_zero, BitVec.and_allOnes]
  · exact ⟨0#16, by simp only [BitVec.or_zero]⟩

/-- A success records no failed Up. -/
theorem TrackedKeyState.recordFailedUps_of_complete {keys : TrackedKeyState}
    {packet : PhysicalPacket} {outcome : SendTransactionOutcome}
    (h : outcome.status = .complete) : keys.recordFailedUps packet outcome = keys := by
  unfold recordFailedUps
  rw [if_neg]
  simp [SendTransactionOutcome.isSuccess, h]

/-- Reconciling the outcome of an attempt settles the ownership of every held key. -/
theorem TrackedKeyState.applyPacketOutcome_settles {keys : TrackedKeyState}
    {packet : PhysicalPacket} {held pressed : BitVec 16} {outcome : SendTransactionOutcome}
    (howned : Within held keys.settledMask)
    (hevidence : AttemptEvidence packet held pressed outcome) :
    Within pressed (keys.applyPacketOutcome packet outcome).settledMask := by
  intro slot hpressed
  have hlt := BitVec.lt_of_getLsbD hpressed
  have hown := howned slot
  simp only [settledMask, BitVec.getLsbD_or] at hown ⊢
  cases hevidence with
  | complete status confirmed keyboard =>
    rw [keyboard slot] at hpressed
    rw [applyPacketOutcome, recordFailedUps_of_complete status]
    simp only [applyStatus, status, PhysicalPacket.union, BitVec.getLsbD_or,
      BitVec.getLsbD_and, getLsbD_not_of_lt hlt]
    grind
  | untouched status confirmed keyboard =>
    subst keyboard
    have hkeys : (keys.applyStatus packet outcome).activeMask = keys.activeMask ∧
        (keys.applyStatus packet outcome).possiblyActiveMask = keys.possiblyActiveMask ∧
        (keys.applyStatus packet outcome).failedReleaseMask = keys.failedReleaseMask := by
      rcases status with status | status | status <;>
        simp [applyStatus, status, rejectChord]
    obtain ⟨added, hadded⟩ := recordFailedUps_of_unconfirmed confirmed
    rw [applyPacketOutcome, hadded]
    simp only [hkeys, BitVec.getLsbD_or]
    grind
  | uncertain status confirmed keyboard =>
    have hsource := keyboard slot hpressed
    have hkeys : (keys.applyStatus packet outcome).activeMask =
          keys.activeMask &&& ~~~packet.union ∧
        (keys.applyStatus packet outcome).possiblyActiveMask =
          keys.possiblyActiveMask ||| packet.union ∧
        (keys.applyStatus packet outcome).failedReleaseMask = keys.failedReleaseMask := by
      rcases status with status | status <;>
        simp [applyStatus, status, rejectChord, markUncertain]
    obtain ⟨added, hadded⟩ := recordFailedUps_of_unconfirmed confirmed
    rw [applyPacketOutcome, hadded]
    simp only [hkeys, PhysicalPacket.union, BitVec.getLsbD_or, BitVec.getLsbD_and,
      getLsbD_not_of_lt hlt]
    grind

/-- Reconciling an outcome gives up the packet's keys in flight and no others. -/
theorem TrackedKeyState.applyPacketOutcome_inFlightMask (keys : TrackedKeyState)
    (packet : PhysicalPacket) (outcome : SendTransactionOutcome) :
    (keys.applyPacketOutcome packet outcome).inFlightMask =
      keys.inFlightMask &&& ~~~packet.union := by
  have hstatus : (keys.applyStatus packet outcome).inFlightMask = keys.inFlightMask := by
    unfold applyStatus
    split <;> rfl
  have hups : ∀ start : TrackedKeyState,
      (start.recordFailedUps packet outcome).inFlightMask = start.inFlightMask := by
    intro start
    unfold recordFailedUps
    split <;> rfl
  rw [applyPacketOutcome, hups, hstatus]

/-- Between sends nothing is in flight and every held key is settled. -/
structure Instrument.Idle (instrument : Instrument) : Prop where
  inFlight : instrument.keys.inFlightMask = 0#16
  settled : Within instrument.held instrument.keys.settledMask

/-- An idle instrument owns every held key. -/
theorem Instrument.Idle.owned {instrument : Instrument} (h : instrument.Idle) :
    instrument.Owned := by
  intro slot hslot
  rw [TrackedKeyState.releaseObligationMask_eq, h.inFlight, BitVec.or_zero]
  exact h.settled slot hslot

/-- An instrument that owns its keys with nothing in flight is idle. -/
theorem Instrument.Owned.idle {instrument : Instrument} (h : instrument.Owned)
    (hinFlight : instrument.keys.inFlightMask = 0#16) : instrument.Idle := by
  refine ⟨hinFlight, fun slot hslot => ?_⟩
  have hown := h slot hslot
  rwa [TrackedKeyState.releaseObligationMask_eq, hinFlight, BitVec.or_zero] at hown

/-- A mask in flight only for one packet is empty again once that packet is reconciled. -/
theorem or_union_and_not_eq_zero {inFlight union : BitVec 16} (h : inFlight = 0#16) :
    (inFlight ||| union) &&& ~~~union = 0#16 := by
  subst h
  rw [BitVec.zero_or, and_not_eq_zero_iff]
  exact fun _ hslot => hslot

/-- A reconciled send of a view leaves an idle instrument idle. -/
theorem Instrument.Idle.sendView {instrument : Instrument} (h : instrument.Idle)
    (view : PreparedPacketView) (supplied : Option ℕ) (response : TransportResponse) :
    (instrument.sendView view supplied response).2.Idle where
  inFlight := by
    change (TrackedKeyState.applyPacketOutcome _ _ _).inFlightMask = _
    rw [TrackedKeyState.applyPacketOutcome_inFlightMask]
    exact or_union_and_not_eq_zero h.inFlight
  settled := @TrackedKeyState.applyPacketOutcome_settles (instrument.beginSend view).keys _ _ _ _
    h.settled (sendPreparedPacketOnce_evidence view supplied response instrument.held)

/-- Reconciling a packet that was never sent leaves an idle instrument idle. -/
theorem Instrument.Idle.reject {instrument : Instrument} (h : instrument.Idle)
    {packet : PhysicalPacket} {outcome : SendTransactionOutcome} (lastError : Option String)
    (hevidence : AttemptEvidence packet instrument.held instrument.held outcome) :
    Instrument.Idle { instrument with
      keys := TrackedKeyState.applyPacketOutcome
        { instrument.keys with lastError := lastError } packet outcome } where
  inFlight := by
    change (TrackedKeyState.applyPacketOutcome _ _ _).inFlightMask = _
    rw [TrackedKeyState.applyPacketOutcome_inFlightMask]
    change instrument.keys.inFlightMask &&& _ = _
    rw [h.inFlight, BitVec.zero_and]
  settled := @TrackedKeyState.applyPacketOutcome_settles
    { instrument.keys with lastError := lastError } _ _ _ _ h.settled hevidence

/-- Sending a packet from a supplied start leaves an idle instrument idle. -/
theorem Instrument.Idle.sendPhysicalPacketWithStart {instrument : Instrument}
    (h : instrument.Idle) (packet : PhysicalPacket) (startedTicks : ℕ)
    (response : TransportResponse) :
    (instrument.sendPhysicalPacketWithStart packet startedTicks response).2.Idle := by
  unfold Instrument.sendPhysicalPacketWithStart
  cases PreparedPhysicalPacket.tryNew packet with
  | error error => exact h.reject _ (.untouched (Or.inr (Or.inr rfl)) rfl rfl)
  | ok prepared =>
    cases instrument.keys.qpcClock with
    | none => exact ⟨h.inFlight, h.settled⟩
    | some clock => exact h.sendView _ _ _

/-- Sending a packet leaves an idle instrument idle. -/
theorem Instrument.Idle.sendPhysicalPacket {instrument : Instrument} (h : instrument.Idle)
    (packet : PhysicalPacket) (response : TransportResponse) :
    (instrument.sendPhysicalPacket packet response).2.Idle := by
  unfold Instrument.sendPhysicalPacket
  cases instrument.keys.qpcClock with
  | none => exact h.sendPhysicalPacketWithStart _ _ _
  | some clock =>
    cases response.startSample with
    | ok startedTicks => exact h.sendPhysicalPacketWithStart _ _ _
    | error error => exact ⟨h.inFlight, h.settled⟩

/-- Sending a prepared view leaves an idle instrument idle. -/
theorem Instrument.Idle.sendPreparedPhysicalPacketViewFrom {instrument : Instrument}
    (h : instrument.Idle) (view : PreparedPacketView) (supplied : Option ℕ)
    (response : TransportResponse) :
    (instrument.sendPreparedPhysicalPacketViewFrom view supplied response).2.Idle := by
  unfold Instrument.sendPreparedPhysicalPacketViewFrom
  cases instrument.keys.qpcClock with
  | none => exact h.reject _ (.untouched (Or.inl rfl) rfl rfl)
  | some clock => exact h.sendView _ _ _

/-- An unwound send still owns every held key, through the keys in flight. -/
theorem Instrument.Idle.unwindSend {instrument : Instrument} (h : instrument.Idle)
    (view : PreparedPacketView) (count : ℕ) : (instrument.unwindSend view count).Owned := by
  intro slot hslot
  have hobligation : (instrument.unwindSend view count).keys.releaseObligationMask =
      instrument.keys.settledMask ||| (instrument.keys.inFlightMask ||| view.packet.union) := rfl
  rw [hobligation, PhysicalPacket.union]
  simp only [BitVec.getLsbD_or]
  rcases view.packet.press_le count instrument.held hslot with hheld | hdown
  · rw [h.settled slot hheld, Bool.true_or]
  · simp only [hdown, Bool.or_true]

/-- A probe verdict never denies a key that is held. -/
def TruthfulVerdict (held unresolved : BitVec 16) : LogicalInstrumentPhysicalState → Prop
  | .allUp => held &&& unresolved = 0#16
  | .held mask => Within (held &&& unresolved) mask
  | .inconclusive => True

/-- Every probe of the environment is truthful or inconclusive. -/
def ReleaseEnvironment.Truthful (environment : ReleaseEnvironment) : Prop :=
  ∀ attempt held unresolved,
    TruthfulVerdict held unresolved (environment.probe attempt held unresolved)

/-- A reconciled truthful observation leaves every held requested key unresolved. -/
theorem reconcile_residual_covers {held unresolved confirmed : BitVec 16}
    {state : LogicalInstrumentPhysicalState} (htruth : TruthfulVerdict held unresolved state) :
    Within (held &&& unresolved)
      (reconcileLogicalReleaseObservation unresolved confirmed state).residual := by
  have hself : Within (held &&& unresolved) unresolved := by
    intro slot hslot
    rw [BitVec.getLsbD_and, Bool.and_eq_true] at hslot
    exact hslot.2
  cases state with
  | inconclusive => exact hself
  | allUp =>
    intro slot hslot
    have hnone : held &&& unresolved = 0#16 := htruth
    rw [hnone, BitVec.getLsbD_zero] at hslot
    cases hslot
  | held mask =>
    unfold reconcileLogicalReleaseObservation reconcileHeldReleaseObservation
    dsimp only
    split
    · exact hself
    · split
      · exact hself
      · intro slot hslot
        have hmask := htruth slot hslot
        simp only [ReconciledRelease.residual, BitVec.getLsbD_and, BitVec.getLsbD_or, hmask,
          hself slot hslot, Bool.true_or, Bool.true_and]

/-- A reconciled observation leaves only requested keys unresolved. -/
theorem reconcile_residual_within (unresolved confirmed : BitVec 16)
    (state : LogicalInstrumentPhysicalState) :
    Within (reconcileLogicalReleaseObservation unresolved confirmed state).residual
      unresolved := by
  have hpart : ∀ mask : BitVec 16, Within (unresolved &&& mask) unresolved := by
    intro mask slot hslot
    rw [BitVec.getLsbD_and, Bool.and_eq_true] at hslot
    exact hslot.1
  cases state with
  | inconclusive => exact fun _ hslot => hslot
  | allUp =>
    unfold reconcileLogicalReleaseObservation
    dsimp only
    split
    · intro slot hslot
      rw [ReconciledRelease.residual, BitVec.getLsbD_zero] at hslot
      cases hslot
    · exact hpart _
  | held mask =>
    unfold reconcileLogicalReleaseObservation reconcileHeldReleaseObservation
    dsimp only
    split
    · exact fun _ hslot => hslot
    · split
      · exact fun _ hslot => hslot
      · exact hpart _

/-- Normalizing a verdict keeps its residual, or falls back to everything unresolved. -/
theorem normalizeReconciled_residual (unresolved : BitVec 16) (verdict : ReconciledRelease) :
    (normalizeReconciled unresolved verdict).residual = verdict.residual ∨
      (normalizeReconciled unresolved verdict).residual = unresolved := by
  cases verdict <;> simp only [normalizeReconciled] <;> (try split) <;>
    simp [ReconciledRelease.residual]

/-- An unverified normalized verdict leaves something unresolved. -/
theorem normalizeReconciled_residual_ne_zero {unresolved : BitVec 16}
    {verdict : ReconciledRelease} (hunresolved : unresolved ≠ 0#16)
    (hverdict : normalizeReconciled unresolved verdict ≠ .verifiedAllUp) :
    (normalizeReconciled unresolved verdict).residual ≠ 0#16 := by
  cases verdict with
  | verifiedAllUp => exact absurd rfl hverdict
  | held mask =>
    simp only [normalizeReconciled]
    split
    · exact hunresolved
    · assumption
  | inconclusive mask =>
    simp only [normalizeReconciled]
    split
    · exact hunresolved
    · assumption

/-- An Up-only attempt presses no key. -/
theorem emitUpOnce_held_within (keys : TrackedKeyState) (mask : BitVec 16)
    (response : TransportResponse) (held : BitVec 16) :
    Within (emitUpOnce keys mask response held).2 held := by
  unfold emitUpOnce
  cases hprepared : PreparedPhysicalPacket.tryNew ⟨mask, 0#16⟩ with
  | error error => exact fun _ hslot => hslot
  | ok prepared =>
    cases keys.qpcClock with
    | none => exact fun _ hslot => hslot
    | some clock =>
      have hdown : prepared.packet.downMask = 0#16 := by
        unfold PreparedPhysicalPacket.tryNew at hprepared
        split at hprepared
        · cases hprepared
        · split at hprepared
          · split at hprepared
            · cases hprepared
            · cases hprepared
              rfl
          · cases hprepared
      intro slot hslot
      have hpress : ∀ count, (prepared.packet.press count held).getLsbD slot = true →
          held.getLsbD slot = true := by
        intro count hcount
        rcases prepared.packet.press_le count held hcount with hheld | hdownSlot
        · exact hheld
        · rw [hdown, BitVec.getLsbD_zero] at hdownSlot
          cases hdownSlot
      dsimp only [sendPreparedPacketOnce, sendOncePreparedView,
        PreparedPhysicalPacket.asView] at hslot
      revert hslot
      cases startTicks none response with
      | error error => exact id
      | ok started =>
        cases response.completedSample with
        | error error => exact hpress _
        | ok completed => exact hpress _

/-- What holds of the release loop between attempts. -/
structure ReleaseInvariant (scope : ReleaseScope) (requestedMask inFlightMask : BitVec 16)
    (progress : ReleaseProgress) : Prop where
  owned : progress.instrument.Owned
  inFlight : Within progress.instrument.keys.inFlightMask inFlightMask
  requested : Within (progress.instrument.held &&& requestedMask) progress.unresolvedMask
  tracked : scope = .tracked →
    Within progress.instrument.keys.releaseObligationMask progress.unresolvedMask
  unresolved : progress.unresolvedMask ≠ 0#16
  verification : ∀ verdict ∈ progress.finalVerification, verdict.isSuccess = false

/-- Discharged keys leave the obligation, and only those. -/
theorem TrackedKeyState.getLsbD_discharge (keys : TrackedKeyState) (resolved : BitVec 16)
    {slot : ℕ} (hlt : slot < 16) : (keys.discharge resolved).releaseObligationMask.getLsbD slot =
      (keys.releaseObligationMask.getLsbD slot && !resolved.getLsbD slot) := by
  simp only [releaseObligationMask, discharge, BitVec.getLsbD_or, BitVec.getLsbD_and,
    getLsbD_not_of_lt hlt]
  grind

/-- What one attempt under a truthful probe establishes about its residual. -/
structure AttemptSettled (scope : ReleaseScope) (requestedMask inFlightMask : BitVec 16)
    (verdict : ReconciledRelease) (next : ReleaseProgress) : Prop where
  owned : next.instrument.Owned
  inFlight : Within next.instrument.keys.inFlightMask inFlightMask
  requested : Within (next.instrument.held &&& requestedMask) verdict.residual
  tracked : scope = .tracked →
    Within next.instrument.keys.releaseObligationMask verdict.residual
  unresolved : next.unresolvedMask = verdict.residual
  remaining : verdict ≠ .verifiedAllUp → verdict.residual ≠ 0#16
  verification : next.finalVerification = some verdict.verification

/-- One attempt keeps every held key owned and shrinks what is unresolved truthfully. -/
theorem releaseAttempt_settled {scope : ReleaseScope} {requestedMask inFlightMask : BitVec 16}
    {environment : ReleaseEnvironment} {attempt : ℕ} {progress : ReleaseProgress}
    (htruthful : environment.Truthful)
    (h : ReleaseInvariant scope requestedMask inFlightMask progress) :
    AttemptSettled scope requestedMask inFlightMask
      (releaseAttempt environment attempt progress).1
      (releaseAttempt environment attempt progress).2 := by
  set keys : TrackedKeyState := { progress.instrument.keys with
    releaseAttemptsTotal :=
      saturatingAdd 64 progress.instrument.keys.releaseAttemptsTotal 1 } with hkeys
  set emitted := emitUpOnce keys progress.unresolvedMask (environment.transport attempt)
    progress.instrument.held with hemitted
  set observed := reconcileLogicalReleaseObservation progress.unresolvedMask
    emitted.1.evidence.confirmedMask
    (environment.probe attempt emitted.2 progress.unresolvedMask) with hobserved
  set verdict := normalizeReconciled progress.unresolvedMask observed with hverdict
  have hresult : releaseAttempt environment attempt progress = (verdict, {
      instrument := ⟨keys.discharge (progress.unresolvedMask &&& ~~~verdict.residual), emitted.2⟩
      unresolvedMask := verdict.residual
      transportAnomaly := progress.transportAnomaly || isTransportAnomaly emitted.1
      finalVerification := some verdict.verification }) := rfl
  have hheld : Within emitted.2 progress.instrument.held :=
    emitUpOnce_held_within _ _ _ _
  have hcovers : Within (emitted.2 &&& progress.unresolvedMask) verdict.residual := by
    intro slot hslot
    rcases normalizeReconciled_residual progress.unresolvedMask observed with hres | hres
    · rw [hverdict, hres]
      exact reconcile_residual_covers (htruthful attempt _ _) slot hslot
    · rw [hverdict, hres]
      rw [BitVec.getLsbD_and, Bool.and_eq_true] at hslot
      exact hslot.2
  -- A held key that was unresolved stays in the residual, so it is never discharged.
  have hnotResolved : ∀ slot, slot < 16 → emitted.2.getLsbD slot = true →
      (progress.unresolvedMask &&& ~~~verdict.residual).getLsbD slot = false := by
    intro slot hlt hslot
    cases hunresolved : progress.unresolvedMask.getLsbD slot with
    | false => rw [BitVec.getLsbD_and, hunresolved, Bool.false_and]
    | true =>
      have hres := hcovers slot (by rw [BitVec.getLsbD_and, hslot, hunresolved, Bool.and_self])
      rw [BitVec.getLsbD_and, getLsbD_not_of_lt hlt, hres, Bool.not_true, Bool.and_false]
  rw [hresult]
  refine ⟨?_, ?_, ?_, ?_, rfl, ?_, rfl⟩
  · intro slot hslot
    have hlt := BitVec.lt_of_getLsbD hslot
    change (keys.discharge _).releaseObligationMask.getLsbD slot = true
    rw [TrackedKeyState.getLsbD_discharge _ _ hlt, hnotResolved slot hlt hslot, Bool.not_false,
      Bool.and_true]
    exact h.owned slot (hheld slot hslot)
  · intro slot hslot
    have hkept : keys.inFlightMask.getLsbD slot = true := by
      change (keys.inFlightMask &&& _).getLsbD slot = true at hslot
      rw [BitVec.getLsbD_and, Bool.and_eq_true] at hslot
      exact hslot.1
    exact h.inFlight slot hkept
  · intro slot hslot
    rw [BitVec.getLsbD_and, Bool.and_eq_true] at hslot
    obtain ⟨hpressed, hrequested⟩ := hslot
    have hunresolved := h.requested slot
      (by rw [BitVec.getLsbD_and, hheld slot hpressed, hrequested, Bool.and_self])
    exact hcovers slot (by rw [BitVec.getLsbD_and, hpressed, hunresolved, Bool.and_self])
  · intro htracked slot hslot
    have hlt := BitVec.lt_of_getLsbD hslot
    change (keys.discharge _).releaseObligationMask.getLsbD slot = true at hslot
    rw [TrackedKeyState.getLsbD_discharge _ _ hlt, BitVec.getLsbD_and,
      getLsbD_not_of_lt hlt] at hslot
    have hobligation : progress.unresolvedMask.getLsbD slot = true := by
      refine h.tracked htracked slot ?_
      rw [Bool.and_eq_true] at hslot
      exact hslot.1
    rw [hobligation, Bool.true_and, Bool.not_not, Bool.and_eq_true] at hslot
    exact hslot.2
  · exact normalizeReconciled_residual_ne_zero h.unresolved

/-- What the loop's result guarantees about the instrument it leaves. -/
def ReleaseLoopResult.Settled (scope : ReleaseScope) (requestedMask inFlightMask : BitVec 16) :
    ReleaseLoopResult → Prop
  | .released outcome instrument => outcome.releasedSuccessfully = true ∧
      outcome.attempts ≤ 4 ∧ instrument.Owned ∧
      Within instrument.keys.inFlightMask inFlightMask ∧
      instrument.held &&& requestedMask = 0#16 ∧
      (scope = .tracked → instrument.keys.releaseObligationMask = 0#16)
  | .exhausted progress => ReleaseInvariant scope requestedMask inFlightMask progress

/-- A mask within the empty mask is empty. -/
theorem eq_zero_of_within_zero {w : ℕ} {mask : BitVec w} (h : Within mask 0#w) : mask = 0#w := by
  apply mask_ext
  intro slot
  constructor
  · exact h slot
  · intro hslot
    rw [BitVec.getLsbD_zero] at hslot
    cases hslot

/-- The loop ends verified with nothing held, or exhausted with its invariant. -/
theorem releaseLoop_settled {scope : ReleaseScope} {requestedMask inFlightMask : BitVec 16}
    {environment : ReleaseEnvironment} (htruthful : environment.Truthful) (remaining : ℕ)
    {attempt : ℕ} {progress : ReleaseProgress} (hattempts : attempt + remaining ≤ 4)
    (h : ReleaseInvariant scope requestedMask inFlightMask progress) :
    (releaseLoop environment requestedMask remaining attempt progress).Settled scope
      requestedMask inFlightMask := by
  induction remaining generalizing attempt progress with
  | zero => exact h
  | succ remaining ih =>
    rw [releaseLoop, if_neg h.unresolved]
    have hsettled := @releaseAttempt_settled _ _ _ _ attempt _ htruthful h
    generalize releaseAttempt environment attempt progress = result at hsettled ⊢
    dsimp only
    have hcontinue : result.1 ≠ .verifiedAllUp →
        (releaseLoop environment requestedMask remaining (attempt + 1) result.2).Settled scope
          requestedMask inFlightMask := by
      intro hverdict
      refine ih (by omega) {
        owned := hsettled.owned
        inFlight := hsettled.inFlight
        requested := hsettled.unresolved ▸ hsettled.requested
        tracked := fun htracked => hsettled.unresolved ▸ hsettled.tracked htracked
        unresolved := hsettled.unresolved ▸ hsettled.remaining hverdict
        verification := ?_ }
      intro verification hmem
      rw [hsettled.verification, Option.mem_some_iff] at hmem
      subst hmem
      cases hcase : result.1 with
      | verifiedAllUp => exact absurd hcase hverdict
      | held mask => rfl
      | inconclusive mask => rfl
    cases hcase : result.1 with
    | verifiedAllUp =>
      have hresidual : result.1.residual = 0#16 := by rw [hcase]; rfl
      dsimp only
      refine ⟨rfl, ?_, hsettled.owned, hsettled.inFlight,
        eq_zero_of_within_zero (hresidual ▸ hsettled.requested), fun htracked => ?_⟩
      · change attempt + 1 ≤ 4
        omega
      · exact eq_zero_of_within_zero (hresidual ▸ hsettled.tracked htracked)
    | held mask => exact hcontinue (by rw [hcase]; nofun)
    | inconclusive mask => exact hcontinue (by rw [hcase]; nofun)

/-- What releasing a scope reports and leaves behind. -/
structure ReleaseSettled (scope : ReleaseScope) (before : Instrument)
    (result : ReleaseAllOutcome × Instrument) : Prop where
  owned : result.2.Owned
  inFlight : Within result.2.keys.inFlightMask before.keys.inFlightMask
  attempts : result.1.attempts ≤ 4
  released : result.1.releasedSuccessfully = true →
    result.2.held &&& requestedReleaseMask before.keys scope = 0#16 ∧
      (scope = .tracked → result.2.keys.releaseObligationMask = 0#16)
  stuck : result.1.releasedSuccessfully = false →
    result.1.stuckMask ≠ 0#16 ∧
      Within result.1.stuckMask result.2.keys.releaseObligationMask

/-- An exhausted loop reports its unresolved keys as stuck and keeps them owned. -/
theorem finishRelease_settled {scope : ReleaseScope} {before : Instrument}
    {progress : ReleaseProgress}
    (h : ReleaseInvariant scope (requestedReleaseMask before.keys scope) before.keys.inFlightMask
      progress) :
    ReleaseSettled scope before
      (finishRelease scope (requestedReleaseMask before.keys scope) progress) := by
  have hfailed : (progress.finalVerification.getD
      (.held progress.unresolvedMask)).isSuccess = false := by
    cases hverdict : progress.finalVerification with
    | none => rfl
    | some verdict => exact h.verification verdict (hverdict ▸ rfl)
  unfold finishRelease
  simp only [hfailed]
  have hobligation : ∀ (lastError : Option String) (slot : ℕ), ({ progress.instrument.keys with
      lastError := lastError
      failedReleaseMask := progress.instrument.keys.failedReleaseMask |||
        progress.unresolvedMask } : TrackedKeyState).releaseObligationMask.getLsbD slot =
      (progress.instrument.keys.releaseObligationMask.getLsbD slot ||
        progress.unresolvedMask.getLsbD slot) := by
    intro lastError slot
    simp only [TrackedKeyState.releaseObligationMask, BitVec.getLsbD_or]
    grind
  refine ⟨fun slot hslot => ?_, h.inFlight, le_rfl, nofun,
    fun _ => ⟨h.unresolved, fun slot hslot => ?_⟩⟩
  · exact (hobligation _ slot).trans (by rw [h.owned slot hslot, Bool.true_or])
  · change progress.unresolvedMask.getLsbD slot = true at hslot
    exact (hobligation _ slot).trans (by rw [hslot, Bool.or_true])

/-- Under a truthful probe a scope is released, or its stuck keys stay owned. -/
theorem Instrument.Owned.releaseScope {instrument : Instrument} (howned : instrument.Owned)
    (scope : ReleaseScope) {environment : ReleaseEnvironment}
    (htruthful : environment.Truthful) :
    ReleaseSettled scope instrument (instrument.releaseScope scope environment) := by
  unfold Instrument.releaseScope
  dsimp only
  split
  case isTrue hnone =>
    refine ⟨howned, fun _ hslot => hslot, Nat.zero_le _, fun _ => ⟨?_, fun htracked => ?_⟩, nofun⟩
    · rw [hnone, BitVec.and_zero]
    · rw [htracked] at hnone
      exact hnone
  case isFalse hsome =>
    have hstart : ReleaseInvariant scope (requestedReleaseMask instrument.keys scope)
        instrument.keys.inFlightMask
        ⟨instrument, requestedReleaseMask instrument.keys scope, false, none⟩ := {
      owned := howned
      inFlight := fun _ hslot => hslot
      requested := by
        intro slot hslot
        rw [BitVec.getLsbD_and, Bool.and_eq_true] at hslot
        exact hslot.2
      tracked := by
        rintro rfl
        exact fun _ hslot => hslot
      unresolved := hsome
      verification := nofun }
    have hloop := @releaseLoop_settled _ _ _ _ htruthful 4 0 _ le_rfl hstart
    cases hresult : releaseLoop environment (requestedReleaseMask instrument.keys scope) 4 0
        ⟨instrument, requestedReleaseMask instrument.keys scope, false, none⟩ with
    | released outcome released =>
      rw [hresult] at hloop
      obtain ⟨hsuccess, hattempts, hreleasedOwned, hinFlight, hheld, htracked⟩ := hloop
      exact ⟨hreleasedOwned, hinFlight, hattempts, fun _ => ⟨hheld, htracked⟩,
        fun hfailed => by rw [hsuccess] at hfailed; cases hfailed⟩
    | exhausted progress =>
      rw [hresult] at hloop
      exact finishRelease_settled hloop

/-- An instrument in use, and whether a sender has unwound. -/
structure Session where
  instrument : Instrument
  unwound : Bool

/-- A fresh session over a clock, with no key held. -/
def Session.fresh (clock : QpcClock) : Session where
  instrument := ⟨TrackedKeyState.withQpcClock clock, 0#16⟩
  unwound := false

/-- One call on the tracked state. After a sender unwinds only releases follow. -/
inductive SessionStep : Session → Session → Prop where
  | sendPhysicalPacket (instrument : Instrument) (packet : PhysicalPacket)
      (response : TransportResponse) :
      SessionStep ⟨instrument, false⟩ ⟨(instrument.sendPhysicalPacket packet response).2, false⟩
  | sendPhysicalPacketWithStart (instrument : Instrument) (packet : PhysicalPacket)
      (startedTicks : ℕ) (response : TransportResponse) :
      SessionStep ⟨instrument, false⟩
        ⟨(instrument.sendPhysicalPacketWithStart packet startedTicks response).2, false⟩
  | sendPreparedPhysicalPacket (instrument : Instrument) (prepared : PreparedPhysicalPacket)
      (response : TransportResponse) :
      SessionStep ⟨instrument, false⟩
        ⟨(instrument.sendPreparedPhysicalPacket prepared response).2, false⟩
  | sendPreparedPhysicalPacketWithStart (instrument : Instrument)
      (prepared : PreparedPhysicalPacket) (startedTicks : ℕ) (response : TransportResponse) :
      SessionStep ⟨instrument, false⟩
        ⟨(instrument.sendPreparedPhysicalPacketWithStart prepared startedTicks response).2, false⟩
  | sendPreparedPhysicalPacketView (instrument : Instrument) (view : PreparedPacketView)
      (response : TransportResponse) :
      SessionStep ⟨instrument, false⟩
        ⟨(instrument.sendPreparedPhysicalPacketView view response).2, false⟩
  | sendPreparedPhysicalPacketViewWithStart (instrument : Instrument)
      (view : PreparedPacketView) (startedTicks : ℕ) (response : TransportResponse) :
      SessionStep ⟨instrument, false⟩
        ⟨(instrument.sendPreparedPhysicalPacketViewWithStart view startedTicks response).2, false⟩
  | unwind (instrument : Instrument) (view : PreparedPacketView) (count : ℕ) :
      SessionStep ⟨instrument, false⟩ ⟨instrument.unwindSend view count, true⟩
  | releaseScope (instrument : Instrument) (unwound : Bool) (scope : ReleaseScope)
      (environment : ReleaseEnvironment) (htruthful : environment.Truthful) :
      SessionStep ⟨instrument, unwound⟩
        ⟨(instrument.releaseScope scope environment).2, unwound⟩

/-- Every held key is owned, and nothing is in flight unless a sender unwound. -/
structure Session.Safe (session : Session) : Prop where
  owned : session.instrument.Owned
  inFlight : session.unwound = false → session.instrument.keys.inFlightMask = 0#16

/-- An idle instrument makes a safe session. -/
theorem Instrument.Idle.safe {instrument : Instrument} (h : instrument.Idle) :
    Session.Safe ⟨instrument, false⟩ :=
  ⟨h.owned, fun _ => h.inFlight⟩

/-- A fresh session is safe. -/
theorem Session.fresh_safe (clock : QpcClock) : (Session.fresh clock).Safe := by
  refine ⟨fun slot hslot => ?_, fun _ => rfl⟩
  have hheld : (Session.fresh clock).instrument.held = 0#16 := rfl
  rw [hheld, BitVec.getLsbD_zero] at hslot
  cases hslot

/-- Every call keeps a session safe. -/
theorem SessionStep.safe {before after : Session} (hstep : SessionStep before after)
    (h : before.Safe) : after.Safe := by
  cases hstep with
  | sendPhysicalPacket instrument packet response =>
    exact ((h.owned.idle (h.inFlight rfl)).sendPhysicalPacket packet response).safe
  | sendPhysicalPacketWithStart instrument packet startedTicks response =>
    exact ((h.owned.idle (h.inFlight rfl)).sendPhysicalPacketWithStart packet startedTicks
      response).safe
  | sendPreparedPhysicalPacket instrument prepared response =>
    exact ((h.owned.idle (h.inFlight rfl)).sendPreparedPhysicalPacketViewFrom _ _ response).safe
  | sendPreparedPhysicalPacketWithStart instrument prepared startedTicks response =>
    exact ((h.owned.idle (h.inFlight rfl)).sendPreparedPhysicalPacketViewFrom _ _ response).safe
  | sendPreparedPhysicalPacketView instrument view response =>
    exact ((h.owned.idle (h.inFlight rfl)).sendPreparedPhysicalPacketViewFrom _ _ response).safe
  | sendPreparedPhysicalPacketViewWithStart instrument view startedTicks response =>
    exact ((h.owned.idle (h.inFlight rfl)).sendPreparedPhysicalPacketViewFrom _ _ response).safe
  | unwind instrument view count =>
    exact ⟨(h.owned.idle (h.inFlight rfl)).unwindSend view count, nofun⟩
  | releaseScope instrument unwound scope environment htruthful =>
    have hsettled := h.owned.releaseScope scope htruthful
    refine ⟨hsettled.owned, fun hunwound => ?_⟩
    have hnone : instrument.keys.inFlightMask = 0#16 := h.inFlight hunwound
    exact eq_zero_of_within_zero (hnone ▸ hsettled.inFlight)

/-- Every reachable session is safe. -/
theorem reachable_safe {clock : QpcClock} {session : Session}
    (h : Relation.ReflTransGen SessionStep (Session.fresh clock) session) : session.Safe := by
  induction h with
  | refl => exact Session.fresh_safe clock
  | tail _ hstep ih => exact hstep.safe ih

/-- In every reachable session each held key carries a release obligation. A truthful release
either leaves none of its requested keys held, and no obligation at all for the tracked scope,
or reports a nonempty set of stuck keys that stays owned, after at most four attempts. -/
theorem no_held_key_escapes_ownership {clock : QpcClock} {session : Session}
    (h : Relation.ReflTransGen SessionStep (Session.fresh clock) session) :
    Within session.instrument.held session.instrument.keys.releaseObligationMask ∧
      ∀ (scope : ReleaseScope) (environment : ReleaseEnvironment), environment.Truthful →
        let result := session.instrument.releaseScope scope environment
        Within result.2.held result.2.keys.releaseObligationMask ∧
        (result.1.releasedSuccessfully = true →
          result.2.held &&& requestedReleaseMask session.instrument.keys scope = 0#16 ∧
            (scope = .tracked → result.2.keys.releaseObligationMask = 0#16)) ∧
        (result.1.releasedSuccessfully = false →
          result.1.stuckMask ≠ 0#16 ∧
            Within result.1.stuckMask result.2.keys.releaseObligationMask) ∧
        result.1.attempts ≤ 4 := by
  have hsafe := reachable_safe h
  refine ⟨hsafe.owned, fun scope environment htruthful => ?_⟩
  have hsettled := hsafe.owned.releaseScope scope htruthful
  exact ⟨hsettled.owned, hsettled.released, hsettled.stuck, hsettled.attempts⟩

/-- A sender that unwinds after pressing one of two keys leaves both owned. -/
theorem unwound_chord_stays_owned :
    let session : Session := ⟨(Session.fresh ⟨10000000, by decide⟩).instrument.unwindSend
      ⟨⟨0#16, 3#16⟩, by decide⟩ 1, true⟩
    session.instrument.held = 1#16 ∧
      Within session.instrument.held session.instrument.keys.releaseObligationMask := by
  refine ⟨by decide, ?_⟩
  exact (@no_held_key_escapes_ownership ⟨10000000, by decide⟩ _
    (Relation.ReflTransGen.single (SessionStep.unwind _ ⟨⟨0#16, 3#16⟩, by decide⟩ 1))).1

end SkyAutoPlayer.DispatchWin32
