import SkyAutoPlayer.Foundation.SlotMask

/-!
# The startup publication word

One word packs the startup phase, the ready and armed evidence bits, the suspension latch and the
abort reason. Building a word and adding the latch of the current one is decoded field by field.
-/

namespace SkyAutoPlayer.Player

open Foundation

/-- The phases of a session's startup. -/
inductive StartupPhase where
  | idle
  | preparing
  | ready
  | arming
  | armed
  | cancelled
  | failed
  | invalid
  deriving DecidableEq, Repr

/-- Why a startup was aborted. -/
inductive StartupAbortReason where
  | none
  | quit
  | skip
  | panicRelease
  | supervisorLeaseExpired
  | systemSuspend
  | focusInvalidated
  | targetInvalidated
  | ownerInvalidated
  | workerFailure
  deriving DecidableEq, Repr

/-- A decoded startup word. -/
structure StartupSnapshot where
  phase : StartupPhase
  abortReason : StartupAbortReason
  readyPublished : Bool
  armedPublished : Bool
  systemSuspendTerminal : Bool
  deriving DecidableEq, Repr

/-- The phase's code. -/
def StartupPhase.code : StartupPhase → BitVec 32
  | .idle => 0
  | .preparing => 1
  | .ready => 2
  | .arming => 3
  | .armed => 4
  | .cancelled => 5
  | .failed => 6
  | .invalid => 7

/-- The reason's code. -/
def StartupAbortReason.code : StartupAbortReason → BitVec 32
  | .none => 0
  | .quit => 1
  | .skip => 2
  | .panicRelease => 3
  | .supervisorLeaseExpired => 4
  | .systemSuspend => 5
  | .focusInvalidated => 6
  | .targetInvalidated => 7
  | .ownerInvalidated => 8
  | .workerFailure => 9

/-- The phase's bits. -/
def startupPhaseMask : BitVec 32 := 0x0f#32

/-- The evidence that readiness was published. -/
def startupReadyPublished : BitVec 32 := slotBit 32 8

/-- The evidence that the arm was published. -/
def startupArmedPublished : BitVec 32 := slotBit 32 9

/-- The session's suspension latch. -/
def startupSystemSuspendTerminal : BitVec 32 := slotBit 32 10

/-- The position of the abort reason. -/
def startupAbortShift : ℕ := 16

/-- The abort reason's bits. -/
def startupAbortMask : BitVec 32 := 0xff#32 <<< startupAbortShift

/-- Pack a phase, an abort reason and the evidence bits. -/
def startupWord (phase : StartupPhase) (abortReason : StartupAbortReason)
    (readyPublished armedPublished : Bool) : BitVec 32 :=
  phase.code ||| (if readyPublished then startupReadyPublished else 0#32) |||
    (if armedPublished then startupArmedPublished else 0#32) |||
    abortReason.code <<< startupAbortShift

/-- The phase of a word. -/
def decodePhase (raw : BitVec 32) : StartupPhase :=
  match (raw &&& startupPhaseMask).toNat with
  | 0 => .idle
  | 1 => .preparing
  | 2 => .ready
  | 3 => .arming
  | 4 => .armed
  | 5 => .cancelled
  | 6 => .failed
  | _ => .invalid

/-- The abort reason stored in a word. -/
def decodeAbortReason (raw : BitVec 32) : StartupAbortReason :=
  match ((raw &&& startupAbortMask) >>> startupAbortShift).toNat with
  | 0 => .none
  | 1 => .quit
  | 2 => .skip
  | 3 => .panicRelease
  | 4 => .supervisorLeaseExpired
  | 5 => .systemSuspend
  | 6 => .focusInvalidated
  | 7 => .targetInvalidated
  | 8 => .ownerInvalidated
  | 9 => .workerFailure
  | _ => .workerFailure

/-- The reasons that a latched suspension does not replace. -/
def StartupAbortReason.outranksSuspend : StartupAbortReason → Bool
  | .panicRelease | .supervisorLeaseExpired | .focusInvalidated | .targetInvalidated
  | .ownerInvalidated | .workerFailure => true
  | _ => false

/-- Whether a suspension is latched in a word. -/
def suspendTerminal (raw : BitVec 32) : Bool := decide (raw &&& startupSystemSuspendTerminal ≠ 0#32)

/-- Whether readiness was published in a word. -/
def readyPublished (raw : BitVec 32) : Bool := decide (raw &&& startupReadyPublished ≠ 0#32)

/-- Whether the arm was published in a word. -/
def armedPublished (raw : BitVec 32) : Bool := decide (raw &&& startupArmedPublished ≠ 0#32)

/-- Decode a word. -/
def decodeStartupWord (raw : BitVec 32) : StartupSnapshot where
  phase := decodePhase raw
  abortReason :=
    if suspendTerminal raw && !(decodeAbortReason raw).outranksSuspend then .systemSuspend
    else decodeAbortReason raw
  readyPublished := readyPublished raw
  armedPublished := armedPublished raw
  systemSuspendTerminal := suspendTerminal raw

/-- The phases before the arm, from which a startup can still be aborted. -/
def StartupPhase.preArm : StartupPhase → Bool
  | .idle | .preparing | .ready | .arming => true
  | _ => false

/-- A replacement word: new phase, reason and evidence, with the current word's suspension latch. -/
def replacementWord (phase : StartupPhase) (abortReason : StartupAbortReason)
    (ready armed : Bool) (current : BitVec 32) : BitVec 32 :=
  startupWord phase abortReason ready armed ||| (current &&& startupSystemSuspendTerminal)

/-- A single bit of a word. -/
theorem bit_iff {raw : BitVec 32} {bit : ℕ} :
    decide (raw &&& slotBit 32 bit ≠ 0#32) = raw.getLsbD bit := by
  rw [Bool.eq_iff_iff, decide_eq_true_eq, and_slotBit_ne_zero]

/-- The suspension latch is one bit. -/
theorem suspendTerminal_eq (raw : BitVec 32) : suspendTerminal raw = raw.getLsbD 10 :=
  bit_iff

/-- The ready evidence is one bit. -/
theorem readyPublished_eq (raw : BitVec 32) : readyPublished raw = raw.getLsbD 8 := bit_iff

/-- The armed evidence is one bit. -/
theorem armedPublished_eq (raw : BitVec 32) : armedPublished raw = raw.getLsbD 9 := bit_iff

/-- The bits of a packed word: those of the phase, the two evidence bits and the reason. -/
theorem startupWord_getLsbD (phase : StartupPhase) (reason : StartupAbortReason)
    (ready armed : Bool) (bit : ℕ) :
    (startupWord phase reason ready armed).getLsbD bit =
      (phase.code.getLsbD bit || (ready && decide (bit = 8)) || (armed && decide (bit = 9)) ||
        (reason.code <<< startupAbortShift).getLsbD bit) := by
  simp only [startupWord, BitVec.getLsbD_or, startupReadyPublished, startupArmedPublished]
  have hready : (if ready = true then slotBit 32 8 else 0#32).getLsbD bit =
      (ready && decide (bit = 8)) := by
    cases ready
    · simp
    · rw [if_pos rfl, getLsbD_slotBit, Bool.true_and]
      by_cases hbit : bit = 8 <;> simp [hbit]
  have harmed : (if armed = true then slotBit 32 9 else 0#32).getLsbD bit =
      (armed && decide (bit = 9)) := by
    cases armed
    · simp
    · rw [if_pos rfl, getLsbD_slotBit, Bool.true_and]
      by_cases hbit : bit = 9 <;> simp [hbit]
  rw [hready, harmed]

/-- Phase codes do not reach the evidence bits. -/
theorem phase_code_high (phase : StartupPhase) {bit : ℕ} (h : 4 ≤ bit) :
    phase.code.getLsbD bit = false := by
  by_cases hbit : bit < 32
  · have hlt : phase.code.toNat < 2 ^ bit := by
      have hcode : phase.code.toNat < 2 ^ 4 := by cases phase <;> decide
      exact Nat.lt_of_lt_of_le hcode (Nat.pow_le_pow_right (by decide) h)
    rw [BitVec.getLsbD, Nat.testBit_lt_two_pow hlt]
  · exact BitVec.getLsbD_of_ge _ _ (by omega)

/-- Reasons are stored above the evidence bits. -/
theorem reason_code_low (reason : StartupAbortReason) {bit : ℕ} (h : bit < 16) :
    (reason.code <<< startupAbortShift).getLsbD bit = false := by
  rw [BitVec.getLsbD_shiftLeft, startupAbortShift]
  simp [h]

/-- The suspension latch of a replacement is the current one. -/
@[simp] theorem replacement_suspend (phase : StartupPhase) (reason : StartupAbortReason)
    (ready armed : Bool) (current : BitVec 32) :
    suspendTerminal (replacementWord phase reason ready armed current) =
      suspendTerminal current := by
  rw [suspendTerminal_eq, suspendTerminal_eq, replacementWord, BitVec.getLsbD_or, startupWord_getLsbD, phase_code_high phase (by decide),
    reason_code_low reason (by decide), BitVec.getLsbD_and, startupSystemSuspendTerminal,
    getLsbD_slotBit]
  simp

/-- The ready bit of a replacement. -/
@[simp] theorem replacement_ready (phase : StartupPhase) (reason : StartupAbortReason)
    (ready armed : Bool) (current : BitVec 32) :
    readyPublished (replacementWord phase reason ready armed current) = ready := by
  rw [readyPublished_eq, replacementWord, BitVec.getLsbD_or, startupWord_getLsbD, phase_code_high phase (by decide),
    reason_code_low reason (by decide), BitVec.getLsbD_and, startupSystemSuspendTerminal,
    getLsbD_slotBit]
  simp

/-- The armed bit of a replacement. -/
@[simp] theorem replacement_armed (phase : StartupPhase) (reason : StartupAbortReason)
    (ready armed : Bool) (current : BitVec 32) :
    armedPublished (replacementWord phase reason ready armed current) = armed := by
  rw [armedPublished_eq, replacementWord, BitVec.getLsbD_or, startupWord_getLsbD, phase_code_high phase (by decide),
    reason_code_low reason (by decide), BitVec.getLsbD_and, startupSystemSuspendTerminal,
    getLsbD_slotBit]
  simp

/-- The phase of a word depends on its four low bits. -/
theorem decodePhase_congr {first second : BitVec 32}
    (h : ∀ bit < 4, first.getLsbD bit = second.getLsbD bit) :
    decodePhase first = decodePhase second := by
  have hlow : first &&& startupPhaseMask = second &&& startupPhaseMask := by
    apply BitVec.eq_of_getLsbD_eq
    intro bit hbit
    rw [BitVec.getLsbD_and, BitVec.getLsbD_and]
    by_cases hsmall : bit < 4
    · rw [h bit hsmall]
    · have hmask : startupPhaseMask.getLsbD bit = false := by
        have hlt : startupPhaseMask.toNat < 2 ^ bit :=
          Nat.lt_of_lt_of_le (by decide : startupPhaseMask.toNat < 2 ^ 4)
            (Nat.pow_le_pow_right (by decide) (by omega))
        rw [BitVec.getLsbD, Nat.testBit_lt_two_pow hlt]
      rw [hmask, Bool.and_false, Bool.and_false]
  rw [decodePhase, decodePhase, hlow]

/-- The phase of a replacement. -/
@[simp] theorem replacement_phase (phase : StartupPhase) (reason : StartupAbortReason)
    (ready armed : Bool) (current : BitVec 32) :
    decodePhase (replacementWord phase reason ready armed current) = phase := by
  have hcode : decodePhase phase.code = phase := by cases phase <;> rfl
  rw [← hcode]
  refine (decodePhase_congr fun bit hbit => ?_).trans rfl
  rw [hcode, replacementWord, BitVec.getLsbD_or, startupWord_getLsbD,
    reason_code_low reason (by omega), BitVec.getLsbD_and, startupSystemSuspendTerminal,
    getLsbD_slotBit]
  have hready : bit ≠ 8 := by omega
  have harmed : bit ≠ 9 := by omega
  have hsuspend : bit ≠ 10 := by omega
  simp [hready, harmed, hsuspend]

/-- Latching a suspension keeps the phase. -/
@[simp] theorem latch_phase (raw : BitVec 32) :
    decodePhase (raw ||| startupSystemSuspendTerminal) = decodePhase raw := by
  refine decodePhase_congr fun bit hbit => ?_
  rw [BitVec.getLsbD_or, startupSystemSuspendTerminal, getLsbD_slotBit]
  have hsuspend : bit ≠ 10 := by omega
  simp [hsuspend]

/-- Latching a suspension keeps the ready evidence. -/
@[simp] theorem latch_ready (raw : BitVec 32) :
    readyPublished (raw ||| startupSystemSuspendTerminal) = readyPublished raw := by
  rw [readyPublished_eq, readyPublished_eq, BitVec.getLsbD_or, startupSystemSuspendTerminal,
    getLsbD_slotBit]
  simp

/-- Latching a suspension keeps the armed evidence. -/
@[simp] theorem latch_armed (raw : BitVec 32) :
    armedPublished (raw ||| startupSystemSuspendTerminal) = armedPublished raw := by
  rw [armedPublished_eq, armedPublished_eq, BitVec.getLsbD_or, startupSystemSuspendTerminal,
    getLsbD_slotBit]
  simp

/-- Latching a suspension latches it. -/
@[simp] theorem latch_suspend (raw : BitVec 32) :
    suspendTerminal (raw ||| startupSystemSuspendTerminal) = true := by
  rw [suspendTerminal_eq, BitVec.getLsbD_or, startupSystemSuspendTerminal, getLsbD_slotBit]
  simp

end SkyAutoPlayer.Player
