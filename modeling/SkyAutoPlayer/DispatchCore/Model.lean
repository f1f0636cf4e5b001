import Mathlib.Data.List.Basic
import Mathlib.Data.Nat.Bitwise
import SkyAutoPlayer.Foundation.Checked
import SkyAutoPlayer.Foundation.KeepFirst
import SkyAutoPlayer.Foundation.Slices
import SkyAutoPlayer.Foundation.SlotMask

/-!
# The compiled schedule

A schedule holds packets, batches and intents in three arenas. A packet is one physical
boundary: its Up intents are stored before its Down intents, and its batches keep the authored
actions. An intent packs its press generation and its key slot into one word.
-/

namespace SkyAutoPlayer.DispatchCore

open Foundation

/-- The number of instrument slots. -/
def maxKeys : ℕ := 15

/-- The generation of a release without an open press. -/
def noGenerationId : ℕ := 2 ^ 64 - 1

/-- The largest generation an intent can hold; one more stands for no generation. -/
def maxCompactGenerationId : ℕ := 2 ^ 60 - 2

/-- Malformed references inside a schedule. -/
inductive RuntimeScheduleError where
  | invalidBatchIndex (index : ℕ)
  | invalidPacketIndex (index : ℕ)
  | invalidIntentRange (index : ℕ)
  | invalidPacketIntentRange (index : ℕ)
  | invalidKeySlot (slot : ℕ)
  deriving DecidableEq, Repr

/-- The error's text. -/
def RuntimeScheduleError.message : RuntimeScheduleError → String
  | .invalidBatchIndex index => s!"invalid runtime batch index {index}"
  | .invalidPacketIndex index => s!"invalid runtime packet index {index}"
  | .invalidIntentRange index => s!"invalid intent range for runtime batch {index}"
  | .invalidPacketIntentRange index => s!"invalid intent range for runtime packet {index}"
  | .invalidKeySlot slot => s!"compiled key slot {slot} is not present in the key registry"

/-- Whether an action presses or releases its keys. -/
inductive ActionKind where
  | down
  | up
  deriving DecidableEq, Repr

/-- The prepared scan codes; a code's slot is its position. -/
structure KeyRegistry where
  scanCodes : List ℕ
  deriving DecidableEq, Repr

namespace KeyRegistry

/-- Keep the first occurrence of every scan code. -/
def new (scanCodes : List ℕ) : KeyRegistry := ⟨keepFirst id [] scanCodes⟩

/-- The slot of a scan code. -/
def slotFor (registry : KeyRegistry) (scanCode : ℕ) : Option ℕ :=
  registry.scanCodes.idxOf? scanCode

/-- The scan code of a slot. -/
def scanCodeFor (registry : KeyRegistry) (slot : ℕ) : Option ℕ := registry.scanCodes[slot]?

end KeyRegistry

/-- An intent of the arena: a generation above a four-bit slot. -/
structure CompactIntent where
  word : ℕ
  deriving DecidableEq, Repr

namespace CompactIntent

/-- Pack a generation and a slot. -/
def new (generationId keySlot : ℕ) : CompactIntent :=
  let generationBits := if generationId = noGenerationId then 2 ^ 60 - 1 else generationId
  ⟨generationBits <<< 4 ||| keySlot⟩

/-- The packed generation. -/
def generationId (intent : CompactIntent) : ℕ :=
  let generation := intent.word >>> 4
  if generation = 2 ^ 60 - 1 then noGenerationId else generation

/-- The packed slot. -/
def keySlot (intent : CompactIntent) : ℕ := intent.word &&& 0x0f

/-- The packed word as a sum. -/
theorem new_word {generationId keySlot : ℕ} (hslot : keySlot < 16) :
    (new generationId keySlot).word =
      (if generationId = noGenerationId then 2 ^ 60 - 1 else generationId) * 16 + keySlot := by
  unfold new
  dsimp only
  rw [← Nat.shiftLeft_add_eq_or_of_lt (by simpa using hslot), Nat.shiftLeft_eq]

/-- Packing keeps the slot. -/
@[simp] theorem keySlot_new {generationId keySlot : ℕ} (hslot : keySlot < 16) :
    (new generationId keySlot).keySlot = keySlot := by
  have hmask : (0x0f : ℕ) = 2 ^ 4 - 1 := rfl
  rw [CompactIntent.keySlot, new_word hslot, hmask, Nat.and_two_pow_sub_one_eq_mod]
  omega

/-- Packing keeps a representable generation, and no generation. -/
@[simp] theorem generationId_new {generationId keySlot : ℕ} (hslot : keySlot < 16)
    (hgeneration : generationId ≤ maxCompactGenerationId ∨ generationId = noGenerationId) :
    (new generationId keySlot).generationId = generationId := by
  have hdiv : ∀ bits : ℕ, (bits * 16 + keySlot) / 2 ^ 4 = bits := fun bits => by omega
  unfold CompactIntent.generationId
  dsimp only
  rw [new_word hslot, Nat.shiftRight_eq_div_pow, hdiv]
  unfold maxCompactGenerationId noGenerationId at *
  rcases hgeneration with hle | heq
  · rw [if_neg (by omega : generationId ≠ 2 ^ 64 - 1), if_neg (by omega)]
  · rw [if_pos heq, if_pos rfl]
    exact heq.symm

end CompactIntent

/-- The batch of one authored action. -/
structure CompiledBatch where
  sourceActionIndex : ℕ
  kind : ActionKind
  scheduledUs : ℕ
  reasonId : ℕ
  intentStart : ℕ
  intentLen : ℕ
  packetId : ℕ
  deriving DecidableEq, Repr

/-- The physical boundary of one authored timestamp. -/
structure CompiledPacket where
  packetId : ℕ
  scheduledUs : ℕ
  firstBatchIndex : ℕ
  batchCount : ℕ
  upMask : BitVec 16
  downMask : BitVec 16
  upIntentStart : ℕ
  upIntentLen : ℕ
  downIntentStart : ℕ
  downIntentLen : ℕ
  downSourceActionIndex : Option ℕ
  deriving DecidableEq, Repr

/-- A compiled schedule. -/
structure RuntimeSchedule where
  packets : List CompiledPacket
  batches : List CompiledBatch
  intents : List CompactIntent
  generationCount : ℕ
  keyRegistry : KeyRegistry
  reasonTable : List String
  deriving DecidableEq, Repr

/-- One packet with its intents. -/
structure PacketView where
  packetIndex : ℕ
  header : CompiledPacket
  upIntents : List CompactIntent
  downIntents : List CompactIntent
  registry : KeyRegistry
  effectiveTicks : ℕ
  deriving DecidableEq, Repr

/-- Reject an intent whose slot has no scan code. -/
def validateIntents (registry : KeyRegistry) :
    List CompactIntent → Except RuntimeScheduleError Unit
  | [] => .ok ()
  | intent :: rest => do
    failIf (registry.scanCodeFor intent.keySlot = none) (.invalidKeySlot intent.keySlot)
    validateIntents registry rest

/-- Check every intent of a packet against the registry. -/
def PacketView.validateRegistry (view : PacketView) : Except RuntimeScheduleError Unit :=
  validateIntents view.registry (view.upIntents ++ view.downIntents)

namespace RuntimeSchedule

/-- A packet with its intents, after range validation. -/
def viewPacketTicksUnvalidatedRegistry (schedule : RuntimeSchedule)
    (index effectiveTicks : ℕ) : Except RuntimeScheduleError PacketView := do
  let header ← okOr (.invalidPacketIndex index) schedule.packets[index]?
  let upIntents ← okOr (.invalidPacketIntentRange index)
    (slice schedule.intents header.upIntentStart header.upIntentLen)
  let downIntents ← okOr (.invalidPacketIntentRange index)
    (slice schedule.intents header.downIntentStart header.downIntentLen)
  pure
    { packetIndex := index
      header := header
      upIntents := upIntents
      downIntents := downIntents
      registry := schedule.keyRegistry
      effectiveTicks := effectiveTicks }

/-- A packet with its intents, after range and registry validation. -/
def viewPacketTicks (schedule : RuntimeSchedule) (index effectiveTicks : ℕ) :
    Except RuntimeScheduleError PacketView := do
  let view ← schedule.viewPacketTicksUnvalidatedRegistry index effectiveTicks
  view.validateRegistry
  pure view

/-- The intents of a batch. -/
def intentSlice (schedule : RuntimeSchedule) (batch : CompiledBatch) :
    Option (List CompactIntent) :=
  slice schedule.intents batch.intentStart batch.intentLen

end RuntimeSchedule

/-- One authored action. -/
structure KeyActionInput where
  sourceActionIndex : ℕ
  kind : ActionKind
  scheduledUs : ℕ
  scanCodes : List ℕ
  reason : String
  deriving DecidableEq, Repr

end SkyAutoPlayer.DispatchCore
