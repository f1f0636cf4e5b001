import Mathlib.Algebra.Order.Group.Nat
import SkyAutoPlayer.Foundation.Checked

/-!
# Waiting for a deadline or an interrupt

The worker waits with a timer and an event. A wait first consumes a signal that is already there and
samples the generation of the event, sleeps in the kernel while the deadline is far, and spins when it is
near. In the spin it only polls the generation. The event resets itself when it is consumed, and a signal
sets it before it counts itself in the generation.

The points of a wait are the places between its atomic operations, and an answer is what the operation
finds: what the clock reads, how the timer is armed, or which handle ends the kernel wait. The number of
signals is kept, of which the generation is the last 64 bits.
-/

namespace SkyAutoPlayer.DispatchWin32

open Foundation

/-- An event that resets itself, with its generation and the number of takes. -/
structure OwnedEvent where
  signalled : Bool
  signals : ℕ
  takeCount : ℕ
  deriving DecidableEq, Repr

/-- The last 64 bits of a number of signals. -/
def generation (signals : ℕ) : ℕ := signals % 2 ^ 64

/-- The generation of more signals is another one until it comes around. -/
theorem generation_ne {earlier later : ℕ} (hlt : earlier < later) (hnear : later < earlier + 2 ^ 64) :
    generation later ≠ generation earlier := by
  unfold generation
  omega

namespace OwnedEvent

/-- The first half of a signal. -/
def set (event : OwnedEvent) : OwnedEvent := { event with signalled := true }

/-- The second half of a signal. -/
def count (event : OwnedEvent) : OwnedEvent := { event with signals := event.signals + 1 }

/-- The event after it was consumed. -/
def reset (event : OwnedEvent) : OwnedEvent := { event with signalled := false }

/-- The event after an attempt to take it. -/
def tryTake (event : OwnedEvent) : OwnedEvent :=
  { event.reset with takeCount := event.takeCount + 1 }

end OwnedEvent

/-- The deadline of a wait, and how near it the wait spins. -/
structure WaitRequest where
  targetTicks : ℕ
  spinThresholdTicks : ℕ
  deriving DecidableEq, Repr

/-- How a wait ended. -/
inductive WaitOutcome where
  | deadline
  | interrupted
  | failed
  deriving DecidableEq, Repr

/-- How a wait ended, with its last sample and how long it spun. -/
structure WaitResult where
  outcome : WaitOutcome
  wakeQpc : Option ℕ
  spinTicks : ℕ
  deriving DecidableEq, Repr

namespace WaitResult

/-- A wait that failed before it had a result. -/
def failure : WaitResult := ⟨.failed, none, 0⟩

/-- A wait whose signal was consumed. -/
def interrupted : WaitResult := ⟨.interrupted, none, 0⟩

/-- A result with how long the wait spun, which fails if the clock went back. -/
def withSpin (outcome : WaitOutcome) (startedTicks : Option ℕ) (completedTicks : ℕ) : WaitResult :=
  match startedTicks with
  | none => ⟨outcome, some completedTicks, 0⟩
  | some started =>
    if started ≤ completedTicks then ⟨outcome, some completedTicks, completedTicks - started⟩
    else ⟨.failed, some completedTicks, 0⟩

/-- What a wait says that is woken with a sample. -/
def classify (request : WaitRequest) (spinStartedTicks : Option ℕ) (includeSpinEvidence : Bool)
    (completedTicks : ℕ) : WaitResult :=
  if request.targetTicks ≤ completedTicks then withSpin .deadline spinStartedTicks completedTicks
  else if includeSpinEvidence then withSpin .interrupted spinStartedTicks completedTicks
  else interrupted

end WaitResult

/-- Where a wait stands. Once the generation was sampled it keeps the number of signals there were. -/
inductive WaitPoint where
  | sampleGeneration
  | firstTake (observed : ℕ)
  | sampleAgain (observed : ℕ)
  | secondTake
  | resample
  | check (observed : ℕ) (spinStartedTicks : Option ℕ)
  | arm (observed : ℕ) (spinStartedTicks : Option ℕ)
  | kernel (observed : ℕ) (spinStartedTicks : Option ℕ)
  | spin (observed : ℕ) (spinStartedTicks : Option ℕ) (spinIterations : ℕ)
  | poll (observed : ℕ) (spinStartedTicks : Option ℕ) (spinIterations nowTicks : ℕ)
  | woken (spinStartedTicks : Option ℕ) (includeSpinEvidence : Bool)
  deriving DecidableEq, Repr

/-- What the next operation of a wait finds. -/
inductive WaitAnswer where
  | proceed
  | clock (nowTicks : ℕ)
  | clockFails
  | armed
  | zeroDelay
  | armFails
  | timer
  | event
  | waitFails
  deriving DecidableEq, Repr

/-- The event after the next operation of a wait, the last sample of the clock, and where the wait then
stands, or its result. An answer that the operation cannot find is absent. -/
def waitStep (request : WaitRequest) (event : OwnedEvent) (lastSample : ℕ) :
    WaitPoint → WaitAnswer → Option (OwnedEvent × ℕ × (WaitPoint ⊕ WaitResult))
  | .sampleGeneration, .proceed => some (event, lastSample, .inl (.firstTake event.signals))
  | .firstTake observed, .proceed => some (event.tryTake, lastSample,
      .inl (if event.signalled then .woken none false else .sampleAgain observed))
  | .sampleAgain observed, .proceed => some (event, lastSample,
      .inl (if generation event.signals = generation observed then .check observed none
        else .secondTake))
  | .secondTake, .proceed => some (event.tryTake, lastSample,
      .inl (if event.signalled then .woken none false else .resample))
  | .resample, .proceed => some (event, lastSample, .inl (.check event.signals none))
  | .check observed started, .clock now =>
    if now < lastSample then none
    else if request.targetTicks ≤ now then some (event, now, .inr (.withSpin .deadline started now))
    else if request.targetTicks - now ≤ request.spinThresholdTicks then
      some (event, now, .inl (.spin observed started 0))
    else some (event, now, .inl (.arm observed started))
  | .arm observed started, .armed => some (event, lastSample, .inl (.kernel observed started))
  | .arm observed started, .zeroDelay => some (event, lastSample, .inl (.check observed started))
  | .arm _ _, .armFails => some (event, lastSample, .inr .failure)
  -- The handles are the timer and the event, and the wait ends with one that is ready.
  | .kernel observed started, .timer => some (event, lastSample, .inl (.check observed started))
  | .kernel _ started, .event =>
    if event.signalled then some (event.reset, lastSample, .inl (.woken started false)) else none
  | .kernel _ _, .waitFails => some (event, lastSample, .inr .failure)
  | .spin observed started iterations, .clock now =>
    if now < lastSample then none
    else if request.targetTicks ≤ now then some (event, now, .inr (.withSpin .deadline started now))
    else some (event, now, .inl (.poll observed started iterations now))
  | .poll observed started iterations now, .proceed => some (event, lastSample,
      .inl (if iterations % 32 = 0 ∧ generation event.signals ≠ generation observed then
        .woken started true
      else if request.spinThresholdTicks < request.targetTicks - now then .check observed started
      else .spin observed (started.or (some now)) ((iterations + 1) % 2 ^ 32)))
  | .woken started evidence, .clock now =>
    if now < lastSample then none
    else some (event, now, .inr (.classify request started evidence now))
  | .check _ _, .clockFails | .spin _ _ _, .clockFails | .woken _ _, .clockFails =>
    some (event, lastSample, .inr .failure)
  | _, _ => none

namespace WaitPoint

/-- The number of signals at the last sample of the generation. -/
def observed : WaitPoint → Option ℕ
  | .firstTake observed | .sampleAgain observed | .check observed _ | .arm observed _
  | .kernel observed _ | .spin observed _ _ | .poll observed _ _ _ => some observed
  | .sampleGeneration | .secondTake | .resample | .woken _ _ => none

/-- The entry section is over: the wait watches the clock, the event and the generation. -/
def watches : WaitPoint → Bool
  | .check _ _ | .arm _ _ | .kernel _ _ | .spin _ _ _ | .poll _ _ _ _ => true
  | .sampleGeneration | .firstTake _ | .sampleAgain _ | .secondTake | .resample | .woken _ _ => false

/-- The wait has made the last attempt of its entry section to take the event. -/
def afterTakes (point : WaitPoint) : Bool := point = .resample || point.watches

end WaitPoint

variable {request : WaitRequest} {event after : OwnedEvent} {lastSample sample : ℕ}
  {point next : WaitPoint} {answer : WaitAnswer} {result : WaitResult}

/-- A result with a spin is a failure or what was asked for, with its sample. -/
theorem WaitResult.withSpin_cases (outcome : WaitOutcome) (started : Option ℕ) (completed : ℕ) :
    (withSpin outcome started completed).wakeQpc = some completed ∧
      ((withSpin outcome started completed).outcome = outcome ∨
        (withSpin outcome started completed).outcome = .failed) := by
  unfold withSpin
  split
  · simp
  · split <;> simp

/-- A deadline has a sample past it, and an interrupt has a sample before it. -/
def WaitResult.Sampled (request : WaitRequest) (sample : ℕ) (result : WaitResult) : Prop :=
  (result.outcome = .deadline →
    ∃ wake, result.wakeQpc = some wake ∧ request.targetTicks ≤ wake) ∧
  (result.outcome = .interrupted → sample < request.targetTicks ∧
    ∀ wake, result.wakeQpc = some wake → wake < request.targetTicks)

/-- A failure has no sample to show. -/
theorem sampled_failure : WaitResult.failure.Sampled request sample := by
  simp [WaitResult.Sampled, WaitResult.failure]

/-- A deadline is found with its sample. -/
theorem sampled_deadline {started : Option ℕ} (h : request.targetTicks ≤ sample) :
    (WaitResult.withSpin .deadline started sample).Sampled request sample := by
  obtain ⟨hwake, houtcome⟩ := WaitResult.withSpin_cases .deadline started sample
  constructor
  · intro _
    exact ⟨sample, hwake, h⟩
  · intro hinterrupted
    rw [hinterrupted] at houtcome
    simp at houtcome

/-- A wait that is woken looks at the clock once more. -/
theorem sampled_classify {started : Option ℕ} {evidence : Bool} :
    (WaitResult.classify request started evidence sample).Sampled request sample := by
  unfold WaitResult.classify
  split
  case isTrue hpast => exact sampled_deadline hpast
  case isFalse hbefore =>
    have hlt : sample < request.targetTicks := Nat.lt_of_not_le hbefore
    split
    · obtain ⟨hwake, houtcome⟩ := WaitResult.withSpin_cases .interrupted started sample
      constructor
      · intro hdeadline
        rw [hdeadline] at houtcome
        simp at houtcome
      · intro _
        constructor
        · exact hlt
        · intro wake hfound
          obtain rfl := Option.some.inj (hwake.symm.trans hfound)
          exact hlt
    · simp [WaitResult.Sampled, WaitResult.interrupted, hlt]

/-- A wait ends at its deadline with a sample past it, is interrupted with a sample before it, and leaves
the event alone as it ends. -/
theorem waitStep_result
    (h : waitStep request event lastSample point answer = some (after, sample, .inr result)) :
    result.Sampled request sample ∧ after = event := by
  cases point <;> cases answer <;> simp only [waitStep, Option.some.injEq, Prod.mk.injEq, reduceCtorEq,
    Sum.inr.injEq, and_false] at h
  case check.clock observed started now =>
    split at h
    case isTrue => cases h
    case isFalse =>
      split at h
      case isTrue hpast =>
        simp only [Option.some.injEq, Prod.mk.injEq, Sum.inr.injEq] at h
        obtain ⟨rfl, rfl, rfl⟩ := h
        exact ⟨sampled_deadline hpast, rfl⟩
      case isFalse => split at h <;> simp at h
  case spin.clock observed started iterations now =>
    split at h
    case isTrue => cases h
    case isFalse =>
      split at h
      case isTrue hpast =>
        simp only [Option.some.injEq, Prod.mk.injEq, Sum.inr.injEq] at h
        obtain ⟨rfl, rfl, rfl⟩ := h
        exact ⟨sampled_deadline hpast, rfl⟩
      case isFalse => simp at h
  case woken.clock started evidence now =>
    split at h
    case isTrue => cases h
    case isFalse =>
      simp only [Option.some.injEq, Prod.mk.injEq, Sum.inr.injEq] at h
      obtain ⟨rfl, rfl, rfl⟩ := h
      exact ⟨sampled_classify, rfl⟩
  case kernel.event observed started => split at h <;> simp at h
  all_goals
    obtain ⟨rfl, -, rfl⟩ := h
    exact ⟨sampled_failure, rfl⟩

/-- What an operation does after which the wait goes on. -/
theorem waitStep_continues
    (h : waitStep request event lastSample point answer = some (after, sample, .inl next)) :
    (point = .sampleGeneration ∧ next = .firstTake event.signals ∧ after = event) ∨
    (∃ observed, point = .firstTake observed ∧ next = .sampleAgain observed ∧
      after = event.tryTake ∧ event.signalled = false) ∨
    (∃ observed, point = .sampleAgain observed ∧ next = .check observed none ∧ after = event) ∨
    (∃ observed, point = .sampleAgain observed ∧ next = .secondTake ∧ after = event) ∨
    (point = .secondTake ∧ next = .resample ∧ after = event.tryTake ∧ event.signalled = false) ∨
    (point = .resample ∧ next = .check event.signals none ∧ after = event) ∨
    (point.watches = true ∧ next.watches = true ∧ next.observed = point.observed ∧ after = event) ∨
    ∃ started evidence, next = .woken started evidence ∧ event.takeCount ≤ after.takeCount := by
  cases point <;> cases answer <;> simp only [waitStep, Option.some.injEq, Prod.mk.injEq, reduceCtorEq,
    Sum.inl.injEq, and_false] at h
  case sampleGeneration.proceed =>
    obtain ⟨rfl, -, rfl⟩ := h
    simp
  case firstTake.proceed observed =>
    obtain ⟨rfl, -, rfl⟩ := h
    cases event.signalled <;> simp [OwnedEvent.tryTake]
  case sampleAgain.proceed observed =>
    obtain ⟨rfl, -, rfl⟩ := h
    split <;> simp
  case secondTake.proceed =>
    obtain ⟨rfl, -, rfl⟩ := h
    cases event.signalled <;> simp [OwnedEvent.tryTake]
  case resample.proceed =>
    obtain ⟨rfl, -, rfl⟩ := h
    simp
  case kernel.event observed started =>
    split at h
    · simp only [Option.some.injEq, Prod.mk.injEq, Sum.inl.injEq] at h
      simp [← h.1, ← h.2.2, OwnedEvent.reset]
    · cases h
  case poll.proceed observed started iterations now =>
    obtain ⟨rfl, -, rfl⟩ := h
    split
    · simp
    · split <;> simp [WaitPoint.watches, WaitPoint.observed]
  case check.clock observed started now =>
    split at h
    · cases h
    · split at h
      · simp at h
      · split at h <;>
          simp only [Option.some.injEq, Prod.mk.injEq, Sum.inl.injEq] at h <;>
          simp [← h.1, ← h.2.2, WaitPoint.watches, WaitPoint.observed]
  case spin.clock observed started iterations now =>
    split at h
    · cases h
    · split at h
      · simp at h
      · simp only [Option.some.injEq, Prod.mk.injEq, Sum.inl.injEq] at h
        simp [← h.1, ← h.2.2, WaitPoint.watches, WaitPoint.observed]
  case woken.clock => split at h <;> simp at h
  all_goals
    simp [← h.1, ← h.2.2, WaitPoint.watches, WaitPoint.observed]

/-- A wait loses a signal only where it is woken. -/
theorem waitStep_signalled {reply : WaitPoint ⊕ WaitResult}
    (h : waitStep request event lastSample point answer = some (after, sample, reply)) :
    after.signalled = event.signalled ∨ ∃ started evidence, reply = .inl (.woken started evidence) := by
  cases reply with
  | inr result =>
    rw [(waitStep_result h).2]
    exact .inl rfl
  | inl next =>
    obtain ⟨-, -, rfl⟩ | ⟨observed, -, -, rfl, hunset⟩ | ⟨observed, -, -, rfl⟩ | ⟨observed, -, -, rfl⟩ |
      ⟨-, -, rfl, hunset⟩ | ⟨-, -, rfl⟩ | ⟨-, -, -, rfl⟩ | ⟨started, evidence, rfl, -⟩ :=
      waitStep_continues h
    case inr.inr.inr.inr.inr.inr.inr => exact .inr ⟨started, evidence, rfl⟩
    case inr.inl | inr.inr.inr.inr.inl => exact .inl hunset.symm
    all_goals exact .inl rfl

/-- A wait makes no attempt less. -/
theorem waitStep_takeCount {reply : WaitPoint ⊕ WaitResult}
    (h : waitStep request event lastSample point answer = some (after, sample, reply)) :
    event.takeCount ≤ after.takeCount := by
  cases reply with
  | inr result => rw [(waitStep_result h).2]
  | inl next =>
    obtain ⟨-, -, rfl⟩ | ⟨observed, -, -, rfl, -⟩ | ⟨observed, -, -, rfl⟩ | ⟨observed, -, -, rfl⟩ |
      ⟨-, -, rfl, -⟩ | ⟨-, -, rfl⟩ | ⟨-, -, -, rfl⟩ | ⟨started, evidence, -, hle⟩ :=
      waitStep_continues h
    case inr.inr.inr.inr.inr.inr.inr => exact hle
    case inr.inl | inr.inr.inr.inr.inl => exact Nat.le_succ _
    all_goals exact Nat.le_refl _

/-- A wait that is woken does not go on. -/
theorem ne_woken_of_continues
    (h : waitStep request event lastSample point answer = some (after, sample, .inl next))
    (started : Option ℕ) (evidence : Bool) : point ≠ .woken started evidence := by
  intro hpoint
  rw [hpoint] at h
  cases answer <;> simp only [waitStep, reduceCtorEq, Option.some.injEq, Prod.mk.injEq, and_false] at h
  split at h <;> simp at h

end SkyAutoPlayer.DispatchWin32
