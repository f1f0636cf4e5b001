import SkyAutoPlayer.Foundation.SampleHistory

/-!
# Hysteresis of the dispatch health

A window keeps whether the last observations were over their budget. It is degraded after enough of
them have been for long enough without a break, and recovers after fewer have been for long enough.
The window keeps a ring, a count and the beginnings of two runs. Over the whole history these are the
last observations, the number of those over budget, and the maximal runs of evaluations.
-/

namespace SkyAutoPlayer.Player

open Foundation

/-- What an observation makes of the health. -/
inductive HealthTransition where
  | none
  | enteredDegraded
  | recovered
  deriving DecidableEq, Repr

/-- How many observations are needed, and how long they hold. -/
structure HealthWindowPolicy where
  minimumSamples : ℕ
  badSampleCount : ℕ
  degradeHoldUs : ℕ
  recoveryHoldUs : ℕ
  deriving DecidableEq, Repr

/-- The window of a performance signal. -/
structure HealthWindow where
  overBudget : List Bool
  next : ℕ
  len : ℕ
  badCount : ℕ
  degraded : Bool
  badStartedUs : Option ℕ
  healthyStartedUs : Option ℕ
  deriving DecidableEq, Repr

namespace HealthWindow

/-- An empty window of a capacity. -/
def default (capacity : ℕ) : HealthWindow where
  overBudget := List.replicate capacity false
  next := 0
  len := 0
  badCount := 0
  degraded := false
  badStartedUs := none
  healthyStartedUs := none

/-- An observation takes its place in the ring, which evicts the oldest one of a full ring. -/
def record (capacity : ℕ) (overBudget : Bool) (window : HealthWindow) : HealthWindow :=
  let evicted :=
    if window.len = capacity then
      { window with
        badCount :=
          if window.overBudget.getD window.next false then window.badCount - 1
          else window.badCount }
    else { window with len := window.len + 1 }
  { evicted with
    overBudget := evicted.overBudget.set evicted.next overBudget
    badCount := if overBudget then evicted.badCount + 1 else evicted.badCount
    next := (evicted.next + 1) % capacity }

/-- An evaluation that finds enough observations over budget. -/
def evaluateBad (nowUs : ℕ) (policy : HealthWindowPolicy) (window : HealthWindow) :
    HealthWindow × HealthTransition :=
  let started := window.badStartedUs.getD nowUs
  let running := { window with healthyStartedUs := none, badStartedUs := some started }
  if !window.degraded && decide (policy.degradeHoldUs ≤ nowUs - started) then
    ({ running with degraded := true }, .enteredDegraded)
  else (running, .none)

/-- An evaluation that finds fewer observations over budget. -/
def evaluateHealthy (nowUs : ℕ) (policy : HealthWindowPolicy) (window : HealthWindow) :
    HealthWindow × HealthTransition :=
  let cleared := { window with badStartedUs := none }
  if window.degraded then
    let started := window.healthyStartedUs.getD nowUs
    if policy.recoveryHoldUs ≤ nowUs - started then
      ({ cleared with degraded := false, healthyStartedUs := none }, .recovered)
    else ({ cleared with healthyStartedUs := some started }, .none)
  else ({ cleared with healthyStartedUs := none }, .none)

/-- Observe whether a sample was over budget. -/
def observe (capacity : ℕ) (overBudget : Bool) (nowUs : ℕ) (policy : HealthWindowPolicy)
    (window : HealthWindow) : HealthWindow × HealthTransition :=
  if capacity = 0 ∨ policy.minimumSamples = 0 ∨ policy.badSampleCount = 0 then
    (default capacity, .none)
  else
    let recorded := window.record capacity overBudget
    if recorded.len < min policy.minimumSamples capacity then
      ({ recorded with badStartedUs := none, healthyStartedUs := none }, .none)
    else if policy.badSampleCount ≤ recorded.badCount then recorded.evaluateBad nowUs policy
    else recorded.evaluateHealthy nowUs policy

/-- The window is degraded. -/
def isDegraded (window : HealthWindow) : Bool := window.degraded

end HealthWindow

/-- An observation: whether a sample was over budget, and when. -/
structure HealthSample where
  overBudget : Bool
  nowUs : ℕ
  deriving DecidableEq, Repr

section History

variable (capacity : ℕ) (policy : HealthWindowPolicy) (samples : List HealthSample)

/-- The window after some observations. -/
def windowAfter : HealthWindow :=
  samples.foldl (fun window sample =>
    (window.observe capacity sample.overBudget sample.nowUs policy).1)
    (HealthWindow.default capacity)

/-- The transition of an observation, after those before it. -/
def transitionAt (index : ℕ) : HealthTransition :=
  match samples[index]? with
  | some sample =>
    ((windowAfter capacity policy (samples.take index)).observe capacity sample.overBudget
      sample.nowUs policy).2
  | none => .none

/-- The transitions of the observations, in their order. -/
def transitions : List HealthTransition :=
  ((List.range samples.length).map (transitionAt capacity policy samples)).filter
    (· ≠ HealthTransition.none)

/-- The number of samples over budget among the last ones of a window after some calls. -/
def overBudgetAfter (calls : ℕ) : ℕ :=
  countLast capacity ((samples.take calls).map HealthSample.overBudget)

/-- The time of an observation. -/
def timeAt (index : ℕ) : ℕ :=
  (samples[index]?).elim 0 HealthSample.nowUs

/-- An observation is evaluated: there are enough samples. -/
def EvaluatedAt (index : ℕ) : Prop :=
  index < samples.length ∧ min policy.minimumSamples capacity ≤ min (index + 1) capacity

/-- An evaluation finds enough samples over budget. -/
def BadAt (index : ℕ) : Prop :=
  EvaluatedAt capacity policy samples index ∧
    policy.badSampleCount ≤ overBudgetAfter capacity samples (index + 1)

/-- An evaluation finds fewer samples over budget. -/
def HealthyAt (index : ℕ) : Prop :=
  EvaluatedAt capacity policy samples index ∧
    overBudgetAfter capacity samples (index + 1) < policy.badSampleCount

/-- The window is degraded after some calls. -/
def DegradedAfter (calls : ℕ) : Prop :=
  (windowAfter capacity policy (samples.take calls)).isDegraded = true

/-- An observation is the first one, of those that are ready, in a maximal run of a property whose
first evaluation is long enough before. -/
def FirstHeld (P ready : ℕ → Prop) (holdUs index : ℕ) : Prop :=
  ∃ first, RunFrom P first index ∧ ready index ∧
    timeAt samples first + holdUs ≤ timeAt samples index ∧
      ∀ earlier, first ≤ earlier → earlier < index →
        ¬(ready earlier ∧ timeAt samples first + holdUs ≤ timeAt samples earlier)

/-- Transitions that enter the degraded state first, and then recover and enter it in turn. -/
def alternating (count : ℕ) : List HealthTransition :=
  (List.range count).map fun index =>
    if index % 2 = 0 then .enteredDegraded else .recovered

end History

/-- What a transition makes of the state. -/
def HealthTransition.next (degraded : Bool) : HealthTransition → Bool
  | .none => degraded
  | .enteredDegraded => true
  | .recovered => false

section Window

variable {capacity nowUs : ℕ} {policy : HealthWindowPolicy} {window : HealthWindow} {overBudget : Bool}

@[simp] theorem record_degraded : (window.record capacity overBudget).degraded = window.degraded := by
  unfold HealthWindow.record
  split <;> rfl

@[simp] theorem record_badStartedUs :
    (window.record capacity overBudget).badStartedUs = window.badStartedUs := by
  unfold HealthWindow.record
  split <;> rfl

@[simp] theorem record_healthyStartedUs :
    (window.record capacity overBudget).healthyStartedUs = window.healthyStartedUs := by
  unfold HealthWindow.record
  split <;> rfl

/-- An evaluation over budget can only enter the degraded state. -/
theorem evaluateBad_degraded :
    (window.evaluateBad nowUs policy).1.degraded =
        (window.evaluateBad nowUs policy).2.next window.degraded ∧
      (window.evaluateBad nowUs policy).2 ≠ .recovered ∧
        ((window.evaluateBad nowUs policy).2 = .enteredDegraded → window.degraded = false) := by
  unfold HealthWindow.evaluateBad
  cases hdegraded : window.degraded
  · dsimp only
    split <;> simp [HealthTransition.next]
  · simp [HealthTransition.next]

/-- An evaluation below the budget can only recover. -/
theorem evaluateHealthy_degraded :
    (window.evaluateHealthy nowUs policy).1.degraded =
        (window.evaluateHealthy nowUs policy).2.next window.degraded ∧
      (window.evaluateHealthy nowUs policy).2 ≠ .enteredDegraded ∧
        ((window.evaluateHealthy nowUs policy).2 = .recovered → window.degraded = true) := by
  unfold HealthWindow.evaluateHealthy
  cases hdegraded : window.degraded
  · simp [HealthTransition.next]
  · dsimp only
    rw [if_pos rfl]
    split <;> simp [HealthTransition.next]

end Window

section Ring

variable {capacity : ℕ} {window : HealthWindow} {values : List Bool} {overBudget : Bool}

/-- What the ring and the counts of a window are after some observations. -/
structure Recorded (capacity : ℕ) (values : List Bool) (window : HealthWindow) : Prop where
  ringLength : window.overBudget.length = capacity
  ring : HoldsLast window.overBudget values
  next : window.next = values.length % capacity
  len : window.len = min values.length capacity
  badCount : window.badCount = countLast capacity values

/-- An empty window has no observations. -/
theorem recorded_default (capacity : ℕ) : Recorded capacity [] (HealthWindow.default capacity) where
  ringLength := List.length_replicate
  ring index hindex _ := absurd hindex (Nat.not_lt_zero index)
  next := (Nat.zero_mod capacity).symm
  len := (Nat.zero_min capacity).symm
  badCount := by simp [countLast, HealthWindow.default]

/-- The count after an observation. -/
theorem Recorded.badCount_record (h : Recorded capacity values window) (hcapacity : 0 < capacity) :
    (window.record capacity overBudget).badCount = countLast capacity (values ++ [overBudget]) := by
  have hadded (count : ℕ) : (if overBudget = true then count + 1 else count) =
      count + overBudget.toNat := by
    cases overBudget <;> rfl
  unfold HealthWindow.record
  dsimp only
  rw [hadded, h.len]
  rcases Nat.lt_or_ge values.length capacity with hroom | hfull
  · have hlen : min values.length capacity ≠ capacity := by omega
    rw [if_neg hlen, countLast_push_of_room hroom, ← h.badCount]
  · -- the place that is written holds the oldest of the last observations
    have hlen : min values.length capacity = capacity := by omega
    have hplace := h.ring.oldest (by rw [h.ringLength]; exact hcapacity)
      (by rw [h.ringLength]; exact hfull)
    obtain ⟨oldest, holdest⟩ : ∃ oldest, values[values.length - capacity]? = some oldest :=
      ⟨_, List.getElem?_eq_getElem (by omega)⟩
    rw [h.ringLength, ← h.next, holdest] at hplace
    have hcount := countLast_push_of_full hfull holdest overBudget
    rw [if_pos hlen, List.getD_eq_getElem?_getD, hplace, Option.getD_some]
    dsimp only
    rw [h.badCount]
    cases oldest with
    | true =>
      rw [Bool.toNat_true] at hcount
      have hpositive : 0 < countLast capacity values := by
        have hfirst : (values.drop (values.length - capacity))[0]? = some true := by
          rw [List.getElem?_drop, Nat.add_zero]
          exact holdest
        exact List.count_pos_iff.mpr (List.mem_of_getElem? hfirst)
      rw [if_pos rfl]
      omega
    | false =>
      rw [Bool.toNat_false] at hcount
      rw [if_neg Bool.false_ne_true]
      omega

/-- An observation is recorded after those before it. -/
theorem Recorded.record (h : Recorded capacity values window) (hcapacity : 0 < capacity) :
    Recorded capacity (values ++ [overBudget]) (window.record capacity overBudget) := by
  have hfields : (window.record capacity overBudget).overBudget =
        window.overBudget.set window.next overBudget ∧
      (window.record capacity overBudget).next = (window.next + 1) % capacity ∧
        (window.record capacity overBudget).len =
          if window.len = capacity then window.len else window.len + 1 := by
    unfold HealthWindow.record
    split <;> exact ⟨rfl, rfl, rfl⟩
  obtain ⟨hring, hnext, hlen⟩ := hfields
  constructor
  · rw [hring, List.length_set]
    exact h.ringLength
  · have hpush := h.ring.push overBudget
    rw [h.ringLength, ← h.next] at hpush
    rw [hring]
    exact hpush
  · rw [hnext, h.next, List.length_append, List.length_singleton, Nat.mod_add_mod]
  · rw [hlen, h.len, List.length_append, List.length_singleton]
    split <;> omega
  · exact h.badCount_record hcapacity

end Ring

section Runs

variable {capacity : ℕ} {policy : HealthWindowPolicy} {samples : List HealthSample}
  {window : HealthWindow} {sample : HealthSample} {calls nowUs : ℕ} {P : ℕ → Prop}
  {started : Option ℕ}

/-- The beginning that is kept after some calls is the one of the run that the last call is in. -/
def StartedAt (P : ℕ → Prop) (samples : List HealthSample) (calls : ℕ) : Option ℕ → Prop
  | none => ∀ index, index + 1 = calls → ¬P index
  | some startedUs =>
    ∃ first last, last + 1 = calls ∧ RunFrom P first last ∧ timeAt samples first = startedUs

/-- A run that goes on keeps its beginning, and another one begins now. -/
theorem StartedAt.succ (h : StartedAt P samples calls started) (hP : P calls) :
    StartedAt P samples (calls + 1) (some (started.getD (timeAt samples calls))) := by
  cases started with
  | none => exact ⟨calls, calls, rfl, RunFrom.start h hP, rfl⟩
  | some startedUs =>
    obtain ⟨first, last, hlast, hrun, htime⟩ := h
    subst hlast
    exact ⟨first, last + 1, rfl, hrun.extend hP, htime⟩

/-- The beginning that is kept tells whether the run has been long enough. -/
theorem held_iff {startedUs holdUs : ℕ} (h : StartedAt P samples (calls + 1) (some startedUs))
    (htimes : ∀ first ≤ calls, timeAt samples first ≤ timeAt samples calls) :
    holdUs ≤ timeAt samples calls - startedUs ↔
      ∃ first, RunFrom P first calls ∧ timeAt samples first + holdUs ≤ timeAt samples calls := by
  obtain ⟨first, last, hlast, hrun, rfl⟩ := h
  obtain rfl : last = calls := by omega
  have hle := htimes first hrun.le
  constructor
  · intro hhold
    exact ⟨first, hrun, by omega⟩
  · rintro ⟨other, hother, hhold⟩
    rw [hother.unique hrun] at hhold
    omega

/-- What a window knows of the observations after some calls. -/
structure WindowTracks (capacity : ℕ) (policy : HealthWindowPolicy) (samples : List HealthSample)
    (calls : ℕ) (window : HealthWindow) : Prop where
  recorded : Recorded capacity ((samples.take calls).map HealthSample.overBudget) window
  badStarted : StartedAt (BadAt capacity policy samples) samples calls window.badStartedUs
  healthyStarted : window.degraded = true →
    StartedAt (HealthyAt capacity policy samples) samples calls window.healthyStartedUs
  notDegraded : window.degraded = false → window.healthyStartedUs = none

/-- A call adds its observation to those before it. -/
theorem map_take_succ (hsample : samples[calls]? = some sample) :
    (samples.take (calls + 1)).map HealthSample.overBudget =
      (samples.take calls).map HealthSample.overBudget ++ [sample.overBudget] := by
  rw [List.take_add_one, hsample, List.map_append]
  rfl

/-- A call observes after the calls before it. -/
theorem windowAfter_succ (hsample : samples[calls]? = some sample) :
    windowAfter capacity policy (samples.take (calls + 1)) =
      ((windowAfter capacity policy (samples.take calls)).observe capacity sample.overBudget
        sample.nowUs policy).1 := by
  unfold windowAfter
  rw [List.take_add_one, hsample, List.foldl_append]
  rfl

/-- An empty window knows that there are no observations. -/
theorem tracks_zero : WindowTracks capacity policy samples 0 (HealthWindow.default capacity) where
  recorded := recorded_default capacity
  badStarted index hindex := absurd hindex (Nat.succ_ne_zero index)
  healthyStarted hdegraded := absurd hdegraded Bool.false_ne_true
  notDegraded _ := rfl

/-- What a window has recorded does not depend on its state. -/
theorem Recorded.of_state {values : List Bool} (h : Recorded capacity values window)
    (degraded : Bool) (bad healthy : Option ℕ) :
    Recorded capacity values { window with
      degraded := degraded
      badStartedUs := bad
      healthyStartedUs := healthy } :=
  ⟨h.ringLength, h.ring, h.next, h.len, h.badCount⟩

/-- A bad evaluation is no healthy one. -/
theorem not_healthy_of_bad (hbad : BadAt capacity policy samples calls) (index : ℕ)
    (hindex : index + 1 = calls + 1) : ¬HealthyAt capacity policy samples index := by
  intro hhealthy
  rw [Nat.succ.inj hindex] at hhealthy
  exact absurd hhealthy.2 (Nat.not_lt.mpr hbad.2)

/-- A healthy evaluation is no bad one. -/
theorem not_bad_of_healthy (hhealthy : HealthyAt capacity policy samples calls) (index : ℕ)
    (hindex : index + 1 = calls + 1) : ¬BadAt capacity policy samples index := by
  intro hbad
  rw [Nat.succ.inj hindex] at hbad
  exact absurd hhealthy.2 (Nat.not_lt.mpr hbad.2)

/-- A bad evaluation enters the degraded state when its run is long enough. -/
theorem evaluateBad_tracks (hbad : BadAt capacity policy samples calls)
    (hrecorded : Recorded capacity ((samples.take (calls + 1)).map HealthSample.overBudget) window)
    (hstarted : StartedAt (BadAt capacity policy samples) samples calls window.badStartedUs)
    (htimes : ∀ first ≤ calls, timeAt samples first ≤ timeAt samples calls)
    (hnow : timeAt samples calls = nowUs) :
    WindowTracks capacity policy samples (calls + 1) (window.evaluateBad nowUs policy).1 ∧
      ((window.evaluateBad nowUs policy).2 = .enteredDegraded ↔
        window.degraded = false ∧ ∃ first, RunFrom (BadAt capacity policy samples) first calls ∧
          timeAt samples first + policy.degradeHoldUs ≤ timeAt samples calls) := by
  have hnext := hstarted.succ hbad
  have hheld := @held_iff samples calls _ _ policy.degradeHoldUs hnext htimes
  have hunhealthy : StartedAt (HealthyAt capacity policy samples) samples (calls + 1) none :=
    not_healthy_of_bad hbad
  rw [hnow] at hnext
  rw [← hheld, hnow]
  unfold HealthWindow.evaluateBad
  cases hdegraded : window.degraded with
  | false =>
    dsimp only
    by_cases hlong : policy.degradeHoldUs ≤ nowUs - window.badStartedUs.getD nowUs
    · rw [if_pos (by simp [hlong])]
      exact ⟨⟨hrecorded.of_state _ _ _, hnext, fun _ => hunhealthy, fun _ => rfl⟩,
        iff_of_true rfl ⟨rfl, hlong⟩⟩
    · rw [if_neg (by simp [hlong])]
      refine ⟨⟨hrecorded.of_state _ _ _, hnext, fun _ => hunhealthy, fun _ => rfl⟩, ?_⟩
      simp [hlong]
  | true =>
    rw [if_neg (by simp)]
    refine ⟨⟨hrecorded.of_state _ _ _, hnext, fun _ => hunhealthy, fun _ => rfl⟩, ?_⟩
    simp

/-- A healthy evaluation recovers when its run is long enough. -/
theorem evaluateHealthy_tracks (hhealthy : HealthyAt capacity policy samples calls)
    (hrecorded : Recorded capacity ((samples.take (calls + 1)).map HealthSample.overBudget) window)
    (hstarted : window.degraded = true →
      StartedAt (HealthyAt capacity policy samples) samples calls window.healthyStartedUs)
    (htimes : ∀ first ≤ calls, timeAt samples first ≤ timeAt samples calls)
    (hnow : timeAt samples calls = nowUs) :
    WindowTracks capacity policy samples (calls + 1) (window.evaluateHealthy nowUs policy).1 ∧
      ((window.evaluateHealthy nowUs policy).2 = .recovered ↔
        window.degraded = true ∧ ∃ first, RunFrom (HealthyAt capacity policy samples) first calls ∧
          timeAt samples first + policy.recoveryHoldUs ≤ timeAt samples calls) := by
  have hgood : StartedAt (BadAt capacity policy samples) samples (calls + 1) none :=
    not_bad_of_healthy hhealthy
  unfold HealthWindow.evaluateHealthy
  cases hdegraded : window.degraded with
  | false =>
    rw [if_neg Bool.false_ne_true]
    refine ⟨⟨hrecorded.of_state _ _ _, hgood, ?_, fun _ => rfl⟩, ?_⟩
    · intro hstill
      cases hstill
    · simp
  | true =>
    have hnext := (hstarted hdegraded).succ hhealthy
    have hheld := @held_iff samples calls _ _ policy.recoveryHoldUs hnext htimes
    rw [hnow] at hnext
    rw [← hheld, hnow, if_pos rfl]
    dsimp only
    by_cases hlong : policy.recoveryHoldUs ≤ nowUs - window.healthyStartedUs.getD nowUs
    · rw [if_pos hlong]
      refine ⟨⟨hrecorded.of_state _ _ _, hgood, ?_, fun _ => rfl⟩, iff_of_true rfl ⟨rfl, hlong⟩⟩
      intro hstill
      cases hstill
    · rw [if_neg hlong]
      refine ⟨⟨hrecorded.of_state _ _ _, hgood, fun _ => hnext, ?_⟩, ?_⟩
      · intro hstill
        cases hstill
      · simp [hlong]

/-- What a call does to a window that knows the observations before it. -/
theorem observe_tracks (hcapacity : 0 < capacity) (hminimum : 0 < policy.minimumSamples)
    (hbad : 0 < policy.badSampleCount)
    (htimes : ∀ first ≤ calls, timeAt samples first ≤ timeAt samples calls)
    (hsample : samples[calls]? = some sample) (h : WindowTracks capacity policy samples calls window) :
    WindowTracks capacity policy samples (calls + 1)
        (window.observe capacity sample.overBudget sample.nowUs policy).1 ∧
      ((window.observe capacity sample.overBudget sample.nowUs policy).2 = .enteredDegraded ↔
        window.degraded = false ∧ ∃ first, RunFrom (BadAt capacity policy samples) first calls ∧
          timeAt samples first + policy.degradeHoldUs ≤ timeAt samples calls) ∧
      ((window.observe capacity sample.overBudget sample.nowUs policy).2 = .recovered ↔
        window.degraded = true ∧ ∃ first, RunFrom (HealthyAt capacity policy samples) first calls ∧
          timeAt samples first + policy.recoveryHoldUs ≤ timeAt samples calls) := by
  obtain ⟨hcalls, -⟩ := List.getElem?_eq_some_iff.mp hsample
  have hnow : timeAt samples calls = sample.nowUs := by
    rw [timeAt, hsample]
    rfl
  have hrecorded := @Recorded.record _ _ _ sample.overBudget h.recorded hcapacity
  rw [← map_take_succ hsample] at hrecorded
  have hlength : ((samples.take (calls + 1)).map HealthSample.overBudget).length = calls + 1 := by
    rw [List.length_map, List.length_take_of_le hcalls]
  have hlen := hrecorded.len
  have hbadCount : (window.record capacity sample.overBudget).badCount =
      overBudgetAfter capacity samples (calls + 1) := hrecorded.badCount
  rw [hlength] at hlen
  have hpositive : ¬(capacity = 0 ∨ policy.minimumSamples = 0 ∨ policy.badSampleCount = 0) := by
    omega
  unfold HealthWindow.observe
  rw [if_neg hpositive]
  dsimp only
  by_cases hfew : min (calls + 1) capacity < min policy.minimumSamples capacity
  · have hnot : ∀ index, index + 1 = calls + 1 → ¬EvaluatedAt capacity policy samples index := by
      intro index hindex hevaluated
      rw [Nat.succ.inj hindex] at hevaluated
      exact absurd hevaluated.2 (Nat.not_le.mpr hfew)
    rw [if_pos (by rw [hlen]; exact hfew)]
    refine ⟨⟨hrecorded.of_state _ _ _, ?_, fun _ => ?_, fun _ => rfl⟩, ?_, ?_⟩
    · exact fun index hindex hbadAt => hnot index hindex hbadAt.1
    · exact fun index hindex hhealthy => hnot index hindex hhealthy.1
    · refine iff_of_false HealthTransition.noConfusion ?_
      rintro ⟨-, first, hrun, -⟩
      exact hnot calls rfl (hrun.all calls hrun.le (Nat.le_refl calls)).1
    · refine iff_of_false HealthTransition.noConfusion ?_
      rintro ⟨-, first, hrun, -⟩
      exact hnot calls rfl (hrun.all calls hrun.le (Nat.le_refl calls)).1
  · have hevaluated : EvaluatedAt capacity policy samples calls := ⟨hcalls, by omega⟩
    rw [if_neg (by rw [hlen]; exact hfew)]
    by_cases hmany : policy.badSampleCount ≤ overBudgetAfter capacity samples (calls + 1)
    · have hbadAt : BadAt capacity policy samples calls := ⟨hevaluated, hmany⟩
      have hstep := @evaluateBad_tracks capacity policy samples _ calls sample.nowUs hbadAt
        hrecorded (by rw [record_badStartedUs]; exact h.badStarted) htimes hnow
      rw [record_degraded] at hstep
      rw [if_pos (by rw [hbadCount]; exact hmany)]
      refine ⟨hstep.1, hstep.2, iff_of_false evaluateBad_degraded.2.1 ?_⟩
      rintro ⟨-, first, hrun, -⟩
      exact not_healthy_of_bad hbadAt calls rfl (hrun.all calls hrun.le (Nat.le_refl calls))
    · have hhealthy : HealthyAt capacity policy samples calls := ⟨hevaluated, Nat.not_le.mp hmany⟩
      have hstep := @evaluateHealthy_tracks capacity policy samples _ calls sample.nowUs hhealthy
        hrecorded (by rw [record_healthyStartedUs, record_degraded]; exact h.healthyStarted)
        htimes hnow
      rw [record_degraded] at hstep
      rw [if_neg (by rw [hbadCount]; exact hmany)]
      refine ⟨hstep.1, iff_of_false evaluateHealthy_degraded.2.1 ?_, hstep.2⟩
      rintro ⟨-, first, hrun, -⟩
      exact not_bad_of_healthy hhealthy calls rfl (hrun.all calls hrun.le (Nat.le_refl calls))

/-- The state after a call follows from its transition. -/
theorem observe_degraded (hcapacity : 0 < capacity) (hminimum : 0 < policy.minimumSamples)
    (hbad : 0 < policy.badSampleCount) (overBudget : Bool) :
    (window.observe capacity overBudget nowUs policy).1.degraded =
      (window.observe capacity overBudget nowUs policy).2.next window.degraded := by
  have hpositive : ¬(capacity = 0 ∨ policy.minimumSamples = 0 ∨ policy.badSampleCount = 0) := by
    omega
  unfold HealthWindow.observe
  rw [if_neg hpositive]
  dsimp only
  split
  · exact @record_degraded capacity window overBudget
  · split
    · rw [evaluateBad_degraded.1, record_degraded]
    · rw [evaluateHealthy_degraded.1, record_degraded]

/-- While a property lasts, a state that is ready turns when the run has been long enough, and stays
turned. So it turns at the first call that is ready and late enough. -/
theorem firstHeld_iff {degraded : ℕ → Bool} {turned : Bool} {turns : ℕ → Prop} {holdUs index : ℕ}
    (hturns : ∀ call ≤ index, turns call ↔ degraded call = !turned ∧
      ∃ first, RunFrom P first call ∧ timeAt samples first + holdUs ≤ timeAt samples call)
    (hturned : ∀ call ≤ index, turns call → degraded (call + 1) = turned)
    (hstays : ∀ call ≤ index, P call → degraded call = turned → degraded (call + 1) = turned) :
    turns index ↔ FirstHeld samples P (fun call => degraded call = !turned) holdUs index := by
  constructor
  · intro hturn
    obtain ⟨hready, first, hrun, hheld⟩ := (hturns index (Nat.le_refl index)).mp hturn
    refine ⟨first, hrun, hready, hheld, ?_⟩
    rintro earlier hfirst hearlier ⟨hearlierReady, hearlierHeld⟩
    have hearlierRun := hrun.shorten hfirst (Nat.le_of_lt hearlier)
    have hearlierTurn := (hturns earlier (Nat.le_of_lt hearlier)).mpr
      ⟨hearlierReady, first, hearlierRun, hearlierHeld⟩
    -- from the earlier call on, the state is turned
    have hall : ∀ call, earlier + 1 ≤ call → call ≤ index → degraded call = turned := by
      intro call hcall
      induction call, hcall using Nat.le_induction with
      | base =>
        intro _
        exact hturned earlier (Nat.le_of_lt hearlier) hearlierTurn
      | succ call hcall ih =>
        intro hle
        exact hstays call (by omega) (hrun.all call (by omega) (by omega)) (ih (by omega))
    rw [hall index hearlier (Nat.le_refl index)] at hready
    cases turned <;> cases hready
  · rintro ⟨first, hrun, hready, hheld, -⟩
    exact (hturns index (Nat.le_refl index)).mpr ⟨hready, first, hrun, hheld⟩

end Runs

section Hysteresis

variable {capacity : ℕ} {policy : HealthWindowPolicy} {samples : List HealthSample}

/-- The observations are in the order of their times. -/
theorem timeAt_mono (htimes : samples.Pairwise fun earlier later => earlier.nowUs ≤ later.nowUs)
    {first last : ℕ} (hle : first ≤ last) (hlast : last < samples.length) :
    timeAt samples first ≤ timeAt samples last := by
  rw [timeAt, timeAt, List.getElem?_eq_getElem hlast, List.getElem?_eq_getElem (by omega)]
  rcases Nat.lt_or_ge first last with hlt | hge
  · exact List.pairwise_iff_getElem.mp htimes first last (by omega) hlast hlt
  · obtain rfl : first = last := by omega
    exact Nat.le_refl _

variable (hcapacity : 0 < capacity) (hminimum : 0 < policy.minimumSamples)
  (hbad : 0 < policy.badSampleCount)
  (htimes : samples.Pairwise fun earlier later => earlier.nowUs ≤ later.nowUs)

include hcapacity hminimum hbad htimes

/-- A window knows the observations after any calls. -/
theorem tracks_windowAfter {calls : ℕ} (hcalls : calls ≤ samples.length) :
    WindowTracks capacity policy samples calls (windowAfter capacity policy (samples.take calls)) := by
  induction calls with
  | zero => exact tracks_zero
  | succ calls ih =>
    have hsample := List.getElem?_eq_getElem (Nat.lt_of_succ_le hcalls)
    rw [windowAfter_succ hsample]
    exact (observe_tracks hcapacity hminimum hbad
      (fun first hfirst => timeAt_mono htimes hfirst hcalls) hsample (ih (by omega))).1

/-- A call enters the degraded state when it is not degraded and a bad run is long enough. -/
theorem transitionAt_entered {index : ℕ} (hindex : index < samples.length) :
    transitionAt capacity policy samples index = .enteredDegraded ↔
      (windowAfter capacity policy (samples.take index)).isDegraded = false ∧
        ∃ first, RunFrom (BadAt capacity policy samples) first index ∧
          timeAt samples first + policy.degradeHoldUs ≤ timeAt samples index := by
  have hsample := List.getElem?_eq_getElem hindex
  have htracks := tracks_windowAfter hcapacity hminimum hbad htimes (Nat.le_of_lt hindex)
  unfold transitionAt
  rw [hsample]
  exact (observe_tracks hcapacity hminimum hbad
    (fun first hfirst => timeAt_mono htimes hfirst hindex) hsample htracks).2.1

/-- A call recovers when it is degraded and a healthy run is long enough. -/
theorem transitionAt_recovered {index : ℕ} (hindex : index < samples.length) :
    transitionAt capacity policy samples index = .recovered ↔
      (windowAfter capacity policy (samples.take index)).isDegraded = true ∧
        ∃ first, RunFrom (HealthyAt capacity policy samples) first index ∧
          timeAt samples first + policy.recoveryHoldUs ≤ timeAt samples index := by
  have hsample := List.getElem?_eq_getElem hindex
  have htracks := tracks_windowAfter hcapacity hminimum hbad htimes (Nat.le_of_lt hindex)
  unfold transitionAt
  rw [hsample]
  exact (observe_tracks hcapacity hminimum hbad
    (fun first hfirst => timeAt_mono htimes hfirst hindex) hsample htracks).2.2

omit htimes in
/-- The state after a call follows from its transition. -/
theorem isDegraded_succ {index : ℕ} (hindex : index < samples.length) :
    (windowAfter capacity policy (samples.take (index + 1))).isDegraded =
      (transitionAt capacity policy samples index).next
        (windowAfter capacity policy (samples.take index)).isDegraded := by
  have hsample := List.getElem?_eq_getElem hindex
  unfold transitionAt
  rw [windowAfter_succ hsample, hsample]
  exact observe_degraded hcapacity hminimum hbad _

/-- A call enters the degraded state exactly when it is the first one, while it is not degraded, in
a bad run that is long enough. -/
theorem entered_iff_firstHeld {index : ℕ} (hindex : index < samples.length) :
    transitionAt capacity policy samples index = .enteredDegraded ↔
      FirstHeld samples (BadAt capacity policy samples)
        (fun calls => ¬DegradedAfter capacity policy samples calls) policy.degradeHoldUs index := by
  have hready : (fun calls => ¬DegradedAfter capacity policy samples calls) = fun calls =>
      (windowAfter capacity policy (samples.take calls)).isDegraded = !true := by
    funext calls
    unfold DegradedAfter
    rw [Bool.not_eq_true, Bool.not_true]
  rw [hready]
  apply @firstHeld_iff samples _ (fun calls =>
    (windowAfter capacity policy (samples.take calls)).isDegraded) true
    fun call => transitionAt capacity policy samples call = .enteredDegraded
  · intro call hcall
    exact transitionAt_entered hcapacity hminimum hbad htimes (by omega)
  · intro call hcall hentered
    rw [isDegraded_succ hcapacity hminimum hbad (by omega), hentered]
    rfl
  · intro call hcall hbadAt hdegraded
    have hstill := isDegraded_succ hcapacity hminimum hbad (show call < samples.length by omega)
    rw [hstill, hdegraded]
    cases htransition : transitionAt capacity policy samples call with
    | none => rfl
    | enteredDegraded => rfl
    | recovered =>
      obtain ⟨-, first, hrun, -⟩ := (transitionAt_recovered hcapacity hminimum hbad htimes
        (show call < samples.length by omega)).mp htransition
      have hhealthy := hrun.all call hrun.le (Nat.le_refl call)
      exact absurd hhealthy (not_healthy_of_bad hbadAt call rfl)

/-- A call recovers exactly when it is the first one, while it is degraded, in a healthy run that is
long enough. -/
theorem recovered_iff_firstHeld {index : ℕ} (hindex : index < samples.length) :
    transitionAt capacity policy samples index = .recovered ↔
      FirstHeld samples (HealthyAt capacity policy samples)
        (DegradedAfter capacity policy samples) policy.recoveryHoldUs index := by
  apply @firstHeld_iff samples _ (fun calls =>
    (windowAfter capacity policy (samples.take calls)).isDegraded) false
    fun call => transitionAt capacity policy samples call = .recovered
  · intro call hcall
    exact transitionAt_recovered hcapacity hminimum hbad htimes (by omega)
  · intro call hcall hrecovered
    rw [isDegraded_succ hcapacity hminimum hbad (by omega), hrecovered]
    rfl
  · intro call hcall hhealthy hdegraded
    have hstill := isDegraded_succ hcapacity hminimum hbad (show call < samples.length by omega)
    rw [hstill, hdegraded]
    cases htransition : transitionAt capacity policy samples call with
    | none => rfl
    | recovered => rfl
    | enteredDegraded =>
      obtain ⟨-, first, hrun, -⟩ := (transitionAt_entered hcapacity hminimum hbad htimes
        (show call < samples.length by omega)).mp htransition
      have hbadAt := hrun.all call hrun.le (Nat.le_refl call)
      exact absurd hbadAt (not_bad_of_healthy hhealthy call rfl)

omit hcapacity hminimum hbad htimes in
/-- The transitions of the first calls are the first transitions. -/
theorem transitions_take {calls : ℕ} (hcalls : calls ≤ samples.length) :
    transitions capacity policy (samples.take calls) =
      ((List.range calls).map (transitionAt capacity policy samples)).filter
        (· ≠ HealthTransition.none) := by
  unfold transitions
  rw [List.length_take_of_le hcalls]
  congr 1
  apply List.map_congr_left
  intro index hindex
  have hlt := List.mem_range.mp hindex
  unfold transitionAt
  rw [List.getElem?_take_of_lt hlt, List.take_take, Nat.min_eq_left (Nat.le_of_lt hlt)]

/-- The transitions alternate, and the window is degraded after an odd number of them. -/
theorem transitions_alternate {calls : ℕ} (hcalls : calls ≤ samples.length) :
    transitions capacity policy (samples.take calls) =
        alternating (transitions capacity policy (samples.take calls)).length ∧
      (DegradedAfter capacity policy samples calls ↔
        (transitions capacity policy (samples.take calls)).length % 2 = 1) := by
  induction calls with
  | zero =>
    rw [transitions_take (Nat.zero_le _)]
    refine ⟨rfl, iff_of_false ?_ (by simp)⟩
    exact Bool.false_ne_true
  | succ calls ih =>
    obtain ⟨halternate, hodd⟩ := ih (by omega)
    have hindex : calls < samples.length := by omega
    have hnext := isDegraded_succ hcapacity hminimum hbad hindex
    have hgrow : transitions capacity policy (samples.take (calls + 1)) =
        transitions capacity policy (samples.take calls) ++
          [transitionAt capacity policy samples calls].filter (· ≠ HealthTransition.none) := by
      rw [transitions_take hcalls, transitions_take (Nat.le_of_lt hindex), List.range_succ,
        List.map_append, List.filter_append]
      rfl
    have hmore (count : ℕ) : alternating (count + 1) =
        alternating count ++ [if count % 2 = 0 then .enteredDegraded else .recovered] := by
      unfold alternating
      rw [List.range_succ, List.map_append]
      rfl
    unfold DegradedAfter at hodd ⊢
    rw [hgrow, hnext]
    cases htransition : transitionAt capacity policy samples calls with
    | none =>
      rw [List.filter_cons_of_neg (by decide), List.filter_nil, List.append_nil]
      exact ⟨halternate, hodd⟩
    | enteredDegraded =>
      have hready := ((transitionAt_entered hcapacity hminimum hbad htimes hindex).mp htransition).1
      have heven : (transitions capacity policy (samples.take calls)).length % 2 = 0 := by
        rw [hready] at hodd
        have hnot := mt hodd.mpr Bool.false_ne_true
        omega
      rw [List.filter_cons_of_pos (by decide), List.filter_nil, List.length_append,
        List.length_singleton, hmore, if_pos heven, ← halternate]
      exact ⟨rfl, iff_of_true rfl (by omega)⟩
    | recovered =>
      have hready := ((transitionAt_recovered hcapacity hminimum hbad htimes hindex).mp
        htransition).1
      have heven := hodd.mp hready
      rw [List.filter_cons_of_pos (by decide), List.filter_nil, List.length_append,
        List.length_singleton, hmore, if_neg (by omega), ← halternate]
      exact ⟨rfl, iff_of_false Bool.false_ne_true (by omega)⟩

end Hysteresis

/-- After any calls the count is that of the last observations. A call enters the degraded state
exactly when it is the first one, while not degraded, in a maximal run of bad evaluations that began
long enough before, and recovers exactly when it is the first one, while degraded, in a maximal run of
healthy evaluations that began long enough before. So the transitions alternate, and the window is
degraded exactly between them. -/
theorem health_hysteresis {capacity : ℕ} {policy : HealthWindowPolicy}
    {samples : List HealthSample} (hcapacity : 0 < capacity) (hminimum : 0 < policy.minimumSamples)
    (hbad : 0 < policy.badSampleCount)
    (htimes : samples.Pairwise fun earlier later => earlier.nowUs ≤ later.nowUs) :
    (∀ calls ≤ samples.length, (windowAfter capacity policy (samples.take calls)).badCount =
      overBudgetAfter capacity samples calls) ∧
    (∀ index < samples.length, transitionAt capacity policy samples index = .enteredDegraded ↔
      FirstHeld samples (BadAt capacity policy samples)
        (fun calls => ¬DegradedAfter capacity policy samples calls) policy.degradeHoldUs index) ∧
    (∀ index < samples.length, transitionAt capacity policy samples index = .recovered ↔
      FirstHeld samples (HealthyAt capacity policy samples)
        (DegradedAfter capacity policy samples) policy.recoveryHoldUs index) ∧
    ∀ calls ≤ samples.length,
      transitions capacity policy (samples.take calls) =
          alternating (transitions capacity policy (samples.take calls)).length ∧
        (DegradedAfter capacity policy samples calls ↔
          (transitions capacity policy (samples.take calls)).length % 2 = 1) := by
  refine ⟨?_, ?_, ?_, ?_⟩
  · intro calls hcalls
    exact (tracks_windowAfter hcapacity hminimum hbad htimes hcalls).recorded.badCount
  · intro index hindex
    exact entered_iff_firstHeld hcapacity hminimum hbad htimes hindex
  · intro index hindex
    exact recovered_iff_firstHeld hcapacity hminimum hbad htimes hindex
  · intro calls hcalls
    exact transitions_alternate hcapacity hminimum hbad htimes hcalls

/-- A window of four samples of which two may not be over budget, held for ten and for twenty. -/
def shortHolds : HealthWindowPolicy := ⟨4, 2, 10, 20⟩

/-- Four observations over budget, and later ones that are not. -/
def slowThenFast : List HealthSample :=
  [⟨true, 0⟩, ⟨true, 1⟩, ⟨true, 2⟩, ⟨true, 3⟩, ⟨false, 20⟩, ⟨false, 30⟩, ⟨false, 40⟩, ⟨false, 50⟩,
    ⟨false, 70⟩]

/-- The window is entered with the fifth observation and recovers with the last one. -/
theorem health_hysteresis_slow_then_fast :
    transitionAt 4 shortHolds slowThenFast 4 = .enteredDegraded ∧
      transitions 4 shortHolds slowThenFast = [.enteredDegraded, .recovered] ∧
        FirstHeld slowThenFast (HealthyAt 4 shortHolds slowThenFast)
          (DegradedAfter 4 shortHolds slowThenFast) 20 8 := by
  have h := @health_hysteresis 4 shortHolds slowThenFast (by decide) (by decide) (by decide)
    (by decide)
  exact ⟨by decide, by decide, (h.2.2.1 8 (by decide)).mp (by decide)⟩

end SkyAutoPlayer.Player
