import Mathlib.Data.Fintype.Card
import Mathlib.Logic.Function.Basic

/-!
# Epoch and rundown

An entrant captures an even epoch, counts itself in flight, and stays inside only if the epoch is
still the one it captured. A closer makes the epoch odd, waits until nobody is in flight, and may
then open the next even epoch. The in-flight counter wraps at a capacity that exceeds the number of
threads, and closers exclude each other by a mutex.

After a closer has seen nobody in flight nobody is inside, and whoever enters later has captured a
later epoch.
-/

namespace SkyAutoPlayer.Foundation

/-- What a thread is doing with the epoch. -/
inductive EpochRole where
  | outside
  | captured (epoch : ℕ)
  | counted (epoch : ℕ)
  | inside (epoch : ℕ)
  | holding
  | closing (closed : ℕ)
  | draining (closed : ℕ)
  | drained (closed : ℕ)
  | releasing
  deriving DecidableEq, Repr

/-- Whether a thread counts itself in flight. -/
def EpochRole.inFlight : EpochRole → Bool
  | .counted _ | .inside _ => true
  | _ => false

/-- Whether a thread holds the closers' mutex. -/
def EpochRole.holds : EpochRole → Bool
  | .holding | .closing _ | .draining _ | .drained _ | .releasing => true
  | _ => false

/-- An epoch with its entrants and closers. -/
structure EpochRundown (ι : Type) where
  epoch : ℕ
  inFlight : ℕ
  holder : Option ι
  role : ι → EpochRole

namespace EpochRundown

variable {ι : Type} [DecidableEq ι] {capacity : ℕ}

/-- Give a thread its next role. -/
def assign (rundown : EpochRundown ι) (thread : ι) (role : EpochRole) : EpochRundown ι :=
  { rundown with role := Function.update rundown.role thread role }

/-- One step of the protocol. -/
inductive Step (capacity : ℕ) (rundown : EpochRundown ι) : EpochRundown ι → Prop where
  | capture (thread : ι) (hrole : rundown.role thread = .outside) (heven : rundown.epoch % 2 = 0) :
    Step capacity rundown (rundown.assign thread (.captured rundown.epoch))
  | count (thread : ι) (epoch : ℕ) (hrole : rundown.role thread = .captured epoch) :
    Step capacity rundown { rundown.assign thread (.counted epoch) with
      inFlight := (rundown.inFlight + 1) % capacity }
  | validate (thread : ι) (hrole : rundown.role thread = .counted rundown.epoch) :
    Step capacity rundown (rundown.assign thread (.inside rundown.epoch))
  | leave (thread : ι) (hrole : (rundown.role thread).inFlight = true) :
    Step capacity rundown { rundown.assign thread .outside with
      inFlight := if rundown.inFlight = 0 then capacity - 1 else rundown.inFlight - 1 }
  | lock (thread : ι) (hrole : rundown.role thread = .outside) (hfree : rundown.holder = none) :
    Step capacity rundown { rundown.assign thread .holding with holder := some thread }
  | load (thread : ι) (hrole : rundown.role thread = .holding) :
    Step capacity rundown (rundown.assign thread
      (.closing (if rundown.epoch % 2 = 0 then rundown.epoch + 1 else rundown.epoch)))
  | close (thread : ι) (closed : ℕ) (hrole : rundown.role thread = .closing closed) :
    Step capacity rundown { rundown.assign thread (.draining closed) with epoch := closed }
  | drain (thread : ι) (closed : ℕ) (hrole : rundown.role thread = .draining closed)
      (hempty : rundown.inFlight = 0) :
    Step capacity rundown (rundown.assign thread (.drained closed))
  | openNext (thread : ι) (closed : ℕ) (hrole : rundown.role thread = .drained closed) :
    Step capacity rundown { rundown.assign thread .releasing with epoch := closed + 1 }
  | finish (thread : ι) (closed : ℕ) (hrole : rundown.role thread = .drained closed) :
    Step capacity rundown (rundown.assign thread .releasing)
  | unlock (thread : ι) (hrole : rundown.role thread = .releasing) :
    Step capacity rundown { rundown.assign thread .outside with holder := none }

/-- The threads in flight. -/
def flying [Fintype ι] (role : ι → EpochRole) : Finset ι :=
  Finset.univ.filter fun thread => (role thread).inFlight = true

/-- The protocol's invariant. -/
structure Sound [Fintype ι] (rundown : EpochRundown ι) : Prop where
  count : rundown.inFlight = (flying rundown.role).card
  holder : ∀ thread, (rundown.role thread).holds = true → rundown.holder = some thread
  even : ∀ thread epoch, rundown.role thread = .captured epoch ∨
    rundown.role thread = .counted epoch ∨ rundown.role thread = .inside epoch → epoch % 2 = 0
  inside : ∀ thread epoch, rundown.role thread = .inside epoch → rundown.epoch = epoch ∨
    rundown.epoch = epoch + 1 ∧ ∃ closer, rundown.role closer = .draining (epoch + 1)
  closing : ∀ thread closed, rundown.role thread = .closing closed →
    closed % 2 = 1 ∧ (closed = rundown.epoch ∨ closed = rundown.epoch + 1)
  closed : ∀ thread closed, rundown.role thread = .draining closed ∨
    rundown.role thread = .drained closed → closed % 2 = 1 ∧ rundown.epoch = closed
  drained : ∀ thread closed, rundown.role thread = .drained closed →
    ∀ other epoch, rundown.role other ≠ .inside epoch

variable {rundown next : EpochRundown ι}

variable [Fintype ι]

omit [DecidableEq ι] in
/-- A thread is in flight when its role is. -/
theorem mem_flying {role : ι → EpochRole} {thread : ι} :
    thread ∈ flying role ↔ (role thread).inFlight = true := by
  rw [flying, Finset.mem_filter]
  exact and_iff_right (Finset.mem_univ thread)

/-- The threads in flight after an assignment. -/
theorem flying_assign (thread : ι) (role : EpochRole) :
    flying (rundown.assign thread role).role =
      if role.inFlight then insert thread (flying rundown.role)
      else (flying rundown.role).erase thread := by
  ext other
  rw [mem_flying]
  by_cases hother : other = thread
  · subst hother
    by_cases hrole : role.inFlight = true <;> simp [assign, hrole]
  · by_cases hrole : role.inFlight = true <;> simp [assign, hrole, hother, mem_flying]

/-- An assignment that keeps a thread in or out of flight keeps the number in flight. -/
theorem card_flying_assign_same {thread : ι} {role : EpochRole}
    (h : (rundown.role thread).inFlight = role.inFlight) :
    (flying (rundown.assign thread role).role).card = (flying rundown.role).card := by
  have hmem : thread ∈ flying rundown.role ↔ role.inFlight = true := by rw [mem_flying, h]
  rw [flying_assign]
  by_cases hrole : role.inFlight = true
  · rw [if_pos hrole, Finset.insert_eq_of_mem (hmem.mpr hrole)]
  · rw [if_neg hrole, Finset.erase_eq_of_notMem (mt hmem.mp hrole)]

/-- Counting a thread in adds one. -/
theorem card_flying_enter {thread : ι} {role : EpochRole}
    (hout : (rundown.role thread).inFlight = false) (hin : role.inFlight = true) :
    (flying (rundown.assign thread role).role).card = (flying rundown.role).card + 1 := by
  rw [flying_assign, if_pos hin, Finset.card_insert_of_notMem]
  simp [mem_flying, hout]

/-- Counting a thread out removes one. -/
theorem card_flying_leave {thread : ι} {role : EpochRole}
    (hin : (rundown.role thread).inFlight = true) (hout : role.inFlight = false) :
    (flying (rundown.assign thread role).role).card + 1 = (flying rundown.role).card := by
  rw [flying_assign, if_neg (by simp [hout])]
  exact Finset.card_erase_add_one (mem_flying.mpr hin)

/-- The counter keeps counting the threads in flight, which are fewer than its capacity. -/
theorem Sound.count_step (h : rundown.Sound) (hcapacity : Fintype.card ι < capacity)
    (hstep : Step capacity rundown next) : next.inFlight = (flying next.role).card := by
  have hbound : ∀ role : ι → EpochRole, (flying role).card < capacity :=
    fun role => (Finset.card_le_univ _).trans_lt hcapacity
  have hsame : ∀ thread role, (rundown.role thread).inFlight = role.inFlight →
      rundown.inFlight = (flying (rundown.assign thread role).role).card := by
    intro thread role hrole
    rw [card_flying_assign_same hrole]
    exact h.count
  cases hstep with
  | capture thread hrole _ => exact hsame thread _ (by rw [hrole]; rfl)
  | count thread epoch hrole =>
    have hcard := @card_flying_enter _ _ rundown _ thread (.counted epoch) (by rw [hrole]; rfl) rfl
    have hlt := hbound (rundown.assign thread (.counted epoch)).role
    change (rundown.inFlight + 1) % capacity = _
    rw [h.count, ← hcard, Nat.mod_eq_of_lt hlt]
  | validate thread hrole => exact hsame thread _ (by rw [hrole]; rfl)
  | leave thread hrole =>
    have hcard := @card_flying_leave _ _ rundown _ thread .outside hrole rfl
    have hpositive : rundown.inFlight ≠ 0 := by
      rw [h.count]
      omega
    change (if rundown.inFlight = 0 then capacity - 1 else rundown.inFlight - 1) =
      (flying (rundown.assign thread .outside).role).card
    rw [if_neg hpositive, h.count]
    omega
  | lock thread hrole _ => exact hsame thread _ (by rw [hrole]; rfl)
  | load thread hrole => exact hsame thread _ (by rw [hrole]; rfl)
  | close thread closed hrole => exact hsame thread _ (by rw [hrole]; rfl)
  | drain thread closed hrole _ => exact hsame thread _ (by rw [hrole]; rfl)
  | openNext thread closed hrole => exact hsame thread _ (by rw [hrole]; rfl)
  | finish thread closed hrole => exact hsame thread _ (by rw [hrole]; rfl)
  | unlock thread hrole => exact hsame thread _ (by rw [hrole]; rfl)

omit [DecidableEq ι] in
/-- Only one thread holds the mutex. -/
theorem Sound.holder_unique (h : rundown.Sound) {first second : ι}
    (hfirst : (rundown.role first).holds = true) (hsecond : (rundown.role second).holds = true) :
    first = second :=
  Option.some.inj ((h.holder first hfirst).symm.trans (h.holder second hsecond))

omit [DecidableEq ι] in
/-- With nobody in flight nobody is inside. -/
theorem Sound.not_inside (h : rundown.Sound) (hempty : rundown.inFlight = 0) (thread : ι)
    (epoch : ℕ) : rundown.role thread ≠ .inside epoch := by
  intro hinside
  have hmem : thread ∈ flying rundown.role := mem_flying.mpr (by rw [hinside]; rfl)
  have hcard := Finset.card_pos.mpr ⟨thread, hmem⟩
  have hcount := h.count
  omega

/-- One step keeps the mutex with its holder. -/
theorem Sound.holder_step (h : rundown.Sound) (hstep : Step capacity rundown next) :
    ∀ thread, (next.role thread).holds = true → next.holder = some thread := by
  have hholder := h.holder
  cases hstep with
  | lock thread hrole hfree => simp only [assign, Function.update_apply]; grind
  | _ => simp only [assign, Function.update_apply]; grind [EpochRole.holds]

/-- One step keeps captured epochs even. -/
theorem Sound.even_step (h : rundown.Sound) (hstep : Step capacity rundown next) :
    ∀ thread epoch, next.role thread = .captured epoch ∨ next.role thread = .counted epoch ∨
      next.role thread = .inside epoch → epoch % 2 = 0 := by
  have heven := h.even
  cases hstep with
  | _ => simp only [assign, Function.update_apply]; grind

/-- One step keeps whoever is inside in the current epoch, or in the one that is being drained. -/
theorem Sound.inside_step (h : rundown.Sound) (hstep : Step capacity rundown next) :
    ∀ thread epoch, next.role thread = .inside epoch → next.epoch = epoch ∨
      next.epoch = epoch + 1 ∧ ∃ closer, next.role closer = .draining (epoch + 1) := by
  have hinside := h.inside
  cases hstep with
  | close thread closed hrole =>
    -- whoever is inside captured the epoch that this closer now drains
    have heven := h.even
    have hclosing := h.closing thread closed hrole
    have hunique := fun other => @Sound.holder_unique _ rundown _ h thread other (by rw [hrole]; rfl)
    simp only [assign, Function.update_apply]
    grind [EpochRole.holds]
  | drain thread closed hrole hzero =>
    have hnobody := h.not_inside hzero
    simp only [assign, Function.update_apply]
    grind
  | openNext thread closed hrole =>
    have hnobody := h.drained thread closed hrole
    simp only [assign, Function.update_apply]
    grind
  | _ => simp only [assign, Function.update_apply]; grind [EpochRole.inFlight]

/-- One step keeps a closer's epoch odd, and at most one ahead. -/
theorem Sound.closing_step (h : rundown.Sound) (hstep : Step capacity rundown next) :
    ∀ thread closed, next.role thread = .closing closed →
      closed % 2 = 1 ∧ (closed = next.epoch ∨ closed = next.epoch + 1) := by
  have hclosing := h.closing
  have hunique := fun first second => @Sound.holder_unique _ rundown _ h first second
  cases hstep with
  | _ => simp only [assign, Function.update_apply]; grind [EpochRole.holds]

/-- One step keeps a drained epoch current. -/
theorem Sound.closed_step (h : rundown.Sound) (hstep : Step capacity rundown next) :
    ∀ thread closed, next.role thread = .draining closed ∨ next.role thread = .drained closed →
      closed % 2 = 1 ∧ next.epoch = closed := by
  have hclosed := h.closed
  have hclosing := h.closing
  have hunique := fun first second => @Sound.holder_unique _ rundown _ h first second
  cases hstep with
  | _ => simp only [assign, Function.update_apply]; grind [EpochRole.holds]

/-- One step keeps everybody outside a drained epoch. -/
theorem Sound.drained_step (h : rundown.Sound) (hstep : Step capacity rundown next) :
    ∀ thread closed, next.role thread = .drained closed →
      ∀ other epoch, next.role other ≠ .inside epoch := by
  have hdrained := h.drained
  cases hstep with
  | validate thread hrole =>
    -- the captured epoch is even, so no closer has closed it
    have hopen : rundown.epoch % 2 = 0 := h.even thread _ (Or.inr (Or.inl hrole))
    have hnone : ∀ other closed, rundown.role other ≠ .drained closed := by
      intro other closed hother
      have hodd := h.closed other closed (Or.inr hother)
      omega
    simp only [assign, Function.update_apply]
    grind
  | drain thread closed hrole hzero =>
    have hnobody := h.not_inside hzero
    simp only [assign, Function.update_apply]
    grind
  | _ => simp only [assign, Function.update_apply]; grind

/-- One step keeps the invariant. -/
theorem Sound.step (h : rundown.Sound) (hcapacity : Fintype.card ι < capacity)
    (hstep : Step capacity rundown next) : next.Sound where
  count := h.count_step hcapacity hstep
  holder := h.holder_step hstep
  even := h.even_step hstep
  inside := h.inside_step hstep
  closing := h.closing_step hstep
  closed := h.closed_step hstep
  drained := h.drained_step hstep

/-- Once a closer has drained an epoch, whoever is inside captured a later one. -/
structure Drained (closed : ℕ) (rundown : EpochRundown ι) : Prop where
  odd : closed % 2 = 1
  passed : closed ≤ rundown.epoch
  inside : ∀ thread epoch, rundown.role thread = .inside epoch → closed < epoch

omit [DecidableEq ι] in
/-- A closer that sees nobody in flight has drained its epoch. -/
theorem Sound.drained_of_empty (h : rundown.Sound) {thread : ι} {closed : ℕ}
    (hrole : rundown.role thread = .draining closed) (hempty : rundown.inFlight = 0) :
    rundown.Drained closed where
  odd := (h.closed thread closed (Or.inl hrole)).1
  passed := (h.closed thread closed (Or.inl hrole)).2.ge
  inside other epoch hother := absurd hother (h.not_inside hempty other epoch)

/-- A drained epoch stays drained. -/
theorem Drained.step {closed : ℕ} (h : rundown.Drained closed) (hsound : rundown.Sound)
    (hstep : Step capacity rundown next) : next.Drained closed := by
  obtain ⟨hodd, hpassed, hinside⟩ := h
  obtain ⟨-, -, heven, -, hclosing, hclosed, -⟩ := hsound
  cases hstep with
  | validate thread hrole =>
    -- the validated epoch is even, and the drained one is odd and no later
    have hopen : rundown.epoch % 2 = 0 := heven thread _ (Or.inr (Or.inl hrole))
    refine ⟨hodd, hpassed, ?_⟩
    simp only [assign, Function.update_apply]
    grind
  | close thread other hrole =>
    have hlater := hclosing thread other hrole
    refine ⟨hodd, ?_, ?_⟩ <;> simp only [assign, Function.update_apply] <;> grind
  | openNext thread other hrole =>
    have hsame := hclosed thread other (Or.inr hrole)
    refine ⟨hodd, ?_, ?_⟩ <;> simp only [assign, Function.update_apply] <;> grind
  | _ =>
    refine ⟨hodd, hpassed, ?_⟩
    simp only [assign, Function.update_apply]
    grind

end EpochRundown

end SkyAutoPlayer.Foundation
