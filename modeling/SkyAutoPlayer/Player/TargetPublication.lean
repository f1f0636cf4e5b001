import Mathlib.Order.Basic
import SkyAutoPlayer.Player.SessionTarget

/-!
# Coherent target snapshots

The publication epoch never decreases, and while it stays even the published pair stays. So a load
between equal even epochs returns the pair that stands published at its last read, and since the
epoch is poisoned before its counter or the generation could wrap, no generation is published twice.
-/

namespace SkyAutoPlayer.Player

open Foundation

namespace TargetSession

open SessionTarget

variable {ι : Type} {first : ℕ} {thread : ι} {target next : SessionTarget ι}

/-- The generation that is published with an even epoch. -/
def epochGeneration (first epoch : ℕ) : ℕ := (first + epoch / 2) % 2 ^ 64

/-- The next publication has the next generation. -/
theorem epochGeneration_add_two (first epoch : ℕ) :
    epochGeneration first (epoch + 2) = (epochGeneration first epoch + 1) % 2 ^ 64 := by
  unfold epochGeneration
  omega

/-- Different even epochs have different generations. -/
theorem epoch_eq_of_generation {epoch later : ℕ} (hepoch : epoch % 2 = 0) (hlater : later % 2 = 0)
    (hbound : epoch ≤ 2 ^ 64 - 1) (hlaterBound : later ≤ 2 ^ 64 - 1)
    (h : epochGeneration first epoch = epochGeneration first later) : epoch = later := by
  unfold epochGeneration at h
  omega

/-- A stable epoch stands with its generation. -/
structure Coherent (first : ℕ) (target : SessionTarget ι) : Prop where
  epoch_le : target.publicationEpoch ≤ 2 ^ 64 - 1
  generation : target.publicationEpoch % 2 = 0 →
    target.targetGeneration = epochGeneration first target.publicationEpoch

/-- The epoch never decreases, and the pair of an even epoch stays. -/
structure Follows (before after : SessionTarget ι) : Prop where
  epoch : before.publicationEpoch ≤ after.publicationEpoch
  pair : before.publicationEpoch = after.publicationEpoch → before.publicationEpoch % 2 = 0 →
    after.targetHwnd = before.targetHwnd ∧ after.targetGeneration = before.targetGeneration

/-- What a thread must leave alone while another one holds the publishers' mutex. -/
structure Untouched (before after : SessionTarget ι) : Prop where
  writer : after.writer = before.writer
  publicationEpoch : after.publicationEpoch = before.publicationEpoch
  targetHwnd : after.targetHwnd = before.targetHwnd
  targetGeneration : after.targetGeneration = before.targetGeneration
  ownerPid : after.ownerPid = before.ownerPid
  ownerGeneration : after.ownerGeneration = before.ownerGeneration
  ownerLive : after.ownerLive = true → before.ownerLive = true

/-- Nothing changes. -/
theorem Follows.refl (target : SessionTarget ι) : Follows target target :=
  ⟨le_rfl, fun _ _ => ⟨rfl, rfl⟩⟩

/-- The epochs only advance. -/
theorem Follows.trans {before between after : SessionTarget ι} (h : Follows before between)
    (hafter : Follows between after) : Follows before after := by
  refine ⟨h.epoch.trans hafter.epoch, fun hsame heven => ?_⟩
  have hfirst : before.publicationEpoch = between.publicationEpoch :=
    le_antisymm h.epoch (hsame ▸ hafter.epoch)
  have hpair := h.pair hfirst heven
  have hlater := hafter.pair (hfirst ▸ hsame) (hfirst ▸ heven)
  exact ⟨hlater.1.trans hpair.1, hlater.2.trans hpair.2⟩

/-- Nothing is touched. -/
theorem Untouched.refl (target : SessionTarget ι) : Untouched target target :=
  ⟨rfl, rfl, rfl, rfl, rfl, rfl, id⟩

/-- What a step may do to the published pair: nothing, withdraw it, or announce a window. -/
def Announces (hwnd : Option ℤ) (before after : SessionTarget ι) : Prop :=
  after.published = before.published ∨ after.published = none ∨
    before.published = none ∧ hwnd = some after.targetHwnd

/-- The same epoch and pair are published. -/
theorem published_congr (hepoch : next.publicationEpoch = target.publicationEpoch)
    (hhwnd : next.targetHwnd = target.targetHwnd)
    (hgeneration : next.targetGeneration = target.targetGeneration) :
    next.published = target.published := by
  rw [published, published, hepoch, hhwnd, hgeneration]

/-- An odd epoch publishes nothing. -/
theorem published_of_odd (h : target.publicationEpoch % 2 ≠ 0) : target.published = none :=
  if_neg h

/-- A published pair has an even epoch. -/
theorem published_eq_some {pair : ℤ × ℕ} (h : target.published = some pair) :
    target.publicationEpoch % 2 = 0 ∧ target.targetHwnd = pair.1 ∧
      target.targetGeneration = pair.2 := by
  unfold published at h
  split at h
  · rename_i heven
    obtain rfl := Option.some.inj h
    exact ⟨heven, rfl, rfl⟩
  · cases h

/-- What a publisher knows at its program point. -/
def PublishReady (first : ℕ) (thread : ι) (hwnd : ℤ) (target : SessionTarget ι) :
    PublishPoint → Prop
  | .lock => True
  | .compareHwnd | .loadEpoch | .poison | .unlock _ => target.writer = some thread
  | .storeInProgress stableEpoch =>
    target.writer = some thread ∧ target.publicationEpoch = stableEpoch ∧
      stableEpoch % 2 = 0 ∧ stableEpoch ≤ 2 ^ 64 - 4
  | .storeFailure stableEpoch | .storeLive stableEpoch | .storeHwnd stableEpoch =>
    target.writer = some thread ∧ target.publicationEpoch = stableEpoch + 1 ∧
      stableEpoch % 2 = 0 ∧ stableEpoch ≤ 2 ^ 64 - 4 ∧
      target.targetGeneration = epochGeneration first stableEpoch
  | .addGeneration stableEpoch =>
    target.writer = some thread ∧ target.publicationEpoch = stableEpoch + 1 ∧
      stableEpoch % 2 = 0 ∧ stableEpoch ≤ 2 ^ 64 - 4 ∧
      target.targetGeneration = epochGeneration first stableEpoch ∧ target.targetHwnd = hwnd
  | .storeStable stableEpoch =>
    target.writer = some thread ∧ target.publicationEpoch = stableEpoch + 1 ∧
      stableEpoch % 2 = 0 ∧ stableEpoch ≤ 2 ^ 64 - 4 ∧
      target.targetGeneration = epochGeneration first (stableEpoch + 2) ∧
      target.targetHwnd = hwnd

/-- A binder holds the publishers' mutex at every program point but its first. -/
def BindReady (thread : ι) (target : SessionTarget ι) : BindPoint → Prop
  | .lock => True
  | _ => target.writer = some thread

/-- What a loader knows at its program point: while the epoch stays, the pair is the one read. -/
def LoadReady (target : SessionTarget ι) : LoadPoint → Prop
  | .epochStart => True
  | .hwnd firstEpoch => firstEpoch % 2 = 0 ∧ firstEpoch ≤ target.publicationEpoch
  | .generation firstEpoch hwnd =>
    firstEpoch % 2 = 0 ∧ firstEpoch ≤ target.publicationEpoch ∧
      (firstEpoch = target.publicationEpoch → target.targetHwnd = hwnd)
  | .epochEnd firstEpoch hwnd generation =>
    firstEpoch % 2 = 0 ∧ firstEpoch ≤ target.publicationEpoch ∧
      (firstEpoch = target.publicationEpoch →
        target.targetHwnd = hwnd ∧ target.targetGeneration = generation)

/-- What one atomic step does to the target, whoever makes it. -/
structure Steps (first : ℕ) (thread : ι) (hwnd : Option ℤ) (before after : SessionTarget ι) :
    Prop where
  coherent : Coherent first after
  follows : Follows before after
  announces : Announces hwnd before after
  untouched : ∀ other, other ≠ thread → before.writer = some other → Untouched before after

/-- A step that leaves the target alone. -/
theorem Steps.refl (hcoherent : Coherent first target) (hwnd : Option ℤ) :
    Steps first thread hwnd target target :=
  ⟨hcoherent, Follows.refl target, Or.inl rfl, fun _ _ _ => Untouched.refl target⟩

/-- A step that keeps the epoch and the pair. -/
theorem Steps.of_same (hcoherent : Coherent first target) {hwnd : Option ℤ}
    (hepoch : next.publicationEpoch = target.publicationEpoch)
    (hhwnd : next.targetHwnd = target.targetHwnd)
    (hgeneration : next.targetGeneration = target.targetGeneration)
    (huntouched : ∀ other, other ≠ thread → target.writer = some other → Untouched target next) :
    Steps first thread hwnd target next where
  coherent := ⟨hepoch ▸ hcoherent.epoch_le, fun heven => by
    rw [hepoch, hgeneration]
    exact hcoherent.generation (hepoch ▸ heven)⟩
  follows := ⟨hepoch.ge, fun _ _ => ⟨hhwnd, hgeneration⟩⟩
  announces := Or.inl (published_congr hepoch hhwnd hgeneration)
  untouched := huntouched

/-- Whoever holds the mutex need not leave it alone. -/
theorem untouched_of_writer (h : target.writer = some thread) :
    ∀ other, other ≠ thread → target.writer = some other → Untouched target next := by
  intro other hother hwriter
  exact absurd (Option.some.inj (hwriter.symm.trans h)) hother

/-- What a publisher's step does. -/
theorem publish_steps {hwnd : ℤ} {forceGeneration : Bool} {point : PublishPoint}
    {outcome : PublishPoint ⊕ Bool} (hcoherent : Coherent first target)
    (h : PublishReady first thread hwnd target point)
    (hstep : publishStep thread hwnd forceGeneration target point = some (next, outcome)) :
    Steps first thread (some hwnd) target next ∧
      ∀ later, outcome = .inl later → PublishReady first thread hwnd next later := by
  cases point with
  | lock =>
    simp only [publishStep] at hstep
    split at hstep
    · cases hstep
    · rename_i hfree
      obtain ⟨rfl, rfl⟩ := Prod.mk.inj (Option.some.inj hstep)
      refine ⟨.of_same hcoherent rfl rfl rfl fun other _ hwriter => ?_, fun later hlater => ?_⟩
      · rw [hwriter] at hfree
        exact absurd rfl hfree
      · obtain rfl := Sum.inl.inj hlater
        cases forceGeneration <;> exact rfl
  | compareHwnd =>
    obtain ⟨rfl, rfl⟩ := Prod.mk.inj (Option.some.inj hstep)
    refine ⟨.refl hcoherent _, fun later hlater => ?_⟩
    obtain rfl := Sum.inl.inj hlater
    split <;> exact h
  | loadEpoch =>
    obtain ⟨rfl, rfl⟩ := Prod.mk.inj (Option.some.inj hstep)
    refine ⟨.refl hcoherent _, fun later hlater => ?_⟩
    obtain rfl := Sum.inl.inj hlater
    split
    · exact h
    · exact ⟨h, rfl, by omega, by omega⟩
  | poison =>
    obtain ⟨rfl, rfl⟩ := Prod.mk.inj (Option.some.inj hstep)
    have hodd : (2 ^ 64 - 1) % 2 ≠ 0 := by decide
    refine ⟨⟨⟨le_rfl, fun heven => absurd heven hodd⟩, ⟨hcoherent.epoch_le, ?_⟩,
      Or.inr (Or.inl (published_of_odd hodd)), untouched_of_writer h⟩, fun later hlater => ?_⟩
    · intro hsame heven
      change target.publicationEpoch = 2 ^ 64 - 1 at hsame
      rw [hsame] at heven
      exact absurd heven hodd
    · obtain rfl := Sum.inl.inj hlater
      exact h
  | storeInProgress stableEpoch =>
    obtain ⟨rfl, rfl⟩ := Prod.mk.inj (Option.some.inj hstep)
    obtain ⟨hwriter, hepoch, heven, hbound⟩ := h
    have hodd : (stableEpoch + 1) % 2 ≠ 0 := by omega
    refine ⟨⟨⟨by dsimp only; omega, fun heven => absurd heven hodd⟩, ⟨by dsimp only; omega, ?_⟩,
      Or.inr (Or.inl (published_of_odd hodd)), untouched_of_writer hwriter⟩, fun later hlater => ?_⟩
    · intro hsame
      dsimp only at hsame
      omega
    · obtain rfl := Sum.inl.inj hlater
      exact ⟨hwriter, rfl, heven, hbound, hepoch ▸ hcoherent.generation (hepoch ▸ heven)⟩
  | storeFailure stableEpoch =>
    obtain ⟨rfl, rfl⟩ := Prod.mk.inj (Option.some.inj hstep)
    refine ⟨.of_same hcoherent rfl rfl rfl (untouched_of_writer h.1), fun later hlater => ?_⟩
    obtain rfl := Sum.inl.inj hlater
    exact h
  | storeLive stableEpoch =>
    obtain ⟨rfl, rfl⟩ := Prod.mk.inj (Option.some.inj hstep)
    refine ⟨.of_same hcoherent rfl rfl rfl (untouched_of_writer h.1), fun later hlater => ?_⟩
    obtain rfl := Sum.inl.inj hlater
    exact h
  | storeHwnd stableEpoch =>
    obtain ⟨rfl, rfl⟩ := Prod.mk.inj (Option.some.inj hstep)
    obtain ⟨hwriter, hepoch, heven, hbound, hgeneration⟩ := h
    have hodd : target.publicationEpoch % 2 ≠ 0 := by omega
    refine ⟨⟨⟨hcoherent.epoch_le, hcoherent.generation⟩, ⟨le_rfl, fun _ heven => absurd heven hodd⟩,
      Or.inr (Or.inl (published_of_odd hodd)), untouched_of_writer hwriter⟩, fun later hlater => ?_⟩
    obtain rfl := Sum.inl.inj hlater
    exact ⟨hwriter, hepoch, heven, hbound, hgeneration, rfl⟩
  | addGeneration stableEpoch =>
    obtain ⟨rfl, rfl⟩ := Prod.mk.inj (Option.some.inj hstep)
    obtain ⟨hwriter, hepoch, heven, hbound, hgeneration, hhwnd⟩ := h
    have hodd : target.publicationEpoch % 2 ≠ 0 := by omega
    refine ⟨⟨⟨hcoherent.epoch_le, fun heven => absurd heven hodd⟩,
      ⟨le_rfl, fun _ heven => absurd heven hodd⟩, Or.inr (Or.inl (published_of_odd hodd)),
      untouched_of_writer hwriter⟩, fun later hlater => ?_⟩
    obtain rfl := Sum.inl.inj hlater
    refine ⟨hwriter, hepoch, heven, hbound, ?_, hhwnd⟩
    rw [epochGeneration_add_two, ← hgeneration]
  | storeStable stableEpoch =>
    obtain ⟨rfl, rfl⟩ := Prod.mk.inj (Option.some.inj hstep)
    obtain ⟨hwriter, hepoch, heven, hbound, hgeneration, hhwnd⟩ := h
    have hodd : target.publicationEpoch % 2 ≠ 0 := by omega
    refine ⟨⟨⟨by dsimp only; omega, fun _ => hgeneration⟩, ⟨by dsimp only; omega, ?_⟩,
      Or.inr (Or.inr ⟨published_of_odd hodd, congrArg some hhwnd.symm⟩),
      untouched_of_writer hwriter⟩, fun later hlater => ?_⟩
    · intro hsame
      dsimp only at hsame
      omega
    · obtain rfl := Sum.inl.inj hlater
      exact hwriter
  | unlock published =>
    obtain ⟨rfl, rfl⟩ := Prod.mk.inj (Option.some.inj hstep)
    exact ⟨.of_same hcoherent rfl rfl rfl (untouched_of_writer h), nofun⟩

/-- A binder keeps the epoch and the published pair. -/
theorem bind_steps {hwnd : ℤ} {generation ownerPid : ℕ} {point : BindPoint}
    {outcome : BindPoint ⊕ Bool} {announced : Option ℤ} (hcoherent : Coherent first target)
    (h : BindReady thread target point)
    (hstep : bindOwnerIdentityStep thread hwnd generation ownerPid target point =
      some (next, outcome)) :
    Steps first thread announced target next ∧
      ∀ later, outcome = .inl later → BindReady thread next later := by
  cases point with
  | lock =>
    simp only [bindOwnerIdentityStep] at hstep
    split at hstep
    · obtain ⟨rfl, rfl⟩ := Prod.mk.inj (Option.some.inj hstep)
      exact ⟨.refl hcoherent _, nofun⟩
    · split at hstep
      · cases hstep
      · rename_i hfree
        obtain ⟨rfl, rfl⟩ := Prod.mk.inj (Option.some.inj hstep)
        refine ⟨.of_same hcoherent rfl rfl rfl fun other _ hwriter => ?_, fun later hlater => ?_⟩
        · rw [hwriter] at hfree
          exact absurd rfl hfree
        · obtain rfl := Sum.inl.inj hlater
          exact rfl
  | unlock bound =>
    obtain ⟨rfl, rfl⟩ := Prod.mk.inj (Option.some.inj hstep)
    exact ⟨.of_same hcoherent rfl rfl rfl (untouched_of_writer h), nofun⟩
  | _ =>
    obtain ⟨rfl, rfl⟩ := Prod.mk.inj (Option.some.inj hstep)
    refine ⟨.of_same hcoherent rfl rfl rfl (untouched_of_writer h), fun later hlater => ?_⟩
    obtain rfl := Sum.inl.inj hlater
    first
      | exact h
      | split <;> exact h

/-- An invalidation keeps the epoch, the published pair and the owner. -/
theorem invalidate_steps {point : InvalidatePoint} {announced : Option ℤ}
    (hcoherent : Coherent first target) :
    Steps first thread announced target (invalidateOwnerIdentityStep target point).1 := by
  cases point with
  | storeFailure failure =>
    exact .of_same hcoherent rfl rfl rfl fun _ _ _ => ⟨rfl, rfl, rfl, rfl, rfl, rfl, id⟩
  | storeLive =>
    exact .of_same hcoherent rfl rfl rfl fun _ _ _ => ⟨rfl, rfl, rfl, rfl, rfl, rfl, nofun⟩

/-- A loader's read keeps what it knows, and it returns only the pair that stands published. -/
theorem load_reads {point : LoadPoint} (h : LoadReady target point) :
    (∀ later, loadStableStep target point = .inl later → LoadReady target later) ∧
      ∀ pair, loadStableStep target point = .inr (some pair) →
        target.published = some pair := by
  cases point with
  | epochStart =>
    simp only [loadStableStep]
    split
    · exact ⟨nofun, nofun⟩
    · rename_i heven
      refine ⟨fun later hlater => ?_, nofun⟩
      obtain rfl := Sum.inl.inj hlater
      exact ⟨not_not.mp heven, le_rfl⟩
  | hwnd firstEpoch =>
    refine ⟨fun later hlater => ?_, nofun⟩
    obtain rfl := Sum.inl.inj hlater
    exact ⟨h.1, h.2, fun _ => rfl⟩
  | generation firstEpoch hwnd =>
    refine ⟨fun later hlater => ?_, nofun⟩
    obtain rfl := Sum.inl.inj hlater
    exact ⟨h.1, h.2.1, fun hsame => ⟨h.2.2 hsame, rfl⟩⟩
  | epochEnd firstEpoch hwnd generation =>
    refine ⟨nofun, fun pair hpair => ?_⟩
    have hloaded := Sum.inr.inj hpair
    split at hloaded
    · rename_i hstable
      obtain ⟨hhwnd, hgeneration⟩ := h.2.2 hstable.1
      rw [published, if_pos hstable.2, hhwnd, hgeneration]
      exact hloaded
    · cases hloaded

/-- The window that an operation announces. -/
def Op.publishes : Op → Option ℤ
  | .setTargetHwnd hwnd | .republishTargetGenerationForRevalidation hwnd => some hwnd
  | _ => none

/-- The operation that a load belongs to. -/
def LoadUse.Of (op : Op) : LoadUse → Prop
  | .loadStable => op = .loadStable
  | .isCurrent hwnd generation => op = .isCurrent hwnd generation
  | _ => True

/-- The pair for which a result vouches. -/
def vouched : Op → Result → Option (ℤ × ℕ)
  | _, .loaded target => target
  | .isCurrent hwnd generation, .current true => some (hwnd, generation)
  | _, _ => none

/-- What a call knows about the target at its program point. -/
def Ready (first : ℕ) (thread : ι) (op : Op) (target : SessionTarget ι) : Call → Prop
  | .publish hwnd _ point =>
    op.publishes = some hwnd ∧ PublishReady first thread hwnd target point
  | .load use point => use.Of op ∧ LoadReady target point
  | .bindOwner _ _ _ point => BindReady thread target point
  | _ => True

/-- What a loader knows survives every step. -/
theorem LoadReady.follow {point : LoadPoint} (h : LoadReady target point)
    (hfollows : Follows target next) : LoadReady next point := by
  have hsame : ∀ epoch, epoch ≤ target.publicationEpoch → epoch = next.publicationEpoch →
      epoch = target.publicationEpoch := fun epoch hle hlater =>
    le_antisymm hle (hlater ▸ hfollows.epoch)
  cases point with
  | epochStart => trivial
  | hwnd firstEpoch => exact ⟨h.1, h.2.trans hfollows.epoch⟩
  | generation firstEpoch hwnd =>
    obtain ⟨heven, hle, hhwnd⟩ := h
    refine ⟨heven, hle.trans hfollows.epoch, fun hlater => ?_⟩
    have hstill := hsame firstEpoch hle hlater
    rw [← hhwnd hstill]
    exact (hfollows.pair (hstill ▸ hlater) (hstill ▸ heven)).1
  | epochEnd firstEpoch hwnd generation =>
    obtain ⟨heven, hle, hpair⟩ := h
    refine ⟨heven, hle.trans hfollows.epoch, fun hlater => ?_⟩
    have hstill := hsame firstEpoch hle hlater
    have hkept := hfollows.pair (hstill ▸ hlater) (hstill ▸ heven)
    exact ⟨hkept.1.trans (hpair hstill).1, hkept.2.trans (hpair hstill).2⟩

/-- What a publisher knows survives the steps of the others. -/
theorem PublishReady.untouched {hwnd : ℤ} {point : PublishPoint}
    (h : PublishReady first thread hwnd target point)
    (huntouched : target.writer = some thread → Untouched target next) :
    PublishReady first thread hwnd next point := by
  cases point with
  | lock => trivial
  | compareHwnd => exact (huntouched h).writer.trans h
  | loadEpoch => exact (huntouched h).writer.trans h
  | poison => exact (huntouched h).writer.trans h
  | unlock published => exact (huntouched h).writer.trans h
  | _ =>
    have hkept := huntouched h.1
    simp only [PublishReady, hkept.writer, hkept.publicationEpoch, hkept.targetGeneration,
      hkept.targetHwnd]
    exact h

/-- What a binder knows survives the steps of the others. -/
theorem BindReady.untouched {point : BindPoint} (h : BindReady thread target point)
    (huntouched : target.writer = some thread → Untouched target next) :
    BindReady thread next point := by
  cases point with
  | lock => trivial
  | _ => exact (huntouched h).writer.trans h

/-- What a call knows survives the steps of the others. -/
theorem Ready.stable {other : ι} {op : Op} {announced : Option ℤ} {call : Call}
    (hother : thread ≠ other) (h : Ready first thread op target call)
    (hsteps : Steps first other announced target next) : Ready first thread op next call := by
  have huntouched := hsteps.untouched thread hother
  cases call with
  | publish hwnd forceGeneration point => exact ⟨h.1, h.2.untouched huntouched⟩
  | load use point => exact ⟨h.1, h.2.follow hsteps.follows⟩
  | bindOwner authority hwnd generation point => exact BindReady.untouched h huntouched
  | _ => trivial

/-- What follows a load vouches for nothing but the loaded pair. -/
theorem loaded_vouches {op : Op} {use : LoadUse} {pair : Option (ℤ × ℕ)} (h : use.Of op) :
    (∀ call, loaded use pair = .inl call → Ready first thread op target call) ∧
      ∀ result claimed, loaded use pair = .inr result → vouched op result = some claimed →
        pair = some claimed := by
  cases use with
  | loadStable =>
    refine ⟨nofun, fun result claimed hresult hvouched => ?_⟩
    obtain rfl := Sum.inr.inj hresult
    cases op <;> exact hvouched
  | isCurrent hwnd generation =>
    refine ⟨nofun, fun result claimed hresult hvouched => ?_⟩
    obtain rfl : op = .isCurrent hwnd generation := h
    obtain rfl := Sum.inr.inj hresult
    by_cases hpair : pair = some (hwnd, generation)
    · rw [hpair]
      rw [decide_eq_true hpair] at hvouched
      exact hvouched
    · rw [decide_eq_false hpair] at hvouched
      cases hvouched
  | bind authority =>
    cases pair with
    | none =>
      refine ⟨nofun, fun result claimed hresult hvouched => ?_⟩
      obtain rfl := Sum.inr.inj hresult
      cases op <;> cases hvouched
    | some pair =>
      simp only [loaded]
      split
      · refine ⟨nofun, fun result claimed hresult hvouched => ?_⟩
        obtain rfl := Sum.inr.inj hresult
        cases op <;> cases hvouched
      · refine ⟨fun call hcall => ?_, nofun⟩
        obtain rfl := Sum.inl.inj hcall
        trivial
  | poll retained =>
    cases pair with
    | none =>
      refine ⟨fun call hcall => ?_, nofun⟩
      obtain rfl := Sum.inl.inj hcall
      trivial
    | some pair =>
      simp only [loaded]
      split
      · refine ⟨fun call hcall => ?_, nofun⟩
        obtain rfl := Sum.inl.inj hcall
        trivial
      · refine ⟨fun call hcall => ?_, nofun⟩
        obtain rfl := Sum.inl.inj hcall
        trivial

/-- A result of another kind vouches for nothing. -/
theorem not_vouched {op : Op} {result : Result} {pair : ℤ × ℕ}
    (hloaded : ∀ target, result ≠ .loaded target) (hcurrent : ∀ current, result ≠ .current current) :
    vouched op result ≠ some pair := by
  cases result with
  | loaded target => exact absurd rfl (hloaded target)
  | current current => exact absurd rfl (hcurrent current)
  | _ => cases op <;> exact nofun

/-- What one atomic step of a call does to the target, and what its result vouches for. -/
theorem step_target {session later : TargetSession ι} {continuity : WindowIdentityContinuity}
    {op : Op} {call : Call} {outcome : Call ⊕ Result} (hcoherent : Coherent first session.target)
    (h : Ready first thread op session.target call)
    (hstep : step thread continuity call session = some (later, outcome)) :
    Steps first thread op.publishes session.target later.target ∧
      (∀ next, outcome = .inl next → Ready first thread op later.target next) ∧
      ∀ result pair, outcome = .inr result → vouched op result = some pair →
        session.target.published = some pair := by
  cases call with
  | publish hwnd forceGeneration point =>
    obtain ⟨⟨after, next⟩, hpoint, hafter⟩ := Option.map_eq_some_iff.mp hstep
    obtain ⟨rfl, rfl⟩ := Prod.mk.inj hafter
    obtain ⟨hsteps, hnext⟩ := publish_steps hcoherent h.2 hpoint
    rw [h.1]
    refine ⟨hsteps, ?_⟩
    cases next with
    | inl next => exact ⟨fun _ hlater => Sum.inl.inj hlater ▸ ⟨h.1, hnext next rfl⟩, nofun⟩
    | inr published =>
      refine ⟨nofun, fun result pair hresult hvouched => ?_⟩
      obtain rfl := Sum.inr.inj hresult
      cases op <;> cases hvouched
  | load use point =>
    obtain ⟨rfl, rfl⟩ := Prod.mk.inj (Option.some.inj hstep)
    obtain ⟨hreads, hloaded⟩ := load_reads h.2
    refine ⟨.refl hcoherent _, ?_⟩
    cases hpoint : loadStableStep session.target point with
    | inl next => exact ⟨fun _ hlater => Sum.inl.inj hlater ▸ ⟨h.1, hreads next hpoint⟩, nofun⟩
    | inr pair =>
      rw [hpoint] at hloaded
      obtain ⟨hnext, hvouches⟩ := @loaded_vouches ι first thread session.target op use pair h.1
      refine ⟨hnext, fun result claimed hresult hvouched => ?_⟩
      have hpair := hvouches result claimed hresult hvouched
      exact hloaded claimed (congrArg Sum.inr hpair)
  | status use point =>
    obtain ⟨rfl, rfl⟩ := Prod.mk.inj (Option.some.inj hstep)
    refine ⟨.refl hcoherent _, ?_⟩
    cases ownerIdentityStatusStep use.expectedGeneration session.target point with
    | inl next => exact ⟨fun _ hlater => Sum.inl.inj hlater ▸ trivial, nofun⟩
    | inr status =>
      cases use with
      | ownerIdentityStatus expected =>
        exact ⟨nofun, fun _ _ hresult hvouched =>
          absurd hvouched (not_vouched (Sum.inr.inj hresult ▸ nofun) (Sum.inr.inj hresult ▸ nofun))⟩
      | poll => exact ⟨fun _ hlater => Sum.inl.inj hlater ▸ trivial, nofun⟩
  | invalidate use point =>
    obtain ⟨rfl, rfl⟩ := Prod.mk.inj (Option.some.inj hstep)
    refine ⟨invalidate_steps hcoherent, ?_⟩
    cases (invalidateOwnerIdentityStep session.target point).2 with
    | inl next => exact ⟨fun _ hlater => Sum.inl.inj hlater ▸ trivial, nofun⟩
    | inr done =>
      cases use with
      | poll retained => exact ⟨fun _ hlater => Sum.inl.inj hlater ▸ trivial, nofun⟩
      | close taken =>
        exact ⟨nofun, fun _ _ hresult hvouched =>
          absurd hvouched (not_vouched (Sum.inr.inj hresult ▸ nofun) (Sum.inr.inj hresult ▸ nofun))⟩
  | bindOwner authority hwnd generation point =>
    obtain ⟨⟨after, next⟩, hpoint, hafter⟩ := Option.map_eq_some_iff.mp hstep
    obtain ⟨rfl, rfl⟩ := Prod.mk.inj hafter
    obtain ⟨hsteps, hnext⟩ := bind_steps hcoherent h hpoint
    refine ⟨hsteps, fun later hlater => ?_, nofun⟩
    obtain rfl := Sum.inl.inj hlater
    cases next with
    | inl next => exact hnext next rfl
    | inr bound => cases bound <;> trivial
  | bindLock authority hwnd generation =>
    simp only [step] at hstep
    split at hstep
    · cases hstep
    · obtain ⟨rfl, rfl⟩ := Prod.mk.inj (Option.some.inj hstep)
      exact ⟨.refl hcoherent _, fun _ hlater => Sum.inl.inj hlater ▸ trivial, nofun⟩
  | pollLock =>
    simp only [step] at hstep
    split at hstep
    · cases hstep
    · obtain ⟨rfl, rfl⟩ := Prod.mk.inj (Option.some.inj hstep)
      exact ⟨.refl hcoherent _, fun _ hlater => Sum.inl.inj hlater ▸ trivial, nofun⟩
  | closeLock =>
    simp only [step] at hstep
    split at hstep
    · cases hstep
    · obtain ⟨rfl, rfl⟩ := Prod.mk.inj (Option.some.inj hstep)
      exact ⟨.refl hcoherent _, fun _ hlater => Sum.inl.inj hlater ▸ trivial, nofun⟩
  | bindContinuity authority hwnd generation =>
    obtain ⟨rfl, rfl⟩ := Prod.mk.inj (Option.some.inj hstep)
    refine ⟨.refl hcoherent _, fun later hlater => ?_, nofun⟩
    obtain rfl := Sum.inl.inj hlater
    split <;> trivial
  | pollRetained =>
    obtain ⟨rfl, rfl⟩ := Prod.mk.inj (Option.some.inj hstep)
    refine ⟨.refl hcoherent _, fun later hlater => ?_, nofun⟩
    obtain rfl := Sum.inl.inj hlater
    cases session.windowIdentityAuthority with
    | none => trivial
    | some retained => exact ⟨trivial, trivial⟩
  | pollContinuity retained =>
    obtain ⟨rfl, rfl⟩ := Prod.mk.inj (Option.some.inj hstep)
    refine ⟨.refl hcoherent _, fun later hlater => ?_, nofun⟩
    obtain rfl := Sum.inl.inj hlater
    cases continuity <;> trivial
  | bindUnlock result =>
    obtain ⟨rfl, rfl⟩ := Prod.mk.inj (Option.some.inj hstep)
    exact ⟨.refl hcoherent _, nofun, fun _ _ hresult hvouched =>
      absurd hvouched (not_vouched (Sum.inr.inj hresult ▸ nofun) (Sum.inr.inj hresult ▸ nofun))⟩
  | pollUnlock answer invalidated =>
    obtain ⟨rfl, rfl⟩ := Prod.mk.inj (Option.some.inj hstep)
    exact ⟨.refl hcoherent _, nofun, fun _ _ hresult hvouched =>
      absurd hvouched (not_vouched (Sum.inr.inj hresult ▸ nofun) (Sum.inr.inj hresult ▸ nofun))⟩
  | bindRetain authority generation =>
    obtain ⟨rfl, rfl⟩ := Prod.mk.inj (Option.some.inj hstep)
    exact ⟨.refl hcoherent _, fun _ hlater => Sum.inl.inj hlater ▸ trivial, nofun⟩
  | closeTake =>
    obtain ⟨rfl, rfl⟩ := Prod.mk.inj (Option.some.inj hstep)
    exact ⟨.refl hcoherent _, fun _ hlater => Sum.inl.inj hlater ▸ trivial, nofun⟩
  | closeUnlock taken =>
    obtain ⟨rfl, rfl⟩ := Prod.mk.inj (Option.some.inj hstep)
    exact ⟨.refl hcoherent _, fun _ hlater => Sum.inl.inj hlater ▸ trivial, nofun⟩

/-- A completed call vouches for a pair that stood published at its last step. -/
def Vouches (call : CompletedCall ι Op Result) (history : History (TargetSession ι)) : Prop :=
  ∀ pair, vouched call.op call.result = some pair →
    ∃ instant session, call.startedAt ≤ instant ∧ instant + 1 = call.finishedAt ∧
      history.states[instant]? = some session ∧ session.target.published = some pair

/-- The assertions about the target's publication. -/
def publicationAssertions (ι : Type) (first : ℕ) : Assertions ι Op Call Result (TargetSession ι) where
  shared history := (∀ session ∈ history.states, Coherent first session.target) ∧
    history.states.IsChain fun before after => Follows before.target after.target
  active thread active history := Ready first thread active.op history.current.target active.call
  guarantee thread history session :=
    ∃ announced, Steps first thread announced history.current.target session.target
  completed := Vouches

/-- Every operation begins ready. -/
theorem start_ready (op : Op) : Ready first thread op target op.start := by
  cases op with
  | setTargetHwnd hwnd => exact ⟨rfl, trivial⟩
  | republishTargetGenerationForRevalidation hwnd => exact ⟨rfl, trivial⟩
  | bindWindowIdentityAuthority authority => exact ⟨trivial, trivial⟩
  | loadStable => exact ⟨rfl, trivial⟩
  | isCurrent hwnd generation => exact ⟨rfl, trivial⟩
  | pollWindowIdentityAuthority => trivial
  | closeWindowIdentityAuthority => trivial
  | ownerIdentityStatus expectedGeneration => trivial

/-- The calls keep the assertions about the target's publication. -/
theorem publication_relyGuarantee (ι : Type) [DecidableEq ι] (first : ℕ) :
    RelyGuarantee (protocol ι) (fun _ => True) (publicationAssertions ι first) where
  invoke _ op _ _ _ := start_ready op
  step thread continuity active history session outcome hshared hbegan hactive hstep := by
    have hcoherent := hshared.1 history.current History.current_mem_states
    obtain ⟨hsteps, hnext, hvouched⟩ := step_target hcoherent hactive hstep
    refine ⟨⟨_, hsteps⟩, ⟨History.forall_states_push hshared.1 hsteps.coherent,
      History.isChain_push hshared.2 hsteps.follows⟩, ?_⟩
    cases outcome with
    | inl call => exact hnext call rfl
    | inr result =>
      intro pair hpair
      refine ⟨history.now, history.current, hbegan, History.now_push.symm, ?_, ?_⟩
      · exact History.states_push_of_some History.states_now
      · exact hvouched result pair rfl hpair
  stable thread other active history session hother _ hactive hguarantee := by
    obtain ⟨announced, hsteps⟩ := hguarantee
    exact Ready.stable hother hactive hsteps
  keeps call thread history session _ hcompleted _ := by
    intro pair hpair
    obtain ⟨instant, past, hbegan, hended, hpast, hpublished⟩ := hcompleted pair hpair
    exact ⟨instant, past, hbegan, hended, History.states_push_of_some hpast, hpublished⟩

/-- A new target is coherent. -/
theorem new_coherent {hwnd : ℤ} {generation : ℕ} {required : Bool} (h : generation < 2 ^ 64) :
    Coherent generation (SessionTarget.new ι hwnd generation required) := by
  refine ⟨Nat.zero_le _, fun _ => ?_⟩
  change generation = (generation + 0 / 2) % 2 ^ 64
  omega

/-- In a coherent history a published generation stands published throughout. -/
theorem published_between {history : History (TargetSession ι)}
    (hcoherent : ∀ session ∈ history.states, Coherent first session.target)
    (hfollows : ∀ (earlier later : ℕ) (before after : TargetSession ι), earlier ≤ later →
      history.states[earlier]? = some before → history.states[later]? = some after →
      Follows before.target after.target)
    {earlier later : ℕ} {before after : TargetSession ι} {pair laterPair : ℤ × ℕ}
    (hbefore : history.states[earlier]? = some before)
    (hafter : history.states[later]? = some after)
    (hpair : before.target.published = some pair)
    (hlaterPair : after.target.published = some laterPair) (hgeneration : pair.2 = laterPair.2) :
    ∀ (instant : ℕ) (session : TargetSession ι), earlier ≤ instant → instant ≤ later →
      history.states[instant]? = some session → session.target.published = some pair := by
  obtain ⟨heven, hhwnd, hfirst⟩ := published_eq_some hpair
  obtain ⟨hlaterEven, -, hlaterFirst⟩ := published_eq_some hlaterPair
  have hbeforeCoherent := hcoherent before (List.mem_of_getElem? hbefore)
  have hafterCoherent := hcoherent after (List.mem_of_getElem? hafter)
  have hepoch : before.target.publicationEpoch = after.target.publicationEpoch := by
    apply @epoch_eq_of_generation first _ _ heven hlaterEven hbeforeCoherent.epoch_le
      hafterCoherent.epoch_le
    rw [← hbeforeCoherent.generation heven, ← hafterCoherent.generation hlaterEven, hfirst,
      hlaterFirst, hgeneration]
  intro instant session hearlier hlater hsession
  have hsince := hfollows earlier instant before session hearlier hbefore hsession
  have huntil := hfollows instant later session after hlater hsession hafter
  have hsame : before.target.publicationEpoch = session.target.publicationEpoch :=
    le_antisymm hsince.epoch (hepoch ▸ huntil.epoch)
  have hkept := hsince.pair hsame heven
  rw [published, if_pos (hsame ▸ heven), hkept.1, hkept.2, hhwnd, hfirst]

/-- In every interleaving: a load and an accepted proof vouch for the pair that stood published at
an instant of the call; a published pair is the initial one or was announced as a whole, at one
instant, by a publisher of its window; a generation is published only once, so that a proof taken
for it is not accepted by any call that begins after a later publication. -/
theorem target_publication_safety [DecidableEq ι] {hwnd : ℤ} {generation : ℕ} {required : Bool}
    (hgeneration : generation < 2 ^ 64) {moves : List (Move ι Op WindowIdentityContinuity)}
    {execution : Execution ι Op Call Result (TargetSession ι)}
    (hrun : (protocol ι).run (Execution.initial (new ι hwnd generation required)) moves =
      some execution) :
    (∀ call ∈ execution.completed, ∀ pair, vouched call.op call.result = some pair →
      ∃ instant session, call.startedAt ≤ instant ∧ instant < call.finishedAt ∧
        execution.history.states[instant]? = some session ∧
        session.target.published = some pair) ∧
    (∀ (instant : ℕ) (session : TargetSession ι) (pair : ℤ × ℕ),
      execution.history.states[instant]? = some session → session.target.published = some pair →
      pair = (hwnd, generation) ∨
      ∃ announced before after thread op startedAt, announced < instant ∧
        execution.history.states[announced]? = some before ∧ before.target.published = none ∧
        execution.history.states[announced + 1]? = some after ∧
        after.target.published = some pair ∧
        execution.Ran thread op startedAt announced ∧ op.publishes = some pair.1) ∧
    (∀ (earlier later : ℕ) (before after : TargetSession ι) (pair laterPair : ℤ × ℕ),
      earlier ≤ later → execution.history.states[earlier]? = some before →
      before.target.published = some pair → execution.history.states[later]? = some after →
      after.target.published = some laterPair → pair.2 = laterPair.2 →
      pair = laterPair ∧ ∀ (instant : ℕ) (session : TargetSession ι), earlier ≤ instant →
        instant ≤ later → execution.history.states[instant]? = some session →
        session.target.published = some pair) ∧
    (∀ (taken changed : ℕ) (before after : TargetSession ι) (pair : ℤ × ℕ), taken ≤ changed →
      execution.history.states[taken]? = some before → before.target.published = some pair →
      execution.history.states[changed]? = some after → after.target.published ≠ some pair →
      ∀ call ∈ execution.completed, changed ≤ call.startedAt →
      ∀ claimed, claimed.2 = pair.2 → vouched call.op call.result ≠ some claimed) := by
  have hnew := @new_coherent ι hwnd generation required hgeneration
  have hstart : (publicationAssertions ι generation).shared
      (History.start (new ι hwnd generation required)) :=
    ⟨fun session hsession => List.mem_singleton.mp hsession ▸ hnew, List.isChain_singleton _⟩
  have hallowed : ∀ move ∈ moves, move.Invokes fun _ : Op => True := by
    intro move _
    cases move <;> trivial
  have hold := (publication_relyGuarantee ι generation).run hstart hallowed hrun
  have hfollows : ∀ (earlier later : ℕ) (before after : TargetSession ι), earlier ≤ later →
      execution.history.states[earlier]? = some before →
      execution.history.states[later]? = some after → Follows before.target after.target :=
    fun earlier later before after hle hbefore => History.rel_of_isChain
      (R := fun before after : TargetSession ι => Follows before.target after.target)
      (fun session => Follows.refl session.target) (fun _ _ _ => Follows.trans) hold.shared.2 hle
      hbefore
  have hbetween := @published_between ι generation execution.history hold.shared.1 hfollows
  have hsteps := (publication_relyGuarantee ι generation).provenance
    (R := fun _ active before after => Announces active.op.publishes before.target after.target)
    (fun thread continuity active history session outcome hshared _ hactive hstep =>
      (step_target (hshared.1 history.current History.current_mem_states) hactive hstep).1.announces)
    hstart hallowed hrun
  refine ⟨fun call hcall pair hvouched => ?_, fun instant session pair hsession hpair => ?_,
    fun earlier later before after pair laterPair hle hbefore hpair hafter hlaterPair hsame => ?_,
    fun taken changed before after pair hle hbefore hpair hafter hchanged call hcall hbegan claimed
      hclaimed hvouched => ?_⟩
  · obtain ⟨instant, session, hbegan, hended, hsession, hpublished⟩ :=
      hold.completed call hcall pair hvouched
    exact ⟨instant, session, hbegan, by omega, hsession, hpublished⟩
  · have hinitial := Protocol.run_starts hrun
    by_cases hfirst : (new ι hwnd generation required).target.published = some pair
    · exact Or.inl (Option.some.inj hfirst).symm
    · obtain ⟨announced, state, hlt, hstate, hnot, hstays⟩ := History.exists_last_change
        (P := fun session : TargetSession ι => session.target.published = some pair) hsession hpair
        hinitial hfirst
      obtain ⟨after, hafter⟩ := History.exists_state
        (Nat.le_trans hlt (History.instant_le_now hsession))
      have hnow := hstays (announced + 1) after (Nat.lt_succ_self announced) hlt hafter
      obtain ⟨thread, active, hran, hsame | hnone | ⟨hnone, hannounced⟩⟩ :=
        hsteps announced state after hstate hafter
      · exact absurd (hsame.symm.trans hnow) hnot
      · rw [hnone] at hnow
        cases hnow
      · refine Or.inr ⟨announced, state, after, thread, active.op, active.startedAt, hlt, hstate,
          hnone, hafter, hnow, hran, ?_⟩
        rw [hannounced, (published_eq_some hnow).2.1]
  · have hthroughout := hbetween hbefore hafter hpair hlaterPair hsame
    have hlast := hthroughout later after hle le_rfl hafter
    exact ⟨Option.some.inj (hlast.symm.trans hlaterPair), hthroughout⟩
  · -- a proof accepted later would have stood published all along
    obtain ⟨instant, session, hstarted, -, hsession, hpublished⟩ :=
      hold.completed call hcall claimed hvouched
    have hstill := hbetween hbefore hsession hpair hpublished hclaimed.symm changed after hle
      (hbegan.trans hstarted) hafter
    exact hchanged hstill

/-- There are two threads. -/
local instance publishingThreads : NeZero 2 := ⟨Nat.succ_ne_zero 1⟩

/-- A proof of window 7 is taken, the same window is published again, and the proof is checked. -/
def republishedMoves : List (Move (Fin 2) Op WindowIdentityContinuity) :=
  [.invoke 1 .loadStable] ++ List.replicate 4 (.advance 1 .continuous) ++
  [.invoke 0 (.republishTargetGenerationForRevalidation 7)] ++
  List.replicate 9 (.advance 0 .continuous) ++
  [.invoke 1 (.isCurrent 7 0)] ++ List.replicate 4 (.advance 1 .continuous)

/-- The proof of the first generation is not accepted after the second publication. -/
theorem republishedMoves_refused : ∃ execution,
    (protocol (Fin 2)).run (Execution.initial (new (Fin 2) 7 0 true)) republishedMoves =
      some execution ∧
    execution.completed.length = 3 ∧
    ∀ call ∈ execution.completed, 12 ≤ call.startedAt → ∀ claimed : ℤ × ℕ, claimed.2 = 0 →
      vouched call.op call.result ≠ some claimed := by
  obtain ⟨execution, hrun⟩ := Option.isSome_iff_exists.mp (show ((protocol (Fin 2)).run
    (Execution.initial (new (Fin 2) 7 0 true)) republishedMoves).isSome = true by decide +kernel)
  have hsafety := (target_publication_safety (by decide) hrun).2.2.2
  refine ⟨execution, hrun, ?_⟩
  obtain rfl := Option.some.inj hrun
  exact ⟨rfl, hsafety 0 12 _ _ (7, 0) (by decide) rfl rfl rfl (by decide)⟩

end TargetSession

end SkyAutoPlayer.Player
