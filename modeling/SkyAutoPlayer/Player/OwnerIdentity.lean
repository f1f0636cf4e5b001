import SkyAutoPlayer.Player.TargetPublication

/-!
# The owner identity of a generation

The binding of a generation becomes live once: its pid stands before it does, every later
publication and invalidation withdraws it, and the generation is never bound again. So a reader
between two equal owner generations that sees a live identity has read the pid of that binding.
-/

namespace SkyAutoPlayer.Player

open Foundation

namespace TargetSession

open SessionTarget

variable {ι : Type} {thread : ι} {target next : SessionTarget ι}
  {history : History (TargetSession ι)} {session : TargetSession ι}

/-- A live identity belongs to the target's generation, and no identity to a later one. -/
structure OwnerCoherent (target : SessionTarget ι) : Prop where
  live : target.ownerLive = true →
    target.ownerPid ≠ 0 ∧ target.ownerGeneration = target.targetGeneration
  generation : target.ownerGeneration ≤ target.targetGeneration

/-- Generations never decrease, and a pid is never withdrawn. -/
structure OwnerFollows (before after : SessionTarget ι) : Prop where
  targetGeneration : before.targetGeneration ≤ after.targetGeneration
  ownerGeneration : before.ownerGeneration ≤ after.ownerGeneration
  ownerPid : after.ownerPid = 0 → before.ownerPid = 0

/-- A generation that was not bound yet. -/
def Fresh (generation : ℕ) (target : SessionTarget ι) : Prop :=
  target.ownerGeneration = generation → target.ownerPid = 0

/-- A generation that was not live yet and can have only one pid. -/
def Settled (generation ownerPid : ℕ) (target : SessionTarget ι) : Prop :=
  target.ownerGeneration = generation →
    target.ownerLive = false ∧ (target.ownerPid ≠ 0 → target.ownerPid = ownerPid)

/-- A generation has been live. -/
def Activated (generation : ℕ) (history : History (TargetSession ι)) : Prop :=
  ∃ (instant : ℕ) (session : TargetSession ι), history.states[instant]? = some session ∧
    session.target.ownerLive = true ∧ session.target.ownerGeneration = generation

/-- A generation has been live and was withdrawn by an instant. -/
def Revoked (generation deadline : ℕ) (history : History (TargetSession ι)) : Prop :=
  ∃ (live dead : ℕ) (before after : TargetSession ι), live ≤ dead ∧ dead ≤ deadline ∧
    history.states[live]? = some before ∧ before.target.ownerLive = true ∧
    before.target.ownerGeneration = generation ∧ history.states[dead]? = some after ∧
    after.target.ownerLive = false

/-- Whoever is live now with a generation is the only one that ever was. -/
def Unique (history : History (TargetSession ι)) : Prop :=
  ∀ (earlier later : ℕ) (before after : TargetSession ι), earlier ≤ later →
    history.states[earlier]? = some before → history.states[later]? = some after →
    after.target.ownerLive = true →
    before.target.ownerGeneration = after.target.ownerGeneration →
    (before.target.ownerPid ≠ 0 → before.target.ownerPid = after.target.ownerPid) ∧
      (before.target.ownerLive = true → ∀ (instant : ℕ) (session : TargetSession ι),
        earlier ≤ instant → instant ≤ later → history.states[instant]? = some session →
        session.target.ownerLive = true)

/-- How an identity comes to be live: it was, or its generation was settled. -/
def Activates (history : History (TargetSession ι)) (after : SessionTarget ι) : Prop :=
  after.ownerLive = true →
    (history.current.target.ownerLive = true ∧
      history.current.target.ownerGeneration = after.ownerGeneration ∧
      history.current.target.ownerPid = after.ownerPid) ∨
    ∀ past ∈ history.states, Settled after.ownerGeneration after.ownerPid past.target

/-- Nothing changes. -/
theorem OwnerFollows.refl (target : SessionTarget ι) : OwnerFollows target target :=
  ⟨le_rfl, le_rfl, id⟩

/-- Generations never decrease. -/
theorem OwnerFollows.trans {before between after : SessionTarget ι}
    (h : OwnerFollows before between) (hafter : OwnerFollows between after) :
    OwnerFollows before after :=
  ⟨h.targetGeneration.trans hafter.targetGeneration,
    h.ownerGeneration.trans hafter.ownerGeneration, fun hpid => h.ownerPid (hafter.ownerPid hpid)⟩

/-- A generation that was not bound yet is settled for every pid. -/
theorem Fresh.settled {generation ownerPid : ℕ} (hcoherent : OwnerCoherent target)
    (h : Fresh generation target) : Settled generation ownerPid target := by
  intro hgeneration
  have hpid := h hgeneration
  refine ⟨?_, fun hnonzero => absurd hpid hnonzero⟩
  by_contra hlive
  exact (hcoherent.live ((Bool.not_eq_false _).mp hlive)).1 hpid

/-- A live generation stays the only one. -/
theorem Unique.push (h : Unique history) (hactivates : Activates history session.target) :
    Unique (history.push session) := by
  intro earlier later before after hle hbefore hafter hlive hgeneration
  rcases History.states_push_cases hafter with hpast | ⟨rfl, rfl⟩
  · have hbound := History.instant_le_now hpast
    have hpastOf : ∀ (instant : ℕ) (state : TargetSession ι), instant ≤ later →
        (history.push session).states[instant]? = some state →
        history.states[instant]? = some state := by
      intro instant state hinstant hstate
      rcases History.states_push_cases hstate with hold | ⟨hnow, -⟩
      · exact hold
      · omega
    obtain ⟨hpid, hstays⟩ := h earlier later before after hle (hpastOf earlier before hle hbefore)
      hpast hlive hgeneration
    exact ⟨hpid, fun hbeforeLive instant state hfrom hto hstate =>
      hstays hbeforeLive instant state hfrom hto (hpastOf instant state hto hstate)⟩
  · rcases History.states_push_cases hbefore with hpast | ⟨rfl, rfl⟩
    · rcases hactivates hlive with ⟨hcurrent, hsame, hsamePid⟩ | hsettled
      · obtain ⟨hpid, hstays⟩ := h earlier history.now before history.current
          (History.instant_le_now hpast) hpast History.states_now hcurrent
          (hgeneration.trans hsame.symm)
        refine ⟨fun hnonzero => (hpid hnonzero).trans hsamePid, ?_⟩
        intro hbeforeLive instant state hfrom hto hstate
        rcases History.states_push_cases hstate with hold | ⟨-, rfl⟩
        · exact hstays hbeforeLive instant state hfrom (History.instant_le_now hold) hold
        · exact hlive
      · obtain ⟨hdead, hpid⟩ := hsettled before (List.mem_of_getElem? hpast) hgeneration
        refine ⟨hpid, fun hbeforeLive => ?_⟩
        rw [hdead] at hbeforeLive
        cases hbeforeLive
    · refine ⟨fun _ => rfl, fun _ instant state hfrom hto hstate => ?_⟩
      rcases History.states_push_cases hstate with hold | ⟨-, rfl⟩
      · have hbound := History.instant_le_now hold
        omega
      · exact hlive

/-- What a binder knows at its program point, over all states so far. -/
def BindOwnerReady (hwnd : ℤ) (generation ownerPid : ℕ) (history : History (TargetSession ι)) :
    BindPoint → Prop
  | .lock => True
  | .compareEpoch => ownerPid ≠ 0
  | .compareHwnd => ownerPid ≠ 0 ∧ history.current.target.publicationEpoch % 2 = 0
  | .compareGeneration =>
    ownerPid ≠ 0 ∧ history.current.target.publicationEpoch % 2 = 0 ∧
      history.current.target.targetHwnd = hwnd
  | .comparePid | .compareOwnerGeneration =>
    ownerPid ≠ 0 ∧ history.current.target.published = some (hwnd, generation)
  | .storeRequired | .storeFailure | .storeUnlive =>
    ownerPid ≠ 0 ∧ history.current.target.published = some (hwnd, generation) ∧
      ∀ past ∈ history.states, Fresh generation past.target
  | .storePid =>
    ownerPid ≠ 0 ∧ history.current.target.published = some (hwnd, generation) ∧
      history.current.target.ownerLive = false ∧
      ∀ past ∈ history.states, Fresh generation past.target
  | .storeGeneration =>
    ownerPid ≠ 0 ∧ history.current.target.published = some (hwnd, generation) ∧
      history.current.target.ownerLive = false ∧
      history.current.target.ownerPid = ownerPid ∧
      ∀ past ∈ history.states, Settled generation ownerPid past.target
  | .storeLive =>
    ownerPid ≠ 0 ∧ history.current.target.published = some (hwnd, generation) ∧
      history.current.target.ownerGeneration = generation ∧
      history.current.target.ownerPid = ownerPid ∧
      ∀ past ∈ history.states, Settled generation ownerPid past.target
  | .unlock bound => bound = true → Activated generation history

/-- What a publisher knows of the owner at its program point. -/
def PublishOwnerReady (target : SessionTarget ι) : PublishPoint → Prop
  | .storeHwnd _ | .addGeneration _ | .storeStable _ => target.ownerLive = false
  | _ => True

/-- What the steps other than a binding do to the owner. -/
structure OwnerSteps (before after : SessionTarget ι) : Prop where
  coherent : OwnerCoherent after
  follows : OwnerFollows before after
  live : after.ownerLive = true → before.ownerLive = true ∧
    before.ownerGeneration = after.ownerGeneration ∧ before.ownerPid = after.ownerPid

/-- A step that leaves the owner alone. -/
theorem OwnerSteps.refl (h : OwnerCoherent target) : OwnerSteps target target :=
  ⟨h, OwnerFollows.refl target, fun hlive => ⟨hlive, rfl, rfl⟩⟩

/-- A step that keeps the generations and the pid, and makes nothing live. -/
theorem OwnerSteps.of_same (h : OwnerCoherent target)
    (hgeneration : next.targetGeneration = target.targetGeneration)
    (howner : next.ownerGeneration = target.ownerGeneration)
    (hpid : next.ownerPid = target.ownerPid)
    (hlive : next.ownerLive = true → target.ownerLive = true) : OwnerSteps target next := by
  refine ⟨⟨fun hnext => ?_, ?_⟩, ⟨hgeneration.ge, howner.ge, fun hzero => hpid ▸ hzero⟩,
    fun hnext => ⟨hlive hnext, howner.symm, hpid.symm⟩⟩
  · rw [hpid, howner, hgeneration]
    exact h.live (hlive hnext)
  · rw [howner, hgeneration]
    exact h.generation

/-- A publisher withdraws the identity before it touches the payload. -/
theorem publish_owner {hwnd : ℤ} {forceGeneration : Bool} {point : PublishPoint}
    {outcome : PublishPoint ⊕ Bool} (hcoherent : OwnerCoherent target)
    (hready : PublishReady 0 thread hwnd target point) (h : PublishOwnerReady target point)
    (hstep : publishStep thread hwnd forceGeneration target point = some (next, outcome)) :
    OwnerSteps target next ∧ ∀ later, outcome = .inl later → PublishOwnerReady next later := by
  cases point with
  | lock =>
    simp only [publishStep] at hstep
    split at hstep
    · cases hstep
    · obtain ⟨rfl, rfl⟩ := Prod.mk.inj (Option.some.inj hstep)
      refine ⟨.of_same hcoherent rfl rfl rfl id, fun later hlater => ?_⟩
      obtain rfl := Sum.inl.inj hlater
      cases forceGeneration <;> trivial
  | compareHwnd =>
    obtain ⟨rfl, rfl⟩ := Prod.mk.inj (Option.some.inj hstep)
    refine ⟨.refl hcoherent, fun later hlater => ?_⟩
    obtain rfl := Sum.inl.inj hlater
    split <;> trivial
  | loadEpoch =>
    obtain ⟨rfl, rfl⟩ := Prod.mk.inj (Option.some.inj hstep)
    refine ⟨.refl hcoherent, fun later hlater => ?_⟩
    obtain rfl := Sum.inl.inj hlater
    split <;> trivial
  | storeLive stableEpoch =>
    obtain ⟨rfl, rfl⟩ := Prod.mk.inj (Option.some.inj hstep)
    exact ⟨.of_same hcoherent rfl rfl rfl (by simp), fun later hlater => Sum.inl.inj hlater ▸ rfl⟩
  | storeHwnd stableEpoch =>
    obtain ⟨rfl, rfl⟩ := Prod.mk.inj (Option.some.inj hstep)
    exact ⟨.of_same hcoherent rfl rfl rfl id, fun later hlater => Sum.inl.inj hlater ▸ h⟩
  | addGeneration stableEpoch =>
    obtain ⟨rfl, rfl⟩ := Prod.mk.inj (Option.some.inj hstep)
    obtain ⟨-, -, heven, hbound, hgeneration, -⟩ := hready
    -- the sequence was poisoned long before the generation could wrap
    have hlater : target.targetGeneration ≤ (target.targetGeneration + 1) % 2 ^ 64 := by
      rw [hgeneration]
      unfold epochGeneration
      omega
    refine ⟨⟨⟨fun hlive => ?_, hcoherent.generation.trans hlater⟩, ⟨hlater, le_rfl, id⟩,
      fun hlive => ?_⟩, fun later hlater => Sum.inl.inj hlater ▸ h⟩
    · exact absurd (h.symm.trans hlive) (by decide)
    · exact absurd (h.symm.trans hlive) (by decide)
  | storeStable stableEpoch =>
    obtain ⟨rfl, rfl⟩ := Prod.mk.inj (Option.some.inj hstep)
    exact ⟨.of_same hcoherent rfl rfl rfl id, fun later hlater => Sum.inl.inj hlater ▸ trivial⟩
  | unlock published =>
    obtain ⟨rfl, rfl⟩ := Prod.mk.inj (Option.some.inj hstep)
    exact ⟨.of_same hcoherent rfl rfl rfl id, by simp⟩
  | poison =>
    obtain ⟨rfl, rfl⟩ := Prod.mk.inj (Option.some.inj hstep)
    exact ⟨.of_same hcoherent rfl rfl rfl id, fun later hlater => Sum.inl.inj hlater ▸ trivial⟩
  | storeInProgress stableEpoch =>
    obtain ⟨rfl, rfl⟩ := Prod.mk.inj (Option.some.inj hstep)
    exact ⟨.of_same hcoherent rfl rfl rfl id, fun later hlater => Sum.inl.inj hlater ▸ trivial⟩
  | storeFailure stableEpoch =>
    obtain ⟨rfl, rfl⟩ := Prod.mk.inj (Option.some.inj hstep)
    exact ⟨.of_same hcoherent rfl rfl rfl id, fun later hlater => Sum.inl.inj hlater ▸ trivial⟩

/-- An invalidation makes nothing live. -/
theorem invalidate_owner {point : InvalidatePoint} (hcoherent : OwnerCoherent target) :
    OwnerSteps target (invalidateOwnerIdentityStep target point).1 := by
  cases point with
  | storeFailure failure => exact .of_same hcoherent rfl rfl rfl id
  | storeLive => exact .of_same hcoherent rfl rfl rfl nofun

/-- What a step of a call does to the owner in view of the past. -/
structure OwnerEvolves (history : History (TargetSession ι)) (after : SessionTarget ι) : Prop where
  coherent : OwnerCoherent after
  follows : OwnerFollows history.current.target after
  activates : Activates history after

/-- A step that makes nothing live. -/
theorem OwnerSteps.evolves (h : OwnerSteps history.current.target next) :
    OwnerEvolves history next :=
  ⟨h.coherent, h.follows, fun hlive => Or.inl (h.live hlive)⟩

/-- What every state so far has in view of the current one. -/
structure OwnerPast (history : History (TargetSession ι)) : Prop where
  coherent : ∀ past ∈ history.states, OwnerCoherent past.target
  follows : ∀ past ∈ history.states, OwnerFollows past.target history.current.target

/-- A generation that is neither bound nor older than the bound one is fresh. -/
theorem OwnerPast.fresh {hwnd : ℤ} {generation : ℕ} (h : OwnerPast history)
    (hpublished : history.current.target.published = some (hwnd, generation))
    (hunbound : history.current.target.ownerPid = 0 ∨
      history.current.target.ownerGeneration ≠ generation) :
    ∀ past ∈ history.states, Fresh generation past.target := by
  intro past hpast hsame
  have hfollows := h.follows past hpast
  rcases hunbound with hpid | hother
  · exact hfollows.ownerPid hpid
  · have hcurrent := (h.coherent history.current History.current_mem_states).generation
    rw [(published_eq_some hpublished).2.2] at hcurrent
    exact absurd (le_antisymm hcurrent (hsame ▸ hfollows.ownerGeneration)) hother

/-- A state with the same generation and pid is as fresh. -/
theorem Fresh.congr {generation : ℕ} (h : Fresh generation target)
    (howner : next.ownerGeneration = target.ownerGeneration)
    (hpid : next.ownerPid = target.ownerPid) : Fresh generation next := by
  intro hsame
  rw [hpid]
  exact h (howner ▸ hsame)

/-- A state with the same generation and pid that is not live is as settled. -/
theorem Settled.congr {generation ownerPid : ℕ} (h : Settled generation ownerPid target)
    (howner : next.ownerGeneration = target.ownerGeneration)
    (hpid : next.ownerPid = target.ownerPid)
    (hlive : next.ownerLive = true → target.ownerLive = true) :
    Settled generation ownerPid next := by
  intro hsame
  obtain ⟨hdead, honly⟩ := h (howner ▸ hsame)
  refine ⟨?_, hpid ▸ honly⟩
  by_contra hnext
  have hbefore := hlive ((Bool.not_eq_false _).mp hnext)
  rw [hdead] at hbefore
  cases hbefore

/-- A binder that goes on has to be ready for its next point, and has bound nothing yet. -/
theorem bound_later {next : BindPoint} {P : BindPoint → Prop} {Q : Prop} (h : P next) :
    (∀ later, (Sum.inl next : BindPoint ⊕ Bool) = .inl later → P later) ∧
      ((Sum.inl next : BindPoint ⊕ Bool) = .inr true → Q) := by
  constructor
  · intro later hlater
    rw [← Sum.inl.inj hlater]
    exact h
  · intro hbound
    cases hbound

/-- One atomic step of a binder: the identity becomes live only when its generation is settled. -/
theorem bind_owner {hwnd : ℤ} {generation ownerPid : ℕ} {point : BindPoint}
    {outcome : BindPoint ⊕ Bool} {after : TargetSession ι} (hpast : OwnerPast history)
    (h : BindOwnerReady hwnd generation ownerPid history point)
    (hstep : bindOwnerIdentityStep thread hwnd generation ownerPid history.current.target point =
      some (after.target, outcome)) :
    (∀ later, outcome = .inl later →
        BindOwnerReady hwnd generation ownerPid (history.push after) later) ∧
      (outcome = .inr true → Activated generation history) := by
  cases point with
  | lock =>
    simp only [bindOwnerIdentityStep] at hstep
    split at hstep
    · obtain ⟨htarget, rfl⟩ := Prod.mk.inj (Option.some.inj hstep)
      simp
    · rename_i hvalid
      split at hstep
      · cases hstep
      · obtain ⟨htarget, rfl⟩ := Prod.mk.inj (Option.some.inj hstep)
        apply bound_later
        exact fun hzero => hvalid (Or.inr hzero)
  | compareEpoch =>
    obtain ⟨htarget, rfl⟩ := Prod.mk.inj (Option.some.inj hstep)
    apply bound_later
    split
    · exact fun hbound => absurd hbound (by simp)
    · rename_i heven
      rw [BindOwnerReady, History.current_push, ← htarget]
      exact ⟨h, not_not.mp heven⟩
  | compareHwnd =>
    obtain ⟨htarget, rfl⟩ := Prod.mk.inj (Option.some.inj hstep)
    apply bound_later
    split
    · exact fun hbound => absurd hbound (by simp)
    · rename_i hhwnd
      rw [BindOwnerReady, History.current_push, ← htarget]
      exact ⟨h.1, h.2, not_not.mp hhwnd⟩
  | compareGeneration =>
    obtain ⟨htarget, rfl⟩ := Prod.mk.inj (Option.some.inj hstep)
    apply bound_later
    split
    · exact fun hbound => absurd hbound (by simp)
    · rename_i hsame
      rw [BindOwnerReady, History.current_push, ← htarget, published, if_pos h.2.1, h.2.2,
        not_not.mp hsame]
      exact ⟨h.1, rfl⟩
  | comparePid =>
    obtain ⟨htarget, rfl⟩ := Prod.mk.inj (Option.some.inj hstep)
    apply bound_later
    split
    · rw [BindOwnerReady, History.current_push, ← htarget]
      exact h
    · rename_i hpid
      have hfresh := hpast.fresh h.2 (Or.inl (not_not.mp hpid))
      rw [BindOwnerReady, History.current_push, ← htarget]
      refine ⟨h.1, h.2, History.forall_states_push hfresh ?_⟩
      rw [← htarget]
      exact hfresh history.current History.current_mem_states
  | compareOwnerGeneration =>
    obtain ⟨htarget, rfl⟩ := Prod.mk.inj (Option.some.inj hstep)
    apply bound_later
    split
    · exact fun hbound => absurd hbound (by simp)
    · rename_i hother
      have hfresh := hpast.fresh h.2 (Or.inr hother)
      rw [BindOwnerReady, History.current_push, ← htarget]
      refine ⟨h.1, h.2, History.forall_states_push hfresh ?_⟩
      rw [← htarget]
      exact hfresh history.current History.current_mem_states
  | storeRequired =>
    obtain ⟨htarget, rfl⟩ := Prod.mk.inj (Option.some.inj hstep)
    have hfresh := h.2.2 history.current History.current_mem_states
    apply bound_later
    rw [BindOwnerReady, History.current_push]
    refine ⟨h.1, ?_, History.forall_states_push h.2.2 ?_⟩
    · rw [← htarget]
      exact h.2.1
    · rw [← htarget]
      exact hfresh.congr rfl rfl
  | storeFailure =>
    obtain ⟨htarget, rfl⟩ := Prod.mk.inj (Option.some.inj hstep)
    have hfresh := h.2.2 history.current History.current_mem_states
    apply bound_later
    rw [BindOwnerReady, History.current_push]
    refine ⟨h.1, ?_, History.forall_states_push h.2.2 ?_⟩
    · rw [← htarget]
      exact h.2.1
    · rw [← htarget]
      exact hfresh.congr rfl rfl
  | storeUnlive =>
    obtain ⟨htarget, rfl⟩ := Prod.mk.inj (Option.some.inj hstep)
    have hfresh := h.2.2 history.current History.current_mem_states
    apply bound_later
    rw [BindOwnerReady, History.current_push]
    refine ⟨h.1, ?_, ?_, History.forall_states_push h.2.2 ?_⟩
    · rw [← htarget]
      exact h.2.1
    · rw [← htarget]
    · rw [← htarget]
      exact hfresh.congr rfl rfl
  | storePid =>
    obtain ⟨htarget, rfl⟩ := Prod.mk.inj (Option.some.inj hstep)
    obtain ⟨hpid, hpublished, hdead, hfresh⟩ := h
    apply bound_later
    have hsettled : ∀ past ∈ history.states, Settled generation ownerPid past.target :=
      fun past hmem => (hfresh past hmem).settled (hpast.coherent past hmem)
    rw [BindOwnerReady, History.current_push]
    refine ⟨hpid, ?_, ?_, ?_, History.forall_states_push hsettled ?_⟩
    · rw [← htarget]
      exact hpublished
    · rw [← htarget]
      exact hdead
    · rw [← htarget]
    · rw [← htarget]
      exact fun _ => ⟨hdead, fun _ => rfl⟩
  | storeGeneration =>
    obtain ⟨htarget, rfl⟩ := Prod.mk.inj (Option.some.inj hstep)
    obtain ⟨hpid, hpublished, hdead, hsame, hsettled⟩ := h
    have hgeneration := (published_eq_some hpublished).2.2
    apply bound_later
    rw [BindOwnerReady, History.current_push]
    refine ⟨hpid, ?_, ?_, ?_, History.forall_states_push hsettled ?_⟩
    · rw [← htarget]
      exact hpublished
    · rw [← htarget]
    · rw [← htarget]
      exact hsame
    · rw [← htarget]
      exact fun _ => ⟨hdead, fun _ => hsame⟩
  | storeLive =>
    obtain ⟨htarget, rfl⟩ := Prod.mk.inj (Option.some.inj hstep)
    obtain ⟨hpid, hpublished, howner, hsame, hsettled⟩ := h
    have hgeneration := (published_eq_some hpublished).2.2
    apply bound_later
    intro _
    refine ⟨history.now + 1, after, ?_, ?_, ?_⟩
    · exact (History.now_push : (history.push _).now = history.now + 1) ▸ History.states_now
    · rw [← htarget]
    · rw [← htarget]
      exact howner
  | unlock bound =>
    obtain ⟨htarget, rfl⟩ := Prod.mk.inj (Option.some.inj hstep)
    constructor
    · simp
    · exact fun hbound => h (Sum.inr.inj hbound)

/-- Every store of a binding but the last makes nothing live. -/
theorem bind_ownerSteps {hwnd : ℤ} {generation ownerPid : ℕ} {point : BindPoint}
    {outcome : BindPoint ⊕ Bool} (hcoherent : OwnerCoherent history.current.target)
    (h : BindOwnerReady hwnd generation ownerPid history point) (hpoint : point ≠ .storeLive)
    (hstep : bindOwnerIdentityStep thread hwnd generation ownerPid history.current.target point =
      some (next, outcome)) : OwnerSteps history.current.target next := by
  cases point with
  | lock =>
    simp only [bindOwnerIdentityStep] at hstep
    split at hstep
    · obtain ⟨rfl, -⟩ := Prod.mk.inj (Option.some.inj hstep)
      exact .refl hcoherent
    · split at hstep
      · cases hstep
      · obtain ⟨rfl, -⟩ := Prod.mk.inj (Option.some.inj hstep)
        exact .of_same hcoherent rfl rfl rfl id
  | storeUnlive =>
    obtain ⟨rfl, -⟩ := Prod.mk.inj (Option.some.inj hstep)
    exact .of_same hcoherent rfl rfl rfl (by simp)
  | storePid =>
    obtain ⟨rfl, -⟩ := Prod.mk.inj (Option.some.inj hstep)
    obtain ⟨hpid, -, hdead, -⟩ := h
    refine ⟨⟨fun hlive => ?_, hcoherent.generation⟩, ⟨le_rfl, le_rfl, fun hzero => ?_⟩,
      fun hlive => ?_⟩
    · exact absurd (hdead.symm.trans hlive) (by decide)
    · exact absurd hzero hpid
    · exact absurd (hdead.symm.trans hlive) (by decide)
  | storeGeneration =>
    obtain ⟨rfl, -⟩ := Prod.mk.inj (Option.some.inj hstep)
    obtain ⟨-, hpublished, hdead, -, -⟩ := h
    have hgeneration := (published_eq_some hpublished).2.2
    refine ⟨⟨fun hlive => ?_, hgeneration.ge⟩, ⟨le_rfl, ?_, id⟩, fun hlive => ?_⟩
    · exact absurd (hdead.symm.trans hlive) (by decide)
    · exact hcoherent.generation.trans_eq hgeneration
    · exact absurd (hdead.symm.trans hlive) (by decide)
  | storeLive => exact absurd rfl hpoint
  | _ =>
    obtain ⟨rfl, -⟩ := Prod.mk.inj (Option.some.inj hstep)
    exact .of_same hcoherent rfl rfl rfl id

/-- The last store of a binding makes its settled generation live. -/
theorem bind_evolves {hwnd : ℤ} {generation ownerPid : ℕ}
    (hcoherent : OwnerCoherent history.current.target)
    (h : BindOwnerReady hwnd generation ownerPid history .storeLive) :
    OwnerEvolves history { history.current.target with ownerLive := true } := by
  obtain ⟨hpid, hpublished, howner, hsame, hsettled⟩ := h
  have hgeneration := (published_eq_some hpublished).2.2
  refine ⟨⟨fun _ => ?_, hcoherent.generation⟩, ⟨le_rfl, le_rfl, id⟩, fun _ => Or.inr ?_⟩
  · exact ⟨hsame ▸ hpid, howner.trans hgeneration.symm⟩
  · change ∀ past ∈ history.states, Settled history.current.target.ownerGeneration
      history.current.target.ownerPid past.target
    rw [howner, hsame]
    exact hsettled

/-- From one instant and before another, no step of a thread that held the publishers' mutex made
an identity live. -/
def Unbound (thread : ι) (first deadline : ℕ) (history : History (TargetSession ι)) : Prop :=
  ∀ (instant : ℕ) (before after : TargetSession ι), first ≤ instant → instant < deadline →
    history.states[instant]? = some before → history.states[instant + 1]? = some after →
    before.target.writer = some thread → after.target.ownerLive = true →
    before.target.ownerLive = true

/-- What a status reader has seen at its program point. -/
def StatusSeen (startedAt : ℕ) (history : History (TargetSession ι)) : StatusPoint → Prop
  | .required | .firstGeneration | .ownerFailure => True
  | .ownerPid firstGeneration =>
    ∃ (first : ℕ) (session : TargetSession ι), history.states[first]? = some session ∧
      session.target.ownerGeneration = firstGeneration
  | .ownerLive firstGeneration ownerPid =>
    ∃ (first second : ℕ) (session later : TargetSession ι), first ≤ second ∧
      history.states[first]? = some session ∧
      session.target.ownerGeneration = firstGeneration ∧
      history.states[second]? = some later ∧ later.target.ownerPid = ownerPid
  | .finalGeneration firstGeneration ownerPid ownerLive =>
    ∃ (first second third : ℕ) (session later last : TargetSession ι), first ≤ second ∧
      second ≤ third ∧ startedAt ≤ third ∧ history.states[first]? = some session ∧
      session.target.ownerGeneration = firstGeneration ∧
      history.states[second]? = some later ∧ later.target.ownerPid = ownerPid ∧
      history.states[third]? = some last ∧ last.target.ownerLive = ownerLive

/-- At an instant of a call an identity stood live. -/
def SeenLive (generation ownerPid first deadline : ℕ) (history : History (TargetSession ι)) :
    Prop :=
  ∃ (instant : ℕ) (session : TargetSession ι), first ≤ instant ∧ instant < deadline ∧
    history.states[instant]? = some session ∧ session.target.ownerLive = true ∧
    session.target.ownerGeneration = generation ∧ session.target.ownerPid = ownerPid

/-- What a call knows of the owner at its program point. -/
def OwnerReady (thread : ι) (op : Op) (startedAt : ℕ) (history : History (TargetSession ι)) :
    Call → Prop
  | .publish _ _ point => PublishOwnerReady history.current.target point
  | .status (.ownerIdentityStatus generation) point =>
    op = .ownerIdentityStatus generation ∧ StatusSeen startedAt history point
  | .load (.bind authority) _ =>
    op = .bindWindowIdentityAuthority authority ∧ Unbound thread startedAt history.now history
  | .load (.poll retained) _ => Activated retained.2 history
  | .bindLock authority hwnd _ | .bindContinuity authority hwnd _ =>
    op = .bindWindowIdentityAuthority authority ∧ hwnd = authority.hwnd ∧
      Unbound thread startedAt history.now history
  | .bindOwner authority hwnd generation point =>
    op = .bindWindowIdentityAuthority authority ∧ hwnd = authority.hwnd ∧
      BindOwnerReady hwnd generation authority.ownerPid history point ∧
      (point ≠ .unlock true → Unbound thread startedAt history.now history)
  | .bindRetain _ generation => Activated generation history
  | .bindUnlock (.error _) => Unbound thread startedAt history.now history
  | .pollContinuity retained => Activated retained.2 history
  | .pollUnlock _ (some retained) => Revoked retained.2 history.now history
  | .invalidate (.poll retained) _ | .invalidate (.close (some retained)) _
  | .closeUnlock (some retained) => Activated retained.2 history
  | _ => True

/-- What a completed call's result tells of the owner. -/
def OwnerReturned (call : CompletedCall ι Op Result) (history : History (TargetSession ι)) :
    Prop :=
  match call.result with
  | .status (.bound ownerPid) => ∃ generation, call.op = .ownerIdentityStatus generation ∧
      SeenLive generation ownerPid call.startedAt call.finishedAt history
  | .polled _ (some retained) | .closed (some retained) =>
    Revoked retained.2 call.finishedAt history
  | .bound (.error _) =>
    call.finishedAt ≤ history.now ∧ Unbound call.thread call.startedAt call.finishedAt history
  | _ => True

/-- A generation that was live still was. -/
theorem Activated.push {generation : ℕ} (h : Activated generation history) :
    Activated generation (history.push session) := by
  obtain ⟨instant, past, hpast, hlive⟩ := h
  exact ⟨instant, past, History.states_push_of_some hpast, hlive⟩

/-- A generation that was withdrawn still was. -/
theorem Revoked.push {generation deadline : ℕ} (h : Revoked generation deadline history) :
    Revoked generation deadline (history.push session) := by
  obtain ⟨live, dead, before, after, hle, hdeadline, hbefore, hlive, hsame, hafter, hdead⟩ := h
  exact ⟨live, dead, before, after, hle, hdeadline, History.states_push_of_some hbefore, hlive,
    hsame, History.states_push_of_some hafter, hdead⟩

/-- A withdrawn generation is so by every later deadline. -/
theorem Revoked.mono {generation deadline later : ℕ} (h : Revoked generation deadline history)
    (hle : deadline ≤ later) : Revoked generation later history := by
  obtain ⟨live, dead, before, after, hfirst, hdeadline, hrest⟩ := h
  exact ⟨live, dead, before, after, hfirst, hdeadline.trans hle, hrest⟩

/-- A step that leaves nothing live withdraws every generation. -/
theorem Activated.revoke {generation : ℕ} (h : Activated generation history)
    (hdead : session.target.ownerLive = false) :
    Revoked generation (history.now + 1) (history.push session) := by
  obtain ⟨instant, past, hpast, hlive, hsame⟩ := h
  have hbound := History.instant_le_now hpast
  refine ⟨instant, history.now + 1, past, session, by omega, le_rfl,
    History.states_push_of_some hpast, hlive, hsame, ?_, hdead⟩
  exact (History.now_push : (history.push _).now = history.now + 1) ▸ History.states_now

/-- What was seen live still was. -/
theorem SeenLive.push {generation ownerPid first deadline : ℕ}
    (h : SeenLive generation ownerPid first deadline history) :
    SeenLive generation ownerPid first deadline (history.push session) := by
  obtain ⟨instant, past, hfirst, hlast, hpast, hlive⟩ := h
  exact ⟨instant, past, hfirst, hlast, History.states_push_of_some hpast, hlive⟩

/-- The past stays unbound. -/
theorem Unbound.push {first deadline : ℕ} (h : Unbound thread first deadline history)
    (hdeadline : deadline ≤ history.now) : Unbound thread first deadline (history.push session) := by
  intro instant before after hfirst hlast hbefore hafter
  have hnow : instant + 1 ≤ history.now := Nat.le_trans hlast hdeadline
  have hpast : ∀ (earlier : ℕ) (state : TargetSession ι), earlier ≤ history.now →
      (history.push session).states[earlier]? = some state →
      history.states[earlier]? = some state := by
    intro earlier state hearlier hstate
    rcases History.states_push_cases hstate with hold | ⟨hlate, -⟩
    · exact hold
    · omega
  exact h instant before after hfirst hlast (hpast instant before (by omega) hbefore)
    (hpast (instant + 1) after hnow hafter)

/-- A step that binds nothing extends an unbound past. -/
theorem Unbound.step {first : ℕ} (h : Unbound thread first history.now history)
    (hstep : history.current.target.writer = some thread → session.target.ownerLive = true →
      history.current.target.ownerLive = true) :
    Unbound thread first (history.push session).now (history.push session) := by
  intro instant before after hfirst hlast hbefore hafter hwriter hlive
  rw [History.now_push] at hlast
  rcases Nat.lt_or_eq_of_le (Nat.le_of_lt_succ hlast) with hearlier | rfl
  · exact h.push le_rfl instant before after hfirst hearlier hbefore hafter hwriter hlive
  · rcases History.states_push_cases hbefore with hold | ⟨hlate, -⟩
    · obtain rfl := Option.some.inj (History.states_now.symm.trans hold)
      rcases History.states_push_cases hafter with hpast | ⟨-, rfl⟩
      · have hbound := History.instant_le_now hpast
        omega
      · exact hstep hwriter hlive
    · omega

/-- What a status reader has seen stays seen. -/
theorem StatusSeen.push {startedAt : ℕ} {point : StatusPoint}
    (h : StatusSeen startedAt history point) :
    StatusSeen startedAt (history.push session) point := by
  cases point with
  | ownerPid firstGeneration =>
    obtain ⟨first, past, hpast, hrest⟩ := h
    exact ⟨first, past, History.states_push_of_some hpast, hrest⟩
  | ownerLive firstGeneration ownerPid =>
    obtain ⟨first, second, past, later, hle, hpast, hfirst, hlater, hrest⟩ := h
    exact ⟨first, second, past, later, hle, History.states_push_of_some hpast, hfirst,
      History.states_push_of_some hlater, hrest⟩
  | finalGeneration firstGeneration ownerPid ownerLive =>
    obtain ⟨first, second, third, past, later, last, hle, hnext, hstarted, hpast, hfirst, hlater,
      hpid, hlast, hrest⟩ := h
    exact ⟨first, second, third, past, later, last, hle, hnext, hstarted,
      History.states_push_of_some hpast, hfirst, History.states_push_of_some hlater, hpid,
      History.states_push_of_some hlast, hrest⟩
  | required => trivial
  | firstGeneration => trivial
  | ownerFailure => trivial

/-- What holds of the owner in every history. -/
structure OwnerShared (history : History (TargetSession ι)) : Prop where
  coherent : ∀ past ∈ history.states, OwnerCoherent past.target
  chain : history.states.IsChain fun before after => OwnerFollows before.target after.target
  unique : Unique history
  retained : ∀ retained, history.current.windowIdentityAuthority = some retained →
    Activated retained.2 history

/-- Earlier states precede later ones. -/
theorem OwnerShared.follows (h : OwnerShared history) {earlier later : ℕ}
    {before after : TargetSession ι} (hle : earlier ≤ later)
    (hbefore : history.states[earlier]? = some before)
    (hafter : history.states[later]? = some after) : OwnerFollows before.target after.target :=
  History.rel_of_isChain
    (R := fun before after : TargetSession ι => OwnerFollows before.target after.target)
    (fun session => OwnerFollows.refl session.target) (fun _ _ _ => OwnerFollows.trans) h.chain hle
    hbefore hafter

/-- What every state so far has. -/
theorem OwnerShared.past (h : OwnerShared history) : OwnerPast history := by
  refine ⟨h.coherent, fun past hpast => ?_⟩
  obtain ⟨instant, hinstant, rfl⟩ := List.getElem_of_mem hpast
  have hstate := List.getElem?_eq_getElem hinstant
  exact h.follows (History.instant_le_now hstate) hstate History.states_now

/-- A step keeps what holds in every history. -/
theorem OwnerShared.push (h : OwnerShared history)
    (hevolves : OwnerEvolves history session.target)
    (hretained : ∀ retained, session.windowIdentityAuthority = some retained →
      Activated retained.2 history) : OwnerShared (history.push session) where
  coherent := History.forall_states_push h.coherent hevolves.coherent
  chain := History.isChain_push h.chain hevolves.follows
  unique := h.unique.push hevolves.activates
  retained := fun retained hsome => (hretained retained hsome).push

/-- A reader that finds the identity bound has seen it live with the pid it read. -/
theorem status_seen {generation startedAt : ℕ} {point : StatusPoint} (hshared : OwnerShared history)
    (hbegan : startedAt ≤ history.now) (h : StatusSeen startedAt history point) :
    (∀ later, ownerIdentityStatusStep generation history.current.target point = .inl later →
      StatusSeen startedAt (history.push history.current) later) ∧
    ∀ ownerPid, ownerIdentityStatusStep generation history.current.target point =
        .inr (.bound ownerPid) →
      SeenLive generation ownerPid startedAt (history.now + 1) history := by
  have hnow : history.states[history.now]? = some history.current := History.states_now
  cases point with
  | required =>
    simp only [ownerIdentityStatusStep]
    split
    · exact ⟨fun later hlater => Sum.inl.inj hlater ▸ trivial, nofun⟩
    · exact ⟨nofun, nofun⟩
  | firstGeneration =>
    refine ⟨fun later hlater => ?_, nofun⟩
    obtain rfl := Sum.inl.inj hlater
    exact ⟨history.now, history.current, History.states_push_of_some hnow, rfl⟩
  | ownerPid firstGeneration =>
    obtain ⟨first, session, hsession, hfirst⟩ := h
    refine ⟨fun later hlater => ?_, nofun⟩
    obtain rfl := Sum.inl.inj hlater
    exact ⟨first, history.now, session, history.current, History.instant_le_now hsession,
      History.states_push_of_some hsession, hfirst, History.states_push_of_some hnow, rfl⟩
  | ownerLive firstGeneration ownerPid =>
    obtain ⟨first, second, session, middle, hle, hsession, hfirst, hmiddle, hpid⟩ := h
    refine ⟨fun later hlater => ?_, nofun⟩
    obtain rfl := Sum.inl.inj hlater
    exact ⟨first, second, history.now, session, middle, history.current, hle,
      History.instant_le_now hmiddle, hbegan, History.states_push_of_some hsession, hfirst,
      History.states_push_of_some hmiddle, hpid, History.states_push_of_some hnow, rfl⟩
  | finalGeneration firstGeneration ownerPid ownerLive =>
    obtain ⟨first, second, third, session, middle, last, hle, hnext, hstarted, hsession, hfirst,
      hmiddle, hpid, hlast, hlive⟩ := h
    have hthird := History.instant_le_now hlast
    simp only [ownerIdentityStatusStep, statusVerdict]
    split_ifs with hfinal hmissing hexpected hdead
    · exact ⟨nofun, nofun⟩
    · exact ⟨nofun, nofun⟩
    · exact ⟨nofun, nofun⟩
    · exact ⟨fun later hlater => Sum.inl.inj hlater ▸ trivial, nofun⟩
    · refine ⟨nofun, fun pid hbound => ?_⟩
      obtain rfl := OwnerIdentityStatus.bound.inj (Sum.inr.inj hbound)
      have hgeneration : history.current.target.ownerGeneration = generation :=
        (not_not.mp hfinal).symm.trans (not_not.mp hexpected)
      -- the owner's generation is the same at all four reads
      have hsame : last.target.ownerGeneration = generation := by
        apply le_antisymm
        · exact hgeneration ▸ (hshared.follows hthird hlast hnow).ownerGeneration
        · rw [← not_not.mp hexpected, ← hfirst]
          exact (hshared.follows (hle.trans hnext) hsession hlast).ownerGeneration
      have hmiddleSame : middle.target.ownerGeneration = last.target.ownerGeneration := by
        apply le_antisymm (hshared.follows hnext hmiddle hlast).ownerGeneration
        rw [hsame, ← not_not.mp hexpected, ← hfirst]
        exact (hshared.follows hle hsession hmiddle).ownerGeneration
      have hlastLive : last.target.ownerLive = true :=
        hlive.trans ((Bool.not_eq_false _).mp hdead)
      have honly := (hshared.unique second third middle last hnext hmiddle hlast hlastLive
        hmiddleSame).1 (hpid ▸ hmissing)
      exact ⟨third, last, hstarted, Nat.lt_succ_of_le hthird, hlast, hlastLive, hsame,
        honly.symm.trans hpid⟩
  | ownerFailure =>
    refine ⟨nofun, fun ownerPid hbound => ?_⟩
    have hstatus := Sum.inr.inj hbound
    cases hfailure : history.current.target.ownerFailure <;> rw [hfailure] at hstatus <;>
      cases hstatus

/-- What is dead and cannot come alive stays dead. -/
theorem Untouched.dead (h : Untouched target next) (hdead : target.ownerLive = false) :
    next.ownerLive = false := by
  by_contra hlive
  have hbefore := h.ownerLive ((Bool.not_eq_false _).mp hlive)
  rw [hdead] at hbefore
  cases hbefore

/-- What a publisher knows of the owner survives the steps of the others. -/
theorem PublishOwnerReady.untouched {hwnd : ℤ} {point : PublishPoint}
    (hready : PublishReady 0 thread hwnd target point) (h : PublishOwnerReady target point)
    (huntouched : target.writer = some thread → Untouched target next) :
    PublishOwnerReady next point := by
  cases point with
  | storeHwnd stableEpoch => exact (huntouched hready.1).dead h
  | addGeneration stableEpoch => exact (huntouched hready.1).dead h
  | storeStable stableEpoch => exact (huntouched hready.1).dead h
  | _ => trivial

/-- What a binder knows of the owner survives the steps of the others. -/
theorem BindOwnerReady.untouched {hwnd : ℤ} {generation ownerPid : ℕ} {point : BindPoint}
    (hready : BindReady thread history.current.target point)
    (h : BindOwnerReady hwnd generation ownerPid history point)
    (huntouched : history.current.target.writer = some thread →
      Untouched history.current.target session.target) :
    BindOwnerReady hwnd generation ownerPid (history.push session) point := by
  have hkept : BindReady thread history.current.target point → point ≠ .lock →
      Untouched history.current.target session.target := by
    intro hwriter hpoint
    apply huntouched
    cases point <;> first | exact hwriter | exact absurd rfl hpoint
  have hpublished : Untouched history.current.target session.target →
      session.target.published = history.current.target.published := fun hsame =>
    published_congr hsame.publicationEpoch hsame.targetHwnd hsame.targetGeneration
  have hfresh : Untouched history.current.target session.target →
      (∀ past ∈ history.states, Fresh generation past.target) →
      ∀ past ∈ (history.push session).states, Fresh generation past.target := fun hsame hall =>
    History.forall_states_push hall
      ((hall history.current History.current_mem_states).congr hsame.ownerGeneration hsame.ownerPid)
  have hsettled : Untouched history.current.target session.target →
      (∀ past ∈ history.states, Settled generation ownerPid past.target) →
      ∀ past ∈ (history.push session).states, Settled generation ownerPid past.target :=
    fun hsame hall => History.forall_states_push hall
      ((hall history.current History.current_mem_states).congr hsame.ownerGeneration hsame.ownerPid
        hsame.ownerLive)
  cases point with
  | lock => trivial
  | compareEpoch => exact h
  | compareHwnd =>
    have hsame := hkept hready nofun
    exact ⟨h.1, hsame.publicationEpoch.symm ▸ h.2⟩
  | compareGeneration =>
    have hsame := hkept hready nofun
    exact ⟨h.1, hsame.publicationEpoch.symm ▸ h.2.1, hsame.targetHwnd.trans h.2.2⟩
  | comparePid =>
    have hsame := hkept hready nofun
    exact ⟨h.1, (hpublished hsame).trans h.2⟩
  | compareOwnerGeneration =>
    have hsame := hkept hready nofun
    exact ⟨h.1, (hpublished hsame).trans h.2⟩
  | storeRequired =>
    have hsame := hkept hready nofun
    exact ⟨h.1, (hpublished hsame).trans h.2.1, hfresh hsame h.2.2⟩
  | storeFailure =>
    have hsame := hkept hready nofun
    exact ⟨h.1, (hpublished hsame).trans h.2.1, hfresh hsame h.2.2⟩
  | storeUnlive =>
    have hsame := hkept hready nofun
    exact ⟨h.1, (hpublished hsame).trans h.2.1, hfresh hsame h.2.2⟩
  | storePid =>
    have hsame := hkept hready nofun
    exact ⟨h.1, (hpublished hsame).trans h.2.1, hsame.dead h.2.2.1, hfresh hsame h.2.2.2⟩
  | storeGeneration =>
    have hsame := hkept hready nofun
    exact ⟨h.1, (hpublished hsame).trans h.2.1, hsame.dead h.2.2.1, hsame.ownerPid.trans h.2.2.2.1,
      hsettled hsame h.2.2.2.2⟩
  | storeLive =>
    have hsame := hkept hready nofun
    exact ⟨h.1, (hpublished hsame).trans h.2.1, hsame.ownerGeneration.trans h.2.2.1,
      hsame.ownerPid.trans h.2.2.2.1, hsettled hsame h.2.2.2.2⟩
  | unlock bound => exact fun hbound => (h hbound).push

/-- What a call knows of the owner survives the steps of the others. -/
theorem OwnerReady.stable {other : ι} {op : Op} {startedAt : ℕ} {announced : Option ℤ} {call : Call}
    (hother : thread ≠ other) (hready : Ready 0 thread op history.current.target call)
    (h : OwnerReady thread op startedAt history call)
    (hsteps : Steps 0 other announced history.current.target session.target) :
    OwnerReady thread op startedAt (history.push session) call := by
  have huntouched := hsteps.untouched thread hother
  have hunbound : Unbound thread startedAt history.now history →
      Unbound thread startedAt (history.push session).now (history.push session) := fun hpast =>
    hpast.step fun hwriter => (huntouched hwriter).ownerLive
  cases call with
  | publish hwnd forceGeneration point =>
    exact PublishOwnerReady.untouched hready.2 h huntouched
  | load use point =>
    cases use with
    | bind authority => exact ⟨h.1, hunbound h.2⟩
    | poll retained => exact Activated.push h
    | loadStable => trivial
    | isCurrent hwnd generation => trivial
  | status use point =>
    cases use with
    | ownerIdentityStatus generation => exact ⟨h.1, h.2.push⟩
    | poll => trivial
  | invalidate use point =>
    cases use with
    | poll retained => exact Activated.push h
    | close taken =>
      cases taken with
      | none => trivial
      | some retained => exact Activated.push h
  | bindLock authority hwnd generation => exact ⟨h.1, h.2.1, hunbound h.2.2⟩
  | bindContinuity authority hwnd generation => exact ⟨h.1, h.2.1, hunbound h.2.2⟩
  | bindOwner authority hwnd generation point =>
    exact ⟨h.1, h.2.1, BindOwnerReady.untouched hready h.2.2.1 huntouched,
      fun hpoint => hunbound (h.2.2.2 hpoint)⟩
  | bindRetain authority generation => exact Activated.push h
  | bindUnlock result =>
    cases result with
    | error error => exact hunbound h
    | ok done => trivial
  | pollContinuity retained => exact Activated.push h
  | pollUnlock answer invalidated =>
    cases invalidated with
    | none => trivial
    | some retained =>
      exact (Revoked.push h).mono (Nat.le_of_lt (History.now_push.symm ▸ Nat.lt_succ_self _))
  | closeUnlock taken =>
    cases taken with
    | none => trivial
    | some retained => exact Activated.push h
  | pollLock => trivial
  | pollRetained => trivial
  | closeLock => trivial
  | closeTake => trivial

/-- How a step may leave an identity live: it was, or the step ends the binding of an authority to
the published target. -/
def Establishes (thread : ι) (op : Op) (before after : SessionTarget ι) : Prop :=
  after.ownerLive = true →
    (before.ownerLive = true ∧ before.ownerGeneration = after.ownerGeneration ∧
      before.ownerPid = after.ownerPid) ∨
    ∃ authority, op = .bindWindowIdentityAuthority authority ∧ before.writer = some thread ∧
      before.ownerLive = false ∧
      after.published = some (authority.hwnd, after.ownerGeneration) ∧
      after.ownerPid = authority.ownerPid

/-- What a step's outcome establishes of the owner. -/
def OwnerOutcome (thread : ι) (op : Op) (startedAt : ℕ) (history : History (TargetSession ι)) :
    Call ⊕ Result → Prop
  | .inl call => OwnerReady thread op startedAt history call
  | .inr result => OwnerReturned ⟨thread, op, startedAt, history.now, result⟩ history

/-- What one atomic step of a call does to the owner. -/
structure OwnerStep (thread : ι) (op : Op) (startedAt : ℕ) (history : History (TargetSession ι))
    (session : TargetSession ι) (outcome : Call ⊕ Result) : Prop where
  evolves : OwnerEvolves history session.target
  retained : ∀ retained, session.windowIdentityAuthority = some retained →
    Activated retained.2 history
  establishes : Establishes thread op history.current.target session.target
  outcome : OwnerOutcome thread op startedAt (history.push session) outcome

variable {op : Op} {startedAt : ℕ} {outcome : Call ⊕ Result}

/-- A step that makes nothing live and keeps the retained authority. -/
theorem OwnerStep.of_steps (hshared : OwnerShared history)
    (hsteps : OwnerSteps history.current.target session.target)
    (hretained : session.windowIdentityAuthority = history.current.windowIdentityAuthority)
    (houtcome : OwnerOutcome thread op startedAt (history.push session) outcome) :
    OwnerStep thread op startedAt history session outcome where
  evolves := hsteps.evolves
  retained := fun retained hsome => hshared.retained retained (hretained ▸ hsome)
  establishes := fun hlive => Or.inl (hsteps.live hlive)
  outcome := houtcome

/-- A step that leaves the target and the retained authority alone. -/
theorem OwnerStep.quiet (hshared : OwnerShared history)
    (htarget : session.target = history.current.target)
    (hretained : session.windowIdentityAuthority = history.current.windowIdentityAuthority)
    (houtcome : OwnerOutcome thread op startedAt (history.push session) outcome) :
    OwnerStep thread op startedAt history session outcome := by
  apply OwnerStep.of_steps hshared ?_ hretained houtcome
  rw [htarget]
  exact OwnerSteps.refl (hshared.coherent history.current History.current_mem_states)

/-- An unbound past extends over a step that leaves the target alone. -/
theorem Unbound.quiet (h : Unbound thread startedAt history.now history)
    (htarget : session.target = history.current.target) :
    Unbound thread startedAt (history.push session).now (history.push session) :=
  h.step fun _ hlive => htarget ▸ hlive

/-- A binding call that fails has bound nothing. -/
theorem unbound_returned (error : BindWindowIdentityError)
    (h : Unbound thread startedAt history.now history) :
    OwnerReturned ⟨thread, op, startedAt, history.now, .bound (.error error)⟩ history :=
  ⟨le_rfl, h⟩

/-- What follows a load. -/
theorem loaded_owner {use : LoadUse} {point : LoadPoint} {pair : Option (ℤ × ℕ)}
    (h : OwnerReady thread op startedAt history (.load use point)) :
    OwnerOutcome thread op startedAt (history.push history.current) (loaded use pair) := by
  cases use with
  | loadStable => trivial
  | isCurrent hwnd generation => trivial
  | bind authority =>
    have hunbound : Unbound thread startedAt (history.push history.current).now
        (history.push history.current) := h.2.quiet rfl
    cases pair with
    | none => exact unbound_returned _ hunbound
    | some pair =>
      simp only [loaded]
      split
      · exact unbound_returned _ hunbound
      · rename_i hvalid
        exact ⟨h.1, not_not.mp fun hother => hvalid (Or.inl hother), hunbound⟩
  | poll retained =>
    have hactivated : Activated _ (history.push history.current) := Activated.push h
    cases pair with
    | none => exact hactivated
    | some pair =>
      simp only [loaded]
      split
      · trivial
      · exact hactivated

/-- One atomic step of a binder within its call. -/
theorem bindOwner_owner {authority : WindowIdentityAuthority} {hwnd : ℤ} {generation : ℕ}
    {point : BindPoint} {next : BindPoint ⊕ Bool} (hshared : OwnerShared history)
    (hready : BindReady thread history.current.target point)
    (h : OwnerReady thread op startedAt history (.bindOwner authority hwnd generation point))
    (hretained : session.windowIdentityAuthority = history.current.windowIdentityAuthority)
    (hstep : bindOwnerIdentityStep thread hwnd generation authority.ownerPid history.current.target
      point = some (session.target, next)) :
    OwnerStep thread op startedAt history session
      (.inl (next.elim (.bindOwner authority hwnd generation)
        (ownerBound authority generation))) := by
  obtain ⟨hop, hhwnd, hbind, hunbound⟩ := h
  have hcoherent := hshared.coherent history.current History.current_mem_states
  obtain ⟨hnext, hactivated⟩ := bind_owner hshared.past hbind hstep
  by_cases hpoint : point = .storeLive
  · subst hpoint
    obtain ⟨htarget, rfl⟩ := Prod.mk.inj (Option.some.inj hstep)
    refine ⟨htarget ▸ bind_evolves hcoherent hbind,
      fun retained hsome => hshared.retained retained (hretained ▸ hsome), fun _ => Or.inr ?_, ?_⟩
    · obtain ⟨-, hpublished, howner, hpid, hsettled⟩ := hbind
      have hdead := (hsettled history.current History.current_mem_states howner).1
      refine ⟨authority, hop, hready, hdead, ?_, ?_⟩
      · rw [← htarget]
        change history.current.target.published = some (authority.hwnd,
          history.current.target.ownerGeneration)
        rw [hpublished, howner, hhwnd]
      · rw [← htarget]
        exact hpid
    · exact ⟨hop, hhwnd, hnext _ rfl, fun hother => absurd rfl hother⟩
  · have hsteps := bind_ownerSteps hcoherent hbind hpoint hstep
    have hstill : point ≠ .unlock true →
        Unbound thread startedAt (history.push session).now (history.push session) := fun hother =>
      (hunbound hother).step fun _ hlive => (hsteps.live hlive).1
    apply OwnerStep.of_steps hshared hsteps hretained
    cases next with
    | inl later =>
      refine ⟨hop, hhwnd, hnext later rfl, fun _ => hstill ?_⟩
      rintro rfl
      cases (Prod.mk.inj (Option.some.inj hstep)).2
    | inr bound =>
      cases bound with
      | true => exact (hactivated rfl).push
      | false =>
        apply hstill
        rintro rfl
        cases (Prod.mk.inj (Option.some.inj hstep)).2

/-- One atomic step of a call, and what it does to the owner. -/
theorem step_owner {continuity : WindowIdentityContinuity} {call : Call}
    (hshared : OwnerShared history) (hbegan : startedAt ≤ history.now)
    (hready : Ready 0 thread op history.current.target call)
    (h : OwnerReady thread op startedAt history call)
    (hstep : step thread continuity call history.current = some (session, outcome)) :
    OwnerStep thread op startedAt history session outcome := by
  have hcoherent := hshared.coherent history.current History.current_mem_states
  cases call with
  | publish hwnd forceGeneration point =>
    obtain ⟨⟨after, next⟩, hpoint, hafter⟩ := Option.map_eq_some_iff.mp hstep
    obtain ⟨rfl, rfl⟩ := Prod.mk.inj hafter
    obtain ⟨hsteps, hnext⟩ := publish_owner hcoherent hready.2 h hpoint
    refine OwnerStep.of_steps hshared hsteps rfl ?_
    cases next with
    | inl later => exact hnext later rfl
    | inr published => trivial
  | load use point =>
    obtain ⟨rfl, rfl⟩ := Prod.mk.inj (Option.some.inj hstep)
    refine OwnerStep.quiet hshared rfl rfl ?_
    cases loadStableStep history.current.target point with
    | inl later =>
      cases use with
      | bind authority => exact ⟨h.1, h.2.quiet rfl⟩
      | poll retained => exact Activated.push h
      | loadStable => trivial
      | isCurrent hwnd generation => trivial
    | inr pair => exact loaded_owner h
  | status use point =>
    obtain ⟨rfl, rfl⟩ := Prod.mk.inj (Option.some.inj hstep)
    refine OwnerStep.quiet hshared rfl rfl ?_
    cases use with
    | poll =>
      cases ownerIdentityStatusStep StatusUse.poll.expectedGeneration history.current.target point <;>
        trivial
    | ownerIdentityStatus generation =>
      obtain ⟨hlater, hbound⟩ := @status_seen ι history generation startedAt point hshared hbegan h.2
      cases hpoint : ownerIdentityStatusStep generation history.current.target point with
      | inl later =>
        simp only [StatusUse.expectedGeneration, hpoint]
        exact ⟨h.1, hlater later hpoint⟩
      | inr status =>
        simp only [StatusUse.expectedGeneration, hpoint]
        cases status with
        | bound ownerPid =>
          refine ⟨generation, h.1, ?_⟩
          rw [History.now_push]
          exact (hbound ownerPid hpoint).push
        | _ => trivial
  | invalidate use point =>
    obtain ⟨rfl, rfl⟩ := Prod.mk.inj (Option.some.inj hstep)
    refine OwnerStep.of_steps hshared (invalidate_owner hcoherent) rfl ?_
    cases point with
    | storeFailure failure =>
      cases use with
      | poll retained => exact Activated.push h
      | close taken =>
        cases taken with
        | none => trivial
        | some retained => exact Activated.push h
    | storeLive =>
      cases use with
      | poll retained =>
        change Revoked retained.2 (history.push _).now _
        rw [History.now_push]
        exact Activated.revoke h rfl
      | close taken =>
        cases taken with
        | none => trivial
        | some retained =>
          change Revoked retained.2 (history.push _).now _
          rw [History.now_push]
          exact Activated.revoke h rfl
  | bindLock authority hwnd generation =>
    simp only [step] at hstep
    split at hstep
    · cases hstep
    · obtain ⟨rfl, rfl⟩ := Prod.mk.inj (Option.some.inj hstep)
      exact OwnerStep.quiet hshared rfl rfl ⟨h.1, h.2.1, h.2.2.quiet rfl⟩
  | bindContinuity authority hwnd generation =>
    obtain ⟨rfl, rfl⟩ := Prod.mk.inj (Option.some.inj hstep)
    refine OwnerStep.quiet hshared rfl rfl ?_
    split
    · exact h.2.2.quiet rfl
    · exact ⟨h.1, h.2.1, trivial, fun _ => h.2.2.quiet rfl⟩
  | bindOwner authority hwnd generation point =>
    obtain ⟨⟨after, next⟩, hpoint, hafter⟩ := Option.map_eq_some_iff.mp hstep
    obtain ⟨rfl, rfl⟩ := Prod.mk.inj hafter
    exact bindOwner_owner hshared hready h rfl hpoint
  | bindRetain authority generation =>
    obtain ⟨rfl, rfl⟩ := Prod.mk.inj (Option.some.inj hstep)
    have hsteps := OwnerSteps.refl hcoherent
    refine ⟨hsteps.evolves, fun retained hsome => ?_, fun hlive => Or.inl (hsteps.live hlive),
      trivial⟩
    obtain rfl := Option.some.inj hsome
    exact h
  | bindUnlock result =>
    obtain ⟨rfl, rfl⟩ := Prod.mk.inj (Option.some.inj hstep)
    refine OwnerStep.quiet hshared rfl rfl ?_
    cases result with
    | error error => exact unbound_returned error (Unbound.quiet h rfl)
    | ok done => trivial
  | pollLock =>
    simp only [step] at hstep
    split at hstep
    · cases hstep
    · obtain ⟨rfl, rfl⟩ := Prod.mk.inj (Option.some.inj hstep)
      exact OwnerStep.quiet hshared rfl rfl trivial
  | pollRetained =>
    obtain ⟨rfl, rfl⟩ := Prod.mk.inj (Option.some.inj hstep)
    refine OwnerStep.quiet hshared rfl rfl ?_
    cases hretained : history.current.windowIdentityAuthority with
    | none => trivial
    | some retained => exact (hshared.retained retained hretained).push
  | pollContinuity retained =>
    obtain ⟨rfl, rfl⟩ := Prod.mk.inj (Option.some.inj hstep)
    refine OwnerStep.quiet hshared rfl rfl ?_
    cases continuity with
    | continuous => trivial
    | _ => exact Activated.push h
  | pollUnlock answer invalidated =>
    obtain ⟨rfl, rfl⟩ := Prod.mk.inj (Option.some.inj hstep)
    refine OwnerStep.quiet hshared rfl rfl ?_
    cases invalidated with
    | none => trivial
    | some retained =>
      change Revoked retained.2 (history.push _).now _
      rw [History.now_push]
      exact (Revoked.push h).mono (Nat.le_succ _)
  | closeLock =>
    simp only [step] at hstep
    split at hstep
    · cases hstep
    · obtain ⟨rfl, rfl⟩ := Prod.mk.inj (Option.some.inj hstep)
      exact OwnerStep.quiet hshared rfl rfl trivial
  | closeTake =>
    obtain ⟨rfl, rfl⟩ := Prod.mk.inj (Option.some.inj hstep)
    have hsteps := OwnerSteps.refl hcoherent
    refine ⟨hsteps.evolves, by simp, fun hlive => Or.inl (hsteps.live hlive), ?_⟩
    cases hretained : history.current.windowIdentityAuthority with
    | none => trivial
    | some retained => exact (hshared.retained retained hretained).push
  | closeUnlock taken =>
    obtain ⟨rfl, rfl⟩ := Prod.mk.inj (Option.some.inj hstep)
    refine OwnerStep.quiet hshared rfl rfl ?_
    cases taken with
    | none => trivial
    | some retained => exact Activated.push h

/-- The assertions about the owner, on top of those about the publication. -/
def ownerAssertions (ι : Type) : Assertions ι Op Call Result (TargetSession ι) where
  shared := OwnerShared
  active thread active history := OwnerReady thread active.op active.startedAt history active.call
  guarantee _ _ _ := True
  completed := OwnerReturned

/-- Every operation begins ready. -/
theorem start_ownerReady (op : Op) : OwnerReady thread op history.now history op.start := by
  cases op with
  | bindWindowIdentityAuthority authority =>
    refine ⟨rfl, fun instant before after hfirst hlast => ?_⟩
    omega
  | ownerIdentityStatus generation => exact ⟨rfl, trivial⟩
  | setTargetHwnd hwnd => trivial
  | republishTargetGenerationForRevalidation hwnd => trivial
  | pollWindowIdentityAuthority => trivial
  | closeWindowIdentityAuthority => trivial
  | loadStable => trivial
  | isCurrent hwnd generation => trivial

/-- What a completed call's result tells stays true. -/
theorem OwnerReturned.push {call : CompletedCall ι Op Result} (h : OwnerReturned call history) :
    OwnerReturned call (history.push session) := by
  obtain ⟨thread, op, startedAt, finishedAt, result⟩ := call
  cases result with
  | status status =>
    cases status with
    | bound ownerPid =>
      obtain ⟨generation, hop, hseen⟩ := h
      exact ⟨generation, hop, hseen.push⟩
    | _ => trivial
  | polled answer invalidated =>
    cases invalidated with
    | none => trivial
    | some retained => exact Revoked.push h
  | closed taken =>
    cases taken with
    | none => trivial
    | some retained => exact Revoked.push h
  | bound result =>
    cases result with
    | error error =>
      refine ⟨?_, h.2.push h.1⟩
      rw [History.now_push]
      exact Nat.le_succ_of_le h.1
    | ok done => trivial
  | published published => trivial
  | loaded target => trivial
  | current current => trivial

/-- The calls keep the assertions about the owner. -/
theorem owner_relyGuarantee (ι : Type) [DecidableEq ι] :
    RelyGuarantee (protocol ι) (fun _ => True)
      ((publicationAssertions ι 0).and (ownerAssertions ι)) := by
  apply (publication_relyGuarantee ι 0).and
  · intro thread op history _ _
    exact start_ownerReady op
  · intro thread continuity active history session outcome hshared hbegan hactive hstep
    have howner := step_owner hshared.2 hbegan hactive.1 hactive.2 hstep
    refine ⟨trivial, hshared.2.push howner.evolves howner.retained, ?_⟩
    cases outcome with
    | inl call => exact howner.outcome
    | inr result => exact howner.outcome
  · intro thread other active history session hother _ hactive hguarantee
    obtain ⟨⟨announced, hsteps⟩, -⟩ := hguarantee
    exact OwnerReady.stable hother hactive.1 hactive.2 hsteps
  · intro call thread history session _ hcompleted _
    exact hcompleted.2.push

/-- A new session has no owner. -/
theorem new_owner (hwnd : ℤ) (required : Bool) :
    OwnerShared (History.start (new ι hwnd 0 required)) := by
  refine ⟨fun past hpast => ?_, List.isChain_singleton _, ?_, nofun⟩
  · rw [List.mem_singleton.mp hpast]
    exact ⟨nofun, le_rfl⟩
  · intro earlier later before after _ _ hafter hlive
    have hnew : after = new ι hwnd 0 required :=
      List.mem_singleton.mp (List.mem_of_getElem? hafter)
    rw [hnew] at hlive
    cases hlive

/-- In every interleaving: a reader that gets an identity bound for a generation has seen, at one
instant of its call, that generation as the target's and live with the pid it returns; a binding of
an authority with this pid and the window of exactly this generation made it live before, did not
fail, and nothing touched it since; no later generation had been published, and no poll or close
that withdrew the authority of this generation had completed, when the reader began. -/
theorem bound_owner_provenance [DecidableEq ι] {hwnd : ℤ} {required : Bool}
    {moves : List (Move ι Op WindowIdentityContinuity)}
    {execution : Execution ι Op Call Result (TargetSession ι)}
    (hrun : (protocol ι).run (Execution.initial (new ι hwnd 0 required)) moves = some execution) :
    ∀ read ∈ execution.completed, ∀ generation ownerPid,
      read.op = .ownerIdentityStatus generation → read.result = .status (.bound ownerPid) →
      ∃ seen, read.startedAt ≤ seen ∧ seen < read.finishedAt ∧
        (∃ bound before after thread authority startedAt, bound < seen ∧
          execution.history.states[bound]? = some before ∧
          execution.history.states[bound + 1]? = some after ∧
          execution.Ran thread (.bindWindowIdentityAuthority authority) startedAt bound ∧
          after.target.published = some (authority.hwnd, generation) ∧
          authority.ownerPid = ownerPid ∧
          (∀ call ∈ execution.completed, call.thread = thread → call.startedAt = startedAt →
            bound < call.finishedAt → ∀ error, call.result ≠ .bound (.error error)) ∧
          ∀ (instant : ℕ) (session : TargetSession ι), bound < instant → instant ≤ seen →
            execution.history.states[instant]? = some session →
            session.target.ownerLive = true ∧ session.target.ownerPid = ownerPid ∧
              session.target.ownerGeneration = generation ∧
              session.target.targetGeneration = generation) ∧
        (∀ (instant : ℕ) (session : TargetSession ι), instant ≤ seen →
          execution.history.states[instant]? = some session →
          session.target.targetGeneration ≤ generation) ∧
        ∀ call ∈ execution.completed, call.finishedAt ≤ read.startedAt → ∀ retained,
          ((∃ answer, call.result = .polled answer (some retained)) ∨
            call.result = .closed (some retained)) → retained.2 ≠ generation := by
  have hnew := @new_coherent ι hwnd 0 required (by decide)
  have hstart : ((publicationAssertions ι 0).and (ownerAssertions ι)).shared
      (History.start (new ι hwnd 0 required)) :=
    ⟨⟨fun session hsession => List.mem_singleton.mp hsession ▸ hnew, List.isChain_singleton _⟩,
      new_owner hwnd required⟩
  have hallowed : ∀ move ∈ moves, move.Invokes fun _ : Op => True := by
    intro move _
    cases move <;> trivial
  have hold := (owner_relyGuarantee ι).run hstart hallowed hrun
  have hshared : OwnerShared execution.history := hold.shared.2
  have hsteps := (owner_relyGuarantee ι).provenance
    (R := fun thread active before after =>
      Establishes thread active.op before.target after.target)
    (fun thread continuity active history session outcome hshared hbegan hactive hstep =>
      (step_owner hshared.2 hbegan hactive.1 hactive.2 hstep).establishes)
    hstart hallowed hrun
  have hcompleted : ∀ call ∈ execution.completed, OwnerReturned call execution.history :=
    fun call hcall => (hold.completed call hcall).2
  intro read hread generation ownerPid hop hresult
  have hreturned := hcompleted read hread
  simp only [OwnerReturned, hresult] at hreturned
  obtain ⟨expected, hexpected, seen, session, hfirst, hlast, hsession, hlive, hgeneration, hpid⟩ :=
    hreturned
  obtain rfl : generation = expected := Op.ownerIdentityStatus.inj (hop.symm.trans hexpected)
  have htarget : session.target.targetGeneration = generation :=
    ((hshared.coherent session (List.mem_of_getElem? hsession)).live hlive).2.symm.trans hgeneration
  refine ⟨seen, hfirst, hlast, ?_, ?_, ?_⟩
  · obtain ⟨bound, before, hlt, hbefore, hnot, hstays⟩ := History.exists_last_change
      (P := fun session : TargetSession ι => session.target.ownerLive = true ∧
        session.target.ownerGeneration = generation ∧ session.target.ownerPid = ownerPid)
      hsession ⟨hlive, hgeneration, hpid⟩ (Protocol.run_starts hrun) nofun
    obtain ⟨after, hafter⟩ := History.exists_state
      (Nat.le_trans hlt (History.instant_le_now hsession))
    obtain ⟨hafterLive, hafterGeneration, hafterPid⟩ :=
      hstays (bound + 1) after (Nat.lt_succ_self bound) hlt hafter
    obtain ⟨thread, active, hran, hestablishes⟩ := hsteps bound before after hbefore hafter
    rcases hestablishes hafterLive with ⟨hheld, hsame, hsamePid⟩ |
      ⟨authority, hauthority, hwriter, hdead, hpublished, hboundPid⟩
    · exact absurd ⟨hheld, hsame.trans hafterGeneration, hsamePid.trans hafterPid⟩ hnot
    · refine ⟨bound, before, after, thread, authority, active.startedAt, hlt, hbefore, hafter,
        hauthority ▸ hran, hafterGeneration ▸ hpublished, hboundPid.symm.trans hafterPid, ?_, ?_⟩
      · intro call hcall hthread hstarted hfinished error herror
        have hfailed := hcompleted call hcall
        simp only [OwnerReturned, herror, hthread, hstarted] at hfailed
        have hbeforeLive := hfailed.2 bound before after hran.1 hfinished hbefore hafter hwriter
          hafterLive
        rw [hdead] at hbeforeLive
        cases hbeforeLive
      · intro instant state hbound hseen hstate
        obtain ⟨hstateLive, hstateGeneration, hstatePid⟩ := hstays instant state hbound hseen hstate
        have hsame :=
          ((hshared.coherent state (List.mem_of_getElem? hstate)).live hstateLive).2
        exact ⟨hstateLive, hstatePid, hstateGeneration, hsame.symm.trans hstateGeneration⟩
  · intro instant state hle hstate
    rw [← htarget]
    exact (hshared.follows hle hstate hsession).targetGeneration
  · intro call hcall hfinished retained hwithdrawn hsame
    have hrevoked : Revoked retained.2 call.finishedAt execution.history := by
      have hreturned := hcompleted call hcall
      rcases hwithdrawn with ⟨answer, hpolled⟩ | hclosed
      · simp only [OwnerReturned, hpolled] at hreturned
        exact hreturned
      · simp only [OwnerReturned, hclosed] at hreturned
        exact hreturned
    obtain ⟨live, dead, before, after, hle, hdeadline, hbefore, hbeforeLive, hbeforeGeneration,
      hafter, hdead⟩ := hrevoked
    have hseen : dead ≤ seen := hdeadline.trans (hfinished.trans hfirst)
    -- a withdrawn generation would have come alive again
    have hthroughout := (hshared.unique live seen before session (hle.trans hseen) hbefore hsession
      hlive (by rw [hbeforeGeneration, hsame, hgeneration])).2 hbeforeLive
    rw [hthroughout dead after hle hseen hafter] at hdead
    cases hdead

/-- There are two threads. -/
local instance owningThreads : NeZero 2 := ⟨Nat.succ_ne_zero 1⟩

/-- A window is published and bound, a reader looks, and a poll finds its process terminated. -/
def terminatedOwnerMoves : List (Move (Fin 2) Op WindowIdentityContinuity) :=
  [.invoke 0 (.setTargetHwnd 100)] ++ List.replicate 10 (.advance 0 .continuous) ++
  [.invoke 0 (.bindWindowIdentityAuthority ⟨100, 7⟩)] ++
  List.replicate 20 (.advance 0 .continuous) ++
  [.invoke 1 (.ownerIdentityStatus 1)] ++ List.replicate 5 (.advance 1 .continuous) ++
  [.invoke 0 .pollWindowIdentityAuthority] ++
  List.replicate 10 (.advance 0 .processTerminated) ++
  [.invoke 1 (.ownerIdentityStatus 1)] ++ List.replicate 6 (.advance 1 .continuous)

/-- The pid with which a status is bound. -/
def Result.boundPid : Result → Option ℕ
  | .status (.bound ownerPid) => some ownerPid
  | _ => none

/-- A status with a bound pid is that of a live identity. -/
theorem Result.eq_of_boundPid {result : Result} {ownerPid : ℕ} (h : result.boundPid = some ownerPid) :
    result = .status (.bound ownerPid) := by
  cases result with
  | status status =>
    cases status with
    | bound pid => rw [Option.some.inj h]
    | _ => cases h
  | _ => cases h

/-- The first reader gets the pid of the binding, and the second one no longer does. -/
theorem terminatedOwnerMoves_provenance : ∃ execution,
    (protocol (Fin 2)).run (Execution.initial (new (Fin 2) 0 0 true)) terminatedOwnerMoves =
      some execution ∧
    execution.completed.map (fun call => (call.op, call.result.boundPid)) =
      [(.setTargetHwnd 100, none), (.bindWindowIdentityAuthority ⟨100, 7⟩, none),
        (.ownerIdentityStatus 1, some 7), (.pollWindowIdentityAuthority, none),
        (.ownerIdentityStatus 1, none)] ∧
    ∃ bound thread authority startedAt,
      execution.Ran thread (.bindWindowIdentityAuthority authority) startedAt bound ∧
      authority.ownerPid = 7 := by
  have hcheck : ((protocol (Fin 2)).run (Execution.initial (new (Fin 2) 0 0 true))
      terminatedOwnerMoves).any (fun execution => decide
        (execution.completed.map (fun call => (call.op, call.result.boundPid)) =
          [(.setTargetHwnd 100, none), (.bindWindowIdentityAuthority ⟨100, 7⟩, none),
            (.ownerIdentityStatus 1, some 7), (.pollWindowIdentityAuthority, none),
            (.ownerIdentityStatus 1, none)])) = true := by
    decide +kernel
  obtain ⟨execution, hrun, hcalls⟩ := (Option.any_eq_true _ _).mp hcheck
  have hcompleted := of_decide_eq_true hcalls
  obtain ⟨read, hread, hpair⟩ := List.mem_map.mp (hcompleted ▸ (by decide) :
    (Op.ownerIdentityStatus 1, some 7) ∈
      execution.completed.map fun call => (call.op, call.result.boundPid))
  obtain ⟨hop, hpid⟩ := Prod.mk.inj hpair
  obtain ⟨-, -, -, ⟨bound, -, -, thread, authority, startedAt, -, -, -, hran, -, hauthority, -⟩, -⟩ :=
    bound_owner_provenance hrun read hread 1 7 hop (Result.eq_of_boundPid hpid)
  exact ⟨execution, hrun, hcompleted, bound, thread, authority, startedAt, hran, hauthority⟩

end TargetSession

end SkyAutoPlayer.Player
