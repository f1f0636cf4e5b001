import SkyAutoPlayer.Desktop.UpdateService

/-!
# Update offers and preferences

A check keeps the lock of the settings until its offer is published, so that the preferences do not
change under it. An installation keeps nothing but its copy of the candidate. The service offers what
the preferences rule out exactly where an installation goes on with a candidate that a change of the
preferences has dropped since the candidate was copied.
-/

namespace SkyAutoPlayer.Desktop

open Foundation AppCore

namespace UpdateEvent

/-- A check that began after a change of the preferences found an offer. -/
def findsAfter (number : ℕ) (offer : UpdateOffer) : UpdateEvent → Bool
  | .found changes other => number < changes && other = offer
  | _ => false

/-- The change of the preferences that dropped the offer of the service. -/
def reset? : UpdateEvent → Option (ℕ × UpdateExclusion)
  | .reset number exclusion => some (number, exclusion)
  | _ => none

/-- The change of the preferences that has returned. -/
def returned? : UpdateEvent → Option (ℕ × UpdateExclusion)
  | .returned number exclusion => some (number, exclusion)
  | _ => none

/-- What the user interface is offered, and what is ready or installed. -/
def puts : UpdateEvent → Option UpdateOffer
  | .published snapshot => snapshot.offer
  | .applied snapshot =>
    if snapshot.state = .ready ∨ snapshot.state = .installing then snapshot.offer else none
  | _ => none

end UpdateEvent

/-- A check that began after a change of the preferences has found an offer. -/
def FoundAfter (history : List UpdateEvent) (number : ℕ) (offer : UpdateOffer) : Prop :=
  ∃ event ∈ history, event.findsAfter number offer = true

instance (history : List UpdateEvent) (number : ℕ) (offer : UpdateOffer) :
    Decidable (FoundAfter history number offer) := by
  unfold FoundAfter
  infer_instance

/-- If a change of the preferences rules an offer out, a later check has found it again. -/
def Cleared (history : List UpdateEvent) (offer : UpdateOffer)
    (ruling : Option (ℕ × UpdateExclusion)) : Prop :=
  ∀ found ∈ ruling, found.2.excludes offer = true → FoundAfter history found.1 offer

instance (history : List UpdateEvent) (offer : UpdateOffer)
    (ruling : Option (ℕ × UpdateExclusion)) : Decidable (Cleared history offer ruling) := by
  unfold Cleared
  infer_instance

/-- Nothing is offered, ready or installed that a change of the preferences ruled out which had returned
before, unless a later check found it again. -/
def Respected : List UpdateEvent → Prop
  | [] => True
  | event :: before =>
    (∀ offer ∈ event.puts, ∀ earlier ∈ before, Cleared before offer earlier.returned?) ∧
      Respected before

/-- Whether a history respects the preferences can be computed along it. -/
instance Respected.decidable : (history : List UpdateEvent) → Decidable (Respected history)
  | [] => isTrue trivial
  | event :: before =>
    have := Respected.decidable before
    inferInstanceAs (Decidable ((∀ offer ∈ event.puts, ∀ earlier ∈ before,
      Cleared before offer earlier.returned?) ∧ Respected before))

/-- A step of an installation meets the changes of the preferences as the code expects them. The
candidate that it puts into the state was not dropped since the installation copied it, and the
candidate that it publishes was not ruled out by a change that has returned since, unless a later check
found it again. -/
def MeetsOffers (choice : UpdateChoice) (call : UpdateCall) (shared : UpdateShared) : Prop :=
  match call.task with
  | .install _ phase =>
    match call.publishing with
    | some pending => choice.published = true → ∀ offer ∈ pending.snapshot.offer,
        ∀ event ∈ shared.history, event ∉ call.seen → Cleared shared.history offer event.returned?
    | none => ∀ made ∈ phase.transition?, ∀ offer ∈ made.1.offer,
        ∀ event ∈ shared.history, event ∉ call.seen → Cleared shared.history offer event.reset?
  | _ => True

instance (choice : UpdateChoice) (call : UpdateCall) (shared : UpdateShared) :
    Decidable (MeetsOffers choice call shared) := by
  unfold MeetsOffers
  cases call.task with
  | install requestedTarget phase =>
    dsimp only
    cases call.publishing <;> dsimp only <;> infer_instance
  | check | patch | reload | playback | calibration | shutdown => exact isTrue trivial

/-- The state after a transition offers what the channel of its candidate says. -/
def StateTransition.Coherent (transition : StateTransition) : Prop :=
  ∀ candidate ∈ transition.candidate, candidate.channel = transition.channel

namespace CheckPhase

/-- A check has the lock of the settings. -/
def holds : CheckPhase → Bool
  | .announcing _ _ | .asking _ _ | .concluding _ _ | .unlocking => true
  | .locking | .over _ => false

/-- What a check knows of the changes before it. -/
def changes? : CheckPhase → Option ℕ
  | .announcing _ changes | .asking _ changes | .concluding changes _ => some changes
  | .locking | .unlocking | .over _ => none

/-- The transition that a check has decided on. -/
def decided? : CheckPhase → Option StateTransition
  | .concluding _ transition => some transition
  | _ => none

end CheckPhase

namespace InstallPhase

/-- The transition that an installation has decided on. -/
def decided? : InstallPhase → Option StateTransition
  | .refusing transition | .concluding transition => some transition
  | _ => none

/-- The offer that an installation goes on with. -/
def offer : InstallPhase → Option UpdateOffer
  | .refusing transition | .concluding transition => transition.offer
  | .reserving copy | .naming copy => some copy.candidate.offer
  | .starting operation | .readying operation _ | .installing operation _ | .executing operation =>
    some operation.copy.candidate.offer
  | .downloading download | .progressing download _ => some download.operation.copy.candidate.offer
  | .loading | .copying _ | .releasing | .over => none

end InstallPhase

/-- What is known of an offer that a check has made: no change came after it. -/
def FoundLast (shared : UpdateShared) (offer : UpdateOffer) : Prop :=
  ∀ number < shared.changes, FoundAfter shared.history number offer

/-- What is known of an offer that an installation has copied. -/
def ClearedSince (shared : UpdateShared) (seen : List UpdateEvent) (offer : UpdateOffer) : Prop :=
  ∀ event ∈ seen, Cleared shared.history offer event.reset? ∧
    Cleared shared.history offer event.returned?

namespace UpdateTask

/-- A call has the lock of the settings. -/
def holds : UpdateTask → Bool
  | .check _ phase => phase.holds
  | _ => false

/-- What the service knows of what a call does. -/
def Placed (shared : UpdateShared) (seen : List UpdateEvent) : UpdateTask → Prop
  | .check _ phase =>
    (∀ changes ∈ phase.changes?, changes = shared.changes) ∧
      ∀ transition ∈ phase.decided?, transition.Coherent ∧
        ∀ offer ∈ transition.offer, FoundLast shared offer
  | .install _ phase =>
    (∀ transition ∈ phase.decided?, transition.Coherent) ∧
      ∀ offer ∈ phase.offer, ClearedSince shared seen offer
  | .patch _ (.resetting _ number _) => number < shared.changes
  | .patch _ (.returning number exclusion) => .reset number exclusion ∈ shared.history
  | _ => True

/-- What is known of an offer that a call publishes. -/
def Knows (shared : UpdateShared) (seen : List UpdateEvent) (offer : UpdateOffer) : UpdateTask → Prop
  | .check _ phase => phase.holds = true ∧ FoundLast shared offer
  | .install _ _ => ClearedSince shared seen offer
  | _ => False

end UpdateTask

/-- What the service knows of a call. -/
structure UpdateCall.Placed (shared : UpdateShared) (call : UpdateCall) : Prop where
  task : call.task.Placed shared call.seen
  failed : ∀ pending ∈ call.publishing, pending.failed.Placed shared call.seen
  holds : ∀ pending ∈ call.publishing, pending.failed.holds = call.task.holds
  knows : ∀ pending ∈ call.publishing, ∀ offer ∈ pending.snapshot.offer,
    call.task.Knows shared call.seen offer

/-- What holds of the state and the history of the service. -/
structure HistoryKept (shared : UpdateShared) : Prop where
  returned : ∀ number exclusion, .returned number exclusion ∈ shared.history →
    .reset number exclusion ∈ shared.history
  numbered : ∀ number exclusion, .reset number exclusion ∈ shared.history → number < shared.changes
  coherent : ∀ candidate ∈ shared.state.candidate, candidate.channel = shared.state.channel
  offered : ∀ candidate ∈ shared.state.candidate, ∀ event ∈ shared.history,
    Cleared shared.history candidate.offer event.reset?
  respected : Respected shared.history

variable {shared after : UpdateShared} {call moved : UpdateCall} {choice : UpdateChoice}
  {history grown : List UpdateEvent} {offer : UpdateOffer} {number : ℕ}
  {ruling : Option (ℕ × UpdateExclusion)}

/-- What a check has found stays found. -/
theorem FoundAfter.mono (h : FoundAfter history number offer) (hgrown : history ⊆ grown) :
    FoundAfter grown number offer := by
  obtain ⟨event, hevent, hfinds⟩ := h
  exact ⟨event, hgrown hevent, hfinds⟩

/-- What is cleared stays cleared. -/
theorem Cleared.mono (h : Cleared history offer ruling) (hgrown : history ⊆ grown) :
    Cleared grown offer ruling :=
  fun found hfound hexcludes => (h found hfound hexcludes).mono hgrown

/-- What a call knows stays true while others move. -/
theorem UpdateCall.Placed.mono (h : call.Placed shared) (hgrown : shared.history ⊆ after.history)
    (hchanges : shared.changes ≤ after.changes)
    (hheld : call.task.holds = true → after.changes = shared.changes) : call.Placed after := by
  have hfound {offer : UpdateOffer} (hsame : after.changes = shared.changes)
      (hlast : FoundLast shared offer) : FoundLast after offer :=
    fun number hnumber => (hlast number (hsame ▸ hnumber)).mono hgrown
  have hcleared {offer : UpdateOffer} (hsince : ClearedSince shared call.seen offer) :
      ClearedSince after call.seen offer :=
    fun event hevent => ⟨(hsince event hevent).1.mono hgrown, (hsince event hevent).2.mono hgrown⟩
  have htask {task : UpdateTask} (hsame : task.holds = true → after.changes = shared.changes)
      (hplaced : task.Placed shared call.seen) : task.Placed after call.seen := by
    cases task with
    | check origin phase =>
      obtain ⟨hbefore, hdecided⟩ := hplaced
      refine ⟨fun changes hphase => ?_, fun transition hphase => ?_⟩
      · have hholds : phase.holds = true := by cases phase <;> first | rfl | cases hphase
        rw [hsame hholds]
        exact hbefore changes hphase
      · have hholds : phase.holds = true := by cases phase <;> first | rfl | cases hphase
        obtain ⟨hcoherent, hoffers⟩ := hdecided transition hphase
        exact ⟨hcoherent, fun offer hoffer => hfound (hsame hholds) (hoffers offer hoffer)⟩
    | install requestedTarget phase =>
      exact ⟨hplaced.1, fun offer hoffer => hcleared (hplaced.2 offer hoffer)⟩
    | patch change phase =>
      cases phase with
      | resetting => exact Nat.lt_of_lt_of_le hplaced hchanges
      | returning => exact hgrown hplaced
      | patching | refused | «over» => trivial
    | reload | playback | calibration | shutdown => trivial
  refine ⟨htask hheld h.task, fun pending hpending => ?_, h.holds, fun pending hpending offer hoffer => ?_⟩
  · exact htask (fun hholds => hheld (h.holds pending hpending ▸ hholds)) (h.failed pending hpending)
  · have hknows := h.knows pending hpending offer hoffer
    cases htaskOf : call.task with
    | check origin phase =>
      rw [htaskOf] at hknows hheld
      exact ⟨hknows.1, hfound (hheld hknows.1) hknows.2⟩
    | install requestedTarget phase =>
      rw [htaskOf] at hknows
      exact hcleared hknows
    | patch | reload | playback | calibration | shutdown =>
      rw [htaskOf] at hknows
      exact hknows.elim

/-- A call that publishes nothing. -/
theorem UpdateCall.placed_of_task {task : UpdateTask} {seen : List UpdateEvent}
    (h : task.Placed shared seen) : (⟨task, none, seen⟩ : UpdateCall).Placed shared :=
  ⟨h, fun _ hnone => absurd hnone (Option.not_mem_none _),
    fun _ hnone => absurd hnone (Option.not_mem_none _),
    fun _ hnone => absurd hnone (Option.not_mem_none _)⟩

/-- What a step of a call does. -/
structure UpdateMoves (call moved : UpdateCall) (shared after : UpdateShared) : Prop where
  kept : HistoryKept after
  placed : moved.Placed after
  grown : shared.history ⊆ after.history
  changes : shared.changes ≤ after.changes
  free : after.changes = shared.changes ∨ shared.settingsHeld = false
  holds : after.settingsHeld.toNat + call.task.holds.toNat =
    shared.settingsHeld.toNat + moved.task.holds.toNat

/-- What was dropped by every change is cleared of every change that has returned. -/
theorem HistoryKept.returned_of_reset (h : HistoryKept shared)
    (hreset : ∀ event ∈ shared.history, Cleared shared.history offer event.reset?) :
    ∀ event ∈ shared.history, Cleared shared.history offer event.returned? := by
  intro event hevent found hfound hexcludes
  cases event with
  | returned number exclusion =>
    obtain rfl := Option.some.inj hfound
    exact hreset _ (h.returned number exclusion hevent) (number, exclusion) rfl hexcludes
  | reset | found | applied | published | lost => cases hfound

/-- What a check has found after every change is cleared of every change. -/
theorem HistoryKept.reset_of_last (h : HistoryKept shared) (hlast : FoundLast shared offer) :
    ∀ event ∈ shared.history, Cleared shared.history offer event.reset? := by
  intro event hevent found hfound _
  cases event with
  | reset number exclusion =>
    obtain rfl := Option.some.inj hfound
    exact hlast number (h.numbered number exclusion hevent)
  | returned | found | applied | published | lost => cases hfound

/-- An event that is no change of the preferences keeps the history. -/
theorem HistoryKept.push (h : HistoryKept shared) {event : UpdateEvent} (hreset : event.reset? = none)
    (hreturned : event.returned? = none)
    (hputs : ∀ offer ∈ event.puts, ∀ earlier ∈ shared.history,
      Cleared shared.history offer earlier.returned?) :
    HistoryKept { shared with history := event :: shared.history } where
  returned number exclusion hmem := by
    rcases List.mem_cons.mp hmem with rfl | hold
    · cases hreturned
    · exact List.mem_cons_of_mem event (h.returned number exclusion hold)
  numbered number exclusion hmem := by
    rcases List.mem_cons.mp hmem with rfl | hold
    · cases hreset
    · exact h.numbered number exclusion hold
  coherent := h.coherent
  offered candidate hcandidate earlier hmem := by
    rcases List.mem_cons.mp hmem with rfl | hold
    · rw [hreset]
      exact nofun
    · exact (h.offered candidate hcandidate earlier hold).mono (List.subset_cons_self event _)
  respected := ⟨hputs, h.respected⟩

/-- A change of the preferences that has returned keeps the history. -/
theorem HistoryKept.push_returned (h : HistoryKept shared) {exclusion : UpdateExclusion}
    (hmem : .reset number exclusion ∈ shared.history) :
    HistoryKept { shared with history := .returned number exclusion :: shared.history } where
  returned other found hfound := by
    apply List.mem_cons_of_mem
    rcases List.mem_cons.mp hfound with heq | hold
    · obtain ⟨rfl, rfl⟩ := UpdateEvent.returned.inj heq
      exact hmem
    · exact h.returned other found hold
  numbered other found hfound := by
    rcases List.mem_cons.mp hfound with heq | hold
    · cases heq
    · exact h.numbered other found hold
  coherent := h.coherent
  offered candidate hcandidate earlier hearlier := by
    rcases List.mem_cons.mp hearlier with rfl | hold
    · exact nofun
    · exact (h.offered candidate hcandidate earlier hold).mono (List.subset_cons_self _ _)
  respected := ⟨nofun, h.respected⟩

/-- A snapshot that is published offers what the preferences allow. -/
theorem cleared_of_publishing (hkept : HistoryKept shared) (hplaced : call.Placed shared)
    {pending : PendingPublication} (hpending : call.publishing = some pending)
    (hmeets : MeetsOffers choice call shared) (hpublished : choice.published = true) :
    ∀ offer ∈ pending.snapshot.offer, ∀ event ∈ shared.history,
      Cleared shared.history offer event.returned? := by
  intro offer hoffer event hevent
  have hknows := hplaced.knows pending hpending offer hoffer
  unfold MeetsOffers at hmeets
  cases htask : call.task with
  | check origin phase =>
    rw [htask] at hknows
    exact hkept.returned_of_reset (hkept.reset_of_last hknows.2) event hevent
  | install requestedTarget phase =>
    rw [htask] at hknows hmeets
    dsimp only at hmeets
    rw [hpending] at hmeets
    by_cases hseen : event ∈ call.seen
    · exact (hknows event hseen).2
    · exact hmeets hpublished offer hoffer event hevent hseen
  | patch | reload | playback | calibration | shutdown =>
    rw [htask] at hknows
    exact hknows.elim

/-- A publication keeps the history. -/
theorem publish_moves (hkept : HistoryKept shared) (hplaced : call.Placed shared)
    {pending : PendingPublication} (hpending : call.publishing = some pending)
    (hmeets : MeetsOffers choice call shared) :
    UpdateMoves call (shared.publish choice.published pending call).2 shared
      (shared.publish choice.published pending call).1 := by
  unfold UpdateShared.publish
  split
  case isTrue hpublished =>
    refine ⟨hkept.push rfl rfl (cleared_of_publishing hkept hplaced hpending hmeets hpublished), ?_,
      List.subset_cons_self _ _, le_rfl, .inl rfl, rfl⟩
    exact (UpdateCall.placed_of_task hplaced.task).mono (List.subset_cons_self _ _) le_rfl
      fun _ => rfl
  case isFalse =>
    have hholds := hplaced.holds pending hpending
    refine ⟨hkept.push rfl rfl fun _ hnone => absurd hnone (Option.not_mem_none _), ?_, List.subset_cons_self _ _, le_rfl, .inl rfl, ?_⟩
    · exact (UpdateCall.placed_of_task (hplaced.failed pending hpending)).mono
        (List.subset_cons_self _ _) le_rfl fun _ => rfl
    · dsimp only
      rw [hholds]

/-- The snapshot of a transition offers what the state offers after it. -/
theorem applyTransition_offer {state : NativeUpdateState} {transition : StateTransition} :
    (state.applyTransition transition).2.offer = transition.offer := by
  unfold NativeUpdateState.applyTransition UpdateSnapshot.offer StateTransition.offer
  dsimp only
  rw [Option.map_map]
  rfl

/-- What a coherent transition offers is its candidate. -/
theorem StateTransition.Coherent.mem_offer {transition : StateTransition} (h : transition.Coherent)
    {candidate : NativeUpdateCandidate} (hcandidate : candidate ∈ transition.candidate) :
    candidate.offer ∈ transition.offer := by
  unfold StateTransition.offer NativeUpdateCandidate.offer
  rw [Option.mem_def.mp hcandidate, h candidate hcandidate]
  rfl

/-- A transition keeps the history, if what it offers was dropped by no change. -/
theorem apply_moves (hkept : HistoryKept shared) {pending : PendingTransition}
    (hcoherent : pending.transition.Coherent)
    (hcleared : ∀ offer ∈ pending.transition.offer, ∀ event ∈ shared.history,
      Cleared shared.history offer event.reset?)
    (hresets : ∀ event ∈ call.task.resets, pending.transition.candidate = none ∧
      ∃ number exclusion, event = .reset number exclusion ∧ number < shared.changes)
    (hholds : pending.next.holds = call.task.holds)
    (hplaced : (shared.apply pending call).2.Placed (shared.apply pending call).1) :
    UpdateMoves call (shared.apply pending call).2 shared (shared.apply pending call).1 := by
  have hputs : ∀ offer ∈ (UpdateEvent.applied
      (shared.state.applyTransition pending.transition).2).puts, ∀ earlier ∈ shared.history,
        Cleared shared.history offer earlier.returned? := by
    intro offer hoffer
    unfold UpdateEvent.puts at hoffer
    dsimp only at hoffer
    split at hoffer
    · rw [applyTransition_offer] at hoffer
      exact hkept.returned_of_reset (hcleared offer hoffer)
    · cases hoffer
  have happlied : HistoryKept { shared with
      state := (shared.state.applyTransition pending.transition).1
      history := .applied (shared.state.applyTransition pending.transition).2 :: shared.history } := by
    have hpushed := hkept.push rfl rfl hputs
    refine ⟨hpushed.returned, hpushed.numbered, hcoherent, fun candidate hcandidate event hevent => ?_,
      hpushed.respected⟩
    rcases List.mem_cons.mp hevent with rfl | hold
    · exact nofun
    · exact (hcleared _ (hcoherent.mem_offer hcandidate) event hold).mono (List.subset_cons_self _ _)
  have hgrown : shared.history ⊆ (shared.apply pending call).1.history :=
    fun event hmem => List.mem_append_right _ (List.mem_cons_of_mem _ hmem)
  refine ⟨?_, hplaced, hgrown, le_rfl, .inl rfl, ?_⟩
  · unfold UpdateShared.apply
    dsimp only
    cases hmarks : call.task.resets with
    | nil => exact happlied
    | cons mark rest =>
      have hrest : rest = [] := by
        unfold UpdateTask.resets at hmarks
        split at hmarks
        · exact (List.cons.inj hmarks).2.symm
        · cases hmarks
      obtain ⟨hnone, number, exclusion, rfl, hnumber⟩ := hresets mark (by rw [hmarks]; exact .head _)
      subst hrest
      refine ⟨fun other found hmem => ?_, fun other found hmem => ?_, happlied.coherent,
        fun candidate hcandidate => ?_, nofun, happlied.respected⟩
      · rcases List.mem_cons.mp hmem with heq | hold
        · cases heq
        · exact List.mem_cons_of_mem _ (happlied.returned other found hold)
      · rcases List.mem_cons.mp hmem with heq | hold
        · obtain ⟨rfl, rfl⟩ := UpdateEvent.reset.inj heq
          exact hnumber
        · exact happlied.numbered other found hold
      · have habsent : (none : Option NativeUpdateCandidate) = some candidate :=
          hnone.symm.trans hcandidate
        cases habsent
  · unfold UpdateShared.apply
    dsimp only
    rw [hholds]

/-- What an installation has copied it keeps, and it decides on nothing with a transition. -/
theorem InstallPhase.transition?_spec {phase next failed : InstallPhase}
    {transition : StateTransition} (h : phase.transition? = some (transition, next, failed))
    (hdecided : ∀ decided ∈ phase.decided?, decided.Coherent) :
    transition.Coherent ∧ transition.offer = phase.offer ∧
      (next.decided? = none ∧ ∀ offer ∈ next.offer, offer ∈ phase.offer) ∧
        failed.decided? = none ∧ ∀ offer ∈ failed.offer, offer ∈ phase.offer := by
  unfold InstallPhase.transition? at h
  have hself {operation : InstallOperation} {state : UpdateState} {progress : UpdateProgressDto} :
      (operation.transition state progress).Coherent := by
    intro candidate hcandidate
    obtain rfl := Option.some.inj hcandidate
    rfl
  have hnone {phase : InstallPhase} : ∀ offer ∈ (none : Option UpdateOffer), offer ∈ phase.offer :=
    fun _ habsent => absurd habsent (Option.not_mem_none _)
  cases phase with
  | refusing decided | concluding decided =>
    obtain ⟨rfl, hrest⟩ := Prod.mk.inj (Option.some.inj h)
    obtain ⟨rfl, rfl⟩ := Prod.mk.inj hrest
    exact ⟨hdecided decided rfl, rfl, ⟨rfl, hnone⟩, rfl, hnone⟩
  | starting operation | readying operation | installing operation =>
    obtain ⟨rfl, hrest⟩ := Prod.mk.inj (Option.some.inj h)
    obtain ⟨rfl, rfl⟩ := Prod.mk.inj hrest
    exact ⟨hself, rfl, ⟨rfl, fun _ => id⟩, rfl, hnone⟩
  | progressing download =>
    obtain ⟨rfl, hrest⟩ := Prod.mk.inj (Option.some.inj h)
    obtain ⟨rfl, rfl⟩ := Prod.mk.inj hrest
    exact ⟨hself, rfl, ⟨rfl, fun _ => id⟩, rfl, fun _ => id⟩
  | loading | copying | reserving | naming | downloading | executing | releasing | «over» => cases h

/-- What a call knows while it makes a transition. -/
theorem placed_apply {pending : PendingTransition}
    (hnext : pending.next.Placed (shared.apply pending call).1 call.seen)
    (hfailed : pending.failed.Placed (shared.apply pending call).1 call.seen)
    (hholds : pending.failed.holds = pending.next.holds)
    (hknows : ∀ offer ∈ pending.transition.offer,
      pending.next.Knows (shared.apply pending call).1 call.seen offer) :
    (shared.apply pending call).2.Placed (shared.apply pending call).1 := by
  refine ⟨hnext, fun publication hpublication => ?_, fun publication hpublication => ?_,
    fun publication hpublication offer hoffer => ?_⟩
  · obtain rfl := Option.some.inj hpublication
    exact hfailed
  · obtain rfl := Option.some.inj hpublication
    exact hholds
  · obtain rfl := Option.some.inj hpublication
    exact hknows offer (applyTransition_offer ▸ hoffer)

/-- A transition without a candidate is coherent. -/
theorem StateTransition.coherent_of_none {transition : StateTransition}
    (h : transition.candidate = none) : transition.Coherent := by
  intro candidate hcandidate
  rw [h] at hcandidate
  cases hcandidate

/-- A check that has decided on nothing knows what came before it. -/
theorem CheckPhase.placed_of_undecided {origin : UpdateCheckOrigin} {phase : CheckPhase}
    {seen : List UpdateEvent} (hchanges : ∀ changes ∈ phase.changes?, changes = shared.changes)
    (hdecided : phase.decided? = none) : (UpdateTask.check origin phase).Placed shared seen := by
  refine ⟨hchanges, fun transition htransition => ?_⟩
  rw [hdecided] at htransition
  cases htransition

/-- A check that gives the lock back has nothing to know. -/
theorem CheckPhase.unlocking_placed {origin : UpdateCheckOrigin} {seen : List UpdateEvent} :
    (UpdateTask.check origin .unlocking).Placed shared seen :=
  CheckPhase.placed_of_undecided (fun _ hnone => absurd hnone (Option.not_mem_none _)) rfl

/-- The transition of a check keeps the history. -/
theorem apply_check {origin : UpdateCheckOrigin} {phase : CheckPhase} (hkept : HistoryKept shared)
    (hplaced : call.Placed shared) (htask : call.task = .check origin phase)
    {pending : PendingTransition} (hpending : call.task.transition? = some pending) :
    UpdateMoves call (shared.apply pending call).2 shared (shared.apply pending call).1 := by
  have hgrown : shared.history ⊆ (shared.apply pending call).1.history :=
    fun event hmem => List.mem_append_right _ (List.mem_cons_of_mem _ hmem)
  have hphase := hplaced.task
  rw [htask] at hpending hphase
  have hresets : call.task.resets = [] := by rw [htask]; rfl
  obtain ⟨hchanges, hdecided⟩ := hphase
  cases phase with
  | announcing channel changes =>
    obtain rfl := Option.some.inj hpending
    refine apply_moves hkept (StateTransition.coherent_of_none rfl)
      (fun _ hnone => absurd hnone (Option.not_mem_none _)) ?_ ?_
        (placed_apply (CheckPhase.placed_of_undecided hchanges rfl) CheckPhase.unlocking_placed rfl
          fun _ hnone => absurd hnone (Option.not_mem_none _))
    · rw [hresets]
      exact fun _ hmem => absurd hmem List.not_mem_nil
    · rw [htask]
      rfl
  | concluding changes transition =>
    obtain rfl := Option.some.inj hpending
    obtain ⟨hcoherent, hfound⟩ := hdecided transition rfl
    refine apply_moves hkept hcoherent (fun offer hoffer => hkept.reset_of_last (hfound offer hoffer))
      ?_ ?_ (placed_apply CheckPhase.unlocking_placed CheckPhase.unlocking_placed rfl
        fun offer hoffer => ⟨rfl, ?_⟩)
    · rw [hresets]
      exact fun _ hmem => absurd hmem List.not_mem_nil
    · rw [htask]
      rfl
    · exact fun number hnumber => (hfound offer hoffer number hnumber).mono hgrown
  | locking | asking | unlocking | «over» => cases hpending

/-- The transition of an installation keeps the history. -/
theorem apply_install {requestedTarget : String} {phase : InstallPhase} (hkept : HistoryKept shared)
    (hplaced : call.Placed shared) (htask : call.task = .install requestedTarget phase)
    (hquiet : call.publishing = none) (hmeets : MeetsOffers choice call shared)
    {pending : PendingTransition} (hpending : call.task.transition? = some pending) :
    UpdateMoves call (shared.apply pending call).2 shared (shared.apply pending call).1 := by
  have hgrown : shared.history ⊆ (shared.apply pending call).1.history :=
    fun event hmem => List.mem_append_right _ (List.mem_cons_of_mem _ hmem)
  have hphase := hplaced.task
  rw [htask] at hpending hphase
  have hresets : call.task.resets = [] := by rw [htask]; rfl
  have hholds : call.task.holds = false := by rw [htask]; rfl
  unfold MeetsOffers at hmeets
  rw [htask] at hmeets
  dsimp only at hmeets
  rw [hquiet] at hmeets
  obtain ⟨⟨transition, next, failed⟩, hmade, rfl⟩ := Option.map_eq_some_iff.mp hpending
  obtain ⟨hcoherent, hoffer, ⟨hnextDecided, hnextOffer⟩, hfailedDecided, hfailedOffer⟩ :=
    InstallPhase.transition?_spec hmade hphase.1
  have hsince : ∀ offer ∈ phase.offer, ClearedSince (shared.apply
      ⟨transition, .install requestedTarget next, .install requestedTarget failed⟩ call).1 call.seen
        offer :=
    fun offer hmem event hevent => ⟨(hphase.2 offer hmem event hevent).1.mono hgrown,
      (hphase.2 offer hmem event hevent).2.mono hgrown⟩
  refine apply_moves hkept hcoherent (fun offer hmem event hevent => ?_) ?_ hholds.symm
    (placed_apply ⟨?_, fun offer hmem => hsince offer (hnextOffer offer hmem)⟩
      ⟨?_, fun offer hmem => hsince offer (hfailedOffer offer hmem)⟩ rfl
        fun offer hmem => hsince offer (hoffer ▸ hmem))
  · -- the installation has seen that the change cleared the candidate, or the condition says it
    by_cases hseen : event ∈ call.seen
    · exact (hphase.2 offer (hoffer ▸ hmem) event hseen).1
    · exact hmeets _ hmade offer hmem event hevent hseen
  · rw [hresets]
    exact fun _ hmem => absurd hmem List.not_mem_nil
  · rw [hnextDecided]
    exact fun _ hnone => absurd hnone (Option.not_mem_none _)
  · rw [hfailedDecided]
    exact fun _ hnone => absurd hnone (Option.not_mem_none _)

/-- A change of the preferences that drops the offer keeps the history. -/
theorem apply_patch {change : UpdatePreferencesPatch} {phase : PatchPhase}
    (hkept : HistoryKept shared) (hplaced : call.Placed shared) (htask : call.task = .patch change phase)
    {pending : PendingTransition} (hpending : call.task.transition? = some pending) :
    UpdateMoves call (shared.apply pending call).2 shared (shared.apply pending call).1 := by
  have hphase := hplaced.task
  rw [htask] at hpending hphase
  cases phase with
  | resetting channel number exclusion =>
    obtain rfl := Option.some.inj hpending
    have hresets : call.task.resets = [.reset number exclusion] := by rw [htask]; rfl
    have hmem : .reset number exclusion ∈ (shared.apply ⟨{ channel := channel },
        .patch change (.returning number exclusion), .patch change (.returning number exclusion)⟩
          call).1.history := by
      unfold UpdateShared.apply
      dsimp only
      rw [hresets]
      exact List.mem_cons_self
    refine apply_moves hkept (StateTransition.coherent_of_none rfl)
      (fun _ hnone => absurd hnone (Option.not_mem_none _)) (fun event hevent => ⟨rfl, ?_⟩) ?_
        (placed_apply hmem hmem rfl fun _ hnone => absurd hnone (Option.not_mem_none _))
    · rw [hresets] at hevent
      obtain rfl := List.mem_singleton.mp hevent
      exact ⟨number, exclusion, rfl, hphase⟩
    · rw [htask]
      rfl
  | patching | refused | returning | «over» => cases hpending

/-- A transition of a call keeps the history. -/
theorem apply_task_moves (hkept : HistoryKept shared) (hplaced : call.Placed shared)
    (hquiet : call.publishing = none) (hmeets : MeetsOffers choice call shared)
    {pending : PendingTransition} (hpending : call.task.transition? = some pending) :
    UpdateMoves call (shared.apply pending call).2 shared (shared.apply pending call).1 := by
  cases htask : call.task with
  | check origin phase => exact apply_check hkept hplaced htask hpending
  | install requestedTarget phase =>
    exact apply_install hkept hplaced htask hquiet hmeets hpending
  | patch change phase => exact apply_patch hkept hplaced htask hpending
  | reload | playback | calibration | shutdown =>
    rw [htask] at hpending
    cases hpending

/-- A step that leaves the state and the history alone keeps the history. -/
theorem UpdateMoves.aside {task : UpdateTask} {seen : List UpdateEvent} (hkept : HistoryKept shared)
    (hhistory : after.history = shared.history) (hstate : after.state = shared.state)
    (hchanges : shared.changes ≤ after.changes)
    (hfree : after.changes = shared.changes ∨ shared.settingsHeld = false)
    (hholds : after.settingsHeld.toNat + call.task.holds.toNat =
      shared.settingsHeld.toNat + task.holds.toNat)
    (hplaced : task.Placed after seen) : UpdateMoves call ⟨task, none, seen⟩ shared after where
  kept := by
    refine ⟨?_, fun number exclusion hmem => ?_, ?_, ?_, ?_⟩
    · rw [hhistory]
      exact hkept.returned
    · rw [hhistory] at hmem
      exact Nat.lt_of_lt_of_le (hkept.numbered number exclusion hmem) hchanges
    · rw [hstate]
      exact hkept.coherent
    · rw [hstate, hhistory]
      exact hkept.offered
    · rw [hhistory]
      exact hkept.respected
  placed := UpdateCall.placed_of_task hplaced
  grown := by rw [hhistory]; exact List.Subset.refl _
  changes := hchanges
  free := hfree
  holds := hholds

/-- A check offers the first update that it found, or nothing. -/
theorem concludeCheck_cases {channel : UpdateChannel} {changes : ℕ} {now : ℤ}
    {updates : List UpdateRelease} {phase : CheckPhase}
    (h : concludeCheck channel changes now updates shared = (after, phase)) :
    (∃ preferences transition, after = { shared with preferences := preferences } ∧
      phase = .concluding changes transition ∧ transition.candidate = none) ∨
    ∃ preferences candidate transition, after = { shared with
        preferences := preferences
        history := .found changes candidate.offer :: shared.history } ∧
      phase = .concluding changes transition ∧ transition.candidate = some candidate ∧
        candidate.channel = transition.channel := by
  unfold concludeCheck at h
  cases updates with
  | nil =>
    obtain ⟨rfl, rfl⟩ := Prod.mk.inj h
    exact .inl ⟨_, _, rfl, rfl, rfl⟩
  | cons update rest =>
    dsimp only at h
    split at h
    · obtain ⟨rfl, rfl⟩ := Prod.mk.inj h
      exact .inr ⟨_, _, _, rfl, rfl, rfl, rfl⟩
    · obtain ⟨rfl, rfl⟩ := Prod.mk.inj h
      exact .inl ⟨_, _, rfl, rfl, rfl⟩

/-- A step of a check keeps the history. -/
theorem CheckPhase.step_moves {origin : UpdateCheckOrigin} {phase next : CheckPhase}
    {seen : List UpdateEvent} (hkept : HistoryKept shared) (hplaced : call.Placed shared)
    (htask : call.task = .check origin phase)
    (hheld : call.task.holds = true → shared.settingsHeld = true)
    (hstep : phase.step choice origin shared = some (after, next)) :
    UpdateMoves call ⟨.check origin next, none, seen⟩ shared after := by
  have hphase := hplaced.task
  rw [htask] at hphase hheld
  obtain ⟨hchanges, -⟩ := hphase
  unfold CheckPhase.step at hstep
  cases phase with
  | locking =>
    dsimp only at hstep
    split at hstep
    · cases hstep
    case isFalse hfree =>
      have hopen : shared.settingsHeld = false := Bool.eq_false_iff.mpr hfree
      split at hstep
      · obtain ⟨rfl, rfl⟩ := Prod.mk.inj (Option.some.inj hstep)
        refine .aside hkept rfl rfl le_rfl (.inl rfl) ?_ (CheckPhase.placed_of_undecided ?_ rfl)
        · rw [htask, hopen]
          rfl
        · exact fun changes hmem => (Option.some.inj hmem).symm
      · obtain ⟨rfl, rfl⟩ := Prod.mk.inj (Option.some.inj hstep)
        refine .aside hkept rfl rfl le_rfl (.inl rfl) ?_ (CheckPhase.placed_of_undecided ?_ rfl)
        · rw [htask]
          rfl
        · exact fun _ hnone => absurd hnone (Option.not_mem_none _)
  | asking channel changes =>
    have hlast : changes = shared.changes := hchanges changes rfl
    have herror {transition : StateTransition} (hnone : transition.candidate = none)
        {shared' : UpdateShared} :
        (UpdateTask.check origin (.concluding shared'.changes transition)).Placed shared' seen := by
      refine ⟨fun changes hmem => (Option.some.inj hmem).symm, fun decided hdecided => ?_⟩
      obtain rfl := Option.some.inj hdecided
      refine ⟨StateTransition.coherent_of_none hnone, fun offer hoffer => ?_⟩
      unfold StateTransition.offer at hoffer
      rw [hnone] at hoffer
      cases hoffer
    subst hlast
    dsimp only at hstep
    split at hstep
    · rcases concludeCheck_cases (Option.some.inj hstep) with
        ⟨preferences, transition, rfl, rfl, hnone⟩ |
          ⟨preferences, candidate, transition, rfl, rfl, hcandidate, hchannel⟩
      · exact .aside hkept rfl rfl le_rfl (.inl rfl) (by rw [htask]; rfl) (herror hnone)
      · have hpushed := @HistoryKept.push _ hkept (.found shared.changes candidate.offer) rfl rfl
          fun _ hnone => absurd hnone (Option.not_mem_none _)
        refine ⟨⟨hpushed.returned, hpushed.numbered, hpushed.coherent, hpushed.offered,
          hpushed.respected⟩, UpdateCall.placed_of_task ⟨?_, fun decided hdecided => ?_⟩,
            List.subset_cons_self _ _, le_rfl, .inl rfl, by rw [htask]; rfl⟩
        · exact fun changes hmem => (Option.some.inj hmem).symm
        · obtain rfl := Option.some.inj hdecided
          refine ⟨fun other hother => ?_, fun offer hoffer number hnumber => ?_⟩
          · obtain rfl := Option.mem_unique hcandidate hother
            exact hchannel
          · unfold StateTransition.offer at hoffer
            rw [hcandidate] at hoffer
            obtain rfl := Option.some.inj hoffer
            refine ⟨_, List.mem_cons_self, ?_⟩
            rw [UpdateEvent.findsAfter, NativeUpdateCandidate.offer, hchannel]
            simp [show number < shared.changes from hnumber]
    · obtain ⟨rfl, rfl⟩ := Prod.mk.inj (Option.some.inj hstep)
      exact .aside hkept rfl rfl le_rfl (.inl rfl) (by rw [htask]; rfl) (herror rfl)
    · obtain ⟨rfl, rfl⟩ := Prod.mk.inj (Option.some.inj hstep)
      exact .aside hkept rfl rfl le_rfl (.inl rfl) (by rw [htask]; rfl) (herror rfl)
  | unlocking =>
    obtain ⟨rfl, rfl⟩ := Prod.mk.inj (Option.some.inj hstep)
    refine .aside hkept rfl rfl le_rfl (.inl rfl) ?_ (CheckPhase.placed_of_undecided ?_ rfl)
    · rw [htask, hheld rfl]
      rfl
    · exact fun _ hnone => absurd hnone (Option.not_mem_none _)
  | announcing | concluding | «over» => cases hstep

/-- An installation copies the candidate of the service, or decides on a failure. -/
theorem copyCandidate_cases {requestedTarget : String} {preferences : UpdatePreferences}
    {state : NativeUpdateState} :
    (∃ transition, copyCandidate requestedTarget preferences state = .refusing transition ∧
      transition.candidate = none) ∨
    ∃ candidate ∈ state.candidate,
      copyCandidate requestedTarget preferences state = .reserving ⟨candidate, state.updates⟩ := by
  unfold copyCandidate
  cases state.candidate with
  | none => exact .inl ⟨_, rfl, rfl⟩
  | some candidate =>
    dsimp only
    split
    · exact .inl ⟨_, rfl, rfl⟩
    · split
      · exact .inl ⟨_, rfl, rfl⟩
      · exact .inr ⟨candidate, rfl, rfl⟩

/-- What a download makes of what it is told goes on with its candidate. -/
theorem UpdateDownload.answer_spec {download : UpdateDownload} {answer : DownloadAnswer} :
    (download.answer answer).offer = some download.operation.copy.candidate.offer ∧
      ∀ decided ∈ (download.answer answer).decided?, decided.Coherent := by
  have hnone {phase : InstallPhase} (h : phase.decided? = none) :
      ∀ decided ∈ phase.decided?, decided.Coherent := by
    rw [h]
    exact fun _ hmem => absurd hmem (Option.not_mem_none _)
  cases answer with
  | chunk length total =>
    unfold UpdateDownload.answer
    dsimp only
    split <;> exact ⟨rfl, hnone rfl⟩
  | ended result =>
    cases result with
    | error error => exact ⟨rfl, hnone rfl⟩
    | ok bytes =>
      unfold UpdateDownload.answer
      dsimp only
      split
      · exact ⟨rfl, hnone rfl⟩
      · split
        · exact ⟨rfl, hnone rfl⟩
        · refine ⟨rfl, fun decided hdecided candidate hcandidate => ?_⟩
          obtain rfl := Option.some.inj hdecided
          obtain rfl := Option.some.inj hcandidate
          rfl

/-- A step of an installation that is no transition keeps what it has copied, or copies. -/
theorem InstallPhase.step_spec {requestedTarget : String} {phase next : InstallPhase}
    (hstep : phase.step choice requestedTarget shared = some (after, next)) :
    (after.history = shared.history ∧ after.state = shared.state ∧ after.changes = shared.changes ∧
      after.settingsHeld = shared.settingsHeld) ∧
      (∀ decided ∈ next.decided?, decided.Coherent) ∧
        ∀ offer ∈ next.offer, offer ∈ phase.offer ∨ (∃ preferences, phase = .copying preferences) ∧
          ∃ candidate ∈ shared.state.candidate, candidate.offer = offer := by
  have hnone {phase : InstallPhase} (h : phase.decided? = none) :
      ∀ decided ∈ phase.decided?, decided.Coherent := by
    rw [h]
    exact fun _ hmem => absurd hmem (Option.not_mem_none _)
  have hfailed {operation : InstallOperation} {code : UpdateErrorCode} {detail : String} :
      ∀ decided ∈ (InstallPhase.concluding (operation.failedTransition code detail)).decided?,
        decided.Coherent := by
    intro decided hdecided candidate hcandidate
    obtain rfl := Option.some.inj hdecided
    obtain rfl := Option.some.inj hcandidate
    rfl
  have habsent {P : UpdateOffer → Prop} : ∀ offer ∈ (none : Option UpdateOffer), P offer :=
    fun _ hmem => absurd hmem (Option.not_mem_none _)
  unfold InstallPhase.step at hstep
  cases phase with
  | loading =>
    dsimp only at hstep
    split at hstep
    · obtain ⟨rfl, rfl⟩ := Prod.mk.inj (Option.some.inj hstep)
      exact ⟨⟨rfl, rfl, rfl, rfl⟩, hnone rfl, habsent⟩
    · split at hstep
      · cases hstep
      · split at hstep <;> obtain ⟨rfl, rfl⟩ := Prod.mk.inj (Option.some.inj hstep) <;>
          exact ⟨⟨rfl, rfl, rfl, rfl⟩, hnone rfl, habsent⟩
  | copying preferences =>
    obtain ⟨rfl, rfl⟩ := Prod.mk.inj (Option.some.inj hstep)
    refine ⟨⟨rfl, rfl, rfl, rfl⟩, ?_⟩
    rcases @copyCandidate_cases requestedTarget preferences shared.state with
      ⟨transition, hrefused, hcandidate⟩ | ⟨candidate, hcandidate, hcopied⟩
    · rw [hrefused]
      refine ⟨fun decided hdecided => ?_, fun offer hoffer => ?_⟩
      · obtain rfl := Option.some.inj hdecided
        exact StateTransition.coherent_of_none hcandidate
      · unfold InstallPhase.offer StateTransition.offer at hoffer
        dsimp only at hoffer
        rw [hcandidate] at hoffer
        cases hoffer
    · rw [hcopied]
      exact ⟨hnone rfl, fun offer hoffer =>
        .inr ⟨⟨preferences, rfl⟩, candidate, hcandidate, Option.some.inj hoffer⟩⟩
  | reserving copy =>
    dsimp only at hstep
    split at hstep <;> obtain ⟨rfl, rfl⟩ := Prod.mk.inj (Option.some.inj hstep)
    · exact ⟨⟨rfl, rfl, rfl, rfl⟩, hnone rfl, fun _ => .inl⟩
    · refine ⟨⟨rfl, rfl, rfl, rfl⟩, fun decided hdecided candidate hcandidate => ?_, fun _ => .inl⟩
      obtain rfl := Option.some.inj hdecided
      obtain rfl := Option.some.inj hcandidate
      rfl
  | naming copy =>
    dsimp only at hstep
    split at hstep <;> obtain ⟨rfl, rfl⟩ := Prod.mk.inj (Option.some.inj hstep)
    · exact ⟨⟨rfl, rfl, rfl, rfl⟩, hnone rfl, fun _ => .inl⟩
    · exact ⟨⟨rfl, rfl, rfl, rfl⟩, hnone rfl, habsent⟩
  | downloading download =>
    dsimp only at hstep
    split at hstep <;> obtain ⟨rfl, rfl⟩ := Prod.mk.inj (Option.some.inj hstep)
    · exact ⟨⟨rfl, rfl, rfl, rfl⟩, hfailed, fun _ => .inl⟩
    · obtain ⟨hoffer, hdecided⟩ := @UpdateDownload.answer_spec download choice.download
      refine ⟨⟨rfl, rfl, rfl, rfl⟩, hdecided, fun offer hmem => .inl ?_⟩
      rw [hoffer] at hmem
      exact hmem
  | executing operation =>
    dsimp only at hstep
    split at hstep <;> obtain ⟨rfl, rfl⟩ := Prod.mk.inj (Option.some.inj hstep)
    · exact ⟨⟨rfl, rfl, rfl, rfl⟩, hnone rfl, habsent⟩
    · exact ⟨⟨rfl, rfl, rfl, rfl⟩, hfailed, fun _ => .inl⟩
  | releasing =>
    obtain ⟨rfl, rfl⟩ := Prod.mk.inj (Option.some.inj hstep)
    exact ⟨⟨rfl, rfl, rfl, rfl⟩, hnone rfl, habsent⟩
  | refusing | starting | progressing | readying | installing | concluding | «over» => cases hstep

/-- A step of an installation that is no transition keeps the history. -/
theorem InstallPhase.step_moves {requestedTarget : String} {phase next : InstallPhase}
    (hkept : HistoryKept shared) (hplaced : call.Placed shared)
    (htask : call.task = .install requestedTarget phase)
    (hstep : phase.step choice requestedTarget shared = some (after, next)) :
    UpdateMoves call
      ⟨.install requestedTarget next, none, call.task.sees call.seen shared.history⟩ shared after := by
  obtain ⟨⟨hhistory, hstate, hchanges, hheld⟩, hdecided, hoffers⟩ := InstallPhase.step_spec hstep
  have hphase := hplaced.task
  rw [htask] at hphase
  refine .aside hkept hhistory hstate hchanges.ge (.inl hchanges) ?_
    ⟨hdecided, fun offer hoffer event hevent => ?_⟩
  · rw [hheld, htask]
    rfl
  · rw [hhistory]
    rcases hoffers offer hoffer with hbefore | ⟨⟨preferences, rfl⟩, candidate, hcandidate, rfl⟩
    · have hseen : call.task.sees call.seen shared.history = call.seen := by
        rw [htask]
        cases phase <;> first | rfl | cases hbefore
      rw [hseen] at hevent
      exact hphase.2 offer hbefore event hevent
    · -- the candidate of the service was dropped by no change that the installation sees
      rw [htask] at hevent
      have hreset := hkept.offered candidate hcandidate
      exact ⟨hreset event hevent, hkept.returned_of_reset hreset event hevent⟩

/-- A change of the preferences that counts is numbered while no check has the lock of the settings.
Every other step changes at most the preferences, or marks the return. -/
theorem PatchPhase.step_cases {change : UpdatePreferencesPatch} {phase next : PatchPhase}
    (hstep : phase.step choice change shared = some (after, next)) :
    (∃ preferences, after = { shared with preferences := preferences } ∧ phase = .patching ∧
      (next = .over ∨ ∃ error, next = .refused error)) ∨
    (∃ preferences channel exclusion, shared.settingsHeld = false ∧ phase = .patching ∧
      after = { shared with preferences := preferences, changes := shared.changes + 1 } ∧
        next = .resetting channel shared.changes exclusion) ∨
    ∃ number exclusion, phase = .returning number exclusion ∧ next = .over ∧
      after = { shared with history := .returned number exclusion :: shared.history } := by
  unfold PatchPhase.step at hstep
  cases phase with
  | patching =>
    dsimp only at hstep
    split at hstep
    · obtain ⟨rfl, rfl⟩ := Prod.mk.inj (Option.some.inj hstep)
      exact .inl ⟨_, rfl, rfl, .inr ⟨_, rfl⟩⟩
    · split at hstep
      · cases hstep
      case isFalse hfree =>
        split at hstep
        · obtain ⟨rfl, rfl⟩ := Prod.mk.inj (Option.some.inj hstep)
          exact .inl ⟨_, rfl, rfl, .inr ⟨_, rfl⟩⟩
        · split at hstep
          · obtain ⟨rfl, rfl⟩ := Prod.mk.inj (Option.some.inj hstep)
            exact .inl ⟨_, rfl, rfl, .inl rfl⟩
          · split at hstep
            · obtain ⟨rfl, rfl⟩ := Prod.mk.inj (Option.some.inj hstep)
              exact .inl ⟨_, rfl, rfl, .inr ⟨_, rfl⟩⟩
            · split at hstep <;> obtain ⟨rfl, rfl⟩ := Prod.mk.inj (Option.some.inj hstep)
              · exact .inr (.inl ⟨_, _, _, Bool.eq_false_iff.mpr hfree, rfl, rfl, rfl⟩)
              · exact .inl ⟨_, rfl, rfl, .inl rfl⟩
  | returning number exclusion =>
    obtain ⟨rfl, rfl⟩ := Prod.mk.inj (Option.some.inj hstep)
    exact .inr (.inr ⟨number, exclusion, rfl, rfl, rfl⟩)
  | refused | resetting | «over» => cases hstep

/-- A step of a change of the preferences that is no transition keeps the history. -/
theorem PatchPhase.step_moves {change : UpdatePreferencesPatch} {phase next : PatchPhase}
    {seen : List UpdateEvent} (hkept : HistoryKept shared) (hplaced : call.Placed shared)
    (htask : call.task = .patch change phase)
    (hstep : phase.step choice change shared = some (after, next)) :
    UpdateMoves call ⟨.patch change next, none, seen⟩ shared after := by
  have hphase := hplaced.task
  rw [htask] at hphase
  rcases PatchPhase.step_cases hstep with ⟨preferences, rfl, rfl, hnext⟩ |
    ⟨preferences, channel, exclusion, hfree, rfl, rfl, rfl⟩ | ⟨number, exclusion, rfl, rfl, rfl⟩
  · rcases hnext with rfl | ⟨error, rfl⟩
    · exact .aside hkept rfl rfl le_rfl (.inl rfl) (by rw [htask]; rfl) trivial
    · exact .aside hkept rfl rfl le_rfl (.inl rfl) (by rw [htask]; rfl) trivial
  · exact .aside hkept rfl rfl (Nat.le_succ _) (.inr hfree) (by rw [htask]; rfl) (Nat.lt_succ_self _)
  · have hpushed := hkept.push_returned hphase
    refine ⟨hpushed, UpdateCall.placed_of_task trivial, List.subset_cons_self _ _, le_rfl, .inl rfl, ?_⟩
    rw [htask]
    rfl

/-- A step of a call that is no transition keeps the history. -/
theorem task_step_moves {task : UpdateTask} (hkept : HistoryKept shared) (hplaced : call.Placed shared)
    (hheld : call.task.holds = true → shared.settingsHeld = true)
    (hstep : call.task.step choice shared = some (after, task)) :
    UpdateMoves call ⟨task, none, call.task.sees call.seen shared.history⟩ shared after := by
  cases htask : call.task with
  | check origin phase =>
    rw [htask] at hstep
    obtain ⟨⟨later, next⟩, hmoved, hpair⟩ := Option.map_eq_some_iff.mp hstep
    obtain ⟨rfl, rfl⟩ := Prod.mk.inj hpair
    exact CheckPhase.step_moves hkept hplaced htask hheld hmoved
  | install requestedTarget phase =>
    rw [htask] at hstep
    obtain ⟨⟨later, next⟩, hmoved, hpair⟩ := Option.map_eq_some_iff.mp hstep
    obtain ⟨rfl, rfl⟩ := Prod.mk.inj hpair
    have hmoves := InstallPhase.step_moves hkept hplaced htask hmoved
    rw [htask] at hmoves
    exact hmoves
  | patch change phase =>
    rw [htask] at hstep
    obtain ⟨⟨later, next⟩, hmoved, hpair⟩ := Option.map_eq_some_iff.mp hstep
    obtain ⟨rfl, rfl⟩ := Prod.mk.inj hpair
    exact PatchPhase.step_moves hkept hplaced htask hmoved
  | reload done =>
    rw [htask] at hstep
    unfold UpdateTask.step at hstep
    cases done with
    | true => cases hstep
    | false =>
      dsimp only at hstep
      split at hstep
      · cases hstep
      · split at hstep <;> obtain ⟨rfl, rfl⟩ := Prod.mk.inj (Option.some.inj hstep) <;>
          exact .aside hkept rfl rfl le_rfl (.inl rfl) (by rw [htask]; rfl) trivial
  | playback sessionId phase =>
    rw [htask] at hstep
    obtain ⟨⟨later, next⟩, hmoved, hpair⟩ := Option.map_eq_some_iff.mp hstep
    obtain ⟨rfl, rfl⟩ := Prod.mk.inj hpair
    exact .aside hkept rfl rfl le_rfl (.inl rfl) (by rw [htask]; rfl) trivial
  | calibration phase =>
    rw [htask] at hstep
    obtain ⟨⟨later, next⟩, hmoved, hpair⟩ := Option.map_eq_some_iff.mp hstep
    obtain ⟨rfl, rfl⟩ := Prod.mk.inj hpair
    exact .aside hkept rfl rfl le_rfl (.inl rfl) (by rw [htask]; rfl) trivial
  | shutdown begun =>
    rw [htask] at hstep
    cases begun with
    | true => cases hstep
    | false =>
      obtain ⟨rfl, rfl⟩ := Prod.mk.inj (Option.some.inj hstep)
      exact .aside hkept rfl rfl le_rfl (.inl rfl) (by rw [htask]; rfl) trivial

/-- A step of a call keeps the history. -/
theorem updateStep_moves (hkept : HistoryKept shared) (hplaced : call.Placed shared)
    (hheld : call.task.holds = true → shared.settingsHeld = true)
    (hmeets : MeetsOffers choice call shared)
    (hstep : updateStep choice call shared = some (after, moved)) :
    UpdateMoves call moved shared after := by
  unfold updateStep at hstep
  cases hpublishing : call.publishing with
  | some pending =>
    rw [hpublishing] at hstep
    have hmoves := publish_moves hkept hplaced hpublishing hmeets
    obtain ⟨rfl, rfl⟩ := Prod.mk.inj (Option.some.inj hstep)
    exact hmoves
  | none =>
    rw [hpublishing] at hstep
    dsimp only at hstep
    cases hpending : call.task.transition? with
    | some pending =>
      rw [hpending] at hstep
      have hmoves := apply_task_moves hkept hplaced hpublishing hmeets hpending
      obtain ⟨rfl, rfl⟩ := Prod.mk.inj (Option.some.inj hstep)
      exact hmoves
    | none =>
      rw [hpending] at hstep
      obtain ⟨⟨later, task⟩, hmade, hpair⟩ := Option.map_eq_some_iff.mp hstep
      obtain ⟨rfl, rfl⟩ := Prod.mk.inj hpair
      exact task_step_moves hkept hplaced hheld hmade

end SkyAutoPlayer.Desktop
