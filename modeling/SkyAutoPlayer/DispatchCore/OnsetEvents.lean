import SkyAutoPlayer.DispatchCore.ValidatedSchedule

/-!
# Keys played with one hold

A key that is pressed at increasing onsets and released one fixed hold after each has two events
for every onset. The key's automaton passes exactly when every release comes before the next
onset; the events are then in order as they stand, and their feasibility is the hold of every
onset and the gap between each release and the next onset.
-/

namespace SkyAutoPlayer.DispatchCore

open Foundation

/-- The press and the release of every onset. -/
def onsetEvents (hold : ℕ) (onsets : List ℕ) : List KeyEvent :=
  onsets.flatMap fun onset => [⟨onset, .down⟩, ⟨onset + hold, .up⟩]

/-- Events in playback order. -/
def sortEvents (events : List KeyEvent) : List KeyEvent :=
  events.insertionSort (fun a b => a.order ≤ b.order)

/-- The order of a set of events does not depend on how it was listed. -/
theorem sortEvents_perm {first second : List KeyEvent} (h : first.Perm second) :
    sortEvents first = sortEvents second :=
  List.Perm.eq_of_pairwise
    (fun _ _ _ _ hab hba => KeyEvent.order_injective (Nat.le_antisymm hab hba))
    (List.pairwise_insertionSort _ _) (List.pairwise_insertionSort _ _)
    ((List.perm_insertionSort _ _).trans (h.trans (List.perm_insertionSort _ _).symm))

/-- The first event leads the rest. -/
theorem sortEvents_cons {event : KeyEvent} {rest : List KeyEvent}
    (h : ∀ other ∈ rest, event.order ≤ other.order) :
    sortEvents (event :: rest) = event :: sortEvents rest := by
  refine List.Perm.eq_of_pairwise
    (fun _ _ _ _ hab hba => KeyEvent.order_injective (Nat.le_antisymm hab hba))
    (List.pairwise_insertionSort _ _)
    (List.pairwise_cons.mpr ⟨fun other hother => ?_, List.pairwise_insertionSort _ _⟩)
    ((List.perm_insertionSort _ _).trans ((List.perm_insertionSort _ _).symm.cons event))
  exact h other ((List.perm_insertionSort _ _).mem_iff.mp hother)

/-- An event of onsets is not before the press of the earliest onset. -/
theorem onsetEvents_order {hold bound : ℕ} (hhold : 0 < hold) {onsets : List ℕ}
    (h : ∀ onset ∈ onsets, bound ≤ onset) :
    ∀ event ∈ onsetEvents hold onsets, 2 * bound + 1 ≤ event.order := by
  intro event hevent
  obtain ⟨onset, honset, hmem⟩ := List.mem_flatMap.mp hevent
  have hle := h onset honset
  simp only [List.mem_cons, List.not_mem_nil, or_false] at hmem
  rcases hmem with rfl | rfl
  · simp only [KeyEvent.order]
    omega
  · simp only [KeyEvent.order]
    omega

/-- Increasing onsets are not before their first. -/
theorem le_of_mem_onsets {onset : ℕ} {rest : List ℕ} (h : (onset :: rest).Pairwise (· < ·)) :
    ∀ other ∈ rest, onset + 1 ≤ other := fun other hother => (List.pairwise_cons.mp h).1 other hother

/-- The press of the earliest onset leads its events. -/
theorem sortEvents_onset {hold onset : ℕ} (hhold : 0 < hold) {rest : List ℕ}
    (h : (onset :: rest).Pairwise (· < ·)) :
    sortEvents (onsetEvents hold (onset :: rest)) =
      ⟨onset, .down⟩ :: sortEvents (⟨onset + hold, .up⟩ :: onsetEvents hold rest) := by
  refine sortEvents_cons fun other hother => ?_
  rcases List.mem_cons.mp hother with rfl | hother
  · simp only [KeyEvent.order]
    omega
  · have hle := onsetEvents_order hhold (le_of_mem_onsets h) other hother
    simp only [KeyEvent.order] at hle ⊢
    omega

/-- The automaton passes the events of increasing onsets exactly when every release comes before
the next onset. -/
theorem keyRun_onsets {hold : ℕ} (hhold : 0 < hold) {onsets : List ℕ}
    (honsets : onsets.Pairwise (· < ·)) {closedAt : Option ℕ}
    (hclosed : ∀ onset ∈ onsets.head?, closedAt ≠ some onset) :
    (∃ last, (sortEvents (onsetEvents hold onsets)).foldlM keyStep (.released closedAt) =
        some (.released last)) ↔
      onsets.IsChain (fun onset next => onset + hold < next) := by
  induction onsets generalizing closedAt with
  | nil => exact ⟨fun _ => List.isChain_nil, fun _ => ⟨closedAt, rfl⟩⟩
  | cons onset rest ih =>
    have hrest := (List.pairwise_cons.mp honsets).2
    have hpress : keyStep (.released closedAt) ⟨onset, .down⟩ = some .pressed := by
      rw [keyStep, if_neg (hclosed onset rfl)]
    rw [sortEvents_onset hhold honsets, List.foldlM_cons, hpress, Option.bind_eq_bind,
      Option.bind_some, List.isChain_cons]
    cases rest with
    | nil =>
      refine ⟨fun _ => ⟨by simp, List.isChain_nil⟩, fun _ => ⟨some (onset + hold), rfl⟩⟩
    | cons next others =>
      have hnext : onset < next := (List.pairwise_cons.mp honsets).1 next List.mem_cons_self
      by_cases hfits : onset + hold ≤ next
      · -- the release comes first, and then the rest on its own
        have hlead : sortEvents (⟨onset + hold, .up⟩ :: onsetEvents hold (next :: others)) =
            ⟨onset + hold, .up⟩ :: sortEvents (onsetEvents hold (next :: others)) := by
          refine sortEvents_cons fun other hother => ?_
          have hbound : ∀ later ∈ next :: others, next ≤ later := fun later hlater => by
            rcases List.mem_cons.mp hlater with rfl | hlater
            · exact le_rfl
            · exact (Nat.lt_of_succ_le (le_of_mem_onsets hrest later hlater)).le
          have hle := onsetEvents_order hhold hbound other hother
          simp only [KeyEvent.order] at hle ⊢
          omega
        have hrelease : keyStep .pressed ⟨onset + hold, .up⟩ =
            some (.released (some (onset + hold))) := rfl
        rw [hlead, List.foldlM_cons, hrelease, Option.bind_eq_bind, Option.bind_some]
        by_cases hlt : onset + hold < next
        · rw [ih hrest fun first hfirst heq => by
            obtain rfl := Option.some.inj hfirst
            obtain rfl := Option.some.inj heq
            omega]
          refine ⟨fun hchain => ⟨fun first hfirst => ?_, hchain⟩, fun h => h.2⟩
          obtain rfl := Option.some.inj hfirst
          exact hlt
        · -- the next press meets a key closed at its own time
          have heq : onset + hold = next := by omega
          rw [sortEvents_onset hhold hrest, List.foldlM_cons]
          have hreject : keyStep (.released (some (onset + hold))) ⟨next, .down⟩ = none := by
            rw [keyStep, if_pos (by rw [heq])]
          rw [hreject]
          exact ⟨fun hfound => by simp at hfound, fun h => absurd (h.1 next rfl) hlt⟩
      · -- the next press comes before the release
        have hlead : sortEvents (⟨onset + hold, .up⟩ :: onsetEvents hold (next :: others)) =
            ⟨next, .down⟩ :: sortEvents
              (⟨onset + hold, .up⟩ :: ⟨next + hold, .up⟩ :: onsetEvents hold others) := by
          rw [← sortEvents_cons fun other hother => ?_]
          · exact sortEvents_perm (List.Perm.swap _ _ _)
          · rcases List.mem_cons.mp hother with rfl | hother
            · simp only [KeyEvent.order]
              omega
            · rcases List.mem_cons.mp hother with rfl | hother
              · simp only [KeyEvent.order]
                omega
              · have hle := onsetEvents_order hhold (le_of_mem_onsets hrest) other hother
                simp only [KeyEvent.order] at hle ⊢
                omega
        have hreject : keyStep .pressed ⟨next, .down⟩ = none := rfl
        rw [hlead, List.foldlM_cons, hreject]
        refine ⟨fun hfound => by simp at hfound, fun h => ?_⟩
        have hlt := h.1 next rfl
        omega

/-- When every release comes before the next onset, the events are in order as they stand. -/
theorem sortEvents_onsets {hold : ℕ} (hhold : 0 < hold) {onsets : List ℕ}
    (honsets : onsets.Pairwise (· < ·))
    (hchain : onsets.IsChain (fun onset next => onset + hold < next)) :
    sortEvents (onsetEvents hold onsets) = onsetEvents hold onsets := by
  induction onsets with
  | nil => rfl
  | cons onset rest ih =>
    obtain ⟨hfirst, hrestChain⟩ := List.isChain_cons.mp hchain
    have hrest := (List.pairwise_cons.mp honsets).2
    have hlead : sortEvents (⟨onset + hold, .up⟩ :: onsetEvents hold rest) =
        ⟨onset + hold, .up⟩ :: sortEvents (onsetEvents hold rest) := by
      refine sortEvents_cons fun other hother => ?_
      cases rest with
      | nil => cases hother
      | cons next others =>
        have hlt := hfirst next rfl
        have hbound : ∀ later ∈ next :: others, next ≤ later := fun later hlater => by
          rcases List.mem_cons.mp hlater with rfl | hlater
          · exact le_rfl
          · exact (Nat.lt_of_succ_le (le_of_mem_onsets hrest later hlater)).le
        have hle := onsetEvents_order hhold hbound other hother
        simp only [KeyEvent.order] at hle ⊢
        omega
    rw [sortEvents_onset hhold honsets, hlead, ih hrest hrestChain]
    rfl

/-- The events of onsets are feasible when every hold fits and every release gap is long
enough. -/
theorem feasible_onsetEvents {floors : TimingFloors} {hold : ℕ} {onsets : List ℕ} :
    FeasibleEvents floors (onsetEvents hold onsets) ↔
      (∀ onset ∈ onsets, floors.ticks onset + floors.effectiveMinHoldTicks < 2 ^ 64 ∧
        floors.ticks onset + floors.effectiveMinHoldTicks ≤ floors.ticks (onset + hold)) ∧
      (0 < floors.minReleaseGapUs → onsets.IsChain (fun onset next =>
        floors.minReleaseGapTicks ≤ floors.ticks next - floors.ticks (onset + hold))) := by
  have hrun : ∀ (onsets : List ℕ) (releasedAt : Option ℕ),
      Guarded (KeyFeasible floors) KeyTimeline.step ⟨none, releasedAt⟩
        (onsetEvents hold onsets) ↔
      (0 < floors.minReleaseGapUs → ∀ released ∈ releasedAt, ∀ onset ∈ onsets.head?,
        floors.minReleaseGapTicks ≤ floors.ticks onset - floors.ticks released) ∧
      (∀ onset ∈ onsets, floors.ticks onset + floors.effectiveMinHoldTicks < 2 ^ 64 ∧
        floors.ticks onset + floors.effectiveMinHoldTicks ≤ floors.ticks (onset + hold)) ∧
      (0 < floors.minReleaseGapUs → onsets.IsChain (fun onset next =>
        floors.minReleaseGapTicks ≤ floors.ticks next - floors.ticks (onset + hold))) := by
    intro onsets
    induction onsets with
    | nil =>
      intro releasedAt
      simp [onsetEvents, Guarded]
    | cons onset rest ih =>
      intro releasedAt
      have hevents : onsetEvents hold (onset :: rest) =
          ⟨onset, .down⟩ :: ⟨onset + hold, .up⟩ :: onsetEvents hold rest := rfl
      rw [hevents, Guarded, Guarded]
      have hstep : (KeyTimeline.step (KeyTimeline.step ⟨none, releasedAt⟩ ⟨onset, .down⟩)
          ⟨onset + hold, .up⟩) = ⟨none, some (onset + hold)⟩ := rfl
      rw [hstep, ih (some (onset + hold)), List.isChain_cons]
      simp only [KeyFeasible, KeyTimeline.step, Option.mem_def, Option.some.injEq,
        forall_eq', List.head?_cons, List.forall_mem_cons]
      constructor
      · rintro ⟨hgap, hhold, hnext, hholds, hgaps⟩
        exact ⟨fun hpos released hreleased => hgap hpos released hreleased, ⟨hhold, hholds⟩,
          fun hpos => ⟨hnext hpos, hgaps hpos⟩⟩
      · rintro ⟨hgap, ⟨hhold, hholds⟩, hchain⟩
        exact ⟨hgap, hhold, fun hpos => (hchain hpos).1, hholds, fun hpos => (hchain hpos).2⟩
  have hstart := hrun onsets none
  rw [FeasibleEvents, KeyTimeline.initial, hstart]
  simp

end SkyAutoPlayer.DispatchCore
