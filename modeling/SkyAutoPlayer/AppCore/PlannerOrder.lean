import SkyAutoPlayer.AppCore.Planner

/-!
# Planning does not depend on the order of the source events

The planner sorts by a composite key. Events of one key can differ in an absent and a zero layer
mask or span only, and planning reads neither, so the sorted events of every permutation plan alike.
-/

namespace SkyAutoPlayer.AppCore

open Foundation

/-- A note's column, when it has one, is below the index that stands for a missing column. -/
def SourcePosition.ColumnBounded : SourcePosition → Prop
  | .trackNote _ _ (some columnIndex) => columnIndex < usizeMax
  | _ => True

/-- The fields of an event that planning reads. -/
def CanonicalEvent.planned (event : CanonicalEvent) : CanonicalEvent :=
  { event with layerMask := none, spanColumns := none }

/-- Positions with bounded columns have different order fields. -/
theorem SourcePosition.orderKey_injective {first second : SourcePosition}
    (hfirst : first.ColumnBounded) (hsecond : second.ColumnBounded)
    (h : first.orderKey = second.orderKey) : first = second := by
  cases first with
  | flatSongNote index => cases second <;> simp_all [orderKey]
  | composedColumn column index => cases second <;> simp_all [orderKey]
  | recordedNote index => cases second <;> simp_all [orderKey]
  | trackNote track index column =>
    cases second with
    | flatSongNote index' => simp [orderKey] at h
    | composedColumn column' index' => simp [orderKey] at h
    | recordedNote index' => simp [orderKey] at h
    | trackNote track' index' column' =>
      have hfields : track = track' ∧ index = index' ∧
          column.getD usizeMax = column'.getD usizeMax := by
        simpa [orderKey, Int.ofNat_inj] using h
      obtain ⟨rfl, rfl, hcolumn⟩ := hfields
      cases column with
      | none =>
        cases column' with
        | none => rfl
        | some value => exact absurd hcolumn.symm (Nat.ne_of_lt hsecond)
      | some value =>
        cases column' with
        | none => exact absurd hcolumn (Nat.ne_of_lt hfirst)
        | some value' =>
          have hvalue : value = value' := hcolumn
          rw [hvalue]

/-- Raw identities have different order fields. -/
theorem RawNoteIdentity.orderKey_injective {first second : RawNoteIdentity}
    (h : first.orderKey = second.orderKey) : first = second := by
  cases first <;> cases second <;> simp_all [orderKey]

/-- Pitches have different order fields. -/
theorem CanonicalPitch.orderKey_injective {first second : CanonicalPitch}
    (h : first.orderKey = second.orderKey) : first = second := by
  cases first with
  | skyKeyIndex index => cases second <;> simp_all [orderKey]
  | noteNumber number pitchability =>
    cases second with
    | skyKeyIndex index => simp [orderKey] at h
    | noteNumber number' pitchability' =>
      have hfields : number = number' ∧ pitchability.orderKey = pitchability'.orderKey := by
        simpa [orderKey] using h
      obtain ⟨rfl, hpitchability⟩ := hfields
      cases pitchability <;> cases pitchability' <;> simp_all [Pitchability.orderKey]

/-- A position has four order fields. -/
theorem SourcePosition.length_orderKey (position : SourcePosition) :
    position.orderKey.length = 4 := by
  cases position <;> rfl

/-- A raw identity has two order fields. -/
theorem RawNoteIdentity.length_orderKey (identity : RawNoteIdentity) :
    identity.orderKey.length = 2 := by
  cases identity <;> rfl

/-- A pitch has three order fields. -/
theorem CanonicalPitch.length_orderKey (pitch : CanonicalPitch) : pitch.orderKey.length = 3 := by
  cases pitch <;> rfl

/-- Events of one key agree in what planning reads. -/
theorem planned_eq_of_orderKey {first second : CanonicalEvent}
    (hfirst : first.sourcePosition.ColumnBounded) (hsecond : second.sourcePosition.ColumnBounded)
    (h : eventOrderKey first = eventOrderKey second) : first.planned = second.planned := by
  rw [eventOrderKey, eventOrderKey] at h
  obtain ⟨hhead, hspan⟩ := List.append_inj' h (by simp)
  obtain ⟨hhead, hpitch⟩ := List.append_inj' hhead (by
    rw [CanonicalPitch.length_orderKey, CanonicalPitch.length_orderKey])
  obtain ⟨hhead, hidentity⟩ := List.append_inj' hhead (by
    rw [RawNoteIdentity.length_orderKey, RawNoteIdentity.length_orderKey])
  obtain ⟨hhead, hposition⟩ := List.append_inj' hhead (by
    rw [SourcePosition.length_orderKey, SourcePosition.length_orderKey])
  have hposition := SourcePosition.orderKey_injective hfirst hsecond hposition
  have hidentity := RawNoteIdentity.orderKey_injective hidentity
  have hpitch := CanonicalPitch.orderKey_injective hpitch
  simp only [List.cons.injEq, Int.ofNat_inj] at hhead hspan
  obtain ⟨honset, hsource, htrack, -⟩ := hhead
  simp only [CanonicalEvent.planned, CanonicalEvent.mk.injEq]
  exact ⟨hsource, hposition, htrack, honset, hspan.1, hidentity, hpitch, trivial, trivial⟩

/-- The keys of the ordered events do not depend on the order of the events. -/
theorem orderKeys_perm {first second : List CanonicalEvent} (h : first.Perm second) :
    (orderedEvents first).map eventOrderKey = (orderedEvents second).map eventOrderKey := by
  have hsorted (events : List CanonicalEvent) :
      ((orderedEvents events).map eventOrderKey).Pairwise (· ≤ ·) :=
    List.pairwise_map.mpr (List.pairwise_insertionSort
      (fun a b => eventOrderKey a ≤ eventOrderKey b) events)
  have hperm : (orderedEvents first).Perm (orderedEvents second) :=
    (List.perm_insertionSort _ _).trans (h.trans (List.perm_insertionSort _ _).symm)
  exact (hperm.map eventOrderKey).eq_of_pairwise' (hsorted first) (hsorted second)

/-- Lists of equal keys agree in what a key determines. -/
theorem map_eq_of_keys {first second : List CanonicalEvent}
    (hfirst : ∀ event ∈ first, event.sourcePosition.ColumnBounded)
    (hsecond : ∀ event ∈ second, event.sourcePosition.ColumnBounded)
    (h : first.map eventOrderKey = second.map eventOrderKey) :
    first.map CanonicalEvent.planned = second.map CanonicalEvent.planned := by
  induction first generalizing second with
  | nil => rw [List.map_nil, List.eq_nil_of_map_eq_nil h.symm, List.map_nil]
  | cons event first ih =>
    cases second with
    | nil => cases h
    | cons event' second =>
      obtain ⟨hkey, hrest⟩ := List.cons.inj h
      obtain ⟨hevent, hfirst⟩ := List.forall_mem_cons.mp hfirst
      obtain ⟨hevent', hsecond⟩ := List.forall_mem_cons.mp hsecond
      rw [List.map_cons, List.map_cons, planned_eq_of_orderKey hevent hevent' hkey,
        ih hfirst hsecond hrest]

/-- Planning an event reads its planned fields. -/
theorem planEvent_planned (context : PlanningContext) (state : PlanningState)
    (event : CanonicalEvent) :
    planEvent context state event.planned = planEvent context state event := rfl

/-- The events of a song plan alike in every order. -/
theorem planEvents_perm (context : PlanningContext) (source : CanonicalSong)
    {events : List CanonicalEvent} (hperm : events.Perm source.events)
    (hcolumns : ∀ event ∈ source.events, event.sourcePosition.ColumnBounded) :
    planEvents context { source with events } = planEvents context source := by
  have hsorted (list : List CanonicalEvent) : (orderedEvents list).Perm list :=
    List.perm_insertionSort _ _
  have hplanned : (orderedEvents events).map CanonicalEvent.planned =
      (orderedEvents source.events).map CanonicalEvent.planned := by
    apply map_eq_of_keys
    · intro event hevent
      exact hcolumns event (hperm.mem_iff.mp ((hsorted events).mem_iff.mp hevent))
    · intro event hevent
      exact hcolumns event ((hsorted source.events).mem_iff.mp hevent)
    · exact orderKeys_perm hperm
  have hfold (list : List CanonicalEvent) (start : PlanningState) :
      list.foldlM (planEvent context) start =
        (list.map CanonicalEvent.planned).foldlM (planEvent context) start := by
    simp only [List.foldlM_map, planEvent_planned]
  have hstart : initialDiagnostics { source with events } = initialDiagnostics source := by
    simp only [initialDiagnostics, hperm.length_eq]
  rw [planEvents, planEvents, hfold (orderedEvents events), hplanned, hstart, ← hfold]

/-- A song plans alike, with the same plan or the same error, in every order of its events. -/
theorem plan_ignores_event_order {Risk : Type} (analyzeSchedule : ScheduleMetadata → Risk)
    (source : CanonicalSong) (options : PianoPlannerOptions) (policy : MaterializedTimingPolicy)
    {events : List CanonicalEvent} (hperm : events.Perm source.events)
    (hcolumns : ∀ event ∈ source.events, event.sourcePosition.ColumnBounded) :
    planCanonicalSong analyzeSchedule { source with events } options policy =
      planCanonicalSong analyzeSchedule source options policy := by
  unfold planCanonicalSong
  simp only [planEvents_perm _ source hperm hcolumns]

/-- Two notes of a track, listed in either order. -/
theorem plan_ignores_event_order_reversed :
    ∃ (source : CanonicalSong) (options : PianoPlannerOptions), source.events.length = 2 ∧
      planCanonicalSong (fun _ => ()) { source with events := source.events.reverse } options
          ⟨50000, 30000⟩ =
        planCanonicalSong (fun _ => ()) source options ⟨50000, 30000⟩ := by
  let note (sourceIndex onsetUs : ℕ) (layerMask : Option ℕ) : CanonicalEvent :=
    ⟨sourceIndex, .trackNote 0 sourceIndex (some 4), 0, onsetUs, 0, .nominalId 60,
      .noteNumber 60 .pitched, layerMask, none⟩
  refine ⟨⟨"song", .recorded 1, "C", [⟨0, none, none⟩], [note 0 0 none, note 1 90000 (some 1)],
    ⟨2, []⟩⟩, ⟨none, none, ⟨true, some, fun _ _ => none⟩⟩, rfl, ?_⟩
  apply plan_ignores_event_order
  · exact List.reverse_perm _
  · intro event hevent
    rcases List.mem_cons.mp hevent with rfl | hevent
    · exact (by decide : 4 < usizeMax)
    · rw [List.mem_singleton.mp hevent]
      exact (by decide : 4 < usizeMax)

end SkyAutoPlayer.AppCore
