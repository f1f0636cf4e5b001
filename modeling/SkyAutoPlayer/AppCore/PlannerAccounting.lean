import Mathlib.Data.List.Forall2
import Mathlib.Tactic.Set
import SkyAutoPlayer.AppCore.Planner

/-!
# Planning conserves every source event

The fate of an event depends on the event alone: it is omitted, fails to resolve, or is mapped
to a key. The loop's counters, loss records and onsets are the tally of the fates of the events
planned so far. Each step preserves this tally, so the finished plan accounts for every
occurrence exactly once.
-/

namespace SkyAutoPlayer.AppCore

open Foundation

/-- What becomes of a source event. -/
inductive EventFate where
  | omitted
  | unplayable
  | unpitched
  | unresolved
  | mapped (buttonIndex : ℕ)
  deriving DecidableEq, Repr

/-- The reason recorded for an event that is not mapped. -/
def EventFate.lossReason : EventFate → Option PlanLossReason
  | .omitted => some .trackSelectionOmission
  | .unplayable => some .targetPianoUnplayable
  | .unpitched => some .sourceUnpitched
  | .unresolved => some .sourceUnresolved
  | .mapped _ => none

/-- The fate of a selected event's pitch. -/
def pitchFate (noteNumbers : List ℤ) : CanonicalPitch → EventFate
  | .skyKeyIndex index => .mapped index
  | .noteNumber number .pitched =>
    match noteNumbers.findIdx? (· = number) with
    | some index => .mapped index
    | none => .unplayable
  | .noteNumber _ .unpitched => .unpitched
  | .noteNumber _ .unresolved => .unresolved

/-- The fate of an event under a plan's mode and target pitch. -/
def eventFate (context : PlanningContext) (event : CanonicalEvent) : EventFate :=
  if omittedBySelection context.mode event.trackIndex then .omitted
  else pitchFate context.targetNoteNumbers event.pitch

/-- The provenance an event leaves behind, on the first track of its index. -/
def provenanceOf (tracks : List SourceTrack) (event : CanonicalEvent) : SourceEventProvenance :=
  sourceProvenance event
    ((tracks.find? (fun track => track.index = event.trackIndex)).getD
      ⟨event.trackIndex, none, none⟩)

/-- The event belongs to the onset of its own key and scaled time. -/
def mapsTo (context : PlanningContext) (onset : PianoOnset) (event : CanonicalEvent) : Bool :=
  eventFate context event = .mapped onset.buttonIndex ∧
    context.tempoScale.roundScaledOnset event.onsetUs = some onset.scheduledOnsetUs

/-- The loss records one occurrence may contribute: exactly its own reason when it is not
mapped, and only sustain and collapse records when it is. -/
def EventLosses (context : PlanningContext) (event : CanonicalEvent)
    (records : List PlanLoss) : Prop :=
  let provenance := some (provenanceOf context.tracks event)
  match (eventFate context event).lossReason with
  | some reason => records = [⟨reason, provenance⟩]
  | none => ∃ collapse : List PlanLoss,
      (collapse = [] ∨ collapse = [⟨.tempoQuantizationCollapse, provenance⟩]) ∧
      records = (if 0 < event.durationUs then [⟨.authoredSustainNotReproduced, provenance⟩]
        else []) ++ collapse

/-- The counters balance, up to the events resolved but not yet mapped and the events mapped
but not yet placed. -/
structure Balanced (diagnostics : PianoPlanDiagnostics) (planned unmapped unplaced onsets : ℕ) :
    Prop where
  selected : planned =
    diagnostics.selectedSourceEventCount + diagnostics.omittedSourceEventCount
  resolved : diagnostics.selectedSourceEventCount = diagnostics.resolvedEventCount +
    diagnostics.sourceUnpitchedCount + diagnostics.sourceUnresolvedCount
  mapped : diagnostics.resolvedEventCount = diagnostics.mappedSourceEventCount +
    diagnostics.targetUnplayableCount + unmapped
  placed : diagnostics.mappedSourceEventCount = onsets + diagnostics.mergedDuplicateCount +
    diagnostics.tempoQuantizationCollapseCount + unplaced

/-- The onsets hold exactly the provenance of the events planned so far. -/
structure Placed (context : PlanningContext) (planned : List CanonicalEvent)
    (onsets : List PianoOnset) (onsetIndices : ℕ × ℕ → Option ℕ) : Prop where
  indexed : ∀ key index, onsetIndices key = some index ↔
    ∃ onset, onsets[index]? = some onset ∧ (onset.scheduledOnsetUs, onset.buttonIndex) = key
  provenance : ∀ onset ∈ onsets, onset.provenance =
    (planned.filter (mapsTo context onset)).map (provenanceOf context.tracks)
  covered : ∀ event ∈ planned, (eventFate context event).lossReason = none →
    ∃ onset ∈ onsets, mapsTo context onset event
  keyed : ∀ onset ∈ onsets, skyScanCodes[onset.buttonIndex]? = some onset.scanCode

/-- The tally of a planning state. -/
structure Accounted (context : PlanningContext) (planned : List CanonicalEvent)
    (state : PlanningState) : Prop where
  balanced : Balanced state.diagnostics planned.length 0 0 state.events.length
  losses : ∃ records, List.Forall₂ (EventLosses context) planned records ∧
    state.diagnostics.losses = records.flatten
  placed : Placed context planned state.events state.onsetIndices

variable {context : PlanningContext} {planned : List CanonicalEvent} {event : CanonicalEvent}

/-- The loop starts with an empty tally. -/
theorem accounted_initial (source : CanonicalSong) :
    Accounted context [] ⟨initialDiagnostics source, [], fun _ => none⟩ where
  balanced := ⟨rfl, rfl, rfl, rfl⟩
  losses := ⟨[], List.Forall₂.nil, rfl⟩
  placed := by
    refine ⟨fun key index => ?_, ?_, ?_, ?_⟩ <;> simp

/-- An appended event extends the recorded losses by its own. -/
theorem losses_append {losses : List PlanLoss} {own : List PlanLoss}
    (h : ∃ records, List.Forall₂ (EventLosses context) planned records ∧
      losses = records.flatten) (hown : EventLosses context event own) :
    ∃ records, List.Forall₂ (EventLosses context) (planned ++ [event]) records ∧
      losses ++ own = records.flatten := by
  obtain ⟨records, hrecords, rfl⟩ := h
  refine ⟨records ++ [own], ?_, by simp⟩
  exact List.rel_append hrecords (List.Forall₂.cons hown List.Forall₂.nil)

/-- An event that is not mapped belongs to no onset. -/
theorem mapsTo_eq_false_of_lost {reason : PlanLossReason}
    (h : (eventFate context event).lossReason = some reason) (onset : PianoOnset) :
    mapsTo context onset event = false := by
  unfold mapsTo
  rw [decide_eq_false_iff_not]
  rintro ⟨hfate, -⟩
  rw [hfate] at h
  cases h

/-- An event that is not mapped leaves the onsets as they are. -/
theorem Placed.lost {onsets : List PianoOnset} {onsetIndices : ℕ × ℕ → Option ℕ}
    (h : Placed context planned onsets onsetIndices) {reason : PlanLossReason}
    (hlost : (eventFate context event).lossReason = some reason) :
    Placed context (planned ++ [event]) onsets onsetIndices where
  indexed := h.indexed
  provenance onset hmem := by
    rw [List.filter_append, h.provenance onset hmem]
    simp [mapsTo_eq_false_of_lost hlost]
  covered other hother hmapped := by
    rcases List.mem_append.mp hother with hplanned | hevent
    · exact h.covered other hplanned hmapped
    · rw [List.mem_singleton.mp hevent, hlost] at hmapped
      cases hmapped
  keyed := h.keyed

/-- An event that is not mapped settles its tally with one loss record of its reason. -/
theorem Accounted.lost {state : PlanningState} {diagnostics : PianoPlanDiagnostics}
    {track : SourceTrack} {reason : PlanLossReason} (h : Accounted context planned state)
    (htrack : context.tracks.find? (fun track => track.index = event.trackIndex) = some track)
    (hlost : (eventFate context event).lossReason = some reason)
    (hlosses : diagnostics.losses = state.diagnostics.losses)
    (hbalanced : Balanced diagnostics (planned.length + 1) 0 0 state.events.length) :
    Accounted context (planned ++ [event])
      { state with
        diagnostics := diagnostics.addLoss reason (sourceProvenance event track) } where
  balanced := by
    rw [List.length_append, List.length_singleton]
    exact ⟨hbalanced.selected, hbalanced.resolved, hbalanced.mapped, hbalanced.placed⟩
  losses := by
    have hown : EventLosses context event [⟨reason, some (sourceProvenance event track)⟩] := by
      simp [EventLosses, hlost, provenanceOf, htrack]
    simpa [PianoPlanDiagnostics.addLoss, hlosses] using losses_append h.losses hown
  placed := h.placed.lost hlost

/-- Resolving a selected event either settles it as lost or leaves one event to map. -/
theorem resolveButton_accounts {state : PlanningState} {button : Option ℕ}
    {selected resolved : PianoPlanDiagnostics} {track : SourceTrack}
    (hnumbers : context.targetNoteNumbers.length = skyScanCodes.length)
    (h : Accounted context planned state)
    (htrack : context.tracks.find? (fun track => track.index = event.trackIndex) = some track)
    (hselection : omittedBySelection context.mode event.trackIndex = false)
    (hselected : selected = { state.diagnostics with
      selectedSourceEventCount := state.diagnostics.selectedSourceEventCount + 1 })
    (hresolve : resolveButton context.targetNoteNumbers event.pitch
      (sourceProvenance event track) selected = .ok (button, resolved)) :
    (button = none → Accounted context (planned ++ [event])
      { state with diagnostics := resolved }) ∧
    ∀ buttonIndex, button = some buttonIndex →
      eventFate context event = .mapped buttonIndex ∧ buttonIndex < skyScanCodes.length ∧
      resolved.losses = state.diagnostics.losses ∧
      Balanced resolved (planned.length + 1) 1 0 state.events.length := by
  have hfate : eventFate context event =
      pitchFate context.targetNoteNumbers event.pitch := by
    rw [eventFate, hselection]
    rfl
  obtain ⟨hsel, hres, hmap, hplc⟩ := h.balanced
  subst hselected
  unfold resolveButton at hresolve
  split at hresolve
  -- a physical key
  · rename_i index hpitch
    split at hresolve
    · cases hresolve
    · rename_i hindex
      cases hresolve
      refine ⟨fun hbutton => absurd hbutton (by simp), fun buttonIndex hbutton => ?_⟩
      cases hbutton
      refine ⟨by rw [hfate, hpitch]; rfl, by omega, rfl, ?_⟩
      exact ⟨by simp; omega, by simp; omega, by simp; omega, by simpa using hplc⟩
  -- a pitched note number, playable or not
  · rename_i number hpitch
    dsimp only at hresolve
    split at hresolve
    · rename_i index hindex
      cases hresolve
      refine ⟨fun hbutton => absurd hbutton (by simp), fun buttonIndex hbutton => ?_⟩
      cases hbutton
      have hbound : index < context.targetNoteNumbers.length :=
        (List.findIdx?_eq_some_iff_findIdx_eq.mp hindex).1
      refine ⟨by rw [hfate, hpitch, pitchFate, hindex], hnumbers ▸ hbound, rfl, ?_⟩
      exact ⟨by simp; omega, by simp; omega, by simp; omega, by simpa using hplc⟩
    · rename_i hindex
      cases hresolve
      refine ⟨fun _ => ?_, fun _ hbutton => absurd hbutton (by simp)⟩
      have hlost : (eventFate context event).lossReason = some .targetPianoUnplayable := by
        rw [hfate, hpitch, pitchFate, hindex]
        rfl
      exact h.lost htrack hlost rfl
        ⟨by simp; omega, by simp; omega, by simp; omega, by simpa using hplc⟩
  · rename_i number hpitch
    cases hresolve
    refine ⟨fun _ => ?_, fun _ hbutton => absurd hbutton (by simp)⟩
    have hlost : (eventFate context event).lossReason = some .sourceUnpitched := by
      rw [hfate, hpitch]
      rfl
    exact h.lost htrack hlost rfl
      ⟨by simp; omega, by simp; omega, by simpa using hmap, by simpa using hplc⟩
  · rename_i number hpitch
    cases hresolve
    refine ⟨fun _ => ?_, fun _ hbutton => absurd hbutton (by simp)⟩
    have hlost : (eventFate context event).lossReason = some .sourceUnresolved := by
      rw [hfate, hpitch]
      rfl
    exact h.lost htrack hlost rfl
      ⟨by simp; omega, by simp; omega, by simpa using hmap, by simpa using hplc⟩

/-- An event belongs to an onset through the onset's time and key only. -/
theorem mapsTo_congr {a b : PianoOnset} (h : (a.scheduledOnsetUs, a.buttonIndex) =
    (b.scheduledOnsetUs, b.buttonIndex)) (event : CanonicalEvent) :
    mapsTo context a event = mapsTo context b event := by
  obtain ⟨htime, hbutton⟩ := Prod.mk.inj h
  rw [mapsTo, mapsTo, htime, hbutton]

/-- A mapped event belongs exactly to the onset of its key and scaled time. -/
theorem mapsTo_iff {scheduledOnsetUs buttonIndex : ℕ}
    (hfate : eventFate context event = .mapped buttonIndex)
    (hscaled : context.tempoScale.roundScaledOnset event.onsetUs = some scheduledOnsetUs)
    (onset : PianoOnset) : mapsTo context onset event = true ↔
      (onset.scheduledOnsetUs, onset.buttonIndex) = (scheduledOnsetUs, buttonIndex) := by
  rw [mapsTo, decide_eq_true_iff, hfate, hscaled, Prod.mk.injEq]
  simp only [EventFate.mapped.injEq, Option.some.injEq]
  exact ⟨fun h => ⟨h.2.symm, h.1.symm⟩, fun h => ⟨h.2.symm, h.1.symm⟩⟩

/-- Absorbing an event keeps every onset's place, time and key. -/
theorem getElem?_absorb {onsets : List PianoOnset} {index other : ℕ}
    {provenance : SourceEventProvenance} {onset : PianoOnset}
    (h : (onsets.modify index (·.absorb provenance))[other]? = some onset) :
    ∃ before, onsets[other]? = some before ∧
      onset = if index = other then before.absorb provenance else before := by
  rw [List.getElem?_modify] at h
  cases hbefore : onsets[other]? with
  | none => simp [hbefore] at h
  | some before =>
    rw [hbefore] at h
    refine ⟨before, rfl, ?_⟩
    simpa using h.symm

/-- Absorbing a mapped event into the onset of its key and time keeps the onsets exact. -/
theorem Placed.absorb {onsets : List PianoOnset} {onsetIndices : ℕ × ℕ → Option ℕ}
    {scheduledOnsetUs buttonIndex index : ℕ} {existing : PianoOnset}
    (h : Placed context planned onsets onsetIndices)
    (hfate : eventFate context event = .mapped buttonIndex)
    (hscaled : context.tempoScale.roundScaledOnset event.onsetUs = some scheduledOnsetUs)
    (hindex : onsetIndices (scheduledOnsetUs, buttonIndex) = some index)
    (hexisting : onsets[index]? = some existing) :
    Placed context (planned ++ [event])
      (onsets.modify index (·.absorb (provenanceOf context.tracks event))) onsetIndices := by
  have hkey : (existing.scheduledOnsetUs, existing.buttonIndex) =
      (scheduledOnsetUs, buttonIndex) := by
    obtain ⟨onset, honset, hkey⟩ := (h.indexed _ _).mp hindex
    rw [hexisting] at honset
    cases honset
    exact hkey
  have hafter : ∀ other before, onsets[other]? = some before →
      (onsets.modify index (·.absorb (provenanceOf context.tracks event)))[other]? =
        some (if index = other then before.absorb (provenanceOf context.tracks event)
          else before) := by
    intro other before hbefore
    rw [List.getElem?_modify, hbefore]
    rfl
  have hsame : ∀ (other : ℕ) (before : PianoOnset),
      ((if index = other then before.absorb (provenanceOf context.tracks event)
          else before).scheduledOnsetUs,
        (if index = other then before.absorb (provenanceOf context.tracks event)
          else before).buttonIndex) = (before.scheduledOnsetUs, before.buttonIndex) := by
    intro other before
    split <;> rfl
  refine ⟨fun key other => ?_, fun onset hmem => ?_, fun other hother hmapped => ?_,
    fun onset hmem => ?_⟩
  · rw [h.indexed]
    constructor
    · rintro ⟨before, hbefore, hkeyBefore⟩
      exact ⟨_, hafter other before hbefore, (hsame other before).trans hkeyBefore⟩
    · rintro ⟨onset, honset, hkeyOnset⟩
      obtain ⟨before, hbefore, rfl⟩ := getElem?_absorb honset
      exact ⟨before, hbefore, (hsame other before).symm.trans hkeyOnset⟩
  · obtain ⟨other, honset⟩ := List.mem_iff_getElem?.mp hmem
    obtain ⟨before, hbefore, rfl⟩ := getElem?_absorb honset
    have hprovenance := h.provenance before (List.mem_of_getElem? hbefore)
    have hfilter : planned.filter (mapsTo context (if index = other then
        before.absorb (provenanceOf context.tracks event) else before)) =
        planned.filter (mapsTo context before) :=
      List.filter_congr fun e _ => mapsTo_congr (hsame other before) e
    rw [List.filter_append, hfilter, List.map_append, ← hprovenance]
    by_cases hother : index = other
    · -- the absorbing onset gains exactly this event
      subst hother
      have hbefore' : before = existing := by
        rw [hexisting] at hbefore
        exact (Option.some.inj hbefore).symm
      have hmaps : mapsTo context (before.absorb (provenanceOf context.tracks event)) event =
          true := (mapsTo_iff hfate hscaled _).mpr (hbefore' ▸ hkey)
      rw [if_pos rfl, List.filter_cons_of_pos hmaps]
      rfl
    · -- any other onset has another time or key
      have hmaps : mapsTo context before event = false := by
        rw [Bool.eq_false_iff, Ne, mapsTo_iff hfate hscaled]
        intro hbeforeKey
        have hplace := (h.indexed _ _).mpr ⟨before, hbefore, hbeforeKey⟩
        exact hother (Option.some.inj (hindex.symm.trans hplace))
      simp [hother, hmaps]
  · rcases List.mem_append.mp hother with hplanned | hevent
    · obtain ⟨before, hbefore, hmaps⟩ := h.covered other hplanned hmapped
      obtain ⟨place, hplace⟩ := List.mem_iff_getElem?.mp hbefore
      exact ⟨_, List.mem_of_getElem? (hafter place before hplace),
        (mapsTo_congr (hsame place before) other).trans hmaps⟩
    · rw [List.mem_singleton.mp hevent]
      refine ⟨_, List.mem_of_getElem? (hafter index existing hexisting), ?_⟩
      exact (mapsTo_iff hfate hscaled _).mpr ((hsame index existing).trans hkey)
  · obtain ⟨other, honset⟩ := List.mem_iff_getElem?.mp hmem
    obtain ⟨before, hbefore, rfl⟩ := getElem?_absorb honset
    have hkeyed := h.keyed before (List.mem_of_getElem? hbefore)
    split <;> exact hkeyed

/-- Opening an onset for a mapped event without one keeps the onsets exact. -/
theorem Placed.open {onsets : List PianoOnset} {onsetIndices : ℕ × ℕ → Option ℕ}
    {scheduledOnsetUs buttonIndex : ℕ} {fresh : PianoOnset}
    (h : Placed context planned onsets onsetIndices)
    (hfate : eventFate context event = .mapped buttonIndex)
    (hscaled : context.tempoScale.roundScaledOnset event.onsetUs = some scheduledOnsetUs)
    (hindex : onsetIndices (scheduledOnsetUs, buttonIndex) = none)
    (hfresh : (fresh.scheduledOnsetUs, fresh.buttonIndex) = (scheduledOnsetUs, buttonIndex))
    (hscan : skyScanCodes[fresh.buttonIndex]? = some fresh.scanCode)
    (hprovenance : fresh.provenance = [provenanceOf context.tracks event]) :
    Placed context (planned ++ [event]) (onsets ++ [fresh])
      (Function.update onsetIndices (scheduledOnsetUs, buttonIndex) (some onsets.length)) := by
  have hnew : ∀ onset ∈ onsets,
      (onset.scheduledOnsetUs, onset.buttonIndex) ≠ (scheduledOnsetUs, buttonIndex) := by
    intro onset hmem hkey
    obtain ⟨place, hplace⟩ := List.mem_iff_getElem?.mp hmem
    have hsome := (h.indexed _ _).mpr ⟨onset, hplace, hkey⟩
    rw [hindex] at hsome
    cases hsome
  -- no earlier event was mapped to this key and time
  have hnone : planned.filter (mapsTo context fresh) = [] := by
    rw [List.filter_eq_nil_iff]
    intro other hother hmaps
    have hmapped : eventFate context other = .mapped fresh.buttonIndex :=
      (of_decide_eq_true hmaps).1
    obtain ⟨onset, honset, hmapsOnset⟩ := h.covered other hother (by rw [hmapped]; rfl)
    have hkey := (mapsTo_iff hmapped (of_decide_eq_true hmaps).2 onset).mp hmapsOnset
    exact hnew onset honset (hkey.trans hfresh)
  refine ⟨fun key index => ?_, fun onset hmem => ?_, fun other hother hmapped => ?_,
    fun onset hmem => ?_⟩
  · by_cases hkey : key = (scheduledOnsetUs, buttonIndex)
    · subst hkey
      rw [Function.update_self, Option.some.injEq]
      constructor
      · rintro rfl
        exact ⟨fresh, by simp, hfresh⟩
      · rintro ⟨onset, honset, hkeyOnset⟩
        rcases Nat.lt_trichotomy index onsets.length with hlt | heq | hgt
        · rw [List.getElem?_append_left hlt] at honset
          exact absurd hkeyOnset (hnew onset (List.mem_of_getElem? honset))
        · exact heq.symm
        · rw [List.getElem?_eq_none (by simp; omega)] at honset
          cases honset
    · rw [Function.update_of_ne hkey, h.indexed]
      constructor
      · rintro ⟨onset, honset, hkeyOnset⟩
        obtain ⟨hlt, -⟩ := List.getElem?_eq_some_iff.mp honset
        exact ⟨onset, by rw [List.getElem?_append_left hlt, honset], hkeyOnset⟩
      · rintro ⟨onset, honset, hkeyOnset⟩
        rcases Nat.lt_trichotomy index onsets.length with hlt | heq | hgt
        · exact ⟨onset, by rw [List.getElem?_append_left hlt] at honset; exact honset, hkeyOnset⟩
        · subst heq
          rw [List.getElem?_concat_length, Option.some.injEq] at honset
          rw [← honset, hfresh] at hkeyOnset
          exact absurd hkeyOnset.symm hkey
        · rw [List.getElem?_eq_none (by simp; omega)] at honset
          cases honset
  · rw [List.filter_append, List.map_append]
    rcases List.mem_append.mp hmem with hbefore | hlast
    · have hmaps : mapsTo context onset event = false := by
        rw [Bool.eq_false_iff, Ne, mapsTo_iff hfate hscaled]
        exact hnew onset hbefore
      rw [h.provenance onset hbefore]
      simp [hmaps]
    · rw [List.mem_singleton.mp hlast]
      have hmaps : mapsTo context fresh event = true :=
        (mapsTo_iff hfate hscaled _).mpr hfresh
      simp [hnone, hmaps, hprovenance]
  · rcases List.mem_append.mp hother with hplanned | hevent
    · obtain ⟨onset, honset, hmaps⟩ := h.covered other hplanned hmapped
      exact ⟨onset, List.mem_append_left _ honset, hmaps⟩
    · rw [List.mem_singleton.mp hevent]
      exact ⟨fresh, by simp, (mapsTo_iff hfate hscaled _).mpr hfresh⟩
  · rcases List.mem_append.mp hmem with hbefore | hlast
    · exact h.keyed onset hbefore
    · rw [List.mem_singleton.mp hlast]
      exact hscan

/-- Counting a mapped event records its lost sustain and leaves it to be placed. -/
theorem countMapped_accounts {diagnostics : PianoPlanDiagnostics}
    {provenance : SourceEventProvenance} {total onsets : ℕ}
    (h : Balanced diagnostics total 1 0 onsets) :
    Balanced (countMapped event provenance diagnostics) total 0 1 onsets ∧
    (countMapped event provenance diagnostics).losses = diagnostics.losses ++
      (if 0 < event.durationUs then [⟨.authoredSustainNotReproduced, some provenance⟩]
        else []) := by
  obtain ⟨hsel, hres, hmap, hplc⟩ := h
  unfold countMapped
  split
  · exact ⟨⟨hsel, hres, by simp [PianoPlanDiagnostics.addLoss]; omega,
      by simp [PianoPlanDiagnostics.addLoss]; omega⟩, rfl⟩
  · exact ⟨⟨hsel, hres, by simp; omega, by simp; omega⟩, by simp⟩

/-- Placing a counted event settles its tally. -/
theorem placeOnset_accounts {state : PlanningState} {counted : PianoPlanDiagnostics}
    {track : SourceTrack} {scheduledOnsetUs buttonIndex : ℕ}
    (h : Accounted context planned state)
    (htrack : context.tracks.find? (fun track => track.index = event.trackIndex) = some track)
    (hfate : eventFate context event = .mapped buttonIndex)
    (hbutton : buttonIndex < skyScanCodes.length)
    (hscaled : context.tempoScale.roundScaledOnset event.onsetUs = some scheduledOnsetUs)
    (hbalanced : Balanced counted (planned.length + 1) 0 1 state.events.length)
    (hlosses : counted.losses = state.diagnostics.losses ++
      (if 0 < event.durationUs then
        [⟨.authoredSustainNotReproduced, some (sourceProvenance event track)⟩] else [])) :
    Accounted context (planned ++ [event])
      (placeOnset event (sourceProvenance event track) scheduledOnsetUs buttonIndex
        { state with diagnostics := counted }) := by
  obtain ⟨hsel, hres, hmap, hplc⟩ := hbalanced
  have hprov : provenanceOf context.tracks event = sourceProvenance event track := by
    rw [provenanceOf, htrack]
    rfl
  have hlost : (eventFate context event).lossReason = none := by rw [hfate]; rfl
  have hown : ∀ collapse : List PlanLoss,
      (collapse = [] ∨
        collapse = [⟨.tempoQuantizationCollapse, some (sourceProvenance event track)⟩]) →
      ∃ records, List.Forall₂ (EventLosses context) (planned ++ [event]) records ∧
        counted.losses ++ collapse = records.flatten := by
    intro collapse hcollapse
    rw [hlosses, List.append_assoc]
    refine losses_append h.losses ?_
    rw [EventLosses, hlost, hprov]
    exact ⟨collapse, hcollapse, rfl⟩
  cases hindex : state.onsetIndices (scheduledOnsetUs, buttonIndex) with
  | some index =>
    obtain ⟨existing, hexisting, -⟩ := (h.placed.indexed _ _).mp hindex
    have hplaced := h.placed.absorb hfate hscaled hindex hexisting
    rw [hprov] at hplaced
    simp only [placeOnset, hindex, Option.bind_some, hexisting, Option.map_some]
    by_cases hsame : simultaneousSourceOnset event.onsetUs existing = true
    · rw [if_pos hsame]
      refine ⟨⟨by simpa using hsel, hres, hmap, by simp; omega⟩, ?_, hplaced⟩
      simpa using hown [] (Or.inl rfl)
    · rw [if_neg hsame]
      refine ⟨⟨by simpa [PianoPlanDiagnostics.addLoss] using hsel, hres, hmap, ?_⟩, ?_, hplaced⟩
      · simp [PianoPlanDiagnostics.addLoss]
        omega
      · exact hown _ (Or.inr rfl)
  | none =>
    simp only [placeOnset, hindex, Option.bind_none]
    refine ⟨⟨by simpa using hsel, hres, hmap, by simp; omega⟩, ?_, ?_⟩
    · simpa using hown [] (Or.inl rfl)
    · refine h.placed.open hfate hscaled hindex rfl ?_ (by rw [hprov])
      simp [List.getElem?_eq_getElem hbutton, List.getD_eq_getElem?_getD]

/-- Planning one event adds it to the tally. -/
theorem planEvent_accounts {state next : PlanningState}
    (hnumbers : context.targetNoteNumbers.length = skyScanCodes.length)
    (h : Accounted context planned state) (hstep : planEvent context state event = .ok next) :
    Accounted context (planned ++ [event]) next := by
  simp only [planEvent, Except.bind_eq_ok, okOr_eq_ok] at hstep
  obtain ⟨track, htrack, hstep⟩ := hstep
  obtain ⟨hsel, hres, hmap, hplc⟩ := h.balanced
  split at hstep
  -- left out by the track selection
  · rename_i homitted
    cases hstep
    have hlost : (eventFate context event).lossReason = some .trackSelectionOmission := by
      rw [eventFate, if_pos homitted]
      rfl
    exact h.lost htrack hlost rfl
      ⟨by simp; omega, by simpa using hres, by simpa using hmap, by simpa using hplc⟩
  · rename_i hselection
    simp only [planSelected, Except.bind_eq_ok] at hstep
    obtain ⟨⟨button, resolved⟩, hresolve, hstep⟩ := hstep
    obtain ⟨hlostCase, hmappedCase⟩ :=
      resolveButton_accounts hnumbers h htrack (by simpa using hselection) rfl hresolve
    cases button with
    | none =>
      cases hstep
      exact hlostCase rfl
    | some buttonIndex =>
      obtain ⟨hfate, hbutton, hlosses, hbalanced⟩ := hmappedCase buttonIndex rfl
      simp only [mapEvent, Except.bind_eq_ok, okOr_eq_ok] at hstep
      obtain ⟨scheduledOnsetUs, hscaled, _, -, hstep⟩ := hstep
      cases hstep
      obtain ⟨hcounted, hcountedLosses⟩ :
          Balanced (countMapped event (sourceProvenance event track) resolved)
            (planned.length + 1) 0 1 state.events.length ∧ _ := countMapped_accounts hbalanced
      rw [hlosses] at hcountedLosses
      exact placeOnset_accounts h htrack hfate hbutton hscaled hcounted hcountedLosses

/-- Planning a run of events adds all of them to the tally. -/
theorem planEvents_accounts (hnumbers : context.targetNoteNumbers.length = skyScanCodes.length)
    {events : List CanonicalEvent} {state final : PlanningState}
    (h : Accounted context planned state)
    (hrun : events.foldlM (planEvent context) state = .ok final) :
    Accounted context (planned ++ events) final := by
  induction events generalizing planned state with
  | nil =>
    cases hrun
    simpa using h
  | cons event rest ih =>
    rw [List.foldlM_cons, Except.bind_eq_ok] at hrun
    obtain ⟨next, hstep, hrest⟩ := hrun
    have hnext := planEvent_accounts hnumbers h hstep
    simpa using ih hnext hrest

/-- The context in which a plan places its source events. -/
def planningContext {Risk : Type} (options : PianoPlannerOptions)
    (policy : MaterializedTimingPolicy) (source : CanonicalSong) (plan : PianoPlan Risk) :
    PlanningContext where
  tracks := source.tracks
  mode := options.mode.getD defaultNewSheetMode
  targetNoteNumbers := targetNoteNumbers plan.targetPitch.pitch
  tempoScale := options.tempoScale
  policy := policy

/-- Every occurrence of a source event is counted once: the counters balance, every onset holds
exactly the provenance of the events mapped to its key and time, and every event contributes
exactly the losses its fate allows. -/
structure Conserves {Risk : Type} (context : PlanningContext) (source : CanonicalSong)
    (plan : PianoPlan Risk) : Prop where
  decoded : plan.diagnostics.decodedEventCount = source.events.length
  selected : plan.diagnostics.decodedEventCount =
    plan.diagnostics.selectedSourceEventCount + plan.diagnostics.omittedSourceEventCount
  resolved : plan.diagnostics.selectedSourceEventCount = plan.diagnostics.resolvedEventCount +
    plan.diagnostics.sourceUnpitchedCount + plan.diagnostics.sourceUnresolvedCount
  mapped : plan.diagnostics.resolvedEventCount =
    plan.diagnostics.mappedSourceEventCount + plan.diagnostics.targetUnplayableCount
  onsets : plan.diagnostics.mappedOnsetCount = plan.events.length
  placed : plan.diagnostics.mappedSourceEventCount = plan.diagnostics.mappedOnsetCount +
    plan.diagnostics.mergedDuplicateCount + plan.diagnostics.tempoQuantizationCollapseCount
  distinct : plan.events.Pairwise fun a b =>
    (a.scheduledOnsetUs, a.buttonIndex) ≠ (b.scheduledOnsetUs, b.buttonIndex)
  keyed : ∀ onset ∈ plan.events, skyScanCodes[onset.buttonIndex]? = some onset.scanCode
  provenance : ∀ onset ∈ plan.events, onset.provenance.Perm
    ((source.events.filter (mapsTo context onset)).map (provenanceOf context.tracks))
  covered : ∀ event ∈ source.events, (eventFate context event).lossReason = none →
    ∃ onset ∈ plan.events, mapsTo context onset event
  losses : ∃ records, List.Forall₂ (EventLosses context) source.events records ∧
    plan.diagnostics.losses.Perm (records.flatten ++
      if source.events = [] then [⟨.noPlayableNotes, none⟩] else [])

/-- The target piano has one note number for every key. -/
theorem targetNoteNumbers_length (pitch : PianoPitch) :
    (targetNoteNumbers pitch).length = skyScanCodes.length := by
  rw [targetNoteNumbers, List.length_map]
  rfl

/-- Onsets found by their own index have pairwise distinct times and keys. -/
theorem Placed.distinct {onsets : List PianoOnset} {onsetIndices : ℕ × ℕ → Option ℕ}
    (h : Placed context planned onsets onsetIndices) :
    onsets.Pairwise fun a b =>
      (a.scheduledOnsetUs, a.buttonIndex) ≠ (b.scheduledOnsetUs, b.buttonIndex) := by
  rw [List.pairwise_iff_getElem]
  intro i j hi hj hlt hkey
  have hfirst := (h.indexed _ _).mpr ⟨onsets[i], List.getElem?_eq_getElem hi, hkey⟩
  have hsecond := (h.indexed _ _).mpr ⟨onsets[j], List.getElem?_eq_getElem hj, rfl⟩
  have heq : i = j := Option.some.inj (hfirst.symm.trans hsecond)
  omega

/-- Losses recorded for one order of the events serve every order of them. -/
theorem losses_perm {events : List CanonicalEvent} {records : List (List PlanLoss)}
    (hperm : events.Perm planned) (h : List.Forall₂ (EventLosses context) planned records) :
    ∃ records', List.Forall₂ (EventLosses context) events records' ∧
      records.flatten.Perm records'.flatten := by
  obtain ⟨records', hrecords, hpermuted⟩ := List.perm_comp_forall₂ hperm h
  exact ⟨records', hrecords, hpermuted.symm.flatten⟩

/-- A song without losses and onsets has no events. -/
theorem Accounted.eq_nil {state : PlanningState} (h : Accounted context planned state)
    (hevents : state.events = []) (hlosses : state.diagnostics.losses = []) : planned = [] := by
  obtain ⟨records, hrecords, hflat⟩ := h.losses
  cases hrecords with
  | nil => rfl
  | @cons event own rest others hown hrest =>
    have hnil : own = [] := by
      have hempty : (own :: others).flatten = [] := hflat.symm.trans hlosses
      exact List.flatten_eq_nil_iff.mp hempty own List.mem_cons_self
    cases hreason : (eventFate context event).lossReason with
    | some reason =>
      rw [EventLosses, hreason, hnil] at hown
      cases hown
    | none =>
      obtain ⟨onset, honset, -⟩ := h.placed.covered event List.mem_cons_self hreason
      rw [hevents] at honset
      cases honset

/-- Resolving a pitch leaves the number of decoded events alone. -/
theorem resolveButton_decoded {numbers : List ℤ} {pitch : CanonicalPitch}
    {provenance : SourceEventProvenance} {diagnostics : PianoPlanDiagnostics}
    {resolved : Option ℕ × PianoPlanDiagnostics}
    (h : resolveButton numbers pitch provenance diagnostics = .ok resolved) :
    resolved.2.decodedEventCount = diagnostics.decodedEventCount := by
  unfold resolveButton at h
  dsimp only at h
  split at h
  · split at h <;> cases h
    rfl
  · split at h <;> cases h <;> rfl
  · cases h
    rfl
  · cases h
    rfl

/-- Planning an event leaves the number of decoded events alone. -/
theorem planEvent_decoded {state next : PlanningState}
    (h : planEvent context state event = .ok next) :
    next.diagnostics.decodedEventCount = state.diagnostics.decodedEventCount := by
  simp only [planEvent, Except.bind_eq_ok, okOr_eq_ok] at h
  obtain ⟨track, -, h⟩ := h
  split at h
  · cases h
    rfl
  · simp only [planSelected, Except.bind_eq_ok] at h
    obtain ⟨⟨button, resolved⟩, hresolve, h⟩ := h
    have hresolved := resolveButton_decoded hresolve
    cases button with
    | none =>
      cases h
      exact hresolved
    | some buttonIndex =>
      simp only [mapEvent, Except.bind_eq_ok, okOr_eq_ok] at h
      obtain ⟨scheduledOnsetUs, -, _, -, h⟩ := h
      cases h
      have hcounted : (countMapped event (sourceProvenance event track)
          resolved).decodedEventCount = resolved.decodedEventCount := by
        unfold countMapped
        split <;> rfl
      unfold placeOnset
      split
      · dsimp only
        split <;> exact hcounted.trans hresolved
      · exact hcounted.trans hresolved

/-- The whole loop leaves the number of decoded events alone. -/
theorem planEvents_decoded {events : List CanonicalEvent} {state final : PlanningState}
    (h : events.foldlM (planEvent context) state = .ok final) :
    final.diagnostics.decodedEventCount = state.diagnostics.decodedEventCount := by
  induction events generalizing state with
  | nil =>
    cases h
    rfl
  | cons event rest ih =>
    rw [List.foldlM_cons, Except.bind_eq_ok] at h
    obtain ⟨next, hstep, hrest⟩ := h
    exact (ih hrest).trans (planEvent_decoded hstep)

/-- What the last part of planning does to the loop's diagnostics. -/
theorem finishPlan_diagnostics {Risk : Type} {analyzeSchedule : ScheduleMetadata → Risk}
    {state : PlanningState} {outcome : PlanOutcome Risk}
    (h : finishPlan analyzeSchedule context state = .ok outcome) :
    ∃ conflicts, outcome.diagnostics = { state.counted with
      physicalTimingConflictCount := conflicts
      losses := state.diagnostics.losses ++
        if state.events = [] ∧ state.diagnostics.losses = [] then [⟨.noPlayableNotes, none⟩]
        else [] } := by
  unfold finishPlan at h
  split at h
  · rename_i hevents
    cases h
    refine ⟨state.diagnostics.physicalTimingConflictCount, ?_⟩
    by_cases hlosses : state.diagnostics.losses = []
    · simp [unsupportedOutcome, PlanningState.counted, hlosses, hevents]
    · simp [unsupportedOutcome, PlanningState.counted, hlosses]
  · rename_i hevents
    obtain ⟨schedule, -, rfl⟩ := Except.map_eq_ok.mp h
    exact ⟨schedule.impossibleSameKeyRepeats, by
      simp [scheduledOutcome, PlanningState.counted, hevents]⟩

/-- A plan accounts for every occurrence of every source event: the four counts balance, every
event is held by exactly the onset of its own key and scaled time or leaves exactly one record
of the reason it is not mapped, and onsets have pairwise distinct times and keys. -/
theorem planCanonicalSong_conserves {Risk : Type} (analyzeSchedule : ScheduleMetadata → Risk)
    (source : CanonicalSong) (options : PianoPlannerOptions) (policy : MaterializedTimingPolicy)
    (plan : PianoPlan Risk)
    (h : planCanonicalSong analyzeSchedule source options policy = .ok plan) :
    Conserves (planningContext options policy source plan) source plan := by
  simp only [planCanonicalSong, Except.bind_eq_ok, failIf_eq_ok, Except.pure_eq_ok] at h
  obtain ⟨targetPitch, -, _, -, _, -, _, -, state, hrun, outcome, hfinish, rfl⟩ := h
  set context : PlanningContext :=
    { tracks := source.tracks
      mode := options.mode.getD defaultNewSheetMode
      targetNoteNumbers := targetNoteNumbers targetPitch.pitch
      tempoScale := options.tempoScale
      policy := policy } with hcontext
  have hperm : (orderedEvents source.events).Perm source.events := List.perm_insertionSort _ _
  have htally : Accounted context (orderedEvents source.events) state := by
    simpa using planEvents_accounts (targetNoteNumbers_length targetPitch.pitch)
      (accounted_initial source) hrun
  have hdecoded := planEvents_decoded hrun
  obtain ⟨conflicts, hdiagnostics⟩ := finishPlan_diagnostics hfinish
  obtain ⟨hsel, hres, hmap, hplc⟩ := htally.balanced
  rw [hperm.length_eq] at hsel
  have hcount : state.diagnostics.decodedEventCount = source.events.length := hdecoded
  have hempty : (state.events = [] ∧ state.diagnostics.losses = []) ↔ source.events = [] := by
    constructor
    · rintro ⟨hevents, hlosses⟩
      have hnil := htally.eq_nil hevents hlosses
      rw [hnil] at hperm
      exact hperm.symm.eq_nil
    · intro hnil
      have hsorted : orderedEvents source.events = [] := by
        rw [hnil] at hperm ⊢
        rfl
      have hstate : state = ⟨initialDiagnostics source, [], fun _ => none⟩ := by
        rw [planEvents, hsorted] at hrun
        cases hrun
        rfl
      rw [hstate]
      exact ⟨rfl, rfl⟩
  obtain ⟨records, hrecords, hflat⟩ := htally.losses
  obtain ⟨records', hrecords', hsame⟩ := losses_perm hperm.symm hrecords
  refine
    { decoded := ?_, selected := ?_, resolved := ?_, mapped := ?_, onsets := ?_, placed := ?_
      distinct := htally.placed.distinct
      keyed := htally.placed.keyed
      provenance := fun onset honset => ?_
      covered := fun event hevent => htally.placed.covered event (hperm.symm.subset hevent)
      losses := ⟨records', hrecords', ?_⟩ }
  · rw [hdiagnostics]
    exact hcount
  · rw [hdiagnostics]
    exact hcount.trans hsel
  · rw [hdiagnostics]
    exact hres
  · rw [hdiagnostics]
    exact hmap
  · rw [hdiagnostics]
    rfl
  · rw [hdiagnostics]
    exact hplc
  · rw [htally.placed.provenance onset honset]
    exact (hperm.filter _).map _
  · rw [hdiagnostics]
    dsimp only
    rw [if_congr hempty rfl rfl, hflat]
    exact hsame.append_right _

/-- The tempo scale of two: half the authored time, with ties rounded to even. -/
def halvingTempo : TempoScale where
  valid := true
  roundScaledOnset onsetUs := some ((onsetUs + if onsetUs % 4 = 3 then 1 else 0) / 2)
  boundedRecommendation _ _ := some 100

/-- A song whose events are merged, collapsed, omitted by nothing, unplayable and unpitched. -/
def layeredSong : CanonicalSong where
  name := "layered"
  format := .composed 5
  sourcePitch := "C"
  tracks := [⟨0, some "Piano", none⟩, ⟨1, none, none⟩]
  events :=
    [⟨0, .composedColumn 0 0, 0, 0, 0, .nominalId 0, .noteNumber 60 .pitched, none, none⟩,
      ⟨0, .composedColumn 0 0, 1, 0, 5, .nominalId 0, .noteNumber 60 .pitched, none, none⟩,
      ⟨1, .composedColumn 1 0, 0, 1, 0, .nominalId 0, .noteNumber 60 .pitched, none, none⟩,
      ⟨2, .composedColumn 2 0, 0, 4, 0, .nominalId 0, .noteNumber 61 .pitched, none, none⟩,
      ⟨3, .composedColumn 3 0, 1, 4, 0, .nominalId 0, .noteNumber 61 .unpitched, none, none⟩]
  diagnostics := ⟨4, []⟩

/-- The layered song is planned and conserved. -/
theorem layeredSong_conserves : ∃ plan : PianoPlan Unit,
    planCanonicalSong (fun _ => ()) layeredSong ⟨none, none, halvingTempo⟩ ⟨10, 5⟩ = .ok plan ∧
      Conserves (planningContext ⟨none, none, halvingTempo⟩ ⟨10, 5⟩ layeredSong plan)
        layeredSong plan := by
  have hok : (planCanonicalSong (fun _ => ()) layeredSong ⟨none, none, halvingTempo⟩
      ⟨10, 5⟩).isOk = true := by decide +kernel
  obtain ⟨plan, hplan⟩ := Except.exists_of_isOk hok
  exact ⟨plan, hplan, planCanonicalSong_conserves _ _ _ _ plan hplan⟩

end SkyAutoPlayer.AppCore
