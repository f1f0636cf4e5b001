import Mathlib.Data.List.Lex
import Mathlib.Data.List.Sort
import Mathlib.Logic.Function.Basic
import Mathlib.Order.Basic
import SkyAutoPlayer.AppCore.SongSchedule
import SkyAutoPlayer.Foundation.Checked

/-!
# Planning source events onto the fifteen Sky keys

The planner walks the source events in a canonical order. An event is omitted by the track
selection, fails to resolve to a playable key, or is mapped to a key; mapped events of one
scheduled time and key share one onset, which keeps the provenance of each. Every event that
is not reproduced exactly leaves a loss record.
-/

namespace SkyAutoPlayer.AppCore

open Foundation

/-- The versioned family of a source file. -/
inductive SongFormat where
  | legacyFlat
  | composed (version : ℕ)
  | recorded (version : ℕ)
  deriving DecidableEq, Repr

/-- Whether the source format resolves a note's pitch. -/
inductive Pitchability where
  | pitched
  | unpitched
  | unresolved
  deriving DecidableEq, Repr

/-- A source pitch: a physical key, or an absolute semitone number. -/
inductive CanonicalPitch where
  | skyKeyIndex (index : ℕ)
  | noteNumber (number : ℤ) (sourcePitchability : Pitchability)
  deriving DecidableEq, Repr

/-- The note identity as the source file serializes it. -/
inductive RawNoteIdentity where
  | legacyKeyIndex (index : ℕ)
  | legacyIndex (index : ℕ)
  | nominalId (number : ℤ)
  | absoluteNoteNumber (number : ℤ)
  deriving DecidableEq, Repr

/-- The place of a note in the source file. -/
inductive SourcePosition where
  | flatSongNote (noteIndex : ℕ)
  | composedColumn (columnIndex noteIndex : ℕ)
  | recordedNote (noteIndex : ℕ)
  | trackNote (trackIndex noteIndex : ℕ) (columnIndex : Option ℕ)
  deriving DecidableEq, Repr

/-- One track of the source roster. -/
structure SourceTrack where
  index : ℕ
  instrument : Option String
  effectivePitch : Option String
  deriving DecidableEq, Repr

/-- One decoded source event. -/
structure CanonicalEvent where
  sourceIndex : ℕ
  sourcePosition : SourcePosition
  trackIndex : ℕ
  onsetUs : ℕ
  durationUs : ℕ
  rawIdentity : RawNoteIdentity
  pitch : CanonicalPitch
  layerMask : Option ℕ
  spanColumns : Option ℕ
  deriving DecidableEq, Repr

/-- A warning of the decoder. -/
inductive DecodeWarning where
  | emptyLayerMask (sourceIndex : ℕ)
  | potentialPhysicalKeyMerge (onsetUs keyIndex occurrences : ℕ)
  deriving DecidableEq, Repr

/-- The decoder diagnostics that planning forwards. -/
structure DecodeDiagnostics where
  sourceNoteCount : ℕ
  warnings : List DecodeWarning
  deriving DecidableEq, Repr

/-- The decoded song, with the fields planning reads. -/
structure CanonicalSong where
  name : String
  format : SongFormat
  sourcePitch : String
  tracks : List SourceTrack
  events : List CanonicalEvent
  diagnostics : DecodeDiagnostics
  deriving DecidableEq, Repr

/-- Whether every track is combined or one is selected. -/
inductive ConversionMode where
  | mergePlayable
  | singleTrack (trackId : ℕ)
  deriving DecidableEq, Repr

/-- The mode of newly decoded sheets. -/
def defaultNewSheetMode : ConversionMode := .mergePlayable

/-- The pitch the target piano is tuned to. -/
inductive PianoPitch where
  | c | dFlat | d | eFlat | e | f | gFlat | g | aFlat | a | bFlat | b
  deriving DecidableEq, Repr

/-- Read a source pitch name. -/
def PianoPitch.fromSourcePitch : String → Option PianoPitch
  | "C" => some .c
  | "Db" => some .dFlat
  | "D" => some .d
  | "Eb" => some .eFlat
  | "E" => some .e
  | "F" => some .f
  | "Gb" => some .gFlat
  | "G" => some .g
  | "Ab" => some .aFlat
  | "A" => some .a
  | "Bb" => some .bFlat
  | "B" => some .b
  | _ => none

/-- The pitch's semitones above C. -/
def PianoPitch.semitoneOffset : PianoPitch → ℤ
  | .c => 0
  | .dFlat => 1
  | .d => 2
  | .eFlat => 3
  | .e => 4
  | .f => 5
  | .gFlat => 6
  | .g => 7
  | .aFlat => 8
  | .a => 9
  | .bFlat => 10
  | .b => 11

/-- The caller's planning choices. -/
structure PianoPlannerOptions where
  mode : Option ConversionMode
  targetPitch : Option PianoPitch
  tempoScale : TempoScale

/-- Whether the target pitch was chosen or taken from the source. -/
inductive TargetPitchSelection where
  | explicit
  | sourceSongPitch
  deriving DecidableEq, Repr

/-- The target pitch with its origin. -/
structure PianoTargetPitch where
  pitch : PianoPitch
  selection : TargetPitchSelection
  deriving DecidableEq, Repr

/-- Whether the plan can be played as it is. -/
inductive PlanStatus where
  | ready
  | requiresConfirmation
  | unsupported
  deriving DecidableEq, Repr

/-- Why a source event is not reproduced exactly. -/
inductive PlanLossReason where
  | trackSelectionOmission
  | sourceUnpitched
  | sourceUnresolved
  | targetPianoUnplayable
  | authoredSustainNotReproduced
  | tempoQuantizationCollapse
  | noPlayableNotes
  deriving DecidableEq, Repr

/-- Where an onset or a loss comes from. -/
structure SourceEventProvenance where
  sourceIndex : ℕ
  trackId : ℕ
  sourceOnsetUs : ℕ
  instrument : Option String
  sourcePosition : SourcePosition
  rawIdentity : RawNoteIdentity
  deriving DecidableEq, Repr

/-- One loss record; only the aggregate `noPlayableNotes` has no source event. -/
structure PlanLoss where
  reason : PlanLossReason
  sourceEvent : Option SourceEventProvenance
  deriving DecidableEq, Repr

/-- One physical onset with every source event that produced it. -/
structure PianoOnset where
  onsetUs : ℕ
  scheduledOnsetUs : ℕ
  buttonIndex : ℕ
  scanCode : ℕ
  provenance : List SourceEventProvenance
  deriving DecidableEq, Repr

/-- The planner's counters and loss records. -/
structure PianoPlanDiagnostics where
  sourceTupleCount : ℕ
  decodedEventCount : ℕ
  selectedSourceEventCount : ℕ
  omittedSourceEventCount : ℕ
  resolvedEventCount : ℕ
  mappedSourceEventCount : ℕ
  mappedOnsetCount : ℕ
  tempoQuantizationCollapseCount : ℕ
  mergedDuplicateCount : ℕ
  sourceUnpitchedCount : ℕ
  sourceUnresolvedCount : ℕ
  targetUnplayableCount : ℕ
  physicalTimingConflictCount : ℕ
  authoredSustainLostCount : ℕ
  losses : List PlanLoss
  sourceWarnings : List DecodeWarning
  deriving DecidableEq, Repr

/-- The plan; `Risk` is the physical risk report of its schedule. -/
structure PianoPlan (Risk : Type) where
  name : String
  format : SongFormat
  sourceTracks : List SourceTrack
  mode : ConversionMode
  targetPitch : PianoTargetPitch
  status : PlanStatus
  events : List PianoOnset
  diagnostics : PianoPlanDiagnostics
  schedule : Option ScheduleMetadata
  physicalRisk : Option Risk

/-- The planner's errors. -/
inductive PlannerError where
  | schedule (error : SongError)
  | invalidSourceTrack (eventIndex trackId : ℕ)
  | ambiguousTrackId (trackId : ℕ)
  | invalidTrackSelection (trackId : ℕ)
  | invalidLegacyKeyIndex (keyIndex : ℕ)
  | invalidSourcePitch (value : String)
  | scaledOnsetOutOfRange (sourceIndex trackId sourceOnsetUs : ℕ)
  | releaseTimeOutOfRange (sourceIndex trackId scheduledOnsetUs minimumHoldUs : ℕ)
  deriving DecidableEq, Repr

/-- The error's text. -/
def PlannerError.message : PlannerError → String
  | .schedule error => error.message
  | .invalidSourceTrack eventIndex trackId =>
    s!"canonical source event {eventIndex} refers to missing track {trackId}"
  | .ambiguousTrackId trackId => s!"canonical source track id {trackId} is duplicated"
  | .invalidTrackSelection trackId =>
    s!"selected track id {trackId} is not present in the source roster"
  | .invalidLegacyKeyIndex keyIndex =>
    s!"canonical legacy key index {keyIndex} is outside the Sky 15-key layout"
  | .invalidSourcePitch value =>
    s!"canonical source pitch `{value}` cannot be used as the default target pitch"
  | .scaledOnsetOutOfRange sourceIndex trackId sourceOnsetUs =>
    s!"scaled onset for source event {sourceIndex} on track {trackId} at {sourceOnsetUs} us " ++
      "is outside the u64 schedule range"
  | .releaseTimeOutOfRange sourceIndex trackId scheduledOnsetUs minimumHoldUs =>
    s!"scaled onset {scheduledOnsetUs} us for source event {sourceIndex} on track {trackId} " ++
      s!"cannot accommodate the required {minimumHoldUs} us physical hold"

/-- The semitone numbers of the fifteen Sky piano keys at pitch C. -/
def skyStandard15 : List ℤ := [60, 62, 64, 65, 67, 69, 71, 72, 74, 76, 77, 79, 81, 83, 84]

/-- The semitone numbers of the fifteen keys at a target pitch. -/
def targetNoteNumbers (pitch : PianoPitch) : List ℤ :=
  skyStandard15.map (· + pitch.semitoneOffset)

/-- The explicit target pitch, or the source song's. -/
def selectTargetPitch (targetPitch : Option PianoPitch) (sourcePitch : String) :
    Except PlannerError PianoTargetPitch :=
  match targetPitch with
  | some pitch => .ok ⟨pitch, .explicit⟩
  | none =>
    (fun pitch => ⟨pitch, .sourceSongPitch⟩) <$>
      okOr (.invalidSourcePitch sourcePitch) (PianoPitch.fromSourcePitch sourcePitch)

/-- Reject a roster with two tracks of one index. -/
def checkTrackIds : List ℕ → List SourceTrack → Except PlannerError Unit
  | _, [] => .ok ()
  | seen, track :: rest =>
    if track.index ∈ seen then .error (.ambiguousTrackId track.index)
    else checkTrackIds (track.index :: seen) rest

/-- Reject a selection that does not name exactly one track. -/
def checkTrackSelection (mode : ConversionMode) (tracks : List SourceTrack) :
    Except PlannerError Unit :=
  match mode with
  | .mergePlayable => .ok ()
  | .singleTrack trackId =>
    match tracks.countP (fun track => track.index = trackId) with
    | 0 => .error (.invalidTrackSelection trackId)
    | 1 => .ok ()
    | _ => .error (.ambiguousTrackId trackId)

/-- The provenance of an event on its track. -/
def sourceProvenance (event : CanonicalEvent) (track : SourceTrack) : SourceEventProvenance where
  sourceIndex := event.sourceIndex
  trackId := event.trackIndex
  sourceOnsetUs := event.onsetUs
  instrument := track.instrument
  sourcePosition := event.sourcePosition
  rawIdentity := event.rawIdentity

/-- The largest machine index, which stands for a missing column. -/
def usizeMax : ℕ := 2 ^ 64 - 1

/-- The order fields of a position. -/
def SourcePosition.orderKey : SourcePosition → List ℤ
  | .flatSongNote noteIndex => [0, noteIndex, 0, 0]
  | .composedColumn columnIndex noteIndex => [1, columnIndex, noteIndex, 0]
  | .recordedNote noteIndex => [2, noteIndex, 0, 0]
  | .trackNote trackIndex noteIndex columnIndex =>
    [3, trackIndex, noteIndex, ((columnIndex.getD usizeMax : ℕ) : ℤ)]

/-- The order fields of a raw identity. -/
def RawNoteIdentity.orderKey : RawNoteIdentity → List ℤ
  | .legacyKeyIndex index => [0, index]
  | .legacyIndex index => [1, index]
  | .nominalId number => [2, number]
  | .absoluteNoteNumber number => [3, number]

/-- The order field of a pitchability. -/
def Pitchability.orderKey : Pitchability → ℤ
  | .pitched => 0
  | .unpitched => 1
  | .unresolved => 2

/-- The order fields of a pitch. -/
def CanonicalPitch.orderKey : CanonicalPitch → List ℤ
  | .skyKeyIndex index => [0, index, 0]
  | .noteNumber number sourcePitchability => [1, number, sourcePitchability.orderKey]

/-- The event's place in the canonical order. The nested tuple of the source has a fixed shape,
so its lexicographic order is that of the flattened list. -/
def eventOrderKey (event : CanonicalEvent) : List ℤ :=
  [(event.onsetUs : ℤ), event.sourceIndex, event.trackIndex] ++ event.sourcePosition.orderKey ++
    event.rawIdentity.orderKey ++ event.pitch.orderKey ++
    [(event.durationUs : ℤ), ((event.layerMask.getD 0 : ℕ) : ℤ),
      ((event.spanColumns.getD 0 : ℕ) : ℤ)]

/-- The events in canonical order. -/
def orderedEvents (events : List CanonicalEvent) : List CanonicalEvent :=
  events.insertionSort (fun a b => eventOrderKey a ≤ eventOrderKey b)

/-- The diagnostics before the first event. -/
def initialDiagnostics (source : CanonicalSong) : PianoPlanDiagnostics where
  sourceTupleCount := source.diagnostics.sourceNoteCount
  decodedEventCount := source.events.length
  selectedSourceEventCount := 0
  omittedSourceEventCount := 0
  resolvedEventCount := 0
  mappedSourceEventCount := 0
  mappedOnsetCount := 0
  tempoQuantizationCollapseCount := 0
  mergedDuplicateCount := 0
  sourceUnpitchedCount := 0
  sourceUnresolvedCount := 0
  targetUnplayableCount := 0
  physicalTimingConflictCount := 0
  authoredSustainLostCount := 0
  losses := []
  sourceWarnings := source.diagnostics.warnings

/-- Append one loss record of a source event. -/
def PianoPlanDiagnostics.addLoss (diagnostics : PianoPlanDiagnostics) (reason : PlanLossReason)
    (provenance : SourceEventProvenance) : PianoPlanDiagnostics :=
  { diagnostics with losses := diagnostics.losses ++ [⟨reason, some provenance⟩] }

/-- What the event loop carries: the diagnostics, the onsets and where each onset stands. -/
structure PlanningState where
  diagnostics : PianoPlanDiagnostics
  events : List PianoOnset
  onsetIndices : ℕ × ℕ → Option ℕ

/-- What the event loop reads besides the event. -/
structure PlanningContext where
  tracks : List SourceTrack
  mode : ConversionMode
  targetNoteNumbers : List ℤ
  tempoScale : TempoScale
  policy : MaterializedTimingPolicy

/-- Resolve a selected event to a key, counting the branch it takes. -/
def resolveButton (noteNumbers : List ℤ) (pitch : CanonicalPitch)
    (provenance : SourceEventProvenance) (diagnostics : PianoPlanDiagnostics) :
    Except PlannerError (Option ℕ × PianoPlanDiagnostics) :=
  match pitch with
  | .skyKeyIndex index =>
    if skyScanCodes.length ≤ index then .error (.invalidLegacyKeyIndex index)
    else .ok (some index,
      { diagnostics with resolvedEventCount := diagnostics.resolvedEventCount + 1 })
  | .noteNumber number .pitched =>
    let resolved :=
      { diagnostics with resolvedEventCount := diagnostics.resolvedEventCount + 1 }
    match noteNumbers.findIdx? (· = number) with
    | some index => .ok (some index, resolved)
    | none =>
      .ok (none, { resolved with
        targetUnplayableCount := resolved.targetUnplayableCount + 1 }.addLoss
          .targetPianoUnplayable provenance)
  | .noteNumber _ .unpitched =>
    .ok (none, { diagnostics with
      sourceUnpitchedCount := diagnostics.sourceUnpitchedCount + 1 }.addLoss
        .sourceUnpitched provenance)
  | .noteNumber _ .unresolved =>
    .ok (none, { diagnostics with
      sourceUnresolvedCount := diagnostics.sourceUnresolvedCount + 1 }.addLoss
        .sourceUnresolved provenance)

/-- Count a mapped event and the sustain it loses. -/
def countMapped (event : CanonicalEvent) (provenance : SourceEventProvenance)
    (diagnostics : PianoPlanDiagnostics) : PianoPlanDiagnostics :=
  let mapped := { diagnostics with
    mappedSourceEventCount := diagnostics.mappedSourceEventCount + 1 }
  if 0 < event.durationUs then
    { mapped with
      authoredSustainLostCount := mapped.authoredSustainLostCount + 1 }.addLoss
        .authoredSustainNotReproduced provenance
  else mapped

/-- Add an event's provenance to an onset. -/
def PianoOnset.absorb (provenance : SourceEventProvenance) (onset : PianoOnset) : PianoOnset :=
  { onset with provenance := onset.provenance ++ [provenance] }

/-- Whether an onset already holds an event of the same authored onset. -/
def simultaneousSourceOnset (onsetUs : ℕ) (onset : PianoOnset) : Bool :=
  onset.provenance.any (fun source => source.sourceOnsetUs = onsetUs)

/-- Merge a mapped event into the onset it coincides with, or open a new onset. -/
def placeOnset (event : CanonicalEvent) (provenance : SourceEventProvenance)
    (scheduledOnsetUs buttonIndex : ℕ) (state : PlanningState) : PlanningState :=
  match (state.onsetIndices (scheduledOnsetUs, buttonIndex)).bind
      fun index => state.events[index]?.map (index, ·) with
  | some (index, existing) =>
    { state with
      diagnostics :=
        if simultaneousSourceOnset event.onsetUs existing then
          { state.diagnostics with
            mergedDuplicateCount := state.diagnostics.mergedDuplicateCount + 1 }
        else
          { state.diagnostics with
            tempoQuantizationCollapseCount :=
              state.diagnostics.tempoQuantizationCollapseCount + 1 }.addLoss
                .tempoQuantizationCollapse provenance
      events := state.events.modify index (·.absorb provenance) }
  | none =>
    { state with
      onsetIndices := Function.update state.onsetIndices (scheduledOnsetUs, buttonIndex)
        (some state.events.length)
      events := state.events ++
        [{ onsetUs := event.onsetUs
           scheduledOnsetUs := scheduledOnsetUs
           buttonIndex := buttonIndex
           scanCode := skyScanCodes.getD buttonIndex 0
           provenance := [provenance] }] }

/-- Scale a mapped event and place it on its key. -/
def mapEvent (context : PlanningContext) (event : CanonicalEvent)
    (provenance : SourceEventProvenance) (buttonIndex : ℕ) (state : PlanningState) :
    Except PlannerError PlanningState := do
  let mapped := { state with
    diagnostics := countMapped event provenance state.diagnostics }
  let scheduledOnsetUs ←
    okOr (.scaledOnsetOutOfRange event.sourceIndex event.trackIndex event.onsetUs)
      (context.tempoScale.roundScaledOnset event.onsetUs)
  let _ ←
    okOr (.releaseTimeOutOfRange event.sourceIndex event.trackIndex scheduledOnsetUs
      context.policy.minHoldUs) (checkedAdd 64 scheduledOnsetUs context.policy.minHoldUs)
  pure (placeOnset event provenance scheduledOnsetUs buttonIndex mapped)

/-- Whether the track selection leaves an event out. -/
def omittedBySelection (mode : ConversionMode) (trackIndex : ℕ) : Bool :=
  match mode with
  | .mergePlayable => false
  | .singleTrack trackId => trackIndex ≠ trackId

/-- Map a selected event when it resolves to a key. -/
def planSelected (context : PlanningContext) (event : CanonicalEvent)
    (provenance : SourceEventProvenance) (state : PlanningState) :
    Except PlannerError PlanningState := do
  let selected := { state.diagnostics with
    selectedSourceEventCount := state.diagnostics.selectedSourceEventCount + 1 }
  let resolved ← resolveButton context.targetNoteNumbers event.pitch provenance selected
  let resolvedState := { state with diagnostics := resolved.2 }
  match resolved.1 with
  | none => pure resolvedState
  | some buttonIndex => mapEvent context event provenance buttonIndex resolvedState

/-- Plan one event. -/
def planEvent (context : PlanningContext) (state : PlanningState) (event : CanonicalEvent) :
    Except PlannerError PlanningState := do
  let track ← okOr (.invalidSourceTrack event.sourceIndex event.trackIndex)
    (context.tracks.find? (fun track => track.index = event.trackIndex))
  let provenance := sourceProvenance event track
  if omittedBySelection context.mode event.trackIndex then
    pure { state with
      diagnostics := { state.diagnostics with
        omittedSourceEventCount := state.diagnostics.omittedSourceEventCount + 1 }.addLoss
          .trackSelectionOmission provenance }
  else planSelected context event provenance state

/-- Plan the events in order. -/
def planEvents (context : PlanningContext) (source : CanonicalSong) :
    Except PlannerError PlanningState :=
  (orderedEvents source.events).foldlM (planEvent context)
    ⟨initialDiagnostics source, [], fun _ => none⟩

/-- The loop's diagnostics with the number of onsets. -/
def PlanningState.counted (state : PlanningState) : PianoPlanDiagnostics :=
  { state.diagnostics with mappedOnsetCount := state.events.length }

/-- The scheduler's input: every onset with its index as the source index. -/
def scheduleInputs (events : List PianoOnset) : List DraftOnset :=
  events.zipIdx.map fun entry => ⟨entry.1.scheduledOnsetUs, entry.1.scanCode, entry.2⟩

/-- The plan's last part: its status, diagnostics, schedule and risk. -/
structure PlanOutcome (Risk : Type) where
  status : PlanStatus
  diagnostics : PianoPlanDiagnostics
  schedule : Option ScheduleMetadata
  physicalRisk : Option Risk

/-- The outcome without any playable onset. -/
def unsupportedOutcome {Risk : Type} (diagnostics : PianoPlanDiagnostics) : PlanOutcome Risk where
  status := .unsupported
  diagnostics :=
    if diagnostics.losses = [] then
      { diagnostics with losses := diagnostics.losses ++ [⟨.noPlayableNotes, none⟩] }
    else diagnostics
  schedule := none
  physicalRisk := none

/-- The outcome of a built schedule. -/
def scheduledOutcome {Risk : Type} (analyzeSchedule : ScheduleMetadata → Risk)
    (diagnostics : PianoPlanDiagnostics) (schedule : ScheduleMetadata) : PlanOutcome Risk where
  status := if diagnostics.losses = [] then .ready else .requiresConfirmation
  diagnostics := { diagnostics with
    physicalTimingConflictCount := schedule.impossibleSameKeyRepeats }
  schedule := some schedule
  physicalRisk := some (analyzeSchedule schedule)

/-- Schedule the planned onsets. -/
def finishPlan {Risk : Type} (analyzeSchedule : ScheduleMetadata → Risk)
    (context : PlanningContext) (state : PlanningState) :
    Except PlannerError (PlanOutcome Risk) :=
  if state.events = [] then .ok (unsupportedOutcome state.counted)
  else
    scheduledOutcome analyzeSchedule state.counted <$>
      (buildScheduleFromScaledOnsets (scheduleInputs state.events) context.tempoScale
        context.policy).mapError PlannerError.schedule

/-- Plan a decoded song. -/
def planCanonicalSong {Risk : Type} (analyzeSchedule : ScheduleMetadata → Risk)
    (source : CanonicalSong) (options : PianoPlannerOptions) (policy : MaterializedTimingPolicy) :
    Except PlannerError (PianoPlan Risk) := do
  let mode := options.mode.getD defaultNewSheetMode
  let targetPitch ← selectTargetPitch options.targetPitch source.sourcePitch
  failIf (options.tempoScale.valid = false) (.schedule .invalidTempo)
  checkTrackIds [] source.tracks
  checkTrackSelection mode source.tracks
  let context : PlanningContext :=
    { tracks := source.tracks
      mode := mode
      targetNoteNumbers := targetNoteNumbers targetPitch.pitch
      tempoScale := options.tempoScale
      policy := policy }
  let state ← planEvents context source
  let outcome ← finishPlan analyzeSchedule context state
  pure
    { name := source.name
      format := source.format
      sourceTracks := source.tracks
      mode := mode
      targetPitch := targetPitch
      status := outcome.status
      events := state.events
      diagnostics := outcome.diagnostics
      schedule := outcome.schedule
      physicalRisk := outcome.physicalRisk }

end SkyAutoPlayer.AppCore
