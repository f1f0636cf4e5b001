import Mathlib.Data.Finset.Card
import Mathlib.Data.List.Sort
import Mathlib.Logic.Function.Basic
import SkyAutoPlayer.Foundation.Checked
import SkyAutoPlayer.Foundation.KeepFirst

/-!
# Building a key schedule from scaled onsets

Each deduplicated onset becomes one Down and one Up. The hold of a repeated key leaves room for
the release gap before the key's next onset when the minimum hold allows it; otherwise the
repeat is counted as impossible and the minimum hold is kept. Actions of one time and kind are
then merged, and Ups are placed before Downs of the same time.
-/

namespace SkyAutoPlayer.AppCore

open Foundation

/-- The fifteen Sky scan codes, by key index. -/
def skyScanCodes : List ℕ :=
  [0x15, 0x16, 0x17, 0x18, 0x19, 0x23, 0x24, 0x25, 0x26, 0x27, 0x31, 0x32, 0x33, 0x34, 0x35]

/-- The schedule builder's errors. -/
inductive SongError where
  | invalidTempo
  | timingOverflow
  deriving DecidableEq, Repr

/-- The error's text. -/
def SongError.message : SongError → String
  | .invalidTempo => "schedule tempo must be finite and positive"
  | .timingOverflow => "schedule timing value overflowed"

/-- The floating-point tempo scale, seen through the questions the scheduler asks of it. -/
structure TempoScale where
  /-- The scale is finite and positive. -/
  valid : Bool
  /-- The nearest scheduled microsecond of a source onset, when it is representable. -/
  roundScaledOnset : ℕ → Option ℕ
  /-- The scale times a ratio, rounded to hundredths and clamped, when it is finite. -/
  boundedRecommendation : ℕ → ℕ → Option ℕ

/-- The physical durations of a materialized timing policy that scheduling reads. -/
structure MaterializedTimingPolicy where
  minHoldUs : ℕ
  minReleaseGapUs : ℕ
  deriving DecidableEq, Repr

/-- Whether an action presses or releases its keys. -/
inductive ActionKind where
  | down
  | up
  deriving DecidableEq, Repr

/-- The keys pressed or released at one time, with the reason of the action. -/
structure KeyAction where
  atUs : ℕ
  scanCodes : List ℕ
  kind : ActionKind
  reason : String
  deriving DecidableEq, Repr

/-- A scaled onset: its time, physical key and unique source index. -/
structure DraftOnset where
  atUs : ℕ
  scanCode : ℕ
  sourceIndex : ℕ
  deriving DecidableEq, Repr

/-- The schedule together with the counters and recommendations reported with it. -/
structure ScheduleMetadata where
  actions : List KeyAction
  sourceDurationUs : ℕ
  playbackDurationUs : ℕ
  durationUs : ℕ
  noteCount : ℕ
  deduplicatedNoteCount : ℕ
  duplicateNoteCount : ℕ
  compressedHolds : ℕ
  impossibleSameKeyRepeats : ℕ
  riskySameKeyRepeats : ℕ
  maxPolyphony : ℕ
  shortestSameKeyIntervalUs : Option ℕ
  minSameKeyUpGapUs : Option ℕ
  recommendedHoldFrames : Option ℕ
  recommendedTempoScale : Option ℕ
  warnings : List String
  deriving DecidableEq, Repr

/-- The first onset of every time and key. -/
def retainFirstOnsets (drafts : List DraftOnset) : List DraftOnset :=
  keepFirst (fun draft => (draft.atUs, draft.scanCode)) [] drafts

/-- The next onset of the same key, by source index, and the earliest onset seen of each key. -/
structure NextOnsets where
  nextBySource : ℕ → Option (Option ℕ)
  next : ℕ → Option ℕ

/-- Record one onset while walking the drafts backwards. -/
def recordNext (draft : DraftOnset) (onsets : NextOnsets) : NextOnsets where
  nextBySource :=
    Function.update onsets.nextBySource draft.sourceIndex (some (onsets.next draft.scanCode))
  next := Function.update onsets.next draft.scanCode (some draft.atUs)

/-- The next onset of every draft, from one backward walk. -/
def nextOnsets (drafts : List DraftOnset) : NextOnsets :=
  drafts.foldr recordNext ⟨fun _ => none, fun _ => none⟩

/-- The smaller of an optional running minimum and a new value. -/
def runningMin (current : Option ℕ) (value : ℕ) : ℕ := (current.map (min · value)).getD value

/-- The scheduler's accumulators over the drafts. -/
structure ScheduleProgress where
  actions : List KeyAction
  compressed : ℕ
  impossible : ℕ
  risky : ℕ
  shortest : Option ℕ
  minUpGap : Option ℕ
  deriving DecidableEq, Repr

/-- The accumulators before the first draft. -/
def ScheduleProgress.initial : ScheduleProgress := ⟨[], 0, 0, 0, none, none⟩

/-- The target hold: today's policies use the minimum hold as the target. -/
def MaterializedTimingPolicy.targetHoldUs (policy : MaterializedTimingPolicy) : ℕ :=
  policy.minHoldUs

/-- The hold of a repeated key, with the counter of the branch it takes. -/
def repeatHold (policy : MaterializedTimingPolicy) (interval : ℕ) (progress : ScheduleProgress) :
    ℕ × ScheduleProgress :=
  let maxHold := interval - policy.minReleaseGapUs
  if maxHold < policy.minHoldUs then
    (policy.minHoldUs, { progress with impossible := progress.impossible + 1 })
  else if maxHold < policy.targetHoldUs then
    (maxHold, { progress with
      risky := progress.risky + 1
      compressed := progress.compressed + 1 })
  else (policy.targetHoldUs, progress)

/-- The hold of an onset, with the same-key statistics of its repeat. -/
def actualHold (policy : MaterializedTimingPolicy) (nextAt : Option ℕ) (atUs : ℕ)
    (progress : ScheduleProgress) : ℕ × ScheduleProgress :=
  match nextAt with
  | none => (policy.targetHoldUs, progress)
  | some nextAt =>
    let interval := nextAt - atUs
    let held := repeatHold policy interval
      { progress with shortest := some (runningMin progress.shortest interval) }
    let gap := interval - held.1
    (held.1, { held.2 with minUpGap := some (runningMin held.2.minUpGap gap) })

/-- The onset's Down. -/
def onsetAction (draft : DraftOnset) : KeyAction :=
  ⟨draft.atUs, [draft.scanCode], .down, "onset"⟩

/-- The onset's Up. -/
def releaseAction (draft : DraftOnset) (nextAt : Option ℕ) (releaseAtUs : ℕ) : KeyAction :=
  ⟨releaseAtUs, [draft.scanCode], .up, if nextAt.isSome then "repeat_release" else "release"⟩

/-- Schedule one deduplicated onset. -/
def scheduleDraft (policy : MaterializedTimingPolicy) (nextBySource : ℕ → Option (Option ℕ))
    (progress : ScheduleProgress) (draft : DraftOnset) : Except SongError ScheduleProgress := do
  let nextAt := (nextBySource draft.sourceIndex).join
  let held := actualHold policy nextAt draft.atUs progress
  let releaseAtUs ← okOr .timingOverflow (checkedAdd 64 draft.atUs held.1)
  pure { held.2 with
    actions := held.2.actions ++ [onsetAction draft, releaseAction draft nextAt releaseAtUs] }

/-- Schedule the deduplicated onsets in order. -/
def scheduleDrafts (policy : MaterializedTimingPolicy)
    (nextBySource : ℕ → Option (Option ℕ)) (drafts : List DraftOnset) :
    Except SongError ScheduleProgress :=
  drafts.foldlM (scheduleDraft policy nextBySource) ScheduleProgress.initial

/-- The grouping map's key order: by time, Downs before Ups. -/
def groupOrder (key : ℕ × ActionKind) : ℕ := 2 * key.1 + if key.2 = .up then 1 else 0

/-- The final order: by time, Ups before Downs. -/
def actionOrder (action : KeyAction) : ℕ := 2 * action.atUs + if action.kind = .down then 1 else 0

/-- The group of an action: its time and kind. -/
def groupKey (action : KeyAction) : ℕ × ActionKind := (action.atUs, action.kind)

/-- The reason of a merged action: the common one, or `mixed`. -/
def mergedReason : List String → String
  | [reason] => reason
  | _ => "mixed"

/-- Merge the actions of one group into one action of its distinct keys. -/
def mergeGroup (actions : List KeyAction) (key : ℕ × ActionKind) : KeyAction :=
  let members := actions.filter (fun action => groupKey action = key)
  { atUs := key.1
    scanCodes := keepFirst id [] (members.flatMap (·.scanCodes))
    kind := key.2
    reason := mergedReason (keepFirst id [] (members.map (·.reason))) }

/-- One merged action for every time and kind, in the grouping map's order. -/
def groupActions (actions : List KeyAction) : List KeyAction :=
  ((keepFirst id [] (actions.map groupKey)).insertionSort
    (fun a b => groupOrder a ≤ groupOrder b)).map (mergeGroup actions)

/-- The merged actions in playback order. -/
def finalActions (actions : List KeyAction) : List KeyAction :=
  (groupActions actions).insertionSort (fun a b => actionOrder a ≤ actionOrder b)

/-- Follow one action's effect on the active keys and their greatest number. -/
def polyphonyStep (state : Finset ℕ × ℕ) (action : KeyAction) : Finset ℕ × ℕ :=
  match action.kind with
  | .down =>
    let active := state.1 ∪ action.scanCodes.toFinset
    (active, max state.2 active.card)
  | .up => (state.1 \ action.scanCodes.toFinset, state.2)

/-- The greatest number of keys active at once. -/
def maxPolyphony (actions : List KeyAction) : ℕ := (actions.foldl polyphonyStep (∅, 0)).2

/-- The tempo that would make the shortest repeat feasible, when it is representable. -/
def tempoSuggestion (tempo : TempoScale) (policy : MaterializedTimingPolicy) (shortest : ℕ) :
    Option ℕ :=
  (checkedAdd 64 policy.minHoldUs policy.minReleaseGapUs).bind fun minCycle =>
    if minCycle = 0 then tempo.boundedRecommendation 1 1
    else tempo.boundedRecommendation shortest minCycle

/-- The recommended hold in hundredths of a frame, the recommended tempo and the warnings. -/
def recommendations (tempo : TempoScale) (policy : MaterializedTimingPolicy)
    (progress : ScheduleProgress) : Option ℕ × Option ℕ × List String :=
  if progress.impossible = 0 then (none, none, [])
  else
    match progress.shortest with
    | none => (some 100, none, [])
    | some shortest =>
      match tempoSuggestion tempo policy shortest with
      | some suggestion => (some 100, some suggestion, [])
      | none =>
        (some 100, none,
          ["Tempo recommendation omitted because its value was not finite and representable."])

/-- The latest onset, or zero. -/
def lastOnsetUs (drafts : List DraftOnset) : ℕ := (drafts.map (·.atUs)).foldl max 0

/-- Build the schedule of already-scaled onsets. -/
def buildScheduleFromScaledOnsets (drafts : List DraftOnset) (tempo : TempoScale)
    (policy : MaterializedTimingPolicy) : Except SongError ScheduleMetadata := do
  failIf (tempo.valid = false) .invalidTempo
  let retained := retainFirstOnsets drafts
  let progress ← scheduleDrafts policy (nextOnsets retained).nextBySource retained
  let actions := finalActions progress.actions
  let duration := (actions.getLast?.map (·.atUs)).getD 0
  let recommended := recommendations tempo policy progress
  let sourceDurationUs ←
    okOr .timingOverflow (checkedAdd 64 (lastOnsetUs retained) policy.targetHoldUs)
  pure
    { actions := actions
      sourceDurationUs := sourceDurationUs
      playbackDurationUs := duration
      durationUs := duration
      noteCount := drafts.length
      deduplicatedNoteCount := retained.length
      duplicateNoteCount := drafts.length - retained.length
      compressedHolds := progress.compressed
      impossibleSameKeyRepeats := progress.impossible
      riskySameKeyRepeats := progress.risky
      maxPolyphony := maxPolyphony actions
      shortestSameKeyIntervalUs := progress.shortest
      minSameKeyUpGapUs := progress.minUpGap
      recommendedHoldFrames := recommended.1
      recommendedTempoScale := recommended.2.1
      warnings := recommended.2.2 }

end SkyAutoPlayer.AppCore
