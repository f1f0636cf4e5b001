import SkyAutoPlayer.Desktop.CatalogSearch
import SkyAutoPlayer.Foundation.Checked

/-!
# Preparing, invalidating and starting plans

A Prepare takes a token, reads the song, captures the state of its sources, plans outside every lock
and publishes the plan into a bounded cache. A selection, a change of the settings and a new catalog
invalidate the cache, and a start takes a plan out of it.

Every section under a lock is one step. A section that takes the publication gate, then the lock of
the settings or the catalog, and last the lock of the cache is placed at the innermost lock, since no
other section sees what it has changed before.

The fields of the runtime after the active flag, the token and the count in a plan, and what a
session records beside its plan, only observe.
-/

namespace SkyAutoPlayer.Desktop

open Foundation AppCore

/-- The most plans in the cache. -/
def maxPreparedPlans : ℕ := 64

/-- The most decisions of a start. -/
def maxDecisionCount : ℕ := 8

/-- The length of a prepared id. -/
def preparedIdLength : ℕ := 32

/-- The settings that a plan depends on. The fractions are as they are printed. -/
structure PlanSettings where
  fps : ℕ
  holdFrames : String
  telemetryEnabled : Bool
  tempoScale : String
  timingMarginUs : ℕ
  deriving DecidableEq, Repr

/-- What a user may decide about a risky plan. -/
inductive PlaybackDecision where
  | proceed
  | useRecommended
  | dryRun
  deriving DecidableEq, Repr

/-- Whether a plan needs a decision. -/
inductive PlaybackAdmission where
  | ready
  | confirmationRequired
  deriving DecidableEq, Repr

/-- A plan of the cache. A variant says whether it is a dry run. -/
structure PreparedPlan where
  preparedId : String
  songId : String
  generation : ℕ
  settingsFingerprint : String
  sourcePath : String
  sourceHash : String
  admission : PlaybackAdmission
  decisions : List PlaybackDecision
  variants : List (PlaybackDecision × Bool)
  token : ℕ
  publishedAt : ℕ
  deriving DecidableEq, Repr

/-- What the publication gate protects. -/
structure PreparePublicationState where
  activeRequest : Option ℕ
  sourceEpoch : ℕ
  catalogGeneration : Option ℕ
  settingsFingerprint : Option String
  deriving DecidableEq, Repr

/-- A plan that a start has taken, the settings it was given, the bytes it has read, and the
invalidations and the generation of the catalog at its lookup. -/
structure StartedSession where
  plan : PreparedPlan
  settings : PlanSettings
  bytes : Option (List UInt8)
  invalidations : ℕ
  catalogGeneration : ℕ
  deriving DecidableEq, Repr

/-- The state that the calls share. A token holds whether its Prepare is cancelled. -/
structure PlaybackRuntime where
  catalog : CatalogIndex
  settings : PlanSettings
  publication : PreparePublicationState
  prepared : List PreparedPlan
  tokens : List Bool
  active : Bool
  invalidations : ℕ
  namedIds : List String
  sessions : List StartedSession

/-- A request to prepare a song. -/
structure PlaybackPrepareRequest where
  songId : String
  generation : ℕ
  dryRun : Bool

/-- A request to start a plan, with the decisions and whether each is accepted. -/
structure PlaybackStartRequest where
  preparedId : String
  decisions : List (PlaybackDecision × Bool)

/-- What a Prepare has captured of its sources. -/
structure NativePreparedInput where
  songId : String
  generation : ℕ
  dryRun : Bool
  settingsFingerprint : String
  sourcePath : String
  sourceHash : String
  sourceEpoch : ℕ

/-- A playable plan: whether its risk is low, and whether there is a recommended one beside it. -/
structure PlannedSong where
  lowRisk : Bool
  recommended : Bool

/-- What planning makes of a song. A plan that the user has to confirm first, or that has infeasible
repeats, is unplayable. -/
inductive PlanOutcome where
  | failed (message : String)
  | blocked
  | unplayable
  | playable (planned : PlannedSong)

/-- What the file system, the stores, the planner and the random source answer a step. -/
structure PlaybackChoice where
  ensureCatalogLoaded : Except String Unit
  readFile : String → Except String (List UInt8)
  planned : PlanOutcome
  analyzed : Except String Unit
  opaqueNativeId : Except String String
  patched : Except String PlanSettings
  reloaded : Except String PlanSettings
  eventDeliveryFailure : Bool
  reservePlayback : Except String Unit

/-- What a user or the application calls. -/
inductive PlaybackOp where
  | prepare (request : PlaybackPrepareRequest)
  | detail
  | patchSettings (preparationSafe : Bool)
  | reloadSettings
  | setSongLiked
  | applyComposition (entries : List CatalogSourceEntry) (invalidate : Bool)
  | startPlayback (request : PlaybackStartRequest)
  | retire

/-- Where a call stands. -/
inductive PlaybackCall where
  | begin (request : PlaybackPrepareRequest)
  | ensureLoaded (request : PlaybackPrepareRequest) (token : ℕ)
  | readEntry (request : PlaybackPrepareRequest) (token : ℕ)
  | readSong (request : PlaybackPrepareRequest) (token : ℕ) (path : String)
  | capture (request : PlaybackPrepareRequest) (token : ℕ) (path hash : String)
  | plan (input : NativePreparedInput) (token : ℕ)
  | check (input : NativePreparedInput) (token : ℕ) (planned : Option PlannedSong)
  | validate (input : NativePreparedInput) (token : ℕ)
  | analyze (input : NativePreparedInput) (token : ℕ) (planned : PlannedSong)
  | analyzeVariants (input : NativePreparedInput) (token : ℕ) (planned : PlannedSong)
    (preparedId : String) (remaining : ℕ)
  | publish (input : NativePreparedInput) (token : ℕ) (planned : PlannedSong) (preparedId : String)
  | finish (token : ℕ) (reply : Except String (Option String))
  | ensureSelected
  | invalidateForSelection
  | patchSettings (preparationSafe : Bool)
  | reloadSettings
  | setSongLiked
  | applyComposition (entries : List CatalogSourceEntry) (invalidate : Bool)
  | identify (request : PlaybackStartRequest)
  | readSource (request : PlaybackStartRequest) (path hash : String)
  | discardSource (request : PlaybackStartRequest) (message : String)
  | startSettings (request : PlaybackStartRequest) (bytes : Option (List UInt8))
  | takePlan (request : PlaybackStartRequest) (bytes : Option (List UInt8)) (settings : PlanSettings)
  | retire
  | returned (reply : Except String (Option String))

/-- The message of a Prepare that is not the current one. -/
def preparationSupersededError : String := "playback preparation was superseded by a newer request"

/-- The digest of bytes as text. -/
def sha256Hex (tables : CatalogTables) (bytes : List UInt8) : String :=
  hexText (tables.sha256 bytes).toList

/-- The fingerprint of the settings that a plan depends on. -/
def settingsFingerprint (tables : CatalogTables) (settings : PlanSettings) : String :=
  let payload := "\x7b\"fps\": " ++ toString settings.fps ++ ", \"hold\": " ++ settings.holdFrames ++
    ", \"telemetry\": " ++ toString settings.telemetryEnabled ++ ", \"tempo\": " ++
    settings.tempoScale ++ ", \"timing_margin_us\": " ++ toString settings.timingMarginUs ++ "\x7d"
  sha256Hex tables payload.toUTF8.data.toList

/-- Keep the newest plans, as many as the cache holds. -/
def retainPreparedCapacity (prepared : List PreparedPlan) : List PreparedPlan :=
  prepared.drop (prepared.length - maxPreparedPlans)

/-- The decisions that a plan asks for. -/
def PlannedSong.decisions (planned : PlannedSong) (dryRun : Bool) : List PlaybackDecision :=
  if planned.lowRisk then []
  else .proceed :: (if planned.recommended then [.useRecommended] else []) ++
    (if dryRun then [] else [.dryRun])

/-- The variants of a plan. -/
def PlannedSong.variants (planned : PlannedSong) (dryRun : Bool) : List (PlaybackDecision × Bool) :=
  (.proceed, dryRun) :: if planned.lowRisk then []
    else (if planned.recommended then [(.useRecommended, dryRun)] else []) ++
      (if dryRun then [] else [(.dryRun, true)])

/-- The plan that a Prepare publishes. -/
def NativePreparedInput.record (input : NativePreparedInput) (token publishedAt : ℕ)
    (planned : PlannedSong) (preparedId : String) : PreparedPlan where
  preparedId := preparedId
  songId := input.songId
  generation := input.generation
  settingsFingerprint := input.settingsFingerprint
  sourcePath := input.sourcePath
  sourceHash := input.sourceHash
  admission := if planned.lowRisk then .ready else .confirmationRequired
  decisions := planned.decisions input.dryRun
  variants := planned.variants input.dryRun
  token := token
  publishedAt := publishedAt

/-- Check the id of a plan. -/
def validatePreparedId (preparedId : String) : Except String Unit :=
  failIf (¬(preparedId.utf8ByteSize = preparedIdLength ∧ preparedId.toUTF8.data.all isLowerHexDigit))
    "invalid_params: prepared_id is invalid"

/-- Check a request to start. -/
def validatePublicPlaybackStartRequest (request : PlaybackStartRequest) : Except String Unit := do
  validatePreparedId request.preparedId
  failIf (maxDecisionCount < request.decisions.length)
    "invalid_params: decisions must be a bounded array"

/-- The decision of a start: none for a ready plan, and else exactly one, accepted and asked for. -/
def selectedDecision (plan : PreparedPlan) (decisions : List (PlaybackDecision × Bool)) :
    Except String PlaybackDecision :=
  match plan.admission, decisions with
  | .ready, [] => .ok .proceed
  | .ready, _ => .error "ready playback accepts no risk decisions"
  | .confirmationRequired, [(decision, true)] =>
    if decision ∈ plan.decisions then .ok decision else .error "an exact risk decision is required"
  | .confirmationRequired, _ => .error "an exact risk decision is required"

/-- A session that is no dry run reserves the playback activity. -/
def reserveActivity (choice : PlaybackChoice) (dryRun : Bool) : Except String Unit :=
  if dryRun then .ok () else choice.reservePlayback

namespace PlaybackRuntime

/-- A token is cancelled. -/
def cancelled (runtime : PlaybackRuntime) (token : ℕ) : Bool := runtime.tokens[token]?.getD false

/-- Cancel the token of the active request. -/
def cancelActive (runtime : PlaybackRuntime) : PlaybackRuntime :=
  match runtime.publication.activeRequest with
  | some token => { runtime with tokens := runtime.tokens.set token true }
  | none => runtime

/-- Take the next token and cancel the one before. -/
def beginPreparation (runtime : PlaybackRuntime) : PlaybackRuntime × ℕ :=
  let token := runtime.tokens.length
  ({ runtime.cancelActive with
      tokens := runtime.cancelActive.tokens ++ [false]
      publication := { runtime.publication with activeRequest := some token } }, token)

/-- Give up the active request, if it is the token's. -/
def finishPreparation (token : ℕ) (runtime : PlaybackRuntime) : PlaybackRuntime :=
  if runtime.publication.activeRequest = some token then
    { runtime with publication := { runtime.publication with activeRequest := none } }
  else runtime

/-- Count a change of the sources: the plans that `keep` does not hold go. -/
def invalidateSources (keep : PreparedPlan → Bool) (runtime : PlaybackRuntime) : PlaybackRuntime :=
  { runtime with
    publication :=
      { runtime.publication with sourceEpoch := saturatingAdd 64 runtime.publication.sourceEpoch 1 }
    prepared := runtime.prepared.filter keep
    invalidations := runtime.invalidations + 1 }

/-- Take over what a capture has read of the sources. -/
def synchronizePrepareSourceLocked (catalogGeneration : ℕ) (settingsFingerprint : String)
    (runtime : PlaybackRuntime) : PlaybackRuntime :=
  let catalogChanged := runtime.publication.catalogGeneration.any (· ≠ catalogGeneration)
  let settingsChanged := runtime.publication.settingsFingerprint.any (· ≠ settingsFingerprint)
  let changed :=
    if settingsChanged then runtime.invalidateSources fun _ => false
    else if catalogChanged then
      runtime.invalidateSources fun plan => plan.generation = catalogGeneration
    else runtime
  { changed with publication :=
    { changed.publication with
      catalogGeneration := some catalogGeneration
      settingsFingerprint := some settingsFingerprint } }

/-- Check that a Prepare is the current one. -/
def ensureCurrentPrepare (token : ℕ) (runtime : PlaybackRuntime) : Except String Unit :=
  failIf (runtime.cancelled token ∨ runtime.publication.activeRequest ≠ some token)
    preparationSupersededError

/-- Check that a Prepare is the current one and its sources have not changed. -/
def ensurePrepareSource (input : NativePreparedInput) (token : ℕ) (runtime : PlaybackRuntime) :
    Except String Unit := do
  runtime.ensureCurrentPrepare token
  failIf (runtime.publication.sourceEpoch ≠ input.sourceEpoch ∨
      runtime.publication.catalogGeneration ≠ some input.generation ∨
      runtime.publication.settingsFingerprint ≠ some input.settingsFingerprint)
    "playback preparation source changed before publication"

/-- Check the Prepare and the path of its song, and capture the sources. -/
def capturePreparationSources (tables : CatalogTables) (request : PlaybackPrepareRequest) (token : ℕ)
    (path hash : String) (runtime : PlaybackRuntime) :
    Except String (PlaybackRuntime × NativePreparedInput) := do
  runtime.ensureCurrentPrepare token
  let currentPath ← (runtime.catalog.canonicalPathForSongId request.songId
    (some request.generation)).mapError catalogError
  failIf (currentPath ≠ path) "song source path changed while preparation was reading it"
  let fingerprint := settingsFingerprint tables runtime.settings
  let captured := runtime.synchronizePrepareSourceLocked runtime.catalog.generation fingerprint
  pure (captured, ⟨request.songId, request.generation, request.dryRun, fingerprint, path, hash,
    captured.publication.sourceEpoch⟩)

/-- Put a plan behind the others. -/
def publishPlan (plan : PreparedPlan) (runtime : PlaybackRuntime) : PlaybackRuntime :=
  { runtime with
    prepared := retainPreparedCapacity (runtime.prepared ++ [plan])
    namedIds := plan.preparedId :: runtime.namedIds }

/-- A selection cancels the active request and clears the cache. -/
def invalidatePreparedForSelection (runtime : PlaybackRuntime) : PlaybackRuntime :=
  let cleared := runtime.cancelActive.invalidateSources fun _ => false
  { cleared with publication := { cleared.publication with activeRequest := none } }

/-- A change of the settings cancels the active request and clears the cache. -/
def invalidateSettingsLocked (fingerprint : String) (runtime : PlaybackRuntime) : PlaybackRuntime :=
  let cleared := runtime.cancelActive.invalidateSources fun _ => false
  { cleared with publication :=
    { cleared.publication with settingsFingerprint := some fingerprint } }

/-- Take over a fingerprint of the settings. -/
def setSettingsFingerprintLocked (fingerprint : String) (runtime : PlaybackRuntime) :
    PlaybackRuntime :=
  { runtime with publication :=
    { runtime.publication with settingsFingerprint := some fingerprint } }

/-- Take over a generation of the catalog. A new one cancels the active request and drops the plans
of the others. -/
def invalidateCatalogLocked (generation : ℕ) (invalidate : Bool) (runtime : PlaybackRuntime) :
    PlaybackRuntime :=
  let changed := runtime.publication.catalogGeneration.any (· ≠ generation)
  let current := { runtime with publication :=
    { runtime.publication with catalogGeneration := some generation } }
  if invalidate || changed then
    current.cancelActive.invalidateSources fun plan => plan.generation = generation
  else current

/-- Patch the settings. -/
def patchSettings (tables : CatalogTables) (preparationSafe : Bool) (patched : PlanSettings)
    (runtime : PlaybackRuntime) : PlaybackRuntime :=
  let beforeFingerprint := settingsFingerprint tables runtime.settings
  let afterFingerprint := settingsFingerprint tables patched
  let runtime := { runtime with settings := patched }
  if !preparationSafe || beforeFingerprint ≠ afterFingerprint then
    runtime.invalidateSettingsLocked afterFingerprint
  else runtime.setSettingsFingerprintLocked afterFingerprint

/-- Reload the settings. -/
def reloadSettings (tables : CatalogTables) (reloaded : PlanSettings) (runtime : PlaybackRuntime) :
    PlaybackRuntime :=
  let fingerprint := settingsFingerprint tables reloaded
  let runtime := { runtime with settings := reloaded }
  if runtime.publication.settingsFingerprint.any (· ≠ fingerprint) then
    runtime.invalidateSettingsLocked fingerprint
  else runtime.setSettingsFingerprintLocked fingerprint

/-- Apply a composition of the catalog. -/
def applyCatalogComposition (tables : CatalogTables) (entries : List CatalogSourceEntry)
    (invalidate : Bool) (runtime : PlaybackRuntime) : Except String PlaybackRuntime := do
  let catalog ← (runtime.catalog.replaceEntries tables entries).mapError catalogError
  pure (({ runtime with catalog }).invalidateCatalogLocked catalog.generation invalidate)

/-- The plan with an id. -/
def preparedPlan? (preparedId : String) (runtime : PlaybackRuntime) : Option PreparedPlan :=
  runtime.prepared.find? fun plan => plan.preparedId = preparedId

/-- What a start checks before it takes its plan. -/
def startablePlan (tables : CatalogTables) (choice : PlaybackChoice) (request : PlaybackStartRequest)
    (settings : PlanSettings) (runtime : PlaybackRuntime) : Except String PreparedPlan := do
  failIf runtime.active "another playback session is active"
  let plan ← okOr "prepared playback is stale or already consumed"
    (runtime.preparedPlan? request.preparedId)
  failIf (plan.settingsFingerprint ≠ settingsFingerprint tables settings)
    "prepared playback is stale after settings mutation"
  let selected ← selectedDecision plan request.decisions
  let dryRun ← okOr "selected risk decision has no prepared plan" (plan.variants.lookup selected)
  let _sessionId ← choice.opaqueNativeId
  failIf choice.eventDeliveryFailure "native playback lifecycle delivery is unavailable"
  reserveActivity choice dryRun
  pure plan

/-- Take a plan out of the cache into a session. -/
def startSession (plan : PreparedPlan) (bytes : Option (List UInt8)) (settings : PlanSettings)
    (runtime : PlaybackRuntime) : PlaybackRuntime :=
  { runtime with
    prepared := runtime.prepared.eraseP fun other => other.preparedId = plan.preparedId
    active := true
    sessions := runtime.sessions ++
      [⟨plan, settings, bytes, runtime.invalidations, runtime.catalog.generation⟩] }

end PlaybackRuntime

/-- Where an operation begins. -/
def PlaybackOp.start : PlaybackOp → PlaybackCall
  | .prepare request => .begin request
  | .detail => .ensureSelected
  | .patchSettings preparationSafe => .patchSettings preparationSafe
  | .reloadSettings => .reloadSettings
  | .setSongLiked => .setSongLiked
  | .applyComposition entries invalidate => .applyComposition entries invalidate
  | .startPlayback request => .identify request
  | .retire => .retire

/-- The point of a Prepare after a planned song, when it is not cancelled. -/
def afterCheck (input : NativePreparedInput) (token : ℕ) : Option PlannedSong → PlaybackCall
  | none => .validate input token
  | some planned => .analyze input token planned

/-- The point of a Prepare with some variants to analyze. -/
def nextVariant (input : NativePreparedInput) (token : ℕ) (planned : PlannedSong)
    (preparedId : String) : ℕ → PlaybackCall
  | 0 => .publish input token planned preparedId
  | remaining + 1 => .analyzeVariants input token planned preparedId remaining

/-- The id of a plan is drawn after its analysis. -/
def issueId (choice : PlaybackChoice) (input : NativePreparedInput) (token : ℕ)
    (planned : PlannedSong) : PlaybackCall :=
  match choice.opaqueNativeId with
  | .error message => .finish token (.error message)
  | .ok preparedId =>
    nextVariant input token planned preparedId ((planned.variants input.dryRun).length - 1)

/-- A Prepare goes on while what it has called succeeds and it is not cancelled. -/
def unlessCancelled (runtime : PlaybackRuntime) (token : ℕ) (called : Except String Unit)
    (next : PlaybackCall) : PlaybackCall :=
  match called with
  | .error message => .finish token (.error message)
  | .ok () =>
    if runtime.cancelled token then .finish token (.error preparationSupersededError) else next

/-- The call of a Prepare that has planned its song. -/
def afterPlan (input : NativePreparedInput) (token : ℕ) : PlanOutcome → PlaybackCall
  | .failed message => .finish token (.error message)
  | .blocked => .finish token (.ok none)
  | .unplayable => .check input token none
  | .playable planned => .check input token (some planned)

/-- The call of a start that has read the source of its plan. -/
def afterRead (tables : CatalogTables) (request : PlaybackStartRequest) (hash : String) :
    Except String (List UInt8) → PlaybackCall
  | .error message =>
    .discardSource request ("prepared sheet source is no longer readable: " ++ message)
  | .ok bytes =>
    if sha256Hex tables bytes ≠ hash then
      .discardSource request
        "prepared playback is stale because the source sheet changed; prepare it again"
    else .startSettings request (some bytes)

/-- A step under the locks that a call takes, if the call is not over. -/
def playbackStep (tables : CatalogTables) (choice : PlaybackChoice) :
    PlaybackCall → PlaybackRuntime → Option (PlaybackRuntime × PlaybackCall)
  | .begin request, runtime =>
    some (runtime.beginPreparation.1, .ensureLoaded request runtime.beginPreparation.2)
  | .ensureLoaded request token, runtime =>
    match choice.ensureCatalogLoaded with
    | .error message => some (runtime, .finish token (.error message))
    | .ok () => some (runtime, .readEntry request token)
  | .readEntry request token, runtime =>
    match runtime.catalog.canonicalPathForSongId request.songId (some request.generation) with
    | .error error => some (runtime, .finish token (.error (catalogError error)))
    | .ok path => some (runtime, .readSong request token path)
  | .readSong request token path, runtime =>
    match choice.readFile path with
    | .error message => some (runtime, .finish token (.error ("song read failed: " ++ message)))
    | .ok bytes => some (runtime, .capture request token path (sha256Hex tables bytes))
  | .capture request token path hash, runtime =>
    match runtime.capturePreparationSources tables request token path hash with
    | .error message => some (runtime, .finish token (.error message))
    | .ok (captured, input) => some (captured, .plan input token)
  | .plan input token, runtime => some (runtime, afterPlan input token choice.planned)
  | .check input token planned, runtime =>
    some (runtime, unlessCancelled runtime token (.ok ()) (afterCheck input token planned))
  | .validate input token, runtime =>
    match runtime.ensurePrepareSource input token with
    | .error message => some (runtime, .finish token (.error message))
    | .ok () => some (runtime, .finish token (.ok none))
  | .analyze input token planned, runtime =>
    some (runtime,
      unlessCancelled runtime token choice.analyzed (issueId choice input token planned))
  | .analyzeVariants input token planned preparedId remaining, runtime =>
    some (runtime, unlessCancelled runtime token choice.analyzed
      (nextVariant input token planned preparedId remaining))
  | .publish input token planned preparedId, runtime =>
    match runtime.ensurePrepareSource input token with
    | .error message => some (runtime, .finish token (.error message))
    | .ok () =>
      some (runtime.publishPlan (input.record token runtime.invalidations planned preparedId),
        .finish token (.ok (some preparedId)))
  | .finish token reply, runtime => some (runtime.finishPreparation token, .returned reply)
  | .ensureSelected, runtime =>
    match choice.ensureCatalogLoaded with
    | .error message => some (runtime, .returned (.error message))
    | .ok () => some (runtime, .invalidateForSelection)
  | .invalidateForSelection, runtime =>
    some (runtime.invalidatePreparedForSelection, .returned (.ok none))
  | .patchSettings preparationSafe, runtime =>
    match choice.patched with
    | .error message => some (runtime, .returned (.error message))
    | .ok patched =>
      some (runtime.patchSettings tables preparationSafe patched, .returned (.ok none))
  | .reloadSettings, runtime =>
    match choice.reloaded with
    | .error message =>
      some (runtime, .returned (.error ("native settings reload failed: " ++ message)))
    | .ok reloaded => some (runtime.reloadSettings tables reloaded, .returned (.ok none))
  | .setSongLiked, runtime =>
    match choice.reloaded with
    | .error message =>
      some (runtime, .returned (.error ("native settings reload failed: " ++ message)))
    | .ok reloaded => some ({ runtime with settings := reloaded }, .returned (.ok none))
  | .applyComposition entries invalidate, runtime =>
    match runtime.applyCatalogComposition tables entries invalidate with
    | .error message => some (runtime, .returned (.error message))
    | .ok applied => some (applied, .returned (.ok none))
  | .identify request, runtime =>
    match validatePublicPlaybackStartRequest request with
    | .error message => some (runtime, .returned (.error message))
    | .ok () =>
      let named := { runtime with namedIds := request.preparedId :: runtime.namedIds }
      match runtime.preparedPlan? request.preparedId with
      | none => some (named, .startSettings request none)
      | some plan => some (named, .readSource request plan.sourcePath plan.sourceHash)
  | .readSource request path hash, runtime =>
    some (runtime, afterRead tables request hash (choice.readFile path))
  | .discardSource request message, runtime =>
    some ({ runtime with
      prepared := runtime.prepared.filter fun plan => plan.preparedId ≠ request.preparedId },
      .returned (.error message))
  | .startSettings request bytes, runtime =>
    some (runtime, .takePlan request bytes runtime.settings)
  | .takePlan request bytes settings, runtime =>
    match runtime.startablePlan tables choice request settings with
    | .error message => some (runtime, .returned (.error message))
    | .ok plan =>
      some (runtime.startSession plan bytes settings, .returned (.ok (some plan.preparedId)))
  | .retire, runtime => some ({ runtime with active := false }, .returned (.ok none))
  | .returned _, _ => none

/-- The calls around the prepared plans. -/
def playbackProgram (tables : CatalogTables) :
    CallProgram PlaybackOp PlaybackCall PlaybackChoice PlaybackRuntime where
  start := PlaybackOp.start
  step := playbackStep tables

/-- The state before the first call: no plan, no token and no session. -/
def PlaybackRuntime.new (catalog : CatalogIndex) (settings : PlanSettings) : PlaybackRuntime where
  catalog := catalog
  settings := settings
  publication := ⟨none, 0, none, none⟩
  prepared := []
  tokens := []
  active := false
  invalidations := 0
  namedIds := []
  sessions := []

/-- The machine of the calls around the prepared plans. -/
def playbackMachine (tables : CatalogTables) (catalog : CatalogIndex) (settings : PlanSettings) :
    Machine (CallPool PlaybackRuntime PlaybackCall) (PoolAction PlaybackOp PlaybackChoice) :=
  (playbackProgram tables).machine (.new catalog settings)

/-- The random id that a Prepare publishes has neither been published nor named by a start. -/
def idIsFresh (runtime : PlaybackRuntime) : PlaybackCall → Bool
  | .publish _ _ _ preparedId => preparedId ∉ runtime.namedIds
  | _ => true

/-- The random ids of a run are fresh. -/
def FreshIds (tables : CatalogTables) (catalog : CatalogIndex) (settings : PlanSettings)
    (actions : List (PoolAction PlaybackOp PlaybackChoice)) : Prop :=
  (playbackMachine tables catalog settings).Meets
    (CallPool.StepMeets fun _ call runtime => idIsFresh runtime call = true)
    (playbackMachine tables catalog settings).initial actions

end SkyAutoPlayer.Desktop
