import Mathlib.Data.List.MinMax
import Mathlib.Logic.Function.Basic
import SkyAutoPlayer.Foundation.CallPool

/-!
# Song analyses

An analysis is cached under its key, or computed by the flight of that key: its owner asks for a
permit and publishes the result, and later requests join. Every step below is one atomic access or
one critical section, except that the sections which read cells that others write without the
admission lock are cut at each of those reads.
-/

namespace SkyAutoPlayer.Desktop

open Foundation

/-- The most analyses in the cache. -/
def maxCachedSongAnalyses : ℕ := 128

/-- The most analyses that run at once. -/
def maxActiveSongAnalyses : ℕ := 2

/-- The most flights that wait for a permit. -/
def maxQueuedSongAnalyses : ℕ := 64

/-- What an analysis is of. -/
structure AnalysisKey where
  songId : String
  generation : ℕ
  settingsRevision : ℕ
  deriving DecidableEq

/-- The catalog's summary of an analysis. -/
structure CatalogMetadata where
  formatLabel : String
  durationUs : Option ℕ
  noteCount : Option ℕ
  riskLevel : String
  state : String
  deriving DecidableEq

/-- A computed analysis. -/
structure CachedSongAnalysis where
  metadata : CatalogMetadata
  sourceHash : Option String
  deriving DecidableEq

/-- The analysis of a song that could not be read. -/
def CachedSongAnalysis.error (formatLabel : String) : CachedSongAnalysis :=
  ⟨⟨formatLabel, none, none, "unknown", "error"⟩, none⟩

/-- The outcome of an analysis. -/
abbrev AnalysisResult := Except String CachedSongAnalysis

/-- Which flights are preferred. -/
inductive AnalysisPriority where
  | visible
  | selected
  deriving DecidableEq

/-- A request for an analysis. -/
structure AnalysisRequest where
  key : AnalysisKey
  sourceBytes : Option (List UInt8)
  failureFormatLabel : String
  viewportRevision : Option ℕ
  priority : AnalysisPriority
  cacheFailures : Bool
  deriving DecidableEq

/-- A cached analysis and when it was last used. -/
structure AnalysisCacheEntry where
  analysis : CachedSongAnalysis
  lastAccess : ℕ
  deriving DecidableEq

/-- What the cache's lock protects. A flight is its place in the heap. -/
structure AnalysisCacheState where
  entries : List (AnalysisKey × AnalysisCacheEntry)
  flights : AnalysisKey → Option ℕ
  nextAccess : ℕ

namespace AnalysisCacheState

/-- Set the entry's analysis and access. -/
def put (key : AnalysisKey) (entry : AnalysisCacheEntry) (cache : AnalysisCacheState) :
    AnalysisCacheState :=
  { cache with entries := (key, entry) :: cache.entries.filter fun old => old.1 ≠ key }

/-- Forget the analysis of a key. -/
def remove (key : AnalysisKey) (cache : AnalysisCacheState) : AnalysisCacheState :=
  { cache with entries := cache.entries.filter fun old => old.1 ≠ key }

/-- Look up an analysis and note its use. -/
def get (key : AnalysisKey) (cache : AnalysisCacheState) :
    Option CachedSongAnalysis × AnalysisCacheState :=
  let access := (cache.nextAccess + 1) % 2 ^ 64
  let cache := { cache with nextAccess := access }
  match cache.entries.lookup key with
  | none => (none, cache)
  | some entry => (some entry.analysis, cache.put key ⟨entry.analysis, access⟩)

/-- Forget the analysis that was used longest ago. -/
def removeOldest (cache : AnalysisCacheState) : AnalysisCacheState :=
  match cache.entries.argmin fun entry => entry.2.lastAccess with
  | none => cache
  | some oldest => cache.remove oldest.1

/-- Cache an analysis and forget the oldest ones beyond the limit. -/
def insert (key : AnalysisKey) (analysis : CachedSongAnalysis) (cache : AnalysisCacheState) :
    AnalysisCacheState :=
  let access := (cache.nextAccess + 1) % 2 ^ 64
  let inserted := { cache with nextAccess := access }.put key ⟨analysis, access⟩
  removeOldest^[inserted.entries.length - maxCachedSongAnalyses] inserted

end AnalysisCacheState

/-- An analysis in progress. -/
structure AnalysisFlight where
  settingsRevision : ℕ
  cancelled : Bool
  result : Option AnalysisResult
  latestViewportRevision : ℕ
  independentRequest : Bool
  selectedPriority : Bool
  queued : Bool
  queuedAsSelected : Bool
  deriving DecidableEq

/-- A flight for its first request. -/
def AnalysisFlight.new (request : AnalysisRequest) : AnalysisFlight where
  settingsRevision := request.key.settingsRevision
  cancelled := false
  result := none
  latestViewportRevision := request.viewportRevision.getD 0
  independentRequest := request.viewportRevision.isNone
  selectedPriority := request.priority = .selected
  queued := false
  queuedAsSelected := false

/-- Note a further request. -/
def AnalysisFlight.noteRequest (viewportRevision : Option ℕ) (flight : AnalysisFlight) :
    AnalysisFlight :=
  match viewportRevision with
  | some revision =>
    { flight with latestViewportRevision := max flight.latestViewportRevision revision }
  | none => { flight with independentRequest := true }

/-- What the admission lock protects, and whether a saturating subtraction ever saturated. -/
structure AnalysisAdmissionState where
  active : ℕ
  queued : ℕ
  selectedWaiters : ℕ
  queuedFlights : List ℕ
  saturated : Bool
  deriving DecidableEq

namespace AnalysisAdmissionState

/-- Whether a flight gets a permit. -/
def admits (selected : Bool) (admission : AnalysisAdmissionState) : Bool :=
  admission.active < maxActiveSongAnalyses && (selected || admission.selectedWaiters = 0)

/-- A permit is given back. -/
def dropPermit (admission : AnalysisAdmissionState) : AnalysisAdmissionState :=
  { admission with
    active := admission.active - 1
    saturated := admission.saturated || admission.active = 0 }

/-- A flight leaves the queue. -/
def leaveQueue (flagged : Bool) (admission : AnalysisAdmissionState) : AnalysisAdmissionState :=
  { admission with
    queued := admission.queued - 1
    selectedWaiters := if flagged then admission.selectedWaiters - 1 else admission.selectedWaiters
    saturated := admission.saturated || admission.queued = 0 ||
      (flagged && admission.selectedWaiters = 0) }

end AnalysisAdmissionState

/-- What all calls share. -/
structure AnalysisRuntime where
  cacheLocked : Bool
  cache : AnalysisCacheState
  admissionLocked : Bool
  admission : AnalysisAdmissionState
  heap : List AnalysisFlight
  analysisRevision : ℕ
  viewportRevision : ℕ

/-- Where a test for an obsolete flight is. -/
inductive ObsoletePoint where
  | settings
  | independent
  | latest
  | viewport (latest : ℕ)
  deriving DecidableEq

/-- Where the owner of a flight is. -/
inductive OwnerPoint where
  | lock
  | admitCancelled
  | admitCheck (point : ObsoletePoint)
  | admitSelected
  | waiting
  | loopCancelled
  | loopCheck (point : ObsoletePoint)
  | loopPromote
  | loopTest
  | loopRelease
  | loopCancel
  | permitCheck (point : ObsoletePoint)
  | analyze
  | currentRevision (analyzed : AnalysisResult)
  | currentCheck (analyzed : AnalysisResult) (point : ObsoletePoint)
  | currentCatalog (analyzed : AnalysisResult)
  | insert (analysis : CachedSongAnalysis)
  | dropPermit (result : AnalysisResult)
  | unwind
  | publish (result : AnalysisResult)
  | retire (result : AnalysisResult)
  deriving DecidableEq

/-- What sweeps the queue. -/
inductive Sweeper where
  | viewport (revision : ℕ)
  | invalidation
  deriving DecidableEq

/-- Where a sweep of the queue is. -/
inductive SweepPoint where
  | next (pending : List ℕ)
  | check (flight : ℕ) (pending : List ℕ) (point : ObsoletePoint)
  | release (flight : ℕ) (pending : List ℕ)
  | cancel (flight : ℕ) (pending : List ℕ)
  deriving DecidableEq

/-- A call in progress or over. -/
inductive AnalysisCall where
  | lookup (request : AnalysisRequest)
  | removeStale (request : AnalysisRequest)
  | join (request : AnalysisRequest)
  | joinCancelled (request : AnalysisRequest) (flight : ℕ)
  | noteRequest (request : AnalysisRequest) (flight : ℕ)
  | swapPriority (request : AnalysisRequest) (flight : ℕ)
  | promote (request : AnalysisRequest) (flight : ℕ)
  | await (request : AnalysisRequest) (flight : ℕ)
  | owner (request : AnalysisRequest) (flight : ℕ) (point : OwnerPoint)
  | viewportLock
  | viewportBump
  | invalidateLock
  | invalidateBump
  | sweep (sweeper : Sweeper) (point : SweepPoint)
  | clearEntries
  | returned (result : AnalysisResult)
  | viewportBegun (revision : ℕ)
  | invalidated
  | unwound
  deriving DecidableEq

/-- An operation. -/
inductive AnalysisOp where
  | analysisForRequest (request : AnalysisRequest)
  | beginViewportRequest
  | invalidateAnalysisCache

/-- What a step cannot determine: which weak references still upgrade, what an analysis yields if
it does not panic, and whether the catalog still has the song. -/
structure AnalysisChoice where
  alive : ℕ → Bool
  analysis : Option AnalysisResult
  inCatalog : Bool

/-- The error of a request that was overtaken. -/
def supersededError : String := "catalog analysis request was superseded"

/-- The error of a request beyond the queue's limit. -/
def queueFullError : String := "catalog analysis queue is full"

/-- The error of a source that is not the expected one. -/
def sourceChangedError : String := "selected sheet source changed during analysis"

/-- Whether an analysis is of the expected source. -/
def hashAccepts (expected : Option String) (analysis : CachedSongAnalysis) : Bool :=
  expected.all fun hash => analysis.sourceHash = some hash

/-- An analysis of another source than the expected one is an error. -/
def checkSource (expected : Option String) : AnalysisResult → AnalysisResult
  | .ok analysis => if hashAccepts expected analysis then .ok analysis else .error sourceChangedError
  | .error error => .error error

/-- A failed analysis, cached as such when the request says so. -/
def AnalysisRequest.settle (request : AnalysisRequest) : AnalysisResult → AnalysisResult
  | .ok analysis => .ok analysis
  | .error error =>
    if request.cacheFailures then .ok (.error request.failureFormatLabel) else .error error

namespace AnalysisRuntime

/-- Change a flight. -/
def modifyFlight (flight : ℕ) (change : AnalysisFlight → AnalysisFlight)
    (runtime : AnalysisRuntime) : AnalysisRuntime :=
  { runtime with heap := runtime.heap.modify flight change }

/-- One read of the test whether a flight is obsolete: where the test goes on, or its answer. -/
def obsoleteStep (runtime : AnalysisRuntime) (flight : AnalysisFlight) :
    ObsoletePoint → ObsoletePoint ⊕ Bool
  | .settings =>
    if flight.settingsRevision ≠ runtime.analysisRevision then .inr true else .inl .independent
  | .independent => if flight.independentRequest then .inr false else .inl .latest
  | .latest => .inl (.viewport flight.latestViewportRevision)
  | .viewport latest => .inr (latest ≠ runtime.viewportRevision)

/-- Take a flight out of the queue and say whether it was in it. -/
def releaseQueuedAnalysis (alive : ℕ → Bool) (index : ℕ) (flight : AnalysisFlight)
    (runtime : AnalysisRuntime) : AnalysisRuntime :=
  let admission :=
    if flight.queued then runtime.admission.leaveQueue flight.queuedAsSelected
    else runtime.admission
  { runtime with
    heap := runtime.heap.set index { flight with
      queued := false
      queuedAsSelected := flight.queuedAsSelected && !flight.queued }
    admission := { admission with
      queuedFlights := admission.queuedFlights.filter fun queued => alive queued && queued ≠ index } }

/-- Mark a queued flight as selected and count it, unless it is marked. -/
def promote (index : ℕ) (flight : AnalysisFlight) (runtime : AnalysisRuntime) : AnalysisRuntime :=
  { runtime with
    heap := runtime.heap.set index { flight with queuedAsSelected := true }
    admission := { runtime.admission with
      selectedWaiters :=
        if flight.queuedAsSelected then runtime.admission.selectedWaiters
        else runtime.admission.selectedWaiters + 1 } }

/-- Put a flight into the queue. -/
def enqueue (index : ℕ) (flight : AnalysisFlight) (selected : Bool) (runtime : AnalysisRuntime) :
    AnalysisRuntime :=
  { runtime with
    heap := runtime.heap.set index { flight with queued := true, queuedAsSelected := selected }
    admission := { runtime.admission with
      queued := runtime.admission.queued + 1
      selectedWaiters :=
        if selected then runtime.admission.selectedWaiters + 1
        else runtime.admission.selectedWaiters
      queuedFlights := runtime.admission.queuedFlights ++ [index] } }

/-- Give out a permit. -/
def grant (runtime : AnalysisRuntime) : AnalysisRuntime :=
  { runtime with
    admission := { runtime.admission with active := runtime.admission.active + 1 } }

/-- Free the admission lock. -/
def unlockAdmission (runtime : AnalysisRuntime) : AnalysisRuntime :=
  { runtime with admissionLocked := false }

/-- Take the admission lock, absent while another call holds it. -/
def lockAdmission (runtime : AnalysisRuntime) : Option AnalysisRuntime :=
  if runtime.admissionLocked then none else some { runtime with admissionLocked := true }

/-- Start a flight of one's own. -/
def createFlight (request : AnalysisRequest) (runtime : AnalysisRuntime) :
    AnalysisRuntime × AnalysisCall :=
  ({ runtime with
      cacheLocked := false
      cache := { runtime.cache with
        flights := Function.update runtime.cache.flights request.key (some runtime.heap.length) }
      heap := runtime.heap ++ [AnalysisFlight.new request] },
    .owner request runtime.heap.length .lock)

end AnalysisRuntime

section Steps

variable (sha256Hex : List UInt8 → String)

/-- The hash that the request expects of its source. -/
def AnalysisRequest.expectedSourceHash (request : AnalysisRequest) : Option String :=
  request.sourceBytes.map sha256Hex

open AnalysisRuntime

/-- The look-up under the cache's lock: a hit returns, a stale hit is removed, a flight is joined
under the lock, and otherwise a flight is created. -/
def joinStep (request : AnalysisRequest) (runtime : AnalysisRuntime) :
    AnalysisRuntime × AnalysisCall :=
  let (hit, cache) := runtime.cache.get request.key
  let fly (cache : AnalysisCacheState) : AnalysisRuntime × AnalysisCall :=
    match cache.flights request.key with
    | some flight => ({ runtime with cache, cacheLocked := true }, .joinCancelled request flight)
    | none => { runtime with cache }.createFlight request
  match hit with
  | some analysis =>
    if hashAccepts (request.expectedSourceHash sha256Hex) analysis then
      ({ runtime with cache }, .returned (.ok analysis))
    else fly (cache.remove request.key)
  | none => fly cache

/-- A step of an owner that holds the admission lock or waits for it. -/
def admissionStep (choice : AnalysisChoice) (request : AnalysisRequest) (index : ℕ)
    (flight : AnalysisFlight) (runtime : AnalysisRuntime) :
    OwnerPoint → Option (AnalysisRuntime × OwnerPoint)
  | .lock => runtime.lockAdmission.map fun locked => (locked, .admitCancelled)
  | .admitCancelled =>
    if flight.cancelled then some (runtime.unlockAdmission, .publish (.error supersededError))
    else some (runtime, .admitCheck .settings)
  | .admitCheck point =>
    match runtime.obsoleteStep flight point with
    | .inl next => some (runtime, .admitCheck next)
    | .inr true => some (runtime.unlockAdmission, .publish (.error supersededError))
    | .inr false => some (runtime, .admitSelected)
  | .admitSelected =>
    let selected := flight.selectedPriority
    if runtime.admission.admits selected then
      some (runtime.grant.unlockAdmission, .permitCheck .settings)
    else if maxQueuedSongAnalyses ≤ runtime.admission.queued then
      some (runtime.unlockAdmission, .publish (.error queueFullError))
    else some (runtime.enqueue index flight selected, .loopCancelled)
  | .waiting => runtime.lockAdmission.map fun locked => (locked, .loopCancelled)
  | .loopCancelled =>
    if flight.cancelled then some (runtime, .loopRelease) else some (runtime, .loopCheck .settings)
  | .loopCheck point =>
    match runtime.obsoleteStep flight point with
    | .inl next => some (runtime, .loopCheck next)
    | .inr true => some (runtime, .loopRelease)
    | .inr false => some (runtime, .loopPromote)
  | .loopPromote =>
    if flight.selectedPriority then some (runtime.promote index flight, .loopTest)
    else some (runtime, .loopTest)
  | .loopTest =>
    if runtime.admission.admits flight.selectedPriority then
      some ((runtime.releaseQueuedAnalysis choice.alive index flight).grant.unlockAdmission,
        .permitCheck .settings)
    else some (runtime.unlockAdmission, .waiting)
  | .loopRelease =>
    let released := runtime.releaseQueuedAnalysis choice.alive index flight
    if flight.queued then some (released, .loopCancel)
    else some (released.unlockAdmission, .publish (.error supersededError))
  | .loopCancel =>
    some ((runtime.modifyFlight index fun flight => { flight with cancelled := true }).unlockAdmission,
      .publish (.error supersededError))
  | .permitCheck point =>
    match runtime.obsoleteStep flight point with
    | .inl next => some (runtime, .permitCheck next)
    | .inr true => some (runtime, .dropPermit (.error supersededError))
    | .inr false => some (runtime, .analyze)
  | .analyze =>
    match choice.analysis with
    | some analyzed => some (runtime, .currentRevision (request.settle analyzed))
    | none => some (runtime, .unwind)
  | .currentRevision analyzed =>
    if request.key.settingsRevision ≠ runtime.analysisRevision then
      some (runtime, .dropPermit (checkSource (request.expectedSourceHash sha256Hex) analyzed))
    else some (runtime, .currentCheck analyzed .settings)
  | .currentCheck analyzed point =>
    match runtime.obsoleteStep flight point with
    | .inl next => some (runtime, .currentCheck analyzed next)
    | .inr true =>
      some (runtime, .dropPermit (checkSource (request.expectedSourceHash sha256Hex) analyzed))
    | .inr false => some (runtime, .currentCatalog analyzed)
  | .currentCatalog analyzed =>
    match choice.inCatalog, analyzed with
    | true, .ok analysis => some (runtime, .insert analysis)
    | _, analyzed =>
      some (runtime, .dropPermit (checkSource (request.expectedSourceHash sha256Hex) analyzed))
  | .insert analysis =>
    if runtime.cacheLocked then none
    else
      some ({ runtime with cache := runtime.cache.insert request.key analysis },
        .dropPermit (checkSource (request.expectedSourceHash sha256Hex) (.ok analysis)))
  | .dropPermit result =>
    if runtime.admissionLocked then none
    else some ({ runtime with admission := runtime.admission.dropPermit }, .publish result)
  | .publish result =>
    some (runtime.modifyFlight index fun flight => { flight with result := some result },
      .retire result)
  | .unwind | .retire _ => none

/-- A step of the owner of a flight. -/
def ownerStep (choice : AnalysisChoice) (request : AnalysisRequest) (index : ℕ)
    (flight : AnalysisFlight) (runtime : AnalysisRuntime) :
    OwnerPoint → Option (AnalysisRuntime × AnalysisCall)
  | .unwind =>
    if runtime.admissionLocked then none
    else some ({ runtime with admission := runtime.admission.dropPermit }, .unwound)
  | .retire result =>
    if runtime.cacheLocked then none
    else
      let flights :=
        if runtime.cache.flights request.key = some index then
          Function.update runtime.cache.flights request.key none
        else runtime.cache.flights
      some ({ runtime with cache := { runtime.cache with flights } }, .returned result)
  | point =>
    (admissionStep sha256Hex choice request index flight runtime point).map fun outcome =>
      (outcome.1, .owner request index outcome.2)

/-- A step of a sweep of the queue, which holds the admission lock. -/
def sweepStep (choice : AnalysisChoice) (sweeper : Sweeper) (runtime : AnalysisRuntime) :
    SweepPoint → Option (AnalysisRuntime × AnalysisCall)
  | .next [] =>
    match sweeper with
    | .viewport revision => some (runtime.unlockAdmission, .viewportBegun revision)
    | .invalidation => some (runtime.unlockAdmission, .clearEntries)
  | .next (index :: pending) =>
    if choice.alive index then some (runtime, .sweep sweeper (.check index pending .settings))
    else some (runtime, .sweep sweeper (.next pending))
  | .check index pending point => do
    let flight ← runtime.heap[index]?
    match runtime.obsoleteStep flight point with
    | .inl next => some (runtime, .sweep sweeper (.check index pending next))
    | .inr true => some (runtime, .sweep sweeper (.release index pending))
    | .inr false =>
      let queuedFlights :=
        if flight.queued then runtime.admission.queuedFlights ++ [index]
        else runtime.admission.queuedFlights
      some ({ runtime with admission := { runtime.admission with queuedFlights } },
        .sweep sweeper (.next pending))
  | .release index pending => do
    let flight ← runtime.heap[index]?
    let released := runtime.releaseQueuedAnalysis choice.alive index flight
    if flight.queued then some (released, .sweep sweeper (.cancel index pending))
    else some (released, .sweep sweeper (.next pending))
  | .cancel index pending =>
    some (runtime.modifyFlight index fun flight => { flight with cancelled := true },
      .sweep sweeper (.next pending))

/-- Begin a sweep of the flights that are in the queue. -/
def beginSweep (sweeper : Sweeper) (runtime : AnalysisRuntime) : AnalysisRuntime × AnalysisCall :=
  ({ runtime with admission := { runtime.admission with queuedFlights := [] } },
    .sweep sweeper (.next runtime.admission.queuedFlights))

/-- A step of a call. -/
def analysisStep (choice : AnalysisChoice) (call : AnalysisCall) (runtime : AnalysisRuntime) :
    Option (AnalysisRuntime × AnalysisCall) :=
  match call with
  | .lookup request =>
    if runtime.cacheLocked then none
    else
      let (hit, cache) := runtime.cache.get request.key
      match hit with
      | some analysis =>
        if hashAccepts (request.expectedSourceHash sha256Hex) analysis then
          some ({ runtime with cache }, .returned (.ok analysis))
        else some ({ runtime with cache }, .removeStale request)
      | none => some ({ runtime with cache }, .join request)
  | .removeStale request =>
    if runtime.cacheLocked then none
    else some ({ runtime with cache := runtime.cache.remove request.key }, .join request)
  | .join request => if runtime.cacheLocked then none else some (joinStep sha256Hex request runtime)
  | .joinCancelled request index => do
    let flight ← runtime.heap[index]?
    if flight.cancelled then some (runtime.createFlight request)
    else some (runtime, .noteRequest request index)
  | .noteRequest request index =>
    let noted := runtime.modifyFlight index (·.noteRequest request.viewportRevision)
    if request.priority = .selected then some (noted, .swapPriority request index)
    else some ({ noted with cacheLocked := false }, .await request index)
  | .swapPriority request index => do
    let flight ← runtime.heap[index]?
    let swapped := runtime.modifyFlight index fun flight => { flight with selectedPriority := true }
    if flight.selectedPriority then some ({ swapped with cacheLocked := false }, .await request index)
    else some (swapped, .promote request index)
  | .promote request index =>
    if runtime.admissionLocked then none
    else do
      let flight ← runtime.heap[index]?
      let promoted := if flight.queued then runtime.promote index flight else runtime
      some ({ promoted with cacheLocked := false }, .await request index)
  | .await request index => do
    let flight ← runtime.heap[index]?
    let result ← flight.result
    some (runtime, .returned (checkSource (request.expectedSourceHash sha256Hex) result))
  | .owner request index point => do
    let flight ← runtime.heap[index]?
    ownerStep sha256Hex choice request index flight runtime point
  | .viewportLock => runtime.lockAdmission.map fun locked => (locked, .viewportBump)
  | .viewportBump =>
    let revision := (runtime.viewportRevision + 1) % 2 ^ 64
    some (beginSweep (.viewport revision) { runtime with viewportRevision := revision })
  | .invalidateLock => runtime.lockAdmission.map fun locked => (locked, .invalidateBump)
  | .invalidateBump =>
    some (beginSweep .invalidation
      { runtime with analysisRevision := (runtime.analysisRevision + 1) % 2 ^ 64 })
  | .sweep sweeper point => sweepStep choice sweeper runtime point
  | .clearEntries =>
    if runtime.cacheLocked then none
    else some ({ runtime with cache := { runtime.cache with entries := [] } }, .invalidated)
  | .returned _ | .viewportBegun _ | .invalidated | .unwound => none

/-- The calls over the analysis runtime. -/
def analysisProgram : CallProgram AnalysisOp AnalysisCall AnalysisChoice AnalysisRuntime where
  start
    | .analysisForRequest request => .lookup request
    | .beginViewportRequest => .viewportLock
    | .invalidateAnalysisCache => .invalidateLock
  step := analysisStep sha256Hex

end Steps

/-- The runtime before the first call. -/
def AnalysisRuntime.initial : AnalysisRuntime where
  cacheLocked := false
  cache := ⟨[], fun _ => none, 0⟩
  admissionLocked := false
  admission := ⟨0, 0, 0, [], false⟩
  heap := []
  analysisRevision := 0
  viewportRevision := 0

end SkyAutoPlayer.Desktop
