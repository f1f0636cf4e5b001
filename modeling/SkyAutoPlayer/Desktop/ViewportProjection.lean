import SkyAutoPlayer.AppCore.UpdatePolicy
import SkyAutoPlayer.Desktop.AnalysisCache
import SkyAutoPlayer.Desktop.CatalogSearch
import SkyAutoPlayer.Foundation.KeepFirst

/-!
# The viewport of the catalog

A viewport request names a range of the catalog or some songs of it, and is answered by their rows: a
row needs the analysis of its song and whether the song is liked. The last answer is kept under a key.
A request with the same key is answered by it, and a request whose window has moved by one place takes
over every row but the entering one.

A section under a lock is one step, and so is every read of an atomic outside of one. The check that
a key is current reads in four steps. Whoever changes likes, playlists, settings or the catalog does
so as in the search of the catalog, and then drops the last answer.

An analysis is a function of its key. The path of an entry is left to it.
-/

namespace SkyAutoPlayer.AppCore

open Foundation

/-- The row of a song. -/
def CatalogIndex.entryForSongId (songId : String) (generation : Option ℕ) (index : CatalogIndex) :
    Except CatalogError CatalogRow := do
  index.checkGeneration generation
  let _path ← index.canonicalPathForSongId songId generation
  okOr .unknownSongId ((index.entryOf? songId).map CatalogEntry.row)

/-- The ids in a range of places, both ends included. -/
def CatalogIndex.songIdsInRange (first last : ℕ) (generation : Option ℕ) (index : CatalogIndex) :
    Except CatalogError (List String) := do
  index.checkGeneration generation
  failIf (last < first ∨ index.entries.length ≤ last) .invalidLimit
  pure (((index.entries.drop first).take (last + 1 - first)).map fun entry => entry.row.songId)

end SkyAutoPlayer.AppCore

namespace SkyAutoPlayer.Desktop

open Foundation AppCore NativeAdapters

/-- The most rows of an answer that is kept. -/
def maxCachedViewportResponseRows : ℕ := 200

/-- The most songs of a viewport. -/
def maxViewportSongs : ℕ := 2000

/-- A request for the rows of a viewport. -/
structure CatalogViewportRequest where
  generation : ℕ
  firstIndex : ℕ
  lastIndex : ℤ
  selectedSongId : Option String
  songIds : List String
  deriving DecidableEq, Repr

/-- A row of the catalog as it is shown. -/
structure CatalogRowDto where
  songId : String
  title : String
  formatLabel : String
  durationUs : Option ℕ
  noteCount : Option ℕ
  riskLevel : String
  metadataState : String
  liked : Bool
  deriving DecidableEq, Repr

/-- The answer to a viewport request. -/
structure CatalogViewportDto where
  accepted : Bool
  generation : ℕ
  firstIndex : ℕ
  lastIndex : ℤ
  selectedSongId : Option String
  items : List CatalogRowDto
  deriving DecidableEq, Repr

/-- What an answer depends on. -/
structure ViewportProjectionKey where
  generation : ℕ
  settingsRevision : ℕ
  likedMembershipRevision : ℕ
  playlistMembershipRevision : ℕ
  firstIndex : ℕ
  lastIndex : ℤ
  selectedSongId : Option String
  requestSongIds : List String
  orderedSongIds : List String
  deriving DecidableEq, Repr

/-- The last answer and its key. -/
structure ViewportResponseProjection where
  key : ViewportProjectionKey
  response : CatalogViewportDto
  deriving DecidableEq, Repr

/-- The rows that a moved window takes over, and where the entering song goes. -/
structure ShiftedViewportRows where
  reusableRows : List CatalogRowDto
  enteringSongId : String
  insertionIndex : ℕ
  deriving DecidableEq, Repr

/-- The settings as a viewport reads them, with the revisions of the same moment. -/
structure CatalogSettings where
  likedSongs : LikedSongs
  likedRevision : ℕ
  playlistRevision : ℕ
  analysisRevision : ℕ
  deriving DecidableEq

/-- The state that the calls share. -/
structure ViewportRuntime where
  desktop : SearchRuntime
  analysisRevision : ℕ
  viewportRevision : ℕ
  projection : Option ViewportResponseProjection

/-- What a request has read before it comes to the projection. -/
structure ViewportWindow where
  request : CatalogViewportRequest
  revision : ℕ
  entries : List CatalogRow
  selected : Option CatalogRow
  settings : CatalogSettings

section Request

/-- An unsigned word read as a signed one. -/
def asI64 (value : ℕ) : ℤ := if value < 2 ^ 63 then value else (value : ℤ) - 2 ^ 64

/-- A signed word read as an unsigned one. -/
def asU64 (value : ℤ) : ℕ := (value % 2 ^ 64).toNat

/-- A sum of signed words, kept in their range. -/
def saturatingAddI64 (a b : ℤ) : ℤ := max (-2 ^ 63) (min (2 ^ 63 - 1) (a + b))

/-- A sum of signed words, absent beyond their range. -/
def checkedAddI64 (a b : ℤ) : Option ℤ :=
  if -2 ^ 63 ≤ a + b ∧ a + b < 2 ^ 63 then some (a + b) else none

/-- The range of a request lies in the catalog and is not too long. -/
def rangeIsBounded (request : CatalogViewportRequest) (total : ℕ) : Bool :=
  !(request.lastIndex < asI64 request.firstIndex || total ≤ asU64 request.lastIndex ||
    (maxViewportSongs : ℤ) <
      saturatingAddI64 (saturatingSubI64 request.lastIndex (asI64 request.firstIndex)) 1)

/-- The ids that a request is for, as far as it names a range. -/
def viewportSongIds (request : CatalogViewportRequest) (index : CatalogIndex) :
    Except String (List String) :=
  if request.songIds ≠ [] then .ok request.songIds
  else if index.entries.length = 0 then do
    failIf (request.firstIndex ≠ 0 ∨ request.lastIndex ≠ -1 ∨ request.selectedSongId.isSome)
      "empty catalog viewport must be 0..-1 with no selected song"
    pure []
  else do
    failIf (¬rangeIsBounded request index.entries.length)
      "catalog viewport is outside bounded index range"
    (index.songIdsInRange request.firstIndex (asU64 request.lastIndex)
      (some request.generation)).mapError catalogError

/-- The row of the song that a request selects. -/
def selectedEntry (request : CatalogViewportRequest) (index : CatalogIndex) :
    Except String (Option CatalogRow) :=
  match request.selectedSongId with
  | none => .ok none
  | some songId =>
    ((index.entryForSongId songId (some request.generation)).mapError catalogError).map some

/-- The rows that a request is for, each song once, and the selected one. -/
def viewportEntries (request : CatalogViewportRequest) (index : CatalogIndex) :
    Except String (List CatalogRow × Option CatalogRow) := do
  failIf (index.generation ≠ request.generation) "catalog generation is stale"
  let songIds ← viewportSongIds request index
  let selected ← selectedEntry request index
  let entries ← (keepFirst id [] songIds).mapM fun songId =>
    (index.entryForSongId songId (some request.generation)).mapError catalogError
  pure (entries, selected)

/-- The key of a request. -/
def ViewportWindow.key (window : ViewportWindow) : ViewportProjectionKey where
  generation := window.request.generation
  settingsRevision := window.settings.analysisRevision
  likedMembershipRevision := window.settings.likedRevision
  playlistMembershipRevision := window.settings.playlistRevision
  firstIndex := window.request.firstIndex
  lastIndex := window.request.lastIndex
  selectedSongId := window.request.selectedSongId
  requestSongIds := window.request.songIds
  orderedSongIds := window.entries.map CatalogRow.songId

/-- The answer to a request. -/
def CatalogViewportRequest.respond (request : CatalogViewportRequest) (accepted : Bool)
    (items : List CatalogRowDto) : CatalogViewportDto :=
  ⟨accepted, request.generation, request.firstIndex, request.lastIndex, request.selectedSongId, items⟩

/-- A row as it is shown. -/
def rowDto (likedSongs : LikedSongs) (row : CatalogRow) (analysis : CachedSongAnalysis) :
    CatalogRowDto where
  songId := row.songId
  title := row.title
  formatLabel := analysis.metadata.formatLabel
  durationUs := analysis.metadata.durationUs
  noteCount := analysis.metadata.noteCount
  riskLevel := analysis.metadata.riskLevel
  metadataState := analysis.metadata.state
  liked := row.songId ∈ likedSongs.ids

end Request

section Shift

/-- A request and the one before it name what they are for in the same way: both by a range, or both by
exactly the songs of their rows. -/
def requestIdentityIsExact (previous key : ViewportProjectionKey) : Bool :=
  if key.requestSongIds ≠ [] then
    previous.requestSongIds ≠ [] ∧ previous.requestSongIds = previous.orderedSongIds ∧
      key.requestSongIds = key.orderedSongIds
  else previous.requestSongIds = []

/-- The window of one key is the window of another one, moved on by one place. -/
def ViewportProjectionKey.follows (key previous : ViewportProjectionKey) : Bool :=
  checkedAdd 64 previous.firstIndex 1 = some key.firstIndex ∧
    checkedAddI64 previous.lastIndex 1 = some key.lastIndex ∧
    previous.orderedSongIds.drop 1 = key.orderedSongIds.take (key.orderedSongIds.length - 1)

namespace ViewportResponseProjection

/-- The last answer is for a window of the same length under the same revisions, and has a row for
every song of it. -/
def isReusable (key : ViewportProjectionKey) (projection : ViewportResponseProjection) : Bool :=
  let previous := projection.key
  let response := projection.response
  let len := key.orderedSongIds.length
  2 ≤ len && len ≤ maxCachedViewportResponseRows && previous.orderedSongIds.length = len &&
    requestIdentityIsExact previous key &&
    previous.generation = key.generation && previous.settingsRevision = key.settingsRevision &&
    previous.likedMembershipRevision = key.likedMembershipRevision &&
    previous.playlistMembershipRevision = key.playlistMembershipRevision &&
    previous.selectedSongId = key.selectedSongId && response.items.length = len &&
    response.accepted && response.generation = previous.generation &&
    response.firstIndex = previous.firstIndex && response.lastIndex = previous.lastIndex &&
    response.selectedSongId = previous.selectedSongId &&
    (response.items.zip previous.orderedSongIds).all fun (row, songId) => row.songId = songId

/-- The rows of the last answer that a request takes over, if its window has moved by one place. -/
def shiftedRows (key : ViewportProjectionKey) (projection : ViewportResponseProjection) :
    Option ShiftedViewportRows :=
  let len := key.orderedSongIds.length
  if !projection.isReusable key then none
  else if key.follows projection.key then
    (key.orderedSongIds[len - 1]?).map fun entering =>
      ⟨projection.response.items.drop 1, entering, len - 1⟩
  else if projection.key.follows key then
    (key.orderedSongIds[0]?).map fun entering =>
      ⟨projection.response.items.take (len - 1), entering, 0⟩
  else none

end ViewportResponseProjection

/-- The last answer, when it is for the same key and not too long. -/
def cachedResponse (key : ViewportProjectionKey) (projection : Option ViewportResponseProjection) :
    Option CatalogViewportDto := do
  let projection ← projection.filter fun projection => projection.key = key
  if maxCachedViewportResponseRows < projection.response.items.length then none
  else some projection.response

end Shift

namespace ViewportWindow

/-- The rows that a request has to analyse for its answer. -/
def missingEntries (window : ViewportWindow) : Option ShiftedViewportRows → List CatalogRow
  | some shifted => window.entries.filter fun row => row.songId = shifted.enteringSongId
  | none => window.entries

/-- The rows in the order in which they are analysed, the selected one first. -/
def analysisEntries (window : ViewportWindow) (shifted : Option ShiftedViewportRows) :
    List CatalogRow :=
  match window.selected with
  | none => window.missingEntries shifted
  | some selected =>
    selected :: (window.missingEntries shifted).eraseP fun row => row.songId = selected.songId

/-- What the analysis of a row is of. -/
def analysisKey (window : ViewportWindow) (songId : String) : AnalysisKey :=
  ⟨songId, window.request.generation, window.settings.analysisRevision⟩

/-- The rows of an answer. They are absent where the source would panic. -/
def items (window : ViewportWindow) (shifted : Option ShiftedViewportRows)
    (analyses : List (String × CachedSongAnalysis)) (likedSongs : LikedSongs) :
    Option (List CatalogRowDto) :=
  match shifted with
  | some shifted => do
    let row ← window.entries.find? fun row => row.songId = shifted.enteringSongId
    let analysis ← analyses.lookup row.songId
    pure (shifted.reusableRows.insertIdx shifted.insertionIndex (rowDto likedSongs row analysis))
  | none =>
    some (window.entries.filterMap fun row =>
      (analyses.lookup row.songId).map (rowDto likedSongs row))

/-- The revisions are still those of the window. -/
def settingsAreCurrent (window : ViewportWindow) (latest : CatalogSettings) : Bool :=
  latest.likedRevision = window.settings.likedRevision ∧
    latest.playlistRevision = window.settings.playlistRevision ∧
    latest.analysisRevision = window.settings.analysisRevision

end ViewportWindow

/-- The points of the check that a key is current. -/
inductive CurrentPoint where
  | viewport
  | revisions
  | generation
  | last
  deriving DecidableEq, Repr

/-- What the check that a key is current is for. -/
inductive CurrentUse where
  | cached (response : CatalogViewportDto)
  | shift (rows : ShiftedViewportRows)
  | publish (response : CatalogViewportDto)

/-- What the analyses of a request have come to. -/
structure ViewportAnalyses where
  shifted : Option ShiftedViewportRows
  analyses : List (String × CachedSongAnalysis)
  incomplete : Bool

/-- What a change has to do for the viewports. -/
inductive ViewportEffect where
  | invalidateProjection
  | bumpAnalysisRevision
  deriving DecidableEq, Repr

/-- Where a call stands. -/
inductive ViewportCall where
  | desktop (call : SearchCall)
  | patch (preparationSafe : Bool)
  | effects (effects : List ViewportEffect) (next : SearchCall)
  | requested (request : CatalogViewportRequest)
  | entries (request : CatalogViewportRequest) (revision : ℕ)
  | settings (request : CatalogViewportRequest) (revision : ℕ) (entries : List CatalogRow)
      (selected : Option CatalogRow)
  | cached (window : ViewportWindow)
  | current (point : CurrentPoint) (window : ViewportWindow) (use : CurrentUse)
  | superseded (window : ViewportWindow)
  | shift (window : ViewportWindow)
  | policy (window : ViewportWindow) (shifted : Option ShiftedViewportRows)
  | analyze (window : ViewportWindow) (shifted : Option ShiftedViewportRows)
      (pending : List CatalogRow) (analyses : List (String × CachedSongAnalysis))
  | latest (window : ViewportWindow) (analyzed : ViewportAnalyses)
  | generation (window : ViewportWindow) (analyzed : ViewportAnalyses) (latest : CatalogSettings)
  | accept (window : ViewportWindow) (analyzed : ViewportAnalyses) (latest : CatalogSettings)
      (generationIsCurrent : Bool)
  | store (window : ViewportWindow) (response : CatalogViewportDto)
  | returned (request : CatalogViewportRequest) (reply : Except String CatalogViewportDto)
  | panicked

/-- What the settings file, the stores, the composer and the analyses answer a step. -/
structure ViewportChoice where
  search : SearchChoice
  playbackChanged : Bool
  patched : Bool
  policy : Except String Unit
  analysed : Bool

namespace ViewportRuntime

/-- The settings and the revisions that their lock keeps together. -/
def catalogSettings (runtime : ViewportRuntime) : CatalogSettings :=
  ⟨runtime.desktop.likedSongs, runtime.desktop.cache.likedMembershipRevision,
    runtime.desktop.cache.playlistMembershipRevision, runtime.analysisRevision⟩

/-- Do what a change has to do for the viewports. -/
def apply (runtime : ViewportRuntime) : ViewportEffect → ViewportRuntime
  | .invalidateProjection => { runtime with projection := none }
  | .bumpAnalysisRevision =>
    { runtime with analysisRevision := (runtime.analysisRevision + 1) % 2 ^ 64 }

end ViewportRuntime

/-- What forgets every analysis. -/
def invalidateAnalysisCache : List ViewportEffect := [.bumpAnalysisRevision, .invalidateProjection]

/-- What a change has to do after one of its steps. The settings' file may have other playback
defaults, which forgets the analyses at the end of a reload. -/
def changeEffects (playbackChanged : Bool) : SearchCall → SearchCall → List ViewportEffect
  | .likedInvalidate _ _, _ | .invalidatePlaylists, _ => [.invalidateProjection]
  | .reloadInvalidate, _ =>
    .invalidateProjection :: if playbackChanged then invalidateAnalysisCache else []
  | .reloadSettings, .returned (.ok _) => if playbackChanged then invalidateAnalysisCache else []
  | .invalidateAll, _ => invalidateAnalysisCache
  | _, _ => []

/-- What a passed or failed check that the key is current leads to. -/
def CurrentUse.conclude (window : ViewportWindow) (isCurrent : Bool) : CurrentUse → ViewportCall
  | .cached response =>
    if isCurrent then .returned window.request (.ok response) else .superseded window
  | .shift rows => .policy window (if isCurrent then some rows else none)
  | .publish response =>
    if isCurrent then .store window response else .returned window.request (.ok response)

/-- What a step of the check leads to. -/
def CurrentUse.proceed (window : ViewportWindow) (use : CurrentUse) : CurrentPoint ⊕ Bool → ViewportCall
  | .inl point => .current point window use
  | .inr isCurrent => use.conclude window isCurrent

/-- A step of the check that the key is current: it goes on, or says what it has found. -/
def currentStep (window : ViewportWindow) (runtime : ViewportRuntime) :
    CurrentPoint → Option (CurrentPoint ⊕ Bool)
  | .viewport =>
    some (if runtime.viewportRevision = window.revision then .inl .revisions else .inr false)
  | .revisions =>
    if runtime.desktop.settingsLocked then none
    else some (if window.settingsAreCurrent runtime.catalogSettings then .inl .generation
      else .inr false)
  | .generation =>
    if runtime.desktop.catalogLocked then none
    else some (if runtime.desktop.catalog.index.generation = window.key.generation then .inl .last
      else .inr false)
  | .last => some (.inr (runtime.viewportRevision = window.revision))

/-- Publish an answer that is not too long, or only return it. -/
def publishCall (window : ViewportWindow) (response : CatalogViewportDto) : ViewportCall :=
  if maxCachedViewportResponseRows < response.items.length ∨
      maxCachedViewportResponseRows < window.key.requestSongIds.length ∨
      maxCachedViewportResponseRows < window.key.orderedSongIds.length ∨ ¬response.accepted then
    .returned window.request (.ok response)
  else .current .viewport window (.publish response)

/-- Decide whether the answer is accepted, and give it its rows. -/
def acceptStep (window : ViewportWindow) (analyzed : ViewportAnalyses) (latest : CatalogSettings)
    (generationIsCurrent : Bool) (runtime : ViewportRuntime) : ViewportCall :=
  if !analyzed.incomplete && runtime.viewportRevision = window.revision &&
      window.settingsAreCurrent latest && generationIsCurrent then
    match window.items analyzed.shifted analyzed.analyses latest.likedSongs with
    | none => .panicked
    | some items => publishCall window (window.request.respond true items)
  else .returned window.request (.ok (window.request.respond false []))

section Steps

variable (tables : CatalogTables) (analyze : AnalysisKey → CachedSongAnalysis)

/-- One step of a call, absent while a lock that it takes is held. -/
def viewportStep (choice : ViewportChoice) (runtime : ViewportRuntime) :
    ViewportCall → Option (ViewportRuntime × ViewportCall)
  | .desktop call =>
    (searchStep tables choice.search runtime.desktop call).map fun (desktop, next) =>
      ({ runtime with desktop },
        .effects (changeEffects choice.playbackChanged call next) next)
  | .patch preparationSafe =>
    if runtime.desktop.settingsLocked then none
    else some (runtime, .effects
      (if choice.patched && !preparationSafe then invalidateAnalysisCache else [])
      (.returned (.ok none)))
  | .effects [] next => some (runtime, .desktop next)
  | .effects (effect :: rest) next => some (runtime.apply effect, .effects rest next)
  | .requested request =>
    if maxViewportSongs < request.songIds.length then
      some (runtime, .returned request
        (.error "catalog viewport contains too many metadata hydration IDs"))
    else
      let revision := (runtime.viewportRevision + 1) % 2 ^ 64
      some ({ runtime with viewportRevision := revision }, .entries request revision)
  | .entries request revision =>
    if runtime.desktop.catalogLocked then none
    else
      match viewportEntries request runtime.desktop.catalog.index with
      | .error message => some (runtime, .returned request (.error message))
      | .ok (entries, selected) => some (runtime, .settings request revision entries selected)
  | .settings request revision entries selected =>
    if runtime.desktop.settingsLocked then none
    else some (runtime, .cached ⟨request, revision, entries, selected, runtime.catalogSettings⟩)
  | .cached window =>
    match cachedResponse window.key runtime.projection with
    | none => some (runtime, .superseded window)
    | some response => some (runtime, .current .viewport window (.cached response))
  | .current point window use =>
    (currentStep window runtime point).map fun outcome => (runtime, use.proceed window outcome)
  | .superseded window =>
    if runtime.viewportRevision ≠ window.revision then
      some (runtime, .returned window.request (.ok (window.request.respond false [])))
    else some (runtime, .shift window)
  | .shift window =>
    match runtime.projection.bind fun projection => projection.shiftedRows window.key with
    | none => some (runtime, .policy window none)
    | some rows => some (runtime, .current .viewport window (.shift rows))
  | .policy window shifted =>
    match choice.policy with
    | .error message => some (runtime, .returned window.request (.error message))
    | .ok () => some (runtime, .analyze window shifted (window.analysisEntries shifted) [])
  | .analyze window shifted [] analyses => some (runtime, .latest window ⟨shifted, analyses, false⟩)
  | .analyze window shifted (row :: rest) analyses =>
    if choice.analysed then
      some (runtime, .analyze window shifted rest
        ((row.songId, analyze (window.analysisKey row.songId)) :: analyses))
    else some (runtime, .latest window ⟨shifted, analyses, true⟩)
  | .latest window analyzed =>
    if runtime.desktop.settingsLocked then none
    else some (runtime, .generation window analyzed runtime.catalogSettings)
  | .generation window analyzed latest =>
    if runtime.desktop.catalogLocked then none
    else some (runtime, .accept window analyzed latest
      (runtime.desktop.catalog.index.generation = window.request.generation))
  | .accept window analyzed latest generationIsCurrent =>
    some (runtime, acceptStep window analyzed latest generationIsCurrent runtime)
  | .store window response =>
    some (if runtime.viewportRevision = window.revision then
        { runtime with projection := some ⟨window.key, response⟩ }
      else runtime, .returned window.request (.ok response))
  | .returned _ _ | .panicked => none

/-- What begins a call. -/
inductive ViewportOp where
  | setViewport (request : CatalogViewportRequest)
  | desktop (op : SearchOp)
  | patchSettings (preparationSafe : Bool)

/-- The viewport requests and the calls that change what they depend on. -/
def viewportProgram : CallProgram ViewportOp ViewportCall ViewportChoice ViewportRuntime where
  start
    | .setViewport request => .requested request
    | .desktop op => .desktop ((searchProgram tables).start op)
    | .patchSettings preparationSafe => .patch preparationSafe
  step choice call runtime := viewportStep tables analyze choice runtime call

/-- The runtime before its first call. -/
def ViewportRuntime.new (likedSongs : LikedSongs) (service : LibraryManifestService)
    (catalog : CatalogState) : ViewportRuntime where
  desktop := .new likedSongs service catalog
  analysisRevision := 0
  viewportRevision := 0
  projection := none

/-- The viewports of one runtime. -/
def viewportMachine (likedSongs : LikedSongs) (service : LibraryManifestService)
    (catalog : CatalogState) :
    Machine (CallPool ViewportRuntime ViewportCall) (PoolAction ViewportOp ViewportChoice) :=
  (viewportProgram tables analyze).machine (.new likedSongs service catalog)

end Steps

/-- The answer to a request from the current state alone: every row analysed, and the likes read from
the current settings. -/
def scratchViewport (analyze : AnalysisKey → CachedSongAnalysis) (request : CatalogViewportRequest)
    (runtime : ViewportRuntime) : Except String CatalogViewportDto := do
  failIf (maxViewportSongs < request.songIds.length)
    "catalog viewport contains too many metadata hydration IDs"
  let (entries, _selected) ← viewportEntries request runtime.desktop.catalog.index
  pure (request.respond true (entries.map fun row =>
    rowDto runtime.desktop.likedSongs row
      (analyze ⟨row.songId, request.generation, runtime.analysisRevision⟩)))

end SkyAutoPlayer.Desktop
