import SkyAutoPlayer.AppCore.Settings
import SkyAutoPlayer.Foundation.CallPool
import SkyAutoPlayer.Foundation.WeightedCache
import SkyAutoPlayer.NativeAdapters.CatalogComposition

/-!
# Searching the catalog through the cache of search orders

A search captures the liked songs or a playlist with the revision of its membership, then holds the
catalog while it looks its order up, computes and stores it. The order is cached under the
generation, the source, the revision and the query. Whoever changes a membership bumps its revision
and drops its orders.

A section under the cache's lock is one step. The settings, the manifest and the catalog are flagged
while a call keeps their lock across a section of the cache.
-/

namespace SkyAutoPlayer.Desktop

open Foundation AppCore NativeAdapters

/-- The most cached orders. -/
def maxCachedCatalogSearchOrders : ℕ := 8

/-- The most places in cached orders. -/
def maxCachedCatalogSearchIndices : ℕ := 100000

/-- The songs that the desktop lists by itself. -/
inductive CatalogSourceId where
  | all
  | liked
  | builtin
  deriving DecidableEq, Repr

/-- Where a search looks. -/
inductive LibrarySource where
  | smart (id : CatalogSourceId)
  | playlist (id : String)
  deriving DecidableEq, Repr

/-- A request for a page of a search. -/
structure CatalogSearchRequest where
  query : String
  offset : ℕ
  limit : ℕ
  generation : Option ℕ
  source : LibrarySource
  deriving DecidableEq, Repr

/-- The membership that a cached order is for. -/
inductive CatalogSearchScope where
  | all
  | liked
  | builtin
  | playlist (id : String)
  deriving DecidableEq, Repr

/-- What a cached order is for. -/
structure CatalogSearchKey where
  generation : ℕ
  scope : CatalogSearchScope
  membershipRevision : ℕ
  query : String
  deriving DecidableEq, Repr

/-- The cached orders, and the revisions of the memberships. -/
structure CatalogSearchCache where
  orders : WeightedCache CatalogSearchKey CatalogSearchOrder
  likedMembershipRevision : ℕ
  playlistMembershipRevision : ℕ

/-- The places in an order. -/
def indexCount (order : CatalogSearchOrder) : ℕ := order.indices.length

/-- The scope of the liked songs. -/
def CatalogSearchScope.isLiked : CatalogSearchScope → Bool
  | .liked => true
  | _ => false

/-- The scope of a playlist. -/
def CatalogSearchScope.isPlaylist : CatalogSearchScope → Bool
  | .playlist _ => true
  | _ => false

namespace CatalogSearchCache

/-- The order under a key. -/
def get (key : CatalogSearchKey) (cache : CatalogSearchCache) :
    Option CatalogSearchOrder × CatalogSearchCache :=
  ((cache.orders.get key).1, { cache with orders := (cache.orders.get key).2 })

/-- Store an order. -/
def insert (key : CatalogSearchKey) (order : CatalogSearchOrder) (cache : CatalogSearchCache) :
    CatalogSearchCache :=
  { cache with
    orders := cache.orders.insert indexCount maxCachedCatalogSearchOrders
      maxCachedCatalogSearchIndices key order }

/-- The liked songs have changed. -/
def invalidateLiked (cache : CatalogSearchCache) : CatalogSearchCache :=
  { cache with
    likedMembershipRevision := (cache.likedMembershipRevision + 1) % 2 ^ 64
    orders := cache.orders.retain indexCount fun key => !key.scope.isLiked }

/-- The playlists have changed. -/
def invalidatePlaylists (cache : CatalogSearchCache) : CatalogSearchCache :=
  { cache with
    playlistMembershipRevision := (cache.playlistMembershipRevision + 1) % 2 ^ 64
    orders := cache.orders.retain indexCount fun key => !key.scope.isPlaylist }

/-- Drop every order. -/
def invalidateAll (cache : CatalogSearchCache) : CatalogSearchCache :=
  { cache with orders := .empty }

end CatalogSearchCache

/-- What the search reads of the catalog. -/
structure CatalogState where
  index : CatalogIndex
  libraryMembership : Finset String
  builtinMembership : Finset String
  builtinStatus : BuiltinCatalogStatus

/-- The state that the calls share. -/
structure SearchRuntime where
  likedSongs : LikedSongs
  settingsLocked : Bool
  libraryManifest : LibraryManifestService
  manifestLocked : Bool
  catalog : CatalogState
  catalogLocked : Bool
  cache : CatalogSearchCache

/-- What a search has captured before it locks the catalog. -/
structure SearchCapture where
  likedSongs : LikedSongs
  likedRevision : ℕ
  playlist : Option (Finset String × ℕ)

/-- What a search has when it comes to the cache. -/
structure SearchWindow where
  request : CatalogSearchRequest
  capture : SearchCapture
  catalog : CatalogState
  allowed : Option (Finset String)

/-- The built-in songs are available. -/
def CatalogState.builtinAvailable (catalog : CatalogState) : Bool :=
  match catalog.builtinStatus with
  | .available _ => true
  | .unavailable _ => false

/-- The message of a catalog error. -/
def catalogError : CatalogError → String
  | .sourceUnavailable _ => "catalog source is unavailable"
  | error => error.text

/-- The scope of a source. -/
def LibrarySource.scope : LibrarySource → CatalogSearchScope
  | .smart .all => .all
  | .smart .liked => .liked
  | .smart .builtin => .builtin
  | .playlist id => .playlist id

/-- The ids that a source allows. The library allows every entry when it has as many. -/
def allowedIds (request : CatalogSearchRequest) (capture : SearchCapture) (catalog : CatalogState) :
    Except String (Option (Finset String)) :=
  match request.source with
  | .smart .liked => .ok (some capture.likedSongs.ids)
  | .smart .all =>
    .ok (if catalog.libraryMembership.card ≠ catalog.index.entries.length then
      some catalog.libraryMembership else none)
  | .smart .builtin =>
    if catalog.builtinAvailable then .ok (some catalog.builtinMembership)
    else .error "builtin songs are unavailable"
  | .playlist _ => .ok (capture.playlist.map Prod.fst)

/-- The songs of a playlist. -/
def playlistSongs (id : String) (manifest : LibraryManifestV1) : Option (List String) :=
  (manifest.collections.find? fun collection => collection.id = id).map (·.songIds)

/-- The revision of the membership of a request's source. -/
def membershipRevision (request : CatalogSearchRequest) (capture : SearchCapture) : ℕ :=
  match request.source.scope with
  | .liked => capture.likedRevision
  | .playlist _ => (capture.playlist.map Prod.snd).getD 0
  | .all | .builtin => 0

namespace SearchWindow

/-- The key of a search. -/
def key (window : SearchWindow) : CatalogSearchKey :=
  ⟨window.catalog.index.generation, window.request.source.scope,
    membershipRevision window.request window.capture, window.request.query⟩

/-- The revision that a search captured is still the current one. -/
def membershipIsCurrent (window : SearchWindow) (cache : CatalogSearchCache) : Bool :=
  match window.request.source.scope with
  | .liked => cache.likedMembershipRevision = window.key.membershipRevision
  | .playlist _ => cache.playlistMembershipRevision = window.key.membershipRevision
  | .all | .builtin => true

variable (tables : CatalogTables)

/-- The order of a search, from what it captured. -/
def order (window : SearchWindow) : Except CatalogError CatalogSearchOrder :=
  window.catalog.index.searchOrderWithAllowedIds tables window.request.query
    window.request.generation window.allowed

/-- The page that a search cuts from an order. -/
def pageOf (window : SearchWindow) (order : CatalogSearchOrder) : Except CatalogError CatalogPage :=
  window.catalog.index.pageFromSearchOrder tables order window.request.query window.request.offset
    window.request.limit window.request.generation

/-- The page of a search, from what it captured. -/
def directPage (window : SearchWindow) : Except CatalogError CatalogPage := do
  let order ← window.order tables
  window.pageOf tables order

/-- What a search checks before it comes to the cache: the source, the generation, the window, and
whether the query is ranked. -/
def enter (request : CatalogSearchRequest) (capture : SearchCapture) (catalog : CatalogState) :
    Except String (SearchWindow × Bool) := do
  let allowed ← allowedIds request capture catalog
  let _likedTotal ← (catalog.index.countAllowedIds capture.likedSongs.ids
    request.generation).mapError catalogError
  (catalog.index.validateSearchWindow tables request.query request.limit
    request.generation).mapError catalogError
  let isFuzzy ← (isFuzzySearchQuery tables request.query).mapError catalogError
  pure (⟨request, capture, catalog, allowed⟩, isFuzzy)

end SearchWindow

/-- A change of the playlists. -/
inductive PlaylistOp where
  | create (id name : String)
  | rename (id name : String)
  | delete (id : String)
  | addSongs (id : String) (songIds : List String)
  | removeSongs (id : String) (songIds : List String)
  | importAndAddSongs (id : String) (sources : List ImportedSourceRef) (songIds : List String)

/-- Make a change, and say whether the playlists' orders have to go. -/
def PlaylistOp.run (failure : SaveFailure) : PlaylistOp → LibraryM Bool
  | .create id name => return (fun _ => false) (← createCollection failure id name)
  | .rename id name => return (fun _ => false) (← renameCollection failure id name)
  | .delete id => return (fun deleted => deleted) (← deleteCollection failure id)
  | .addSongs id songIds => return (fun _ => true) (← AppCore.addSongs failure id songIds)
  | .removeSongs id songIds => return (fun _ => true) (← AppCore.removeSongs failure id songIds)
  | .importAndAddSongs id sources songIds =>
    return (fun _ => true) (← AppCore.importAndAddSongs failure id sources songIds)

/-- Where a call stands. -/
inductive SearchCall where
  | snapshot (request : CatalogSearchRequest)
  | playlist (request : CatalogSearchRequest) (likedSongs : LikedSongs) (likedRevision : ℕ)
  | lookup (request : CatalogSearchRequest) (capture : SearchCapture)
  | store (window : SearchWindow)
  | searched (window : SearchWindow) (page : Except CatalogError CatalogPage)
  | likedCheck (songId : String) (liked : Bool) (generation : Option ℕ)
  | likedSet (songId : String) (liked : Bool) (generation : Option ℕ)
  | likedInvalidate (likedSongs : LikedSongs) (generation : Option ℕ)
  | likedCount (likedSongs : LikedSongs) (generation : Option ℕ)
  | reloadSettings
  | reloadInvalidate
  | mutatePlaylists (op : PlaylistOp)
  | invalidatePlaylists
  | applyComposition (invalidate : Bool)
  | invalidateAll
  | returned (reply : Except String (Option ℕ))

/-- What the settings file, the stores and the composer answer a step. -/
structure SearchChoice where
  reloaded : Except SettingsError LikedSongs
  saveFailure : SaveFailure
  composition : CatalogComposition

/-- Set a liked song and save the settings. -/
def setSongLiked (failure : SaveFailure) (songId : String) (liked : Bool) (songs : LikedSongs) :
    Except SettingsError LikedSongs := do
  let (changed, next) ← (songs.set songId liked).mapError fun error =>
    SettingsError.invalidField "song_id" error.text
  match changed, failure with
  | true, some message => .error (.storage message)
  | _, _ => pure next

/-- The section of `set_song_liked` under the settings' lock, up to the cache. A failure of the
second part leaves what the reload has made of the liked songs. -/
def likedSetStep (choice : SearchChoice) (songId : String) (liked : Bool) (generation : Option ℕ)
    (runtime : SearchRuntime) : SearchRuntime × SearchCall :=
  match choice.reloaded with
  | .error error =>
    (runtime, .returned (.error ("native settings reload failed: " ++ error.text)))
  | .ok reloaded =>
    match setSongLiked choice.saveFailure songId liked reloaded with
    | .error error => ({ runtime with likedSongs := reloaded }, .returned (.error error.text))
    | .ok next =>
      if runtime.likedSongs ≠ next then
        ({ runtime with likedSongs := next, settingsLocked := true },
          .likedInvalidate next generation)
      else ({ runtime with likedSongs := next }, .likedCount next generation)

/-- The section of `reload_settings_snapshot` under the settings' lock, up to the cache. -/
def reloadStep (choice : SearchChoice) (runtime : SearchRuntime) : SearchRuntime × SearchCall :=
  match choice.reloaded with
  | .error error =>
    (runtime, .returned (.error ("native settings reload failed: " ++ error.text)))
  | .ok reloaded =>
    if runtime.likedSongs ≠ reloaded then
      ({ runtime with likedSongs := reloaded, settingsLocked := true }, .reloadInvalidate)
    else ({ runtime with likedSongs := reloaded }, .returned (.ok none))

/-- The section of a change of the playlists under the manifest's lock, up to the cache. -/
def mutateStep (choice : SearchChoice) (op : PlaylistOp) (runtime : SearchRuntime) :
    SearchRuntime × SearchCall :=
  match (op.run choice.saveFailure).run runtime.libraryManifest with
  | .ok true libraryManifest =>
    ({ runtime with libraryManifest, manifestLocked := true }, .invalidatePlaylists)
  | .ok false libraryManifest => ({ runtime with libraryManifest }, .returned (.ok none))
  | .error error libraryManifest =>
    ({ runtime with libraryManifest },
      .returned (.error ("library operation failed: " ++ error.text)))

/-- The songs of a request's playlist and the revision of the playlists. -/
def playlistStep (request : CatalogSearchRequest) (likedSongs : LikedSongs) (likedRevision : ℕ)
    (runtime : SearchRuntime) : Option SearchCall :=
  match request.source with
  | .smart _ => some (.lookup request ⟨likedSongs, likedRevision, none⟩)
  | .playlist id =>
    if !isValidId id then
      some (.returned (.error "invalid_params: playlist source ID is invalid"))
    else if runtime.manifestLocked then none
    else
      match playlistSongs id runtime.libraryManifest.current with
      | none => some (.returned (.error "library playlist was not found"))
      | some songs =>
        some (.lookup request ⟨likedSongs, likedRevision,
          some (songs.toFinset, runtime.cache.playlistMembershipRevision)⟩)

section Steps

variable (tables : CatalogTables)

/-- Check a search and look its order up. -/
def lookupStep (request : CatalogSearchRequest) (capture : SearchCapture) (runtime : SearchRuntime) :
    SearchRuntime × SearchCall :=
  match SearchWindow.enter tables request capture runtime.catalog with
  | .error message => (runtime, .returned (.error message))
  | .ok (_, false) => (runtime, .returned (.ok none))
  | .ok (window, true) =>
    let cache := (runtime.cache.get window.key).2
    match (runtime.cache.get window.key).1 with
    | some order => ({ runtime with cache }, .searched window (window.pageOf tables order))
    | none => ({ runtime with cache, catalogLocked := true }, .store window)

/-- Compute the order and its page, store the order if its membership is current, and let the
catalog go. -/
def storeStep (window : SearchWindow) (runtime : SearchRuntime) : SearchRuntime × SearchCall :=
  let unlocked := { runtime with catalogLocked := false }
  match window.order tables with
  | .error error => (unlocked, .searched window (.error error))
  | .ok order =>
    match window.pageOf tables order with
    | .error error => (unlocked, .searched window (.error error))
    | .ok page =>
      if runtime.catalog.index.generation = window.key.generation ∧
          window.membershipIsCurrent runtime.cache then
        ({ unlocked with cache := runtime.cache.insert window.key order },
          .searched window (.ok page))
      else (unlocked, .searched window (.ok page))

/-- Replace the catalog by a composition. -/
def applyStep (choice : SearchChoice) (invalidate : Bool) (runtime : SearchRuntime) :
    SearchRuntime × SearchCall :=
  match runtime.catalog.index.replaceEntries tables choice.composition.entries with
  | .error error => (runtime, .returned (.error (catalogError error)))
  | .ok index =>
    ({ runtime with
        catalog := ⟨index, choice.composition.libraryMembership,
          choice.composition.builtinMembership, choice.composition.builtinStatus⟩ },
      if invalidate then .invalidateAll else .returned (.ok none))

/-- One step of a call, absent while a lock that it takes is held. -/
def searchStep (choice : SearchChoice) (runtime : SearchRuntime) :
    SearchCall → Option (SearchRuntime × SearchCall)
  | .snapshot request =>
    if runtime.settingsLocked then none
    else some (runtime, .playlist request runtime.likedSongs runtime.cache.likedMembershipRevision)
  | .playlist request likedSongs likedRevision =>
    (playlistStep request likedSongs likedRevision runtime).map fun next => (runtime, next)
  | .lookup request capture =>
    if runtime.catalogLocked then none else some (lookupStep tables request capture runtime)
  | .store window => some (storeStep tables window runtime)
  | .searched _ _ => none
  | .likedCheck songId liked generation =>
    if runtime.catalogLocked then none
    else
      match runtime.catalog.index.canonicalPathForSongId songId generation with
      | .error error => some (runtime, .returned (.error (catalogError error)))
      | .ok _ => some (runtime, .likedSet songId liked generation)
  | .likedSet songId liked generation =>
    if runtime.settingsLocked then none
    else some (likedSetStep choice songId liked generation runtime)
  | .likedInvalidate likedSongs generation =>
    some ({ runtime with cache := runtime.cache.invalidateLiked, settingsLocked := false },
      .likedCount likedSongs generation)
  | .likedCount likedSongs generation =>
    if runtime.catalogLocked then none
    else
      some (runtime, .returned (((runtime.catalog.index.countAllowedIds likedSongs.ids
        generation).mapError catalogError).map some))
  | .reloadSettings => if runtime.settingsLocked then none else some (reloadStep choice runtime)
  | .reloadInvalidate =>
    some ({ runtime with cache := runtime.cache.invalidateLiked, settingsLocked := false },
      .returned (.ok none))
  | .mutatePlaylists op =>
    if runtime.manifestLocked then none else some (mutateStep choice op runtime)
  | .invalidatePlaylists =>
    some ({ runtime with cache := runtime.cache.invalidatePlaylists, manifestLocked := false },
      .returned (.ok none))
  | .applyComposition invalidate =>
    if runtime.catalogLocked then none else some (applyStep tables choice invalidate runtime)
  | .invalidateAll =>
    some ({ runtime with cache := runtime.cache.invalidateAll }, .returned (.ok none))
  | .returned _ => none

/-- What begins a call. -/
inductive SearchOp where
  | search (request : CatalogSearchRequest)
  | setSongLiked (songId : String) (liked : Bool) (generation : Option ℕ)
  | reloadSettingsSnapshot
  | mutatePlaylists (op : PlaylistOp)
  | applyCatalogComposition (invalidate : Bool)

/-- The calls that read or change what a search depends on. -/
def searchProgram : CallProgram SearchOp SearchCall SearchChoice SearchRuntime where
  start
    | .search request => .snapshot request
    | .setSongLiked songId liked generation => .likedCheck songId liked generation
    | .reloadSettingsSnapshot => .reloadSettings
    | .mutatePlaylists op => .mutatePlaylists op
    | .applyCatalogComposition invalidate => .applyComposition invalidate
  step choice call runtime := searchStep tables choice runtime call

/-- The runtime before its first search. -/
def SearchRuntime.new (likedSongs : LikedSongs) (service : LibraryManifestService)
    (catalog : CatalogState) : SearchRuntime where
  likedSongs := likedSongs
  settingsLocked := false
  libraryManifest := service
  manifestLocked := false
  catalog := catalog
  catalogLocked := false
  cache := ⟨.empty, 0, 0⟩

/-- The searches of one runtime. -/
def searchMachine (likedSongs : LikedSongs) (service : LibraryManifestService)
    (catalog : CatalogState) :
    Machine (CallPool SearchRuntime SearchCall) (PoolAction SearchOp SearchChoice) :=
  (searchProgram tables).machine (.new likedSongs service catalog)

end Steps

end SkyAutoPlayer.Desktop
