import Mathlib.Data.Finset.Sort
import Mathlib.Data.String.Basic
import SkyAutoPlayer.NativeAdapters.CatalogCache
import SkyAutoPlayer.NativeAdapters.CatalogSources

/-!
# Reconciling the catalog with its cache

A composition is written to a cache and read back from it, and an import that has become unavailable
keeps what the cache knows of it.
-/

namespace SkyAutoPlayer.Desktop

open Foundation AppCore NativeAdapters

/-- The source that a cache names for a song. -/
def cacheSourceForSong (composition : CatalogComposition) (songId : String) :
    String × CatalogCacheSourceKind :=
  if songId ∈ composition.builtinMembership then ("builtin", .builtin)
  else if songId ∈ composition.userMembership then ("user", .user)
  else
    let owners := (composition.importedMembership.filter fun membership =>
      songId ∈ membership.2).map Prod.fst
    match owners.min? with
    | some sourceId => (sourceId, .imported)
    | none => ("user", .user)

/-- The songs of an import in a composition. -/
def importMembership (composition : CatalogComposition) (sourceId : String) : Finset String :=
  (composition.importedMembership.lookup sourceId).getD ∅

/-- The order of texts is transitive. -/
local instance textLeTrans : IsTrans String (· ≤ ·) := inferInstance

/-- The order of texts is antisymmetric. -/
local instance textLeAntisymm : Std.Antisymm fun first second : String => first ≤ second :=
  inferInstance

/-- The sources of the cache of a composition. -/
def cacheSources (composition : CatalogComposition) : List CatalogCacheSource :=
  let builtinAvailable := match composition.builtinStatus with
    | .available _ => true
    | .unavailable _ => false
  [⟨"builtin", .builtin, none, "Built-in library", builtinAvailable,
      composition.builtinMembership.sort (· ≤ ·)⟩,
    ⟨"user", .user, none, "User library", true, composition.userMembership.sort (· ≤ ·)⟩] ++
    composition.importedStatus.map fun status =>
      ⟨status.sourceId, .imported, some status.kind, status.displayName, status.available,
        (importMembership composition status.sourceId).sort (· ≤ ·)⟩

/-- The entry of the previous cache with an id and a path. -/
def previouslyCached (previous : Option CatalogCache) (songId path : String) :
    Option CatalogCacheEntry := do
  let cache ← previous
  cache.entries.find? fun entry => entry.songId = songId ∧ entry.canonicalPath = path

/-- The size and the time of a song, from the file system or else from the previous cache. -/
def entryMetadata (fs : FileSystem) (previous : Option CatalogCacheEntry) (path : String) :
    Except String (ℕ × ℕ) :=
  match fs.metadata path, previous with
  | some (size, some modified), _ => .ok (size, modified)
  | some (size, none), some cached => .ok (size, cached.modifiedUnixMs)
  | some (_, none), none => .error "catalog cache metadata timestamp unavailable"
  | none, some cached => .ok (cached.fileSize, cached.modifiedUnixMs)
  | none, none => .error "catalog cache metadata unavailable"

/-- The entry of a cache for an entry of a composition. -/
def cacheEntry (tables : CatalogTables) (fs : FileSystem) (composition : CatalogComposition)
    (previous : Option CatalogCache) (entry : CatalogSourceEntry) :
    Except String CatalogCacheEntry := do
  let songId := entry.songId tables
  let owner := cacheSourceForSong composition songId
  let metadata ← entryMetadata fs (previouslyCached previous songId entry.canonicalPath)
    entry.canonicalPath
  pure ⟨owner.1, owner.2, entry.canonicalPath, songId, entry.title, metadata.1, metadata.2⟩

/-- The cache of a composition. -/
def catalogCacheFromComposition (tables : CatalogTables) (fs : FileSystem)
    (composition : CatalogComposition) (sourceFingerprint : String)
    (previous : Option CatalogCache) : Except String CatalogCache := do
  let entries ← composition.entries.mapM (cacheEntry tables fs composition previous)
  let cacheGeneration := (previous.map fun cache =>
    max (saturatingAdd 64 cache.cacheGeneration 1) 1).getD 1
  pure ⟨catalogCacheSchemaVersion, cacheGeneration, sourceFingerprint, cacheSources composition,
    entries⟩

/-- The entry of a composition for an entry of a cache. A built-in entry of a checked cache has a
well-formed id. -/
def cachedEntryToSource (entry : CatalogCacheEntry) : CatalogSourceEntry :=
  ⟨entry.canonicalPath, entry.title,
    match entry.kind, stableSongId? entry.songId with
    | .builtin, some stableId => .stable stableId
    | _, _ => .pathDerived⟩

/-- Add a source of a cache to a composition. -/
def addCachedSource (composition : CatalogComposition) (source : CatalogCacheSource) :
    CatalogComposition :=
  let songIds := source.songIds.toFinset
  match source.kind with
  | .builtin =>
    { composition with
      builtinMembership := composition.builtinMembership ∪ songIds
      libraryMembership := composition.libraryMembership ∪ songIds
      builtinStatus :=
        if source.available then .available source.songIds.length
        else .unavailable .resourceUnavailable }
  | .user =>
    { composition with
      userMembership := composition.userMembership ∪ songIds
      libraryMembership := composition.libraryMembership ∪ songIds }
  | .imported =>
    { composition with
      importedMembership := setMembership source.sourceId songIds composition.importedMembership
      libraryMembership := composition.libraryMembership ∪ songIds
      importedStatus := composition.importedStatus ++
        [⟨source.sourceId, source.importKind.getD .folder, source.displayName,
          source.songIds.length, source.available⟩] }

/-- The composition without a source. -/
def emptyComposition : CatalogComposition :=
  ⟨[], ∅, ∅, ∅, [], [], .unavailable .resourceUnavailable⟩

/-- The composition of a cache. -/
def cachedComposition (tables : CatalogTables) (cache : CatalogCache) :
    Except String CatalogComposition := do
  cache.validate tables
  let composition := cache.sources.foldl addCachedSource emptyComposition
  pure { composition with entries := (cache.entries.map cachedEntryToSource).insertionSort pathOrder }

/-- Add a cached entry to a composition that has no entry with its path. -/
def addCachedEntry (cachedIds : List String) (entries : List CatalogSourceEntry)
    (entry : CatalogCacheEntry) : List CatalogSourceEntry :=
  if entry.kind = .imported ∧ entry.songId ∈ cachedIds ∧
      ∀ current ∈ entries, current.canonicalPath ≠ entry.canonicalPath then
    entries ++ [cachedEntryToSource entry]
  else entries

/-- The source of a cache for an import that is unavailable. -/
def unavailableSource? (cache : CatalogCache) (status : ImportedSourceCatalogStatus) :
    Option CatalogCacheSource :=
  if status.available then none
  else cache.sources.find? fun source =>
    source.kind = .imported ∧ source.sourceId = status.sourceId

/-- Add what a cache knows of an import that is unavailable. -/
def preserveImport (cache : CatalogCache) (composition : CatalogComposition)
    (status : ImportedSourceCatalogStatus) : CatalogComposition :=
  match unavailableSource? cache status with
  | none => { composition with importedStatus := composition.importedStatus ++ [status] }
  | some source =>
    { composition with
      entries := cache.entries.foldl (addCachedEntry source.songIds) composition.entries
      importedMembership :=
        setMembership status.sourceId source.songIds.toFinset composition.importedMembership
      libraryMembership := composition.libraryMembership ∪ source.songIds.toFinset
      importedStatus := composition.importedStatus ++
        [{ status with songCount := source.songIds.toFinset.card }] }

/-- Keep what a cache knows of the imports that are unavailable. -/
def preserveUnavailableCachedImports (cache : Option CatalogCache)
    (composition : CatalogComposition) : CatalogComposition :=
  match cache with
  | none => composition
  | some cache =>
    (composition.importedStatus.foldl (preserveImport cache)
      { composition with importedStatus := [] }).sorted

end SkyAutoPlayer.Desktop
