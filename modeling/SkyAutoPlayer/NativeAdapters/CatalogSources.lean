import SkyAutoPlayer.AppCore.CatalogManifest
import SkyAutoPlayer.NativeAdapters.CatalogComposition

/-!
# Composing the catalog from its sources

The built-in songs are declared by a manifest, the songs of the user are the files of one directory,
and an import is a file or everything below a directory. A composition lists all of them in the order
of their paths, and the ids of each source beside them.

The file system is a finite tree behind paths that may lead to one place, with what a directory
fails to list and what a path resolves to.
-/

namespace SkyAutoPlayer.NativeAdapters

open Foundation AppCore

/-- What a directory lists, in the order of its listing. A link is neither a file nor a folder. -/
inductive Listing where
  | nil
  | file (name : String) (rest : Listing)
  | folder (name : String) (contents rest : Listing)
  | other (name : String) (rest : Listing)
  deriving Repr

/-- How many folders a listing has below it. -/
def Listing.folderCount : Listing → ℕ
  | .nil => 0
  | .file _ rest | .other _ rest => rest.folderCount
  | .folder _ contents rest => 1 + contents.folderCount + rest.folderCount

/-- What a path leads to, when links are followed. -/
inductive PathTarget where
  | file
  | folder (contents : Listing)
  | other
  deriving Repr

/-- A file system: what a path leads to, why a directory cannot be read, what a path resolves to, and
the size and the time of a file. -/
structure FileSystem where
  target : String → Option PathTarget
  unreadable : String → Option String
  canonicalize : String → Except String String
  metadata : String → Option (ℕ × Option ℕ)

namespace FileSystem

/-- A path leads to a file. -/
def isFile (fs : FileSystem) (path : String) : Bool :=
  match fs.target path with
  | some .file => true
  | _ => false

/-- A path leads to a folder. -/
def isFolder (fs : FileSystem) (path : String) : Bool :=
  match fs.target path with
  | some (.folder _) => true
  | _ => false

end FileSystem

/-- A path below another. -/
def joinPath (directory name : String) : String := directory ++ "\\" ++ name

/-- A path is at or below another, component by component. -/
def pathStartsWith (path root : String) : Bool :=
  (pathComponents root).isPrefixOf (pathComponents path)

/-- The last component of a path that is not its prefix, its root or a parent. -/
def normalFileName (path : String) : Option String := do
  let rest := ((splitPathPrefix path.toList).map Prod.snd).getD path.toList
  let name ← fileName (String.ofList rest)
  if name = ['.', '.'] then none else some (String.ofList name)

/-- The last component of a path without its extension. -/
def fileStem (path : String) : Option String := do
  let name ← fileName path
  let before := (name.reverse.dropWhile (· ≠ '.')).drop 1
  some (String.ofList (if name = ['.', '.'] ∨ before.isEmpty then name else before.reverse))

/-- The name that an import is shown under. -/
def importDisplayName (path : String) (kind : ImportedSourceKind) : String :=
  (normalFileName path).getD (match kind with
    | .file => "Imported file"
    | .folder => "Imported folder")

section Scan

variable (fs : FileSystem)

/-- The song of a path, if it leads to one. -/
def entriesFromFile (path : String) : Except CatalogError (List CatalogSourceEntry) :=
  if !fs.isFile path || !isSupportedPath path then .ok []
  else
    match fs.canonicalize path with
    | .error message => .error (.sourceUnavailable message)
    | .ok canonical => .ok [⟨canonical, (fileStem path).getD "", .pathDerived⟩]

/-- Go through what a directory lists: songs are found, and the folders below come next. -/
def scanListing (recursive : Bool) (directory : String) : Listing →
    List (String × Listing) × List CatalogSourceEntry →
    Except CatalogError (List (String × Listing) × List CatalogSourceEntry)
  | .nil, scanned => .ok scanned
  | .file name rest, (directories, entries) => do
    let found ← entriesFromFile fs (joinPath directory name)
    scanListing recursive directory rest (directories, entries ++ found)
  | .folder name contents rest, (directories, entries) =>
    let next := if recursive then (joinPath directory name, contents) :: directories else directories
    scanListing recursive directory rest (next, entries)
  | .other _ rest, scanned => scanListing recursive directory rest scanned

/-- Go through the last directory found, and then the others. The fuel bounds their number. -/
def scanDirectories (recursive : Bool) : ℕ → List (String × Listing) → List CatalogSourceEntry →
    Except CatalogError (List CatalogSourceEntry)
  | _, [], entries => .ok entries
  | 0, _ :: _, entries => .ok entries
  | fuel + 1, (directory, contents) :: directories, entries =>
    match fs.unreadable directory with
    | some message => .error (.sourceUnavailable message)
    | none =>
      match scanListing fs recursive directory contents (directories, entries) with
      | .error error => .error error
      | .ok (next, found) =>
        if recursive then scanDirectories recursive fuel next found else .ok found

/-- The order of the entries in a composition. -/
def pathOrder (left right : CatalogSourceEntry) : Prop := left.canonicalPath ≤ right.canonicalPath

instance : DecidableRel pathOrder := fun left right =>
  inferInstanceAs (Decidable (left.canonicalPath ≤ right.canonicalPath))

/-- The songs of a directory, and of the folders below it. -/
def entriesFromDirectory (root : String) (recursive : Bool) :
    Except CatalogError (List CatalogSourceEntry) :=
  match fs.target root with
  | none => .ok []
  | some .file | some .other =>
    .error (.sourceUnavailable "songs directory is not a directory")
  | some (.folder contents) => do
    let entries ← scanDirectories fs recursive (contents.folderCount + 1) [(root, contents)] []
    pure (entries.insertionSort pathOrder)

end Scan

/-- A song id that is well formed. -/
def stableSongId? (id : String) : Option StableSongId :=
  if h : isValidId id = true then some ⟨id, h⟩ else none

/-- Where the built-in songs are, and their manifest if it can be read. -/
structure BuiltinCatalogSource where
  root : String
  manifest : Option BuiltinCatalogManifest

namespace BuiltinCatalogSource

/-- What the path of a built-in song resolves to, if that is a file below the root. -/
def canonicalSong (fs : FileSystem) (root canonicalRoot path : String) : Option String :=
  match fs.canonicalize (joinPath root path) with
  | .error _ => none
  | .ok canonical =>
    if pathStartsWith canonical canonicalRoot && fs.isFile canonical then some canonical else none

/-- The entries of some built-in songs. -/
def loadSongs (fs : FileSystem) (root canonicalRoot : String) : List BuiltinSongManifestEntry →
    Except BuiltinCatalogFailureCode (List CatalogSourceEntry)
  | [] => .ok []
  | item :: rest => do
    let canonical ← okOr .missingResource (canonicalSong fs root canonicalRoot item.path)
    let stableId ← okOr .invalidResource (stableSongId? item.id)
    let entries ← loadSongs fs root canonicalRoot rest
    pure (⟨canonical, item.title, .stable stableId⟩ :: entries)

/-- The entries and the ids of the built-in songs. -/
def loadManifest (fs : FileSystem) (source : BuiltinCatalogSource) :
    Except BuiltinCatalogFailureCode (List CatalogSourceEntry × List String) := do
  failIf (fs.isFolder source.root = false) .resourceUnavailable
  let manifest ← okOr .malformedManifest source.manifest
  manifest.validate.mapError fun _ => BuiltinCatalogFailureCode.malformedManifest
  let canonicalRoot ← (fs.canonicalize source.root).mapError fun _ =>
    BuiltinCatalogFailureCode.resourceUnavailable
  let entries ← loadSongs fs source.root canonicalRoot manifest.songs
  pure (entries, manifest.songs.map (·.id))

/-- The built-in songs, which are all available or none. -/
def load (fs : FileSystem) (source : BuiltinCatalogSource) :
    List CatalogSourceEntry × Finset String × BuiltinCatalogStatus :=
  match source.loadManifest fs with
  | .ok (entries, ids) => (entries, ids.toFinset, .available entries.length)
  | .error code => ([], ∅, .unavailable code)

end BuiltinCatalogSource

/-- Where the songs are, besides the imports. -/
structure CatalogComposer where
  builtin : BuiltinCatalogSource
  user : String

/-- The ids that entries have by their paths. -/
def pathIds (tables : CatalogTables) (entries : List CatalogSourceEntry) : Finset String :=
  (entries.map fun entry => songIdForCanonicalPath tables entry.canonicalPath).toFinset

/-- The songs of an import, if it can be read. -/
def importEntries (fs : FileSystem) (source : ImportedSourceRef) :
    Option (List CatalogSourceEntry) :=
  if (fs.target source.canonicalPath).isNone then none
  else
    match source.kind with
    | .file => (entriesFromFile fs source.canonicalPath).toOption
    | .folder => (entriesFromDirectory fs source.canonicalPath true).toOption

/-- Set the songs of an import. -/
def setMembership (sourceId : String) (songIds : Finset String)
    (memberships : List (String × Finset String)) : List (String × Finset String) :=
  (sourceId, songIds) :: memberships.filter fun membership => membership.1 ≠ sourceId

namespace CatalogComposition

/-- Add an import to a composition: its songs, or that it is missing. -/
def addImport (tables : CatalogTables) (fs : FileSystem) (composition : CatalogComposition)
    (source : ImportedSourceRef) : CatalogComposition :=
  let displayName := importDisplayName source.canonicalPath source.kind
  match importEntries fs source with
  | none =>
    { composition with
      importedStatus := composition.importedStatus ++
        [⟨source.sourceId, source.kind, displayName, 0, false⟩]
      importedMembership := setMembership source.sourceId ∅ composition.importedMembership }
  | some imported =>
    let membership := pathIds tables imported
    { composition with
      entries := composition.entries ++ imported
      importedStatus := composition.importedStatus ++
        [⟨source.sourceId, source.kind, displayName, membership.card, true⟩]
      importedMembership := setMembership source.sourceId membership composition.importedMembership }

/-- The composition of the built-in songs and the songs of the user. -/
def ofLibrary (tables : CatalogTables) (fs : FileSystem) (builtin : BuiltinCatalogSource)
    (userEntries : List CatalogSourceEntry) : CatalogComposition :=
  let (builtinEntries, builtinMembership, builtinStatus) := builtin.load fs
  let userMembership := pathIds tables userEntries
  { entries := builtinEntries ++ userEntries
    libraryMembership := builtinMembership ∪ userMembership
    builtinMembership, userMembership
    importedMembership := []
    importedStatus := []
    builtinStatus }

/-- The composition with its entries in order. -/
def sorted (composition : CatalogComposition) : CatalogComposition :=
  { composition with entries := composition.entries.insertionSort pathOrder }

end CatalogComposition

/-- Compose the catalog from all sources. -/
def CatalogComposer.compose (tables : CatalogTables) (fs : FileSystem) (composer : CatalogComposer)
    (imports : List ImportedSourceRef) : Except CatalogError CatalogComposition := do
  let userEntries ← entriesFromDirectory fs composer.user false
  pure ((imports.foldl (CatalogComposition.addImport tables fs)
    (.ofLibrary tables fs composer.builtin userEntries)).sorted)

end SkyAutoPlayer.NativeAdapters
