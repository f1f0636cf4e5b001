import SkyAutoPlayer.AppCore.CatalogIndex

/-!
# The manifest of the built-in songs

The manifest declares an id, a path, a title and a digest for every built-in song. It is well formed
when its ids and its paths are each declared once, and no id is both active and retired.
-/

namespace SkyAutoPlayer.AppCore

open Foundation

/-- The version of the manifest of the built-in songs. -/
def builtinManifestSchemaVersion : ℕ := 1

/-- The length of a digest in hexadecimal. -/
def sha256HexLength : ℕ := 64

/-- A built-in song. -/
structure BuiltinSongManifestEntry where
  id : String
  path : String
  title : String
  sha256 : String
  deriving DecidableEq, Repr

/-- A song that is no longer built in. -/
structure RetiredBuiltinSong where
  id : String
  lastTitle : String
  deriving DecidableEq, Repr

/-- The manifest of the built-in songs. -/
structure BuiltinCatalogManifest where
  schemaVersion : ℕ
  songs : List BuiltinSongManifestEntry
  retiredSongs : List RetiredBuiltinSong
  deriving DecidableEq, Repr

/-- The errors of the manifest. -/
inductive BuiltinManifestError where
  | unsupportedSchema
  | invalidId
  | duplicateId
  | duplicatePath
  | activeRetiredOverlap
  | invalidPath
  | unsupportedExtension
  | emptyTitle
  | invalidHash
  deriving DecidableEq, Repr

/-- A character separates the components of a path. -/
def isSeparator (char : Char) : Bool := char = '\\' || char = '/'

/-- What follows the first component of a path. -/
def afterComponent (path : List Char) : List Char := path.dropWhile fun char => !isSeparator char

/-- What follows the prefix of a path, if it has one, and whether the prefix implies a root. -/
def splitPathPrefix : List Char → Option (Bool × List Char)
  | '\\' :: '\\' :: '?' :: '\\' :: 'U' :: 'N' :: 'C' :: '\\' :: rest =>
    some (true, afterComponent ((afterComponent rest).drop 1))
  | '\\' :: '\\' :: '?' :: '\\' :: rest => some (true, afterComponent rest)
  | first :: second :: rest =>
    if isSeparator first && isSeparator second then
      let share := (afterComponent rest).drop 1
      if rest.head? = some '.' ∧ rest[1]?.any isSeparator then some (true, afterComponent share)
      else if rest.head?.all isSeparator ∨ share.head?.all isSeparator then none
      else some (true, afterComponent share)
    else if first.isAlpha ∧ second = ':' then some (false, rest)
    else none
  | _ => none

/-- A path is absolute: it has a prefix and a root. -/
def isAbsolutePath (path : String) : Bool :=
  (splitPathPrefix path.toList).any fun (implied, rest) => implied || rest.head?.any isSeparator

/-- The components of a path. -/
def pathComponents (path : String) : List (List Char) :=
  (path.toList.splitOnP isSeparator).filter fun component => !component.isEmpty

/-- Check the path of a built-in song: relative, without a parent, and of a song. -/
def validateBuiltinPath (path : String) : Except BuiltinManifestError Unit := do
  failIf (path.isEmpty ∨ containsNull path ∨ path.toList.contains '\\') .invalidPath
  failIf (isAbsolutePath path ∨ ['.', '.'] ∈ pathComponents path) .invalidPath
  failIf (isSupportedPath path = false) .unsupportedExtension

/-- A digest in lower case. -/
def isSha256Hex (digest : String) : Bool :=
  digest.utf8ByteSize = sha256HexLength && digest.toUTF8.data.all isLowerHexDigit

/-- Check the songs after those with the ids and the paths seen. -/
def validateSongs : List String → List (List Char) → List BuiltinSongManifestEntry →
    Except BuiltinManifestError Unit
  | _, _, [] => .ok ()
  | activeIds, activePaths, song :: rest => do
    failIf (isValidId song.id = false) .invalidId
    failIf (song.id ∈ activeIds) .duplicateId
    failIf (asciiFolded song.path ∈ activePaths) .duplicatePath
    validateBuiltinPath song.path
    failIf ((trimText song.title).isEmpty) .emptyTitle
    failIf (isSha256Hex song.sha256 = false) .invalidHash
    validateSongs (song.id :: activeIds) (asciiFolded song.path :: activePaths) rest

/-- Check the retired songs after those with the ids seen. -/
def validateRetired (activeIds : List String) : List String → List RetiredBuiltinSong →
    Except BuiltinManifestError Unit
  | _, [] => .ok ()
  | retiredIds, song :: rest => do
    failIf (isValidId song.id = false ∨ song.id ∈ retiredIds) .duplicateId
    failIf (song.id ∈ activeIds) .activeRetiredOverlap
    failIf ((trimText song.lastTitle).isEmpty) .emptyTitle
    validateRetired activeIds (song.id :: retiredIds) rest

/-- Check the manifest. -/
def BuiltinCatalogManifest.validate (manifest : BuiltinCatalogManifest) :
    Except BuiltinManifestError Unit := do
  failIf (manifest.schemaVersion ≠ builtinManifestSchemaVersion) .unsupportedSchema
  validateSongs [] [] manifest.songs
  validateRetired (manifest.songs.map (·.id)) [] manifest.retiredSongs

/-- The ids of checked songs are well formed. -/
theorem isValidId_of_validateSongs {activeIds : List String} {activePaths : List (List Char)}
    {songs : List BuiltinSongManifestEntry} {song : BuiltinSongManifestEntry}
    (h : validateSongs activeIds activePaths songs = .ok ()) (hmem : song ∈ songs) :
    isValidId song.id = true := by
  induction songs generalizing activeIds activePaths with
  | nil => cases hmem
  | cons first rest ih =>
    simp only [validateSongs, Except.bind_eq_ok, failIf_eq_ok] at h
    obtain ⟨⟨⟩, hid, ⟨⟩, -, ⟨⟩, -, ⟨⟩, -, ⟨⟩, -, ⟨⟩, -, hrest⟩ := h
    rcases List.mem_cons.mp hmem with rfl | htail
    · exact Bool.eq_true_of_not_eq_false hid
    · exact ih hrest htail

end SkyAutoPlayer.AppCore
