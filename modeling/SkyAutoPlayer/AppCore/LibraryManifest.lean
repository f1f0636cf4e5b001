import SkyAutoPlayer.Foundation.ErrorState
import SkyAutoPlayer.Foundation.KeepFirst
import SkyAutoPlayer.Foundation.StateMachine

/-!
# The library manifest

The service keeps the user's collections and imported sources. Every operation plans a candidate
from the current manifest and commits it: the candidate is validated, saved and only then current.
A save may fail at any time, and then it leaves the stored document as it was.
-/

namespace SkyAutoPlayer.AppCore

open Foundation

/-- The version of the manifest. -/
def libraryManifestVersion : ℕ := 1

/-- The length of an id, in bytes. -/
def collectionIdLength : ℕ := 32

/-- The most collections. -/
def maxCollections : ℕ := 256

/-- The longest name of a collection, in characters. -/
def maxCollectionNameLength : ℕ := 128

/-- The most songs in a collection. -/
def maxCollectionSongs : ℕ := 100000

/-- The most imported sources. -/
def maxImportedSources : ℕ := 1024

/-- The longest imported path, in bytes. -/
def maxImportedPathLength : ℕ := 4096

/-- The errors of the library. -/
inductive LibraryError where
  | invalidSongId
  | invalidCollectionId
  | emptyCollectionName
  | collectionNameTooLong
  | collectionAlreadyExists
  | collectionNotFound
  | tooManyCollections
  | tooManyCollectionSongs
  | invalidImportSourceId
  | invalidImportPath
  | tooManyImportedSources
  | storage (message : String)
  deriving DecidableEq, Repr

/-- The texts of the errors. -/
def LibraryError.text : LibraryError → String
  | .invalidSongId => "liked song ID is malformed"
  | .invalidCollectionId => "collection ID is malformed"
  | .emptyCollectionName => "collection name is empty"
  | .collectionNameTooLong => s!"collection name exceeds {maxCollectionNameLength} characters"
  | .collectionAlreadyExists => "collection already exists"
  | .collectionNotFound => "collection was not found"
  | .tooManyCollections => s!"collections exceed {maxCollections} entries"
  | .tooManyCollectionSongs => s!"collection exceeds {maxCollectionSongs} song IDs"
  | .invalidImportSourceId => "import source ID is malformed"
  | .invalidImportPath => "import source path is invalid"
  | .tooManyImportedSources => s!"import sources exceed {maxImportedSources} entries"
  | .storage message => "library manifest storage error: " ++ message

/-- What was imported. -/
inductive ImportedSourceKind where
  | file
  | folder
  deriving DecidableEq, Repr

/-- An imported source. -/
structure ImportedSourceRef where
  sourceId : String
  canonicalPath : String
  kind : ImportedSourceKind
  deriving DecidableEq, Repr

/-- A collection of songs. -/
structure Collection where
  id : String
  name : String
  songIds : List String
  deriving DecidableEq, Repr

/-- The persisted library. -/
structure LibraryManifestV1 where
  version : ℕ
  imports : List ImportedSourceRef
  collections : List Collection
  deriving DecidableEq, Repr

/-- A hexadecimal digit that is not an uppercase letter. -/
def isLowerHexDigit (byte : UInt8) : Bool :=
  ((48 ≤ byte && byte ≤ 57) || (65 ≤ byte && byte ≤ 70) || (97 ≤ byte && byte ≤ 102)) &&
    !(65 ≤ byte && byte ≤ 90)

/-- Whether a text is an id. -/
def isValidId (id : String) : Bool :=
  id.utf8ByteSize = collectionIdLength && id.toUTF8.data.all isLowerHexDigit

/-- A white space character. -/
def isWhiteSpace (char : Char) : Bool :=
  let code := char.toNat
  (9 ≤ code && code ≤ 13) || code = 0x20 || code = 0x85 || code = 0xa0 || code = 0x1680 ||
    (0x2000 ≤ code && code ≤ 0x200a) || code = 0x2028 || code = 0x2029 || code = 0x202f ||
    code = 0x205f || code = 0x3000

/-- A text without the white space around it. -/
def trimText (text : String) : String :=
  String.ofList (((text.toList.dropWhile isWhiteSpace).reverse.dropWhile isWhiteSpace).reverse)

/-- The ASCII letters of a text in lower case, for comparing paths. -/
def asciiFolded (text : String) : List Char := text.toList.map Char.toLower

/-- A text contains the null character. -/
def containsNull (text : String) : Bool := text.toList.contains (Char.ofNat 0)

/-- The trimmed name of a collection, if it is neither empty nor too long. -/
def normalizeCollectionName (name : String) : Except LibraryError String := do
  failIf ((trimText name).isEmpty) .emptyCollectionName
  failIf (maxCollectionNameLength < (trimText name).length ∨ containsNull (trimText name))
    .collectionNameTooLong
  pure (trimText name)

/-- A collection's id is well formed. -/
def validateCollectionId (id : String) : Except LibraryError Unit :=
  failIf (isValidId id = false) .invalidCollectionId

/-- All songs have well formed ids. -/
def validateSongIds (songIds : List String) : Except LibraryError Unit :=
  failIf (songIds.any fun id => !isValidId id) .invalidSongId

/-- An import's id is well formed. -/
def validateImportSourceId (id : String) : Except LibraryError Unit :=
  failIf (isValidId id = false) .invalidImportSourceId

/-- An import has a well formed id and a bounded path. -/
def validateImport (source : ImportedSourceRef) : Except LibraryError Unit := do
  validateImportSourceId source.sourceId
  failIf (source.canonicalPath.isEmpty ∨ maxImportedPathLength < source.canonicalPath.utf8ByteSize ∨
    containsNull source.canonicalPath) .invalidImportPath

/-- All imports are well formed. -/
def validateImports : List ImportedSourceRef → Except LibraryError Unit
  | [] => .ok ()
  | source :: rest => do
    validateImport source
    validateImports rest

/-- The collections after those with the ids seen are well formed and have other ids. -/
def validateCollections : List String → List Collection → Except LibraryError Unit
  | _, [] => .ok ()
  | seen, collection :: rest => do
    validateCollectionId collection.id
    failIf (collection.id ∈ seen) .collectionAlreadyExists
    let _ ← normalizeCollectionName collection.name
    validateSongIds collection.songIds
    failIf (maxCollectionSongs < collection.songIds.length) .tooManyCollectionSongs
    validateCollections (collection.id :: seen) rest

/-- The imports after those with the ids seen are well formed and have other ids. -/
def validateDistinctImports : List String → List ImportedSourceRef → Except LibraryError Unit
  | _, [] => .ok ()
  | seen, source :: rest => do
    validateImport source
    failIf (source.sourceId ∈ seen) .invalidImportSourceId
    validateDistinctImports (source.sourceId :: seen) rest

/-- A manifest of the current version, within the limits. -/
def validateManifest (manifest : LibraryManifestV1) : Except LibraryError Unit := do
  failIf (manifest.version ≠ libraryManifestVersion)
    (.storage ("unsupported library manifest version " ++ toString manifest.version))
  failIf (maxCollections < manifest.collections.length) .tooManyCollections
  failIf (maxImportedSources < manifest.imports.length) .tooManyImportedSources
  validateCollections [] manifest.collections
  validateDistinctImports [] manifest.imports

/-- The stored document and the manifest in memory. -/
structure LibraryManifestService where
  stored : LibraryManifestV1
  current : LibraryManifestV1
  deriving DecidableEq

/-- Whether a save fails, and how. -/
abbrev SaveFailure := Option String

/-- Load the service from a stored document. A document of version zero is upgraded and saved. -/
def loadService (failure : SaveFailure) (document : LibraryManifestV1) :
    Except LibraryError LibraryManifestService := do
  let current :=
    if document.version = 0 then { document with version := libraryManifestVersion } else document
  validateManifest current
  match document.version, failure with
  | 0, some message => .error (.storage message)
  | 0, none => pure ⟨current, current⟩
  | _, _ => pure ⟨document, current⟩

/-- An operation of the service, which may fail and keeps its state then. -/
abbrev LibraryM := EStateM LibraryError LibraryManifestService

/-- Validate a candidate, save it and make it current. -/
def commit (failure : SaveFailure) (next : LibraryManifestV1) : LibraryM Unit := do
  EStateM.ofExcept (validateManifest next)
  match failure with
  | some message => throw (.storage message)
  | none => set (⟨next, next⟩ : LibraryManifestService)

/-- Plan a candidate and a reply from the current manifest, and commit the candidate if any. -/
def transact {α : Type} (failure : SaveFailure)
    (plan : LibraryManifestV1 → Except LibraryError (Option LibraryManifestV1 × α)) : LibraryM α := do
  let service ← get
  let (candidate, reply) ← EStateM.ofExcept (plan service.current)
  match candidate with
  | some next => commit failure next
  | none => pure ()
  pure reply

/-- The first collection with an id and its place. -/
def findCollection (id : String) (manifest : LibraryManifestV1) :
    Except LibraryError (ℕ × Collection) :=
  okOr .collectionNotFound do
    let index ← manifest.collections.findIdx? fun collection => collection.id = id
    let collection ← manifest.collections[index]?
    pure (index, collection)

/-- The manifest with a collection in place of another. -/
def LibraryManifestV1.setCollection (manifest : LibraryManifestV1) (index : ℕ)
    (collection : Collection) : LibraryManifestV1 :=
  { manifest with collections := manifest.collections.set index collection }

/-- The manifest with the imports whose path it does not have yet. -/
def LibraryManifestV1.pushImports (manifest : LibraryManifestV1)
    (sources : List ImportedSourceRef) : LibraryManifestV1 :=
  { manifest with
    imports := pushMissing (fun source => asciiFolded source.canonicalPath) manifest.imports sources }

/-- The collection with the songs that it does not have yet. -/
def Collection.pushSongs (collection : Collection) (songIds : List String) : Collection :=
  { collection with songIds := pushMissing (fun song => song) collection.songIds songIds }

/-- Plan a new collection. -/
def planCreate (id name : String) (current : LibraryManifestV1) :
    Except LibraryError (Option LibraryManifestV1 × Collection) := do
  let name ← normalizeCollectionName name
  validateCollectionId id
  failIf (current.collections.any fun collection => collection.id = id) .collectionAlreadyExists
  failIf (maxCollections ≤ current.collections.length) .tooManyCollections
  let collection : Collection := ⟨id, name, []⟩
  pure (some { current with collections := current.collections ++ [collection] }, collection)

/-- Plan another name for a collection. -/
def planRename (id name : String) (current : LibraryManifestV1) :
    Except LibraryError (Option LibraryManifestV1 × Collection) := do
  validateCollectionId id
  let name ← normalizeCollectionName name
  let (index, collection) ← findCollection id current
  let renamed := { collection with name }
  pure (some (current.setCollection index renamed), renamed)

/-- Plan to delete a collection, and say whether there is one. -/
def planDelete (id : String) (current : LibraryManifestV1) :
    Except LibraryError (Option LibraryManifestV1 × Bool) := do
  validateCollectionId id
  let kept := current.collections.filter fun collection => collection.id ≠ id
  if kept.length = current.collections.length then pure (none, false)
  else pure (some { current with collections := kept }, true)

/-- Plan to add songs to a collection. -/
def planAddSongs (id : String) (songIds : List String) (current : LibraryManifestV1) :
    Except LibraryError (Option LibraryManifestV1 × Collection) := do
  validateCollectionId id
  validateSongIds songIds
  let (index, collection) ← findCollection id current
  let extended := collection.pushSongs songIds
  failIf (maxCollectionSongs < extended.songIds.length) .tooManyCollectionSongs
  pure (some (current.setCollection index extended), extended)

/-- Plan to remove songs from a collection. -/
def planRemoveSongs (id : String) (songIds : List String) (current : LibraryManifestV1) :
    Except LibraryError (Option LibraryManifestV1 × Collection) := do
  validateCollectionId id
  validateSongIds songIds
  let (index, collection) ← findCollection id current
  let reduced :=
    { collection with songIds := collection.songIds.filter fun song => !songIds.contains song }
  pure (some (current.setCollection index reduced), reduced)

/-- Plan to register imports, and count the new ones. -/
def planRegisterImports (sources : List ImportedSourceRef) (current : LibraryManifestV1) :
    Except LibraryError (Option LibraryManifestV1 × ℕ) := do
  validateImports sources
  let next := current.pushImports sources
  failIf (maxImportedSources < next.imports.length) .tooManyImportedSources
  let added := next.imports.length - current.imports.length
  pure (if 0 < added then some next else none, added)

/-- Plan to register imports and to add songs to a collection at once. -/
def planImportAndAddSongs (id : String) (sources : List ImportedSourceRef) (songIds : List String)
    (current : LibraryManifestV1) : Except LibraryError (Option LibraryManifestV1 × Collection) := do
  validateCollectionId id
  validateSongIds songIds
  validateImports sources
  let imported := current.pushImports sources
  failIf (maxImportedSources < imported.imports.length) .tooManyImportedSources
  let (index, collection) ← findCollection id imported
  let extended := collection.pushSongs songIds
  failIf (maxCollectionSongs < extended.songIds.length) .tooManyCollectionSongs
  let next := imported.setCollection index extended
  pure (if next ≠ current then some next else none, extended)

/-- Plan to remove an import, and say whether there is one. -/
def planRemoveImport (sourceId : String) (current : LibraryManifestV1) :
    Except LibraryError (Option LibraryManifestV1 × Bool) := do
  validateImportSourceId sourceId
  let kept := current.imports.filter fun source => source.sourceId ≠ sourceId
  if kept.length = current.imports.length then pure (none, false)
  else pure (some { current with imports := kept }, true)

/-- Create a collection. -/
def createCollection (failure : SaveFailure) (id name : String) : LibraryM Collection :=
  transact failure (planCreate id name)

/-- Rename a collection. -/
def renameCollection (failure : SaveFailure) (id name : String) : LibraryM Collection :=
  transact failure (planRename id name)

/-- Delete a collection. -/
def deleteCollection (failure : SaveFailure) (id : String) : LibraryM Bool :=
  transact failure (planDelete id)

/-- Add songs to a collection. -/
def addSongs (failure : SaveFailure) (id : String) (songIds : List String) : LibraryM Collection :=
  transact failure (planAddSongs id songIds)

/-- Remove songs from a collection. -/
def removeSongs (failure : SaveFailure) (id : String) (songIds : List String) :
    LibraryM Collection :=
  transact failure (planRemoveSongs id songIds)

/-- Register imports. -/
def registerImports (failure : SaveFailure) (sources : List ImportedSourceRef) : LibraryM ℕ :=
  transact failure (planRegisterImports sources)

/-- Register imports and add songs to a collection in one save. -/
def importAndAddSongs (failure : SaveFailure) (id : String) (sources : List ImportedSourceRef)
    (songIds : List String) : LibraryM Collection :=
  transact failure (planImportAndAddSongs id sources songIds)

/-- Remove an import. -/
def removeImport (failure : SaveFailure) (sourceId : String) : LibraryM Bool :=
  transact failure (planRemoveImport sourceId)

/-- A call of the service. -/
inductive LibraryCall where
  | create (id name : String)
  | rename (id name : String)
  | delete (id : String)
  | addSongs (id : String) (songIds : List String)
  | removeSongs (id : String) (songIds : List String)
  | registerImports (sources : List ImportedSourceRef)
  | importAndAddSongs (id : String) (sources : List ImportedSourceRef) (songIds : List String)
  | removeImport (sourceId : String)

/-- A reply of the service. -/
inductive LibraryReply where
  | collection (collection : Collection)
  | found (found : Bool)
  | added (count : ℕ)

/-- Run a call. -/
def LibraryCall.run (failure : SaveFailure) : LibraryCall → LibraryM LibraryReply
  | .create id name => return .collection (← createCollection failure id name)
  | .rename id name => return .collection (← renameCollection failure id name)
  | .delete id => return .found (← deleteCollection failure id)
  | .addSongs id songIds => return .collection (← AppCore.addSongs failure id songIds)
  | .removeSongs id songIds => return .collection (← AppCore.removeSongs failure id songIds)
  | .registerImports sources => return .added (← AppCore.registerImports failure sources)
  | .importAndAddSongs id sources songIds =>
    return .collection (← AppCore.importAndAddSongs failure id sources songIds)
  | .removeImport sourceId => return .found (← AppCore.removeImport failure sourceId)

/-- The service after calls with saves that may fail. -/
def libraryMachine (service : LibraryManifestService) :
    Machine LibraryManifestService (LibraryCall × SaveFailure) :=
  ⟨service, fun state call => some ((call.1.run call.2).run state).state⟩

/-- No duplicates are introduced: a song occurs at most once in a collection, or as often as it did
in one of that id, and likewise the imports of a path. -/
structure NoNewDuplicates (before after : LibraryManifestV1) : Prop where
  songs : ∀ collection ∈ after.collections, ∀ song, collection.songIds.count song ≤ 1 ∨
    ∃ old ∈ before.collections, old.id = collection.id ∧
      collection.songIds.count song ≤ old.songIds.count song
  imports : ∀ path,
    after.imports.countP (fun source => asciiFolded source.canonicalPath = path) ≤ 1 ∨
      after.imports.countP (fun source => asciiFolded source.canonicalPath = path) ≤
        before.imports.countP fun source => asciiFolded source.canonicalPath = path

/-- The limits on a manifest. -/
structure WithinLimits (manifest : LibraryManifestV1) : Prop where
  collections : manifest.collections.length ≤ maxCollections
  imports : manifest.imports.length ≤ maxImportedSources
  songs : ∀ collection ∈ manifest.collections, collection.songIds.length ≤ maxCollectionSongs
  names : ∀ collection ∈ manifest.collections, trimText collection.name ≠ "" ∧
    (trimText collection.name).length ≤ maxCollectionNameLength
  paths : ∀ source ∈ manifest.imports, source.canonicalPath.utf8ByteSize ≤ maxImportedPathLength

namespace NoNewDuplicates

variable {before middle after : LibraryManifestV1}

/-- Nothing is new. -/
theorem refl (manifest : LibraryManifestV1) : NoNewDuplicates manifest manifest where
  songs collection hmem _ := Or.inr ⟨collection, hmem, rfl, Nat.le_refl _⟩
  imports _ := Or.inr (Nat.le_refl _)

/-- Nothing is new in two steps. -/
theorem trans (h : NoNewDuplicates before middle) (hafter : NoNewDuplicates middle after) :
    NoNewDuplicates before after where
  songs collection hmem song := by
    rcases hafter.songs collection hmem song with hone | ⟨old, hold, hid, hle⟩
    · exact Or.inl hone
    · rcases h.songs old hold song with hone | ⟨oldest, holdest, holdId, holdLe⟩
      · exact Or.inl (Nat.le_trans hle hone)
      · exact Or.inr ⟨oldest, holdest, holdId.trans hid, Nat.le_trans hle holdLe⟩
  imports path := by
    rcases hafter.imports path with hone | hle
    · exact Or.inl hone
    · exact (h.imports path).imp (Nat.le_trans hle) (Nat.le_trans hle)

/-- A collection in the place of one with its id introduces no duplicates when its songs do not. -/
theorem setCollection {index : ℕ} {old new : Collection}
    (hold : before.collections[index]? = some old) (hid : new.id = old.id)
    (hsongs : ∀ song, new.songIds.count song ≤ 1 ∨
      new.songIds.count song ≤ old.songIds.count song) :
    NoNewDuplicates before (before.setCollection index new) where
  songs collection hmem song := by
    rcases List.mem_or_eq_of_mem_set hmem with hkept | rfl
    · exact Or.inr ⟨collection, hkept, rfl, Nat.le_refl _⟩
    · exact (hsongs song).imp_right fun hle => ⟨old, List.mem_of_getElem? hold, hid.symm, hle⟩
  imports _ := Or.inr (Nat.le_refl _)

/-- Fewer or new and empty collections and fewer imports are no duplicates. -/
theorem of_parts
    (hcollections : ∀ collection ∈ after.collections,
      collection ∈ before.collections ∨ collection.songIds = [])
    (himports : after.imports.Sublist before.imports) : NoNewDuplicates before after where
  songs collection hmem song := by
    rcases hcollections collection hmem with hkept | hempty
    · exact Or.inr ⟨collection, hkept, rfl, Nat.le_refl _⟩
    · rw [hempty]
      exact Or.inl (Nat.zero_le _)
  imports _ := Or.inr himports.countP_le

/-- Pushing imports introduces no duplicates. -/
theorem pushImports {sources : List ImportedSourceRef} :
    NoNewDuplicates before (before.pushImports sources) where
  songs collection hmem _ := Or.inr ⟨collection, hmem, rfl, Nat.le_refl _⟩
  imports path := countP_pushMissing_le path

end NoNewDuplicates

/-- Pushing songs introduces no duplicates. -/
theorem Collection.count_pushSongs {collection : Collection} {songIds : List String}
    (song : String) : (collection.pushSongs songIds).songIds.count song ≤ 1 ∨
      (collection.pushSongs songIds).songIds.count song ≤ collection.songIds.count song := by
  have hpush := @countP_pushMissing_le _ _ _ (fun song : String => song) collection.songIds songIds
    song
  simp only [Collection.pushSongs, List.count_eq_countP, beq_eq_decide]
  exact hpush

/-- A found collection stands at its place and has the id. -/
theorem findCollection_eq_ok {id : String} {manifest : LibraryManifestV1} {index : ℕ}
    {collection : Collection} (h : findCollection id manifest = .ok (index, collection)) :
    manifest.collections[index]? = some collection ∧ collection.id = id := by
  simp only [findCollection, okOr_eq_ok] at h
  obtain ⟨found, hfound, hrest⟩ := Option.bind_eq_some_iff.mp h
  obtain ⟨entry, hentry, hpair⟩ := Option.bind_eq_some_iff.mp hrest
  obtain ⟨rfl, rfl⟩ := Prod.mk.inj (Option.some.inj hpair)
  obtain ⟨hlength, hid, -⟩ := List.findIdx?_eq_some_iff_getElem.mp hfound
  obtain ⟨_, hget⟩ := List.getElem?_eq_some_iff.mp hentry
  rw [hget] at hid
  exact ⟨hentry, of_decide_eq_true hid⟩

/-- A plan whose candidates introduce no duplicates. -/
def PlansCleanly {α : Type}
    (plan : LibraryManifestV1 → Except LibraryError (Option LibraryManifestV1 × α)) : Prop :=
  ∀ current next reply, plan current = .ok (some next, reply) → NoNewDuplicates current next

/-- A new collection is empty. -/
theorem planCreate_clean {id name : String} : PlansCleanly (planCreate id name) := by
  intro current next reply h
  simp only [planCreate, Except.bind_eq_ok, Except.pure_eq_ok, Prod.mk.injEq,
    Option.some.injEq] at h
  obtain ⟨name, -, -, -, -, -, -, -, rfl, -⟩ := h
  refine NoNewDuplicates.of_parts (fun collection hmem => ?_) (List.Sublist.refl _)
  rcases List.mem_append.mp hmem with hold | hnew
  · exact Or.inl hold
  · exact Or.inr (List.mem_singleton.mp hnew ▸ rfl)

/-- A renamed collection keeps its songs. -/
theorem planRename_clean {id name : String} : PlansCleanly (planRename id name) := by
  intro current next reply h
  simp only [planRename, Except.bind_eq_ok, Except.pure_eq_ok, Prod.mk.injEq, Prod.exists,
    Option.some.injEq] at h
  obtain ⟨-, -, name, -, index, collection, hfound, rfl, -⟩ := h
  exact NoNewDuplicates.setCollection (findCollection_eq_ok hfound).1 rfl
    fun song => Or.inr (Nat.le_refl _)

/-- Deleting keeps the other collections. -/
theorem planDelete_clean {id : String} : PlansCleanly (planDelete id) := by
  intro current next reply h
  simp only [planDelete, Except.bind_eq_ok] at h
  obtain ⟨-, -, h⟩ := h
  split at h
  · simp only [Except.pure_eq_ok, Prod.mk.injEq, reduceCtorEq, false_and] at h
  · simp only [Except.pure_eq_ok, Prod.mk.injEq, Option.some.injEq] at h
    obtain ⟨rfl, -⟩ := h
    exact NoNewDuplicates.of_parts (fun collection hmem => Or.inl (List.mem_filter.mp hmem).1)
      (List.Sublist.refl _)

/-- Added songs are pushed. -/
theorem planAddSongs_clean {id : String} {songIds : List String} :
    PlansCleanly (planAddSongs id songIds) := by
  intro current next reply h
  simp only [planAddSongs, Except.bind_eq_ok, Except.pure_eq_ok, Prod.mk.injEq, Prod.exists,
    Option.some.injEq] at h
  obtain ⟨-, -, -, -, index, collection, hfound, -, -, rfl, -⟩ := h
  exact NoNewDuplicates.setCollection (findCollection_eq_ok hfound).1 rfl
    Collection.count_pushSongs

/-- Removing keeps some of the songs. -/
theorem planRemoveSongs_clean {id : String} {songIds : List String} :
    PlansCleanly (planRemoveSongs id songIds) := by
  intro current next reply h
  simp only [planRemoveSongs, Except.bind_eq_ok, Except.pure_eq_ok, Prod.mk.injEq, Prod.exists,
    Option.some.injEq] at h
  obtain ⟨-, -, -, -, index, collection, hfound, rfl, -⟩ := h
  exact NoNewDuplicates.setCollection (findCollection_eq_ok hfound).1 rfl
    fun song => Or.inr (List.filter_sublist.count_le song)

/-- Registered imports are pushed. -/
theorem planRegisterImports_clean {sources : List ImportedSourceRef} :
    PlansCleanly (planRegisterImports sources) := by
  intro current next reply h
  simp only [planRegisterImports, Except.bind_eq_ok, Except.pure_eq_ok, Prod.mk.injEq] at h
  obtain ⟨-, -, -, -, hnext, -⟩ := h
  split at hnext
  · obtain rfl := Option.some.inj hnext
    exact NoNewDuplicates.pushImports
  · cases hnext

/-- Imports and songs are pushed. -/
theorem planImportAndAddSongs_clean {id : String} {sources : List ImportedSourceRef}
    {songIds : List String} : PlansCleanly (planImportAndAddSongs id sources songIds) := by
  intro current next reply h
  simp only [planImportAndAddSongs, Except.bind_eq_ok, Except.pure_eq_ok, Prod.mk.injEq,
    Prod.exists] at h
  obtain ⟨-, -, -, -, -, -, -, -, index, collection, hfound, -, -, hnext, -⟩ := h
  split at hnext
  · obtain rfl := Option.some.inj hnext
    exact NoNewDuplicates.pushImports.trans (NoNewDuplicates.setCollection
      (findCollection_eq_ok hfound).1 rfl Collection.count_pushSongs)
  · cases hnext

/-- Removing an import keeps the others. -/
theorem planRemoveImport_clean {sourceId : String} : PlansCleanly (planRemoveImport sourceId) := by
  intro current next reply h
  simp only [planRemoveImport, Except.bind_eq_ok] at h
  obtain ⟨-, -, h⟩ := h
  split at h
  · simp only [Except.pure_eq_ok, Prod.mk.injEq, reduceCtorEq, false_and] at h
  · simp only [Except.pure_eq_ok, Prod.mk.injEq, Option.some.injEq] at h
    obtain ⟨rfl, -⟩ := h
    exact NoNewDuplicates.of_parts (fun collection hmem => Or.inl hmem) List.filter_sublist

/-- What a transaction does: it fails and changes nothing, or replies and has committed the
candidate of its plan, if there is one. -/
theorem transact_cases {α : Type} (failure : SaveFailure)
    (plan : LibraryManifestV1 → Except LibraryError (Option LibraryManifestV1 × α))
    (service : LibraryManifestService) :
    (∃ error, (transact failure plan).run service = .error error service) ∨
      ∃ candidate reply, plan service.current = .ok (candidate, reply) ∧
        ((candidate = none ∧ (transact failure plan).run service = .ok reply service) ∨
          ∃ next, candidate = some next ∧ validateManifest next = .ok () ∧
            (transact failure plan).run service = .ok reply ⟨next, next⟩) := by
  cases hplan : plan service.current with
  | error error =>
    left
    exact ⟨error, by simp [transact, hplan]⟩
  | ok outcome =>
    obtain ⟨candidate, reply⟩ := outcome
    cases candidate with
    | none =>
      right
      exact ⟨none, reply, rfl, Or.inl ⟨rfl, by simp [transact, hplan]⟩⟩
    | some next =>
      cases hvalid : validateManifest next with
      | error error =>
        left
        exact ⟨error, by simp [transact, hplan, commit, hvalid]⟩
      | ok done =>
        cases failure with
        | some message =>
          left
          refine ⟨.storage message, ?_⟩
          have hcommit : (commit (some message) next).run service =
              .error (.storage message) service := by
            simp [commit, hvalid]
          simp [transact, hplan, EStateM.run_bind, hcommit, -bind_pure_comp]
        | none =>
          right
          refine ⟨some next, reply, rfl, Or.inr ⟨next, rfl, hvalid, ?_⟩⟩
          have hcommit : (commit none next).run service = .ok () ⟨next, next⟩ := by
            simp [commit, hvalid]
          simp [transact, hplan, EStateM.run_bind, hcommit, -bind_pure_comp]

/-- What a call does to the service: nothing, or it commits a valid manifest without new
duplicates. A failed call does nothing. -/
def Lawful (service : LibraryManifestService) :
    EStateM.Result LibraryError LibraryManifestService LibraryReply → Prop
  | .error _ after => after = service
  | .ok _ after => after = service ∨ ∃ next, after = ⟨next, next⟩ ∧
      validateManifest next = .ok () ∧ NoNewDuplicates service.current next

/-- A transaction of a clean plan is lawful. -/
theorem lawful_transact {α : Type} {failure : SaveFailure}
    {plan : LibraryManifestV1 → Except LibraryError (Option LibraryManifestV1 × α)}
    (hplan : PlansCleanly plan) (service : LibraryManifestService) (wrap : α → LibraryReply) :
    Lawful service ((do return wrap (← transact failure plan) : LibraryM LibraryReply).run
      service) := by
  rcases transact_cases failure plan service with ⟨error, hrun⟩ |
    ⟨candidate, reply, hplanned, ⟨-, hrun⟩ | ⟨next, rfl, hvalid, hrun⟩⟩
  · rw [EStateM.run_bind_of_error hrun]
    exact rfl
  · rw [EStateM.run_bind_of_ok hrun]
    exact Or.inl rfl
  · rw [EStateM.run_bind_of_ok hrun]
    exact Or.inr ⟨next, rfl, hvalid, hplan _ _ _ hplanned⟩

/-- Every call is lawful. -/
theorem lawful_run (failure : SaveFailure) (call : LibraryCall) (service : LibraryManifestService) :
    Lawful service ((call.run failure).run service) := by
  cases call with
  | create id name => exact lawful_transact planCreate_clean service _
  | rename id name => exact lawful_transact planRename_clean service _
  | delete id => exact lawful_transact planDelete_clean service _
  | addSongs id songIds => exact lawful_transact planAddSongs_clean service _
  | removeSongs id songIds => exact lawful_transact planRemoveSongs_clean service _
  | registerImports sources => exact lawful_transact planRegisterImports_clean service _
  | importAndAddSongs id sources songIds =>
    exact lawful_transact planImportAndAddSongs_clean service _
  | removeImport sourceId => exact lawful_transact planRemoveImport_clean service _

/-- A collection that passes the checks is within the limits. -/
theorem limits_of_validateCollections {seen : List String} {collections : List Collection}
    (h : validateCollections seen collections = .ok ()) : ∀ collection ∈ collections,
      collection.songIds.length ≤ maxCollectionSongs ∧ trimText collection.name ≠ "" ∧
        (trimText collection.name).length ≤ maxCollectionNameLength := by
  induction collections generalizing seen with
  | nil => exact fun collection hmem => absurd hmem List.not_mem_nil
  | cons head rest ih =>
    simp only [validateCollections, normalizeCollectionName, Except.bind_eq_ok, failIf_eq_ok] at h
    obtain ⟨-, -, -, -, -, ⟨-, hempty, -, hlong, -⟩, -, -, -, hsongs, hrest⟩ := h
    intro collection hmem
    rcases List.mem_cons.mp hmem with rfl | htail
    · refine ⟨Nat.not_lt.mp hsongs, fun hname => hempty ?_, ?_⟩
      · rw [hname]
        rfl
      · exact Nat.not_lt.mp fun hlt => hlong (Or.inl hlt)
    · exact ih hrest collection htail

/-- An import that passes the checks has a bounded path. -/
theorem limits_of_validateDistinctImports {seen : List String} {sources : List ImportedSourceRef}
    (h : validateDistinctImports seen sources = .ok ()) : ∀ source ∈ sources,
      source.canonicalPath.utf8ByteSize ≤ maxImportedPathLength := by
  induction sources generalizing seen with
  | nil => exact fun source hmem => absurd hmem List.not_mem_nil
  | cons head rest ih =>
    simp only [validateDistinctImports, validateImport, Except.bind_eq_ok, failIf_eq_ok] at h
    obtain ⟨-, ⟨-, -, hpath⟩, -, -, hrest⟩ := h
    intro source hmem
    rcases List.mem_cons.mp hmem with rfl | htail
    · exact Nat.not_lt.mp fun hlt => hpath (Or.inr (Or.inl hlt))
    · exact ih hrest source htail

/-- A valid manifest is of the current version and within the limits. -/
theorem limits_of_validateManifest {manifest : LibraryManifestV1}
    (h : validateManifest manifest = .ok ()) :
    manifest.version = libraryManifestVersion ∧ WithinLimits manifest := by
  simp only [validateManifest, Except.bind_eq_ok, failIf_eq_ok, not_not, not_lt] at h
  obtain ⟨-, hversion, -, hcollections, -, himports, ⟨⟩, hvalid, hdistinct⟩ := h
  have hlimits := limits_of_validateCollections hvalid
  exact ⟨hversion, hcollections, himports, fun collection hmem => (hlimits collection hmem).1,
    fun collection hmem => (hlimits collection hmem).2, limits_of_validateDistinctImports hdistinct⟩

/-- A loaded service has stored a valid manifest, which is the document but for its version. -/
theorem loadService_eq_ok {failure : SaveFailure} {document : LibraryManifestV1}
    {service : LibraryManifestService} (h : loadService failure document = .ok service) :
    service.stored = service.current ∧ validateManifest service.current = .ok () ∧
      NoNewDuplicates document service.current := by
  simp only [loadService, Except.bind_eq_ok] at h
  obtain ⟨⟨⟩, hvalid, h⟩ := h
  by_cases hversion : document.version = 0
  · rw [if_pos hversion] at hvalid h
    rw [hversion] at h
    cases failure with
    | some message => cases h
    | none =>
      obtain rfl := Except.pure_eq_ok.mp h
      exact ⟨rfl, hvalid, NoNewDuplicates.of_parts (fun _ hmem => Or.inl hmem) (List.Sublist.refl _)⟩
  · rw [if_neg hversion] at hvalid h
    split at h
    · rename_i hzero
      exact absurd hzero hversion
    · rename_i hzero
      exact absurd hzero hversion
    · obtain rfl := Except.pure_eq_ok.mp h
      exact ⟨rfl, hvalid, NoNewDuplicates.refl _⟩

/-- A valid document of the current version is loaded as it is. -/
theorem loadService_of_valid {failure : SaveFailure} {document : LibraryManifestV1}
    (h : validateManifest document = .ok ()) :
    loadService failure document = .ok ⟨document, document⟩ := by
  obtain ⟨hversion, -⟩ := limits_of_validateManifest h
  have hnonzero : document.version ≠ 0 := by
    rw [hversion]
    exact Nat.one_ne_zero
  simp only [loadService, if_neg hnonzero, h]
  split
  · rename_i hzero
    exact absurd hzero hnonzero
  · rename_i hzero
    exact absurd hzero hnonzero
  · rfl

/-- An import into a playlist adds everything it was asked to. -/
theorem planImportAndAddSongs_adds {id : String} {sources : List ImportedSourceRef}
    {songIds : List String} {current : LibraryManifestV1} {candidate : Option LibraryManifestV1}
    {reply : Collection}
    (h : planImportAndAddSongs id sources songIds current = .ok (candidate, reply)) :
    (∀ source ∈ sources, ∃ registered ∈ (candidate.getD current).imports,
      asciiFolded registered.canonicalPath = asciiFolded source.canonicalPath) ∧
      reply ∈ (candidate.getD current).collections ∧ reply.id = id ∧
      ∀ song ∈ songIds, song ∈ reply.songIds := by
  simp only [planImportAndAddSongs, Except.bind_eq_ok, Except.pure_eq_ok, Prod.mk.injEq,
    Prod.exists] at h
  obtain ⟨-, -, -, -, -, -, -, -, index, collection, hfound, -, -, hnext, rfl⟩ := h
  obtain ⟨hcollection, hid⟩ := findCollection_eq_ok hfound
  have hmanifest : candidate.getD current =
      (current.pushImports sources).setCollection index (collection.pushSongs songIds) := by
    rw [← hnext]
    split
    · rfl
    · rename_i hsame
      exact (not_not.mp hsame).symm
  rw [hmanifest]
  refine ⟨fun source hmem => exists_mem_pushMissing hmem, ?_, hid, fun song hmem => ?_⟩
  · exact List.mem_set (List.getElem?_eq_some_iff.mp hcollection).1 _
  · obtain ⟨pushed, hpushed, rfl⟩ := @exists_mem_pushMissing _ _ _ (fun song : String => song)
      collection.songIds _ _ hmem
    exact hpushed

/-- The invariant of a service that was loaded from a document. -/
structure ServiceInvariant (document : LibraryManifestV1) (service : LibraryManifestService) :
    Prop where
  stored : service.stored = service.current
  valid : validateManifest service.current = .ok ()
  duplicates : NoNewDuplicates document service.current

/-- Every call keeps the invariant. -/
theorem service_invariant {failure : SaveFailure} {document : LibraryManifestV1}
    {service : LibraryManifestService} (h : loadService failure document = .ok service) :
    (libraryMachine service).Invariant (ServiceInvariant document) where
  initial := by
    obtain ⟨hstored, hvalid, hduplicates⟩ := loadService_eq_ok h
    exact ⟨hstored, hvalid, hduplicates⟩
  step before call after hbefore hmade := by
    obtain rfl := Option.some.inj hmade
    have hlawful := lawful_run call.2 call.1 before
    cases hrun : (call.1.run call.2).run before with
    | error error state =>
      rw [hrun] at hlawful
      exact hlawful ▸ hbefore
    | ok reply state =>
      rw [hrun] at hlawful
      rcases hlawful with hsame | ⟨next, hnext, hvalid, hduplicates⟩
      · exact hsame ▸ hbefore
      · rw [EStateM.Result.state_ok, hnext]
        exact ⟨rfl, hvalid, hbefore.duplicates.trans hduplicates⟩

/-- After any calls with any failing saves the manifest in memory is the stored one, which loads
unchanged, has no new duplicates and is within the limits; a call that fails changes nothing, and
what is imported into a playlist is registered and added whole, or not at all. -/
theorem library_manifest_lawful {failure : SaveFailure} {document : LibraryManifestV1}
    {loaded service : LibraryManifestService} (hload : loadService failure document = .ok loaded)
    (h : (libraryMachine loaded).Reachable service) :
    service.stored = service.current ∧
      (∀ failure, loadService failure service.stored = .ok service) ∧
      NoNewDuplicates document service.current ∧ WithinLimits service.current ∧
      (∀ failure call error after,
        (LibraryCall.run failure call).run service = .error error after → after = service) ∧
      ∀ failure id sources songIds reply after,
        (importAndAddSongs failure id sources songIds).run service = .ok reply after →
          (∀ source ∈ sources, ∃ registered ∈ after.current.imports,
            asciiFolded registered.canonicalPath = asciiFolded source.canonicalPath) ∧
          reply ∈ after.current.collections ∧ reply.id = id ∧
          ∀ song ∈ songIds, song ∈ reply.songIds := by
  have hinvariant := (service_invariant hload).holds h
  have hstored := hinvariant.stored
  refine ⟨hstored, fun failure => ?_, hinvariant.duplicates,
    (limits_of_validateManifest hinvariant.valid).2, ?_, ?_⟩
  · rw [hstored, loadService_of_valid hinvariant.valid]
    obtain ⟨stored, current⟩ := service
    obtain rfl : stored = current := hstored
    rfl
  · intro failure call error after hrun
    have hlawful := lawful_run failure call service
    rw [hrun] at hlawful
    exact hlawful
  · intro failure id sources songIds reply after hrun
    rcases transact_cases failure (planImportAndAddSongs id sources songIds) service with
      ⟨error, hfailed⟩ | ⟨candidate, planned, hplanned, ⟨rfl, hdone⟩ | ⟨next, rfl, -, hdone⟩⟩
    · rw [importAndAddSongs, hfailed] at hrun
      cases hrun
    · rw [importAndAddSongs, hdone] at hrun
      cases hrun
      exact planImportAndAddSongs_adds hplanned
    · rw [importAndAddSongs, hdone] at hrun
      cases hrun
      exact planImportAndAddSongs_adds hplanned

/-- A playlist is created, two imports of one path and two equal songs are added to it, and the
save of its deletion fails. -/
def libraryScenario : List (LibraryCall × SaveFailure) :=
  let playlist := "0123456789abcdef0123456789abcdef"
  let song := "abcdefabcdefabcdefabcdefabcdefab"
  [(.create playlist "  Practice  ", none),
    (.importAndAddSongs playlist [⟨song, "C:/Music/a.txt", .file⟩, ⟨playlist, "c:/music/A.TXT", .file⟩]
      [song, song], none),
    (.delete playlist, some "disk full")]

/-- The scenario, from a document of version zero, ends with one import and one song. -/
theorem library_manifest_lawful_scenario :
    ∃ service, (service.current.imports.length = 1 ∧
        service.current.collections.map (fun playlist => (playlist.name, playlist.songIds.length)) =
          [("Practice", 1)]) ∧
      service.stored = service.current ∧
      (∀ failure, loadService failure service.stored = .ok service) ∧
      NoNewDuplicates ⟨0, [], []⟩ service.current ∧ WithinLimits service.current ∧
      (∀ failure call error after,
        (LibraryCall.run failure call).run service = .error error after → after = service) ∧
      ∀ failure id sources songIds reply after,
        (importAndAddSongs failure id sources songIds).run service = .ok reply after →
          (∀ source ∈ sources, ∃ registered ∈ after.current.imports,
            asciiFolded registered.canonicalPath = asciiFolded source.canonicalPath) ∧
          reply ∈ after.current.collections ∧ reply.id = id ∧
          ∀ song ∈ songIds, song ∈ reply.songIds := by
  have hload : loadService none ⟨0, [], []⟩ = .ok ⟨⟨1, [], []⟩, ⟨1, [], []⟩⟩ := rfl
  have hcheck : ((libraryMachine ⟨⟨1, [], []⟩, ⟨1, [], []⟩⟩).run ⟨⟨1, [], []⟩, ⟨1, [], []⟩⟩
      libraryScenario).any (fun service => service.current.imports.length = 1 ∧
        service.current.collections.map (fun playlist => (playlist.name, playlist.songIds.length)) =
          [("Practice", 1)]) = true := by decide +kernel
  obtain ⟨service, hrun, hcounts⟩ := (Option.any_eq_true _ _).mp hcheck
  exact ⟨service, of_decide_eq_true hcounts,
    library_manifest_lawful hload ⟨libraryScenario, hrun⟩⟩

end SkyAutoPlayer.AppCore
