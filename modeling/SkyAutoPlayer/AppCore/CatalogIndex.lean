import Mathlib.Data.Finset.Card
import Mathlib.Data.List.Sort
import Mathlib.Data.List.Infix
import SkyAutoPlayer.AppCore.LibraryManifest

/-!
# The catalog index

An index holds the entries of one generation in search order. Its entries are replaced as a whole,
or not at all when two sources disagree about a path or an id. A search order is computed from the
entries of a generation and the ids that a source allows, and a page is cut from it.

The tables of Unicode, the digest and the ranker are the code around the index.
-/

namespace SkyAutoPlayer.AppCore

open Foundation

/-- The extensions of the songs. -/
def supportedExtensions : List String := ["json", "skysheet", "txt"]

/-- The longest page. -/
def maxPageSize : ℕ := 200

/-- The most characters of a query. -/
def maxQueryLength : ℕ := 1024

/-- What the index uses of the Unicode tables, of the digest and of the ranker at its cutoff. -/
structure CatalogTables where
  nfkd : String → List Char
  isCombiningMark : Char → Bool
  caseFold : String → String
  toLowercase : String → String
  sha256 : List UInt8 → Vector UInt8 32
  rank : String → List String → List ℕ

/-- The errors of the catalog. -/
inductive CatalogError where
  | invalidQuery
  | queryTooLong
  | invalidLimit
  | staleGeneration
  | generationOverflow
  | emptyPath
  | sourceUnavailable (message : String)
  | unsupportedExtension
  | idCollision
  | identityPathConflict
  | unknownSongId
  | fuzzyRankingUnavailable
  | searchOrderMismatch
  deriving DecidableEq, Repr

/-- The texts of the errors. -/
def CatalogError.text : CatalogError → String
  | .invalidQuery => "catalog query must be text"
  | .queryTooLong => s!"catalog query exceeds {maxQueryLength} characters"
  | .invalidLimit => s!"catalog limit must be between 1 and {maxPageSize}"
  | .staleGeneration => "catalog generation is stale"
  | .generationOverflow => "catalog generation overflowed"
  | .emptyPath => "catalog source path is empty"
  | .sourceUnavailable message => "catalog source is unavailable: " ++ message
  | .unsupportedExtension => "unsupported catalog source extension"
  | .idCollision => "song ID collision for distinct canonical paths"
  | .identityPathConflict => "catalog source declares conflicting identities for one canonical path"
  | .unknownSongId => "malformed or unknown song ID"
  | .fuzzyRankingUnavailable => "fuzzy ranking is not available for this shadow index"
  | .searchOrderMismatch => "catalog search order does not match the requested query"

/-- A song id that its source declares. -/
structure StableSongId where
  text : String
  valid : isValidId text = true
  deriving DecidableEq

/-- How a source identifies a song: by its path, or by a declared id. -/
inductive CatalogSourceIdentity where
  | pathDerived
  | stable (id : StableSongId)
  deriving DecidableEq

/-- A song of a source. -/
structure CatalogSourceEntry where
  canonicalPath : String
  title : String
  identity : CatalogSourceIdentity
  deriving DecidableEq

/-- What the catalog shows of a song. -/
structure CatalogRow where
  songId : String
  title : String
  deriving DecidableEq, Repr

/-- A song of the index. -/
structure CatalogEntry where
  row : CatalogRow
  canonicalPath : String
  searchKey : String
  deriving DecidableEq, Repr

/-- The entries of a generation. -/
structure CatalogIndex where
  generation : ℕ
  entries : List CatalogEntry
  deriving DecidableEq, Repr

/-- The full order of the entries that a query finds. -/
structure CatalogSearchOrder where
  generation : ℕ
  normalizedQuery : String
  indices : List ℕ
  deriving DecidableEq, Repr

/-- A part of a search order, as rows. -/
structure CatalogPage where
  items : List CatalogRow
  offset : ℕ
  limit : ℕ
  total : ℕ
  generation : ℕ
  deriving DecidableEq, Repr

/-- A lowercase hexadecimal digit. -/
def hexDigit (value : ℕ) : Char := Char.ofNat (if value < 10 then 48 + value else 87 + value)

/-- The bytes in lowercase hexadecimal. -/
def hexText (bytes : List UInt8) : String :=
  String.ofList (bytes.flatMap fun byte => [hexDigit (byte.toNat / 16), hexDigit (byte.toNat % 16)])

/-- The last component of a path, without the separators after it. -/
def fileName (path : String) : Option (List Char) :=
  ((path.toList.splitOnP fun char => char = '/' || char = '\\').filter fun component =>
    !component.isEmpty && component ≠ ['.']).getLast?

/-- What follows the last dot of the last component, if anything precedes the dot. -/
def pathExtension (path : String) : Option String := do
  let name ← fileName path
  let after := name.reverse.takeWhile (· ≠ '.')
  let before := (name.reverse.dropWhile (· ≠ '.')).drop 1
  if name = ['.', '.'] ∨ before.isEmpty then none else some (String.ofList after.reverse)

/-- A path has the extension of a song. -/
def isSupportedPath (path : String) : Bool :=
  (pathExtension path).any fun found =>
    supportedExtensions.any fun supported => asciiFolded found = asciiFolded supported

section Tables

variable (tables : CatalogTables)

/-- A text without marks, in one case. -/
def normalizeSearchText (value : String) : String :=
  let decomposed := ((tables.nfkd value).filter fun char => !tables.isCombiningMark char).map
    fun char => if char = 'đ' ∨ char = 'Đ' then 'd' else char
  tables.caseFold (String.ofList decomposed)

/-- A path with one separator and in lower case. -/
def normalizedCanonicalPath (path : String) : String :=
  tables.toLowercase (String.ofList (path.toList.map fun char => if char = '/' then '\\' else char))

/-- The id of a song that its source identifies by its path. -/
def songIdForCanonicalPath (path : String) : String :=
  hexText ((tables.sha256 (normalizedCanonicalPath tables path).toUTF8.data.toList).toList.take 16)

/-- The id of a song of a source. -/
def CatalogSourceEntry.songId (source : CatalogSourceEntry) : String :=
  match source.identity with
  | .pathDerived => songIdForCanonicalPath tables source.canonicalPath
  | .stable id => id.text

/-- The normalized query of a search. -/
def normalizeQuery (query : String) : Except CatalogError String := do
  failIf (maxQueryLength < query.length) .queryTooLong
  pure (trimText (normalizeSearchText tables query))

/-- Check the window of a search. -/
def validateWindow (query : String) (limit : ℕ) : Except CatalogError Unit := do
  let _ ← normalizeQuery tables query
  failIf (¬(1 ≤ limit ∧ limit ≤ maxPageSize)) .invalidLimit

/-- A query is ranked, and not only searched for. -/
def isFuzzySearchQuery (query : String) : Except CatalogError Bool := do
  let normalized ← normalizeQuery tables query
  pure (1 < normalized.length)

/-- The entries before a source and its paths with their ids, and after it. -/
def indexSource (indexed : List CatalogEntry × List (String × String))
    (source : CatalogSourceEntry) : Except CatalogError (List CatalogEntry × List (String × String)) :=
  let (entries, seenPaths) := indexed
  let normalizedPath := normalizedCanonicalPath tables source.canonicalPath
  let songId := source.songId tables
  if source.canonicalPath.isEmpty then .error .emptyPath
  else if !isSupportedPath source.canonicalPath then .error .unsupportedExtension
  else
    match seenPaths.lookup normalizedPath with
    | some previous => if previous ≠ songId then .error .identityPathConflict else .ok indexed
    | none =>
      match entries.find? fun entry => entry.row.songId = songId with
      | some previous =>
        if normalizedCanonicalPath tables previous.canonicalPath ≠ normalizedPath then
          .error .idCollision
        else .ok (entries, seenPaths ++ [(normalizedPath, songId)])
      | none =>
        .ok (entries ++ [⟨⟨songId, source.title⟩, source.canonicalPath,
            normalizeSearchText tables source.title⟩],
          seenPaths ++ [(normalizedPath, songId)])

/-- The order of the entries: by search key, and then by title in one case. -/
def entryOrder (left right : CatalogEntry) : Prop :=
  left.searchKey < right.searchKey ∨ left.searchKey = right.searchKey ∧
    tables.caseFold left.row.title ≤ tables.caseFold right.row.title

instance : DecidableRel (entryOrder tables) := fun left right =>
  inferInstanceAs (Decidable (left.searchKey < right.searchKey ∨ left.searchKey = right.searchKey ∧
    tables.caseFold left.row.title ≤ tables.caseFold right.row.title))

namespace CatalogIndex

/-- Replace all entries and enter the next generation, or fail and keep the index. -/
def replaceEntries (sources : List CatalogSourceEntry) (index : CatalogIndex) :
    Except CatalogError CatalogIndex := do
  let (entries, _) ← sources.foldlM (indexSource tables) ([], [])
  let generation ← okOr .generationOverflow (checkedAdd 64 index.generation 1)
  pure ⟨generation, entries.insertionSort (entryOrder tables)⟩

/-- Check that a request is for this generation. -/
def checkGeneration (generation : Option ℕ) (index : CatalogIndex) : Except CatalogError Unit :=
  failIf (generation.any (· ≠ index.generation)) .staleGeneration

/-- The entry of a song. -/
def entryOf? (songId : String) (index : CatalogIndex) : Option CatalogEntry :=
  index.entries.find? fun entry => entry.row.songId = songId

/-- The path of a song. -/
def canonicalPathForSongId (songId : String) (generation : Option ℕ) (index : CatalogIndex) :
    Except CatalogError String := do
  index.checkGeneration generation
  failIf (¬isValidId songId) .unknownSongId
  okOr .unknownSongId ((index.entryOf? songId).map CatalogEntry.canonicalPath)

/-- How many of the ids are in the index. -/
def countAllowedIds (allowed : Finset String) (generation : Option ℕ) (index : CatalogIndex) :
    Except CatalogError ℕ := do
  index.checkGeneration generation
  if allowed.card ≤ index.entries.length / 4 then
    pure (allowed.filter fun songId => (index.entryOf? songId).isSome).card
  else pure (index.entries.countP fun entry => entry.row.songId ∈ allowed)

/-- Check the window of a search before it. -/
def validateSearchWindow (query : String) (limit : ℕ) (generation : Option ℕ)
    (index : CatalogIndex) : Except CatalogError Unit := do
  index.checkGeneration generation
  validateWindow tables query limit

/-- The entries whose ids are allowed, with their places in the index. -/
def candidates (allowed : Option (Finset String)) (index : CatalogIndex) :
    List (CatalogEntry × ℕ) :=
  index.entries.zipIdx.filter fun (entry, _) => allowed.all fun ids => entry.row.songId ∈ ids

/-- The places of the candidates in the order of the ranker, each once. -/
def rankedIndices (normalized : String) (found : List (CatalogEntry × ℕ)) : List ℕ :=
  let ranks := tables.rank normalized (found.map fun (entry, _) => entry.searchKey)
  (keepFirst id [] (ranks.filter (· < found.length))).filterMap fun rank =>
    (found[rank]?).map Prod.snd

/-- The places of the entries that a normalized query finds. -/
def searchIndices (normalized : String) (allowed : Option (Finset String)) (index : CatalogIndex) :
    List ℕ :=
  let found := index.candidates allowed
  if normalized.length ≤ 1 then
    (found.filter fun (entry, _) =>
      normalized.isEmpty || normalized.toList <:+: entry.searchKey.toList).map Prod.snd
  else rankedIndices tables normalized found

/-- The full order of a search. -/
def searchOrderWithAllowedIds (query : String) (generation : Option ℕ)
    (allowed : Option (Finset String)) (index : CatalogIndex) :
    Except CatalogError CatalogSearchOrder := do
  index.checkGeneration generation
  let normalizedQuery ← normalizeQuery tables query
  pure ⟨index.generation, normalizedQuery, index.searchIndices tables normalizedQuery allowed⟩

/-- The rows of a window of places. -/
def pageRows (indices : List ℕ) (offset limit : ℕ) (index : CatalogIndex) : CatalogPage :=
  ⟨((indices.drop offset).take limit).filterMap fun place => (index.entries[place]?).map (·.row),
    offset, limit, indices.length, index.generation⟩

/-- Cut a page from a search order, which must be of this generation and query. -/
def pageFromSearchOrder (order : CatalogSearchOrder) (query : String) (offset limit : ℕ)
    (generation : Option ℕ) (index : CatalogIndex) : Except CatalogError CatalogPage := do
  index.checkGeneration generation
  validateWindow tables query limit
  failIf (order.generation ≠ index.generation) .staleGeneration
  let normalized ← normalizeQuery tables query
  failIf (normalized ≠ order.normalizedQuery) .searchOrderMismatch
  pure (index.pageRows order.indices offset limit)

end CatalogIndex

end Tables

end SkyAutoPlayer.AppCore
