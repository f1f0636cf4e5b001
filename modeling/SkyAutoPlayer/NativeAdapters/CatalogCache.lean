import SkyAutoPlayer.AppCore.CatalogManifest

/-!
# The cache of the catalog

The cache keeps the entries of a composition and the ids of its sources. Every entry names one source
that has its id, and every id of a source has an entry.
-/

namespace SkyAutoPlayer.NativeAdapters

open Foundation AppCore

/-- The version of the cache. -/
def catalogCacheSchemaVersion : ℕ := 2

/-- The most entries of a cache. -/
def catalogCacheMaxEntries : ℕ := 1000000

/-- The most sources of a cache. -/
def catalogCacheMaxSources : ℕ := 1024

/-- The longest path of an entry, in bytes. -/
def maxCachedPathLength : ℕ := 4096

/-- The longest title of an entry, in characters. -/
def maxCachedTitleLength : ℕ := 4096

/-- The longest name of a source, in characters. -/
def maxDisplayNameLength : ℕ := 1024

/-- What a source of a cache is. -/
inductive CatalogCacheSourceKind where
  | builtin
  | user
  | imported
  deriving DecidableEq, Repr

/-- A source of a cache. -/
structure CatalogCacheSource where
  sourceId : String
  kind : CatalogCacheSourceKind
  importKind : Option ImportedSourceKind
  displayName : String
  available : Bool
  songIds : List String
  deriving DecidableEq, Repr

/-- An entry of a cache. -/
structure CatalogCacheEntry where
  sourceId : String
  kind : CatalogCacheSourceKind
  canonicalPath : String
  songId : String
  title : String
  fileSize : ℕ
  modifiedUnixMs : ℕ
  deriving DecidableEq, Repr

/-- The cache of a composition. -/
structure CatalogCache where
  schemaVersion : ℕ
  cacheGeneration : ℕ
  sourceFingerprint : String
  sources : List CatalogCacheSource
  entries : List CatalogCacheEntry
  deriving DecidableEq, Repr

/-- A hexadecimal digit. -/
def isHexDigit (byte : UInt8) : Bool :=
  (48 ≤ byte && byte ≤ 57) || (65 ≤ byte && byte ≤ 70) || (97 ≤ byte && byte ≤ 102)

/-- Check a digest. -/
def validateSha256Hex (value label : String) : Except String Unit :=
  failIf (¬(value.utf8ByteSize = sha256HexLength ∧ value.toUTF8.data.all isHexDigit))
    (label ++ " is invalid")

/-- The id of a source fits its kind. -/
def isSourceId (sourceId : String) : CatalogCacheSourceKind → Bool
  | .builtin => sourceId = "builtin"
  | .user => sourceId = "user"
  | .imported => isValidId sourceId

/-- Check the id of a source. -/
def validateSourceId (sourceId : String) (kind : CatalogCacheSourceKind) : Except String Unit :=
  failIf (isSourceId sourceId kind = false) "catalog cache contains an invalid source identity"

/-- A text is neither empty nor too long, and has no null character. -/
def isBoundedText (maxChars : ℕ) (value : String) : Bool :=
  !value.isEmpty && value.length ≤ maxChars && !containsNull value

/-- Check a text. -/
def validateText (value : String) (maxChars : ℕ) (label : String) : Except String Unit :=
  failIf (isBoundedText maxChars value = false) (label ++ " is invalid")

/-- A path may be in a cache. -/
def isCacheablePath (path : String) : Bool :=
  !path.isEmpty && path.utf8ByteSize ≤ maxCachedPathLength && !containsNull path &&
    isAbsolutePath path && isSupportedPath path

/-- Check the song ids of a source after those seen. -/
def validateCachedIds : List String → List String → Except String Unit
  | _, [] => .ok ()
  | seen, songId :: rest => do
    failIf (isValidId songId = false ∨ songId ∈ seen)
      "catalog cache contains malformed or duplicate song IDs"
    validateCachedIds (songId :: seen) rest

/-- Check the sources after those seen. -/
def validateSources : List (CatalogCacheSourceKind × String) → List CatalogCacheSource →
    Except String Unit
  | _, [] => .ok ()
  | seen, source :: rest => do
    validateSourceId source.sourceId source.kind
    failIf (decide (source.kind = .imported) ≠ source.importKind.isSome)
      "catalog cache source kind metadata is inconsistent"
    validateText source.displayName maxDisplayNameLength "source display name"
    failIf ((source.kind, source.sourceId) ∈ seen) "catalog cache contains duplicate sources"
    validateCachedIds [] source.songIds
    validateSources ((source.kind, source.sourceId) :: seen) rest

/-- The source of an entry. -/
def cachedSource? (sources : List CatalogCacheSource) (entry : CatalogCacheEntry) :
    Option CatalogCacheSource :=
  sources.find? fun source => source.kind = entry.kind ∧ source.sourceId = entry.sourceId

/-- Check the entries after those with the folded paths and ids seen. -/
def validateEntries (tables : CatalogTables) (sources : List CatalogCacheSource) :
    List (List Char × String) → List CatalogCacheEntry → Except String Unit
  | _, [] => .ok ()
  | paths, entry :: rest => do
    validateSourceId entry.sourceId entry.kind
    let source ← okOr "catalog cache entry references an unknown source" (cachedSource? sources entry)
    failIf (isCacheablePath entry.canonicalPath = false)
      "catalog cache contains an invalid canonical path"
    failIf (isValidId entry.songId = false) "catalog cache contains an invalid song ID"
    failIf (entry.kind ≠ .builtin ∧
        entry.songId ≠ songIdForCanonicalPath tables entry.canonicalPath)
      "catalog cache path-derived song ID does not match its path"
    validateText entry.title maxCachedTitleLength "catalog cache title"
    failIf ((paths.lookup (asciiFolded entry.canonicalPath)).any (· ≠ entry.songId))
      "catalog cache maps one path to multiple song IDs"
    failIf (entry.songId ∉ source.songIds) "catalog cache entry is absent from source membership"
    validateEntries tables sources ((asciiFolded entry.canonicalPath, entry.songId) :: paths) rest

/-- Check a cache. -/
def CatalogCache.validate (tables : CatalogTables) (cache : CatalogCache) : Except String Unit := do
  failIf (cache.schemaVersion ≠ catalogCacheSchemaVersion)
    ("unsupported catalog cache schema " ++ toString cache.schemaVersion)
  failIf (cache.cacheGeneration = 0) "catalog cache generation must be positive"
  validateSha256Hex cache.sourceFingerprint "source fingerprint"
  failIf (catalogCacheMaxSources < cache.sources.length) "catalog cache contains too many sources"
  failIf (catalogCacheMaxEntries < cache.entries.length) "catalog cache contains too many entries"
  validateSources [] cache.sources
  validateEntries tables cache.sources [] cache.entries
  failIf (∃ source ∈ cache.sources, ∃ songId ∈ source.songIds,
      songId ∉ cache.entries.map (·.songId))
    "catalog cache source membership has no cached entry"

/-- A source of a cache is well formed. -/
structure CatalogCacheSource.Valid (source : CatalogCacheSource) : Prop where
  sourceId : isSourceId source.sourceId source.kind = true
  importKind : decide (source.kind = .imported) = source.importKind.isSome
  displayName : isBoundedText maxDisplayNameLength source.displayName = true
  songIds : ∀ songId ∈ source.songIds, isValidId songId = true
  nodup : source.songIds.Nodup

/-- An entry of a cache is well formed and belongs to one of the sources. -/
structure CatalogCacheEntry.Valid (tables : CatalogTables) (sources : List CatalogCacheSource)
    (entry : CatalogCacheEntry) : Prop where
  sourceId : isSourceId entry.sourceId entry.kind = true
  source : ∃ source, cachedSource? sources entry = some source ∧ entry.songId ∈ source.songIds
  path : isCacheablePath entry.canonicalPath = true
  songId : isValidId entry.songId = true
  derived : entry.kind ≠ .builtin → entry.songId = songIdForCanonicalPath tables entry.canonicalPath
  title : isBoundedText maxCachedTitleLength entry.title = true

/-- A cache is well formed. -/
structure CatalogCache.Valid (tables : CatalogTables) (cache : CatalogCache) : Prop where
  schemaVersion : cache.schemaVersion = catalogCacheSchemaVersion
  cacheGeneration : cache.cacheGeneration ≠ 0
  sourceFingerprint : cache.sourceFingerprint.utf8ByteSize = sha256HexLength ∧
    cache.sourceFingerprint.toUTF8.data.all isHexDigit = true
  sourceCount : cache.sources.length ≤ catalogCacheMaxSources
  entryCount : cache.entries.length ≤ catalogCacheMaxEntries
  sources : ∀ source ∈ cache.sources, source.Valid
  distinct : (cache.sources.map fun source => (source.kind, source.sourceId)).Nodup
  entries : ∀ entry ∈ cache.entries, entry.Valid tables cache.sources
  paths : ∀ left ∈ cache.entries, ∀ right ∈ cache.entries,
    asciiFolded left.canonicalPath = asciiFolded right.canonicalPath → left.songId = right.songId
  covered : ∀ source ∈ cache.sources, ∀ songId ∈ source.songIds,
    ∃ entry ∈ cache.entries, entry.songId = songId

section Validate

variable {tables : CatalogTables} {sources : List CatalogCacheSource}
  {entries : List CatalogCacheEntry} {cache : CatalogCache}

/-- The song ids of a source pass the check when they are well formed and distinct. -/
theorem validateCachedIds_ok_iff {seen songIds : List String} :
    validateCachedIds seen songIds = .ok () ↔
      (∀ songId ∈ songIds, isValidId songId = true ∧ songId ∉ seen) ∧ songIds.Nodup := by
  induction songIds generalizing seen with
  | nil => simp [validateCachedIds]
  | cons songId rest ih =>
    rw [validateCachedIds, Except.seq_eq_ok, failIf_eq_ok, ih, not_or, Bool.not_eq_false,
      List.nodup_cons]
    constructor
    · rintro ⟨hfirst, hrest, hnodup⟩
      refine ⟨fun other hother => ?_, fun hmem => (hrest songId hmem).2 List.mem_cons_self, hnodup⟩
      rcases List.mem_cons.mp hother with rfl | htail
      · exact hfirst
      · exact ⟨(hrest other htail).1, fun hseen => (hrest other htail).2 (List.mem_cons_of_mem _ hseen)⟩
    · rintro ⟨hall, hnew, hnodup⟩
      refine ⟨hall songId List.mem_cons_self, fun other hother => ?_, hnodup⟩
      obtain ⟨hvalid, hseen⟩ := hall other (List.mem_cons_of_mem _ hother)
      refine ⟨hvalid, fun hmem => ?_⟩
      rcases List.mem_cons.mp hmem with rfl | hold
      · exact hnew hother
      · exact hseen hold

/-- A source passes its part of the check when it is well formed and new. -/
theorem validateSources_cons {seen : List (CatalogCacheSourceKind × String)}
    {source : CatalogCacheSource} :
    validateSources seen (source :: sources) = .ok () ↔
      source.Valid ∧ (source.kind, source.sourceId) ∉ seen ∧
        validateSources ((source.kind, source.sourceId) :: seen) sources = .ok () := by
  simp only [validateSources, validateSourceId, validateText, Except.seq_eq_ok, failIf_eq_ok,
    validateCachedIds_ok_iff, Bool.not_eq_false, not_not]
  constructor
  · rintro ⟨hid, hkind, hname, hnew, ⟨hids, hnodup⟩, hrest⟩
    exact ⟨⟨hid, hkind, hname, fun songId hmem => (hids songId hmem).1, hnodup⟩, hnew, hrest⟩
  · rintro ⟨⟨hid, hkind, hname, hids, hnodup⟩, hnew, hrest⟩
    exact ⟨hid, hkind, hname, hnew,
      ⟨fun songId hmem => ⟨hids songId hmem, List.not_mem_nil⟩, hnodup⟩, hrest⟩

/-- The sources pass the check when they are well formed and distinct. -/
theorem validateSources_ok_iff {seen : List (CatalogCacheSourceKind × String)} :
    validateSources seen sources = .ok () ↔
      (∀ source ∈ sources, source.Valid ∧ (source.kind, source.sourceId) ∉ seen) ∧
        (sources.map fun source => (source.kind, source.sourceId)).Nodup := by
  induction sources generalizing seen with
  | nil => simp [validateSources]
  | cons source rest ih =>
    rw [validateSources_cons, ih, List.map_cons, List.nodup_cons]
    constructor
    · rintro ⟨hvalid, hnew, hrest, hdistinct⟩
      refine ⟨fun other hother => ?_, fun hmem => ?_, hdistinct⟩
      · rcases List.mem_cons.mp hother with rfl | htail
        · exact ⟨hvalid, hnew⟩
        · exact ⟨(hrest other htail).1, fun hseen => (hrest other htail).2 (List.mem_cons_of_mem _ hseen)⟩
      · obtain ⟨other, hother, hsame⟩ := List.mem_map.mp hmem
        exact (hrest other hother).2 (hsame ▸ List.mem_cons_self)
    · rintro ⟨hall, hfirst, hdistinct⟩
      obtain ⟨hvalid, hnew⟩ := hall source List.mem_cons_self
      refine ⟨hvalid, hnew, fun other hother => ?_, hdistinct⟩
      obtain ⟨hother', hseen⟩ := hall other (List.mem_cons_of_mem _ hother)
      refine ⟨hother', fun hmem => ?_⟩
      rcases List.mem_cons.mp hmem with hsame | hold
      · exact hfirst (List.mem_map.mpr ⟨other, hother, hsame⟩)
      · exact hseen hold

/-- An entry passes its part of the check when it is well formed and its path has no other id. -/
theorem validateEntries_cons {paths : List (List Char × String)} {entry : CatalogCacheEntry} :
    validateEntries tables sources paths (entry :: entries) = .ok () ↔
      entry.Valid tables sources ∧
        (∀ songId, paths.lookup (asciiFolded entry.canonicalPath) = some songId →
          songId = entry.songId) ∧
        validateEntries tables sources ((asciiFolded entry.canonicalPath, entry.songId) :: paths)
          entries = .ok () := by
  simp only [validateEntries, validateSourceId, validateText, Except.bind_eq_ok, failIf_eq_ok,
    okOr_eq_ok, Bool.not_eq_false, not_not, not_and]
  constructor
  · rintro ⟨⟨⟩, hid, source, hsource, ⟨⟩, hpath, ⟨⟩, hsong, ⟨⟩, hderived, ⟨⟩, htitle, ⟨⟩, hseen, ⟨⟩,
      hmem, hrest⟩
    refine ⟨⟨hid, ⟨source, hsource, hmem⟩, hpath, hsong, fun hkind => hderived hkind, htitle⟩,
      fun songId hlookup => ?_, hrest⟩
    simpa [hlookup] using hseen
  · rintro ⟨⟨hid, ⟨source, hsource, hmem⟩, hpath, hsong, hderived, htitle⟩, hseen, hrest⟩
    refine ⟨(), hid, source, hsource, (), hpath, (), hsong, (), hderived, (), htitle, (), ?_, (),
      hmem, hrest⟩
    cases hlookup : paths.lookup (asciiFolded entry.canonicalPath) with
    | none => simp
    | some songId => simp [hseen songId hlookup]

/-- The entries pass the check when they are well formed and no path has two ids. -/
theorem validateEntries_ok_iff {paths : List (List Char × String)} :
    validateEntries tables sources paths entries = .ok () ↔
      (∀ entry ∈ entries, entry.Valid tables sources ∧
        ∀ songId, paths.lookup (asciiFolded entry.canonicalPath) = some songId →
          songId = entry.songId) ∧
      ∀ left ∈ entries, ∀ right ∈ entries,
        asciiFolded left.canonicalPath = asciiFolded right.canonicalPath →
          left.songId = right.songId := by
  induction entries generalizing paths with
  | nil => simp [validateEntries]
  | cons entry rest ih =>
    rw [validateEntries_cons, ih]
    constructor
    · rintro ⟨hvalid, hseen, hrest, hpaths⟩
      have hfirst : ∀ other ∈ rest, asciiFolded entry.canonicalPath =
          asciiFolded other.canonicalPath → entry.songId = other.songId := by
        intro other hother hsame
        exact (hrest other hother).2 entry.songId (by rw [← hsame, List.lookup_cons_self])
      refine ⟨fun other hother => ?_, fun left hleft right hright hsame => ?_⟩
      · rcases List.mem_cons.mp hother with rfl | htail
        · exact ⟨hvalid, hseen⟩
        · refine ⟨(hrest other htail).1, fun songId hlookup => ?_⟩
          by_cases hsame : asciiFolded entry.canonicalPath = asciiFolded other.canonicalPath
          · rw [← hfirst other htail hsame]
            exact hseen songId (hsame ▸ hlookup)
          · refine (hrest other htail).2 songId ?_
            rw [List.lookup_cons, beq_false_of_ne (Ne.symm hsame)]
            exact hlookup
      · rcases List.mem_cons.mp hleft with rfl | hleftTail <;>
          rcases List.mem_cons.mp hright with hrightHead | hrightTail
        · rw [hrightHead]
        · exact hfirst right hrightTail hsame
        · subst hrightHead
          exact (hfirst left hleftTail hsame.symm).symm
        · exact hpaths left hleftTail right hrightTail hsame
    · rintro ⟨hall, hpaths⟩
      obtain ⟨hvalid, hseen⟩ := hall entry List.mem_cons_self
      refine ⟨hvalid, hseen, fun other hother => ?_, fun left hleft right hright =>
        hpaths left (List.mem_cons_of_mem _ hleft) right (List.mem_cons_of_mem _ hright)⟩
      obtain ⟨hother', hlookups⟩ := hall other (List.mem_cons_of_mem _ hother)
      refine ⟨hother', fun songId hlookup => ?_⟩
      by_cases hsame : asciiFolded other.canonicalPath = asciiFolded entry.canonicalPath
      · rw [hsame, List.lookup_cons_self] at hlookup
        rw [← Option.some.inj hlookup]
        exact hpaths entry List.mem_cons_self other (List.mem_cons_of_mem _ hother) hsame.symm
      · rw [List.lookup_cons, beq_false_of_ne hsame] at hlookup
        exact hlookups songId hlookup

/-- A cache passes the check exactly when it is well formed. -/
theorem validate_ok_iff : cache.validate tables = .ok () ↔ cache.Valid tables := by
  have hcovering : (¬∃ source ∈ cache.sources, ∃ songId ∈ source.songIds,
      songId ∉ cache.entries.map (·.songId)) ↔ ∀ source ∈ cache.sources, ∀ songId ∈ source.songIds,
        ∃ entry ∈ cache.entries, entry.songId = songId := by
    push Not
    simp only [List.mem_map]
  simp only [CatalogCache.validate, validateSha256Hex, Except.seq_eq_ok, failIf_eq_ok,
    validateSources_ok_iff, validateEntries_ok_iff, hcovering, not_not, not_lt]
  constructor
  · rintro ⟨hschema, hgeneration, hfingerprint, hsources, hentries, ⟨hvalid, hdistinct⟩,
      ⟨hentryValid, hpaths⟩, hcovered⟩
    exact ⟨hschema, hgeneration, hfingerprint, hsources, hentries,
      fun source hmem => (hvalid source hmem).1, hdistinct,
      fun entry hmem => (hentryValid entry hmem).1, hpaths, hcovered⟩
  · intro h
    exact ⟨h.schemaVersion, h.cacheGeneration, h.sourceFingerprint, h.sourceCount, h.entryCount,
      ⟨fun source hmem => ⟨h.sources source hmem, List.not_mem_nil⟩, h.distinct⟩,
      ⟨fun entry hmem => ⟨h.entries entry hmem, fun songId hlookup => by cases hlookup⟩, h.paths⟩,
      h.covered⟩

end Validate

end SkyAutoPlayer.NativeAdapters
