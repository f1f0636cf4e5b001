import SkyAutoPlayer.AppCore.CatalogIdentity
import SkyAutoPlayer.NativeAdapters.CatalogSources

/-!
# What a composition lists

A scan finds the songs of a directory, each at a path below it, whatever the order in which it comes
to the folders. A composition lists the songs of the built-in manifest, of the user's directory and of
the imports that can be read, and the ids of each source are the ids of its songs.
-/

namespace SkyAutoPlayer.NativeAdapters

open Foundation AppCore

variable {fs : FileSystem} {recursive : Bool} {directory path : String} {listing : Listing}
  {entry : CatalogSourceEntry} {entries found : List CatalogSourceEntry}

/-- A file below a directory. -/
inductive FileBelow (recursive : Bool) : String → Listing → String → Prop where
  | here {directory name : String} {rest : Listing} :
    FileBelow recursive directory (.file name rest) (joinPath directory name)
  | inside {directory name path : String} {contents rest : Listing} (hrecursive : recursive = true)
    (h : FileBelow recursive (joinPath directory name) contents path) :
    FileBelow recursive directory (.folder name contents rest) path
  | afterFile {directory name path : String} {rest : Listing}
    (h : FileBelow recursive directory rest path) :
    FileBelow recursive directory (.file name rest) path
  | afterFolder {directory name path : String} {contents rest : Listing}
    (h : FileBelow recursive directory rest path) :
    FileBelow recursive directory (.folder name contents rest) path
  | afterOther {directory name path : String} {rest : Listing}
    (h : FileBelow recursive directory rest path) :
    FileBelow recursive directory (.other name rest) path

/-- The song of a path: named by the path, and identified by what the path resolves to. -/
structure SongAt (fs : FileSystem) (path : String) (entry : CatalogSourceEntry) : Prop where
  file : fs.isFile path = true
  supported : isSupportedPath path = true
  canonical : fs.canonicalize path = .ok entry.canonicalPath
  title : entry.title = (fileStem path).getD ""
  identity : entry.identity = .pathDerived

/-- A song below a directory. -/
def SongBelow (fs : FileSystem) (recursive : Bool) (directory : String × Listing)
    (entry : CatalogSourceEntry) : Prop :=
  ∃ path, FileBelow recursive directory.1 directory.2 path ∧ SongAt fs path entry

/-- The songs of a path are the one at it. -/
theorem mem_entriesFromFile (h : entriesFromFile fs path = .ok entries) :
    entry ∈ entries ↔ SongAt fs path entry := by
  rw [entriesFromFile] at h
  split at h
  case isTrue hother =>
    obtain rfl := Except.ok.inj h
    refine iff_of_false List.not_mem_nil fun hsong => ?_
    simp [hsong.file, hsong.supported] at hother
  case isFalse hsupported =>
    have hfile : fs.isFile path = true ∧ isSupportedPath path = true := by simpa using hsupported
    cases hcanonical : fs.canonicalize path with
    | error message =>
      rw [hcanonical] at h
      cases h
    | ok canonical =>
      rw [hcanonical] at h
      obtain rfl := Except.ok.inj h
      rw [List.mem_singleton]
      constructor
      · rintro rfl
        exact ⟨hfile.1, hfile.2, hcanonical, rfl, rfl⟩
      · intro hsong
        have hpath := Except.ok.inj (hcanonical.symm.trans hsong.canonical)
        obtain ⟨_, _, _⟩ := entry
        rw [CatalogSourceEntry.mk.injEq]
        exact ⟨hpath.symm, hsong.title, hsong.identity⟩

/-- Listing a file first. -/
theorem songBelow_file {name : String} {rest : Listing} :
    SongBelow fs recursive (directory, .file name rest) entry ↔
      SongAt fs (joinPath directory name) entry ∨ SongBelow fs recursive (directory, rest) entry := by
  constructor
  · rintro ⟨path, hbelow, hsong⟩
    cases hbelow with
    | here => exact .inl hsong
    | afterFile h => exact .inr ⟨path, h, hsong⟩
  · rintro (hsong | ⟨path, hbelow, hsong⟩)
    · exact ⟨_, .here, hsong⟩
    · exact ⟨path, .afterFile hbelow, hsong⟩

/-- Listing a folder first. -/
theorem songBelow_folder {name : String} {contents rest : Listing} :
    SongBelow fs recursive (directory, .folder name contents rest) entry ↔
      (recursive = true ∧ SongBelow fs recursive (joinPath directory name, contents) entry) ∨
        SongBelow fs recursive (directory, rest) entry := by
  constructor
  · rintro ⟨path, hbelow, hsong⟩
    cases hbelow with
    | inside hrecursive h => exact .inl ⟨hrecursive, path, h, hsong⟩
    | afterFolder h => exact .inr ⟨path, h, hsong⟩
  · rintro (⟨hrecursive, path, hbelow, hsong⟩ | ⟨path, hbelow, hsong⟩)
    · exact ⟨path, .inside hrecursive hbelow, hsong⟩
    · exact ⟨path, .afterFolder hbelow, hsong⟩

/-- Listing something else first. -/
theorem songBelow_other {name : String} {rest : Listing} :
    SongBelow fs recursive (directory, .other name rest) entry ↔
      SongBelow fs recursive (directory, rest) entry := by
  constructor
  · rintro ⟨path, hbelow, hsong⟩
    cases hbelow with
    | afterOther h => exact ⟨path, h, hsong⟩
  · rintro ⟨path, hbelow, hsong⟩
    exact ⟨path, .afterOther hbelow, hsong⟩

/-- Nothing is below an empty listing. -/
theorem not_songBelow_nil : ¬SongBelow fs recursive (directory, .nil) entry := by
  rintro ⟨path, hbelow, -⟩
  cases hbelow

/-- A song that is found or below a directory to come. -/
def Pending (fs : FileSystem) (recursive : Bool) (directories : List (String × Listing))
    (found : List CatalogSourceEntry) (entry : CatalogSourceEntry) : Prop :=
  entry ∈ found ∨ ∃ directory ∈ directories, SongBelow fs recursive directory entry

/-- How many directories a scan still comes to. -/
def pendingCount (directories : List (String × Listing)) : ℕ :=
  (directories.map fun directory => directory.2.folderCount + 1).sum

/-- Going through a listing leaves what is found in the end, and counts its folders. -/
theorem scanListing_ok {directories next : List (String × Listing)}
    (h : scanListing fs recursive directory listing (directories, entries) = .ok (next, found)) :
    (Pending fs recursive next found entry ↔
      Pending fs recursive directories entries entry ∨
        SongBelow fs recursive (directory, listing) entry) ∧
      (recursive = false → next = directories) ∧
        pendingCount next ≤ pendingCount directories + listing.folderCount := by
  induction listing generalizing directories entries with
  | nil =>
    obtain ⟨rfl, rfl⟩ := Prod.mk.inj (Except.ok.inj h)
    refine ⟨?_, fun _ => rfl, Nat.le_refl _⟩
    exact ⟨.inl, fun hpending => hpending.resolve_right not_songBelow_nil⟩
  | file name rest ih =>
    rw [scanListing] at h
    obtain ⟨songs, hsongs, hrest⟩ := Except.bind_eq_ok.mp h
    obtain ⟨hpending, hnext, hcount⟩ := ih hrest
    refine ⟨?_, hnext, hcount⟩
    rw [hpending, songBelow_file, Pending, Pending, List.mem_append, mem_entriesFromFile hsongs]
    exact iff_of_eq (by ac_rfl)
  | folder name contents rest ihContents ih =>
    rw [scanListing] at h
    cases recursive with
    | false =>
      obtain ⟨hpending, hnext, hcount⟩ := ih h
      refine ⟨?_, hnext, ?_⟩
      · rw [hpending, songBelow_folder]
        simp
      · rw [Listing.folderCount]
        simp only [Bool.false_eq_true, if_false] at hcount
        omega
    | true =>
      obtain ⟨hpending, -, hcount⟩ := ih h
      refine ⟨?_, fun hfalse => absurd hfalse (by decide), ?_⟩
      · rw [hpending, songBelow_folder, Pending, Pending]
        simp only [if_true, List.mem_cons, exists_eq_or_imp, true_and]
        exact iff_of_eq (by ac_rfl)
      · simp only [if_true, pendingCount, List.map_cons, List.sum_cons] at hcount ⊢
        rw [Listing.folderCount]
        omega
  | other name rest ih =>
    obtain ⟨hpending, hnext, hcount⟩ := ih h
    refine ⟨?_, hnext, hcount⟩
    rw [hpending, songBelow_other]

/-- With enough fuel, a scan finds exactly the songs below its directories. -/
theorem mem_scanDirectories {fuel : ℕ} {directories : List (String × Listing)}
    (h : scanDirectories fs recursive fuel directories entries = .ok found)
    (hfuel : pendingCount directories ≤ fuel)
    (hsingle : recursive = false → directories.length ≤ 1) :
    entry ∈ found ↔ Pending fs recursive directories entries entry := by
  induction fuel generalizing directories entries with
  | zero =>
    cases directories with
    | nil =>
      rw [scanDirectories] at h
      obtain rfl := Except.ok.inj h
      simp [Pending]
    | cons directory rest =>
      simp [pendingCount] at hfuel
  | succ fuel ih =>
    cases directories with
    | nil =>
      rw [scanDirectories] at h
      obtain rfl := Except.ok.inj h
      simp [Pending]
    | cons directory rest =>
      obtain ⟨name, contents⟩ := directory
      rw [scanDirectories] at h
      have hconsumed : pendingCount ((name, contents) :: rest) =
          contents.folderCount + 1 + pendingCount rest := by
        simp [pendingCount]
      split at h
      · cases h
      · split at h
        · cases h
        case h_2 next scanned hlisting =>
          obtain ⟨hpending, hnext, hcount⟩ := @scanListing_ok fs recursive name contents entry _ _ _ _ hlisting
          have hstep : Pending fs recursive ((name, contents) :: rest) entries entry ↔
              Pending fs recursive next scanned entry := by
            rw [hpending, Pending, Pending]
            simp only [List.mem_cons, exists_eq_or_imp]
            exact iff_of_eq (by ac_rfl)
          rw [hstep]
          cases recursive with
          | true =>
            rw [if_pos rfl] at h
            exact ih h (by omega) fun hfalse => absurd hfalse (by decide)
          | false =>
            rw [if_neg (by decide)] at h
            obtain rfl := Except.ok.inj h
            have hrest : rest = [] := by
              have hlength := hsingle rfl
              simpa using hlength
            rw [Pending, hnext rfl, hrest]
            simp

/-- The songs of a directory are the songs below it. -/
theorem mem_entriesFromDirectory (h : entriesFromDirectory fs path recursive = .ok entries) :
    entry ∈ entries ↔ ∃ contents, fs.target path = some (.folder contents) ∧
      SongBelow fs recursive (path, contents) entry := by
  rw [entriesFromDirectory] at h
  split at h
  case h_1 hnone =>
    obtain rfl := Except.ok.inj h
    simp [hnone]
  · cases h
  · cases h
  case h_4 contents hfolder =>
    simp only [Except.bind_eq_ok, Except.pure_eq_ok] at h
    obtain ⟨scanned, hscanned, rfl⟩ := h
    rw [List.mem_insertionSort, mem_scanDirectories hscanned (by simp [pendingCount])
      (fun _ => Nat.le_refl 1), hfolder]
    simp [Pending]

/-- A built-in source is available: its manifest is well formed, and all its songs are in place. -/
structure BuiltinCatalogSource.Available (fs : FileSystem) (source : BuiltinCatalogSource)
    (manifest : BuiltinCatalogManifest) (canonicalRoot : String) : Prop where
  root : fs.isFolder source.root = true
  declared : source.manifest = some manifest
  valid : manifest.validate = .ok ()
  canonical : fs.canonicalize source.root = .ok canonicalRoot
  songs : ∀ item ∈ manifest.songs,
    (canonicalSong fs source.root canonicalRoot item.path).isSome = true

/-- A built-in song: its declared id and title, and the path that it resolves to. -/
structure BuiltinSong (fs : FileSystem) (source : BuiltinCatalogSource)
    (entry : CatalogSourceEntry) (item : BuiltinSongManifestEntry) (canonicalRoot : String) : Prop where
  canonical : BuiltinCatalogSource.canonicalSong fs source.root canonicalRoot item.path =
    some entry.canonicalPath
  title : entry.title = item.title
  identity : ∃ stableId, entry.identity = .stable stableId ∧ stableId.text = item.id

/-- A song that a source declares: one of the manifest, one of the user's directory, or one of a
readable import. -/
inductive Declares (fs : FileSystem) (composer : CatalogComposer) (imports : List ImportedSourceRef)
    (entry : CatalogSourceEntry) : Prop where
  | builtin (manifest : BuiltinCatalogManifest) (canonicalRoot : String)
    (item : BuiltinSongManifestEntry)
    (havailable : composer.builtin.Available fs manifest canonicalRoot)
    (hitem : item ∈ manifest.songs) (hsong : BuiltinSong fs composer.builtin entry item canonicalRoot)
  | user (contents : Listing) (htarget : fs.target composer.user = some (.folder contents))
    (hsong : SongBelow fs false (composer.user, contents) entry)
  | file (source : ImportedSourceRef) (hsource : source ∈ imports) (hkind : source.kind = .file)
    (hreadable : (importEntries fs source).isSome = true) (hsong : SongAt fs source.canonicalPath entry)
  | folder (source : ImportedSourceRef) (contents : Listing) (hsource : source ∈ imports)
    (hkind : source.kind = .folder) (hreadable : (importEntries fs source).isSome = true)
    (htarget : fs.target source.canonicalPath = some (.folder contents))
    (hsong : SongBelow fs true (source.canonicalPath, contents) entry)

section Builtin

variable {source : BuiltinCatalogSource} {root canonicalRoot : String}
  {songs : List BuiltinSongManifestEntry}

/-- A well-formed id is stable. -/
theorem stableSongId_some {id : String} {stableId : StableSongId} :
    stableSongId? id = some stableId ↔ stableId.text = id := by
  unfold stableSongId?
  split
  case isTrue hvalid =>
    rw [Option.some.injEq]
    constructor
    · rintro rfl
      rfl
    · rintro rfl
      rfl
  case isFalse hinvalid =>
    refine iff_of_false (by simp) fun htext => hinvalid ?_
    rw [← htext]
    exact stableId.valid

/-- What is loaded is an entry for every song. -/
theorem mem_loadSongs
    (h : BuiltinCatalogSource.loadSongs fs source.root canonicalRoot songs = .ok entries) :
    (entry ∈ entries ↔ ∃ item ∈ songs, BuiltinSong fs source entry item canonicalRoot) ∧
      ∀ item ∈ songs,
        (BuiltinCatalogSource.canonicalSong fs source.root canonicalRoot item.path).isSome = true := by
  induction songs generalizing entries with
  | nil =>
    obtain rfl := Except.ok.inj h
    simp
  | cons item rest ih =>
    simp only [BuiltinCatalogSource.loadSongs, Except.bind_eq_ok, okOr_eq_ok, Except.pure_eq_ok] at h
    obtain ⟨canonical, hcanonical, stableId, hstable, others, hothers, rfl⟩ := h
    obtain ⟨hmem, hsongs⟩ := ih hothers
    rw [stableSongId_some] at hstable
    constructor
    · rw [List.mem_cons, hmem]
      simp only [List.mem_cons, exists_eq_or_imp]
      refine or_congr_left ?_
      constructor
      · rintro rfl
        exact ⟨hcanonical, rfl, stableId, rfl, hstable⟩
      · rintro ⟨hpath, htitle, otherId, hidentity, hother⟩
        have hsame := Option.some.inj (hcanonical.symm.trans hpath)
        obtain ⟨entryPath, entryTitle, entryIdentity⟩ := entry
        rw [CatalogSourceEntry.mk.injEq]
        refine ⟨hsame.symm, htitle, hidentity.trans ?_⟩
        have hids : stableSongId? item.id = some stableId := stableSongId_some.mpr hstable
        rw [stableSongId_some.mpr hother] at hids
        rw [Option.some.inj hids]
    · intro other hother
      rcases List.mem_cons.mp hother with rfl | hrest
      · rw [hcanonical]
        rfl
      · exact hsongs other hrest

/-- Songs that are all in place are loaded. -/
theorem exists_loadSongs
    (hplace : ∀ item ∈ songs,
      (BuiltinCatalogSource.canonicalSong fs root canonicalRoot item.path).isSome = true)
    (hvalid : ∀ item ∈ songs, isValidId item.id = true) :
    ∃ entries, BuiltinCatalogSource.loadSongs fs root canonicalRoot songs = .ok entries := by
  induction songs with
  | nil => exact ⟨[], rfl⟩
  | cons item rest ih =>
    obtain ⟨others, hothers⟩ := ih (fun other hother => hplace other (List.mem_cons_of_mem _ hother))
      fun other hother => hvalid other (List.mem_cons_of_mem _ hother)
    obtain ⟨canonical, hcanonical⟩ := Option.isSome_iff_exists.mp (hplace item List.mem_cons_self)
    have hstable : stableSongId? item.id = some ⟨item.id, hvalid item List.mem_cons_self⟩ :=
      stableSongId_some.mpr rfl
    refine ⟨⟨canonical, item.title, .stable ⟨item.id, hvalid item List.mem_cons_self⟩⟩ :: others, ?_⟩
    simp only [BuiltinCatalogSource.loadSongs, Except.bind_eq_ok, okOr_eq_ok]
    exact ⟨canonical, hcanonical, _, hstable, others, hothers, rfl⟩

/-- The manifest is loaded exactly when its source is available. -/
theorem loadManifest_ok {ids : List String} (h : source.loadManifest fs = .ok (entries, ids)) :
    ∃ manifest canonicalRoot, source.Available fs manifest canonicalRoot ∧
      ids = manifest.songs.map (·.id) ∧
        BuiltinCatalogSource.loadSongs fs source.root canonicalRoot manifest.songs = .ok entries := by
  simp only [BuiltinCatalogSource.loadManifest, Except.bind_eq_ok, failIf_eq_ok, okOr_eq_ok,
    Except.mapError_eq_ok, Except.pure_eq_ok] at h
  obtain ⟨⟨⟩, hroot, manifest, hmanifest, ⟨⟩, hvalid, canonicalRoot, hcanonical, loaded, hloaded,
    hpair⟩ := h
  obtain ⟨rfl, rfl⟩ := Prod.mk.inj hpair
  have hsongs := (@mem_loadSongs fs ⟨"", "", .pathDerived⟩ _ source _ _ hloaded).2
  exact ⟨manifest, canonicalRoot,
    ⟨Bool.eq_true_of_not_eq_false hroot, hmanifest, hvalid, hcanonical, hsongs⟩, rfl, hloaded⟩

/-- The songs of a checked manifest have well-formed ids. -/
theorem isValidId_of_validate {manifest : BuiltinCatalogManifest} (h : manifest.validate = .ok ())
    {item : BuiltinSongManifestEntry} (hitem : item ∈ manifest.songs) : isValidId item.id = true := by
  simp only [BuiltinCatalogManifest.validate, Except.bind_eq_ok, failIf_eq_ok] at h
  obtain ⟨⟨⟩, -, ⟨⟩, hsongs, -⟩ := h
  exact isValidId_of_validateSongs hsongs hitem

/-- An available source is loaded. -/
theorem BuiltinCatalogSource.Available.load {manifest : BuiltinCatalogManifest}
    (h : source.Available fs manifest canonicalRoot) :
    ∃ entries, source.loadManifest fs = .ok (entries, manifest.songs.map (·.id)) ∧
      BuiltinCatalogSource.loadSongs fs source.root canonicalRoot manifest.songs = .ok entries := by
  obtain ⟨entries, hentries⟩ := exists_loadSongs h.songs fun item hitem =>
    isValidId_of_validate h.valid hitem
  refine ⟨entries, ?_, hentries⟩
  simp only [BuiltinCatalogSource.loadManifest, Except.bind_eq_ok, failIf_eq_ok, okOr_eq_ok,
    Except.mapError_eq_ok]
  refine ⟨(), ?_, manifest, h.declared, (), h.valid, canonicalRoot, h.canonical, entries, hentries, rfl⟩
  rw [h.root]
  decide

/-- The entries of the built-in source are its songs. -/
theorem mem_load :
    entry ∈ (source.load fs).1 ↔ ∃ manifest canonicalRoot, ∃ item ∈ manifest.songs,
      source.Available fs manifest canonicalRoot ∧ BuiltinSong fs source entry item canonicalRoot := by
  unfold BuiltinCatalogSource.load
  constructor
  · intro hmem
    split at hmem
    case h_1 hload =>
      obtain ⟨manifest, canonicalRoot, havailable, -, hsongs⟩ := loadManifest_ok hload
      obtain ⟨item, hitem, hsong⟩ := (mem_loadSongs hsongs).1.mp hmem
      exact ⟨manifest, canonicalRoot, item, hitem, havailable, hsong⟩
    · exact absurd hmem List.not_mem_nil
  · rintro ⟨manifest, canonicalRoot, item, hitem, havailable, hsong⟩
    obtain ⟨entries, hload, hsongs⟩ := havailable.load
    rw [hload]
    exact (mem_loadSongs hsongs).1.mpr ⟨item, hitem, hsong⟩

/-- The ids of the built-in source are the ids of its entries. -/
theorem mem_load_ids {tables : CatalogTables} {songId : String} :
    songId ∈ (source.load fs).2.1 ↔ ∃ entry ∈ (source.load fs).1, entry.songId tables = songId := by
  unfold BuiltinCatalogSource.load
  split
  case h_1 loaded ids hload =>
    obtain ⟨manifest, canonicalRoot, havailable, rfl, hsongs⟩ := loadManifest_ok hload
    rw [List.mem_toFinset]
    constructor
    · intro hmem
      obtain ⟨item, hitem, rfl⟩ := List.mem_map.mp hmem
      obtain ⟨canonical, hcanonical⟩ := Option.isSome_iff_exists.mp (havailable.songs item hitem)
      have hvalid := isValidId_of_validate havailable.valid hitem
      refine ⟨⟨canonical, item.title, .stable ⟨item.id, hvalid⟩⟩, ?_, rfl⟩
      exact (mem_loadSongs hsongs).1.mpr ⟨item, hitem, hcanonical, rfl, _, rfl, rfl⟩
    · rintro ⟨entry, hentry, rfl⟩
      obtain ⟨item, hitem, hsong⟩ := (mem_loadSongs hsongs).1.mp hentry
      obtain ⟨stableId, hidentity, hid⟩ := hsong.identity
      refine List.mem_map.mpr ⟨item, hitem, ?_⟩
      rw [CatalogSourceEntry.songId, hidentity]
      exact hid.symm
  · simp

end Builtin

section Compose

variable {tables : CatalogTables} {composer : CatalogComposer} {imports : List ImportedSourceRef}
  {composition : CatalogComposition} {songId : String}

/-- The songs of an import, none if it cannot be read. -/
def importSongs (fs : FileSystem) (source : ImportedSourceRef) : List CatalogSourceEntry :=
  (importEntries fs source).getD []

/-- What becomes of an import. -/
def importStatus (tables : CatalogTables) (fs : FileSystem) (source : ImportedSourceRef) :
    ImportedSourceCatalogStatus :=
  ⟨source.sourceId, source.kind, importDisplayName source.canonicalPath source.kind,
    (pathIds tables (importSongs fs source)).card, (importEntries fs source).isSome⟩

/-- The status of an import has its id. -/
theorem importStatus_sourceId {source : ImportedSourceRef} :
    (importStatus tables fs source).sourceId = source.sourceId := rfl

/-- The status of an import has the name of its path. -/
theorem importStatus_displayName {source : ImportedSourceRef} :
    (importStatus tables fs source).displayName =
      importDisplayName source.canonicalPath source.kind := rfl

/-- The ids of some imports. -/
def importMemberships (tables : CatalogTables) (fs : FileSystem)
    (memberships : List (String × Finset String)) (imports : List ImportedSourceRef) :
    List (String × Finset String) :=
  imports.foldl (fun found source =>
    setMembership source.sourceId (pathIds tables (importSongs fs source)) found) memberships

/-- An import adds its songs, its status and its ids. -/
theorem addImport_eq {source : ImportedSourceRef} :
    composition.addImport tables fs source =
      { composition with
        entries := composition.entries ++ importSongs fs source
        importedStatus := composition.importedStatus ++ [importStatus tables fs source]
        importedMembership := setMembership source.sourceId (pathIds tables (importSongs fs source))
          composition.importedMembership } := by
  unfold CatalogComposition.addImport importStatus importSongs
  cases importEntries fs source with
  | none => simp [pathIds]
  | some songs => rfl

/-- Imports add their songs, their statuses and their ids. -/
theorem foldl_addImport :
    imports.foldl (CatalogComposition.addImport tables fs) composition =
      { composition with
        entries := composition.entries ++ imports.flatMap (importSongs fs)
        importedStatus := composition.importedStatus ++ imports.map (importStatus tables fs)
        importedMembership :=
          importMemberships tables fs composition.importedMembership imports } := by
  induction imports generalizing composition with
  | nil => simp [importMemberships]
  | cons source rest ih =>
    rw [List.foldl_cons, ih, addImport_eq]
    simp [importMemberships, List.append_assoc]

/-- What a composition is made of. -/
structure Composed (tables : CatalogTables) (fs : FileSystem) (composer : CatalogComposer)
    (imports : List ImportedSourceRef) (userEntries : List CatalogSourceEntry)
    (composition : CatalogComposition) : Prop where
  user : entriesFromDirectory fs composer.user false = .ok userEntries
  entries : composition.entries = ((composer.builtin.load fs).1 ++ userEntries ++
    imports.flatMap (importSongs fs)).insertionSort pathOrder
  builtinMembership : composition.builtinMembership = (composer.builtin.load fs).2.1
  userMembership : composition.userMembership = pathIds tables userEntries
  libraryMembership : composition.libraryMembership =
    composition.builtinMembership ∪ composition.userMembership
  importedMembership : composition.importedMembership = importMemberships tables fs [] imports
  importedStatus : composition.importedStatus = imports.map (importStatus tables fs)
  builtinStatus : composition.builtinStatus = (composer.builtin.load fs).2.2

/-- A composition is made of its sources. -/
theorem composed_of_compose (h : composer.compose tables fs imports = .ok composition) :
    ∃ userEntries, Composed tables fs composer imports userEntries composition := by
  simp only [CatalogComposer.compose, Except.bind_eq_ok, Except.pure_eq_ok] at h
  obtain ⟨userEntries, huser, rfl⟩ := h
  rw [foldl_addImport]
  exact ⟨userEntries, huser, rfl, rfl, rfl, rfl, rfl, rfl, rfl⟩

/-- The songs of an import are declared. -/
theorem declares_of_mem_importSongs {source : ImportedSourceRef} (hsource : source ∈ imports)
    (hmem : entry ∈ importSongs fs source) : Declares fs composer imports entry := by
  unfold importSongs at hmem
  cases h : importEntries fs source with
  | none =>
    rw [h] at hmem
    exact absurd hmem List.not_mem_nil
  | some songs =>
    rw [h] at hmem
    have hreadable : (importEntries fs source).isSome = true := by rw [h]; rfl
    unfold importEntries at h
    split at h
    · cases h
    · split at h
      case h_1 hkind =>
        cases hentries : entriesFromFile fs source.canonicalPath with
        | error error =>
          rw [hentries] at h
          cases h
        | ok found =>
          rw [hentries] at h
          obtain rfl := Option.some.inj h
          exact .file source hsource hkind hreadable ((mem_entriesFromFile hentries).mp hmem)
      case h_2 hkind =>
        cases hentries : entriesFromDirectory fs source.canonicalPath true with
        | error error =>
          rw [hentries] at h
          cases h
        | ok found =>
          rw [hentries] at h
          obtain rfl := Option.some.inj h
          obtain ⟨contents, htarget, hsong⟩ := (mem_entriesFromDirectory hentries).mp hmem
          exact .folder source contents hsource hkind hreadable htarget hsong

/-- The songs of an import that can be read are listed. -/
theorem mem_importSongs {source : ImportedSourceRef}
    (hreadable : (importEntries fs source).isSome = true)
    (hsong : source.kind = .file ∧ SongAt fs source.canonicalPath entry ∨
      source.kind = .folder ∧ ∃ contents, fs.target source.canonicalPath = some (.folder contents) ∧
        SongBelow fs true (source.canonicalPath, contents) entry) :
    entry ∈ importSongs fs source := by
  obtain ⟨songs, h⟩ := Option.isSome_iff_exists.mp hreadable
  unfold importSongs
  rw [h]
  unfold importEntries at h
  split at h
  · cases h
  · rcases hsong with ⟨hkind, hat⟩ | ⟨hkind, hbelow⟩
    · rw [hkind] at h
      cases hentries : entriesFromFile fs source.canonicalPath with
      | error error =>
        rw [hentries] at h
        cases h
      | ok found =>
        rw [hentries] at h
        obtain rfl := Option.some.inj h
        exact (mem_entriesFromFile hentries).mpr hat
    · rw [hkind] at h
      cases hentries : entriesFromDirectory fs source.canonicalPath true with
      | error error =>
        rw [hentries] at h
        cases h
      | ok found =>
        rw [hentries] at h
        obtain rfl := Option.some.inj h
        exact (mem_entriesFromDirectory hentries).mpr hbelow

/-- The entries of a composition are the songs that its sources declare. -/
theorem Composed.mem_iff {userEntries : List CatalogSourceEntry}
    (h : Composed tables fs composer imports userEntries composition) :
    entry ∈ composition.entries ↔ Declares fs composer imports entry := by
  rw [h.entries, List.mem_insertionSort, List.mem_append, List.mem_append, List.mem_flatMap]
  constructor
  · rintro ((hbuiltin | huser) | ⟨source, hsource, hmem⟩)
    · obtain ⟨manifest, canonicalRoot, item, hitem, havailable, hsong⟩ := mem_load.mp hbuiltin
      exact .builtin manifest canonicalRoot item havailable hitem hsong
    · obtain ⟨contents, htarget, hsong⟩ := (mem_entriesFromDirectory h.user).mp huser
      exact .user contents htarget hsong
    · exact declares_of_mem_importSongs hsource hmem
  · intro hdeclares
    cases hdeclares with
    | builtin manifest canonicalRoot item havailable hitem hsong =>
      exact .inl (.inl (mem_load.mpr ⟨manifest, canonicalRoot, item, hitem, havailable, hsong⟩))
    | user contents htarget hsong =>
      exact .inl (.inr ((mem_entriesFromDirectory h.user).mpr ⟨contents, htarget, hsong⟩))
    | file source hsource hkind hreadable hsong =>
      exact .inr ⟨source, hsource, mem_importSongs hreadable (.inl ⟨hkind, hsong⟩)⟩
    | folder source contents hsource hkind hreadable htarget hsong =>
      exact .inr ⟨source, hsource,
        mem_importSongs hreadable (.inr ⟨hkind, contents, htarget, hsong⟩)⟩

/-- A song of a path is identified by it. -/
theorem SongAt.songId_eq (h : SongAt fs path entry) :
    entry.songId tables = songIdForCanonicalPath tables entry.canonicalPath := by
  rw [CatalogSourceEntry.songId, h.identity]

/-- The ids by path are the ids of entries that are identified by their paths. -/
theorem mem_pathIds (h : ∀ entry ∈ entries, ∃ path, SongAt fs path entry) :
    songId ∈ pathIds tables entries ↔ ∃ entry ∈ entries, entry.songId tables = songId := by
  rw [pathIds, List.mem_toFinset, List.mem_map]
  refine exists_congr fun entry => and_congr_right fun hmem => ?_
  obtain ⟨path, hsong⟩ := h entry hmem
  rw [hsong.songId_eq]

/-- The songs of the user are identified by their paths. -/
theorem songAt_of_mem_user (h : entriesFromDirectory fs path recursive = .ok entries)
    (hmem : entry ∈ entries) : ∃ path, SongAt fs path entry := by
  obtain ⟨contents, -, below, -, hsong⟩ := (mem_entriesFromDirectory h).mp hmem
  exact ⟨below, hsong⟩

/-- The songs of an import are identified by their paths. -/
theorem songAt_of_mem_importSongs {source : ImportedSourceRef}
    (hmem : entry ∈ importSongs fs source) : ∃ path, SongAt fs path entry := by
  have hdeclares := @declares_of_mem_importSongs fs entry ⟨⟨"", none⟩, ""⟩ [source] source
    List.mem_cons_self hmem
  cases hdeclares with
  | builtin manifest _ _ havailable => exact absurd havailable.declared (by simp)
  | user contents _ hsong =>
    obtain ⟨below, -, hat⟩ := hsong
    exact ⟨below, hat⟩
  | file other _ _ _ hsong => exact ⟨_, hsong⟩
  | folder other contents _ _ _ _ hsong =>
    obtain ⟨below, -, hat⟩ := hsong
    exact ⟨below, hat⟩

/-- The ids of an import are set by one of its name. -/
theorem mem_importMemberships {memberships : List (String × Finset String)}
    {membership : String × Finset String}
    (h : membership ∈ importMemberships tables fs memberships imports) :
    membership ∈ memberships ∨ ∃ source ∈ imports,
      membership = (source.sourceId, pathIds tables (importSongs fs source)) := by
  induction imports generalizing memberships with
  | nil => exact .inl h
  | cons source rest ih =>
    rcases ih h with hset | ⟨other, hother, heq⟩
    · rcases List.mem_cons.mp hset with rfl | hold
      · exact .inr ⟨source, List.mem_cons_self, rfl⟩
      · exact .inl (List.mem_of_mem_filter hold)
    · exact .inr ⟨other, List.mem_cons_of_mem _ hother, heq⟩

/-- Every id of a composition is the id of an entry. -/
theorem Composed.exists_entry {userEntries : List CatalogSourceEntry}
    (h : Composed tables fs composer imports userEntries composition)
    (hmem : songId ∈ composition.libraryMembership ∨ songId ∈ composition.builtinMembership ∨
      songId ∈ composition.userMembership ∨
        ∃ membership ∈ composition.importedMembership, songId ∈ membership.2) :
    ∃ entry ∈ composition.entries, entry.songId tables = songId := by
  have hbuiltin (hid : songId ∈ composition.builtinMembership) :
      ∃ entry ∈ composition.entries, entry.songId tables = songId := by
    rw [h.builtinMembership] at hid
    obtain ⟨entry, hentry, hsong⟩ := mem_load_ids.mp hid
    refine ⟨entry, ?_, hsong⟩
    rw [h.entries, List.mem_insertionSort]
    exact List.mem_append_left _ (List.mem_append_left _ hentry)
  have huser (hid : songId ∈ composition.userMembership) :
      ∃ entry ∈ composition.entries, entry.songId tables = songId := by
    rw [h.userMembership] at hid
    obtain ⟨entry, hentry, hsong⟩ :=
      (mem_pathIds fun other hother => songAt_of_mem_user h.user hother).mp hid
    refine ⟨entry, ?_, hsong⟩
    rw [h.entries, List.mem_insertionSort]
    exact List.mem_append_left _ (List.mem_append_right _ hentry)
  rcases hmem with hlibrary | hid | hid | ⟨membership, hmembership, hid⟩
  · rw [h.libraryMembership] at hlibrary
    exact (Finset.mem_union.mp hlibrary).elim hbuiltin huser
  · exact hbuiltin hid
  · exact huser hid
  · rw [h.importedMembership] at hmembership
    rcases mem_importMemberships hmembership with hnil | ⟨source, hsource, rfl⟩
    · exact absurd hnil List.not_mem_nil
    · obtain ⟨entry, hentry, hsong⟩ :=
        (mem_pathIds fun other hother => songAt_of_mem_importSongs hother).mp hid
      refine ⟨entry, ?_, hsong⟩
      rw [h.entries, List.mem_insertionSort]
      exact List.mem_append_right _ (List.mem_flatMap.mpr ⟨source, hsource, hentry⟩)

end Compose

end SkyAutoPlayer.NativeAdapters
