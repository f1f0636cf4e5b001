import Mathlib.Data.List.Sort
import SkyAutoPlayer.AppCore.LibraryManifest
import SkyAutoPlayer.Foundation.CallPool

/-!
# Claiming, composing and finishing a catalog load

Four entry points load the catalog: the background load and the task it spawns, the load on first
use, the reload, and an import, which registers its sources and then goes on as a reload or as a
load on first use. A load claims the load state and an epoch, composes outside every lock, and
finishes under the lock of the load state.

Every section under that lock is one step. The finish reads the manifest under the manifest's own
lock, which no other section holds together with the load state, and the section is placed where it
reads.
-/

namespace SkyAutoPlayer.Desktop

open Foundation AppCore

/-- The sources an import may select. -/
def maxImportSelections : ℕ := 1024

/-- Where the catalog load stands. -/
inductive CatalogLoadState where
  | uninitialized
  | cached (generation : ℕ)
  | reconciling (generation : ℕ)
  | loading
  | ready (generation : ℕ)
  | failed (message : String)
  | closing
  deriving DecidableEq, Repr

/-- What a claim is for. -/
inductive CatalogLoadWork where
  | rebuild
  | reconcile
  deriving DecidableEq, Repr

/-- The right to finish a load, until a later claim. -/
structure CatalogLoadClaim where
  work : CatalogLoadWork
  epoch : ℕ
  deriving DecidableEq, Repr

/-- The part of a composition that the load reads: the fingerprint of its sources. -/
structure CatalogCompositionSnapshot where
  sourceFingerprint : String
  deriving DecidableEq, Repr

/-- The state that the loads share. -/
structure CatalogRuntime where
  catalogLoad : CatalogLoadState
  catalogLoadEpoch : ℕ
  closed : Bool
  libraryManifest : LibraryManifestService
  catalogGeneration : ℕ

/-- What an entry point returns. -/
inductive CatalogReply where
  | finished
  | loaded (generation : ℕ)
  | reloaded (generation total : ℕ)
  deriving DecidableEq, Repr

/-- The code around a load: the digest of a fingerprint's payload, the fingerprint of the sources
that never change, and the identity of an imported source. -/
structure CatalogEnvironment where
  digestHex : String × List ImportedSourceRef → String
  catalogSourceStaticFingerprint : String
  importedSourceId : String → ImportedSourceKind → String

/-- What the file system, the composer, the index, the store and the event hub answer a step. -/
structure CatalogChoice where
  sourcePathIdentity : String → String
  resolveImport : String → ImportedSourceKind → Except String String
  importedSongs : Except String (List String)
  composed : Except String Unit
  indexed : Except String Unit
  libraryTotal : Except String ℕ
  published : Except String Unit
  saveFailure : SaveFailure

/-- The message of a load after the shutdown. -/
def closingError : String := "closing: desktop application is closing"

/-- The message of a load while another one is in progress. -/
def loadingError : String := "catalog_loading: catalog is still loading"

/-- The generation that the catalog shows, if there is one. -/
def CatalogLoadState.generation? : CatalogLoadState → Option ℕ
  | .cached generation | .reconciling generation | .ready generation => some generation
  | .uninitialized | .loading | .failed _ | .closing => none

/-- A load is in progress. -/
def CatalogLoadState.inProgress : CatalogLoadState → Bool
  | .loading | .reconciling _ => true
  | .uninitialized | .cached _ | .ready _ | .failed _ | .closing => false

/-- The order of the imports in the payload of a fingerprint. -/
def importOrder (left right : ImportedSourceRef) : Prop :=
  left.sourceId < right.sourceId ∨ left.sourceId = right.sourceId ∧
    (left.canonicalPath < right.canonicalPath ∨ left.canonicalPath = right.canonicalPath ∧
      (left.kind = .file ∨ right.kind = .folder))

instance : DecidableRel importOrder := fun left right =>
  inferInstanceAs (Decidable (left.sourceId < right.sourceId ∨ left.sourceId = right.sourceId ∧
    (left.canonicalPath < right.canonicalPath ∨ left.canonicalPath = right.canonicalPath ∧
      (left.kind = .file ∨ right.kind = .folder))))

/-- The fingerprint of the sources of a catalog. -/
def computeCatalogSourceFingerprint (env : CatalogEnvironment) (sourcePathIdentity : String → String)
    (imports : List ImportedSourceRef) : String :=
  let normalizedImports := imports.map fun source =>
    { source with canonicalPath := sourcePathIdentity source.canonicalPath }
  env.digestHex (env.catalogSourceStaticFingerprint, normalizedImports.insertionSort importOrder)

namespace CatalogRuntime

/-- The application is closing. -/
def isClosing (runtime : CatalogRuntime) : Bool :=
  runtime.closed || runtime.catalogLoad = .closing

/-- Enter a load state under the next epoch, with a claim for the work. -/
def claim (work : CatalogLoadWork) (state : CatalogLoadState) (runtime : CatalogRuntime) :
    CatalogRuntime × CatalogLoadClaim :=
  let epoch := (runtime.catalogLoadEpoch + 1) % 2 ^ 64
  ({ runtime with catalogLoad := state, catalogLoadEpoch := epoch }, ⟨work, epoch⟩)

/-- A claim still owns the load. -/
def catalogLoadClaimIsCurrent (runtime : CatalogRuntime) (claim : CatalogLoadClaim) : Bool :=
  runtime.catalogLoadEpoch = claim.epoch &&
    match claim.work, runtime.catalogLoad with
    | .rebuild, .loading => true
    | .reconcile, .reconciling _ => true
    | _, _ => false

/-- The claim of the background load, if there is work. -/
def claimCatalogLoad (runtime : CatalogRuntime) :
    CatalogRuntime × Except String (Option CatalogLoadClaim) :=
  match runtime.catalogLoad with
  | .loading | .reconciling _ | .ready _ => (runtime, .ok none)
  | .closing => (runtime, .error closingError)
  | .cached generation =>
    let (claimed, owned) := runtime.claim .reconcile (.reconciling generation)
    (claimed, .ok (some owned))
  | .uninitialized | .failed _ =>
    let (claimed, owned) := runtime.claim .rebuild .loading
    (claimed, .ok (some owned))

/-- The claim of the load on first use, or the generation there already is. -/
def ensureClaim (runtime : CatalogRuntime) :
    CatalogRuntime × Except String (ℕ ⊕ CatalogLoadClaim) :=
  match runtime.catalogLoad with
  | .cached generation | .reconciling generation | .ready generation =>
    (runtime, .ok (.inl generation))
  | .loading => (runtime, .error loadingError)
  | .failed message => (runtime, .error ("catalog_failed: " ++ message))
  | .closing => (runtime, .error closingError)
  | .uninitialized =>
    let (claimed, owned) := runtime.claim .rebuild .loading
    (claimed, .ok (.inr owned))

/-- The claim of a reload. -/
def reloadClaim (runtime : CatalogRuntime) : CatalogRuntime × Except String CatalogLoadClaim :=
  if runtime.isClosing then (runtime, .error closingError)
  else if runtime.catalogLoad = .loading then (runtime, .error loadingError)
  else
    let (claimed, owned) := runtime.claim .rebuild .loading
    (claimed, .ok owned)

/-- Index a composition, and count the library. -/
def applyCatalogComposition (choice : CatalogChoice) (runtime : CatalogRuntime) :
    CatalogRuntime × Except String (ℕ × ℕ) :=
  match choice.indexed, checkedAdd 64 runtime.catalogGeneration 1 with
  | .error message, _ => (runtime, .error message)
  | .ok (), none => (runtime, .error "catalog generation overflowed")
  | .ok (), some generation =>
    ({ runtime with catalogGeneration := generation },
      choice.libraryTotal.map fun total => (generation, total))

/-- The fingerprint of the manifest's imports now. -/
def currentFingerprint (env : CatalogEnvironment) (choice : CatalogChoice)
    (runtime : CatalogRuntime) : String :=
  computeCatalogSourceFingerprint env choice.sourcePathIdentity
    runtime.libraryManifest.current.imports

/-- Index a composition, unless its sources have changed since it was made. -/
def applyCatalogSnapshotIfCurrent (env : CatalogEnvironment) (choice : CatalogChoice)
    (snapshot : CatalogCompositionSnapshot) (runtime : CatalogRuntime) :
    CatalogRuntime × Except String (Option (ℕ × ℕ)) :=
  if runtime.currentFingerprint env choice ≠ snapshot.sourceFingerprint then (runtime, .ok none)
  else
    let (applied, result) := runtime.applyCatalogComposition choice
    (applied, result.map some)

end CatalogRuntime

/-- Who finishes a load. -/
inductive LoadOwner where
  | task
  | ensure
  | reload
  deriving DecidableEq, Repr

/-- The message of a load whose claim is no longer current. -/
def LoadOwner.superseded : LoadOwner → String
  | .reload => "catalog_loading: catalog reload was superseded"
  | _ => "catalog_loading: catalog load was superseded"

/-- Where a call stands. The background load goes on as the task it spawned, and an import as the
load that it ends with. -/
inductive CatalogCall where
  | start
  | claimLoad
  | task (claim : CatalogLoadClaim)
  | ensure
  | reload
  | importPaths (playlistId : String) (paths : List String) (kind : ImportedSourceKind)
  | importCommit (playlistId : String) (imports : List ImportedSourceRef) (songIds : List String)
  | compose (owner : LoadOwner) (claim : CatalogLoadClaim)
  | finish (owner : LoadOwner) (claim : CatalogLoadClaim)
      (composition : Except String CatalogCompositionSnapshot)
  | shutdown
  | returned (reply : Except String CatalogReply)

/-- The claim that a call has and has not finished. -/
def CatalogCall.claim? : CatalogCall → Option CatalogLoadClaim
  | .task claim | .compose _ claim | .finish _ claim _ => some claim
  | .start | .claimLoad | .ensure | .reload | .importPaths _ _ _ | .importCommit _ _ _ | .shutdown
  | .returned _ => none

/-- Enter the state that a load ends in. The background task leaves the state as it is when the
sources have changed. -/
def settleLoad (choice : CatalogChoice) (owner : LoadOwner) (runtime : CatalogRuntime) :
    Except String (Option (ℕ × ℕ)) → CatalogRuntime × Except String CatalogReply
  | .ok (some (generation, total)) =>
    ({ runtime with catalogLoad := .ready generation },
      match owner with
      | .task => .ok .finished
      | .ensure => .ok (.loaded generation)
      | .reload => choice.published.map fun _ => .reloaded generation total)
  | .ok none =>
    match owner with
    | .task => (runtime, .ok .finished)
    | .ensure =>
      ({ runtime with catalogLoad := .uninitialized }, .error "catalog source changed during load")
    | .reload =>
      ({ runtime with catalogLoad := .uninitialized },
        .error "catalog source changed during reload")
  | .error message =>
    ({ runtime with catalogLoad := .failed message },
      match owner with
      | .task => .ok .finished
      | _ => .error message)

/-- Apply a composition, if there is one, and settle the load. -/
def applyLoad (env : CatalogEnvironment) (choice : CatalogChoice) (owner : LoadOwner)
    (runtime : CatalogRuntime) :
    Except String CatalogCompositionSnapshot → CatalogRuntime × Except String CatalogReply
  | .ok snapshot =>
    let (applied, result) := runtime.applyCatalogSnapshotIfCurrent env choice snapshot
    settleLoad choice owner applied result
  | .error message => settleLoad choice owner runtime (.error message)

/-- The last section of a load. The background task looks at its claim first, the others at the
shutdown. -/
def finishLoad (env : CatalogEnvironment) (choice : CatalogChoice) (owner : LoadOwner)
    (claim : CatalogLoadClaim) (composition : Except String CatalogCompositionSnapshot)
    (runtime : CatalogRuntime) : CatalogRuntime × Except String CatalogReply :=
  match owner with
  | .task =>
    if !runtime.catalogLoadClaimIsCurrent claim then (runtime, .ok .finished)
    else if runtime.isClosing then ({ runtime with catalogLoad := .closing }, .ok .finished)
    else applyLoad env choice .task runtime composition
  | owner =>
    if runtime.isClosing then ({ runtime with catalogLoad := .closing }, .error closingError)
    else if !runtime.catalogLoadClaimIsCurrent claim then (runtime, .error owner.superseded)
    else applyLoad env choice owner runtime composition

/-- Resolve the selected paths, and find the songs in them. -/
def resolveImports (env : CatalogEnvironment) (choice : CatalogChoice) (paths : List String)
    (kind : ImportedSourceKind) : Except String (List ImportedSourceRef × List String) := do
  failIf (maxImportSelections < paths.length) "invalid_params: import selection is too large"
  let canonicalPaths ← paths.mapM fun path => choice.resolveImport path kind
  let songIds ← choice.importedSongs
  pure (canonicalPaths.map fun canonicalPath =>
    ⟨env.importedSourceId canonicalPath kind, canonicalPath, kind⟩, songIds)

/-- The message of a library error. -/
def libraryError (error : LibraryError) : String := "library operation failed: " ++ error.text

/-- A source that the manifest does not have, up to the case of ASCII letters. -/
def hasNewImport (manifest : LibraryManifestV1) (imports : List ImportedSourceRef) : Bool :=
  imports.any fun source => !manifest.imports.any fun existing =>
    asciiFolded existing.canonicalPath = asciiFolded source.canonicalPath

/-- One step of a call. -/
def catalogStep (env : CatalogEnvironment) (choice : CatalogChoice) (runtime : CatalogRuntime) :
    CatalogCall → Option (CatalogRuntime × CatalogCall)
  | .start =>
    if runtime.closed then some (runtime, .returned (.error closingError))
    else some (runtime, .claimLoad)
  | .claimLoad =>
    let (claimed, result) := runtime.claimCatalogLoad
    match result with
    | .ok (some claim) => some (claimed, .task claim)
    | .ok none => some (claimed, .returned (.ok .finished))
    | .error message => some (claimed, .returned (.error message))
  | .task claim =>
    if runtime.catalogLoadClaimIsCurrent claim then some (runtime, .compose .task claim)
    else some (runtime, .returned (.ok .finished))
  | .ensure =>
    let (claimed, result) := runtime.ensureClaim
    match result with
    | .ok (.inr claim) => some (claimed, .compose .ensure claim)
    | .ok (.inl generation) => some (claimed, .returned (.ok (.loaded generation)))
    | .error message => some (claimed, .returned (.error message))
  | .reload =>
    let (claimed, result) := runtime.reloadClaim
    match result with
    | .ok claim => some (claimed, .compose .reload claim)
    | .error message => some (claimed, .returned (.error message))
  | .importPaths playlistId paths kind =>
    match resolveImports env choice paths kind with
    | .ok (imports, songIds) => some (runtime, .importCommit playlistId imports songIds)
    | .error message => some (runtime, .returned (.error message))
  | .importCommit playlistId imports songIds =>
    let isNew := hasNewImport runtime.libraryManifest.current imports
    match (importAndAddSongs choice.saveFailure playlistId imports songIds).run
        runtime.libraryManifest with
    | .ok _ libraryManifest =>
      some ({ runtime with libraryManifest }, if isNew then .reload else .ensure)
    | .error error libraryManifest =>
      some ({ runtime with libraryManifest }, .returned (.error (libraryError error)))
  | .compose owner claim =>
    some (runtime, .finish owner claim
      (choice.composed.map fun () => ⟨runtime.currentFingerprint env choice⟩))
  | .finish owner claim composition =>
    let (after, reply) := finishLoad env choice owner claim composition runtime
    some (after, .returned reply)
  | .shutdown =>
    if runtime.closed then some (runtime, .returned (.ok .finished))
    else
      some ({ runtime with closed := true, catalogLoad := .closing }, .returned (.ok .finished))
  | .returned _ => none

/-- What begins a call. -/
inductive CatalogOp where
  | startCatalogLoad
  | ensureCatalogLoaded
  | reload
  | importPaths (playlistId : String) (paths : List String) (kind : ImportedSourceKind)
  | shutdown

/-- The entry points of the catalog load. -/
def catalogProgram (env : CatalogEnvironment) :
    CallProgram CatalogOp CatalogCall CatalogChoice CatalogRuntime where
  start
    | .startCatalogLoad => .start
    | .ensureCatalogLoaded => .ensure
    | .reload => .reload
    | .importPaths playlistId paths kind => .importPaths playlistId paths kind
    | .shutdown => .shutdown
  step choice call runtime := catalogStep env choice runtime call

/-- The runtime after its construction, with the cached catalog it shows, if there is one. -/
def CatalogRuntime.new (service : LibraryManifestService) (hydrated : Option ℕ) :
    CatalogRuntime where
  catalogLoad := match hydrated with
    | some generation => .cached generation
    | none => .uninitialized
  catalogLoadEpoch := 0
  closed := false
  libraryManifest := service
  catalogGeneration := hydrated.getD 0

/-- The loads of one runtime. -/
def catalogMachine (env : CatalogEnvironment) (service : LibraryManifestService)
    (hydrated : Option ℕ) :
    Machine (CallPool CatalogRuntime CatalogCall) (PoolAction CatalogOp CatalogChoice) :=
  (catalogProgram env).machine (.new service hydrated)

end SkyAutoPlayer.Desktop
