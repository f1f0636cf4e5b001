import SkyAutoPlayer.AppCore.CatalogIndex

/-!
# The composition of the catalog

A composition has the entries of all sources, the ids of every source, and what became of it.
-/

namespace SkyAutoPlayer.NativeAdapters

open Foundation AppCore

/-- Why the built-in songs are unavailable. -/
inductive BuiltinCatalogFailureCode where
  | resourceUnavailable
  | malformedManifest
  | missingResource
  | invalidResource
  deriving DecidableEq, Repr

/-- What became of the built-in songs. -/
inductive BuiltinCatalogStatus where
  | available (songCount : ℕ)
  | unavailable (code : BuiltinCatalogFailureCode)
  deriving DecidableEq, Repr

/-- What became of an import. -/
structure ImportedSourceCatalogStatus where
  sourceId : String
  kind : ImportedSourceKind
  displayName : String
  songCount : ℕ
  available : Bool
  deriving DecidableEq, Repr

/-- The entries of all sources, and the ids of each. -/
structure CatalogComposition where
  entries : List CatalogSourceEntry
  libraryMembership : Finset String
  builtinMembership : Finset String
  userMembership : Finset String
  importedMembership : List (String × Finset String)
  importedStatus : List ImportedSourceCatalogStatus
  builtinStatus : BuiltinCatalogStatus

end SkyAutoPlayer.NativeAdapters
