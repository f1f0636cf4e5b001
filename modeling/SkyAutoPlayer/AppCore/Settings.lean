import Mathlib.Data.Finset.Card
import Mathlib.Data.Finset.Insert
import SkyAutoPlayer.AppCore.LibraryManifest

/-!
# The settings

The liked songs are a set of well-formed ids of a bounded size.
-/

namespace SkyAutoPlayer.AppCore

open Foundation

/-- The most liked songs. -/
def maxLikedSongs : ℕ := 100000

/-- The songs that the user likes. -/
structure LikedSongs where
  ids : Finset String
  deriving DecidableEq

/-- Why a liked song was not set. -/
inductive LikedSongsError where
  | invalidSongId
  | tooManyLikedSongs
  deriving DecidableEq, Repr

/-- The texts of the errors. -/
def LikedSongsError.text : LikedSongsError → String
  | .invalidSongId => "liked song ID is malformed"
  | .tooManyLikedSongs => s!"liked songs collection exceeds {maxLikedSongs} entries"

/-- Like a song or not, and say whether that is new. -/
def LikedSongs.set (songId : String) (liked : Bool) (songs : LikedSongs) :
    Except LikedSongsError (Bool × LikedSongs) :=
  if !isValidId songId then .error .invalidSongId
  else if liked then
    if songId ∈ songs.ids then .ok (false, songs)
    else if maxLikedSongs ≤ songs.ids.card then .error .tooManyLikedSongs
    else .ok (true, ⟨insert songId songs.ids⟩)
  else .ok (decide (songId ∈ songs.ids), ⟨songs.ids.erase songId⟩)

/-- The errors of the settings. -/
inductive SettingsError where
  | invalidField (field message : String)
  | storage (message : String)
  deriving DecidableEq, Repr

/-- The texts of the errors. -/
def SettingsError.text : SettingsError → String
  | .invalidField field message => s!"invalid settings field {field}: {message}"
  | .storage message => s!"settings storage error: {message}"

end SkyAutoPlayer.AppCore
