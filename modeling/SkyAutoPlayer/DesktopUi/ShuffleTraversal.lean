import SkyAutoPlayer.DesktopUi.PlaybackLedger
import SkyAutoPlayer.Foundation.CycleWalk
import SkyAutoPlayer.Foundation.StateMachine

/-!
# The order of a shuffled source

A shuffled source is walked with one length of step, which a seed chooses and which has no common factor
with the count of the songs. A context keeps the place of its song in the source and its position in the
order. It comes from what the library shows of the song, and the transitions to the next song and to the
one before, and the switch of the shuffle, build it anew.

The numbers of the source are exact as long as the square of the count of the songs is.
-/

namespace SkyAutoPlayer.DesktopUi

open SkyAutoPlayer.Foundation

/-- The greatest common divisor, by division with rest. -/
def greatestCommonDivisor (left right : ℕ) : ℕ :=
  if right = 0 then left else greatestCommonDivisor right (left % right)
termination_by right
decreasing_by exact Nat.mod_lt left (Nat.pos_of_ne_zero ‹_›)

/-- A step that has no common factor with the count of the songs. -/
def coprimeStep (total step : ℕ) : Bool := greatestCommonDivisor step total = 1

/-- The hash of the seed's code units. -/
def seedHash (seed : List (BitVec 16)) : BitVec 32 :=
  seed.foldl (fun hash code => (hash ^^^ code.setWidth 32) * 16_777_619#32) 2_166_136_261#32

/-- The order that a seed chooses, from a first place on. It is absent for no songs, and the search for
its step may take more time than there is. -/
def createShuffleTraversal (fuel total : ℕ) (originIndex : ℤ) (seed : List (BitVec 16)) :
    Option (Option ShuffleTraversal) :=
  if total < 1 then some none
  else
    let origin := ((originIndex.tmod total + total).tmod total).toNat
    if total = 1 then some (some ⟨origin, 0, 0⟩)
    else
      let step := (seedHash seed).toNat % (total - 1) + 1
      (searchCycle (coprimeStep total) (total - 1) fuel step).map fun step =>
        some ⟨origin, step, 0⟩

variable {total index position : ℕ} {originIndex : ℤ} {seed : List (BitVec 16)} {songId : String}
  {context after : PlaybackContext}

namespace PlaybackContext

/-- The context of another position, when there is a song at it. -/
def goTo (target : ℕ) (songId : String) (context : PlaybackContext) : Option PlaybackContext :=
  (context.playbackContextIndexAt target).map fun index => context.moveTo index target songId

/-- The context of the next position. -/
def goNext (songId : String) (context : PlaybackContext) : Option PlaybackContext :=
  context.nextPlaybackPosition.bind fun target => context.goTo target songId

/-- The context's position is the one of its song. -/
def InOrder (context : PlaybackContext) : Prop :=
  context.playbackContextIndexAt context.position = some context.currentIndex

end PlaybackContext

/-- A source of songs, as the library names it. -/
structure LibrarySource where
  kind : String
  id : String
  deriving DecidableEq

/-- What the library shows: where it looks, and the songs that it has found. The place of a song is known
for the loaded pages, and for the song that is selected. -/
structure LibraryState where
  source : LibrarySource
  searchSource : LibrarySource
  query : String
  playlistAddMode : Option String
  resultTotal : ℕ
  indexById : String → Option ℕ
  selectedSongId : Option String
  selectedSongIndex : Option ℕ
  membershipRevision : ℤ
  indexMembershipRevision : ℤ
  error : Option String

namespace LibraryState

/-- A search begins. The one that is on the page already is not repeated, unless it failed or its first
page is not known. -/
def search (query : Option String) (source : Option LibrarySource) (firstPageKnown : Bool)
    (membershipRevisionFor : LibrarySource → ℤ) (library : LibraryState) : LibraryState :=
  let nextQuery := query.getD library.query
  let nextSource := source.getD library.source
  let nextSearchSource : LibrarySource :=
    if nextSource.kind = "playlist" ∧ library.playlistAddMode = some nextSource.id then
      ⟨"smart", "builtin"⟩
    else nextSource
  let scopeChanged := decide (library.query ≠ nextQuery ∨ library.source ≠ nextSource ∨
    library.searchSource ≠ nextSearchSource)
  if !scopeChanged ∧ library.error.getD "" = "" ∧ firstPageKnown then library
  else
    { library with
      source := nextSource
      searchSource := nextSearchSource
      query := nextQuery
      membershipRevision :=
        if scopeChanged then membershipRevisionFor nextSearchSource else library.membershipRevision
      indexMembershipRevision := if scopeChanged then -1 else library.indexMembershipRevision
      selectedSongId := if scopeChanged then none else library.selectedSongId
      selectedSongIndex := if scopeChanged then none else library.selectedSongIndex
      indexById := fun _ => none
      resultTotal := 0
      error := none }

end LibraryState

/-- What moves a context: the song that a transition resolves to, the time that the present song has
played, and the seed of a new order. -/
inductive ContextMove where
  | next (songId : String)
  | previous (currentUs : ℕ) (songId : String)
  | setShuffleEnabled (enabled contextIsCurrent : Bool) (seed : List (BitVec 16))

/-- A context, and whether the playback is shuffled. -/
structure ShuffledPlayback where
  shuffleEnabled : Bool
  context : PlaybackContext
  deriving DecidableEq

namespace ShuffledPlayback

/-- The shuffle is switched. A context that is not current stays as it is. -/
def setShuffleEnabled (enabled contextIsCurrent : Bool) (seed : List (BitVec 16))
    (playback : ShuffledPlayback) : ShuffledPlayback :=
  let context := playback.context
  { shuffleEnabled := enabled
    context :=
      if contextIsCurrent then
        { context with
          shuffleTraversal :=
            if enabled then
              (createShuffleTraversal context.total context.total context.currentIndex seed).join
            else none }
      else context }

/-- A context moves. -/
def move (playback : ShuffledPlayback) : ContextMove → Option ShuffledPlayback
  | .next songId =>
    (playback.context.goNext songId).map fun context => { playback with context }
  | .previous currentUs songId =>
    (playback.context.previousPlaybackPosition currentUs).bind fun target =>
      (playback.context.goTo target songId).map fun context => { playback with context }
  | .setShuffleEnabled enabled contextIsCurrent seed =>
    if playback.shuffleEnabled = enabled then none
    else some (playback.setShuffleEnabled enabled contextIsCurrent seed)

/-- The moves of a context from a first one on. -/
def moves (start : ShuffledPlayback) : Machine ShuffledPlayback ContextMove := ⟨start, move⟩

variable {playback next : ShuffledPlayback}

end ShuffledPlayback

end SkyAutoPlayer.DesktopUi
