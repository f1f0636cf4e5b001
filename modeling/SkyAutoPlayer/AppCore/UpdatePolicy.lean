import SkyAutoPlayer.AppCore.Settings

/-!
# The update policy

The channel and the skipped version of an update are preferences of the user. A check on a timer keeps
a distance from the last one.
-/

namespace SkyAutoPlayer.AppCore

open Foundation

/-- Where updates come from. -/
inductive UpdateChannel where
  | stable
  | beta
  deriving DecidableEq, Repr

/-- The preferences of the user about updates, with the times of the last checks. -/
structure UpdatePreferences where
  autoCheck : Bool
  channel : UpdateChannel
  skipVersion : String
  checkIntervalS : ℤ
  lastCheckTs : ℤ
  lastErrorTs : ℤ
  deriving DecidableEq

/-- The preferences before the user has any. -/
def UpdatePreferences.default : UpdatePreferences := ⟨true, .stable, "", 86400, 0, 0⟩

/-- A change of the preferences. -/
structure UpdatePreferencesPatch where
  autoCheck : Option Bool
  channel : Option UpdateChannel
  skipVersion : Option String
  deriving DecidableEq

/-- The longest version that can be skipped, in bytes. -/
def maxSkipVersionBytes : ℕ := 128

/-- A version that can be skipped. -/
def validateSkipVersion (value : String) : Except SettingsError String := do
  failIf (maxSkipVersionBytes < value.utf8ByteSize ∨ containsNull value)
    (.invalidField "skip_version" "must be bounded text")
  pure (trimText value)

/-- The preferences after a change. -/
def UpdatePreferences.applyPatch (patch : UpdatePreferencesPatch) (preferences : UpdatePreferences) :
    Except SettingsError UpdatePreferences :=
  let changed := { preferences with
    autoCheck := patch.autoCheck.getD preferences.autoCheck
    channel := patch.channel.getD preferences.channel }
  match patch.skipVersion with
  | none => .ok changed
  | some value => do
    let skipVersion ← validateSkipVersion value
    pure { changed with skipVersion := skipVersion }

/-- How long a failed check is not repeated, in seconds. -/
def retryIntervalS : ℤ := 300

/-- A difference of times, kept in their range. -/
def saturatingSubI64 (a b : ℤ) : ℤ := max (-2 ^ 63) (min (2 ^ 63 - 1) (a - b))

/-- Whether a check on a timer is due. A clock that went back makes it due. -/
def shouldAutoCheck (preferences : UpdatePreferences) (nowTs : ℤ) : Bool :=
  if !preferences.autoCheck then false
  else if preferences.lastCheckTs < preferences.lastErrorTs then
    nowTs < preferences.lastErrorTs ||
      retryIntervalS ≤ saturatingSubI64 nowTs preferences.lastErrorTs
  else if preferences.lastCheckTs = 0 then true
  else nowTs < preferences.lastCheckTs ||
    preferences.checkIntervalS ≤ saturatingSubI64 nowTs preferences.lastCheckTs

end SkyAutoPlayer.AppCore
