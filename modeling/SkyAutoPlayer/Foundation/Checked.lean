import Mathlib.Algebra.Ring.Int.Defs
import Mathlib.Algebra.Ring.Nat
import Mathlib.Data.Nat.Basic

/-!
# Checked arithmetic and typed failures

Machine integers are natural numbers, and every operation that a program checks returns
`none` outside its width. `okOr` names the failure, `failIf` is an early return, and the
inversion lemmas below turn a successful `Except` computation into the facts its checks
established.
-/

namespace SkyAutoPlayer.Foundation

/-- The computed value when it fits in `w` bits. -/
def fit (w value : ℕ) : Option ℕ := if value < 2 ^ w then some value else none

/-- Addition at width `w`, or `none` on overflow. -/
def checkedAdd (w a b : ℕ) : Option ℕ := fit w (a + b)

/-- Multiplication at width `w`, or `none` on overflow. -/
def checkedMul (w a b : ℕ) : Option ℕ := fit w (a * b)

/-- Unsigned subtraction, or `none` on underflow. -/
def checkedSub (a b : ℕ) : Option ℕ := if b ≤ a then some (a - b) else none

/-- Addition that stops at the largest value of width `w`. -/
def saturatingAdd (w a b : ℕ) : ℕ := min (a + b) (2 ^ w - 1)

/-- A value fits exactly when it is below the width's bound, and it is unchanged. -/
@[simp] theorem fit_eq_some {w value result : ℕ} :
    fit w value = some result ↔ value < 2 ^ w ∧ value = result := by
  unfold fit
  split <;> simp <;> omega

/-- A checked sum is the exact sum, below the bound. -/
@[simp] theorem checkedAdd_eq_some {w a b result : ℕ} :
    checkedAdd w a b = some result ↔ a + b < 2 ^ w ∧ a + b = result :=
  fit_eq_some

/-- A checked product is the exact product, below the bound. -/
@[simp] theorem checkedMul_eq_some {w a b result : ℕ} :
    checkedMul w a b = some result ↔ a * b < 2 ^ w ∧ a * b = result :=
  fit_eq_some

/-- A checked difference is the exact difference of ordered operands. -/
@[simp] theorem checkedSub_eq_some {a b result : ℕ} :
    checkedSub a b = some result ↔ b ≤ a ∧ a - b = result := by
  unfold checkedSub
  split <;> simp <;> omega

variable {ε α β : Type*}

/-- Give an absent value its typed error. -/
def okOr (error : ε) : Option α → Except ε α
  | some value => .ok value
  | none => .error error

/-- Return early with the typed error when the rejected condition holds. -/
def failIf (rejected : Prop) [Decidable rejected] (error : ε) : Except ε Unit :=
  if rejected then .error error else .ok ()

/-- `okOr` succeeds exactly on a present value. -/
@[simp] theorem okOr_eq_ok {error : ε} {value : Option α} {result : α} :
    okOr error value = .ok result ↔ value = some result := by
  cases value <;> simp [okOr]

/-- An early return is passed exactly when its condition fails. -/
@[simp] theorem failIf_eq_ok {rejected : Prop} [Decidable rejected] {error : ε} {done : Unit} :
    failIf rejected error = .ok done ↔ ¬rejected := by
  unfold failIf
  split <;> simp_all

/-- A passed early return continues with the rest of the computation. -/
theorem failIf_of_not {rejected : Prop} [Decidable rejected] (error : ε) (h : ¬rejected) :
    failIf rejected error = .ok () := by
  rw [failIf, if_neg h]

end SkyAutoPlayer.Foundation

namespace Except

universe u v

variable {ε : Type v} {α β : Type u}

/-- A sequence succeeds exactly when its first part and then its continuation succeed. -/
theorem bind_eq_ok {first : Except ε α} {next : α → Except ε β} {result : β} :
    first >>= next = .ok result ↔ ∃ value, first = .ok value ∧ next value = .ok result := by
  cases first with
  | error => exact ⟨nofun, fun ⟨_, h, _⟩ => nomatch h⟩
  | ok value => exact ⟨fun h => ⟨value, rfl, h⟩, fun ⟨_, h, hnext⟩ => by cases h; exact hnext⟩

/-- A check and what follows it succeed exactly when both do. -/
theorem seq_eq_ok {first : Except ε PUnit} {next : Except ε β} {result : β} :
    (first >>= fun _ => next) = .ok result ↔ first = .ok ⟨⟩ ∧ next = .ok result := by
  rw [bind_eq_ok]
  exact ⟨fun ⟨_, hfirst, hnext⟩ => ⟨hfirst, hnext⟩, fun ⟨hfirst, hnext⟩ => ⟨_, hfirst, hnext⟩⟩

/-- A mapped computation succeeds exactly when the computation does. -/
theorem map_eq_ok {first : Except ε α} {f : α → β} {result : β} :
    f <$> first = .ok result ↔ ∃ value, first = .ok value ∧ f value = result := by
  cases first with
  | error => exact ⟨nofun, fun ⟨_, h, _⟩ => nomatch h⟩
  | ok value => simp [Functor.map, Except.map]

/-- `pure` succeeds with exactly its value. -/
theorem pure_eq_ok {value result : α} :
    (pure value : Except ε α) = .ok result ↔ value = result := by
  simp [pure, Except.pure]

/-- A translated error keeps the success. -/
theorem mapError_eq_ok {ε' : Type v} {first : Except ε α} {f : ε → ε'} {result : α} :
    first.mapError f = .ok result ↔ first = .ok result := by
  cases first <;> simp [Except.mapError]

/-- A computation has the value that is left when its error is forgotten. -/
theorem eq_ok_of_toOption {computation : Except ε α} {value : α}
    (h : computation.toOption = some value) : computation = .ok value := by
  cases computation with
  | error => cases h
  | ok found => rw [Option.some.inj h]

/-- A computation that reports success has a value. -/
theorem exists_of_isOk {computation : Except ε α} (h : computation.isOk = true) :
    ∃ value, computation = .ok value := by
  cases computation with
  | error => cases h
  | ok value => exact ⟨value, rfl⟩

/-- A computation whose value passes a test has such a value. -/
theorem exists_of_any {computation : Except ε α} {test : α → Bool}
    (h : computation.toOption.any test = true) :
    ∃ value, computation = .ok value ∧ test value = true := by
  cases computation with
  | error => cases h
  | ok value => exact ⟨value, rfl, h⟩

end Except
