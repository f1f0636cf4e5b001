import Mathlib.Data.Int.Log
import Mathlib.Data.Rat.Floor
import Mathlib.Tactic.Linarith
import Mathlib.Tactic.NormNum

/-!
# Rounding to binary digits

A number is rounded to a multiple of the spacing of the numbers of its size that have a given count
of binary digits, to the even multiple of the two when it is in the middle. A number with few enough
digits is kept, and the rounding is monotone. The range of the exponents is not bounded.
-/

namespace SkyAutoPlayer.Foundation

/-- The nearest integer, the even one of the two when there are two. -/
def nearestEven (q : ℚ) : ℤ :=
  if Int.fract q < 1 / 2 then ⌊q⌋
  else if 1 / 2 < Int.fract q then ⌊q⌋ + 1
  else if ⌊q⌋ % 2 = 0 then ⌊q⌋
  else ⌊q⌋ + 1

/-- The distance between the numbers of one size that have a count of binary digits. -/
def binarySpacing (digits : ℕ) (q : ℚ) : ℚ :=
  2 ^ (Int.log 2 q + 1 - digits)

/-- A non-negative number, rounded to a count of binary digits. -/
def toNearest (digits : ℕ) (q : ℚ) : ℚ :=
  nearestEven (q / binarySpacing digits q) * binarySpacing digits q

/-- A non-negative number that has a count of binary digits. -/
def HasDigits (digits : ℕ) (q : ℚ) : Prop :=
  ∃ (number : ℕ) (scale : ℤ), number < 2 ^ digits ∧ q = number * 2 ^ scale

variable {digits : ℕ} {q r : ℚ}

/-- An integer is its own nearest integer. -/
theorem nearestEven_intCast (number : ℤ) : nearestEven number = number := by
  unfold nearestEven
  rw [Int.fract_intCast, Int.floor_intCast, if_pos (by norm_num)]

/-- A nearest integer is the floor or the one after it. -/
theorem floor_le_nearestEven (q : ℚ) : ⌊q⌋ ≤ nearestEven q ∧ nearestEven q ≤ ⌊q⌋ + 1 := by
  unfold nearestEven
  split_ifs <;> omega

/-- Rounding to integers is monotone. -/
theorem nearestEven_mono (h : q ≤ r) : nearestEven q ≤ nearestEven r := by
  have hfloor := Int.floor_le_floor h
  have hq := floor_le_nearestEven q
  have hr := floor_le_nearestEven r
  rcases lt_or_eq_of_le hfloor with hlt | hsame
  · omega
  · have hfract : Int.fract q ≤ Int.fract r := by
      unfold Int.fract
      rw [hsame]
      linarith
    unfold nearestEven
    rw [hsame]
    -- with one floor, a greater number has the greater rest
    split_ifs <;> first | omega | linarith

theorem binarySpacing_pos (digits : ℕ) (q : ℚ) : 0 < binarySpacing digits q :=
  zpow_pos (by norm_num) _

/-- A number of few digits is a multiple of the spacing of its size. -/
theorem exists_multiple (hdigits : HasDigits digits q) (hpos : 0 < q) :
    ∃ multiple : ℤ, q = multiple * binarySpacing digits q := by
  obtain ⟨number, scale, hnumber, rfl⟩ := hdigits
  have htwo : (0 : ℚ) < 2 ^ scale := zpow_pos (by norm_num) scale
  have hbound : ((number : ℚ) * 2 ^ scale) < 2 ^ (digits + scale) := by
    rw [zpow_add₀ (by norm_num), zpow_natCast]
    have hcast : (number : ℚ) < 2 ^ digits := by exact_mod_cast hnumber
    exact mul_lt_mul_of_pos_right hcast htwo
  have hlog : Int.log 2 ((number : ℚ) * 2 ^ scale) < digits + scale := by
    apply (Int.lt_zpow_iff_log_lt (by norm_num) hpos).mp
    exact_mod_cast hbound
  -- the spacing divides the scale
  have hsplit : (2 : ℚ) ^ scale =
      2 ^ (scale - (Int.log 2 ((number : ℚ) * 2 ^ scale) + 1 - digits)).toNat *
        binarySpacing digits ((number : ℚ) * 2 ^ scale) := by
    unfold binarySpacing
    rw [← zpow_natCast, ← zpow_add₀ (by norm_num)]
    congr 1
    omega
  refine ⟨number * 2 ^ (scale - (Int.log 2 ((number : ℚ) * 2 ^ scale) + 1 - digits)).toNat, ?_⟩
  push_cast
  rw [mul_assoc, ← hsplit]

/-- A number of few digits is kept. -/
theorem toNearest_of_hasDigits (hdigits : HasDigits digits q) (hnonneg : 0 ≤ q) :
    toNearest digits q = q := by
  have hspacing := binarySpacing_pos digits q
  rcases lt_or_eq_of_le hnonneg with hpos | hzero
  · obtain ⟨multiple, hmultiple⟩ := exists_multiple hdigits hpos
    have hquotient : q / binarySpacing digits q = multiple := by
      rw [div_eq_iff (ne_of_gt hspacing)]
      exact hmultiple
    rw [toNearest, hquotient, nearestEven_intCast, ← hmultiple]
  · rw [← hzero, toNearest, zero_div]
    have hnone := nearestEven_intCast 0
    rw [Int.cast_zero] at hnone
    rw [hnone, Int.cast_zero, zero_mul]

/-- Numbers of one size are rounded in their order. -/
theorem toNearest_le_of_spacing (hspacing : binarySpacing digits q = binarySpacing digits r)
    (h : q ≤ r) : toNearest digits q ≤ toNearest digits r := by
  have hpos := binarySpacing_pos digits r
  have hquotient : nearestEven (q / binarySpacing digits r) ≤
      nearestEven (r / binarySpacing digits r) :=
    nearestEven_mono (div_le_div_of_nonneg_right h (le_of_lt hpos))
  have hcast : (nearestEven (q / binarySpacing digits r) : ℚ) ≤
      nearestEven (r / binarySpacing digits r) := by exact_mod_cast hquotient
  rw [toNearest, toNearest, hspacing]
  exact mul_le_mul_of_nonneg_right hcast (le_of_lt hpos)

/-- A power of two above a number bounds what the number is rounded to. -/
theorem toNearest_le_zpow (digits : ℕ) (q : ℚ) :
    toNearest digits q ≤ 2 ^ (Int.log 2 q + 1) := by
  have hpos := binarySpacing_pos digits q
  have hsize : (2 : ℚ) ^ (Int.log 2 q + 1) = ((2 ^ digits : ℤ) : ℚ) * binarySpacing digits q := by
    unfold binarySpacing
    push_cast
    rw [← zpow_natCast, ← zpow_add₀ (by norm_num)]
    congr 1
    omega
  have hlt : q < 2 ^ (Int.log 2 q + 1) := by
    have hlog := Int.lt_zpow_succ_log_self (b := 2) (by norm_num) q
    exact_mod_cast hlog
  have hquotient : q / binarySpacing digits q ≤ ((2 ^ digits : ℤ) : ℚ) := by
    rw [div_le_iff₀ hpos, ← hsize]
    exact le_of_lt hlt
  have hnearest := nearestEven_mono hquotient
  rw [nearestEven_intCast] at hnearest
  have hcast : (nearestEven (q / binarySpacing digits q) : ℚ) ≤ ((2 ^ digits : ℤ) : ℚ) := by
    exact_mod_cast hnearest
  rw [toNearest, hsize]
  exact mul_le_mul_of_nonneg_right hcast (le_of_lt hpos)

/-- The greatest power of two below a number is not above what the number is rounded to. -/
theorem zpow_le_toNearest (hdigits : 0 < digits) (hpos : 0 < q) :
    2 ^ Int.log 2 q ≤ toNearest digits q := by
  have hspacing := binarySpacing_pos digits q
  have hsize : (2 : ℚ) ^ Int.log 2 q =
      ((2 ^ (digits - 1) : ℤ) : ℚ) * binarySpacing digits q := by
    unfold binarySpacing
    push_cast
    rw [← zpow_natCast, ← zpow_add₀ (by norm_num)]
    congr 1
    omega
  have hle : 2 ^ Int.log 2 q ≤ q := by
    have hlog := Int.zpow_log_le_self (b := 2) (by norm_num) hpos
    exact_mod_cast hlog
  have hquotient : ((2 ^ (digits - 1) : ℤ) : ℚ) ≤ q / binarySpacing digits q := by
    rw [le_div_iff₀ hspacing, ← hsize]
    exact hle
  have hnearest := nearestEven_mono hquotient
  rw [nearestEven_intCast] at hnearest
  have hcast : ((2 ^ (digits - 1) : ℤ) : ℚ) ≤ nearestEven (q / binarySpacing digits q) := by
    exact_mod_cast hnearest
  rw [toNearest, hsize]
  exact mul_le_mul_of_nonneg_right hcast (le_of_lt hspacing)

/-- Rounding is monotone. -/
theorem toNearest_mono (hdigits : 0 < digits) (hpos : 0 < q) (h : q ≤ r) :
    toNearest digits q ≤ toNearest digits r := by
  have hlog := Int.log_mono_right (b := 2) hpos h
  rcases lt_or_eq_of_le hlog with hlt | hsame
  · -- a power of two is between both
    have hbetween : (2 : ℚ) ^ (Int.log 2 q + 1) ≤ 2 ^ Int.log 2 r :=
      zpow_le_zpow_right₀ (by norm_num) hlt
    calc toNearest digits q ≤ 2 ^ (Int.log 2 q + 1) := toNearest_le_zpow digits q
      _ ≤ 2 ^ Int.log 2 r := hbetween
      _ ≤ toNearest digits r := zpow_le_toNearest hdigits (lt_of_lt_of_le hpos h)
  · apply toNearest_le_of_spacing ?_ h
    unfold binarySpacing
    rw [hsame]

/-- A number is not rounded beyond one of few digits. -/
theorem toNearest_le (hdigits : 0 < digits) (hnonneg : 0 ≤ q) (hbound : HasDigits digits r)
    (h : q ≤ r) : toNearest digits q ≤ r := by
  rcases lt_or_eq_of_le hnonneg with hpos | hzero
  · have hmono := toNearest_mono hdigits hpos h
    rw [toNearest_of_hasDigits hbound (le_trans hnonneg h)] at hmono
    exact hmono
  · have hnone : toNearest digits 0 = 0 :=
      toNearest_of_hasDigits ⟨0, 0, Nat.two_pow_pos digits, by norm_num⟩ le_rfl
    rw [← hzero, hnone]
    exact le_trans hnonneg h

/-- A natural number of few digits is kept. -/
theorem toNearest_natCast {number : ℕ} (h : number < 2 ^ digits) :
    toNearest digits number = number := by
  apply toNearest_of_hasDigits
  · exact ⟨number, 0, h, by norm_num⟩
  · exact Nat.cast_nonneg number

end SkyAutoPlayer.Foundation
