import Mathlib.Data.Rat.Floor
import Mathlib.Tactic.Positivity
import SpanBridge.Number.Double

/-!
# The exact value of a double precision number

A finite number is its significand times a power of two (`Double.value?`). Cutting off its fraction
gives the integer next to this value on the side of zero (`Double.truncate?_eq`).
-/

set_option autoImplicit false
set_option relaxedAutoImplicit false

namespace SpanBridge.Double

/-- The exact value of a finite number: its significand times its power of two, with its sign. -/
def value? : Double → Option ℚ
  | .finite negative exponent fraction =>
    let magnitude := significand exponent fraction * (2 : ℚ) ^ ((scale exponent : ℤ) - leastScale)
    some (if negative then -magnitude else magnitude)
  | _ => none

/-- A value without its fraction. -/
def towardZero (value : ℚ) : ℤ := if value < 0 then ⌈value⌉ else ⌊value⌋

theorem towardZero_intCast (n : ℤ) : towardZero n = n := by
  simp [towardZero]

theorem towardZero_natCast_div (numerator denominator : ℕ) :
    towardZero (numerator / denominator : ℚ) = (numerator / denominator : ℕ) := by
  have hnonneg : ¬(numerator / denominator : ℚ) < 0 := not_lt.2 (by positivity)
  rw [towardZero, if_neg hnonneg, Rat.floor_natCast_div_natCast, Int.natCast_ediv]

theorem towardZero_neg (value : ℚ) : towardZero (-value) = -towardZero value := by
  rcases lt_trichotomy value 0 with hneg | rfl | hpos
  · rw [towardZero, towardZero, if_pos hneg, if_neg (by simpa using hneg.le), Int.floor_neg]
  · simp [towardZero]
  · rw [towardZero, towardZero, if_neg hpos.le.not_gt, if_pos (by simpa using hpos), Int.ceil_neg]

/-- The quotient kept for a scale is the power of two that it stands for. -/
theorem powerOfTwo_eq (scale : ℕ) :
    ((powerOfTwo scale).1 : ℚ) / (powerOfTwo scale).2 = 2 ^ ((scale : ℤ) - leastScale) := by
  have hscale : (scale : ℤ) - leastScale =
      ((scale - leastScale : ℕ) : ℤ) - ((leastScale - scale : ℕ) : ℤ) := by omega
  rw [hscale, zpow_sub₀ two_ne_zero, zpow_natCast, zpow_natCast, powerOfTwo]
  simp only [Nat.pow_eq, Nat.cast_pow, Nat.cast_ofNat]

/-- The quotient that is a magnitude is the significand times the power of two. -/
theorem magnitude_eq (exponent : Fin 2047) (fraction : Fin fractionCount) :
    ((magnitude exponent fraction).1 : ℚ) / (magnitude exponent fraction).2 =
      significand exponent fraction * 2 ^ ((scale exponent : ℤ) - leastScale) := by
  rw [← powerOfTwo_eq, ← mul_div_assoc, ← Nat.cast_mul, magnitude]

/-- The integer part of a number is its value without the fraction. -/
theorem truncate?_eq (number : Double) : number.truncate? = number.value?.map towardZero := by
  cases number with
  | finite negative exponent fraction =>
    rw [value?, Option.map_some, ← magnitude_eq, apply_ite towardZero, towardZero_neg,
      towardZero_natCast_div]
    rfl
  | _ => rfl

end SpanBridge.Double
