import Mathlib.Data.Int.Log
import Mathlib.Tactic
import SpanBridge.Number.Shortest
import SpanBridge.Proofs.Number.ExactValue

/-!
# Rounding to the nearest number

What a quotient and a decimal are rounded to depends on their values alone (`nearest_congr`,
`ofDecimal_congr`), and up to the sign not on the sign (`withSign_ofDecimal`). The value of a number
is rounded to the number (`nearest_magnitude`), so every decimal of this value is
(`ofDecimal_of_value`), and in particular its exact expansion. The shortest decimal of a number is
either a candidate that was tried or this expansion, and is rounded to the number in both cases
(`ofDecimal_shortest`).
-/

set_option autoImplicit false
set_option relaxedAutoImplicit false

namespace SpanBridge.Double

/-! ### Powers around a value -/

/-- A logarithm is determined by the powers around the value. -/
theorem log_eq {base : ℕ} (hbase : 1 < base) {value : ℚ} (hvalue : 0 < value) {exponent : ℤ}
    (hle : (base : ℚ) ^ exponent ≤ value) (hlt : value < (base : ℚ) ^ (exponent + 1)) :
    Int.log base value = exponent := by
  have hlower := (Int.zpow_le_iff_le_log hbase hvalue).1 hle
  have hupper := (Int.lt_zpow_iff_log_lt hbase hvalue).1 hlt
  omega

variable {numerator denominator : ℕ}

/-- A power of two is at most a quotient when this is so without fractions. -/
theorem zpow_le_div_iff (numerator : ℕ) (hdenominator : 0 < denominator) (exponent : ℤ) :
    (2 : ℚ) ^ exponent ≤ numerator / denominator ↔
      if 0 ≤ exponent then denominator * 2 ^ exponent.toNat ≤ numerator
      else denominator ≤ numerator * 2 ^ (-exponent).toNat := by
  have hpos : (0 : ℚ) < denominator := by exact_mod_cast hdenominator
  rw [le_div_iff₀ hpos]
  split
  · next hnonneg =>
    obtain ⟨power, rfl⟩ := Int.eq_ofNat_of_zero_le hnonneg
    rw [Int.toNat_natCast, zpow_natCast, mul_comm]
    exact_mod_cast Iff.rfl
  · next hnegative =>
    obtain ⟨power, hpower⟩ := Int.eq_ofNat_of_zero_le (by omega : 0 ≤ -exponent)
    rw [hpower, Int.toNat_natCast, ← neg_eq_iff_eq_neg.2 hpower.symm, zpow_neg, zpow_natCast,
      inv_mul_le_iff₀ (by positivity), mul_comm]
    exact_mod_cast Iff.rfl

/-- The powers of two around a quotient, from those around its parts. -/
theorem log2_sub_log2_bounds (hnumerator : 0 < numerator) (hdenominator : 0 < denominator) :
    (2 : ℚ) ^ ((numerator.log2 : ℤ) - denominator.log2 - 1) ≤ numerator / denominator ∧
      (numerator / denominator : ℚ) < 2 ^ ((numerator.log2 : ℤ) - denominator.log2 + 1) := by
  have hpos : (0 : ℚ) < denominator := by exact_mod_cast hdenominator
  have hnumeratorLower : (2 : ℚ) ^ numerator.log2 ≤ numerator := by
    exact_mod_cast Nat.log2_self_le hnumerator.ne'
  have hnumeratorUpper : (numerator : ℚ) < 2 ^ (numerator.log2 + 1) := by
    exact_mod_cast Nat.lt_log2_self
  have hdenominatorLower : (2 : ℚ) ^ denominator.log2 ≤ denominator := by
    exact_mod_cast Nat.log2_self_le hdenominator.ne'
  have hdenominatorUpper : (denominator : ℚ) < 2 ^ (denominator.log2 + 1) := by
    exact_mod_cast Nat.lt_log2_self
  constructor
  · calc
      (2 : ℚ) ^ ((numerator.log2 : ℤ) - denominator.log2 - 1)
      _ = 2 ^ numerator.log2 / 2 ^ (denominator.log2 + 1) := by
        rw [sub_sub, zpow_sub₀ two_ne_zero, zpow_natCast, ← Nat.cast_succ, zpow_natCast]
      _ ≤ numerator / denominator := by gcongr
  · calc
      (numerator / denominator : ℚ)
      _ < 2 ^ (numerator.log2 + 1) / 2 ^ denominator.log2 := by gcongr
      _ = 2 ^ ((numerator.log2 : ℤ) - denominator.log2 + 1) := by
        rw [sub_add_eq_add_sub, zpow_sub₀ two_ne_zero, zpow_natCast, ← Nat.cast_succ, zpow_natCast]

/-- The estimate by bit lengths is the binary logarithm of the quotient. -/
theorem floorLog_eq (hnumerator : 0 < numerator) (hdenominator : 0 < denominator) :
    floorLog numerator denominator = Int.log 2 (numerator / denominator : ℚ) := by
  have hquotient : (0 : ℚ) < numerator / denominator := by positivity
  obtain ⟨hlower, hupper⟩ := log2_sub_log2_bounds hnumerator hdenominator
  have hreached := zpow_le_div_iff numerator hdenominator
    ((numerator.log2 : ℤ) - denominator.log2)
  rw [floorLog]
  simp only [Nat.pow_eq, ← hreached]
  split
  · next hle => exact (log_eq one_lt_two hquotient (by exact_mod_cast hle) hupper).symm
  · next hlt =>
    refine (log_eq one_lt_two hquotient hlower ?_).symm
    rw [sub_add_cancel]
    exact_mod_cast not_le.1 hlt

/-! ### Quotients of one value -/

variable {factor : ℕ}

/-- Rounding a quotient does not depend on how far it is reduced. -/
theorem roundQuotient_mul_right (hfactor : 0 < factor) :
    roundQuotient (numerator * factor) (denominator * factor) =
      roundQuotient numerator denominator := by
  rw [roundQuotient, roundQuotient, Nat.mul_div_mul_right _ _ hfactor, Nat.mul_mod_mul_right]
  simp only [← mul_assoc, Nat.mul_lt_mul_right hfactor]

/-- The nearest double of a quotient does not depend on how far it is reduced. -/
theorem nearest_mul_right (negative : Bool) (hdenominator : 0 < denominator)
    (hfactor : 0 < factor) :
    nearest negative (numerator * factor) (denominator * factor) =
      nearest negative numerator denominator := by
  rcases Nat.eq_zero_or_pos numerator with rfl | hnumerator
  · rw [Nat.zero_mul, nearest, nearest, if_pos rfl, if_pos rfl]
  · have hlog : floorLog (numerator * factor) (denominator * factor) =
        floorLog numerator denominator := by
      rw [floorLog_eq (Nat.mul_pos hnumerator hfactor) (Nat.mul_pos hdenominator hfactor),
        floorLog_eq hnumerator hdenominator, Nat.cast_mul, Nat.cast_mul,
        mul_div_mul_right _ _ (Nat.cast_ne_zero.2 hfactor.ne')]
    rw [nearest, nearest, if_neg (Nat.mul_pos hnumerator hfactor).ne', if_neg hnumerator.ne', hlog]
    simp only [Nat.mul_right_comm _ factor, roundQuotient_mul_right hfactor]

/-- Quotients of one value are rounded to one number. -/
theorem nearest_congr (negative : Bool) {numerator' denominator' : ℕ}
    (hdenominator : 0 < denominator) (hdenominator' : 0 < denominator')
    (h : (numerator / denominator : ℚ) = numerator' / denominator') :
    nearest negative numerator denominator = nearest negative numerator' denominator' := by
  have hcross : numerator * denominator' = numerator' * denominator := by
    rw [div_eq_div_iff (Nat.cast_ne_zero.2 hdenominator.ne')
      (Nat.cast_ne_zero.2 hdenominator'.ne')] at h
    exact_mod_cast h
  calc
    nearest negative numerator denominator
    _ = nearest negative (numerator * denominator') (denominator * denominator') :=
      (nearest_mul_right negative hdenominator hdenominator').symm
    _ = nearest negative (numerator' * denominator) (denominator' * denominator) := by
      rw [hcross, Nat.mul_comm denominator]
    _ = nearest negative numerator' denominator' :=
      nearest_mul_right negative hdenominator' hdenominator

/-! ### Decimals of one value -/

def decimalValue (digits : ℕ) (exponent : ℤ) : ℚ := digits * 10 ^ exponent

variable {digits : ℕ} {exponent : ℤ}

theorem decimalValue_pos (hdigits : 0 < digits) (exponent : ℤ) :
    0 < decimalValue digits exponent := by
  rw [decimalValue]
  positivity

/-- A number lies between the powers of ten that its digits count. -/
theorem toDigits_bounds (hdigits : 0 < digits) :
    10 ^ ((Nat.toDigits 10 digits).length - 1) ≤ digits ∧
      digits < 10 ^ (Nat.toDigits 10 digits).length := by
  have hlength := List.length_pos_of_ne_nil (Nat.toDigits_ne_nil (b := 10) (n := digits))
  refine ⟨?_, (Nat.length_toDigits_le_iff (by decide) hlength).1 le_rfl⟩
  rcases Nat.eq_zero_or_pos ((Nat.toDigits 10 digits).length - 1) with hzero | hpos
  · rw [hzero]
    exact hdigits
  · by_contra hlt
    have hle := (Nat.length_toDigits_le_iff (by decide) hpos).2 (Nat.not_le.1 hlt)
    omega

/-- The place of the first digit of a decimal. -/
theorem place_eq (hdigits : 0 < digits) (exponent : ℤ) :
    exponent + (Nat.toDigits 10 digits).length = Int.log 10 (decimalValue digits exponent) + 1 := by
  have hvalue := decimalValue_pos hdigits exponent
  obtain ⟨hlower, hupper⟩ := toDigits_bounds hdigits
  have hlength := List.length_pos_of_ne_nil (Nat.toDigits_ne_nil (b := 10) (n := digits))
  generalize (Nat.toDigits 10 digits).length = length at hlower hupper hlength
  have hlog : Int.log 10 (decimalValue digits exponent) = exponent + length - 1 := by
    refine log_eq (by decide) hvalue ?_ ?_
    · calc
        ((10 : ℕ) : ℚ) ^ (exponent + length - 1)
        _ = 10 ^ (length - 1) * 10 ^ exponent := by
          rw [← zpow_natCast, ← zpow_add₀ (by norm_num)]
          congr 1
          omega
        _ ≤ digits * 10 ^ exponent := by
          gcongr
          exact_mod_cast hlower
    · calc
        decimalValue digits exponent
        _ < 10 ^ length * 10 ^ exponent := by
          rw [decimalValue]
          gcongr
          exact_mod_cast hupper
        _ = ((10 : ℕ) : ℚ) ^ (exponent + length - 1 + 1) := by
          rw [← zpow_natCast, ← zpow_add₀ (by norm_num)]
          congr 1
          omega
  omega

/-- A decimal value is a quotient of natural numbers. -/
theorem decimalValue_eq_div (digits : ℕ) (exponent : ℤ) :
    decimalValue digits exponent =
      (digits * 10 ^ exponent.toNat : ℕ) / (10 ^ (-exponent).toNat : ℕ) := by
  have hexponent : exponent = (exponent.toNat : ℤ) - ((-exponent).toNat : ℤ) := by omega
  rw [decimalValue]
  conv_lhs => rw [hexponent, zpow_sub₀ (by norm_num), zpow_natCast, zpow_natCast]
  push_cast
  rw [mul_div_assoc]

theorem decimalValue_eq_zero_iff : decimalValue digits exponent = 0 ↔ digits = 0 := by
  rw [decimalValue, mul_eq_zero_iff_right (by positivity), Nat.cast_eq_zero]

/-- What a decimal is rounded to, with the place of its first digit found from its value. -/
theorem ofDecimal_of_pos (negative : Bool) (hdigits : 0 < digits) (exponent : ℤ) :
    ofDecimal negative digits exponent =
      let place := Int.log 10 (decimalValue digits exponent) + 1
      if place > exponentReach then .infinite negative
      else if place < -(exponentReach : ℤ) then zero negative
      else nearest negative (digits * 10 ^ exponent.toNat) (10 ^ (-exponent).toNat) := by
  rw [ofDecimal, if_neg hdigits.ne', place_eq hdigits]
  rfl

/-- Decimals of one value are rounded to one number. -/
theorem ofDecimal_congr (negative : Bool) {digits' : ℕ} {exponent' : ℤ}
    (h : decimalValue digits exponent = decimalValue digits' exponent') :
    ofDecimal negative digits exponent = ofDecimal negative digits' exponent' := by
  have hzero : digits = 0 ↔ digits' = 0 := by
    rw [← decimalValue_eq_zero_iff, h, decimalValue_eq_zero_iff]
  rcases Nat.eq_zero_or_pos digits with hdigits | hdigits
  · rw [ofDecimal, ofDecimal, if_pos hdigits, if_pos (hzero.1 hdigits)]
  · have hdigits' : 0 < digits' := Nat.pos_of_ne_zero fun heq ↦ hdigits.ne' (hzero.2 heq)
    have hnearest := nearest_congr negative (by positivity) (by positivity)
      ((decimalValue_eq_div digits exponent).symm.trans
        (h.trans (decimalValue_eq_div digits' exponent')))
    rw [ofDecimal_of_pos negative hdigits, ofDecimal_of_pos negative hdigits', h, hnearest]

/-! ### Signs -/

def withSign (negative : Bool) : Double → Double
  | .nan => .nan
  | .infinite _ => .infinite negative
  | .finite _ exponent fraction => .finite negative exponent fraction

theorem withSign_pack (negative : Bool) (significand scale : ℕ) :
    (pack false significand scale).withSign negative = pack negative significand scale := by
  unfold pack
  simp only
  split <;> rfl

theorem withSign_nearest (negative : Bool) (numerator denominator : ℕ) :
    (nearest false numerator denominator).withSign negative =
      nearest negative numerator denominator := by
  unfold nearest
  split
  · rfl
  · exact withSign_pack negative _ _

theorem withSign_ofDecimal (negative : Bool) (digits : ℕ) (exponent : ℤ) :
    (ofDecimal false digits exponent).withSign negative = ofDecimal negative digits exponent := by
  unfold ofDecimal
  simp only [apply_ite (withSign negative), withSign_nearest]
  rfl

/-! ### The value of a number -/

theorem significand_lt (exponent : Fin 2047) (fraction : Fin fractionCount) :
    significand exponent fraction < 2 * fractionCount := by
  have hfraction := fraction.isLt
  unfold significand
  split <;> omega

theorem fractionCount_le_significand {exponent : Fin 2047} (h : exponent.val ≠ 0)
    (fraction : Fin fractionCount) : fractionCount ≤ significand exponent fraction := by
  rw [significand, if_neg h]
  exact Nat.le_add_right _ _

theorem eq_zero_of_significand {exponent : Fin 2047} {fraction : Fin fractionCount}
    (h : significand exponent fraction = 0) : exponent = 0 ∧ fraction = 0 := by
  by_cases hexponent : exponent.val = 0
  · rw [significand, if_pos hexponent] at h
    exact ⟨Fin.ext hexponent, Fin.ext h⟩
  · have hle := fractionCount_le_significand hexponent fraction
    rw [h] at hle
    exact absurd hle (by decide)

/-- The bits of a number are those of its significand at its scale. -/
theorem pack_significand (negative : Bool) (exponent : Fin 2047) (fraction : Fin fractionCount) :
    pack negative (significand exponent fraction) (scale exponent) =
      .finite negative exponent fraction := by
  have hcode : scale exponent * fractionCount + significand exponent fraction =
      fractionCount * exponent + fraction := by
    unfold scale significand
    split
    · next hzero => simp [hzero]
    · next hpos =>
      obtain ⟨before, hbefore⟩ := Nat.exists_eq_succ_of_ne_zero hpos
      rw [hbefore, Nat.succ_sub_one, Nat.succ_eq_add_one]
      ring
  have hdiv : (fractionCount * exponent.val + fraction.val) / fractionCount = exponent.val := by
    rw [Nat.mul_add_div (by decide), Nat.div_eq_of_lt fraction.isLt, Nat.add_zero]
  have hmod : (fractionCount * exponent.val + fraction.val) % fractionCount = fraction.val := by
    rw [Nat.mul_add_mod, Nat.mod_eq_of_lt fraction.isLt]
  unfold pack
  simp only [hcode, hdiv, hmod, exponent.isLt, ↓reduceDIte, Fin.eta]

theorem magnitude_fst_pos {exponent : Fin 2047} {fraction : Fin fractionCount}
    (h : 0 < significand exponent fraction) : 0 < (magnitude exponent fraction).1 :=
  Nat.mul_pos h (Nat.pow_pos (by decide))

theorem magnitude_snd_pos (exponent : Fin 2047) (fraction : Fin fractionCount) :
    0 < (magnitude exponent fraction).2 :=
  Nat.pow_pos (by decide)

theorem roundQuotient_mul_self (hfactor : 0 < factor) (whole : ℕ) :
    roundQuotient (whole * factor) factor = whole := by
  rw [roundQuotient, Nat.mul_mod_left, Nat.mul_div_cancel _ hfactor]
  exact if_pos hfactor

theorem log_mul_zpow {value : ℚ} (hvalue : 0 < value) (exponent : ℤ) :
    Int.log 2 (value * 2 ^ exponent) = Int.log 2 value + exponent := by
  have hpower : ∀ power : ℤ, ((2 : ℕ) : ℚ) ^ (power + exponent) = 2 ^ power * 2 ^ exponent :=
    fun power ↦ by rw [Nat.cast_ofNat, zpow_add₀ two_ne_zero]
  refine log_eq one_lt_two (by positivity) ?_ ?_
  · rw [hpower]
    gcongr
    exact_mod_cast Int.zpow_log_le_self one_lt_two hvalue
  · rw [add_right_comm, hpower]
    gcongr
    exact_mod_cast Int.lt_zpow_succ_log_self one_lt_two value

/-- The scale at which the value of a number is rounded is the scale of the number. -/
theorem floorLog_magnitude {exponent : Fin 2047} {fraction : Fin fractionCount}
    (h : 0 < significand exponent fraction) :
    (floorLog (magnitude exponent fraction).1 (magnitude exponent fraction).2 +
      (leastScale - 52 : ℕ)).toNat = scale exponent := by
  have hlast : Nat.log 2 (significand exponent fraction) < 53 :=
    Nat.log_lt_of_lt_pow h.ne' (significand_lt exponent fraction)
  have hfirst : exponent.val ≠ 0 → 52 ≤ Nat.log 2 (significand exponent fraction) := fun hpos ↦
    Nat.le_log_of_pow_le one_lt_two (fractionCount_le_significand hpos fraction)
  have hsubnormal : exponent.val = 0 → Nat.log 2 (significand exponent fraction) < 52 := fun hzero ↦
    Nat.log_lt_of_lt_pow h.ne' (by rw [significand, if_pos hzero]; exact fraction.isLt)
  rw [floorLog_eq (magnitude_fst_pos h) (magnitude_snd_pos exponent fraction), magnitude_eq,
    log_mul_zpow (by exact_mod_cast h), Int.log_natCast]
  unfold scale leastScale
  omega

/-- The value of a number is rounded to the number. -/
theorem nearest_magnitude (negative : Bool) (exponent : Fin 2047) (fraction : Fin fractionCount) :
    nearest negative (magnitude exponent fraction).1 (magnitude exponent fraction).2 =
      .finite negative exponent fraction := by
  rcases Nat.eq_zero_or_pos (significand exponent fraction) with hzero | hpos
  · obtain ⟨rfl, rfl⟩ := eq_zero_of_significand hzero
    exact if_pos (Nat.zero_mul _)
  · have hfactor : 0 < (magnitude exponent fraction).2 * (powerOfTwo (scale exponent)).1 :=
      Nat.mul_pos (magnitude_snd_pos exponent fraction) (Nat.pow_pos (by decide))
    have hquotient : (magnitude exponent fraction).1 * (powerOfTwo (scale exponent)).2 =
        significand exponent fraction *
          ((magnitude exponent fraction).2 * (powerOfTwo (scale exponent)).1) := by
      rw [magnitude]
      ring
    rw [nearest, if_neg (magnitude_fst_pos hpos).ne', floorLog_magnitude hpos]
    simp only [hquotient, roundQuotient_mul_self hfactor, pack_significand]

/-- A finite double other than zero has its magnitude between the least and the greatest. -/
theorem magnitude_bounds {exponent : Fin 2047} {fraction : Fin fractionCount}
    (h : 0 < significand exponent fraction) :
    (2 : ℚ) ^ (-1074 : ℤ) ≤ (magnitude exponent fraction).1 / (magnitude exponent fraction).2 ∧
      ((magnitude exponent fraction).1 / (magnitude exponent fraction).2 : ℚ) < 2 ^ (1024 : ℤ) := by
  have hscale : scale exponent ≤ 2045 := by
    unfold scale
    omega
  have hlower : (1 : ℚ) ≤ significand exponent fraction := by exact_mod_cast h
  have hupper : (significand exponent fraction : ℚ) < 2 ^ (53 : ℤ) := by
    exact_mod_cast significand_lt exponent fraction
  rw [magnitude_eq]
  unfold leastScale
  constructor
  · calc
      (2 : ℚ) ^ (-1074 : ℤ)
      _ ≤ 2 ^ ((scale exponent : ℤ) - (1074 : ℕ)) := zpow_le_zpow_right₀ one_le_two (by omega)
      _ ≤ significand exponent fraction * 2 ^ ((scale exponent : ℤ) - (1074 : ℕ)) :=
        le_mul_of_one_le_left (by positivity) hlower
  · calc
      significand exponent fraction * (2 : ℚ) ^ ((scale exponent : ℤ) - (1074 : ℕ))
      _ < 2 ^ (53 : ℤ) * 2 ^ ((scale exponent : ℤ) - (1074 : ℕ)) := by gcongr
      _ = 2 ^ (53 + ((scale exponent : ℤ) - (1074 : ℕ))) := (zpow_add₀ two_ne_zero _ _).symm
      _ ≤ 2 ^ (1024 : ℤ) := zpow_le_zpow_right₀ one_le_two (by omega)

/-- Three binary digits hold no more than one decimal digit does. -/
theorem two_zpow_le_ten_zpow (power : ℕ) : (2 : ℚ) ^ (3 * power : ℤ) ≤ 10 ^ (power : ℤ) := by
  rw [zpow_mul, zpow_natCast, zpow_natCast]
  gcongr
  norm_num

/-- The first digits of positive numbers lie within `exponentReach`. -/
theorem log_magnitude_bounds {exponent : Fin 2047} {fraction : Fin fractionCount}
    (h : 0 < significand exponent fraction) :
    -401 ≤ Int.log 10 ((magnitude exponent fraction).1 / (magnitude exponent fraction).2 : ℚ) ∧
      Int.log 10 ((magnitude exponent fraction).1 / (magnitude exponent fraction).2 : ℚ) < 400 := by
  obtain ⟨hlower, hupper⟩ := magnitude_bounds h
  have hvalue := lt_of_lt_of_le (by positivity) hlower
  constructor
  · refine (Int.zpow_le_iff_le_log (by decide) hvalue).1 (le_trans ?_ hlower)
    calc
      ((10 : ℕ) : ℚ) ^ (-401 : ℤ)
      _ ≤ (2 ^ (3 * (401 : ℕ) : ℤ))⁻¹ := by
        rw [zpow_neg]
        exact inv_anti₀ (by positivity) (by exact_mod_cast two_zpow_le_ten_zpow 401)
      _ = 2 ^ (-(3 * (401 : ℕ)) : ℤ) := (zpow_neg _ _).symm
      _ ≤ 2 ^ (-1074 : ℤ) := zpow_le_zpow_right₀ one_le_two (by omega)
  · refine (Int.lt_zpow_iff_log_lt (by decide) hvalue).1 (hupper.trans_le ?_)
    calc
      (2 : ℚ) ^ (1024 : ℤ)
      _ ≤ 2 ^ (3 * (400 : ℕ) : ℤ) := zpow_le_zpow_right₀ one_le_two (by omega)
      _ ≤ ((10 : ℕ) : ℚ) ^ (400 : ℤ) := by exact_mod_cast two_zpow_le_ten_zpow 400

/-- A decimal of the value of a number is rounded to the number. -/
theorem ofDecimal_of_value (negative : Bool) {exponent : Fin 2047} {fraction : Fin fractionCount}
    {digits : ℕ} {power : ℤ}
    (h : decimalValue digits power =
      (magnitude exponent fraction).1 / (magnitude exponent fraction).2) :
    ofDecimal negative digits power = .finite negative exponent fraction := by
  have hnearest := nearest_congr negative (by positivity) (magnitude_snd_pos exponent fraction)
    ((decimalValue_eq_div digits power).symm.trans h)
  rcases Nat.eq_zero_or_pos digits with rfl | hdigits
  · rw [ofDecimal, if_pos rfl, ← nearest_magnitude negative exponent fraction, ← hnearest,
      Nat.zero_mul, nearest, if_pos rfl]
  · have hpos : 0 < significand exponent fraction := by
      refine Nat.pos_of_ne_zero fun hzero ↦ (decimalValue_pos hdigits power).ne' ?_
      rw [h, magnitude_eq, hzero, Nat.cast_zero, zero_mul]
    obtain ⟨hlower, hupper⟩ := log_magnitude_bounds hpos
    rw [ofDecimal_of_pos negative hdigits, h, hnearest, nearest_magnitude]
    unfold exponentReach
    simp only
    rw [if_neg (by omega), if_neg (by omega)]

/-! ### Decimals that are printed -/

/-- The exact decimal spelling of a double is read as that double. -/
theorem ofDecimal_exact (negative : Bool) (exponent : Fin 2047) (fraction : Fin fractionCount) :
    ofDecimal negative (exact exponent fraction).digits (exact exponent fraction).exponent =
      .finite negative exponent fraction := by
  refine ofDecimal_of_value negative ?_
  have hdenominator : (magnitude exponent fraction).2 =
      2 ^ (magnitude exponent fraction).2.log2 := by
    rw [magnitude]
    simp [powerOfTwo]
  have hfactors : (10 : ℚ) = 2 * 5 := by norm_num
  generalize hplaces : (magnitude exponent fraction).2.log2 = places at hdenominator
  unfold exact
  simp only [hplaces, Nat.pow_eq]
  rw [decimalValue, hdenominator, hfactors, zpow_neg, zpow_natCast, mul_pow]
  push_cast
  rw [← div_eq_mul_inv, mul_div_mul_right _ _ (by positivity)]

/-- The decimal that is printed for a number is rounded to the number. -/
theorem ofDecimal_shortest (negative : Bool) (exponent : Fin 2047) (fraction : Fin fractionCount) :
    ofDecimal negative (shortest exponent fraction).digits (shortest exponent fraction).exponent =
      .finite negative exponent fraction := by
  unfold shortest
  simp only
  cases hfound : List.find? _ _ with
  | none => exact ofDecimal_exact negative exponent fraction
  | some decimal =>
    have hread := of_decide_eq_true (p := ofDecimal false decimal.digits decimal.exponent =
      .finite false exponent fraction) (List.find?_some hfound :)
    rw [Option.getD_some, ← withSign_ofDecimal, hread, withSign]

end SpanBridge.Double
