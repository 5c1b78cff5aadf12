import RideHailing.DecimalArithmetic
import Mathlib.Algebra.Order.Field.Power
import Mathlib.Tactic.FieldSimp
import Mathlib.Tactic.Linarith
import Mathlib.Tactic.NormNum
import Mathlib.Tactic.Ring

/-!
# Digits and rounding

What the digits of a coefficient say about its size, the number that a decimal denotes, and
what is kept of a coefficient that is too long for the context.
-/

namespace RideHailing

namespace Decimal

/-! ## Digits -/

theorem digitCount_le_iff {number digits : Nat} (positive : 0 < digits) :
    digitCount number ≤ digits ↔ number < 10 ^ digits :=
  Nat.length_toDigits_le_iff (by decide) positive

theorem digitCount_pos (number : Nat) : 0 < digitCount number :=
  Nat.length_toDigits_pos

theorem lt_pow_digitCount (number : Nat) : number < 10 ^ digitCount number :=
  (digitCount_le_iff (digitCount_pos number)).mp le_rfl

/-- A number of several digits has no leading zeros. -/
theorem pow_le_of_digitCount {number digits : Nat} (several : 0 < digits)
    (count : digitCount number = digits + 1) : 10 ^ digits ≤ number := by
  by_contra shorter
  rw [not_le, ← digitCount_le_iff several] at shorter
  omega

/-! ## The number that a decimal denotes -/

/-- A coefficient times a power of ten. -/
def scaled (coefficient exponent : Int) : ℚ :=
  coefficient * 10 ^ exponent

theorem toRat?_finite (coefficient exponent : Int) :
    (finite coefficient exponent).toRat? = some (scaled coefficient exponent) := by
  rw [toRat?, scaled]
  congr 1
  split
  · rename_i whole
    obtain ⟨digits, rfl⟩ := Int.eq_ofNat_of_zero_le whole
    simp
  · rename_i fraction
    obtain ⟨digits, digitsEq⟩ := Int.eq_ofNat_of_zero_le (show 0 ≤ -exponent by omega)
    obtain rfl : exponent = -(digits : Int) := by omega
    simp [div_eq_mul_inv]

theorem scaled_mul_ten (coefficient exponent : Int) :
    scaled (coefficient * 10) exponent = scaled coefficient (exponent + 1) := by
  rw [scaled, scaled, zpow_add_one₀ (by norm_num)]
  push_cast
  ring

/-! ## Rounding -/

theorem div_le_shiftHalfEven (magnitude digits : Nat) :
    magnitude / 10 ^ digits ≤ shiftHalfEven magnitude digits := by
  simp only [shiftHalfEven]
  split
  · omega
  · split <;> omega

theorem shiftHalfEven_le_succ (magnitude digits : Nat) :
    shiftHalfEven magnitude digits ≤ magnitude / 10 ^ digits + 1 := by
  simp only [shiftHalfEven]
  split
  · omega
  · split <;> omega

theorem shiftHalfEven_zero (magnitude : Nat) : shiftHalfEven magnitude 0 = magnitude := by
  simp [shiftHalfEven, Nat.mod_one]

/-- What is kept of a long coefficient has at most one digit more than the context, and
then it is a power of ten. -/
theorem shiftHalfEven_le_pow {magnitude excess : Nat}
    (count : digitCount magnitude = precision + excess) :
    shiftHalfEven magnitude excess ≤ 10 ^ precision := by
  have bound : magnitude < 10 ^ excess * 10 ^ precision := by
    rw [← pow_add, Nat.add_comm, ← count]
    exact lt_pow_digitCount magnitude
  have kept : magnitude / 10 ^ excess < 10 ^ precision := Nat.div_lt_of_lt_mul bound
  have rounded := shiftHalfEven_le_succ magnitude excess
  omega

/-- A carry only moves a power of ten. -/
theorem toRat?_fix (coefficient exponent : Int) {excess : Nat}
    (count : digitCount coefficient.natAbs - precision = excess) :
    (fix coefficient exponent).toRat? =
      some (scaled (withSign coefficient (shiftHalfEven coefficient.natAbs excess))
        (exponent + excess)) := by
  simp only [fix, count]
  by_cases short : excess = 0
  · subst short
    have same : withSign coefficient coefficient.natAbs = coefficient := by
      simp only [withSign]
      split <;> omega
    rw [if_pos rfl, toRat?_finite, shiftHalfEven_zero, same, Nat.cast_zero, add_zero]
  · rw [if_neg short]
    by_cases fits : digitCount (shiftHalfEven coefficient.natAbs excess) ≤ precision
    · rw [if_pos fits, toRat?_finite]
    · have bound := shiftHalfEven_le_pow
        (show digitCount coefficient.natAbs = precision + excess by omega)
      rw [digitCount_le_iff (by decide)] at fits
      have carried : shiftHalfEven coefficient.natAbs excess = 10 ^ precision := by omega
      have tenth : withSign coefficient (10 ^ precision / 10) * 10 =
          withSign coefficient (10 ^ precision) := by
        simp only [withSign, precision]
        split <;> norm_num
      rw [if_neg (by rwa [digitCount_le_iff (by decide)]), toRat?_finite, carried,
        ← scaled_mul_ten, tenth]

/-! ## Quotients -/

/-- Dropping a trailing zero and raising the exponent leaves the number what it was. -/
theorem scaled_strip (fuel : Nat) (ideal coefficient exponent : Int) :
    scaled (strip fuel ideal coefficient exponent).1 (strip fuel ideal coefficient exponent).2 =
      scaled coefficient exponent := by
  induction fuel generalizing coefficient exponent with
  | zero => rfl
  | succ fuel ih =>
      simp only [strip]
      split
      · rename_i trailing
        have zeros : coefficient / 10 * 10 = coefficient := by omega
        rw [ih, ← scaled_mul_ten, zeros]
      · rfl

theorem strip_nonneg (fuel : Nat) (ideal : Int) {coefficient : Int} (exponent : Int)
    (nonneg : 0 ≤ coefficient) : 0 ≤ (strip fuel ideal coefficient exponent).1 := by
  induction fuel generalizing coefficient exponent with
  | zero => exact nonneg
  | succ fuel ih =>
      simp only [strip]
      split
      · exact ih (exponent + 1) (by omega)
      · exact nonneg

end Decimal

end RideHailing
