import RideHailing.DecimalRounding
import Mathlib.Algebra.Order.Round
import Mathlib.Data.Nat.Cast.Field
import Mathlib.Data.Rat.Floor

/-!
# Rounding past no number of the context

A sum, a product and a quotient are rounded to the digits of the context, but never past a
number that the context can hold: what lies below the exact result is not above the computed
one, and the other way round.  So a result that can be held is exact, and a bound that can be
held survives every operation.
-/

namespace RideHailing

namespace Decimal

/-! ## Numbers with few digits -/

theorem scaled_add_natCast (coefficient exponent : Int) (digits : Nat) :
    scaled coefficient (exponent + digits) = scaled (coefficient * 10 ^ digits) exponent := by
  rw [scaled, scaled, zpow_add₀ (by norm_num), zpow_natCast]
  push_cast
  ring

theorem scaled_le_iff {low high exponent : Int} :
    scaled low exponent ≤ scaled high exponent ↔ low ≤ high := by
  have power : (0 : ℚ) < 10 ^ exponent := zpow_pos (by norm_num) exponent
  rw [scaled, scaled, mul_le_mul_iff_left₀ power, Int.cast_le]

theorem scaled_lt_iff {low high exponent : Int} :
    scaled low exponent < scaled high exponent ↔ low < high := by
  rw [← not_le, scaled_le_iff, not_le]

theorem scaled_mul (first second exponent exponent' : Int) :
    scaled first exponent * scaled second exponent' =
      scaled (first * second) (exponent + exponent') := by
  rw [scaled, scaled, scaled, zpow_add₀ (by norm_num)]
  push_cast
  ring

theorem scaled_lowered (coefficient : Int) {exponent target : Int} (lower : target ≤ exponent) :
    scaled (lowered coefficient exponent target) target = scaled coefficient exponent := by
  obtain ⟨digits, digitsEq⟩ := Int.eq_ofNat_of_zero_le (show 0 ≤ exponent - target by omega)
  obtain rfl : exponent = target + digits := by omega
  rw [lowered, digitsEq, Int.toNat_natCast, scaled_add_natCast]

/-- A number with so many significant digits at most; it is not negative. -/
def HasDigits (digits : Nat) (value : ℚ) : Prop :=
  ∃ (coefficient : Nat) (exponent : Int),
    coefficient < 10 ^ digits ∧ value = scaled coefficient exponent

/-- The context can hold the number. -/
def Held (value : ℚ) : Prop :=
  HasDigits precision value

/-- In units of any power of ten, a number that is held is whole, or it has fewer digits than
the context. -/
theorem Held.whole_or_short {value : ℚ} (held : Held value) (exponent : Int) :
    (∃ units : Nat, value = scaled units exponent) ∨
      value < scaled ((10 ^ 27 : Nat) : Int) exponent := by
  obtain ⟨coefficient, finer, few, rfl⟩ := held
  rcases le_or_gt exponent finer with coarse | fine
  · obtain ⟨digits, digitsEq⟩ := Int.eq_ofNat_of_zero_le (show 0 ≤ finer - exponent by omega)
    obtain rfl : finer = exponent + digits := by omega
    left
    refine ⟨coefficient * 10 ^ digits, ?_⟩
    rw [scaled_add_natCast]
    push_cast
    rfl
  · obtain ⟨digits, digitsEq⟩ := Int.eq_ofNat_of_zero_le (show 0 ≤ exponent - finer - 1 by omega)
    obtain rfl : exponent = finer + (digits + 1 : Nat) := by
      push_cast
      omega
    right
    rw [scaled_add_natCast, scaled_lt_iff]
    have room : 10 ^ precision ≤ 10 ^ 27 * 10 ^ (digits + 1) := by
      rw [← pow_add]
      exact Nat.pow_le_pow_right (by decide) (by rw [precision]; omega)
    exact_mod_cast few.trans_le room

/-! ## Rounding -/

/-- The exact number has been rounded past no number that the context holds. -/
structure Rounds (exact rounded : ℚ) : Prop where
  atLeast : ∀ {bound}, Held bound → bound ≤ exact → bound ≤ rounded
  atMost : ∀ {bound}, Held bound → exact ≤ bound → rounded ≤ bound

theorem Rounds.refl (value : ℚ) : Rounds value value :=
  ⟨fun _ reached => reached, fun _ reached => reached⟩

theorem Rounds.trans {exact middle rounded : ℚ} (first : Rounds exact middle)
    (second : Rounds middle rounded) : Rounds exact rounded :=
  ⟨fun held reached => second.atLeast held (first.atLeast held reached),
    fun held reached => second.atMost held (first.atMost held reached)⟩

/-- A number that the context holds is not rounded. -/
theorem Rounds.eq_of_held {exact rounded : ℚ} (rounds : Rounds exact rounded)
    (held : Held exact) : rounded = exact :=
  le_antisymm (rounds.atMost held le_rfl) (rounds.atLeast held le_rfl)

theorem held_zero : Held 0 :=
  ⟨0, 0, by decide, by simp [scaled]⟩

/-- Rounding does not pass a multiple of the power of ten. -/
theorem shiftHalfEven_le_of_le {magnitude excess units : Nat}
    (above : magnitude ≤ units * 10 ^ excess) : shiftHalfEven magnitude excess ≤ units := by
  have split := Nat.div_add_mod' magnitude (10 ^ excess)
  have rest := Nat.mod_lt magnitude (show 0 < 10 ^ excess by positivity)
  rcases Nat.lt_or_ge (magnitude / 10 ^ excess) units with fewer | enough
  · exact (shiftHalfEven_le_succ magnitude excess).trans fewer
  · -- The magnitude is the multiple itself.
    have product := Nat.mul_le_mul_right (10 ^ excess) enough
    have exact : magnitude % 10 ^ excess = 0 := by omega
    have positive : 0 < 10 ^ excess := by positivity
    simp only [shiftHalfEven, exact, Nat.mul_zero, if_pos positive]
    exact Nat.div_le_of_le_mul (by rwa [Nat.mul_comm])

/-- What is kept of a long coefficient, in units of its last digit. -/
theorem rounds_shiftHalfEven {magnitude excess : Nat} (exponent : Int)
    (long : 10 ^ 27 ≤ magnitude / 10 ^ excess) :
    Rounds (scaled magnitude exponent)
      (scaled (shiftHalfEven magnitude excess) (exponent + excess)) := by
  have kept := div_le_shiftHalfEven magnitude excess
  have leading :
      scaled ((10 ^ 27 : Nat) : Int) (exponent + excess) ≤ scaled magnitude exponent := by
    rw [scaled_add_natCast, scaled_le_iff]
    exact_mod_cast (Nat.le_div_iff_mul_le (by positivity)).mp long
  constructor
  · intro bound held reached
    rcases held.whole_or_short (exponent + excess) with ⟨units, rfl⟩ | short
    · rw [scaled_add_natCast, scaled_le_iff] at reached
      have below : units ≤ magnitude / 10 ^ excess := by
        rw [Nat.le_div_iff_mul_le (by positivity)]
        exact_mod_cast reached
      rw [scaled_le_iff]
      exact_mod_cast below.trans kept
    · apply short.le.trans
      rw [scaled_le_iff]
      exact_mod_cast long.trans kept
  · intro bound held reached
    rcases held.whole_or_short (exponent + excess) with ⟨units, rfl⟩ | short
    · rw [scaled_add_natCast, scaled_le_iff] at reached
      have above : magnitude ≤ units * 10 ^ excess := by exact_mod_cast reached
      rw [scaled_le_iff]
      exact_mod_cast shiftHalfEven_le_of_le above
    · exact absurd (leading.trans reached) (not_le.mpr short)

theorem fix_rounds (magnitude : Nat) (exponent : Int) :
    ∃ rounded, (fix magnitude exponent).toRat? = some rounded ∧
      Rounds (scaled magnitude exponent) rounded := by
  obtain ⟨excess, count⟩ : ∃ excess, digitCount magnitude - precision = excess := ⟨_, rfl⟩
  refine ⟨_, toRat?_fix magnitude exponent count, ?_⟩
  rw [Int.natAbs_natCast, withSign, if_neg (by omega)]
  by_cases short : excess = 0
  · subst short
    rw [shiftHalfEven_zero, Nat.cast_zero, add_zero]
    exact Rounds.refl _
  · apply rounds_shiftHalfEven
    have long : digitCount magnitude = 27 + excess + 1 := by
      rw [precision] at count
      omega
    rw [Nat.le_div_iff_mul_le (by positivity), ← pow_add]
    exact pow_le_of_digitCount (by omega) long

/-! ## The operations -/

/-- A number that is not negative has a natural coefficient. -/
theorem eq_finite_of_nonneg {number : Decimal} {value : ℚ} (valued : number.toRat? = some value)
    (nonneg : 0 ≤ value) :
    ∃ (magnitude : Nat) (exponent : Int), number = finite magnitude exponent ∧
      value = scaled magnitude exponent := by
  cases number with
  | nan => cases valued
  | finite coefficient exponent =>
      rw [toRat?_finite, Option.some.injEq] at valued
      subst valued
      have zero : scaled 0 exponent = 0 := by simp [scaled]
      rw [← zero, scaled_le_iff] at nonneg
      obtain ⟨magnitude, rfl⟩ := Int.eq_ofNat_of_zero_le nonneg
      exact ⟨magnitude, exponent, rfl, rfl⟩

theorem maximum_toRat? {first second : Decimal} {x y : ℚ} (firstValue : first.toRat? = some x)
    (secondValue : second.toRat? = some y) :
    (maximum first second).toRat? = some (max x y) := by
  simp only [maximum, lt, firstValue, secondValue, decide_eq_true_eq]
  split
  · rename_i less
    rw [secondValue, max_eq_right less.le]
  · rename_i notLess
    rw [firstValue, max_eq_left (not_lt.mp notLess)]

theorem minimum_toRat? {first second : Decimal} {x y : ℚ} (firstValue : first.toRat? = some x)
    (secondValue : second.toRat? = some y) :
    (minimum first second).toRat? = some (min x y) := by
  simp only [minimum, lt, firstValue, secondValue, decide_eq_true_eq]
  split
  · rename_i less
    rw [secondValue, min_eq_right less.le]
  · rename_i notLess
    rw [firstValue, min_eq_left (not_lt.mp notLess)]

section Operations

variable {first second : Decimal} {x y : ℚ}

theorem add_rounds (firstValue : first.toRat? = some x) (secondValue : second.toRat? = some y)
    (firstNonneg : 0 ≤ x) (secondNonneg : 0 ≤ y) :
    ∃ sum, (first.add second).toRat? = some sum ∧ Rounds (x + y) sum := by
  obtain ⟨magnitude, exponent, rfl, rfl⟩ := eq_finite_of_nonneg firstValue firstNonneg
  obtain ⟨magnitude', exponent', rfl, rfl⟩ := eq_finite_of_nonneg secondValue secondNonneg
  have total : scaled (lowered magnitude exponent (min exponent exponent') +
      lowered magnitude' exponent' (min exponent exponent')) (min exponent exponent') =
        scaled magnitude exponent + scaled magnitude' exponent' := by
    rw [← scaled_lowered magnitude (min_le_left exponent exponent'),
      ← scaled_lowered magnitude' (min_le_right exponent exponent'), scaled, scaled, scaled]
    push_cast
    ring
  obtain ⟨rounded, value, rounds⟩ := fix_rounds
    (magnitude * 10 ^ (exponent - min exponent exponent').toNat +
      magnitude' * 10 ^ (exponent' - min exponent exponent').toNat) (min exponent exponent')
  refine ⟨rounded, ?_, ?_⟩
  · rw [← value, add, lowered, lowered]
    push_cast
    rfl
  · rw [← total, lowered, lowered]
    exact_mod_cast rounds

theorem mul_rounds (firstValue : first.toRat? = some x) (secondValue : second.toRat? = some y)
    (firstNonneg : 0 ≤ x) (secondNonneg : 0 ≤ y) :
    ∃ product, (first.mul second).toRat? = some product ∧ Rounds (x * y) product := by
  obtain ⟨magnitude, exponent, rfl, rfl⟩ := eq_finite_of_nonneg firstValue firstNonneg
  obtain ⟨magnitude', exponent', rfl, rfl⟩ := eq_finite_of_nonneg secondValue secondNonneg
  obtain ⟨rounded, value, rounds⟩ := fix_rounds (magnitude * magnitude') (exponent + exponent')
  refine ⟨rounded, ?_, ?_⟩
  · rw [← value, mul]
    push_cast
    rfl
  · rw [scaled_mul]
    exact_mod_cast rounds

end Operations

/-! ## Quotients -/

theorem pow_le_of_pos {number : Nat} (positive : 0 < number) :
    10 ^ (digitCount number - 1) ≤ number := by
  have atLeastOne := digitCount_pos number
  rcases Nat.eq_or_lt_of_le atLeastOne with single | several
  · rw [← single]
    exact positive
  · exact pow_le_of_digitCount (by omega) (by omega)

/-- The quotient that is computed first has all digits of the context. -/
theorem quotient_long {dividend divisor : Nat} {shift : Int} (dividendPositive : 0 < dividend)
    (positive : 0 < divisor)
    (shiftEq : shift = (digitCount divisor : Int) - digitCount dividend + precision + 1) :
    10 ^ 27 ≤ dividend * 10 ^ shift.toNat / (divisor * 10 ^ (-shift).toNat) := by
  rw [Nat.le_div_iff_mul_le (by positivity)]
  have lead := pow_le_of_pos dividendPositive
  have counted := digitCount_pos dividend
  rw [precision] at shiftEq
  calc 10 ^ 27 * (divisor * 10 ^ (-shift).toNat)
      ≤ 10 ^ 27 * (10 ^ digitCount divisor * 10 ^ (-shift).toNat) :=
        Nat.mul_le_mul_left _ (Nat.mul_le_mul_right _ (lt_pow_digitCount divisor).le)
    _ = 10 ^ (27 + (digitCount divisor + (-shift).toNat)) := by rw [pow_add, pow_add]
    _ ≤ 10 ^ (digitCount dividend - 1 + shift.toNat) :=
        Nat.pow_le_pow_right (by decide) (by omega)
    _ = 10 ^ (digitCount dividend - 1) * 10 ^ shift.toNat := pow_add _ _ _
    _ ≤ dividend * 10 ^ shift.toNat := Nat.mul_le_mul_right _ lead

/-- An inexact quotient stands for every number between its whole part and the next whole
number. -/
theorem rounds_quotient {dividend divisor sticky : Nat} (exponent : Int) (positive : 0 < divisor)
    (long : 10 ^ 27 ≤ dividend / divisor) (inexact : dividend % divisor ≠ 0)
    (low : dividend / divisor ≤ sticky) (high : sticky ≤ dividend / divisor + 1) :
    Rounds ((dividend : ℚ) / divisor * 10 ^ exponent) (scaled sticky exponent) := by
  have power : (0 : ℚ) < 10 ^ exponent := zpow_pos (by norm_num) exponent
  have divisorPositive : (0 : ℚ) < divisor := by exact_mod_cast positive
  have below : ∀ units : Nat, scaled units exponent ≤ (dividend : ℚ) / divisor * 10 ^ exponent ↔
      units ≤ dividend / divisor := by
    intro units
    rw [scaled, mul_le_mul_iff_left₀ power, le_div_iff₀ divisorPositive,
      Nat.le_div_iff_mul_le positive]
    exact_mod_cast Iff.rfl
  constructor
  · intro bound held reached
    rcases held.whole_or_short exponent with ⟨units, rfl⟩ | short
    · rw [scaled_le_iff]
      exact_mod_cast ((below units).mp reached).trans low
    · apply short.le.trans
      rw [scaled_le_iff]
      exact_mod_cast long.trans low
  · intro bound held reached
    rcases held.whole_or_short exponent with ⟨units, rfl⟩ | short
    · rw [scaled_le_iff]
      have above : dividend / divisor < units := by
        rw [scaled, mul_le_mul_iff_left₀ power, div_le_iff₀ divisorPositive] at reached
        have product : dividend ≤ units * divisor := by exact_mod_cast reached
        rw [Nat.div_lt_iff_lt_mul positive]
        refine lt_of_le_of_ne product fun exact => inexact ?_
        rw [exact, Nat.mul_mod_left]
      exact_mod_cast high.trans above
    · exact absurd (((below _).mpr long).trans reached) (not_le.mpr short)

/-- A quotient computed in the context. -/
theorem div_rounds (dividend : Nat) {divisor : Nat} (positive : 0 < divisor) :
    ∃ quotient, ((finite dividend 0).div (finite divisor 0)).toRat? = some quotient ∧
      Rounds ((dividend : ℚ) / divisor) quotient := by
  rcases Nat.eq_zero_or_pos dividend with rfl | dividendPositive
  · refine ⟨0, by simp [div, toRat?], ?_⟩
    rw [Nat.cast_zero, zero_div]
    exact Rounds.refl 0
  have signs : (dividend : Int).sign * (divisor : Int).sign = 1 := by
    rw [Int.sign_natCast_of_ne_zero (by omega), Int.sign_natCast_of_ne_zero (by omega)]
    rfl
  simp only [div, Int.natAbs_natCast, signs, one_mul, sub_zero, zero_sub]
  rw [if_neg (by omega)]
  have long := quotient_long dividendPositive positive rfl
  have exact : ∀ shift : Int, (dividend : ℚ) / divisor =
      ((dividend * 10 ^ shift.toNat : Nat) : ℚ) / (divisor * 10 ^ (-shift).toNat : Nat) *
        10 ^ (-shift) := by
    intro shift
    have nonzero : (divisor : ℚ) ≠ 0 := by positivity
    rcases le_total 0 shift with right | left
    · obtain ⟨digits, rfl⟩ := Int.eq_ofNat_of_zero_le right
      rw [Int.toNat_natCast, Int.toNat_neg_natCast, zpow_neg, zpow_natCast]
      push_cast
      field_simp
    · obtain ⟨digits, digitsEq⟩ := Int.eq_ofNat_of_zero_le (show 0 ≤ -shift by omega)
      obtain rfl : shift = -(digits : Int) := by omega
      rw [neg_neg, Int.toNat_natCast, Int.toNat_neg_natCast, zpow_natCast]
      push_cast
      field_simp
  generalize (digitCount divisor : Int) - digitCount dividend + precision + 1 = shift at long ⊢
  have divisorPositive : 0 < divisor * 10 ^ (-shift).toNat := by positivity
  rw [exact shift]
  generalize dividend * 10 ^ shift.toNat = raised at long ⊢
  generalize divisor * 10 ^ (-shift).toNat = raisedDivisor at long divisorPositive ⊢
  split
  · rename_i whole
    obtain ⟨stripped, strippedEq⟩ := Int.eq_ofNat_of_zero_le
      (strip_nonneg (shift.toNat + 1) 0 (-shift) (Int.natCast_nonneg (raised / raisedDivisor)))
    have same := scaled_strip (shift.toNat + 1) 0 (raised / raisedDivisor : Nat) (-shift)
    have divided : (raised : ℚ) / raisedDivisor = (raised / raisedDivisor : Nat) := by
      rw [Nat.cast_div (Nat.dvd_of_mod_eq_zero whole) (by positivity)]
    rw [strippedEq] at same ⊢
    rw [divided]
    obtain ⟨rounded, value, rounds⟩ := fix_rounds stripped
      (strip (shift.toNat + 1) 0 (raised / raisedDivisor : Nat) (-shift)).2
    refine ⟨rounded, value, ?_⟩
    rw [same] at rounds
    exact rounds
  · rename_i inexact
    obtain ⟨rounded, value, rounds⟩ := fix_rounds
      (if raised / raisedDivisor % 5 = 0 then raised / raisedDivisor + 1
        else raised / raisedDivisor) (-shift)
    refine ⟨rounded, value, Rounds.trans (rounds_quotient _ divisorPositive long inexact ?_ ?_)
      rounds⟩
    · split <;> omega
    · split <;> omega

/-! ## Quantizing -/

theorem round_mono {value value' : ℚ} (le : value ≤ value') : round value ≤ round value' := by
  rw [round_eq, round_eq]
  exact Int.floor_mono (by linarith)

/-- Rounding half-up is rounding to the nearest integer, and up from half-way. -/
theorem shiftHalfUp_eq_round (magnitude digits : Nat) :
    (shiftHalfUp magnitude digits : Int) = round ((magnitude : ℚ) / 10 ^ digits) := by
  have power : 0 < 10 ^ digits := by positivity
  have half : (magnitude : ℚ) / 10 ^ digits + 1 / 2 =
      ((2 * magnitude + 10 ^ digits : Nat) : Int) / ((2 * 10 ^ digits : Nat) : ℚ) := by
    push_cast
    field_simp
  rw [round_eq, half, Rat.floor_intCast_div_natCast]
  norm_cast
  have split := Nat.div_add_mod magnitude (10 ^ digits)
  have rest := Nat.mod_lt magnitude power
  rw [shiftHalfUp]
  generalize 10 ^ digits = unit at *
  generalize magnitude / unit = quotient at *
  have twice : quotient * (2 * unit) = 2 * (unit * quotient) := by ring
  symm
  split
  · apply Nat.div_eq_of_lt_le
    · rw [add_one_mul, twice]
      omega
    · rw [add_one_mul, add_one_mul, twice]
      omega
  · apply Nat.div_eq_of_lt_le
    · rw [twice]
      omega
    · rw [add_one_mul, twice]
      omega

/-- Quantizing rounds the value half-up, when that leaves the context a digit to spare. -/
theorem quantize_eq {number : Decimal} {value : ℚ} (places : Nat)
    (valued : number.toRat? = some value) (nonneg : 0 ≤ value)
    (small : value * 10 ^ places ≤ 10 ^ 27) :
    number.quantize (-places) = some (finite (round (value * 10 ^ places)) (-places)) := by
  obtain ⟨magnitude, exponent, rfl, rfl⟩ := eq_finite_of_nonneg valued nonneg
  have rescaled : (if -(places : Int) ≤ exponent then lowered magnitude exponent (-places)
      else withSign magnitude (shiftHalfUp (magnitude : Int).natAbs
        (-places - exponent).toNat)) = round (scaled magnitude exponent * 10 ^ places) := by
    split
    · rename_i finer
      obtain ⟨digits, digitsEq⟩ := Int.eq_ofNat_of_zero_le (show 0 ≤ exponent + places by omega)
      obtain rfl : exponent = digits - places := by omega
      have whole : scaled magnitude (digits - places) * 10 ^ places =
          ((magnitude * 10 ^ digits : Nat) : ℚ) := by
        rw [scaled, zpow_sub₀ (by norm_num), zpow_natCast, zpow_natCast]
        push_cast
        field_simp
      rw [whole, round_natCast, lowered,
        show ((digits : Int) - places - -places).toNat = digits by omega]
      push_cast
      rfl
    · rename_i coarser
      obtain ⟨digits, digitsEq⟩ := Int.eq_ofNat_of_zero_le
        (show 0 ≤ -(places : Int) - exponent by omega)
      obtain rfl : exponent = -places - digits := by omega
      have fraction : scaled magnitude (-places - digits) * 10 ^ places =
          (magnitude : ℚ) / 10 ^ digits := by
        rw [scaled, zpow_sub₀ (by norm_num), zpow_neg, zpow_natCast, zpow_natCast]
        push_cast
        field_simp
      rw [fraction, digitsEq, withSign, if_neg (by omega), Int.natAbs_natCast, Int.toNat_natCast,
        shiftHalfUp_eq_round]
  have below : round (scaled magnitude exponent * 10 ^ places) ≤ 10 ^ 27 := by
    have limit : round (10 ^ 27 : ℚ) = 10 ^ 27 := by
      rw [show (10 ^ 27 : ℚ) = ((10 ^ 27 : Nat) : ℚ) by norm_num, round_natCast]
      norm_num
    rw [← limit]
    exact round_mono small
  have above : 0 ≤ round (scaled magnitude exponent * 10 ^ places) := by
    rw [← round_zero (α := ℚ)]
    exact round_mono (by positivity)
  simp only [quantize, rescaled]
  rw [if_pos]
  rw [digitCount_le_iff (by decide), precision]
  omega

end Decimal

end RideHailing
