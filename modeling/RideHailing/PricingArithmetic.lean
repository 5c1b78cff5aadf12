import RideHailing.FaithfulRounding
import RideHailing.Pricing

/-!
# Fares and multipliers in exact arithmetic

The fare is computed with two roundings before the last one, and the multiplier with one.
A distance with so few digits that the fare is rounded before its last step is so short that
the fare is a hair's breadth above a whole number of cents; and two counts of drivers and
rides have no ratio so close to half-way between two hundredths without being there.  So both
are the exact results rounded once.
-/

namespace RideHailing

namespace Pricing

open Decimal

/-! ## Fares -/

/-- A distance and a multiplier that a fare is computed from: a decimal of at most seventeen
digits and not more than half of the equator, and hundredths between one and three. -/
structure Quotable (distanceKm surgeMultiplier : Decimal) (km factor : ℚ) : Prop where
  distance : distanceKm.toRat? = some km
  digits : HasDigits 17 km
  onEarth : km ≤ 20016
  surge : surgeMultiplier.toRat? = some factor
  hundredths : ∃ hundredths : Nat, factor = hundredths / 100
  atLeastOne : 1 ≤ factor
  atMostThree : factor ≤ 3

/-- The fare in exact arithmetic. -/
def exactFare (km factor : ℚ) : ℚ :=
  (2 + 3 / 2 * km) * factor

section Fare

variable {distanceKm surgeMultiplier : Decimal} {km factor : ℚ}

theorem Quotable.nonneg (quotable : Quotable distanceKm surgeMultiplier km factor) : 0 ≤ km := by
  obtain ⟨coefficient, exponent, _, rfl⟩ := quotable.digits
  rw [scaled]
  positivity

/-- A distance on earth is written with its digits behind the point. -/
theorem Quotable.written (quotable : Quotable distanceKm surgeMultiplier km factor) :
    ∃ coefficient places : Nat, coefficient < 10 ^ 17 ∧ km = scaled coefficient (-places) := by
  obtain ⟨coefficient, exponent, few, kmEq⟩ := quotable.digits
  rcases le_total exponent 0 with fraction | whole
  · obtain ⟨places, placesEq⟩ := Int.eq_ofNat_of_zero_le (show 0 ≤ -exponent by omega)
    obtain rfl : exponent = -(places : Int) := by omega
    exact ⟨coefficient, places, few, kmEq⟩
  · obtain ⟨digits, rfl⟩ := Int.eq_ofNat_of_zero_le whole
    refine ⟨coefficient * 10 ^ digits, 0, ?_, ?_⟩
    · have near := quotable.onEarth
      rw [kmEq, scaled, zpow_natCast] at near
      have bounded : coefficient * 10 ^ digits ≤ 20016 := by exact_mod_cast near
      omega
    · rw [kmEq, scaled, scaled, zpow_natCast]
      push_cast
      simp

/-- The fare before the last rounding. -/
theorem unrounded_fare (quotable : Quotable distanceKm surgeMultiplier km factor) :
    ∃ base fare, Rounds (2 + 3 / 2 * km) base ∧ Rounds (base * factor) fare ∧
      ((calculateBaseFare distanceKm).mul surgeMultiplier).toRat? = some fare := by
  have nonneg := quotable.nonneg
  have positive : 0 ≤ factor := by linarith [quotable.atLeastOne]
  have rate : perKmRate.toRat? = some (3 / 2) := by decide +kernel
  have two : baseFare.toRat? = some 2 := by decide +kernel
  obtain ⟨metered, meteredValue, meteredRounds⟩ :=
    mul_rounds rate quotable.distance (by norm_num) nonneg
  have held : Held (3 / 2 * km) := by
    obtain ⟨coefficient, exponent, few, rfl⟩ := quotable.digits
    refine ⟨15 * coefficient, exponent - 1, ?_, ?_⟩
    · rw [precision]
      omega
    · rw [scaled, scaled, zpow_sub_one₀ (by norm_num)]
      push_cast
      ring
  rw [meteredRounds.eq_of_held held] at meteredValue
  obtain ⟨base, baseValue, baseRounds⟩ := add_rounds two meteredValue (by norm_num) (by positivity)
  have baseNonneg : 0 ≤ base := baseRounds.atLeast held_zero (by positivity)
  obtain ⟨fare, fareValue, fareRounds⟩ :=
    mul_rounds baseValue quotable.surge baseNonneg positive
  exact ⟨base, fare, baseRounds, fareRounds, fareValue⟩

/-- With at most twenty-four digits behind the point nothing is rounded. -/
theorem fare_exact {coefficient places hundredths : Nat} {base fare : ℚ}
    (few : coefficient < 10 ^ 17) (short : places ≤ 24) (atMostThree : hundredths ≤ 300)
    (baseRounds : Rounds (2 + 3 / 2 * scaled coefficient (-places)) base)
    (fareRounds : Rounds (base * (hundredths / 100)) fare) :
    fare = exactFare (scaled coefficient (-places)) (hundredths / 100) := by
  have unit : 10 ^ places ≤ 10 ^ 24 := Nat.pow_le_pow_right (by decide) short
  have sum : 2 + 3 / 2 * scaled coefficient (-places) =
      scaled ((20 * 10 ^ places + 15 * coefficient : Nat) : Int) (-places - 1) := by
    rw [scaled, scaled, zpow_sub_one₀ (by norm_num), zpow_neg, zpow_natCast]
    push_cast
    field_simp
    ring
  have product : (2 + 3 / 2 * scaled coefficient (-places)) * (hundredths / 100) =
      scaled (((20 * 10 ^ places + 15 * coefficient) * hundredths : Nat) : Int)
        (-places - 1 - 2) := by
    rw [sum, scaled, scaled, zpow_sub₀ (by norm_num) _ 2]
    push_cast
    ring
  have baseHeld : Held (2 + 3 / 2 * scaled coefficient (-places)) := by
    refine ⟨_, _, ?_, sum⟩
    rw [precision]
    omega
  rw [baseRounds.eq_of_held baseHeld] at fareRounds
  apply fareRounds.eq_of_held
  refine ⟨_, _, ?_, product⟩
  rw [precision]
  calc (20 * 10 ^ places + 15 * coefficient) * hundredths
      ≤ (20 * 10 ^ places + 15 * coefficient) * 300 := Nat.mul_le_mul_left _ atMostThree
    _ < 10 ^ 28 := by omega

/-- A number a hair's breadth above a whole one. -/
theorem round_eq_of_close {whole : Nat} {value : ℚ} (above : whole ≤ value)
    (close : value ≤ whole + 1 / 10) : round value = whole := by
  rw [round_eq_iff, Set.mem_Ico]
  push_cast
  constructor <;> linarith

/-- With more digits behind the point the distance is so short that it costs nothing. -/
theorem fare_close {km base fare : ℚ} {hundredths : Nat} (nonneg : 0 ≤ km)
    (short : km ≤ 1 / 10 ^ 8) (atMostThree : hundredths ≤ 300)
    (baseRounds : Rounds (2 + 3 / 2 * km) base)
    (fareRounds : Rounds (base * (hundredths / 100)) fare) :
    round (fare * 100) = (2 * hundredths : Nat) ∧
      round (exactFare km (hundredths / 100) * 100) = (2 * hundredths : Nat) := by
  have small : (hundredths : ℚ) ≤ 300 := by exact_mod_cast atMostThree
  have nonnegative : (0 : ℚ) ≤ hundredths := Nat.cast_nonneg hundredths
  have two : Held 2 := ⟨2, 0, by decide, by norm_num [scaled]⟩
  have aboveTwo : Held (2 + 1 / 10 ^ 7) := ⟨20000001, -7, by decide, by norm_num [scaled]⟩
  have twice : Held (2 * (hundredths / 100)) := by
    refine ⟨2 * hundredths, -2, ?_, ?_⟩
    · rw [precision]
      omega
    · norm_num [scaled]
      ring
  have aboveTwice : Held ((2 + 1 / 10 ^ 7) * (hundredths / 100)) := by
    refine ⟨20000001 * hundredths, -9, ?_, ?_⟩
    · rw [precision]
      omega
    · norm_num [scaled]
      ring
  have baseLow : 2 ≤ base := baseRounds.atLeast two (by linarith)
  have baseHigh : base ≤ 2 + 1 / 10 ^ 7 := baseRounds.atMost aboveTwo (by linarith)
  have fareLow : 2 * (hundredths / 100) ≤ fare :=
    fareRounds.atLeast twice (mul_le_mul_of_nonneg_right baseLow (by positivity))
  have fareHigh : fare ≤ (2 + 1 / 10 ^ 7) * (hundredths / 100) :=
    fareRounds.atMost aboveTwice (mul_le_mul_of_nonneg_right baseHigh (by positivity))
  have exactLow : 2 * (hundredths / 100) ≤ exactFare km (hundredths / 100) :=
    mul_le_mul_of_nonneg_right (by linarith) (by positivity)
  have exactHigh : exactFare km (hundredths / 100) ≤ (2 + 1 / 10 ^ 7) * (hundredths / 100) :=
    mul_le_mul_of_nonneg_right (by linarith) (by positivity)
  constructor
  · apply round_eq_of_close <;> push_cast <;> linarith
  · apply round_eq_of_close <;> push_cast <;> linarith

/-- The fare is the exact one rounded once. -/
theorem calculateFare_eq (quotable : Quotable distanceKm surgeMultiplier km factor) :
    calculateFare distanceKm surgeMultiplier =
      some (.finite (round (exactFare km factor * 100)) (-2)) := by
  obtain ⟨base, fare, baseRounds, fareRounds, fareValue⟩ := unrounded_fare quotable
  have nonneg := quotable.nonneg
  have near := quotable.onEarth
  have most := quotable.atMostThree
  have positive : 0 ≤ factor := by linarith [quotable.atLeastOne]
  have baseHigh : base ≤ 30026 :=
    baseRounds.atMost ⟨30026, 0, by decide, by norm_num [scaled]⟩ (by linarith)
  have fareHigh : fare ≤ 90078 := by
    apply fareRounds.atMost ⟨90078, 0, by decide, by norm_num [scaled]⟩
    calc base * factor ≤ 30026 * 3 := mul_le_mul baseHigh most positive (by norm_num)
      _ = 90078 := by norm_num
  have baseLow : 0 ≤ base := baseRounds.atLeast held_zero (by positivity)
  have fareLow : 0 ≤ fare := fareRounds.atLeast held_zero (mul_nonneg baseLow positive)
  have quantized := quantize_eq 2 fareValue fareLow (by norm_num; linarith)
  have same : round (fare * 100) = round (exactFare km factor * 100) := by
    obtain ⟨hundredths, rfl⟩ := quotable.hundredths
    have atMost : hundredths ≤ 300 := by
      have cast : (hundredths : ℚ) ≤ 300 := by linarith
      exact_mod_cast cast
    obtain ⟨coefficient, places, few, rfl⟩ := quotable.written
    rcases Nat.lt_or_ge 24 places with long | short
    · have tiny : scaled coefficient (-places) ≤ 1 / 10 ^ 8 := by
        have unit : (10 : ℚ) ^ 25 ≤ 10 ^ places := pow_le_pow_right₀ (by norm_num) long
        have digits : (coefficient : ℚ) ≤ 10 ^ 17 := by exact_mod_cast few.le
        rw [scaled, zpow_neg, zpow_natCast, ← div_eq_mul_inv, div_le_iff₀ (by positivity)]
        push_cast
        linarith
      obtain ⟨computed, exact⟩ := fare_close nonneg tiny atMost baseRounds fareRounds
      rw [computed, exact]
    · rw [fare_exact few short atMost baseRounds fareRounds]
  rw [calculateFare, ← same]
  norm_num at quantized
  exact quantized

theorem exactFare_mono {km' factor' : ℚ} (nonneg : 0 ≤ km) (positive : 0 ≤ factor)
    (longer : km ≤ km') (higher : factor ≤ factor') :
    exactFare km factor ≤ exactFare km' factor' := by
  apply mul_le_mul _ higher positive
  · linarith
  · linarith

/-- The cents of a fare are between those of the base fare and those of the longest ride. -/
theorem exists_cents (quotable : Quotable distanceKm surgeMultiplier km factor) :
    ∃ cents : Nat, (cents : Int) = round (exactFare km factor * 100) ∧ 200 ≤ cents ∧
      cents ≤ 9007800 := by
  have low : exactFare 0 1 ≤ exactFare km factor :=
    exactFare_mono le_rfl zero_le_one quotable.nonneg quotable.atLeastOne
  have high : exactFare km factor ≤ exactFare 20016 3 :=
    exactFare_mono quotable.nonneg (by linarith [quotable.atLeastOne]) quotable.onEarth
      quotable.atMostThree
  have atLeast : 200 ≤ round (exactFare km factor * 100) := by
    rw [← round_ofNat (α := ℚ) 200]
    apply round_mono
    norm_num [exactFare] at low ⊢
    linarith
  have atMost : round (exactFare km factor * 100) ≤ 9007800 := by
    rw [← round_ofNat (α := ℚ) 9007800]
    apply round_mono
    norm_num [exactFare] at high ⊢
    linarith
  obtain ⟨cents, centsEq⟩ := Int.eq_ofNat_of_zero_le
    (show 0 ≤ round (exactFare km factor * 100) by omega)
  exact ⟨cents, centsEq.symm, by omega, by omega⟩

/-- The fare is the exact one rounded once, to the nearest cent and up from half a cent.  It
is two at least, it has few enough digits for its column, and it does not fall when the
distance or the multiplier grows. -/
theorem fare_roundedOnce (quotable : Quotable distanceKm surgeMultiplier km factor) :
    ∃ cents : Nat, calculateFare distanceKm surgeMultiplier = some (.finite cents (-2)) ∧
      (cents : Int) = round (exactFare km factor * 100) ∧ 200 ≤ cents ∧ cents < 10 ^ 19 ∧
        ∀ {longer higher : Decimal} {km' factor' : ℚ}, Quotable longer higher km' factor' →
          km ≤ km' → factor ≤ factor' →
            ∃ cents' : Nat, calculateFare longer higher = some (.finite cents' (-2)) ∧
              cents ≤ cents' := by
  obtain ⟨cents, centsEq, atLeast, atMost⟩ := exists_cents quotable
  refine ⟨cents, ?_, centsEq, atLeast, by omega, ?_⟩
  · rw [calculateFare_eq quotable, centsEq]
  · intro longer higher km' factor' quotable' kmLe factorLe
    obtain ⟨cents', centsEq', _, _⟩ := exists_cents quotable'
    refine ⟨cents', ?_, ?_⟩
    · rw [calculateFare_eq quotable', centsEq']
    · have grows : round (exactFare km factor * 100) ≤ round (exactFare km' factor' * 100) := by
        apply round_mono
        have le := exactFare_mono quotable.nonneg (by linarith [quotable.atLeastOne]) kmLe factorLe
        linarith
      omega

/-- One kilometre at the multiplier 1.01. -/
theorem fare_roundedOnce_of_km :
    ∃ cents : Nat, calculateFare (.finite 10 (-1)) (.finite 101 (-2)) =
        some (.finite cents (-2)) ∧ (cents : Int) = round (exactFare 1 (101 / 100) * 100) := by
  have quotable : Quotable (.finite 10 (-1)) (.finite 101 (-2)) 1 (101 / 100) := {
    distance := by decide +kernel
    digits := ⟨1, 0, by decide, by norm_num [scaled]⟩
    onEarth := by norm_num
    surge := by decide +kernel
    hundredths := ⟨101, by norm_num⟩
    atLeastOne := by norm_num
    atMostThree := by norm_num }
  obtain ⟨cents, computed, centsEq, _⟩ := fare_roundedOnce quotable
  exact ⟨cents, computed, centsEq⟩

end Fare

/-! ## Multipliers -/

/-- The ratio between one and three, to the nearest hundredth. -/
def clampedHundredths (ratio : ℚ) : Int :=
  round (max 1 (min 3 ratio) * 100)

theorem clampedHundredths_mono {ratio ratio' : ℚ} (le : ratio ≤ ratio') :
    clampedHundredths ratio ≤ clampedHundredths ratio' := by
  apply round_mono
  have clamped : max 1 (min 3 ratio) ≤ max 1 (min 3 ratio') :=
    max_le_max le_rfl (min_le_min le_rfl le)
  linarith

theorem clampedHundredths_bounds (ratio : ℚ) :
    100 ≤ clampedHundredths ratio ∧ clampedHundredths ratio ≤ 300 := by
  have low : (1 : ℚ) ≤ max 1 (min 3 ratio) := le_max_left _ _
  have high : max 1 (min 3 ratio) ≤ 3 := max_le (by norm_num) (min_le_left _ _)
  constructor
  · rw [← round_ofNat (α := ℚ) 100]
    exact round_mono (by linarith)
  · rw [← round_ofNat (α := ℚ) 300]
    exact round_mono (by linarith)

section Multiplier

variable {pending available : Nat}

/-- The multiplier is computed from the rounded ratio. -/
theorem computeSurgeMultiplier_of_pos (pending : Nat) (positive : 0 < available) :
    ∃ ratio, Rounds ((pending : ℚ) / available) ratio ∧
      computeSurgeMultiplier pending available =
        some (.finite (clampedHundredths ratio) (-2)) := by
  obtain ⟨ratio, ratioValue, rounds⟩ := div_rounds pending positive
  have least : surgeMinMultiplier.toRat? = some 1 := by decide +kernel
  have most : surgeMaxMultiplier.toRat? = some 3 := by decide +kernel
  have clamped := maximum_toRat? least (minimum_toRat? most ratioValue)
  have low : (1 : ℚ) ≤ max 1 (min 3 ratio) := le_max_left _ _
  have high : max 1 (min 3 ratio) ≤ 3 := max_le (by norm_num) (min_le_left _ _)
  have quantized := quantize_eq 2 clamped (by linarith) (by norm_num; linarith)
  refine ⟨ratio, rounds, ?_⟩
  rw [computeSurgeMultiplier, if_neg (by omega)]
  norm_num at quantized
  exact quantized

/-- A ratio of few drivers is so far below half-way that rounding it does not reach it. -/
theorem ratio_below {bound limit : Nat} (positive : 0 < available) (few : available ≤ limit)
    (below : (pending : ℚ) / available < bound / 200) :
    (pending : ℚ) / available ≤ ((bound * limit - 1 : Nat) : ℚ) / (200 * limit) := by
  have availablePositive : (0 : ℚ) < available := by exact_mod_cast positive
  have limitPositive : (0 : ℚ) < limit := by exact_mod_cast positive.trans_le few
  rw [div_lt_div_iff₀ availablePositive (by norm_num)] at below
  have strict : pending * 200 + 1 ≤ bound * available := by exact_mod_cast below
  have room : (pending * 200 + 1) * limit ≤ bound * available * limit :=
    Nat.mul_le_mul_right _ strict
  rw [div_le_div_iff₀ availablePositive (by positivity)]
  have product : pending * (200 * limit) ≤ (bound * limit - 1) * available := by
    rw [Nat.sub_one_mul, show bound * limit * available = bound * available * limit by ring,
      show pending * (200 * limit) = pending * 200 * limit by ring]
    rw [add_one_mul] at room
    omega
  exact_mod_cast product

theorem clampedHundredths_of_le_one {ratio : ℚ} (le : ratio ≤ 1) :
    clampedHundredths ratio = 100 := by
  rw [clampedHundredths, min_eq_right (by linarith), max_eq_left le]
  norm_num

theorem clampedHundredths_of_three_le {ratio : ℚ} (le : 3 ≤ ratio) :
    clampedHundredths ratio = 300 := by
  rw [clampedHundredths, min_eq_left le, max_eq_right (by norm_num)]
  norm_num

theorem clampedHundredths_of_between {ratio : ℚ} (low : 1 ≤ ratio) (high : ratio ≤ 3) :
    clampedHundredths ratio = round (ratio * 100) := by
  rw [clampedHundredths, min_eq_right high, max_eq_right low]

/-- Rounding the ratio to the digits of the context does not change its hundredths. -/
theorem clampedHundredths_of_rounds {ratio : ℚ} (positive : 0 < available)
    (few : available ≤ 10 ^ 20) (rounds : Rounds ((pending : ℚ) / available) ratio) :
    clampedHundredths ratio = clampedHundredths ((pending : ℚ) / available) := by
  have one : Held 1 := ⟨1, 0, by decide, by norm_num [scaled]⟩
  have three : Held 3 := ⟨3, 0, by decide, by norm_num [scaled]⟩
  rcases le_total ((pending : ℚ) / available) 1 with scarce | low
  · rw [clampedHundredths_of_le_one scarce,
      clampedHundredths_of_le_one (rounds.atMost one scarce)]
  rcases le_total 3 ((pending : ℚ) / available) with plenty | high
  · rw [clampedHundredths_of_three_le plenty,
      clampedHundredths_of_three_le (rounds.atLeast three plenty)]
  have bounds := clampedHundredths_bounds ((pending : ℚ) / available)
  rw [clampedHundredths_of_between low high] at bounds ⊢
  rw [clampedHundredths_of_between (rounds.atLeast one low) (rounds.atMost three high)]
  obtain ⟨nearest, nearestEq⟩ := Int.eq_ofNat_of_zero_le
    (show 0 ≤ round ((pending : ℚ) / available * 100) by omega)
  have near := round_eq_iff.mp nearestEq
  rw [Set.mem_Ico] at near
  rw [nearestEq] at bounds ⊢
  push_cast at near
  rw [round_eq_iff, Set.mem_Ico]
  push_cast
  constructor
  · -- The lower end of the hundredth has four digits.
    have held : Held ((2 * nearest - 1 : Nat) / 200) := by
      refine ⟨5 * (2 * nearest - 1), -3, ?_, ?_⟩
      · rw [precision]
        omega
      · norm_num [scaled]
        ring
    have end' : ((2 * nearest - 1 : Nat) : ℚ) = 2 * nearest - 1 := by
      rw [Nat.cast_sub (by omega)]
      norm_num
    have reached := rounds.atLeast held (by rw [end']; linarith)
    rw [end'] at reached
    linarith
  · have below : (pending : ℚ) / available < (2 * nearest + 1 : Nat) / 200 := by
      push_cast
      linarith
    have held : Held (((2 * nearest + 1) * 10 ^ 20 - 1 : Nat) / (200 * (10 ^ 20 : Nat))) := by
      refine ⟨5 * ((2 * nearest + 1) * 10 ^ 20 - 1), -23, ?_, ?_⟩
      · rw [precision]
        omega
      · norm_num [scaled]
        ring
    have reached := rounds.atMost held (ratio_below positive few below)
    have short : (((2 * nearest + 1) * 10 ^ 20 - 1 : Nat) : ℚ) / (200 * (10 ^ 20 : Nat)) <
        (2 * nearest + 1) / 200 := by
      rw [div_lt_div_iff₀ (by norm_num) (by norm_num), Nat.cast_sub (by omega)]
      push_cast
      linarith
    linarith

theorem computeSurgeMultiplier_of_few (pending : Nat) (positive : 0 < available)
    (few : available ≤ 10 ^ 20) :
    computeSurgeMultiplier pending available =
      some (.finite (clampedHundredths (pending / available)) (-2)) := by
  obtain ⟨ratio, rounds, computed⟩ := computeSurgeMultiplier_of_pos pending positive
  rw [computed, clampedHundredths_of_rounds positive few rounds]

theorem toRat?_hundredths (hundredths : Int) :
    (Decimal.finite hundredths (-2)).toRat? = some ((hundredths : ℚ) / 100) := by
  rw [toRat?_finite, scaled]
  norm_num [div_eq_mul_inv]

/-- The multiplier lies between one and three, whatever the counts are. -/
theorem computeSurgeMultiplier_bounds (pending available : Nat) :
    ∃ multiplier value, computeSurgeMultiplier pending available = some multiplier ∧
      multiplier.toRat? = some value ∧ 1 ≤ value ∧ value ≤ 3 := by
  rcases Nat.eq_zero_or_pos available with rfl | positive
  · refine ⟨surgeMaxMultiplier, 3, rfl, ?_, ?_, le_rfl⟩
    · decide +kernel
    · norm_num
  · obtain ⟨ratio, _, computed⟩ := computeSurgeMultiplier_of_pos pending positive
    obtain ⟨low, high⟩ := clampedHundredths_bounds ratio
    refine ⟨_, _, computed, toRat?_hundredths _, ?_, ?_⟩
    · rw [le_div_iff₀ (by norm_num)]
      exact_mod_cast low
    · rw [div_le_iff₀ (by norm_num)]
      exact_mod_cast high

/-- The multiplier for these counts, as a number. -/
def multiplierValue (pending available : Nat) : Option ℚ :=
  (computeSurgeMultiplier pending available).bind toRat?

theorem multiplierValue_of_few (pending : Nat) (positive : 0 < available)
    (few : available ≤ 10 ^ 20) :
    multiplierValue pending available =
      some (((clampedHundredths ((pending : ℚ) / available) : Int) : ℚ) / 100) := by
  rw [multiplierValue, computeSurgeMultiplier_of_few pending positive few, Option.bind_some,
    toRat?_hundredths]

/-- More rides and fewer drivers do not lower the multiplier. -/
theorem multiplierValue_mono {pending' available' : Nat} {value value' : ℚ}
    (few : available ≤ 10 ^ 20) (more : pending ≤ pending') (fewer : available' ≤ available)
    (computed : multiplierValue pending available = some value)
    (computed' : multiplierValue pending' available' = some value') : value ≤ value' := by
  rcases Nat.eq_zero_or_pos available' with rfl | positive'
  · obtain ⟨multiplier, most, made, valued, _, high⟩ :=
      computeSurgeMultiplier_bounds pending available
    have three : multiplierValue pending' 0 = some 3 := by
      rw [multiplierValue, computeSurgeMultiplier, if_pos Nat.cast_zero]
      decide +kernel
    rw [multiplierValue, made, Option.bind_some, valued, Option.some.injEq] at computed
    rw [three, Option.some.injEq] at computed'
    linarith
  · have positive : 0 < available := positive'.trans_le fewer
    rw [multiplierValue_of_few pending positive few, Option.some.injEq] at computed
    rw [multiplierValue_of_few pending' positive' (fewer.trans few), Option.some.injEq] at computed'
    have ratio : (pending : ℚ) / available ≤ (pending' : ℚ) / available' := by
      apply div_le_div₀ (Nat.cast_nonneg pending')
      · exact_mod_cast more
      · exact_mod_cast positive'
      · exact_mod_cast fewer
    have hundredths : ((clampedHundredths (pending / available) : Int) : ℚ) ≤
        clampedHundredths (pending' / available') := by
      exact_mod_cast clampedHundredths_mono ratio
    linarith

/-- The multiplier is the exact ratio between one and three rounded once, to the nearest
hundredth and up from half of one; it lies between one and three, and it falls neither when
more rides wait nor when fewer drivers are there, down to none. -/
theorem surge_exact_and_ordered (pending : Nat) (few : available ≤ 10 ^ 20) :
    ∃ value, multiplierValue pending available = some value ∧
      (0 < available →
        value = round (max 1 (min 3 ((pending : ℚ) / available)) * 100) / 100) ∧
      1 ≤ value ∧ value ≤ 3 ∧
        ∀ {pending' available' : Nat}, pending ≤ pending' → available' ≤ available →
          ∃ value', multiplierValue pending' available' = some value' ∧ value ≤ value' := by
  obtain ⟨multiplier, value, computed, valued, low, high⟩ :=
    computeSurgeMultiplier_bounds pending available
  have made : multiplierValue pending available = some value := by
    rw [multiplierValue, computed, Option.bind_some, valued]
  refine ⟨value, made, ?_, low, high, ?_⟩
  · intro positive
    rw [multiplierValue_of_few pending positive few, Option.some.injEq] at made
    exact made.symm
  · intro pending' available' more fewer
    obtain ⟨multiplier', value', computed', valued', _⟩ :=
      computeSurgeMultiplier_bounds pending' available'
    have made' : multiplierValue pending' available' = some value' := by
      rw [multiplierValue, computed', Option.bind_some, valued']
    exact ⟨value', made', multiplierValue_mono few more fewer made made'⟩

/-- Five rides for three drivers, where the ratio is rounded, and five for none. -/
theorem surge_exact_and_ordered_of_three :
    multiplierValue 5 3 = some (167 / 100) ∧
      ∃ value', multiplierValue 5 0 = some value' ∧ 167 / 100 ≤ value' := by
  obtain ⟨value, computed, exact, _, _, ordered⟩ :=
    surge_exact_and_ordered 5 (show 3 ≤ 10 ^ 20 by norm_num)
  have nearest : round (max 1 (min 3 ((5 : ℚ) / 3)) * 100) = 167 := by
    rw [round_eq, Int.floor_eq_iff]
    norm_num
  have rounded : value = 167 / 100 := by
    rw [exact (by norm_num)]
    norm_num [nearest]
  subst rounded
  exact ⟨computed, ordered (le_refl 5) (Nat.zero_le 3)⟩

end Multiplier

end Pricing

end RideHailing
