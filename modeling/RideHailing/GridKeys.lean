import RideHailing.DelimitedText
import RideHailing.Pricing
import Mathlib.Algebra.Order.Ring.Abs
import Mathlib.Algebra.Ring.Int.Parity
import Mathlib.Data.Rat.Floor
import Mathlib.Tactic.FieldSimp
import Mathlib.Tactic.Linarith
import Mathlib.Tactic.NormNum
import Mathlib.Tactic.Ring

/-!
# Keys of grid cells

The key of a pickup names the cell of the surge grid that it lies in: both coordinates to two
places.  A coordinate that is rounded to zero keeps its sign in the key, so the cells at the
equator and at the prime meridian have two keys.
-/

namespace RideHailing

namespace Pricing

open DelimitedText

/-! ## The nearest hundredth -/

/-- The hundredths nearest to a coordinate; half-way between two, the even one. -/
def IsNearest (coordinate : ℚ) (hundredths : Int) : Prop :=
  |coordinate * 100 - hundredths| ≤ 1 / 2 ∧
    (|coordinate * 100 - hundredths| = 1 / 2 → Even hundredths)

/-- Two neighbours are equally near only half-way between them, and one of them is odd. -/
theorem IsNearest.not_lt {coordinate : ℚ} {first second : Int}
    (isFirst : IsNearest coordinate first) (isSecond : IsNearest coordinate second) :
    ¬ first < second := by
  intro less
  obtain ⟨firstNear, firstEven⟩ := isFirst
  obtain ⟨secondNear, secondEven⟩ := isSecond
  have below := (abs_le.mp firstNear).2
  have above := (abs_le.mp secondNear).1
  have close : (second : ℚ) ≤ first + 1 := by linarith
  have next : second = first + 1 := by
    have le : second ≤ first + 1 := by exact_mod_cast close
    omega
  subst next
  push_cast at above secondEven
  have half : coordinate * 100 - first = 1 / 2 := by linarith
  have halfBelow : coordinate * 100 - (first + 1) = -(1 / 2) := by linarith
  have even := firstEven (by rw [half]; norm_num)
  have evenNext := secondEven (by rw [halfBelow]; norm_num)
  rw [Int.even_add_one] at evenNext
  exact evenNext even

theorem IsNearest.unique {coordinate : ℚ} {first second : Int}
    (isFirst : IsNearest coordinate first) (isSecond : IsNearest coordinate second) :
    first = second := by
  have notLess := isFirst.not_lt isSecond
  have notGreater := isSecond.not_lt isFirst
  omega

theorem IsNearest.neg {coordinate : ℚ} {hundredths : Int}
    (nearest : IsNearest coordinate hundredths) :
    IsNearest (-coordinate) (-hundredths) := by
  have same : |-coordinate * 100 - (-hundredths : Int)| = |coordinate * 100 - hundredths| := by
    rw [← abs_neg]
    congr 1
    push_cast
    ring
  rw [IsNearest, same, even_neg]
  exact nearest

/-- Two coordinates that are rounded to the same hundredths. -/
def SameCell (first second : ℚ) : Prop :=
  ∃ hundredths, IsNearest first hundredths ∧ IsNearest second hundredths

/-- Two coordinates that are rounded to zero, from different sides. -/
def AcrossZero (first second : ℚ) : Prop :=
  IsNearest first 0 ∧ IsNearest second 0 ∧ ¬ (first < 0 ↔ second < 0)

/-! ## The text of a coordinate -/

/-- The magnitude of a coordinate in hundredths, as it is written. -/
def writtenHundredths (coordinate : ℚ) : Nat :=
  let scaled := coordinate.num.natAbs * 100
  let quotient := scaled / coordinate.den
  let rest := scaled % coordinate.den
  if 2 * rest < coordinate.den then quotient
  else if coordinate.den < 2 * rest then quotient + 1
  else quotient + quotient % 2

theorem formatTwoPlaces_finite (coordinate : ℚ) :
    formatTwoPlaces (.finite coordinate) =
      (if coordinate < 0 then "-" else "") ++
        toString (writtenHundredths coordinate / 100) ++ "." ++
          twoDigits (writtenHundredths coordinate % 100) :=
  rfl

/-- The written hundredths with the sign of the coordinate. -/
def cell (coordinate : ℚ) : Int :=
  if coordinate < 0 then -(writtenHundredths coordinate : Int) else writtenHundredths coordinate

theorem isNearest_written (coordinate : ℚ) :
    IsNearest |coordinate| (writtenHundredths coordinate) := by
  have denPositive : (0 : ℚ) < coordinate.den := by exact_mod_cast coordinate.den_pos
  have split := Nat.div_add_mod (coordinate.num.natAbs * 100) coordinate.den
  have rest := Nat.mod_lt (coordinate.num.natAbs * 100) coordinate.den_pos
  have scaled : |coordinate| * 100 * coordinate.den = (coordinate.num.natAbs * 100 : Nat) := by
    have magnitude : |coordinate| = (coordinate.num.natAbs : ℚ) / coordinate.den := by
      conv_lhs => rw [← Rat.num_div_den coordinate]
      rw [abs_div, abs_of_pos denPositive, Nat.cast_natAbs, Int.cast_abs]
    rw [magnitude]
    push_cast
    field_simp
  simp only [IsNearest, writtenHundredths]
  generalize coordinate.num.natAbs * 100 = raised at *
  generalize raised / coordinate.den = quotient at *
  generalize raised % coordinate.den = remainder at *
  have exact : |coordinate| * 100 = quotient + remainder / coordinate.den := by
    have cast : (raised : ℚ) = coordinate.den * quotient + remainder := by exact_mod_cast split.symm
    rw [cast] at scaled
    field_simp
    linarith
  have fractionNonneg : (0 : ℚ) ≤ remainder / coordinate.den := by positivity
  rw [exact]
  split
  · rename_i low
    have below : (remainder : ℚ) / coordinate.den < 1 / 2 := by
      rw [div_lt_div_iff₀ denPositive (by norm_num)]
      exact_mod_cast (by omega : remainder * 2 < 1 * coordinate.den)
    rw [Int.cast_natCast, add_sub_cancel_left, abs_of_nonneg fractionNonneg]
    exact ⟨below.le, fun tie => absurd tie below.ne⟩
  · split
    · rename_i high
      have above : (1 : ℚ) / 2 < remainder / coordinate.den := by
        rw [div_lt_div_iff₀ (by norm_num) denPositive]
        exact_mod_cast (by omega : 1 * coordinate.den < remainder * 2)
      have short : (remainder : ℚ) / coordinate.den < 1 := by
        rw [div_lt_one denPositive]
        exact_mod_cast rest
      have shifted : (quotient : ℚ) + remainder / coordinate.den - ((quotient + 1 : Nat) : Int) =
          -(1 - remainder / coordinate.den) := by
        push_cast
        ring
      rw [shifted, abs_neg, abs_of_pos (by linarith)]
      exact ⟨by linarith, fun tie => absurd tie (by linarith)⟩
    · -- Half-way the even neighbour is written.
      have half : (remainder : ℚ) / coordinate.den = 1 / 2 := by
        rw [div_eq_div_iff denPositive.ne' (by norm_num)]
        exact_mod_cast (by omega : remainder * 2 = 1 * coordinate.den)
      rw [half]
      rcases Nat.mod_two_eq_zero_or_one quotient with even | odd
      · rw [even, Nat.add_zero, Int.cast_natCast, add_sub_cancel_left]
        refine ⟨by norm_num, fun _ => ?_⟩
        exact_mod_cast Nat.even_iff.mpr even
      · have shifted : (quotient : ℚ) + 1 / 2 - ((quotient + 1 : Nat) : Int) = -(1 / 2) := by
          push_cast
          ring
        rw [odd, shifted]
        refine ⟨by norm_num, fun _ => ?_⟩
        exact_mod_cast Nat.even_iff.mpr (by omega : (quotient + 1) % 2 = 0)

theorem isNearest_cell (coordinate : ℚ) : IsNearest coordinate (cell coordinate) := by
  have written := isNearest_written coordinate
  rw [cell]
  split
  · rename_i negative
    rw [abs_of_neg negative] at written
    have opposite := written.neg
    rwa [neg_neg] at opposite
  · rename_i nonnegative
    rwa [abs_of_nonneg (not_lt.mp nonnegative)] at written

theorem sameCell_iff {first second : ℚ} : SameCell first second ↔ cell first = cell second := by
  constructor
  · rintro ⟨hundredths, isFirst, isSecond⟩
    rw [(isNearest_cell first).unique isFirst, (isNearest_cell second).unique isSecond]
  · intro same
    exact ⟨cell first, isNearest_cell first, same ▸ isNearest_cell second⟩

/-! ## Reading a key -/

theorem notMem_toDigits {letter : Char} (noDigit : letter.isDigit = false) (number : Nat) :
    letter ∉ Nat.toDigits 10 number := by
  intro inside
  have digit := Nat.isDigit_of_mem_toDigits (by decide) (by decide) inside
  rw [noDigit] at digit
  cases digit

theorem toDigits_inj {first second : Nat}
    (same : Nat.toDigits 10 first = Nat.toDigits 10 second) : first = second := by
  rw [← Nat.ofDigitChars_ten_toDigits (n := first), same, Nat.ofDigitChars_ten_toDigits]

theorem toList_twoDigits (number : Nat) :
    (twoDigits number).toList =
      if number < 10 then '0' :: Nat.toDigits 10 number else Nat.toDigits 10 number := by
  rw [twoDigits]
  split <;> simp [String.toList_append]

theorem ofDigitChars_twoDigits (number : Nat) :
    Nat.ofDigitChars 10 (twoDigits number).toList 0 = number := by
  rw [toList_twoDigits]
  split
  · rw [Nat.ofDigitChars_cons]
    exact Nat.ofDigitChars_ten_toDigits
  · exact Nat.ofDigitChars_ten_toDigits

theorem notMem_twoDigits {letter : Char} (noDigit : letter.isDigit = false) (number : Nat) :
    letter ∉ (twoDigits number).toList := by
  have notZero : letter ≠ '0' := by
    rintro rfl
    cases noDigit
  rw [toList_twoDigits]
  split
  · rw [List.mem_cons, not_or]
    exact ⟨notZero, notMem_toDigits noDigit number⟩
  · exact notMem_toDigits noDigit number

/-- The digits of a coordinate, without its sign. -/
def unsignedText (coordinate : ℚ) : List Char :=
  Nat.toDigits 10 (writtenHundredths coordinate / 100) ++
    '.' :: (twoDigits (writtenHundredths coordinate % 100)).toList

theorem toList_formatTwoPlaces (coordinate : ℚ) :
    (formatTwoPlaces (.finite coordinate)).toList =
      (if coordinate < 0 then ['-'] else []) ++ unsignedText coordinate := by
  rw [formatTwoPlaces_finite, unsignedText]
  split <;> simp [String.toList_append]

theorem notMem_unsignedText {letter : Char} (noDigit : letter.isDigit = false)
    (noPoint : letter ≠ '.') (coordinate : ℚ) : letter ∉ unsignedText coordinate := by
  rw [unsignedText, List.mem_append, List.mem_cons, not_or, not_or]
  exact ⟨notMem_toDigits noDigit _, noPoint, notMem_twoDigits noDigit _⟩

/-- The hundredths can be read off the digits. -/
theorem written_of_unsignedText {first second : ℚ}
    (same : unsignedText first = unsignedText second) :
    writtenHundredths first = writtenHundredths second := by
  obtain ⟨wholes, places⟩ := eq_of_delimited (notMem_toDigits (by decide) _)
    (notMem_toDigits (by decide) _) same
  have wholeEq := toDigits_inj wholes
  have placesEq : writtenHundredths first % 100 = writtenHundredths second % 100 := by
    rw [← ofDigitChars_twoDigits (writtenHundredths first % 100), places, ofDigitChars_twoDigits]
  omega

/-- Two coordinates are written alike when they have the same sign and the same hundredths. -/
theorem formatTwoPlaces_eq_iff {first second : ℚ} :
    formatTwoPlaces (.finite first) = formatTwoPlaces (.finite second) ↔
      (first < 0 ↔ second < 0) ∧ writtenHundredths first = writtenHundredths second := by
  constructor
  · intro same
    have letters := congrArg String.toList same
    rw [toList_formatTwoPlaces, toList_formatTwoPlaces] at letters
    have noMinus : ∀ coordinate, '-' ∉ unsignedText coordinate :=
      notMem_unsignedText (by decide) (by decide)
    by_cases negative : first < 0
    · by_cases negative' : second < 0
      · rw [if_pos negative, if_pos negative', List.append_cancel_left_eq] at letters
        exact ⟨by simp [negative, negative'], written_of_unsignedText letters⟩
      · rw [if_pos negative, if_neg negative', List.nil_append] at letters
        exact absurd (letters ▸ List.mem_cons_self) (noMinus second)
    · by_cases negative' : second < 0
      · rw [if_neg negative, if_pos negative', List.nil_append] at letters
        exact absurd (letters ▸ List.mem_cons_self) (noMinus first)
      · rw [if_neg negative, if_neg negative', List.append_cancel_left_eq] at letters
        exact ⟨by simp [negative, negative'], written_of_unsignedText letters⟩
  · rintro ⟨signs, written⟩
    rw [formatTwoPlaces_finite, formatTwoPlaces_finite, written]
    simp only [signs]

/-- Written alike is the same cell, but for two coordinates on different sides of zero. -/
theorem formatTwoPlaces_eq_iff_sameCell {first second : ℚ} :
    formatTwoPlaces (.finite first) = formatTwoPlaces (.finite second) ↔
      SameCell first second ∧ ¬ AcrossZero first second := by
  have zero : ∀ coordinate, IsNearest coordinate 0 ↔ writtenHundredths coordinate = 0 := by
    intro coordinate
    constructor
    · intro nearest
      have none := (isNearest_cell coordinate).unique nearest
      rw [cell] at none
      split at none <;> omega
    · intro none
      have nearest := isNearest_cell coordinate
      rw [cell, none] at nearest
      simpa using nearest
  rw [formatTwoPlaces_eq_iff, sameCell_iff, AcrossZero, zero, zero, cell, cell]
  by_cases negative : first < 0 <;> by_cases negative' : second < 0 <;> grind

theorem notMem_formatTwoPlaces (coordinate : ℚ) :
    ':' ∉ (formatTwoPlaces (.finite coordinate)).toList := by
  have unsigned : ':' ∉ unsignedText coordinate :=
    notMem_unsignedText (by decide) (by decide) coordinate
  rw [toList_formatTwoPlaces, List.mem_append, not_or]
  refine ⟨?_, unsigned⟩
  split <;> decide

/-- Both coordinates can be read off a key. -/
theorem surgeGridKey_eq_iff {lat lng lat' lng' : ℚ} :
    surgeGridKey (.finite lat) (.finite lng) = surgeGridKey (.finite lat') (.finite lng') ↔
      formatTwoPlaces (.finite lat) = formatTwoPlaces (.finite lat') ∧
        formatTwoPlaces (.finite lng) = formatTwoPlaces (.finite lng') := by
  have toList_surgeGridKey : ∀ lat lng : ℚ,
      (surgeGridKey (.finite lat) (.finite lng)).toList =
        "surge:".toList ++ ((formatTwoPlaces (.finite lat)).toList ++
          ':' :: (formatTwoPlaces (.finite lng)).toList) := by
    intro lat lng
    simp [surgeGridKey, String.toList_append]
  constructor
  · intro same
    have letters := congrArg String.toList same
    rw [toList_surgeGridKey, toList_surgeGridKey, List.append_cancel_left_eq] at letters
    obtain ⟨latEq, lngEq⟩ := eq_of_delimited (notMem_formatTwoPlaces lat)
      (notMem_formatTwoPlaces lat') letters
    exact ⟨String.toList_inj.mp latEq, String.toList_inj.mp lngEq⟩
  · rintro ⟨latEq, lngEq⟩
    rw [surgeGridKey, surgeGridKey, latEq, lngEq]

/-- Two pickups have one key exactly when they are in one cell, if and only if they are not
in a cell at the equator or the prime meridian and on different sides of it. -/
theorem surgeGridKey_oneCell_iff (lat lng lat' lng' : ℚ) :
    (surgeGridKey (.finite lat) (.finite lng) = surgeGridKey (.finite lat') (.finite lng') ↔
        SameCell lat lat' ∧ SameCell lng lng') ↔
      ¬ (SameCell lat lat' ∧ SameCell lng lng' ∧
        (AcrossZero lat lat' ∨ AcrossZero lng lng')) := by
  rw [surgeGridKey_eq_iff, formatTwoPlaces_eq_iff_sameCell, formatTwoPlaces_eq_iff_sameCell]
  tauto

/-- A tenth of a thousandth of a degree on either side of the equator. -/
theorem surgeGridKey_atEquator :
    SameCell (1 / 10000) (-1 / 10000) ∧ SameCell 0 0 ∧
      surgeGridKey (.finite (1 / 10000)) (.finite 0) ≠
        surgeGridKey (.finite (-1 / 10000)) (.finite 0) := by
  have north : IsNearest (1 / 10000) 0 := by norm_num [IsNearest, abs_of_pos]
  have south : IsNearest (-1 / 10000) 0 := by norm_num [IsNearest, abs_of_pos]
  have meridian : IsNearest 0 0 := by norm_num [IsNearest]
  refine ⟨⟨0, north, south⟩, ⟨0, meridian, meridian⟩, ?_⟩
  rw [Ne, surgeGridKey_eq_iff, formatTwoPlaces_eq_iff]
  norm_num

end Pricing

end RideHailing
