import RideHailing.RequestGuarantees
import Mathlib.Data.Int.GCD
import Mathlib.Algebra.Order.Ring.Abs
import Mathlib.Tactic.Linarith
import Mathlib.Tactic.FieldSimp
import Mathlib.Tactic.NormNum
import Mathlib.Tactic.Ring
import Mathlib.Data.Rat.Floor

/-!
# Average ratings

What `_incremental_avg` and `_round_to_2` make of one score, of a sequence of scores,
and of scores that arrive through requests in any interleaving.  An average never
leaves the range of the scores; but it is continued from its rounded value, so what
is rounded off adds up.
-/

namespace RideHailing

namespace RatingService

/-! ## One score -/

section Rounding

variable {value : ℚ}

/-- An average is a number of hundredths. -/
theorem exists_hundredths (value : ℚ) :
    ∃ hundredths : Int, roundTo2 value = hundredths / 100 := by
  by_cases negative : value < 0
  · refine ⟨-(|value| * 100 + 1 / 2).floor, ?_⟩
    simp only [roundTo2, if_pos negative]
  · exact ⟨(|value| * 100 + 1 / 2).floor, by simp only [roundTo2, if_neg negative]⟩

theorem roundTo2_of_nonneg (nonneg : 0 ≤ value) :
    roundTo2 value = (value * 100 + 1 / 2).floor / 100 := by
  simp only [roundTo2, if_neg (not_lt.mpr nonneg), abs_of_nonneg nonneg]

theorem roundTo2_neg (positive : 0 < value) : roundTo2 (-value) = -roundTo2 value := by
  have negative : -value < 0 := by linarith
  rw [roundTo2_of_nonneg positive.le]
  simp only [roundTo2, if_pos negative, abs_neg, abs_of_pos positive]
  push_cast
  ring

/-- Rounding moves a value by half a hundredth at most. -/
theorem abs_roundTo2_sub_le (value : ℚ) : |roundTo2 value - value| ≤ 1 / 200 := by
  have ofNonneg : ∀ value : ℚ, 0 ≤ value → |roundTo2 value - value| ≤ 1 / 200 := by
    intro value nonneg
    rw [roundTo2_of_nonneg nonneg]
    have below := Rat.floor_le (value * 100 + 1 / 2)
    have above := Rat.lt_floor_add_one (value * 100 + 1 / 2)
    push_cast at above
    rw [abs_le]
    constructor <;> linarith
  rcases le_or_gt 0 value with nonneg | negative
  · exact ofNonneg value nonneg
  · have positive : 0 < -value := by linarith
    have mirrored := ofNonneg (-value) positive.le
    have opposite := roundTo2_neg positive
    rw [neg_neg] at opposite
    have turned : roundTo2 value - value = -(roundTo2 (-value) - -value) := by
      rw [opposite]
      ring
    rw [turned, abs_neg]
    exact mirrored

/-- A value between two whole scores stays between them. -/
theorem roundTo2_between {low high : Nat} (above : (low : ℚ) ≤ value)
    (below : value ≤ high) : (low : ℚ) ≤ roundTo2 value ∧ roundTo2 value ≤ high := by
  have nonneg : 0 ≤ value := le_trans (Nat.cast_nonneg low) above
  rw [roundTo2_of_nonneg nonneg]
  have lowFloor : (low * 100 : Int) ≤ (value * 100 + 1 / 2).floor := by
    rw [Rat.le_floor_iff]
    push_cast
    linarith
  have highFloor : (value * 100 + 1 / 2).floor < high * 100 + 1 := by
    rw [Rat.floor_lt_iff]
    push_cast
    linarith
  have lowCast : (low * 100 : ℚ) ≤ (value * 100 + 1 / 2).floor := by exact_mod_cast lowFloor
  have highCast : ((value * 100 + 1 / 2).floor : ℚ) ≤ high * 100 := by
    exact_mod_cast Int.le_of_lt_add_one highFloor
  constructor <;> linarith

end Rounding

/-! ## A sequence of scores -/

/-- The two rating columns of a row, continued by one score as `rate` continues them. -/
def continued (columns : Option ℚ × Int) (score : Int) : Option ℚ × Int :=
  (some (roundTo2 (incrementalAvg columns.1 columns.2 score)), columns.2 + 1)

/-- The columns of a row that starts unrated and is given these scores in turn. -/
def storedColumns (scores : List Int) : Option ℚ × Int := scores.foldl continued (none, 0)

theorem storedColumns_concat (scores : List Int) (score : Int) :
    storedColumns (scores ++ [score]) = continued (storedColumns scores) score := by
  simp [storedColumns]

/-- How many hundredths the stored average times the number of scores can be away from
their sum.  One score adds half of the new count at most, and the result is a multiple of
what the count shares with 100. -/
def drift : Nat → Nat
  | 0 => 0
  | count + 1 =>
      let reached := drift count + (count + 1) / 2
      reached - reached % Nat.gcd 100 (count + 1)

theorem drift_succ_le (count : Nat) : drift (count + 1) ≤ drift count + (count + 1) / 2 :=
  Nat.sub_le _ _

/-- The roundings of `count` scores together are a quarter of its square at most. -/
theorem drift_le_square (count : Nat) : drift count ≤ count * count / 4 := by
  induction count with
  | zero => exact le_rfl
  | succ count ih =>
      have step := drift_succ_le count
      have square : (count + 1) * (count + 1) / 4 = count * count / 4 + (count + 1) / 2 := by
        rcases Nat.even_or_odd' count with ⟨half, rfl | rfl⟩
        · have expanded : 2 * half * (2 * half) = 4 * (half * half) := by ring
          have next : (2 * half + 1) * (2 * half + 1) = 4 * (half * half) + 4 * half + 1 := by
            ring
          omega
        · have expanded : (2 * half + 1) * (2 * half + 1) =
              4 * (half * half) + 4 * half + 1 := by ring
          have next : (2 * half + 1 + 1) * (2 * half + 1 + 1) =
              4 * (half * half) + 8 * half + 4 := by ring
          omega
      omega

/-- Up to 28 scores the roundings stay within five hundredths for each score. -/
theorem drift_le_of_le_28 : ∀ count ≤ 28, drift count ≤ 5 * count := by
  decide

/-- A multiple of a divisor of its own that is at most `bound` skips the remainder. -/
theorem abs_le_sub_mod_of_dvd {error : Int} {divisor bound : Nat}
    (divides : (divisor : Int) ∣ error) (bounded : |error| ≤ bound) :
    |error| ≤ (bound - bound % divisor : Nat) := by
  have natDivides : divisor ∣ error.natAbs := Int.natCast_dvd.mp divides
  have natBounded : error.natAbs ≤ bound := by
    rw [Int.abs_eq_natAbs] at bounded
    exact_mod_cast bounded
  have multiple : error.natAbs ≤ bound - bound % divisor := calc
    error.natAbs = error.natAbs / divisor * divisor := (Nat.div_mul_cancel natDivides).symm
    _ ≤ bound / divisor * divisor := Nat.mul_le_mul_right _ (Nat.div_le_div_right natBounded)
    _ = bound - bound % divisor := Nat.div_mul_self_eq_mod_sub_self
  rw [Int.abs_eq_natAbs]
  exact_mod_cast multiple

/-- What holds of the stored columns after these scores: the count is theirs, the average
is in hundredths, and times the count it is as far from their sum as `drift` allows. -/
structure Tracks (scores : List Int) (columns : Option ℚ × Int) : Prop where
  count : columns.2 = scores.length
  average : ∃ hundredths : Int, columns.1.getD 0 = hundredths / 100 ∧
    |scores.length * hundredths - 100 * scores.sum| ≤ drift scores.length
  rated : scores ≠ [] → columns.1.isSome

/-- What `rate` stores for one more score, against the exact sum, in hundredths. -/
theorem exists_next_hundredths {average : Option ℚ} {hundredths : Int} (count : Nat)
    (score : Int) (stored : average.getD 0 = hundredths / 100) :
    ∃ next : Int, roundTo2 (incrementalAvg average count score) = next / 100 ∧
      |((count + 1 : Nat) : Int) * next - (count * hundredths + 100 * score)| ≤
        ((count + 1) / 2 : Nat) := by
  obtain ⟨next, rounded⟩ := exists_hundredths (incrementalAvg average count score)
  refine ⟨next, rounded, ?_⟩
  have positive : (0 : ℚ) < 100 * (count + 1) := by positivity
  have exactly : incrementalAvg average count score =
      (count * hundredths + 100 * score) / (100 * (count + 1)) := by
    simp only [incrementalAvg, stored, Int.cast_natCast]
    field_simp
  have close := abs_roundTo2_sub_le (incrementalAvg average count score)
  have scaled : (count + 1) * next - (count * hundredths + 100 * score) =
      100 * (count + 1) * ((next : ℚ) / 100 -
        (count * hundredths + 100 * score) / (100 * (count + 1))) := by
    field_simp
  have bounded : |((count + 1) * next - (count * hundredths + 100 * score) : ℚ)| ≤
      (count + 1) / 2 := by
    rw [rounded, exactly] at close
    rw [scaled, abs_mul, abs_of_pos positive]
    calc 100 * (count + 1) * |(next : ℚ) / 100 -
          (count * hundredths + 100 * score) / (100 * (count + 1))|
        ≤ 100 * (count + 1) * (1 / 200) := mul_le_mul_of_nonneg_left close positive.le
      _ = (count + 1) / 2 := by ring
  have doubled : 2 * |((count + 1 : Nat) : Int) * next - (count * hundredths + 100 * score)| ≤
      ((count + 1 : Nat) : Int) := by
    have cast : 2 * |((count + 1) * next - (count * hundredths + 100 * score) : ℚ)| ≤
        count + 1 := by linarith
    exact_mod_cast cast
  omega

/-- One score keeps the error within its bound. -/
theorem tracks_continued {scores : List Int} {columns : Option ℚ × Int} {score : Int}
    (tracks : Tracks scores columns) :
    Tracks (scores ++ [score]) (continued columns score) := by
  obtain ⟨count, ⟨hundredths, average, near⟩, -⟩ := tracks
  obtain ⟨next, stored, moved⟩ := exists_next_hundredths scores.length score average
  have length : (scores ++ [score]).length = scores.length + 1 := by simp
  have sum : (scores ++ [score]).sum = scores.sum + score := by simp
  have divides : ((Nat.gcd 100 (scores.length + 1) : Nat) : Int) ∣
      ((scores.length + 1 : Nat) : Int) * next - 100 * (scores.sum + score) := by
    have dividesHundred : ((Nat.gcd 100 (scores.length + 1) : Nat) : Int) ∣ 100 := by
      exact_mod_cast Nat.gcd_dvd_left 100 (scores.length + 1)
    have dividesCount : ((Nat.gcd 100 (scores.length + 1) : Nat) : Int) ∣
        ((scores.length + 1 : Nat) : Int) := by
      exact_mod_cast Nat.gcd_dvd_right 100 (scores.length + 1)
    exact Int.dvd_sub (Dvd.dvd.mul_right dividesCount _) (Dvd.dvd.mul_right dividesHundred _)
  have bounded : |((scores.length + 1 : Nat) : Int) * next - 100 * (scores.sum + score)| ≤
      (drift scores.length + (scores.length + 1) / 2 : Nat) := by
    have split : ((scores.length + 1 : Nat) : Int) * next - 100 * (scores.sum + score) =
        (((scores.length + 1 : Nat) : Int) * next -
          (scores.length * hundredths + 100 * score)) +
        (scores.length * hundredths - 100 * scores.sum) := by ring
    have triangle := abs_add_le (((scores.length + 1 : Nat) : Int) * next -
      (scores.length * hundredths + 100 * score)) (scores.length * hundredths - 100 * scores.sum)
    rw [split]
    push_cast at *
    omega
  refine ⟨?_, ⟨next, ?_, ?_⟩, ?_⟩
  · rw [length]
    simp [continued, count]
  · rw [← count] at stored
    simpa [continued] using stored
  · rw [length, sum]
    exact abs_le_sub_mod_of_dvd divides bounded
  · intro _
    rfl

theorem tracks_storedColumns (scores : List Int) : Tracks scores (storedColumns scores) := by
  induction scores using List.reverseRecOn with
  | nil => exact ⟨rfl, ⟨0, by simp [storedColumns], by simp⟩, fun rated => absurd rfl rated⟩
  | append_singleton scores score ih =>
      rw [storedColumns_concat]
      exact tracks_continued ih

/-- The stored average of `n` scores is within `n / 400` of their mean, and up to 28 scores
within 0.05. -/
theorem storedAverage_near_mean (scores : List Int) (nonempty : scores ≠ []) :
    ∃ average, storedColumns scores = (some average, (scores.length : Int)) ∧
      |average - (scores.sum : ℚ) / scores.length| ≤ scores.length / 400 ∧
      (scores.length ≤ 28 → |average - (scores.sum : ℚ) / scores.length| ≤ 1 / 20) := by
  obtain ⟨count, ⟨hundredths, stored, near⟩, rated⟩ := tracks_storedColumns scores
  obtain ⟨average, averaged⟩ := Option.isSome_iff_exists.mp (rated nonempty)
  have counted : 0 < scores.length := List.length_pos_iff.mpr nonempty
  have positive : (0 : ℚ) < 100 * scores.length := by positivity
  have difference : 100 * scores.length * (average - (scores.sum : ℚ) / scores.length) =
      scores.length * hundredths - 100 * scores.sum := by
    rw [averaged] at stored
    rw [show average = hundredths / 100 from stored]
    field_simp
  -- a bound on the drift bounds the distance
  have within : ∀ bound : ℚ, (drift scores.length : ℚ) ≤ 100 * scores.length * bound →
      |average - (scores.sum : ℚ) / scores.length| ≤ bound := by
    intro bound drifted
    have nearCast : |(scores.length * hundredths - 100 * scores.sum : ℚ)| ≤
        drift scores.length := by exact_mod_cast near
    rw [← difference, abs_mul, abs_of_pos positive] at nearCast
    exact le_of_mul_le_mul_left (nearCast.trans drifted) positive
  refine ⟨average, Prod.ext averaged count, within _ ?_, fun few => within _ ?_⟩
  · have square : 4 * drift scores.length ≤ scores.length * scores.length := by
      have bounded := drift_le_square scores.length
      omega
    have cast : (4 * drift scores.length : ℚ) ≤ scores.length * scores.length := by
      exact_mod_cast square
    linarith
  · have cast : (drift scores.length : ℚ) ≤ 5 * scores.length := by
      exact_mod_cast drift_le_of_le_28 scores.length few
    linarith

/-- Two scores, and they are exact. -/
theorem storedAverage_near_mean_of_two :
    ∃ average, storedColumns [4, 5] = (some average, 2) ∧
      |average - 9 / 2| ≤ 1 / 200 ∧ |average - 9 / 2| ≤ 1 / 20 := by
  obtain ⟨average, stored, near, few⟩ := storedAverage_near_mean [4, 5] (by decide)
  refine ⟨average, stored, ?_, ?_⟩
  · norm_num at near ⊢
    exact near
  · have near := few (by decide)
    norm_num at near ⊢
    exact near

/-- Twenty-nine scores, and what is stored for them is 73/1450 above their mean. -/
theorem storedAverage_far_from_mean :
    ¬ ∀ scores : List Int, scores ≠ [] → (∀ score ∈ scores, 1 ≤ score ∧ score ≤ 5) →
      ∃ average, (storedColumns scores).1 = some average ∧
        |average - (scores.sum : ℚ) / scores.length| ≤ 1 / 20 := by
  intro close
  obtain ⟨average, stored, near⟩ := close
    [1, 1, 1, 1, 1, 1, 1, 2, 1, 1, 1, 2, 1, 1, 2, 1, 1, 1, 3, 1, 1, 1, 3, 1, 1, 2, 5, 5, 5]
    (by decide) (by decide)
  have floor_eq : ∀ value : ℚ, value.floor = ⌊value⌋ := fun _ => rfl
  have value : average = 87 / 50 := by
    norm_num [storedColumns, continued, roundTo2, incrementalAvg, floor_eq, abs_of_pos]
      at stored
    exact stored.symm
  subst value
  norm_num [abs_of_pos] at near

end RatingService

end RideHailing
