import RideHailing.NearbySearch
import RideHailing.PricingArithmetic
import RideHailing.RatingAverages

/-!
# Surge and supply

The multiplier of a fare is computed from the length of a search that stops at the search
limit.  While no more drivers are near than the limit it is the documented one; with more
of them it can be too high, and never when hardly anybody or nearly everybody waits.
-/

namespace RideHailing

open Service

namespace Pricing

/-- The documented multiplier: pending rides for each available driver, between one and
three, to two places. -/
def surgeFor (pending available : Nat) : ℚ :=
  if available = 0 then 3
  else RatingService.roundTo2 (max 1 (min 3 ((pending : ℚ) / available)))

/-- The same in hundredths. -/
def surgeHundredths (pending available : Nat) : Nat :=
  max 100 (min 300 ((200 * pending + available) / (2 * available)))

/-- Clamping to whole numbers and rounding can be done in either order. -/
theorem surgeFor_eq_hundredths {pending available : Nat} (positive : 0 < available) :
    surgeFor pending available = surgeHundredths pending available / 100 := by
  have atLeastOne : (1 : ℚ) ≤ max 1 (min 3 ((pending : ℚ) / available)) := le_max_left _ _
  have nonzero : (available : ℚ) ≠ 0 := by positivity
  have ratio : (pending : ℚ) / available * 100 + 1 / 2 =
      ((200 * pending + available : Nat) : Int) / ((2 * available : Nat) : ℚ) := by
    push_cast
    field_simp
    ring
  have clamped : max 1 (min 3 ((pending : ℚ) / available)) * 100 + 1 / 2 =
      max (1 * 100 + 1 / 2) (min (3 * 100 + 1 / 2)
        ((pending : ℚ) / available * 100 + 1 / 2)) := by
    rw [max_mul_of_nonneg _ _ (by norm_num), min_mul_of_nonneg _ _ (by norm_num),
      max_add, min_add]
  have floored : (max 1 (min 3 ((pending : ℚ) / available)) * 100 + 1 / 2).floor =
      surgeHundredths pending available := by
    have floor_eq : ∀ value : ℚ, value.floor = ⌊value⌋ := fun _ => rfl
    rw [floor_eq, clamped, Int.floor_mono.map_max, Int.floor_mono.map_min, ratio,
      Rat.floor_intCast_div_natCast, surgeHundredths]
    norm_num
  rw [surgeFor, if_neg (by omega), RatingService.roundTo2_of_nonneg (by linarith), floored,
    Int.cast_natCast]

/-- For as many drivers as a search returns at most, the multiplier is the documented
one. -/
theorem computeSurgeMultiplier_eq {available : Nat} (pending : Nat)
    (few : available ≤ maxResults) :
    ∃ multiplier, computeSurgeMultiplier pending available = some multiplier ∧
      multiplier.toRat? = some (surgeFor pending available) := by
  rw [maxResults] at few
  rcases Nat.eq_zero_or_pos available with rfl | positive
  · refine ⟨surgeMaxMultiplier, rfl, ?_⟩
    rw [surgeFor, if_pos rfl]
    decide +kernel
  · have atLeastOne : (1 : ℚ) ≤ max 1 (min 3 ((pending : ℚ) / available)) := le_max_left _ _
    refine ⟨_, computeSurgeMultiplier_of_few pending positive (by omega), ?_⟩
    rw [toRat?_hundredths, surgeFor, if_neg (by omega),
      RatingService.roundTo2_of_nonneg (by linarith), clampedHundredths, round_eq]
    rfl

/-- Counting no more drivers than a search returns leaves the documented multiplier what
it is exactly when there are no more, or no more rides wait, or enough of them for the
highest multiplier. -/
theorem surgeFor_min_eq_iff (pending available : Nat) :
    surgeFor pending (min maxResults available) = surgeFor pending available ↔
      available ≤ 20 ∨ pending ≤ 20 ∨ 599 * available ≤ 200 * pending := by
  rw [maxResults]
  rcases Nat.lt_or_ge 20 available with more | few
  · have least : min 20 available = 20 := by omega
    rw [least, surgeFor_eq_hundredths (by decide), surgeFor_eq_hundredths (by omega),
      div_left_inj' (by norm_num), Nat.cast_inj]
    obtain ⟨extra, rfl⟩ := Nat.exists_eq_add_of_lt more
    have counted : (200 * pending + 20) / (2 * 20) = 5 * pending := by omega
    have atMostOne : (200 * pending + (20 + extra + 1)) / (2 * (20 + extra + 1)) < 101 ↔
        200 * pending + (20 + extra + 1) < 101 * (2 * (20 + extra + 1)) :=
      Nat.div_lt_iff_lt_mul (by omega)
    have atLeastThree : 300 ≤ (200 * pending + (20 + extra + 1)) / (2 * (20 + extra + 1)) ↔
        300 * (2 * (20 + extra + 1)) ≤ 200 * pending + (20 + extra + 1) :=
      Nat.le_div_iff_mul_le (by omega)
    have lower : (200 * pending + (20 + extra + 1)) / (2 * (20 + extra + 1)) < 5 * pending ↔
        200 * pending + (20 + extra + 1) < 5 * pending * (2 * (20 + extra + 1)) :=
      Nat.div_lt_iff_lt_mul (by omega)
    have expanded : 5 * pending * (2 * (20 + extra + 1)) =
        200 * pending + 10 * (pending * (extra + 1)) := by ring
    have grows : pending ≤ 20 ∨ 21 * (extra + 1) ≤ pending * (extra + 1) := by
      rcases Nat.lt_or_ge 20 pending with waiting | calm
      · exact Or.inr (Nat.mul_le_mul_right _ waiting)
      · exact Or.inl calm
    rw [expanded] at lower
    rw [surgeHundredths, surgeHundredths, counted]
    generalize pending * (extra + 1) = product at lower grows
    generalize (200 * pending + (20 + extra + 1)) / (2 * (20 + extra + 1)) = quotient at *
    omega
  · have least : min 20 available = available := by omega
    rw [least]
    simp only [few, true_or]

end Pricing

/-- The multiplier is cached under this key. -/
def Store.withMultiplier (store : Store) (key : String) (multiplier : Decimal) : Store :=
  { store with
    surge := store.surge.save
      ⟨key, multiplier, store.clock + 1000 * Pricing.surgeTtlSeconds⟩ }

/-- The fare of a quote, or the exception that ends it. -/
def quoteOutcome (P : Platform) (distanceKm : Float64) (multiplier : Decimal) :
    Except Failure (Decimal × Decimal) :=
  match Pricing.calculateFare (P.decimalOfStr distanceKm) multiplier with
  | some fare => .ok (fare, multiplier)
  | none => .error (.exception "InvalidOperation")

section Quote

variable {P : Platform} {store after : Store} {ride : Ride} {dropoffKm : Float64}
variable {pickupLat pickupLng dropoffLat dropoffLng : Float64} {pending available pid : Nat}
variable {multiplier : Decimal}

theorem finish_cachedMultiplier
    (cached : store.cached (Pricing.surgeGridKey pickupLat pickupLng) = some multiplier) :
    (application P).finish pid
        (PricingService.getSurgeMultiplier pickupLat pickupLng pending available) store =
      some (.ok multiplier, store) := by
  have looked : P.perform pid (.cacheGet (Pricing.surgeGridKey pickupLat pickupLng)) store =
      ok (some multiplier) store := by
    simp only [Platform.perform, cached]
  unfold PricingService.getSurgeMultiplier
  rw [finish_of_ok (finish_call looked)]
  rfl

theorem finish_computedMultiplier
    (uncached : store.cached (Pricing.surgeGridKey pickupLat pickupLng) = none)
    (computed : Pricing.computeSurgeMultiplier pending available = some multiplier) :
    (application P).finish pid
        (PricingService.getSurgeMultiplier pickupLat pickupLng pending available) store =
      some (.ok multiplier,
        store.withMultiplier (Pricing.surgeGridKey pickupLat pickupLng) multiplier) := by
  have looked : P.perform pid (.cacheGet (Pricing.surgeGridKey pickupLat pickupLng)) store =
      ok none store := by
    simp only [Platform.perform, uncached]
  unfold PricingService.getSurgeMultiplier
  rw [finish_of_ok (finish_call looked)]
  simp only [computed]
  rfl

theorem finish_getFareQuote
    (measured : P.haversineKm pickupLat pickupLng dropoffLat dropoffLng = .ok dropoffKm)
    (surge : (application P).finish pid
      (PricingService.getSurgeMultiplier pickupLat pickupLng pending available) store =
        some (.ok multiplier, after)) :
    (application P).finish pid (PricingService.getFareQuote P pickupLat pickupLng dropoffLat
        dropoffLng pending available) store =
      some (quoteOutcome P dropoffKm multiplier, after) := by
  have distance : (application P).finish pid (compute (.ok dropoffKm) : Service Float64) store =
      some (.ok dropoffKm, store) := rfl
  unfold PricingService.getFareQuote
  rw [measured, finish_of_ok distance, finish_of_ok surge, quoteOutcome]
  cases Pricing.calculateFare (P.decimalOfStr dropoffKm) multiplier <;> rfl

/-- The fare of a ride is quoted for the rides that wait and the drivers that the search
finds. -/
theorem finish_calculateFare {nearby : List NearbyDriver}
    {outcome : Except Failure (Decimal × Decimal)}
    (searched : (application P).finish pid (findNearbyAvailableDrivers ride.pickupLat
      ride.pickupLng (.finite Pricing.surgeSearchRadiusKm)) store = some (.ok nearby, store))
    (quoted : (application P).finish pid (PricingService.getFareQuote P ride.pickupLat
      ride.pickupLng ride.dropoffLat ride.dropoffLng
      (store.countPendingNear ride.pickupLat ride.pickupLng pendingDelta) nearby.length) store =
        some (outcome, after)) :
    (application P).finish pid (RideService.calculateFare P ride) store =
      some (outcome.map Prod.fst, after) := by
  have waiting : P.perform pid
      (.rideCountPendingNear ride.pickupLat ride.pickupLng pendingDelta) store =
        ok (store.countPendingNear ride.pickupLat ride.pickupLng pendingDelta) store := rfl
  unfold RideService.calculateFare
  rw [finish_of_ok (finish_call waiting), finish_of_ok searched, finish_andThen, quoted]
  cases outcome <;> rfl

variable {distanceKm : Located → ℚ} {ranked : List Located}

/-- Every indexed driver is available and no multiplier is cached for the pickup.  The
multiplier that the fare is computed with is the documented one if and only if at most
twenty drivers are within the radius, at most twenty rides are pending, or there are
enough pending rides for the highest multiplier. -/
theorem surge_reflects_supply_iff
    (ranks : P.Ranks store.locations.rows ride.pickupLat ride.pickupLng
      (.finite Pricing.surgeSearchRadiusKm) distanceKm ranked)
    (offered : ∀ located ∈ store.locations.rows, store.offers located = true)
    (uncached : store.cached (Pricing.surgeGridKey ride.pickupLat ride.pickupLng) = none)
    (measured : P.haversineKm ride.pickupLat ride.pickupLng ride.dropoffLat ride.dropoffLng =
      .ok dropoffKm) :
    let pending := store.countPendingNear ride.pickupLat ride.pickupLng pendingDelta
    let available := store.locations.rows.countP fun located =>
      (Float64.finite Pricing.surgeSearchRadiusKm).reaches (distanceKm located)
    ∃ multiplier : Decimal,
      (application P).finish pid (RideService.calculateFare P ride) store =
          some ((quoteOutcome P dropoffKm multiplier).map Prod.fst,
            store.withMultiplier (Pricing.surgeGridKey ride.pickupLat ride.pickupLng)
              multiplier) ∧
        (multiplier.toRat? = some (Pricing.surgeFor pending available) ↔
          available ≤ 20 ∨ pending ≤ 20 ∨ 599 * available ≤ 200 * pending) := by
  intro pending available
  have everybody : ∀ located ∈ ranked, store.offers located = true := by
    intro located inRanking
    have indexed := ranks.within.mem_iff.mp inRanking
    exact offered located (List.mem_of_mem_filter indexed)
  have listed : ranked.length = available := by
    rw [ranks.within.length_eq]
    exact List.countP_eq_length_filter.symm
  let found := (Ranking.cutThenSelect store.offers maxResults ranked).map
    (Located.nearby distanceKm)
  have counted : found.length = min maxResults available := by
    rw [List.length_map, Ranking.cutThenSelect_length_of_all everybody, listed]
  obtain ⟨multiplier, computed, value⟩ :=
    Pricing.computeSurgeMultiplier_eq pending (counted ▸ min_le_left maxResults available :
      found.length ≤ maxResults)
  refine ⟨multiplier, ?_, ?_⟩
  · exact finish_calculateFare (finish_findNearby ranks pid)
      (finish_getFareQuote measured (finish_computedMultiplier uncached computed))
  · rw [value, counted, Option.some.injEq]
    exact Pricing.surgeFor_min_eq_iff pending available

end Quote

namespace SmallCity

def crowdDriver (number : Nat) : String :=
  "d" ++ toString number

def waitingRide (number : Nat) : Ride :=
  { riderId := "u" ++ toString number, pickupLat := centre, pickupLng := centre,
    dropoffLat := market, dropoffLng := centre, id := "r" ++ toString number,
    requestedAt := 0 }

/-- So many available drivers within half a kilometre, and so many rides that wait. -/
def crowd (drivers waiting : Nat) : Store :=
  { store with
    locations := (List.range drivers).foldl (fun table number =>
      table.save ⟨crowdDriver number, .ofRat (number / 10000), centre⟩) KeyedTable.empty
    available := ((List.range drivers).map crowdDriver).toFinset
    rides := (List.range waiting).foldl (fun table number =>
      table.save (waitingRide number)) KeyedTable.empty }

/-- Thirty rides wait for forty drivers, and the fare is computed with one and a half. -/
theorem crowd_overcharges :
    meridian.Ranks (crowd 40 30).locations.rows centre centre
        (.finite Pricing.surgeSearchRadiusKm) (latitudeKm centre)
        (byLatitude (crowd 40 30).locations.rows centre (.finite Pricing.surgeSearchRadiusKm)) ∧
      (∀ located ∈ (crowd 40 30).locations.rows, (crowd 40 30).offers located = true ∧
        (Float64.finite Pricing.surgeSearchRadiusKm).reaches (latitudeKm centre located)) ∧
      (crowd 40 30).locations.rows.length = 40 ∧
      (crowd 40 30).countPendingNear centre centre pendingDelta = 30 ∧
      (crowd 40 30).cached (Pricing.surgeGridKey centre centre) = none ∧
      ((application meridian).finish 0 (RideService.calculateFare meridian (waitingRide 0))
          (crowd 40 30)).map (fun (outcome, after) =>
            (outcome, after.cached (Pricing.surgeGridKey centre centre))) =
        some (.ok (.finite 525 (-2)), some (.finite 150 (-2))) ∧
      Pricing.surgeFor 30 40 = 1 := by
  refine ⟨meridian_ranks _ _ _ _, ?_, ?_, ?_, ?_, ?_, ?_⟩ <;> decide +kernel

/-- Three rides wait for two drivers. -/
theorem crowd_of_two :
    ∃ multiplier : Decimal,
      ((application meridian).finish 0 (RideService.calculateFare meridian (waitingRide 0))
          (crowd 2 3)).map Prod.snd =
        some ((crowd 2 3).withMultiplier (Pricing.surgeGridKey centre centre) multiplier) ∧
      multiplier.toRat? = some (3 / 2) := by
  obtain ⟨multiplier, finished, reflects⟩ :=
    surge_reflects_supply_iff
      (meridian_ranks (crowd 2 3).locations.rows (waitingRide 0).pickupLat
        (waitingRide 0).pickupLng (.finite Pricing.surgeSearchRadiusKm))
      (by decide +kernel) (by decide +kernel) rfl
  refine ⟨multiplier, ?_, ?_⟩
  · rw [finished]
    rfl
  · rw [reflects.mpr (Or.inl (by decide +kernel))]
    decide +kernel

end SmallCity

end RideHailing
