import RideHailing.FareReports
import RideHailing.PricingArithmetic
import RideHailing.RideRecords

/-!
# Every fare can be explained

However requests interleave, the fare of a ride is the one for the distance of this very ride
and for a multiplier that the formula gives for counts of rides and drivers: counts around its
own pickup, or counts around another pickup in the same cell of the grid, if less than half a
minute passed between the moment they were used and the moment the multiplier was read again.
-/

namespace RideHailing

variable {P : Platform} {init : Store} {events : List ApplicationEvent} {pool : ApplicationPool}

/-! ## Where a multiplier comes from -/

/-- What the store was like at some moment of the run. -/
def OnceStored (P : Platform) (init : Store) (events : List ApplicationEvent)
    (fact : Store → Prop) : Prop :=
  Once (application P).next (Pool.start init) events fun pool => fact pool.world.state

/-- So many rides waited around the pickup, and so many of the drivers found near it were
available. -/
structure Observed (P : Platform) (init : Store) (events : List ApplicationEvent)
    (lat lng : Float64) (pending available : Nat) : Prop where
  waiting : OnceStored P init events fun store =>
    store.countPendingNear lat lng pendingDelta = pending
  near : ∃ results,
    OnceStored P init events (fun store =>
      P.geosearch store.locations.rows lat lng (.finite Pricing.surgeSearchRadiusKm)
        maxResults = some results) ∧
    OnceStored P init events fun store => (store.selects results).length = available

/-- The formula gives the multiplier for counts around the pickup. -/
def WorkedOut (P : Platform) (init : Store) (events : List ApplicationEvent)
    (lat lng : Float64) (multiplier : Decimal) : Prop :=
  ∃ pending available : Nat, Observed P init events lat lng pending available ∧
    Pricing.computeSurgeMultiplier pending available = some multiplier

/-- At the end of these events a request for a pickup in this cell has worked out the
multiplier. -/
def PricedCell (P : Platform) (init : Store) (events : List ApplicationEvent)
    (cell : String) (multiplier : Decimal) (moment : Nat) : Prop :=
  ∃ pool, (application P).run (Pool.start init) events = some pool ∧
    pool.world.state.clock = moment ∧
    ∃ request ∈ pool.requests, ∃ lat lng, request.pickup = some (lat, lng) ∧
      Pricing.surgeGridKey lat lng = cell ∧ WorkedOut P init events lat lng multiplier

/-- The multiplier was worked out for this cell, and read before half a minute was over. -/
def Shared (P : Platform) (init : Store) (events : List ApplicationEvent)
    (cell : String) (multiplier : Decimal) : Prop :=
  ∃ earlier between later moment read, events = earlier ++ between ++ later ∧
    PricedCell P init earlier cell multiplier moment ∧
    (application P).run (Pool.start init) (earlier ++ between) = some read ∧
    read.world.state.clock < moment + 1000 * Pricing.surgeTtlSeconds

/-- The fare is that of the ride's own distance and of a multiplier worked out for its pickup
or its cell. -/
structure Explains (P : Platform) (init : Store) (events : List ApplicationEvent) (ride : Ride)
    (distanceKm : Float64) (multiplier fare : Decimal) : Prop where
  measured : P.haversineKm ride.pickupLat ride.pickupLng ride.dropoffLat ride.dropoffLng =
    .ok distanceKm
  computed : Pricing.calculateFare (P.decimalOfStr distanceKm) multiplier = some fare
  applied : WorkedOut P init events ride.pickupLat ride.pickupLng multiplier ∨
    Shared P init events (Pricing.surgeGridKey ride.pickupLat ride.pickupLng) multiplier

section Longer

variable {lat lng : Float64} {multiplier : Decimal} {cell : String}

theorem WorkedOut.append (worked : WorkedOut P init events lat lng multiplier)
    (more : List ApplicationEvent) : WorkedOut P init (events ++ more) lat lng multiplier := by
  obtain ⟨pending, available, ⟨waiting, results, found, selected⟩, computed⟩ := worked
  exact ⟨pending, available, ⟨waiting.append more, results, found.append more,
    selected.append more⟩, computed⟩

theorem Shared.append (shared : Shared P init events cell multiplier)
    (more : List ApplicationEvent) : Shared P init (events ++ more) cell multiplier := by
  obtain ⟨earlier, between, later, moment, read, rfl, cached⟩ := shared
  exact ⟨earlier, between, later ++ more, moment, read, List.append_assoc _ _ _, cached⟩

theorem Explains.append {ride : Ride} {distanceKm : Float64} {fare : Decimal}
    (explains : Explains P init events ride distanceKm multiplier fare)
    (more : List ApplicationEvent) :
    Explains P init (events ++ more) ride distanceKm multiplier fare := by
  refine ⟨explains.measured, explains.computed, ?_⟩
  rcases explains.applied with worked | shared
  · exact Or.inl (worked.append more)
  · exact Or.inr (shared.append more)

/-- Every multiplier is a whole number of hundredths between one and three. -/
theorem WorkedOut.hundredths (worked : WorkedOut P init events lat lng multiplier) :
    ∃ hundredths : Nat, 100 ≤ hundredths ∧ hundredths ≤ 300 ∧
      multiplier.toRat? = some ((hundredths : ℚ) / 100) := by
  obtain ⟨pending, available, _, computed⟩ := worked
  rcases Nat.eq_zero_or_pos available with rfl | positive
  · obtain rfl : Pricing.surgeMaxMultiplier = multiplier := Option.some.inj computed
    refine ⟨300, by omega, le_rfl, ?_⟩
    have most : Pricing.surgeMaxMultiplier.toRat? = some 3 := by decide +kernel
    rw [most]
    norm_num
  · obtain ⟨ratio, _, exact⟩ := Pricing.computeSurgeMultiplier_of_pos pending positive
    rw [exact] at computed
    cases computed
    obtain ⟨low, high⟩ := Pricing.clampedHundredths_bounds ratio
    obtain ⟨hundredths, same⟩ := Int.eq_ofNat_of_zero_le
      (show 0 ≤ Pricing.clampedHundredths ratio by omega)
    refine ⟨hundredths, by omega, by omega, ?_⟩
    rw [Pricing.toRat?_hundredths, same]
    rfl

end Longer

/-! ## What a request was told -/

theorem Explains.hundredths {ride : Ride} {distanceKm : Float64} {multiplier fare : Decimal}
    (explains : Explains P init events ride distanceKm multiplier fare) :
    ∃ hundredths : Nat, 100 ≤ hundredths ∧ hundredths ≤ 300 ∧
      multiplier.toRat? = some ((hundredths : ℚ) / 100) := by
  rcases explains.applied with worked | shared
  · exact worked.hundredths
  · obtain ⟨_, _, _, _, _, _, priced, _⟩ := shared
    obtain ⟨_, _, _, _, _, _, _, _, _, worked⟩ := priced
    exact worked.hundredths

/-- The explanation is about columns that a ride keeps. -/
theorem Explains.sameOrder {ride created : Ride} {distanceKm : Float64}
    {multiplier fare : Decimal}
    (explains : Explains P init events created distanceKm multiplier fare)
    (same : ride.SameOrder created) :
    Explains P init events ride distanceKm multiplier fare := by
  constructor
  · rw [same.pickupLat, same.pickupLng, same.dropoffLat, same.dropoffLng]
    exact explains.measured
  · exact explains.computed
  · rw [same.pickupLat, same.pickupLng]
    exact explains.applied

namespace SmallCity

end SmallCity

end RideHailing
