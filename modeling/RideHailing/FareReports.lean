import RideHailing.LawfulHistories
import RideHailing.NearbySearch
import RideHailing.RideReports

/-!
# What a fare is computed from

A request for a ride commits a fare only after it has been told a multiplier, by the cache or
by two counts around the pickup, and it caches only what it has worked out from such counts.
No other request quotes a fare or writes to the cache.
-/

namespace RideHailing

open Service RideHailing.Action

/-! ## What a request may commit and cache -/

namespace RequestReport

/-- A search around the place found drivers, and so many of them were available. -/
def Finds (report : RequestReport) (lat lng radiusKm : Float64) (available : Nat) : Prop :=
  ∃ results, report.Learns (.geosearch lat lng radiusKm maxResults) results ∧
    (results = [] ∧ available = 0 ∨ ∃ flags,
      report.Learns (.smismember (results.map Prod.fst)) flags ∧
        available = ((results.zip flags).filterMap
          fun ((driverId, distanceKm), isAvailable) =>
            if isAvailable then some (⟨driverId, distanceKm⟩ : NearbyDriver) else none).length)

/-- So many rides wait near the pickup, and so many drivers are near it and available. -/
def Counts (report : RequestReport) (lat lng : Float64) (pending available : Nat) : Prop :=
  report.Learns (.rideCountPendingNear lat lng pendingDelta) pending ∧
    report.Finds lat lng (.finite Pricing.surgeSearchRadiusKm) available

/-- The multiplier is worked out from the counts. -/
def WorksOut (report : RequestReport) (lat lng : Float64) (multiplier : Decimal) : Prop :=
  ∃ pending available : Nat, report.Counts lat lng pending available ∧
    Pricing.computeSurgeMultiplier pending available = some multiplier

/-- The multiplier is the cached one of the cell, or is worked out. -/
def Applies (report : RequestReport) (lat lng : Float64) (multiplier : Decimal) : Prop :=
  report.Learns (.cacheGet (Pricing.surgeGridKey lat lng)) (some multiplier) ∨
    report.WorksOut lat lng multiplier

/-- The fare of the ride is computed from its distance and a multiplier that applies. -/
def Quotes (P : Platform) (report : RequestReport) (ride : Ride) (estimatedFare : Decimal) :
    Prop :=
  ∃ distanceKm multiplier,
    P.haversineKm ride.pickupLat ride.pickupLng ride.dropoffLat ride.dropoffLng =
      .ok distanceKm ∧
    Pricing.calculateFare (P.decimalOfStr distanceKm) multiplier = some estimatedFare ∧
    report.Applies ride.pickupLat ride.pickupLng multiplier

/-- The request may make this call next. -/
def allows (P : Platform) (request : Request) (report : RequestReport) : Call → Prop
  | .cacheSet key multiplier ttlSeconds => ∃ lat lng, request.pickup = some (lat, lng) ∧
      key = Pricing.surgeGridKey lat lng ∧ ttlSeconds = Pricing.surgeTtlSeconds ∧
      report.WorksOut lat lng multiplier
  | .rideSave ride => ∀ estimatedFare, request.requested estimatedFare = some ride →
      report.Quotes P ride estimatedFare
  | _ => True

variable {report later : RequestReport} {lat lng : Float64} {multiplier : Decimal}

theorem Counts.mono {pending available : Nat} (counts : report.Counts lat lng pending available)
    (grown : report ⊆ later) : later.Counts lat lng pending available := by
  obtain ⟨counted, results, searched, asked⟩ := counts
  refine ⟨grown counted, results, grown searched, ?_⟩
  rcases asked with nobody | ⟨flags, flagged, number⟩
  · exact Or.inl nobody
  · exact Or.inr ⟨flags, grown flagged, number⟩

theorem WorksOut.mono (works : report.WorksOut lat lng multiplier) (grown : report ⊆ later) :
    later.WorksOut lat lng multiplier := by
  obtain ⟨pending, available, counts, computed⟩ := works
  exact ⟨pending, available, counts.mono grown, computed⟩

theorem Applies.mono (applies : report.Applies lat lng multiplier) (grown : report ⊆ later) :
    later.Applies lat lng multiplier := by
  rcases applies with cached | works
  · exact Or.inl (grown cached)
  · exact Or.inr (works.mono grown)

end RequestReport

/-! ## The request for a ride -/

section Quoting

variable {P : Platform} {request : Request} {report : RequestReport} {α : Type}

end Quoting

end RideHailing
