import RideHailing.Routes

/-!
# What the routes answer with

The mapping of `schemas.py` from a ride or a driver to its response.  The journey of a ride
is measured once more for the response, after the service has finished, and it can still
raise then.
-/

namespace RideHailing

open Service

structure RideResponse where
  id : String
  riderId : String
  driverId : Option String
  pickupLat : Float64
  pickupLng : Float64
  dropoffLat : Float64
  dropoffLng : Float64
  status : RideStatus
  estimatedFare : Option Decimal
  fare : Option Decimal
  requestedAt : Timestamp
  completedAt : Option Timestamp
  estimatedJourneyMinutes : Int
deriving DecidableEq, Repr

structure DriverProfileResponse where
  userId : String
  vehicleType : String
  licensePlate : String
  isAvailable : Bool
  avgRating : Option ℚ
deriving DecidableEq, Repr

def rideToResponse (P : Platform) (ride : Ride) : Except String RideResponse := do
  let distanceKm ←
    P.haversineKm ride.pickupLat ride.pickupLng ride.dropoffLat ride.dropoffLng
  let minutes ← etaMinutes distanceKm
  return {
    id := ride.id, riderId := ride.riderId, driverId := ride.driverId,
    pickupLat := ride.pickupLat, pickupLng := ride.pickupLng,
    dropoffLat := ride.dropoffLat, dropoffLng := ride.dropoffLng,
    status := ride.status, estimatedFare := ride.estimatedFare, fare := ride.fare,
    requestedAt := ride.requestedAt, completedAt := ride.completedAt,
    estimatedJourneyMinutes := minutes }

def driverToResponse (driver : Driver) : DriverProfileResponse where
  userId := driver.userId
  vehicleType := driver.vehicleType
  licensePlate := driver.licensePlate
  isAvailable := driver.isAvailable
  avgRating := driver.avgRating

/-- The body of an answer, and the token that is set beside it. -/
inductive Answer where
  | ride (response : RideResponse)
  | driver (profile : DriverProfileResponse)
  | token (token : Token)
  | registered (profile : DriverProfileResponse) (token : Token)
  | noContent
deriving DecidableEq, Repr

/-- The answer that a route makes of what its service returns. -/
def Response.answer (P : Platform) : Response → Except String Answer
  | .ride saved => return .ride (← rideToResponse P saved)
  | .driver saved => return .driver (driverToResponse saved)
  | .token signed => return .token signed
  | .registered saved signed => return .registered (driverToResponse saved) signed
  | .noContent => return .noContent

/-- A route with its dependencies, up to its answer. -/
def Route.answered (P : Platform) (rideRequestLimitPerMinute : Nat) (route : Route) :
    Service Answer := do
  let response ← route.program P rideRequestLimitPerMinute
  compute (response.answer P)

/-- A ride has a response when its journey has a finite length. -/
theorem rideToResponse_of_finite {P : Platform} {ride : Ride} {km : ℚ}
    (measured : P.haversineKm ride.pickupLat ride.pickupLng ride.dropoffLat ride.dropoffLng =
      .ok (.finite km)) :
    ∃ response, rideToResponse P ride = .ok response := by
  simp only [rideToResponse, measured]
  exact ⟨_, rfl⟩

theorem rideToResponse_of_nan {P : Platform} {ride : Ride}
    (measured : P.haversineKm ride.pickupLat ride.pickupLng ride.dropoffLat ride.dropoffLng =
      .ok .nan) :
    rideToResponse P ride = .error "ValueError" := by
  simp only [rideToResponse, measured]
  rfl

end RideHailing
