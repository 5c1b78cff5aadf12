import RideHailing.Backends

/-!
# Drivers, rides and ratings

The programs of `services/driver.py`, `services/ride.py`, `services/rating.py`,
the nearby search of `dispatch.py` and the cached multiplier of `pricing.py`.
Each method is the sequence of its awaited calls, in the order of the source.
Identifiers and clock readings that a method draws for a new row are arguments.
-/

namespace RideHailing

/-- How a method ends when it does not return. -/
inductive Failure where
  | http (status : Nat) (detail : String)
  | fault (fault : Fault)
  | exception (name : String)
deriving DecidableEq, Repr

abbrev Service : Type → Type :=
  Action Call Value Fault Failure

namespace Service

/-- Await one call. -/
def call (call : Call) : Service (Value call) :=
  Action.perform Failure.fault call

def raise {α : Type} (failure : Failure) : Service α :=
  Action.raise failure

/-- `raise HTTPException(status, detail)`. -/
def reject {α : Type} (status : Nat) (detail : String) : Service α :=
  raise (.http status detail)

/-- The value of a computation that raises on its own. -/
def compute {α : Type} : Except String α → Service α
  | .ok value => pure value
  | .error name => raise (.exception name)

/-- A decimal computation; without a result it raises. -/
def decimal : Option Decimal → Service Decimal
  | some value => pure value
  | none => raise (.exception "InvalidOperation")

end Service

open Service

/-- What follows a rejection is not reached. -/
@[simp]
theorem reject_bind {α β : Type} (status : Nat) (detail : String)
    (next : α → Service β) :
    (reject status detail >>= next) = reject status detail :=
  rfl

/-! ## `geo.py` and `dispatch.py` -/

def averageCitySpeedKmh : ℚ := 30

/-- `max(1, int(distance_km / AVERAGE_CITY_SPEED_KMH * 60))`, in doubles. -/
def etaMinutes (distanceKm : Float64) : Except String Int := do
  let minutes ← ((distanceKm.times averageCitySpeedKmh⁻¹).times 60).truncate
  return max 1 minutes

-- Both operations round: the first distance is below one kilometre, the second is 61.5.
example : etaMinutes (.finite (1 - 1 / 2 ^ 53)) = .ok 2 ∧
    etaMinutes (.finite (123 / 2)) = .ok 122 := by
  decide +kernel

def maxResults : Nat := 20

structure NearbyDriver where
  driverId : String
  distanceKm : Float64
deriving DecidableEq, Repr

def findNearbyAvailableDrivers (lat lng radiusKm : Float64) :
    Service (List NearbyDriver) := do
  let results ← call (.geosearch lat lng radiusKm maxResults)
  if results.isEmpty then
    return []
  let driverIds := results.map Prod.fst
  let available ← call (.smismember driverIds)
  return (results.zip available).filterMap fun ((driverId, distanceKm), isAvailable) =>
    if isAvailable then some ⟨driverId, distanceKm⟩ else none

/-! ## `repositories/driver.py` -/

namespace DriverRepository

def save (driver : Driver) : Service Driver := do
  let saved ← call (.driverMerge driver)
  if driver.isAvailable then
    call (.sadd driver.userId)
  else
    call (.srem driver.userId)
  return saved

end DriverRepository

/-! ## `services/driver.py` -/

namespace DriverService

def registerDriver (userId vehicleType licensePlate : String) :
    Service Driver := do
  if ← call (.driverExistsById userId) then
    reject 409 "Driver profile already exists"
  DriverRepository.save {
    userId := userId, vehicleType := vehicleType, licensePlate := licensePlate }

def getProfile (userId : String) : Service Driver := do
  match ← call (.driverFindById userId) with
  | none => reject 404 "No driver profile found"
  | some driver => return driver

/-- Read the driver and write the row back with this availability. -/
def markById (isAvailable : Bool) (userId : String) : Service Driver := do
  match ← call (.driverFindById userId) with
  | none => reject 404 "No driver profile found"
  | some driver => DriverRepository.save { driver with isAvailable := isAvailable }

def markAvailableById (userId : String) : Service Driver :=
  markById true userId

def markUnavailableById (userId : String) : Service Driver :=
  markById false userId

def goOnline (userId : String) (lat lng : Float64) : Service Driver := do
  let _ ← getProfile userId
  call (.geoadd userId lat lng)
  markAvailableById userId

def goOffline (userId : String) : Service Driver := do
  let _ ← getProfile userId
  call (.zrem userId)
  let saved ← markUnavailableById userId
  call (.sseComplete userId)
  return saved

def updateLocation (P : Platform) (userId : String) (lat lng : Float64) :
    Service Unit := do
  let _ ← getProfile userId
  call (.geoadd userId lat lng)
  match ← call (.rideFindFirstByDriverIdAndStatusIn userId servingRideStatuses) with
  | none => return ()
  | some ride =>
      let distanceKm ← compute (P.haversineKm lat lng ride.dropoffLat ride.dropoffLng)
      let eta ← compute (etaMinutes distanceKm)
      call (.sseEmit ride.id "driver_location" (.driverLocation lat lng eta))

end DriverService

/-! ## `pricing.py` -/

namespace PricingService

def getSurgeMultiplier (lat lng : Float64) (pendingRides availableDrivers : Nat) :
    Service Decimal := do
  let key := Pricing.surgeGridKey lat lng
  match ← call (.cacheGet key) with
  | some cached => return cached
  | none =>
      let multiplier ←
        decimal (Pricing.computeSurgeMultiplier pendingRides availableDrivers)
      call (.cacheSet key multiplier Pricing.surgeTtlSeconds)
      return multiplier

def getFareQuote (P : Platform) (pickupLat pickupLng dropoffLat dropoffLng : Float64)
    (pendingRides availableDrivers : Nat) : Service (Decimal × Decimal) := do
  let distanceKm ←
    compute (P.haversineKm pickupLat pickupLng dropoffLat dropoffLng)
  let surge ← getSurgeMultiplier pickupLat pickupLng pendingRides availableDrivers
  let fare ← decimal (Pricing.calculateFare (P.decimalOfStr distanceKm) surge)
  return (fare, surge)

end PricingService

/-! ## `services/ride.py` -/

/-- The default of `count_pending_near`, the double nearest to 0.01. -/
def pendingDelta : Float64 :=
  .ofRat (1 / 100)

namespace RideService

/-- `async with self._accept_lock`. -/
def withAcceptLock {α : Type} (body : Service α) : Service α := do
  call .lockAcquire
  Action.ensuring body (call .lockRelease)

def calculateFare (P : Platform) (ride : Ride) : Service Decimal := do
  let pendingRides ←
    call (.rideCountPendingNear ride.pickupLat ride.pickupLng pendingDelta)
  let nearby ← findNearbyAvailableDrivers ride.pickupLat ride.pickupLng
    (.finite Pricing.surgeSearchRadiusKm)
  let availableDrivers := nearby.length
  let (fare, _surge) ← PricingService.getFareQuote P ride.pickupLat ride.pickupLng
    ride.dropoffLat ride.dropoffLng pendingRides availableDrivers
  return fare

def requestRide (P : Platform) (newId : String) (now : Timestamp) (riderId : String)
    (pickupLat pickupLng dropoffLat dropoffLng : Float64) : Service Ride := do
  if ← call (.rideExistsByRiderIdAndStatusIn riderId activeRideStatuses) then
    reject 409 "Rider already has an active ride"
  let ride : Ride := {
    riderId := riderId, pickupLat := pickupLat, pickupLng := pickupLng,
    dropoffLat := dropoffLat, dropoffLng := dropoffLng, id := newId,
    requestedAt := now }
  let estimatedFare ← calculateFare P ride
  let saved ← call (.rideSave { ride with estimatedFare := some estimatedFare })
  call (.publish .rideRequested saved.id)
  return saved

def getRide (rideId : String) : Service Ride := do
  match ← call (.rideFindById rideId) with
  | none => reject 404 "Ride not found"
  | some ride => return ride

def acceptRide (rideId driverId : String) : Service Ride :=
  withAcceptLock do
    let ride ← getRide rideId
    if ride.status ≠ .requested then
      reject 409 "Ride is not available for acceptance"
    match ← call (.driverFindById driverId) with
    | none => reject 403 "No driver profile found — register as a driver first"
    | some driver =>
        if ¬ driver.isAvailable then
          reject 409 "Driver is not currently available"
        let _ ← DriverService.markUnavailableById driverId
        let saved ← call (.rideSave { ride with
          driverId := some driverId, status := .matched, version := ride.version + 1 })
        call (.publish .rideAccepted saved.id)
        return saved

def startRide (rideId driverId : String) : Service Ride := do
  let ride ← getRide rideId
  if ride.status ≠ .matched then
    reject 409 "Ride is not in MATCHED state"
  if ride.driverId ≠ some driverId then
    reject 403 "Not the assigned driver for this ride"
  call (.rideSave { ride with status := .inProgress, version := ride.version + 1 })

def completeRide (rideId driverId : String) (now : Timestamp) : Service Ride := do
  let ride ← getRide rideId
  if ride.status ≠ .inProgress then
    reject 409 "Ride is not IN_PROGRESS"
  if ride.driverId ≠ some driverId then
    reject 403 "Not the assigned driver for this ride"
  let saved ← call (.rideSave { ride with
    status := .completed, fare := ride.estimatedFare, completedAt := some now,
    version := ride.version + 1 })
  let _ ← DriverService.markAvailableById driverId
  call (.publish .rideCompleted saved.id)
  return saved

def cancelRide (rideId userId : String) : Service Ride := do
  let ride ← getRide rideId
  if ride.status = .inProgress ∨ ride.status = .completed then
    reject 409 ("Cannot cancel a ride with status " ++ ride.status.value)
  if ride.riderId ≠ userId ∧ ride.driverId ≠ some userId then
    reject 403 "Not a participant in this ride"
  match ride.driverId with
  | none => pure ()
  | some driverId =>
      let _ ← DriverService.markAvailableById driverId
  let saved ← call (.rideSave { ride with
    status := .cancelled, version := ride.version + 1 })
  call (.publish .rideCancelled saved.id)
  return saved

end RideService

/-! ## `services/rating.py` -/

namespace RatingService

/-- `_incremental_avg` in exact arithmetic. -/
def incrementalAvg (oldAvg : Option ℚ) (oldCount newScore : Int) : ℚ :=
  let avg := oldAvg.getD 0
  (avg * oldCount + newScore) / (oldCount + 1)

/-- `_round_to_2`: two places, a tie away from zero. -/
def roundTo2 (value : ℚ) : ℚ :=
  let magnitude := (|value| * 100 + 1 / 2).floor
  (if value < 0 then -magnitude else magnitude) / 100

/-- Whom a participant rates, or the rejection of the request. -/
def ratedUser (ride : Ride) (fromUserId : String) : Service String :=
  if fromUserId = ride.riderId then
    match ride.driverId with
    | none => reject 409 "Ride has no assigned driver"
    | some driverId => return driverId
  else if some fromUserId = ride.driverId then
    return ride.riderId
  else reject 403 "Not a participant in this ride"

/-- The end of `rate`, which counts the score for the rated user. -/
def countUser (toUserId : String) (score : Int) : Service Unit := do
  match ← call (.userFindById toUserId) with
  | none => pure ()
  | some user =>
      let newAvg := roundTo2 (incrementalAvg user.avgRating user.ratingCount score)
      let _ ← call (.userSave { user with
        avgRating := some newAvg, ratingCount := user.ratingCount + 1 })

def rate (rideId fromUserId : String) (score : Int) (comment : Option String)
    (newId : String) (now : Timestamp) : Service Unit := do
  if ¬ (1 ≤ score ∧ score ≤ 5) then
    reject 400 "Score must be between 1 and 5"
  let ride ← RideService.getRide rideId
  if ride.status ≠ .completed then
    reject 409 "Can only rate a completed ride"
  let toUserId ← ratedUser ride fromUserId
  if ← call (.ratingExistsByRideIdAndFromUserId rideId fromUserId) then
    reject 409 "Already rated this ride"
  let _ ← call (.ratingSave {
    rideId := rideId, fromUserId := fromUserId, toUserId := toUserId,
    score := score, comment := comment, id := newId, createdAt := now })
  match ← call (.driverFindById toUserId) with
  | none => pure ()
  | some driver =>
      let newAvg := roundTo2 (incrementalAvg driver.avgRating driver.ratingCount score)
      let _ ← DriverRepository.save { driver with
        avgRating := some newAvg, ratingCount := driver.ratingCount + 1 }
  countUser toUserId score

end RatingService

end RideHailing
