import RideHailing.Application

/-!
# Which calls a request makes

Most services look rows up, count rides or ask Redis, and nothing of that concerns
anybody else.  Among the requests only an update of a driver's location looks for the
ride that the driver serves, and only it emits an event.
-/

namespace RideHailing

open Service RideHailing.Action

/-- The call is neither a write to the drivers, the rides or the availability set, nor a
message or an event, nor the lookup behind one. -/
def Call.ordinary : Call → Bool
  | .driverMerge _ => false
  | .rideSave _ => false
  | .sadd _ => false
  | .srem _ => false
  | .publish _ _ => false
  | .sseEmit _ _ _ => false
  | .rideFindFirstByDriverIdAndStatusIn _ _ => false
  | _ => true

/-- The call emits an event, or looks for the ride that a driver serves. -/
def Call.tracks : Call → Bool
  | .sseEmit _ _ _ => true
  | .rideFindFirstByDriverIdAndStatusIn _ _ => true
  | _ => false

theorem Call.tracks_of_ordinary {call : Call} (ordinary : call.ordinary = true) :
    call.tracks = false := by
  cases call <;> first | rfl | cases ordinary

/-- The service makes allowed calls only. -/
abbrev Calls {α : Type} (allowed : Call → Prop) (action : Service α) : Prop :=
  AwaitProgram.Only allowed action

/-- The service makes ordinary calls only. -/
abbrev Ordinary {α : Type} (action : Service α) : Prop :=
  Calls (fun call => call.ordinary = true) action

/-- The service makes no call that tracks a driver. -/
abbrev Untracking {α : Type} (action : Service α) : Prop :=
  Calls (fun call => call.tracks = false) action

section Rules

variable {α β : Type} {allowed : Call → Prop} {action : Service α}

theorem ordinary_call {awaited : Call} (ordinary : awaited.ordinary = true) :
    Ordinary (call awaited) :=
  only_perform Failure.fault ordinary

theorem untracking_call {awaited : Call} (untracking : awaited.tracks = false) :
    Untracking (call awaited) :=
  only_perform Failure.fault untracking

/-- A guard rejects, or lets the service go on. -/
theorem calls_guard {condition : Prop} [Decidable condition] {status : Nat} {detail : String}
    (goesOn : Calls allowed action) :
    Calls allowed (if condition then reject status detail else action) := by
  split
  · trivial
  · exact goesOn

theorem calls_compute (computed : Except String α) :
    Calls allowed (compute computed) := by
  cases computed <;> trivial

theorem calls_decimal (computed : Option Decimal) :
    Calls allowed (decimal computed) := by
  cases computed <;> trivial

theorem Ordinary.untracking (ordinary : Ordinary action) : Untracking action :=
  ordinary.mono fun _ => Call.tracks_of_ordinary

end Rules

/-! ## Services that make ordinary calls -/

section OrdinaryServices

variable {P : Platform}

theorem getProfile_ordinary (userId : String) : Ordinary (DriverService.getProfile userId) := by
  unfold DriverService.getProfile
  apply only_andThen (ordinary_call rfl)
  intro found
  cases found <;> trivial

theorem findNearbyAvailableDrivers_ordinary (lat lng radiusKm : Float64) :
    Ordinary (findNearbyAvailableDrivers lat lng radiusKm) := by
  unfold findNearbyAvailableDrivers
  apply only_andThen (ordinary_call rfl)
  intro results
  split
  · trivial
  · exact only_andThen (ordinary_call rfl) fun _ => trivial

theorem getSurgeMultiplier_ordinary (lat lng : Float64)
    (pendingRides availableDrivers : Nat) :
    Ordinary (PricingService.getSurgeMultiplier lat lng pendingRides availableDrivers) := by
  unfold PricingService.getSurgeMultiplier
  apply only_andThen (ordinary_call rfl)
  intro cached
  cases cached with
  | some multiplier => trivial
  | none =>
      apply only_andThen (calls_decimal _)
      intro multiplier
      exact only_andThen (ordinary_call rfl) fun _ => trivial

theorem calculateFare_ordinary (ride : Ride) :
    Ordinary (RideService.calculateFare P ride) := by
  unfold RideService.calculateFare PricingService.getFareQuote
  apply only_andThen (ordinary_call rfl)
  intro pendingRides
  apply only_andThen (findNearbyAvailableDrivers_ordinary _ _ _)
  intro nearby
  refine only_andThen ?_ fun _ => trivial
  apply only_andThen (calls_compute _)
  intro distanceKm
  apply only_andThen (getSurgeMultiplier_ordinary _ _ _ _)
  intro surge
  exact only_andThen (calls_decimal _) fun _ => trivial

theorem getRide_ordinary (rideId : String) : Ordinary (RideService.getRide rideId) := by
  unfold RideService.getRide
  apply only_andThen (ordinary_call rfl)
  intro found
  cases found <;> trivial

theorem ratedUser_ordinary (ride : Ride) (fromUserId : String) :
    Ordinary (RatingService.ratedUser ride fromUserId) := by
  unfold RatingService.ratedUser
  split
  · cases ride.driverId <;> trivial
  · split <;> trivial

theorem authRegister_ordinary (clientIp username password newId salt : String) :
    Ordinary (Auth.register P clientIp username password newId salt) := by
  unfold Auth.register Auth.attemptAllowed
  simp only [reject_bind]
  apply only_andThen (ordinary_call rfl)
  intro allowed
  apply calls_guard
  apply only_andThen (ordinary_call rfl)
  intro present
  apply calls_guard
  exact only_andThen (ordinary_call rfl) fun _ => trivial

theorem login_ordinary (clientIp username password : String) :
    Ordinary (Auth.login P clientIp username password) := by
  unfold Auth.login Auth.attemptAllowed
  simp only [reject_bind]
  apply only_andThen (ordinary_call rfl)
  intro allowed
  apply calls_guard
  apply only_andThen (ordinary_call rfl)
  intro found
  cases found with
  | none => trivial
  | some user => exact calls_guard trivial

theorem switchMode_ordinary (username mode : String) :
    Ordinary (Auth.switchMode username mode) := by
  unfold Auth.switchMode
  cases parseMode mode with
  | none => trivial
  | some role =>
      cases role with
      | rider => trivial
      | driver =>
          apply only_andThen (ordinary_call rfl)
          intro found
          cases found with
          | none => trivial
          | some user => exact calls_guard trivial

theorem resolveCurrentUser_ordinary (username : String) :
    Ordinary (Auth.resolveCurrentUser username) := by
  unfold Auth.resolveCurrentUser
  apply only_andThen (ordinary_call rfl)
  intro found
  cases found <;> trivial

end OrdinaryServices

/-! ## Requests that do not track -/

section Untracking

variable {P : Platform}

theorem save_untracking (driver : Driver) : Untracking (DriverRepository.save driver) := by
  unfold DriverRepository.save
  apply only_andThen (untracking_call rfl)
  intro saved
  split
  · exact only_andThen (untracking_call rfl) fun _ => trivial
  · exact only_andThen (untracking_call rfl) fun _ => trivial

theorem registerDriver_untracking (userId vehicleType licensePlate : String) :
    Untracking (DriverService.registerDriver userId vehicleType licensePlate) := by
  unfold DriverService.registerDriver
  simp only [reject_bind]
  exact only_andThen (untracking_call rfl) fun _ => calls_guard (save_untracking _)

theorem markById_untracking (isAvailable : Bool) (userId : String) :
    Untracking (DriverService.markById isAvailable userId) := by
  unfold DriverService.markById
  apply only_andThen (untracking_call rfl)
  intro found
  cases found with
  | none => trivial
  | some driver => exact save_untracking _

theorem goOnline_untracking (userId : String) (lat lng : Float64) :
    Untracking (DriverService.goOnline userId lat lng) := by
  unfold DriverService.goOnline
  apply only_andThen (getProfile_ordinary _).untracking
  intro _
  exact only_andThen (untracking_call rfl) fun _ => markById_untracking _ _

theorem goOffline_untracking (userId : String) :
    Untracking (DriverService.goOffline userId) := by
  unfold DriverService.goOffline
  apply only_andThen (getProfile_ordinary _).untracking
  intro _
  apply only_andThen (untracking_call rfl)
  intro _
  apply only_andThen (markById_untracking _ _)
  intro _
  exact only_andThen (untracking_call rfl) fun _ => trivial

/-- Committing a ride and publishing it. -/
theorem publishing_untracking (ride : Ride) (topic : Topic) :
    Untracking (do
      let stored ← call (.rideSave ride)
      call (.publish topic stored.id)
      return stored) := by
  apply only_andThen (untracking_call rfl)
  intro stored
  exact only_andThen (untracking_call rfl) fun _ => trivial

theorem requestRide_untracking (newId : String) (now : Timestamp) (riderId : String)
    (pickupLat pickupLng dropoffLat dropoffLng : Float64) :
    Untracking (RideService.requestRide P newId now riderId pickupLat pickupLng dropoffLat
      dropoffLng) := by
  unfold RideService.requestRide
  simp only [reject_bind]
  apply only_andThen (untracking_call rfl)
  intro active
  apply calls_guard
  apply only_andThen (calculateFare_ordinary _).untracking
  intro estimatedFare
  exact publishing_untracking _ _

theorem withAcceptLock_untracking {α : Type} {body : Service α} (inside : Untracking body) :
    Untracking (RideService.withAcceptLock body) := by
  unfold RideService.withAcceptLock
  apply only_andThen (untracking_call rfl)
  intro _
  apply AwaitProgram.only_bind inside
  intro outcome
  apply AwaitProgram.only_bind (untracking_call rfl)
  intro released
  cases released <;> trivial

theorem acceptRide_untracking (rideId driverId : String) :
    Untracking (RideService.acceptRide rideId driverId) := by
  apply withAcceptLock_untracking
  simp only [reject_bind]
  apply only_andThen (getRide_ordinary _).untracking
  intro ride
  apply calls_guard
  apply only_andThen (untracking_call rfl)
  intro found
  cases found with
  | none => trivial
  | some driver =>
      apply calls_guard
      apply only_andThen (markById_untracking _ _)
      intro _
      exact publishing_untracking _ _

theorem startRide_untracking (rideId driverId : String) :
    Untracking (RideService.startRide rideId driverId) := by
  unfold RideService.startRide
  simp only [reject_bind]
  apply only_andThen (getRide_ordinary _).untracking
  intro ride
  apply calls_guard
  apply calls_guard
  exact untracking_call rfl

theorem completeRide_untracking (rideId driverId : String) (now : Timestamp) :
    Untracking (RideService.completeRide rideId driverId now) := by
  unfold RideService.completeRide
  simp only [reject_bind]
  apply only_andThen (getRide_ordinary _).untracking
  intro ride
  apply calls_guard
  apply calls_guard
  apply only_andThen (untracking_call rfl)
  intro saved
  apply only_andThen (markById_untracking _ _)
  intro _
  exact only_andThen (untracking_call rfl) fun _ => trivial

theorem cancelRide_untracking (rideId userId : String) :
    Untracking (RideService.cancelRide rideId userId) := by
  unfold RideService.cancelRide
  simp only [reject_bind]
  apply only_andThen (getRide_ordinary _).untracking
  intro ride
  apply calls_guard
  apply calls_guard
  cases ride.driverId with
  | none => exact publishing_untracking _ _
  | some driverId =>
      apply only_andThen (markById_untracking _ _)
      intro _
      exact publishing_untracking _ _

theorem countUser_untracking (toUserId : String) (score : Int) :
    Untracking (RatingService.countUser toUserId score) := by
  apply only_andThen (untracking_call rfl)
  intro found
  cases found with
  | none => trivial
  | some user => exact only_andThen (untracking_call rfl) fun _ => trivial

theorem rate_untracking (rideId fromUserId : String) (score : Int) (comment : Option String)
    (newId : String) (now : Timestamp) :
    Untracking (RatingService.rate rideId fromUserId score comment newId now) := by
  unfold RatingService.rate
  simp only [reject_bind]
  apply calls_guard
  apply only_andThen (getRide_ordinary _).untracking
  intro ride
  apply calls_guard
  apply only_andThen (ratedUser_ordinary _ _).untracking
  intro toUserId
  apply only_andThen (untracking_call rfl)
  intro rated
  apply calls_guard
  apply only_andThen (untracking_call rfl)
  intro _
  apply only_andThen (untracking_call rfl)
  intro found
  cases found with
  | none => exact countUser_untracking toUserId score
  | some driver =>
      apply only_andThen (save_untracking _)
      intro _
      exact countUser_untracking toUserId score

theorem registerAsDriver_untracking (username vehicleType licensePlate : String) :
    Untracking (Auth.registerAsDriver username vehicleType licensePlate) := by
  unfold Auth.registerAsDriver
  apply only_andThen (resolveCurrentUser_ordinary _).untracking
  intro user
  apply only_andThen (registerDriver_untracking _ _ _)
  intro driver
  exact only_andThen (untracking_call rfl) fun _ => trivial

/-- Only an update of a driver's location tracks the driver. -/
theorem handler_untracking {request : Request}
    (other : ∀ driverId lat lng, request ≠ .updateLocation driverId lat lng) :
    Untracking (handler P request) := by
  cases request with
  | requestRide newId now riderId pickupLat pickupLng dropoffLat dropoffLng =>
      exact only_andThen (requestRide_untracking _ _ _ _ _ _ _) fun _ => trivial
  | acceptRide rideId driverId =>
      exact only_andThen (acceptRide_untracking _ _) fun _ => trivial
  | startRide rideId driverId =>
      exact only_andThen (startRide_untracking _ _) fun _ => trivial
  | completeRide rideId driverId now =>
      exact only_andThen (completeRide_untracking _ _ _) fun _ => trivial
  | cancelRide rideId userId =>
      exact only_andThen (cancelRide_untracking _ _) fun _ => trivial
  | registerDriver userId vehicleType licensePlate =>
      exact only_andThen (registerDriver_untracking _ _ _) fun _ => trivial
  | goOnline userId lat lng =>
      exact only_andThen (goOnline_untracking _ _ _) fun _ => trivial
  | goOffline userId => exact only_andThen (goOffline_untracking _) fun _ => trivial
  | updateLocation userId lat lng => exact absurd rfl (other userId lat lng)
  | rate rideId fromUserId score comment newId now =>
      exact only_andThen (rate_untracking _ _ _ _ _ _) fun _ => trivial
  | authRegister clientIp username password newId salt =>
      exact only_andThen (authRegister_ordinary _ _ _ _ _).untracking fun _ => trivial
  | login clientIp username password =>
      exact only_andThen (login_ordinary _ _ _).untracking fun _ => trivial
  | switchMode username mode =>
      exact only_andThen (switchMode_ordinary _ _).untracking fun _ => trivial
  | driverRegister username vehicleType licensePlate =>
      exact only_andThen (registerAsDriver_untracking _ _ _) fun _ => trivial

end Untracking

end RideHailing
