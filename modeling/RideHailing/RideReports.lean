import RideHailing.RequestCalls
import RideHailing.Transcripts

/-!
# Which rides a request writes

A request commits a row only of a ride that it has read, and for its rider; a request for a
ride alone inserts one, and it alone works out what a ride costs.
-/

namespace RideHailing

open Service RideHailing.Action

/-- The coordinates at which a request wants to be picked up. -/
def Request.pickup : Request → Option (Float64 × Float64)
  | .requestRide _ _ _ pickupLat pickupLng _ _ => some (pickupLat, pickupLng)
  | _ => none

/-- The calls of a request and the replies it got. -/
abbrev RequestReport : Type :=
  List (Answered Value Fault)

namespace RequestReport

/-- The call has been answered with this value. -/
def Learns (report : RequestReport) (call : Call) (value : Value call) : Prop :=
  ⟨call, .ok value⟩ ∈ report

/-- The row is of a ride that has been read, and for its rider. -/
def CopiesRide (report : RequestReport) (ride : Ride) : Prop :=
  ∃ rideId old, report.Learns (.rideFindById rideId) (some old) ∧ old.id = ride.id ∧
    old.riderId = ride.riderId

/-- A request that is not for a ride may make this call next. -/
def rewrites (report : RequestReport) : Call → Prop
  | .rideSave ride => report.CopiesRide ride
  | .cacheSet _ _ _ => False
  | _ => True

end RequestReport

/-- The call neither commits a ride nor writes to the cache of multipliers. -/
def Call.aside : Call → Bool
  | .rideSave _ => false
  | .cacheSet _ _ _ => false
  | _ => true

/-- The service makes calls of this kind only. -/
abbrev Aside {α : Type} (action : Service α) : Prop :=
  Calls (fun call => call.aside = true) action

/-- The service commits rows only of rides that it has read. -/
abbrev Rewrites (report : RequestReport) {α : Type} (action : Service α)
    (returns : α → RequestReport → Prop) : Prop :=
  Informs RequestReport.rewrites report action returns

section Rules

variable {report : RequestReport} {α : Type} {action : Service α}
variable {allows : RequestReport → Call → Prop}

theorem aside_call {awaited : Call} (aside : awaited.aside = true) : Aside (call awaited) :=
  only_perform Failure.fault aside

/-- A guard rejects, or lets the service go on. -/
theorem informs_guard {condition : Prop} [Decidable condition] {status : Nat} {detail : String}
    {returns : α → RequestReport → Prop} (goesOn : Informs allows report action returns) :
    Informs allows report (if condition then reject status detail else action) returns := by
  split
  · exact informs_raise _
  · exact goesOn

theorem rewrites_of_aside (aside : Aside action) :
    Rewrites report action fun _ _ => True := by
  apply informs_of_only
  apply aside.mono
  intro call isAside note
  cases call with
  | rideSave ride => cases isAside
  | cacheSet key multiplier ttlSeconds => cases isAside
  | _ => trivial

theorem rewrites_call {awaited : Call} (aside : awaited.aside = true) :
    Rewrites report (call awaited) fun value after => after.Learns awaited value := by
  apply informs_call
  cases awaited with
  | rideSave ride => cases aside
  | cacheSet key multiplier ttlSeconds => cases aside
  | _ => trivial

end Rules

/-! ## Services that leave rides and prices aside -/

section AsideServices

variable {P : Platform}

theorem getProfile_aside (userId : String) : Aside (DriverService.getProfile userId) := by
  unfold DriverService.getProfile
  apply only_andThen (aside_call rfl)
  intro found
  cases found <;> trivial

theorem save_aside (driver : Driver) : Aside (DriverRepository.save driver) := by
  unfold DriverRepository.save
  apply only_andThen (aside_call rfl)
  intro saved
  split
  · exact only_andThen (aside_call rfl) fun _ => trivial
  · exact only_andThen (aside_call rfl) fun _ => trivial

theorem registerDriver_aside (userId vehicleType licensePlate : String) :
    Aside (DriverService.registerDriver userId vehicleType licensePlate) := by
  unfold DriverService.registerDriver
  simp only [reject_bind]
  exact only_andThen (aside_call rfl) fun _ => calls_guard (save_aside _)

theorem markById_aside (isAvailable : Bool) (userId : String) :
    Aside (DriverService.markById isAvailable userId) := by
  unfold DriverService.markById
  apply only_andThen (aside_call rfl)
  intro found
  cases found with
  | none => trivial
  | some driver => exact save_aside _

theorem getRide_aside (rideId : String) : Aside (RideService.getRide rideId) := by
  unfold RideService.getRide
  apply only_andThen (aside_call rfl)
  intro found
  cases found <;> trivial

theorem goOnline_aside (userId : String) (lat lng : Float64) :
    Aside (DriverService.goOnline userId lat lng) := by
  unfold DriverService.goOnline
  apply only_andThen (getProfile_aside _)
  intro _
  exact only_andThen (aside_call rfl) fun _ => markById_aside _ _

theorem goOffline_aside (userId : String) : Aside (DriverService.goOffline userId) := by
  unfold DriverService.goOffline
  apply only_andThen (getProfile_aside _)
  intro _
  apply only_andThen (aside_call rfl)
  intro _
  apply only_andThen (markById_aside _ _)
  intro _
  exact only_andThen (aside_call rfl) fun _ => trivial

theorem updateLocation_aside (userId : String) (lat lng : Float64) :
    Aside (DriverService.updateLocation P userId lat lng) := by
  unfold DriverService.updateLocation
  apply only_andThen (getProfile_aside _)
  intro _
  apply only_andThen (aside_call rfl)
  intro _
  apply only_andThen (aside_call rfl)
  intro serving
  cases serving with
  | none => trivial
  | some ride =>
      apply only_andThen (calls_compute _)
      intro distanceKm
      exact only_andThen (calls_compute _) fun _ => aside_call rfl

theorem countUser_aside (toUserId : String) (score : Int) :
    Aside (RatingService.countUser toUserId score) := by
  apply only_andThen (aside_call rfl)
  intro found
  cases found with
  | none => trivial
  | some user => exact only_andThen (aside_call rfl) fun _ => trivial

theorem rate_aside (rideId fromUserId : String) (score : Int) (comment : Option String)
    (newId : String) (now : Timestamp) :
    Aside (RatingService.rate rideId fromUserId score comment newId now) := by
  unfold RatingService.rate
  simp only [reject_bind]
  apply calls_guard
  apply only_andThen (getRide_aside _)
  intro ride
  apply calls_guard
  have rated : Aside (RatingService.ratedUser ride fromUserId) := by
    unfold RatingService.ratedUser
    split
    · cases ride.driverId <;> trivial
    · split <;> trivial
  apply only_andThen rated
  intro toUserId
  apply only_andThen (aside_call rfl)
  intro before
  apply calls_guard
  apply only_andThen (aside_call rfl)
  intro _
  apply only_andThen (aside_call rfl)
  intro found
  cases found with
  | none => exact countUser_aside toUserId score
  | some driver =>
      apply only_andThen (save_aside _)
      intro _
      exact countUser_aside toUserId score

theorem authRegister_aside (clientIp username password newId salt : String) :
    Aside (Auth.register P clientIp username password newId salt) := by
  unfold Auth.register Auth.attemptAllowed
  simp only [reject_bind]
  apply only_andThen (aside_call rfl)
  intro allowed
  apply calls_guard
  apply only_andThen (aside_call rfl)
  intro present
  apply calls_guard
  exact only_andThen (aside_call rfl) fun _ => trivial

theorem login_aside (clientIp username password : String) :
    Aside (Auth.login P clientIp username password) := by
  unfold Auth.login Auth.attemptAllowed
  simp only [reject_bind]
  apply only_andThen (aside_call rfl)
  intro allowed
  apply calls_guard
  apply only_andThen (aside_call rfl)
  intro found
  cases found with
  | none => trivial
  | some user => exact calls_guard trivial

theorem switchMode_aside (username mode : String) :
    Aside (Auth.switchMode username mode) := by
  unfold Auth.switchMode
  cases parseMode mode with
  | none => trivial
  | some role =>
      cases role with
      | rider => trivial
      | driver =>
          apply only_andThen (aside_call rfl)
          intro found
          cases found with
          | none => trivial
          | some user => exact calls_guard trivial

theorem registerAsDriver_aside (username vehicleType licensePlate : String) :
    Aside (Auth.registerAsDriver username vehicleType licensePlate) := by
  unfold Auth.registerAsDriver Auth.resolveCurrentUser
  apply only_andThen
  · apply only_andThen (aside_call rfl)
    intro found
    cases found <;> trivial
  · intro user
    apply only_andThen (registerDriver_aside _ _ _)
    intro driver
    exact only_andThen (aside_call rfl) fun _ => trivial

end AsideServices

/-! ## Services that move rides -/

section Moving

variable {P : Platform} {report : RequestReport}

theorem getRide_rewrites (rideId : String) :
    Rewrites report (RideService.getRide rideId) fun ride after =>
      after.Learns (.rideFindById rideId) (some ride) := by
  unfold RideService.getRide
  apply informs_bind (rewrites_call rfl)
  intro found after _ learns
  cases found with
  | none => exact informs_raise _
  | some ride => exact informs_pure learns

/-- Committing a ride that has been read. -/
theorem saving_rewrites {rideId : String} {old ride : Ride}
    (learns : report.Learns (.rideFindById rideId) (some old)) (sameId : old.id = ride.id)
    (sameRider : old.riderId = ride.riderId) :
    Rewrites report (call (.rideSave ride)) fun _ _ => True := by
  have copies : report.CopiesRide ride := ⟨rideId, old, learns, sameId, sameRider⟩
  have saves := @informs_call Call Value Fault Failure RequestReport.rewrites report
    Failure.fault (.rideSave ride) copies
  exact saves.mono fun _ _ _ _ => trivial

/-- Committing a ride that has been read, and publishing it. -/
theorem publishing_rewrites {rideId : String} {old ride : Ride} (topic : Topic)
    (learns : report.Learns (.rideFindById rideId) (some old)) (sameId : old.id = ride.id)
    (sameRider : old.riderId = ride.riderId) :
    Rewrites report (do
      let stored ← call (.rideSave ride)
      call (.publish topic stored.id)
      return stored) fun _ _ => True := by
  apply informs_bind (saving_rewrites learns sameId sameRider)
  intro stored after _ _
  apply informs_bind (rewrites_call rfl)
  intro _ last _ _
  exact informs_pure trivial

theorem acceptRide_rewrites (rideId driverId : String) :
    Rewrites report (RideService.acceptRide rideId driverId) fun _ _ => True := by
  unfold RideService.acceptRide RideService.withAcceptLock
  simp only [reject_bind]
  apply informs_bind (rewrites_call rfl)
  intro _ locked _ _
  apply informs_ensuring
  · apply informs_bind (getRide_rewrites rideId)
    intro ride read _ learns
    apply informs_guard
    apply informs_bind (rewrites_call rfl)
    intro found asked grown _
    cases found with
    | none => exact informs_raise _
    | some driver =>
        apply informs_guard
        apply informs_bind (rewrites_of_aside (markById_aside _ _))
        intro _ marked grownOnce _
        exact publishing_rewrites _ (grownOnce (grown learns)) rfl rfl
  · intro note
    exact (rewrites_call rfl).mono fun _ _ _ _ => trivial

theorem startRide_rewrites (rideId driverId : String) :
    Rewrites report (RideService.startRide rideId driverId) fun _ _ => True := by
  unfold RideService.startRide
  simp only [reject_bind]
  apply informs_bind (getRide_rewrites rideId)
  intro ride read _ learns
  apply informs_guard
  apply informs_guard
  exact saving_rewrites learns rfl rfl

theorem completeRide_rewrites (rideId driverId : String) (now : Timestamp) :
    Rewrites report (RideService.completeRide rideId driverId now) fun _ _ => True := by
  unfold RideService.completeRide
  simp only [reject_bind]
  apply informs_bind (getRide_rewrites rideId)
  intro ride read _ learns
  apply informs_guard
  apply informs_guard
  refine informs_bind (saving_rewrites learns ?_ ?_) ?_
  · rfl
  · rfl
  · intro saved stored _ _
    apply informs_bind (rewrites_of_aside (markById_aside _ _))
    intro _ marked _ _
    apply informs_bind (rewrites_call rfl)
    intro _ published _ _
    exact informs_pure trivial

theorem cancelRide_rewrites (rideId userId : String) :
    Rewrites report (RideService.cancelRide rideId userId) fun _ _ => True := by
  unfold RideService.cancelRide
  simp only [reject_bind]
  apply informs_bind (getRide_rewrites rideId)
  intro ride read _ learns
  apply informs_guard
  apply informs_guard
  cases ride.driverId with
  | none => exact publishing_rewrites _ learns rfl rfl
  | some driverId =>
      apply informs_bind (rewrites_of_aside (markById_aside _ _))
      intro _ marked grown _
      exact publishing_rewrites _ (grown learns) rfl rfl

/-- The answer of a service is made of what it returns. -/
theorem rewrites_answer {α β : Type} {action : Service α} {answer : α → β}
    (service : Rewrites report action fun _ _ => True) :
    Rewrites report (action >>= fun result => pure (answer result)) fun _ _ => True := by
  apply informs_bind service
  intro result after _ _
  exact informs_pure trivial

/-- Only a request for a ride writes a row of a ride that it has not read, or a multiplier. -/
theorem handler_rewrites {request : Request} (stays : request.pickup = none) :
    Rewrites report (handler P request) fun _ _ => True := by
  cases request with
  | requestRide newId now riderId pickupLat pickupLng dropoffLat dropoffLng => cases stays
  | acceptRide rideId driverId => exact rewrites_answer (acceptRide_rewrites _ _)
  | startRide rideId driverId => exact rewrites_answer (startRide_rewrites _ _)
  | completeRide rideId driverId now => exact rewrites_answer (completeRide_rewrites _ _ _)
  | cancelRide rideId userId => exact rewrites_answer (cancelRide_rewrites _ _)
  | registerDriver userId vehicleType licensePlate =>
      exact rewrites_answer (rewrites_of_aside (registerDriver_aside _ _ _))
  | goOnline userId lat lng => exact rewrites_answer (rewrites_of_aside (goOnline_aside _ _ _))
  | goOffline userId => exact rewrites_answer (rewrites_of_aside (goOffline_aside _))
  | updateLocation userId lat lng =>
      exact rewrites_answer (rewrites_of_aside (updateLocation_aside _ _ _))
  | rate rideId fromUserId score comment newId now =>
      exact rewrites_answer (rewrites_of_aside (rate_aside _ _ _ _ _ _))
  | authRegister clientIp username password newId salt =>
      exact rewrites_answer (rewrites_of_aside (authRegister_aside _ _ _ _ _))
  | login clientIp username password =>
      exact rewrites_answer (rewrites_of_aside (login_aside _ _ _))
  | switchMode username mode =>
      exact rewrites_answer (rewrites_of_aside (switchMode_aside _ _))
  | driverRegister username vehicleType licensePlate =>
      exact rewrites_answer (rewrites_of_aside (registerAsDriver_aside _ _ _))

end Moving

end RideHailing
