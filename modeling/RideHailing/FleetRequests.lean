import RideHailing.FleetTriples

/-!
# What the requests do to the fleet

Every request, served on its own, makes the writes that the fleet prescribes:
all of them when it returns, and otherwise none, or the first few of them if a
call has failed.
-/

namespace RideHailing

open Service

variable {P : Platform} {failing : Bool} {pid : Nat} {fleet : Fleet}
variable {raises : Failure → Fleet → Prop}

/-! ## `dispatch.py`, `pricing.py` -/

theorem findNearbyAvailableDrivers_solo {lat lng radiusKm : Float64}
    (raised : ∀ failure, raises failure fleet) :
    FleetSolo P failing pid fleet (findNearbyAvailableDrivers lat lng radiusKm)
      (fun _ after => after = fleet) raises := by
  unfold findNearbyAvailableDrivers
  refine (unseen_solo rfl raised).skip fun results => ?_
  apply solo_ite
  · intro _
    exact solo_pure rfl
  · intro _
    exact (unseen_solo rfl raised).skip fun available => solo_pure rfl

theorem getSurgeMultiplier_solo {lat lng : Float64}
    {pendingRides availableDrivers : Nat}
    (raised : ∀ failure, raises failure fleet) :
    FleetSolo P failing pid fleet
      (PricingService.getSurgeMultiplier lat lng pendingRides availableDrivers)
      (fun _ after => after = fleet) raises := by
  unfold PricingService.getSurgeMultiplier
  refine (unseen_solo rfl raised).skip fun cached => ?_
  cases cached with
  | some multiplier => exact solo_pure rfl
  | none =>
      refine (decimal_solo raised).skip fun multiplier => ?_
      exact (unseen_solo rfl raised).skip fun _ => solo_pure rfl

theorem getFareQuote_solo {pickupLat pickupLng dropoffLat dropoffLng : Float64}
    {pendingRides availableDrivers : Nat} (raised : ∀ failure, raises failure fleet) :
    FleetSolo P failing pid fleet
      (PricingService.getFareQuote P pickupLat pickupLng dropoffLat dropoffLng
        pendingRides availableDrivers)
      (fun _ after => after = fleet) raises := by
  unfold PricingService.getFareQuote
  refine (compute_solo raised).skip fun distanceKm => ?_
  refine (getSurgeMultiplier_solo raised).skip fun surge => ?_
  exact (decimal_solo raised).skip fun fare => solo_pure rfl

theorem calculateFare_solo {ride : Ride} (raised : ∀ failure, raises failure fleet) :
    FleetSolo P failing pid fleet (RideService.calculateFare P ride)
      (fun _ after => after = fleet) raises := by
  unfold RideService.calculateFare
  refine (unseen_solo rfl raised).skip fun pendingRides => ?_
  refine (findNearbyAvailableDrivers_solo raised).skip fun nearby => ?_
  exact (getFareQuote_solo raised).skip fun quote => solo_pure rfl

/-! ## `repositories/driver.py`, `services/driver.py` -/

theorem driverRepositorySave_solo {driver : Driver}
    (refused : failing = true ∨ fleet.drivers.find driver.userId = none →
      ∀ failure, raises failure fleet)
    (torn : failing = true →
      ∀ failure, raises failure (fleet.write (.driver driver))) :
    FleetSolo P failing pid fleet (DriverRepository.save driver)
      (fun _ after => after = fleet.writeAll (saving driver)) raises := by
  unfold DriverRepository.save
  refine (driverMerge_solo refused).bind ?_
  rintro saved _ rfl
  apply solo_ite
  · intro available
    refine (sadd_solo torn).bind ?_
    rintro _ _ rfl
    apply solo_pure
    rw [saving, available]
    rfl
  · intro unavailable
    refine (srem_solo torn).bind ?_
    rintro _ _ rfl
    apply solo_pure
    rw [saving, Bool.eq_false_of_not_eq_true unavailable]
    rfl

/-- A mark is the save of the row as it was found. -/
theorem markById_solo {isAvailable : Bool} {userId : String}
    (absent : fleet.drivers.find userId = none → ∀ failure, raises failure fleet)
    (broken : failing = true → ∀ driver done, fleet.drivers.find userId = some driver →
      done <+: saving { driver with isAvailable := isAvailable } →
        ∀ failure, raises failure (fleet.writeAll done)) :
    FleetSolo P failing pid fleet (DriverService.markById isAvailable userId)
      (fun _ after => ∃ driver, fleet.drivers.find userId = some driver ∧
        after = fleet.writeAll (saving { driver with isAvailable := isAvailable }))
      raises := by
  unfold DriverService.markById
  refine (driverFindById_solo fun fails failure => ?_).read fun found foundEq => ?_
  · cases found : fleet.drivers.find userId with
    | none => exact absent found failure
    | some driver => exact broken fails driver [] found List.nil_prefix failure
  cases found with
  | none => exact reject_solo (absent foundEq.symm)
  | some driver =>
      have profile : fleet.drivers.find userId = some driver := foundEq.symm
      have known : fleet.drivers.find driver.userId = some driver := by
        rw [KeyedTable.key_of_find profile]
        exact profile
      apply (driverRepositorySave_solo ?_ ?_).returning
      · intro _ after afterEq
        exact ⟨driver, profile, afterEq⟩
      · rintro (fails | unknown)
        · exact broken fails driver [] profile List.nil_prefix
        · rw [known] at unknown
          cases unknown
      · intro fails
        exact broken fails driver [.driver { driver with isAvailable := isAvailable }]
          profile (driver_begins_saving _)

theorem getProfile_solo {userId : String} (raised : ∀ failure, raises failure fleet) :
    FleetSolo P failing pid fleet (DriverService.getProfile userId)
      (fun _ after => after = fleet) raises := by
  unfold DriverService.getProfile
  refine (driverFindById_solo fun _ => raised).read fun found _ => ?_
  cases found with
  | none => exact reject_solo raised
  | some driver => exact solo_pure rfl

theorem registerDriver_solo {request : Request}
    {userId vehicleType licensePlate : String}
    (registers : request.registersDriver = true) :
    FleetSolo P failing pid fleet
      (DriverService.registerDriver userId vehicleType licensePlate)
      (fun _ => Fleet.Carried P request fleet)
      (fun _ => Fleet.Becomes P request failing fleet) := by
  unfold DriverService.registerDriver
  simp only [reject_bind]
  refine (driverExistsById_solo fun _ => Or.inl rfl).read fun present absent => ?_
  refine guard_solo (fun _ => Or.inl rfl) fun isAbsent => ?_
  have effect : Fleet.Effect P fleet request (saving {
      userId := userId, vehicleType := vehicleType, licensePlate := licensePlate }) :=
    .register registers (absent (Bool.eq_false_of_not_eq_true isAbsent)) rfl
  apply (driverRepositorySave_solo ?_ ?_).returning
  · intro _ after afterEq
    exact ⟨_, effect, afterEq⟩
  · intro _ _
    exact Or.inl rfl
  · intro fails _
    exact effect.torn (driver_begins_saving _) fails

theorem goOnline_solo {userId : String} {lat lng : Float64} :
    FleetSolo P failing pid fleet (DriverService.goOnline userId lat lng)
      (fun _ => Fleet.Carried P (.goOnline userId lat lng) fleet)
      (fun _ => Fleet.Becomes P (.goOnline userId lat lng) failing fleet) := by
  unfold DriverService.goOnline DriverService.markAvailableById
  refine (getProfile_solo fun _ => Or.inl rfl).skip fun _ => ?_
  refine (geoadd_solo fun _ => Or.inl rfl).read fun _ located => ?_
  apply (markById_solo ?_ ?_).returning
  · rintro _ _ ⟨driver, profile, rfl⟩
    exact ⟨_, .goOnline located profile, rfl⟩
  · intro _ _
    exact Or.inl rfl
  · intro fails driver done profile begun _
    exact Fleet.Effect.torn (.goOnline located profile) begun fails

theorem goOffline_solo {userId : String} :
    FleetSolo P failing pid fleet (DriverService.goOffline userId)
      (fun _ => Fleet.Carried P (.goOffline userId) fleet)
      (fun _ => Fleet.Becomes P (.goOffline userId) failing fleet) := by
  unfold DriverService.goOffline DriverService.markUnavailableById
  refine (getProfile_solo fun _ => Or.inl rfl).skip fun _ => ?_
  refine (unseen_solo rfl fun _ => Or.inl rfl).skip fun _ => ?_
  refine (markById_solo ?_ ?_).bind ?_
  · intro _ _
    exact Or.inl rfl
  · intro fails driver done profile begun _
    exact Fleet.Effect.torn (.goOffline profile) begun fails
  · rintro saved _ ⟨driver, profile, rfl⟩
    have carried : Fleet.Carried P (.goOffline userId) fleet
        (fleet.writeAll (saving { driver with isAvailable := false })) :=
      ⟨_, .goOffline profile, rfl⟩
    exact (unseen_solo rfl fun _ => carried.becomes).skip fun _ => solo_pure carried

theorem updateLocation_solo {userId : String} {lat lng : Float64}
    (raised : ∀ failure, raises failure fleet) :
    FleetSolo P failing pid fleet (DriverService.updateLocation P userId lat lng)
      (fun _ after => after = fleet) raises := by
  unfold DriverService.updateLocation
  refine (getProfile_solo raised).skip fun _ => ?_
  refine (unseen_solo rfl raised).skip fun _ => ?_
  refine (unseen_solo rfl raised).skip fun found => ?_
  cases found with
  | none => exact solo_pure rfl
  | some ride =>
      refine (compute_solo raised).skip fun distanceKm => ?_
      refine (compute_solo raised).skip fun eta => ?_
      exact unseen_solo rfl raised

/-! ## `services/ride.py` -/

theorem getRide_solo {rideId : String} (raised : ∀ failure, raises failure fleet) :
    FleetSolo P failing pid fleet (RideService.getRide rideId)
      (fun ride after => after = fleet ∧ fleet.rides.find rideId = some ride)
      raises := by
  unfold RideService.getRide
  refine (rideFindById_solo raised).read fun found foundEq => ?_
  cases found with
  | none => exact reject_solo raised
  | some ride => exact solo_pure ⟨rfl, foundEq.symm⟩

theorem requestRide_solo {newId : String} {now : Timestamp} {riderId : String}
    {pickupLat pickupLng dropoffLat dropoffLng : Float64} {request : Request}
    (requestEq : request = .requestRide newId now riderId pickupLat pickupLng
      dropoffLat dropoffLng) :
    FleetSolo P failing pid fleet
      (RideService.requestRide P newId now riderId pickupLat pickupLng dropoffLat
        dropoffLng)
      (fun _ => Fleet.Carried P request fleet)
      (fun _ => Fleet.Becomes P request failing fleet) := by
  unfold RideService.requestRide
  simp only [reject_bind]
  refine (unseen_solo rfl fun _ => Or.inl rfl).skip fun active => ?_
  refine guard_solo (fun _ => Or.inl rfl) fun _ => ?_
  refine (calculateFare_solo fun _ => Or.inl rfl).skip fun estimatedFare => ?_
  refine (rideSave_solo fun _ _ => Or.inl rfl).bind ?_
  rintro saved after afterEq
  have carried : Fleet.Carried P request fleet after := by
    have inserted : request.requested estimatedFare = some {
        riderId := riderId, pickupLat := pickupLat, pickupLng := pickupLng,
        dropoffLat := dropoffLat, dropoffLng := dropoffLng, id := newId,
        estimatedFare := some estimatedFare, requestedAt := now } := by
      rw [requestEq]
      rfl
    exact ⟨_, .request inserted, afterEq⟩
  exact (unseen_solo rfl fun _ => carried.becomes).skip fun _ => solo_pure carried

theorem startRide_solo {rideId driverId : String} :
    FleetSolo P failing pid fleet (RideService.startRide rideId driverId)
      (fun _ => Fleet.Carried P (.startRide rideId driverId) fleet)
      (fun _ => Fleet.Becomes P (.startRide rideId driverId) failing fleet) := by
  unfold RideService.startRide
  simp only [reject_bind]
  refine (getRide_solo fun _ => Or.inl rfl).read fun ride found => ?_
  refine guard_solo (fun _ => Or.inl rfl) fun matched => ?_
  refine guard_solo (fun _ => Or.inl rfl) fun assigned => ?_
  have moves : Moves (.startRide rideId driverId) ride { ride with
      status := .inProgress, version := ride.version + 1 } :=
    .start (not_not.mp matched) (not_not.mp assigned)
  have saves : FleetSolo P failing pid fleet
      (call (.rideSave { ride with
        status := .inProgress, version := ride.version + 1 }))
      (fun _ after => after = fleet.write (.ride { ride with
        status := .inProgress, version := ride.version + 1 }))
      (fun _ => Fleet.Becomes P (.startRide rideId driverId) failing fleet) :=
    rideSave_solo fun _ _ => Or.inl rfl
  apply saves.returning
  · intro _ after afterEq
    exact ⟨_, .start found moves, afterEq⟩

theorem completeRide_solo {rideId driverId : String} {now : Timestamp} :
    FleetSolo P failing pid fleet (RideService.completeRide rideId driverId now)
      (fun _ => Fleet.Carried P (.completeRide rideId driverId now) fleet)
      (fun _ => Fleet.Becomes P (.completeRide rideId driverId now) failing fleet) := by
  unfold RideService.completeRide DriverService.markAvailableById
  simp only [reject_bind]
  refine (getRide_solo fun _ => Or.inl rfl).read fun ride found => ?_
  refine guard_solo (fun _ => Or.inl rfl) fun inProgress => ?_
  refine guard_solo (fun _ => Or.inl rfl) fun assigned => ?_
  have moves : Moves (.completeRide rideId driverId now) ride { ride with
      status := .completed, fare := ride.estimatedFare, completedAt := some now,
      version := ride.version + 1 } :=
    .complete (not_not.mp inProgress) (not_not.mp assigned)
  refine (rideSave_solo fun _ _ => Or.inl rfl).bind ?_
  rintro saved _ rfl
  refine (markById_solo ?_ ?_).bind ?_
  · intro absent _
    exact Fleet.Carried.becomes ⟨_, .completeAlone found moves absent, rfl⟩
  · intro fails driver done profile begun _
    exact Fleet.Effect.torn (.complete found moves profile)
      ((List.prefix_cons_inj _).mpr begun) fails
  · rintro marked after ⟨driver, profile, afterEq⟩
    have carried : Fleet.Carried P (.completeRide rideId driverId now) fleet after :=
      ⟨_, .complete found moves profile, afterEq⟩
    exact (unseen_solo rfl fun _ => carried.becomes).skip fun _ => solo_pure carried

theorem cancelRide_solo {rideId userId : String} :
    FleetSolo P failing pid fleet (RideService.cancelRide rideId userId)
      (fun _ => Fleet.Carried P (.cancelRide rideId userId) fleet)
      (fun _ => Fleet.Becomes P (.cancelRide rideId userId) failing fleet) := by
  unfold RideService.cancelRide DriverService.markAvailableById
  simp only [reject_bind]
  refine (getRide_solo fun _ => Or.inl rfl).read fun ride found => ?_
  refine guard_solo (fun _ => Or.inl rfl) fun cancellable => ?_
  refine guard_solo (fun _ => Or.inl rfl) fun participant => ?_
  have moves : Moves (.cancelRide rideId userId) ride { ride with
      status := .cancelled, version := ride.version + 1 } := by
    refine .cancel (not_or.mp cancellable) ?_
    rw [not_and_or, not_not, not_not] at participant
    exact participant
  split
  · rename_i unassigned
    refine (rideSave_solo fun _ _ => Or.inl rfl).bind ?_
    rintro saved after afterEq
    have carried : Fleet.Carried P (.cancelRide rideId userId) fleet after :=
      ⟨_, .cancelAlone found moves unassigned, afterEq⟩
    exact (unseen_solo rfl fun _ => carried.becomes).skip fun _ => solo_pure carried
  · rename_i driverId assigned
    refine (markById_solo ?_ ?_).bind ?_
    · intro _ _
      exact Or.inl rfl
    · intro fails driver done profile begun _
      exact Fleet.Effect.torn (.cancel found moves assigned profile)
        (begun.trans (List.prefix_append _ _)) fails
    rintro marked _ ⟨driver, profile, rfl⟩
    have effect := Fleet.Effect.cancel (P := P) found moves assigned profile
    refine (rideSave_solo ?_).bind ?_
    · intro fails _
      exact effect.torn (List.prefix_append _ _) fails
    · rintro saved after afterEq
      have carried : Fleet.Carried P (.cancelRide rideId userId) fleet after :=
        ⟨_, effect, afterEq⟩
      exact (unseen_solo rfl fun _ => carried.becomes).skip fun _ => solo_pure carried

/-- The part of `accept_ride` that runs under the lock. -/
theorem acceptLocked_solo {rideId driverId : String} :
    FleetSolo P failing pid fleet
      (do
        let ride ← RideService.getRide rideId
        if ride.status ≠ .requested then
          reject 409 "Ride is not available for acceptance"
        match ← call (.driverFindById driverId) with
        | none => reject 403 "No driver profile found — register as a driver first"
        | some driver =>
            if ¬ driver.isAvailable then
              reject 409 "Driver is not currently available"
            let _ ← DriverService.markUnavailableById driverId
            let saved ← call (.rideSave { ride with
              driverId := some driverId, status := .matched,
              version := ride.version + 1 })
            call (.publish .rideAccepted saved.id)
            return saved)
      (fun _ => Fleet.Carried P (.acceptRide rideId driverId) fleet)
      (fun _ => Fleet.Becomes P (.acceptRide rideId driverId) failing fleet) := by
  unfold DriverService.markUnavailableById
  simp only [reject_bind]
  refine (getRide_solo fun _ => Or.inl rfl).read fun ride found => ?_
  refine guard_solo (fun _ => Or.inl rfl) fun requested => ?_
  have moves : Moves (.acceptRide rideId driverId) ride { ride with
      driverId := some driverId, status := .matched, version := ride.version + 1 } :=
    .accept (not_not.mp requested)
  refine (driverFindById_solo fun _ _ => Or.inl rfl).read fun profile? profileEq => ?_
  cases profile? with
  | none => exact reject_solo fun _ => Or.inl rfl
  | some driver =>
      refine guard_solo (fun _ => Or.inl rfl) fun available => ?_
      have free : driver.isAvailable = true := not_not.mp available
      have effect : Fleet.Effect P fleet (.acceptRide rideId driverId)
          (saving { driver with isAvailable := false } ++ [.ride { ride with
            driverId := some driverId, status := .matched,
            version := ride.version + 1 }]) :=
        .accept found moves profileEq.symm free
      refine (markById_solo ?_ ?_).bind ?_
      · intro _ _
        exact Or.inl rfl
      · intro fails other done profile begun _
        rw [← profileEq] at profile
        cases profile
        exact effect.torn (begun.trans (List.prefix_append _ _)) fails
      rintro marked _ ⟨other, profile, rfl⟩
      rw [← profileEq] at profile
      cases profile
      refine (rideSave_solo ?_).bind ?_
      · intro fails _
        exact effect.torn (List.prefix_append _ _) fails
      · rintro saved after afterEq
        have carried : Fleet.Carried P (.acceptRide rideId driverId) fleet after :=
          ⟨_, effect, afterEq⟩
        exact (unseen_solo rfl fun _ => carried.becomes).skip fun _ => solo_pure carried

theorem acceptRide_solo {rideId driverId : String} :
    FleetSolo P failing pid fleet (RideService.acceptRide rideId driverId)
      (fun _ => Fleet.Carried P (.acceptRide rideId driverId) fleet)
      (fun _ => Fleet.Becomes P (.acceptRide rideId driverId) failing fleet) := by
  unfold RideService.acceptRide RideService.withAcceptLock
  refine lockAcquire_solo.bind ?_
  rintro _ _ ⟨free, rfl⟩
  refine solo_ensuring acceptLocked_solo ?_ ?_
  · intro saved after carried
    apply lockRelease_solo.returning
    · rintro _ _ rfl
      exact carried.released free
  · intro failure after becomes
    apply lockRelease_solo.returning
    · rintro _ _ rfl
      exact becomes.released free

/-! ## `services/rating.py` -/

theorem ratedUser_solo {ride : Ride} {fromUserId : String}
    (raised : ∀ failure, raises failure fleet) :
    FleetSolo P failing pid fleet (RatingService.ratedUser ride fromUserId)
      (fun _ after => after = fleet) raises := by
  unfold RatingService.ratedUser
  apply solo_ite
  · intro _
    split
    · exact reject_solo raised
    · exact solo_pure rfl
  · intro _
    apply solo_ite
    · intro _
      exact solo_pure rfl
    · intro _
      exact reject_solo raised

/-- The update of the rated user's counters touches no driver. -/
theorem rateUser_solo {toUserId : String} {score : Int} {property : Fleet → Prop}
    (holds : property fleet) :
    FleetSolo P failing pid fleet
      (RatingService.countUser toUserId score)
      (fun _ => property) (fun _ => property) := by
  refine (unseen_solo rfl fun _ => holds).skip fun found => ?_
  cases found with
  | none => exact solo_pure holds
  | some user => exact (unseen_solo rfl fun _ => holds).skip fun _ => solo_pure holds

theorem rate_solo {rideId fromUserId : String} {score : Int}
    {comment : Option String} {newId : String} {now : Timestamp} :
    FleetSolo P failing pid fleet
      (RatingService.rate rideId fromUserId score comment newId now)
      (fun _ => Fleet.Becomes P (.rate rideId fromUserId score comment newId now)
        failing fleet)
      (fun _ => Fleet.Becomes P (.rate rideId fromUserId score comment newId now)
        failing fleet) := by
  unfold RatingService.rate
  simp only [reject_bind]
  refine guard_solo (fun _ => Or.inl rfl) fun _ => ?_
  refine (getRide_solo fun _ => Or.inl rfl).read fun ride _ => ?_
  refine guard_solo (fun _ => Or.inl rfl) fun _ => ?_
  refine (ratedUser_solo fun _ => Or.inl rfl).skip fun toUserId => ?_
  refine (unseen_solo rfl fun _ => Or.inl rfl).skip fun already => ?_
  refine guard_solo (fun _ => Or.inl rfl) fun _ => ?_
  refine (unseen_solo rfl fun _ => Or.inl rfl).skip fun _ => ?_
  refine (driverFindById_solo fun _ _ => Or.inl rfl).read fun found foundEq => ?_
  cases found with
  | none => exact rateUser_solo (Or.inl rfl)
  | some driver =>
      have profile : fleet.drivers.find toUserId = some driver := foundEq.symm
      have effect : Fleet.Effect P fleet
          (.rate rideId fromUserId score comment newId now)
          (saving { driver with
            avgRating := some (RatingService.roundTo2
              (RatingService.incrementalAvg driver.avgRating driver.ratingCount score))
            ratingCount := driver.ratingCount + 1 }) :=
        .rate profile rfl rfl
      refine (driverRepositorySave_solo ?_ ?_).bind ?_
      · intro _ _
        exact Or.inl rfl
      · intro fails _
        exact effect.torn (driver_begins_saving _) fails
      · rintro saved after afterEq
        exact rateUser_solo (Fleet.Carried.becomes ⟨_, effect, afterEq⟩)

/-! ## Accounts -/

theorem authRegister_solo {clientIp username password newId salt : String}
    (raised : ∀ failure, raises failure fleet) :
    FleetSolo P failing pid fleet
      (Auth.register P clientIp username password newId salt)
      (fun _ after => after = fleet) raises := by
  unfold Auth.register Auth.attemptAllowed
  simp only [reject_bind]
  refine (unseen_solo rfl raised).skip fun allowed => ?_
  refine guard_solo raised fun _ => ?_
  refine (unseen_solo rfl raised).skip fun present => ?_
  refine guard_solo raised fun _ => ?_
  exact (unseen_solo rfl raised).skip fun _ => solo_pure rfl

theorem login_solo {clientIp username password : String}
    (raised : ∀ failure, raises failure fleet) :
    FleetSolo P failing pid fleet (Auth.login P clientIp username password)
      (fun _ after => after = fleet) raises := by
  unfold Auth.login Auth.attemptAllowed
  simp only [reject_bind]
  refine (unseen_solo rfl raised).skip fun allowed => ?_
  refine guard_solo raised fun _ => ?_
  refine (unseen_solo rfl raised).skip fun found => ?_
  cases found with
  | none => exact reject_solo raised
  | some user =>
      refine guard_solo raised fun _ => ?_
      exact solo_pure rfl

theorem switchMode_solo {username mode : String}
    (raised : ∀ failure, raises failure fleet) :
    FleetSolo P failing pid fleet (Auth.switchMode username mode)
      (fun _ after => after = fleet) raises := by
  unfold Auth.switchMode
  split
  · exact reject_solo raised
  · exact solo_pure rfl
  · refine (unseen_solo rfl raised).skip fun found => ?_
    cases found with
    | none => exact reject_solo raised
    | some user =>
        simp only [reject_bind]
        refine guard_solo raised fun _ => ?_
        exact solo_pure rfl

theorem resolveCurrentUser_solo {username : String}
    (raised : ∀ failure, raises failure fleet) :
    FleetSolo P failing pid fleet (Auth.resolveCurrentUser username)
      (fun _ after => after = fleet) raises := by
  unfold Auth.resolveCurrentUser
  refine (unseen_solo rfl raised).skip fun found => ?_
  cases found with
  | none => exact reject_solo raised
  | some user => exact solo_pure rfl

theorem registerAsDriver_solo {username vehicleType licensePlate : String} :
    FleetSolo P failing pid fleet
      (Auth.registerAsDriver username vehicleType licensePlate)
      (fun _ => Fleet.Carried P (.driverRegister username vehicleType licensePlate)
        fleet)
      (fun _ => Fleet.Becomes P (.driverRegister username vehicleType licensePlate)
        failing fleet) := by
  unfold Auth.registerAsDriver
  refine (resolveCurrentUser_solo fun _ => Or.inl rfl).skip fun user => ?_
  refine (registerDriver_solo rfl).bind fun driver after carried => ?_
  exact (unseen_solo rfl fun _ => carried.becomes).skip fun _ => solo_pure carried

/-! ## All requests -/

/-- Every request served on its own makes its writes, in order, and leaves none
out unless a call has failed. -/
theorem handler_solo (request : Request) :
    FleetSolo P failing pid fleet (handler P request)
      (fun _ => Fleet.Becomes P request failing fleet)
      (fun _ => Fleet.Becomes P request failing fleet) := by
  have same : ∀ {α : Type} {action : Service α} {respond : α → Response},
      FleetSolo P failing pid fleet action (fun _ after => after = fleet)
        (fun _ => Fleet.Becomes P request failing fleet) →
      FleetSolo P failing pid fleet (do return respond (← action))
        (fun _ => Fleet.Becomes P request failing fleet)
        (fun _ => Fleet.Becomes P request failing fleet) :=
    fun solo => solo.skip fun _ => solo_pure (Or.inl rfl)
  have writes : ∀ {α : Type} {action : Service α} {respond : α → Response},
      FleetSolo P failing pid fleet action
        (fun _ => Fleet.Carried P request fleet)
        (fun _ => Fleet.Becomes P request failing fleet) →
      FleetSolo P failing pid fleet (do return respond (← action))
        (fun _ => Fleet.Becomes P request failing fleet)
        (fun _ => Fleet.Becomes P request failing fleet) :=
    fun solo => solo.bind fun _ _ carried => solo_pure carried.becomes
  cases request with
  | requestRide newId now riderId pickupLat pickupLng dropoffLat dropoffLng =>
      exact writes (requestRide_solo rfl)
  | acceptRide rideId driverId => exact writes acceptRide_solo
  | startRide rideId driverId => exact writes startRide_solo
  | completeRide rideId driverId now => exact writes completeRide_solo
  | cancelRide rideId userId => exact writes cancelRide_solo
  | registerDriver userId vehicleType licensePlate =>
      exact writes (registerDriver_solo rfl)
  | goOnline userId lat lng => exact writes goOnline_solo
  | goOffline userId => exact writes goOffline_solo
  | updateLocation userId lat lng =>
      exact (updateLocation_solo fun _ => Or.inl rfl).skip
        fun _ => solo_pure (Or.inl rfl)
  | rate rideId fromUserId score comment newId now =>
      exact rate_solo.bind fun _ _ becomes => solo_pure becomes
  | authRegister clientIp username password newId salt =>
      exact same (authRegister_solo fun _ => Or.inl rfl)
  | login clientIp username password => exact same (login_solo fun _ => Or.inl rfl)
  | switchMode username mode => exact same (switchMode_solo fun _ => Or.inl rfl)
  | driverRegister username vehicleType licensePlate =>
      exact registerAsDriver_solo.bind fun _ _ carried => solo_pure carried.becomes

/-! ## Turns -/

abbrev ApplicationTurn := Turn Fault Request Nat

variable {pool next : ApplicationPool} {turn : ApplicationTurn}

/-- A turn does to the fleet what the fleet prescribes for its request. -/
theorem becomes_of_serve (served : (application P).serve pool turn = some next) :
    Fleet.Becomes P turn.request (!turn.unbroken) pool.world.state.fleet
      next.world.state.fleet := by
  obtain ⟨outcome, _, ends⟩ := alone_of_serve (fun _ _ => rfl) served
    fun _ => handler_solo turn.request
  cases outcome with
  | ok response => exact ends
  | error failure => exact ends

end RideHailing
