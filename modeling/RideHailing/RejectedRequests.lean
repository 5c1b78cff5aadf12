import RideHailing.TerminalRides

/-!
# Rejected requests

An HTTP error raised by a service says that nothing has happened.  Most services
raise theirs before their first write; a rejection that stands after a write, the
404 of `mark_available_by_id`, cannot be raised there when requests are served one
at a time, because the driver of a ride has a profile.
-/

namespace RideHailing

open Service

/-- An HTTP error has left the store as it was. -/
def Spares (seen : Store) (failure : Failure) (after : Store) : Prop :=
  ∀ status detail, failure = .http status detail → after = seen

/-- The failure is not an HTTP error. -/
def Unrejected (failure : Failure) (_ : Store) : Prop :=
  ∀ status detail, failure ≠ .http status detail

theorem Unrejected.spares {seen : Store} (failure : Failure) (after : Store)
    (unrejected : Unrejected failure after) : Spares seen failure after :=
  fun status detail isHttp => absurd isHttp (unrejected status detail)

/-- The service may write, and raises no HTTP error. -/
abbrev Proceeds (P : Platform) (pid : Nat) {α : Type} (seen : Store)
    (action : Service α) : Prop :=
  StillSolo P pid seen action (fun _ _ => True) Unrejected

variable {P : Platform} {pid : Nat} {seen : Store}

/-! ## Calls -/

/-- No call raises an HTTP error, and what is true of the store after the call
holds when the service goes on. -/
theorem still_keeps {awaited : Call} {kept : Store → Prop}
    (keeps : ∀ state reply after, state.still = seen →
      P.perform pid awaited state = some (reply, after) → kept after.still) :
    StillSolo P pid seen (call awaited) (fun _ after => kept after) Unrejected := by
  apply still_call
  intro state reply after looks performed
  have holds := keeps state reply after looks performed
  cases reply with
  | ok result => exact holds
  | error fault =>
      intro status detail isHttp
      cases isHttp

theorem call_proceeds (awaited : Call) : Proceeds P pid seen (call awaited) :=
  still_keeps fun _ _ _ _ _ => trivial

/-- A call that does not write what the fleet shows keeps the drivers. -/
theorem unseen_keeps_drivers {awaited : Call} (unseen : awaited.unseen = true) :
    StillSolo P pid seen (call awaited)
      (fun _ after => after.drivers = seen.drivers) Unrejected := by
  apply still_keeps
  intro state reply after looks performed
  have same := fleet_of_unseen unseen performed
  rw [← looks]
  exact (congrArg Fleet.drivers same :)

theorem rideSave_keeps_drivers (ride : Ride) :
    StillSolo P pid seen (call (.rideSave ride))
      (fun _ after => after.drivers = seen.drivers) Unrejected := by
  apply still_keeps
  intro state reply after looks performed
  cases performed
  rw [← looks]
  rfl

/-! ## Services that go on -/

section Proceeding

variable {α β : Type}

/-- One part after the other, whatever the first one has written. -/
theorem proceeds_bind {action : Service α} {next : α → Service β}
    (first : Proceeds P pid seen action)
    (second : ∀ result after, Proceeds P pid after (next result)) :
    Proceeds P pid seen (action >>= next) :=
  first.bind fun result after _ => second result after

theorem pure_proceeds (result : α) : Proceeds P pid seen (pure result) :=
  solo_pure trivial

theorem compute_proceeds (computed : Except String α) :
    Proceeds P pid seen (compute computed) := by
  cases computed with
  | ok value => exact solo_pure trivial
  | error name =>
      apply solo_raise
      intro status detail isHttp
      cases isHttp

theorem decimal_proceeds (computed : Option Decimal) :
    Proceeds P pid seen (decimal computed) := by
  cases computed with
  | some value => exact solo_pure trivial
  | none =>
      apply solo_raise
      intro status detail isHttp
      cases isHttp

theorem save_proceeds (driver : Driver) :
    Proceeds P pid seen (DriverRepository.save driver) := by
  unfold DriverRepository.save
  apply proceeds_bind (call_proceeds _)
  intro saved after
  split
  · exact proceeds_bind (call_proceeds _) fun _ _ => pure_proceeds _
  · exact proceeds_bind (call_proceeds _) fun _ _ => pure_proceeds _

/-- The 404 of `mark_available_by_id` is not raised for a driver with a profile. -/
theorem markById_proceeds {driver : Driver} {userId : String}
    (profile : seen.drivers.find userId = some driver) (isAvailable : Bool) :
    Proceeds P pid seen (DriverService.markById isAvailable userId) := by
  have reads : StillSolo P pid seen (call (.driverFindById userId))
      (fun found after => after = seen ∧ found = some driver) Unrejected := by
    apply still_reads
    rintro state rfl
    have stored : state.drivers.find userId = some driver := profile
    rw [← stored]
    rfl
  unfold DriverService.markById
  refine reads.read ?_
  rintro _ rfl
  exact save_proceeds _

theorem findNearbyAvailableDrivers_proceeds (lat lng radiusKm : Float64) :
    Proceeds P pid seen (findNearbyAvailableDrivers lat lng radiusKm) := by
  unfold findNearbyAvailableDrivers
  apply proceeds_bind (call_proceeds _)
  intro results after
  split
  · exact pure_proceeds _
  · exact proceeds_bind (call_proceeds _) fun _ _ => pure_proceeds _

theorem getSurgeMultiplier_proceeds (lat lng : Float64)
    (pendingRides availableDrivers : Nat) :
    Proceeds P pid seen
      (PricingService.getSurgeMultiplier lat lng pendingRides availableDrivers) := by
  unfold PricingService.getSurgeMultiplier
  apply proceeds_bind (call_proceeds _)
  intro cached after
  cases cached with
  | some multiplier => exact pure_proceeds _
  | none =>
      apply proceeds_bind (decimal_proceeds _)
      intro multiplier after
      exact proceeds_bind (call_proceeds _) fun _ _ => pure_proceeds _

theorem calculateFare_proceeds (ride : Ride) :
    Proceeds P pid seen (RideService.calculateFare P ride) := by
  unfold RideService.calculateFare PricingService.getFareQuote
  apply proceeds_bind (call_proceeds _)
  intro pendingRides after
  apply proceeds_bind (findNearbyAvailableDrivers_proceeds _ _ _)
  intro nearby after
  apply proceeds_bind ?_ fun _ _ => pure_proceeds _
  apply proceeds_bind (compute_proceeds _)
  intro distanceKm after
  apply proceeds_bind (getSurgeMultiplier_proceeds _ _ _ _)
  intro surge after
  exact proceeds_bind (decimal_proceeds _) fun _ _ => pure_proceeds _

/-- A service that goes on has spared the store so far. -/
theorem spares_of_proceeds {action : Service α} (proceeds : Proceeds P pid seen action)
    (start : Store) : StillSolo P pid seen action (fun _ _ => True) (Spares start) :=
  proceeds.weaken (fun _ _ _ => trivial) Unrejected.spares

end Proceeding

/-! ## Services that may reject -/

/-- The service raises its HTTP errors before it has written anything. -/
abbrev RejectsFirst (P : Platform) (pid : Nat) {α : Type} (seen : Store)
    (action : Service α) : Prop :=
  StillSolo P pid seen action (fun _ _ => True) (Spares seen)

section Rejecting

variable {α β : Type}

theorem reject_spares (status : Nat) (detail : String) :
    RejectsFirst P pid seen (reject status detail : Service α) := by
  apply solo_raise
  intro _ _ _
  rfl

/-- A guard rejects, or lets the service go on. -/
theorem guard_spares {condition : Prop} [Decidable condition] {status : Nat}
    {detail : String} {next : Service α}
    (goesOn : ¬ condition → RejectsFirst P pid seen next) :
    RejectsFirst P pid seen (if condition then reject status detail else next) := by
  split
  · exact reject_spares status detail
  · exact goesOn ‹_›

theorem getRide_spares (rideId : String) :
    StillSolo P pid seen (RideService.getRide rideId)
      (fun ride after => after = seen ∧ seen.rides.find rideId = some ride)
      (Spares seen) := by
  have reads : StillSolo P pid seen (call (.rideFindById rideId))
      (fun found after => after = seen ∧ found = seen.rides.find rideId)
      (Spares seen) := by
    apply still_reads
    rintro state rfl
    rfl
  unfold RideService.getRide
  refine reads.read fun found looked => ?_
  cases found with
  | none =>
      apply solo_raise
      intro _ _ _
      rfl
  | some ride => exact solo_pure ⟨rfl, looked.symm⟩

theorem getProfile_spares (userId : String) :
    StillSolo P pid seen (DriverService.getProfile userId)
      (fun driver after => after = seen ∧ seen.drivers.find userId = some driver)
      (Spares seen) := by
  have reads : StillSolo P pid seen (call (.driverFindById userId))
      (fun found after => after = seen ∧ found = seen.drivers.find userId)
      (Spares seen) := by
    apply still_reads
    rintro state rfl
    rfl
  unfold DriverService.getProfile
  refine reads.read fun found looked => ?_
  cases found with
  | none =>
      apply solo_raise
      intro _ _ _
      rfl
  | some driver => exact solo_pure ⟨rfl, looked.symm⟩

theorem requestRide_spares (newId : String) (now : Timestamp) (riderId : String)
    (pickupLat pickupLng dropoffLat dropoffLng : Float64) :
    RejectsFirst P pid seen (RideService.requestRide P newId now riderId pickupLat
      pickupLng dropoffLat dropoffLng) := by
  have reads : StillSolo P pid seen
      (call (.rideExistsByRiderIdAndStatusIn riderId activeRideStatuses))
      (fun found after => after = seen ∧
        found = seen.existsByRiderIdAndStatusIn riderId activeRideStatuses)
      (Spares seen) := by
    apply still_reads
    rintro state rfl
    rfl
  unfold RideService.requestRide
  simp only [reject_bind]
  refine reads.read fun active _ => guard_spares fun _ => ?_
  apply spares_of_proceeds
  apply proceeds_bind (calculateFare_proceeds _)
  intro estimatedFare after
  apply proceeds_bind (call_proceeds _)
  intro saved after
  exact proceeds_bind (call_proceeds _) fun _ _ => pure_proceeds _

theorem startRide_spares (rideId driverId : String) :
    RejectsFirst P pid seen (RideService.startRide rideId driverId) := by
  unfold RideService.startRide
  simp only [reject_bind]
  refine (getRide_spares rideId).read fun ride _ => ?_
  apply guard_spares
  intro _
  apply guard_spares
  intro _
  exact spares_of_proceeds (call_proceeds _) seen

/-- The lock is released on the way out of a rejection too. -/
theorem withAcceptLock_spares {body : Service α} (free : seen.acceptLock = none)
    (inside : ∀ locked, RejectsFirst P pid locked body) :
    RejectsFirst P pid seen (RideService.withAcceptLock body) := by
  unfold RideService.withAcceptLock
  refine lockAcquire_still.bind ?_
  rintro _ _ rfl
  refine solo_ensuring (inside _) ?_ ?_
  · intro result after _
    exact spares_of_proceeds (call_proceeds _) seen
  · intro failure after spares
    cases failure with
    | http status detail =>
        cases spares status detail rfl
        exact (lockRelease_still free).returning fun _ _ restored _ _ _ => restored
    | fault fault =>
        apply (spares_of_proceeds (call_proceeds _) seen).returning
        intro _ _ _ status detail isHttp
        cases isHttp
    | exception name =>
        apply (spares_of_proceeds (call_proceeds _) seen).returning
        intro _ _ _ status detail isHttp
        cases isHttp

theorem driverFindById_spares (userId : String) :
    StillSolo P pid seen (call (.driverFindById userId))
      (fun found after => after = seen ∧ found = seen.drivers.find userId)
      (Spares seen) := by
  apply still_reads
  rintro state rfl
  rfl

theorem acceptRide_spares (free : seen.acceptLock = none) (rideId driverId : String) :
    RejectsFirst P pid seen (RideService.acceptRide rideId driverId) := by
  apply withAcceptLock_spares free
  intro locked
  simp only [reject_bind]
  refine (getRide_spares rideId).read fun ride _ => ?_
  apply guard_spares
  intro _
  refine (driverFindById_spares driverId).read fun found looked => ?_
  cases found with
  | none => exact reject_spares _ _
  | some driver =>
      apply guard_spares
      intro _
      apply spares_of_proceeds
      apply proceeds_bind (markById_proceeds looked.symm false)
      intro marked after
      apply proceeds_bind (call_proceeds _)
      intro saved after
      exact proceeds_bind (call_proceeds _) fun _ _ => pure_proceeds _

/-- The driver of every ride has a profile. -/
def Store.Profiled (store : Store) : Prop :=
  ∀ rideId ride driverId, store.rides.find rideId = some ride →
    ride.driverId = some driverId → ∃ driver, store.drivers.find driverId = some driver

/-- The rest of a completion, once the ride has been checked. -/
theorem completing_proceeds {rideId driverId : String} {ride : Ride}
    (profiled : seen.Profiled) (found : seen.rides.find rideId = some ride)
    (assigned : ride.driverId = some driverId) (completed : Ride) :
    Proceeds P pid seen (do
      let saved ← call (.rideSave completed)
      let _ ← DriverService.markAvailableById driverId
      call (.publish .rideCompleted saved.id)
      return saved) := by
  obtain ⟨driver, profile⟩ := profiled rideId ride driverId found assigned
  refine (rideSave_keeps_drivers _).bind fun saved after kept => ?_
  rw [← kept] at profile
  apply proceeds_bind (markById_proceeds profile true)
  intro marked last
  exact proceeds_bind (call_proceeds _) fun _ _ => pure_proceeds _

theorem completeRide_spares (profiled : seen.Profiled) (rideId driverId : String)
    (now : Timestamp) :
    RejectsFirst P pid seen (RideService.completeRide rideId driverId now) := by
  unfold RideService.completeRide
  simp only [reject_bind]
  refine (getRide_spares rideId).read fun ride found => ?_
  apply guard_spares
  intro _
  apply guard_spares
  intro assigned
  exact spares_of_proceeds (completing_proceeds profiled found (not_not.mp assigned) _)
    seen

theorem cancelRide_spares (profiled : seen.Profiled) (rideId userId : String) :
    RejectsFirst P pid seen (RideService.cancelRide rideId userId) := by
  have moves : ∀ (ride : Ride) after, Proceeds P pid after (do
      let saved ← call (.rideSave ride)
      call (.publish .rideCancelled saved.id)
      return saved) := by
    intro ride after
    apply proceeds_bind (call_proceeds _)
    intro saved last
    exact proceeds_bind (call_proceeds _) fun _ _ => pure_proceeds _
  unfold RideService.cancelRide
  simp only [reject_bind]
  refine (getRide_spares rideId).read fun ride found => ?_
  apply guard_spares
  intro _
  apply guard_spares
  intro _
  apply spares_of_proceeds
  cases assigned : ride.driverId with
  | none => exact moves _ seen
  | some driverId =>
      obtain ⟨driver, profile⟩ := profiled rideId ride driverId found assigned
      apply proceeds_bind (markById_proceeds profile true)
      intro marked after
      exact moves _ after

theorem registerDriver_spares (userId vehicleType licensePlate : String) :
    RejectsFirst P pid seen
      (DriverService.registerDriver userId vehicleType licensePlate) := by
  have reads : StillSolo P pid seen (call (.driverExistsById userId))
      (fun found after => after = seen ∧ found = (seen.drivers.find userId).isSome)
      (Spares seen) := by
    apply still_reads
    rintro state rfl
    rfl
  unfold DriverService.registerDriver
  simp only [reject_bind]
  refine reads.read fun registered _ => guard_spares fun _ => ?_
  exact spares_of_proceeds (save_proceeds _) seen

theorem goOnline_spares (userId : String) (lat lng : Float64) :
    RejectsFirst P pid seen (DriverService.goOnline userId lat lng) := by
  unfold DriverService.goOnline
  refine (getProfile_spares userId).read fun driver profile => ?_
  apply spares_of_proceeds
  refine (unseen_keeps_drivers rfl).bind fun _ after kept => ?_
  rw [← kept] at profile
  exact markById_proceeds profile true

theorem goOffline_spares (userId : String) :
    RejectsFirst P pid seen (DriverService.goOffline userId) := by
  unfold DriverService.goOffline
  refine (getProfile_spares userId).read fun driver profile => ?_
  apply spares_of_proceeds
  refine (unseen_keeps_drivers rfl).bind fun _ after kept => ?_
  rw [← kept] at profile
  apply proceeds_bind (markById_proceeds profile false)
  intro saved last
  exact proceeds_bind (call_proceeds _) fun _ _ => pure_proceeds _

theorem updateLocation_spares (userId : String) (lat lng : Float64) :
    RejectsFirst P pid seen (DriverService.updateLocation P userId lat lng) := by
  unfold DriverService.updateLocation
  refine (getProfile_spares userId).read fun driver _ => ?_
  apply spares_of_proceeds
  apply proceeds_bind (call_proceeds _)
  intro _ after
  apply proceeds_bind (call_proceeds _)
  intro serving last
  cases serving with
  | none => exact pure_proceeds _
  | some ride =>
      apply proceeds_bind (compute_proceeds _)
      intro distanceKm _
      apply proceeds_bind (compute_proceeds _)
      intro eta _
      exact call_proceeds _

theorem ratedUser_spares (ride : Ride) (fromUserId : String) :
    StillSolo P pid seen (RatingService.ratedUser ride fromUserId)
      (fun _ after => after = seen) (Spares seen) := by
  have rejects : ∀ status detail, StillSolo P pid seen
      (reject status detail : Service String) (fun _ after => after = seen)
      (Spares seen) := fun _ _ => solo_raise fun _ _ _ => rfl
  unfold RatingService.ratedUser
  split
  · cases ride.driverId with
    | none => exact rejects _ _
    | some driverId => exact solo_pure rfl
  · split
    · exact solo_pure rfl
    · exact rejects _ _

theorem rate_spares (rideId fromUserId : String) (score : Int)
    (comment : Option String) (newId : String) (now : Timestamp) :
    RejectsFirst P pid seen
      (RatingService.rate rideId fromUserId score comment newId now) := by
  have reads : StillSolo P pid seen
      (call (.ratingExistsByRideIdAndFromUserId rideId fromUserId))
      (fun found after => after = seen ∧ found = (seen.ratings.rows.any fun rating =>
        decide (rating.rideId = rideId) && decide (rating.fromUserId = fromUserId)))
      (Spares seen) := by
    apply still_reads
    rintro state rfl
    rfl
  unfold RatingService.rate
  simp only [reject_bind]
  apply guard_spares
  intro _
  refine (getRide_spares rideId).read fun ride _ => ?_
  apply guard_spares
  intro _
  refine (ratedUser_spares ride fromUserId).skip fun toUserId => ?_
  refine reads.read fun rated _ => guard_spares fun _ => ?_
  apply spares_of_proceeds
  apply proceeds_bind (call_proceeds _)
  intro _ after
  apply proceeds_bind (call_proceeds _)
  intro foundDriver last
  have ratesUser : ∀ (next : Option User → Service Unit) after, next none = pure () →
      (∀ user, ∃ rated, next (some user) = do let _ ← call (.userSave rated)) →
        Proceeds P pid after (call (.userFindById toUserId) >>= next) := by
    intro next after absent saves
    apply proceeds_bind (call_proceeds _)
    intro foundUser last
    cases foundUser with
    | none =>
        rw [absent]
        exact pure_proceeds _
    | some user =>
        obtain ⟨rated, savesRated⟩ := saves user
        rw [savesRated]
        exact proceeds_bind (call_proceeds _) fun _ _ => pure_proceeds _
  cases foundDriver with
  | none => exact ratesUser _ _ rfl fun user => ⟨_, rfl⟩
  | some driver =>
      apply proceeds_bind (save_proceeds _)
      intro saved afterDriver
      exact ratesUser _ _ rfl fun user => ⟨_, rfl⟩

end Rejecting

/-! ## Runs -/

/-- The requests that the ride, driver and rating services answer. -/
def Request.ofService : Request → Bool
  | .authRegister _ _ _ _ _ => false
  | .login _ _ _ => false
  | .switchMode _ _ => false
  | .driverRegister _ _ _ => false
  | _ => true

theorem handler_spares (free : seen.acceptLock = none) (profiled : seen.Profiled)
    {request : Request} (ofService : request.ofService = true) :
    RejectsFirst P pid seen (handler P request) := by
  have responds : ∀ {α : Type} {action : Service α} (respond : α → Response),
      RejectsFirst P pid seen action →
        RejectsFirst P pid seen (do return respond (← action)) :=
    fun respond spares => spares.bind fun _ _ _ => solo_pure trivial
  cases request with
  | requestRide newId now riderId pickupLat pickupLng dropoffLat dropoffLng =>
      exact responds _ (requestRide_spares _ _ _ _ _ _ _)
  | acceptRide rideId driverId => exact responds _ (acceptRide_spares free _ _)
  | startRide rideId driverId => exact responds _ (startRide_spares _ _)
  | completeRide rideId driverId now =>
      exact responds _ (completeRide_spares profiled _ _ _)
  | cancelRide rideId userId => exact responds _ (cancelRide_spares profiled _ _)
  | registerDriver userId vehicleType licensePlate =>
      exact responds _ (registerDriver_spares _ _ _)
  | goOnline userId lat lng => exact responds _ (goOnline_spares _ _ _)
  | goOffline userId => exact responds _ (goOffline_spares _)
  | updateLocation userId lat lng => exact responds _ (updateLocation_spares _ _ _)
  | rate rideId fromUserId score comment newId now =>
      exact responds _ (rate_spares _ _ _ _ _ _)
  | authRegister clientIp username password newId salt => cases ofService
  | login clientIp username password => cases ofService
  | switchMode username mode => cases ofService
  | driverRegister username vehicleType licensePlate => cases ofService

/-- A completion never ends with the rejection of `mark_available_by_id`. -/
theorem completeRide_profiled (profiled : seen.Profiled) (rideId driverId : String)
    (now : Timestamp) :
    StillSolo P pid seen (RideService.completeRide rideId driverId now)
      (fun _ _ => True)
      (fun failure _ => failure ≠ .http 404 "No driver profile found") := by
  have reads : StillSolo P pid seen (call (.rideFindById rideId))
      (fun found after => after = seen ∧ found = seen.rides.find rideId)
      (fun failure _ => failure ≠ .http 404 "No driver profile found") := by
    apply still_reads
    rintro state rfl
    rfl
  unfold RideService.completeRide RideService.getRide
  simp only [reject_bind]
  refine (reads.read fun found looked => ?_ : StillSolo P pid seen _
    (fun ride after => after = seen ∧ seen.rides.find rideId = some ride) _).read
      fun ride found => ?_
  · cases found with
    | none => exact solo_raise (by decide)
    | some ride => exact solo_pure ⟨rfl, looked.symm⟩
  · split
    · exact solo_raise (by decide)
    · split
      · exact solo_raise (by decide)
      · rename_i assigned
        apply (completing_proceeds profiled found (not_not.mp assigned) _).weaken
        · intro _ _ _
          trivial
        · intro failure _ unrejected
          exact unrejected _ _

variable {turns : List ApplicationTurn} {pool next : ApplicationPool}

/-- In every state that requests served one at a time reach from the empty store, a
request that a service rejects changes nothing but the clock; and a completion is
never rejected for want of a driver profile, which it would be after its write. -/
theorem rejected_unchanged {turn : ApplicationTurn}
    (reached : runSteps (application P).serve (Pool.start Store.vacant) turns = some pool)
    (ofService : turn.request.ofService = true) (unbroken : turn.unbroken = true)
    (served : (application P).serve pool turn = some next) :
    (∀ status detail, next.ended? pool.tasks.length =
        some (turn.request, .error (.http status detail)) →
      next.world.state.still = pool.world.state.still) ∧
    ∀ rideId driverId now, turn.request = .completeRide rideId driverId now →
      next.ended? pool.tasks.length ≠
        some (turn.request, .error (.http 404 "No driver profile found")) := by
  have sound : pool.world.state.fleet.Sound := sound_of_serves rfl rfl reached
  have free : pool.world.state.still.acceptLock = none := sound.unlocked
  have profiled : pool.world.state.still.Profiled := sound.profiled
  have endsAs : ∀ {raises : Failure → Store → Prop},
      StillSolo P pool.tasks.length pool.world.state.still (handler P turn.request)
        (fun _ _ => True) raises →
      ∀ failure, next.ended? pool.tasks.length = some (turn.request, .error failure) →
        raises failure next.world.state.still := by
    intro raises solo failure ended
    have holds : (application P).alone Store.still (!turn.unbroken) pool.tasks.length
        (handler P turn.request) (Ends (fun _ _ => True) raises)
        pool.world.state.still := by
      rw [unbroken]
      exact solo
    obtain ⟨outcome, endedAs, ends⟩ := alone_of_serve (fun _ _ => rfl) served fun _ => holds
    rw [ended] at endedAs
    cases endedAs
    exact ends
  constructor
  · intro status detail ended
    have spares : RejectsFirst P pool.tasks.length pool.world.state.still
        (handler P turn.request) := handler_spares free profiled ofService
    exact endsAs spares _ ended status detail rfl
  · intro rideId driverId now isComplete rejected
    have unprofiled : StillSolo P pool.tasks.length pool.world.state.still
        (handler P turn.request) (fun _ _ => True)
        (fun failure _ => failure ≠ .http 404 "No driver profile found") := by
      rw [isComplete]
      exact (completeRide_profiled profiled rideId driverId now).bind fun _ _ _ =>
        solo_pure trivial
    exact endsAs unprofiled _ rejected rfl

namespace SmallCity

/-- A rider signs up and asks for a ride. -/
def firstRide : List ApplicationTurn :=
  [served (.authRegister "127.0.0.1" "ann" "secret" "u1" "salt") 3,
    served (wants "r1" "u1") 7]

/-- A second request for a ride is rejected. -/
theorem secondRide_unchanged :
    ∃ pool next,
      runSteps (application platform).serve (Pool.start Store.vacant) firstRide =
        some pool ∧
      (application platform).serve pool (served (wants "r2" "u1") 1) = some next ∧
      next.ended? pool.tasks.length =
        some (wants "r2" "u1", .error (.http 409 "Rider already has an active ride")) ∧
      next.world.state.still = pool.world.state.still := by
  obtain ⟨pool, ran, checked⟩ := Option.map_eq_some_iff.mp
    (by decide +kernel : (runSteps (application platform).serve (Pool.start Store.vacant)
      firstRide).map (fun pool => decide (∃ next ∈ (application platform).serve pool
        (served (wants "r2" "u1") 1), next.ended? pool.tasks.length =
          some (wants "r2" "u1",
            .error (.http 409 "Rider already has an active ride")))) = some true)
  obtain ⟨next, again, rejected⟩ := of_decide_eq_true checked
  exact ⟨pool, next, ran, again, rejected,
    (rejected_unchanged ran rfl rfl again).1 _ _ rejected⟩

end SmallCity

end RideHailing
