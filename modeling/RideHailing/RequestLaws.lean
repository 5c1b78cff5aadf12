import RideHailing.BackendHistories

/-!
# What each request may write

The law of the common history: which row a request may save, and what it must
have read before.  The row is given as a function of the row that the request
read, which need not be the row it overwrites.
-/

namespace RideHailing

/-! ## What a request has read -/

namespace Call

def readsRide (rideId : String) : Call → Bool
  | .rideFindById sought => decide (sought = rideId)
  | _ => false

def readsDriver (userId : String) : Call → Bool
  | .driverFindById sought => decide (sought = userId)
  | _ => false

/-- A lookup by name may return any user. -/
def readsUser (userId : String) : Call → Bool
  | .userFindById sought => decide (sought = userId)
  | .userFindByUsername _ => true
  | _ => false

end Call

/-- The task reads the ride. -/
def rideReadBy (pid : Nat) (rideId : String) (entry : HistoryEntry) : Bool :=
  entry.call.readsRide rideId && decide (entry.pid = pid)

section Seen

variable (init : Store) (pid : Nat)

/-- The ride as it was stored when the task last read it. -/
def rideSeen (rideId : String) : History → Option Ride :=
  atLast (rideReadBy pid rideId) (storedRide init rideId)

def driverSeen (userId : String) : History → Option Driver :=
  atLast (fun entry => entry.call.readsDriver userId && decide (entry.pid = pid))
    (storedDriver init userId)

def userSeen (userId : String) : History → Option User :=
  atLast (fun entry => entry.call.readsUser userId && decide (entry.pid = pid))
    (storedUser init userId)

end Seen

/-! ## The rows that requests compute -/

namespace Request

/-- The ride that a request moves on. -/
def rideMoved : Request → Option String
  | .acceptRide rideId _ => some rideId
  | .startRide rideId _ => some rideId
  | .completeRide rideId _ _ => some rideId
  | .cancelRide rideId _ => some rideId
  | _ => none

/-- The request inserts a row for a new driver. -/
def registersDriver : Request → Bool
  | .registerDriver _ _ _ => true
  | .driverRegister _ _ _ => true
  | _ => false

def isRate : Request → Bool
  | .rate _ _ _ _ _ _ => true
  | _ => false

/-- The row that a request for a ride inserts, with its estimated fare. -/
def requested (estimatedFare : Decimal) : Request → Option Ride
  | .requestRide newId now riderId pickupLat pickupLng dropoffLat dropoffLng =>
      some {
        riderId := riderId, pickupLat := pickupLat, pickupLng := pickupLng,
        dropoffLat := dropoffLat, dropoffLng := dropoffLng, id := newId,
        estimatedFare := some estimatedFare, requestedAt := now }
  | _ => none

/-- The request accepts this ride. -/
def Accepts (request : Request) (rideId : String) : Prop :=
  ∃ driverId, request = .acceptRide rideId driverId

end Request

/-- The row that a request writes in place of the ride it has read, when that
ride passes its checks. -/
inductive Moves : Request → Ride → Ride → Prop where
  | accept {rideId driverId : String} {ride : Ride}
      (requested : ride.status = .requested) :
      Moves (.acceptRide rideId driverId) ride { ride with
        driverId := some driverId, status := .matched, version := ride.version + 1 }
  | start {rideId driverId : String} {ride : Ride}
      (matched : ride.status = .matched) (assigned : ride.driverId = some driverId) :
      Moves (.startRide rideId driverId) ride { ride with
        status := .inProgress, version := ride.version + 1 }
  | complete {rideId driverId : String} {now : Timestamp} {ride : Ride}
      (inProgress : ride.status = .inProgress)
      (assigned : ride.driverId = some driverId) :
      Moves (.completeRide rideId driverId now) ride { ride with
        status := .completed, fare := ride.estimatedFare, completedAt := some now,
        version := ride.version + 1 }
  | cancel {rideId userId : String} {ride : Ride}
      (cancellable : ride.status ≠ .inProgress ∧ ride.status ≠ .completed)
      (participant : ride.riderId = userId ∨ ride.driverId = some userId) :
      Moves (.cancelRide rideId userId) ride { ride with
        status := .cancelled, version := ride.version + 1 }

theorem Moves.id {request : Request} {before after : Ride}
    (moves : Moves request before after) : after.id = before.id := by
  cases moves <;> rfl

theorem Moves.version {request : Request} {before after : Ride}
    (moves : Moves request before after) : after.version = before.version + 1 := by
  cases moves <;> rfl

theorem Moves.status_ne {request : Request} {before after : Ride}
    (moves : Moves request before after) : after.status ≠ .requested := by
  cases moves <;> simp

/-- Only accepting a ride changes its driver. -/
theorem Moves.driverId {request : Request} {before after : Ride}
    (moves : Moves request before after) :
    after.driverId = before.driverId ∨
      ∃ rideId driverId, request = .acceptRide rideId driverId ∧
        after.driverId = some driverId ∧ before.status = .requested := by
  cases moves with
  | accept requested => exact Or.inr ⟨_, _, rfl, rfl, requested⟩
  | _ => exact Or.inl rfl

theorem requested_eq_some {request : Request} {estimatedFare : Decimal}
    {ride : Ride} (inserts : request.requested estimatedFare = some ride) :
    request.rideMoved = none ∧ ride.status = .requested ∧ ride.driverId = none ∧
      ride.version = 0 ∧ ride.estimatedFare = some estimatedFare := by
  cases request with
  | requestRide newId now riderId pickupLat pickupLng dropoffLat dropoffLng =>
      cases inserts
      exact ⟨rfl, rfl, rfl, rfl, rfl⟩
  | _ => cases inserts

theorem Moves.completes {rideId driverId : String} {now : Timestamp}
    {before after : Ride} (moves : Moves (.completeRide rideId driverId now) before after) :
    before.status = .inProgress ∧ before.driverId = some driverId ∧
      after.status = .completed := by
  cases moves with
  | complete inProgress assigned => exact ⟨inProgress, assigned, rfl⟩

theorem Moves.cancels {rideId userId : String} {before after : Ride}
    (moves : Moves (.cancelRide rideId userId) before after) :
    (before.status ≠ .inProgress ∧ before.status ≠ .completed) ∧
      (before.riderId = userId ∨ before.driverId = some userId) ∧
        after.status = .cancelled := by
  cases moves with
  | cancel cancellable participant => exact ⟨cancellable, participant, rfl⟩

/-! ## Facts about histories that the laws mention -/

section Facts

variable (init : Store)

/-- The ride has been accepted, or was past that from the start. -/
def Taken (rideId : String) (log : History) : Prop :=
  (∃ ride, init.rides.find rideId = some ride ∧ ride.status ≠ .requested) ∨
    ∃ entry ∈ log, entry.request.Accepts rideId ∧ entry.savedRide ≠ none

/-- The entry gives the driver this availability. -/
def Marks (userId : String) (available : Bool) (entry : HistoryEntry) : Prop :=
  ∃ driver, entry.driverAt userId = some driver ∧ driver.isAvailable = available

instance {userId : String} {available : Bool} {entry : HistoryEntry} :
    Decidable (Marks userId available entry) :=
  inferInstanceAs (Decidable (∃ driver ∈ entry.driverAt userId, driver.isAvailable = available))

/-- The entry is the write by which an accepted ride takes the driver. -/
def Takes (driverId : String) (entry : HistoryEntry) : Prop :=
  (∃ rideId, entry.request = .acceptRide rideId driverId) ∧
    Marks driverId false entry

/-- Since a ride last took the driver, the driver has been made available. -/
def Rearmed (driverId : String) (log : History) : Prop :=
  ∀ newer take older, log = newer ++ take :: older → Takes driverId take →
    ∃ entry ∈ newer, Marks driverId true entry

/-- The request that wrote the driver's row last. -/
def driverWriter (userId : String) : History → Option Request :=
  latest (fun entry => (entry.driverAt userId).map fun _ => entry.request) none

/-- The driver's row was last written by a request that accepts this ride. -/
def HeldBy (rideId userId : String) (log : History) : Prop :=
  ∃ request, driverWriter userId log = some request ∧ request.Accepts rideId

/-- Rides that nobody has accepted yet have no driver. -/
def Store.DriverlessRequests : Prop :=
  ∀ rideId ride, init.rides.find rideId = some ride → ride.status = .requested →
    ride.driverId = none

/-- None of the task's entries saves such a row. -/
def NoneOwn (pid : Nat) (saved : HistoryEntry → Bool) (log : History) : Prop :=
  ∀ entry ∈ log, entry.pid = pid → saved entry = false

def savesRide (entry : HistoryEntry) : Bool :=
  entry.savedRide.isSome

def savesDriver (entry : HistoryEntry) : Bool :=
  entry.savedDriver.isSome

def savesUser (entry : HistoryEntry) : Bool :=
  entry.savedUser.isSome

def savesRating (entry : HistoryEntry) : Bool :=
  entry.savedRating.isSome

/-- The task has committed a row for this ride. -/
def Committed (pid : Nat) (rideId : String) (log : History) : Prop :=
  ∃ entry ∈ log, entry.pid = pid ∧ ∃ ride, entry.rideAt rideId = some ride

end Facts

/-! ## The laws -/

section Laws

variable (init : Store) (pid : Nat) (request : Request) (log : History)

/-- A ride is inserted under a new identifier, or moved on from the row that
the request has read. -/
def RideLaw (ride : Ride) : Prop :=
  (∃ estimatedFare, request.requested estimatedFare = some ride ∧
      storedRide init ride.id log = none) ∨
    (request.rideMoved = some ride.id ∧
      ∃ seen, rideSeen init pid ride.id log = some seen ∧
        Moves request seen ride)

/-- Accepting happens under the lock, once, after the driver was taken. -/
def AcceptLaw (rideId driverId : String) : Prop :=
  lockOwner log = some pid ∧ ¬ Taken init rideId log ∧
    ∃ entry ∈ log, entry.pid = pid ∧ Takes driverId entry

/-- A cancelled ride has given its driver back. -/
def CancelLaw (rideId : String) : Prop :=
  init.DriverlessRequests → ∀ seen userId, rideSeen init pid rideId log = some seen →
    seen.driverId = some userId → ¬ HeldBy rideId userId log

/-- The row is the driver as read, with this availability. -/
def AvailabilityLaw (available : Bool) (driver : Driver) : Prop :=
  ∃ seen, driverSeen init pid driver.userId log = some seen ∧
    driver = { seen with isAvailable := available }

/-- The task has inserted a rating of this user. -/
def HasRated (userId : String) : Prop :=
  ∃ entry ∈ log, entry.pid = pid ∧
    ∃ rating, entry.savedRating = some rating ∧ rating.toUserId = userId

def DriverLaw (driver : Driver) : Prop :=
  match request with
  | .registerDriver userId vehicleType licensePlate =>
      driver = {
        userId := userId, vehicleType := vehicleType, licensePlate := licensePlate }
  | .driverRegister username vehicleType licensePlate =>
      driver = {
        userId := driver.userId, vehicleType := vehicleType,
        licensePlate := licensePlate } ∧
        ∃ user, userSeen init pid driver.userId log = some user ∧
          user.username = username
  | .acceptRide rideId driverId =>
      driver.userId = driverId ∧ AvailabilityLaw init pid log false driver ∧
        lockOwner log = some pid ∧ ¬ Taken init rideId log ∧ Rearmed driverId log
  | .completeRide _ driverId _ =>
      driver.userId = driverId ∧ AvailabilityLaw init pid log true driver
  | .cancelRide rideId _ =>
      (∃ ride, rideSeen init pid rideId log = some ride ∧
        ride.driverId = some driver.userId) ∧
          AvailabilityLaw init pid log true driver
  | .goOnline userId _ _ =>
      driver.userId = userId ∧ AvailabilityLaw init pid log true driver
  | .goOffline userId =>
      driver.userId = userId ∧ AvailabilityLaw init pid log false driver
  | .rate _ _ score _ _ _ =>
      HasRated pid log driver.userId ∧
        ∃ seen, driverSeen init pid driver.userId log = some seen ∧
          driver = { seen with
            avgRating := some (RatingService.roundTo2
              (RatingService.incrementalAvg seen.avgRating seen.ratingCount score))
            ratingCount := seen.ratingCount + 1 }
  | _ => False

def UserLaw (user : User) : Prop :=
  match request with
  | .authRegister _ username _ newId _ =>
      user = {
        username := username, passwordHash := user.passwordHash, id := newId } ∧
        storedUser init newId log = none
  | .driverRegister username _ _ =>
      ∃ seen, userSeen init pid user.id log = some seen ∧
        seen.username = username ∧ user = { seen with role := .driver }
  | .rate _ _ score _ _ _ =>
      HasRated pid log user.id ∧ NoneOwn pid savesUser log ∧
        ∃ seen, userSeen init pid user.id log = some seen ∧
          user = { seen with
            avgRating := some (RatingService.roundTo2
              (RatingService.incrementalAvg seen.avgRating seen.ratingCount score))
            ratingCount := seen.ratingCount + 1 }
  | _ => False

/-- The participant on the other side of a ride. -/
def Ride.otherParty (ride : Ride) (fromUserId : String) : Option String :=
  if fromUserId = ride.riderId then ride.driverId
  else if some fromUserId = ride.driverId then some ride.riderId
  else none

def RatingLaw (rating : Rating) : Prop :=
  match request with
  | .rate rideId fromUserId score comment newId now =>
      rating = {
        rideId := rideId, fromUserId := fromUserId, toUserId := rating.toUserId,
        score := score, comment := comment, id := newId, createdAt := now } ∧
      (1 ≤ score ∧ score ≤ 5) ∧
      (∃ ride, rideSeen init pid rideId log = some ride ∧ ride.status = .completed ∧
        ride.otherParty fromUserId = some rating.toUserId) ∧
      (∀ row ∈ init.ratings.rows ++ insertedRatings log, row.id ≠ newId) ∧
      NoneOwn pid savesRating log
  | _ => False

end Laws

/-- The law of the application's histories. -/
def law (init : Store) (entry : HistoryEntry) (log : History) : Prop :=
  match entry.call with
  | .rideSave ride =>
      RideLaw init entry.pid entry.request log ride ∧
        (∀ rideId driverId, entry.request = .acceptRide rideId driverId →
          AcceptLaw init entry.pid log rideId driverId) ∧
        ∀ rideId userId, entry.request = .cancelRide rideId userId →
          CancelLaw init entry.pid log rideId
  | .driverMerge driver => DriverLaw init entry.pid entry.request log driver
  | .userSave user => UserLaw init entry.pid entry.request log user
  | .ratingSave rating => RatingLaw init entry.pid entry.request log rating
  | .lockAcquire => lockOwner log = none
  | .lockRelease => lockOwner log = some entry.pid
  | _ => True

/-- The rules of a run that starts over the given store. -/
def rules (P : Platform) (init : Store) : HistoryRules (application P) where
  law := law init
  describes := Describes init
  describes_answer := by
    intro world pid request call broken reply state described _ answered lawful
    apply described.answer answered
    intro rating saved row rowMem
    have callEq := Entry.call_of_savedRating saved
    subst callEq
    cases request with
    | rate rideId fromUserId score comment newId now =>
        rw [lawful.1]
        exact lawful.2.2.2.1 row rowMem
    | _ => exact lawful.elim
  describes_ambient := by
    intro world change described
    exact ⟨described.rides, described.drivers, described.users,
      described.ratings, described.lock⟩

end RideHailing
