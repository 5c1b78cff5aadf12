import RideHailing.Pricing
import RideHailing.SseRegistry
import RideHailing.TaskPool
import Mathlib.Data.Finset.Basic

/-!
# Postgres, Redis, Kafka and the process itself

The state that the services share and the calls they await on it: the methods
of the four repositories, the Redis commands of `dispatch.py`, `pricing.py` and
the driver repository, a Kafka publish, the accept lock, and the registry of
event streams.  One call is one atomic step.  `DriverRepository.save` is two of
them, the Postgres commit and the write to the availability set.
-/

namespace RideHailing

namespace Float64

/-- The order of Postgres doubles, in which NaN is the greatest value. -/
def le : Float64 → Float64 → Bool
  | .finite a, .finite b => decide (a ≤ b)
  | .negInf, _ => true
  | _, .nan => true
  | .nan, _ => false
  | _, .posInf => true
  | .posInf, _ => false
  | _, .negInf => false

/-- `column.between(low, high)`. -/
def between (value low high : Float64) : Bool :=
  low.le value && value.le high

end Float64

/-- A member of the geo index. -/
structure Located where
  member : String
  lat : Float64
  lng : Float64
deriving DecidableEq, Repr

/-- A cached multiplier and the moment at which it disappears. -/
structure CacheEntry where
  key : String
  value : Decimal
  expiresAt : Nat
deriving DecidableEq, Repr

/-- One admitted attempt under a limiter's key. -/
structure LimiterHit where
  capacity : Nat
  windowSeconds : Nat
  key : String
  moment : Nat
deriving DecidableEq, Repr

inductive Topic where
  | rideRequested
  | rideAccepted
  | rideCompleted
  | rideCancelled
deriving DecidableEq, Repr

/-- The JSON documents put on event streams. -/
inductive Payload where
  | driverLocation (lat lng : Float64) (etaMinutes : Int)
  | driverEtaToPickup (etaMinutes : Int)
  | rideOffer (rideId : String) (pickupLat pickupLng dropoffLat dropoffLng : Float64)
      (estimatedFare : Option Float64) (etaMinutes : Int)
  | offerCancelled (rideId : String)
deriving DecidableEq, Repr

/-- Code outside the repository, and doubles: the great-circle distance, the
decimal that `str` writes for a double, the geo commands of Redis, the row that
Postgres returns first when no order is asked for, bcrypt and the rate limiter. -/
structure Platform where
  haversineKm : Float64 → Float64 → Float64 → Float64 → Except String Float64
  decimalOfStr : Float64 → Decimal
  geoAccepts : Float64 → Float64 → Bool
  geosearch : List Located → Float64 → Float64 → Float64 → Nat →
    Option (List (String × Float64))
  firstRow : List Ride → Option Ride
  firstRow_mem : ∀ {rows row}, firstRow rows = some row → row ∈ rows
  firstRow_none : ∀ {rows}, firstRow rows = none → rows = []
  hashPassword : String → String → String
  checkPassword : String → String → Bool
  admitsHit : Nat → Nat → List Nat → Nat → Bool
  authAttemptsLimitPer15Min : Nat

/-- Everything the requests share. -/
structure Store where
  users : UniqueTable User.id User.username
  drivers : KeyedTable Driver.userId
  rides : KeyedTable Ride.id
  ratings : UniqueTable Rating.id
    (fun rating => (rating.rideId, rating.fromUserId))
  locations : KeyedTable Located.member
  available : Finset String
  surge : KeyedTable CacheEntry.key
  published : List (Topic × String)
  sse : SseRegistry Payload
  limiterHits : List LimiterHit
  acceptLock : Option Nat
  clock : Nat

/-- A call fails because the infrastructure does, because a database
constraint would be broken, or because Redis refuses its arguments. -/
inductive Fault where
  | outage
  | integrity
  | rejected
deriving DecidableEq, Repr

inductive Call where
  | userSave (user : User)
  | userFindById (userId : String)
  | userFindByUsername (username : String)
  | userExistsByUsername (username : String)
  | driverMerge (driver : Driver)
  | driverFindById (userId : String)
  | driverExistsById (userId : String)
  | rideSave (ride : Ride)
  | rideFindById (rideId : String)
  | rideExistsByRiderIdAndStatusIn (riderId : String) (statuses : List RideStatus)
  | rideFindFirstByDriverIdAndStatusIn (driverId : String)
      (statuses : List RideStatus)
  | rideCountPendingNear (lat lng delta : Float64)
  | ratingSave (rating : Rating)
  | ratingExistsByRideIdAndFromUserId (rideId fromUserId : String)
  | sadd (userId : String)
  | srem (userId : String)
  | smismember (userIds : List String)
  | geoadd (userId : String) (lat lng : Float64)
  | zrem (userId : String)
  | geosearch (lat lng radiusKm : Float64) (count : Nat)
  | cacheGet (key : String)
  | cacheSet (key : String) (value : Decimal) (ttlSeconds : Nat)
  | limiterHit (capacity windowSeconds : Nat) (key : String)
  | publish (topic : Topic) (rideId : String)
  | lockAcquire
  | lockRelease
  | sseEmit (key event : String) (payload : Payload)
  | sseComplete (key : String)

/-- What a call returns. -/
@[reducible]
def Value : Call → Type
  | .userSave _ => User
  | .userFindById _ => Option User
  | .userFindByUsername _ => Option User
  | .userExistsByUsername _ => Bool
  | .driverMerge _ => Driver
  | .driverFindById _ => Option Driver
  | .driverExistsById _ => Bool
  | .rideSave _ => Ride
  | .rideFindById _ => Option Ride
  | .rideExistsByRiderIdAndStatusIn _ _ => Bool
  | .rideFindFirstByDriverIdAndStatusIn _ _ => Option Ride
  | .rideCountPendingNear _ _ _ => Nat
  | .ratingSave _ => Rating
  | .ratingExistsByRideIdAndFromUserId _ _ => Bool
  | .smismember _ => List Bool
  | .geosearch _ _ _ _ => List (String × Float64)
  | .cacheGet _ => Option Decimal
  | .limiterHit _ _ _ => Bool
  | _ => Unit

namespace Store

/-- A store with the given users and drivers and nothing else. -/
def opening (users : UniqueTable User.id User.username)
    (drivers : KeyedTable Driver.userId) : Store where
  users := users
  drivers := drivers
  rides := KeyedTable.empty
  ratings := UniqueTable.empty
  locations := KeyedTable.empty
  available := ∅
  surge := KeyedTable.empty
  published := []
  sse := SseRegistry.empty
  limiterHits := []
  acceptLock := none
  clock := 0

/-- The empty store. -/
def vacant : Store :=
  opening UniqueTable.empty KeyedTable.empty

def existsByRiderIdAndStatusIn (store : Store) (riderId : String)
    (statuses : List RideStatus) : Bool :=
  store.rides.rows.any fun ride =>
    decide (ride.riderId = riderId) && decide (ride.status ∈ statuses)

def countPendingNear (store : Store) (lat lng delta : Float64) : Nat :=
  store.rides.rows.countP fun ride =>
    decide (ride.status = .requested) &&
      ride.pickupLat.between (lat.sub delta) (lat.add delta) &&
        ride.pickupLng.between (lng.sub delta) (lng.add delta)

/-- A cached value that has not yet expired. -/
def cached (store : Store) (key : String) : Option Decimal :=
  (store.surge.find key).bind fun entry =>
    if store.clock < entry.expiresAt then some entry.value else none

/-- The moments at which a limiter admitted a key. -/
def hitsOf (store : Store) (capacity windowSeconds : Nat) (key : String) :
    List Nat :=
  (store.limiterHits.filter fun hit =>
    decide (hit.capacity = capacity ∧ hit.windowSeconds = windowSeconds ∧
      hit.key = key)).map LimiterHit.moment

end Store

/-- A successful call. -/
def ok {call : Call} (value : Value call) (store : Store) :
    Option (Except Fault (Value call) × Store) :=
  some (.ok value, store)

/-- A refused call, which changes nothing. -/
def refused {call : Call} (fault : Fault) (store : Store) :
    Option (Except Fault (Value call) × Store) :=
  some (.error fault, store)

/-- The meaning of a call made by a task.  Only the acquisition of a lock that
is held cannot be answered yet. -/
def Platform.perform (P : Platform) (pid : Nat) :
    (call : Call) → Store → Option (Except Fault (Value call) × Store)
  | .userSave user, s =>
      match s.users.merge user with
      | none => refused .integrity s
      | some users => ok user { s with users := users }
  | .userFindById userId, s => ok (s.users.find userId) s
  | .userFindByUsername username, s =>
      ok (s.users.rows.find? fun user => decide (user.username = username)) s
  | .userExistsByUsername username, s =>
      ok (s.users.rows.any fun user => decide (user.username = username)) s
  | .driverMerge driver, s =>
      -- The foreign key is checked when the row is inserted.
      if (s.drivers.find driver.userId).isNone ∧
          (s.users.find driver.userId).isNone then refused .integrity s
      else ok driver { s with drivers := s.drivers.save driver }
  | .driverFindById userId, s => ok (s.drivers.find userId) s
  | .driverExistsById userId, s => ok (s.drivers.find userId).isSome s
  | .rideSave ride, s => ok ride { s with rides := s.rides.save ride }
  | .rideFindById rideId, s => ok (s.rides.find rideId) s
  | .rideExistsByRiderIdAndStatusIn riderId statuses, s =>
      ok (s.existsByRiderIdAndStatusIn riderId statuses) s
  | .rideFindFirstByDriverIdAndStatusIn driverId statuses, s =>
      ok (P.firstRow (s.rides.rows.filter fun ride =>
        decide (ride.driverId = some driverId) &&
          decide (ride.status ∈ statuses))) s
  | .rideCountPendingNear lat lng delta, s => ok (s.countPendingNear lat lng delta) s
  | .ratingSave rating, s =>
      match s.ratings.merge rating with
      | none => refused .integrity s
      | some ratings => ok rating { s with ratings := ratings }
  | .ratingExistsByRideIdAndFromUserId rideId fromUserId, s =>
      ok (s.ratings.rows.any fun rating =>
        decide (rating.rideId = rideId) &&
          decide (rating.fromUserId = fromUserId)) s
  | .sadd userId, s => ok () { s with available := insert userId s.available }
  | .srem userId, s => ok () { s with available := s.available.erase userId }
  | .smismember userIds, s =>
      ok (userIds.map fun userId => decide (userId ∈ s.available)) s
  | .geoadd userId lat lng, s =>
      if P.geoAccepts lat lng then
        ok () { s with locations := s.locations.save ⟨userId, lat, lng⟩ }
      else refused .rejected s
  | .zrem userId, s => ok () { s with locations := s.locations.erase userId }
  | .geosearch lat lng radiusKm count, s =>
      match P.geosearch s.locations.rows lat lng radiusKm count with
      | none => refused .rejected s
      | some found => ok found s
  | .cacheGet key, s => ok (s.cached key) s
  | .cacheSet key value ttlSeconds, s =>
      ok () { s with
        surge := s.surge.save ⟨key, value, s.clock + 1000 * ttlSeconds⟩ }
  | .limiterHit capacity windowSeconds key, s =>
      if P.admitsHit capacity windowSeconds
          (s.hitsOf capacity windowSeconds key) s.clock then
        ok true { s with
          limiterHits := ⟨capacity, windowSeconds, key, s.clock⟩ :: s.limiterHits }
      else ok false s
  | .publish topic rideId, s =>
      ok () { s with published := s.published ++ [(topic, rideId)] }
  | .lockAcquire, s =>
      if s.acceptLock.isNone then ok () { s with acceptLock := some pid } else none
  | .lockRelease, s => ok () { s with acceptLock := none }
  | .sseEmit key event payload, s =>
      ok () { s with sse := s.sse.emit key event payload }
  | .sseComplete key, s => ok () { s with sse := s.sse.complete key }

/-- What a call of a task writes to the store, if it writes at all. -/
inductive Store.Change (pid : Nat) (before : Store) : Call → Store → Prop where
  | users {user : User} {users : UniqueTable User.id User.username}
      (merged : before.users.merge user = some users) :
      Store.Change pid before (.userSave user) { before with users := users }
  | drivers {driver : Driver} (known : ¬ ((before.drivers.find driver.userId).isNone ∧
      (before.users.find driver.userId).isNone)) :
      Store.Change pid before (.driverMerge driver)
        { before with drivers := before.drivers.save driver }
  | rides (ride : Ride) :
      Store.Change pid before (.rideSave ride) { before with rides := before.rides.save ride }
  | ratings {rating : Rating}
      {ratings : UniqueTable Rating.id (fun rating => (rating.rideId, rating.fromUserId))}
      (merged : before.ratings.merge rating = some ratings) :
      Store.Change pid before (.ratingSave rating) { before with ratings := ratings }
  | listed (userId : String) :
      Store.Change pid before (.sadd userId)
        { before with available := insert userId before.available }
  | unlisted (userId : String) :
      Store.Change pid before (.srem userId)
        { before with available := before.available.erase userId }
  | located (userId : String) (lat lng : Float64) :
      Store.Change pid before (.geoadd userId lat lng)
        { before with locations := before.locations.save ⟨userId, lat, lng⟩ }
  | unlocated (userId : String) :
      Store.Change pid before (.zrem userId)
        { before with locations := before.locations.erase userId }
  | cached (key : String) (value : Decimal) (ttlSeconds : Nat) :
      Store.Change pid before (.cacheSet key value ttlSeconds) { before with
        surge := before.surge.save ⟨key, value, before.clock + 1000 * ttlSeconds⟩ }
  | hit (capacity windowSeconds : Nat) (key : String) :
      Store.Change pid before (.limiterHit capacity windowSeconds key) { before with
        limiterHits := ⟨capacity, windowSeconds, key, before.clock⟩ :: before.limiterHits }
  | published (topic : Topic) (rideId : String) :
      Store.Change pid before (.publish topic rideId)
        { before with published := before.published ++ [(topic, rideId)] }
  | acquired (free : before.acceptLock.isNone = true) :
      Store.Change pid before .lockAcquire { before with acceptLock := some pid }
  | released : Store.Change pid before .lockRelease { before with acceptLock := none }
  | emitted (key event : String) (payload : Payload) :
      Store.Change pid before (.sseEmit key event payload)
        { before with sse := before.sse.emit key event payload }
  | completed (key : String) :
      Store.Change pid before (.sseComplete key)
        { before with sse := before.sse.complete key }

theorem perform_cases {P : Platform} {pid : Nat} {call : Call}
    {reply : Except Fault (Value call)} {before after : Store}
    (performed : P.perform pid call before = some (reply, after)) :
    after = before ∨ before.Change pid call after := by
  cases call with
  | userSave user =>
      simp only [Platform.perform] at performed
      split at performed
      · cases performed
        exact Or.inl rfl
      · rename_i users merged
        cases performed
        exact Or.inr (.users merged)
  | driverMerge driver =>
      simp only [Platform.perform] at performed
      split at performed
      · cases performed
        exact Or.inl rfl
      · rename_i known
        cases performed
        exact Or.inr (.drivers known)
  | ratingSave rating =>
      simp only [Platform.perform] at performed
      split at performed
      · cases performed
        exact Or.inl rfl
      · rename_i ratings merged
        cases performed
        exact Or.inr (.ratings merged)
  | geoadd userId lat lng =>
      simp only [Platform.perform] at performed
      split at performed
      · cases performed
        exact Or.inr (.located userId lat lng)
      · cases performed
        exact Or.inl rfl
  | geosearch lat lng radiusKm count =>
      simp only [Platform.perform] at performed
      split at performed <;> cases performed <;> exact Or.inl rfl
  | limiterHit capacity windowSeconds key =>
      simp only [Platform.perform] at performed
      split at performed
      · cases performed
        exact Or.inr (.hit capacity windowSeconds key)
      · cases performed
        exact Or.inl rfl
  | lockAcquire =>
      simp only [Platform.perform] at performed
      split at performed
      · rename_i free
        cases performed
        exact Or.inr (.acquired free)
      · cases performed
  | rideSave ride =>
      cases performed
      exact Or.inr (.rides ride)
  | sadd userId =>
      cases performed
      exact Or.inr (.listed userId)
  | srem userId =>
      cases performed
      exact Or.inr (.unlisted userId)
  | zrem userId =>
      cases performed
      exact Or.inr (.unlocated userId)
  | cacheSet key value ttlSeconds =>
      cases performed
      exact Or.inr (.cached key value ttlSeconds)
  | publish topic rideId =>
      cases performed
      exact Or.inr (.published topic rideId)
  | lockRelease =>
      cases performed
      exact Or.inr .released
  | sseEmit key event payload =>
      cases performed
      exact Or.inr (.emitted key event payload)
  | sseComplete key =>
      cases performed
      exact Or.inr (.completed key)
  | _ =>
      cases performed
      exact Or.inl rfl

/-- The infrastructure may fail every call that leaves the process. -/
def breakable : Call → Fault → Bool
  | .lockAcquire, _ => false
  | .lockRelease, _ => false
  | .sseEmit _ _ _, _ => false
  | .sseComplete _, _ => false
  | _, fault => decide (fault = .outage)

end RideHailing
