import RideHailing.RequestLaws

/-!
# Rides and drivers as one fleet

What matters for who drives whom is a small part of the store: the rides, the
drivers, the availability set and the accept lock.  Seen from there a request
served on its own is a short list of writes, fixed by the rows it found; a call
that fails interrupts the list.  Results about requests served one at a time are
about this model; the programs refine it.
-/

namespace RideHailing

/-- The part of the store that tells who drives whom. -/
structure Fleet where
  rides : KeyedTable Ride.id
  drivers : KeyedTable Driver.userId
  available : Finset String
  acceptLock : Option Nat

def Store.fleet (store : Store) : Fleet :=
  ⟨store.rides, store.drivers, store.available, store.acceptLock⟩

inductive FleetWrite where
  | ride (ride : Ride)
  | driver (driver : Driver)
  | listing (userId : String) (isAvailable : Bool)

/-- Saving a driver is a write to the table and one to the availability set. -/
def saving (driver : Driver) : List FleetWrite :=
  [.driver driver, .listing driver.userId driver.isAvailable]

theorem driver_begins_saving (driver : Driver) :
    [FleetWrite.driver driver] <+: saving driver :=
  ⟨[.listing driver.userId driver.isAvailable], rfl⟩

namespace Fleet

def write (fleet : Fleet) : FleetWrite → Fleet
  | .ride ride => { fleet with rides := fleet.rides.save ride }
  | .driver driver => { fleet with drivers := fleet.drivers.save driver }
  | .listing userId true => { fleet with available := insert userId fleet.available }
  | .listing userId false => { fleet with available := fleet.available.erase userId }

def writeAll (fleet : Fleet) (writes : List FleetWrite) : Fleet :=
  writes.foldl write fleet

/-- The writes that a request has to make in this fleet. -/
inductive Effect (P : Platform) (fleet : Fleet) :
    Request → List FleetWrite → Prop where
  | request {request : Request} {estimatedFare : Decimal} {ride : Ride}
      (inserted : request.requested estimatedFare = some ride) :
      Effect P fleet request [.ride ride]
  | accept {rideId driverId : String} {ride moved : Ride} {driver : Driver}
      (found : fleet.rides.find rideId = some ride)
      (moves : Moves (.acceptRide rideId driverId) ride moved)
      (profile : fleet.drivers.find driverId = some driver)
      (free : driver.isAvailable = true) :
      Effect P fleet (.acceptRide rideId driverId)
        (saving { driver with isAvailable := false } ++ [.ride moved])
  | start {rideId driverId : String} {ride moved : Ride}
      (found : fleet.rides.find rideId = some ride)
      (moves : Moves (.startRide rideId driverId) ride moved) :
      Effect P fleet (.startRide rideId driverId) [.ride moved]
  | complete {rideId driverId : String} {now : Timestamp} {ride moved : Ride}
      {driver : Driver}
      (found : fleet.rides.find rideId = some ride)
      (moves : Moves (.completeRide rideId driverId now) ride moved)
      (profile : fleet.drivers.find driverId = some driver) :
      Effect P fleet (.completeRide rideId driverId now)
        (.ride moved :: saving { driver with isAvailable := true })
  | completeAlone {rideId driverId : String} {now : Timestamp} {ride moved : Ride}
      (found : fleet.rides.find rideId = some ride)
      (moves : Moves (.completeRide rideId driverId now) ride moved)
      (absent : fleet.drivers.find driverId = none) :
      Effect P fleet (.completeRide rideId driverId now) [.ride moved]
  | cancel {rideId userId driverId : String} {ride moved : Ride} {driver : Driver}
      (found : fleet.rides.find rideId = some ride)
      (moves : Moves (.cancelRide rideId userId) ride moved)
      (assigned : ride.driverId = some driverId)
      (profile : fleet.drivers.find driverId = some driver) :
      Effect P fleet (.cancelRide rideId userId)
        (saving { driver with isAvailable := true } ++ [.ride moved])
  | cancelAlone {rideId userId : String} {ride moved : Ride}
      (found : fleet.rides.find rideId = some ride)
      (moves : Moves (.cancelRide rideId userId) ride moved)
      (unassigned : ride.driverId = none) :
      Effect P fleet (.cancelRide rideId userId) [.ride moved]
  | register {request : Request} {driver : Driver}
      (registers : request.registersDriver = true)
      (absent : fleet.drivers.find driver.userId = none)
      (offline : driver.isAvailable = false) :
      Effect P fleet request (saving driver)
  | goOnline {userId : String} {lat lng : Float64} {driver : Driver}
      (located : P.geoAccepts lat lng = true)
      (profile : fleet.drivers.find userId = some driver) :
      Effect P fleet (.goOnline userId lat lng)
        (saving { driver with isAvailable := true })
  | goOffline {userId : String} {driver : Driver}
      (profile : fleet.drivers.find userId = some driver) :
      Effect P fleet (.goOffline userId) (saving { driver with isAvailable := false })
  | rate {rideId fromUserId userId newId : String} {score : Int}
      {comment : Option String} {now : Timestamp} {driver rated : Driver}
      (profile : fleet.drivers.find userId = some driver)
      (sameUser : rated.userId = driver.userId)
      (sameAvailability : rated.isAvailable = driver.isAvailable) :
      Effect P fleet (.rate rideId fromUserId score comment newId now) (saving rated)

/-- The request has made the writes it had to make. -/
def Carried (P : Platform) (request : Request) (before after : Fleet) : Prop :=
  ∃ writes, Effect P before request writes ∧ after = before.writeAll writes

/-- The request has made none of its writes, or some of them, the first ones
first; unless calls failed, all of them. -/
def Becomes (P : Platform) (request : Request) (failing : Bool)
    (before after : Fleet) : Prop :=
  after = before ∨ ∃ writes done, Effect P before request writes ∧
    done <+: writes ∧ after = before.writeAll done ∧
      (failing = false → done = writes)

variable {P : Platform} {request : Request} {failing : Bool} {before after : Fleet}

theorem Effect.torn {writes done : List FleetWrite} (effect : Effect P before request writes)
    (begun : done <+: writes) (fails : failing = true) :
    Becomes P request failing before (before.writeAll done) := by
  refine Or.inr ⟨writes, done, effect, begun, rfl, fun works => ?_⟩
  rw [fails] at works
  cases works

theorem Carried.becomes (carried : Carried P request before after) :
    Becomes P request failing before after := by
  obtain ⟨writes, effect, rfl⟩ := carried
  exact Or.inr ⟨writes, writes, effect, List.prefix_rfl, rfl, fun _ => rfl⟩

/-- What the writes of every possible effect keep throughout, the request keeps. -/
theorem Becomes.keeps {property : Fleet → Prop}
    (becomes : Becomes P request failing before after) (start : property before)
    (throughout : ∀ writes, Effect P before request writes →
      Throughout write property before writes) : property after := by
  rcases becomes with rfl | ⟨writes, done, effect, begun, rfl, _⟩
  · exact start
  · exact (throughout writes effect).interrupted begun

/-! ## The lock -/

/-- The fleet with this owner of the accept lock. -/
def lockedBy (fleet : Fleet) (owner : Option Nat) : Fleet :=
  { fleet with acceptLock := owner }

theorem lockedBy_none {fleet : Fleet} (free : fleet.acceptLock = none) :
    fleet.lockedBy none = fleet := by
  rw [lockedBy, ← free]

theorem write_lockedBy (fleet : Fleet) (owner : Option Nat) (next : FleetWrite) :
    (fleet.lockedBy owner).write next = (fleet.write next).lockedBy owner := by
  cases next with
  | ride ride => rfl
  | driver driver => rfl
  | listing userId isAvailable => cases isAvailable <;> rfl

theorem writeAll_lockedBy (fleet : Fleet) (owner : Option Nat)
    (writes : List FleetWrite) :
    (fleet.lockedBy owner).writeAll writes = (fleet.writeAll writes).lockedBy owner := by
  induction writes generalizing fleet with
  | nil => rfl
  | cons first rest ih =>
      change ((fleet.lockedBy owner).write first).writeAll rest = _
      rw [write_lockedBy, ih]
      rfl

theorem acceptLock_writeAll (fleet : Fleet) (writes : List FleetWrite) :
    (fleet.writeAll writes).acceptLock = fleet.acceptLock := by
  induction writes generalizing fleet with
  | nil => rfl
  | cons first rest ih =>
      change ((fleet.write first).writeAll rest).acceptLock = _
      rw [ih]
      cases first with
      | ride ride => rfl
      | driver driver => rfl
      | listing userId isAvailable => cases isAvailable <;> rfl

/-- Nobody's writes depend on the lock. -/
theorem Effect.of_lockedBy {fleet : Fleet} {owner : Option Nat}
    {writes : List FleetWrite} (effect : Effect P (fleet.lockedBy owner) request writes) :
    Effect P fleet request writes := by
  cases effect with
  | request inserted => exact .request inserted
  | accept found moves profile free => exact .accept found moves profile free
  | start found moves => exact .start found moves
  | complete found moves profile => exact .complete found moves profile
  | completeAlone found moves absent => exact .completeAlone found moves absent
  | cancel found moves assigned profile => exact .cancel found moves assigned profile
  | cancelAlone found moves unassigned => exact .cancelAlone found moves unassigned
  | register registers absent offline => exact .register registers absent offline
  | goOnline located profile => exact .goOnline located profile
  | goOffline profile => exact .goOffline profile
  | rate profile sameUser sameAvailability =>
      exact .rate profile sameUser sameAvailability

/-- What was written under the lock has been written once it is released. -/
theorem writeAll_released {fleet : Fleet} {owner : Option Nat}
    (free : fleet.acceptLock = none) (writes : List FleetWrite) :
    ((fleet.lockedBy owner).writeAll writes).lockedBy none = fleet.writeAll writes := by
  rw [writeAll_lockedBy]
  exact lockedBy_none ((acceptLock_writeAll fleet writes).trans free)

theorem Carried.released {owner : Option Nat} (free : before.acceptLock = none)
    (carried : Carried P request (before.lockedBy owner) after) :
    Carried P request before (after.lockedBy none) := by
  obtain ⟨writes, effect, rfl⟩ := carried
  exact ⟨writes, effect.of_lockedBy, writeAll_released free writes⟩

theorem Becomes.released {owner : Option Nat} (free : before.acceptLock = none)
    (becomes : Becomes P request failing (before.lockedBy owner) after) :
    Becomes P request failing before (after.lockedBy none) := by
  rcases becomes with rfl | ⟨writes, done, effect, begun, rfl, works⟩
  · exact Or.inl (lockedBy_none free)
  · exact Or.inr ⟨writes, done, effect.of_lockedBy, begun,
      writeAll_released free done, works⟩

end Fleet

end RideHailing
