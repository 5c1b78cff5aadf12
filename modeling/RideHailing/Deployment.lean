import RideHailing.Application
import RideHailing.EventStreams
import RideHailing.HostedMachines

/-!
# The application with its background tasks

Beside the requests the process runs a Kafka consumer, which handles one message
after the other, a job that publishes stale rides again, a listener that forwards
ride offers from Redis to the drivers' event streams, and the event streams
themselves.  They share the stores with the requests and have some of their own:
the sets `dispatched:{ride}`, which expire, and the offers on the listener's
subscription, which Redis keeps only while there is one.
-/

namespace RideHailing

/-- Code outside the repository that only the background tasks use: the double
nearest to a decimal, the position that Redis gives back, the order in which a set
is iterated, and that of a query without one. -/
structure Wiring where
  floatOfDecimal : Decimal → Float64
  geopos : List Located → String → Option (Float64 × Float64)
  setOrder : List String → List String
  setOrder_perm : ∀ members, (setOrder members).Perm members
  rowOrder : List Ride → List Ride
  rowOrder_perm : ∀ rows, (rowOrder rows).Perm rows

/-- A set `dispatched:{ride}` and the moment of its expiry, if it has one. -/
structure DispatchedSet where
  rideId : String
  members : List String
  expiresAt : Option Nat
deriving DecidableEq, Repr

/-- The stores of the requests, the dispatched sets, whether the listener is subscribed to
`ride_offers:*`, the offers that wait on its subscription, and the event streams. -/
structure Deployment where
  store : Store
  dispatched : KeyedTable DispatchedSet.rideId
  listening : Bool
  offers : List (String × Payload)
  streams : List (EventStream Payload)

/-- The calls that only background tasks make. -/
inductive BackgroundCall where
  | geopos (driverId : String)
  | dispatchedAdd (rideId : String) (driverIds : List String)
  | dispatchedExpire (rideId : String) (seconds : Nat)
  | dispatchedMembers (rideId : String)
  | dispatchedDelete (rideId : String)
  | publishOffer (driverId : String) (payload : Payload)
  | rideFindByStatusAndRequestedAtBefore (status : RideStatus) (cutoff : Timestamp)
  | openStream (key : String)
deriving DecidableEq

@[reducible]
def BackgroundValue : BackgroundCall → Type
  | .geopos _ => Option (Float64 × Float64)
  | .dispatchedMembers _ => List String
  | .rideFindByStatusAndRequestedAtBefore _ _ => List Ride
  | _ => Unit

abbrev DeploymentCall : Type := Call ⊕ BackgroundCall

abbrev DeploymentValue : DeploymentCall → Type :=
  EitherValue Value BackgroundValue

namespace Deployment

/-- A deployment that starts over these stores, with the listener subscribed. -/
def opening (store : Store) : Deployment :=
  ⟨store, KeyedTable.empty, true, [], []⟩

/-- The event streams over the registry. -/
def board (deployment : Deployment) : EventStreams Payload :=
  ⟨deployment.store.sse, deployment.streams⟩

def withBoard (deployment : Deployment) (board : EventStreams Payload) : Deployment :=
  { deployment with
    store := { deployment.store with sse := board.registry }, streams := board.streams }

/-- The set `dispatched:{ride}`, while it exists. -/
def dispatchedTo (deployment : Deployment) (rideId : String) : Option DispatchedSet :=
  (deployment.dispatched.find rideId).filter fun dispatched =>
    dispatched.expiresAt.all fun expiry => decide (deployment.store.clock < expiry)

/-- `SADD`, which makes the set if it does not exist. -/
def dispatchedAdd (deployment : Deployment) (rideId : String) (driverIds : List String) :
    Deployment :=
  let old := (deployment.dispatchedTo rideId).getD ⟨rideId, [], none⟩
  let new := driverIds.dedup.filter fun driverId => decide (driverId ∉ old.members)
  { deployment with
    dispatched := deployment.dispatched.save
      ⟨rideId, old.members ++ new, old.expiresAt⟩ }

/-- `EXPIRE`, which does nothing to a set that does not exist. -/
def dispatchedExpire (deployment : Deployment) (rideId : String) (seconds : Nat) :
    Deployment :=
  match deployment.dispatchedTo rideId with
  | none => deployment
  | some old => { deployment with
      dispatched := deployment.dispatched.save
        ⟨rideId, old.members, some (deployment.store.clock + 1000 * seconds)⟩ }

/-- `PUBLISH` to a driver's channel; without a subscriber the message is gone. -/
def publishOffer (deployment : Deployment) (driverId : String) (payload : Payload) :
    Deployment :=
  { deployment with
    offers := deployment.offers ++ if deployment.listening then [(driverId, payload)] else [] }

/-- `SMEMBERS`. -/
def dispatchedMembers (deployment : Deployment) (rideId : String) : List String :=
  ((deployment.dispatchedTo rideId).map DispatchedSet.members).getD []

end Deployment

/-- The meaning of a background call. -/
def Wiring.perform (W : Wiring) :
    (call : BackgroundCall) → Deployment → BackgroundValue call × Deployment
  | .geopos driverId, d => (W.geopos d.store.locations.rows driverId, d)
  | .dispatchedAdd rideId driverIds, d => ((), d.dispatchedAdd rideId driverIds)
  | .dispatchedExpire rideId seconds, d => ((), d.dispatchedExpire rideId seconds)
  | .dispatchedMembers rideId, d => (W.setOrder (d.dispatchedMembers rideId), d)
  | .dispatchedDelete rideId, d => ((), { d with dispatched := d.dispatched.erase rideId })
  | .publishOffer driverId payload, d => ((), d.publishOffer driverId payload)
  | .rideFindByStatusAndRequestedAtBefore status cutoff, d =>
      (W.rowOrder (d.store.rides.rows.filter fun ride =>
        decide (ride.status = status) && decide (ride.requestedAt < cutoff)), d)
  | .openStream key, d => ((), d.withBoard (d.board.opening key))

abbrev Background : Type → Type :=
  Action DeploymentCall DeploymentValue Fault Failure

namespace Background

/-- Await one call. -/
def call (call : DeploymentCall) : Background (DeploymentValue call) :=
  Action.perform Failure.fault call

/-- A method that requests use as well. -/
def service {α : Type} (action : Service α) : Background α :=
  AwaitProgram.hosted action

def raise {α : Type} (failure : Failure) : Background α :=
  Action.raise failure

/-- The value of a computation that raises on its own. -/
def compute {α : Type} : Except String α → Background α
  | .ok value => pure value
  | .error name => raise (.exception name)

/-- `for item in items`. -/
def forEach {α : Type} : List α → (α → Background Unit) → Background Unit
  | [], _ => pure ()
  | item :: items, body => do
      body item
      forEach items body

end Background

open Background

/-! ## `dispatch.py` -/

def dispatchedTtlSeconds : Nat := 5 * 60

def defaultSearchRadiusKm : Float64 := .finite 5

def getDriverLocation (driverId : String) : Background (Option (Float64 × Float64)) :=
  call (.inr (.geopos driverId))

/-- The offer of a ride to a driver at this distance. -/
def offerPayload (W : Wiring) (ride : Ride) (eta : Int) : Payload :=
  .rideOffer ride.id ride.pickupLat ride.pickupLng ride.dropoffLat ride.dropoffLng
    (ride.estimatedFare.map W.floatOfDecimal) eta

def fanoutToNearbyDrivers (W : Wiring) (ride : Ride) : Background Unit := do
  let nearby ← service
    (findNearbyAvailableDrivers ride.pickupLat ride.pickupLng defaultSearchRadiusKm)
  if nearby.isEmpty then
    return ()
  call (.inr (.dispatchedAdd ride.id (nearby.map NearbyDriver.driverId)))
  call (.inr (.dispatchedExpire ride.id dispatchedTtlSeconds))
  forEach nearby fun driver => do
    let eta ← compute (etaMinutes driver.distanceKm)
    call (.inr (.publishOffer driver.driverId (offerPayload W ride eta)))

/-! ## `kafka_consumer.py` -/

def handleRideRequested (W : Wiring) (rideId : String) : Background Unit := do
  match ← call (.inl (.rideFindById rideId)) with
  | none => return ()
  | some ride =>
      if ride.status ≠ .requested then
        return ()
      fanoutToNearbyDrivers W ride

/-- Tell the rider how long the assigned driver will take to the pickup. -/
def announceEta (P : Platform) (ride : Ride) : Background Unit := do
  match ride.driverId with
  | none => return ()
  | some driverId =>
      match ← getDriverLocation driverId with
      | none => return ()
      | some (lat, lng) =>
          let distanceKm ← compute (P.haversineKm lat lng ride.pickupLat ride.pickupLng)
          let eta ← compute (etaMinutes distanceKm)
          call (.inl (.sseEmit ride.id "driver_eta_to_pickup" (.driverEtaToPickup eta)))

def handleRideAccepted (P : Platform) (rideId : String) : Background Unit := do
  match ← call (.inl (.rideFindById rideId)) with
  | none => return ()
  | some ride =>
      announceEta P ride
      let dispatchedDrivers ← call (.inr (.dispatchedMembers rideId))
      forEach dispatchedDrivers fun driverId =>
        if some driverId ≠ ride.driverId then
          call (.inl (.sseEmit driverId "offer_cancelled" (.offerCancelled rideId)))
        else
          pure ()
      call (.inr (.dispatchedDelete rideId))

def handleRideCompleted (rideId : String) : Background Unit := do
  match ← call (.inl (.rideFindById rideId)) with
  | none => return ()
  | some ride =>
      if ride.status ≠ .completed then
        return ()
      call (.inl (.sseComplete rideId))

def handleRideCancelled (rideId : String) : Background Unit := do
  match ← call (.inl (.rideFindById rideId)) with
  | none => return ()
  | some _ => call (.inl (.sseComplete rideId))

/-- `_HANDLERS`. -/
def handlers (P : Platform) (W : Wiring) : Topic → String → Background Unit
  | .rideRequested => handleRideRequested W
  | .rideAccepted => handleRideAccepted P
  | .rideCompleted => handleRideCompleted
  | .rideCancelled => handleRideCancelled

/-! ## `stale_ride_retry.py` -/

/-- Two minutes. -/
def retryCutoff : Timestamp := 2 * 60 * 1000000

def retryOnce (now : Timestamp) : Background Unit := do
  let stale ← call (.inr
    (.rideFindByStatusAndRequestedAtBefore .requested (now - retryCutoff)))
  forEach stale fun ride => call (.inl (.publish .rideRequested ride.id))

/-! ## The streaming routes -/

def trackableStatuses : List RideStatus :=
  [.matched, .inProgress]

/-- The response registers its queue when its generator first runs. -/
def streamDriverLocation (rideId userId : String) : Background Unit := do
  let ride ← service (RideService.getRide rideId)
  if ride.riderId ≠ userId then
    raise (.http 403 "Forbidden")
  if ride.status ∉ trackableStatuses then
    raise (.http 409 "No active driver to track for this ride")
  call (.inr (.openStream rideId))

def streamOffers (userId : String) : Background Unit :=
  call (.inr (.openStream userId))

/-! ## The machine -/

/-- What the process does besides serving the application's requests. -/
inductive Errand where
  | handle (topic : Topic) (rideId : String)
  | retryOnce (now : Timestamp)
  | streamDriverLocation (rideId userId : String)
  | streamOffers (userId : String)
deriving DecidableEq, Repr

def errand (P : Platform) (W : Wiring) : Errand → Background Unit
  | .handle topic rideId => handlers P W topic rideId
  | .retryOnce now => retryOnce now
  | .streamDriverLocation rideId userId => streamDriverLocation rideId userId
  | .streamOffers userId => streamOffers userId

/-- The program of a request or an errand. -/
def undertaking (P : Platform) (W : Wiring) : Request ⊕ Errand → Background Response
  | .inl request => service (handler P request)
  | .inr task => do
      errand P W task
      return .noContent

/-- What happens on its own: time passes, the listener subscribes, forwards the next offer,
or is stopped or cut off; a stream takes the next item of its queue, a stream's client
disconnects. -/
inductive Passing where
  | elapse (milliseconds : Nat)
  | subscribe
  | forwardOffer
  | unsubscribe
  | take (stream : Nat)
  | disconnect (stream : Nat)
deriving DecidableEq, Repr

namespace Deployment

/-- `_listen_loop` forwards the messages in the order of their publication. -/
def forwardOffer (deployment : Deployment) : Deployment :=
  match deployment.offers with
  | [] => deployment
  | (driverId, payload) :: rest => { deployment with
      store := { deployment.store with
        sse := deployment.store.sse.emit driverId "ride_offer" payload }
      offers := rest }

/-- What still waits on a subscription goes with it. -/
def unsubscribe (deployment : Deployment) : Deployment :=
  { deployment with listening := false, offers := [] }

/-- Let a stream move, if it can. -/
def streamStep (deployment : Deployment) (step : StreamStep Payload) : Deployment :=
  match deployment.board.step step with
  | none => deployment
  | some board => deployment.withBoard board

def passing (deployment : Deployment) : Passing → Deployment
  | .elapse milliseconds => { deployment with
      store := { deployment.store with clock := deployment.store.clock + milliseconds } }
  | .subscribe => { deployment with listening := true }
  | .forwardOffer => deployment.forwardOffer
  | .unsubscribe => deployment.unsubscribe
  | .take stream => deployment.streamStep (.takes stream)
  | .disconnect stream => deployment.streamStep (.disconnects stream)

end Deployment

/-- The process as a whole.  A client may be gone before its stream first runs. -/
def deployment (P : Platform) (W : Wiring) :
    Machine DeploymentValue Fault Deployment (Request ⊕ Errand) Outcome String Passing where
  program := undertaking P W
  perform pid
    | .inl call, d => (P.perform pid call d.store).map fun (reply, store) =>
        (reply, { d with store := store })
    | .inr call, d =>
        let (value, after) := W.perform call d
        some (.ok value, after)
  breakable
    | .inl call, fault => breakable call fault
    | .inr _, fault => decide (fault = .outage)
  draws
    | .inl request => request.draws
    | .inr _ => []
  unused token d := d.store.unused token
  ambient change d := d.passing change

abbrev DeploymentPool := Pool DeploymentValue Fault Deployment (Request ⊕ Errand) Outcome

abbrev DeploymentEvent := Event Fault (Request ⊕ Errand) Passing

/-- The task is inside a handler of the consumer. -/
def handles : Task DeploymentValue Fault (Request ⊕ Errand) Outcome → Bool
  | ⟨.inr (.handle _ _), rest⟩ => rest.result?.isNone
  | _ => false

/-- One event of the process.  The consumer loop begins with a message that was
published, at any time after and any number of times, but not before it has handled
the one before. -/
def Deployment.next (P : Platform) (W : Wiring) (pool : DeploymentPool) :
    DeploymentEvent → Option DeploymentPool
  | .spawn (.inr (.handle topic rideId)) =>
      if (topic, rideId) ∈ pool.world.state.store.published ∧
          ¬ pool.tasks.any handles then
        (deployment P W).next pool (.spawn (.inr (.handle topic rideId)))
      else none
  | event => (deployment P W).next pool event

/-- Perform the events of a schedule in order. -/
def Deployment.run (P : Platform) (W : Wiring) (pool : DeploymentPool)
    (events : List DeploymentEvent) : Option DeploymentPool :=
  runSteps (Deployment.next P W) pool events

theorem Deployment.run_split {P : Platform} {W : Wiring} {pool middle final : DeploymentPool}
    {before after : List DeploymentEvent}
    (ranBefore : Deployment.run P W pool before = some middle) :
    Deployment.run P W pool (before ++ after) = some final ↔
      Deployment.run P W middle after = some final := by
  rw [Deployment.run, runSteps_append]
  change (Deployment.run P W pool before).bind _ = _ ↔ _
  rw [ranBefore]
  rfl

theorem Deployment.run_snoc {P : Platform} {W : Wiring} {pool middle final : DeploymentPool}
    {before : List DeploymentEvent} {event : DeploymentEvent}
    (ranBefore : Deployment.run P W pool before = some middle)
    (moved : Deployment.next P W middle event = some final) :
    Deployment.run P W pool (before ++ [event]) = some final :=
  runSteps_snoc _ ranBefore moved

/-! ## The small city -/

namespace SmallCity

/-- Redis gives back the positions as they are, sets and rows come in their order. -/
def wiring : Wiring where
  floatOfDecimal := fun decimal =>
    match decimal.toRat? with
    | none => .nan
    | some value => .ofRat value
  geopos := fun indexed driverId =>
    (indexed.find? fun located => decide (located.member = driverId)).map
      fun located => (located.lat, located.lng)
  setOrder := id
  setOrder_perm := List.Perm.refl
  rowOrder := id
  rowOrder_perm := List.Perm.refl

/-- Run a schedule of the process from the opening of the city. -/
def playAll (events : List DeploymentEvent) : Option DeploymentPool :=
  Deployment.run platform wiring (Pool.start (Deployment.opening store)) events

/-- Let one task of the process perform this many calls. -/
def moves (pid count : Nat) : List DeploymentEvent :=
  List.replicate count (.step pid)

end SmallCity

end RideHailing
