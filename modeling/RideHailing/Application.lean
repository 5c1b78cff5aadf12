import RideHailing.Services

/-!
# The application as a machine

The routes that sign users in and turn them into drivers, and the requests the
application serves.  A token stands for the claims signed into it.  A request
carries what its handler draws from outside: the fresh identifier of the row it
may insert, the reading of the clock, the salt of a password hash.
-/

namespace RideHailing

open Service

/-- The claims of `generate(username, role)`. -/
structure Token where
  username : String
  role : Role
deriving DecidableEq, Repr

/-- `str.upper` on the letters that occur in a role name; besides the ASCII
letters only the dotless i has one of them as its upper case. -/
def upperLetter (letter : Char) : Char :=
  if letter = 'ı' then 'I' else letter.toUpper

/-- `Role(mode.upper())`. -/
def parseMode (mode : String) : Option Role :=
  let letters := mode.toList.map upperLetter
  if letters = "RIDER".toList then some .rider
  else if letters = "DRIVER".toList then some .driver
  else none

namespace Auth

/-- `resolve_current_user` for an authenticated username. -/
def resolveCurrentUser (username : String) : Service User := do
  match ← call (.userFindByUsername username) with
  | none => reject 401 "Not authenticated"
  | some user => return user

/-- `auth_attempt_rate_limiter.allow(client_ip)`. -/
def attemptAllowed (P : Platform) (clientIp : String) : Service Bool :=
  call (.limiterHit P.authAttemptsLimitPer15Min (15 * 60) clientIp)

def register (P : Platform) (clientIp username password newId salt : String) :
    Service Token := do
  if ¬ (← attemptAllowed P clientIp) then
    reject 429 "Too many attempts — try again later"
  if ← call (.userExistsByUsername username) then
    reject 409 "Username already taken"
  let user ← call (.userSave {
    username := username, passwordHash := P.hashPassword salt password, id := newId })
  return ⟨user.username, .rider⟩

def login (P : Platform) (clientIp username password : String) :
    Service Token := do
  if ¬ (← attemptAllowed P clientIp) then
    reject 429 "Too many attempts — try again later"
  match ← call (.userFindByUsername username) with
  | none => reject 401 "Invalid credentials"
  | some user =>
      if ¬ P.checkPassword password user.passwordHash then
        reject 401 "Invalid credentials"
      return ⟨user.username, user.role⟩

def switchMode (username mode : String) : Service Token := do
  match parseMode mode with
  | none => reject 400 "Invalid mode"
  | some .rider => return ⟨username, .rider⟩
  | some .driver =>
      match ← call (.userFindByUsername username) with
      | none => reject 401 "Unauthorized"
      | some user =>
          if user.role ≠ .driver then
            reject 403 "Forbidden"
          return ⟨username, .driver⟩

/-- `POST /driver/register`. -/
def registerAsDriver (username vehicleType licensePlate : String) :
    Service (Driver × Token) := do
  let user ← resolveCurrentUser username
  let driver ← DriverService.registerDriver user.id vehicleType licensePlate
  let _ ← call (.userSave { user with role := .driver })
  return (driver, ⟨user.username, .driver⟩)

end Auth

inductive Request where
  | requestRide (newId : String) (now : Timestamp) (riderId : String)
      (pickupLat pickupLng dropoffLat dropoffLng : Float64)
  | acceptRide (rideId driverId : String)
  | startRide (rideId driverId : String)
  | completeRide (rideId driverId : String) (now : Timestamp)
  | cancelRide (rideId userId : String)
  | registerDriver (userId vehicleType licensePlate : String)
  | goOnline (userId : String) (lat lng : Float64)
  | goOffline (userId : String)
  | updateLocation (userId : String) (lat lng : Float64)
  | rate (rideId fromUserId : String) (score : Int) (comment : Option String)
      (newId : String) (now : Timestamp)
  | authRegister (clientIp username password newId salt : String)
  | login (clientIp username password : String)
  | switchMode (username mode : String)
  | driverRegister (username vehicleType licensePlate : String)
deriving DecidableEq, Repr

inductive Response where
  | ride (ride : Ride)
  | driver (driver : Driver)
  | token (token : Token)
  | registered (driver : Driver) (token : Token)
  | noContent
deriving DecidableEq, Repr

abbrev Outcome : Type := Except Failure Response

/-- The handler of a request. -/
def handler (P : Platform) : Request → Service Response
  | .requestRide newId now riderId pickupLat pickupLng dropoffLat dropoffLng =>
      return .ride (← RideService.requestRide P newId now riderId pickupLat pickupLng
        dropoffLat dropoffLng)
  | .acceptRide rideId driverId =>
      return .ride (← RideService.acceptRide rideId driverId)
  | .startRide rideId driverId =>
      return .ride (← RideService.startRide rideId driverId)
  | .completeRide rideId driverId now =>
      return .ride (← RideService.completeRide rideId driverId now)
  | .cancelRide rideId userId =>
      return .ride (← RideService.cancelRide rideId userId)
  | .registerDriver userId vehicleType licensePlate =>
      return .driver (← DriverService.registerDriver userId vehicleType licensePlate)
  | .goOnline userId lat lng => return .driver (← DriverService.goOnline userId lat lng)
  | .goOffline userId => return .driver (← DriverService.goOffline userId)
  | .updateLocation userId lat lng => do
      DriverService.updateLocation P userId lat lng
      return .noContent
  | .rate rideId fromUserId score comment newId now => do
      RatingService.rate rideId fromUserId score comment newId now
      return .noContent
  | .authRegister clientIp username password newId salt =>
      return .token (← Auth.register P clientIp username password newId salt)
  | .login clientIp username password =>
      return .token (← Auth.login P clientIp username password)
  | .switchMode username mode => return .token (← Auth.switchMode username mode)
  | .driverRegister username vehicleType licensePlate => do
      let (driver, token) ← Auth.registerAsDriver username vehicleType licensePlate
      return .registered driver token

/-- The identifiers that `_new_id` draws for a request. -/
def Request.draws : Request → List String
  | .requestRide newId _ _ _ _ _ _ => [newId]
  | .rate _ _ _ _ newId _ => [newId]
  | .authRegister _ _ _ newId _ => [newId]
  | _ => []

/-- No row has this identifier. -/
def Store.unused (newId : String) (store : Store) : Bool :=
  (store.rides.find newId).isNone && (store.users.find newId).isNone &&
    (store.ratings.find newId).isNone

/-- The application; on its own only the clock moves, by milliseconds. -/
def application (P : Platform) :
    Machine Value Fault Store Request Outcome String Nat where
  program := handler P
  perform := P.perform
  breakable := breakable
  draws := Request.draws
  unused := Store.unused
  ambient := fun elapsed store => { store with clock := store.clock + elapsed }

abbrev ApplicationPool := Pool Value Fault Store Request Outcome

abbrev ApplicationEvent := Event Fault Request Nat

/-- The request of a task that has returned. -/
def returned (pool : ApplicationPool) (pid : Nat) : Option Request :=
  match pool.ended? pid with
  | some (request, .ok _) => some request
  | _ => none

/-! ## A small city

Two riders and two drivers in a city of two places, the centre and the market, for runs
that show how the application behaves. -/

namespace SmallCity

/-- The latitude and the longitude of the centre, and the longitude of the market. -/
def centre : Float64 :=
  .finite 0

/-- The latitude of the market. -/
def market : Float64 :=
  .ofRat (9 / 1000)

/-- How far the market is from the centre: `haversine_km(0.0, 0.0, 0.009, 0.0)`. -/
def blockKm : Float64 :=
  .ofRat (10007543398010286 / 10 ^ 16)

/-- Two points of the city are the same place, or they are a block apart. -/
def cityKm (lat lng lat' lng' : Float64) : Float64 :=
  if lat = lat' ∧ lng = lng' then .finite 0 else blockKm

/-- The whole city is within every radius; those at the place itself come first. -/
def cityMembers (indexed : List Located) (lat lng : Float64) : List (String × Float64) :=
  let distances := indexed.map fun located =>
    (located.member, cityKm located.lat located.lng lat lng)
  distances.filter (fun found => found.2 = .finite 0) ++
    distances.filter (fun found => found.2 ≠ .finite 0)

def platform : Platform where
  haversineKm := fun lat lng lat' lng' => .ok (cityKm lat lng lat' lng')
  decimalOfStr := fun distanceKm =>
    if distanceKm = blockKm then .finite 10007543398010286 (-16) else .finite 0 (-1)
  geoAccepts := fun _ _ => true
  geosearch := fun indexed lat lng _ count => some ((cityMembers indexed lat lng).take count)
  firstRow := List.head?
  firstRow_mem := fun found => List.mem_of_mem_head? found
  firstRow_none := fun absent => List.head?_eq_none_iff.mp absent
  hashPassword := fun salt password => salt ++ "$" ++ password
  checkPassword := fun password hash =>
    decide (("$" ++ password).toList <:+ hash.toList)
  admitsHit := fun capacity _ hits _ => decide (hits.length < capacity)
  authAttemptsLimitPer15Min := 10

def ann : User :=
  { username := "ann", passwordHash := "s1$apple", id := "u1" }

def bob : User :=
  { username := "bob", passwordHash := "s2$birch", id := "u2" }

def dan : User :=
  { username := "dan", passwordHash := "s3$cedar", id := "u3", role := .driver }

def eve : User :=
  { username := "eve", passwordHash := "s4$elder", id := "u4", role := .driver }

def danDriver : Driver :=
  { userId := "u3", vehicleType := "sedan", licensePlate := "A1", isAvailable := true }

def eveDriver : Driver :=
  { userId := "u4", vehicleType := "van", licensePlate := "B2", isAvailable := true }

def store : Store :=
  Store.opening ⟨⟨[ann, bob, dan, eve], by decide⟩, by decide⟩
    ⟨[danDriver, eveDriver], by decide⟩

/-- A request for a ride from the centre to the market. -/
def wants (rideId riderId : String) : Request :=
  .requestRide rideId 0 riderId centre centre market centre

/-- Let one task perform this many calls. -/
def steps (pid count : Nat) : List ApplicationEvent :=
  List.replicate count (.step pid)

/-- Run a schedule from the opening of the city. -/
def play (events : List ApplicationEvent) : Option ApplicationPool :=
  (application platform).run (Pool.start store) events

end SmallCity

end RideHailing
