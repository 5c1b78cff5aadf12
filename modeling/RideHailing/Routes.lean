import RideHailing.Application

/-!
# The routes and their guards

A request arrives with a token, or without a valid one.  The dependencies of its
route turn the token into a user and check the active mode, and then its service
runs for this user.  A token that passes is one that the application has issued.
-/

namespace RideHailing

open Service

/-- What is asked of the application. -/
inductive Endpoint where
  | authRegister (clientIp username password newId salt : String)
  | login (clientIp username password : String)
  | switchMode (mode : String)
  | driverRegister (vehicleType licensePlate : String)
  | driverProfile
  | goOnline (lat lng : Float64)
  | goOffline
  | updateLocation (lat lng : Float64)
  | requestRide (newId : String) (now : Timestamp)
      (pickupLat pickupLng dropoffLat dropoffLng : Float64)
  | acceptRide (rideId : String)
  | startRide (rideId : String)
  | completeRide (rideId : String) (now : Timestamp)
  | cancelRide (rideId : String)
  | rateRide (rideId : String) (score : Int) (comment : Option String)
      (newId : String) (now : Timestamp)
deriving DecidableEq, Repr

/-- The request of a client; without a token when it is missing, expired or forged. -/
structure Route where
  token : Option Token
  endpoint : Endpoint
deriving DecidableEq, Repr

/-- The role that a route's `require_role` asks for. -/
def Endpoint.requiredRole : Endpoint → Option Role
  | .driverProfile => some .driver
  | .goOnline _ _ => some .driver
  | .goOffline => some .driver
  | .updateLocation _ _ => some .driver
  | .requestRide _ _ _ _ _ _ => some .rider
  | .acceptRide _ => some .driver
  | .startRide _ => some .driver
  | .completeRide _ _ => some .driver
  | _ => none

/-- `role.value`. -/
def Role.value : Role → String
  | .rider => "RIDER"
  | .driver => "DRIVER"

/-- The authorities of the context that `get_current_auth` makes of a token. -/
def Token.authorities (token : Token) : List Role :=
  if token.role = .driver then [.rider, .driver] else [.rider]

namespace Auth

def getCurrentAuth : Option Token → Service Token
  | none => reject 401 "Not authenticated"
  | some token => return token

def requireRole (role : Role) (auth : Token) : Service Unit :=
  if role ∈ auth.authorities then
    return ()
  else
    reject 403 ("Requires active " ++ role.value ++ " mode")

/-- `Depends(resolve_current_user)`, then `Depends(require_role(...))` if the route has
it, and then the route itself. -/
def asUser (route : Route) (body : User → Service Response) : Service Response := do
  let auth ← getCurrentAuth route.token
  let user ← resolveCurrentUser auth.username
  match route.endpoint.requiredRole with
  | none => pure ()
  | some role => requireRole role auth
  body user

end Auth

open Auth

/-- A route with its dependencies. -/
def Route.program (P : Platform) (rideRequestLimitPerMinute : Nat) (route : Route) :
    Service Response :=
  match route.endpoint with
  | .authRegister clientIp username password newId salt => do
      return .token (← Auth.register P clientIp username password newId salt)
  | .login clientIp username password => do
      return .token (← Auth.login P clientIp username password)
  | .switchMode mode => do
      let auth ← getCurrentAuth route.token
      return .token (← Auth.switchMode auth.username mode)
  | .driverRegister vehicleType licensePlate => do
      let auth ← getCurrentAuth route.token
      let (driver, token) ← registerAsDriver auth.username vehicleType licensePlate
      return .registered driver token
  | .driverProfile => asUser route fun user => do
      return .driver (← DriverService.getProfile user.id)
  | .goOnline lat lng => asUser route fun user => do
      return .driver (← DriverService.goOnline user.id lat lng)
  | .goOffline => asUser route fun user => do
      return .driver (← DriverService.goOffline user.id)
  | .updateLocation lat lng => asUser route fun user => do
      DriverService.updateLocation P user.id lat lng
      return .noContent
  | .requestRide newId now pickupLat pickupLng dropoffLat dropoffLng =>
      asUser route fun user => do
        if ¬ (← call (.limiterHit rideRequestLimitPerMinute 60 user.id)) then
          reject 429 "Too many ride requests — try again shortly"
        return .ride (← RideService.requestRide P newId now user.id pickupLat pickupLng
          dropoffLat dropoffLng)
  | .acceptRide rideId => asUser route fun user => do
      return .ride (← RideService.acceptRide rideId user.id)
  | .startRide rideId => asUser route fun user => do
      return .ride (← RideService.startRide rideId user.id)
  | .completeRide rideId now => asUser route fun user => do
      return .ride (← RideService.completeRide rideId user.id now)
  | .cancelRide rideId => asUser route fun user => do
      return .ride (← RideService.cancelRide rideId user.id)
  | .rateRide rideId score comment newId now => asUser route fun user => do
      RatingService.rate rideId user.id score comment newId now
      return .noContent

/-- The identifiers that `_new_id` draws for a request. -/
def Route.draws (route : Route) : List String :=
  match route.endpoint with
  | .authRegister _ _ _ newId _ => [newId]
  | .requestRide newId _ _ _ _ _ => [newId]
  | .rateRide _ _ _ newId _ => [newId]
  | _ => []

/-- The application behind its routes. -/
def routing (P : Platform) (rideRequestLimitPerMinute : Nat) :
    Machine Value Fault Store Route Outcome String Nat where
  program := Route.program P rideRequestLimitPerMinute
  perform := P.perform
  breakable := breakable
  draws := Route.draws
  unused := Store.unused
  ambient := fun elapsed store => { store with clock := store.clock + elapsed }

abbrev RoutingPool := Pool Value Fault Store Route Outcome

abbrev RoutingEvent := Event Fault Route Nat

/-- The token that `generate` signed for a response. -/
def Response.issued : Response → Option Token
  | .token signed => some signed
  | .registered _ signed => some signed
  | _ => none

/-- The token that a finished request has been given. -/
def Outcome.issued : Outcome → Option Token
  | .ok response => response.issued
  | .error _ => none

/-- The tokens issued so far. -/
def issuedTokens (pool : RoutingPool) : List Token :=
  pool.tasks.filterMap fun task => task.rest.result?.bind Outcome.issued

/-- One event.  A client presents a token that has been issued, or none. -/
def Routing.next (P : Platform) (rideRequestLimitPerMinute : Nat) (pool : RoutingPool) :
    RoutingEvent → Option RoutingPool
  | .spawn route =>
      if route.token.all fun token => decide (token ∈ issuedTokens pool) then
        (routing P rideRequestLimitPerMinute).next pool (.spawn route)
      else none
  | event => (routing P rideRequestLimitPerMinute).next pool event

/-- Perform the events of a schedule in order. -/
def Routing.run (P : Platform) (rideRequestLimitPerMinute : Nat) (pool : RoutingPool)
    (events : List RoutingEvent) : Option RoutingPool :=
  runSteps (Routing.next P rideRequestLimitPerMinute) pool events

end RideHailing
