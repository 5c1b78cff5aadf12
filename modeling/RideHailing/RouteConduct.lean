import RideHailing.CallMonitors
import RideHailing.Routes

/-!
# What a request knows when it acts

A request that writes a user back writes the copy that it has read, and it makes a
driver of a user only after it has stored the driver's profile.  A token with the
driver's role is given in the same two cases only.  Behind the guard of a driver's
route a profile is looked for under the identifier of the user whom the token names,
and nothing but a search in vain makes a request complain that there is none.
-/

namespace RideHailing

open Service Auth

/-- What a request has learned and done: the users that it has read, the profiles that
it has stored, whether a profile that it looked for was absent, and whether it has
stored a user. -/
structure Dealings where
  users : List User := []
  profiles : List String := []
  missed : Bool := false
  saved : Bool := false

/-- The rejections of `get_profile`, `mark_available_by_id` and `accept_ride` when there
is no profile. -/
def Failure.LacksProfile (failure : Failure) : Prop :=
  failure = .http 404 "No driver profile found" ∨
    failure = .http 403 "No driver profile found — register as a driver first"

instance (failure : Failure) : Decidable failure.LacksProfile := by
  unfold Failure.LacksProfile
  infer_instance

namespace Dealings

/-- The row is a copy of one that was read, or it makes a driver of a user whose profile
has been stored. -/
def Vouches (note : Dealings) (user : User) : Prop :=
  ∃ seen ∈ note.users, seen.id = user.id ∧ seen.username = user.username ∧
    (user.role = .driver → seen.role = .driver ∨ user.id ∈ note.profiles)

/-- The identifier is that of the user whom the request's token for the driver's mode
names. -/
def Admits (route : Route) (note : Dealings) (userId : String) : Prop :=
  ∃ token, route.token = some token ∧ token.role = .driver ∧
    ∃ user ∈ note.users, user.username = token.username ∧ user.id = userId

/-- The token's user has been read, and drives already or has a stored profile. -/
def Grants (note : Dealings) (token : Token) : Prop :=
  token.role = .driver → ∃ seen ∈ note.users, seen.username = token.username ∧
    (seen.role = .driver ∨ seen.id ∈ note.profiles)

def allows (route : Route) (note : Dealings) : Call → Prop
  | .userSave user =>
      (note.saved = false ∧ user.id ∈ route.draws ∧ user.role = .rider) ∨ note.Vouches user
  | .driverFindById userId =>
      route.endpoint.requiredRole = some .driver → note.Admits route userId
  | _ => True

/-- A repository returns the row that it was asked for. -/
def answers : (call : Call) → Except Fault (Value call) → Prop
  | .userFindByUsername username, .ok (some user) => user.username = username
  | _, _ => True

def after (note : Dealings) : (call : Call) → Except Fault (Value call) → Dealings
  | .userFindById _, .ok (some user) => { note with users := user :: note.users }
  | .userFindByUsername _, .ok (some user) => { note with users := user :: note.users }
  | .driverFindById _, .ok none => { note with missed := true }
  | .driverMerge driver, .ok _ => { note with profiles := driver.userId :: note.profiles }
  | .userSave _, .ok _ => { note with saved := true }
  | _, _ => note

/-- A complaint about a missing profile follows a search in vain. -/
def Excuses (failure : Failure) (note : Dealings) : Prop :=
  failure.LacksProfile → note.missed = true

/-- Any of these profiles may be looked for. -/
def Opens (route : Route) (drivers : String → Prop) (note : Dealings) : Prop :=
  ∀ userId, drivers userId → note.allows route (.driverFindById userId)

end Dealings

/-- The monitor of a request. -/
def dealing (route : Route) : CallMonitor Value Fault Dealings where
  start := {}
  allows := Dealings.allows route
  answers := Dealings.answers
  after := Dealings.after

/-- Begun with this note, the service makes allowed calls and ends as said. -/
abbrev Deals {α : Type} (route : Route) (note : Dealings) (action : Service α)
    (returns : α → Dealings → Prop) : Prop :=
  (dealing route).Watches action (CallMonitor.Leaves returns Dealings.Excuses) note

/-- The service looks for these profiles only and stores no user. -/
def Modest {α : Type} (route : Route) (drivers : String → Prop) (action : Service α) :
    Prop :=
  ∀ note : Dealings, note.Opens route drivers →
    Deals route note action fun _ after => after.Opens route drivers

/-- The call stores no user and looks for no profile. -/
def Call.discreet : Call → Bool
  | .userSave _ => false
  | .driverFindById _ => false
  | _ => true

section Rules

variable {α β : Type} {route : Route} {drivers : String → Prop} {note : Dealings}
variable {action : Service α}

/-- Reading more users and storing more opens no less. -/
theorem Dealings.Opens.after (opens : note.Opens route drivers) (awaited : Call)
    (reply : Except Fault (Value awaited)) :
    (note.after awaited reply).Opens route drivers := by
  have grown : ∀ user ∈ note.users, user ∈ (note.after awaited reply).users := by
    intro user seen
    unfold Dealings.after
    split <;> simp [seen]
  intro userId driving required
  obtain ⟨token, presented, role, user, seen, named, same⟩ := opens userId driving required
  exact ⟨token, presented, role, user, grown user seen, named, same⟩

theorem deals_bind {next : α → Service β} {middle : α → Dealings → Prop}
    {final : β → Dealings → Prop} (first : Deals route note action middle)
    (second : ∀ result later, middle result later →
      Deals route later (next result) final) :
    Deals route note (action >>= next) final :=
  first.andThen second

theorem deals_raise {failure : Failure} {returns : α → Dealings → Prop}
    (quiet : ¬ failure.LacksProfile) :
    Deals route note (raise failure : Service α) returns :=
  fun lacks => absurd lacks quiet

theorem deals_guard {condition : Prop} [Decidable condition] {status : Nat}
    {detail : String} {returns : α → Dealings → Prop}
    (quiet : ¬ (Failure.http status detail).LacksProfile)
    (goesOn : ¬ condition → Deals route note action returns) :
    Deals route note (if condition then reject status detail else action) returns := by
  split
  · exact deals_raise quiet
  · exact goesOn ‹_›

theorem deals_call {awaited : Call} {returns : Value awaited → Dealings → Prop}
    (allowed : note.allows route awaited)
    (replied : ∀ value, Dealings.answers awaited (.ok value) →
      returns value (note.after awaited (.ok value))) :
    Deals route note (call awaited) returns := by
  apply CallMonitor.watches_perform allowed replied
  intro fault _ lacks
  rcases lacks with same | same <;> cases same

theorem modest_bind {next : α → Service β} (first : Modest route drivers action)
    (second : ∀ result, Modest route drivers (next result)) :
    Modest route drivers (action >>= next) := by
  intro note opens
  apply deals_bind (first note opens)
  intro result later opened
  exact second result later opened

theorem modest_pure (result : α) : Modest route drivers (pure result : Service α) :=
  fun _ opens => opens

theorem modest_raise {failure : Failure} (quiet : ¬ failure.LacksProfile) :
    Modest route drivers (raise failure : Service α) :=
  fun _ _ => deals_raise quiet

theorem modest_guard {condition : Prop} [Decidable condition] {status : Nat}
    {detail : String} (quiet : ¬ (Failure.http status detail).LacksProfile)
    (goesOn : Modest route drivers action) :
    Modest route drivers (if condition then reject status detail else action) :=
  fun note opens => deals_guard quiet fun _ => goesOn note opens

/-- A discreet call is allowed at any time. -/
theorem deals_discreet {awaited : Call} (discreet : awaited.discreet = true) :
    Deals route note (call awaited) fun value after =>
      Dealings.answers awaited (.ok value) ∧ after = note.after awaited (.ok value) := by
  apply deals_call
  · cases awaited <;> trivial
  · intro value answered
    exact ⟨answered, rfl⟩

theorem modest_call {awaited : Call} (discreet : awaited.discreet = true) :
    Modest route drivers (call awaited) := by
  intro note opens
  apply (deals_discreet discreet).mono
  rintro (failure | value) later leaves
  · exact leaves
  · rw [leaves.2]
    exact opens.after awaited (.ok value)

/-- Rejecting a request because a profile was looked for in vain. -/
theorem modest_profile {userId detail : String} {status : Nat}
    {next : Driver → Service α} (driving : drivers userId)
    (found : ∀ driver, Modest route drivers (next driver)) :
    Modest route drivers (do
      match ← call (.driverFindById userId) with
      | none => reject status detail
      | some driver => next driver) := by
  intro note opens
  have looked : Deals route note (call (.driverFindById userId)) fun found after =>
      after.Opens route drivers ∧ (found = none → after.missed = true) := by
    apply deals_call (opens userId driving)
    intro found _
    refine ⟨opens.after _ _, ?_⟩
    rintro rfl
    rfl
  apply deals_bind looked
  rintro (_ | driver) later ⟨opened, missed⟩
  · exact fun _ => missed rfl
  · exact found driver later opened

/-- The release of the lock adds nothing to what the body has learned. -/
theorem modest_lock (inside : Modest route drivers action) :
    Modest route drivers (RideService.withAcceptLock action) := by
  apply modest_bind (modest_call rfl)
  intro _ note opens
  apply CallMonitor.watches_ensuring
  apply (inside note opens).mono
  intro outcome later leaves
  refine ⟨trivial, fun reply _ => ?_⟩
  cases reply with
  | ok _ => cases outcome <;> exact leaves
  | error fault =>
      intro lacks
      rcases lacks with same | same <;> cases same

theorem modest_compute (computed : Except String α) :
    Modest route drivers (compute computed) := by
  cases computed with
  | ok value => exact modest_pure value
  | error name => exact modest_raise (by simp [Failure.LacksProfile])

theorem modest_decimal (computed : Option Decimal) :
    Modest route drivers (decimal computed) := by
  cases computed with
  | some value => exact modest_pure value
  | none => exact modest_raise (by simp [Failure.LacksProfile])

end Rules

/-! ## The services -/

variable {P : Platform} {route : Route} {drivers : String → Prop}

theorem save_modest (driver : Driver) :
    Modest route drivers (DriverRepository.save driver) := by
  unfold DriverRepository.save
  apply modest_bind (modest_call rfl)
  intro saved
  split
  · exact modest_bind (modest_call rfl) fun _ => modest_pure _
  · exact modest_bind (modest_call rfl) fun _ => modest_pure _

theorem getProfile_modest {userId : String} (driving : drivers userId) :
    Modest route drivers (DriverService.getProfile userId) :=
  modest_profile driving fun _ => modest_pure _

theorem markById_modest {userId : String} (isAvailable : Bool) (driving : drivers userId) :
    Modest route drivers (DriverService.markById isAvailable userId) :=
  modest_profile driving fun _ => save_modest _

theorem goOnline_modest {userId : String} (lat lng : Float64) (driving : drivers userId) :
    Modest route drivers (DriverService.goOnline userId lat lng) := by
  unfold DriverService.goOnline
  apply modest_bind (getProfile_modest driving)
  intro _
  exact modest_bind (modest_call rfl) fun _ => markById_modest _ driving

theorem goOffline_modest {userId : String} (driving : drivers userId) :
    Modest route drivers (DriverService.goOffline userId) := by
  unfold DriverService.goOffline
  apply modest_bind (getProfile_modest driving)
  intro _
  apply modest_bind (modest_call rfl)
  intro _
  apply modest_bind (markById_modest _ driving)
  intro _
  exact modest_bind (modest_call rfl) fun _ => modest_pure _

theorem updateLocation_modest {userId : String} (lat lng : Float64)
    (driving : drivers userId) :
    Modest route drivers (DriverService.updateLocation P userId lat lng) := by
  unfold DriverService.updateLocation
  apply modest_bind (getProfile_modest driving)
  intro _
  apply modest_bind (modest_call rfl)
  intro _
  apply modest_bind (modest_call rfl)
  intro serving
  cases serving with
  | none => exact modest_pure _
  | some ride =>
      apply modest_bind (modest_compute _)
      intro distanceKm
      exact modest_bind (modest_compute _) fun _ => modest_call rfl

theorem findNearbyAvailableDrivers_modest (lat lng radiusKm : Float64) :
    Modest route drivers (findNearbyAvailableDrivers lat lng radiusKm) := by
  unfold findNearbyAvailableDrivers
  apply modest_bind (modest_call rfl)
  intro results
  split
  · exact modest_pure _
  · exact modest_bind (modest_call rfl) fun _ => modest_pure _

theorem getSurgeMultiplier_modest (lat lng : Float64)
    (pendingRides availableDrivers : Nat) :
    Modest route drivers
      (PricingService.getSurgeMultiplier lat lng pendingRides availableDrivers) := by
  unfold PricingService.getSurgeMultiplier
  apply modest_bind (modest_call rfl)
  intro cached
  cases cached with
  | some multiplier => exact modest_pure _
  | none =>
      apply modest_bind (modest_decimal _)
      intro multiplier
      exact modest_bind (modest_call rfl) fun _ => modest_pure _

theorem calculateFare_modest (ride : Ride) :
    Modest route drivers (RideService.calculateFare P ride) := by
  unfold RideService.calculateFare PricingService.getFareQuote
  apply modest_bind (modest_call rfl)
  intro pendingRides
  apply modest_bind (findNearbyAvailableDrivers_modest _ _ _)
  intro nearby
  apply modest_bind ?_ fun _ => modest_pure _
  apply modest_bind (modest_compute _)
  intro distanceKm
  apply modest_bind (getSurgeMultiplier_modest _ _ _ _)
  intro surge
  exact modest_bind (modest_decimal _) fun _ => modest_pure _

theorem publishing_modest (ride : Ride) (topic : Topic) :
    Modest route drivers (do
      let stored ← call (.rideSave ride)
      call (.publish topic stored.id)
      return stored) := by
  apply modest_bind (modest_call rfl)
  intro stored
  exact modest_bind (modest_call rfl) fun _ => modest_pure _

theorem requestRide_modest (newId : String) (now : Timestamp) (riderId : String)
    (pickupLat pickupLng dropoffLat dropoffLng : Float64) :
    Modest route drivers (RideService.requestRide P newId now riderId pickupLat pickupLng
      dropoffLat dropoffLng) := by
  unfold RideService.requestRide
  simp only [reject_bind]
  apply modest_bind (modest_call rfl)
  intro active
  apply modest_guard (by decide)
  apply modest_bind (calculateFare_modest _)
  intro estimatedFare
  exact publishing_modest _ _

theorem getRide_modest (rideId : String) :
    Modest route drivers (RideService.getRide rideId) := by
  unfold RideService.getRide
  apply modest_bind (modest_call rfl)
  intro found
  cases found with
  | none => exact modest_raise (by decide)
  | some ride => exact modest_pure _

theorem acceptRide_modest {driverId : String} (rideId : String)
    (driving : drivers driverId) :
    Modest route drivers (RideService.acceptRide rideId driverId) := by
  apply modest_lock
  simp only [reject_bind]
  apply modest_bind (getRide_modest _)
  intro ride
  apply modest_guard (by decide)
  apply modest_profile driving
  intro driver
  apply modest_guard (by decide)
  apply modest_bind (markById_modest _ driving)
  intro _
  exact publishing_modest _ _

theorem startRide_modest (rideId driverId : String) :
    Modest route drivers (RideService.startRide rideId driverId) := by
  unfold RideService.startRide
  simp only [reject_bind]
  apply modest_bind (getRide_modest _)
  intro ride
  apply modest_guard (by decide)
  apply modest_guard (by decide)
  exact modest_call rfl

theorem completeRide_modest {driverId : String} (rideId : String) (now : Timestamp)
    (driving : drivers driverId) :
    Modest route drivers (RideService.completeRide rideId driverId now) := by
  unfold RideService.completeRide
  simp only [reject_bind]
  apply modest_bind (getRide_modest _)
  intro ride
  apply modest_guard (by decide)
  apply modest_guard (by decide)
  apply modest_bind (modest_call rfl)
  intro saved
  apply modest_bind (markById_modest _ driving)
  intro _
  exact modest_bind (modest_call rfl) fun _ => modest_pure _

/-- Cancelling a ride frees its driver, who may be anyone. -/
theorem cancelRide_modest (rideId userId : String) (anyone : ∀ driverId, drivers driverId) :
    Modest route drivers (RideService.cancelRide rideId userId) := by
  unfold RideService.cancelRide
  simp only [reject_bind]
  apply modest_bind (getRide_modest _)
  intro ride
  apply modest_guard (by simp [Failure.LacksProfile])
  apply modest_guard (by decide)
  cases ride.driverId with
  | none => exact publishing_modest _ _
  | some driverId =>
      apply modest_bind (markById_modest _ (anyone driverId))
      intro _
      exact publishing_modest _ _

/-! ## Accounts and ratings -/

variable {note : Dealings}

theorem saveDriver_deals (driver : Driver) :
    Deals route note (DriverRepository.save driver) fun _ after =>
      after = { note with profiles := driver.userId :: note.profiles } := by
  unfold DriverRepository.save
  apply deals_bind (deals_discreet rfl)
  rintro saved _ ⟨_, rfl⟩
  split
  · apply deals_bind (deals_discreet rfl)
    rintro _ _ ⟨_, rfl⟩
    rfl
  · apply deals_bind (deals_discreet rfl)
    rintro _ _ ⟨_, rfl⟩
    rfl

theorem findByUsername_deals (username : String) :
    Deals route note (call (.userFindByUsername username)) fun found after =>
      ∀ user, found = some user → user.username = username ∧ user ∈ after.users := by
  apply deals_call
  · trivial
  · rintro found answered user rfl
    exact ⟨answered, List.mem_cons_self⟩

/-- A user with a new identifier is stored as a rider. -/
theorem insert_deals {user : User} (unsaved : note.saved = false)
    (drawn : user.id ∈ route.draws) (rider : user.role = .rider) :
    Deals route note (call (.userSave user)) fun _ _ => True :=
  deals_call (Or.inl ⟨unsaved, drawn, rider⟩) fun _ _ => trivial

/-- A user is written back. -/
theorem writeBack_deals {user : User} (vouched : note.Vouches user) :
    Deals route note (call (.userSave user)) fun _ after =>
      after = { note with saved := true } :=
  deals_call (Or.inr vouched) fun _ _ => rfl

theorem resolveCurrentUser_deals (username : String) :
    Deals route note (resolveCurrentUser username) fun user after =>
      user.username = username ∧ user ∈ after.users := by
  unfold resolveCurrentUser
  apply deals_bind (findByUsername_deals username)
  rintro (_ | user) later known
  · exact deals_raise (by decide)
  · exact known user rfl

theorem authRegister_deals {newId : String} (clientIp username password salt : String)
    (drawn : newId ∈ route.draws) (unsaved : note.saved = false) :
    Deals route note (Auth.register P clientIp username password newId salt)
      fun token _ => token.role = .rider := by
  unfold Auth.register attemptAllowed
  simp only [reject_bind]
  apply deals_bind (deals_discreet rfl)
  rintro allowed _ ⟨_, rfl⟩
  apply deals_guard (by decide)
  intro _
  apply deals_bind (deals_discreet rfl)
  rintro present _ ⟨_, rfl⟩
  apply deals_guard (by decide)
  intro _
  apply deals_bind (insert_deals unsaved drawn rfl)
  intro user _ _
  rfl

theorem login_deals (clientIp username password : String) :
    Deals route note (Auth.login P clientIp username password)
      fun token after => after.Grants token := by
  unfold Auth.login attemptAllowed
  simp only [reject_bind]
  apply deals_bind (deals_discreet rfl)
  intro allowed later _
  apply deals_guard (by decide)
  intro _
  apply deals_bind (findByUsername_deals username)
  rintro (_ | user) later known
  · exact deals_raise (by decide)
  · apply deals_guard (by decide)
    intro _ driving
    exact ⟨user, (known user rfl).2, rfl, Or.inl driving⟩

theorem switchMode_deals (username mode : String) :
    Deals route note (Auth.switchMode username mode)
      fun token after => after.Grants token := by
  unfold Auth.switchMode
  cases parseMode mode with
  | none => exact deals_raise (by decide)
  | some role =>
      cases role with
      | rider =>
          intro driving
          cases driving
      | driver =>
          apply deals_bind (findByUsername_deals username)
          rintro (_ | user) later known
          · exact deals_raise (by decide)
          · apply deals_guard (by decide)
            intro driving _
            obtain ⟨named, seen⟩ := known user rfl
            exact ⟨user, seen, named, Or.inl (not_not.mp driving)⟩

/-- The user becomes a driver after the profile has been stored. -/
theorem driverRegister_deals (username vehicleType licensePlate : String) :
    Deals route note (registerAsDriver username vehicleType licensePlate)
      fun result after => after.Grants result.2 := by
  unfold registerAsDriver
  apply deals_bind (resolveCurrentUser_deals username)
  rintro user known ⟨named, seen⟩
  have registers : Deals route known
      (DriverService.registerDriver user.id vehicleType licensePlate)
      fun _ after => after = { known with profiles := user.id :: known.profiles } := by
    unfold DriverService.registerDriver
    simp only [reject_bind]
    apply deals_bind (deals_discreet rfl)
    rintro present _ ⟨_, rfl⟩
    apply deals_guard (by decide)
    intro _
    exact saveDriver_deals _
  apply deals_bind registers
  rintro driver _ rfl
  have vouched : Dealings.Vouches { known with profiles := user.id :: known.profiles }
      { user with role := .driver } :=
    ⟨user, seen, rfl, rfl, fun _ => Or.inr List.mem_cons_self⟩
  apply deals_bind (writeBack_deals vouched)
  rintro _ _ rfl _
  exact ⟨user, seen, rfl, Or.inr List.mem_cons_self⟩

theorem ratedUser_modest (ride : Ride) (fromUserId : String) :
    Modest route drivers (RatingService.ratedUser ride fromUserId) := by
  unfold RatingService.ratedUser
  split
  · cases ride.driverId with
    | none => exact modest_raise (by decide)
    | some driverId => exact modest_pure _
  · split
    · exact modest_pure _
    · exact modest_raise (by decide)

/-- A user is read and written back with the same name and role. -/
theorem writesBack_deals {userId : String} {change : User → User}
    (same : ∀ user, (change user).id = user.id ∧ (change user).username = user.username ∧
      (change user).role = user.role) :
    Deals route note (do
      match ← call (.userFindById userId) with
      | none => pure ()
      | some user => let _ ← call (.userSave (change user))) fun _ _ => True := by
  have reads : Deals route note (call (.userFindById userId)) fun found after =>
      ∀ user, found = some user → user ∈ after.users := by
    apply deals_call
    · trivial
    · rintro found _ user rfl
      exact List.mem_cons_self
  apply deals_bind reads
  rintro (_ | user) later known
  · trivial
  · obtain ⟨sameId, sameName, sameRole⟩ := same user
    apply deals_bind (writeBack_deals ⟨user, known user rfl, sameId.symm, sameName.symm,
      fun driving => Or.inl (sameRole.symm.trans driving)⟩)
    intro _ _ _
    trivial

theorem rate_deals (rideId fromUserId : String) (score : Int) (comment : Option String)
    (newId : String) (now : Timestamp) (opened : ∀ later, Dealings.Opens route drivers later)
    (anyone : ∀ driverId, drivers driverId) :
    Deals route note (RatingService.rate rideId fromUserId score comment newId now)
      fun _ _ => True := by
  unfold RatingService.rate
  simp only [reject_bind]
  apply deals_guard (by decide)
  intro _
  apply deals_bind (getRide_modest rideId note (opened note))
  intro ride later _
  apply deals_guard (by decide)
  intro _
  apply deals_bind (ratedUser_modest ride fromUserId later (opened later))
  intro toUserId later _
  apply deals_bind (deals_discreet rfl)
  intro rated later _
  apply deals_guard (by decide)
  intro _
  apply deals_bind (deals_discreet rfl)
  intro _ later _
  have looks : Deals route later (call (.driverFindById toUserId)) fun _ _ => True :=
    deals_call (opened later toUserId (anyone toUserId)) fun _ _ => trivial
  apply deals_bind looks
  rintro (_ | driver) later _
  · exact writesBack_deals fun _ => ⟨rfl, rfl, rfl⟩
  · apply deals_bind (saveDriver_deals _)
    intro _ later _
    exact writesBack_deals fun _ => ⟨rfl, rfl, rfl⟩

/-! ## Routes -/

theorem role_of_authorities {token : Token} (held : .driver ∈ token.authorities) :
    token.role = .driver := by
  unfold Token.authorities at held
  split at held
  · assumption
  · simp at held

/-- The dependencies let a driver's route go on for the user of a token for the
driver's mode. -/
theorem asUser_deals {body : User → Service Response} {returns : Response → Dealings → Prop}
    (goesOn : ∀ user later,
      (route.endpoint.requiredRole = some .driver → Dealings.Admits route later user.id) →
        Deals route later (body user) returns) :
    Deals route note (asUser route body) returns := by
  unfold asUser
  cases presented : route.token with
  | none => exact deals_raise (by decide)
  | some token =>
      apply deals_bind (resolveCurrentUser_deals token.username)
      rintro user later ⟨named, seen⟩
      cases required : route.endpoint.requiredRole with
      | none =>
          apply goesOn user later
          rw [required]
          rintro ⟨⟩
      | some role =>
          simp only [requireRole]
          split
          · rename_i held
            apply goesOn user later
            rw [required]
            rintro ⟨⟩
            exact ⟨token, presented, role_of_authorities held, user, seen, named, rfl⟩
          · apply deals_raise
            cases role <;> decide

/-- The response gives no token. -/
theorem deals_respond {α : Type} {action : Service α} {returns : α → Dealings → Prop}
    (respond : α → Response) (acts : Deals route note action returns)
    (silent : ∀ result, (respond result).issued = none) :
    Deals route note (do return respond (← action)) fun response after =>
      ∀ token, response.issued = some token → after.Grants token := by
  apply deals_bind acts
  intro result later _ token issued
  rw [silent] at issued
  cases issued

theorem opens_of_admitted {userId : String}
    (admitted : route.endpoint.requiredRole = some .driver → note.Admits route userId) :
    note.Opens route (Eq userId) := by
  rintro _ rfl
  exact admitted

/-- A service that looks for the profile of its user only. -/
theorem deals_asUser {α : Type} {action : User → Service α} (respond : α → Response)
    (acts : ∀ user, Modest route (Eq user.id) (action user))
    (silent : ∀ result, (respond result).issued = none) :
    Deals route note (asUser route fun user => do return respond (← action user))
      fun response after => ∀ token, response.issued = some token → after.Grants token := by
  apply asUser_deals
  intro user later admitted
  exact deals_respond respond (acts user later (opens_of_admitted admitted)) silent

/-- Where no role is asked for, any profile may be looked for. -/
theorem opens_of_unguarded (unguarded : route.endpoint.requiredRole = none) :
    note.Opens route fun _ => True := by
  intro userId _ required
  rw [unguarded] at required
  cases required

/-- Every request, from its first call to its end. -/
theorem route_deals (rideRequestLimitPerMinute : Nat) (route : Route) :
    Deals route {} (route.program P rideRequestLimitPerMinute) fun response after =>
      ∀ token, response.issued = some token → after.Grants token := by
  obtain ⟨token, endpoint⟩ := route
  cases endpoint with
  | authRegister clientIp username password newId salt =>
      apply deals_bind (authRegister_deals clientIp username password salt
        List.mem_cons_self rfl)
      rintro issued later rider _ ⟨⟩ driving
      rw [rider] at driving
      cases driving
  | login clientIp username password =>
      apply deals_bind (login_deals clientIp username password)
      rintro issued later granted _ ⟨⟩
      exact granted
  | switchMode mode =>
      cases token with
      | none => exact deals_raise (by decide)
      | some token =>
          apply deals_bind (switchMode_deals token.username mode)
          rintro issued later granted _ ⟨⟩
          exact granted
  | driverRegister vehicleType licensePlate =>
      cases token with
      | none => exact deals_raise (by decide)
      | some token =>
          apply deals_bind (driverRegister_deals token.username vehicleType licensePlate)
          rintro ⟨driver, issued⟩ later granted _ ⟨⟩
          exact granted
  | driverProfile => exact deals_asUser .driver (fun _ => getProfile_modest rfl) fun _ => rfl
  | goOnline lat lng =>
      exact deals_asUser .driver (fun _ => goOnline_modest lat lng rfl) fun _ => rfl
  | goOffline => exact deals_asUser .driver (fun _ => goOffline_modest rfl) fun _ => rfl
  | updateLocation lat lng =>
      exact deals_asUser (fun _ => .noContent) (fun _ => updateLocation_modest lat lng rfl)
        fun _ => rfl
  | requestRide newId now pickupLat pickupLng dropoffLat dropoffLng =>
      apply asUser_deals
      intro user later admitted
      simp only [reject_bind]
      have opened := opens_of_admitted admitted
      apply deals_bind (modest_call rfl later opened)
      intro allowed later opened
      apply deals_guard (by decide)
      intro _
      exact deals_respond .ride (requestRide_modest newId now user.id pickupLat pickupLng
        dropoffLat dropoffLng later opened) fun _ => rfl
  | acceptRide rideId =>
      exact deals_asUser .ride (fun _ => acceptRide_modest rideId rfl) fun _ => rfl
  | startRide rideId =>
      exact deals_asUser .ride (fun user => startRide_modest rideId user.id) fun _ => rfl
  | completeRide rideId now =>
      exact deals_asUser .ride (fun _ => completeRide_modest rideId now rfl) fun _ => rfl
  | cancelRide rideId =>
      apply asUser_deals
      intro user later _
      exact deals_respond .ride (cancelRide_modest rideId user.id (fun _ => trivial) later
        (opens_of_unguarded rfl)) fun _ => rfl
  | rateRide rideId score comment newId now =>
      apply asUser_deals
      intro user later _
      exact deals_respond (fun _ => .noContent) (rate_deals rideId user.id score comment
        newId now (fun _ => opens_of_unguarded rfl) fun _ => trivial) fun _ => rfl

end RideHailing
