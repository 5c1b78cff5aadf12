import RideHailing.CallMonitors
import RideHailing.Routes

/-!
# On whose behalf a request writes

A request acts for one user, its caller.  Everything it writes belongs to the caller or
to the other party of a ride that it has read: the ride they share, the other party's
profile and account, their availability.  It takes the accept lock once at most, and
gives it back before it ends, whatever fails in between.  And it asks the rate limiter
once at most, for its caller if it has one.
-/

namespace RideHailing

open Service Auth

/-- Both users take part in the ride, one as its rider and the other as its driver. -/
def Ride.Pairs (ride : Ride) (one other : String) : Prop :=
  (ride.riderId = one ∧ ride.driverId = some other) ∨
    (ride.riderId = other ∧ ride.driverId = some one)

/-- The user is the rider or the driver of the ride. -/
def Ride.Involves (ride : Ride) (userId : String) : Prop :=
  ride.riderId = userId ∨ ride.driverId = some userId

/-- Whom a request acts for, the users and the rides that it has read or committed,
whether it holds the accept lock, and whether it may no longer ask the rate limiter. -/
structure Standing where
  caller : Option String := none
  users : List User := []
  rides : List Ride := []
  holding : Bool := false
  asked : Bool := false

namespace Standing

/-- The user is the caller, or the other party of a ride of the caller's. -/
def Reaches (note : Standing) (userId : String) : Prop :=
  ∃ caller, note.caller = some caller ∧
    (userId = caller ∨ ∃ ride ∈ note.rides, ride.Pairs caller userId)

/-- The caller takes part in this ride, which the request has read or committed. -/
def TakesPart (note : Standing) (rideId : String) : Prop :=
  ∃ caller, note.caller = some caller ∧
    ∃ ride ∈ note.rides, ride.id = rideId ∧ ride.Involves caller

/-- The row keeps the identifier, the name and the password of a user that was read. -/
def Copies (note : Standing) (user : User) : Prop :=
  ∃ seen ∈ note.users, seen.id = user.id ∧ seen.username = user.username ∧
    seen.passwordHash = user.passwordHash

/-- The rating is the caller's own, of the other party of a completed ride. -/
def MayRate (note : Standing) (rating : Rating) : Prop :=
  note.caller = some rating.fromUserId ∧ ∃ ride ∈ note.rides, ride.id = rating.rideId ∧
    ride.status = .completed ∧ ride.Pairs rating.fromUserId rating.toUserId

/-- A limit per minute counts for the caller; the limit for attempts to sign in counts
before there is one. -/
def AsksAs (note : Standing) (windowSeconds : Nat) (key : String) : Prop :=
  match note.caller with
  | none => windowSeconds = 15 * 60
  | some caller => windowSeconds = 60 ∧ key = caller

def allows (enrols : User → Prop) (note : Standing) : Call → Prop
  | .rideSave ride => ∃ caller, note.caller = some caller ∧ ride.Involves caller
  | .driverMerge driver => note.Reaches driver.userId
  | .userSave user => note.users = [] ∧ enrols user ∨ note.Reaches user.id ∧ note.Copies user
  | .ratingSave rating => note.MayRate rating
  | .sadd userId => note.Reaches userId
  | .srem userId => note.Reaches userId
  | .geoadd userId _ _ => note.caller = some userId
  | .zrem userId => note.caller = some userId
  | .publish _ rideId => note.TakesPart rideId
  | .sseEmit key _ _ => note.TakesPart key
  | .sseComplete key => note.caller = some key
  | .lockAcquire => note.holding = false
  | .lockRelease => note.holding = true
  | .limiterHit _ windowSeconds key => note.asked = false ∧ note.AsksAs windowSeconds key
  | _ => True

/-- A repository returns the row that it saved, and rows as they were asked for. -/
def answers : (call : Call) → Except Fault (Value call) → Prop
  | .userFindById userId, .ok (some user) => user.id = userId
  | .userFindByUsername username, .ok (some user) => user.username = username
  | .driverFindById userId, .ok (some driver) => driver.userId = userId
  | .rideFindById rideId, .ok (some ride) => ride.id = rideId
  | .rideFindFirstByDriverIdAndStatusIn driverId _, .ok (some ride) =>
      ride.driverId = some driverId
  | .rideSave ride, .ok saved => saved = ride
  | .userSave user, .ok saved => saved = user
  | .lockRelease, .error _ => False
  | _, _ => True

/-- A lookup by this name, the one that the request presents, tells who the caller is. -/
def after (presented : Option String) (note : Standing) :
    (call : Call) → Except Fault (Value call) → Standing
  | .userFindByUsername username, .ok (some user) => { note with
      users := user :: note.users
      caller := if presented = some username then note.caller.or (some user.id)
        else note.caller }
  | .userFindById _, .ok (some user) => { note with users := user :: note.users }
  | .userSave _, .ok user => { note with users := user :: note.users }
  | .rideFindById _, .ok (some ride) => { note with rides := ride :: note.rides }
  | .rideFindFirstByDriverIdAndStatusIn _ _, .ok (some ride) =>
      { note with rides := ride :: note.rides }
  | .rideSave _, .ok ride => { note with rides := ride :: note.rides }
  | .lockAcquire, .ok _ => { note with holding := true }
  | .lockRelease, .ok _ => { note with holding := false }
  | .limiterHit _ _ _, _ => { note with asked := true }
  | _, _ => note

/-- The request has learned more, acts for the same caller and has the lock or not as
before. -/
structure Grows (before after : Standing) : Prop where
  caller : ∀ {userId : String}, before.caller = some userId → after.caller = some userId
  users : ∀ user ∈ before.users, user ∈ after.users
  rides : ∀ ride ∈ before.rides, ride ∈ after.rides
  holding : after.holding = before.holding
  asked : before.asked = true → after.asked = true

theorem Grows.refl (note : Standing) : note.Grows note :=
  ⟨fun same => same, fun _ mem => mem, fun _ mem => mem, rfl, fun same => same⟩

theorem Grows.trans {first second third : Standing} (toSecond : first.Grows second)
    (toThird : second.Grows third) : first.Grows third :=
  ⟨fun same => toThird.caller (toSecond.caller same),
    fun user mem => toThird.users user (toSecond.users user mem),
    fun ride mem => toThird.rides ride (toSecond.rides ride mem),
    toThird.holding.trans toSecond.holding,
    fun asked => toThird.asked (toSecond.asked asked)⟩

theorem Grows.reaches {before after : Standing} {userId : String} (grows : before.Grows after)
    (reaches : before.Reaches userId) : after.Reaches userId := by
  obtain ⟨caller, callerEq, same | ⟨ride, rideMem, pairs⟩⟩ := reaches
  · exact ⟨caller, grows.caller callerEq, Or.inl same⟩
  · exact ⟨caller, grows.caller callerEq, Or.inr ⟨ride, grows.rides ride rideMem, pairs⟩⟩

theorem reaches_caller {note : Standing} {userId : String} (caller : note.caller = some userId) :
    note.Reaches userId :=
  ⟨userId, caller, Or.inl rfl⟩

end Standing

/-- The monitor of a request that presents this name and draws these identifiers. -/
def standing (presented : Option String) (enrols : User → Prop) (start : Standing) :
    CallMonitor Value Fault Standing where
  start := start
  allows := Standing.allows enrols
  answers := Standing.answers
  after := Standing.after presented

section Rules

variable {presented : Option String} {enrols : User → Prop} {start note : Standing}
variable {α β : Type} {action : Service α}

/-- Begun with this note, the service writes what it may and ends as said. -/
abbrev Acts (presented : Option String) (enrols : User → Prop) (start note : Standing)
    {α : Type} (action : Service α) (returns : α → Standing → Prop) : Prop :=
  (standing presented enrols start).Watches action
    (CallMonitor.Leaves (fun result after => note.Grows after ∧ returns result after)
      fun _ after => note.Grows after) note

theorem acts_bind {next : α → Service β} {middle : α → Standing → Prop}
    {final : β → Standing → Prop} (first : Acts presented enrols start note action middle)
    (second : ∀ result later, note.Grows later → middle result later →
      Acts presented enrols start later (next result) final) :
    Acts presented enrols start note (action >>= next) final := by
  apply first.andThen
  rintro result later ⟨grown, holds⟩
  apply (second result later grown holds).mono
  rintro (failure | value) last leaves
  · exact grown.trans leaves
  · exact ⟨grown.trans leaves.1, leaves.2⟩

theorem acts_pure {returns : α → Standing → Prop} (result : α) (holds : returns result note) :
    Acts presented enrols start note (pure result : Service α) returns :=
  ⟨Standing.Grows.refl note, holds⟩

theorem acts_raise {returns : α → Standing → Prop} (failure : Failure) :
    Acts presented enrols start note (raise failure : Service α) returns :=
  Standing.Grows.refl note

theorem acts_guard {condition : Prop} [Decidable condition] {status : Nat} {detail : String}
    {returns : α → Standing → Prop}
    (goesOn : ¬ condition → Acts presented enrols start note action returns) :
    Acts presented enrols start note (if condition then reject status detail else action)
      returns := by
  split
  · exact acts_raise _
  · exact goesOn ‹_›

theorem acts_compute {computed : Except String α} :
    Acts presented enrols start note (compute computed) fun _ _ => True := by
  cases computed with
  | ok value => exact acts_pure value trivial
  | error name => exact acts_raise _

theorem acts_decimal {computed : Option Decimal} :
    Acts presented enrols start note (decimal computed) fun _ _ => True := by
  cases computed with
  | some value => exact acts_pure value trivial
  | none => exact acts_raise _

/-- Calls that neither write anything of a user's nor touch the lock or the limiter. -/
def Call.neutral : Call → Bool
  | .rideSave _ => false
  | .driverMerge _ => false
  | .userSave _ => false
  | .ratingSave _ => false
  | .sadd _ => false
  | .srem _ => false
  | .geoadd _ _ _ => false
  | .zrem _ => false
  | .publish _ _ => false
  | .sseEmit _ _ _ => false
  | .sseComplete _ => false
  | .lockAcquire => false
  | .lockRelease => false
  | .limiterHit _ _ _ => false
  | _ => true

/-- The call is one of those by which the accept lock changes hands. -/
def Call.locks : Call → Bool
  | .lockAcquire => true
  | .lockRelease => true
  | _ => false

theorem allows_of_neutral {awaited : Call} (neutral : awaited.neutral = true) :
    note.allows enrols awaited := by
  cases awaited <;> trivial

theorem grows_after {awaited : Call} (unlocked : awaited.locks = false)
    (reply : Except Fault (Value awaited)) :
    note.Grows (note.after presented awaited reply) := by
  unfold Standing.after
  split
  · refine ⟨fun same => ?_, fun _ mem => List.mem_cons_of_mem _ mem, fun _ mem => mem, rfl,
      fun asked => asked⟩
    simp only [same, Option.some_or]
    split <;> rfl
  all_goals first
    | exact Standing.Grows.refl note
    | exact ⟨fun same => same, fun _ mem => List.mem_cons_of_mem _ mem, fun _ mem => mem, rfl,
        fun asked => asked⟩
    | exact ⟨fun same => same, fun _ mem => mem, fun _ mem => List.mem_cons_of_mem _ mem, rfl,
        fun asked => asked⟩
    | exact ⟨fun same => same, fun _ mem => mem, fun _ mem => mem, rfl, fun _ => rfl⟩
    | cases unlocked

/-- One call, and what its reply tells. -/
theorem acts_call {awaited : Call} {returns : Value awaited → Standing → Prop}
    (unlocked : awaited.locks = false) (allowed : note.allows enrols awaited)
    (replied : ∀ value, Standing.answers awaited (.ok value) →
      returns value (note.after presented awaited (.ok value))) :
    Acts presented enrols start note (call awaited) returns :=
  CallMonitor.watches_perform allowed
    (fun value answered => ⟨grows_after unlocked _, replied value answered⟩)
    fun _ _ => grows_after unlocked _

/-- A call of whose reply nothing is needed. -/
theorem acts_write {awaited : Call} (unlocked : awaited.locks = false)
    (allowed : note.allows enrols awaited) :
    Acts presented enrols start note (call awaited) fun _ _ => True :=
  acts_call unlocked allowed fun _ _ => trivial

/-- A neutral call, of whose reply nothing is needed. -/
theorem acts_neutral {awaited : Call} (neutral : awaited.neutral = true) :
    Acts presented enrols start note (call awaited) fun _ _ => True := by
  have unlocked : awaited.locks = false := by
    cases awaited <;> first | rfl | cases neutral
  exact acts_write unlocked (allows_of_neutral neutral)

end Rules

/-! ## The replies of the store -/

section Replies

variable {P : Platform} {pid : Nat}

/-- Rows are returned as they were asked for, and a lock can always be given back. -/
theorem answers_of_perform {call : Call} {reply : Except Fault (Value call)}
    {before after : Store} (performed : P.perform pid call before = some (reply, after)) :
    Standing.answers call reply := by
  cases call with
  | userFindById userId =>
      simp only [Platform.perform, ok, Option.some.injEq, Prod.mk.injEq] at performed
      obtain ⟨rfl, -⟩ := performed
      cases found : before.users.find userId with
      | none => trivial
      | some user => exact KeyedTable.key_of_find found
  | userFindByUsername username =>
      simp only [Platform.perform, ok, Option.some.injEq, Prod.mk.injEq] at performed
      obtain ⟨rfl, -⟩ := performed
      cases found : before.users.rows.find? fun user => decide (user.username = username) with
      | none => trivial
      | some user =>
          have named := List.find?_some found
          simp only [decide_eq_true_eq] at named
          exact named
  | driverFindById userId =>
      simp only [Platform.perform, ok, Option.some.injEq, Prod.mk.injEq] at performed
      obtain ⟨rfl, -⟩ := performed
      cases found : before.drivers.find userId with
      | none => trivial
      | some driver => exact KeyedTable.key_of_find found
  | rideFindById rideId =>
      simp only [Platform.perform, ok, Option.some.injEq, Prod.mk.injEq] at performed
      obtain ⟨rfl, -⟩ := performed
      cases found : before.rides.find rideId with
      | none => trivial
      | some ride => exact KeyedTable.key_of_find found
  | rideFindFirstByDriverIdAndStatusIn driverId statuses =>
      simp only [Platform.perform, ok, Option.some.injEq, Prod.mk.injEq] at performed
      obtain ⟨rfl, -⟩ := performed
      generalize foundEq : P.firstRow _ = found
      cases found with
      | none => trivial
      | some ride =>
          have chosen := List.of_mem_filter (P.firstRow_mem foundEq)
          simp only [Bool.and_eq_true, decide_eq_true_eq] at chosen
          exact chosen.1
  | rideSave ride =>
      cases performed
      rfl
  | userSave user =>
      simp only [Platform.perform] at performed
      split at performed
      · cases performed
        trivial
      · cases performed
        rfl
  | lockRelease =>
      cases performed
      trivial
  | _ => cases reply <;> trivial

theorem answers_of_broken {call : Call} {fault : Fault}
    (permitted : breakable call fault = true) : Standing.answers call (.error fault) := by
  cases call <;> trivial

end Replies

/-! ## `repositories/driver.py`, `services/driver.py` -/

section Drivers

variable {P : Platform} {presented : Option String} {enrols : User → Prop}
variable {start note : Standing}

theorem save_acts {driver : Driver} (reaches : note.Reaches driver.userId) :
    Acts presented enrols start note (DriverRepository.save driver) fun _ _ => True := by
  unfold DriverRepository.save
  refine acts_bind (acts_write rfl reaches) ?_
  intro saved later grown _
  have reachesLater := grown.reaches reaches
  split
  · exact acts_bind (acts_write rfl reachesLater) fun _ _ _ _ =>
      acts_pure _ trivial
  · exact acts_bind (acts_write rfl reachesLater) fun _ _ _ _ =>
      acts_pure _ trivial

theorem registerDriver_acts {userId : String} (vehicleType licensePlate : String)
    (reaches : note.Reaches userId) :
    Acts presented enrols start note
      (DriverService.registerDriver userId vehicleType licensePlate) fun _ _ => True := by
  unfold DriverService.registerDriver
  simp only [reject_bind]
  apply acts_bind (acts_neutral rfl)
  intro present later grown _
  exact acts_guard fun _ => save_acts (grown.reaches reaches)

theorem driverFindById_acts (userId : String) :
    Acts presented enrols start note (call (.driverFindById userId))
      fun found _ => ∀ driver, found = some driver → driver.userId = userId := by
  refine acts_call rfl trivial ?_
  rintro found answered driver rfl
  exact answered

theorem getProfile_acts (userId : String) :
    Acts presented enrols start note (DriverService.getProfile userId) fun _ _ => True := by
  unfold DriverService.getProfile
  apply acts_bind (acts_neutral rfl)
  intro found later _ _
  cases found with
  | none => exact acts_raise _
  | some driver => exact acts_pure _ trivial

theorem markById_acts {userId : String} (isAvailable : Bool) (reaches : note.Reaches userId) :
    Acts presented enrols start note (DriverService.markById isAvailable userId)
      fun _ _ => True := by
  unfold DriverService.markById
  apply acts_bind (driverFindById_acts userId)
  rintro (_ | driver) later grown found
  · exact acts_raise _
  · apply save_acts
    rw [found driver rfl]
    exact grown.reaches reaches

theorem goOnline_acts {userId : String} (lat lng : Float64)
    (caller : note.caller = some userId) :
    Acts presented enrols start note (DriverService.goOnline userId lat lng)
      fun _ _ => True := by
  unfold DriverService.goOnline
  apply acts_bind (getProfile_acts userId)
  intro _ known grown _
  refine acts_bind (acts_write rfl (grown.caller caller)) ?_
  intro _ later further _
  exact markById_acts true
    (Standing.reaches_caller (further.caller (grown.caller caller)))

theorem goOffline_acts {userId : String} (caller : note.caller = some userId) :
    Acts presented enrols start note (DriverService.goOffline userId) fun _ _ => True := by
  unfold DriverService.goOffline
  apply acts_bind (getProfile_acts userId)
  intro _ known grown _
  refine acts_bind (acts_write rfl (grown.caller caller)) ?_
  intro _ cleared further _
  have callerLater := further.caller (grown.caller caller)
  apply acts_bind (markById_acts false (Standing.reaches_caller callerLater))
  intro saved marked last _
  refine acts_bind (acts_write rfl (last.caller callerLater)) ?_
  intro _ _ _ _
  exact acts_pure _ trivial

/-- An event goes to the stream of a ride that the caller drives. -/
theorem updateLocation_acts {userId : String} (lat lng : Float64)
    (caller : note.caller = some userId) :
    Acts presented enrols start note (DriverService.updateLocation P userId lat lng)
      fun _ _ => True := by
  unfold DriverService.updateLocation
  apply acts_bind (getProfile_acts userId)
  intro _ known grown _
  refine acts_bind (acts_write rfl (grown.caller caller)) ?_
  intro _ located further _
  have callerLater := further.caller (grown.caller caller)
  have serves : Acts presented enrols start located
      (call (.rideFindFirstByDriverIdAndStatusIn userId servingRideStatuses))
      fun found after => ∀ ride, found = some ride → after.TakesPart ride.id := by
    refine acts_call rfl trivial ?_
    rintro found answered ride rfl
    exact ⟨userId, callerLater, ride, List.mem_cons_self, rfl, Or.inr answered⟩
  apply acts_bind serves
  rintro (_ | ride) later _ takesPart
  · exact acts_pure _ trivial
  · apply acts_bind acts_compute
    intro distanceKm measured grownMeasured _
    apply acts_bind acts_compute
    intro eta timed grownTimed _
    obtain ⟨who, whoEq, served, servedMem, sameId, involved⟩ := takesPart ride rfl
    refine acts_write rfl ?_
    exact ⟨who, grownTimed.caller (grownMeasured.caller whoEq), served,
      grownTimed.rides _ (grownMeasured.rides _ servedMem), sameId, involved⟩

end Drivers

/-! ## `dispatch.py`, `pricing.py`, `services/ride.py` -/

section Rides

variable {P : Platform} {presented : Option String} {enrols : User → Prop}
variable {start note : Standing}

theorem findNearbyAvailableDrivers_acts (lat lng radiusKm : Float64) :
    Acts presented enrols start note (findNearbyAvailableDrivers lat lng radiusKm)
      fun _ _ => True := by
  unfold findNearbyAvailableDrivers
  apply acts_bind (acts_neutral rfl)
  intro results _ _ _
  split
  · exact acts_pure _ trivial
  · exact acts_bind (acts_neutral rfl) fun _ _ _ _ => acts_pure _ trivial

theorem getSurgeMultiplier_acts (lat lng : Float64) (pendingRides availableDrivers : Nat) :
    Acts presented enrols start note
      (PricingService.getSurgeMultiplier lat lng pendingRides availableDrivers)
      fun _ _ => True := by
  unfold PricingService.getSurgeMultiplier
  apply acts_bind (acts_neutral rfl)
  intro cached _ _ _
  cases cached with
  | some multiplier => exact acts_pure _ trivial
  | none =>
      apply acts_bind acts_decimal
      intro multiplier _ _ _
      exact acts_bind (acts_neutral rfl) fun _ _ _ _ => acts_pure _ trivial

theorem calculateFare_acts (ride : Ride) :
    Acts presented enrols start note (RideService.calculateFare P ride) fun _ _ => True := by
  unfold RideService.calculateFare PricingService.getFareQuote
  apply acts_bind (acts_neutral rfl)
  intro pendingRides _ _ _
  apply acts_bind (findNearbyAvailableDrivers_acts _ _ _)
  intro nearby _ _ _
  refine acts_bind (?_ : Acts _ _ _ _ _ fun _ _ => True) fun _ _ _ _ => acts_pure _ trivial
  apply acts_bind acts_compute
  intro distanceKm _ _ _
  apply acts_bind (getSurgeMultiplier_acts _ _ _ _)
  intro surge _ _ _
  exact acts_bind acts_decimal fun _ _ _ _ => acts_pure _ trivial

theorem getRide_acts (rideId : String) :
    Acts presented enrols start note (RideService.getRide rideId)
      fun ride after => ride.id = rideId ∧ ride ∈ after.rides := by
  unfold RideService.getRide
  have finds : Acts presented enrols start note (call (.rideFindById rideId))
      fun found after => ∀ ride, found = some ride → ride.id = rideId ∧ ride ∈ after.rides := by
    refine acts_call rfl trivial ?_
    rintro found answered ride rfl
    exact ⟨answered, List.mem_cons_self⟩
  apply acts_bind finds
  rintro (_ | ride) later _ known
  · exact acts_raise _
  · exact acts_pure _ (known ride rfl)

/-- A ride of the caller's is committed and announced. -/
theorem publishing_acts {ride : Ride} {topic : Topic} {caller : String}
    (callerEq : note.caller = some caller) (involved : ride.Involves caller) :
    Acts presented enrols start note (do
      let saved ← call (.rideSave ride)
      call (.publish topic saved.id)
      return saved) fun _ _ => True := by
  have commits : Acts presented enrols start note (call (.rideSave ride))
      fun saved after => saved = ride ∧ ride ∈ after.rides := by
    refine acts_call rfl ⟨caller, callerEq, involved⟩ ?_
    intro saved (answered : saved = ride)
    subst saved
    exact ⟨rfl, List.mem_cons_self⟩
  apply acts_bind commits
  intro saved later grown ⟨same, stored⟩
  have takesPart : later.TakesPart saved.id :=
    ⟨caller, grown.caller callerEq, ride, stored, by rw [same], involved⟩
  exact acts_bind (acts_write rfl takesPart) fun _ _ _ _ =>
    acts_pure _ trivial

theorem requestRide_acts {riderId : String} (newId : String) (now : Timestamp)
    (pickupLat pickupLng dropoffLat dropoffLng : Float64)
    (caller : note.caller = some riderId) :
    Acts presented enrols start note (RideService.requestRide P newId now riderId pickupLat
      pickupLng dropoffLat dropoffLng) fun _ _ => True := by
  unfold RideService.requestRide
  simp only [reject_bind]
  apply acts_bind (acts_neutral rfl)
  intro active later grown _
  apply acts_guard
  intro _
  apply acts_bind (calculateFare_acts _)
  intro estimatedFare priced further _
  exact publishing_acts (further.caller (grown.caller caller)) (Or.inl rfl)

/-- The lock is taken before the body and given back after it. -/
theorem withAcceptLock_acts {α : Type} {body : Service α} (free : note.holding = false)
    (inside : ∀ held : Standing, held.caller = note.caller → held.rides = note.rides →
      Acts presented enrols start held body fun _ _ => True) :
    Acts presented enrols start note (RideService.withAcceptLock body) fun _ _ => True := by
  unfold RideService.withAcceptLock
  refine ⟨free, fun reply _ => ?_⟩
  cases reply with
  | error fault => exact Standing.Grows.refl note
  | ok _ =>
      apply CallMonitor.watches_ensuring
      apply (inside { note with holding := true } rfl rfl).mono
      intro outcome later leaves
      have grown : Standing.Grows { note with holding := true } later := by
        cases outcome with
        | ok value => exact leaves.1
        | error failure => exact leaves
      refine ⟨grown.holding, fun reply answered => ?_⟩
      cases reply with
      | error fault => exact answered.elim
      | ok _ =>
          have released : note.Grows { later with holding := false } :=
            ⟨grown.caller, grown.users, grown.rides, free.symm, grown.asked⟩
          cases outcome with
          | ok value => exact ⟨released, trivial⟩
          | error failure => exact released

theorem acceptRide_acts {driverId : String} (rideId : String)
    (caller : note.caller = some driverId) (free : note.holding = false) :
    Acts presented enrols start note (RideService.acceptRide rideId driverId)
      fun _ _ => True := by
  apply withAcceptLock_acts free
  intro held sameCaller _
  have callerHeld : held.caller = some driverId := sameCaller.trans caller
  simp only [reject_bind]
  apply acts_bind (getRide_acts rideId)
  intro ride known grown _
  apply acts_guard
  intro _
  apply acts_bind (acts_neutral rfl)
  intro found looked further _
  cases found with
  | none => exact acts_raise _
  | some driver =>
      apply acts_guard
      intro _
      have callerLooked := further.caller (grown.caller callerHeld)
      apply acts_bind (markById_acts false (Standing.reaches_caller callerLooked))
      intro _ marked last _
      exact publishing_acts (last.caller callerLooked) (Or.inr rfl)

theorem startRide_acts {driverId : String} (rideId : String)
    (caller : note.caller = some driverId) :
    Acts presented enrols start note (RideService.startRide rideId driverId)
      fun _ _ => True := by
  unfold RideService.startRide
  simp only [reject_bind]
  apply acts_bind (getRide_acts rideId)
  intro ride known grown _
  apply acts_guard
  intro _
  apply acts_guard
  intro assigned
  refine CallMonitor.Watches.mono (acts_write rfl ?_) fun _ _ leaves => leaves
  exact ⟨driverId, grown.caller caller, Or.inr (not_not.mp assigned)⟩

theorem completeRide_acts {driverId : String} (rideId : String) (now : Timestamp)
    (caller : note.caller = some driverId) :
    Acts presented enrols start note (RideService.completeRide rideId driverId now)
      fun _ _ => True := by
  unfold RideService.completeRide
  simp only [reject_bind]
  apply acts_bind (getRide_acts rideId)
  intro ride known grown _
  apply acts_guard
  intro _
  apply acts_guard
  intro assigned
  have callerKnown := grown.caller caller
  have involved : Ride.Involves { ride with
      status := .completed, fare := ride.estimatedFare, completedAt := some now,
      version := ride.version + 1 } driverId := Or.inr (not_not.mp assigned)
  have commits : Acts presented enrols start known (call (.rideSave { ride with
      status := .completed, fare := ride.estimatedFare, completedAt := some now,
      version := ride.version + 1 }))
      fun saved after => saved.Involves driverId ∧ saved ∈ after.rides := by
    refine acts_call rfl ⟨driverId, callerKnown, involved⟩ ?_
    rintro saved rfl
    exact ⟨involved, List.mem_cons_self⟩
  apply acts_bind commits
  rintro saved committed further ⟨involvedSaved, stored⟩
  have callerCommitted := further.caller callerKnown
  apply acts_bind (markById_acts true (Standing.reaches_caller callerCommitted))
  intro _ marked last _
  have takesPart : marked.TakesPart saved.id :=
    ⟨driverId, last.caller callerCommitted, saved, last.rides saved stored, rfl,
      involvedSaved⟩
  exact acts_bind (acts_write rfl takesPart) fun _ _ _ _ =>
    acts_pure _ trivial

theorem cancelRide_acts {userId : String} (rideId : String)
    (caller : note.caller = some userId) :
    Acts presented enrols start note (RideService.cancelRide rideId userId)
      fun _ _ => True := by
  unfold RideService.cancelRide
  simp only [reject_bind]
  apply acts_bind (getRide_acts rideId)
  rintro ride known grown ⟨_, stored⟩
  apply acts_guard
  intro _
  apply acts_guard
  intro participant
  have callerKnown := grown.caller caller
  have involved : ride.riderId = userId ∨ ride.driverId = some userId := by
    by_cases rider : ride.riderId = userId
    · exact Or.inl rider
    · by_cases driver : ride.driverId = some userId
      · exact Or.inr driver
      · exact absurd ⟨rider, driver⟩ participant
  cases assigned : ride.driverId with
  | none =>
      rw [assigned] at involved
      exact publishing_acts callerKnown involved
  | some driverId =>
      rw [assigned] at involved
      have reaches : known.Reaches driverId := by
        rcases involved with rider | driver
        · exact ⟨userId, callerKnown, Or.inr ⟨ride, stored, Or.inl ⟨rider, assigned⟩⟩⟩
        · exact ⟨userId, callerKnown, Or.inl (Option.some.inj driver)⟩
      apply acts_bind (markById_acts true reaches)
      intro _ later further _
      exact publishing_acts (further.caller callerKnown) involved

end Rides

/-! ## `services/rating.py` -/

section Ratings

variable {presented : Option String} {enrols : User → Prop} {start note : Standing}

/-- Whoever is rated is the other party of the ride. -/
theorem ratedUser_acts (ride : Ride) (fromUserId : String) :
    Acts presented enrols start note (RatingService.ratedUser ride fromUserId)
      fun toUserId _ => ride.Pairs fromUserId toUserId := by
  unfold RatingService.ratedUser
  split
  · rename_i rider
    cases assigned : ride.driverId with
    | none => exact acts_raise _
    | some driverId => exact acts_pure driverId (Or.inl ⟨rider.symm, assigned⟩)
  · split
    · rename_i driver
      exact acts_pure ride.riderId (Or.inr ⟨rfl, driver.symm⟩)
    · exact acts_raise _

theorem countUser_acts {toUserId : String} (score : Int) (reaches : note.Reaches toUserId) :
    Acts presented enrols start note (RatingService.countUser toUserId score)
      fun _ _ => True := by
  unfold RatingService.countUser
  have finds : Acts presented enrols start note (call (.userFindById toUserId))
      fun found after => ∀ user, found = some user → user.id = toUserId ∧ user ∈ after.users := by
    refine acts_call rfl trivial ?_
    rintro found answered user rfl
    exact ⟨answered, List.mem_cons_self⟩
  apply acts_bind finds
  rintro (_ | user) later grown found
  · exact acts_pure () trivial
  · obtain ⟨sameId, seen⟩ := found user rfl
    have reachesUser : later.Reaches user.id := by
      rw [sameId]
      exact grown.reaches reaches
    refine acts_bind (acts_write rfl (Or.inr ⟨reachesUser, user, seen, rfl, rfl, rfl⟩)) ?_
    intro _ _ _ _
    exact acts_pure () trivial

theorem rate_acts {fromUserId : String} (rideId : String) (score : Int)
    (comment : Option String) (newId : String) (now : Timestamp)
    (caller : note.caller = some fromUserId) :
    Acts presented enrols start note
      (RatingService.rate rideId fromUserId score comment newId now) fun _ _ => True := by
  unfold RatingService.rate
  simp only [reject_bind]
  apply acts_guard
  intro _
  apply acts_bind (getRide_acts rideId)
  rintro ride known grown ⟨sameRide, stored⟩
  apply acts_guard
  intro finished
  apply acts_bind (ratedUser_acts ride fromUserId)
  intro toUserId chosen further pairs
  have callerChosen := further.caller (grown.caller caller)
  have storedChosen := further.rides ride stored
  apply acts_bind (acts_neutral rfl)
  intro rated checked last _
  apply acts_guard
  intro _
  have callerChecked := last.caller callerChosen
  have storedChecked := last.rides ride storedChosen
  have reaches : checked.Reaches toUserId :=
    ⟨fromUserId, callerChecked, Or.inr ⟨ride, storedChecked, pairs⟩⟩
  refine acts_bind (acts_write rfl
    ⟨callerChecked, ride, storedChecked, sameRide, not_not.mp finished, pairs⟩) ?_
  intro _ inserted grownInserted _
  have reachesInserted := grownInserted.reaches reaches
  apply acts_bind (driverFindById_acts toUserId)
  rintro (_ | driver) looked grownLooked found
  · exact countUser_acts score (grownLooked.reaches reachesInserted)
  · have reachesDriver : looked.Reaches driver.userId := by
      rw [found driver rfl]
      exact grownLooked.reaches reachesInserted
    refine acts_bind (save_acts reachesDriver) ?_
    intro _ _ grownSaved _
    exact countUser_acts score (grownSaved.reaches (grownLooked.reaches reachesInserted))

end Ratings

/-! ## Accounts -/

section Accounts

variable {P : Platform} {presented : Option String} {enrols : User → Prop}
variable {start note : Standing}

/-- No user has been read yet, and the limiter has not been asked. -/
structure Standing.Unknown (note : Standing) : Prop where
  caller : note.caller = none
  users : note.users = []
  asked : note.asked = false

theorem attemptAllowed_acts (clientIp : String) (unknown : note.Unknown) :
    Acts presented enrols start note (attemptAllowed P clientIp)
      fun _ after => after.users = [] := by
  refine acts_call rfl ⟨unknown.asked, ?_⟩ fun _ _ => unknown.users
  rw [Standing.AsksAs, unknown.caller]

/-- The new user is enrolled as it was asked for, and gets a token of its name. -/
theorem authRegister_acts (clientIp username password newId salt : String)
    (enrolled : enrols {
      username := username, passwordHash := P.hashPassword salt password, id := newId })
    (unknown : note.Unknown) :
    Acts presented enrols start note
      (Auth.register P clientIp username password newId salt)
      fun token after => token.username = username ∧ ∃ user ∈ after.users, user = {
        username := username, passwordHash := P.hashPassword salt password, id := newId } := by
  unfold Auth.register
  simp only [reject_bind]
  apply acts_bind (attemptAllowed_acts clientIp unknown)
  intro allowed asked _ unread
  apply acts_guard
  intro _
  have looks : Acts presented enrols start asked (call (.userExistsByUsername username))
      fun _ after => after.users = [] := acts_call rfl trivial fun _ _ => unread
  apply acts_bind looks
  intro taken free _ stillUnread
  apply acts_guard
  intro _
  have saves : Acts presented enrols start free (call (.userSave {
      username := username, passwordHash := P.hashPassword salt password, id := newId }))
      fun saved after => saved.username = username ∧ ∃ user ∈ after.users, user = {
        username := username, passwordHash := P.hashPassword salt password, id := newId } := by
    refine acts_call rfl (Or.inl ⟨stillUnread, enrolled⟩) ?_
    rintro saved rfl
    exact ⟨rfl, _, List.mem_cons_self, rfl⟩
  exact acts_bind saves fun _ _ _ known => acts_pure _ known

/-- Whoever signs in has named a user and given its password. -/
theorem login_acts (clientIp username password : String) (unknown : note.Unknown) :
    Acts presented enrols start note (Auth.login P clientIp username password)
      fun token after => token.username = username ∧ ∃ user ∈ after.users,
        user.username = username ∧ P.checkPassword password user.passwordHash = true := by
  unfold Auth.login
  simp only [reject_bind]
  apply acts_bind (attemptAllowed_acts clientIp unknown)
  intro allowed asked _ _
  apply acts_guard
  intro _
  have finds : Acts presented enrols start asked (call (.userFindByUsername username))
      fun found after => ∀ user, found = some user →
        user.username = username ∧ user ∈ after.users := by
    refine acts_call rfl trivial ?_
    rintro found answered user rfl
    exact ⟨answered, List.mem_cons_self⟩
  apply acts_bind finds
  rintro (_ | user) later _ found
  · exact acts_raise _
  · obtain ⟨named, seen⟩ := found user rfl
    apply acts_guard
    intro checked
    exact acts_pure _ ⟨named, user, seen, named, not_not.mp checked⟩

theorem switchMode_acts (username mode : String) :
    Acts presented enrols start note (Auth.switchMode username mode)
      fun token _ => token.username = username := by
  unfold Auth.switchMode
  cases parseMode mode with
  | none => exact acts_raise _
  | some role =>
      cases role with
      | rider => exact acts_pure _ rfl
      | driver =>
          apply acts_bind (acts_neutral rfl)
          intro found _ _ _
          cases found with
          | none => exact acts_raise _
          | some user =>
              simp only [reject_bind]
              exact acts_guard fun _ => acts_pure _ rfl

/-- The user whom the request presents becomes its caller. -/
theorem resolveCurrentUser_acts {username : String} (unknown : note.caller = none) :
    Acts (some username) enrols start note (resolveCurrentUser username)
      fun user after => after.caller = some user.id ∧ after.asked = note.asked ∧
        user.username = username ∧ user ∈ after.users := by
  unfold resolveCurrentUser
  have finds : Acts (some username) enrols start note (call (.userFindByUsername username))
      fun found after => ∀ user, found = some user →
        after.caller = some user.id ∧ after.asked = note.asked ∧
          user.username = username ∧ user ∈ after.users := by
    refine acts_call rfl trivial ?_
    rintro found answered user rfl
    refine ⟨?_, rfl, answered, List.mem_cons_self⟩
    simp [Standing.after, unknown]
  apply acts_bind finds
  rintro (_ | user) later _ known
  · exact acts_raise _
  · exact acts_pure _ (known user rfl)

theorem registerAsDriver_acts {username : String} (vehicleType licensePlate : String)
    (unknown : note.caller = none) :
    Acts (some username) enrols start note
      (registerAsDriver username vehicleType licensePlate)
      fun result _ => result.2.username = username := by
  unfold registerAsDriver
  apply acts_bind (resolveCurrentUser_acts unknown)
  rintro user known _ ⟨caller, _, named, seen⟩
  apply acts_bind (registerDriver_acts vehicleType licensePlate
    (Standing.reaches_caller caller))
  intro driver registered grown _
  refine acts_bind (acts_write rfl (Or.inr ⟨Standing.reaches_caller (grown.caller caller),
    user, grown.users user seen, rfl, rfl, rfl⟩)) ?_
  intro _ _ _ _
  exact acts_pure _ named

end Accounts

/-! ## Requests and routes -/

/-- The user for whom a request is served. -/
def Request.caller : Request → Option String
  | .requestRide _ _ riderId _ _ _ _ => some riderId
  | .acceptRide _ driverId => some driverId
  | .startRide _ driverId => some driverId
  | .completeRide _ driverId _ => some driverId
  | .cancelRide _ userId => some userId
  | .registerDriver userId _ _ => some userId
  | .goOnline userId _ _ => some userId
  | .goOffline userId => some userId
  | .updateLocation userId _ _ => some userId
  | .rate _ fromUserId _ _ _ _ => some fromUserId
  | _ => none

/-- The request is an attempt to sign up or to sign in. -/
def Request.attempts : Request → Bool
  | .authRegister _ _ _ _ _ => true
  | .login _ _ _ => true
  | _ => false

/-- What a request begins with. -/
def Request.standing (request : Request) : Standing :=
  { caller := request.caller, asked := ! request.attempts }

/-- The name under which a request looks its caller up. -/
def Request.presented : Request → Option String
  | .driverRegister username _ _ => some username
  | _ => none

/-- The request asks for this user to be added. -/
def Request.Enrols (P : Platform) (request : Request) (user : User) : Prop :=
  match request with
  | .authRegister _ username password newId salt => user = {
      username := username, passwordHash := P.hashPassword salt password, id := newId }
  | _ => False

/-- The name in the token of a request. -/
def Route.presented (route : Route) : Option String :=
  route.token.map Token.username

/-- The route asks for this user to be added. -/
def Route.Enrols (P : Platform) (route : Route) (user : User) : Prop :=
  match route.endpoint with
  | .authRegister _ username password newId salt => user = {
      username := username, passwordHash := P.hashPassword salt password, id := newId }
  | _ => False

/-- The request came with the name and the password of this user. -/
def Route.SignsIn (P : Platform) (route : Route) (user : User) : Prop :=
  match route.endpoint with
  | .login _ username password =>
      user.username = username ∧ P.checkPassword password user.passwordHash = true
  | _ => False

/-- The token has the name in the request's own token, or that of a user who has just been
added or has signed in. -/
def Standing.Vouches (P : Platform) (route : Route) (note : Standing) (token : Token) : Prop :=
  route.presented = some token.username ∨ ∃ user ∈ note.users,
    user.username = token.username ∧ (route.Enrols P user ∨ route.SignsIn P user)

/-- A token in the response is vouched for. -/
def Issues (P : Platform) (route : Route) (response : Response) (note : Standing) : Prop :=
  ∀ token, response.issued = some token → note.Vouches P route token

section Undertakings

variable {P : Platform}

/-- The response tells what the service has returned. -/
theorem acts_respond {presented : Option String} {enrols : User → Prop}
    {start note : Standing} {α : Type} {action : Service α} {returns : α → Standing → Prop}
    {final : Response → Standing → Prop} (respond : α → Response)
    (answers : ∀ result after, returns result after → final (respond result) after)
    (acts : Acts presented enrols start note action returns) :
    Acts presented enrols start note (do return respond (← action)) final :=
  acts_bind acts fun result after _ holds => acts_pure _ (answers result after holds)

/-- Every request of the application. -/
theorem handler_acts (request : Request) :
    Acts request.presented (request.Enrols P) request.standing request.standing
      (handler P request) fun _ _ => True := by
  cases request with
  | requestRide newId now riderId pickupLat pickupLng dropoffLat dropoffLng =>
      exact acts_respond .ride (fun _ _ _ => trivial) (requestRide_acts newId now _ _ _ _ rfl)
  | acceptRide rideId driverId =>
      exact acts_respond .ride (fun _ _ _ => trivial) (acceptRide_acts rideId rfl rfl)
  | startRide rideId driverId =>
      exact acts_respond .ride (fun _ _ _ => trivial) (startRide_acts rideId rfl)
  | completeRide rideId driverId now =>
      exact acts_respond .ride (fun _ _ _ => trivial) (completeRide_acts rideId now rfl)
  | cancelRide rideId userId =>
      exact acts_respond .ride (fun _ _ _ => trivial) (cancelRide_acts rideId rfl)
  | registerDriver userId vehicleType licensePlate =>
      exact acts_respond .driver (fun _ _ _ => trivial)
        (registerDriver_acts vehicleType licensePlate (Standing.reaches_caller rfl))
  | goOnline userId lat lng =>
      exact acts_respond .driver (fun _ _ _ => trivial) (goOnline_acts lat lng rfl)
  | goOffline userId =>
      exact acts_respond .driver (fun _ _ _ => trivial) (goOffline_acts rfl)
  | updateLocation userId lat lng =>
      exact acts_respond (fun _ => .noContent) (fun _ _ _ => trivial)
        (updateLocation_acts lat lng rfl)
  | rate rideId fromUserId score comment newId now =>
      exact acts_respond (fun _ => .noContent) (fun _ _ _ => trivial)
        (rate_acts rideId score comment newId now rfl)
  | authRegister clientIp username password newId salt =>
      exact acts_respond .token (fun _ _ _ => trivial)
        (authRegister_acts clientIp username password newId salt rfl ⟨rfl, rfl, rfl⟩)
  | login clientIp username password =>
      exact acts_respond .token (fun _ _ _ => trivial)
        (login_acts clientIp username password ⟨rfl, rfl, rfl⟩)
  | switchMode username mode =>
      exact acts_respond .token (fun _ _ _ => trivial) (switchMode_acts username mode)
  | driverRegister username vehicleType licensePlate =>
      have unknown : (Request.driverRegister username vehicleType licensePlate).standing.caller =
          none := rfl
      refine acts_respond (fun result => .registered result.1 result.2) ?_
        (registerAsDriver_acts vehicleType licensePlate unknown)
      intro _ _ _
      trivial

variable {route : Route}

/-- A route behind the dependencies acts for the user whom its token names. -/
theorem asUser_acts {body : User → Service Response}
    (goesOn : ∀ user known, Standing.caller known = some user.id → known.holding = false →
      known.asked = false → Acts route.presented (route.Enrols P) {} known (body user)
        (Issues P route)) :
    Acts route.presented (route.Enrols P) {} {} (asUser route body) (Issues P route) := by
  unfold asUser
  cases presentedEq : route.token with
  | none => exact acts_raise _
  | some token =>
      have name : route.presented = some token.username := by
        rw [Route.presented, presentedEq]
        rfl
      rw [name] at goesOn ⊢
      apply acts_bind (resolveCurrentUser_acts rfl)
      rintro user known grown ⟨caller, asked, _⟩
      cases route.endpoint.requiredRole with
      | none => exact goesOn user known caller grown.holding asked
      | some role =>
          simp only [requireRole]
          split
          · exact goesOn user known caller grown.holding asked
          · exact acts_raise _

/-- A route that responds with what one service returns, which is no token. -/
theorem acts_asUser {α : Type} {action : User → Service α} (respond : α → Response)
    (silent : ∀ result, (respond result).issued = none)
    (acts : ∀ user known, Standing.caller known = some user.id → known.holding = false →
      Acts route.presented (route.Enrols P) {} known (action user) fun _ _ => True) :
    Acts route.presented (route.Enrols P) {} {}
      (asUser route fun user => do return respond (← action user)) (Issues P route) := by
  apply asUser_acts
  intro user known caller free _
  refine acts_respond respond (fun result after _ token issued => ?_) (acts user known caller free)
  rw [silent result] at issued
  cases issued

/-- Every route, from its dependencies to its end. -/
theorem route_acts (rideRequestLimitPerMinute : Nat) (route : Route) :
    Acts route.presented (route.Enrols P) {} {} (route.program P rideRequestLimitPerMinute)
      (Issues P route) := by
  obtain ⟨token, endpoint⟩ := route
  cases endpoint with
  | authRegister clientIp username password newId salt =>
      refine acts_respond .token ?_
        (authRegister_acts clientIp username password newId salt rfl ⟨rfl, rfl, rfl⟩)
      rintro _ after ⟨named, user, userMem, same⟩ token ⟨⟩
      refine Or.inr ⟨user, userMem, ?_, Or.inl same⟩
      rw [same, named]
  | login clientIp username password =>
      refine acts_respond .token ?_ (login_acts clientIp username password ⟨rfl, rfl, rfl⟩)
      rintro _ after ⟨named, user, userMem, sameName, checked⟩ token ⟨⟩
      exact Or.inr ⟨user, userMem, sameName.trans named.symm, Or.inr ⟨sameName, checked⟩⟩
  | switchMode mode =>
      cases token with
      | none => exact acts_raise _
      | some token =>
          refine acts_respond .token ?_ (switchMode_acts token.username mode)
          rintro issued after named _ ⟨⟩
          exact Or.inl (congrArg some named.symm)
  | driverRegister vehicleType licensePlate =>
      cases token with
      | none => exact acts_raise _
      | some token =>
          have unknown : Standing.caller {} = none := rfl
          refine acts_respond (fun result => .registered result.1 result.2) ?_
            (registerAsDriver_acts vehicleType licensePlate unknown)
          rintro result after named _ ⟨⟩
          exact Or.inl (congrArg some named.symm)
  | driverProfile =>
      exact acts_asUser .driver (fun _ => rfl) fun user _ _ _ => getProfile_acts user.id
  | goOnline lat lng =>
      exact acts_asUser .driver (fun _ => rfl) fun _ _ caller _ => goOnline_acts lat lng caller
  | goOffline =>
      exact acts_asUser .driver (fun _ => rfl) fun _ _ caller _ => goOffline_acts caller
  | updateLocation lat lng =>
      exact acts_asUser (fun _ => .noContent) (fun _ => rfl) fun _ _ caller _ =>
        updateLocation_acts lat lng caller
  | requestRide newId now pickupLat pickupLng dropoffLat dropoffLng =>
      apply asUser_acts
      intro user known caller _ asked
      have asks : known.AsksAs 60 user.id := by
        rw [Standing.AsksAs, caller]
        exact ⟨rfl, rfl⟩
      simp only [reject_bind]
      refine acts_bind (acts_write rfl ⟨asked, asks⟩) ?_
      intro allowed later grown _
      apply acts_guard
      intro _
      refine acts_respond .ride (fun _ _ _ token issued => ?_)
        (requestRide_acts newId now _ _ _ _ (grown.caller caller))
      cases issued
  | acceptRide rideId =>
      exact acts_asUser .ride (fun _ => rfl) fun _ _ caller free =>
        acceptRide_acts rideId caller free
  | startRide rideId =>
      exact acts_asUser .ride (fun _ => rfl) fun _ _ caller _ => startRide_acts rideId caller
  | completeRide rideId now =>
      exact acts_asUser .ride (fun _ => rfl) fun _ _ caller _ =>
        completeRide_acts rideId now caller
  | cancelRide rideId =>
      exact acts_asUser .ride (fun _ => rfl) fun _ _ caller _ => cancelRide_acts rideId caller
  | rateRide rideId score comment newId now =>
      exact acts_asUser (fun _ => .noContent) (fun _ => rfl) fun _ _ caller _ =>
        rate_acts rideId score comment newId now caller

end Undertakings

end RideHailing
