import RideHailing.CallMonitors
import RideHailing.RequestCalls

/-!
# In which order a request makes its calls

Two orders matter beyond a single request.  The availability set is written right
after the driver's row, by the same save; and an event is published only after the
request has committed the ride with the status that the event announces.  Also, all
that requests put on event streams is where drivers are.
-/

namespace RideHailing

open Service

/-- The status that a topic announces. -/
def Topic.status : Topic → RideStatus
  | .rideRequested => .requested
  | .rideAccepted => .matched
  | .rideCompleted => .completed
  | .rideCancelled => .cancelled

/-- The write to the availability set that completes a save. -/
def Driver.listing (driver : Driver) : Call :=
  if driver.isAvailable then .sadd driver.userId else .srem driver.userId

/-- The call writes the availability set. -/
def Call.lists : Call → Bool
  | .sadd _ => true
  | .srem _ => true
  | _ => false

/-- The driver whose row has been committed while the availability set has not been
written yet, and the ride that was committed last. -/
structure Conduct where
  owed : Option Driver
  saved : Option Ride

/-- The document tells where a driver is. -/
def Payload.locates : Payload → Bool
  | .driverLocation _ _ _ => true
  | _ => false

namespace Conduct

def allows (note : Conduct) (call : Call) : Prop :=
  (match note.owed with
    | some driver => call = driver.listing
    | none => call.lists = false) ∧
  (∀ topic rideId, call = .publish topic rideId →
    ∃ ride, note.saved = some ride ∧ ride.id = rideId ∧ ride.status = topic.status) ∧
  ∀ key event payload, call = .sseEmit key event payload → payload.locates = true

/-- A repository returns the row that it saved. -/
def answers : (call : Call) → Except Fault (Value call) → Prop
  | .rideSave ride, .ok saved => saved = ride
  | _, _ => True

def after (note : Conduct) : (call : Call) → Except Fault (Value call) → Conduct
  | .driverMerge driver, .ok _ => { note with owed := some driver }
  | .rideSave ride, .ok _ => ⟨none, some ride⟩
  | _, _ => { note with owed := none }

end Conduct

/-- The monitor of both orders. -/
def conduct : CallMonitor Value Fault Conduct where
  start := ⟨none, none⟩
  allows := Conduct.allows
  answers := Conduct.answers
  after := Conduct.after

/-- After this ride was committed last, the service keeps the orders and owes
nothing at its end. -/
abbrev Conducts {α : Type} (saved : Option Ride) (action : Service α)
    (returns : α → Option Ride → Prop) : Prop :=
  conduct.Watches action
    (CallMonitor.Leaves (fun result note => note.owed = none ∧ returns result note.saved)
      fun _ note => note.owed = none) ⟨none, saved⟩

/-- The service keeps the orders and commits no ride. -/
abbrev Keeps {α : Type} (action : Service α) : Prop :=
  ∀ saved, Conducts saved action fun _ after => after = saved

/-- The call is none of those whose order matters. -/
def Call.plain : Call → Bool
  | .driverMerge _ => false
  | .rideSave _ => false
  | .sadd _ => false
  | .srem _ => false
  | .publish _ _ => false
  | .sseEmit _ _ payload => payload.locates
  | _ => true

theorem Call.plain_of_ordinary {call : Call} (ordinary : call.ordinary = true) :
    call.plain = true := by
  cases call <;> first | rfl | cases ordinary

section Rules

variable {α β : Type} {saved : Option Ride} {action : Service α}

theorem conducts_bind {next : α → Service β} {middle : α → Option Ride → Prop}
    {final : β → Option Ride → Prop} (first : Conducts saved action middle)
    (second : ∀ result after, middle result after → Conducts after (next result) final) :
    Conducts saved (action >>= next) final := by
  apply first.andThen
  rintro result ⟨owed, after⟩ ⟨settled, holds⟩
  obtain rfl : owed = none := settled
  exact second result after holds

theorem conducts_skip {next : α → Service β} {final : β → Option Ride → Prop}
    (first : Keeps action) (second : ∀ result, Conducts saved (next result) final) :
    Conducts saved (action >>= next) final := by
  apply conducts_bind (first saved)
  rintro result _ rfl
  exact second result

theorem keeps_bind {next : α → Service β} (first : Keeps action)
    (second : ∀ result, Keeps (next result)) : Keeps (action >>= next) :=
  fun saved => conducts_skip first fun result => second result saved

theorem keeps_pure (result : α) : Keeps (pure result : Service α) :=
  fun _ => ⟨rfl, rfl⟩

theorem conducts_raise {returns : α → Option Ride → Prop} (failure : Failure) :
    Conducts saved (raise failure : Service α) returns :=
  rfl

theorem keeps_raise (failure : Failure) : Keeps (raise failure : Service α) :=
  fun _ => rfl

/-- A guard rejects, or lets the service go on. -/
theorem conducts_guard {condition : Prop} [Decidable condition] {status : Nat}
    {detail : String} {returns : α → Option Ride → Prop}
    (goesOn : ¬ condition → Conducts saved action returns) :
    Conducts saved (if condition then reject status detail else action) returns := by
  split
  · exact conducts_raise _
  · exact goesOn ‹_›

theorem keeps_guard {condition : Prop} [Decidable condition] {status : Nat}
    {detail : String} (goesOn : Keeps action) :
    Keeps (if condition then reject status detail else action) :=
  fun saved => conducts_guard fun _ => goesOn saved

/-- Such a call is allowed when nothing is owed, and it leaves the note alone. -/
theorem conduct_of_plain {awaited : Call} (plain : awaited.plain = true)
    (saved : Option Ride) :
    conduct.allows ⟨none, saved⟩ awaited ∧
      ∀ reply, conduct.after ⟨none, saved⟩ awaited reply = ⟨none, saved⟩ := by
  have unlisted : awaited.lists = false := by
    cases awaited <;> first | rfl | cases plain
  have unpublished : ∀ topic rideId, awaited ≠ .publish topic rideId := by
    rintro topic rideId rfl
    cases plain
  have located : ∀ key event payload, awaited = .sseEmit key event payload →
      payload.locates = true := by
    rintro key event payload rfl
    exact plain
  have noted : ∀ reply, conduct.after ⟨none, saved⟩ awaited reply = ⟨none, saved⟩ := by
    intro reply
    cases awaited <;> first | rfl | cases plain
  exact ⟨⟨unlisted, fun topic rideId same => absurd same (unpublished topic rideId), located⟩,
    noted⟩

theorem keeps_of_plain (only : Calls (fun call => call.plain = true) action) :
    Keeps action := by
  intro saved
  have watched : conduct.Watches action (fun _ after => after = ⟨none, saved⟩) ⟨none, saved⟩ :=
    CallMonitor.watches_of_only (only.mono fun _ plain => conduct_of_plain plain saved)
  apply watched.mono
  rintro outcome after rfl
  cases outcome with
  | ok result => exact ⟨rfl, rfl⟩
  | error failure => exact rfl

theorem keeps_call {awaited : Call} (plain : awaited.plain = true) :
    Keeps (call awaited) :=
  keeps_of_plain (Action.only_perform Failure.fault plain)

theorem keeps_of_ordinary (ordinary : Ordinary action) : Keeps action :=
  keeps_of_plain (ordinary.mono fun _ => Call.plain_of_ordinary)

theorem conducts_rideSave (ride : Ride) :
    Conducts saved (call (.rideSave ride))
      fun result after => result = ride ∧ after = some ride := by
  apply CallMonitor.watches_perform
  · refine ⟨rfl, ?_, ?_⟩
    · intro topic rideId same
      cases same
    · intro key event payload same
      cases same
  · intro value answered
    exact ⟨rfl, answered, rfl⟩
  · intro fault _
    rfl

theorem conducts_publish {ride : Ride} {topic : Topic} {rideId : String}
    (sameRide : ride.id = rideId) (announced : ride.status = topic.status) :
    Conducts (some ride) (call (.publish topic rideId)) fun _ _ => True := by
  apply CallMonitor.watches_perform
  · refine ⟨rfl, ?_, ?_⟩
    · intro published publishedId same
      cases same
      exact ⟨ride, rfl, sameRide, announced⟩
    · intro key event payload same
      cases same
  · intro value _
    exact ⟨rfl, trivial⟩
  · intro fault _
    rfl

theorem keeps_compute (computed : Except String α) : Keeps (compute computed) := by
  cases computed with
  | ok value => exact keeps_pure value
  | error name => exact keeps_raise _

end Rules

/-! ## `repositories/driver.py`, `services/driver.py` -/

/-- The write to the availability set that a save owes. -/
theorem listing_conducts {driver : Driver} {saved : Option Ride} {awaited : Call}
    {result : Driver} (owed : awaited = driver.listing) (listing : awaited.lists = true) :
    conduct.Watches (call awaited >>= fun _ => pure result : Service Driver)
      (CallMonitor.Leaves (fun _ note => note.owed = none ∧ note.saved = saved)
        fun _ note => note.owed = none) ⟨some driver, saved⟩ := by
  have noted : ∀ reply, conduct.after ⟨some driver, saved⟩ awaited reply =
      ⟨none, saved⟩ := by
    intro reply
    cases awaited <;> first | rfl | cases listing
  have listed : conduct.Watches (call awaited)
      (CallMonitor.Leaves (fun _ note => note = ⟨none, saved⟩)
        fun _ note => note.owed = none) ⟨some driver, saved⟩ := by
    apply CallMonitor.watches_perform
    · refine ⟨owed, ?_, ?_⟩
      · rintro topic rideId rfl
        cases listing
      · rintro key event payload rfl
        cases listing
    · intro value _
      exact noted (.ok value)
    · intro fault _
      rw [noted]
  apply listed.andThen
  rintro _ _ rfl
  exact ⟨rfl, rfl⟩

/-- The commit of the row is followed by the write to the availability set. -/
theorem save_keeps (driver : Driver) : Keeps (DriverRepository.save driver) := by
  intro saved
  have merges : conduct.Watches (call (.driverMerge driver))
      (CallMonitor.Leaves (fun _ note => note = ⟨some driver, saved⟩)
        fun _ note => note.owed = none) ⟨none, saved⟩ := by
    apply CallMonitor.watches_perform
    · refine ⟨rfl, ?_, ?_⟩
      · intro topic rideId same
        cases same
      · intro key event payload same
        cases same
    · intro value _
      rfl
    · intro fault _
      rfl
  unfold DriverRepository.save
  apply merges.andThen
  rintro result _ rfl
  split
  · rename_i available
    exact listing_conducts (by rw [Driver.listing, if_pos available]) rfl
  · rename_i unavailable
    exact listing_conducts (by rw [Driver.listing, if_neg unavailable]) rfl

theorem registerDriver_keeps (userId vehicleType licensePlate : String) :
    Keeps (DriverService.registerDriver userId vehicleType licensePlate) := by
  unfold DriverService.registerDriver
  simp only [reject_bind]
  exact keeps_bind (keeps_call rfl) fun _ => keeps_guard (save_keeps _)

theorem markById_keeps (isAvailable : Bool) (userId : String) :
    Keeps (DriverService.markById isAvailable userId) := by
  unfold DriverService.markById
  apply keeps_bind (keeps_call rfl)
  intro found
  cases found with
  | none => exact keeps_raise _
  | some driver => exact save_keeps _

theorem goOnline_keeps (userId : String) (lat lng : Float64) :
    Keeps (DriverService.goOnline userId lat lng) := by
  unfold DriverService.goOnline
  apply keeps_bind (keeps_of_ordinary (getProfile_ordinary _))
  intro _
  exact keeps_bind (keeps_call rfl) fun _ => markById_keeps _ _

theorem goOffline_keeps (userId : String) : Keeps (DriverService.goOffline userId) := by
  unfold DriverService.goOffline
  apply keeps_bind (keeps_of_ordinary (getProfile_ordinary _))
  intro _
  apply keeps_bind (keeps_call rfl)
  intro _
  apply keeps_bind (markById_keeps _ _)
  intro _
  exact keeps_bind (keeps_call rfl) fun _ => keeps_pure _

variable {P : Platform}

theorem updateLocation_keeps (userId : String) (lat lng : Float64) :
    Keeps (DriverService.updateLocation P userId lat lng) := by
  unfold DriverService.updateLocation
  apply keeps_bind (keeps_of_ordinary (getProfile_ordinary _))
  intro _
  apply keeps_bind (keeps_call rfl)
  intro _
  apply keeps_bind (keeps_call rfl)
  intro serving
  cases serving with
  | none => exact keeps_pure _
  | some ride =>
      apply keeps_bind (keeps_compute _)
      intro distanceKm
      exact keeps_bind (keeps_compute _) fun _ => keeps_call rfl

/-! ## `dispatch.py`, `pricing.py`, `services/ride.py` -/

variable {saved : Option Ride}

/-- Committing a ride and publishing what its status announces. -/
theorem publishing_conducts {ride : Ride} {topic : Topic}
    (announced : ride.status = topic.status) :
    Conducts saved (do
      let stored ← call (.rideSave ride)
      call (.publish topic stored.id)
      return stored) fun _ _ => True := by
  apply conducts_bind (conducts_rideSave ride)
  intro stored after leaves
  rw [leaves.1, leaves.2]
  apply conducts_bind (conducts_publish rfl announced)
  intro _ _ _
  exact ⟨rfl, trivial⟩

theorem requestRide_conducts (newId : String) (now : Timestamp) (riderId : String)
    (pickupLat pickupLng dropoffLat dropoffLng : Float64) :
    Conducts saved (RideService.requestRide P newId now riderId pickupLat pickupLng
      dropoffLat dropoffLng) fun _ _ => True := by
  unfold RideService.requestRide
  simp only [reject_bind]
  apply conducts_skip (keeps_call rfl)
  intro active
  apply conducts_guard
  intro _
  apply conducts_skip (keeps_of_ordinary (calculateFare_ordinary _))
  intro estimatedFare
  exact publishing_conducts rfl

theorem lock_conducts {α : Type} {body : Service α}
    (inside : Conducts saved body fun _ _ => True) :
    Conducts saved (RideService.withAcceptLock body) fun _ _ => True := by
  unfold RideService.withAcceptLock
  apply conducts_skip (keeps_call rfl)
  intro _
  apply CallMonitor.watches_ensuring
  apply inside.mono
  rintro outcome ⟨owed, later⟩ leaves
  have settled : owed = none := by
    cases outcome with
    | ok result => exact leaves.1
    | error failure => exact leaves
  subst settled
  apply (keeps_call rfl later).mono
  intro cleaned note released
  cases cleaned with
  | ok _ =>
      cases outcome with
      | ok result => exact ⟨released.1, trivial⟩
      | error failure => exact released.1
  | error failure => exact released

theorem acceptRide_conducts (rideId driverId : String) :
    Conducts saved (RideService.acceptRide rideId driverId) fun _ _ => True := by
  apply lock_conducts
  simp only [reject_bind]
  apply conducts_skip (keeps_of_ordinary (getRide_ordinary _))
  intro ride
  apply conducts_guard
  intro _
  apply conducts_skip (keeps_call rfl)
  intro found
  cases found with
  | none => exact conducts_raise _
  | some driver =>
      apply conducts_guard
      intro _
      apply conducts_skip (markById_keeps _ _)
      intro _
      exact publishing_conducts rfl

theorem startRide_conducts (rideId driverId : String) :
    Conducts saved (RideService.startRide rideId driverId) fun _ _ => True := by
  unfold RideService.startRide
  simp only [reject_bind]
  apply conducts_skip (keeps_of_ordinary (getRide_ordinary _))
  intro ride
  apply conducts_guard
  intro _
  apply conducts_guard
  intro _
  apply (conducts_rideSave _).mono
  intro outcome note leaves
  cases outcome with
  | ok result => exact ⟨leaves.1, trivial⟩
  | error failure => exact leaves

theorem completeRide_conducts (rideId driverId : String) (now : Timestamp) :
    Conducts saved (RideService.completeRide rideId driverId now) fun _ _ => True := by
  unfold RideService.completeRide
  simp only [reject_bind]
  apply conducts_skip (keeps_of_ordinary (getRide_ordinary _))
  intro ride
  apply conducts_guard
  intro _
  apply conducts_guard
  intro _
  apply conducts_bind (conducts_rideSave _)
  rintro _ _ ⟨rfl, rfl⟩
  apply conducts_skip (markById_keeps _ _)
  intro _
  apply conducts_bind (conducts_publish rfl rfl)
  intro _ _ _
  exact ⟨rfl, trivial⟩

theorem cancelRide_conducts (rideId userId : String) :
    Conducts saved (RideService.cancelRide rideId userId) fun _ _ => True := by
  unfold RideService.cancelRide
  simp only [reject_bind]
  apply conducts_skip (keeps_of_ordinary (getRide_ordinary _))
  intro ride
  apply conducts_guard
  intro _
  apply conducts_guard
  intro _
  cases ride.driverId with
  | none => exact publishing_conducts rfl
  | some driverId =>
      apply conducts_skip (markById_keeps _ _)
      intro _
      exact publishing_conducts rfl

/-! ## `services/rating.py` and the routes for accounts -/

theorem rate_keeps (rideId fromUserId : String) (score : Int) (comment : Option String)
    (newId : String) (now : Timestamp) :
    Keeps (RatingService.rate rideId fromUserId score comment newId now) := by
  unfold RatingService.rate
  simp only [reject_bind]
  apply keeps_guard
  apply keeps_bind (keeps_of_ordinary (getRide_ordinary _))
  intro ride
  apply keeps_guard
  apply keeps_bind (keeps_of_ordinary (ratedUser_ordinary _ _))
  intro toUserId
  apply keeps_bind (keeps_call rfl)
  intro rated
  apply keeps_guard
  apply keeps_bind (keeps_call rfl)
  intro _
  apply keeps_bind (keeps_call rfl)
  intro foundDriver
  cases foundDriver with
  | none =>
      apply keeps_bind (keeps_call rfl)
      intro foundUser
      cases foundUser with
      | none => exact keeps_pure _
      | some user => exact keeps_bind (keeps_call rfl) fun _ => keeps_pure _
  | some driver =>
      apply keeps_bind (save_keeps _)
      intro _
      apply keeps_bind (keeps_call rfl)
      intro foundUser
      cases foundUser with
      | none => exact keeps_pure _
      | some user => exact keeps_bind (keeps_call rfl) fun _ => keeps_pure _

theorem driverRegister_keeps (username vehicleType licensePlate : String) :
    Keeps (Auth.registerAsDriver username vehicleType licensePlate) := by
  unfold Auth.registerAsDriver
  apply keeps_bind (keeps_of_ordinary (resolveCurrentUser_ordinary _))
  intro user
  apply keeps_bind (registerDriver_keeps _ _ _)
  intro driver
  exact keeps_bind (keeps_call rfl) fun _ => keeps_pure _

/-! ## Requests -/

/-- Every request keeps both orders and owes nothing when it ends. -/
theorem handler_conducts (request : Request) :
    conduct.Watches (handler P request) (fun _ note => note.owed = none)
      conduct.start := by
  have responds : ∀ {α : Type} {action : Service α} (respond : α → Response),
      Conducts none action (fun _ _ => True) →
        conduct.Watches (do return respond (← action) : Service Response)
          (fun _ note => note.owed = none) conduct.start := by
    intro α action respond conducts
    have ends : Conducts none (do return respond (← action)) fun _ _ => True :=
      conducts_bind conducts fun _ _ _ => ⟨rfl, trivial⟩
    apply ends.mono
    intro outcome note leaves
    cases outcome with
    | ok result => exact leaves.1
    | error failure => exact leaves
  have steady : ∀ {α : Type} {action : Service α}, Keeps action →
      Conducts none action fun _ _ => True := by
    intro α action keeps
    apply (keeps none).mono
    intro outcome note leaves
    cases outcome with
    | ok result => exact ⟨leaves.1, trivial⟩
    | error failure => exact leaves
  cases request with
  | requestRide newId now riderId pickupLat pickupLng dropoffLat dropoffLng =>
      exact responds _ (requestRide_conducts _ _ _ _ _ _ _)
  | acceptRide rideId driverId => exact responds _ (acceptRide_conducts _ _)
  | startRide rideId driverId => exact responds _ (startRide_conducts _ _)
  | completeRide rideId driverId now => exact responds _ (completeRide_conducts _ _ _)
  | cancelRide rideId userId => exact responds _ (cancelRide_conducts _ _)
  | registerDriver userId vehicleType licensePlate =>
      exact responds _ (steady (registerDriver_keeps _ _ _))
  | goOnline userId lat lng => exact responds _ (steady (goOnline_keeps _ _ _))
  | goOffline userId => exact responds _ (steady (goOffline_keeps _))
  | updateLocation userId lat lng =>
      exact responds (fun _ => Response.noContent) (steady (updateLocation_keeps _ _ _))
  | rate rideId fromUserId score comment newId now =>
      exact responds (fun _ => Response.noContent) (steady (rate_keeps _ _ _ _ _ _))
  | authRegister clientIp username password newId salt =>
      exact responds _ (steady (keeps_of_ordinary (authRegister_ordinary _ _ _ _ _)))
  | login clientIp username password =>
      exact responds _ (steady (keeps_of_ordinary (login_ordinary _ _ _)))
  | switchMode username mode =>
      exact responds _ (steady (keeps_of_ordinary (switchMode_ordinary _ _)))
  | driverRegister username vehicleType licensePlate =>
      exact responds (fun result => Response.registered result.1 result.2)
        (steady (driverRegister_keeps _ _ _))

/-- Calls are answered as the repositories answer. -/
theorem answers_of_answer {pid : Nat} {broken : Option Fault} {awaited : Call}
    {state after : Store} {reply : Except Fault (Value awaited)}
    (answered : (application P).answer pid broken awaited state = some (reply, after)) :
    conduct.answers awaited reply := by
  cases awaited with
  | rideSave ride =>
      cases reply with
      | error fault => trivial
      | ok stored =>
          cases broken with
          | none =>
              cases answered
              rfl
          | some fault =>
              obtain ⟨_, replied, _⟩ := Machine.answer_broken answered
              cases replied
  | _ => cases reply <;> trivial

/-- Every task keeps both orders in what is left of it. -/
abbrev Orderly (pool : ApplicationPool) : Prop :=
  conduct.Followed (fun _ => True) (fun _ _ note => note.owed = none) pool

/-- In every run every request keeps both orders. -/
theorem conduct_of_run {init : Store} {events : List ApplicationEvent}
    {pool : ApplicationPool}
    (ran : (application P).run (Pool.start init) events = some pool) :
    Orderly pool :=
  CallMonitor.followed_of_run answers_of_answer (fun request _ => handler_conducts request) ran

end RideHailing
