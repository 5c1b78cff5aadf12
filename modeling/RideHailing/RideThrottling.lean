import RideHailing.FixedWindows
import RideHailing.RideReports
import RideHailing.RoutedRuns

/-!
# Ride requests are throttled

Every ride of a rider has been paid for by a hit of the limiter under the rider's own key,
admitted for the very request that inserted the ride.  The limiter admits so many hits in a
window, so a rider cannot have more rides than fit into the windows of the time that has
passed, whatever requests arrive and however they interleave.
-/

namespace RideHailing

open Service Auth

/-- What `limits` does: a hit is admitted while its window has room, and windows are as long
as the limiter says, in seconds. -/
def Platform.CountsWindows (P : Platform) : Prop :=
  ∀ capacity windowSeconds hits now, P.admitsHit capacity windowSeconds hits now =
    Window.admits capacity (1000 * windowSeconds) hits now

/-! ## A ride is paid for -/

/-- The identifier of the ride that a route is to insert. -/
def Route.rideId (route : Route) : Option String :=
  match route.endpoint with
  | .requestRide newId _ _ _ _ _ => some newId
  | _ => none

/-- A route may make this call next: it commits a row of a ride that it has read, or it
inserts its own ride for the rider under whose key the limiter has let it past. -/
def Route.pays (rideRequestLimitPerMinute : Nat) (route : Route) (report : RequestReport) :
    Call → Prop
  | .rideSave ride => report.CopiesRide ride ∨ route.rideId = some ride.id ∧
      report.Learns (.limiterHit rideRequestLimitPerMinute 60 ride.riderId) true
  | _ => True

section Programs

variable {P : Platform} {rideRequestLimitPerMinute : Nat} {route : Route}
variable {report : RequestReport}

/-- The route commits rides that are paid for. -/
abbrev Pays (rideRequestLimitPerMinute : Nat) (route : Route) (report : RequestReport)
    {α : Type} (action : Service α) (returns : α → RequestReport → Prop) : Prop :=
  Informs (route.pays rideRequestLimitPerMinute) report action returns

theorem pays_call {awaited : Call} (ordinary : awaited.ordinary = true) :
    Pays rideRequestLimitPerMinute route report (call awaited) fun value after =>
      after.Learns awaited value := by
  apply informs_call
  cases awaited with
  | rideSave ride => cases ordinary
  | _ => trivial

theorem pays_ordinary {α : Type} {action : Service α} (ordinary : Ordinary action) :
    Pays rideRequestLimitPerMinute route report action fun _ _ => True := by
  apply informs_of_only
  apply ordinary.mono
  intro awaited isOrdinary note
  cases awaited with
  | rideSave ride => cases isOrdinary
  | _ => trivial

theorem pays_asUser {body : User → Service Response}
    (goesOn : ∀ user after, report ⊆ after →
      Pays rideRequestLimitPerMinute route after (body user) fun _ _ => True) :
    Pays rideRequestLimitPerMinute route report (asUser route body) fun _ _ => True := by
  unfold asUser
  cases route.token with
  | none => exact informs_raise _
  | some token =>
      apply informs_bind (pays_ordinary (resolveCurrentUser_ordinary token.username))
      intro user after grown _
      cases route.endpoint.requiredRole with
      | none => exact goesOn user after grown
      | some role =>
          show Pays rideRequestLimitPerMinute route after
            (requireRole role token >>= fun _ => body user) fun _ _ => True
          simp only [requireRole]
          split
          · exact goesOn user after grown
          · exact informs_raise _

/-- The ride is inserted for the rider whom the limiter has let past. -/
theorem requestRide_pays {newId riderId : String} (now : Timestamp)
    (pickupLat pickupLng dropoffLat dropoffLng : Float64) (own : route.rideId = some newId)
    (admitted : report.Learns (.limiterHit rideRequestLimitPerMinute 60 riderId) true) :
    Pays rideRequestLimitPerMinute route report
      (RideService.requestRide P newId now riderId pickupLat pickupLng dropoffLat dropoffLng)
      fun _ _ => True := by
  unfold RideService.requestRide
  simp only [reject_bind]
  apply informs_bind (pays_call rfl)
  intro active asked grown _
  apply informs_guard
  apply informs_bind (pays_ordinary (calculateFare_ordinary _))
  intro estimatedFare quoted grownOnce _
  apply informs_bind (informs_call (Or.inr ⟨own, grownOnce (grown admitted)⟩))
  intro saved stored _ _
  apply informs_bind
  · exact informs_call trivial
  · intro _ published _ _
    exact informs_pure trivial

/-- Every route commits rides that are paid for. -/
theorem route_pays (rideRequestLimitPerMinute : Nat) (route : Route) :
    (transcribing (route.pays rideRequestLimitPerMinute)).Watches
      (route.program P rideRequestLimitPerMinute) (fun _ _ => True) [] := by
  cases own : route.rideId with
  | some newId =>
      obtain ⟨token, endpoint⟩ := route
      cases endpoint with
      | requestRide rideId now pickupLat pickupLng dropoffLat dropoffLng =>
          have pays : Pays rideRequestLimitPerMinute
              ⟨token, .requestRide rideId now pickupLat pickupLng dropoffLat dropoffLng⟩ []
              (Route.program P rideRequestLimitPerMinute
                ⟨token, .requestRide rideId now pickupLat pickupLng dropoffLat dropoffLng⟩)
              fun _ _ => True := by
            apply pays_asUser
            intro user after _
            apply informs_bind (pays_call rfl)
            intro allowed asked _ learns
            cases allowed with
            | false => exact informs_raise _
            | true =>
                apply informs_bind (requestRide_pays now _ _ _ _ rfl learns)
                intro ride last _ _
                exact informs_pure trivial
          exact CallMonitor.Watches.mono pays fun _ _ _ => trivial
      | _ => cases own
  | none =>
      apply (route_waits rideRequestLimitPerMinute route).watches
      · intro note awaited guards
        cases awaited with
        | rideSave ride => cases guards
        | _ => trivial
      · rintro note asked request ⟨userId, same, _⟩
        have stays : request.pickup = none := by
          obtain ⟨token, endpoint⟩ := route
          cases endpoint with
          | requestRide rideId now pickupLat pickupLng dropoffLat dropoffLng => cases own
          | switchMode mode =>
              obtain ⟨_, _, rfl⟩ := Option.map_eq_some_iff.mp same
              rfl
          | driverRegister vehicleType licensePlate =>
              obtain ⟨_, _, rfl⟩ := Option.map_eq_some_iff.mp same
              rfl
          | driverProfile => cases same
          | _ =>
              cases same
              rfl
        have pays : Pays rideRequestLimitPerMinute route note (handler P request)
            fun _ _ => True := by
          apply (handler_rewrites stays).weaken
          intro report awaited rewrites
          cases awaited with
          | rideSave ride => exact Or.inl rewrites
          | _ => trivial
        exact CallMonitor.Watches.mono pays fun _ _ _ => trivial

end Programs

/-! ## Every ride has its own hit -/

abbrev RoutingEntry := RideHailing.Entry Value Fault Route

/-- The limiter has let a task past under this key. -/
def hitUnder (capacity windowSeconds : Nat) (key : String) : RoutingEntry → Bool
  | ⟨_, _, .limiterHit asked seconds name, .ok true⟩ =>
      decide (asked = capacity ∧ seconds = windowSeconds ∧ name = key)
  | _ => false

/-- The task that is to insert the ride has been let past under the key of its rider. -/
def PaidFor (rideRequestLimitPerMinute : Nat) (log : List RoutingEntry) (ride : Ride) : Prop :=
  ∃ entry ∈ log, entry.request.rideId = some ride.id ∧
    hitUnder rideRequestLimitPerMinute 60 ride.riderId entry = true

/-- The stored rides are paid for, and so are the rides that were read. -/
structure AllPaid (rideRequestLimitPerMinute : Nat) (pool : RoutingPool) : Prop where
  stored : ∀ ride ∈ pool.world.state.rides.rows,
    PaidFor rideRequestLimitPerMinute pool.world.log ride
  read : ∀ {pid : Nat} {route : Route} {rideId : String} {ride : Ride},
    ⟨pid, route, .rideFindById rideId, .ok (some ride)⟩ ∈ pool.world.log →
      PaidFor rideRequestLimitPerMinute pool.world.log ride

section Runs

variable {P : Platform} {rideRequestLimitPerMinute : Nat} {init : Store}
variable {events : List RoutingEvent} {pool : RoutingPool}

theorem PaidFor.cons {log : List RoutingEntry} {ride : Ride}
    (paid : PaidFor rideRequestLimitPerMinute log ride) (entry : RoutingEntry) :
    PaidFor rideRequestLimitPerMinute (entry :: log) ride := by
  obtain ⟨hit, mem, rest⟩ := paid
  exact ⟨hit, List.mem_cons_of_mem entry mem, rest⟩

/-- A row that may be committed is paid for. -/
theorem paidFor_of_pays (allPaid : AllPaid rideRequestLimitPerMinute pool)
    (ran : Routing.run P rideRequestLimitPerMinute (Pool.start init) events = some pool)
    {pid : Nat} {route : Route} {ride : Ride} (task : pool.requests[pid]? = some route)
    (pays : route.pays rideRequestLimitPerMinute (told pid pool.world.log) (.rideSave ride)) :
    PaidFor rideRequestLimitPerMinute pool.world.log ride := by
  rcases pays with ⟨rideId, old, learns, sameId, sameRider⟩ | ⟨own, learns⟩
  · obtain ⟨reader, mem⟩ := entry_of_told learns
    obtain ⟨entry, entryMem, inserts, hit⟩ := allPaid.read mem
    exact ⟨entry, entryMem, sameId ▸ inserts, sameRider ▸ hit⟩
  · obtain ⟨asker, mem⟩ := entry_of_told learns
    have asking := request_of_entry (m := routing P rideRequestLimitPerMinute)
      (fun moved => (Routing.next_machine moved).1) ran mem
    obtain rfl : route = asker := Option.some.inj (task.symm.trans asking)
    exact ⟨_, mem, own, by simp [hitUnder]⟩

theorem allPaid_of_run (noRides : init.rides.rows = [])
    (ran : Routing.run P rideRequestLimitPerMinute (Pool.start init) events = some pool) :
    AllPaid rideRequestLimitPerMinute pool := by
  apply runSteps_reached ?_ ?_ ran
  · constructor
    · intro ride mem
      rw [show (Pool.start init : RoutingPool).world.state.rides.rows = [] from noRides] at mem
      cases mem
    · intro pid route rideId ride mem
      cases mem
  · intro before middle event next ranBefore moved allPaid
    rcases (routing P rideRequestLimitPerMinute).next_cases (Routing.next_machine moved).1 with
      ⟨_, _, rfl⟩ | ⟨pid, broken, advanced⟩ | ⟨_, _, rfl⟩
    · exact ⟨allPaid.stored, allPaid.read⟩
    · obtain ⟨route, call, resume, reply, state, found, replied, rfl⟩ :=
        (routing P rideRequestLimitPerMinute).advance_eq_some advanced
      have pays := transcript_allows (m := routing P rideRequestLimitPerMinute)
        (fun moved => (Routing.next_machine moved).1) (route_pays rideRequestLimitPerMinute)
        ranBefore found
      have old : ∀ ride ∈ middle.world.state.rides.rows, PaidFor rideRequestLimitPerMinute
          (⟨pid, route, call, reply⟩ :: middle.world.log) ride :=
        fun ride mem => (allPaid.stored ride mem).cons _
      constructor
      · cases broken with
        | some fault =>
            obtain ⟨_, _, rfl⟩ := Machine.answer_broken replied
            exact old
        | none =>
            rcases perform_cases replied with rfl | change
            · exact old
            · cases change with
              | rides saved =>
                  intro ride mem
                  rcases KeyedTable.mem_rows_save.mp mem with rfl | ⟨earlier, _⟩
                  · exact (paidFor_of_pays allPaid ranBefore (middle.request_of_task found)
                      pays).cons _
                  · exact old ride earlier
              | _ => exact old
      · intro reader other rideId ride mem
        rcases List.mem_cons.mp mem with same | earlier
        · cases same
          have answered := Machine.perform_of_answer replied
          have stored : middle.world.state.rides.find rideId = some ride := by
            change P.perform pid (.rideFindById rideId) middle.world.state = _ at answered
            simp only [Platform.perform, ok, Option.some.injEq, Prod.mk.injEq,
              Except.ok.injEq] at answered
            exact answered.1
          exact old ride (KeyedTable.find_eq_some_iff.mp stored).1
        · exact (allPaid.read earlier).cons _
    · exact ⟨allPaid.stored, allPaid.read⟩

/-! ## The limiter's count -/

/-- The hits of a key are in order and were all admitted, and the history has each of them. -/
structure Tallied (init : Store) (capacity windowSeconds : Nat) (key : String)
    (pool : RoutingPool) : Prop where
  started : init.clock ≤ pool.world.state.clock
  past : ∀ hit ∈ pool.world.state.hitsOf capacity windowSeconds key,
    hit ≤ pool.world.state.clock
  admitted : Window.Admitted capacity (1000 * windowSeconds) init.clock
    (pool.world.state.hitsOf capacity windowSeconds key)
  length : (pool.world.state.hitsOf capacity windowSeconds key).length =
    (pool.world.log.filter (hitUnder capacity windowSeconds key)).length

variable {capacity windowSeconds : Nat} {key : String} {pool' : RoutingPool}

theorem Tallied.same (tallied : Tallied init capacity windowSeconds key pool)
    (later : pool.world.state.clock ≤ pool'.world.state.clock)
    (hits : pool'.world.state.limiterHits = pool.world.state.limiterHits)
    (log : pool'.world.log.filter (hitUnder capacity windowSeconds key) =
      pool.world.log.filter (hitUnder capacity windowSeconds key)) :
    Tallied init capacity windowSeconds key pool' := by
  have hitsOf : pool'.world.state.hitsOf capacity windowSeconds key =
      pool.world.state.hitsOf capacity windowSeconds key := by
    simp only [Store.hitsOf, hits]
  constructor
  · exact Nat.le_trans tallied.started later
  · rw [hitsOf]
    intro hit mem
    exact Nat.le_trans (tallied.past hit mem) later
  · rw [hitsOf]
    exact tallied.admitted
  · rw [hitsOf, log]
    exact tallied.length

/-- The limiter is asked, and admits the hit if its window has room. -/
theorem Tallied.asked (windows : P.CountsWindows)
    (tallied : Tallied init capacity windowSeconds key pool) {pid : Nat} {route : Route}
    {asked seconds : Nat} {name : String} {reply : Except Fault Bool} {state : Store} {tasks}
    (performed : P.perform pid (.limiterHit asked seconds name) pool.world.state =
      some (reply, state)) :
    Tallied init capacity windowSeconds key
      ⟨⟨state, ⟨pid, route, .limiterHit asked seconds name, reply⟩ :: pool.world.log⟩,
        tasks⟩ := by
  simp only [Platform.perform] at performed
  split at performed
  · rename_i room
    cases performed
    by_cases same : asked = capacity ∧ seconds = windowSeconds ∧ name = key
    · have hits := @hitsOf_cons pool.world.state
        ⟨asked, seconds, name, pool.world.state.clock⟩ capacity windowSeconds key
      rw [if_pos same] at hits
      obtain ⟨rfl, rfl, rfl⟩ := same
      rw [windows] at room
      constructor
      · exact tallied.started
      · rw [hits]
        intro hit mem
        rcases List.mem_cons.mp mem with rfl | older
        · exact le_rfl
        · exact tallied.past hit older
      · rw [hits]
        exact ⟨tallied.started, tallied.past, room, tallied.admitted⟩
      · rw [hits]
        simp only [List.length_cons, tallied.length]
        rw [List.filter_cons_of_pos (by simp [hitUnder]), List.length_cons]
    · have hits := @hitsOf_cons pool.world.state
        ⟨asked, seconds, name, pool.world.state.clock⟩ capacity windowSeconds key
      rw [if_neg same] at hits
      constructor
      · exact tallied.started
      · rw [hits]
        exact tallied.past
      · rw [hits]
        exact tallied.admitted
      · rw [hits, List.filter_cons_of_neg (by simpa [hitUnder] using same)]
        exact tallied.length
  · cases performed
    apply tallied.same
    · exact le_rfl
    · rfl
    · exact List.filter_cons_of_neg (by simp [hitUnder])

theorem tallied_of_run (windows : P.CountsWindows) (unasked : init.limiterHits = [])
    (ran : Routing.run P rideRequestLimitPerMinute (Pool.start init) events = some pool) :
    Tallied init capacity windowSeconds key pool := by
  apply runSteps_reached ?_ ?_ ran
  · have none_yet : (Pool.start init : RoutingPool).world.state.hitsOf capacity windowSeconds
        key = [] := by
      simp [Pool.start, Store.hitsOf, unasked]
    constructor
    · exact le_rfl
    · rw [none_yet]
      intro hit mem
      cases mem
    · rw [none_yet]
      trivial
    · rw [none_yet]
      rfl
  · intro before middle event next _ moved tallied
    rcases (routing P rideRequestLimitPerMinute).next_cases (Routing.next_machine moved).1 with
      ⟨_, _, rfl⟩ | ⟨pid, broken, advanced⟩ | ⟨elapsed, _, rfl⟩
    · exact tallied.same le_rfl rfl rfl
    · obtain ⟨route, call, resume, reply, state, found, replied, rfl⟩ :=
        (routing P rideRequestLimitPerMinute).advance_eq_some advanced
      cases broken with
      | some fault =>
          obtain ⟨_, rfl, rfl⟩ := Machine.answer_broken replied
          apply tallied.same
          · exact le_rfl
          · rfl
          · exact List.filter_cons_of_neg (by cases call <;> simp [hitUnder])
      | none =>
          have performed : P.perform pid call middle.world.state = some (reply, state) := replied
          by_cases limits : ∃ asked seconds name, call = .limiterHit asked seconds name
          · obtain ⟨asked, seconds, name, rfl⟩ := limits
            exact tallied.asked windows performed
          · have other : ∀ asked seconds name, call ≠ .limiterHit asked seconds name :=
              fun asked seconds name same => limits ⟨asked, seconds, name, same⟩
            have sameClock : state.clock = middle.world.state.clock := by
              rcases perform_cases performed with rfl | change
              · rfl
              · cases change <;> rfl
            apply tallied.same
            · exact sameClock.ge
            · exact limiterHits_of_perform other performed
            · apply List.filter_cons_of_neg
              cases call with
              | limiterHit asked seconds name => exact absurd rfl (other asked seconds name)
              | _ => simp [hitUnder]
    · exact tallied.same (Nat.le_add_right _ elapsed) rfl rfl

/-- A rider has no more rides than fit into the windows of a minute that have passed, in each
of them as many as may be requested in a minute. -/
theorem rides_throttled (windows : P.CountsWindows) (noRides : init.rides.rows = [])
    (unasked : init.limiterHits = [])
    (ran : Routing.run P rideRequestLimitPerMinute (Pool.start init) events = some pool)
    (riderId : String) :
    (pool.world.state.rides.rows.filter fun ride => decide (ride.riderId = riderId)).length ≤
      rideRequestLimitPerMinute *
        ((pool.world.state.clock - init.clock) / (1000 * 60) + 1) := by
  have allPaid := allPaid_of_run noRides ran
  have tallied : Tallied init rideRequestLimitPerMinute 60 riderId pool :=
    tallied_of_run windows unasked ran
  have bounded := tallied.admitted.length_le (by decide) tallied.past
  rw [tallied.length] at bounded
  refine Nat.le_trans ?_ bounded
  -- rides have their own identifiers, and hits insert one ride each
  have distinct : ((pool.world.state.rides.rows.filter fun ride =>
      decide (ride.riderId = riderId)).map fun ride => some ride.id).Nodup := by
    have ids := pool.world.state.rides.distinct.sublist
      ((List.filter_sublist (p := fun ride => decide (ride.riderId = riderId))).map Ride.id)
    have lifted := ids.map (Option.some_injective String)
    rwa [List.map_map] at lifted
  have covered : ((pool.world.state.rides.rows.filter fun ride =>
      decide (ride.riderId = riderId)).map fun ride => some ride.id) ⊆
        (pool.world.log.filter (hitUnder rideRequestLimitPerMinute 60 riderId)).map
          fun entry => entry.request.rideId := by
    intro rideId mem
    obtain ⟨ride, rideMem, rfl⟩ := List.mem_map.mp mem
    obtain ⟨stored, same⟩ := List.mem_filter.mp rideMem
    obtain ⟨entry, entryMem, inserts, hit⟩ := allPaid.stored ride stored
    rw [of_decide_eq_true same] at hit
    exact List.mem_map.mpr ⟨entry, List.mem_filter.mpr ⟨entryMem, hit⟩, inserts⟩
  have fewer := (List.subperm_of_subset distinct covered).length_le
  simpa only [List.length_map] using fewer

end Runs

namespace SmallCity

/-- The city with a limiter that counts in windows. -/
def clocked : Platform :=
  { platform with
    admitsHit := fun capacity windowSeconds => Window.admits capacity (1000 * windowSeconds) }

/-- Ann signs in and asks for a ride, twice, where one request a minute is allowed. -/
def annAsksTwice : List RoutingEvent :=
  [.spawn ⟨none, .login "ip" "ann" "apple"⟩, .step 0, .step 0,
    .spawn ⟨some ⟨"ann", .rider⟩, .requestRide "r1" 0 centre centre centre centre⟩] ++
  List.replicate 9 (.step 1) ++
  [.spawn ⟨some ⟨"ann", .rider⟩, .requestRide "r2" 0 centre centre centre centre⟩,
    .step 2, .step 2]

theorem annAsksTwice_throttled :
    ∃ pool, Routing.run clocked 1 (Pool.start store) annAsksTwice = some pool ∧
      pool.world.state.rides.rows.length = 1 ∧
      (pool.world.state.rides.rows.filter fun ride => decide (ride.riderId = "u1")).length ≤
        1 * ((pool.world.state.clock - store.clock) / (1000 * 60) + 1) := by
  obtain ⟨pool, played, shown⟩ := Option.map_eq_some_iff.mp
    (by decide +kernel : (Routing.run clocked 1 (Pool.start store) annAsksTwice).map (fun pool =>
      decide (pool.world.state.rides.rows.length = 1)) = some true)
  exact ⟨pool, played, of_decide_eq_true shown,
    rides_throttled (fun _ _ _ _ => rfl) rfl rfl played "u1"⟩

end SmallCity

end RideHailing
