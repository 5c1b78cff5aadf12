import RideHailing.DriverMode
import RideHailing.RequestAuthority

/-!
# What a client can change

The caller of a route is the user whom its token names.  In every run, whatever the
other requests do in between, a route changes what is the caller's own, or what belongs
to the other party of a ride that the caller has a part in; without a token it can do no
more than add a new user.
-/

namespace RideHailing

/-- The user is the caller, or the other party of one of these rides of the caller's. -/
def WithinReach (caller : Option String) (shared : Ride → Prop) (userId : String) : Prop :=
  ∃ own, caller = some own ∧ (userId = own ∨ ∃ ride, shared ride ∧ ride.Pairs own userId)

/-- The caller takes part in one of these rides, the one with this identifier. -/
def HasPart (caller : Option String) (shared : Ride → Prop) (rideId : String) : Prop :=
  ∃ own, caller = some own ∧ ∃ ride, shared ride ∧ ride.id = rideId ∧ ride.Involves own

/-- What differs between the stores is the caller's, or shared through one of these rides;
or it is a user whom the request has asked to add. -/
structure Store.ChangedFor (caller : Option String) (enrols : User → Prop)
    (shared : Ride → Prop) (before after : Store) : Prop where
  users : ∀ userId, after.users.find userId ≠ before.users.find userId →
    ∃ user, after.users.find userId = some user ∧
      (enrols user ∨ WithinReach caller shared userId)
  drivers : ∀ userId, after.drivers.find userId ≠ before.drivers.find userId →
    WithinReach caller shared userId
  rides : ∀ rideId, after.rides.find rideId ≠ before.rides.find rideId →
    ∃ own ride, caller = some own ∧ after.rides.find rideId = some ride ∧ ride.Involves own
  ratings : ∀ ratingId, after.ratings.find ratingId ≠ before.ratings.find ratingId →
    ∃ rating ride, after.ratings.find ratingId = some rating ∧
      caller = some rating.fromUserId ∧ shared ride ∧ ride.id = rating.rideId ∧
        ride.status = .completed ∧ ride.Pairs rating.fromUserId rating.toUserId
  available : ∀ userId, ¬ (userId ∈ after.available ↔ userId ∈ before.available) →
    WithinReach caller shared userId
  locations : ∀ userId, after.locations.find userId ≠ before.locations.find userId →
    caller = some userId
  published : ∃ news, after.published = before.published ++ news ∧
    ∀ topic rideId, (topic, rideId) ∈ news → HasPart caller shared rideId
  limits : ∃ hits, after.limiterHits = hits ++ before.limiterHits ∧ ∀ hit ∈ hits,
    caller = some hit.key ∨ caller = none ∧ hit.windowSeconds = 15 * 60
  streams : ∀ queue : Nat, after.sse.queues[queue]? ≠ before.sse.queues[queue]? →
    ∃ key, before.sse.emitterOf key = some queue ∧
      (caller = some key ∨ HasPart caller shared key)

section Steps

variable {P : Platform} {pid : Nat} {caller : Option String} {enrols : User → Prop}
variable {shared : Ride → Prop} {before after : Store} {note : Standing}

theorem Store.ChangedFor.refl (store : Store) :
    store.ChangedFor caller enrols shared store where
  users _ differs := absurd rfl differs
  drivers _ differs := absurd rfl differs
  rides _ differs := absurd rfl differs
  ratings _ differs := absurd rfl differs
  available _ differs := absurd Iff.rfl differs
  locations _ differs := absurd rfl differs
  published := ⟨[], (List.append_nil _).symm, by simp⟩
  limits := ⟨[], rfl, by simp⟩
  streams _ differs := absurd rfl differs

end Steps

/-! ## Runs -/

/-- At some moment of the schedule the ride was stored with these columns. -/
def Routing.Held (P : Platform) (rideRequestLimitPerMinute : Nat) (init : Store)
    (events : List RoutingEvent) (ride : Ride) : Prop :=
  ∃ before after reached, events = before ++ after ∧
    Routing.run P rideRequestLimitPerMinute (Pool.start init) before = some reached ∧
      reached.world.state.rides.find ride.id = some ride

/-- What a route has found out so far. -/
def standingOf (P : Platform) (pool : RoutingPool) (pid : Nat) (route : Route) : Standing :=
  (standing route.presented (route.Enrols P) {}).noteOf pid pool.world.log

section Runs

variable {P : Platform} {rideRequestLimitPerMinute : Nat} {init : Store}
variable {events : List RoutingEvent} {pool pool' : RoutingPool} {pid : Nat}
variable {broken : Option Fault} {route : Route} {before after : Store} {note : Standing}

theorem routing_answers {call : Call} {reply : Except Fault (Value call)}
    (answered : (routing P rideRequestLimitPerMinute).answer pid broken call before =
      some (reply, after)) : Standing.answers call reply := by
  cases broken with
  | none => exact answers_of_perform answered
  | some fault =>
      obtain ⟨permitted, rfl, rfl⟩ := Machine.answer_broken answered
      exact answers_of_broken permitted

theorem standing_followed (route : Route)
    (ran : Routing.run P rideRequestLimitPerMinute (Pool.start init) events = some pool) :
    (standing route.presented (route.Enrols P) {}).Followed (fun other => other = route)
      (fun other => CallMonitor.Leaves
        (fun response last => Standing.Grows {} last ∧ Issues P other response last)
        fun _ last => Standing.Grows {} last) pool := by
  apply CallMonitor.followed_of_run routing_answers ?_ (Routing.run_machine ran)
  rintro _ rfl
  exact route_acts rideRequestLimitPerMinute _

/-- Who the caller is, is told by the row of the name that was presented. -/
theorem caller_after {call : Call} {reply : Except Fault (Value call)} {userId : String}
    (answered : (routing P rideRequestLimitPerMinute).answer pid broken call before =
      some (reply, after))
    (caller : (note.after route.presented call reply).caller = some userId) :
    note.caller = some userId ∨
      ∃ username, route.presented = some username ∧ before.Knows userId username := by
  cases reply with
  | error fault =>
      left
      cases call <;> exact caller
  | ok value =>
      cases call with
      | userFindByUsername username =>
          cases value with
          | none => exact Or.inl caller
          | some user =>
              obtain ⟨stored, named⟩ : user ∈ before.users.rows ∧ user.username = username :=
                userFindByUsername_found answered
              simp only [Standing.after] at caller
              split at caller
              · rename_i presented
                cases known : note.caller with
                | some own =>
                    rw [known] at caller
                    exact Or.inl caller
                | none =>
                    rw [known] at caller
                    obtain rfl : user.id = userId := Option.some.inj caller
                    exact Or.inr ⟨username, presented, user, stored, rfl, named⟩
              · exact Or.inl caller
      | rideFindById rideId => cases value <;> exact Or.inl caller
      | rideFindFirstByDriverIdAndStatusIn driverId statuses =>
          cases value <;> exact Or.inl caller
      | userFindById userId => cases value <;> exact Or.inl caller
      | _ => exact Or.inl caller

/-- A ride that a route has learned of is stored. -/
theorem rides_after {call : Call} {reply : Except Fault (Value call)} {ride : Ride}
    (answered : (routing P rideRequestLimitPerMinute).answer pid broken call before =
      some (reply, after))
    (rideMem : ride ∈ (note.after route.presented call reply).rides) :
    ride ∈ note.rides ∨ before.rides.find ride.id = some ride ∨
      after.rides.find ride.id = some ride := by
  cases reply with
  | error fault =>
      left
      cases call <;> exact rideMem
  | ok value =>
      have performed := Machine.perform_of_answer answered
      cases call with
      | rideFindById rideId =>
          cases value with
          | none => exact Or.inl rideMem
          | some found =>
              rcases List.mem_cons.mp rideMem with rfl | older
              · simp only [routing, Platform.perform, ok, Option.some.injEq, Prod.mk.injEq,
                  Except.ok.injEq] at performed
                have stored := (KeyedTable.find_eq_some_iff.mp performed.1).1
                exact Or.inr (Or.inl (KeyedTable.mem_rows_iff_find.mp stored))
              · exact Or.inl older
      | rideFindFirstByDriverIdAndStatusIn driverId statuses =>
          cases value with
          | none => exact Or.inl rideMem
          | some found =>
              rcases List.mem_cons.mp rideMem with rfl | older
              · simp only [routing, Platform.perform, ok, Option.some.injEq, Prod.mk.injEq,
                  Except.ok.injEq] at performed
                have stored := List.mem_of_mem_filter (P.firstRow_mem performed.1)
                exact Or.inr (Or.inl (KeyedTable.mem_rows_iff_find.mp stored))
              · exact Or.inl older
      | rideSave saved =>
          cases performed
          rcases List.mem_cons.mp rideMem with rfl | older
          · exact Or.inr (Or.inr (KeyedTable.find_save_self _ _))
          · exact Or.inl older
      | userFindByUsername username =>
          cases value with
          | none => exact Or.inl rideMem
          | some user => exact Or.inl rideMem
      | userFindById userId => cases value <;> exact Or.inl rideMem
      | _ => exact Or.inl rideMem

/-- What the routes know is so: their callers have the names in their tokens, which the
application has issued, and the rides were stored as they know them. -/
structure Standings (P : Platform) (held : Ride → Prop) (pool : RoutingPool) : Prop where
  issued : ∀ {pid : Nat} {route : Route}, pool.requests[pid]? = some route →
    ∀ token, route.token = some token → token ∈ issuedTokens pool
  callers : ∀ {pid : Nat} {route : Route}, pool.requests[pid]? = some route → ∀ userId,
    (standingOf P pool pid route).caller = some userId →
      ∃ username, route.presented = some username ∧ pool.world.state.Knows userId username
  rides : ∀ {pid : Nat} {route : Route}, pool.requests[pid]? = some route →
    ∀ ride ∈ (standingOf P pool pid route).rides, held ride

/-- A token stays issued. -/
theorem issued_of_advance {token : Token}
    (advanced : (routing P rideRequestLimitPerMinute).advance pool pid broken = some pool')
    (issued : token ∈ issuedTokens pool) : token ∈ issuedTokens pool' := by
  obtain ⟨route, call, resume, reply, state, found, _, rfl⟩ :=
    (routing P rideRequestLimitPerMinute).advance_eq_some advanced
  obtain ⟨task, taskMem, given⟩ := List.mem_filterMap.mp issued
  obtain ⟨other, otherFound⟩ := List.mem_iff_getElem?.mp taskMem
  have apart : pid ≠ other := by
    rintro rfl
    obtain rfl : task = ⟨route, .await call resume⟩ :=
      Option.some.inj (otherFound.symm.trans found)
    cases given
  apply List.mem_filterMap.mpr
  refine ⟨task, List.mem_iff_getElem?.mpr ⟨other, ?_⟩, given⟩
  rw [List.getElem?_set_ne apart]
  exact otherFound

theorem Standings.mono {held later : Ride → Prop} (standings : Standings P held pool)
    (weaker : ∀ ride, held ride → later ride) : Standings P later pool :=
  ⟨standings.issued, standings.callers, fun there ride mem =>
    weaker ride (standings.rides there ride mem)⟩

theorem Standings.advance {held : Ride → Prop} (standings : Standings P held pool)
    (grown : pool.world.state.Extends pool'.world.state)
    (stored : ∀ ride : Ride, pool.world.state.rides.find ride.id = some ride ∨
      pool'.world.state.rides.find ride.id = some ride → held ride)
    (advanced : (routing P rideRequestLimitPerMinute).advance pool pid broken = some pool') :
    Standings P held pool' := by
  have requests := (routing P rideRequestLimitPerMinute).requests_advance advanced
  have issued : ∀ token ∈ issuedTokens pool, token ∈ issuedTokens pool' :=
    fun _ => issued_of_advance advanced
  obtain ⟨route, call, resume, reply, state, task, answered, rfl⟩ :=
    (routing P rideRequestLimitPerMinute).advance_eq_some advanced
  have own : pool.requests[pid]? = some route := Pool.request_of_task task
  constructor
  · intro other otherRoute there token given
    rw [requests] at there
    exact issued token (standings.issued there token given)
  · intro other otherRoute there userId caller
    rw [requests] at there
    simp only [standingOf, CallMonitor.noteOf] at caller
    split at caller
    · rename_i same
      obtain rfl : pid = other := same
      obtain rfl : route = otherRoute := Option.some.inj (own.symm.trans there)
      rcases caller_after answered caller with before | ⟨username, presented, known⟩
      · obtain ⟨username, presented, known⟩ := standings.callers there userId before
        exact ⟨username, presented, grown.knows known⟩
      · exact ⟨username, presented, grown.knows known⟩
    · obtain ⟨username, presented, known⟩ := standings.callers there userId caller
      exact ⟨username, presented, grown.knows known⟩
  · intro other otherRoute there ride rideMem
    rw [requests] at there
    simp only [standingOf, CallMonitor.noteOf] at rideMem
    split at rideMem
    · rename_i same
      obtain rfl : pid = other := same
      obtain rfl : route = otherRoute := Option.some.inj (own.symm.trans there)
      rcases rides_after answered rideMem with before | here
      · exact standings.rides there ride before
      · exact stored ride here
    · exact standings.rides there ride rideMem

theorem Standings.spawn {held : Ride → Prop} {route : Route} (standings : Standings P held pool)
    (consistent : Consistent pool)
    (moved : Routing.next P rideRequestLimitPerMinute pool (.spawn route) = some pool') :
    Standings P held pool' := by
  obtain ⟨begun, presented⟩ := Routing.next_machine moved
  obtain rfl := (routing P rideRequestLimitPerMinute).next_spawn begun
  have requests : (Pool.mk pool.world (pool.tasks ++
      [⟨route, (routing P rideRequestLimitPerMinute).program route⟩])).requests =
        pool.requests ++ [route] := by
    simp [Pool.requests]
  have issued : ∀ token ∈ issuedTokens pool, token ∈ issuedTokens (Pool.mk pool.world
      (pool.tasks ++ [⟨route, (routing P rideRequestLimitPerMinute).program route⟩])) := by
    intro token mem
    simp only [issuedTokens, List.filterMap_append, List.mem_append] at mem ⊢
    exact Or.inl mem
  have fresh : standingOf P pool pool.requests.length route = {} := by
    apply CallMonitor.noteOf_fresh
    intro entry mem same
    have bound := (List.getElem?_eq_some_iff.mp (consistent.logged entry mem)).1
    omega
  constructor
  · intro pid other there token given
    rw [requests] at there
    rcases getElem?_concat_cases there with earlier | ⟨rfl, rfl⟩
    · exact issued token (standings.issued earlier token given)
    · exact issued token (presented other rfl token given)
  · intro pid other there userId caller
    rw [requests] at there
    rcases getElem?_concat_cases there with earlier | ⟨rfl, rfl⟩
    · exact standings.callers earlier userId caller
    · change (standingOf P pool pool.requests.length other).caller = some userId at caller
      rw [fresh] at caller
      cases caller
  · intro pid other there ride rideMem
    rw [requests] at there
    rcases getElem?_concat_cases there with earlier | ⟨rfl, rfl⟩
    · exact standings.rides earlier ride rideMem
    · change ride ∈ (standingOf P pool pool.requests.length other).rides at rideMem
      rw [fresh] at rideMem
      cases rideMem

end Runs

namespace SmallCity

/-- Let one route perform this many calls. -/
def calls (pid count : Nat) : List RoutingEvent :=
  List.replicate count (.step pid)

end SmallCity

end RideHailing
