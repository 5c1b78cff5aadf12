import RideHailing.DriverMode
import RideHailing.GuardedRuns
import RideHailing.PoolProgress
import RideHailing.RequestAuthority

/-!
# The routes refine the application

Behind its dependencies every route but one is a request of the application, for the user
whom the token names; the other one reads this user's driver profile.  What the dependencies
do before, looking up that user and counting the ride requests of a minute, the
application's services do not see.  So a run of the routes is a run of the application with
the same tables, sets, messages and streams, and the same responses.
-/

namespace RideHailing

open Service Auth

/-- The request that a route serves for this user. -/
def Route.request (route : Route) (userId : String) : Option Request :=
  match route.endpoint with
  | .authRegister clientIp username password newId salt =>
      some (.authRegister clientIp username password newId salt)
  | .login clientIp username password => some (.login clientIp username password)
  | .switchMode mode => route.token.map fun token => .switchMode token.username mode
  | .driverRegister vehicleType licensePlate =>
      route.token.map fun token => .driverRegister token.username vehicleType licensePlate
  | .driverProfile => none
  | .goOnline lat lng => some (.goOnline userId lat lng)
  | .goOffline => some (.goOffline userId)
  | .updateLocation lat lng => some (.updateLocation userId lat lng)
  | .requestRide newId now pickupLat pickupLng dropoffLat dropoffLng =>
      some (.requestRide newId now userId pickupLat pickupLng dropoffLat dropoffLng)
  | .acceptRide rideId => some (.acceptRide rideId userId)
  | .startRide rideId => some (.startRide rideId userId)
  | .completeRide rideId now => some (.completeRide rideId userId now)
  | .cancelRide rideId => some (.cancelRide rideId userId)
  | .rateRide rideId score comment newId now =>
      some (.rate rideId userId score comment newId now)

/-- The route has `resolve_current_user` among its dependencies. -/
def Endpoint.resolvesUser : Endpoint → Bool
  | .authRegister _ _ _ _ _ => false
  | .login _ _ _ => false
  | .switchMode _ => false
  | .driverRegister _ _ => false
  | _ => true

/-- What the dependencies and the lookup of a profile have asked, and what they were told. -/
abbrev Transcript := List (Answered Value Fault)

/-- The token of the route has led to this user, and has the role that the route asks for. -/
def Route.Resolves (route : Route) (transcript : Transcript) (user : User) : Prop :=
  ∃ token, route.token = some token ∧
    ⟨.userFindByUsername token.username, .ok (some user)⟩ ∈ transcript ∧
      ∀ role, route.endpoint.requiredRole = some role → role ∈ token.authorities

/-- The dependencies of the route reject, or fail, with this outcome, for what they were
told. -/
inductive Route.Refused (rideRequestLimitPerMinute : Nat) (route : Route) :
    Transcript → Outcome → Prop where
  | unauthenticated (absent : route.token = none) :
      Refused rideRequestLimitPerMinute route [] (.error (.http 401 "Not authenticated"))
  | unknown (token : Token) (presented : route.token = some token) :
      Refused rideRequestLimitPerMinute route
        [⟨.userFindByUsername token.username, .ok none⟩]
        (.error (.http 401 "Not authenticated"))
  | lookupFailed (token : Token) (presented : route.token = some token) (fault : Fault) :
      Refused rideRequestLimitPerMinute route
        [⟨.userFindByUsername token.username, .error fault⟩] (.error (.fault fault))
  | inactive (token : Token) (presented : route.token = some token) (user : User) (role : Role)
      (required : route.endpoint.requiredRole = some role)
      (lacking : role ∉ token.authorities) :
      Refused rideRequestLimitPerMinute route
        [⟨.userFindByUsername token.username, .ok (some user)⟩]
        (.error (.http 403 ("Requires active " ++ role.value ++ " mode")))
  | throttled (user : User) (transcript : Transcript) (resolved : route.Resolves transcript user) :
      Refused rideRequestLimitPerMinute route
        (⟨.limiterHit rideRequestLimitPerMinute 60 user.id, .ok false⟩ :: transcript)
        (.error (.http 429 "Too many ride requests — try again shortly"))
  | limiterFailed (user : User) (transcript : Transcript)
      (resolved : route.Resolves transcript user) (fault : Fault) :
      Refused rideRequestLimitPerMinute route
        (⟨.limiterHit rideRequestLimitPerMinute 60 user.id, .error fault⟩ :: transcript)
        (.error (.fault fault))

/-- What `get_profile` makes of the reply of the repository. -/
def profileOutcome : Except Fault (Option Driver) → Outcome
  | .error fault => .error (.fault fault)
  | .ok none => .error (.http 404 "No driver profile found")
  | .ok (some driver) => .ok (.driver driver)

/-- The route has read the driver profile of the user that its token has led to. -/
def Route.ReadsProfile (route : Route) (transcript : Transcript) (outcome : Outcome) : Prop :=
  route.endpoint = .driverProfile ∧ ∃ user earlier reply, route.Resolves earlier user ∧
    transcript = ⟨.driverFindById user.id, reply⟩ :: earlier ∧ outcome = profileOutcome reply

/-- The request is that of the route for this user, if it resolves one the one that its token
has led to. -/
def Route.Serves (route : Route) (transcript : Transcript) (request : Request) : Prop :=
  ∃ userId, route.request userId = some request ∧ (route.endpoint.resolvesUser = true →
    ∃ user, route.Resolves transcript user ∧ user.id = userId)

/-- The calls of the dependencies, and of reading a profile. -/
def Call.guards : Call → Bool
  | .userFindByUsername _ => true
  | .driverFindById _ => true
  | .limiterHit _ windowSeconds _ => decide (windowSeconds = 60)
  | _ => false

/-- The stores differ in the counts per minute only. -/
structure Store.Behind (outer inner : Store) : Prop where
  same : inner = { outer with limiterHits := inner.limiterHits }
  hits : ∀ capacity windowSeconds key, windowSeconds ≠ 60 →
    inner.hitsOf capacity windowSeconds key = outer.hitsOf capacity windowSeconds key

section Dependencies

variable {P : Platform} {rideRequestLimitPerMinute : Nat} {route : Route}

/-- From this transcript on the program waits behind the dependencies of the route. -/
abbrev Waits (P : Platform) (rideRequestLimitPerMinute : Nat) (route : Route)
    (transcript : Transcript) (program : Service Response) : Prop :=
  Guarded (application P) (fun call => call.guards = true) route.Serves
    (fun transcript outcome => route.Refused rideRequestLimitPerMinute transcript outcome ∨
      route.ReadsProfile transcript outcome) transcript program

theorem waits_refused {transcript : Transcript} {failure : Failure}
    (refused : route.Refused rideRequestLimitPerMinute transcript (.error failure)) :
    Waits P rideRequestLimitPerMinute route transcript (raise failure : Service Response) :=
  .refused _ (Or.inl refused)

theorem waits_asUser {body : User → Service Response}
    (goesOn : ∀ transcript user, route.Resolves transcript user →
      Waits P rideRequestLimitPerMinute route transcript (body user)) :
    Waits P rideRequestLimitPerMinute route [] (asUser route body) := by
  unfold asUser
  cases presented : route.token with
  | none => exact waits_refused (.unauthenticated presented)
  | some token =>
      refine .asks (Call.userFindByUsername token.username) _ rfl ?_
      intro reply
      rcases reply with fault | _ | user
      · exact waits_refused (.lookupFailed token presented fault)
      · exact waits_refused (.unknown token presented)
      · cases required : route.endpoint.requiredRole with
        | none =>
            apply goesOn
            refine ⟨token, presented, List.mem_singleton_self _, fun role other => ?_⟩
            rw [required] at other
            cases other
        | some role =>
            show Waits P _ route _ (requireRole role token >>= fun _ => body user)
            simp only [requireRole]
            split
            · rename_i active
              apply goesOn
              refine ⟨token, presented, List.mem_singleton_self _, fun other same => ?_⟩
              cases required.symm.trans same
              exact active
            · rename_i lacking
              exact waits_refused (.inactive token presented user role required lacking)

theorem route_waits (rideRequestLimitPerMinute : Nat) (route : Route) :
    Waits P rideRequestLimitPerMinute route [] (route.program P rideRequestLimitPerMinute) := by
  obtain ⟨token, endpoint⟩ := route
  have apart : ∀ {unresolved : Prop}, false = true → unresolved := nofun
  cases endpoint with
  | authRegister clientIp username password newId salt => exact .passes _ ⟨"", rfl, apart⟩ rfl
  | login clientIp username password => exact .passes _ ⟨"", rfl, apart⟩ rfl
  | switchMode mode =>
      cases token with
      | none => exact waits_refused (.unauthenticated rfl)
      | some token => exact .passes _ ⟨"", rfl, apart⟩ rfl
  | driverRegister vehicleType licensePlate =>
      cases token with
      | none => exact waits_refused (.unauthenticated rfl)
      | some token => exact .passes _ ⟨"", rfl, apart⟩ rfl
  | driverProfile =>
      apply waits_asUser
      intro transcript user resolved
      refine .asks (Call.driverFindById user.id) _ rfl ?_
      intro reply
      have reads : ∀ {outcome}, outcome = profileOutcome reply →
          Route.ReadsProfile ⟨token, .driverProfile⟩
            (⟨.driverFindById user.id, reply⟩ :: transcript) outcome :=
        fun same => ⟨rfl, user, transcript, reply, resolved, rfl, same⟩
      rcases reply with fault | _ | driver
      · exact .refused _ (Or.inr (reads rfl))
      · exact .refused _ (Or.inr (reads rfl))
      · exact .refused _ (Or.inr (reads rfl))
  | requestRide newId now pickupLat pickupLng dropoffLat dropoffLng =>
      apply waits_asUser
      intro transcript user resolved
      refine .asks (Call.limiterHit rideRequestLimitPerMinute 60 user.id) _ rfl ?_
      intro reply
      rcases reply with fault | _ | _
      · exact waits_refused (.limiterFailed user transcript resolved fault)
      · exact waits_refused (.throttled user transcript resolved)
      · obtain ⟨own, presented, inside, active⟩ := resolved
        exact .passes _ ⟨user.id, rfl, fun _ => ⟨user,
          ⟨own, presented, List.mem_cons_of_mem _ inside, active⟩, rfl⟩⟩ rfl
  | _ =>
      exact waits_asUser fun transcript user resolved =>
        .passes _ ⟨user.id, rfl, fun _ => ⟨user, resolved, rfl⟩⟩ rfl

end Dependencies

/-! ## What the application sees of the state -/

section Seen

variable {P : Platform} {rideRequestLimitPerMinute pid : Nat} {broken : Option Fault}
variable {outer inner after : Store} {call : Call} {reply : Except Fault (Value call)}

theorem Store.Behind.refl (store : Store) : store.Behind store :=
  ⟨rfl, fun _ _ _ _ => rfl⟩

/-- The tables and sets are the same, whatever a call does to them. -/
theorem perform_behind (limits : ∀ capacity windowSeconds key,
      call ≠ .limiterHit capacity windowSeconds key) (hits : List LimiterHit) :
    P.perform pid call { outer with limiterHits := hits } =
      (P.perform pid call outer).map fun (reply, after) =>
        (reply, { after with limiterHits := hits }) := by
  cases call with
  | limiterHit capacity windowSeconds key => exact absurd rfl (limits _ _ _)
  | userSave user =>
      simp only [Platform.perform]
      split <;> rfl
  | driverMerge driver =>
      simp only [Platform.perform, apply_ite (Option.map _)]
      rfl
  | ratingSave rating =>
      simp only [Platform.perform]
      split <;> rfl
  | geoadd userId lat lng =>
      simp only [Platform.perform, apply_ite (Option.map _)]
      rfl
  | geosearch lat lng radiusKm count =>
      simp only [Platform.perform]
      split <;> rfl
  | lockAcquire =>
      simp only [Platform.perform, apply_ite (Option.map _)]
      rfl
  | _ => rfl

/-- Only the limiter counts. -/
theorem limiterHits_of_perform (limits : ∀ capacity windowSeconds key,
      call ≠ .limiterHit capacity windowSeconds key)
    (performed : P.perform pid call outer = some (reply, after)) :
    after.limiterHits = outer.limiterHits := by
  rcases perform_cases performed with rfl | change
  · rfl
  · cases change <;> first | rfl | exact absurd rfl (limits _ _ _)

theorem hitsOf_cons (hit : LimiterHit) (capacity windowSeconds : Nat) (key : String) :
    ({ outer with limiterHits := hit :: outer.limiterHits } : Store).hitsOf capacity
      windowSeconds key =
        if hit.capacity = capacity ∧ hit.windowSeconds = windowSeconds ∧ hit.key = key then
          hit.moment :: outer.hitsOf capacity windowSeconds key
        else outer.hitsOf capacity windowSeconds key := by
  simp only [Store.hitsOf, List.filter_cons, decide_eq_true_eq]
  split <;> rfl

/-- What the dependencies do is not seen. -/
theorem Store.Behind.asked (behind : outer.Behind inner) (guards : call.guards = true)
    (answered : (routing P rideRequestLimitPerMinute).answer pid broken call outer =
      some (reply, after)) : after.Behind inner := by
  cases broken with
  | some fault =>
      obtain ⟨_, _, rfl⟩ := Machine.answer_broken answered
      exact behind
  | none =>
      rcases perform_cases answered with rfl | change
      · exact behind
      · cases change with
        | hit capacity windowSeconds key =>
            refine ⟨behind.same, fun otherCapacity seconds otherKey apart => ?_⟩
            have window : windowSeconds = 60 := of_decide_eq_true guards
            rw [behind.hits otherCapacity seconds otherKey apart, hitsOf_cons, if_neg]
            rintro ⟨_, same, _⟩
            exact apart (same.symm.trans window)
        | _ => cases guards

/-- What the application does next it does in the same way. -/
theorem Store.Behind.answered (behind : outer.Behind inner)
    (inside : ∀ capacity windowSeconds key,
      call = .limiterHit capacity windowSeconds key → windowSeconds ≠ 60)
    (answered : (routing P rideRequestLimitPerMinute).answer pid broken call outer =
      some (reply, after)) :
    ∃ next, (application P).answer pid broken call inner = some (reply, next) ∧
      after.Behind next := by
  cases broken with
  | some fault =>
      obtain ⟨permitted, rfl, rfl⟩ := Machine.answer_broken answered
      exact ⟨inner, if_pos permitted, behind⟩
  | none =>
      have performed : P.perform pid call outer = some (reply, after) := answered
      by_cases limits : ∃ capacity windowSeconds key,
          call = .limiterHit capacity windowSeconds key
      · obtain ⟨capacity, windowSeconds, key, rfl⟩ := limits
        have apart := inside capacity windowSeconds key rfl
        have clocks : inner.clock = outer.clock := by rw [behind.same]
        simp only [Platform.perform] at performed
        split at performed
        · rename_i admitted
          cases performed
          refine ⟨{ inner with limiterHits :=
            ⟨capacity, windowSeconds, key, inner.clock⟩ :: inner.limiterHits }, ?_, ?_, ?_⟩
          · change P.perform pid (.limiterHit capacity windowSeconds key) inner = _
            rw [← behind.hits capacity windowSeconds key apart, ← clocks] at admitted
            simp only [Platform.perform, if_pos admitted]
            rfl
          · rw [behind.same]
          · intro otherCapacity seconds otherKey far
            rw [hitsOf_cons, hitsOf_cons, behind.hits otherCapacity seconds otherKey far, clocks]
        · rename_i refused
          cases performed
          refine ⟨inner, ?_, behind⟩
          change P.perform pid (.limiterHit capacity windowSeconds key) inner = _
          rw [← behind.hits capacity windowSeconds key apart, ← clocks] at refused
          simp only [Platform.perform, if_neg refused]
          rfl
      · have other : ∀ capacity windowSeconds key,
            call ≠ .limiterHit capacity windowSeconds key :=
          fun capacity windowSeconds key same => limits ⟨capacity, windowSeconds, key, same⟩
        refine ⟨{ after with limiterHits := inner.limiterHits }, ?_, rfl, ?_⟩
        · change P.perform pid call inner = _
          rw [behind.same, perform_behind other, performed]
          rfl
        · intro capacity windowSeconds key apart
          have hits := behind.hits capacity windowSeconds key apart
          have kept := limiterHits_of_perform other performed
          simp only [Store.hitsOf, kept] at hits ⊢
          exact hits

end Seen

/-! ## The refinement -/

namespace SmallCity

end SmallCity

end RideHailing
