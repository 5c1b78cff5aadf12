import RideHailing.Responses
import RideHailing.SurgeSupply

/-!
# Ride requests with special coordinates

A coordinate can be infinite or NaN.  A pickup that is not finite is refused by the search,
and an infinite dropoff by the quote, before anything is stored.  A NaN passes both, and
only the minutes of the response cannot be computed from it, after the ride has been stored
and published.
-/

namespace RideHailing

open Service

namespace Float64

def isFinite : Float64 → Bool
  | .finite _ => true
  | _ => false

def isInfinite : Float64 → Bool
  | .posInf => true
  | .negInf => true
  | _ => false

def isNan : Float64 → Bool
  | .nan => true
  | _ => false

theorem exists_of_isFinite {value : Float64} (isFinite : value.isFinite = true) :
    ∃ exactly, value = .finite exactly := by
  cases value with
  | finite exactly => exact ⟨exactly, rfl⟩
  | posInf => cases isFinite
  | negInf => cases isFinite
  | nan => cases isFinite

theorem exists_finite {value : Float64} (bounded : value.isInfinite = false)
    (number : value.isNan = false) : ∃ exactly, value = .finite exactly := by
  cases value with
  | finite exactly => exact ⟨exactly, rfl⟩
  | posInf => cases bounded
  | negInf => cases bounded
  | nan => cases number

end Float64

/-- What becomes of values that are not finite outside the application: Redis refuses to
search around them, a distance to an infinity cannot be computed, the distance to a NaN is
NaN, and `Decimal(str(...))` of a NaN is NaN. -/
structure Platform.SpecialValues (P : Platform) : Prop where
  refuses : ∀ indexed lat lng radiusKm limit, lat.isFinite = false ∨ lng.isFinite = false →
    P.geosearch indexed lat lng radiusKm limit = none
  raises : ∀ (pickupLat pickupLng : ℚ) (dropoffLat dropoffLng : Float64),
    dropoffLat.isInfinite = true ∨ dropoffLng.isInfinite = true →
      ∃ name, P.haversineKm (.finite pickupLat) (.finite pickupLng) dropoffLat dropoffLng =
        .error name
  propagates : ∀ (pickupLat pickupLng : ℚ) (dropoffLat dropoffLng : Float64),
    dropoffLat.isInfinite = false → dropoffLng.isInfinite = false →
      dropoffLat.isNan = true ∨ dropoffLng.isNan = true →
        P.haversineKm (.finite pickupLat) (.finite pickupLng) dropoffLat dropoffLng = .ok .nan
  measures : ∀ pickupLat pickupLng dropoffLat dropoffLng : ℚ, ∃ km : ℚ, 0 ≤ km ∧
    P.haversineKm (.finite pickupLat) (.finite pickupLng) (.finite dropoffLat)
      (.finite dropoffLng) = .ok (.finite km)
  writes : P.decimalOfStr .nan = .nan

/-- The rides and the messages are those from before. -/
structure Store.Untouched (before after : Store) : Prop where
  rides : after.rides = before.rides
  published : after.published = before.published

/-- The request is answered with a ride, or it ends in an error, and no ride has been
stored and no message published. -/
def AllOrNothing (before : Store) (ended : Option (Except Failure Answer × Store)) : Prop :=
  ∃ outcome after, ended = some (outcome, after) ∧
    ((∃ response, outcome = .ok (.ride response)) ∨
      (∃ failure, outcome = .error failure) ∧ before.Untouched after)

theorem Pricing.calculateFare_nan (multiplier : Decimal) :
    Pricing.calculateFare .nan multiplier = some .nan := by
  cases multiplier <;> rfl

/-! ## The fare -/

section Fare

variable (P : Platform) (store : Store) (pid : Nat)

/-- A multiplier is found or computed, and caching it touches neither rides nor
messages. -/
theorem finish_getSurgeMultiplier (lat lng : Float64) (pending available : Nat) :
    ∃ multiplier after, store.Untouched after ∧
      (application P).finish pid (PricingService.getSurgeMultiplier lat lng pending available)
        store = some (.ok multiplier, after) := by
  cases found : store.cached (Pricing.surgeGridKey lat lng) with
  | some multiplier => exact ⟨multiplier, store, ⟨rfl, rfl⟩, finish_cachedMultiplier found⟩
  | none =>
      obtain ⟨multiplier, _, computed, _⟩ :=
        Pricing.computeSurgeMultiplier_bounds pending available
      exact ⟨multiplier, store.withMultiplier (Pricing.surgeGridKey lat lng) multiplier,
        ⟨rfl, rfl⟩, finish_computedMultiplier found computed⟩

variable {P store} {ride : Ride}

/-- Without a search there is no fare. -/
theorem finish_fare_of_refused
    (searched : P.geosearch store.locations.rows ride.pickupLat ride.pickupLng
      (.finite Pricing.surgeSearchRadiusKm) maxResults = none) :
    (application P).finish pid (RideService.calculateFare P ride) store =
      some (.error (.fault .rejected), store) := by
  have counted : P.perform pid
      (.rideCountPendingNear ride.pickupLat ride.pickupLng pendingDelta) store =
        ok (store.countPendingNear ride.pickupLat ride.pickupLng pendingDelta) store := rfl
  unfold RideService.calculateFare
  rw [finish_of_ok (finish_call counted), finish_of_error (finish_refusedSearch searched)]

/-- Without a distance there is no fare either. -/
theorem finish_fare_of_unmeasured {results : List (String × Float64)} {name : String}
    (searched : P.geosearch store.locations.rows ride.pickupLat ride.pickupLng
      (.finite Pricing.surgeSearchRadiusKm) maxResults = some results)
    (unmeasured : P.haversineKm ride.pickupLat ride.pickupLng ride.dropoffLat
      ride.dropoffLng = .error name) :
    (application P).finish pid (RideService.calculateFare P ride) store =
      some (.error (.exception name), store) := by
  have quoted : (application P).finish pid (PricingService.getFareQuote P ride.pickupLat
      ride.pickupLng ride.dropoffLat ride.dropoffLng
      (store.countPendingNear ride.pickupLat ride.pickupLng pendingDelta)
      (store.selects results).length) store =
        some (.error (.exception name), store) := by
    unfold PricingService.getFareQuote
    rw [unmeasured]
    rfl
  exact finish_calculateFare (finish_search searched) quoted

/-- With both of them the fare is computed, or refused because it is too long. -/
theorem finish_fare_of_measured {results : List (String × Float64)} {distanceKm : Float64}
    (searched : P.geosearch store.locations.rows ride.pickupLat ride.pickupLng
      (.finite Pricing.surgeSearchRadiusKm) maxResults = some results)
    (measured : P.haversineKm ride.pickupLat ride.pickupLng ride.dropoffLat
      ride.dropoffLng = .ok distanceKm) :
    ∃ multiplier after, store.Untouched after ∧
      (application P).finish pid (RideService.calculateFare P ride) store =
        some ((quoteOutcome P distanceKm multiplier).map Prod.fst, after) := by
  obtain ⟨multiplier, after, untouched, surge⟩ := finish_getSurgeMultiplier P store pid
    ride.pickupLat ride.pickupLng
    (store.countPendingNear ride.pickupLat ride.pickupLng pendingDelta)
    (store.selects results).length
  exact ⟨multiplier, after, untouched,
    finish_calculateFare (finish_search searched) (finish_getFareQuote measured surge)⟩

end Fare

/-! ## The request -/

/-- The ride that a request asks for. -/
def askedRide (newId : String) (now : Timestamp) (riderId : String)
    (pickupLat pickupLng dropoffLat dropoffLng : Float64) : Ride :=
  { riderId := riderId, pickupLat := pickupLat, pickupLng := pickupLng,
    dropoffLat := dropoffLat, dropoffLng := dropoffLng, id := newId, requestedAt := now }

/-- The ride is stored and published as requested. -/
def Store.withRequested (store : Store) (ride : Ride) : Store :=
  { store with
    rides := store.rides.save ride
    published := store.published ++ [(.rideRequested, ride.id)] }

section Request

variable {P : Platform} {store after : Store} {pid : Nat} {newId riderId : String}
variable {now : Timestamp} {pickupLat pickupLng dropoffLat dropoffLng : Float64}

theorem finish_requestRide_of_active
    (active : store.existsByRiderIdAndStatusIn riderId activeRideStatuses = true) :
    (application P).finish pid (RideService.requestRide P newId now riderId pickupLat pickupLng
        dropoffLat dropoffLng) store =
      some (.error (.http 409 "Rider already has an active ride"), store) := by
  have asked : P.perform pid (.rideExistsByRiderIdAndStatusIn riderId activeRideStatuses)
      store = ok true store := by
    simp only [Platform.perform, active]
  unfold RideService.requestRide
  rw [finish_of_ok (finish_call asked)]
  rfl

theorem finish_requestRide_of_unquoted {failure : Failure}
    (idle : store.existsByRiderIdAndStatusIn riderId activeRideStatuses = false)
    (unquoted : (application P).finish pid (RideService.calculateFare P
      (askedRide newId now riderId pickupLat pickupLng dropoffLat dropoffLng)) store =
        some (.error failure, after)) :
    (application P).finish pid (RideService.requestRide P newId now riderId pickupLat pickupLng
        dropoffLat dropoffLng) store = some (.error failure, after) := by
  have asked : P.perform pid (.rideExistsByRiderIdAndStatusIn riderId activeRideStatuses)
      store = ok false store := by
    simp only [Platform.perform, idle]
  unfold RideService.requestRide
  rw [finish_of_ok (finish_call asked)]
  exact finish_of_error unquoted _

/-- A quoted ride is stored and published. -/
theorem finish_requestRide_of_quoted {fare : Decimal}
    (idle : store.existsByRiderIdAndStatusIn riderId activeRideStatuses = false)
    (quoted : (application P).finish pid (RideService.calculateFare P
      (askedRide newId now riderId pickupLat pickupLng dropoffLat dropoffLng)) store =
        some (.ok fare, after)) :
    let saved := { askedRide newId now riderId pickupLat pickupLng dropoffLat dropoffLng with
      estimatedFare := some fare }
    (application P).finish pid (RideService.requestRide P newId now riderId pickupLat pickupLng
        dropoffLat dropoffLng) store = some (.ok saved, after.withRequested saved) := by
  have asked : P.perform pid (.rideExistsByRiderIdAndStatusIn riderId activeRideStatuses)
      store = ok false store := by
    simp only [Platform.perform, idle]
  unfold RideService.requestRide
  rw [finish_of_ok (finish_call asked)]
  exact finish_of_ok quoted _

end Request

/-! ## The route -/

/-- Admitted by the limiter of ride requests. -/
def Store.withRideRequest (store : Store) (rideRequestLimitPerMinute : Nat) (userId : String) :
    Store :=
  { store with
    limiterHits := ⟨rideRequestLimitPerMinute, 60, userId, store.clock⟩ :: store.limiterHits }

/-- How a request is answered whose service ends like this. -/
def answerOutcome (P : Platform) : Except Failure Ride → Except Failure Answer
  | .error failure => .error failure
  | .ok ride =>
      match rideToResponse P ride with
      | .error name => .error (.exception name)
      | .ok response => .ok (.ride response)

theorem answerOutcome_of_ok {P : Platform} {ride : Ride} {response : RideResponse}
    (mapped : rideToResponse P ride = .ok response) :
    answerOutcome P (.ok ride) = .ok (.ride response) := by
  simp only [answerOutcome, mapped]

theorem answerOutcome_of_error {P : Platform} {ride : Ride} {name : String}
    (raised : rideToResponse P ride = .error name) :
    answerOutcome P (.ok ride) = .error (.exception name) := by
  simp only [answerOutcome, raised]

section Guards

variable {P : Platform} {rideRequestLimitPerMinute : Nat} {store : Store} {token : Token}
variable {user : User} {pid : Nat}

/-- A rider who is signed in reaches the body of the route. -/
theorem finish_asUser {endpoint : Endpoint} {body : User → Service Response}
    (rider : endpoint.requiredRole = some .rider)
    (signedIn : store.users.rows.find? (fun user => decide (user.username = token.username)) =
      some user) :
    (application P).finish pid (Auth.asUser ⟨some token, endpoint⟩ body) store =
      (application P).finish pid (body user) store := by
  have found : P.perform pid (.userFindByUsername token.username) store =
      ok (some user) store := by
    simp only [Platform.perform, signedIn]
  have resolved : (application P).finish pid (Auth.resolveCurrentUser token.username) store =
      some (.ok user, store) := by
    unfold Auth.resolveCurrentUser
    rw [finish_of_ok (finish_call found)]
    rfl
  have authorized : Role.rider ∈ token.authorities := by
    unfold Token.authorities
    split <;> decide
  have authenticated : (application P).finish pid (Auth.getCurrentAuth (some token)) store =
      some (.ok token, store) := rfl
  unfold Auth.asUser
  rw [finish_of_ok authenticated, finish_of_ok resolved]
  simp only [rider, Auth.requireRole, if_pos authorized]
  rfl

variable {newId : String} {now : Timestamp} {pickupLat pickupLng dropoffLat dropoffLng : Float64}
variable {outcome : Except Failure Ride} {after : Store}

/-- The answer to a request that passed the guards, from how its service ends. -/
theorem finish_answered
    (signedIn : store.users.rows.find? (fun user => decide (user.username = token.username)) =
      some user)
    (admitted : P.admitsHit rideRequestLimitPerMinute 60
      (store.hitsOf rideRequestLimitPerMinute 60 user.id) store.clock = true)
    (served : (application P).finish pid (RideService.requestRide P newId now user.id pickupLat
      pickupLng dropoffLat dropoffLng)
        (store.withRideRequest rideRequestLimitPerMinute user.id) = some (outcome, after)) :
    (application P).finish pid (Route.answered P rideRequestLimitPerMinute ⟨some token,
        .requestRide newId now pickupLat pickupLng dropoffLat dropoffLng⟩) store =
      some (answerOutcome P outcome, after) := by
  have hit : P.perform pid (.limiterHit rideRequestLimitPerMinute 60 user.id) store =
      ok true (store.withRideRequest rideRequestLimitPerMinute user.id) := by
    simp only [Platform.perform, admitted, if_true, Store.withRideRequest]
  have program : (application P).finish pid (Route.program P rideRequestLimitPerMinute
      ⟨some token, .requestRide newId now pickupLat pickupLng dropoffLat dropoffLng⟩) store =
        some (outcome.map Response.ride, after) := by
    refine (finish_asUser rfl signedIn).trans ?_
    rw [finish_of_ok (finish_call hit)]
    refine (finish_andThen _ _ _ _).trans ?_
    rw [served]
    cases outcome <;> rfl
  unfold Route.answered
  rw [finish_andThen, program]
  cases outcome with
  | error failure => rfl
  | ok ride =>
      change (application P).finish pid (compute (Response.answer P (.ride ride))) after = _
      simp only [Response.answer, answerOutcome]
      cases rideToResponse P ride <;> rfl

section Signed

variable
  (signedIn : store.users.rows.find? (fun user => decide (user.username = token.username)) =
    some user)
  (admitted : P.admitsHit rideRequestLimitPerMinute 60
    (store.hitsOf rideRequestLimitPerMinute 60 user.id) store.clock = true)

include signedIn admitted

theorem allOrNothing_of_refused {failure : Failure} (untouched : store.Untouched after)
    (served : (application P).finish pid (RideService.requestRide P newId now user.id pickupLat
      pickupLng dropoffLat dropoffLng)
        (store.withRideRequest rideRequestLimitPerMinute user.id) =
          some (.error failure, after)) :
    AllOrNothing store ((application P).finish pid (Route.answered P rideRequestLimitPerMinute
      ⟨some token, .requestRide newId now pickupLat pickupLng dropoffLat dropoffLng⟩) store) :=
  ⟨_, _, finish_answered signedIn admitted served, Or.inr ⟨⟨failure, rfl⟩, untouched⟩⟩

variable {results : List (String × Float64)}
  (idle : store.existsByRiderIdAndStatusIn user.id activeRideStatuses = false)
  (searched : P.geosearch store.locations.rows pickupLat pickupLng
    (.finite Pricing.surgeSearchRadiusKm) maxResults = some results)

include idle searched

/-- What is quoted for a finite distance can also be answered. -/
theorem allOrNothing_of_finite {km : ℚ}
    (measured : P.haversineKm pickupLat pickupLng dropoffLat dropoffLng = .ok (.finite km)) :
    AllOrNothing store ((application P).finish pid (Route.answered P rideRequestLimitPerMinute
      ⟨some token, .requestRide newId now pickupLat pickupLng dropoffLat dropoffLng⟩)
        store) := by
  let ride := askedRide newId now user.id pickupLat pickupLng dropoffLat dropoffLng
  let limited := store.withRideRequest rideRequestLimitPerMinute user.id
  have quote : ∃ multiplier after, limited.Untouched after ∧
      (application P).finish pid (RideService.calculateFare P ride) limited =
        some ((quoteOutcome P (.finite km) multiplier).map Prod.fst, after) :=
    finish_fare_of_measured pid searched measured
  obtain ⟨multiplier, after, ⟨rides, published⟩, quoted⟩ := quote
  cases outcomeEq : quoteOutcome P (.finite km) multiplier with
  | error failure =>
      rw [outcomeEq] at quoted
      exact allOrNothing_of_refused signedIn admitted ⟨rides, published⟩
        (finish_requestRide_of_unquoted idle quoted)
  | ok quotedFare =>
      rw [outcomeEq] at quoted
      obtain ⟨response, mapped⟩ : ∃ response, rideToResponse P
          { ride with estimatedFare := some quotedFare.1 } = .ok response :=
        rideToResponse_of_finite measured
      have answered := finish_answered signedIn admitted
        (finish_requestRide_of_quoted idle quoted)
      exact ⟨_, _, answered, Or.inl ⟨response, answerOutcome_of_ok mapped⟩⟩

/-- Without a distance the ride is stored and published, and then the response raises. -/
theorem finish_answered_of_nan (writes : P.decimalOfStr .nan = .nan)
    (measured : P.haversineKm pickupLat pickupLng dropoffLat dropoffLng = .ok .nan) :
    ∃ after, (application P).finish pid (Route.answered P rideRequestLimitPerMinute
        ⟨some token, .requestRide newId now pickupLat pickupLng dropoffLat dropoffLng⟩) store =
          some (.error (.exception "ValueError"), after) ∧
      after.rides = store.rides.save
        { askedRide newId now user.id pickupLat pickupLng dropoffLat dropoffLng with
          estimatedFare := some .nan } ∧
      after.published = store.published ++ [(.rideRequested, newId)] := by
  let ride := askedRide newId now user.id pickupLat pickupLng dropoffLat dropoffLng
  let limited := store.withRideRequest rideRequestLimitPerMinute user.id
  have quote : ∃ multiplier after, limited.Untouched after ∧
      (application P).finish pid (RideService.calculateFare P ride) limited =
        some ((quoteOutcome P .nan multiplier).map Prod.fst, after) :=
    finish_fare_of_measured pid searched measured
  obtain ⟨multiplier, after, ⟨rides, published⟩, quoted⟩ := quote
  have fare : quoteOutcome P .nan multiplier = .ok (.nan, multiplier) := by
    rw [quoteOutcome, writes, Pricing.calculateFare_nan]
  rw [fare] at quoted
  let saved : Ride := { ride with estimatedFare := some .nan }
  have raised : rideToResponse P saved = .error "ValueError" := rideToResponse_of_nan measured
  have answered := finish_answered signedIn admitted (finish_requestRide_of_quoted idle quoted)
  refine ⟨after.withRequested saved, ?_, ?_, ?_⟩
  · exact answered.trans (congrArg (fun outcome => some (outcome, after.withRequested saved))
      (answerOutcome_of_error raised))
  · simp only [Store.withRequested, rides]
    rfl
  · simp only [Store.withRequested, published]
    rfl

end Signed

/-- A request for a ride that passes the guards of its route is all or nothing if and only
if the rider already has an active ride, or Redis refuses the pickup, or a dropoff
coordinate is infinite, or none of them is NaN. -/
theorem requestRide_allOrNothing_iff (special : P.SpecialValues)
    (signedIn : store.users.rows.find? (fun user => decide (user.username = token.username)) =
      some user)
    (admitted : P.admitsHit rideRequestLimitPerMinute 60
      (store.hitsOf rideRequestLimitPerMinute 60 user.id) store.clock = true) :
    AllOrNothing store ((application P).finish pid (Route.answered P rideRequestLimitPerMinute
        ⟨some token, .requestRide newId now pickupLat pickupLng dropoffLat dropoffLng⟩) store) ↔
      store.existsByRiderIdAndStatusIn user.id activeRideStatuses = true ∨
        P.geosearch store.locations.rows pickupLat pickupLng
          (.finite Pricing.surgeSearchRadiusKm) maxResults = none ∨
        (dropoffLat.isInfinite = true ∨ dropoffLng.isInfinite = true) ∨
        (dropoffLat.isNan = false ∧ dropoffLng.isNan = false) := by
  have limited : store.Untouched (store.withRideRequest rideRequestLimitPerMinute user.id) :=
    ⟨rfl, rfl⟩
  by_cases active : store.existsByRiderIdAndStatusIn user.id activeRideStatuses = true
  · refine iff_of_true ?_ (Or.inl active)
    exact allOrNothing_of_refused signedIn admitted limited
      (finish_requestRide_of_active active)
  have idle : store.existsByRiderIdAndStatusIn user.id activeRideStatuses = false :=
    eq_false_of_ne_true active
  cases searched : P.geosearch store.locations.rows pickupLat pickupLng
      (.finite Pricing.surgeSearchRadiusKm) maxResults with
  | none =>
      refine iff_of_true ?_ (Or.inr (Or.inl rfl))
      exact allOrNothing_of_refused signedIn admitted limited
        (finish_requestRide_of_unquoted idle (finish_fare_of_refused pid searched))
  | some results =>
      have pickup : pickupLat.isFinite = true ∧ pickupLng.isFinite = true := by
        by_contra beyond
        have refusal := special.refuses store.locations.rows pickupLat pickupLng
          (.finite Pricing.surgeSearchRadiusKm) maxResults (by simpa [imp_iff_not_or] using beyond)
        rw [refusal] at searched
        cases searched
      obtain ⟨lat, rfl⟩ := Float64.exists_of_isFinite pickup.1
      obtain ⟨lng, rfl⟩ := Float64.exists_of_isFinite pickup.2
      by_cases infinite : dropoffLat.isInfinite = true ∨ dropoffLng.isInfinite = true
      · refine iff_of_true ?_ (Or.inr (Or.inr (Or.inl infinite)))
        obtain ⟨name, unmeasured⟩ := special.raises lat lng dropoffLat dropoffLng infinite
        exact allOrNothing_of_refused signedIn admitted limited
          (finish_requestRide_of_unquoted idle (finish_fare_of_unmeasured pid searched unmeasured))
      · simp only [not_or, Bool.not_eq_true] at infinite
        by_cases numbers : dropoffLat.isNan = false ∧ dropoffLng.isNan = false
        · refine iff_of_true ?_ (Or.inr (Or.inr (Or.inr numbers)))
          obtain ⟨lat', rfl⟩ := Float64.exists_finite infinite.1 numbers.1
          obtain ⟨lng', rfl⟩ := Float64.exists_finite infinite.2 numbers.2
          obtain ⟨km, -, measured⟩ := special.measures lat lng lat' lng'
          exact allOrNothing_of_finite signedIn admitted idle searched measured
        · refine iff_of_false ?_ ?_
          · have missing : dropoffLat.isNan = true ∨ dropoffLng.isNan = true := by
              simpa [imp_iff_not_or] using numbers
            obtain ⟨after, ended, -, published⟩ := finish_answered_of_nan signedIn admitted idle
              searched special.writes
                (special.propagates lat lng dropoffLat dropoffLng infinite.1 infinite.2 missing)
            rw [ended]
            rintro ⟨outcome, last, same, ⟨response, answered⟩ | ⟨-, untouched⟩⟩
            · cases same
              cases answered
            · cases same
              have longer := congrArg List.length (published.symm.trans untouched.published)
              simp at longer
          · simp [active, infinite, numbers]

end Guards

namespace SmallCity

/-- The platform of the city with special values. -/
def plane : Platform :=
  { meridian with
    haversineKm := fun pickupLat pickupLng dropoffLat dropoffLng =>
      if dropoffLat.isInfinite || dropoffLng.isInfinite then .error "ValueError"
      else if dropoffLat.isNan || dropoffLng.isNan then .ok .nan
      else .ok (cityKm pickupLat pickupLng dropoffLat dropoffLng)
    decimalOfStr := fun distanceKm =>
      if distanceKm.isNan then .nan else platform.decimalOfStr distanceKm
    geosearch := fun indexed lat lng radiusKm limit =>
      if lat.isFinite && lng.isFinite then meridian.geosearch indexed lat lng radiusKm limit
      else none }

theorem plane_specialValues : plane.SpecialValues where
  refuses := by
    rintro indexed lat lng radiusKm limit (latFinite | lngFinite)
    · simp [plane, latFinite]
    · simp [plane, lngFinite]
  raises := by
    rintro pickupLat pickupLng dropoffLat dropoffLng (latInfinite | lngInfinite)
    · exact ⟨"ValueError", by simp [plane, latInfinite]⟩
    · exact ⟨"ValueError", by simp [plane, lngInfinite]⟩
  propagates := by
    rintro pickupLat pickupLng dropoffLat dropoffLng latBounded lngBounded (latNan | lngNan)
    · simp [plane, latBounded, lngBounded, latNan]
    · simp [plane, latBounded, lngBounded, lngNan]
  measures := by
    intro pickupLat pickupLng dropoffLat dropoffLng
    by_cases same : pickupLat = dropoffLat ∧ pickupLng = dropoffLng
    · exact ⟨0, le_rfl, by simp [plane, cityKm, same, Float64.isInfinite, Float64.isNan]⟩
    · refine ⟨Binary.nearest 53 (-1074) (10007543398010286 / 10 ^ 16), by decide +kernel, ?_⟩
      simp [plane, cityKm, same, Float64.isInfinite, Float64.isNan, blockKm, Float64.ofRat]
  writes := rfl

/-- Ann asks for a ride from the centre. -/
def annWants (dropoffLat dropoffLng : Float64) : Route :=
  ⟨some ⟨"ann", .rider⟩, .requestRide "r1" 0 centre centre dropoffLat dropoffLng⟩

/-- The latitude of the dropoff is NaN, and the request ends in an error although the ride
has been stored and published. -/
theorem nanRide_isStored :
    plane.SpecialValues ∧
      ((application plane).finish 0 (Route.answered plane 5 (annWants .nan centre))
          store).map (fun (outcome, after) =>
            (outcome, after.rides.rows.map Ride.id, after.published)) =
        some (.error (.exception "ValueError"), ["r1"], [(.rideRequested, "r1")]) ∧
      ¬ AllOrNothing store
        ((application plane).finish 0 (Route.answered plane 5 (annWants .nan centre)) store) := by
  have ended : ((application plane).finish 0 (Route.answered plane 5 (annWants .nan centre))
      store).map (fun (outcome, after) =>
        (outcome, after.rides.rows.map Ride.id, after.published)) =
          some (.error (.exception "ValueError"), ["r1"], [(.rideRequested, "r1")]) := by
    decide +kernel
  refine ⟨plane_specialValues, ended, ?_⟩
  rintro ⟨outcome, after, finished, answered⟩
  rw [finished] at ended
  simp only [Option.map_some, Option.some.injEq, Prod.mk.injEq] at ended
  obtain ⟨rfl, -, published⟩ := ended
  rcases answered with ⟨response, answered⟩ | ⟨-, untouched⟩
  · cases answered
  · rw [untouched.published] at published
    cases published

/-- With two numbers for the dropoff the request is all or nothing. -/
theorem plainRide_allOrNothing :
    AllOrNothing store
      ((application plane).finish 0 (Route.answered plane 5 (annWants market centre)) store) :=
  (requestRide_allOrNothing_iff plane_specialValues (by decide +kernel : _ = some ann)
    (by decide +kernel)).mpr (Or.inr (Or.inr (Or.inr ⟨rfl, rfl⟩)))

end SmallCity

end RideHailing
