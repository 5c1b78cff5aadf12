import RideHailing.FleetRuns

/-!
# Rides that have ended

A COMPLETED ride rejects every transition and nothing changes.  So does a
CANCELLED one, except that its participants may cancel it once more: that request
succeeds, raises the version and makes the driver recorded on the ride available.
-/

namespace RideHailing

open Service

/-- The store, whatever the clock shows. -/
def Store.still (store : Store) : Store :=
  { store with clock := 0 }

/-- The requests that move a ride on. -/
inductive Transition where
  | accept
  | start
  | complete (now : Timestamp)
  | cancel
deriving DecidableEq, Repr

def Transition.request (rideId userId : String) : Transition → Request
  | .accept => .acceptRide rideId userId
  | .start => .startRide rideId userId
  | .complete now => .completeRide rideId userId now
  | .cancel => .cancelRide rideId userId

/-- The triple for a service none of whose calls fails. -/
abbrev StillSolo (P : Platform) (pid : Nat) {α : Type} (seen : Store)
    (action : Service α) (returns : α → Store → Prop)
    (raises : Failure → Store → Prop) : Prop :=
  (application P).Solo Store.still false pid seen action returns raises

/-- The service ends with an HTTP error and changes nothing, and no call keeps it
waiting. -/
structure Rejects (P : Platform) (pid : Nat) {α : Type} (seen : Store)
    (action : Service α) : Prop where
  solo : StillSolo P pid seen action (fun _ _ => False) fun failure after =>
    after = seen ∧ ∃ status detail, failure = .http status detail
  finishes : ∀ state, state.still = seen → ∃ status detail,
    (application P).finish pid action state = some (.error (.http status detail), state)

variable {P : Platform} {pid : Nat} {seen : Store} {rideId userId : String} {ride : Ride}

/-! ## Rejections -/

theorem still_call {awaited : Call} {returns : Value awaited → Store → Prop}
    {raises : Failure → Store → Prop}
    (performed : ∀ state reply after, state.still = seen →
      P.perform pid awaited state = some (reply, after) →
        Ends returns (fun fault => raises (.fault fault)) reply after.still) :
    StillSolo P pid seen (call awaited) returns raises := by
  apply solo_perform
  intro state broken reply after looks fails answered
  cases broken with
  | none => exact performed state reply after looks answered
  | some fault => cases fails rfl

/-- A call that answers from the store and leaves it alone. -/
theorem still_reads {awaited : Call} {result : Value awaited}
    {raises : Failure → Store → Prop}
    (answers : ∀ state, state.still = seen →
      P.perform pid awaited state = some (.ok result, state)) :
    StillSolo P pid seen (call awaited)
      (fun found after => after = seen ∧ found = result) raises :=
  reads_solo answers fun fails => absurd fails Bool.false_ne_true

theorem lockAcquire_still {raises : Failure → Store → Prop} :
    StillSolo P pid seen (call .lockAcquire)
      (fun _ after => after = { seen with acceptLock := some pid }) raises := by
  apply still_call
  intro state reply after looks performed
  subst looks
  simp only [Platform.perform] at performed
  split at performed
  · cases performed
    rfl
  · cases performed

/-- Releasing the lock restores the store in which it was acquired. -/
theorem lockRelease_still {raises : Failure → Store → Prop}
    (free : seen.acceptLock = none) :
    StillSolo P pid { seen with acceptLock := some pid } (call .lockRelease)
      (fun _ after => after = seen) raises := by
  apply still_call
  intro state reply after looks performed
  cases performed
  have same : { state.still with acceptLock := none } = seen := by
    rw [looks, ← free]
  exact same

theorem getRide_finishes {state : Store}
    (found : state.rides.find rideId = some ride) :
    (application P).finish pid (RideService.getRide rideId) state =
      some (.ok ride, state) := by
  have performed : P.perform pid (.rideFindById rideId) state =
      some (.ok (some ride), state) := by
    rw [← found]
    rfl
  rw [RideService.getRide, finish_of_ok (finish_call performed)]
  rfl

/-- What the stored ride rejects is rejected. -/
theorem getRide_rejects {α : Type} {next : Ride → Service α} {status : Nat}
    {detail : String} (found : seen.rides.find rideId = some ride)
    (rejects : next ride = reject status detail) :
    Rejects P pid seen (RideService.getRide rideId >>= next) := by
  constructor
  · have reads : StillSolo P pid seen (call (.rideFindById rideId))
        (fun result after => after = seen ∧ result = some ride)
        (fun failure after => after = seen ∧ ∃ status detail,
          failure = .http status detail) := by
      apply still_reads
      rintro state rfl
      rw [← found]
      rfl
    have returned : StillSolo P pid seen (RideService.getRide rideId)
        (fun result after => after = seen ∧ result = ride)
        (fun failure after => after = seen ∧ ∃ status detail,
          failure = .http status detail) := by
      unfold RideService.getRide
      refine reads.read ?_
      rintro _ rfl
      exact solo_pure ⟨rfl, rfl⟩
    refine returned.read ?_
    rintro _ rfl
    rw [rejects]
    exact solo_raise ⟨rfl, status, detail, rfl⟩
  · rintro state rfl
    have stored : state.rides.find rideId = some ride := found
    refine ⟨status, detail, ?_⟩
    rw [finish_of_ok (getRide_finishes stored), rejects]
    rfl

/-- A rejection under the accept lock leaves the lock free. -/
theorem withAcceptLock_rejects {α : Type} {body : Service α}
    (free : seen.acceptLock = none)
    (rejects : Rejects P pid { seen with acceptLock := some pid } body) :
    Rejects P pid seen (RideService.withAcceptLock body) := by
  constructor
  · unfold RideService.withAcceptLock
    refine lockAcquire_still.bind ?_
    rintro _ _ rfl
    refine solo_ensuring rejects.solo ?_ ?_
    · intro _ _ absurdReturn
      exact absurdReturn.elim
    · rintro failure _ ⟨rfl, isHttp⟩
      apply (lockRelease_still free).returning
      · rintro _ _ rfl
        exact ⟨rfl, isHttp⟩
  · rintro state rfl
    have unlocked : state.acceptLock = none := free
    obtain ⟨status, detail, finished⟩ :=
      rejects.finishes { state with acceptLock := some pid } rfl
    have acquired : (application P).finish pid (call .lockAcquire) state =
        some (.ok (), { state with acceptLock := some pid }) := by
      apply finish_call
      simp only [Platform.perform, unlocked, Option.isNone_none, if_true]
    have released : (application P).finish pid (call .lockRelease)
        { state with acceptLock := some pid } = some (.ok (), state) := by
      have same : { state with acceptLock := none } = state := by
        rw [← unlocked]
      change some (_, { state with acceptLock := none }) = _
      rw [same]
    refine ⟨status, detail, ?_⟩
    rw [RideService.withAcceptLock, finish_of_ok acquired]
    exact finish_ensuring finished released

/-- A ride that has ended rejects every transition, but for a participant's
cancellation of a CANCELLED ride. -/
theorem handler_rejects (found : seen.rides.find rideId = some ride)
    (free : seen.acceptLock = none)
    (terminal : ride.status = .completed ∨ ride.status = .cancelled)
    (transition : Transition)
    (notAgain : ¬ (transition = .cancel ∧ ride.status = .cancelled ∧
      (ride.riderId = userId ∨ ride.driverId = some userId))) :
    Rejects P pid seen (handler P (transition.request rideId userId)) := by
  have responds : ∀ {action : Service Ride}, Rejects P pid seen action →
      Rejects P pid seen (do return Response.ride (← action)) := by
    intro action rejects
    refine ⟨rejects.solo.bind fun _ _ absurdReturn => absurdReturn.elim, ?_⟩
    intro state looks
    obtain ⟨status, detail, finished⟩ := rejects.finishes state looks
    exact ⟨status, detail, finish_of_error finished _⟩
  have notActive : ride.status ≠ .requested ∧ ride.status ≠ .matched ∧
      ride.status ≠ .inProgress := by
    rcases terminal with status | status <;> simp [status]
  cases transition with
  | accept =>
      apply responds
      apply withAcceptLock_rejects free
      have foundLocked : { seen with acceptLock := some pid }.rides.find rideId =
          some ride := found
      apply getRide_rejects foundLocked
      simp only [reject_bind]
      exact if_pos notActive.1
  | start =>
      apply responds
      apply getRide_rejects found
      simp only [reject_bind]
      exact if_pos notActive.2.1
  | complete now =>
      apply responds
      apply getRide_rejects found
      simp only [reject_bind]
      exact if_pos notActive.2.2
  | cancel =>
      apply responds
      rcases terminal with completed | cancelled
      · apply getRide_rejects found
        simp only [reject_bind]
        exact if_pos (Or.inr completed)
      · have stranger : ride.riderId ≠ userId ∧ ride.driverId ≠ some userId :=
          not_or.mp fun participant => notAgain ⟨rfl, cancelled, participant⟩
        apply getRide_rejects found
        simp only [reject_bind]
        rw [if_neg (by simp [cancelled])]
        exact if_pos stranger

/-! ## The cancellation of a CANCELLED ride -/

theorem markById_finishes {state : Store} {driverId : String} {driver : Driver}
    (profile : state.drivers.find driverId = some driver) (isAvailable : Bool) :
    ∃ saved after, (application P).finish pid
      (DriverService.markById isAvailable driverId) state = some (.ok saved, after) := by
  have known : state.drivers.find driver.userId = some driver := by
    rw [KeyedTable.key_of_find profile]
    exact profile
  have reads : (application P).finish pid (call (.driverFindById driverId)) state =
      some (.ok (some driver), state) := by
    rw [← profile]
    rfl
  have merges : (application P).finish pid
      (call (.driverMerge { driver with isAvailable := isAvailable })) state =
        some (.ok { driver with isAvailable := isAvailable },
          { state with
            drivers := state.drivers.save { driver with isAvailable := isAvailable } }) := by
    apply finish_call
    simp only [Platform.perform, known]
    rfl
  rw [DriverService.markById, finish_of_ok reads]
  change ∃ saved after, (application P).finish pid (DriverRepository.save
    { driver with isAvailable := isAvailable }) state = some (.ok saved, after)
  rw [DriverRepository.save, finish_of_ok merges]
  cases isAvailable <;> exact ⟨_, _, rfl⟩

/-- A participant's cancellation of a CANCELLED ride succeeds. -/
theorem cancelAgain_finishes {state : Store}
    (found : state.rides.find rideId = some ride) (cancelled : ride.status = .cancelled)
    (participant : ride.riderId = userId ∨ ride.driverId = some userId)
    (profiled : ∀ driverId, ride.driverId = some driverId →
      ∃ driver, state.drivers.find driverId = some driver) :
    ∃ response after, (application P).finish pid
      (handler P (.cancelRide rideId userId)) state = some (.ok response, after) := by
  have returns : ∃ saved after, (application P).finish pid
      (RideService.cancelRide rideId userId) state = some (.ok saved, after) := by
    rw [RideService.cancelRide, finish_of_ok (getRide_finishes found)]
    simp only [reject_bind]
    rw [if_neg (by simp [cancelled]), if_neg (not_and_or.mpr
      (participant.imp not_not.mpr not_not.mpr))]
    cases assigned : ride.driverId with
    | none => exact ⟨_, _, rfl⟩
    | some driverId =>
        obtain ⟨driver, profile⟩ := profiled driverId assigned
        obtain ⟨marked, after, finished⟩ : ∃ marked after, (application P).finish pid
            (DriverService.markAvailableById driverId) state = some (.ok marked, after) :=
          markById_finishes profile true
        dsimp only
        rw [finish_of_ok finished]
        exact ⟨_, _, rfl⟩
  obtain ⟨saved, after, finished⟩ := returns
  exact ⟨_, _, finish_of_ok finished _⟩

/-! ## Runs -/

variable {init : Store} {turns : List ApplicationTurn} {pool next : ApplicationPool}

/-- The request served in this step was rejected, and the rides, the drivers, the
availability set and the published events are what they were. -/
structure Inert (pool next : ApplicationPool) : Prop where
  rejected : ∃ request status detail, next.ended? pool.tasks.length =
    some (request, .error (.http status detail))
  rides : next.world.state.rides = pool.world.state.rides
  drivers : next.world.state.drivers = pool.world.state.drivers
  available : next.world.state.available = pool.world.state.available
  published : next.world.state.published = pool.world.state.published

theorem inert_of_rejects {turn : ApplicationTurn}
    (rejects : Rejects P pool.tasks.length pool.world.state.still
      (handler P turn.request)) (unbroken : turn.unbroken = true)
    (served : (application P).serve pool turn = some next) : Inert pool next := by
  have solo : (application P).Solo Store.still (!turn.unbroken) pool.tasks.length
      pool.world.state.still (handler P turn.request) (fun _ _ => False)
      (fun failure after => after = pool.world.state.still ∧
        ∃ status detail, failure = .http status detail) := by
    rw [unbroken]
    exact rejects.solo
  obtain ⟨outcome, ended, ends⟩ := alone_of_serve (fun _ _ => rfl) served fun _ => solo
  cases outcome with
  | ok response => exact ends.elim
  | error failure =>
      obtain ⟨same, status, detail, rfl⟩ := ends
      exact ⟨⟨_, status, detail, ended⟩, (congrArg Store.rides same :),
        (congrArg Store.drivers same :), (congrArg Store.available same :),
        (congrArg Store.published same :)⟩

/-- A transition draws no identifiers. -/
theorem admits_transition (transition : Transition) :
    (application P).admits pool (transition.request rideId userId) = true := by
  cases transition <;> rfl

/-- In every state between requests that were served one at a time, every
transition of a ride that has ended can be served, and as long as no call fails it
is rejected without any effect, unless it is a participant's cancellation of a
CANCELLED ride. -/
theorem terminal_inert_iff (unlocked : init.acceptLock = none)
    (noRides : init.rides.rows = [])
    (ran : runSteps (application P).serve (Pool.start init) turns = some pool)
    (rideMem : ride ∈ pool.world.state.rides.rows)
    (terminal : ride.status = .completed ∨ ride.status = .cancelled)
    (transition : Transition) (userId : String) :
    (∃ turn next, turn.request = transition.request ride.id userId ∧
      turn.unbroken = true ∧ (application P).serve pool turn = some next) ∧
    ((∀ turn next, turn.request = transition.request ride.id userId →
      turn.unbroken = true → (application P).serve pool turn = some next →
        Inert pool next) ↔
      ¬ (transition = .cancel ∧ ride.status = .cancelled ∧
        (ride.riderId = userId ∨ ride.driverId = some userId))) := by
  have sound := sound_of_serves unlocked noRides ran
  have quiescent : pool.Quiescent :=
    Machine.quiescent_of_serves (fun _ taskMem => by cases taskMem) ran
  have found : pool.world.state.rides.find ride.id = some ride :=
    KeyedTable.mem_rows_iff_find.mp rideMem
  have serves : ∀ {outcome final}, (application P).finish pool.tasks.length
      (handler P (transition.request ride.id userId)) pool.world.state =
        some (outcome, final) →
      ∃ turn next, turn.request = transition.request ride.id userId ∧
        turn.unbroken = true ∧ (application P).serve pool turn = some next ∧
          next.ended? pool.tasks.length =
            some (transition.request ride.id userId, outcome) := by
    intro outcome final finished
    obtain ⟨count, next, served, ended, _⟩ :=
      serve_of_finish quiescent (admits_transition transition) finished
    refine ⟨_, next, rfl, ?_, served, ended⟩
    simp [Turn.unbroken, Move.isFault]
  by_cases again : transition = .cancel ∧ ride.status = .cancelled ∧
      (ride.riderId = userId ∨ ride.driverId = some userId)
  · obtain ⟨rfl, cancelled, participant⟩ := again
    obtain ⟨response, after, finished⟩ := cancelAgain_finishes found cancelled participant
      fun driverId assigned => sound.profiled ride.id ride driverId found assigned
    obtain ⟨turn, next, requestEq, unbroken, served, ended⟩ := serves finished
    refine ⟨⟨turn, next, requestEq, unbroken, served⟩, fun inert => ?_,
      fun absurdCondition => absurd ⟨rfl, cancelled, participant⟩ absurdCondition⟩
    obtain ⟨request, status, detail, rejected⟩ :=
      (inert turn next requestEq unbroken served).rejected
    rw [ended] at rejected
    cases rejected
  · have foundStill : pool.world.state.still.rides.find ride.id = some ride := found
    have rejects : Rejects P pool.tasks.length pool.world.state.still
        (handler P (transition.request ride.id userId)) :=
      handler_rejects foundStill sound.unlocked terminal transition again
    obtain ⟨status, detail, finished⟩ := rejects.finishes pool.world.state rfl
    obtain ⟨turn, next, requestEq, unbroken, served, _⟩ := serves finished
    refine ⟨⟨turn, next, requestEq, unbroken, served⟩, fun _ => again, ?_⟩
    intro _ turn next requestEq unbroken served
    apply inert_of_rejects ?_ unbroken served
    rw [requestEq]
    exact rejects

namespace SmallCity

/-- Dan accepts a ride, the rider cancels it, and Dan accepts another one. -/
def cancelledThenServing : List ApplicationTurn :=
  [served (wants "r1" "u1") 7, served (.acceptRide "r1" "u3") 9,
    served (.cancelRide "r1" "u1") 6, served (wants "r2" "u2") 6,
    served (.acceptRide "r2" "u3") 9]

/-- The first rider cancels once more, and Dan is available while serving. -/
theorem cancelledAgain_not_inert :
    ∃ pool ride next, serveAll cancelledThenServing = some pool ∧
      pool.world.state.rides.find "r1" = some ride ∧ ride.status = .cancelled ∧
      (application platform).serve pool (served (.cancelRide "r1" "u1") 6) = some next ∧
      next.world.state.drivers.find "u3" = some danDriver ∧ ¬ Inert pool next := by
  obtain ⟨pool, ran, checked⟩ := Option.map_eq_some_iff.mp
    (by decide +kernel : (serveAll cancelledThenServing).map (fun pool =>
      decide (pool.world.state.drivers.find "u3" =
        some { danDriver with isAvailable := false } ∧
        ∃ ride ∈ pool.world.state.rides.find "r1", ride.status = .cancelled ∧
        ∃ next ∈ (application platform).serve pool (served (.cancelRide "r1" "u1") 6),
          next.world.state.drivers.find "u3" = some danDriver)) = some true)
  obtain ⟨taken, ride, found, cancelled, next, again, available⟩ :=
    of_decide_eq_true checked
  refine ⟨pool, ride, next, ran, found, cancelled, again, available, fun inert => ?_⟩
  rw [inert.drivers, taken] at available
  cases available

/-- The rider cancels the ride before anybody accepts it. -/
def annCancels : List ApplicationTurn :=
  [served (wants "r1" "u1") 7, served (.cancelRide "r1" "u1") 3]

theorem annCancels_accept_inert :
    ∃ pool, serveAll annCancels = some pool ∧
      ∀ turn next, turn.request = .acceptRide "r1" "u3" → turn.unbroken = true →
        (application platform).serve pool turn = some next → Inert pool next := by
  obtain ⟨pool, ran, checked⟩ := Option.map_eq_some_iff.mp
    (by decide +kernel : (serveAll annCancels).map (fun pool =>
      decide (∃ ride ∈ pool.world.state.rides.rows, ride.id = "r1" ∧
        ride.status = .cancelled)) = some true)
  obtain ⟨ride, rideMem, idEq, cancelled⟩ := of_decide_eq_true checked
  have inert := (terminal_inert_iff rfl rfl ran rideMem (Or.inr cancelled) .accept
    "u3").2.mpr (fun again => by cases again.1)
  rw [idEq] at inert
  exact ⟨pool, ran, inert⟩

end SmallCity

end RideHailing
