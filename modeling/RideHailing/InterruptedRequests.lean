import RideHailing.CallFailures
import RideHailing.FleetRuns

/-!
# Requests broken off by a failing call

No service undoes what it has written.  A request that ends with an infrastructure
error has left the rows and the availability set as they were exactly if the
failing call came no later than its first write that changes anything.
-/

namespace RideHailing

open Service

/-- Every ride, driver and user row and the availability set are what they were. -/
structure Untouched (before after : Store) : Prop where
  rides : ∀ rideId, after.rides.find rideId = before.rides.find rideId
  drivers : ∀ userId, after.drivers.find userId = before.drivers.find userId
  users : ∀ userId, after.users.find userId = before.users.find userId
  available : after.available = before.available

/-- The request passes the checks of its service, and the accept lock is free. -/
def Store.Passes (store : Store) : Request → Prop
  | .acceptRide rideId driverId => store.acceptLock = none ∧
      (∃ ride, store.rides.find rideId = some ride ∧ ride.status = .requested) ∧
        ∃ driver, store.drivers.find driverId = some driver ∧ driver.isAvailable = true
  | .completeRide rideId driverId _ => ∃ ride, store.rides.find rideId = some ride ∧
      ride.status = .inProgress ∧ ride.driverId = some driverId
  | .cancelRide rideId userId => ∃ ride, store.rides.find rideId = some ride ∧
      ¬ (ride.status = .inProgress ∨ ride.status = .completed) ∧
        (ride.riderId = userId ∨ ride.driverId = some userId)
  | .driverRegister username _ _ => ∃ user,
      store.users.rows.find? (fun user => decide (user.username = username)) = some user ∧
        store.drivers.find user.id = none
  | _ => False

/-- How many calls a request makes before the first one that changes a row or the
availability set.  A cancellation may find its driver available already. -/
def Store.firstChange (store : Store) : Request → Nat
  | .acceptRide _ _ => 4
  | .completeRide _ _ _ => 1
  | .cancelRide rideId _ =>
      match (store.rides.find rideId).bind Ride.driverId with
      | none => 1
      | some driverId =>
          match store.drivers.find driverId with
          | none => 1
          | some driver =>
              if driver.isAvailable = false then 2
              else if driverId ∉ store.available then 3
              else 4
  | _ => 2

variable {P : Platform} {pid count : Nat} {seen : Store}

theorem Untouched.refl (store : Store) : Untouched store store :=
  ⟨fun _ => rfl, fun _ => rfl, fun _ => rfl, rfl⟩

theorem not_untouched_of_ride {before after : Store} {rideId : String} {ride moved : Ride}
    (found : before.rides.find rideId = some ride)
    (foundAfter : after.rides.find rideId = some moved) (changed : ride ≠ moved) :
    ¬ Untouched before after := by
  intro untouched
  rw [untouched.rides, found] at foundAfter
  exact changed (Option.some.inj foundAfter)

theorem not_untouched_of_driver {before after : Store} {userId : String}
    {driver : Driver} (foundAfter : after.drivers.find userId = some driver)
    (changed : before.drivers.find userId ≠ some driver) : ¬ Untouched before after := by
  intro untouched
  rw [untouched.drivers] at foundAfter
  exact changed foundAfter

/-- Where an interrupted service ends with the outage, this is true of the store. -/
abbrev BrokenOff (P : Platform) (pid : Nat) {α : Type} (action : Service α)
    (count : Nat) (state : Store) (post : Store → Prop) : Prop :=
  (application P).Interrupted pid .outage action count state fun outcome after =>
    outcome = .error (.fault .outage) → post after

/-! ## Calls -/

section Calls

variable {α : Type} {post : Store → Prop} {state : Store}

theorem brokenOff_call {awaited : Call} {answer : Value awaited} {middle : Store}
    {next : Value awaited → Service α}
    (performed : P.perform pid awaited state = some (.ok answer, middle))
    (fails : count = 0 → post state)
    (goesOn : ∀ rest, count = rest + 1 → BrokenOff P pid (next answer) rest middle post) :
    BrokenOff P pid (call awaited >>= next) count state post :=
  interrupted_call performed (fun first _ => fails first) goesOn

theorem brokenOff_pure (result : α) :
    BrokenOff P pid (pure result : Service α) count state post :=
  interrupted_pure fun broken => by cases broken

/-- The row as the driver repository leaves it. -/
def Store.merged (store : Store) (driver : Driver) : Store :=
  { store with drivers := store.drivers.save driver }

/-- The availability set as the driver repository leaves it. -/
def Store.listed (store : Store) (driver : Driver) : Store :=
  { store with
    available := if driver.isAvailable then insert driver.userId store.available
      else store.available.erase driver.userId }

/-- Saving a driver makes two calls, and either may fail. -/
theorem brokenOff_save {driver : Driver} {next : Driver → Service α}
    (known : ¬ ((state.drivers.find driver.userId).isNone = true ∧
      (state.users.find driver.userId).isNone = true))
    (merging : count = 0 → post state)
    (listing : count = 1 → post (state.merged driver))
    (goesOn : ∀ rest, count = rest + 2 →
      BrokenOff P pid (next driver) rest ((state.merged driver).listed driver) post) :
    BrokenOff P pid (DriverRepository.save driver >>= next) count state post := by
  have merges : P.perform pid (.driverMerge driver) state =
      some (.ok driver, state.merged driver) := by
    simp only [Platform.perform, if_neg known]
    rfl
  rw [DriverRepository.save, Action.bind_assoc]
  refine brokenOff_call merges merging ?_
  intro rest countEq
  have lists : ∀ {awaited : Call} (answer : Value awaited),
      P.perform pid awaited (state.merged driver) =
        some (.ok answer, (state.merged driver).listed driver) →
          BrokenOff P pid ((call awaited >>= fun _ => (pure driver : Service Driver)) >>=
            next) rest (state.merged driver) post := by
    intro awaited answer performed
    rw [Action.bind_assoc]
    refine brokenOff_call performed ?_ ?_
    · intro restEq
      exact listing (by omega)
    · intro last restEq
      exact goesOn last (by omega)
  split
  · rename_i available
    refine lists () ?_
    simp only [Platform.perform, Store.listed, available]
    rfl
  · rename_i unavailable
    refine lists () ?_
    simp only [Platform.perform, Store.listed, unavailable]
    rfl

theorem brokenOff_mark {userId : String} {driver : Driver} {isAvailable : Bool}
    {next : Driver → Service α} (profile : state.drivers.find userId = some driver)
    (before : count ≤ 1 → post state)
    (between : count = 2 → post (state.merged { driver with isAvailable := isAvailable }))
    (goesOn : ∀ rest, count = rest + 3 →
      BrokenOff P pid (next { driver with isAvailable := isAvailable }) rest
        ((state.merged { driver with isAvailable := isAvailable }).listed
          { driver with isAvailable := isAvailable }) post) :
    BrokenOff P pid (DriverService.markById isAvailable userId >>= next) count state
      post := by
  have finds : P.perform pid (.driverFindById userId) state =
      some (.ok (some driver), state) := by
    rw [← profile]
    rfl
  have known : state.drivers.find driver.userId = some driver := by
    rw [KeyedTable.key_of_find profile, profile]
  rw [DriverService.markById, Action.bind_assoc]
  refine brokenOff_call finds ?_ ?_
  · intro countEq
    exact before (by omega)
  · intro rest countEq
    refine brokenOff_save ?_ ?_ ?_ ?_
    · simp [known]
    · intro restEq
      exact before (by omega)
    · intro restEq
      exact between (by omega)
    · intro last restEq
      exact goesOn last (by omega)

theorem brokenOff_getRide {rideId : String} {ride : Ride} {next : Ride → Service α}
    (found : state.rides.find rideId = some ride) (fails : count = 0 → post state)
    (goesOn : ∀ rest, count = rest + 1 → BrokenOff P pid (next ride) rest state post) :
    BrokenOff P pid (RideService.getRide rideId >>= next) count state post := by
  have finds : P.perform pid (.rideFindById rideId) state =
      some (.ok (some ride), state) := by
    rw [← found]
    rfl
  rw [RideService.getRide, Action.bind_assoc]
  exact brokenOff_call finds fails goesOn

/-- Saving a ride and publishing it, the last calls of most transitions. -/
theorem brokenOff_saveRide {ride : Ride} {topic : Topic}
    (saving : count = 0 → post state)
    (publishing : count = 1 → post { state with rides := state.rides.save ride }) :
    BrokenOff P pid (do
      let saved ← call (.rideSave ride)
      call (.publish topic saved.id)
      return saved) count state post := by
  refine brokenOff_call rfl saving ?_
  intro rest countEq
  refine brokenOff_call rfl ?_ ?_
  · intro restEq
    exact publishing (by omega)
  · intro _ _
    exact brokenOff_pure _

end Calls

/-! ## Requests -/

theorem completeRide_brokenOff {rideId driverId : String} {now : Timestamp} {ride : Ride}
    (found : seen.rides.find rideId = some ride) (inProgress : ride.status = .inProgress)
    (assigned : ride.driverId = some driverId) :
    BrokenOff P pid (RideService.completeRide rideId driverId now) count seen
      fun after => Untouched seen after ↔ count ≤ 1 := by
  let completed : Ride := { ride with
    status := .completed, fare := ride.estimatedFare, completedAt := some now,
    version := ride.version + 1 }
  have rideKey := KeyedTable.key_of_find found
  have changes : ∀ {state : Store}, state.rides = seen.rides.save completed →
      1 < count → (Untouched seen state ↔ count ≤ 1) := by
    intro state ridesEq late
    have foundAfter : state.rides.find rideId = some completed := by
      rw [ridesEq, ← rideKey]
      exact KeyedTable.find_save_self _ completed
    have changed : ride ≠ completed := by
      intro same
      have statusEq := congrArg Ride.status same
      rw [inProgress] at statusEq
      cases statusEq
    have touched := not_untouched_of_ride found foundAfter changed
    exact ⟨fun untouched => absurd untouched touched, fun early => by omega⟩
  have spared : count ≤ 1 → (Untouched seen seen ↔ count ≤ 1) := fun early =>
    ⟨fun _ => early, fun _ => Untouched.refl seen⟩
  unfold RideService.completeRide
  simp only [reject_bind]
  refine brokenOff_getRide found (fun countEq => spared (by omega)) ?_
  intro rest countEq
  rw [if_neg (not_not.mpr inProgress), if_neg (not_not.mpr assigned)]
  refine brokenOff_call rfl (fun restEq => spared (by omega)) ?_
  intro rest' restEq
  cases profile : seen.drivers.find driverId with
  | none =>
      have finds : P.perform pid (.driverFindById driverId)
          { seen with rides := seen.rides.save completed } =
            some (.ok none, { seen with rides := seen.rides.save completed }) := by
        rw [← profile]
        rfl
      rw [DriverService.markAvailableById, DriverService.markById, Action.bind_assoc]
      refine brokenOff_call finds (fun _ => changes rfl (by omega)) ?_
      intro _ _
      exact interrupted_raise fun absurdFailure => by cases absurdFailure
  | some driver =>
      refine brokenOff_mark profile (fun _ => changes rfl (by omega))
        (fun _ => changes rfl (by omega)) ?_
      intro last lastEq
      refine brokenOff_call rfl (fun _ => changes rfl (by omega)) ?_
      intro _ _
      exact brokenOff_pure _

theorem brokenOff_locked {α : Type} {body : Service α} {post : Store → Prop}
    (free : seen.acceptLock = none) (first : count = 0 → post seen)
    (inside : ∀ rest, count = rest + 1 →
      BrokenOff P pid body rest { seen with acceptLock := some pid }
        fun after => post { after with acceptLock := none }) :
    BrokenOff P pid (RideService.withAcceptLock body) count seen post := by
  have acquires : P.perform pid .lockAcquire seen =
      some (.ok (), { seen with acceptLock := some pid }) := by
    simp only [Platform.perform, free]
    rfl
  refine brokenOff_call acquires first ?_
  intro rest countEq
  exact interrupted_ensuring rfl (fun _ => rfl) rfl (fun _ => rfl) (inside rest countEq)

theorem acceptRide_brokenOff {rideId driverId : String} {ride : Ride} {driver : Driver}
    (free : seen.acceptLock = none) (found : seen.rides.find rideId = some ride)
    (requested : ride.status = .requested)
    (profile : seen.drivers.find driverId = some driver)
    (available : driver.isAvailable = true) :
    BrokenOff P pid (RideService.acceptRide rideId driverId) count seen
      fun after => Untouched seen after ↔ count ≤ 4 := by
  let taken : Driver := { driver with isAvailable := false }
  have driverKey := KeyedTable.key_of_find profile
  have changes : ∀ {state : Store}, state.drivers = seen.drivers.save taken →
      4 < count → (Untouched seen state ↔ count ≤ 4) := by
    intro state driversEq late
    have foundAfter : state.drivers.find driverId = some taken := by
      rw [driversEq, ← driverKey]
      exact KeyedTable.find_save_self _ taken
    have changed : seen.drivers.find driverId ≠ some taken := by
      intro same
      rw [profile] at same
      have flagEq := congrArg Driver.isAvailable (Option.some.inj same)
      rw [available] at flagEq
      cases flagEq
    have touched := not_untouched_of_driver foundAfter changed
    exact ⟨fun untouched => absurd untouched touched, fun early => by omega⟩
  have spared : ∀ {state : Store}, count ≤ 4 → { state with acceptLock := none } = seen →
      (Untouched seen { state with acceptLock := none } ↔ count ≤ 4) := by
    intro state early same
    rw [same]
    exact ⟨fun _ => early, fun _ => Untouched.refl seen⟩
  have released : { seen with acceptLock := none } = seen := by
    rw [← free]
  refine brokenOff_locked free (fun _ => ⟨fun _ => by omega, fun _ => .refl seen⟩) ?_
  intro rest countEq
  simp only [reject_bind]
  refine brokenOff_getRide found (fun _ => spared (by omega) released) ?_
  intro rest₁ restEq
  rw [if_neg (not_not.mpr requested)]
  have finds : P.perform pid (.driverFindById driverId)
      { seen with acceptLock := some pid } =
        some (.ok (some driver), { seen with acceptLock := some pid }) := by
    rw [← profile]
    rfl
  refine brokenOff_call finds (fun _ => spared (by omega) released) ?_
  intro rest₂ restEq₁
  dsimp only
  rw [if_neg (not_not.mpr available)]
  refine brokenOff_mark profile (fun _ => spared (by omega) released)
    (fun _ => changes rfl (by omega)) ?_
  intro last lastEq
  exact brokenOff_saveRide (fun _ => changes rfl (by omega))
    (fun _ => changes rfl (by omega))

theorem driverRegister_brokenOff {username vehicleType licensePlate : String} {user : User}
    (named : seen.users.rows.find? (fun user => decide (user.username = username)) =
      some user)
    (absent : seen.drivers.find user.id = none) :
    BrokenOff P pid (Auth.registerAsDriver username vehicleType licensePlate) count seen
      fun after => Untouched seen after ↔ count ≤ 2 := by
  let registered : Driver := {
    userId := user.id, vehicleType := vehicleType, licensePlate := licensePlate }
  have changes : ∀ {state : Store}, state.drivers = seen.drivers.save registered →
      2 < count → (Untouched seen state ↔ count ≤ 2) := by
    intro state driversEq late
    have foundAfter : state.drivers.find user.id = some registered := by
      rw [driversEq]
      exact KeyedTable.find_save_self _ registered
    have changed : seen.drivers.find user.id ≠ some registered := by simp [absent]
    have touched := not_untouched_of_driver foundAfter changed
    exact ⟨fun untouched => absurd untouched touched, fun early => by omega⟩
  have spared : count ≤ 2 → (Untouched seen seen ↔ count ≤ 2) := fun early =>
    ⟨fun _ => early, fun _ => Untouched.refl seen⟩
  have stored : seen.users.find user.id = some user :=
    KeyedTable.mem_rows_iff_find.mp (List.mem_of_find?_eq_some named)
  have namesUser : P.perform pid (.userFindByUsername username) seen =
      some (.ok (some user), seen) := by
    rw [← named]
    rfl
  have notRegistered : P.perform pid (.driverExistsById user.id) seen =
      some (.ok false, seen) := by
    change some (Except.ok (seen.drivers.find user.id).isSome, seen) = _
    rw [absent]
    rfl
  unfold Auth.registerAsDriver Auth.resolveCurrentUser DriverService.registerDriver
  simp only [reject_bind, Action.bind_assoc]
  refine brokenOff_call namesUser (fun _ => spared (by omega)) ?_
  intro rest countEq
  refine brokenOff_call notRegistered (fun _ => spared (by omega)) ?_
  intro rest₁ restEq
  refine brokenOff_save ?_ (fun _ => spared (by omega)) (fun _ => changes rfl (by omega))
    ?_
  · simp [stored]
  · intro last lastEq
    obtain ⟨users, merged⟩ : ∃ users, seen.users.merge { user with role := .driver } =
        some users := by
      cases merged : seen.users.merge { user with role := .driver } with
      | some users => exact ⟨users, rfl⟩
      | none =>
          exact absurd (UniqueTable.merge_eq_none merged)
            (UniqueTable.not_conflicts_of_find stored rfl)
    have saves : ∀ {state : Store}, state.users = seen.users →
        P.perform pid (.userSave { user with role := .driver }) state =
          some (.ok { user with role := .driver }, { state with users := users }) := by
      intro state usersEq
      simp only [Platform.perform, usersEq, merged]
      rfl
    refine brokenOff_call (saves rfl) (fun _ => changes rfl (by omega)) ?_
    intro _ _
    exact brokenOff_pure _

/-- Whether making a driver available again has changed the row. -/
theorem untouched_merged_iff {driver : Driver}
    (known : seen.drivers.find driver.userId = some driver) :
    Untouched seen (seen.merged { driver with isAvailable := true }) ↔
      driver.isAvailable = true := by
  constructor
  · intro untouched
    have same := untouched.drivers driver.userId
    have foundAfter : (seen.merged { driver with isAvailable := true }).drivers.find
        driver.userId = some { driver with isAvailable := true } :=
      KeyedTable.find_save_self seen.drivers { driver with isAvailable := true }
    rw [foundAfter, known] at same
    exact (congrArg Driver.isAvailable (Option.some.inj same)).symm
  · intro available
    have sameRow : { driver with isAvailable := true } = driver := by
      rw [← available]
    rw [sameRow]
    refine ⟨fun _ => rfl, fun userId => ?_, fun _ => rfl, rfl⟩
    change (seen.drivers.save driver).find userId = seen.drivers.find userId
    rw [KeyedTable.find_save]
    split
    · rename_i same
      rw [← same, known]
    · rfl

/-- Whether it has changed the row or the availability set. -/
theorem untouched_listed_iff {driver : Driver}
    (known : seen.drivers.find driver.userId = some driver) :
    Untouched seen ((seen.merged { driver with isAvailable := true }).listed
        { driver with isAvailable := true }) ↔
      driver.isAvailable = true ∧ driver.userId ∈ seen.available := by
  have listed : ((seen.merged { driver with isAvailable := true }).listed
      { driver with isAvailable := true }).available =
        insert driver.userId seen.available := rfl
  rw [← untouched_merged_iff known]
  constructor
  · intro untouched
    refine ⟨⟨untouched.rides, untouched.drivers, untouched.users, rfl⟩, ?_⟩
    rw [← untouched.available, listed]
    exact Finset.mem_insert_self _ _
  · rintro ⟨untouched, member⟩
    refine ⟨untouched.rides, untouched.drivers, untouched.users, ?_⟩
    rw [listed, Finset.insert_eq_of_mem member]

theorem cancelRide_brokenOff {rideId userId : String} {ride : Ride}
    (found : seen.rides.find rideId = some ride)
    (cancellable : ¬ (ride.status = .inProgress ∨ ride.status = .completed))
    (participant : ride.riderId = userId ∨ ride.driverId = some userId) :
    BrokenOff P pid (RideService.cancelRide rideId userId) count seen
      fun after => Untouched seen after ↔
        count ≤ seen.firstChange (.cancelRide rideId userId) := by
  have rideKey := KeyedTable.key_of_find found
  have touched : ∀ {state : Store} {moved : Ride}, state.rides = seen.rides.save moved →
      moved.id = ride.id → moved.version = ride.version + 1 →
        ¬ Untouched seen state := by
    intro state moved ridesEq sameRide versionEq
    have foundAfter : state.rides.find rideId = some moved := by
      rw [ridesEq, ← rideKey, ← sameRide]
      exact KeyedTable.find_save_self _ moved
    apply not_untouched_of_ride found foundAfter
    intro same
    rw [← same] at versionEq
    omega
  have spared : ∀ {limit : Nat}, count ≤ limit → (Untouched seen seen ↔ count ≤ limit) :=
    fun early => ⟨fun _ => early, fun _ => Untouched.refl seen⟩
  unfold RideService.cancelRide
  simp only [reject_bind]
  refine brokenOff_getRide found (fun _ => spared (by omega)) ?_
  intro rest countEq
  rw [if_neg cancellable, if_neg (not_and_or.mpr
    (participant.imp not_not.mpr not_not.mpr))]
  simp only [Store.firstChange, found, Option.bind_some]
  cases assigned : ride.driverId with
  | none =>
      dsimp only
      refine brokenOff_saveRide (fun _ => spared (by omega)) fun _ => ?_
      exact ⟨fun untouched => absurd untouched (touched rfl rfl rfl),
        fun early => by omega⟩
  | some driverId =>
      dsimp only
      cases profile : seen.drivers.find driverId with
      | none =>
          have finds : P.perform pid (.driverFindById driverId) seen =
              some (.ok none, seen) := by
            rw [← profile]
            rfl
          rw [DriverService.markAvailableById, DriverService.markById, Action.bind_assoc]
          dsimp only
          refine brokenOff_call finds (fun _ => spared (by omega)) ?_
          intro _ _
          exact interrupted_raise fun absurdFailure => by cases absurdFailure
      | some driver =>
          dsimp only
          have driverKey := KeyedTable.key_of_find profile
          have known : seen.drivers.find driver.userId = some driver := by
            rw [driverKey, profile]
          -- The driver's row changes first, else the set, else the ride.
          refine brokenOff_mark profile (fun _ => spared ?_) (fun _ => ?_) ?_
          · split
            · omega
            · split <;> omega
          · rw [untouched_merged_iff known]
            cases available : driver.isAvailable with
            | false => simp; omega
            | true =>
                simp only [Bool.true_eq_false, if_false, true_iff]
                split <;> omega
          · intro last lastEq
            refine brokenOff_saveRide (fun _ => ?_) fun _ => ?_
            · rw [untouched_listed_iff known, driverKey]
              cases available : driver.isAvailable with
              | false => simp; omega
              | true =>
                  by_cases member : driverId ∈ seen.available
                  · simp [member]
                    omega
                  · simp [member]
                    omega
            · refine ⟨fun untouched => absurd untouched (touched rfl rfl rfl), fun early => ?_⟩
              split at early
              · omega
              · split at early <;> omega

/-- Whatever call of an accept, a completion, a cancellation or a registration as a
driver fails, begun where the request passes its checks: if the request ends with
that error, the rows and the availability set are what they were exactly if the call
is no later than the first one that would change anything. -/
theorem untouched_iff_of_outage {request : Request} {failing : Nat} {after : Store}
    (passes : seen.Passes request)
    (ended : (application P).interrupt pid .outage (handler P request) failing seen =
      some (.error (.fault .outage), after)) :
    Untouched seen after ↔ failing ≤ seen.firstChange request := by
  have responds : ∀ {α : Type} {action : Service α} {respond : α → Response},
      handler P request = (do return respond (← action)) →
      BrokenOff P pid action failing seen
        (fun after => Untouched seen after ↔ failing ≤ seen.firstChange request) →
          (Untouched seen after ↔ failing ≤ seen.firstChange request) := by
    intro α action respond handlerEq broken
    rw [handlerEq] at ended
    have responded : BrokenOff P pid (do return respond (← action)) failing seen
        fun after => Untouched seen after ↔ failing ≤ seen.firstChange request := by
      apply interrupted_map
      intro outcome state ends isOutage
      cases outcome with
      | ok result => cases isOutage
      | error failure =>
          cases isOutage
          exact broken _ state ends rfl
    exact responded _ after ended rfl
  cases request with
  | acceptRide rideId driverId =>
      obtain ⟨free, ⟨ride, found, requested⟩, driver, profile, available⟩ := passes
      exact responds rfl (acceptRide_brokenOff free found requested profile available)
  | completeRide rideId driverId now =>
      obtain ⟨ride, found, inProgress, assigned⟩ := passes
      exact responds rfl (completeRide_brokenOff found inProgress assigned)
  | cancelRide rideId userId =>
      obtain ⟨ride, found, cancellable, participant⟩ := passes
      exact responds rfl (cancelRide_brokenOff found cancellable participant)
  | driverRegister username vehicleType licensePlate =>
      obtain ⟨user, named, absent⟩ := passes
      exact responds rfl (driverRegister_brokenOff named absent)
  | _ => exact passes.elim

namespace SmallCity

/-- The city with Ann waiting for a ride. -/
def annWaits : Store :=
  { store with rides := store.rides.save {
      riderId := "u1", pickupLat := centre, pickupLng := centre, dropoffLat := centre,
      dropoffLng := centre, id := "r1", requestedAt := 0 } }

/-- Dan accepts, and the commit of the ride fails: his row says that he is taken. -/
theorem danTaken_touched :
    annWaits.Passes (.acceptRide "r1" "u3") ∧
      ∃ after, (application platform).interrupt 0 .outage
        (handler platform (.acceptRide "r1" "u3")) 6 annWaits =
          some (.error (.fault .outage), after) ∧
        after.drivers.find "u3" = some { danDriver with isAvailable := false } ∧
        ¬ Untouched annWaits after := by
  obtain ⟨⟨outcome, after⟩, ended, checked⟩ := Option.map_eq_some_iff.mp
    (by decide +kernel : ((application platform).interrupt 0 .outage
      (handler platform (.acceptRide "r1" "u3")) 6 annWaits).map (fun ends =>
        decide (ends.1 = .error (.fault .outage) ∧ ends.2.drivers.find "u3" =
          some { danDriver with isAvailable := false })) = some true)
  obtain ⟨rfl, taken⟩ := of_decide_eq_true checked
  refine ⟨⟨rfl, ⟨_, rfl, rfl⟩, _, rfl, rfl⟩, after, ended, taken, ?_⟩
  exact not_untouched_of_driver taken (by decide)

/-- He accepts, and the commit of his row fails: nothing has changed. -/
theorem danSpared_untouched :
    ∃ after, (application platform).interrupt 0 .outage
      (handler platform (.acceptRide "r1" "u3")) 4 annWaits =
        some (.error (.fault .outage), after) ∧ Untouched annWaits after := by
  obtain ⟨⟨outcome, after⟩, ended, checked⟩ := Option.map_eq_some_iff.mp
    (by decide +kernel : ((application platform).interrupt 0 .outage
      (handler platform (.acceptRide "r1" "u3")) 4 annWaits).map (fun ends =>
        decide (ends.1 = .error (.fault .outage))) = some true)
  obtain rfl := of_decide_eq_true checked
  have passes : annWaits.Passes (.acceptRide "r1" "u3") :=
    ⟨rfl, ⟨_, rfl, rfl⟩, danDriver, rfl, rfl⟩
  exact ⟨after, ended, (untouched_iff_of_outage passes ended).mpr (by decide)⟩

end SmallCity

end RideHailing
