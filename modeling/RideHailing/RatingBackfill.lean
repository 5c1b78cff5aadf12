import RideHailing.FleetRuns
import RideHailing.RatingLedger
import RideHailing.RatingRecords
import RideHailing.RatingAggregates
import RideHailing.ActiveRides

/-!
# The counters and the backfill of the migration

The third migration counts the ratings of every user and of every driver once; from
then on the service raises the counters as it rates.  Both numbers agree for as long as
a driver's row is inserted before its user is rated, and as no call fails between a
rating and the counters that belong to it.
-/

namespace RideHailing

variable {P : Platform} {init : Store}
variable {pool next : ApplicationPool} {turn : ApplicationTurn}

/-! ## What a turn does to rating columns -/

/-- The users for whom the request may insert a driver's row. -/
def Request.registered (users : List User) : Request → List String
  | .registerDriver userId _ _ => [userId]
  | .driverRegister username _ _ =>
      (users.filter fun user => user.username = username).map User.id
  | _ => []

section Columns

variable {newer older : History} {pid : Nat} {request : Request}

/-- The part of the history in which a task runs alone. -/
structure AloneSince (init : Store) (pid : Nat) (request : Request)
    (newer older : History) : Prop where
  lawful : Lawful (law init) (newer ++ older)
  own : ∀ entry ∈ newer, entry.pid = pid ∧ entry.request = request
  fresh : ∀ entry ∈ older, entry.pid ≠ pid

theorem AloneSince.tail {entry : HistoryEntry}
    (alone : AloneSince init pid request (entry :: newer) older) :
    AloneSince init pid request newer older :=
  ⟨alone.lawful.2, fun other otherMem => alone.own other (List.mem_cons_of_mem _ otherMem),
    alone.fresh⟩

theorem AloneSince.everUser {userId : String} {seen : User}
    (alone : AloneSince init pid request newer older)
    (read : userSeen init pid userId (newer ++ older) = some seen) :
    Ever (Entry.userAt · userId) (storedUser init userId older) newer seen := by
  apply ever_of_atLast_append ?_ read
  intro entry entryMem
  simp [alone.fresh entry entryMem]

theorem AloneSince.everDriver {userId : String} {seen : Driver}
    (alone : AloneSince init pid request newer older)
    (read : driverSeen init pid userId (newer ++ older) = some seen) :
    Ever (Entry.driverAt · userId) (storedDriver init userId older) newer seen := by
  apply ever_of_atLast_append ?_ read
  intro entry entryMem
  simp [alone.fresh entry entryMem]

theorem storedUser_older {userId : String}
    (absent : storedUser init userId (newer ++ older) = none) :
    storedUser init userId older = none :=
  not_not.mp fun stored => latest_append_ne_none stored absent

/-- Who does not rate leaves the columns of users as they are; a new user has none. -/
theorem userColumns_of_alone (alone : AloneSince init pid request newer older)
    (kind : request.isRate = false) :
    ∀ entry ∈ newer, ∀ user, entry.savedUser = some user →
      (∃ old, storedUser init user.id older = some old ∧ user.username = old.username ∧
        user.columns = old.columns) ∨
      (request.registersUser = true ∧ storedUser init user.id older = none ∧
        user.columns = (none, 0)) := by
  induction newer with
  | nil =>
      intro entry entryMem
      cases entryMem
  | cons first newer ih =>
      have before := ih alone.tail
      intro entry entryMem user saved
      rcases List.mem_cons.mp entryMem with rfl | entryNewer
      · obtain ⟨samePid, requestEq⟩ := alone.own entry (by simp)
        have userLaw := law_savedUser alone.lawful.1 saved
        rw [samePid, requestEq] at userLaw
        cases request with
        | authRegister clientIp username password newId salt =>
            obtain ⟨userEq, absent⟩ := userLaw
            rw [userEq]
            exact Or.inr ⟨rfl, storedUser_older absent, rfl⟩
        | driverRegister username vehicleType licensePlate =>
            obtain ⟨seen, read, -, userEq⟩ := userLaw
            rw [userEq]
            rcases alone.tail.everUser read with stored | ⟨source, sourceMem, changed⟩
            · have sameId : seen.id = user.id := EverUser.id (ever_of_latest stored)
              refine Or.inl ⟨seen, ?_, rfl, rfl⟩
              change storedUser init seen.id older = some seen
              rw [sameId]
              exact stored
            · exact before source sourceMem seen (Entry.userAt_eq_some.mp changed).1
        | rate _ _ _ _ _ _ => cases kind
        | _ => exact userLaw.elim
      · exact before entry entryNewer user saved

/-- Who does not rate leaves the columns of drivers as they are; a new driver has none. -/
theorem driverColumns_of_alone (alone : AloneSince init pid request newer older)
    (kind : request.isRate = false) (users : List User)
    (stored : ∀ userId user, storedUser init userId older = some user → user ∈ users) :
    ∀ entry ∈ newer, ∀ driver, entry.savedDriver = some driver →
      (∃ old, storedDriver init driver.userId older = some old ∧
        driver.columns = old.columns) ∨
      (driver.userId ∈ request.registered users ∧ driver.columns = (none, 0)) := by
  induction newer with
  | nil =>
      intro entry entryMem
      cases entryMem
  | cons first newer ih =>
      have before := ih alone.tail
      intro entry entryMem driver saved
      rcases List.mem_cons.mp entryMem with rfl | entryNewer
      · obtain ⟨samePid, requestEq⟩ := alone.own entry (by simp)
        have driverLaw := law_savedDriver alone.lawful.1 saved
        rw [samePid, requestEq] at driverLaw
        -- a driver whose availability changes keeps the columns that were read
        have availability : ∀ {available : Bool},
            AvailabilityLaw init pid (newer ++ older) available driver →
              (∃ old, storedDriver init driver.userId older = some old ∧
                driver.columns = old.columns) ∨
              (driver.userId ∈ request.registered users ∧ driver.columns = (none, 0)) := by
          rintro available ⟨seen, read, driverEq⟩
          have sameId : seen.userId = driver.userId := by rw [driverEq]
          have sameColumns : driver.columns = seen.columns := by rw [driverEq]; rfl
          rw [sameColumns]
          rcases alone.tail.everDriver read with storedRow | ⟨source, sourceMem, changed⟩
          · exact Or.inl ⟨seen, storedRow, rfl⟩
          · rw [← sameId]
            exact before source sourceMem seen (Entry.driverAt_eq_some.mp changed).1
        cases request with
        | registerDriver userId vehicleType licensePlate =>
            rw [driverLaw]
            exact Or.inr ⟨List.mem_singleton.mpr rfl, rfl⟩
        | driverRegister username vehicleType licensePlate =>
            obtain ⟨driverEq, user, read, named⟩ := driverLaw
            have sameColumns : driver.columns = (none, 0) := by rw [driverEq]; rfl
            refine Or.inr ⟨?_, sameColumns⟩
            have registered : ∀ old : User, old ∈ users → old.id = driver.userId →
                old.username = username → driver.userId ∈
                  Request.registered users (.driverRegister username vehicleType licensePlate) := by
              intro old oldMem sameId sameName
              exact List.mem_map.mpr ⟨old, List.mem_filter.mpr ⟨oldMem, by simp [sameName]⟩, sameId⟩
            rcases alone.tail.everUser read with storedRow | ⟨source, sourceMem, changed⟩
            · exact registered user (stored _ user storedRow)
                (EverUser.id (ever_of_latest storedRow)) named
            · obtain ⟨savedUser, sameId⟩ := Entry.userAt_eq_some.mp changed
              rcases userColumns_of_alone alone.tail kind source sourceMem user savedUser with
                ⟨old, oldStored, sameName, -⟩ | ⟨registers, -⟩
              · apply registered old (stored _ old oldStored) ?_ (sameName.symm.trans named)
                rw [← sameId]
                exact EverUser.id (ever_of_latest oldStored)
              · cases registers
        | acceptRide rideId driverId => exact availability driverLaw.2.1
        | completeRide rideId driverId now => exact availability driverLaw.2
        | cancelRide rideId userId => exact availability driverLaw.2
        | goOnline userId lat lng => exact availability driverLaw.2
        | goOffline userId => exact availability driverLaw.2
        | rate _ _ _ _ _ _ => cases kind
        | _ => exact driverLaw.elim
      · exact before entry entryNewer driver saved

/-- Who does not rate inserts no rating. -/
theorem insertedRatings_of_alone (alone : AloneSince init pid request newer older)
    (kind : request.isRate = false) :
    insertedRatings (newer ++ older) = insertedRatings older := by
  induction newer with
  | nil => rfl
  | cons first newer ih =>
      have unsaved : first.savedRating = none := by
        cases saved : first.savedRating with
        | none => rfl
        | some rating =>
            have isRate := (ratingLaw_of_savesRating alone.lawful.1
              (by simp [savesRating, saved])).1
            rw [(alone.own first (by simp)).2, kind] at isRate
            cases isRate
      rw [List.cons_append, insertedRatings, unsaved, ih alone.tail]
      simp

end Columns

/-! ## Who is known -/

/-- Drivers are users: the foreign key of the drivers table. -/
def Store.DriversAreUsers (store : Store) : Prop :=
  ∀ userId, store.drivers.find userId ≠ none → store.users.find userId ≠ none

theorem driversAreUsers_perform {pid : Nat} {call : Call} {reply : Except Fault (Value call)}
    {before after : Store} (performed : P.perform pid call before = some (reply, after))
    (known : before.DriversAreUsers) : after.DriversAreUsers := by
  rcases perform_cases performed with rfl | change
  · exact known
  cases change with
  | users merged =>
      intro userId present
      rw [(UniqueTable.merge_eq_some merged).2, KeyedTable.find_save]
      split
      · exact Option.some_ne_none _
      · exact known userId present
  | @drivers driver admitted =>
      intro userId present
      change (before.drivers.save driver).find userId ≠ none at present
      rw [KeyedTable.find_save] at present
      split at present
      · rename_i same
        subst same
        intro absent
        apply admitted
        refine ⟨?_, Option.isNone_iff_eq_none.mpr absent⟩
        rw [Option.isNone_iff_eq_none]
        by_contra stored
        exact known _ stored absent
      · exact known userId present
  | _ => exact known

theorem driversAreUsers_of_run {events : List ApplicationEvent}
    (known : init.DriversAreUsers)
    (ran : (application P).run (Pool.start init) events = some pool) :
    pool.world.state.DriversAreUsers := by
  have kept : ∀ (before : ApplicationPool) (event : ApplicationEvent) after,
      before.world.state.DriversAreUsers → (application P).next before event = some after →
        after.world.state.DriversAreUsers := by
    intro before event after knownBefore moved
    rcases (application P).next_cases moved with
      ⟨request, -, rfl⟩ | ⟨pid, broken, advanced⟩ | ⟨change, -, rfl⟩
    · exact knownBefore
    · obtain ⟨request, call, resume, reply, state, -, answered, rfl⟩ :=
        (application P).advance_eq_some advanced
      cases broken with
      | none => exact driversAreUsers_perform answered knownBefore
      | some fault =>
          obtain ⟨-, -, rfl⟩ := Machine.answer_broken answered
          exact knownBefore
    · exact knownBefore
  exact runSteps_invariant kept known ran

/-- The rider that a request for a ride names is a user. -/
def Request.RiderKnown (store : Store) : Request → Prop
  | .requestRide _ _ riderId _ _ _ _ => store.users.find riderId ≠ none
  | _ => True

instance (store : Store) (request : Request) : Decidable (request.RiderKnown store) :=
  match request with
  | .requestRide _ _ riderId _ _ _ _ =>
      inferInstanceAs (Decidable (store.users.find riderId ≠ none))
  | .acceptRide _ _ => isTrue trivial
  | .startRide _ _ => isTrue trivial
  | .completeRide _ _ _ => isTrue trivial
  | .cancelRide _ _ => isTrue trivial
  | .registerDriver _ _ _ => isTrue trivial
  | .goOnline _ _ _ => isTrue trivial
  | .goOffline _ => isTrue trivial
  | .updateLocation _ _ _ => isTrue trivial
  | .rate _ _ _ _ _ _ => isTrue trivial
  | .authRegister _ _ _ _ _ => isTrue trivial
  | .login _ _ _ => isTrue trivial
  | .switchMode _ _ => isTrue trivial
  | .driverRegister _ _ _ => isTrue trivial

/-- A ride that was not there at first is in the history. -/
theorem not_everRide_nil {rideId : String} {ride : Ride} (noRides : init.rides.rows = []) :
    ¬ EverRide init rideId [] ride := by
  rintro (fromInit | ⟨_, absurdMem, _⟩)
  · have rideMem := (KeyedTable.find_eq_some_iff.mp fromInit).1
    rw [noRides] at rideMem
    cases rideMem
  · cases absurdMem

/-- The rider of a ride was named by the request for it. -/
theorem exists_requestRide {log : History} {rideId : String} {ride : Ride}
    (noRides : init.rides.rows = []) (lawful : Lawful (law init) log)
    (ever : EverRide init rideId log ride) :
    ∃ entry ∈ log, ∀ store, entry.request.RiderKnown store →
      store.users.find ride.riderId ≠ none := by
  induction log generalizing ride with
  | nil => exact absurd ever (not_everRide_nil noRides)
  | cons entry older ih =>
      have earlier : ∀ {seen : Ride}, EverRide init rideId older seen →
          seen.riderId = ride.riderId → ∃ source ∈ entry :: older, ∀ store,
            source.request.RiderKnown store → store.users.find ride.riderId ≠ none := by
        intro seen everSeen sameRider
        obtain ⟨source, sourceMem, named⟩ := ih lawful.2 everSeen
        rw [sameRider] at named
        exact ⟨source, List.mem_cons_of_mem entry sourceMem, named⟩
      rcases ever_cons.mp ever with saved | before
      · rcases law_rideAt lawful.1 saved with ⟨_, inserts, _⟩ | ⟨_, seen, read, moves⟩
        · refine ⟨entry, by simp, fun store known => ?_⟩
          cases requestEq : entry.request with
          | requestRide newId now riderId pickupLat pickupLng dropoffLat dropoffLng =>
              rw [requestEq] at inserts known
              cases inserts
              exact known
          | _ =>
              rw [requestEq] at inserts
              cases inserts
        · exact earlier (everRide_of_seen read) moves.riderId.symm
      · exact earlier before rfl

/-- Whoever drives a ride had a driver's row when accepting it. -/
theorem exists_driver {log : History} {rideId driverId : String} {ride : Ride}
    (noRides : init.rides.rows = []) (lawful : Lawful (law init) log)
    (ever : EverRide init rideId log ride) (assigned : ride.driverId = some driverId) :
    storedDriver init driverId log ≠ none := by
  induction log generalizing ride with
  | nil => exact absurd ever (not_everRide_nil noRides)
  | cons entry older ih =>
      have grows : storedDriver init driverId older ≠ none →
          storedDriver init driverId (entry :: older) ≠ none := latest_cons_ne_none
      rcases ever_cons.mp ever with saved | before
      · have written : entry.rideAt rideId = some ride := saved
        rcases law_rideAt lawful.1 saved with ⟨_, inserts, _⟩ | ⟨_, seen, read, moves⟩
        · rw [(requested_eq_some inserts).2.2.1] at assigned
          cases assigned
        · rcases moves.driverId with kept | ⟨_, acceptor, requestEq, accepted, _⟩
          · exact grows (ih lawful.2 (everRide_of_seen read) (kept.symm.trans assigned))
          · obtain rfl : acceptor = driverId := Option.some.inj (accepted.symm.trans assigned)
            obtain ⟨-, accepts, -⟩ :=
              law_savedRide lawful.1 (Entry.rideAt_eq_some.mp written).1
            obtain ⟨-, -, take, takeMem, -, -, driver, marked, -⟩ :=
              accepts _ _ requestEq
            have everDriver : EverDriver init acceptor older driver :=
              Or.inr ⟨take, takeMem, marked⟩
            exact grows everDriver.latest_ne_none
      · exact grows (ih lawful.2 before assigned)

/-! ## The invariant -/

namespace Ledger

/-- The scores that a user was given, in the order of the table. -/
def scoresOf (ledger : Ledger) (userId : String) : List Int :=
  (ledger.ratings.filter fun rating => rating.toUserId = userId).map Rating.score

/-- The columns of every row are what its scores make of them in turn, and who was rated
is a user. -/
structure Summarised (ledger : Ledger) : Prop where
  users : ∀ {userId user}, ledger.user userId = some user →
    user.columns = RatingService.storedColumns (ledger.scoresOf userId)
  drivers : ∀ {userId driver}, ledger.driver userId = some driver →
    driver.columns = RatingService.storedColumns (ledger.scoresOf userId)

theorem scoresOf_withRating (ledger : Ledger) (rating : Rating) (userId : String) :
    (ledger.withRating rating).scoresOf userId =
      ledger.scoresOf userId ++ if rating.toUserId = userId then [rating.score] else [] := by
  by_cases same : rating.toUserId = userId <;> simp [scoresOf, withRating, same]

/-- The driver's row after a rating. -/
theorem driver_countDriver (ledger : Ledger) (keyed : ledger.Keyed) (toUserId userId : String)
    (score : Int) :
    (ledger.countDriver toUserId score).driver userId =
      (ledger.driver userId).map fun driver =>
        if toUserId = userId then driver.rated score else driver := by
  unfold countDriver
  by_cases same : toUserId = userId
  · subst same
    cases profile : ledger.driver toUserId with
    | none => simp [profile]
    | some driver =>
        have sameId : driver.userId = toUserId := keyed.driver profile
        simp [withDriver, Driver.rated, sameId]
  · cases profile : ledger.driver toUserId with
    | none => simp [same]
    | some driver =>
        have sameId : driver.userId = toUserId := keyed.driver profile
        simp [withDriver, Driver.rated, sameId, same]

theorem user_countUser (ledger : Ledger) (keyed : ledger.Keyed) (toUserId userId : String)
    (score : Int) :
    (ledger.countUser toUserId score).user userId =
      (ledger.user userId).map fun user =>
        if toUserId = userId then user.rated score else user := by
  unfold countUser
  by_cases same : toUserId = userId
  · subst same
    cases stored : ledger.user toUserId with
    | none => simp [stored]
    | some user =>
        have sameId : user.id = toUserId := keyed.user stored
        simp [withUser, User.rated, sameId]
  · cases stored : ledger.user toUserId with
    | none => simp [same]
    | some user =>
        have sameId : user.id = toUserId := keyed.user stored
        simp [withUser, User.rated, sameId, same]

theorem user_countDriver (ledger : Ledger) (toUserId : String) (score : Int) :
    (ledger.countDriver toUserId score).user = ledger.user := by
  unfold countDriver
  cases ledger.driver toUserId <;> rfl

theorem countUser_rest (ledger : Ledger) (toUserId : String) (score : Int) :
    (ledger.countUser toUserId score).driver = ledger.driver ∧
      (ledger.countUser toUserId score).ratings = ledger.ratings := by
  unfold countUser
  cases ledger.user toUserId <;> exact ⟨rfl, rfl⟩

/-- A complete entry keeps the columns the summary of the scores. -/
theorem Summarised.rate {ledger : Ledger} (summarised : ledger.Summarised)
    (keyed : ledger.Keyed) (rating : Rating) : (ledger.rate rating).Summarised := by
  have keyedRating := keyed_withRating keyed rating
  have keyedDriver := keyed_countDriver keyedRating rating.toUserId rating.score
  have scores : ∀ userId, (ledger.rate rating).scoresOf userId =
      ledger.scoresOf userId ++ if rating.toUserId = userId then [rating.score] else [] := by
    intro userId
    rw [← scoresOf_withRating]
    have ratings : (ledger.rate rating).ratings = (ledger.withRating rating).ratings := by
      rw [Ledger.rate, (countUser_rest _ _ _).2, ratings_countDriver]
    unfold scoresOf
    rw [ratings]
  constructor
  · intro userId user found
    rw [Ledger.rate, user_countUser _ keyedDriver, user_countDriver,
      Option.map_eq_some_iff] at found
    obtain ⟨old, stored, rfl⟩ := found
    have columns := summarised.users stored
    rw [scores]
    split
    · rw [RatingService.storedColumns_concat, User.columns_rated, columns]
    · rw [List.append_nil, columns]
  · intro userId driver found
    rw [Ledger.rate, (countUser_rest _ _ _).1, driver_countDriver _ keyedRating,
      Option.map_eq_some_iff] at found
    obtain ⟨old, profile, rfl⟩ := found
    have columns := summarised.drivers profile
    rw [scores]
    split
    · rw [RatingService.storedColumns_concat, Driver.columns_rated, columns]
    · rw [List.append_nil, columns]

end Ledger

/-! ## Turns -/

/-- The drivers that were there have the rows that they had. -/
def Fleet.InsertsDrivers (before after : Fleet) : Prop :=
  ∀ userId driver, after.drivers.find userId = some driver →
    before.drivers.find userId = some driver ∨ before.drivers.find userId = none

/-- A turn that registers a driver inserts a row only where there was none. -/
theorem insertsDrivers_of_serve (served : (application P).serve pool turn = some next)
    (registers : turn.request.registersDriver = true) :
    pool.world.state.fleet.InsertsDrivers next.world.state.fleet := by
  have becomes := becomes_of_serve served
  generalize turn.request = request at registers becomes
  have same : pool.world.state.fleet.InsertsDrivers pool.world.state.fleet :=
    fun _ _ found => Or.inl found
  apply becomes.keeps same
  intro writes effect
  cases effect with
  | @register _ driver _ absent offline =>
      have saved : pool.world.state.fleet.InsertsDrivers
          (pool.world.state.fleet.write (.driver driver)) := by
        intro userId row found
        change (pool.world.state.fleet.drivers.save driver).find userId = some row at found
        rw [KeyedTable.find_save] at found
        split at found
        · rename_i sameId
          rw [← sameId]
          exact Or.inr absent
        · exact Or.inl found
      refine ⟨same, saved, ?_⟩
      rw [offline]
      exact saved
  | request inserted =>
      cases request with
      | requestRide _ _ _ _ _ _ _ => cases registers
      | _ => cases inserted
  | _ => cases registers

/-- What a served request adds to the history, it adds alone. -/
theorem aloneSince_of_serve (valid : (rules P init).Valid (Guarantee init) pool)
    (validNext : (rules P init).Valid (Guarantee init) next)
    (served : (application P).serve pool turn = some next) :
    ∃ newer, next.world.log = newer ++ pool.world.log ∧
      AloneSince init pool.tasks.length turn.request newer pool.world.log := by
  obtain ⟨newer, grown, own⟩ := log_of_serve served
  refine ⟨newer, grown, ?_, own, ?_⟩
  · rw [← grown]
    exact validNext.good.2
  · intro entry entryMem samePid
    have owner := valid.owned entry entryMem
    rw [samePid, Pool.requests, List.getElem?_eq_none (by simp)] at owner
    cases owner

/-- A turn that rates makes its entry in the ledger. -/
theorem ledger_of_rate (served : (application P).serve pool turn = some next)
    (isRate : turn.request.isRate = true) :
    Ledger.Becomes (!turn.unbroken) pool.world.state.ledger next.world.state.ledger := by
  cases requestEq : turn.request with
  | rate rideId fromUserId score comment newId now =>
      have rates : (application P).admits pool turn.request = true →
          (application P).alone Store.ledger (!turn.unbroken) pool.tasks.length
            ((application P).program turn.request)
            (fun _ => Ledger.Becomes (!turn.unbroken) pool.world.state.ledger)
            pool.world.state.ledger := by
        intro admitted
        rw [requestEq] at admitted ⊢
        have unused : pool.world.state.unused newId = true := by
          have drawn := List.all_eq_true.mp admitted newId (by simp [application, Request.draws])
          exact (Bool.and_eq_true_iff.mp drawn).1
        have absent : pool.world.state.ratings.find newId = none := by
          simp only [Store.unused, Bool.and_eq_true, Option.isNone_iff_eq_none] at unused
          exact unused.2
        have fresh : ∀ row ∈ pool.world.state.ledger.ratings, row.id ≠ newId := by
          intro row rowMem sameId
          rw [KeyedTable.find_eq_none_iff] at absent
          exact absent (List.mem_map.mpr ⟨row, rowMem, sameId⟩)
        have handled : LedgerSolo P (!turn.unbroken) pool.tasks.length
            pool.world.state.ledger
            (handler P (.rate rideId fromUserId score comment newId now))
            (fun _ => Ledger.Becomes (!turn.unbroken) pool.world.state.ledger)
            (fun _ => Ledger.Becomes (!turn.unbroken) pool.world.state.ledger) :=
          (rate_ledger pool.world.state.ledger_keyed fresh).bind
            fun _ _ becomes => solo_pure becomes
        apply alone_mono ?_ handled
        rintro (failure | response) after ends <;> exact ends
      obtain ⟨outcome, -, becomes⟩ := alone_of_serve (fun _ _ => rfl) served rates
      exact becomes
  | _ =>
      rw [requestEq] at isRate
      cases isRate

/-- Users are never removed. -/
theorem users_stay {newer older : History} {userId : String}
    (stored : storedUser init userId older ≠ none) :
    storedUser init userId (newer ++ older) ≠ none :=
  latest_append_ne_none stored

/-- Whoever was rated is a user, if the riders that requests name are. -/
theorem rated_is_user (noRides : init.rides.rows = []) (noRatings : init.ratings.rows = [])
    (known : pool.world.state.DriversAreUsers)
    (riders : ∀ entry ∈ pool.world.log, entry.request.RiderKnown pool.world.state)
    (valid : (rules P init).Valid (Guarantee init) pool) :
    ∀ rating ∈ pool.world.state.ratings.rows,
      pool.world.state.users.find rating.toUserId ≠ none := by
  have described : Describes init pool.world := valid.good.1
  have lawful : Lawful (law init) pool.world.log := valid.good.2
  intro rating ratingMem
  rw [described.ratings, noRatings, List.nil_append] at ratingMem
  obtain ⟨newer, entry, older, split, saved⟩ := mem_insertedRatings ratingMem
  have lawfulHere := lawful
  rw [split] at lawfulHere
  have ratingLaw := law_savedRating lawfulHere.entry saved
  cases requestEq : entry.request with
  | rate rideId fromUserId score comment newId now =>
      simp only [requestEq, RatingLaw] at ratingLaw
      obtain ⟨-, -, ⟨ride, read, -, other⟩, -, -⟩ := ratingLaw
      have ever : EverRide init rideId pool.world.log ride := by
        rw [split]
        exact (everRide_of_seen read).cons.append
      obtain ⟨driverId, assigned, sides⟩ := sides_of_otherParty other
      rcases sides with ⟨-, toDriver⟩ | ⟨-, toRider⟩
      · rw [toDriver]
        apply known
        rw [described.drivers]
        exact exists_driver noRides lawful ever assigned
      · rw [toRider]
        obtain ⟨source, sourceMem, named⟩ := exists_requestRide noRides lawful ever
        exact named _ (riders source sourceMem)
  | _ => simp only [requestEq, RatingLaw] at ratingLaw

/-- A turn that does not rate keeps the columns the summary of the scores, if it
registers no driver who was rated before. -/
theorem summarised_of_other (valid : (rules P init).Valid (Guarantee init) pool)
    (validNext : (rules P init).Valid (Guarantee init) next)
    (served : (application P).serve pool turn = some next)
    (kind : turn.request.isRate = false)
    (rated : ∀ rating ∈ pool.world.state.ratings.rows,
      pool.world.state.users.find rating.toUserId ≠ none)
    (unrated : ∀ userId ∈ turn.request.registered pool.world.state.users.rows,
      pool.world.state.drivers.find userId = none →
        ∀ rating ∈ pool.world.state.ratings.rows, rating.toUserId ≠ userId)
    (summarised : pool.world.state.ledger.Summarised) :
    next.world.state.ledger.Summarised := by
  have described : Describes init pool.world := valid.good.1
  have describedNext : Describes init next.world := validNext.good.1
  obtain ⟨newer, grown, alone⟩ := aloneSince_of_serve valid validNext served
  have ratings : next.world.state.ratings.rows = pool.world.state.ratings.rows := by
    rw [describedNext.ratings, described.ratings, grown, insertedRatings_of_alone alone kind]
  have scores : ∀ userId, next.world.state.ledger.scoresOf userId =
      pool.world.state.ledger.scoresOf userId := by
    intro userId
    simp only [Ledger.scoresOf, Store.ledger, ratings]
  -- a user whom nobody has rated has no scores
  have noScores : ∀ userId,
      (∀ rating ∈ pool.world.state.ratings.rows, rating.toUserId ≠ userId) →
        pool.world.state.ledger.scoresOf userId = [] := by
    intro userId others
    have none : pool.world.state.ratings.rows.filter
        (fun rating => rating.toUserId = userId) = [] := by
      rw [List.filter_eq_nil_iff]
      intro rating ratingMem isOf
      exact others rating ratingMem (of_decide_eq_true isOf)
    simp only [Ledger.scoresOf, Store.ledger, none, List.map_nil]
  constructor
  · intro userId user found
    have stored : storedUser init userId (newer ++ pool.world.log) = some user := by
      rw [← grown, ← describedNext.users]
      exact found
    rw [scores]
    rcases ever_of_latest_append stored with before | ⟨entry, entryMem, changed⟩
    · apply summarised.users
      change pool.world.state.users.find userId = some user
      rw [described.users]
      exact before
    · obtain ⟨saved, rfl⟩ := Entry.userAt_eq_some.mp changed
      rcases userColumns_of_alone alone kind entry entryMem user saved with
        ⟨old, oldStored, -, same⟩ | ⟨-, absent, columns⟩
      · rw [same]
        apply summarised.users
        change pool.world.state.users.find user.id = some old
        rw [described.users]
        exact oldStored
      · rw [columns, noScores]
        · rfl
        · intro rating ratingMem sameUser
          apply rated rating ratingMem
          rw [sameUser, described.users]
          exact absent
  · intro userId driver found
    have stored : storedDriver init userId (newer ++ pool.world.log) = some driver := by
      rw [← grown, ← describedNext.drivers]
      exact found
    rw [scores]
    rcases ever_of_latest_append stored with before | ⟨entry, entryMem, changed⟩
    · apply summarised.drivers
      change pool.world.state.drivers.find userId = some driver
      rw [described.drivers]
      exact before
    · obtain ⟨saved, rfl⟩ := Entry.driverAt_eq_some.mp changed
      have rowMem : ∀ userId user, storedUser init userId pool.world.log = some user →
          user ∈ pool.world.state.users.rows := by
        intro userId user storedRow
        rw [← described.users] at storedRow
        exact (KeyedTable.find_eq_some_iff.mp storedRow).1
      rcases driverColumns_of_alone alone kind _ rowMem entry entryMem driver saved with
        ⟨old, oldStored, same⟩ | ⟨registers, columns⟩
      · rw [same]
        apply summarised.drivers
        change pool.world.state.drivers.find driver.userId = some old
        rw [described.drivers]
        exact oldStored
      · have registersDriver : turn.request.registersDriver = true := by
          cases requestEq : turn.request <;> rw [requestEq] at registers <;>
            first | rfl | cases registers
        rcases insertsDrivers_of_serve served registersDriver driver.userId driver found with
          before | absent
        · exact summarised.drivers before
        · rw [columns, noScores]
          · rfl
          · exact unrated driver.userId registers absent

/-! ## The backfill -/

/-- `UPDATE users u SET rating_count = (SELECT COUNT(*) FROM ratings r WHERE
r.to_user_id = u.id)` -/
def Store.backfillUsers (store : Store) : List User :=
  store.users.rows.map fun user => { user with
    ratingCount := store.ratings.rows.countP fun rating => rating.toUserId = user.id }

/-- `UPDATE drivers d SET rating_count = (SELECT COUNT(*) FROM ratings r WHERE
r.to_user_id = d.user_id)` -/
def Store.backfillDrivers (store : Store) : List Driver :=
  store.drivers.rows.map fun driver => { driver with
    ratingCount := store.ratings.rows.countP fun rating => rating.toUserId = driver.userId }

/-- Running the backfill again would change nothing. -/
def Store.Backfilled (store : Store) : Prop :=
  store.backfillUsers = store.users.rows ∧ store.backfillDrivers = store.drivers.rows

instance (store : Store) : Decidable store.Backfilled := by
  unfold Store.Backfilled
  infer_instance

/-- The rider of a requested ride is the user whom the route has resolved. -/
def RiderResolved (pool : ApplicationPool) (turn : ApplicationTurn) (_ : ApplicationPool) :
    Prop :=
  turn.request.RiderKnown pool.world.state

/-- No driver's row is inserted for a user who was rated, and no call of a request to rate
fails once the rating is inserted. -/
structure CountsAlong (pool : ApplicationPool) (turn : ApplicationTurn)
    (next : ApplicationPool) : Prop where
  registers : ∀ userId ∈ turn.request.registered pool.world.state.users.rows,
    pool.world.state.drivers.find userId = none →
      ∀ rating ∈ pool.world.state.ratings.rows, rating.toUserId ≠ userId
  rates : turn.request.isRate = true →
    turn.unbroken = true ∨ next.world.state.ratings.rows = pool.world.state.ratings.rows

instance (pool : ApplicationPool) (turn : ApplicationTurn) (next : ApplicationPool) :
    Decidable (RiderResolved pool turn next) := by
  unfold RiderResolved
  infer_instance

instance (pool : ApplicationPool) (turn : ApplicationTurn) (next : ApplicationPool) :
    Decidable (CountsAlong pool turn next) :=
  decidable_of_iff
    ((∀ userId ∈ turn.request.registered pool.world.state.users.rows,
      pool.world.state.drivers.find userId = none →
        ∀ rating ∈ pool.world.state.ratings.rows, rating.toUserId ≠ userId) ∧
      (turn.request.isRate = true →
        turn.unbroken = true ∨
          next.world.state.ratings.rows = pool.world.state.ratings.rows))
    ⟨fun holds => ⟨holds.1, holds.2⟩, fun along => ⟨along.registers, along.rates⟩⟩

theorem Ledger.scores_length (store : Store) (userId : String) :
    ((store.ledger.scoresOf userId).length : Int) =
      store.ratings.rows.countP fun rating => rating.toUserId = userId := by
  simp [Ledger.scoresOf, Store.ledger, List.countP_eq_length_filter]

/-- Where the columns summarise the scores, the backfill has nothing to do. -/
theorem backfilled_of_summarised {store : Store} (summarised : store.ledger.Summarised) :
    store.Backfilled := by
  constructor
  · refine (List.map_congr_left ?_).trans (List.map_id _)
    intro user userMem
    have columns := summarised.users (KeyedTable.mem_rows_iff_find.mp userMem)
    have counted : user.ratingCount = (store.ledger.scoresOf user.id).length := by
      rw [← (RatingService.tracks_storedColumns _).count, ← columns]
      rfl
    rw [← Ledger.scores_length, ← counted]
    rfl
  · refine (List.map_congr_left ?_).trans (List.map_id _)
    intro driver driverMem
    have columns := summarised.drivers (KeyedTable.mem_rows_iff_find.mp driverMem)
    have counted : driver.ratingCount = (store.ledger.scoresOf driver.userId).length := by
      rw [← (RatingService.tracks_storedColumns _).count, ← columns]
      rfl
    rw [← Ledger.scores_length, ← counted]
    rfl

/-- What holds between two requests. -/
structure BackfillKept (pool : ApplicationPool) : Prop where
  summarised : pool.world.state.ledger.Summarised
  riders : ∀ entry ∈ pool.world.log, entry.request.RiderKnown pool.world.state

theorem vacant_summarised : Store.vacant.ledger.Summarised := by
  constructor
  · intro userId user found
    cases found
  · intro userId driver found
    cases found

theorem backfillKept_serve (valid : (rules P Store.vacant).Valid (Guarantee Store.vacant) pool)
    (validNext : (rules P Store.vacant).Valid (Guarantee Store.vacant) next)
    (known : pool.world.state.DriversAreUsers)
    (served : (application P).serve pool turn = some next)
    (resolved : RiderResolved pool turn next) (along : CountsAlong pool turn next)
    (kept : BackfillKept pool) : BackfillKept next := by
  have described : Describes Store.vacant pool.world := valid.good.1
  have describedNext : Describes Store.vacant next.world := validNext.good.1
  obtain ⟨newer, grown, alone⟩ := aloneSince_of_serve valid validNext served
  have usersStay : ∀ {userId}, pool.world.state.users.find userId ≠ none →
      next.world.state.users.find userId ≠ none := by
    intro userId stored
    rw [describedNext.users, grown]
    rw [described.users] at stored
    exact users_stay stored
  have riderStays : ∀ {request : Request}, request.RiderKnown pool.world.state →
      request.RiderKnown next.world.state := by
    intro request riderKnown
    cases request with
    | requestRide _ _ _ _ _ _ _ => exact usersStay riderKnown
    | _ => trivial
  constructor
  · cases isRate : turn.request.isRate with
    | true =>
        rcases ledger_of_rate served isRate with
          unchanged | ⟨rating, entered⟩ | ⟨failing, rating, torn⟩
        · rw [unchanged]
          exact kept.summarised
        · rw [entered]
          exact kept.summarised.rate pool.world.state.ledger_keyed rating
        · -- the rating was inserted, and then a call has failed
          exfalso
          rcases along.rates isRate with unbroken | unchanged
          · rw [unbroken] at failing
            cases failing
          · have longer := congrArg List.length torn
            simp [Store.ledger, unchanged] at longer
    | false =>
        exact summarised_of_other valid validNext served isRate
          (rated_is_user rfl rfl known kept.riders valid) along.registers kept.summarised
  · intro entry entryMem
    rw [grown] at entryMem
    rcases List.mem_append.mp entryMem with new | old
    · rw [(alone.own entry new).2]
      exact riderStays resolved
    · exact riderStays (kept.riders entry old)

/-- From an empty store on, requests executed one at a time keep the counters equal to
what the migration counts, as long as no driver's row is inserted for a user who was
rated and no call fails behind the insertion of a rating. -/
theorem backfilled_of_countsAlong {turns : List ApplicationTurn}
    (resolved : EveryStep (application P).serve RiderResolved (Pool.start Store.vacant) turns)
    (along : EveryStep (application P).serve CountsAlong (Pool.start Store.vacant) turns)
    (served : runSteps (application P).serve (Pool.start Store.vacant) turns = some pool) :
    pool.world.state.Backfilled := by
  have quiescent : (Pool.start Store.vacant : ApplicationPool).Quiescent := by
    intro task taskMem
    cases taskMem
  have validOf : ∀ {turns : List ApplicationTurn} {reached : ApplicationPool},
      runSteps (application P).serve (Pool.start Store.vacant) turns = some reached →
        (rules P Store.vacant).Valid (Guarantee Store.vacant) reached ∧
          reached.world.state.DriversAreUsers := by
    intro turns reached ran
    obtain ⟨events, ranEvents, -⟩ := run_of_turns quiescent ran
    refine ⟨reached_valid rfl ranEvents, driversAreUsers_of_run ?_ ranEvents⟩
    intro userId present
    exact absurd rfl present
  have always : Always (application P).serve BackfillKept (Pool.start Store.vacant) turns := by
    have start : BackfillKept (Pool.start Store.vacant) :=
      ⟨vacant_summarised, by simp [Pool.start]⟩
    refine always_of_everyStep start ?_ along
    intro before turn after middle next split ran moved kept counts
    have ranNext : runSteps (application P).serve (Pool.start Store.vacant) (before ++ [turn]) =
        some next :=
      runSteps_snoc _ ran moved
    exact backfillKept_serve (validOf ran).1 (validOf ranNext).1 (validOf ran).2 moved
      (resolved before turn after middle next split ran moved) counts kept
  exact backfilled_of_summarised (always turns [] pool (by simp) served).summarised

namespace SmallCity

/-- Ann and Dan sign up, Dan registers as a driver, and after Ann's ride with him they
rate each other. -/
def ratedBothWays : List ApplicationTurn :=
  [served (.authRegister "127.0.0.1" "ann" "secret" "u1" "salt") 3,
    served (.authRegister "127.0.0.1" "dan" "secret" "u2" "salt") 3,
    served (.driverRegister "dan" "sedan" "A1") 5,
    served (.goOnline "u2" centre centre) 5,
    served (wants "r1" "u1") 8,
    served (.acceptRide "r1" "u2") 9,
    served (.startRide "r1" "u2") 2,
    served (.completeRide "r1" "u2" 60) 6,
    served (.rate "r1" "u1" 5 none "k1" 120) 8,
    served (.rate "r1" "u2" 4 none "k2" 120) 6]

theorem ratedBothWays_backfilled :
    ∃ pool, runSteps (application platform).serve (Pool.start Store.vacant) ratedBothWays =
      some pool ∧ pool.world.state.Backfilled := by
  obtain ⟨pool, ran⟩ := Option.isSome_iff_exists.mp
    (by decide +kernel : (runSteps (application platform).serve (Pool.start Store.vacant)
      ratedBothWays).isSome = true)
  exact ⟨pool, ran, backfilled_of_countsAlong (by decide +kernel) (by decide +kernel) ran⟩

/-- Then Ann registers as a driver too. -/
def annDrivesLater : List ApplicationTurn :=
  ratedBothWays ++ [served (.driverRegister "ann" "van" "B2") 5]

/-- Ann's new row counts no rating, and she has one. -/
theorem annDrivesLater_not_backfilled :
    ∃ pool, runSteps (application platform).serve (Pool.start Store.vacant) annDrivesLater =
      some pool ∧
      EveryStep (application platform).serve RiderResolved (Pool.start Store.vacant)
        annDrivesLater ∧
      (∀ turn ∈ annDrivesLater, turn.unbroken = true) ∧ ¬ pool.world.state.Backfilled := by
  obtain ⟨pool, ran, checked⟩ := Option.map_eq_some_iff.mp
    (by decide +kernel : (runSteps (application platform).serve (Pool.start Store.vacant)
      annDrivesLater).map (fun pool => decide (¬ pool.world.state.Backfilled)) = some true)
  exact ⟨pool, ran, by decide +kernel, by decide +kernel, of_decide_eq_true checked⟩

end SmallCity

end RideHailing
