import RideHailing.Application
import RideHailing.HistoryLookup
import RideHailing.HistoryTriples

/-!
# The tables as their histories

Each of the tables, and the accept lock, is determined by the calls that
succeeded.  This file reads the current rows off a history and shows that every
call of the backends agrees with that reading.
-/

namespace RideHailing

abbrev HistoryEntry := Entry Value Fault Request

abbrev History := List HistoryEntry

namespace Call

def ride? : Call → Option Ride
  | .rideSave ride => some ride
  | _ => none

def driver? : Call → Option Driver
  | .driverMerge driver => some driver
  | _ => none

def user? : Call → Option User
  | .userSave user => some user
  | _ => none

def rating? : Call → Option Rating
  | .ratingSave rating => some rating
  | _ => none

/-- The owner that a call by this task gives the accept lock. -/
def owner? (pid : Nat) : Call → Option (Option Nat)
  | .lockAcquire => some (some pid)
  | .lockRelease => some none
  | _ => none

end Call

namespace Entry

variable (entry : HistoryEntry)

def succeeded : Bool :=
  match entry.reply with
  | .ok _ => true
  | .error _ => false

def savedRide : Option Ride :=
  if entry.succeeded then entry.call.ride? else none

def savedDriver : Option Driver :=
  if entry.succeeded then entry.call.driver? else none

def savedUser : Option User :=
  if entry.succeeded then entry.call.user? else none

def savedRating : Option Rating :=
  if entry.succeeded then entry.call.rating? else none

/-- What the entry makes of the owner of the accept lock. -/
def lockChange : Option (Option Nat) :=
  if entry.succeeded then entry.call.owner? entry.pid else none

def rideAt (rideId : String) : Option Ride :=
  entry.savedRide.filter fun ride => decide (ride.id = rideId)

def driverAt (userId : String) : Option Driver :=
  entry.savedDriver.filter fun driver => decide (driver.userId = userId)

def userAt (userId : String) : Option User :=
  entry.savedUser.filter fun user => decide (user.id = userId)

@[simp]
theorem succeeded_ok (pid : Nat) (request : Request) (call : Call)
    (value : Value call) :
    succeeded ⟨pid, request, call, .ok value⟩ = true :=
  rfl

@[simp]
theorem succeeded_error (pid : Nat) (request : Request) (call : Call)
    (fault : Fault) :
    succeeded ⟨pid, request, call, .error fault⟩ = false :=
  rfl

variable {entry}

theorem rideAt_eq_some {rideId : String} {ride : Ride} :
    entry.rideAt rideId = some ride ↔
      entry.savedRide = some ride ∧ ride.id = rideId := by
  simp [rideAt, Option.filter_eq_some_iff]

theorem driverAt_eq_some {userId : String} {driver : Driver} :
    entry.driverAt userId = some driver ↔
      entry.savedDriver = some driver ∧ driver.userId = userId := by
  simp [driverAt, Option.filter_eq_some_iff]

theorem userAt_eq_some {userId : String} {user : User} :
    entry.userAt userId = some user ↔
      entry.savedUser = some user ∧ user.id = userId := by
  simp [userAt, Option.filter_eq_some_iff]

theorem call_of_savedRide {ride : Ride} (saved : entry.savedRide = some ride) :
    entry.call = .rideSave ride := by
  obtain ⟨pid, request, call, reply⟩ := entry
  cases reply with
  | error fault => simp [savedRide] at saved
  | ok value => cases call <;> simp_all [savedRide, Call.ride?]

theorem call_of_savedDriver {driver : Driver}
    (saved : entry.savedDriver = some driver) :
    entry.call = .driverMerge driver := by
  obtain ⟨pid, request, call, reply⟩ := entry
  cases reply with
  | error fault => simp [savedDriver] at saved
  | ok value => cases call <;> simp_all [savedDriver, Call.driver?]

theorem call_of_savedUser {user : User} (saved : entry.savedUser = some user) :
    entry.call = .userSave user := by
  obtain ⟨pid, request, call, reply⟩ := entry
  cases reply with
  | error fault => simp [savedUser] at saved
  | ok value => cases call <;> simp_all [savedUser, Call.user?]

theorem call_of_savedRating {rating : Rating}
    (saved : entry.savedRating = some rating) :
    entry.call = .ratingSave rating := by
  obtain ⟨pid, request, call, reply⟩ := entry
  cases reply with
  | error fault => simp [savedRating] at saved
  | ok value => cases call <;> simp_all [savedRating, Call.rating?]

end Entry

/-! ## Current rows -/

section Views

variable (init : Store)

/-- The row stored under a ride id. -/
def storedRide (rideId : String) : History → Option Ride :=
  latest (Entry.rideAt · rideId) (init.rides.find rideId)

def storedDriver (userId : String) : History → Option Driver :=
  latest (Entry.driverAt · userId) (init.drivers.find userId)

def storedUser (userId : String) : History → Option User :=
  latest (Entry.userAt · userId) (init.users.find userId)

/-- The ratings inserted so far, the oldest first. -/
def insertedRatings : History → List Rating
  | [] => []
  | entry :: older => insertedRatings older ++ entry.savedRating.toList

/-- The task that holds the accept lock. -/
def lockOwner : History → Option Nat
  | [] => none
  | entry :: older => entry.lockChange.getD (lockOwner older)

/-- The tables and the lock are what the history says. -/
structure Describes (world : World Value Fault Store Request) : Prop where
  rides : ∀ rideId, world.state.rides.find rideId =
    storedRide init rideId world.log
  drivers : ∀ userId, world.state.drivers.find userId =
    storedDriver init userId world.log
  users : ∀ userId, world.state.users.find userId =
    storedUser init userId world.log
  ratings : world.state.ratings.rows =
    init.ratings.rows ++ insertedRatings world.log
  lock : world.state.acceptLock = lockOwner world.log

theorem describes_nil (unlocked : init.acceptLock = none) :
    Describes init ⟨init, []⟩ :=
  ⟨fun _ => rfl, fun _ => rfl, fun _ => rfl, by simp [insertedRatings], unlocked⟩

end Views

/-! ## Every call agrees with the reading -/

/-- What a call leaves of the tables and the lock. -/
structure Follows (before after : Store) (entry : HistoryEntry) : Prop where
  rides : after.rides =
    (entry.savedRide.elim before.rides fun ride => before.rides.save ride)
  drivers : after.drivers =
    (entry.savedDriver.elim before.drivers fun driver => before.drivers.save driver)
  users : after.users.toKeyedTable =
    (entry.savedUser.elim before.users.toKeyedTable
      fun user => before.users.toKeyedTable.save user)
  ratings : after.ratings.toKeyedTable =
    (entry.savedRating.elim before.ratings.toKeyedTable
      fun rating => before.ratings.toKeyedTable.save rating)
  lock : after.acceptLock = entry.lockChange.getD before.acceptLock

theorem perform_follows {P : Platform} {pid : Nat} {request : Request}
    {call : Call} {before after : Store} {reply : Except Fault (Value call)}
    (performed : P.perform pid call before = some (reply, after)) :
    Follows before after ⟨pid, request, call, reply⟩ := by
  cases call with
  | userSave user =>
      simp only [Platform.perform] at performed
      split at performed
      · cases performed
        exact ⟨rfl, rfl, rfl, rfl, rfl⟩
      · rename_i users merged
        cases performed
        exact ⟨rfl, rfl, (UniqueTable.merge_eq_some merged).2, rfl, rfl⟩
  | ratingSave rating =>
      simp only [Platform.perform] at performed
      split at performed
      · cases performed
        exact ⟨rfl, rfl, rfl, rfl, rfl⟩
      · rename_i ratings merged
        cases performed
        exact ⟨rfl, rfl, rfl, (UniqueTable.merge_eq_some merged).2, rfl⟩
  | driverMerge _ =>
      simp only [Platform.perform] at performed
      split at performed <;> cases performed <;> exact ⟨rfl, rfl, rfl, rfl, rfl⟩
  | geoadd _ _ _ =>
      simp only [Platform.perform] at performed
      split at performed <;> cases performed <;> exact ⟨rfl, rfl, rfl, rfl, rfl⟩
  | geosearch _ _ _ _ =>
      simp only [Platform.perform] at performed
      split at performed <;> cases performed <;> exact ⟨rfl, rfl, rfl, rfl, rfl⟩
  | limiterHit _ _ _ =>
      simp only [Platform.perform] at performed
      split at performed <;> cases performed <;> exact ⟨rfl, rfl, rfl, rfl, rfl⟩
  | lockAcquire =>
      simp only [Platform.perform] at performed
      split at performed
      · cases performed
        exact ⟨rfl, rfl, rfl, rfl, rfl⟩
      · cases performed
  | _ =>
      cases performed
      exact ⟨rfl, rfl, rfl, rfl, rfl⟩

theorem answer_follows {P : Platform} {pid : Nat} {request : Request}
    {broken : Option Fault} {call : Call} {before after : Store}
    {reply : Except Fault (Value call)}
    (answered : (application P).answer pid broken call before =
      some (reply, after)) :
    Follows before after ⟨pid, request, call, reply⟩ := by
  cases broken with
  | none => exact perform_follows answered
  | some fault =>
      obtain ⟨_, rfl, rfl⟩ := Machine.answer_broken answered
      exact ⟨rfl, rfl, rfl, rfl, rfl⟩

/-- Drivers stay. -/
theorem Follows.keeps_driver {before after : Store} {entry : HistoryEntry} {userId : String}
    (follows : Follows before after entry)
    (row : (before.drivers.find userId).isSome = true) :
    (after.drivers.find userId).isSome = true := by
  rw [follows.drivers]
  cases entry.savedDriver with
  | none => exact row
  | some driver =>
      rw [Option.elim_some, KeyedTable.find_save]
      split
      · rfl
      · exact row

/-- Users stay. -/
theorem Follows.keeps_user {before after : Store} {entry : HistoryEntry} {userId : String}
    (follows : Follows before after entry)
    (row : (before.users.find userId).isSome = true) :
    (after.users.find userId).isSome = true := by
  rw [follows.users]
  cases entry.savedUser with
  | none => exact row
  | some user =>
      rw [Option.elim_some, KeyedTable.find_save]
      split
      · rfl
      · exact row

section Reads

variable {P : Platform} {pid : Nat} {broken : Option Fault} {before after : Store}

theorem userFindById_found {userId : String} {found : Option User}
    (answered : (application P).answer pid broken (.userFindById userId) before =
      some (.ok found, after)) : before.users.find userId = found := by
  have performed : P.perform pid (.userFindById userId) before = some (.ok found, after) :=
    Machine.perform_of_answer answered
  simp only [Platform.perform, ok, Option.some.injEq, Prod.mk.injEq,
    Except.ok.injEq] at performed
  exact performed.1

theorem userFindByUsername_found {username : String} {user : User}
    (answered : (application P).answer pid broken (.userFindByUsername username) before =
      some (.ok (some user), after)) :
    user ∈ before.users.rows ∧ user.username = username := by
  have performed : P.perform pid (.userFindByUsername username) before =
      some (.ok (some user), after) :=
    Machine.perform_of_answer answered
  simp only [Platform.perform, ok, Option.some.injEq, Prod.mk.injEq,
    Except.ok.injEq] at performed
  have named := List.find?_some performed.1
  exact ⟨List.mem_of_find?_eq_some performed.1, of_decide_eq_true named⟩

theorem driverFindById_found {userId : String} {found : Option Driver}
    (answered : (application P).answer pid broken (.driverFindById userId) before =
      some (.ok found, after)) : before.drivers.find userId = found := by
  have performed : P.perform pid (.driverFindById userId) before = some (.ok found, after) :=
    Machine.perform_of_answer answered
  simp only [Platform.perform, ok, Option.some.injEq, Prod.mk.injEq,
    Except.ok.injEq] at performed
  exact performed.1

end Reads

/-- An event adds an entry that accounts for the change of the tables, or it
leaves both the history and the tables as they are. -/
theorem next_cases {P : Platform} {before after : ApplicationPool}
    {event : ApplicationEvent}
    (moved : (application P).next before event = some after) :
    (∃ elapsed, after.world =
        { before.world with
          state := (application P).ambient elapsed before.world.state }) ∨
      ∃ entry, after.world.log = entry :: before.world.log ∧
        Follows before.world.state after.world.state entry := by
  rcases (application P).next_cases moved with
    ⟨_, _, rfl⟩ | ⟨pid, broken, advanced⟩ | ⟨elapsed, _, rfl⟩
  · exact Or.inl ⟨0, rfl⟩
  · obtain ⟨request, call, resume, reply, state, _, answered, rfl⟩ :=
      (application P).advance_eq_some advanced
    exact Or.inr ⟨⟨pid, request, call, reply⟩, rfl, answer_follows answered⟩
  · exact Or.inl ⟨elapsed, rfl⟩

/-- A run only adds to the history. -/
theorem log_grows {P : Platform} {before after : ApplicationPool}
    {events : List ApplicationEvent}
    (ran : (application P).run before events = some after) :
    ∃ news, after.world.log = news ++ before.world.log := by
  apply runSteps_invariant ?_ ⟨[], rfl⟩ ran
  rintro pool event next ⟨news, logEq⟩ moved
  rcases next_cases moved with ⟨elapsed, worldEq⟩ | ⟨entry, grown, _⟩
  · exact ⟨news, by rw [worldEq, ← logEq]⟩
  · exact ⟨entry :: news, by rw [grown, logEq]; rfl⟩

variable {init : Store} {P : Platform}

theorem storedRide_cons (rideId : String) (entry : HistoryEntry)
    (older : History) :
    storedRide init rideId (entry :: older) =
      (entry.rideAt rideId).or (storedRide init rideId older) := by
  rw [storedRide, latest]
  cases entry.rideAt rideId <;> rfl

theorem storedDriver_cons (userId : String) (entry : HistoryEntry)
    (older : History) :
    storedDriver init userId (entry :: older) =
      (entry.driverAt userId).or (storedDriver init userId older) := by
  rw [storedDriver, latest]
  cases entry.driverAt userId <;> rfl

theorem storedUser_cons (userId : String) (entry : HistoryEntry)
    (older : History) :
    storedUser init userId (entry :: older) =
      (entry.userAt userId).or (storedUser init userId older) := by
  rw [storedUser, latest]
  cases entry.userAt userId <;> rfl

/-- The drivers are as their history says, before the entry and after it. -/
theorem Follows.stored_driver {before after : Store} {entry : HistoryEntry} {older : History}
    (follows : Follows before after entry)
    (described : ∀ userId, before.drivers.find userId = storedDriver init userId older)
    (userId : String) :
    after.drivers.find userId = storedDriver init userId (entry :: older) := by
  simp only [follows.drivers, storedDriver_cons, Entry.driverAt, ← described]
  cases entry.savedDriver with
  | none => rfl
  | some driver =>
      simp only [Option.elim_some, KeyedTable.find_save]
      by_cases same : driver.userId = userId <;> simp [same, Option.filter]

theorem storedDriver_of_run {events : List ApplicationEvent} {pool : ApplicationPool}
    (ran : (application P).run (Pool.start init) events = some pool) (userId : String) :
    pool.world.state.drivers.find userId = storedDriver init userId pool.world.log := by
  revert userId
  apply runSteps_invariant ?_ (fun _ => rfl) ran
  intro before event after described moved
  rcases next_cases moved with ⟨elapsed, worldEq⟩ | ⟨entry, grown, follows⟩
  · rw [worldEq]
    exact described
  · rw [grown]
    exact follows.stored_driver described

/-- A call whose rating, if it inserts one, has a new identifier keeps the
tables as their history says. -/
theorem Describes.answer {world : World Value Fault Store Request} {pid : Nat}
    {request : Request} {broken : Option Fault} {call : Call}
    {reply : Except Fault (Value call)} {state : Store}
    (described : Describes init world)
    (answered : (application P).answer pid broken call world.state =
      some (reply, state))
    (fresh : ∀ rating,
      Entry.savedRating ⟨pid, request, call, reply⟩ = some rating →
        ∀ row ∈ init.ratings.rows ++ insertedRatings world.log,
          row.id ≠ rating.id) :
    Describes init ⟨state, ⟨pid, request, call, reply⟩ :: world.log⟩ := by
  have follows : Follows world.state state ⟨pid, request, call, reply⟩ :=
    answer_follows answered
  generalize entryEq :
    (⟨pid, request, call, reply⟩ : HistoryEntry) = entry at follows fresh ⊢
  refine ⟨?_, ?_, ?_, ?_, ?_⟩
  · intro rideId
    simp only [follows.rides, storedRide_cons, Entry.rideAt, ← described.rides]
    cases entry.savedRide with
    | none => rfl
    | some ride =>
        simp only [Option.elim_some, KeyedTable.find_save]
        by_cases same : ride.id = rideId <;> simp [same, Option.filter]
  · exact follows.stored_driver described.drivers
  · intro userId
    simp only [follows.users, storedUser_cons, Entry.userAt, ← described.users]
    cases entry.savedUser with
    | none => rfl
    | some user =>
        simp only [Option.elim_some, KeyedTable.find_save]
        by_cases same : user.id = userId <;> simp [same, Option.filter]
  · simp only [follows.ratings, insertedRatings]
    cases saved : entry.savedRating with
    | none => simpa using described.ratings
    | some rating =>
        have absent : world.state.ratings.find rating.id = none := by
          rw [KeyedTable.find_eq_none_iff, described.ratings]
          intro present
          obtain ⟨row, rowMem, rowId⟩ := List.mem_map.mp present
          exact fresh rating saved row rowMem rowId
        rw [Option.elim_some, KeyedTable.rows_save_of_absent absent,
          described.ratings]
        simp
  · simp only [follows.lock, lockOwner, described.lock]

end RideHailing
