import RideHailing.AvailabilityLockstep
import RideHailing.BackendHistories
import RideHailing.CallMonitors
import RideHailing.StableFacts

/-!
# What a rating does to availability

A rating writes back the whole row of the driver, with the availability that it has
read, and then the availability set.  Others cannot tell that it ran as long as neither
store has changed the driver's availability since the rating has read the row; otherwise
the change is undone.
-/

namespace RideHailing

open Service

/-- The users whose rows a rating has read, and the row of a driver that it read last. -/
structure RowsRead where
  users : List String := []
  driver : Option Driver := none

namespace RowsRead

/-- The row of the driver that was read has this availability. -/
def Shows (note : RowsRead) (userId : String) (isAvailable : Bool) : Prop :=
  ∃ row ∈ note.driver, row.userId = userId ∧ row.isAvailable = isAvailable

/-- The calls of a rating, which writes back rows that it has read, with the availability
that it has read. -/
def allows (note : RowsRead) : Call → Prop
  | .rideFindById _ => True
  | .ratingExistsByRideIdAndFromUserId _ _ => True
  | .ratingSave _ => True
  | .driverFindById _ => True
  | .driverMerge driver => note.Shows driver.userId driver.isAvailable
  | .sadd userId => note.Shows userId true
  | .srem userId => note.Shows userId false
  | .userFindById _ => True
  | .userSave user => user.id ∈ note.users
  | _ => False

def after (note : RowsRead) : (call : Call) → Except Fault (Value call) → RowsRead
  | .driverFindById _, .ok found => { note with driver := found }
  | .driverFindById _, .error _ => { note with driver := none }
  | .userFindById _, .ok (some user) => { note with users := user.id :: note.users }
  | _, _ => note

/-- The rows that were read are stored. -/
structure Backed (note : RowsRead) (store : Store) : Prop where
  users : ∀ userId ∈ note.users, (store.users.find userId).isSome = true
  driver : ∀ row ∈ note.driver, (store.drivers.find row.userId).isSome = true

end RowsRead

/-- The monitor of a rating. -/
def grading : CallMonitor Value Fault RowsRead where
  start := {}
  allows := RowsRead.allows
  answers := fun _ _ => True
  after := RowsRead.after

/-- Begun with this note, the service makes the calls of a rating and ends as said. -/
abbrev Grades {α : Type} (note : RowsRead) (action : Service α)
    (returns : α → RowsRead → Prop) : Prop :=
  grading.Watches action (CallMonitor.Leaves returns fun _ _ => True) note

section Rules

variable {α β : Type} {note : RowsRead} {action : Service α}

theorem grades_bind {next : α → Service β} {middle : α → RowsRead → Prop}
    {final : β → RowsRead → Prop} (first : Grades note action middle)
    (second : ∀ result later, middle result later → Grades later (next result) final) :
    Grades note (action >>= next) final :=
  first.andThen second

theorem grades_guard {condition : Prop} [Decidable condition] {status : Nat}
    {detail : String} {returns : α → RowsRead → Prop} (goesOn : Grades note action returns) :
    Grades note (if condition then reject status detail else action) returns := by
  split
  · trivial
  · exact goesOn

/-- A call of a rating, and what follows it. -/
theorem grades_next {call : Call} {next : Value call → Service β}
    {final : β → RowsRead → Prop} (allowed : note.allows call)
    (goesOn : ∀ value, Grades (note.after call (.ok value)) (next value) final) :
    Grades note (Service.call call >>= next) final := by
  have calls : Grades note (Service.call call) fun value after =>
      after = note.after call (.ok value) :=
    CallMonitor.watches_perform allowed (fun _ _ => rfl) fun _ _ => trivial
  apply grades_bind calls
  rintro value _ rfl
  exact goesOn value

end Rules

section Rating

variable {note : RowsRead}

theorem getRide_grades (rideId : String) :
    Grades note (RideService.getRide rideId) fun _ _ => True := by
  unfold RideService.getRide
  apply grades_next
  · trivial
  · intro found
    cases found <;> trivial

theorem ratedUser_grades (ride : Ride) (fromUserId : String) :
    Grades note (RatingService.ratedUser ride fromUserId) fun _ _ => True := by
  unfold RatingService.ratedUser
  split
  · cases ride.driverId <;> trivial
  · split <;> trivial

theorem save_grades {driver : Driver} (read : note.Shows driver.userId driver.isAvailable) :
    Grades note (DriverRepository.save driver) fun _ _ => True := by
  unfold DriverRepository.save
  apply grades_next
  · exact read
  · intro saved
    split
    · rename_i available
      rw [available] at read
      apply grades_next
      · exact read
      · intros
        trivial
    · rename_i unavailable
      rw [Bool.not_eq_true] at unavailable
      rw [unavailable] at read
      apply grades_next
      · exact read
      · intros
        trivial

/-- The user is read and written back. -/
theorem countUser_grades (toUserId : String) (score : Int) :
    Grades note (RatingService.countUser toUserId score) fun _ _ => True := by
  unfold RatingService.countUser
  apply grades_next
  · trivial
  · intro found
    cases found with
    | none => trivial
    | some user =>
        apply grades_next
        · exact List.mem_cons_self
        · intro _
          trivial

theorem rate_grades (rideId fromUserId : String) (score : Int) (comment : Option String)
    (newId : String) (now : Timestamp) :
    Grades note (RatingService.rate rideId fromUserId score comment newId now)
      fun _ _ => True := by
  unfold RatingService.rate
  simp only [reject_bind]
  apply grades_guard
  apply grades_bind (getRide_grades rideId)
  intro ride later _
  apply grades_guard
  apply grades_bind (ratedUser_grades ride fromUserId)
  intro toUserId later _
  apply grades_next
  · trivial
  intro rated
  apply grades_guard
  apply grades_next
  · trivial
  intro _
  apply grades_next
  · trivial
  intro found
  cases found with
  | none => exact countUser_grades toUserId score
  | some driver =>
      apply grades_bind (save_grades ?_)
      · intro _ _ _
        exact countUser_grades toUserId score
      · exact ⟨driver, rfl, rfl, rfl⟩

end Rating

/-! ## One call of the rating -/

/-- The call writes no availability but the one that is there. -/
def Call.Confirms (store : Store) : Call → Prop
  | .driverMerge driver =>
      (store.drivers.find driver.userId).map Driver.isAvailable = some driver.isAvailable
  | .sadd userId => userId ∈ store.available
  | .srem userId => userId ∉ store.available
  | _ => True

/-- The store to which the call writes has the availability that these rows have: the
drivers' table when the call writes there, the availability set when it writes there. -/
def Call.FindsAsSeen (seen : String → Option Driver) (store : Store) : Call → Prop
  | .driverMerge driver => ∀ row ∈ seen driver.userId,
      ∀ stored ∈ store.drivers.find driver.userId, stored.isAvailable = row.isAvailable
  | .sadd userId => ∀ row ∈ seen userId,
      (userId ∈ store.available ↔ row.isAvailable = true)
  | .srem userId => ∀ row ∈ seen userId,
      (userId ∈ store.available ↔ row.isAvailable = true)
  | _ => True

instance (seen : String → Option Driver) (store : Store) (call : Call) :
    Decidable (call.FindsAsSeen seen store) := by
  unfold Call.FindsAsSeen
  split <;> infer_instance

/-- Every driver is available in both stores or in neither, by both accounts. -/
structure Store.SameAvailability (store store' : Store) : Prop where
  drivers : ∀ userId, (store.drivers.find userId).map Driver.isAvailable =
    (store'.drivers.find userId).map Driver.isAvailable
  available : store.available = store'.available

section Calls

variable {P : Platform} {pid : Nat} {broken : Option Fault} {note : RowsRead}
variable {store store' after : Store}

theorem availability_of_rel {found found' : Option Driver}
    (rows : Option.Rel Driver.Alike found found') :
    found.map Driver.isAvailable = found'.map Driver.isAvailable := by
  cases rows with
  | none => rfl
  | some same => exact congrArg some same.isAvailable

/-- Overwriting a row with one of the same availability. -/
theorem rel_of_confirms {driver : Driver} {found found' : Option Driver}
    (rows : Option.Rel Driver.Alike found found')
    (ids : ∀ row, found = some row → row.userId = driver.userId)
    (confirmed : found.map Driver.isAvailable = some driver.isAvailable) :
    Option.Rel Driver.Alike (some driver) found' := by
  cases rows with
  | none => cases confirmed
  | some same =>
      apply Option.Rel.some
      exact ⟨(ids _ rfl).symm.trans same.userId,
        (Option.some.inj confirmed).symm.trans same.isAvailable⟩

theorem Store.Alike.sameAvailability (alike : store.Alike store') :
    store.SameAvailability store' where
  drivers userId := availability_of_rel (alike.drivers userId)
  available := alike.available

theorem RowsRead.Backed.mono (backed : note.Backed store)
    (users : ∀ userId, (store.users.find userId).isSome = true →
      (after.users.find userId).isSome = true)
    (drivers : ∀ userId, (store.drivers.find userId).isSome = true →
      (after.drivers.find userId).isSome = true) : note.Backed after :=
  ⟨fun userId mem => users userId (backed.users userId mem),
    fun row mem => drivers row.userId (backed.driver row mem)⟩

/-- What a rating has read stays stored, and so does what it reads. -/
theorem RowsRead.Backed.after_call {call : Call} {reply : Except Fault (Value call)}
    (kept : note.Backed after)
    (answered : (application P).answer pid broken call store = some (reply, after)) :
    (note.after call reply).Backed after := by
  have follows : Follows store after ⟨pid, .goOffline "", call, reply⟩ :=
    answer_follows answered
  unfold RowsRead.after
  split
  · refine ⟨kept.users, ?_⟩
    rintro row rfl
    have found := driverFindById_found answered
    apply follows.keeps_driver
    rw [KeyedTable.key_of_find found, found]
    rfl
  · exact ⟨kept.users, fun row mem => by cases mem⟩
  · rename_i userId user
    refine ⟨?_, kept.driver⟩
    have found := userFindById_found answered
    have row : (after.users.find user.id).isSome = true := by
      apply follows.keeps_user
      rw [KeyedTable.key_of_find found, found]
      rfl
    simp only [List.mem_cons, forall_eq_or_imp]
    exact ⟨row, kept.users⟩
  · exact kept

/-- A rating that confirms what it finds is not seen. -/
theorem confirming_spares {call : Call} {reply : Except Fault (Value call)}
    (backed : note.Backed store) (allowed : note.allows call)
    (confirms : broken = none → call.Confirms store)
    (answered : (application P).answer pid broken call store = some (reply, after))
    (alike : store.Alike store') : after.Alike store' := by
  cases broken with
  | some fault =>
      obtain ⟨_, _, rfl⟩ := Machine.answer_broken answered
      exact alike
  | none =>
      have confirmed := confirms rfl
      have performed : P.perform pid call store = some (reply, after) := answered
      cases call with
      | rideFindById _ | ratingExistsByRideIdAndFromUserId _ _ | driverFindById _
      | userFindById _ =>
          cases performed
          exact alike
      | ratingSave rating =>
          simp only [Platform.perform] at performed
          split at performed
          · cases performed
            exact alike
          · cases performed
            exact { alike with }
      | driverMerge driver =>
          simp only [Platform.perform] at performed
          split at performed
          · cases performed
            exact alike
          · cases performed
            refine { alike with drivers := ?_ }
            intro userId
            rw [KeyedTable.find_save]
            split
            · rename_i same
              subst same
              exact rel_of_confirms (alike.drivers driver.userId)
                (fun row found => KeyedTable.key_of_find found) confirmed
            · exact alike.drivers userId
      | sadd userId =>
          cases performed
          refine { alike with available := ?_ }
          rw [← alike.available]
          exact Finset.insert_eq_of_mem confirmed
      | srem userId =>
          cases performed
          refine { alike with available := ?_ }
          rw [← alike.available]
          exact Finset.erase_eq_of_notMem confirmed
      | userSave user =>
          simp only [Platform.perform] at performed
          split at performed
          · cases performed
            exact alike
          · rename_i users merged
            cases performed
            refine { alike with users := ?_ }
            intro userId
            rw [← alike.users, (UniqueTable.merge_eq_some merged).2, KeyedTable.find_save]
            split
            · rename_i same
              subst same
              have row := backed.users user.id allowed
              cases found : store.users.find user.id with
              | none =>
                  rw [found] at row
                  cases row
              | some _ => rfl
            · rfl
      | _ => exact allowed.elim

end Calls

/-! ## Runs -/

/-- The call that a task makes next. -/
def nextCall? (pool : ApplicationPool) (pid : Nat) : Option Call :=
  pool.tasks[pid]?.bind fun task =>
    match task.rest with
    | .done _ => none
    | .await call _ => some call

/-- Whenever the rating writes to a store of availability, this store has the driver as
available or not as the row of the driver said when the rating read it. -/
def AvailabilityAsRead (init : Store) (rating : Nat) (before : ApplicationPool)
    (event : ApplicationEvent) (_ : ApplicationPool) : Prop :=
  match event with
  | .step pid => pid = rating → ∀ call ∈ nextCall? before rating,
      call.FindsAsSeen (fun userId => driverSeen init rating userId before.world.log)
        before.world.state
  | _ => True

instance (init : Store) (rating : Nat) (before : ApplicationPool) (event : ApplicationEvent)
    (after : ApplicationPool) :
    Decidable (AvailabilityAsRead init rating before event after) := by
  unfold AvailabilityAsRead
  split <;> infer_instance

section Runs

variable {P : Platform} {init : Store} {pool next : ApplicationPool}
variable {event : ApplicationEvent} {events : List ApplicationEvent} {rating : Nat}

theorem RowsRead.Backed.step (pid : Nat)
    (backed : (grading.noteOf pid pool.world.log).Backed pool.world.state)
    (moved : (application P).next pool event = some next) :
    (grading.noteOf pid next.world.log).Backed next.world.state := by
  rcases (application P).next_cases moved with ⟨request, _, rfl⟩ |
    ⟨other, broken, advanced⟩ | ⟨elapsed, _, rfl⟩
  · exact backed
  · obtain ⟨request, call, resume, reply, after, _, answered, rfl⟩ :=
      (application P).advance_eq_some advanced
    have follows : Follows pool.world.state after ⟨other, .goOffline "", call, reply⟩ :=
      answer_follows answered
    have kept := backed.mono (fun _ row => follows.keeps_user row)
      fun _ row => follows.keeps_driver row
    simp only [CallMonitor.noteOf]
    split
    · exact kept.after_call answered
    · exact kept
  · exact ⟨backed.users, backed.driver⟩

theorem rowsRead_of_run (pid : Nat)
    (ran : (application P).run (Pool.start init) events = some pool) :
    (grading.noteOf pid pool.world.log).Backed pool.world.state := by
  have kept : ∀ (before : ApplicationPool) (event : ApplicationEvent)
      (after : ApplicationPool),
      (grading.noteOf pid before.world.log).Backed before.world.state →
        (application P).next before event = some after →
          (grading.noteOf pid after.world.log).Backed after.world.state :=
    fun _ _ _ backed moved => backed.step pid moved
  refine runSteps_invariant kept ?_ ran
  exact ⟨fun _ mem => absurd mem List.not_mem_nil, fun _ mem => by cases mem⟩

/-- Ratings are watched in every run. -/
theorem grading_of_run (ran : (application P).run (Pool.start init) events = some pool) :
    grading.Followed (fun request => request.isRate = true) (fun _ _ _ => True) pool := by
  apply CallMonitor.followed_of_run (fun _ => trivial) ?_ ran
  intro request rates
  cases request with
  | rate rideId fromUserId score comment newId now =>
      have grades : Grades grading.start
          (handler P (.rate rideId fromUserId score comment newId now)) fun _ _ => True := by
        apply grades_bind (rate_grades _ _ _ _ _ _)
        intro _ _ _
        trivial
      exact grades.mono fun _ _ _ => trivial
  | _ => cases rates

/-- The rating's call, and what the rating has read. -/
theorem rating_call {request : Request} {call : Call}
    {resume : Except Fault (Value call) →
      AwaitProgram Call (fun call => Except Fault (Value call)) Outcome}
    (ran : (application P).run (Pool.start init) events = some pool)
    (found : pool.tasks[rating]? = some ⟨request, .await call resume⟩)
    (rates : ∀ request, pool.requests[rating]? = some request → request.isRate = true) :
    (grading.noteOf rating pool.world.log).allows call ∧
      (grading.noteOf rating pool.world.log).Backed pool.world.state := by
  have served : pool.requests[rating]? = some request :=
    Pool.request_of_task found
  exact ⟨(grading_of_run ran).allows found (rates request served),
    rowsRead_of_run rating ran⟩

/-- The row of a driver that is in the note of a task is the one that the task has read. -/
theorem driverSeen_of_note (pid : Nat)
    (ran : (application P).run (Pool.start init) events = some pool) :
    ∀ row ∈ (grading.noteOf pid pool.world.log).driver,
      driverSeen init pid row.userId pool.world.log = some row := by
  apply runSteps_reached (fun _ mem => by cases mem) ?_ ran
  intro before middle event next ranBefore moved earlier
  rcases (application P).next_cases moved with ⟨request, _, rfl⟩ |
    ⟨other, broken, advanced⟩ | ⟨elapsed, _, rfl⟩
  · exact earlier
  · obtain ⟨request, call, resume, reply, after, _, answered, rfl⟩ :=
      (application P).advance_eq_some advanced
    intro row noted
    rw [driverSeen_cons]
    by_cases own : other = pid
    · simp only [CallMonitor.noteOf, if_pos own] at noted
      cases call with
      | driverFindById userId =>
          cases reply with
          | error fault => cases noted
          | ok found =>
              obtain rfl : found = some row := noted
              have stored := driverFindById_found answered
              have key : row.userId = userId := KeyedTable.key_of_find stored
              rw [storedDriver_of_run ranBefore] at stored
              simp only [Call.readsDriver, key, own, decide_true, Bool.and_true, if_true]
              exact stored
      | userFindById userId =>
          cases reply with
          | error fault => exact earlier row noted
          | ok found => cases found <;> exact earlier row noted
      | _ => exact earlier row noted
    · simp only [CallMonitor.noteOf, if_neg own] at noted
      simp only [own, decide_false, Bool.and_false, Bool.false_eq_true, if_false]
      exact earlier row noted
  · exact earlier

/-- A call that writes the availability that was read, where it finds this availability. -/
theorem confirms_of_findsAsSeen {call : Call} {note : RowsRead} {store : Store}
    {seen : String → Option Driver} (allowed : note.allows call) (backed : note.Backed store)
    (noted : ∀ row ∈ note.driver, seen row.userId = some row)
    (asSeen : call.FindsAsSeen seen store) : call.Confirms store := by
  cases call with
  | driverMerge driver =>
      obtain ⟨row, mem, key, flag⟩ := allowed
      obtain ⟨stored, found⟩ := Option.isSome_iff_exists.mp (backed.driver row mem)
      rw [key] at found
      have same := asSeen row (key ▸ noted row mem) stored found
      simp only [Call.Confirms, found, Option.map_some, same, flag]
  | sadd userId =>
      obtain ⟨row, mem, key, flag⟩ := allowed
      exact (asSeen row (key ▸ noted row mem)).mpr flag
  | srem userId =>
      obtain ⟨row, mem, key, flag⟩ := allowed
      intro listed
      have available := (asSeen row (key ▸ noted row mem)).mp listed
      rw [flag] at available
      cases available
  | _ => trivial

/-- One call of the rating is not seen if it finds the availability that was read. -/
theorem spared_of_asRead
    (ran : (application P).run (Pool.start init) events = some pool)
    (rates : ∀ request, pool.requests[rating]? = some request → request.isRate = true)
    (asRead : AvailabilityAsRead init rating pool event next)
    (moved : (application P).next pool event = some next) :
    (availabilityLikeness P).Spares rating pool event next := by
  intro performs store' alike
  have spared : ∀ {broken : Option Fault},
      (application P).advance pool rating broken = some next →
      (broken = none → ∀ call ∈ nextCall? pool rating, call.FindsAsSeen
        (fun userId => driverSeen init rating userId pool.world.log) pool.world.state) →
        next.world.state.Alike store' := by
    intro broken advanced finds
    obtain ⟨request, call, resume, reply, after, found, answered, rfl⟩ :=
      (application P).advance_eq_some advanced
    obtain ⟨allowed, backed⟩ := rating_call ran found rates
    have nextCall : nextCall? pool rating = some call := by
      rw [nextCall?, found]
      rfl
    exact confirming_spares backed allowed
      (fun unbroken => confirms_of_findsAsSeen allowed backed (driverSeen_of_note rating ran)
        (finds unbroken call nextCall)) answered alike
  cases event with
  | spawn request => cases performs
  | step pid =>
      obtain rfl : pid = rating := of_decide_eq_true performs
      exact spared moved fun _ => asRead rfl
  | fault pid fault =>
      obtain rfl : pid = rating := of_decide_eq_true performs
      exact spared moved fun unbroken => by cases unbroken
  | ambient elapsed => cases performs

/-- Take one rating out of a schedule of requests that go by availability.  If the
availability of the driver is, at each write of the rating, what the rating has read, then
without the rating everybody ends with the same availability, in both stores. -/
theorem rating_unseen {rideId fromUserId newId : String} {score : Int}
    {comment : Option String} {now : Timestamp}
    (ran : (application P).run (Pool.start init) events = some pool)
    (rates : pool.requests[rating]? =
      some (.rate rideId fromUserId score comment newId now))
    (others : ∀ pid request, pool.requests[pid]? = some request → pid ≠ rating →
      request.goesByAvailability = true)
    (asRead : EveryStep (application P).next (AvailabilityAsRead init rating)
      (Pool.start init) events) :
    ∃ without, (application P).run (Pool.start init) (withoutTask rating 0 events) =
        some without ∧
      pool.world.state.SameAvailability without.world.state := by
  have spares : EveryStep (application P).next ((availabilityLikeness P).Spares rating)
      (Pool.start init) events := by
    intro earlier event later reached next split ranEarlier moved
    have ranAll : (application P).run reached (event :: later) = some pool := by
      rw [split, Machine.run, runSteps_append, ranEarlier] at ran
      exact ran
    apply spared_of_asRead ranEarlier ?_
      (asRead earlier event later reached next split ranEarlier moved) moved
    intro request served
    have same := request_kept (requests_prefix_run ranAll) served
    rw [rates] at same
    cases same
    rfl
  have blind : ∀ pid request, pool.requests[pid]? = some request → pid ≠ rating →
      (availabilityLikeness P).Blind request := by
    intro pid request served other
    exact blind_of_goesByAvailability (others pid request served other)
  have start : (availabilityLikeness P).LeavesOut rating
      (Pool.start init : ApplicationPool) (Pool.start init) :=
    ⟨Store.Alike.refl init, List.Forall₂.nil⟩
  obtain ⟨without, ranWithout, leaves⟩ := start.run blind spares ran
  exact ⟨without, ranWithout, leaves.states.sameAvailability⟩

end Runs

namespace SmallCity

/-- Dan has driven Ann, and both drivers are available. -/
def storeAfterRide : Store :=
  { store with
    rides := ⟨[{ riderId := "u1", pickupLat := centre, pickupLng := centre,
                 dropoffLat := centre, dropoffLng := centre, id := "r1",
                 driverId := some "u3", status := .completed, requestedAt := 0 }],
      by decide⟩
    available := {"u3", "u4"} }

/-- Run a schedule after the ride. -/
def playAfterRide (events : List ApplicationEvent) : Option ApplicationPool :=
  (application platform).run (Pool.start storeAfterRide) events

/-- Ann rates Dan. -/
def annRates : Request :=
  .rate "r1" "u1" 5 none "k1" 100

/-- A driver goes offline while the rating is between its read and its write. -/
def offlineDuringRate (driverId : String) : List ApplicationEvent :=
  [.spawn annRates, .spawn (.goOffline driverId)] ++
    steps 0 4 ++ steps 1 6 ++ steps 0 4

/-- The rating puts Dan, who has gone offline, back among the available drivers. -/
theorem offlineDuringRate_undone :
    ∃ pool, playAfterRide (offlineDuringRate "u3") = some pool ∧
      pool.requests = [annRates, .goOffline "u3"] ∧ pool.Quiescent ∧
      (pool.world.state.drivers.find "u3").map Driver.isAvailable = some true ∧
      "u3" ∈ pool.world.state.available ∧
      ∃ without, playAfterRide (withoutTask 0 0 (offlineDuringRate "u3")) = some without ∧
        without.requests = [.goOffline "u3"] ∧ without.Quiescent ∧
        (without.world.state.drivers.find "u3").map Driver.isAvailable = some false ∧
        "u3" ∉ without.world.state.available := by
  obtain ⟨pool, played, checked⟩ := Option.map_eq_some_iff.mp
    (by decide +kernel : (playAfterRide (offlineDuringRate "u3")).map (fun pool =>
      decide (pool.requests = [annRates, .goOffline "u3"] ∧ pool.Quiescent ∧
      (pool.world.state.drivers.find "u3").map Driver.isAvailable = some true ∧
      "u3" ∈ pool.world.state.available ∧
      ∃ without ∈ playAfterRide (withoutTask 0 0 (offlineDuringRate "u3")),
        without.requests = [.goOffline "u3"] ∧ without.Quiescent ∧
        (without.world.state.drivers.find "u3").map Driver.isAvailable = some false ∧
        "u3" ∉ without.world.state.available)) = some true)
  exact ⟨pool, played, of_decide_eq_true checked⟩

/-- Eve goes offline during the same rating. -/
theorem eveOfflineDuringRate_unseen :
    ∃ pool, playAfterRide (offlineDuringRate "u4") = some pool ∧
      ∃ without, playAfterRide (withoutTask 0 0 (offlineDuringRate "u4")) = some without ∧
        pool.world.state.SameAvailability without.world.state := by
  obtain ⟨pool, played, checked⟩ := Option.map_eq_some_iff.mp
    (by decide +kernel : (playAfterRide (offlineDuringRate "u4")).map (fun pool =>
      decide (pool.requests = [annRates, .goOffline "u4"])) = some true)
  have requests : pool.requests = [annRates, .goOffline "u4"] := of_decide_eq_true checked
  have rates : pool.requests[0]? = some annRates := by
    rw [requests]
    rfl
  have others : ∀ pid request, pool.requests[pid]? = some request → pid ≠ 0 →
      request.goesByAvailability = true := by
    intro pid request served other
    rw [requests] at served
    match pid, other with
    | 1, _ =>
        cases served
        rfl
    | pid + 2, _ => simp at served
  have asRead : EveryStep (application platform).next (AvailabilityAsRead storeAfterRide 0)
      (Pool.start storeAfterRide) (offlineDuringRate "u4") := by
    decide +kernel
  exact ⟨pool, played, rating_unseen played rates others asRead⟩

end SmallCity

end RideHailing
