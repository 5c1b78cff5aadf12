import RideHailing.ActiveRides
import RideHailing.DeploymentStreams
import RideHailing.LocationConduct
import RideHailing.RowNames

/-!
# Who learns where a driver is

A location event is emitted on the key of the ride that the update has found, and reaches
the stream that this key refers to.  The stream was opened on the same key: by the ride's
rider, or by a driver who waits for offers.  The latter's key is a user's, and no ride has
it.  Whatever became of the ride, the registry and the driver in between, each event on a
ride's queue was therefore posted while the ride was being served.
-/

namespace RideHailing

open EventStreams

variable {P : Platform} {W : Wiring} {start : Deployment}
variable {events later : List DeploymentEvent} {pool pool' final : DeploymentPool}

/-- In this state of the run the task makes its next call. -/
def StepsAt (P : Platform) (W : Wiring) (start : Deployment) (events : List DeploymentEvent)
    (moment : DeploymentPool) (pid : Nat) : Prop :=
  ∃ before after, events = before ++ .step pid :: after ∧
    Deployment.run P W (Pool.start start) before = some moment

/-- In this state the task's next call is this one. -/
def Pool.Calls (pool : DeploymentPool) (pid : Nat) (request : Request ⊕ Errand)
    (call : DeploymentCall) : Prop :=
  ∃ resume, pool.tasks[pid]? = some ⟨request, .await call resume⟩

/-- At some moment of the run the driver posts where he is: his request looks for the
ride that he serves, and this one is stored with him as its driver, MATCHED or
IN_PROGRESS. -/
def PostsServing (P : Platform) (W : Wiring) (start : Deployment)
    (events : List DeploymentEvent) (driverId : String) (lat lng : Float64) (ride : Ride) :
    Prop :=
  ∃ moment pid, StepsAt P W start events moment pid ∧
    moment.Calls pid (.inl (.updateLocation driverId lat lng))
      (.inl (.rideFindFirstByDriverIdAndStatusIn driverId servingRideStatuses)) ∧
    moment.world.state.store.rides.find ride.id = some ride ∧
    ride.driverId = some driverId ∧ (ride.status = .matched ∨ ride.status = .inProgress)

/-- At some moment of the run a request of this user to track this ride opens the stream
of this number. -/
def OpensTracking (P : Platform) (W : Wiring) (start : Deployment)
    (events : List DeploymentEvent) (index : Nat) (rideId userId : String) : Prop :=
  ∃ moment pid, StepsAt P W start events moment pid ∧
    moment.Calls pid (.inr (.streamDriverLocation rideId userId)) (.inr (.openStream rideId)) ∧
    moment.world.state.board.streams.length = index

/-! ## Where the calls in the history come from -/

theorem next_log {event : DeploymentEvent}
    (moved : Deployment.next P W pool event = some pool')
    {entry : Entry DeploymentValue Fault (Request ⊕ Errand)}
    (new : entry ∉ pool.world.log) (logged : entry ∈ pool'.world.log)
    (succeeded : ∀ fault, entry.reply ≠ .error fault) :
    event = .step entry.pid ∧ pool.Calls entry.pid entry.request entry.call ∧
      ∃ state, (deployment P W).answer entry.pid none entry.call pool.world.state =
        some (entry.reply, state) := by
  have machineMoved := machine_next_of_next moved
  cases event with
  | spawn request =>
      rw [(deployment P W).next_spawn machineMoved] at logged
      exact absurd logged new
  | step pid =>
      obtain ⟨request, call, resume, reply, state, found, answered, rfl⟩ :=
        (deployment P W).advance_eq_some machineMoved
      rcases List.mem_cons.mp logged with rfl | old
      · exact ⟨rfl, ⟨resume, found⟩, state, answered⟩
      · exact absurd old new
  | fault pid fault =>
      obtain ⟨request, call, resume, reply, state, found, answered, rfl⟩ :=
        (deployment P W).advance_eq_some machineMoved
      rcases List.mem_cons.mp logged with rfl | old
      · obtain ⟨_, failed, _⟩ := Machine.answer_broken answered
        exact absurd failed (succeeded fault)
      · exact absurd old new
  | ambient change =>
      cases machineMoved
      exact absurd logged new

/-- A call that has succeeded was made by its task at some moment of the run. -/
theorem made_of_logged (ran : Deployment.run P W (Pool.start start) events = some pool)
    {entry : Entry DeploymentValue Fault (Request ⊕ Errand)} (logged : entry ∈ pool.world.log)
    (succeeded : ∀ fault, entry.reply ≠ .error fault) :
    ∃ moment, StepsAt P W start events moment entry.pid ∧
      moment.Calls entry.pid entry.request entry.call ∧
      ∃ state, (deployment P W).answer entry.pid none entry.call moment.world.state =
        some (entry.reply, state) := by
  have absent : entry ∉ (Pool.start start : DeploymentPool).world.log := by
    simp [Pool.start]
  obtain ⟨before, event, after, moment, next, split, ranBefore, moved, new, here⟩ :=
    @runSteps_arises _ _ _ (fun pool : DeploymentPool => entry ∈ pool.world.log) _ _ _
      absent ran logged
  obtain ⟨rfl, calls, answered⟩ := next_log moved new here succeeded
  exact ⟨moment, ⟨before, after, split, ranBefore⟩, calls, answered⟩

/-! ## Rows that stay -/

theorem Inside.users {init : Store} {guest : ApplicationPool}
    (inside : Inside P W init pool guest) :
    guest.world.state.users = pool.world.state.store.users := by
  rw [inside.mirrors.shares.tables]
  rfl

theorem Inside.rides {init : Store} {guest : ApplicationPool}
    (inside : Inside P W init pool guest) :
    guest.world.state.rides = pool.world.state.store.rides := by
  rw [inside.mirrors.shares.tables]
  rfl

/-- What goes on in the process goes on in the application. -/
theorem Inside.run {init : Store} {guest : ApplicationPool}
    (inside : Inside P W init pool guest) (ran : Deployment.run P W pool later = some final) :
    ∃ guestLater more, (application P).run guest more = some guestLater ∧
      Inside P W init final guestLater := by
  apply runSteps_invariant ?_ ⟨guest, [], rfl, inside⟩ ran
  rintro middle event next ⟨reached, more, ranMore, insideMiddle⟩ moved
  obtain ⟨guestNext, further, ranFurther, insideNext⟩ := insideMiddle.next moved
  refine ⟨guestNext, more ++ further, ?_, insideNext⟩
  rw [Machine.run, runSteps_append]
  exact Option.bind_eq_some_iff.mpr ⟨reached, ranMore, ranFurther⟩

/-- Users and rides are never removed, and a ride keeps its rider. -/
structure Store.Keeps (before after : Store) : Prop where
  users : ∀ userId, before.users.find userId ≠ none → after.users.find userId ≠ none
  rides : ∀ rideId ride, before.rides.find rideId = some ride →
    ∃ later, after.rides.find rideId = some later ∧ later.riderId = ride.riderId

theorem keeps_of_run (unlocked : start.store.acceptLock = none)
    (ran : Deployment.run P W (Pool.start start) events = some pool)
    (ranLater : Deployment.run P W pool later = some final) :
    pool.world.state.store.Keeps final.world.state.store := by
  obtain ⟨guest, inside⟩ := inside_of_run ran
  obtain ⟨guestLater, more, ranMore, insideLater⟩ := inside.run ranLater
  obtain ⟨_, ranGuest⟩ := inside.reached
  obtain ⟨_, ranGuestLater⟩ := insideLater.reached
  have described : Describes start.store guest.world := (reached_valid unlocked ranGuest).good.1
  have validLater := reached_valid unlocked ranGuestLater
  have describedLater : Describes start.store guestLater.world := validLater.good.1
  have lawful : Lawful (law start.store) guestLater.world.log := validLater.good.2
  obtain ⟨news, grown⟩ := log_grows ranMore
  constructor
  · intro userId stored
    rw [← inside.users, described.users] at stored
    rw [← insideLater.users, describedLater.users, grown]
    exact latest_append_ne_none stored
  · intro rideId ride stored
    rw [← inside.rides, described.rides] at stored
    have ever : EverRide start.store rideId guestLater.world.log ride := by
      rw [grown]
      exact (ever_of_latest stored).append
    obtain ⟨last, storedLast⟩ := Option.ne_none_iff_exists'.mp ever.latest_ne_none
    refine ⟨last, ?_, EverRide.riderId_eq lawful (ever_of_latest storedLast) ever⟩
    rw [← insideLater.rides, describedLater.rides]
    exact storedLast

/-- The moment's rows are kept until the end. -/
theorem StepsAt.keeps {moment : DeploymentPool} {pid : Nat}
    (unlocked : start.store.acceptLock = none)
    (stepsAt : StepsAt P W start events moment pid)
    (ran : Deployment.run P W (Pool.start start) events = some final) :
    moment.world.state.store.Keeps final.world.state.store := by
  obtain ⟨before, after, rfl, ranBefore⟩ := stepsAt
  rw [Deployment.run, runSteps_append] at ran
  obtain ⟨middle, ranMiddle, rest⟩ := Option.bind_eq_some_iff.mp ran
  obtain rfl : moment = middle := Option.some.inj (ranBefore.symm.trans ranMiddle)
  exact keeps_of_run unlocked ranBefore rest

/-- No ride has the identifier of a user. -/
theorem ride_is_no_user (unlocked : start.store.acceptLock = none)
    (apart : ∀ name, start.store.rides.find name ≠ none → start.store.users.find name = none)
    (ran : Deployment.run P W (Pool.start start) events = some pool) {name : String}
    (isRide : pool.world.state.store.rides.find name ≠ none) :
    pool.world.state.store.users.find name = none := by
  obtain ⟨guest, inside⟩ := inside_of_run ran
  obtain ⟨_, ranGuest⟩ := inside.reached
  rw [← inside.rides] at isRide
  rw [← inside.users]
  exact rides_apart_of_run unlocked apart ranGuest name isRide

/-! ## Streams of offers -/

/-- `stream_offers` is asked for by a user, as the route's dependencies find him. -/
def OffersToUser (pool : DeploymentPool) (event : DeploymentEvent) (_ : DeploymentPool) :
    Prop :=
  match event with
  | .spawn (.inr (.streamOffers userId)) => pool.world.state.store.users.find userId ≠ none
  | _ => True

instance (pool : DeploymentPool) (event : DeploymentEvent) (next : DeploymentPool) :
    Decidable (OffersToUser pool event next) := by
  unfold OffersToUser
  split <;> infer_instance

/-- Whoever waits for offers is a user. -/
def WaitersAreUsers (pool : DeploymentPool) : Prop :=
  ∀ userId, .inr (.streamOffers userId) ∈ pool.requests →
    pool.world.state.store.users.find userId ≠ none

theorem waitersAreUsers_of_run (unlocked : start.store.acceptLock = none)
    (toUsers : EveryStep (Deployment.next P W) OffersToUser (Pool.start start) events) :
    Always (Deployment.next P W) WaitersAreUsers (Pool.start start) events := by
  refine always_of_everyStep ?_ ?_ toUsers
  · intro userId waits
    cases waits
  · intro before event after middle next split ranBefore moved waiters toUser userId waits
    have ranStep : Deployment.run P W middle [event] = some next := by
      rw [Deployment.run, runSteps_cons, moved]
      rfl
    have keeps := keeps_of_run unlocked ranBefore ranStep
    rcases (deployment P W).next_cases (machine_next_of_next moved) with
      ⟨request, rfl, rfl⟩ | ⟨pid, broken, advanced⟩ | ⟨change, _, rfl⟩
    · simp only [Pool.requests, List.map_append, List.mem_append, List.map_cons, List.map_nil,
        List.mem_singleton] at waits
      rcases waits with old | rfl
      · exact waiters userId old
      · exact toUser
    · rw [(deployment P W).requests_advance advanced] at waits
      exact keeps.users userId (waiters userId waits)
    · exact keeps.users userId (waiters userId waits)

/-! ## What is put on a queue, and who opened its stream -/

/-- A location gets on a queue by a task that emits it on the key of the queue. -/
theorem placed_of_next {event : DeploymentEvent} {index : Nat} {payload : Payload}
    (aligned : pool.world.state.board.Aligned)
    (moved : Deployment.next P W pool event = some pool')
    (new : ("driver_location", payload) ∉ pool.world.state.board.events index)
    (placed : ("driver_location", payload) ∈ pool'.world.state.board.events index) :
    ∃ key pid request, pool.world.state.board.registry.emitterOf key = some index ∧
      pool.Calls pid request (.inl (.sseEmit key "driver_location" payload)) := by
  have emits : ∀ {step : Option (StreamStep Payload)},
      pool.world.state.board.Moves step pool'.world.state.board →
        ∃ key, pool.world.state.board.registry.emitterOf key = some index ∧
          step = some (.emits key "driver_location" payload) := by
    intro step moves
    rcases moves with same | ⟨action, rfl, stepped⟩
    · rw [same] at placed
      exact absurd placed new
    · rcases events_step aligned stepped index with same |
        ⟨key, name, emitted, rfl, refers, added⟩
      · rw [same] at placed
        exact absurd placed new
      · rw [added] at placed
        rcases List.mem_append.mp placed with old | here
        · exact absurd old new
        · cases List.mem_singleton.mp here
          exact ⟨key, refers, rfl⟩
  rcases (deployment P W).next_cases (machine_next_of_next moved) with
    ⟨_, _, rfl⟩ | ⟨pid, broken, advanced⟩ | ⟨change, _, rfl⟩
  · exact absurd placed new
  · obtain ⟨request, call, resume, reply, state, found, answered, rfl⟩ :=
      (deployment P W).advance_eq_some advanced
    obtain ⟨key, refers, stepEq⟩ := emits (answer_moves answered)
    refine ⟨key, pid, request, refers, ?_⟩
    cases call with
    | inl call =>
        cases call with
        | sseEmit other name emitted =>
            cases stepEq
            exact ⟨resume, found⟩
        | _ => cases stepEq
    | inr call => cases call <;> cases stepEq
  · -- What happens on its own emits no location.
    obtain ⟨key, _, stepEq⟩ := emits (passing_moves change)
    cases change with
    | forwardOffer =>
        obtain ⟨offer, _, same⟩ := Option.map_eq_some_iff.mp stepEq
        simp at same
    | _ => cases stepEq

/-- The board has a stream of this number and key. -/
def HasStream (index : Nat) (key : String) (pool : DeploymentPool) : Prop :=
  ∃ stream, pool.world.state.board.streams[index]? = some stream ∧ stream.key = key

/-- A stream is opened by a task on its own key. -/
theorem opened_of_next {event : DeploymentEvent} {index : Nat} {key : String}
    (moved : Deployment.next P W pool event = some pool') (new : ¬ HasStream index key pool)
    (present : HasStream index key pool') :
    ∃ pid request, event = .step pid ∧ pool.Calls pid request (.inr (.openStream key)) ∧
      pool.world.state.board.streams.length = index := by
  obtain ⟨stream, found, rfl⟩ := present
  have steps := next_board moved
  have opens : ∀ action, pool.world.state.board.step action = some pool'.world.state.board →
      action = .opens stream.key := by
    intro action stepped
    by_contra other
    obtain ⟨old, foundOld, keyEq, _⟩ := stream_of_step other stepped found rfl
    exact new ⟨old, foundOld, keyEq⟩
  cases moveEq : Deployment.streamMove pool event with
  | none =>
      rw [moveEq] at steps
      have same : pool.world.state.board = pool'.world.state.board := Option.some.inj steps
      rw [← same] at found
      exact absurd ⟨stream, found, rfl⟩ new
  | some action =>
      rw [moveEq] at steps
      obtain ⟨board, stepped, ended⟩ := Option.bind_eq_some_iff.mp steps
      obtain rfl : board = pool'.world.state.board := Option.some.inj ended
      obtain rfl := opens action stepped
      have position : pool.world.state.board.streams.length = index := by
        have opened : pool'.world.state.board = pool.world.state.board.opening stream.key :=
          (Option.some.inj stepped).symm
        by_contra elsewhere
        rw [opened] at found
        rcases getElem?_concat_cases found with earlier | ⟨same, _⟩
        · exact new ⟨stream, earlier, rfl⟩
        · exact elsewhere same.symm
      cases event with
      | spawn request => cases moveEq
      | fault pid fault => cases moveEq
      | step pid =>
          obtain ⟨⟨request, rest⟩, foundTask, calls⟩ := Option.bind_eq_some_iff.mp moveEq
          refine ⟨pid, request, rfl, ?_, position⟩
          cases rest with
          | done outcome => cases calls
          | await call resume =>
              cases call with
              | inl call => cases call <;> cases calls
              | inr call =>
                  cases call with
                  | openStream key =>
                      cases calls
                      exact ⟨resume, foundTask⟩
                  | _ => cases calls
      | ambient change =>
          have steps := (Option.filter_eq_some_iff.mp moveEq).1
          cases change with
          | forwardOffer =>
              obtain ⟨offer, _, same⟩ := Option.map_eq_some_iff.mp steps
              cases same
          | _ => cases steps

/-! ## Runs -/

theorem hasStream_of_run {index : Nat} {key : String} (present : HasStream index key pool)
    (ran : Deployment.run P W pool later = some final) : HasStream index key final := by
  apply runSteps_invariant ?_ present ran
  rintro middle event next ⟨stream, found, rfl⟩ moved
  obtain ⟨step, moves⟩ := next_moves moved
  exact stream_kept_of_moves moves found

theorem requests_of_run {pid : Nat} {request : Request ⊕ Errand}
    (requested : pool.requests[pid]? = some request)
    (ran : Deployment.run P W pool later = some final) :
    final.requests[pid]? = some request := by
  refine @runSteps_invariant _ _ _
    (fun pool : DeploymentPool => pool.requests[pid]? = some request) ?_ _ _ _ requested ran
  intro middle event next here moved
  rcases (deployment P W).next_cases (machine_next_of_next moved) with
    ⟨other, _, rfl⟩ | ⟨actor, broken, advanced⟩ | ⟨change, _, rfl⟩
  · rw [Pool.requests] at here ⊢
    rw [List.map_append, List.getElem?_append_left (List.getElem?_eq_some_iff.mp here).1]
    exact here
  · rw [(deployment P W).requests_advance advanced]
    exact here
  · exact here

theorem Pool.Calls.request {pid : Nat} {request : Request ⊕ Errand} {call : DeploymentCall}
    (calls : pool.Calls pid request call) : pool.requests[pid]? = some request := by
  obtain ⟨resume, found⟩ := calls
  exact Pool.request_of_task found

theorem StepsAt.append {moment : DeploymentPool} {pid : Nat}
    (stepsAt : StepsAt P W start events moment pid) (later : List DeploymentEvent) :
    StepsAt P W start (events ++ later) moment pid := by
  obtain ⟨before, after, rfl, ran⟩ := stepsAt
  exact ⟨before, after ++ later, by simp, ran⟩

/-- The task is still serving the request that it served at the moment. -/
theorem StepsAt.request {moment : DeploymentPool} {pid : Nat} {request : Request ⊕ Errand}
    {call : DeploymentCall} (stepsAt : StepsAt P W start events moment pid)
    (calls : moment.Calls pid request call)
    (ran : Deployment.run P W (Pool.start start) events = some pool) :
    pool.requests[pid]? = some request := by
  obtain ⟨before, after, rfl, ranBefore⟩ := stepsAt
  rw [Deployment.run, runSteps_append] at ran
  obtain ⟨middle, ranMiddle, rest⟩ := Option.bind_eq_some_iff.mp ran
  obtain rfl : moment = middle := Option.some.inj (ranBefore.symm.trans ranMiddle)
  exact requests_of_run calls.request rest

theorem StepsAt.allows {moment : DeploymentPool} {pid : Nat} {request : Request ⊕ Errand}
    {call : DeploymentCall} (stepsAt : StepsAt P W start events moment pid)
    (calls : moment.Calls pid request call) :
    (sharingOf pid moment.world.log).allows request call := by
  obtain ⟨before, after, _, ranBefore⟩ := stepsAt
  obtain ⟨resume, found⟩ := calls
  exact allowed_of_run ranBefore found

/-- The ride that an update of a location has found, it has found while serving it. -/
theorem postsServing_of_served
    (ran : Deployment.run P W (Pool.start start) events = some pool)
    {pid : Nat} {driverId : String} {lat lng : Float64} {call : DeploymentCall}
    (calls : pool.Calls pid (.inl (.updateLocation driverId lat lng)) call) {ride : Ride}
    (serves : (sharingOf pid pool.world.log).serving = some ride) :
    PostsServing P W start events driverId lat lng ride := by
  obtain ⟨entry, logged, rfl, served⟩ := (foundIn_sharingOf pid pool.world.log).serving ride serves
  obtain ⟨pid, request, call, reply⟩ := entry
  cases call with
  | inr call => cases served
  | inl call =>
      cases call with
      | rideFindFirstByDriverIdAndStatusIn otherId statuses =>
          cases reply with
          | error fault => cases served
          | ok serving =>
              obtain rfl : serving = some ride := served
              obtain ⟨moment, stepsAt, looksUp, state, answered⟩ :=
                made_of_logged ran logged (by simp)
              obtain ⟨rfl, otherLat, otherLng, rfl⟩ := stepsAt.allows looksUp
              have sameRequest := (stepsAt.request looksUp ran).symm.trans calls.request
              cases sameRequest
              rcases answer_inl answered with ⟨store, _, performed, _⟩ | ⟨_, broken, _⟩
              · obtain ⟨found, -⟩ := Prod.mk.inj (Option.some.inj performed)
                have rideMem := P.firstRow_mem (Except.ok.inj found)
                simp only [List.mem_filter, Bool.and_eq_true, decide_eq_true_eq] at rideMem
                obtain ⟨stored, ofDriver, status⟩ := rideMem
                refine ⟨moment, _, stepsAt, looksUp, KeyedTable.mem_rows_iff_find.mp stored,
                  ofDriver, ?_⟩
                simpa [servingRideStatuses] using status
              · cases broken
      | _ => cases served

/-- The ride that a task has looked up was stored so. -/
theorem stored_of_found (ran : Deployment.run P W (Pool.start start) events = some pool)
    {pid : Nat} {ride : Ride} (finds : (sharingOf pid pool.world.log).found = some ride) :
    ∃ moment actor, StepsAt P W start events moment actor ∧
      moment.world.state.store.rides.find ride.id = some ride := by
  obtain ⟨entry, logged, rfl, found⟩ := (foundIn_sharingOf pid pool.world.log).found ride finds
  obtain ⟨pid, request, call, reply⟩ := entry
  cases call with
  | inr call => cases found
  | inl call =>
      cases call with
      | rideFindById rideId =>
          cases reply with
          | error fault => cases found
          | ok row =>
              obtain rfl : row = some ride := found
              obtain ⟨moment, stepsAt, _, state, answered⟩ :=
                made_of_logged ran logged (by simp)
              rcases answer_inl answered with ⟨store, _, performed, _⟩ | ⟨_, broken, _⟩
              · obtain ⟨same, -⟩ := Prod.mk.inj (Option.some.inj performed)
                have stored : moment.world.state.store.rides.find rideId = some ride :=
                  Except.ok.inj same
                refine ⟨moment, _, stepsAt, ?_⟩
                rw [KeyedTable.key_of_find stored]
                exact stored
              · cases broken
      | _ => cases found

/-- The stream of a ride is opened by the ride's rider. -/
theorem opensTracking_of_stream (unlocked : start.store.acceptLock = none)
    (fresh : start.board = EventStreams.empty)
    (apart : ∀ name, start.store.rides.find name ≠ none → start.store.users.find name = none)
    (toUsers : EveryStep (Deployment.next P W) OffersToUser (Pool.start start) events)
    (ran : Deployment.run P W (Pool.start start) events = some pool) {index : Nat} {ride : Ride}
    (present : HasStream index ride.id pool)
    (stored : pool.world.state.store.rides.find ride.id = some ride) :
    OpensTracking P W start events index ride.id ride.riderId := by
  have absent : ¬ HasStream index ride.id (Pool.start start) := by
    rintro ⟨stream, found, _⟩
    change start.board.streams[index]? = some stream at found
    simp [fresh, EventStreams.empty] at found
  obtain ⟨before, event, after, moment, next, rfl, ranBefore, moved, new, here⟩ :=
    runSteps_arises absent ran present
  obtain ⟨pid, request, rfl, calls, position⟩ := opened_of_next moved new here
  have stepsAt : StepsAt P W start (before ++ .step pid :: after) moment pid :=
    ⟨before, after, rfl, ranBefore⟩
  have keeps := stepsAt.keeps unlocked ran
  rcases stepsAt.allows calls with rfl | ⟨found, noted, sameId, rfl⟩
  · -- A driver waits for offers on his own key, which is no ride's.
    have waits : .inr (.streamOffers ride.id) ∈ moment.requests :=
      List.mem_of_getElem? calls.request
    have isUser := waitersAreUsers_of_run unlocked toUsers before _ moment rfl ranBefore _ waits
    have isRide : pool.world.state.store.rides.find ride.id ≠ none := by simp [stored]
    exact absurd (ride_is_no_user unlocked apart ran isRide) (keeps.users ride.id isUser)
  · obtain ⟨earlier, actor, looksUp, storedThen⟩ := stored_of_found ranBefore noted
    have keepsEarlier := (looksUp.append (.step pid :: after)).keeps unlocked ran
    obtain ⟨last, storedLast, sameRider⟩ := keepsEarlier.rides _ _ storedThen
    rw [← sameId, stored] at storedLast
    cases storedLast
    refine ⟨moment, pid, stepsAt, ?_, position⟩
    rw [sameRider]
    rwa [sameId] at calls ⊢

/-- In every run, whoever is interrupted by whom, every location event on a queue was
posted by a driver when the ride of the queue's stream had him as its driver and was
MATCHED or IN_PROGRESS, and the stream was opened by the ride's rider. -/
theorem locations_reach_rider_only (unlocked : start.store.acceptLock = none)
    (fresh : start.board = EventStreams.empty)
    (apart : ∀ name, start.store.rides.find name ≠ none → start.store.users.find name = none)
    (toUsers : EveryStep (Deployment.next P W) OffersToUser (Pool.start start) events)
    (ran : Deployment.run P W (Pool.start start) events = some pool)
    {index : Nat} {stream : EventStream Payload} {payload : Payload}
    (found : pool.world.state.board.streams[index]? = some stream)
    (placed : ("driver_location", payload) ∈ pool.world.state.board.events index) :
    ∃ driverId lat lng eta ride,
      payload = .driverLocation lat lng eta ∧ ride.id = stream.key ∧
        PostsServing P W start events driverId lat lng ride ∧
        OpensTracking P W start events index stream.key ride.riderId := by
  have alignedStart : start.board.Aligned := by
    rw [fresh]
    exact aligned_empty
  have absent : ("driver_location", payload) ∉
      (Pool.start start : DeploymentPool).world.state.board.events index := by
    change _ ∉ start.board.events index
    rw [fresh, events_of_missing (by simp [EventStreams.empty])]
    simp
  obtain ⟨before, event, after, moment, next, rfl, ranBefore, moved, new, here⟩ :=
    @runSteps_arises _ _ _ (fun pool : DeploymentPool =>
      ("driver_location", payload) ∈ pool.world.state.board.events index) _ _ _
      absent ran placed
  have aligned := Deployment.aligned_of_run ranBefore alignedStart
  obtain ⟨key, pid, request, refers, calls⟩ := placed_of_next aligned moved new here
  obtain ⟨resume, task⟩ := calls
  obtain ⟨driverId, lat, lng, eta, ride, rfl, serves, rfl, rfl⟩ := allowed_of_run ranBefore task rfl
  have posts := postsServing_of_served ranBefore ⟨resume, task⟩ serves
  obtain ⟨lookup, actor, stepsAt, looksUp, stored, ofDriver, status⟩ := posts
  have looksUpAt := stepsAt.append (event :: after)
  -- The stream of the key at that moment is the stream at the end.
  have presentThen : HasStream index ride.id moment := aligned.ownStream refers
  have present : HasStream index ride.id pool := by
    rw [Deployment.run, runSteps_append] at ran
    obtain ⟨middle, ranMiddle, rest⟩ := Option.bind_eq_some_iff.mp ran
    obtain rfl : moment = middle := Option.some.inj (ranBefore.symm.trans ranMiddle)
    exact hasStream_of_run presentThen rest
  obtain ⟨last, foundLast, sameKey⟩ := present
  obtain rfl : last = stream := Option.some.inj (foundLast.symm.trans found)
  obtain ⟨storedRide, storedLast, sameRider⟩ :=
    (looksUpAt.keeps unlocked ran).rides ride.id ride stored
  have storedId := KeyedTable.key_of_find storedLast
  refine ⟨driverId, lat, lng, eta, ride, rfl, sameKey.symm,
    ⟨lookup, actor, looksUpAt, looksUp, stored, ofDriver, status⟩, ?_⟩
  rw [sameKey, ← sameRider, ← storedId]
  apply opensTracking_of_stream unlocked fresh apart toUsers ran
  · rw [storedId]
    exact ⟨last, found, sameKey⟩
  · rw [storedId]
    exact storedLast

namespace SmallCity

/-- Eve serves the ride of ann, who tracks it, and tells where she is. -/
def eveIsTracked : List DeploymentEvent :=
  [.spawn (.inl (.goOnline "u4" centre centre))] ++ moves 0 5 ++
  [.spawn (.inl (wants "r1" "u1"))] ++ moves 1 8 ++
  [.spawn (.inl (.acceptRide "r1" "u4"))] ++ moves 2 9 ++
  [.spawn (.inr (.streamDriverLocation "r1" "u1")), .spawn (.inr (.streamOffers "u3"))] ++
  moves 3 2 ++ moves 4 1 ++
  [.spawn (.inl (.updateLocation "u4" market centre))] ++ moves 5 4

/-- Eve's location is on the queue of ann's stream, as it should be. -/
theorem eveIsTracked_by_rider :
    ∃ pool stream, playAll eveIsTracked = some pool ∧
      pool.world.state.board.streams[0]? = some stream ∧ stream.key = "r1" ∧
      ∃ driverId ride,
        PostsServing platform wiring (Deployment.opening store) eveIsTracked driverId
          market centre ride ∧
        OpensTracking platform wiring (Deployment.opening store) eveIsTracked 0 "r1"
          ride.riderId := by
  obtain ⟨pool, played, checked⟩ := Option.map_eq_some_iff.mp
    (by decide +kernel : (playAll eveIsTracked).map (fun pool =>
      decide (pool.world.state.board.streams[0]?.map EventStream.key = some "r1" ∧
        ("driver_location", Payload.driverLocation market centre 1) ∈
          pool.world.state.board.events 0)) = some true)
  obtain ⟨keyed, placed⟩ := of_decide_eq_true checked
  obtain ⟨stream, found, keyEq⟩ := Option.map_eq_some_iff.mp keyed
  have apart : ∀ name, (Deployment.opening store).store.rides.find name ≠ none →
      (Deployment.opening store).store.users.find name = none :=
    fun _ isRide => absurd rfl isRide
  obtain ⟨driverId, lat, lng, eta, ride, same, -, posts, opens⟩ :=
    locations_reach_rider_only rfl rfl apart (by decide +kernel) played found placed
  cases same
  rw [keyEq] at opens
  exact ⟨pool, stream, played, found, keyEq, driverId, ride, posts, opens⟩

end SmallCity

end RideHailing
