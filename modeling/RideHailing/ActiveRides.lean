import RideHailing.RequestGuarantees
import RideHailing.RideReports

/-!
# One active ride for each rider

`request_ride` looks for an active ride first and inserts much later, and an accept or a
start may write a row back over one that has ended.  A rider has one active ride at most
as long as nobody makes a ride of the rider active between that look and the insertion,
and nobody ends a ride between the moment at which a transition reads it and the moment
at which the transition writes it back as an active one.
-/

namespace RideHailing

open Service RideHailing.Action

variable {P : Platform} {init : Store}
variable {events : List ApplicationEvent} {pool : ApplicationPool}

/-- No rider has two active rides. -/
def Store.OneActive (store : Store) : Prop :=
  ∀ first ∈ store.rides.rows, ∀ second ∈ store.rides.rows,
    first.riderId = second.riderId → first.status ∈ activeRideStatuses →
      second.status ∈ activeRideStatuses → first.id = second.id

instance (store : Store) : Decidable store.OneActive := by
  unfold Store.OneActive
  infer_instance

/-! ## What the requests have looked up -/

/-- The task has looked for an active ride of the rider, and there was none. -/
def findsIdle (pid : Nat) (riderId : String) : HistoryEntry → Bool
  | ⟨other, _, .rideExistsByRiderIdAndStatusIn sought statuses, .ok active⟩ =>
      decide (other = pid ∧ sought = riderId ∧ statuses = activeRideStatuses) && !active
  | _ => false

/-- Nobody has committed an active ride of the rider since the task found that there was
none. -/
def IdleSinceFound (pid : Nat) (riderId : String) (older : History) : Prop :=
  ∀ other ∈ since (findsIdle pid riderId) older, ∀ row ∈ other.savedRide,
    row.riderId = riderId → row.status ∉ activeRideStatuses

instance (pid : Nat) (riderId : String) (older : History) :
    Decidable (IdleSinceFound pid riderId older) := by
  unfold IdleSinceFound
  infer_instance

/-- Nobody has committed the end of the ride since the task read it. -/
def ActiveSinceRead (pid : Nat) (rideId : String) (older : History) : Prop :=
  ∀ other ∈ since (rideReadBy pid rideId) older, ∀ row ∈ other.rideAt rideId,
    row.status ∈ activeRideStatuses

instance (pid : Nat) (rideId : String) (older : History) :
    Decidable (ActiveSinceRead pid rideId older) := by
  unfold ActiveSinceRead
  infer_instance

/-- An entry that inserts an active ride follows a look since which the rider has stayed
idle, and one that moves a ride on to an active status follows a read since which the
ride has stayed active. -/
def ActivatesInTime (entry : HistoryEntry) (older : History) : Prop :=
  ∀ ride ∈ entry.savedRide, ride.status ∈ activeRideStatuses →
    (entry.request.rideMoved = none → IdleSinceFound entry.pid ride.riderId older) ∧
    (entry.request.rideMoved = some ride.id → ActiveSinceRead entry.pid ride.id older)

instance (entry : HistoryEntry) (older : History) :
    Decidable (ActivatesInTime entry older) := by
  unfold ActivatesInTime
  infer_instance

/-- A look that found no active ride of the rider was right when it was taken. -/
def LooksRight (init : Store) (entry : HistoryEntry) (older : History) : Prop :=
  ∀ riderId rideId ride, findsIdle entry.pid riderId entry = true →
    storedRide init rideId older = some ride → ride.riderId = riderId →
      ride.status ∉ activeRideStatuses

theorem findsIdle_eq_true {pid : Nat} {riderId : String} {entry : HistoryEntry}
    (finds : findsIdle pid riderId entry = true) :
    ∃ request, entry = ⟨pid, request,
      .rideExistsByRiderIdAndStatusIn riderId activeRideStatuses, .ok false⟩ := by
  obtain ⟨other, request, call, reply⟩ := entry
  cases call with
  | rideExistsByRiderIdAndStatusIn sought statuses =>
      cases reply with
      | error fault => cases finds
      | ok active =>
          cases active with
          | true => simp [findsIdle] at finds
          | false =>
              simp only [findsIdle, Bool.not_false, Bool.and_true, decide_eq_true_eq] at finds
              obtain ⟨rfl, rfl, rfl⟩ := finds
              exact ⟨request, rfl⟩
  | _ => cases finds

theorem existsByRiderIdAndStatusIn_eq_false {store : Store} {riderId : String}
    {statuses : List RideStatus} :
    store.existsByRiderIdAndStatusIn riderId statuses = false ↔
      ∀ ride ∈ store.rides.rows, ride.riderId = riderId → ride.status ∉ statuses := by
  simp [Store.existsByRiderIdAndStatusIn]

theorem looksRight_of_run (unlocked : init.acceptLock = none)
    (ran : (application P).run (Pool.start init) events = some pool) :
    Lawful (LooksRight init) pool.world.log := by
  apply runSteps_reached trivial ?_ ran
  intro before middle event next ranBefore moved earlier
  rcases (application P).next_cases moved with
    ⟨_, _, rfl⟩ | ⟨pid, broken, advanced⟩ | ⟨_, _, rfl⟩
  · exact earlier
  · obtain ⟨request, call, resume, reply, state, _, answered, rfl⟩ :=
      (application P).advance_eq_some advanced
    refine ⟨?_, earlier⟩
    intro riderId rideId ride finds stored sameRider
    obtain ⟨_, shape⟩ := findsIdle_eq_true finds
    cases shape
    have performed := Machine.perform_of_answer answered
    simp only [application, Platform.perform, ok, Option.some.injEq, Prod.mk.injEq,
      Except.ok.injEq] at performed
    have described : Describes init middle.world := (reached_valid unlocked ranBefore).good.1
    rw [← described.rides rideId] at stored
    exact existsByRiderIdAndStatusIn_eq_false.mp performed.1 ride
      (KeyedTable.find_eq_some_iff.mp stored).1 sameRider
  · exact earlier

/-! ## A request for a ride looks first -/

/-- A request for a ride inserts it for a rider of whom it has been told that there is no
active ride. -/
def RequestReport.looksFirst (request : Request) (report : RequestReport) : Call → Prop
  | .rideSave ride => ∀ estimatedFare, request.requested estimatedFare = some ride →
      report.Learns (.rideExistsByRiderIdAndStatusIn ride.riderId activeRideStatuses) false
  | _ => True

theorem looksFirst_of_ordinary {request : Request} {call : Call}
    (ordinary : call.ordinary = true) (report : RequestReport) :
    report.looksFirst request call := by
  cases call with
  | rideSave ride => cases ordinary
  | _ => trivial

theorem requestRide_looksFirst (newId : String) (now : Timestamp) (riderId : String)
    (pickupLat pickupLng dropoffLat dropoffLng : Float64) :
    Informs (RequestReport.looksFirst
        (.requestRide newId now riderId pickupLat pickupLng dropoffLat dropoffLng)) []
      (RideService.requestRide P newId now riderId pickupLat pickupLng dropoffLat dropoffLng)
      fun _ _ => True := by
  unfold RideService.requestRide
  simp only [reject_bind]
  apply informs_bind (informs_call trivial)
  intro active asked _ learned
  cases active with
  | true => exact informs_raise _
  | false =>
      apply informs_bind (informs_of_only ((calculateFare_ordinary _).mono
        fun _ ordinary => looksFirst_of_ordinary ordinary))
      intro estimatedFare quoted grown _
      apply informs_bind (informs_call ?_)
      · intro saved stored _ _
        apply informs_bind (informs_call trivial)
        intro _ published _ _
        exact informs_pure trivial
      · intro fare inserts
        cases inserts
        exact grown learned

theorem handler_looksFirst (request : Request) :
    (transcribing (RequestReport.looksFirst request)).Watches
      ((application P).program request) (fun _ _ => True) [] := by
  refine CallMonitor.Watches.mono (?_ : Informs (RequestReport.looksFirst request) []
    (handler P request) fun _ _ => True) fun _ _ _ => trivial
  cases wanted : request.pickup with
  | some pickup =>
      cases request with
      | requestRide newId now riderId pickupLat pickupLng dropoffLat dropoffLng =>
          apply informs_bind (requestRide_looksFirst _ _ _ _ _ _ _)
          intro ride after _ _
          exact informs_pure trivial
      | _ => cases wanted
  | none =>
      apply (handler_rewrites wanted).weaken
      intro report call _
      cases call with
      | rideSave ride =>
          intro estimatedFare inserts
          cases request with
          | requestRide newId now riderId pickupLat pickupLng dropoffLat dropoffLng =>
              cases wanted
          | _ => cases inserts
      | _ => trivial

/-! ## One commit -/

/-- Saving an active row of a ride that stays with its rider, when the ride was active
before or the rider had no active ride. -/
theorem oneActive_save {store after : Store} {ride : Ride}
    (oneActive : store.OneActive) (saved : after.rides = store.rides.save ride)
    (sameRider : ∀ stored, store.rides.find ride.id = some stored →
      stored.riderId = ride.riderId)
    (alone : ride.status ∈ activeRideStatuses →
      (∃ stored, store.rides.find ride.id = some stored ∧
        stored.status ∈ activeRideStatuses) ∨
        ∀ other ∈ store.rides.rows, other.riderId = ride.riderId →
          other.status ∉ activeRideStatuses) :
    after.OneActive := by
  have newOld : ∀ other ∈ store.rides.rows, other.id ≠ ride.id →
      other.riderId = ride.riderId → ride.status ∈ activeRideStatuses →
        other.status ∈ activeRideStatuses → False := by
    intro other otherMem otherNe rider active otherActive
    rcases alone active with ⟨stored, found, storedActive⟩ | idle
    · have storedMem := (KeyedTable.find_eq_some_iff.mp found).1
      have storedId : stored.id = ride.id := KeyedTable.key_of_find found
      have storedRider := sameRider stored found
      apply otherNe
      rw [← storedId]
      exact oneActive other otherMem stored storedMem
        (rider.trans storedRider.symm) otherActive storedActive
    · exact idle other otherMem rider otherActive
  intro first firstMem second secondMem rider firstActive secondActive
  rw [saved, KeyedTable.mem_rows_save] at firstMem secondMem
  rcases firstMem with rfl | ⟨firstOld, firstNe⟩
  · rcases secondMem with rfl | ⟨secondOld, secondNe⟩
    · rfl
    · exact (newOld second secondOld secondNe rider.symm firstActive secondActive).elim
  · rcases secondMem with rfl | ⟨secondOld, secondNe⟩
    · exact (newOld first firstOld firstNe rider secondActive firstActive).elim
    · exact oneActive first firstOld second secondOld rider firstActive secondActive

theorem Moves.riderId {request : Request} {before after : Ride}
    (moves : Moves request before after) : after.riderId = before.riderId := by
  cases moves <;> rfl

/-- Only an active ride is moved on to an active status. -/
theorem Moves.active {request : Request} {before after : Ride}
    (moves : Moves request before after) (active : after.status ∈ activeRideStatuses) :
    before.status ∈ activeRideStatuses := by
  cases moves with
  | accept requested => simp [requested, activeRideStatuses]
  | start matched _ => simp [matched, activeRideStatuses]
  | complete _ _ => simp [activeRideStatuses] at active
  | cancel _ _ => simp [activeRideStatuses] at active

/-- All rows of a ride name the same rider. -/
theorem EverRide.riderId_eq {rideId : String} {log : History} {first second : Ride}
    (lawful : Lawful (law init) log) (everFirst : EverRide init rideId log first)
    (everSecond : EverRide init rideId log second) :
    first.riderId = second.riderId := by
  apply Ever.agree ?_ lawful everFirst everSecond
  intro entry older ride entryLawful _ saved
  rcases law_rideAt entryLawful saved with ⟨_, _, absent⟩ | ⟨_, seen, read, moves⟩
  · exact Or.inl absent
  · exact Or.inr ⟨seen, everRide_of_seen read, moves.riderId⟩

section Commits

variable {entry : HistoryEntry} {older : History} {ride : Ride}

/-- A rider whom the task has found without an active ride still has none. -/
theorem idle_of_findsIdle (right : Lawful (LooksRight init) older) {pid : Nat}
    {riderId : String} (looked : ∃ other ∈ older, findsIdle pid riderId other = true)
    (inTime : ∀ other ∈ since (findsIdle pid riderId) older, ∀ row ∈ other.savedRide,
      row.riderId = riderId → row.status ∉ activeRideStatuses) {rideId : String}
    (stored : storedRide init rideId older = some ride) (sameRider : ride.riderId = riderId) :
    ride.status ∉ activeRideStatuses := by
  obtain ⟨mark, before, split, finds⟩ := exists_since_split looked
  have rightMark : LooksRight init mark before := by
    rw [split] at right
    exact right.entry
  obtain ⟨request, rfl⟩ := findsIdle_eq_true finds
  rw [split] at stored
  rcases ever_of_latest_append stored with found | ⟨other, otherMem, saved⟩
  · rw [latest_cons_none (by rfl)] at found
    exact rightMark riderId rideId ride finds found sameRider
  · exact inTime other otherMem ride (Entry.rideAt_eq_some.mp saved).1 sameRider

/-- A ride that the task has read as an active one is still active. -/
theorem active_of_seen {pid : Nat} {rideId : String}
    (seen : rideSeen init pid rideId older = some ride)
    (active : ride.status ∈ activeRideStatuses)
    (inTime : ∀ other ∈ since (rideReadBy pid rideId) older, ∀ row ∈ other.rideAt rideId,
      row.status ∈ activeRideStatuses) :
    ∃ stored, storedRide init rideId older = some stored ∧
      stored.status ∈ activeRideStatuses := by
  obtain ⟨mark, before, split, reads, viewed⟩ := atLast_eq_some seen
  have base : storedRide init rideId (mark :: before) = some ride :=
    (storedRide_cons rideId mark before).trans (by rw [rideReadBy_unsaved reads]; exact viewed)
  have present : storedRide init rideId older ≠ none := by
    rw [split]
    apply latest_append_ne_none
    change storedRide init rideId (mark :: before) ≠ none
    simp [base]
  obtain ⟨stored, found⟩ := Option.ne_none_iff_exists'.mp present
  refine ⟨stored, found, ?_⟩
  rw [split] at found
  rcases ever_of_latest_append found with same | ⟨other, otherMem, saved⟩
  · cases base.symm.trans same
    exact active
  · exact inTime other otherMem stored saved

end Commits

/-- One event that activates in time, after those before it. -/
theorem oneActive_next {before : List ApplicationEvent} {middle next : ApplicationPool}
    {event : ApplicationEvent} (unlocked : init.acceptLock = none)
    (ranBefore : (application P).run (Pool.start init) before = some middle)
    (moved : (application P).next middle event = some next)
    (inTime : Lawful ActivatesInTime next.world.log)
    (oneActive : middle.world.state.OneActive) : next.world.state.OneActive := by
  have valid := reached_valid unlocked ranBefore
  have described : Describes init middle.world := valid.good.1
  rcases (application P).next_cases moved with
    ⟨_, _, rfl⟩ | ⟨pid, broken, advanced⟩ | ⟨_, _, rfl⟩
  · exact oneActive
  · have lawful : Lawful (law init) next.world.log :=
      (reached_valid unlocked (runSteps_snoc _ ranBefore moved)).good.2
    obtain ⟨request, call, resume, reply, state, found, answered, rfl⟩ :=
      (application P).advance_eq_some advanced
    have follows : Follows middle.world.state state ⟨pid, request, call, reply⟩ :=
      answer_follows answered
    cases saved : Entry.savedRide ⟨pid, request, call, reply⟩ with
    | none =>
        have same : state.rides = middle.world.state.rides := by
          rw [follows.rides, saved]
          rfl
        change state.OneActive
        unfold Store.OneActive
        rw [same]
        exact oneActive
    | some ride =>
        have saves : state.rides = middle.world.state.rides.save ride := by
          rw [follows.rides, saved]
          rfl
        have savedAt : Entry.rideAt ⟨pid, request, call, reply⟩ ride.id = some ride :=
          Entry.rideAt_eq_some.mpr ⟨saved, rfl⟩
        apply oneActive_save oneActive saves
        · intro stored isStored
          rw [described.rides ride.id] at isStored
          exact EverRide.riderId_eq lawful (ever_of_latest isStored).cons
            (ever_cons.mpr (Or.inl savedAt))
        · intro active
          obtain ⟨looked, read⟩ := inTime.1 ride saved active
          rcases law_rideAt lawful.1 savedAt with
            ⟨fare, inserts, _⟩ | ⟨movesRide, seen, reads, moves⟩
          · right
            intro other otherMem sameRider
            have callEq := Entry.call_of_savedRide saved
            subst callEq
            have told := transcript_allows (m := application P) (fun moved => moved)
              handler_looksFirst ranBefore found fare inserts
            obtain ⟨_, logged⟩ := entry_of_told told
            have stored := described.rides other.id
            rw [KeyedTable.mem_rows_iff_find.mp otherMem] at stored
            exact idle_of_findsIdle (looksRight_of_run unlocked ranBefore)
              ⟨_, logged, by simp [findsIdle]⟩ (looked (requested_eq_some inserts).1)
              stored.symm sameRider
          · left
            rw [described.rides ride.id]
            exact active_of_seen reads (moves.active active) (read movesRide)
  · exact oneActive

/-- In every state of a run each rider has at most one active ride, if every active row
that is committed in the run is committed in time: what the request has found before,
that the rider has no active ride or that the ride is an active one, has not changed in
the meantime. -/
theorem oneActive_of_inTime (unlocked : init.acceptLock = none) (start : init.OneActive)
    (ran : (application P).run (Pool.start init) events = some pool)
    (inTime : Lawful ActivatesInTime pool.world.log) :
    Always (application P).next (fun pool => pool.world.state.OneActive)
      (Pool.start init) events := by
  intro before after middle split ranBefore
  have ranAll : (application P).run (Pool.start init) (before ++ after) = some pool := by
    rw [← split]
    exact ran
  rw [Machine.run, runSteps_append, ranBefore, Option.bind_some] at ranAll
  obtain ⟨news, grown⟩ := log_grows ranAll
  have inTimeMiddle : Lawful ActivatesInTime middle.world.log := by
    rw [grown] at inTime
    exact inTime.of_append
  clear split ranAll grown
  revert inTimeMiddle
  apply runSteps_reached (fun _ => start) ?_ ranBefore
  intro earlier state event next ranEarlier moved kept inTimeNext
  have ranEvent : (application P).run state [event] = some next := by
    rw [Machine.run, runSteps_cons, moved]
    rfl
  obtain ⟨recent, logEq⟩ := log_grows ranEvent
  have inTimeState : Lawful ActivatesInTime state.world.log := by
    rw [logEq] at inTimeNext
    exact inTimeNext.of_append
  exact oneActive_next unlocked ranEarlier moved inTimeNext (kept inTimeState)

namespace SmallCity

/-- Two requests of one rider look for an active ride before either inserts. -/
def twoRequests : List ApplicationEvent :=
  [.spawn (wants "r1" "u1"), .spawn (wants "r2" "u1")] ++
  [.step 0, .step 1] ++ steps 0 6 ++ steps 1 5

theorem twoRequests_two_active :
    ∃ pool, play twoRequests = some pool ∧ ¬ pool.world.state.OneActive := by
  obtain ⟨pool, played, checked⟩ := Option.map_eq_some_iff.mp
    (by decide +kernel : (play twoRequests).map (fun pool =>
      !decide pool.world.state.OneActive) = some true)
  exact ⟨pool, played, by simpa using checked⟩

/-- The requests of ann and of bob overlap.  Dan accepts ann's ride and completes it, and
ann wants another one. -/
def ridesInTurn : List ApplicationEvent :=
  [.spawn (wants "r1" "u1"), .spawn (wants "r2" "u2")] ++
  [.step 0, .step 1] ++ steps 0 6 ++ steps 1 5 ++
  [.spawn (.acceptRide "r1" "u3")] ++ steps 2 9 ++
  [.spawn (.startRide "r1" "u3")] ++ steps 3 2 ++
  [.spawn (.completeRide "r1" "u3" 60)] ++ steps 4 6 ++
  [.spawn (wants "r3" "u1")] ++ steps 5 6

theorem ridesInTurn_oneActive :
    ∃ pool, play ridesInTurn = some pool ∧
      pool.world.state.rides.rows.map (fun ride => (ride.id, ride.status)) =
        [("r1", .completed), ("r2", .requested), ("r3", .requested)] ∧
      Always (application platform).next (fun pool => pool.world.state.OneActive)
        (Pool.start store) ridesInTurn := by
  obtain ⟨pool, played, checked⟩ := Option.map_eq_some_iff.mp
    (by decide +kernel : (play ridesInTurn).map (fun pool =>
      decide (pool.world.state.rides.rows.map (fun ride => (ride.id, ride.status)) =
        [("r1", .completed), ("r2", .requested), ("r3", .requested)] ∧
      Lawful ActivatesInTime pool.world.log)) = some true)
  obtain ⟨rows, inTime⟩ := of_decide_eq_true checked
  exact ⟨pool, played, rows, oneActive_of_inTime rfl (by decide) played inTime⟩

end SmallCity

end RideHailing
