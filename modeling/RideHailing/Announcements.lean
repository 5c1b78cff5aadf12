import RideHailing.CompleteDispatch
import RideHailing.LocationSharing
import RideHailing.RideReports

/-!
# The table of rides and the messages about them agree

A request that has answered with a ride has committed its row and published the message of
its status.  A message that is published is of a ride whose row has been committed in the
status that the message announces.  And the job for stale rides publishes again every ride
that waits for too long.
-/

namespace RideHailing

open Service RideHailing.Action

/-! ## What a request has done when it answers with a ride -/

/-- The status in which a request leaves the ride that it answers with. -/
def Request.achieves : Request → Option RideStatus
  | .requestRide _ _ _ _ _ _ _ => some .requested
  | .acceptRide _ _ => some .matched
  | .startRide _ _ => some .inProgress
  | .completeRide _ _ _ => some .completed
  | .cancelRide _ _ => some .cancelled
  | _ => none

namespace RequestReport

/-- The ride has been committed in this status, and the message that announces the status,
if there is one, has been published after that. -/
def Commits (report : RequestReport) (status : RideStatus) (ride : Ride) : Prop :=
  ∃ written, report.Learns (.rideSave written) ride ∧ written.status = status ∧
    ∀ topic, topic.status = status → report.Learns (.publish topic ride.id) ()

/-- What the request has done for the ride that it answers with. -/
def Acknowledges (report : RequestReport) (request : Request) (response : Response) : Prop :=
  ∀ ride, response = .ride ride → ∃ status, request.achieves = some status ∧
    report.Commits status ride

theorem Commits.mono {report later : RequestReport} {status : RideStatus} {ride : Ride}
    (commits : report.Commits status ride) (grown : report ⊆ later) :
    later.Commits status ride := by
  obtain ⟨written, saved, sameStatus, published⟩ := commits
  exact ⟨written, grown saved, sameStatus, fun topic same => grown (published topic same)⟩

end RequestReport

/-- The service does what it likes, and says this of its result. -/
abbrev Ensures (report : RequestReport) {α : Type} (action : Service α)
    (returns : α → RequestReport → Prop) : Prop :=
  Informs (fun _ _ => True) report action returns

section Requests

variable {P : Platform} {report : RequestReport}

theorem topic_of_status {topic other : Topic} (same : topic.status = other.status) :
    topic = other := by
  cases topic <;> cases other <;> first | rfl | cases same

theorem ensures_call (awaited : Call) :
    Ensures report (call awaited) fun value after => after.Learns awaited value :=
  informs_call trivial

/-- What comes after a service whatever that has done. -/
theorem ensures_skip {α β : Type} {action : Service α} {next : α → Service β}
    {returns : β → RequestReport → Prop}
    (second : ∀ result after, Ensures after (next result) returns) :
    Ensures report (action >>= next) returns :=
  informs_bind (informs_anything action) fun result after _ _ => second result after

/-- Committing a ride and publishing what its status announces. -/
theorem publishing_ensures {ride : Ride} {topic : Topic} (announces : topic.status = ride.status) :
    Ensures report (do
      let stored ← call (.rideSave ride)
      call (.publish topic stored.id)
      return stored) fun stored after => after.Commits ride.status stored := by
  apply informs_bind (ensures_call _)
  intro stored saved _ learns
  apply informs_bind (ensures_call _)
  intro _ published grown told
  apply informs_pure
  refine ⟨ride, grown learns, rfl, fun other same => ?_⟩
  obtain rfl := topic_of_status (announces.trans same.symm)
  exact told

theorem requestRide_ensures (newId : String) (now : Timestamp) (riderId : String)
    (pickupLat pickupLng dropoffLat dropoffLng : Float64) :
    Ensures report (RideService.requestRide P newId now riderId pickupLat pickupLng dropoffLat
      dropoffLng) fun ride after => after.Commits .requested ride := by
  unfold RideService.requestRide
  simp only [reject_bind]
  apply ensures_skip
  intro active asked
  apply informs_guard
  apply ensures_skip
  intro estimatedFare priced
  exact publishing_ensures rfl

theorem acceptRide_ensures (rideId driverId : String) :
    Ensures report (RideService.acceptRide rideId driverId) fun ride after =>
      after.Commits .matched ride := by
  unfold RideService.acceptRide RideService.withAcceptLock
  simp only [reject_bind]
  apply ensures_skip
  intro _ locked
  apply informs_ensuring_returns
  · apply ensures_skip
    intro ride read
    apply informs_guard
    apply ensures_skip
    intro found asked
    cases found with
    | none => exact informs_raise _
    | some driver =>
        apply informs_guard
        apply ensures_skip
        intro _ marked
        exact publishing_ensures rfl
  · exact fun ride note later grown commits => commits.mono grown
  · exact fun note => informs_anything _

theorem startRide_ensures (rideId driverId : String) :
    Ensures report (RideService.startRide rideId driverId) fun ride after =>
      after.Commits .inProgress ride := by
  unfold RideService.startRide
  simp only [reject_bind]
  apply ensures_skip
  intro ride read
  apply informs_guard
  apply informs_guard
  apply (ensures_call _).mono
  intro stored after _ learns
  refine ⟨_, learns, rfl, fun topic same => ?_⟩
  cases topic <;> cases same

theorem completeRide_ensures (rideId driverId : String) (now : Timestamp) :
    Ensures report (RideService.completeRide rideId driverId now) fun ride after =>
      after.Commits .completed ride := by
  unfold RideService.completeRide
  simp only [reject_bind]
  apply ensures_skip
  intro ride read
  apply informs_guard
  apply informs_guard
  apply informs_bind (ensures_call _)
  intro stored saved _ learns
  apply informs_bind (informs_anything _)
  intro _ marked grown _
  apply informs_bind (ensures_call _)
  intro _ published grownOnce told
  apply informs_pure
  refine ⟨_, grownOnce (grown learns), rfl, fun topic same => ?_⟩
  obtain rfl : Topic.rideCompleted = topic := topic_of_status same.symm
  exact told

theorem cancelRide_ensures (rideId userId : String) :
    Ensures report (RideService.cancelRide rideId userId) fun ride after =>
      after.Commits .cancelled ride := by
  unfold RideService.cancelRide
  simp only [reject_bind]
  apply ensures_skip
  intro ride read
  apply informs_guard
  apply informs_guard
  cases ride.driverId with
  | none => exact publishing_ensures rfl
  | some driverId =>
      apply ensures_skip
      intro _ marked
      exact publishing_ensures rfl

/-- Answering with a ride that has been committed. -/
theorem answering_ensures {request : Request} {status : RideStatus} {action : Service Ride}
    (achieves : request.achieves = some status)
    (commits : Ensures report action fun ride after => after.Commits status ride) :
    Ensures report (action >>= fun ride => pure (.ride ride)) fun response after =>
      after.Acknowledges request response := by
  apply informs_bind commits
  intro ride after _ committed
  apply informs_pure
  rintro _ ⟨⟩
  exact ⟨status, achieves, committed⟩

/-- Answering with something else. -/
theorem otherwise_ensures {request : Request} {α : Type} {action : Service α}
    {answer : α → Response} (other : ∀ result ride, answer result ≠ .ride ride) :
    Ensures report (action >>= fun result => pure (answer result)) fun response after =>
      after.Acknowledges request response := by
  apply ensures_skip
  intro result after
  exact informs_pure fun ride same => absurd same (other result ride)

/-- A request that answers with a ride has committed it and announced its status. -/
theorem handler_ensures (request : Request) :
    Ensures report (handler P request) fun response after =>
      after.Acknowledges request response := by
  cases request with
  | requestRide newId now riderId pickupLat pickupLng dropoffLat dropoffLng =>
      exact answering_ensures rfl (requestRide_ensures _ _ _ _ _ _ _)
  | acceptRide rideId driverId => exact answering_ensures rfl (acceptRide_ensures _ _)
  | startRide rideId driverId => exact answering_ensures rfl (startRide_ensures _ _)
  | completeRide rideId driverId now => exact answering_ensures rfl (completeRide_ensures _ _ _)
  | cancelRide rideId userId => exact answering_ensures rfl (cancelRide_ensures _ _)
  | _ =>
      apply otherwise_ensures
      intro result ride same
      cases same

end Requests

/-! ## What the background tasks publish -/

namespace Report

/-- A background task may make this call next: it publishes a ride only if its query has
found the ride waiting. -/
def renews (report : Report) : DeploymentCall → Prop
  | .inl (.publish topic rideId) => topic = .rideRequested ∧ ∃ cutoff stale ride,
      report.Learns (.inr (.rideFindByStatusAndRequestedAtBefore .requested cutoff)) stale ∧
      ride ∈ stale ∧ ride.id = rideId
  | _ => True

/-- Every ride that the query for stale rides has found has been published again. -/
def Renews (report : Report) (cutoff : Timestamp) : Prop :=
  ∃ stale,
    report.Learns (.inr (.rideFindByStatusAndRequestedAtBefore .requested cutoff)) stale ∧
    ∀ ride ∈ stale, report.Learns (.inl (.publish .rideRequested ride.id)) ()

/-- What a task may publish. -/
def mayPublish : Request ⊕ Errand → Report → DeploymentCall → Prop
  | .inl _, _, _ => True
  | .inr _, report, call => report.renews call

end Report

/-- The call publishes no message about a ride. -/
def DeploymentCall.unannounced : DeploymentCall → Bool
  | .inl (.publish _ _) => false
  | _ => true

/-- The task publishes no message about a ride. -/
abbrev Unannounced {α : Type} (action : Background α) : Prop :=
  AwaitProgram.Only (fun call => call.unannounced = true) action

section Errands

open Background

variable {P : Platform} {W : Wiring} {report : Report} {α : Type}

theorem unannounced_call {call : DeploymentCall} (unannounced : call.unannounced = true) :
    Unannounced (Background.call call) :=
  only_perform Failure.fault unannounced

theorem unannounced_forEach {items : List α} {body : α → Background Unit}
    (each : ∀ item, Unannounced (body item)) : Unannounced (forEach items body) := by
  induction items with
  | nil => trivial
  | cons item items ih => exact only_andThen (each item) fun _ => ih

theorem fanout_unannounced (ride : Ride) : Unannounced (fanoutToNearbyDrivers W ride) := by
  unfold fanoutToNearbyDrivers
  refine only_andThen (only_findNearby ?_ fun _ => ?_) fun nearby => ?_
  · rfl
  · rfl
  · split
    · trivial
    · apply only_andThen (unannounced_call rfl)
      intro _
      apply only_andThen (unannounced_call rfl)
      intro _
      apply unannounced_forEach
      intro driver
      exact only_andThen (only_compute _) fun _ => unannounced_call rfl

theorem handlers_unannounced (topic : Topic) (rideId : String) :
    Unannounced (handlers P W topic rideId) := by
  cases topic with
  | rideRequested =>
      apply only_andThen (unannounced_call rfl)
      intro found
      cases found with
      | none => trivial
      | some ride =>
          change Unannounced (if _ then _ else _)
          split
          · trivial
          · exact fanout_unannounced ride
  | rideAccepted =>
      apply only_andThen (unannounced_call rfl)
      intro found
      cases found with
      | none => trivial
      | some ride =>
          refine only_andThen (only_announceEta (fun _ => ?_) fun _ => ?_) fun _ => ?_
          · rfl
          · rfl
          · apply only_andThen (unannounced_call rfl)
            intro members
            refine only_andThen ?_ fun _ => unannounced_call rfl
            apply unannounced_forEach
            intro driverId
            split
            · exact unannounced_call rfl
            · trivial
  | rideCompleted =>
      apply only_andThen (unannounced_call rfl)
      intro found
      cases found with
      | none => trivial
      | some ride =>
          change Unannounced (if _ then _ else _)
          split
          · trivial
          · exact unannounced_call rfl
  | rideCancelled =>
      apply only_andThen (unannounced_call rfl)
      intro found
      cases found with
      | none => trivial
      | some ride => exact unannounced_call rfl

theorem streamDriverLocation_unannounced (rideId userId : String) :
    Unannounced (streamDriverLocation rideId userId) := by
  have getRide : Unannounced (service (RideService.getRide rideId)) :=
    AwaitProgram.Only.hosted ((getRide_ordinary rideId).mono fun call ordinary => by
      cases call <;> first | rfl | cases ordinary)
  apply only_andThen getRide
  intro ride
  change Unannounced (if _ then _ else _)
  split
  · trivial
  · change Unannounced (if _ then _ else _)
    split
    · trivial
    · exact unannounced_call rfl

theorem renews_of_unannounced {action : Background α} (only : Unannounced action) :
    Informs Report.renews report action fun _ _ => True := by
  apply informs_of_only
  apply only.mono
  intro call unannounced note
  rcases call with call | call
  · cases call <;> trivial
  · trivial

/-- The retry job publishes the rides that its query has found, all of them if it ends well. -/
theorem retryOnce_renews (now : Timestamp) :
    Informs Report.renews report (retryOnce now) fun _ after =>
      Report.Renews after (now - retryCutoff) := by
  have query := @informs_call DeploymentCall DeploymentValue Fault Failure Report.renews report
    Failure.fault (.inr (.rideFindByStatusAndRequestedAtBefore .requested (now - retryCutoff)))
    trivial
  apply informs_bind query
  intro stale found _ learns
  have publishes : Informs Report.renews found
      (forEach stale fun ride => call (.inl (.publish .rideRequested ride.id)))
      fun _ last => ∀ ride ∈ stale,
        Report.Learns last (.inl (.publish .rideRequested ride.id)) () := by
    apply informs_forEach
    · exact fun ride note later longer told => Report.Learns.mono told longer
    · intro ride mem after longer
      exact informs_call ⟨rfl, now - retryCutoff, stale, ride, longer learns, mem, rfl⟩
  apply publishes.mono
  intro _ last longer told
  exact ⟨stale, longer learns, told⟩

theorem errand_renews (task : Errand) :
    Informs Report.renews report (errand P W task) fun _ _ => True := by
  cases task with
  | handle topic rideId => exact renews_of_unannounced (handlers_unannounced topic rideId)
  | retryOnce now => exact (retryOnce_renews now).mono fun _ _ _ _ => trivial
  | streamDriverLocation rideId userId =>
      exact renews_of_unannounced (streamDriverLocation_unannounced rideId userId)
  | streamOffers userId => exact renews_of_unannounced (unannounced_call rfl)

theorem undertaking_publishes (request : Request ⊕ Errand) :
    Informs (Report.mayPublish request) report (undertaking P W request) fun _ _ => True := by
  cases request with
  | inl request => exact informs_anything _
  | inr task =>
      apply informs_bind (errand_renews task)
      intro _ after _ _
      exact informs_pure trivial

end Errands

/-! ## The log of messages -/

/-- The message that a call publishes, if it succeeds. -/
def DeploymentCall.announces :
    (call : DeploymentCall) → Except Fault (DeploymentValue call) → Option (Topic × String)
  | .inl (.publish topic rideId), .ok _ => some (topic, rideId)
  | _, _ => none

section Messages

variable {P : Platform} {W : Wiring} {start : Deployment}
variable {events : List DeploymentEvent} {pool pool' : DeploymentPool}

theorem announces_eq_some {call : DeploymentCall} {reply : Except Fault (DeploymentValue call)}
    {topic : Topic} {rideId : String} (announces : call.announces reply = some (topic, rideId)) :
    call = .inl (.publish topic rideId) := by
  rcases call with call | call
  · cases call with
    | publish other otherId =>
        cases reply with
        | error fault => cases announces
        | ok value =>
            cases announces
            rfl
    | _ => cases announces
  · cases announces

/-- A call adds the message that it publishes. -/
theorem published_answer {pid : Nat} {broken : Option Fault} {d after : Deployment}
    {call : DeploymentCall} {reply : Except Fault (DeploymentValue call)}
    (answered : (deployment P W).answer pid broken call d = some (reply, after)) :
    after.store.published = d.store.published ++ (call.announces reply).toList := by
  cases call with
  | inl call =>
      rcases answer_inl answered with ⟨store, _, performed, rfl⟩ | ⟨fault, _, _, rfl, rfl⟩
      · cases announced : DeploymentCall.announces (.inl call) reply with
        | some message =>
            obtain ⟨topic, rideId⟩ := message
            cases announces_eq_some announced
            cases performed
            cases announced
            rfl
        | none =>
            have inside : (application P).answer pid none call d.store = some (reply, store) :=
              performed
            rcases published_of_answer inside with same | ⟨topic, rideId, rfl, _⟩
            · simpa using same
            · cases performed
              cases announced
      · simp [DeploymentCall.announces]
  | inr call =>
      rcases answer_inr answered with ⟨rfl, rfl⟩ | ⟨rfl, rfl⟩
      · cases call with
        | dispatchedExpire expiring seconds =>
            simp only [Wiring.perform, Deployment.dispatchedExpire]
            split <;> simp [DeploymentCall.announces]
        | _ =>
            simp [Wiring.perform, DeploymentCall.announces, Deployment.dispatchedAdd,
              Deployment.publishOffer, Deployment.withBoard]
      · simp [DeploymentCall.announces]

theorem published_passing (d : Deployment) (change : Passing) :
    (d.passing change).store.published = d.store.published := by
  obtain ⟨sse, storeEq, _⟩ := passing_store d change
  rw [storeEq]

/-- The messages are those that the calls of the history have published. -/
theorem published_of_run (ran : Deployment.run P W (Pool.start start) events = some pool) :
    pool.world.state.store.published =
      start.store.published ++ gathered DeploymentCall.announces pool.world.log := by
  apply runSteps_reached ?_ ?_ ran
  · simp [Pool.start, gathered]
  · intro before middle event next _ moved earlier
    rcases (deployment P W).next_cases (machine_next_of_next moved) with
      ⟨_, _, rfl⟩ | ⟨pid, broken, advanced⟩ | ⟨change, _, rfl⟩
    · exact earlier
    · obtain ⟨request, call, resume, reply, state, _, answered, rfl⟩ :=
        (deployment P W).advance_eq_some advanced
      rw [gathered, ← List.append_assoc, ← earlier]
      exact published_answer answered
    · exact (published_passing _ change).trans earlier

/-! ## The requests inside the process -/

variable {init : Store} {guest : ApplicationPool}

/-- A request of the process is the one of the application that stands for it. -/
theorem Inside.guest_task (inside : Inside P W init pool guest) {pid : Nat} {request : Request}
    {rest : AwaitProgram DeploymentCall (fun call => Except Fault (DeploymentValue call)) Outcome}
    (found : pool.tasks[pid]? = some ⟨.inl request, rest⟩) :
    ∃ ownRest, guest.tasks[pid]? = some ⟨request, ownRest⟩ ∧ rest = ownRest.hosted := by
  obtain ⟨task, foundGuest, mirror⟩ :=
    Hosting.getElem?_of_forall₂ inside.mirrors.tasks found
  generalize taskEq : (⟨.inl request, rest⟩ :
    Task DeploymentValue Fault (Request ⊕ Errand) Outcome) = hostTask at mirror
  cases mirror with
  | request request ownRest =>
      cases taskEq
      exact ⟨ownRest, foundGuest, rfl⟩
  | errand only => cases taskEq

/-- What a request has been told in the application it has been told in the process. -/
theorem told_guest {pid : Nat} {answered : Answered Value Fault}
    {log : List (Entry DeploymentValue Fault (Request ⊕ Errand))}
    (mem : answered ∈ told pid (log.filterMap Entry.guest?)) :
    (⟨.inl answered.call, answered.reply⟩ : Answered DeploymentValue Fault) ∈ told pid log := by
  induction log with
  | nil => cases mem
  | cons entry older ih =>
      obtain ⟨owner, request, call, reply⟩ := entry
      have earlier : answered ∈ told pid (older.filterMap Entry.guest?) →
          (⟨.inl answered.call, answered.reply⟩ : Answered DeploymentValue Fault) ∈
            told pid (⟨owner, request, call, reply⟩ :: older) := by
        intro mem
        rcases told_cons pid ⟨owner, request, call, reply⟩ older with same | ⟨_, grown⟩
        · rw [same]
          exact ih mem
        · rw [grown]
          exact List.mem_cons_of_mem _ (ih mem)
      cases guestEq : Entry.guest? ⟨owner, request, call, reply⟩ with
      | none =>
          rw [List.filterMap_cons_none guestEq] at mem
          exact earlier mem
      | some own =>
          rw [List.filterMap_cons_some guestEq] at mem
          rcases told_cons pid own (older.filterMap Entry.guest?) with same | ⟨ours, grown⟩
          · exact earlier (same ▸ mem)
          · rcases List.mem_cons.mp (grown ▸ mem) with rfl | older'
            · rcases request with request | task
              · rcases call with call | call
                · cases guestEq
                  simp only at ours
                  subst ours
                  rw [told, if_pos rfl]
                  exact List.mem_cons_self
                · cases guestEq
              · cases guestEq
            · exact earlier older'

/-- The ride that a task committed last stands in its transcript. -/
theorem told_of_noted {pid : Nat} {ride : Ride} {log : List (Entry Value Fault Request)}
    (noted : (conduct.noteOf pid log).saved = some ride) :
    ∃ stored, (⟨.rideSave ride, .ok stored⟩ : Answered Value Fault) ∈ told pid log := by
  induction log with
  | nil => cases noted
  | cons entry older ih =>
      rw [CallMonitor.noteOf] at noted
      rw [told]
      split at noted
      · rename_i ours
        rw [if_pos ours]
        obtain ⟨owner, request, call, reply⟩ := entry
        have earlier : (conduct.noteOf pid older).saved = some ride → ∃ stored,
            (⟨.rideSave ride, .ok stored⟩ : Answered Value Fault) ∈
              ⟨call, reply⟩ :: told pid older := by
          intro before
          obtain ⟨stored, mem⟩ := ih before
          exact ⟨stored, List.mem_cons_of_mem _ mem⟩
        cases call with
        | rideSave saved =>
            cases reply with
            | ok value =>
                cases noted
                exact ⟨value, List.mem_cons_self⟩
            | error fault => exact earlier noted
        | driverMerge driver => cases reply <;> exact earlier noted
        | _ => exact earlier noted
      · rename_i others
        rw [if_neg others]
        exact ih noted

/-! ## Runs -/

/-- A ride that a task has committed has been stored so. -/
theorem once_committed (ran : Deployment.run P W (Pool.start start) events = some pool)
    {pid : Nat} {written stored : Ride}
    (learns : Report.Learns (told pid pool.world.log) (.inl (.rideSave written)) stored) :
    stored = written ∧ Deployment.once P W start events fun d => d.Stores written := by
  obtain ⟨request, mem⟩ := entry_of_told learns
  have committed : ∀ {broken : Option Fault} {earlier later : Deployment},
      (deployment P W).answer pid broken (.inl (.rideSave written)) earlier =
        some (.ok stored, later) → stored = written ∧ later.Stores written := by
    intro broken earlier later answered
    rcases answer_inl answered with ⟨store, _, performed, rfl⟩ | ⟨_, _, _, failed, _⟩
    · simp only [Platform.perform, ok, Option.some.injEq, Prod.mk.injEq, Except.ok.injEq]
        at performed
      obtain ⟨rfl, rfl⟩ := performed
      exact ⟨rfl, KeyedTable.find_save_self _ _⟩
    · cases failed
  have answered := once_answered machine_next_of_next ran mem
  constructor
  · obtain ⟨_, _, _, _, _, _, _, replied⟩ := answered
    exact (committed replied).1
  · apply answered.mono
    rintro moment ⟨broken, earlier, replied⟩
    exact (committed replied).2

/-- What the query for stale rides has found was waiting. -/
theorem mem_stale_iff {pid : Nat} {broken : Option Fault} {d after : Deployment}
    {cutoff : Timestamp} {stale : List Ride} {ride : Ride}
    (answered : (deployment P W).answer pid broken
      (.inr (.rideFindByStatusAndRequestedAtBefore .requested cutoff)) d =
        some (.ok stale, after)) :
    ride ∈ stale ↔ d.Stores ride ∧ ride.status = .requested ∧ ride.requestedAt < cutoff := by
  rcases answer_inr answered with ⟨replied, _⟩ | ⟨failed, _⟩
  · obtain rfl := Except.ok.inj replied
    change ride ∈ W.rowOrder _ ↔ _
    rw [(W.rowOrder_perm _).mem_iff, List.mem_filter, KeyedTable.mem_rows_iff_find]
    simp [Deployment.Stores]
  · cases failed

/-- A request of the process that has answered with a ride has acknowledged it. -/
theorem acknowledges_of_ended (ran : Deployment.run P W (Pool.start start) events = some pool)
    {pid : Nat} {request : Request} {ride : Ride}
    (ended : pool.ended? pid = some (.inl request, .ok (.ride ride))) :
    ∃ written, Report.Learns (told pid pool.world.log) (.inl (.rideSave written)) ride ∧
      request.achieves = some written.status ∧ ∀ topic, topic.status = written.status →
        Report.Learns (told pid pool.world.log) (.inl (.publish topic ride.id)) () := by
  obtain ⟨guest, inside⟩ := inside_of_run ran
  obtain ⟨guestEvents, ranGuest⟩ := inside.reached
  obtain ⟨ownRest, foundGuest, same⟩ := inside.guest_task (Pool.ended?_eq_some ended)
  cases ownRest with
  | await call resume => cases same
  | done outcome =>
      cases same
      have program : (transcribing fun _ _ => True).Watches ((application P).program request)
          (CallMonitor.Leaves (fun response after => [] ⊆ after ∧
            RequestReport.Acknowledges after request response) fun _ _ => True) [] :=
        handler_ensures request
      have acknowledges := transcript_ended (fun moved => moved) program ranGuest
        (Pool.ended?_of_task foundGuest)
      obtain ⟨status, achieves, written, saved, rfl, published⟩ := acknowledges.2 ride rfl
      have transcript := inside.mirrors.log
      refine ⟨written, ?_, achieves, fun topic same => ?_⟩
      · apply @told_guest pid ⟨.rideSave written, .ok ride⟩
        rw [← transcript]
        exact saved
      · have announces := published topic same
        apply @told_guest pid ⟨.publish topic ride.id, .ok ()⟩
        rw [← transcript]
        exact announces

/-- A published message is of a ride that has been committed in the status of the message. -/
theorem stored_of_logged (ran : Deployment.run P W (Pool.start start) events = some pool)
    {pid : Nat} {request : Request ⊕ Errand} {topic : Topic} {rideId : String}
    (logged : ⟨pid, request, .inl (.publish topic rideId), .ok ()⟩ ∈ pool.world.log) :
    Deployment.once P W start events fun d =>
      ∃ ride, d.Stores ride ∧ ride.id = rideId ∧ ride.status = topic.status := by
  obtain ⟨moment, ⟨before, after, rfl, ranBefore⟩, ⟨resume, found⟩, _⟩ :=
    made_of_logged ran logged fun fault failed => by cases failed
  cases request with
  | inl request =>
      obtain ⟨guest, inside⟩ := inside_of_run ranBefore
      obtain ⟨guestEvents, ranGuest⟩ := inside.reached
      obtain ⟨ownRest, foundGuest, same⟩ := inside.guest_task found
      cases ownRest with
      | done outcome => cases same
      | await call ownResume =>
          cases same
          obtain ⟨ride, noted, rfl, status⟩ :=
            ((conduct_of_run ranGuest).allows foundGuest trivial).2.1 topic rideId rfl
          obtain ⟨stored, saved⟩ := told_of_noted noted
          rw [inside.mirrors.log] at saved
          have committed := (once_committed ranBefore (told_guest saved)).2
          exact (committed.mono fun _ stores => ⟨ride, stores, rfl, status⟩).append _
  | inr task =>
      have allowed := transcript_allows machine_next_of_next (fun request =>
        CallMonitor.Watches.mono (undertaking_publishes request) fun _ _ _ => trivial)
        ranBefore found
      obtain ⟨rfl, cutoff, stale, ride, learns, mem, rfl⟩ := allowed
      apply ((once_learned ranBefore learns).mono ?_).append
      rintro moment ⟨broken, later, replied⟩
      obtain ⟨stores, waiting, _⟩ := (mem_stale_iff replied).mp mem
      exact ⟨ride, stores, rfl, waiting⟩

/-- A retry job that has ended well has published the rides that its query has found. -/
theorem renews_of_ended (ran : Deployment.run P W (Pool.start start) events = some pool)
    {pid : Nat} {now : Timestamp} {response : Response}
    (ended : pool.ended? pid = some (.inr (.retryOnce now), .ok response)) :
    Report.Renews (told pid pool.world.log) (now - retryCutoff) := by
  have program : (transcribing Report.renews).Watches
      ((deployment P W).program (.inr (.retryOnce now)))
      (CallMonitor.Leaves (fun _ after => [] ⊆ after ∧ Report.Renews after (now - retryCutoff))
        fun _ _ => True) [] := by
    apply informs_bind (retryOnce_renews now)
    intro _ after _ renews
    exact informs_pure renews
  exact (transcript_ended machine_next_of_next program ran ended).2

/-- The table of rides, the messages about them, and the job that renews them. -/
structure Announced (P : Platform) (W : Wiring) (start : Deployment)
    (events : List DeploymentEvent) (pool : DeploymentPool) : Prop where
  acknowledged : ∀ pid request ride, pool.ended? pid = some (.inl request, .ok (.ride ride)) →
    request.achieves = some ride.status ∧
      Report.Learns (told pid pool.world.log) (.inl (.rideSave ride)) ride ∧
      Deployment.once P W start events (fun d => d.Stores ride) ∧
      ∀ topic, topic.status = ride.status →
        Report.Learns (told pid pool.world.log) (.inl (.publish topic ride.id)) () ∧
          (topic, ride.id) ∈ pool.world.state.store.published
  announced : ∀ topic rideId, (topic, rideId) ∈ pool.world.state.store.published →
    Deployment.once P W start events fun d =>
      ∃ ride, d.Stores ride ∧ ride.id = rideId ∧ ride.status = topic.status
  renewed : ∀ pid now response, pool.ended? pid = some (.inr (.retryOnce now), .ok response) →
    Deployment.during P W start events pid fun d =>
      ∀ ride, d.Stores ride → ride.status = .requested → ride.requestedAt < now - retryCutoff →
        Report.Learns (told pid pool.world.log) (.inl (.publish .rideRequested ride.id)) ()

/-- Take any run of the whole process that starts without messages, with failing calls and
with stale rows written back.  A request that has answered with a ride has committed this
very row, in the status that it is there to reach, and has published the message of the
status, if there is one.  A message that is published is of a ride that was stored in the
status that the message announces.  And a retry job that has ended well has published again
every ride that was waiting for too long at one moment while it was under way. -/
theorem messages_agree (silent : start.store.published = [])
    (ran : Deployment.run P W (Pool.start start) events = some pool) :
    Announced P W start events pool := by
  have messages := published_of_run ran
  rw [silent, List.nil_append] at messages
  constructor
  · intro pid request ride ended
    obtain ⟨written, saved, achieves, published⟩ := acknowledges_of_ended ran ended
    obtain ⟨rfl, stored⟩ := once_committed ran saved
    refine ⟨achieves, saved, stored, fun topic same => ⟨published topic same, ?_⟩⟩
    obtain ⟨request, logged⟩ := entry_of_told (published topic same)
    rw [messages]
    exact mem_gathered.mpr ⟨_, logged, rfl⟩
  · intro topic rideId published
    rw [messages] at published
    obtain ⟨⟨pid, request, call, reply⟩, logged, announces⟩ := mem_gathered.mp published
    obtain rfl := announces_eq_some announces
    cases reply with
    | error fault => cases announces
    | ok value => exact stored_of_logged ran logged
  · intro pid now response ended
    obtain ⟨stale, learns, published⟩ := renews_of_ended ran ended
    apply (during_learned ran learns).mono
    rintro moment ⟨awaits, broken, after, replied⟩
    refine ⟨awaits, fun ride stores waiting old => ?_⟩
    exact published ride ((mem_stale_iff replied).mpr ⟨stores, waiting, old⟩)

end Messages

namespace SmallCity

/-- Eve goes online and ann asks for a ride, the retry job finds it waiting and publishes it
again, and then eve accepts it. -/
def annIsRenewed : List DeploymentEvent :=
  [.spawn (.inl (.goOnline "u4" centre centre))] ++ moves 0 5 ++
  [.spawn (.inl (wants "r1" "u1"))] ++ moves 1 8 ++
  [.spawn (.inr (.retryOnce (retryCutoff + 1)))] ++ moves 2 2 ++
  [.spawn (.inl (.acceptRide "r1" "u4"))] ++ moves 3 9

theorem annIsRenewed_announced :
    ∃ pool, playAll annIsRenewed = some pool ∧
      pool.world.state.store.published =
        [(.rideRequested, "r1"), (.rideRequested, "r1"), (.rideAccepted, "r1")] ∧
      pool.ended? 2 = some (.inr (.retryOnce (retryCutoff + 1)), .ok .noContent) ∧
      Announced platform wiring (Deployment.opening store) annIsRenewed pool := by
  obtain ⟨pool, played, checked⟩ := Option.map_eq_some_iff.mp
    (by decide +kernel : (playAll annIsRenewed).map (fun pool =>
      decide (pool.world.state.store.published =
          [(.rideRequested, "r1"), (.rideRequested, "r1"), (.rideAccepted, "r1")] ∧
        pool.ended? 2 =
          some (.inr (.retryOnce (retryCutoff + 1)), .ok .noContent))) = some true)
  obtain ⟨published, renewed⟩ := of_decide_eq_true checked
  exact ⟨pool, played, published, renewed, messages_agree rfl played⟩

end SmallCity

end RideHailing
