import RideHailing.Deployment
import RideHailing.RequestConduct
import RideHailing.RequestGuarantees

/-!
# The application inside the process

The background tasks read the rides, publish waiting rides again and use the event
streams; they write no table.  So every run of the process is a run of the
application, and what holds of the application's histories holds in the process: a
ride that has left REQUESTED never returns to it, and an event is published only
after the ride has got the status that the event announces.
-/

namespace RideHailing

/-! ## What the application does not look at -/

/-- The store with another registry and other messages. -/
def Store.aside (store : Store) (sse : SseRegistry Payload)
    (published : List (Topic × String)) : Store :=
  { store with sse := sse, published := published }

/-- The call concerns the event streams or the messages. -/
def Call.outward : Call → Bool
  | .publish _ _ => true
  | .sseEmit _ _ _ => true
  | .sseComplete _ => true
  | _ => false

section Aside

variable {P : Platform} {pid : Nat} {store after : Store} {call : Call}
variable {reply : Except Fault (Value call)}

theorem perform_aside (inward : call.outward = false) (sse : SseRegistry Payload)
    (published : List (Topic × String)) :
    P.perform pid call (store.aside sse published) =
      (P.perform pid call store).map fun (reply, after) =>
        (reply, after.aside sse published) := by
  cases call with
  | publish _ _ => cases inward
  | sseEmit _ _ _ => cases inward
  | sseComplete _ => cases inward
  | userSave user =>
      simp only [Platform.perform, Store.aside]
      split <;> rfl
  | driverMerge driver =>
      simp only [Platform.perform, apply_ite (Option.map _)]
      rfl
  | ratingSave rating =>
      simp only [Platform.perform, Store.aside]
      split <;> rfl
  | geoadd userId lat lng =>
      simp only [Platform.perform, apply_ite (Option.map _)]
      rfl
  | geosearch lat lng radiusKm count =>
      simp only [Platform.perform, Store.aside]
      split <;> rfl
  | limiterHit capacity windowSeconds key =>
      simp only [Platform.perform, apply_ite (Option.map _)]
      rfl
  | lockAcquire =>
      simp only [Platform.perform, apply_ite (Option.map _)]
      rfl
  | _ => rfl

/-- Such a call leaves the messages and the event streams alone. -/
theorem aside_of_inward (inward : call.outward = false)
    (performed : P.perform pid call store = some (reply, after)) :
    after.sse = store.sse ∧ after.published = store.published := by
  have same : P.perform pid call store = (P.perform pid call store).map
      fun (reply, after) => (reply, after.aside store.sse store.published) :=
    perform_aside inward store.sse store.published
  rw [performed] at same
  have afterEq : after = after.aside store.sse store.published := by
    simpa using same
  rw [afterEq]
  exact ⟨rfl, rfl⟩

end Aside

/-- The deployment has this store, except for the event streams, and except for the
messages about waiting rides. -/
structure Deployment.Shares (deployment : Deployment) (store : Store) : Prop where
  tables : store = deployment.store.aside store.sse store.published
  announced : ∀ topic rideId, topic ≠ .rideRequested →
    (topic, rideId) ∈ deployment.store.published → (topic, rideId) ∈ store.published

section Shares

variable {P : Platform} {W : Wiring} {pid : Nat} {d after : Deployment} {store : Store}

/-- The process answers a call as the application does. -/
theorem Deployment.Shares.perform {call : Call} {reply : Except Fault (Value call)}
    {storeAfter : Store} (shares : d.Shares store)
    (performed : P.perform pid call d.store = some (reply, storeAfter)) :
    ∃ next, P.perform pid call store = some (reply, next) ∧
      ({ d with store := storeAfter } : Deployment).Shares next := by
  obtain ⟨tables, announced⟩ := shares
  cases outward : call.outward with
  | false =>
      refine ⟨storeAfter.aside store.sse store.published, ?_, rfl, ?_⟩
      · rw [tables, perform_aside outward, performed]
        rfl
      · intro topic rideId waiting published
        change (topic, rideId) ∈ storeAfter.published at published
        rw [(aside_of_inward outward performed).2] at published
        exact announced topic rideId waiting published
  | true =>
      cases call with
      | publish topic rideId =>
          cases performed
          refine ⟨_, rfl, congrArg (fun other : Store => { other with
            published := store.published ++ [(topic, rideId)] }) tables, ?_⟩
          intro otherTopic otherId waiting published
          rcases List.mem_append.mp published with old | new
          · exact List.mem_append_left _ (announced otherTopic otherId waiting old)
          · exact List.mem_append_right _ new
      | sseEmit key event payload =>
          cases performed
          exact ⟨_, rfl, congrArg (fun other : Store => { other with
            sse := store.sse.emit key event payload }) tables, announced⟩
      | sseComplete key =>
          cases performed
          exact ⟨_, rfl, congrArg (fun other : Store => { other with
            sse := store.sse.complete key }) tables, announced⟩
      | _ => cases outward

/-- The calls that background tasks make: none of them writes a table. -/
def DeploymentCall.harmless : DeploymentCall → Bool
  | .inr _ => true
  | .inl (.rideFindById _) => true
  | .inl (.geosearch _ _ _ _) => true
  | .inl (.smismember _) => true
  | .inl (.sseEmit _ _ _) => true
  | .inl (.sseComplete _) => true
  | .inl (.publish topic _) => decide (topic = .rideRequested)
  | _ => false

theorem Deployment.Shares.streams (shares : d.Shares store) (board : EventStreams Payload) :
    (d.withBoard board).Shares store :=
  ⟨shares.tables, shares.announced⟩

theorem Deployment.Shares.background (shares : d.Shares store) (call : BackgroundCall) :
    (W.perform call d).2.Shares store := by
  cases call with
  | dispatchedExpire rideId seconds =>
      simp only [Wiring.perform, Deployment.dispatchedExpire]
      split
      · exact shares
      · exact ⟨shares.tables, shares.announced⟩
  | _ => exact ⟨shares.tables, shares.announced⟩

/-- A harmless call leaves the application's part of the state alone. -/
theorem Deployment.Shares.harmless {call : Call} {reply : Except Fault (Value call)}
    {storeAfter : Store} (shares : d.Shares store)
    (harmless : DeploymentCall.harmless (.inl call) = true)
    (performed : P.perform pid call d.store = some (reply, storeAfter)) :
    ({ d with store := storeAfter } : Deployment).Shares store := by
  rcases perform_cases performed with rfl | change
  · exact shares
  cases change with
  | emitted key event payload => exact ⟨shares.tables, shares.announced⟩
  | completed key => exact ⟨shares.tables, shares.announced⟩
  | published topic rideId =>
      refine ⟨shares.tables, fun otherTopic otherId waiting published => ?_⟩
      rcases List.mem_append.mp published with old | new
      · exact shares.announced otherTopic otherId waiting old
      · cases List.mem_singleton.mp new
        exact absurd (of_decide_eq_true harmless) waiting
  | _ => cases harmless

end Shares

/-! ## The programs of the background tasks -/

/-- The background task makes harmless calls only. -/
abbrev WritesNoTable {α : Type} (action : Background α) : Prop :=
  AwaitProgram.Only (fun call => call.harmless = true) action

/-- The calls of the message handlers and of the retry job: harmless ones that open no
stream and tell nobody where a driver is. -/
def DeploymentCall.inBackground : DeploymentCall → Bool
  | .inr (.openStream _) => false
  | .inl (.sseEmit _ event _) => decide (event ≠ "driver_location")
  | call => DeploymentCall.harmless call

theorem DeploymentCall.harmless_of_inBackground {call : DeploymentCall}
    (inBackground : call.inBackground = true) : call.harmless = true := by
  rcases call with call | call <;> cases call <;> first | rfl | exact inBackground

/-- The task makes calls of this kind only. -/
abbrev InBackground {α : Type} (action : Background α) : Prop :=
  AwaitProgram.Only (fun call => call.inBackground = true) action

section Errands

open AwaitProgram RideHailing.Action

variable {P : Platform} {W : Wiring} {α : Type}

theorem inBackground_call {call : DeploymentCall} (inBackground : call.inBackground = true) :
    InBackground (Background.call call) :=
  only_perform Failure.fault inBackground

theorem inBackground_forEach {items : List α} {body : α → Background Unit}
    (each : ∀ item, InBackground (body item)) :
    InBackground (Background.forEach items body) := by
  induction items with
  | nil => trivial
  | cons item items ih => exact only_andThen (each item) fun _ => ih

theorem only_compute {allowed : DeploymentCall → Prop} (computed : Except String α) :
    AwaitProgram.Only allowed (Background.compute computed) := by
  cases computed <;> trivial

/-- The search makes two calls. -/
theorem only_findNearby {allowed : DeploymentCall → Prop} {lat lng radiusKm : Float64}
    (searches : allowed (.inl (.geosearch lat lng radiusKm maxResults)))
    (asks : ∀ driverIds, allowed (.inl (.smismember driverIds))) :
    AwaitProgram.Only allowed
      (Background.service (findNearbyAvailableDrivers lat lng radiusKm)) := by
  apply Only.hosted
  unfold findNearbyAvailableDrivers
  refine only_andThen (only_perform _ ?_) fun results => ?_
  · exact searches
  · split
    · trivial
    · refine only_andThen (only_perform _ ?_) fun _ => trivial
      exact asks _

theorem only_announceEta {allowed : DeploymentCall → Prop} {ride : Ride}
    (asks : ∀ driverId, allowed (.inr (.geopos driverId)))
    (tells : ∀ eta, allowed (.inl
      (.sseEmit ride.id "driver_eta_to_pickup" (.driverEtaToPickup eta)))) :
    AwaitProgram.Only allowed (announceEta P ride) := by
  unfold announceEta
  cases ride.driverId with
  | none => trivial
  | some driverId =>
      apply only_andThen (only_perform _ (asks driverId))
      intro position
      cases position with
      | none => trivial
      | some position =>
          apply only_andThen (only_compute _)
          intro distanceKm
          exact only_andThen (only_compute _) fun eta => only_perform _ (tells eta)

theorem fanout_inBackground (ride : Ride) :
    InBackground (fanoutToNearbyDrivers W ride) := by
  unfold fanoutToNearbyDrivers
  refine only_andThen (only_findNearby ?_ fun _ => ?_) fun nearby => ?_
  · rfl
  · rfl
  · split
    · trivial
    · apply only_andThen (inBackground_call rfl)
      intro _
      apply only_andThen (inBackground_call rfl)
      intro _
      apply inBackground_forEach
      intro driver
      exact only_andThen (only_compute _) fun _ => inBackground_call rfl

theorem handlers_inBackground (topic : Topic) (rideId : String) :
    InBackground (handlers P W topic rideId) := by
  cases topic with
  | rideRequested =>
      apply only_andThen (inBackground_call rfl)
      intro found
      cases found with
      | none => trivial
      | some ride =>
          change InBackground (if _ then _ else _)
          split
          · trivial
          · exact fanout_inBackground ride
  | rideAccepted =>
      apply only_andThen (inBackground_call rfl)
      intro found
      cases found with
      | none => trivial
      | some ride =>
          refine only_andThen (only_announceEta (fun _ => ?_) fun _ => ?_) fun _ => ?_
          · rfl
          · rfl
          · apply only_andThen (inBackground_call rfl)
            intro dispatchedDrivers
            refine only_andThen ?_ fun _ => inBackground_call rfl
            apply inBackground_forEach
            intro driverId
            split
            · exact inBackground_call rfl
            · trivial
  | rideCompleted =>
      apply only_andThen (inBackground_call rfl)
      intro found
      cases found with
      | none => trivial
      | some ride =>
          change InBackground (if _ then _ else _)
          split
          · trivial
          · exact inBackground_call rfl
  | rideCancelled =>
      apply only_andThen (inBackground_call rfl)
      intro found
      cases found with
      | none => trivial
      | some ride => exact inBackground_call rfl

theorem retryOnce_inBackground (now : Timestamp) : InBackground (retryOnce now) := by
  apply only_andThen (inBackground_call rfl)
  intro stale
  exact inBackground_forEach fun ride => inBackground_call rfl

theorem InBackground.writesNoTable {action : Background α} (only : InBackground action) :
    WritesNoTable action :=
  only.mono fun _ => DeploymentCall.harmless_of_inBackground

theorem errand_writesNoTable (task : Errand) :
    WritesNoTable (undertaking P W (.inr task)) := by
  refine only_andThen ?_ fun _ => trivial
  cases task with
  | handle topic rideId => exact (handlers_inBackground topic rideId).writesNoTable
  | retryOnce now => exact (retryOnce_inBackground now).writesNoTable
  | streamDriverLocation rideId userId =>
      apply only_andThen
      · apply Only.hosted
        unfold RideService.getRide
        refine only_andThen (only_perform _ ?_) ?_
        · rfl
        · intro found
          cases found <;> trivial
      · intro ride
        change WritesNoTable (if _ then _ else _)
        split
        · trivial
        · change WritesNoTable (if _ then _ else _)
          split
          · trivial
          · exact only_perform _ rfl
  | streamOffers userId => exact only_perform _ rfl

end Errands

/-! ## The application as a guest -/

section Guest

variable {P : Platform} {W : Wiring} {pid : Nat} {broken : Option Fault}
variable {d after : Deployment} {store : Store}

/-- The process answers a call of the application on its store, or it breaks it. -/
theorem answer_inl {call : Call} {reply : Except Fault (Value call)}
    (answered : (deployment P W).answer pid broken (.inl call) d = some (reply, after)) :
    (∃ storeAfter, broken = none ∧ P.perform pid call d.store = some (reply, storeAfter) ∧
        after = { d with store := storeAfter }) ∨
      ∃ fault, broken = some fault ∧ breakable call fault = true ∧
        reply = .error fault ∧ after = d := by
  cases broken with
  | none =>
      obtain ⟨⟨_, storeAfter⟩, performed, same⟩ := Option.map_eq_some_iff.mp answered
      cases same
      exact Or.inl ⟨storeAfter, rfl, performed, rfl⟩
  | some fault =>
      obtain ⟨permitted, rfl, rfl⟩ := Machine.answer_broken answered
      exact Or.inr ⟨fault, rfl, permitted, rfl, rfl⟩

theorem answer_inr {call : BackgroundCall} {reply : Except Fault (BackgroundValue call)}
    (answered : (deployment P W).answer pid broken (.inr call) d = some (reply, after)) :
    (reply = .ok (W.perform call d).1 ∧ after = (W.perform call d).2) ∨
      reply = .error .outage ∧ after = d := by
  cases broken with
  | none =>
      cases answered
      exact Or.inl ⟨rfl, rfl⟩
  | some fault =>
      obtain ⟨permitted, rfl, rfl⟩ := Machine.answer_broken answered
      have outage : fault = .outage := of_decide_eq_true permitted
      rw [outage]
      exact Or.inr ⟨rfl, rfl⟩

theorem shares_answers {call : Call} {reply : Except Fault (Value call)}
    (shares : d.Shares store)
    (answered : (deployment P W).answer pid broken (.inl call) d = some (reply, after)) :
    ∃ next, (application P).answer pid broken call store = some (reply, next) ∧
      after.Shares next := by
  rcases answer_inl answered with ⟨storeAfter, rfl, performed, rfl⟩ |
    ⟨fault, rfl, permitted, rfl, rfl⟩
  · exact shares.perform performed
  · exact ⟨store, if_pos permitted, shares⟩

theorem shares_harmless {call : DeploymentCall} {reply : Except Fault (DeploymentValue call)}
    (shares : d.Shares store) (harmless : DeploymentCall.harmless call = true)
    (answered : (deployment P W).answer pid broken call d = some (reply, after)) :
    after.Shares store := by
  cases call with
  | inl call =>
      rcases answer_inl answered with ⟨storeAfter, _, performed, rfl⟩ | ⟨_, _, _, _, rfl⟩
      · exact shares.harmless harmless performed
      · exact shares
  | inr call =>
      rcases answer_inr answered with ⟨_, rfl⟩ | ⟨_, rfl⟩
      · exact shares.background call
      · exact shares

theorem shares_unused {token : String} (shares : d.Shares store)
    (unused : d.store.unused token = true) : store.unused token = true := by
  rw [shares.tables]
  exact unused

/-- The time that passes. -/
def Passing.elapsed : Passing → Nat
  | .elapse milliseconds => milliseconds
  | _ => 0

/-- What happens on its own moves the clock and the event streams, and no table or set. -/
theorem passing_store (d : Deployment) (change : Passing) :
    ∃ sse, (d.passing change).store =
        { d.store with sse := sse, clock := d.store.clock + change.elapsed } ∧
      (d.passing change).dispatched = d.dispatched := by
  have streams : ∀ step : StreamStep Payload, ∃ sse,
      (d.streamStep step).store = { d.store with sse := sse } ∧
        (d.streamStep step).dispatched = d.dispatched := by
    intro step
    unfold Deployment.streamStep
    split <;> exact ⟨_, rfl, rfl⟩
  cases change with
  | forwardOffer =>
      simp only [Deployment.passing, Deployment.forwardOffer]
      split <;> exact ⟨_, rfl, rfl⟩
  | take stream => exact streams (.takes stream)
  | disconnect stream => exact streams (.disconnects stream)
  | _ => exact ⟨_, rfl, rfl⟩

theorem shares_passing {change : Passing} (shares : d.Shares store) :
    (d.passing change).Shares ((application P).ambient change.elapsed store) := by
  obtain ⟨sse, storeEq, _⟩ := passing_store d change
  constructor
  · rw [storeEq]
    exact congrArg (fun other : Store => { other with
      clock := other.clock + change.elapsed }) shares.tables
  · rw [storeEq]
    exact shares.announced

/-- The process serves the application's requests as the application does. -/
def applicationHosted (P : Platform) (W : Wiring) :
    Hosting (application P) (deployment P W) where
  shares := Deployment.Shares
  harmless call := DeploymentCall.harmless call = true
  idle := .switchMode "" ""
  idles := ⟨_, rfl⟩
  idle_draws := rfl
  programs _ := rfl
  errands := errand_writesNoTable
  draws _ := rfl
  unused := shares_unused
  answers := shares_answers
  harmless_answers := shares_harmless
  ambient := Passing.elapsed
  shares_ambient := shares_passing

end Guest

/-! ## What the application's history says about a ride -/

section Histories

variable {P : Platform} {init : Store} {log : History} {rideId : String}

/-- A ride that has once left REQUESTED is not stored as REQUESTED again. -/
theorem left_of_ever {ride : Ride} (lawful : Lawful (law init) log)
    (ever : EverRide init rideId log ride) (left : ride.status ≠ .requested) :
    ∃ stored, storedRide init rideId log = some stored ∧ stored.status ≠ .requested := by
  induction log with
  | nil =>
      rcases ever with fromInit | ⟨_, absurdMem, _⟩
      · exact ⟨ride, fromInit, left⟩
      · cases absurdMem
  | cons entry older ih =>
      rw [storedRide_cons]
      cases saved : entry.rideAt rideId with
      | none =>
          rcases ever_cons.mp ever with here | before
          · rw [saved] at here
            cases here
          · exact ih lawful.2 before
      | some committed =>
          refine ⟨committed, rfl, ?_⟩
          rcases law_rideAt lawful.1 saved with ⟨_, _, absent⟩ | ⟨_, seen, _, moves⟩
          · rcases ever_cons.mp ever with here | before
            · rw [saved] at here
              cases here
              exact left
            · exact absurd absent before.latest_ne_none
          · exact moves.status_ne

/-- The ride that a task committed last was committed. -/
theorem ever_of_noted {pid : Nat} {ride : Ride}
    (noted : (conduct.noteOf pid log).saved = some ride) : EverRide init ride.id log ride := by
  induction log with
  | nil => cases noted
  | cons entry older ih =>
      rw [CallMonitor.noteOf] at noted
      split at noted
      · obtain ⟨entryPid, request, call, reply⟩ := entry
        cases call with
        | rideSave saved =>
            cases reply with
            | ok value =>
                cases noted
                exact ever_cons.mpr (Or.inl (Entry.rideAt_eq_some.mpr ⟨rfl, rfl⟩))
            | error fault => exact (ih noted).cons
        | driverMerge driver => cases reply <;> exact (ih noted).cons
        | _ => exact (ih noted).cons
      · exact (ih noted).cons

/-- Only a publish adds a message. -/
theorem published_of_answer {pid : Nat} {broken : Option Fault} {call : Call}
    {before after : Store} {reply : Except Fault (Value call)}
    (answered : (application P).answer pid broken call before = some (reply, after)) :
    after.published = before.published ∨ ∃ topic rideId, call = .publish topic rideId ∧
      after.published = before.published ++ [(topic, rideId)] := by
  cases broken with
  | some fault =>
      obtain ⟨_, _, rfl⟩ := Machine.answer_broken answered
      exact Or.inl rfl
  | none =>
      cases outward : call.outward with
      | false => exact Or.inl (aside_of_inward outward answered).2
      | true =>
          cases call with
          | publish topic rideId =>
              cases answered
              exact Or.inr ⟨topic, rideId, rfl, rfl⟩
          | sseEmit key event payload =>
              cases answered
              exact Or.inl rfl
          | sseComplete key =>
              cases answered
              exact Or.inl rfl
          | _ => cases outward

/-- A ride whose event is published has got the status that the event announces. -/
theorem announced_of_run {events : List ApplicationEvent} {pool : ApplicationPool}
    (silent : init.published = [])
    (ran : (application P).run (Pool.start init) events = some pool) :
    ∀ topic rideId, (topic, rideId) ∈ pool.world.state.published →
      ∃ ride, EverRide init rideId pool.world.log ride ∧ ride.status = topic.status := by
  apply runSteps_reached ?_ ?_ ran
  · intro topic rideId published
    simp [Pool.start, silent] at published
  · intro before middle event next ranBefore moved announced topic rideId published
    rcases (application P).next_cases moved with
      ⟨_, _, rfl⟩ | ⟨pid, broken, advanced⟩ | ⟨_, _, rfl⟩
    · exact announced topic rideId published
    · obtain ⟨request, call, resume, reply, state, found, answered, rfl⟩ :=
        (application P).advance_eq_some advanced
      rcases published_of_answer answered with same | ⟨newTopic, newId, rfl, added⟩
      · obtain ⟨ride, ever, status⟩ := announced topic rideId (by rwa [same] at published)
        exact ⟨ride, ever.cons, status⟩
      · rw [added] at published
        rcases List.mem_append.mp published with old | new
        · obtain ⟨ride, ever, status⟩ := announced topic rideId old
          exact ⟨ride, ever.cons, status⟩
        · cases List.mem_singleton.mp new
          have followed := conduct_of_run ranBefore
          obtain ⟨ride, noted, rfl, status⟩ := (followed.allows found trivial).2.1 topic rideId rfl
          exact ⟨ride, (ever_of_noted noted).cons, status⟩
    · exact announced topic rideId published

end Histories

/-! ## Runs of the process -/

section Runs

variable {P : Platform} {W : Wiring} {init : Store} {pool pool' : DeploymentPool}

/-- The consumer's order is the only thing that a run of the process adds to the
machine. -/
theorem machine_next_of_next {event : DeploymentEvent}
    (moved : Deployment.next P W pool event = some pool') :
    (deployment P W).next pool event = some pool' := by
  unfold Deployment.next at moved
  split at moved
  · split at moved
    · exact moved
    · cases moved
  · exact moved

theorem machine_run_of_run {events : List DeploymentEvent}
    (ran : Deployment.run P W pool events = some pool') :
    (deployment P W).run pool events = some pool' :=
  runSteps_mono machine_next_of_next ran

/-- A run of the application goes on inside the pool. -/
structure Inside (P : Platform) (W : Wiring) (init : Store) (pool : DeploymentPool)
    (guest : ApplicationPool) : Prop where
  reached : ∃ events, (application P).run (Pool.start init) events = some guest
  mirrors : (applicationHosted P W).Mirrors pool guest

theorem Inside.next {guest : ApplicationPool} {event : DeploymentEvent}
    (inside : Inside P W init pool guest)
    (moved : Deployment.next P W pool event = some pool') :
    ∃ later more, (application P).run guest more = some later ∧ Inside P W init pool' later := by
  obtain ⟨events, ran⟩ := inside.reached
  obtain ⟨more, later, ranMore, mirrors⟩ := inside.mirrors.next (machine_next_of_next moved)
  refine ⟨later, more, ranMore, ⟨events ++ more, ?_⟩, mirrors⟩
  rw [Machine.run, runSteps_append]
  exact Option.bind_eq_some_iff.mpr ⟨guest, ran, ranMore⟩

/-- Every run of the process is a run of the application. -/
theorem inside_of_run {start : Deployment} {events : List DeploymentEvent}
    (ran : Deployment.run P W (Pool.start start) events = some pool) :
    ∃ guest, Inside P W start.store pool guest := by
  have shares : (applicationHosted P W).shares start start.store :=
    ⟨rfl, fun _ _ _ published => published⟩
  obtain ⟨guestEvents, guest, reached, mirrors⟩ :=
    Hosting.mirrors_of_run shares (machine_run_of_run ran)
  exact ⟨guest, ⟨guestEvents, reached⟩, mirrors⟩

/-- The ride is stored and not waiting for a driver any more. -/
def Deployment.Left (deployment : Deployment) (rideId : String) : Prop :=
  ∃ ride, deployment.store.rides.find rideId = some ride ∧ ride.status ≠ .requested

/-- A ride leaves REQUESTED once. -/
theorem Inside.left_next {guest : ApplicationPool} {event : DeploymentEvent}
    {rideId : String} (unlocked : init.acceptLock = none)
    (inside : Inside P W init pool guest)
    (moved : Deployment.next P W pool event = some pool')
    (left : pool.world.state.Left rideId) : pool'.world.state.Left rideId := by
  obtain ⟨events, ran⟩ := inside.reached
  obtain ⟨later, more, ranMore, insideLater⟩ := inside.next moved
  obtain ⟨eventsLater, ranLater⟩ := insideLater.reached
  have described : Describes init guest.world := (reached_valid unlocked ran).good.1
  have valid := reached_valid unlocked ranLater
  have describedLater : Describes init later.world := valid.good.1
  have lawful : Lawful (law init) later.world.log := valid.good.2
  obtain ⟨ride, found, status⟩ := left
  have ridesEq : guest.world.state.rides = pool.world.state.store.rides := by
    rw [inside.mirrors.shares.tables]
    rfl
  have ridesLater : later.world.state.rides = pool'.world.state.store.rides := by
    rw [insideLater.mirrors.shares.tables]
    rfl
  rw [← ridesEq, described.rides] at found
  obtain ⟨news, logEq⟩ := log_grows ranMore
  have ever : EverRide init rideId later.world.log ride := by
    rw [logEq]
    exact (ever_of_latest found).append
  obtain ⟨stored, foundLater, statusLater⟩ := left_of_ever lawful ever status
  refine ⟨stored, ?_, statusLater⟩
  rw [← ridesLater, describedLater.rides]
  exact foundLater

/-- Whoever hears that a ride was accepted, completed or cancelled finds it so, or
further on. -/
theorem Inside.left_of_published {guest : ApplicationPool} {topic : Topic}
    {rideId : String} (unlocked : init.acceptLock = none) (silent : init.published = [])
    (inside : Inside P W init pool guest) (notWaiting : topic ≠ .rideRequested)
    (published : (topic, rideId) ∈ pool.world.state.store.published) :
    pool.world.state.Left rideId := by
  obtain ⟨events, ran⟩ := inside.reached
  have valid := reached_valid unlocked ran
  have described : Describes init guest.world := valid.good.1
  have lawful : Lawful (law init) guest.world.log := valid.good.2
  obtain ⟨ride, ever, status⟩ := announced_of_run silent ran topic rideId
    (inside.mirrors.shares.announced topic rideId notWaiting published)
  have left : ride.status ≠ .requested := by
    rw [status]
    cases topic <;> simp_all [Topic.status]
  obtain ⟨stored, found, statusNow⟩ := left_of_ever lawful ever left
  refine ⟨stored, ?_, statusNow⟩
  rw [← described.rides, inside.mirrors.shares.tables] at found
  exact found

end Runs

end RideHailing
