import RideHailing.DeploymentRuns

/-!
# What a message handler does, and in which order

A handler looks its ride up before anything else.  It offers a ride only if it has
found it REQUESTED, and only to drivers whom it has put into the dispatched set; it
withdraws the offers of the ride that its message names, and deletes the set when all
others than the assigned driver have been told.  Nobody else touches an offer.
-/

namespace RideHailing

open Background

/-- The ride whose offer a document is. -/
def Payload.offers : Payload → Option String
  | .rideOffer rideId _ _ _ _ _ _ => some rideId
  | _ => none

/-- The ride whose offer a document withdraws. -/
def Payload.withdraws : Payload → Option String
  | .offerCancelled rideId => some rideId
  | _ => none

/-- What a handler has found out and done so far. -/
structure Handling where
  found : Option (Option Ride) := none
  listed : List String := []
  read : Option (List String) := none
  withdrawn : List String := []
  deleted : Bool := false
  closed : Bool := false

namespace Handling

/-- The ride was looked up and found. -/
def Finds (note : Handling) (ride : Ride) : Prop :=
  note.found = some (some ride)

/-- The ride was looked up and found REQUESTED. -/
def FindsWaiting (note : Handling) (rideId : String) : Prop :=
  ∃ ride, note.Finds ride ∧ ride.id = rideId ∧ ride.status = .requested

/-- The handler of a message about a ride may make this call next. -/
def allows (topic : Topic) (rideId : String) (note : Handling) : DeploymentCall → Prop
  | .inl (.rideFindById sought) => sought = rideId
  | .inl (.sseEmit _ event payload) => payload.offers = none ∧
      ∀ withdrawn, payload.withdraws = some withdrawn →
        topic = .rideAccepted ∧ withdrawn = rideId ∧ event = "offer_cancelled"
  | .inl (.sseComplete key) => key = rideId
  | .inr (.dispatchedAdd added _) => topic = .rideRequested ∧ added = rideId ∧
      note.FindsWaiting rideId
  | .inr (.dispatchedExpire _ seconds) => 0 < seconds
  | .inr (.publishOffer driverId payload) => topic = .rideRequested ∧
      payload.offers = some rideId ∧ driverId ∈ note.listed ∧ note.FindsWaiting rideId
  | .inr (.dispatchedMembers sought) => sought = rideId
  | .inr (.dispatchedDelete deleted) => topic = .rideAccepted ∧ deleted = rideId ∧
      ∃ ride members, note.Finds ride ∧ note.read = some members ∧
        ∀ driverId ∈ members, some driverId ≠ ride.driverId → driverId ∈ note.withdrawn
  | .inr (.openStream _) => False
  | _ => True

/-- A row is found under its own id. -/
def answers : (call : DeploymentCall) → Except Fault (DeploymentValue call) → Prop
  | .inl (.rideFindById rideId), .ok (some ride) => ride.id = rideId
  | _, _ => True

def after (note : Handling) :
    (call : DeploymentCall) → Except Fault (DeploymentValue call) → Handling
  | .inl (.rideFindById _), .ok found => { note with found := some found }
  | .inl (.sseEmit key _ payload), .ok _ =>
      if payload.withdraws.isSome then { note with withdrawn := key :: note.withdrawn }
      else note
  | .inl (.sseComplete _), .ok _ => { note with closed := true }
  | .inr (.dispatchedAdd _ driverIds), .ok _ =>
      { note with listed := driverIds ++ note.listed }
  | .inr (.dispatchedMembers _), .ok members => { note with read := some members }
  | .inr (.dispatchedDelete _), .ok _ => { note with deleted := true }
  | _, _ => note

/-- What a handler that has succeeded has done. -/
def Done : Topic → Handling → Prop
  | .rideRequested, _ => True
  | .rideAccepted, note => note.found = some none ∨ note.deleted = true
  | .rideCompleted, note => note.found = some none ∨
      (∃ ride, note.Finds ride ∧ ride.status ≠ .completed) ∨ note.closed = true
  | .rideCancelled, note => note.found = some none ∨ note.closed = true

end Handling

/-- The monitor of the handlers of a message. -/
def handling (topic : Topic) (rideId : String) :
    CallMonitor DeploymentValue Fault Handling where
  start := {}
  allows := Handling.allows topic rideId
  answers := Handling.answers
  after := Handling.after

/-- The handler keeps the order from this note on, and leaves such a note if it
succeeds. -/
abbrev Handles {α : Type} (topic : Topic) (rideId : String) (note : Handling)
    (action : Background α) (returns : α → Handling → Prop) : Prop :=
  (handling topic rideId).Watches action (CallMonitor.Leaves returns fun _ _ => True) note

section Rules

variable {topic : Topic} {rideId : String} {note : Handling} {α β : Type}
variable {action : Background α}

theorem handles_call {call : DeploymentCall} {returns : DeploymentValue call → Handling → Prop}
    (allowed : note.allows topic rideId call)
    (replied : ∀ value, Handling.answers call (.ok value) →
      returns value (note.after call (.ok value))) :
    Handles topic rideId note (Background.call call) returns :=
  CallMonitor.watches_perform allowed replied fun _ _ => trivial

theorem handles_bind {next : α → Background β} {middle : α → Handling → Prop}
    {final : β → Handling → Prop} (first : Handles topic rideId note action middle)
    (second : ∀ result after, middle result after →
      Handles topic rideId after (next result) final) :
    Handles topic rideId note (action >>= next) final :=
  first.andThen second

theorem handles_forEach_from {items : List α} {body : α → Background Unit}
    {inv : List α → Handling → Prop} {done : List α}
    (each : ∀ done item note, item ∈ items → inv done note →
      Handles topic rideId note (body item) fun _ after => inv (done ++ [item]) after)
    (begins : inv done note) :
    Handles topic rideId note (forEach items body) fun _ after => inv (done ++ items) after := by
  induction items generalizing done note with
  | nil =>
      change inv (done ++ []) note
      rwa [List.append_nil]
  | cons item items ih =>
      apply handles_bind (each done item note (by simp) begins)
      intro _ after kept
      have rest := ih (fun done other note otherMem =>
        each done other note (List.mem_cons_of_mem item otherMem)) kept
      rwa [List.append_assoc] at rest

/-- A loop whose body keeps an invariant of the items already done. -/
theorem handles_forEach {items : List α} {body : α → Background Unit}
    (inv : List α → Handling → Prop) (begins : inv [] note)
    (each : ∀ done item note, item ∈ items → inv done note →
      Handles topic rideId note (body item) fun _ after => inv (done ++ [item]) after) :
    Handles topic rideId note (forEach items body) fun _ after => inv items after :=
  handles_forEach_from each begins

/-- The monitor takes no notice of the call. -/
def neutral : DeploymentCall → Bool
  | .inl (.geosearch _ _ _ _) => true
  | .inl (.smismember _) => true
  | .inl (.sseEmit _ _ payload) => payload.offers.isNone && payload.withdraws.isNone
  | .inr (.geopos _) => true
  | _ => false

theorem handles_neutral (only : AwaitProgram.Only (fun call => neutral call = true) action) :
    Handles topic rideId note action fun _ after => after = note := by
  have unnoticed : ∀ call, neutral call = true → note.allows topic rideId call ∧
      ∀ reply, note.after call reply = note := by
    intro call isNeutral
    cases call with
    | inl call =>
        cases call with
        | geosearch _ _ _ _ => exact ⟨trivial, fun reply => rfl⟩
        | smismember _ => exact ⟨trivial, fun reply => rfl⟩
        | sseEmit key event payload =>
            obtain ⟨noOffer, none⟩ : payload.offers = none ∧ payload.withdraws = none := by
              simpa [neutral] using isNeutral
            refine ⟨⟨noOffer, fun withdrawn same => ?_⟩, fun reply => ?_⟩
            · rw [none] at same
              cases same
            · cases reply with
              | ok value => simp [Handling.after, none]
              | error fault => rfl
        | _ => cases isNeutral
    | inr call =>
        cases call with
        | geopos _ => exact ⟨trivial, fun reply => rfl⟩
        | _ => cases isNeutral
  have watched : (handling topic rideId).Watches action (fun _ after => after = note) note :=
    CallMonitor.watches_of_only (only.mono unnoticed)
  apply watched.mono
  intro outcome after same
  cases outcome with
  | ok result => exact same
  | error failure => trivial

end Rules

/-! ## The handlers -/

section Handlers

variable {P : Platform} {W : Wiring} {rideId : String}

theorem compute_handles {α : Type} {topic : Topic} {note : Handling}
    (computed : Except String α) :
    Handles topic rideId note (compute computed) fun _ after => after = note :=
  handles_neutral (only_compute computed)

theorem fanout_handles {ride : Ride} {note : Handling} (found : note.Finds ride)
    (sameRide : ride.id = rideId) (waiting : ride.status = .requested) :
    Handles .rideRequested rideId note (fanoutToNearbyDrivers W ride) fun _ _ => True := by
  unfold fanoutToNearbyDrivers
  apply handles_bind (handles_neutral (only_findNearby rfl fun _ => rfl))
  rintro nearby note rfl
  split
  · trivial
  · have adds : Handles .rideRequested rideId note
        (call (.inr (.dispatchedAdd ride.id (nearby.map NearbyDriver.driverId))))
        fun _ after => after.Finds ride ∧
          ∀ driver ∈ nearby, driver.driverId ∈ after.listed := by
      apply handles_call
      · exact ⟨rfl, sameRide, ride, found, sameRide, waiting⟩
      · intro _ _
        refine ⟨found, fun driver near => ?_⟩
        exact List.mem_append_left _ (List.mem_map_of_mem near)
    apply handles_bind adds
    rintro _ after ⟨foundAfter, listed⟩
    have expires : Handles .rideRequested rideId after
        (call (.inr (.dispatchedExpire ride.id dispatchedTtlSeconds)))
        fun _ later => later = after :=
      handles_call (by decide : 0 < dispatchedTtlSeconds) fun _ _ => rfl
    apply handles_bind expires
    rintro _ after rfl
    have offersAll : Handles .rideRequested rideId after
        (forEach nearby fun driver => do
          let eta ← compute (etaMinutes driver.distanceKm)
          call (.inr (.publishOffer driver.driverId (offerPayload W ride eta))))
        fun _ later => later = after := by
      apply handles_forEach (fun _ later => later = after) rfl
      rintro done driver _ near rfl
      apply handles_bind (compute_handles _)
      rintro eta _ rfl
      apply handles_call
      · exact ⟨rfl, congrArg some sameRide, listed driver near, ride, foundAfter, sameRide,
          waiting⟩
      · intro _ _
        rfl
    apply offersAll.mono
    intro outcome later _
    cases outcome <;> trivial

theorem lookup_handles (topic : Topic) :
    Handles topic rideId {} (call (.inl (.rideFindById rideId))) fun found note =>
      note = { found := some found } ∧ ∀ ride, found = some ride → ride.id = rideId := by
  apply handles_call
  · exact rfl
  · intro found answered
    refine ⟨rfl, fun ride same => ?_⟩
    cases same
    exact answered

theorem requested_handles :
    Handles .rideRequested rideId {} (handleRideRequested W rideId) fun _ _ => True := by
  unfold handleRideRequested
  apply handles_bind (lookup_handles _)
  rintro found note ⟨rfl, sameRide⟩
  cases found with
  | none => trivial
  | some ride =>
      change Handles .rideRequested rideId _ (if _ then _ else _) _
      split
      · trivial
      · rename_i waiting
        exact fanout_handles rfl (sameRide ride rfl) (not_not.mp waiting)

/-- All offers but the assigned driver's are withdrawn. -/
theorem withdrawals_handle {members : List String} {ride : Ride} {note : Handling} :
    Handles .rideAccepted rideId note
      (forEach members fun driverId =>
        if some driverId ≠ ride.driverId then
          call (.inl (.sseEmit driverId "offer_cancelled" (.offerCancelled rideId)))
        else
          pure ())
      fun _ after => after.found = note.found ∧ after.read = note.read ∧
        ∀ driverId ∈ members, some driverId ≠ ride.driverId → driverId ∈ after.withdrawn := by
  apply handles_forEach fun done after => after.found = note.found ∧
    after.read = note.read ∧
      ∀ driverId ∈ done, some driverId ≠ ride.driverId → driverId ∈ after.withdrawn
  · exact ⟨rfl, rfl, by simp⟩
  · rintro done driverId after _ ⟨found, read, told⟩
    split
    · apply handles_call
      · refine ⟨rfl, fun withdrawn same => ?_⟩
        cases same
        exact ⟨rfl, rfl, rfl⟩
      · intro _ _
        refine ⟨found, read, fun other otherMem apart => ?_⟩
        rcases List.mem_append.mp otherMem with before | here
        · exact List.mem_cons_of_mem _ (told other before apart)
        · rw [List.mem_singleton.mp here]
          exact List.mem_cons_self
    · rename_i assigned
      refine ⟨found, read, fun other otherMem apart => ?_⟩
      rcases List.mem_append.mp otherMem with before | here
      · exact told other before apart
      · rw [List.mem_singleton.mp here] at apart
        exact absurd apart assigned

theorem accepted_handles :
    Handles .rideAccepted rideId {} (handleRideAccepted P rideId)
      fun _ note => Handling.Done .rideAccepted note := by
  unfold handleRideAccepted
  apply handles_bind (lookup_handles _)
  rintro found note ⟨rfl, _⟩
  cases found with
  | none => exact Or.inl rfl
  | some ride =>
      apply handles_bind (handles_neutral (only_announceEta (fun _ => rfl) fun _ => rfl))
      rintro _ _ rfl
      have reads : Handles .rideAccepted rideId { found := some (some ride) }
          (call (.inr (.dispatchedMembers rideId))) fun members note =>
            note = { found := some (some ride), read := some members } :=
        handles_call rfl fun _ _ => rfl
      apply handles_bind reads
      rintro members _ rfl
      apply handles_bind withdrawals_handle
      rintro _ note ⟨found, read, told⟩
      apply handles_call
      · exact ⟨rfl, rfl, ride, members, found, read, told⟩
      · intro _ _
        exact Or.inr rfl

theorem completed_handles :
    Handles .rideCompleted rideId {} (handleRideCompleted rideId)
      fun _ note => Handling.Done .rideCompleted note := by
  unfold handleRideCompleted
  apply handles_bind (lookup_handles _)
  rintro found note ⟨rfl, _⟩
  cases found with
  | none => exact Or.inl rfl
  | some ride =>
      change Handles .rideCompleted rideId _ (if _ then _ else _) _
      split
      · rename_i notCompleted
        exact Or.inr (Or.inl ⟨ride, rfl, notCompleted⟩)
      · exact handles_call rfl fun _ _ => Or.inr (Or.inr rfl)

theorem cancelled_handles :
    Handles .rideCancelled rideId {} (handleRideCancelled rideId)
      fun _ note => Handling.Done .rideCancelled note := by
  unfold handleRideCancelled
  apply handles_bind (lookup_handles _)
  rintro found note ⟨rfl, _⟩
  cases found with
  | none => exact Or.inl rfl
  | some ride => exact handles_call rfl fun _ _ => Or.inr rfl

/-- What a handler leaves behind if it succeeds. -/
def Succeeds (topic : Topic) (_ : Request ⊕ Errand) (outcome : Outcome) (note : Handling) :
    Prop :=
  (∃ response, outcome = .ok response) → note.Done topic

/-- Every handler keeps the order. -/
theorem handler_handles (topic : Topic) (rideId : String) :
    (handling topic rideId).Watches (undertaking P W (.inr (.handle topic rideId)))
      (Succeeds topic (.inr (.handle topic rideId))) (handling topic rideId).start := by
  have handles : Handles topic rideId {} (handlers P W topic rideId)
      fun _ note => Handling.Done topic note := by
    cases topic with
    | rideRequested => exact requested_handles
    | rideAccepted => exact accepted_handles
    | rideCompleted => exact completed_handles
    | rideCancelled => exact cancelled_handles
  have responds : Handles topic rideId {} (undertaking P W (.inr (.handle topic rideId)))
      fun _ note => Handling.Done topic note :=
    handles_bind handles fun _ _ done => done
  apply responds.mono
  intro outcome note leaves
  cases outcome with
  | ok response => exact fun _ => leaves
  | error failure =>
      rintro ⟨_, absurd⟩
      cases absurd

end Handlers

/-! ## Everybody else -/

/-- The call deals with an offer. -/
def offering : DeploymentCall → Bool
  | .inr (.dispatchedAdd _ _) => true
  | .inr (.dispatchedExpire _ _) => true
  | .inr (.publishOffer _ _) => true
  | .inr (.dispatchedDelete _) => true
  | .inl (.sseEmit _ _ payload) => payload.offers.isSome || payload.withdraws.isSome
  | _ => false

/-- The monitor of those who have nothing to do with offers. -/
def bystanding : CallMonitor DeploymentValue Fault Unit where
  start := ()
  allows _ call := offering call = false
  answers _ _ := True
  after _ _ _ := ()

/-- The errands that handle no message. -/
def besides : Request ⊕ Errand → Prop
  | .inl _ => False
  | .inr (.handle _ _) => False
  | .inr _ => True

section Everybody

open RideHailing.Action

variable {P : Platform} {W : Wiring}

/-- The background task makes no call that deals with an offer. -/
abbrev Bystands {α : Type} (action : Background α) : Prop :=
  AwaitProgram.Only (fun call => offering call = false) action

theorem retryOnce_bystands (now : Timestamp) : Bystands (retryOnce now) := by
  refine only_andThen (only_perform _ ?_) fun stale => ?_
  · rfl
  · induction stale with
    | nil => trivial
    | cons ride stale ih =>
        refine only_andThen (only_perform _ ?_) fun _ => ih
        rfl

theorem streamDriverLocation_bystands (rideId userId : String) :
    Bystands (streamDriverLocation rideId userId) := by
  refine only_andThen ?_ fun ride => ?_
  · apply AwaitProgram.Only.hosted
    refine only_andThen (only_perform _ ?_) fun found => ?_
    · rfl
    · cases found <;> trivial
  · change Bystands (if _ then _ else _)
    split
    · trivial
    · change Bystands (if _ then _ else _)
      split
      · trivial
      · exact only_perform _ rfl

theorem besides_bystands {request : Request ⊕ Errand} (other : besides request) :
    bystanding.Watches (undertaking P W request) (fun _ _ => True) () := by
  have only : Bystands (undertaking P W request) := by
    cases request with
    | inl request => exact other.elim
    | inr task =>
        refine only_andThen ?_ fun _ => trivial
        cases task with
        | handle topic rideId => exact other.elim
        | retryOnce now => exact retryOnce_bystands now
        | streamDriverLocation rideId userId =>
            exact streamDriverLocation_bystands rideId userId
        | streamOffers userId => exact only_perform _ rfl
  have watched : bystanding.Watches (undertaking P W request) (fun _ after => after = ()) () :=
    CallMonitor.watches_of_only (only.mono fun call quiet => ⟨quiet, fun _ => rfl⟩)
  exact watched.mono fun _ _ _ => trivial

end Everybody

/-! ## Runs -/

/-- The handlers keep their order, and the other errands stay away from offers. -/
structure Dutiful (pool : DeploymentPool) : Prop where
  handlers : ∀ topic rideId, (handling topic rideId).Followed
    (fun request => request = .inr (.handle topic rideId)) (Succeeds topic) pool
  others : bystanding.Followed besides (fun _ _ _ => True) pool

/-- What the task has found out and done, if it is a handler. -/
def noted (pid : Nat) (log : List (Entry DeploymentValue Fault (Request ⊕ Errand))) :
    Handling :=
  (handling .rideRequested "").noteOf pid log

theorem noteOf_handling (topic : Topic) (rideId : String) (pid : Nat)
    (log : List (Entry DeploymentValue Fault (Request ⊕ Errand))) :
    (handling topic rideId).noteOf pid log = noted pid log := by
  induction log with
  | nil => rfl
  | cons entry older ih =>
      unfold noted at ih ⊢
      rw [CallMonitor.noteOf, CallMonitor.noteOf, ih]
      rfl

section Runs

variable {P : Platform} {W : Wiring} {init : Store} {start : Deployment}
variable {events : List DeploymentEvent} {pool : DeploymentPool} {guest : ApplicationPool}

theorem answers_handling {pid : Nat} {broken : Option Fault} {call : DeploymentCall}
    {state after : Deployment} {reply : Except Fault (DeploymentValue call)}
    (answered : (deployment P W).answer pid broken call state = some (reply, after)) :
    Handling.answers call reply := by
  cases call with
  | inr call => cases call <;> cases reply <;> trivial
  | inl call =>
      cases call with
      | rideFindById rideId =>
          rcases answer_inl answered with ⟨_, _, performed, _⟩ | ⟨_, _, _, rfl, _⟩
          · cases performed
            generalize foundEq : state.store.rides.find rideId = found
            cases found with
            | none => trivial
            | some ride => exact KeyedTable.key_of_find foundEq
          · trivial
      | _ => cases reply <;> trivial

theorem dutiful_of_run (ran : Deployment.run P W (Pool.start start) events = some pool) :
    Dutiful pool := by
  constructor
  · intro topic rideId
    apply CallMonitor.followed_of_run answers_handling ?_ (machine_run_of_run ran)
    rintro _ rfl
    exact handler_handles topic rideId
  · exact CallMonitor.followed_of_run (fun _ => trivial) (fun _ => besides_bystands)
      (machine_run_of_run ran)

/-- The application's requests make the application's calls, in their order. -/
theorem Inside.call_of_request (inside : Inside P W init pool guest) {pid : Nat}
    {request : Request} {call : DeploymentCall}
    {resume : Except Fault (DeploymentValue call) →
      AwaitProgram DeploymentCall (fun call => Except Fault (DeploymentValue call)) Outcome}
    (found : pool.tasks[pid]? = some ⟨.inl request, .await call resume⟩) :
    ∃ ownCall note, call = .inl ownCall ∧ Conduct.allows note ownCall := by
  obtain ⟨events, ran⟩ := inside.reached
  obtain ⟨task, foundGuest, mirror⟩ :=
    Hosting.getElem?_of_forall₂ inside.mirrors.tasks found
  generalize taskEq : (⟨.inl request, .await call resume⟩ :
    Task DeploymentValue Fault (Request ⊕ Errand) Outcome) = hostTask at mirror
  cases mirror with
  | request request rest =>
      cases rest with
      | done outcome => cases taskEq
      | await ownCall resume =>
          cases taskEq
          exact ⟨ownCall, _, rfl, (conduct_of_run ran).allows foundGuest trivial⟩
  | errand only => cases taskEq

/-- Only handlers deal with offers. -/
theorem Dutiful.handler_of_offering (dutiful : Dutiful pool)
    (inside : Inside P W init pool guest) {pid : Nat} {request : Request ⊕ Errand}
    {call : DeploymentCall}
    {resume : Except Fault (DeploymentValue call) →
      AwaitProgram DeploymentCall (fun call => Except Fault (DeploymentValue call)) Outcome}
    (found : pool.tasks[pid]? = some ⟨request, .await call resume⟩)
    (offers : offering call = true) :
    ∃ topic rideId, request = .inr (.handle topic rideId) ∧
      (noted pid pool.world.log).allows topic rideId call := by
  have elsewhere : ¬ besides request := by
    intro other
    have quiet : offering call = false := dutiful.others.allows found other
    rw [offers] at quiet
    cases quiet
  cases request with
  | inl request =>
      obtain ⟨ownCall, note, rfl, allowed⟩ := inside.call_of_request found
      cases ownCall with
      | sseEmit key event payload =>
          have locates := allowed.2.2 key event payload rfl
          cases payload with
          | rideOffer _ _ _ _ _ _ _ => cases locates
          | offerCancelled _ => cases locates
          | _ => cases offers
      | _ => cases offers
  | inr task =>
      cases task with
      | handle topic rideId =>
          have allowed := (dutiful.handlers topic rideId).allows found rfl
          rw [noteOf_handling] at allowed
          exact ⟨topic, rideId, rfl, allowed⟩
      | _ => exact absurd trivial elsewhere

end Runs

end RideHailing
