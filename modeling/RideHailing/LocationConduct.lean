import RideHailing.ConsumerConduct

/-!
# Who says where a driver is

The location of a driver is emitted by the request that updates it, on the ride that this
request has found, and a location stream is opened by a task that has found the caller to
be the rider.  Nobody else emits locations or opens the stream of a ride.
-/

namespace RideHailing

open RideHailing.Action Background

/-- What a task has found out: the ride that its driver serves, and the ride that it has
looked up. -/
structure Sharing where
  serving : Option Ride := none
  found : Option Ride := none

namespace Sharing

/-- The task of this request may make this call next. -/
def allows (request : Request ⊕ Errand) (note : Sharing) : DeploymentCall → Prop
  | .inl (.sseEmit key event payload) => event = "driver_location" →
      ∃ driverId lat lng eta ride, request = .inl (.updateLocation driverId lat lng) ∧
        note.serving = some ride ∧ key = ride.id ∧ payload = .driverLocation lat lng eta
  | .inl (.rideFindFirstByDriverIdAndStatusIn driverId statuses) =>
      statuses = servingRideStatuses ∧
        ∃ lat lng, request = .inl (.updateLocation driverId lat lng)
  | .inr (.openStream key) => request = .inr (.streamOffers key) ∨
      ∃ ride, note.found = some ride ∧ key = ride.id ∧
        request = .inr (.streamDriverLocation ride.id ride.riderId)
  | _ => True

def after (note : Sharing) :
    (call : DeploymentCall) → Except Fault (DeploymentValue call) → Sharing
  | .inl (.rideFindFirstByDriverIdAndStatusIn _ _), .ok serving =>
      { note with serving := serving }
  | .inl (.rideFindById _), .ok found => { note with found := found }
  | _, _ => note

end Sharing

/-- The monitor of whoever may say where a driver is. -/
def sharing (request : Request ⊕ Errand) :
    CallMonitor DeploymentValue Fault Sharing where
  start := {}
  allows := Sharing.allows request
  answers := Handling.answers
  after := Sharing.after

/-- The request's service makes calls that the monitor allows. -/
abbrev Shares {α : Type} (request : Request ⊕ Errand) (note : Sharing) (action : Service α)
    (returns : α → Sharing → Prop) : Prop :=
  (sharing request).guest.Watches action (CallMonitor.Leaves returns fun _ _ => True) note

section Requests

variable {P : Platform} {request : Request ⊕ Errand} {note : Sharing} {α : Type}

theorem allowed_of_untracking {call : Call} (untracking : call.tracks = false) :
    ∀ note : Sharing, note.allows request (.inl call) := by
  intro note
  cases call <;> trivial

theorem shares_of_untracking {action : Service α} (untracking : Untracking action) :
    Shares request note action fun _ _ => True := by
  have watched : (sharing request).guest.Watches action (fun _ _ => True) note :=
    CallMonitor.watches_of_allowed (untracking.mono fun _ => allowed_of_untracking)
  apply watched.mono
  intro outcome after _
  cases outcome <;> trivial

theorem shares_compute (computed : Except String α) :
    Shares request note (Service.compute computed) fun _ after => after = note := by
  cases computed with
  | ok value => exact rfl
  | error name => trivial

/-- The location is emitted on the ride that was found for the driver. -/
theorem updateLocation_shares (driverId : String) (lat lng : Float64) :
    Shares (.inl (.updateLocation driverId lat lng)) note
      (DriverService.updateLocation P driverId lat lng) fun _ _ => True := by
  unfold DriverService.updateLocation
  apply (shares_of_untracking (getProfile_ordinary driverId).untracking).andThen
  intro _ note _
  apply (shares_of_untracking (untracking_call rfl)).andThen
  intro _ note _
  have looksUp : Shares (.inl (.updateLocation driverId lat lng)) note
      (Service.call (.rideFindFirstByDriverIdAndStatusIn driverId servingRideStatuses))
      fun serving note => note.serving = serving :=
    CallMonitor.watches_perform ⟨rfl, lat, lng, rfl⟩ (fun _ _ => rfl) fun _ _ => trivial
  apply looksUp.andThen
  intro serving note found
  cases serving with
  | none => trivial
  | some ride =>
      apply (shares_compute _).andThen
      rintro distanceKm _ rfl
      apply (shares_compute _).andThen
      rintro eta note rfl
      apply CallMonitor.watches_perform
      · intro _
        exact ⟨driverId, lat, lng, eta, ride, rfl, found, rfl, rfl⟩
      · intro _ _
        trivial
      · intro _ _
        trivial

/-- The ride that was looked up has this identifier. -/
theorem getRide_shares (rideId : String) :
    Shares request note (RideService.getRide rideId)
      fun ride note => note.found = some ride ∧ ride.id = rideId := by
  unfold RideService.getRide
  have looksUp : Shares request note (Service.call (.rideFindById rideId))
      fun found note => note.found = found ∧ ∀ ride, found = some ride → ride.id = rideId := by
    apply CallMonitor.watches_perform
    · trivial
    · intro found answered
      refine ⟨rfl, ?_⟩
      rintro ride rfl
      exact answered
    · intro _ _
      trivial
  apply looksUp.andThen
  rintro found note ⟨noted, sameRide⟩
  cases found with
  | none => trivial
  | some ride => exact ⟨noted, sameRide ride rfl⟩

end Requests

section Everybody

variable {P : Platform} {W : Wiring} {request : Request ⊕ Errand} {note : Sharing}

theorem allowed_of_inBackground {call : DeploymentCall}
    (inBackground : call.inBackground = true) :
    ∀ note : Sharing, note.allows request call := by
  intro note
  cases call with
  | inl call =>
      cases call with
      | sseEmit key event payload =>
          intro located
          exact absurd located (of_decide_eq_true inBackground)
      | rideFindFirstByDriverIdAndStatusIn driverId statuses => cases inBackground
      | _ => trivial
  | inr call =>
      cases call with
      | openStream key => cases inBackground
      | _ => trivial

/-- The stream of a ride is opened after its rider was found to be the caller. -/
theorem streamDriverLocation_shares (rideId userId : String) :
    (sharing (.inr (.streamDriverLocation rideId userId))).Watches
      (streamDriverLocation rideId userId)
      (CallMonitor.Leaves (fun _ _ => True) fun _ _ => True) note := by
  apply CallMonitor.Watches.andThen (CallMonitor.watches_hosted (getRide_shares rideId))
  rintro ride note ⟨noted, rfl⟩
  by_cases rider : ride.riderId = userId
  · subst rider
    by_cases trackable : ride.status ∈ trackableStatuses
    · simp only [ne_eq, not_true_eq_false, if_false, trackable]
      apply CallMonitor.watches_perform
      · exact Or.inr ⟨ride, noted, rfl, rfl⟩
      · intro _ _
        trivial
      · intro _ _
        trivial
    · simp only [ne_eq, not_true_eq_false, if_false, trackable, not_false_eq_true, if_true]
      trivial
  · simp only [ne_eq, rider, not_false_eq_true, if_true]
    trivial

/-- Every request and every errand obeys the monitor. -/
theorem undertaking_shares (request : Request ⊕ Errand) :
    (sharing request).Watches (undertaking P W request) (fun _ _ => True)
      (sharing request).start := by
  have finishes : ∀ {action : Background Response},
      (sharing request).Watches action
          (CallMonitor.Leaves (fun _ _ => True) fun _ _ => True) (sharing request).start →
        (sharing request).Watches action (fun _ _ => True) (sharing request).start :=
    fun watches => watches.mono fun _ _ _ => trivial
  cases request with
  | inl request =>
      by_cases located : ∃ driverId lat lng, request = .updateLocation driverId lat lng
      · obtain ⟨driverId, lat, lng, rfl⟩ := located
        apply finishes
        apply CallMonitor.watches_hosted
        exact (updateLocation_shares driverId lat lng).andThen fun _ _ _ => trivial
      · have untracking : Untracking (handler P request) :=
          handler_untracking fun driverId lat lng same => located ⟨driverId, lat, lng, same⟩
        apply finishes
        exact CallMonitor.watches_hosted (shares_of_untracking untracking)
  | inr task =>
      have steady : InBackground (undertaking P W (.inr task)) →
          (sharing (.inr task)).Watches (undertaking P W (.inr task)) (fun _ _ => True)
            (sharing (.inr task)).start := fun only =>
        CallMonitor.watches_of_allowed (only.mono fun _ => allowed_of_inBackground)
      cases task with
      | handle topic rideId =>
          exact steady (only_andThen (handlers_inBackground topic rideId) fun _ => trivial)
      | retryOnce now =>
          exact steady (only_andThen (retryOnce_inBackground now) fun _ => trivial)
      | streamDriverLocation rideId userId =>
          apply finishes
          exact (streamDriverLocation_shares rideId userId).andThen fun _ _ _ => trivial
      | streamOffers userId =>
          apply finishes
          have opens : (sharing (.inr (.streamOffers userId))).Watches (streamOffers userId)
              (CallMonitor.Leaves (fun _ _ => True) fun _ _ => True)
              (sharing (.inr (.streamOffers userId))).start :=
            CallMonitor.watches_perform (Or.inl rfl) (fun _ _ => trivial) fun _ _ => trivial
          exact opens.andThen fun _ _ _ => trivial

end Everybody

/-! ## Runs -/

/-- What a task has found out, by the calls in the history. -/
def sharingOf (pid : Nat) (log : List (Entry DeploymentValue Fault (Request ⊕ Errand))) :
    Sharing :=
  (sharing (.inr (.streamOffers ""))).noteOf pid log

theorem noteOf_sharing (request : Request ⊕ Errand) (pid : Nat)
    (log : List (Entry DeploymentValue Fault (Request ⊕ Errand))) :
    (sharing request).noteOf pid log = sharingOf pid log := by
  induction log with
  | nil => rfl
  | cons entry older ih =>
      unfold sharingOf at ih ⊢
      rw [CallMonitor.noteOf, CallMonitor.noteOf, ih]
      rfl

/-- In every run every task is allowed the call that it makes next. -/
theorem allowed_of_run {P : Platform} {W : Wiring} {start : Deployment}
    {events : List DeploymentEvent} {pool : DeploymentPool}
    (ran : Deployment.run P W (Pool.start start) events = some pool)
    {pid : Nat} {request : Request ⊕ Errand} {call : DeploymentCall}
    {resume : Except Fault (DeploymentValue call) →
      AwaitProgram DeploymentCall (fun call => Except Fault (DeploymentValue call)) Outcome}
    (found : pool.tasks[pid]? = some ⟨request, .await call resume⟩) :
    (sharingOf pid pool.world.log).allows request call := by
  have followed : (sharing request).Followed (fun other => other = request)
      (fun _ _ _ => True) pool := by
    apply CallMonitor.followed_of_run answers_handling ?_ (machine_run_of_run ran)
    rintro _ rfl
    exact undertaking_shares _
  have allowed := followed.allows found rfl
  rwa [noteOf_sharing] at allowed

/-- The ride that a call finds for a driver to serve. -/
def Entry.served? : Entry DeploymentValue Fault (Request ⊕ Errand) → Option Ride
  | ⟨_, _, .inl (.rideFindFirstByDriverIdAndStatusIn _ _), .ok serving⟩ => serving
  | _ => none

/-- The ride that a call finds by its identifier. -/
def Entry.foundRide? : Entry DeploymentValue Fault (Request ⊕ Errand) → Option Ride
  | ⟨_, _, .inl (.rideFindById _), .ok found⟩ => found
  | _ => none

/-- What the note records, a call of the task has found. -/
structure Sharing.FoundIn (note : Sharing) (pid : Nat)
    (log : List (Entry DeploymentValue Fault (Request ⊕ Errand))) : Prop where
  serving : ∀ ride, note.serving = some ride →
    ∃ entry ∈ log, entry.pid = pid ∧ entry.served? = some ride
  found : ∀ ride, note.found = some ride →
    ∃ entry ∈ log, entry.pid = pid ∧ entry.foundRide? = some ride

theorem Sharing.FoundIn.cons {note : Sharing} {pid : Nat}
    {entry : Entry DeploymentValue Fault (Request ⊕ Errand)}
    {older : List (Entry DeploymentValue Fault (Request ⊕ Errand))}
    (foundIn : note.FoundIn pid older) : note.FoundIn pid (entry :: older) := by
  constructor
  · intro ride noted
    obtain ⟨other, otherMem, finds⟩ := foundIn.serving ride noted
    exact ⟨other, List.mem_cons_of_mem entry otherMem, finds⟩
  · intro ride noted
    obtain ⟨other, otherMem, finds⟩ := foundIn.found ride noted
    exact ⟨other, List.mem_cons_of_mem entry otherMem, finds⟩

theorem foundIn_sharingOf (pid : Nat)
    (log : List (Entry DeploymentValue Fault (Request ⊕ Errand))) :
    (sharingOf pid log).FoundIn pid log := by
  induction log with
  | nil =>
      constructor
      · intro ride noted
        cases noted
      · intro ride noted
        cases noted
  | cons entry older ih =>
      have noteEq : sharingOf pid (entry :: older) =
          if entry.pid = pid then (sharingOf pid older).after entry.call entry.reply
          else sharingOf pid older := rfl
      rw [noteEq]
      split
      · rename_i own
        obtain ⟨actor, request, call, reply⟩ := entry
        cases call with
        | inl call =>
            cases call with
            | rideFindFirstByDriverIdAndStatusIn driverId statuses =>
                cases reply with
                | ok serving =>
                    constructor
                    · intro ride noted
                      exact ⟨_, List.mem_cons_self, own, noted⟩
                    · exact ih.cons.found
                | error fault => exact ih.cons
            | rideFindById rideId =>
                cases reply with
                | ok found =>
                    constructor
                    · exact ih.cons.serving
                    · intro ride noted
                      exact ⟨_, List.mem_cons_self, own, noted⟩
                | error fault => exact ih.cons
            | _ => exact ih.cons
        | inr call => exact ih.cons
      · exact ih.cons

end RideHailing
