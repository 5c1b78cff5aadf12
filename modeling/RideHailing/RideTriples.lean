import RideHailing.ServiceTriples

/-!
# Rides: request, accept, start, complete, cancel

The five methods of the ride service as tasks among others.  Besides the law,
each keeps a guarantee about its own entries: a transition that returns has
committed a row, an accept that took a driver commits the ride unless the
infrastructure fails, and a completed ride has released its driver.
-/

namespace RideHailing

variable {P : Platform} {init : Store} {pid : Nat} {request : Request}

/-- The task has written this availability of the driver. -/
def HasMarked (pid : Nat) (userId : String) (available : Bool) (log : History) :
    Prop :=
  ∃ entry ∈ log, entry.pid = pid ∧ Marks userId available entry

theorem framed_noRide :
    Framed P init pid request (NoneOwn pid savesRide) :=
  framed_own fun call reply quiet => by
    rw [savesRide, savedRide_of_quiet reply quiet]
    rfl

theorem framed_noDriver :
    Framed P init pid request (NoneOwn pid savesDriver) :=
  framed_own fun call reply quiet => by
    rw [savesDriver, savedDriver_of_quiet reply quiet]
    rfl

theorem framed_noUser :
    Framed P init pid request (NoneOwn pid savesUser) :=
  framed_own fun call reply quiet => by
    rw [savesUser, savedUser_of_quiet reply quiet]
    rfl

theorem framed_noRating :
    Framed P init pid request (NoneOwn pid savesRating) :=
  framed_own fun call reply quiet => by
    rw [savesRating, savedRating_of_quiet reply quiet]
    rfl

theorem exists_mem_cons {property : HistoryEntry → Prop} {log : History}
    (entry : HistoryEntry) (made : ∃ old ∈ log, property old) :
    ∃ old ∈ entry :: log, property old :=
  made.imp fun _ holds => ⟨List.mem_cons_of_mem entry holds.1, holds.2⟩

theorem framed_broken : Framed P init pid request (Broken pid) :=
  framed_exists_mem _

theorem framed_committed (rideId : String) :
    Framed P init pid request (Committed pid rideId) :=
  framed_exists_mem _

theorem framed_hasMarked (userId : String) (available : Bool) :
    Framed P init pid request (HasMarked pid userId available) :=
  framed_exists_mem _

/-! ## Writing a ride -/

theorem committed_cons {ride : Ride} {value : Ride} (log : History) :
    Committed pid ride.id (⟨pid, request, .rideSave ride, .ok value⟩ :: log) :=
  ⟨_, List.mem_cons_self, rfl, ride, Entry.rideAt_eq_some.mpr ⟨rfl, rfl⟩⟩

/-- The row a transition computes is lawful after the read. -/
theorem rideLaw_of_moves {rideId : String} {seen ride : Ride} {log : History}
    (moved : request.rideMoved = some rideId)
    (read : rideSeen init pid rideId log = some seen)
    (moves : Moves request seen ride) : RideLaw init pid request log ride := by
  have idEq : ride.id = rideId := moves.id.trans (everRide_of_seen read).id
  exact Or.inr ⟨by rw [idEq, moved], seen, by rw [idEq, read], moves⟩

/-- Apart from accepts and cancellations, a save has to be lawful for its row only. -/
theorem law_rideSave {ride : Ride} {reply : Except Fault Ride} {log : History}
    (acceptsNone : ∀ rideId driverId, request ≠ .acceptRide rideId driverId)
    (cancelsNone : ∀ rideId userId, request ≠ .cancelRide rideId userId)
    (rideLaw : RideLaw init pid request log ride) :
    law init ⟨pid, request, .rideSave ride, reply⟩ log :=
  ⟨rideLaw, fun rideId driverId accepts => absurd accepts (acceptsNone rideId driverId),
    fun rideId userId cancels => absurd cancels (cancelsNone rideId userId)⟩

/-! ## `request_ride` -/

theorem requestRide_triple {newId : String} {now : Timestamp} {riderId : String}
    {pickupLat pickupLng dropoffLat dropoffLng : Float64}
    (requestEq : request = .requestRide newId now riderId pickupLat pickupLng
      dropoffLat dropoffLng) :
    (rules P init).Triple pid request
      (fun log => storedRide init newId log = none)
      (RideService.requestRide P newId now riderId pickupLat pickupLng
        dropoffLat dropoffLng)
      (fun _ _ => True) (fun _ _ => True) := by
  have framed : Framed P init pid request
      fun log => storedRide init newId log = none :=
    framed_newRide (by simp [requestEq, Request.draws])
  unfold RideService.requestRide
  refine (quiet_triple rfl framed fun _ _ _ => trivial).bind fun active => ?_
  simp only [reject_bind]
  refine guard_triple (fun _ _ _ => trivial) fun _ => ?_
  refine (calculateFare_triple framed fun _ _ _ => trivial).bind
    fun estimatedFare => ?_
  have saves : (rules P init).Triple pid request
      (fun log => storedRide init newId log = none)
      (Service.call (.rideSave {
        riderId := riderId, pickupLat := pickupLat, pickupLng := pickupLng,
        dropoffLat := dropoffLat, dropoffLng := dropoffLng, id := newId,
        estimatedFare := some estimatedFare, requestedAt := now }))
      (fun _ _ => True) (fun _ _ => True) := by
    apply rideSave_triple framed.stable ?_ (fun _ _ _ _ => trivial)
      (fun _ _ _ _ => trivial)
    intro log reply _ absent
    apply law_rideSave (by simp [requestEq]) (by simp [requestEq])
    exact Or.inl ⟨estimatedFare, by rw [requestEq]; rfl, absent⟩
  refine saves.bind fun saved => ?_
  refine (quiet_triple rfl (framed_const True) fun _ _ _ => trivial).bind fun _ => ?_
  exact HistoryRules.triple_pure fun _ _ _ => trivial

/-! ## `start_ride` -/

theorem startRide_triple {rideId driverId : String}
    (requestEq : request = .startRide rideId driverId) :
    (rules P init).Triple pid request (fun _ => True)
      (RideService.startRide rideId driverId)
      (fun _ => Committed pid rideId) (fun _ _ => True) := by
  unfold RideService.startRide
  refine (getRide_triple (HistoryRules.stable_const True) (fun _ _ _ => trivial)
    fun _ _ _ => trivial).bind fun ride => ?_
  simp only [reject_bind]
  refine guard_triple (fun _ _ _ => trivial) fun matched => ?_
  refine guard_triple (fun _ _ _ => trivial) fun assigned => ?_
  have moves : Moves request ride { ride with
      status := .inProgress, version := ride.version + 1 } := by
    rw [requestEq]
    exact .start (not_not.mp matched) (not_not.mp assigned)
  apply rideSave_triple
      ((framed_const True).and (framed_rideSeen rideId ride)).stable
  · intro log reply _ holds
    apply law_rideSave (by simp [requestEq]) (by simp [requestEq])
    exact rideLaw_of_moves (by rw [requestEq]; rfl) holds.2 moves
  · intro log value _ holds
    rw [← (everRide_of_seen holds.2).id]
    exact committed_cons log
  · intro _ _ _ _
    trivial

/-! ## `complete_ride` -/

/-- The ride has given its driver back, unless its driver was never taken. -/
def Released (init : Store) (rideId userId : String) (log : History) : Prop :=
  init.DriverlessRequests →
    Taken init rideId log ∧ ¬ HeldBy rideId userId log

theorem framed_released (rideId userId : String) :
    Framed P init pid request (Released init rideId userId) :=
  ⟨HistoryRules.stable_imp (framed_givenBack rideId userId).stable,
    fun call reply log quiet holds driverless =>
      (framed_givenBack (P := P) rideId userId).quiet call reply log quiet
        (holds driverless)⟩

/-- A request that accepts no ride releases the driver it writes. -/
theorem released_cons {rideId : String} {driver : Driver}
    {value : Driver} {log : History} (accepts : ∀ rideId, ¬ request.Accepts rideId)
    (taken : init.DriverlessRequests → Taken init rideId log) :
    Released init rideId driver.userId
      (⟨pid, request, .driverMerge driver, .ok value⟩ :: log) := by
  intro driverless
  refine ⟨(taken driverless).cons, ?_⟩
  rintro ⟨writer, written, writerAccepts⟩
  rw [driverWriter_cons, Entry.driverAt_eq_some.mpr ⟨rfl, rfl⟩] at written
  cases written
  exact accepts rideId writerAccepts

theorem completeRide_triple {rideId driverId : String} {now : Timestamp}
    (requestEq : request = .completeRide rideId driverId now) :
    (rules P init).Triple pid request (NoneOwn pid savesRide)
      (RideService.completeRide rideId driverId now)
      (fun _ log => Committed pid rideId log ∧ Released init rideId driverId log)
      (fun _ log => Broken pid log ∨ NoneOwn pid savesRide log ∨
        Released init rideId driverId log) := by
  have acceptsNone : ∀ rideId, ¬ request.Accepts rideId := by
    rintro otherId ⟨otherDriver, accepts⟩
    rw [requestEq] at accepts
    cases accepts
  unfold RideService.completeRide
  refine (getRide_triple framed_noRide.stable
    (fun reply _ holds => holds.cons (by cases reply <;> rfl))
    fun _ _ holds => Or.inr (Or.inl holds)).bind fun ride => ?_
  simp only [reject_bind]
  refine guard_triple (fun _ _ holds => Or.inr (Or.inl holds.1)) fun inProgress => ?_
  refine guard_triple (fun _ _ holds => Or.inr (Or.inl holds.1)) fun assigned => ?_
  have moves : Moves request ride { ride with
      status := .completed, fare := ride.estimatedFare, completedAt := some now,
      version := ride.version + 1 } := by
    rw [requestEq]
    exact .complete (not_not.mp inProgress) (not_not.mp assigned)
  have saves : (rules P init).Triple pid request
      (fun log => NoneOwn pid savesRide log ∧ rideSeen init pid rideId log = some ride)
      (Service.call (.rideSave { ride with
        status := .completed, fare := ride.estimatedFare, completedAt := some now,
        version := ride.version + 1 }))
      (fun _ log => Committed pid rideId log ∧
        (init.DriverlessRequests → Taken init rideId log))
      (fun _ log => Broken pid log ∨ NoneOwn pid savesRide log ∨
        Released init rideId driverId log) := by
    apply rideSave_triple (framed_noRide.and (framed_rideSeen rideId ride)).stable
    · intro log reply _ holds
      apply law_rideSave (by simp [requestEq]) (by simp [requestEq])
      exact rideLaw_of_moves (by rw [requestEq]; rfl) holds.2 moves
    · intro log value lawfulLog holds
      have ever := everRide_of_seen holds.2
      refine ⟨?_, fun driverless => ?_⟩
      · rw [← ever.id]
        exact committed_cons log
      · exact (taken_of_driverId driverless lawfulLog ever (not_not.mp assigned)).cons
    · intro _ _ _ _
      exact Or.inl broken_outage
  refine saves.bind fun saved => ?_
  have framedTaken : Framed P init pid request fun log =>
      init.DriverlessRequests → Taken init rideId log :=
    framed_forall fun _ => framed_taken rideId
  have framedDone : Framed P init pid request fun log =>
      Committed pid rideId log ∧ Released init rideId driverId log :=
    (framed_committed rideId).and (framed_released rideId driverId)
  have releases : (rules P init).Triple pid request
      (fun log => Committed pid rideId log ∧
        (init.DriverlessRequests → Taken init rideId log))
      (DriverService.markAvailableById driverId)
      (fun _ log => Committed pid rideId log ∧ Released init rideId driverId log)
      (fun _ log => Broken pid log ∨ NoneOwn pid savesRide log ∨
        Released init rideId driverId log) := by
    apply markById_triple ((framed_committed rideId).and framedTaken) ?_ ?_
      framedDone ?_ fun _ _ _ _ => Or.inl broken_outage
    · intro log driver _ _ idEq availability
      rw [requestEq]
      exact ⟨idEq, availability⟩
    · intro log driver value _ holds idEq _
      refine ⟨exists_mem_cons _ holds.1, ?_⟩
      rw [← idEq]
      exact released_cons acceptsNone holds.2
    · intro failure log _ holds absent
      exact Or.inr (Or.inr fun driverless =>
        ⟨holds.2 driverless, not_heldBy_of_absent absent⟩)
  refine releases.bind fun _ => ?_
  refine (steady_triple rfl rfl framedDone fun _ _ _ _ =>
    Or.inl broken_outage).bind fun _ => ?_
  exact HistoryRules.triple_pure fun _ _ holds => holds

/-! ## `cancel_ride` -/

theorem cancelSave_triple {rideId userId : String} {ride : Ride}
    (requestEq : request = .cancelRide rideId userId)
    (cancellable : ride.status ≠ .inProgress ∧ ride.status ≠ .completed)
    (participant : ride.riderId = userId ∨ ride.driverId = some userId)
    (framed : Framed P init pid request pre)
    (read : ∀ log, pre log → rideSeen init pid rideId log = some ride)
    (freed : ∀ log driverId, pre log → ride.driverId = some driverId →
      Released init rideId driverId log) :
    (rules P init).Triple pid request pre
      (do
        let saved ← Service.call (.rideSave { ride with
          status := .cancelled, version := ride.version + 1 })
        Service.call (.publish .rideCancelled saved.id)
        return saved)
      (fun _ => Committed pid rideId) (fun _ _ => True) := by
  have moves : Moves request ride { ride with
      status := .cancelled, version := ride.version + 1 } := by
    rw [requestEq]
    exact .cancel cancellable participant
  have saves : (rules P init).Triple pid request pre
      (Service.call (.rideSave { ride with
        status := .cancelled, version := ride.version + 1 }))
      (fun _ => Committed pid rideId) (fun _ _ => True) := by
    apply rideSave_triple framed.stable
    · intro log reply _ holds
      refine ⟨rideLaw_of_moves (by rw [requestEq]; rfl) (read log holds) moves, ?_, ?_⟩
      · intro otherId otherDriver accepts
        rw [requestEq] at accepts
        cases accepts
      · intro otherId otherUser cancels driverless seen driverId seenEq assigned
        rw [requestEq] at cancels
        cases cancels
        rw [read log holds] at seenEq
        cases seenEq
        exact (freed log driverId holds assigned driverless).2
    · intro log value _ holds
      rw [← (everRide_of_seen (read log holds)).id]
      exact committed_cons log
    · intro _ _ _ _
      trivial
  refine saves.bind fun saved => ?_
  refine (quiet_triple rfl (framed_committed rideId) fun _ _ _ => trivial).bind
    fun _ => ?_
  exact HistoryRules.triple_pure fun _ _ holds => holds

theorem cancelRide_triple {rideId userId : String}
    (requestEq : request = .cancelRide rideId userId) :
    (rules P init).Triple pid request (fun _ => True)
      (RideService.cancelRide rideId userId)
      (fun _ => Committed pid rideId) (fun _ _ => True) := by
  have acceptsNone : ∀ rideId, ¬ request.Accepts rideId := by
    rintro otherId ⟨otherDriver, accepts⟩
    rw [requestEq] at accepts
    cases accepts
  unfold RideService.cancelRide
  refine (getRide_triple (HistoryRules.stable_const True) (fun _ _ _ => trivial)
    fun _ _ _ => trivial).bind fun ride => ?_
  simp only [reject_bind]
  refine guard_triple (fun _ _ _ => trivial) fun cancellable => ?_
  refine guard_triple (fun _ _ _ => trivial) fun participant => ?_
  have cancellable' : ride.status ≠ .inProgress ∧ ride.status ≠ .completed :=
    not_or.mp cancellable
  have participant' : ride.riderId = userId ∨ ride.driverId = some userId := by
    rw [not_and_or, not_not, not_not] at participant
    exact participant
  have framedRead : Framed P init pid request fun log =>
      True ∧ rideSeen init pid rideId log = some ride :=
    (framed_const True).and (framed_rideSeen rideId ride)
  split
  · rename_i unassigned
    apply cancelSave_triple requestEq cancellable' participant' framedRead
    · intro log holds
      exact holds.2
    · intro log driverId _ assigned
      rw [unassigned] at assigned
      cases assigned
  · rename_i driverId assigned
    have framedFreed : Framed P init pid request fun log =>
        rideSeen init pid rideId log = some ride ∧
          Released init rideId driverId log :=
      (framed_rideSeen rideId ride).and (framed_released rideId driverId)
    have releases : (rules P init).Triple pid request
        (fun log => True ∧ rideSeen init pid rideId log = some ride)
        (DriverService.markAvailableById driverId)
        (fun _ log => rideSeen init pid rideId log = some ride ∧
          Released init rideId driverId log)
        (fun _ _ => True) := by
      apply markById_triple framedRead ?_ ?_ framedFreed
        (fun _ _ _ _ _ => trivial) (fun _ _ _ _ => trivial)
      · intro log driver _ holds idEq availability
        rw [requestEq]
        exact ⟨⟨ride, holds.2, by rw [assigned, idEq]⟩, availability⟩
      · intro log driver value lawfulLog holds idEq _
        refine ⟨holds.2, ?_⟩
        rw [← idEq]
        apply released_cons acceptsNone
        intro driverless
        exact taken_of_driverId driverless lawfulLog (everRide_of_seen holds.2) assigned
    refine releases.bind fun _ => ?_
    apply cancelSave_triple requestEq cancellable' participant' framedFreed
    · intro log holds
      exact holds.1
    · intro log otherId holds otherAssigned
      rw [assigned] at otherAssigned
      cases otherAssigned
      exact holds.2

/-! ## `accept_ride` -/

/-- The task has written that the driver is taken. -/
def HasTaken (pid : Nat) (driverId : String) (log : History) : Prop :=
  ∃ entry ∈ log, entry.pid = pid ∧ Takes driverId entry

theorem framed_hasTaken (driverId : String) :
    Framed P init pid request (HasTaken pid driverId) :=
  framed_exists_mem _

/-- How an accept ends that raises: no driver was taken, or the infrastructure
failed. -/
def AcceptRaises (pid : Nat) (log : History) : Prop :=
  Broken pid log ∨ NoneOwn pid savesDriver log

/-- What `accept_ride` knows once it has found the ride REQUESTED. -/
def Acceptable (init : Store) (pid : Nat) (rideId : String) (ride : Ride)
    (log : History) : Prop :=
  (lockOwner log = some pid ∧ ¬ Taken init rideId log) ∧
    rideSeen init pid rideId log = some ride

theorem framed_acceptable (rideId : String) (ride : Ride) :
    Framed P init pid request (Acceptable init pid rideId ride) :=
  (framed_untaken rideId).and (framed_rideSeen rideId ride)

/-- The part of `accept_ride` that runs once the driver is known to be
available. -/
theorem acceptWrites_triple {rideId driverId : String} {ride : Ride}
    (requestEq : request = .acceptRide rideId driverId)
    (requested : ride.status = .requested) :
    (rules P init).Triple pid request
      (fun log => Acceptable init pid rideId ride log ∧ NoneOwn pid savesDriver log ∧
        lockOwner log = some pid ∧ Rearmed driverId log)
      (do
        let _ ← DriverService.markUnavailableById driverId
        let saved ← Service.call (.rideSave { ride with
          driverId := some driverId, status := .matched, version := ride.version + 1 })
        Service.call (.publish .rideAccepted saved.id)
        return saved)
      (fun _ log => lockOwner log = some pid ∧ Committed pid rideId log ∧
        HasTaken pid driverId log)
      (fun _ log => lockOwner log = some pid ∧ AcceptRaises pid log) := by
  have framedBefore : Framed P init pid request fun log =>
      Acceptable init pid rideId ride log ∧ NoneOwn pid savesDriver log ∧
        lockOwner log = some pid ∧ Rearmed driverId log :=
    (framed_acceptable rideId ride).and (framed_noDriver.and (framed_rearmed driverId))
  have framedTaken : Framed P init pid request fun log =>
      Acceptable init pid rideId ride log ∧ HasTaken pid driverId log :=
    (framed_acceptable rideId ride).and (framed_hasTaken driverId)
  have framedDone : Framed P init pid request fun log =>
      lockOwner log = some pid ∧ Committed pid rideId log ∧ HasTaken pid driverId log :=
    framed_owned.and ((framed_committed rideId).and (framed_hasTaken driverId))
  have takes : (rules P init).Triple pid request
      (fun log => Acceptable init pid rideId ride log ∧ NoneOwn pid savesDriver log ∧
        lockOwner log = some pid ∧ Rearmed driverId log)
      (DriverService.markUnavailableById driverId)
      (fun _ log => Acceptable init pid rideId ride log ∧ HasTaken pid driverId log)
      (fun _ log => lockOwner log = some pid ∧ AcceptRaises pid log) := by
    apply markById_triple framedBefore ?_ ?_ framedTaken
    · intro failure log _ holds _
      exact ⟨holds.1.1.1, Or.inr holds.2.1⟩
    · rintro failure call log (holds | holds)
      · exact ⟨holds.1.1.1, Or.inl broken_outage⟩
      · exact ⟨holds.1.1.1, Or.inl broken_outage⟩
    · intro log driver _ holds idEq availability
      rw [requestEq]
      exact ⟨idEq, availability, holds.1.1.1, holds.1.1.2, holds.2.2.2⟩
    · intro log driver value _ holds idEq unavailable
      refine ⟨⟨⟨holds.1.1.1, fun taken => ?_⟩, holds.1.2⟩, ?_⟩
      · rcases taken_cons.mp taken with ⟨_, committed⟩ | before
        · exact committed rfl
        · exact holds.1.1.2 before
      · exact ⟨_, List.mem_cons_self, rfl, ⟨rideId, requestEq⟩, driver,
          Entry.driverAt_eq_some.mpr ⟨rfl, idEq⟩, unavailable⟩
  have moves : Moves request ride { ride with
      driverId := some driverId, status := .matched, version := ride.version + 1 } := by
    rw [requestEq]
    exact .accept requested
  have commits : (rules P init).Triple pid request
      (fun log => Acceptable init pid rideId ride log ∧ HasTaken pid driverId log)
      (Service.call (.rideSave { ride with
        driverId := some driverId, status := .matched, version := ride.version + 1 }))
      (fun _ log => lockOwner log = some pid ∧ Committed pid rideId log ∧
        HasTaken pid driverId log)
      (fun _ log => lockOwner log = some pid ∧ AcceptRaises pid log) := by
    apply rideSave_triple framedTaken.stable
    · intro log reply _ holds
      refine ⟨rideLaw_of_moves (by rw [requestEq]; rfl) holds.1.2 moves, ?_, ?_⟩
      · intro otherId otherDriver accepts
        rw [requestEq] at accepts
        cases accepts
        exact ⟨holds.1.1.1, holds.1.1.2, holds.2⟩
      · intro otherId userId cancels
        rw [requestEq] at cancels
        cases cancels
    · intro log value _ holds
      refine ⟨holds.1.1.1, ?_, exists_mem_cons _ holds.2⟩
      rw [← (everRide_of_seen holds.1.2).id]
      exact committed_cons log
    · intro failure call log holds
      exact ⟨holds.1.1.1, Or.inl broken_outage⟩
  refine takes.bind fun _ => ?_
  refine commits.bind fun saved => ?_
  have publishes : (rules P init).Triple pid request
      (fun log => lockOwner log = some pid ∧ Committed pid rideId log ∧
        HasTaken pid driverId log)
      (Service.call (.publish .rideAccepted saved.id))
      (fun _ log => lockOwner log = some pid ∧ Committed pid rideId log ∧
        HasTaken pid driverId log)
      (fun _ log => lockOwner log = some pid ∧ AcceptRaises pid log) :=
    steady_triple rfl rfl framedDone fun _ _ _ holds =>
      ⟨holds.1, Or.inl broken_outage⟩
  refine publishes.bind fun _ => ?_
  exact HistoryRules.triple_pure fun _ _ holds => holds

/-- The body of `accept_ride`, from the acquisition of the lock to its
release. -/
theorem acceptLocked_triple {rideId driverId : String}
    (requestEq : request = .acceptRide rideId driverId) :
    (rules P init).Triple pid request
      (fun log => lockOwner log = some pid ∧ NoneOwn pid savesDriver log)
      (do
        let ride ← RideService.getRide rideId
        if ride.status ≠ .requested then
          Service.reject 409 "Ride is not available for acceptance"
        match ← Service.call (.driverFindById driverId) with
        | none =>
            Service.reject 403 "No driver profile found — register as a driver first"
        | some driver =>
            if ¬ driver.isAvailable then
              Service.reject 409 "Driver is not currently available"
            let _ ← DriverService.markUnavailableById driverId
            let saved ← Service.call (.rideSave { ride with
              driverId := some driverId, status := .matched,
              version := ride.version + 1 })
            Service.call (.publish .rideAccepted saved.id)
            return saved)
      (fun _ log => lockOwner log = some pid ∧ Committed pid rideId log ∧
        HasTaken pid driverId log)
      (fun _ log => lockOwner log = some pid ∧ AcceptRaises pid log) := by
  have reads : (rules P init).Triple pid request
      (fun log => lockOwner log = some pid ∧ NoneOwn pid savesDriver log)
      (RideService.getRide rideId)
      (fun ride log => NoneOwn pid savesDriver log ∧ lockOwner log = some pid ∧
        (ride.status = .requested → Acceptable init pid rideId ride log))
      (fun _ log => lockOwner log = some pid ∧ AcceptRaises pid log) := by
    apply getRide_reads (framed_owned.and framed_noDriver).stable
    · intro ride log lawfulLog holds stored
      refine ⟨holds.2.cons rfl, holds.1, fun requested => ⟨⟨holds.1, fun taken => ?_⟩, ?_⟩⟩
      · rcases taken_cons.mp taken with ⟨_, committed⟩ | before
        · exact committed rfl
        · obtain ⟨found, foundEq, status⟩ := before.stored lawfulLog
          rw [stored] at foundEq
          cases foundEq
          exact status requested
      · rw [rideSeen_cons, if_pos (by simp [Call.readsRide]), stored]
    · intro failure reply log holds
      refine ⟨?_, Or.inr (holds.2.cons ?_)⟩
      · cases reply <;> exact holds.1
      · cases reply <;> rfl
  refine reads.bind fun ride => ?_
  simp only [reject_bind]
  refine guard_triple (fun _ _ holds => ⟨holds.2.1, Or.inr holds.1⟩) fun requested => ?_
  have status : ride.status = .requested := not_not.mp requested
  have framedRead : Framed P init pid request fun log =>
      NoneOwn pid savesDriver log ∧ Acceptable init pid rideId ride log :=
    framed_noDriver.and (framed_acceptable rideId ride)
  have findsDriver : (rules P init).Triple pid request
      (fun log => NoneOwn pid savesDriver log ∧ Acceptable init pid rideId ride log)
      (Service.call (.driverFindById driverId))
      (fun found log =>
        (NoneOwn pid savesDriver log ∧ Acceptable init pid rideId ride log) ∧
          driverSeen init pid driverId log = found ∧
            storedDriver init driverId log = found)
      (fun _ log => lockOwner log = some pid ∧ AcceptRaises pid log) :=
    driverFindById_triple framedRead fun _ _ _ holds =>
      ⟨holds.2.1.1, Or.inl broken_outage⟩
  refine (findsDriver.strengthen fun log holds =>
    ⟨holds.1, holds.2.2 status⟩).bind fun found => ?_
  cases found with
  | none => exact reject_triple fun _ _ holds => ⟨holds.1.2.1.1, Or.inr holds.1.1⟩
  | some driver =>
      refine guard_triple (fun _ _ holds => ⟨holds.1.2.1.1, Or.inr holds.1.1⟩)
        fun available => ?_
      apply (acceptWrites_triple requestEq status).strengthen
      intro log holds
      exact ⟨holds.1.2, holds.1.1, holds.1.2.1.1,
        rearmed_of_available holds.2.2 (not_not.mp available)⟩

theorem acceptRide_triple {rideId driverId : String}
    (requestEq : request = .acceptRide rideId driverId) :
    (rules P init).Triple pid request (NoneOwn pid savesDriver)
      (RideService.acceptRide rideId driverId)
      (fun _ log => Committed pid rideId log ∧ HasTaken pid driverId log)
      (fun _ => AcceptRaises pid) := by
  unfold RideService.acceptRide RideService.withAcceptLock
  have acquires : (rules P init).Triple pid request (NoneOwn pid savesDriver)
      (Service.call .lockAcquire)
      (fun _ log => lockOwner log = some pid ∧ NoneOwn pid savesDriver log)
      (fun _ => AcceptRaises pid) := by
    apply lockAcquire_triple framed_noDriver.stable
    intro log value holds
    exact ⟨rfl, holds.cons rfl⟩
  refine acquires.bind fun _ => ?_
  apply HistoryRules.triple_ensuring (acceptLocked_triple requestEq)
  · intro saved
    apply lockRelease_triple (framed_owned.and
      ((framed_committed rideId).and (framed_hasTaken driverId))).stable
    · intro log holds
      exact holds.1
    · intro log value holds
      exact ⟨exists_mem_cons _ holds.2.1, exists_mem_cons _ holds.2.2⟩
  · intro failure
    apply lockRelease_triple (framed_owned.and
      (framed_broken.or framed_noDriver)).stable
    · intro log holds
      exact holds.1
    · intro log value holds
      exact holds.2.imp (exists_mem_cons _) fun noneOwn => noneOwn.cons rfl

end RideHailing
