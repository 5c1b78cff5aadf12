import RideHailing.RequestLaws

/-!
# What lawful histories have in common

Consequences of the law that hold of every lawful history: the data a ride was
created with never changes, an accepted ride is never REQUESTED again, it keeps
its one driver, a username stays with its user, and a driver who can be seen
available has been made available since the last ride took the driver.
-/

namespace RideHailing

variable {init : Store} {log older : History} {entry : HistoryEntry}

/-! ## Single entries -/

theorem law_savedRide {ride : Ride} (lawful : law init entry older)
    (saved : entry.savedRide = some ride) :
    RideLaw init entry.pid entry.request older ride ∧
      (∀ rideId driverId, entry.request = .acceptRide rideId driverId →
        AcceptLaw init entry.pid older rideId driverId) ∧
      ∀ rideId userId, entry.request = .cancelRide rideId userId →
        CancelLaw init entry.pid older rideId := by
  simpa only [law, Entry.call_of_savedRide saved] using lawful

theorem law_savedDriver {driver : Driver} (lawful : law init entry older)
    (saved : entry.savedDriver = some driver) :
    DriverLaw init entry.pid entry.request older driver := by
  simpa only [law, Entry.call_of_savedDriver saved] using lawful

theorem law_savedUser {user : User} (lawful : law init entry older)
    (saved : entry.savedUser = some user) :
    UserLaw init entry.pid entry.request older user := by
  simpa only [law, Entry.call_of_savedUser saved] using lawful

theorem law_savedRating {rating : Rating} (lawful : law init entry older)
    (saved : entry.savedRating = some rating) :
    RatingLaw init entry.pid entry.request older rating := by
  simpa only [law, Entry.call_of_savedRating saved] using lawful

/-! ## Rides -/

abbrev EverRide (init : Store) (rideId : String) (log : History) : Ride → Prop :=
  Ever (Entry.rideAt · rideId) (init.rides.find rideId) log

theorem everRide_of_seen {pid : Nat} {rideId : String} {ride : Ride}
    (seen : rideSeen init pid rideId log = some ride) :
    EverRide init rideId log ride :=
  ever_of_atLast seen

theorem rideReadBy_unsaved {pid : Nat} {rideId : String} {entry : HistoryEntry}
    (reads : rideReadBy pid rideId entry = true) : entry.rideAt rideId = none := by
  cases saved : entry.rideAt rideId with
  | none => rfl
  | some ride =>
      have callEq := Entry.call_of_savedRide (Entry.rideAt_eq_some.mp saved).1
      simp [rideReadBy, callEq, Call.readsRide] at reads

theorem EverRide.id {rideId : String} {ride : Ride}
    (ever : EverRide init rideId log ride) : ride.id = rideId := by
  rcases ever with fromInit | ⟨source, _, saved⟩
  · exact KeyedTable.key_of_find fromInit
  · exact (Entry.rideAt_eq_some.mp saved).2

/-- A committed row is new or moves on an earlier row of the same ride. -/
theorem law_rideAt {rideId : String} {ride : Ride} (lawful : law init entry older)
    (saved : entry.rideAt rideId = some ride) :
    (∃ estimatedFare, entry.request.requested estimatedFare = some ride ∧
        storedRide init rideId older = none) ∨
      (entry.request.rideMoved = some rideId ∧
        ∃ seen, rideSeen init entry.pid rideId older = some seen ∧
          Moves entry.request seen ride) := by
  obtain ⟨savedRide, rfl⟩ := Entry.rideAt_eq_some.mp saved
  exact (law_savedRide lawful savedRide).1

theorem Taken.cons {rideId : String} (taken : Taken init rideId older) :
    Taken init rideId (entry :: older) := by
  rcases taken with fromInit | ⟨source, sourceMem, accepts⟩
  · exact Or.inl fromInit
  · exact Or.inr ⟨source, List.mem_cons_of_mem entry sourceMem, accepts⟩

theorem taken_cons {rideId : String} :
    Taken init rideId (entry :: older) ↔
      (entry.request.Accepts rideId ∧ entry.savedRide ≠ none) ∨
        Taken init rideId older := by
  simp only [Taken, List.mem_cons, exists_eq_or_imp]
  exact or_left_comm

/-- The request of a committed row names the ride it is about. -/
theorem id_of_accepts {rideId : String} {ride : Ride}
    (lawful : law init entry older) (accepts : entry.request.Accepts rideId)
    (saved : entry.savedRide = some ride) : ride.id = rideId := by
  obtain ⟨driverId, requestEq⟩ := accepts
  rcases (law_savedRide lawful saved).1 with ⟨_, inserts, _⟩ | ⟨moved, _⟩
  · rw [requestEq] at inserts
    cases inserts
  · rw [requestEq] at moved
    exact (Option.some.inj moved).symm

/-- Once taken, a ride is there and never again REQUESTED. -/
theorem Taken.stored {rideId : String} (taken : Taken init rideId log)
    (lawful : Lawful (law init) log) :
    ∃ ride, storedRide init rideId log = some ride ∧ ride.status ≠ .requested := by
  induction log with
  | nil =>
      rcases taken with ⟨ride, found, status⟩ | ⟨_, absurdMem, _⟩
      · exact ⟨ride, found, status⟩
      · cases absurdMem
  | cons entry older ih =>
      cases saved : entry.rideAt rideId with
      | some ride =>
          refine ⟨ride, by rw [storedRide_cons, saved]; rfl, ?_⟩
          rcases law_rideAt lawful.1 saved with ⟨_, inserts, absent⟩ | ⟨_, _, _, moves⟩
          · have notAccepts : ¬ entry.request.Accepts rideId := by
              rintro ⟨driverId, requestEq⟩
              rw [requestEq] at inserts
              cases inserts
            rcases taken_cons.mp taken with ⟨accepts, _⟩ | before
            · exact absurd accepts notAccepts
            · obtain ⟨old, found, _⟩ := ih before lawful.2
              rw [absent] at found
              cases found
          · exact moves.status_ne
      | none =>
          have before : Taken init rideId older := by
            rcases taken_cons.mp taken with ⟨accepts, committed⟩ | before
            · obtain ⟨ride, savedRide⟩ := Option.ne_none_iff_exists'.mp committed
              have idEq := id_of_accepts lawful.1 accepts savedRide
              rw [Entry.rideAt_eq_some.mpr ⟨savedRide, idEq⟩] at saved
              cases saved
            · exact before
          rw [storedRide_cons, saved]
          exact ih before lawful.2

/-- A ride that has had a driver has been taken. -/
theorem taken_of_driverId {rideId userId : String} {ride : Ride}
    (driverless : init.DriverlessRequests) (lawful : Lawful (law init) log)
    (ever : EverRide init rideId log ride) (assigned : ride.driverId = some userId) :
    Taken init rideId log := by
  induction log generalizing ride with
  | nil =>
      rcases ever with fromInit | ⟨_, absurdMem, _⟩
      · refine Or.inl ⟨ride, fromInit, fun requested => ?_⟩
        rw [driverless rideId ride fromInit requested] at assigned
        cases assigned
      · cases absurdMem
  | cons entry older ih =>
      rcases ever_cons.mp ever with saved | before
      · rcases law_rideAt lawful.1 saved with ⟨_, inserts, _⟩ | ⟨moved, seen, read, moves⟩
        · rw [(requested_eq_some inserts).2.2.1] at assigned
          cases assigned
        · rcases moves.driverId with same | ⟨otherId, driverId, requestEq, _, _⟩
          · exact (ih lawful.2 (everRide_of_seen read) (same ▸ assigned)).cons
          · rw [requestEq] at moved
            have idEq : otherId = rideId := Option.some.inj moved
            subst idEq
            refine taken_cons.mpr (Or.inl ⟨⟨driverId, requestEq⟩, ?_⟩)
            rw [(Entry.rideAt_eq_some.mp saved).1]
            simp
      · exact (ih lawful.2 before assigned).cons

/-- Every row of a ride names the same driver, if it names one. -/
theorem driverId_unique {rideId firstId secondId : String} {first second : Ride}
    (driverless : init.DriverlessRequests) (lawful : Lawful (law init) log)
    (everFirst : EverRide init rideId log first)
    (everSecond : EverRide init rideId log second)
    (firstAssigned : first.driverId = some firstId)
    (secondAssigned : second.driverId = some secondId) : firstId = secondId := by
  induction log generalizing first second firstId secondId with
  | nil =>
      rcases everFirst with firstInit | ⟨_, absurdMem, _⟩
      · rcases everSecond with secondInit | ⟨_, absurdMem, _⟩
        · cases firstInit.symm.trans secondInit
          exact Option.some.inj (firstAssigned.symm.trans secondAssigned)
        · cases absurdMem
      · cases absurdMem
  | cons entry older ih =>
      have newAgrees : ∀ {new old : Ride} {newId oldId : String},
          entry.rideAt rideId = some new → EverRide init rideId older old →
            new.driverId = some newId → old.driverId = some oldId →
              newId = oldId := by
        intro new old newId oldId saved everOld newAssigned oldAssigned
        have taken := taken_of_driverId driverless lawful.2 everOld oldAssigned
        rcases law_rideAt lawful.1 saved with ⟨_, inserts, _⟩ | ⟨moved, seen, read, moves⟩
        · rw [(requested_eq_some inserts).2.2.1] at newAssigned
          cases newAssigned
        · rcases moves.driverId with same | ⟨otherId, driverId, requestEq, _, _⟩
          · exact ih lawful.2 (everRide_of_seen read) everOld
              (same ▸ newAssigned) oldAssigned
          · have idEq : otherId = rideId := by
              rw [requestEq] at moved
              exact Option.some.inj moved
            subst idEq
            have savedRide := (Entry.rideAt_eq_some.mp saved).1
            exact absurd taken
              ((law_savedRide lawful.1 savedRide).2.1 _ _ requestEq).2.1
      rcases ever_cons.mp everFirst with firstNew | firstOld
      · rcases ever_cons.mp everSecond with secondNew | secondOld
        · cases firstNew.symm.trans secondNew
          exact Option.some.inj (firstAssigned.symm.trans secondAssigned)
        · exact newAgrees firstNew secondOld firstAssigned secondAssigned
      · rcases ever_cons.mp everSecond with secondNew | secondOld
        · exact (newAgrees secondNew firstOld secondAssigned firstAssigned).symm
        · exact ih lawful.2 firstOld secondOld firstAssigned secondAssigned

/-! ## Users -/

abbrev EverUser (init : Store) (userId : String) (log : History) : User → Prop :=
  Ever (Entry.userAt · userId) (init.users.find userId) log

theorem everUser_of_seen {pid : Nat} {userId : String} {user : User}
    (seen : userSeen init pid userId log = some user) :
    EverUser init userId log user :=
  ever_of_atLast seen

theorem EverUser.id {userId : String} {user : User}
    (ever : EverUser init userId log user) : user.id = userId := by
  rcases ever with fromInit | ⟨source, _, saved⟩
  · exact KeyedTable.key_of_find fromInit
  · exact (Entry.userAt_eq_some.mp saved).2

/-- A saved user is new or keeps id, name and password of an earlier row. -/
theorem law_userAt {userId : String} {user : User} (lawful : law init entry older)
    (saved : entry.userAt userId = some user) :
    storedUser init userId older = none ∨
      ∃ seen, userSeen init entry.pid userId older = some seen ∧
        user.id = seen.id ∧ user.username = seen.username := by
  obtain ⟨savedUser, rfl⟩ := Entry.userAt_eq_some.mp saved
  have userLaw := law_savedUser lawful savedUser
  cases requestEq : entry.request with
  | authRegister clientIp username password newId salt =>
      simp only [UserLaw, requestEq] at userLaw
      rw [userLaw.1]
      exact Or.inl userLaw.2
  | driverRegister username vehicleType licensePlate =>
      simp only [UserLaw, requestEq] at userLaw
      obtain ⟨seen, read, _, rfl⟩ := userLaw
      exact Or.inr ⟨seen, read, rfl, rfl⟩
  | rate rideId fromUserId score comment newId now =>
      simp only [UserLaw, requestEq] at userLaw
      obtain ⟨_, _, seen, read, userEq⟩ := userLaw
      exact Or.inr ⟨seen, read, by rw [userEq], by rw [userEq]⟩
  | _ => simp only [UserLaw, requestEq] at userLaw

theorem EverUser.username_eq {userId : String} {first second : User}
    (lawful : Lawful (law init) log) (everFirst : EverUser init userId log first)
    (everSecond : EverUser init userId log second) :
    first.username = second.username := by
  apply Ever.agree ?_ lawful everFirst everSecond
  intro entry older user entryLawful _ saved
  rcases law_userAt entryLawful saved with absent | ⟨seen, read, _, nameEq⟩
  · exact Or.inl absent
  · exact Or.inr ⟨seen, everUser_of_seen read, nameEq⟩

/-! ## Drivers -/

theorem marks_cons_stored {userId : String} {available : Bool} {row : Driver}
    (marks : Marks userId available entry)
    (stored : storedDriver init userId (entry :: older) = some row) :
    row.isAvailable = available := by
  obtain ⟨driver, saved, availability⟩ := marks
  rw [storedDriver_cons, saved] at stored
  cases stored
  exact availability

/-- A driver who is available has been made so since the last ride took the
driver. -/
theorem rearmed_of_available {driverId : String} {driver : Driver}
    (stored : storedDriver init driverId log = some driver)
    (available : driver.isAvailable = true) : Rearmed driverId log := by
  intro newer take older logEq takes
  subst logEq
  induction newer with
  | nil =>
      have := marks_cons_stored takes.2 stored
      rw [available] at this
      cases this
  | cons entry newer ih =>
      cases saved : entry.driverAt driverId with
      | some row =>
          have rowEq : row = driver := by
            rw [List.cons_append, storedDriver_cons, saved] at stored
            exact Option.some.inj stored
          exact ⟨entry, by simp, row, saved, by rw [rowEq, available]⟩
      | none =>
          rw [List.cons_append, storedDriver_cons, saved] at stored
          obtain ⟨source, sourceMem, marks⟩ := ih stored
          exact ⟨source, by simp [sourceMem], marks⟩

theorem driverWriter_cons (userId : String) (entry : HistoryEntry)
    (older : History) :
    driverWriter userId (entry :: older) =
      if (entry.driverAt userId).isSome then some entry.request
      else driverWriter userId older := by
  rw [driverWriter, latest]
  cases entry.driverAt userId <;> rfl

theorem savedRide_of_savedDriver {driver : Driver}
    (saved : entry.savedDriver = some driver) : entry.savedRide = none := by
  cases savedRide : entry.savedRide with
  | none => rfl
  | some ride =>
      have callEq := Entry.call_of_savedRide savedRide
      rw [Entry.call_of_savedDriver saved] at callEq
      cases callEq

/-- No accept writes the driver's row once the ride has been taken. -/
theorem HeldBy.of_cons {rideId userId : String}
    (held : HeldBy rideId userId (entry :: older)) (lawful : law init entry older)
    (taken : entry.savedRide = none → Taken init rideId older) :
    HeldBy rideId userId older := by
  obtain ⟨writer, written, driverId, writerEq⟩ := held
  rw [driverWriter_cons] at written
  split at written
  · rename_i writes
    obtain ⟨row, saved⟩ := Option.isSome_iff_exists.mp writes
    have requestEq : entry.request = .acceptRide rideId driverId :=
      (Option.some.inj written).trans writerEq
    have savedDriver := (Entry.driverAt_eq_some.mp saved).1
    have driverLaw := law_savedDriver lawful savedDriver
    simp only [requestEq, DriverLaw] at driverLaw
    exact absurd (taken (savedRide_of_savedDriver savedDriver)) driverLaw.2.2.2.1
  · exact ⟨writer, written, driverId, writerEq⟩

/-- A driver nobody has stored was not written by any request. -/
theorem not_heldBy_of_absent {rideId userId : String}
    (absent : storedDriver init userId log = none) : ¬ HeldBy rideId userId log := by
  rintro ⟨request, written, _⟩
  obtain ⟨source, sourceMem, saved⟩ : ∃ source ∈ log,
      (source.driverAt userId).isSome := by
    rcases ever_of_latest written with fromNone | ⟨source, sourceMem, saved⟩
    · cases fromNone
    · refine ⟨source, sourceMem, ?_⟩
      cases found : source.driverAt userId with
      | some driver => rfl
      | none => simp [found] at saved
  obtain ⟨driver, saved⟩ := Option.isSome_iff_exists.mp saved
  exact Ever.latest_ne_none (Or.inr ⟨source, sourceMem, saved⟩) absent

end RideHailing
