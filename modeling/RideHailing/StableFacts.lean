import RideHailing.LawfulHistories

/-!
# What a request may rely on between its calls

While a request awaits a call, other requests add lawful calls to the history.
The facts collected here survive that, and they also survive the request's own
calls that neither write a table nor read a ride or a user.  Some of them hold
only as long as the request holds the accept lock.
-/

namespace RideHailing

/-- The call writes no table, leaves the lock alone and reads neither a ride
row nor a user row. -/
def Call.quiet : Call → Bool
  | .userSave _ => false
  | .userFindById _ => false
  | .userFindByUsername _ => false
  | .driverMerge _ => false
  | .rideSave _ => false
  | .rideFindById _ => false
  | .ratingSave _ => false
  | .lockAcquire => false
  | .lockRelease => false
  | _ => true

/-- The backend itself may refuse the call. -/
def Call.refusable : Call → Bool
  | .userSave _ => true
  | .driverMerge _ => true
  | .ratingSave _ => true
  | .geoadd _ _ _ => true
  | .geosearch _ _ _ _ => true
  | _ => false

/-- The infrastructure failed this call. -/
def Entry.outage (entry : HistoryEntry) : Bool :=
  match entry.reply with
  | .error .outage => true
  | _ => false

/-- The infrastructure failed a call of this task. -/
def Broken (pid : Nat) (log : History) : Prop :=
  ∃ entry ∈ log, entry.pid = pid ∧ entry.outage = true

theorem not_broken_of_working {pid : Nat} {log : History}
    (working : ∀ entry ∈ log, entry.outage = false) : ¬ Broken pid log := by
  rintro ⟨entry, entryMem, _, outage⟩
  rw [working entry entryMem] at outage
  cases outage

variable {P : Platform} {init : Store} {pid : Nat} {request : Request}

/-- The fact survives the calls of others and the quiet calls of the task. -/
structure Framed (P : Platform) (init : Store) (pid : Nat) (request : Request)
    (fact : History → Prop) : Prop where
  stable : (rules P init).Stable pid request fact
  quiet : ∀ call reply log, call.quiet = true → fact log →
    fact (⟨pid, request, call, reply⟩ :: log)

namespace Framed

variable {fact other : History → Prop}

theorem and (one : Framed P init pid request fact)
    (two : Framed P init pid request other) :
    Framed P init pid request fun log => fact log ∧ other log :=
  ⟨one.stable.and two.stable, fun call reply log quiet holds =>
    ⟨one.quiet call reply log quiet holds.1, two.quiet call reply log quiet holds.2⟩⟩

theorem or (one : Framed P init pid request fact)
    (two : Framed P init pid request other) :
    Framed P init pid request fun log => fact log ∨ other log :=
  ⟨one.stable.or two.stable, fun call reply log quiet holds =>
    holds.imp (one.quiet call reply log quiet) (two.quiet call reply log quiet)⟩

end Framed

theorem framed_const (proposition : Prop) :
    Framed P init pid request fun _ => proposition :=
  ⟨HistoryRules.stable_const proposition, fun _ _ _ _ holds => holds⟩

theorem framed_exists {γ : Sort*} {facts : γ → History → Prop}
    (each : ∀ index, Framed P init pid request (facts index)) :
    Framed P init pid request fun log => ∃ index, facts index log :=
  ⟨HistoryRules.stable_exists fun index => (each index).stable,
    fun call reply log quiet holds =>
      holds.imp fun index => (each index).quiet call reply log quiet⟩

theorem framed_forall {γ : Sort*} {facts : γ → History → Prop}
    (each : ∀ index, Framed P init pid request (facts index)) :
    Framed P init pid request fun log => ∀ index, facts index log :=
  ⟨HistoryRules.stable_forall fun index => (each index).stable,
    fun call reply log quiet holds index =>
      (each index).quiet call reply log quiet (holds index)⟩

theorem framed_exists_mem (property : HistoryEntry → Prop) :
    Framed P init pid request fun log => ∃ entry ∈ log, property entry :=
  ⟨HistoryRules.stable_exists_mem property, fun _ _ _ _ holds =>
    holds.imp fun _ made => ⟨List.mem_cons_of_mem _ made.1, made.2⟩⟩

theorem framed_own {property : HistoryEntry → Prop}
    (quietly : ∀ call reply, call.quiet = true →
      property ⟨pid, request, call, reply⟩) :
    Framed P init pid request fun log =>
      ∀ entry ∈ log, entry.pid = pid → property entry := by
  refine ⟨HistoryRules.stable_own property, ?_⟩
  intro call reply log quiet holds entry entryMem ownPid
  rcases List.mem_cons.mp entryMem with rfl | older
  · exact quietly call reply quiet
  · exact holds entry older ownPid

theorem NoneOwn.cons {saved : HistoryEntry → Bool} {entry : HistoryEntry}
    {log : History} (noneOwn : NoneOwn pid saved log) (unsaved : saved entry = false) :
    NoneOwn pid saved (entry :: log) := by
  intro other otherMem ownPid
  rcases List.mem_cons.mp otherMem with rfl | older
  · exact unsaved
  · exact noneOwn other older ownPid

/-! ## Calls without effect on the tables -/

section Quiet

variable {call : Call} (reply : Except Fault (Value call))

theorem savedRide_of_quiet (quiet : call.quiet = true) :
    Entry.savedRide ⟨pid, request, call, reply⟩ = none := by
  cases reply <;> cases call <;> first | rfl | cases quiet

theorem savedDriver_of_quiet (quiet : call.quiet = true) :
    Entry.savedDriver ⟨pid, request, call, reply⟩ = none := by
  cases reply <;> cases call <;> first | rfl | cases quiet

theorem savedUser_of_quiet (quiet : call.quiet = true) :
    Entry.savedUser ⟨pid, request, call, reply⟩ = none := by
  cases reply <;> cases call <;> first | rfl | cases quiet

theorem savedRating_of_quiet (quiet : call.quiet = true) :
    Entry.savedRating ⟨pid, request, call, reply⟩ = none := by
  cases reply <;> cases call <;> first | rfl | cases quiet

theorem lockChange_of_quiet (quiet : call.quiet = true) :
    Entry.lockChange ⟨pid, request, call, reply⟩ = none := by
  cases reply <;> cases call <;> first | rfl | cases quiet

theorem readsRide_of_quiet (rideId : String) (quiet : call.quiet = true) :
    call.readsRide rideId = false := by
  cases call <;> first | rfl | cases quiet

theorem readsUser_of_quiet (userId : String) (quiet : call.quiet = true) :
    call.readsUser userId = false := by
  cases call <;> first | rfl | cases quiet

theorem law_of_quiet (log : History) (quiet : call.quiet = true) :
    law init ⟨pid, request, call, reply⟩ log := by
  cases call <;> trivial

end Quiet

/-! ## What was read -/

section Seen

variable {entry : HistoryEntry} {log : History}

theorem rideSeen_cons (rideId : String) :
    rideSeen init pid rideId (entry :: log) =
      if entry.call.readsRide rideId && decide (entry.pid = pid) then
        storedRide init rideId log
      else rideSeen init pid rideId log :=
  rfl

theorem driverSeen_cons (userId : String) :
    driverSeen init pid userId (entry :: log) =
      if entry.call.readsDriver userId && decide (entry.pid = pid) then
        storedDriver init userId log
      else driverSeen init pid userId log :=
  rfl

theorem userSeen_cons (userId : String) :
    userSeen init pid userId (entry :: log) =
      if entry.call.readsUser userId && decide (entry.pid = pid) then
        storedUser init userId log
      else userSeen init pid userId log :=
  rfl

theorem framed_rideSeen (rideId : String) (ride : Ride) :
    Framed P init pid request fun log =>
      rideSeen init pid rideId log = some ride := by
  constructor
  · intro entry older foreign _ _ holds
    rw [rideSeen_cons, if_neg (by simp [foreign.1])]
    exact holds
  · intro call reply log quiet holds
    rw [rideSeen_cons, if_neg (by simp [readsRide_of_quiet rideId quiet])]
    exact holds

theorem framed_userSeen (userId : String) (user : User) :
    Framed P init pid request fun log =>
      userSeen init pid userId log = some user := by
  constructor
  · intro entry older foreign _ _ holds
    rw [userSeen_cons, if_neg (by simp [foreign.1])]
    exact holds
  · intro call reply log quiet holds
    rw [userSeen_cons, if_neg (by simp [readsUser_of_quiet userId quiet])]
    exact holds

theorem userId_of_driverSeen {userId : String} {driver : Driver}
    (seen : driverSeen init pid userId log = some driver) :
    driver.userId = userId := by
  rcases ever_of_atLast seen with fromInit | ⟨source, _, saved⟩
  · exact KeyedTable.key_of_find fromInit
  · exact (Entry.driverAt_eq_some.mp saved).2

theorem stable_driverSeen (userId : String) (driver : Driver) :
    (rules P init).Stable pid request fun log =>
      driverSeen init pid userId log = some driver := by
  intro entry older foreign _ _ holds
  rw [driverSeen_cons, if_neg (by simp [foreign.1])]
  exact holds

end Seen

/-! ## The accept lock and what it protects -/

section Lock

variable {entry : HistoryEntry} {older log : History}

/-- Nobody else acquires or releases a lock that the task holds. -/
theorem lockOwner_cons_of_owned (lawful : law init entry older)
    (foreign : entry.pid ≠ pid) (owned : lockOwner older = some pid) :
    lockOwner (entry :: older) = some pid := by
  obtain ⟨other, otherRequest, call, reply⟩ := entry
  cases reply with
  | error fault => exact owned
  | ok value =>
      cases call with
      | lockAcquire =>
          have free : lockOwner older = none := lawful
          rw [free] at owned
          cases owned
      | lockRelease =>
          have theirs : lockOwner older = some other := lawful
          rw [theirs] at owned
          exact absurd (Option.some.inj owned) foreign
      | _ => exact owned

theorem lockOwner_cons_of_quiet {call : Call} (reply : Except Fault (Value call))
    (quiet : call.quiet = true) :
    lockOwner (⟨pid, request, call, reply⟩ :: log) = lockOwner log := by
  rw [lockOwner, lockChange_of_quiet reply quiet]
  rfl

theorem framed_owned :
    Framed P init pid request fun log => lockOwner log = some pid := by
  constructor
  · intro entry older foreign lawful _ holds
    exact lockOwner_cons_of_owned lawful foreign.1 holds
  · intro call reply log quiet holds
    rw [lockOwner_cons_of_quiet reply quiet]
    exact holds

/-- While the task holds the lock, nobody else accepts a ride. -/
theorem framed_untaken (rideId : String) :
    Framed P init pid request fun log =>
      lockOwner log = some pid ∧ ¬ Taken init rideId log := by
  constructor
  · intro entry older foreign lawful _ holds
    refine ⟨lockOwner_cons_of_owned lawful foreign.1 holds.1, fun taken => ?_⟩
    rcases taken_cons.mp taken with ⟨⟨driverId, requestEq⟩, committed⟩ | before
    · obtain ⟨ride, saved⟩ := Option.ne_none_iff_exists'.mp committed
      have theirs := ((law_savedRide lawful saved).2.1 _ _ requestEq).1
      rw [holds.1] at theirs
      exact foreign.1 (Option.some.inj theirs).symm
    · exact holds.2 before
  · intro call reply log quiet holds
    refine ⟨(lockOwner_cons_of_quiet reply quiet).trans holds.1, fun taken => ?_⟩
    rcases taken_cons.mp taken with ⟨_, committed⟩ | before
    · exact committed (savedRide_of_quiet reply quiet)
    · exact holds.2 before

theorem Rearmed.cons {driverId : String} (rearmed : Rearmed driverId older)
    (keeps : ¬ Takes driverId entry) : Rearmed driverId (entry :: older) := by
  intro newer take oldest logEq takes
  cases newer with
  | nil =>
      cases logEq
      exact absurd takes keeps
  | cons newest newer =>
      obtain ⟨rfl, restEq⟩ := List.cons.inj logEq
      obtain ⟨source, sourceMem, marks⟩ := rearmed newer take oldest restEq takes
      exact ⟨source, List.mem_cons_of_mem _ sourceMem, marks⟩

theorem owner_of_takes {driverId : String} (lawful : law init entry older)
    (takes : Takes driverId entry) : lockOwner older = some entry.pid := by
  obtain ⟨⟨rideId, requestEq⟩, driver, saved, _⟩ := takes
  have driverLaw := law_savedDriver lawful (Entry.driverAt_eq_some.mp saved).1
  simp only [requestEq, DriverLaw] at driverLaw
  exact driverLaw.2.2.1

theorem framed_rearmed (driverId : String) :
    Framed P init pid request fun log =>
      lockOwner log = some pid ∧ Rearmed driverId log := by
  constructor
  · intro entry older foreign lawful _ holds
    refine ⟨lockOwner_cons_of_owned lawful foreign.1 holds.1, ?_⟩
    apply holds.2.cons
    intro takes
    have theirs := owner_of_takes lawful takes
    rw [holds.1] at theirs
    exact foreign.1 (Option.some.inj theirs).symm
  · intro call reply log quiet holds
    refine ⟨(lockOwner_cons_of_quiet reply quiet).trans holds.1, holds.2.cons ?_⟩
    rintro ⟨_, driver, saved, _⟩
    rw [Entry.driverAt, savedDriver_of_quiet reply quiet] at saved
    cases saved

end Lock

/-! ## Drivers of accepted rides -/

theorem framed_taken (rideId : String) :
    Framed P init pid request fun log => Taken init rideId log :=
  ⟨fun _ _ _ _ _ taken => taken.cons, fun _ _ _ _ taken => taken.cons⟩

/-- Of a ride that has been taken, nobody takes the driver again. -/
theorem framed_givenBack (rideId userId : String) :
    Framed P init pid request fun log =>
      Taken init rideId log ∧ ¬ HeldBy rideId userId log := by
  constructor
  · intro entry older _ lawful _ holds
    exact ⟨holds.1.cons, fun held => holds.2 (held.of_cons lawful fun _ => holds.1)⟩
  · intro call reply log quiet holds
    refine ⟨holds.1.cons, fun held => holds.2 ?_⟩
    obtain ⟨writer, written, accepts⟩ := held
    rw [driverWriter_cons, Entry.driverAt, savedDriver_of_quiet reply quiet] at written
    exact ⟨writer, written, accepts⟩

/-! ## Fresh identifiers -/

theorem framed_newRide {rideId : String} (drawn : rideId ∈ request.draws) :
    Framed P init pid request fun log => storedRide init rideId log = none := by
  constructor
  · intro entry older foreign lawful _ holds
    have unsaved : entry.rideAt rideId = none := by
      cases saved : entry.rideAt rideId with
      | none => rfl
      | some ride =>
          rcases law_rideAt lawful saved with ⟨_, inserts, _⟩ | ⟨_, seen, read, _⟩
          · have idEq := (Entry.rideAt_eq_some.mp saved).2
            have theirs : rideId ∈ entry.request.draws := by
              cases requestEq : entry.request with
              | requestRide newId now riderId pickupLat pickupLng dropoffLat dropoffLng =>
                  rw [requestEq] at inserts
                  cases inserts
                  simpa [Request.draws] using idEq.symm
              | _ => simp [requestEq, Request.requested] at inserts
            exact absurd theirs (foreign.2 rideId drawn)
          · exact absurd holds (everRide_of_seen read).latest_ne_none
    rw [storedRide_cons, unsaved]
    exact holds
  · intro call reply log quiet holds
    rw [storedRide_cons, Entry.rideAt, savedRide_of_quiet reply quiet]
    exact holds

theorem framed_newUser {userId : String} (drawn : userId ∈ request.draws) :
    Framed P init pid request fun log => storedUser init userId log = none := by
  constructor
  · intro entry older foreign lawful _ holds
    have unsaved : entry.userAt userId = none := by
      cases saved : entry.userAt userId with
      | none => rfl
      | some user =>
          obtain ⟨savedUser, idEq⟩ := Entry.userAt_eq_some.mp saved
          have userLaw := law_savedUser lawful savedUser
          rcases law_userAt lawful saved with absent | ⟨seen, read, _, _⟩
          · cases requestEq : entry.request with
            | authRegister clientIp username password newId salt =>
                simp only [requestEq, UserLaw] at userLaw
                have theirs : userId ∈ entry.request.draws := by
                  rw [userLaw.1] at idEq
                  simpa [requestEq, Request.draws] using idEq.symm
                exact absurd theirs (foreign.2 userId drawn)
            | driverRegister username vehicleType licensePlate =>
                simp only [requestEq, UserLaw] at userLaw
                obtain ⟨seen, read, _, _⟩ := userLaw
                exact absurd (idEq ▸ holds) (everUser_of_seen read).latest_ne_none
            | rate rideId fromUserId score comment newId now =>
                simp only [requestEq, UserLaw] at userLaw
                obtain ⟨_, _, seen, read, _⟩ := userLaw
                exact absurd (idEq ▸ holds) (everUser_of_seen read).latest_ne_none
            | _ => simp only [requestEq, UserLaw] at userLaw
          · exact absurd holds (everUser_of_seen read).latest_ne_none
    rw [storedUser_cons, unsaved]
    exact holds
  · intro call reply log quiet holds
    rw [storedUser_cons, Entry.userAt, savedUser_of_quiet reply quiet]
    exact holds

theorem framed_newRating {ratingId : String} (drawn : ratingId ∈ request.draws) :
    Framed P init pid request fun log =>
      ∀ row ∈ init.ratings.rows ++ insertedRatings log, row.id ≠ ratingId := by
  constructor
  · intro entry older foreign lawful _ holds row rowMem
    rw [insertedRatings, ← List.append_assoc, List.mem_append] at rowMem
    rcases rowMem with before | inserted
    · exact holds row before
    · have saved : entry.savedRating = some row := by simpa using inserted
      have ratingLaw := law_savedRating lawful saved
      cases requestEq : entry.request with
      | rate rideId fromUserId score comment newId now =>
          simp only [requestEq, RatingLaw] at ratingLaw
          intro idEq
          rw [ratingLaw.1] at idEq
          have theirs : ratingId ∈ entry.request.draws := by
            simp [requestEq, Request.draws, ← idEq]
          exact foreign.2 ratingId drawn theirs
      | _ => simp only [requestEq, RatingLaw] at ratingLaw
  · intro call reply log quiet holds
    rw [insertedRatings, savedRating_of_quiet reply quiet]
    simpa using holds

end RideHailing
