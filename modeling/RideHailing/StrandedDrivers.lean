import RideHailing.RequestGuarantees

/-!
# Drivers who are taken and not given back

An accept makes its driver unavailable, the end of the ride makes the driver
available again.  A cancellation frees the driver it has read with the ride; one
that read the ride before it was accepted frees nobody.  If no such cancellation
overwrites a running ride, then once all requests have ended every unavailable
driver who has gone online serves a ride.
-/

namespace RideHailing

variable {P : Platform} {init : Store}
variable {events : List ApplicationEvent} {pool : ApplicationPool}

/-- The requests of riders and drivers about rides; the driver in question does
not go offline. -/
def Request.aboutRides (driverId : String) : Request → Bool
  | .requestRide _ _ _ _ _ _ _ => true
  | .acceptRide _ _ => true
  | .startRide _ _ => true
  | .completeRide _ _ _ => true
  | .cancelRide _ _ => true
  | .goOnline _ _ _ => true
  | .goOffline userId => decide (userId ≠ driverId)
  | .updateLocation _ _ _ => true
  | _ => false

def Request.cancels : Request → Bool
  | .cancelRide _ _ => true
  | _ => false

/-- A cancellation that knows of no driver does not overwrite a ride that a
driver is serving. -/
def CancelsBeforeAccept (init : Store) (entry : HistoryEntry) (older : History) :
    Prop :=
  ∀ ride ∈ entry.savedRide, entry.request.cancels = true → ride.driverId = none →
    ∀ stored ∈ storedRide init ride.id older, stored.status ∉ servingRideStatuses

instance (entry : HistoryEntry) (older : History) :
    Decidable (CancelsBeforeAccept init entry older) := by
  unfold CancelsBeforeAccept
  infer_instance

/-- The driver of this id serves a ride. -/
def Store.Serving (store : Store) (driverId : String) : Prop :=
  ∃ ride ∈ store.rides.rows, ride.driverId = some driverId ∧
    ride.status ∈ servingRideStatuses

instance (store : Store) (driverId : String) :
    Decidable (store.Serving driverId) := by
  unfold Store.Serving
  infer_instance

/-- The entry commits the acceptance of the ride by the driver. -/
def CommitsAccept (rideId driverId : String) (entry : HistoryEntry) : Prop :=
  entry.request = .acceptRide rideId driverId ∧ entry.savedRide ≠ none

/-- The entry commits the completion of the ride that the driver served. -/
def CommitsComplete (rideId driverId : String) (entry : HistoryEntry) : Prop :=
  (∃ now, entry.request = .completeRide rideId driverId now) ∧ entry.savedRide ≠ none

/-- The ride is served by the driver, or the driver has completed it. -/
def ServedOrCompleted (init : Store) (rideId driverId : String) (log : History) :
    Prop :=
  (∃ ride, storedRide init rideId log = some ride ∧ ride.driverId = some driverId ∧
      ride.status ∈ servingRideStatuses) ∨
    ∃ entry ∈ log, CommitsComplete rideId driverId entry

section Entries

variable {rideId driverId : String} {entry : HistoryEntry} {older log : History}

/-- The commit of an acceptance is a row of the ride, with its driver. -/
theorem CommitsAccept.rideAt (commits : CommitsAccept rideId driverId entry)
    (lawful : law init entry older) :
    ∃ ride, entry.rideAt rideId = some ride ∧ ride.driverId = some driverId ∧
      ride.status ∈ servingRideStatuses := by
  obtain ⟨requestEq, committed⟩ := commits
  obtain ⟨ride, saved⟩ := Option.ne_none_iff_exists'.mp committed
  have savedAt : entry.rideAt rideId = some ride :=
    Entry.rideAt_eq_some.mpr ⟨saved, id_of_accepts lawful ⟨driverId, requestEq⟩ saved⟩
  refine ⟨ride, savedAt, ?_⟩
  rcases law_rideAt lawful savedAt with ⟨_, inserts, _⟩ | ⟨_, seen, _, moves⟩
  · rw [requestEq] at inserts
    cases inserts
  · rw [requestEq] at moves
    cases moves
    simp [servingRideStatuses]

theorem driverId_of_commitsAccept (lawful : Lawful (law init) log)
    (accepted : ∃ entry ∈ log, CommitsAccept rideId driverId entry) :
    ∃ ride, EverRide init rideId log ride ∧ ride.driverId = some driverId := by
  obtain ⟨entry, entryMem, commits⟩ := accepted
  obtain ⟨newer, older, rfl⟩ := List.append_of_mem entryMem
  obtain ⟨ride, saved, assigned, _⟩ := commits.rideAt lawful.entry
  exact ⟨ride, Or.inr ⟨entry, entryMem, saved⟩, assigned⟩

theorem taken_of_commitsAccept
    (accepted : ∃ entry ∈ log, CommitsAccept rideId driverId entry) :
    Taken init rideId log := by
  obtain ⟨entry, entryMem, requestEq, committed⟩ := accepted
  exact Or.inr ⟨entry, entryMem, ⟨driverId, requestEq⟩, committed⟩

theorem ServedOrCompleted.of_unsaved (saved : entry.rideAt rideId = none)
    (before : ServedOrCompleted init rideId driverId older) :
    ServedOrCompleted init rideId driverId (entry :: older) := by
  rcases before with ⟨ride, stored, serves⟩ | ⟨source, sourceMem, completes⟩
  · refine Or.inl ⟨ride, ?_, serves⟩
    rw [storedRide_cons, saved]
    exact stored
  · exact Or.inr ⟨source, List.mem_cons_of_mem entry sourceMem, completes⟩

theorem ServedOrCompleted.of_saved {ride : Ride}
    (saved : entry.rideAt rideId = some ride) (assigned : ride.driverId = some driverId)
    (serving : ride.status ∈ servingRideStatuses) :
    ServedOrCompleted init rideId driverId (entry :: older) := by
  refine Or.inl ⟨ride, ?_, assigned, serving⟩
  rw [storedRide_cons, saved]
  rfl

/-- After the acceptance every commit leaves the ride served or completed, as long
as the driver has not been freed. -/
theorem ServedOrCompleted.cons (before : ServedOrCompleted init rideId driverId older)
    (driverless : init.DriverlessRequests) (lawful : Lawful (law init) (entry :: older))
    (inTime : CancelsBeforeAccept init entry older)
    (accepted : ∃ other ∈ older, CommitsAccept rideId driverId other)
    (held : HeldBy rideId driverId older) :
    ServedOrCompleted init rideId driverId (entry :: older) := by
  cases saved : entry.rideAt rideId with
  | none => exact before.of_unsaved saved
  | some ride =>
      obtain ⟨savedRide, idEq⟩ := Entry.rideAt_eq_some.mp saved
      have taken : Taken init rideId older := taken_of_commitsAccept accepted
      rcases law_rideAt lawful.1 saved with ⟨_, _, absent⟩ | ⟨moved, seen, read, moves⟩
      · obtain ⟨old, found, _⟩ := taken.stored lawful.2
        rw [absent] at found
        cases found
      have sameDriver : ∀ userId, seen.driverId = some userId → userId = driverId := by
        intro userId assigned
        obtain ⟨other, everOther, otherAssigned⟩ :=
          driverId_of_commitsAccept lawful.2 accepted
        exact driverId_unique driverless lawful.2 (everRide_of_seen read) everOther
          assigned otherAssigned
      cases requestEq : entry.request with
      | acceptRide target acceptor =>
          rw [requestEq] at moved
          obtain rfl : target = rideId := Option.some.inj moved
          exact absurd taken ((law_savedRide lawful.1 savedRide).2.1 _ _ requestEq).2.1
      | startRide target starter =>
          rw [requestEq] at moves
          cases moves with
          | start matched assigned =>
              apply ServedOrCompleted.of_saved saved
              · rw [← sameDriver _ assigned]
                exact assigned
              · simp [servingRideStatuses]
      | completeRide target completer now =>
          rw [requestEq] at moves moved
          obtain rfl : target = rideId := Option.some.inj moved
          refine Or.inr ⟨entry, List.mem_cons_self, ⟨now, ?_⟩, by simp [savedRide]⟩
          cases moves with
          | complete inProgress assigned => rw [requestEq, sameDriver _ assigned]
      | cancelRide target userId =>
          rw [requestEq] at moves moved
          obtain rfl : target = rideId := Option.some.inj moved
          cases assigned : seen.driverId with
          | some holder =>
              have holderEq := sameDriver holder assigned
              subst holderEq
              have cancelLaw := (law_savedRide lawful.1 savedRide).2.2 _ _ requestEq
              exact absurd held (cancelLaw driverless seen holder read assigned)
          | none =>
              have unassigned : ride.driverId = none := by
                cases moves
                exact assigned
              have quiet := inTime ride savedRide (by rw [requestEq]; rfl) unassigned
              rw [idEq] at quiet
              rcases before with ⟨old, stored, _, serving⟩ | ⟨source, sourceMem, completes⟩
              · exact absurd serving (quiet old stored)
              · exact Or.inr ⟨source, List.mem_cons_of_mem entry sourceMem, completes⟩
      | _ =>
          rw [requestEq] at moved
          cases moved

/-- A ride that holds its driver is being served, or has been completed. -/
theorem serving_or_completed (driverless : init.DriverlessRequests)
    (lawful : Lawful (law init) log) (inTime : Lawful (CancelsBeforeAccept init) log)
    (accepted : ∃ entry ∈ log, CommitsAccept rideId driverId entry)
    (held : HeldBy rideId driverId log) : ServedOrCompleted init rideId driverId log := by
  induction log with
  | nil =>
      obtain ⟨_, absurdMem, _⟩ := accepted
      cases absurdMem
  | cons entry older ih =>
      by_cases here : CommitsAccept rideId driverId entry
      · obtain ⟨ride, saved, assigned, serving⟩ := here.rideAt lawful.1
        exact ServedOrCompleted.of_saved saved assigned serving
      · have acceptedOlder : ∃ other ∈ older, CommitsAccept rideId driverId other := by
          obtain ⟨other, otherMem, commits⟩ := accepted
          rcases List.mem_cons.mp otherMem with rfl | otherOlder
          · exact absurd commits here
          · exact ⟨other, otherOlder, commits⟩
        have heldOlder : HeldBy rideId driverId older :=
          held.of_cons lawful.1 fun _ => taken_of_commitsAccept acceptedOlder
        exact (ih lawful.2 inTime.2 acceptedOlder heldOlder).cons driverless lawful
          inTime.1 acceptedOlder heldOlder

end Entries

/-- Only accepts make a driver unavailable who does not go offline. -/
theorem acceptRide_of_marksFalse {driverId : String} {entry : HistoryEntry}
    {older : History} {driver : Driver} (lawful : law init entry older)
    (kind : entry.request.aboutRides driverId = true)
    (saved : entry.driverAt driverId = some driver)
    (unavailable : driver.isAvailable = false) :
    ∃ rideId, entry.request = .acceptRide rideId driverId := by
  obtain ⟨savedDriver, idEq⟩ := Entry.driverAt_eq_some.mp saved
  have driverLaw := law_savedDriver lawful savedDriver
  have notAvailable : ∀ {pid : Nat} {log : History},
      ¬ AvailabilityLaw init pid log true driver := by
    rintro pid log ⟨seen, _, driverEq⟩
    rw [driverEq] at unavailable
    cases unavailable
  cases requestEq : entry.request with
  | acceptRide rideId otherId =>
      simp only [requestEq, DriverLaw] at driverLaw
      exact ⟨rideId, by rw [← driverLaw.1, idEq]⟩
  | completeRide rideId otherId now =>
      simp only [requestEq, DriverLaw] at driverLaw
      exact absurd driverLaw.2 notAvailable
  | cancelRide rideId userId =>
      simp only [requestEq, DriverLaw] at driverLaw
      exact absurd driverLaw.2 notAvailable
  | goOnline userId lat lng =>
      simp only [requestEq, DriverLaw] at driverLaw
      exact absurd driverLaw.2 notAvailable
  | goOffline userId =>
      simp only [requestEq, DriverLaw] at driverLaw
      rw [requestEq] at kind
      have different : userId ≠ driverId := of_decide_eq_true kind
      exact absurd (driverLaw.1.symm.trans idEq) different
  | requestRide _ _ _ _ _ _ _ => simp only [requestEq, DriverLaw] at driverLaw
  | startRide _ _ => simp only [requestEq, DriverLaw] at driverLaw
  | updateLocation _ _ _ => simp only [requestEq, DriverLaw] at driverLaw
  | _ =>
      rw [requestEq] at kind
      cases kind

/-! ## Runs without failing calls -/

section Runs

variable {rideId driverId : String} {driver : Driver}

/-- The last to write an unavailable driver was an accept. -/
theorem exists_heldBy_of_unavailable
    (valid : (rules P init).Valid (Guarantee init) pool)
    (kinds : ∀ request ∈ pool.requests, request.aboutRides driverId = true)
    (written : ∃ entry ∈ pool.world.log, entry.driverAt driverId ≠ none)
    (stored : storedDriver init driverId pool.world.log = some driver)
    (unavailable : driver.isAvailable = false) :
    ∃ rideId, HeldBy rideId driverId pool.world.log ∧
      ∃ entry ∈ pool.world.log, entry.request = .acceptRide rideId driverId ∧
        entry.driverAt driverId = some driver := by
  obtain ⟨newer, last, older, row, split, lastSaved, quiet⟩ :=
    exists_last_change written
  have lastMem : last ∈ pool.world.log := by simp [split]
  have rowEq : row = driver := by
    have lastStored : storedDriver init driverId pool.world.log = some row := by
      rw [split, storedDriver, latest_append_of_unchanged quiet]
      exact latest_cons_some lastSaved
    exact Option.some.inj (lastStored.symm.trans stored)
  subst rowEq
  have lastKind : last.request.aboutRides driverId = true :=
    kinds _ (List.mem_of_getElem? (valid.owned last lastMem))
  have lastLawful : law init last older := by
    have lawful : Lawful (law init) pool.world.log := valid.good.2
    rw [split] at lawful
    exact lawful.entry
  obtain ⟨rideId, accepts⟩ :=
    acceptRide_of_marksFalse lastLawful lastKind lastSaved unavailable
  refine ⟨rideId, ⟨last.request, ?_, driverId, accepts⟩, last, lastMem, accepts, lastSaved⟩
  rw [split, driverWriter, latest_append_of_unchanged, latest_cons_some]
  · simp [lastSaved]
  · intro entry entryMem
    simp [quiet entry entryMem]

/-- An accept that has written its driver and has ended has committed its ride. -/
theorem commitsAccept_of_quiescent
    (valid : (rules P init).Valid (Guarantee init) pool) (quiescent : pool.Quiescent)
    (working : ∀ entry ∈ pool.world.log, entry.outage = false) {entry : HistoryEntry}
    (entryMem : entry ∈ pool.world.log)
    (accepts : entry.request = .acceptRide rideId driverId)
    (saved : entry.driverAt driverId = some driver) :
    ∃ entry ∈ pool.world.log, CommitsAccept rideId driverId entry := by
  obtain ⟨outcome, guarantee⟩ := guarantee_of_quiescent valid quiescent entryMem
  have committed : Committed entry.pid rideId pool.world.log := by
    rw [accepts] at guarantee
    cases outcome with
    | ok response => exact guarantee.1
    | error failure =>
        rcases guarantee with broken | noneOwn
        · exact absurd broken (not_broken_of_working working)
        · have unsaved := noneOwn entry entryMem rfl
          simp [savesDriver, (Entry.driverAt_eq_some.mp saved).1] at unsaved
  obtain ⟨commit, commitMem, samePid, ride, savedRide⟩ := committed
  refine ⟨commit, commitMem, ?_, by simp [(Entry.rideAt_eq_some.mp savedRide).1]⟩
  have owner := valid.owned commit commitMem
  rw [samePid, valid.owned entry entryMem] at owner
  rw [← Option.some.inj owner, accepts]

/-- A completion that has committed its ride and has ended has freed the driver. -/
theorem not_heldBy_of_completed
    (valid : (rules P init).Valid (Guarantee init) pool) (quiescent : pool.Quiescent)
    (working : ∀ entry ∈ pool.world.log, entry.outage = false)
    (driverless : init.DriverlessRequests) {entry : HistoryEntry}
    (entryMem : entry ∈ pool.world.log)
    (completes : CommitsComplete rideId driverId entry) :
    ¬ HeldBy rideId driverId pool.world.log := by
  obtain ⟨⟨now, requestEq⟩, committed⟩ := completes
  obtain ⟨outcome, guarantee⟩ := guarantee_of_quiescent valid quiescent entryMem
  have released : Released init rideId driverId pool.world.log := by
    rw [requestEq] at guarantee
    cases outcome with
    | ok response => exact guarantee.2
    | error failure =>
        rcases guarantee with broken | noneOwn | released
        · exact absurd broken (not_broken_of_working working)
        · have unsaved := noneOwn entry entryMem rfl
          simp [savesRide] at unsaved
          exact absurd unsaved committed
        · exact released
  exact (released driverless).2

end Runs

/-- In a run without failing calls in which no cancellation overwrites a ride
that was accepted after it had read it, whenever no request is in flight a driver
who has gone online, never goes offline and is not available serves a ride. -/
theorem no_driver_stranded (unlocked : init.acceptLock = none)
    (noRides : init.rides.rows = [])
    (ran : (application P).run (Pool.start init) events = some pool)
    {driverId : String}
    (kinds : ∀ request ∈ pool.requests, request.aboutRides driverId = true)
    (working : ∀ entry ∈ pool.world.log, entry.outage = false)
    (inTime : Lawful (CancelsBeforeAccept init) pool.world.log)
    (quiescent : pool.Quiescent)
    (online : ∃ pid lat lng, returned pool pid = some (.goOnline driverId lat lng))
    {driver : Driver} (found : pool.world.state.drivers.find driverId = some driver)
    (unavailable : driver.isAvailable = false) :
    pool.world.state.Serving driverId := by
  have valid := reached_valid unlocked ran
  have described : Describes init pool.world := valid.good.1
  have lawful : Lawful (law init) pool.world.log := valid.good.2
  have driverless : init.DriverlessRequests := by
    intro rideId ride stored
    simp [KeyedTable.find, noRides] at stored
  have written : ∃ entry ∈ pool.world.log, entry.driverAt driverId ≠ none := by
    obtain ⟨pid, lat, lng, ended⟩ := online
    obtain ⟨_, response, guarantee⟩ := guarantee_of_returned valid ended
    obtain ⟨entry, entryMem, _, row, saved, _⟩ := guarantee
    exact ⟨entry, entryMem, by simp [saved]⟩
  have stored : storedDriver init driverId pool.world.log = some driver := by
    rw [← described.drivers driverId]
    exact found
  obtain ⟨rideId, held, entry, entryMem, accepts, saved⟩ :=
    exists_heldBy_of_unavailable valid kinds written stored unavailable
  have accepted : ∃ entry ∈ pool.world.log, CommitsAccept rideId driverId entry :=
    commitsAccept_of_quiescent valid quiescent working entryMem accepts saved
  rcases serving_or_completed driverless lawful inTime accepted held with
    ⟨ride, rideStored, assigned, serving⟩ | ⟨entry, entryMem, completes⟩
  · refine ⟨ride, ?_, assigned, serving⟩
    rw [← described.rides rideId] at rideStored
    exact (KeyedTable.find_eq_some_iff.mp rideStored).1
  · exact absurd held
      (not_heldBy_of_completed valid quiescent working driverless entryMem completes)

namespace SmallCity

/-- Dan, offline at first, goes online and accepts a ride that is being
cancelled. -/
def acceptDuringCancel : List ApplicationEvent :=
  [.spawn (.goOnline "u3" centre centre)] ++ steps 0 5 ++
  [.spawn (wants "r1" "u1")] ++ steps 1 8 ++
  [.spawn (.cancelRide "r1" "u1"), .spawn (.acceptRide "r1" "u3")] ++
  [.step 2] ++ steps 3 9 ++ steps 2 2

theorem acceptDuringCancel_strands :
    ∃ pool driver, play acceptDuringCancel = some pool ∧ pool.Quiescent ∧
      (∀ request ∈ pool.requests, request.aboutRides "u3" = true) ∧
      (∀ entry ∈ pool.world.log, entry.outage = false) ∧
      returned pool 0 = some (.goOnline "u3" centre centre) ∧
      pool.world.state.drivers.find "u3" = some driver ∧
      driver.isAvailable = false ∧ ¬ pool.world.state.Serving "u3" := by
  obtain ⟨pool, played, checked⟩ := Option.map_eq_some_iff.mp
    (by decide +kernel : (play acceptDuringCancel).map (fun pool =>
      decide (pool.Quiescent ∧
      (∀ request ∈ pool.requests, request.aboutRides "u3" = true) ∧
      (∀ entry ∈ pool.world.log, entry.outage = false) ∧
      returned pool 0 = some (.goOnline "u3" centre centre) ∧
      pool.world.state.drivers.find "u3" =
        some { danDriver with isAvailable := false } ∧
      ¬ pool.world.state.Serving "u3")) = some true)
  obtain ⟨quiescent, kinds, working, online, found, idle⟩ := of_decide_eq_true checked
  exact ⟨pool, _, played, quiescent, kinds, working, online, found, rfl, idle⟩

/-- Dan goes online, accepts a ride and starts it. -/
def danServes : List ApplicationEvent :=
  [.spawn (.goOnline "u3" centre centre)] ++ steps 0 5 ++
  [.spawn (wants "r1" "u1")] ++ steps 1 8 ++
  [.spawn (.acceptRide "r1" "u3")] ++ steps 2 9 ++
  [.spawn (.startRide "r1" "u3")] ++ steps 3 2

theorem danServes_serving :
    ∃ pool, play danServes = some pool ∧ pool.world.state.Serving "u3" := by
  obtain ⟨pool, played, checked⟩ := Option.map_eq_some_iff.mp
    (by decide +kernel : (play danServes).map (fun pool =>
      decide ((∀ request ∈ pool.requests, request.aboutRides "u3" = true) ∧
      (∀ entry ∈ pool.world.log, entry.outage = false) ∧
      Lawful (CancelsBeforeAccept store) pool.world.log ∧ pool.Quiescent ∧
      returned pool 0 = some (.goOnline "u3" centre centre) ∧
      pool.world.state.drivers.find "u3" =
        some { danDriver with isAvailable := false })) = some true)
  obtain ⟨kinds, working, inTime, quiescent, online, found⟩ := of_decide_eq_true checked
  exact ⟨pool, played, no_driver_stranded rfl rfl played kinds working inTime quiescent
    ⟨0, _, _, online⟩ found rfl⟩

end SmallCity

end RideHailing
