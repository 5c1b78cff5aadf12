import RideHailing.RequestGuarantees

/-!
# Ratings and the counters that summarise them

A rating is one inserted row and two counters that are read, raised and written
back, while other requests write back the same rows from earlier reads.  As long
as every write of a user or a driver meets the counter it has read, each rating
is counted once and no counter of a driver falls.
-/

namespace RideHailing

variable {P : Platform} {init : Store}
variable {events : List ApplicationEvent} {pool : ApplicationPool}

/-- The request inserts a row for a new user. -/
def Request.registersUser : Request → Bool
  | .authRegister _ _ _ _ _ => true
  | _ => false

/-- A user who is written back has the rating count that was read. -/
def UserCountCurrent (init : Store) (entry : HistoryEntry) (older : History) : Prop :=
  ∀ user ∈ entry.savedUser, ∀ stored ∈ storedUser init user.id older,
    ∃ seen ∈ userSeen init entry.pid user.id older,
      seen.ratingCount = stored.ratingCount

/-- A driver who is written back has the rating count that was read, and one who
is registered has no row. -/
def DriverCountCurrent (init : Store) (entry : HistoryEntry) (older : History) :
    Prop :=
  ∀ driver ∈ entry.savedDriver, ∀ stored ∈ storedDriver init driver.userId older,
    entry.request.registersDriver = false ∧
      ∃ seen ∈ driverSeen init entry.pid driver.userId older,
        seen.ratingCount = stored.ratingCount

instance (entry : HistoryEntry) (older : History) :
    Decidable (UserCountCurrent init entry older) := by
  unfold UserCountCurrent
  infer_instance

instance (entry : HistoryEntry) (older : History) :
    Decidable (DriverCountCurrent init entry older) := by
  unfold DriverCountCurrent
  infer_instance

/-- The entry does not lower the rating count of a driver. -/
def KeepsDriverCount (init : Store) (entry : HistoryEntry) (older : History) : Prop :=
  ∀ driver ∈ entry.savedDriver, ∀ stored ∈ storedDriver init driver.userId older,
    stored.ratingCount ≤ driver.ratingCount

/-- Every user's counter is the number of ratings of that user. -/
def Store.RatingsCounted (store : Store) : Prop :=
  ∀ user ∈ store.users.rows, user.ratingCount =
    store.ratings.rows.countP fun rating => decide (rating.toUserId = user.id)

instance (store : Store) : Decidable store.RatingsCounted := by
  unfold Store.RatingsCounted
  infer_instance

/-- The entry inserts a rating of the user. -/
def rates (userId : String) (entry : HistoryEntry) : Bool :=
  entry.savedRating.any fun rating => decide (rating.toUserId = userId)

/-- The entry raises the user's counter. -/
def counts (userId : String) (entry : HistoryEntry) : Bool :=
  entry.request.isRate && (entry.userAt userId).isSome

/-! ## Drivers -/

/-- Writing a driver back never lowers the counter that was read. -/
theorem ratingCount_le_of_law {pid : Nat} {request : Request} {log : History}
    {driver seen : Driver} (lawful : DriverLaw init pid request log driver)
    (writesBack : request.registersDriver = false)
    (read : driverSeen init pid driver.userId log = some seen) :
    seen.ratingCount ≤ driver.ratingCount := by
  have availability : ∀ {available : Bool},
      AvailabilityLaw init pid log available driver →
        seen.ratingCount ≤ driver.ratingCount := by
    rintro available ⟨other, otherRead, driverEq⟩
    rw [read] at otherRead
    cases otherRead
    rw [driverEq]
  cases request with
  | registerDriver _ _ _ => cases writesBack
  | driverRegister _ _ _ => cases writesBack
  | acceptRide rideId driverId => exact availability lawful.2.1
  | completeRide rideId driverId now => exact availability lawful.2
  | cancelRide rideId userId => exact availability lawful.2
  | goOnline userId lat lng => exact availability lawful.2
  | goOffline userId => exact availability lawful.2
  | rate rideId fromUserId score comment newId now =>
      obtain ⟨_, other, otherRead, driverEq⟩ := lawful
      rw [read] at otherRead
      cases otherRead
      rw [driverEq]
      change seen.ratingCount ≤ seen.ratingCount + 1
      omega
  | _ => exact lawful.elim

theorem keepsDriverCount_of_current {entry : HistoryEntry} {older : History}
    (lawful : law init entry older) (current : DriverCountCurrent init entry older) :
    KeepsDriverCount init entry older := by
  intro driver saved stored found
  obtain ⟨writesBack, seen, read, same⟩ := current driver saved stored found
  rw [← same]
  exact ratingCount_le_of_law (law_savedDriver lawful saved) writesBack read

/-! ## Users -/

theorem raises_of_userAt {userId : String} {entry : HistoryEntry}
    {older : History} {user : User} (lawful : law init entry older)
    (kind : entry.request.registersUser = false)
    (saved : entry.userAt userId = some user) :
    ∃ seen, userSeen init entry.pid userId older = some seen ∧
      user.ratingCount = seen.ratingCount + if entry.request.isRate then 1 else 0 := by
  obtain ⟨savedUser, rfl⟩ := Entry.userAt_eq_some.mp saved
  have userLaw := law_savedUser lawful savedUser
  cases requestEq : entry.request with
  | authRegister clientIp username password newId salt =>
      rw [requestEq] at kind
      cases kind
  | driverRegister username vehicleType licensePlate =>
      simp only [requestEq, UserLaw] at userLaw
      obtain ⟨seen, read, _, userEq⟩ := userLaw
      exact ⟨seen, read, by rw [userEq]; simp [Request.isRate]⟩
  | rate rideId fromUserId score comment newId now =>
      simp only [requestEq, UserLaw] at userLaw
      obtain ⟨_, _, seen, read, userEq⟩ := userLaw
      exact ⟨seen, read, by rw [userEq]; simp [Request.isRate]⟩
  | _ => simp only [requestEq, UserLaw] at userLaw

/-- A user's counter has been raised once by each counting entry. -/
theorem ratingCount_eq {userId : String} {log : History} {user : User}
    (lawful : Lawful (law init) log)
    (kinds : ∀ entry ∈ log, entry.request.registersUser = false)
    (current : Lawful (UserCountCurrent init) log)
    (stored : storedUser init userId log = some user) :
    ∃ first, init.users.find userId = some first ∧
      user.ratingCount = first.ratingCount + log.countP (counts userId) := by
  induction log generalizing user with
  | nil => exact ⟨user, stored, by simp⟩
  | cons entry older ih =>
      have kindsOlder : ∀ other ∈ older, other.request.registersUser = false :=
        fun other otherMem => kinds other (by simp [otherMem])
      cases saved : entry.userAt userId with
      | none =>
          rw [storedUser_cons, saved] at stored
          obtain ⟨first, found, countEq⟩ :=
            ih lawful.2 kindsOlder current.2 stored
          have uncounted : counts userId entry = false := by simp [counts, saved]
          exact ⟨first, found, by rw [List.countP_cons, uncounted]; simpa using countEq⟩
      | some row =>
          rw [storedUser_cons, saved] at stored
          cases stored
          obtain ⟨seen, read, raised⟩ :=
            raises_of_userAt lawful.1 (kinds entry (by simp)) saved
          obtain ⟨savedUser, rfl⟩ := Entry.userAt_eq_some.mp saved
          obtain ⟨old, oldStored⟩ := Option.ne_none_iff_exists'.mp
            (everUser_of_seen read).latest_ne_none
          obtain ⟨other, otherRead, same⟩ := current.1 _ savedUser old oldStored
          rw [read] at otherRead
          cases otherRead
          obtain ⟨first, found, countEq⟩ :=
            ih lawful.2 kindsOlder current.2 oldStored
          refine ⟨first, found, ?_⟩
          rw [List.countP_cons, raised, same, countEq]
          cases rate : entry.request.isRate <;> simp [counts, rate, saved, add_assoc]

/-- The inserted ratings of a user, counted along the history. -/
theorem countP_insertedRatings (userId : String) (log : History) :
    (insertedRatings log).countP (fun rating => decide (rating.toUserId = userId)) =
      log.countP (rates userId) := by
  induction log with
  | nil => rfl
  | cons entry older ih =>
      rw [insertedRatings, List.countP_append, ih, List.countP_cons]
      cases saved : entry.savedRating with
      | none => simp [rates, saved]
      | some rating =>
          by_cases same : rating.toUserId = userId <;> simp [rates, saved, same]

/-! ## One rating, one count -/

/-- A kind of entry that a task makes at most once. -/
theorem nodup_pids {kind saved : HistoryEntry → Bool} {log : History}
    (lawful : Lawful (law init) log)
    (saves : ∀ entry, kind entry = true → saved entry = true)
    (once : ∀ entry older, law init entry older → kind entry = true →
      NoneOwn entry.pid saved older) :
    ((log.filter kind).map Entry.pid).Nodup := by
  induction log with
  | nil => exact List.nodup_nil
  | cons entry older ih =>
      cases here : kind entry with
      | false =>
          rw [List.filter_cons_of_neg (by simp [here])]
          exact ih lawful.2
      | true =>
          rw [List.filter_cons_of_pos here, List.map_cons, List.nodup_cons]
          refine ⟨fun again => ?_, ih lawful.2⟩
          obtain ⟨other, otherMem, samePid⟩ := List.mem_map.mp again
          obtain ⟨otherOlder, otherKind⟩ := List.mem_filter.mp otherMem
          have unsaved := once entry older lawful.1 here other otherOlder samePid
          rw [saves other otherKind] at unsaved
          cases unsaved

theorem savesRating_of_rates {userId : String} {entry : HistoryEntry}
    (rated : rates userId entry = true) : savesRating entry = true := by
  cases saved : entry.savedRating with
  | none => simp [rates, saved] at rated
  | some rating => simp [savesRating, saved]

theorem ratingLaw_of_savesRating {entry : HistoryEntry} {older : History}
    (lawful : law init entry older) (saves : savesRating entry = true) :
    entry.request.isRate = true ∧ NoneOwn entry.pid savesRating older := by
  obtain ⟨rating, saved⟩ := Option.isSome_iff_exists.mp saves
  have ratingLaw := law_savedRating lawful saved
  cases requestEq : entry.request with
  | rate rideId fromUserId score comment newId now =>
      simp only [requestEq, RatingLaw] at ratingLaw
      exact ⟨rfl, ratingLaw.2.2.2.2⟩
  | _ => simp only [requestEq, RatingLaw] at ratingLaw

theorem savesUser_of_counts {userId : String} {entry : HistoryEntry}
    (counted : counts userId entry = true) : savesUser entry = true := by
  simp only [counts, Bool.and_eq_true] at counted
  obtain ⟨user, saved⟩ := Option.isSome_iff_exists.mp counted.2
  simp [savesUser, (Entry.userAt_eq_some.mp saved).1]

theorem userLaw_of_counts {userId : String} {entry : HistoryEntry} {older : History}
    (lawful : law init entry older) (counted : counts userId entry = true) :
    HasRated entry.pid older userId ∧ NoneOwn entry.pid savesUser older := by
  simp only [counts, Bool.and_eq_true] at counted
  obtain ⟨user, saved⟩ := Option.isSome_iff_exists.mp counted.2
  obtain ⟨savedUser, rfl⟩ := Entry.userAt_eq_some.mp saved
  have userLaw := law_savedUser lawful savedUser
  cases requestEq : entry.request with
  | rate rideId fromUserId score comment newId now =>
      simp only [requestEq, UserLaw] at userLaw
      exact ⟨userLaw.1, userLaw.2.1⟩
  | _ =>
      rw [requestEq] at counted
      cases counted.1

/-- Once no request is in flight, a task has rated a user exactly when it has
counted that. -/
theorem rated_iff_counted {userId : String}
    (valid : (rules P init).Valid (Guarantee init) pool) (quiescent : pool.Quiescent)
    (working : ∀ entry ∈ pool.world.log, entry.outage = false)
    (known : init.users.find userId ≠ none) (pid : Nat) :
    (∃ entry ∈ pool.world.log, rates userId entry = true ∧ entry.pid = pid) ↔
      ∃ entry ∈ pool.world.log, counts userId entry = true ∧ entry.pid = pid := by
  have lawful : Lawful (law init) pool.world.log := valid.good.2
  constructor
  · rintro ⟨entry, entryMem, rated, rfl⟩
    have saves := savesRating_of_rates rated
    obtain ⟨newer, older, split⟩ := List.append_of_mem entryMem
    have isRate : entry.request.isRate = true := by
      rw [split] at lawful
      exact (ratingLaw_of_savesRating lawful.entry saves).1
    obtain ⟨outcome, guarantee⟩ := guarantee_of_quiescent valid quiescent entryMem
    have ends : RateEnds init entry.pid pool.world.log := by
      cases requestEq : entry.request with
      | rate rideId fromUserId score comment newId now =>
          rw [requestEq] at guarantee
          cases outcome <;> exact guarantee
      | _ =>
          rw [requestEq] at isRate
          cases isRate
    rcases ends with broken | noneOwn | ⟨ratedId, hasRated, counted⟩
    · obtain ⟨failed, failedMem, _, outage⟩ := broken
      rw [working failed failedMem] at outage
      cases outage
    · rw [noneOwn entry entryMem rfl] at saves
      cases saves
    · obtain ⟨other, otherMem, samePid, rating, otherSaved, ratedEq⟩ := hasRated
      have sameEntry : other = entry := by
        have once : ((pool.world.log.filter savesRating).map Entry.pid).Nodup :=
          nodup_pids lawful (fun _ holds => holds)
            fun entry older entryLawful holds =>
              (ratingLaw_of_savesRating entryLawful holds).2
        apply List.inj_on_of_nodup_map once ?_ ?_ samePid
        · exact List.mem_filter.mpr ⟨otherMem, by simp [savesRating, otherSaved]⟩
        · exact List.mem_filter.mpr ⟨entryMem, saves⟩
      subst sameEntry
      have ratedIdEq : ratedId = userId := by
        simp only [rates, otherSaved, Option.any_some, decide_eq_true_eq] at rated
        exact ratedEq.symm.trans rated
      subst ratedIdEq
      obtain ⟨bump, bumpMem, bumpPid, user, bumpSaved⟩ := counted known
      have bumpRequest : bump.request = other.request :=
        valid.oneRequestEach bump bumpMem other otherMem bumpPid
      exact ⟨bump, bumpMem, by simp [counts, bumpRequest, isRate, bumpSaved], bumpPid⟩
  · rintro ⟨entry, entryMem, counted, rfl⟩
    obtain ⟨newer, older, split⟩ := List.append_of_mem entryMem
    rw [split] at lawful
    obtain ⟨rating, ratingMem, samePid, row, saved, ratedEq⟩ :=
      (userLaw_of_counts lawful.entry counted).1
    refine ⟨rating, ?_, by simp [rates, saved, ratedEq], samePid⟩
    rw [split]
    simp [ratingMem]

/-- When every write of a user or a driver meets the counter it has read, then
whenever no request is in flight every user's counter is the number of ratings,
and no step lowers a driver's counter. -/
theorem ratings_counted (unlocked : init.acceptLock = none)
    (counted : init.RatingsCounted)
    (ran : (application P).run (Pool.start init) events = some pool)
    (kinds : ∀ request ∈ pool.requests, request.registersUser = false)
    (usersCurrent : Lawful (UserCountCurrent init) pool.world.log)
    (driversCurrent : Lawful (DriverCountCurrent init) pool.world.log) :
    ((∀ entry ∈ pool.world.log, entry.outage = false) → pool.Quiescent →
      pool.world.state.RatingsCounted) ∧
        Lawful (KeepsDriverCount init) pool.world.log := by
  have valid := reached_valid unlocked ran
  have described : Describes init pool.world := valid.good.1
  have lawful : Lawful (law init) pool.world.log := valid.good.2
  constructor
  · intro working quiescent user userMem
    have stored : storedUser init user.id pool.world.log = some user := by
      rw [← described.users user.id]
      exact KeyedTable.mem_rows_iff_find.mp userMem
    have entryKinds : ∀ entry ∈ pool.world.log, entry.request.registersUser = false :=
      fun entry entryMem => kinds _ (List.mem_of_getElem? (valid.owned entry entryMem))
    obtain ⟨first, found, countEq⟩ :=
      ratingCount_eq lawful entryKinds usersCurrent stored
    obtain ⟨firstMem, firstId⟩ := KeyedTable.find_eq_some_iff.mp found
    have sameNumber : pool.world.log.countP (rates user.id) =
        pool.world.log.countP (counts user.id) := by
      apply countP_eq_of_same_keys
      · exact nodup_pids lawful (fun _ => savesRating_of_rates)
          fun entry older entryLawful rated =>
            (ratingLaw_of_savesRating entryLawful (savesRating_of_rates rated)).2
      · exact nodup_pids lawful (fun _ => savesUser_of_counts)
          fun entry older entryLawful counted => (userLaw_of_counts entryLawful counted).2
      · exact rated_iff_counted valid quiescent working (by simp [found])
    rw [described.ratings, List.countP_append, countP_insertedRatings, sameNumber,
      countEq, counted first firstMem, firstId]
    push_cast
    rfl
  · apply driversCurrent.mono
    intro newer entry older split current
    rw [split] at lawful
    exact keepsDriverCount_of_current lawful.entry current

namespace SmallCity

/-- A ride with Dan from its request to its completion: four requests, from this
process id on. -/
def rideWithDan (pid requestCalls : Nat) (rideId riderId : String) :
    List ApplicationEvent :=
  [.spawn (wants rideId riderId)] ++ steps pid requestCalls ++
  [.spawn (.acceptRide rideId "u3")] ++ steps (pid + 1) 9 ++
  [.spawn (.startRide rideId "u3")] ++ steps (pid + 2) 2 ++
  [.spawn (.completeRide rideId "u3" 60)] ++ steps (pid + 3) 6

/-- Two riders rate Dan, and both raise the counter that both have read. -/
def twoRatings : List ApplicationEvent :=
  rideWithDan 0 7 "r1" "u1" ++ rideWithDan 4 6 "r2" "u2" ++
  [.spawn (.rate "r1" "u1" 5 none "k1" 120), .spawn (.rate "r2" "u2" 4 none "k2" 120)] ++
  steps 8 7 ++ steps 9 7 ++ [.step 8, .step 9]

theorem twoRatings_one_count :
    ∃ pool, play twoRatings = some pool ∧ pool.Quiescent ∧
      (∀ entry ∈ pool.world.log, entry.outage = false) ∧
      (∀ request ∈ pool.requests, request.registersUser = false) ∧
      ¬ pool.world.state.RatingsCounted := by
  obtain ⟨pool, played, checked⟩ := Option.map_eq_some_iff.mp
    (by decide +kernel : (play twoRatings).map (fun pool => decide (pool.Quiescent ∧
      (∀ entry ∈ pool.world.log, entry.outage = false) ∧
      (∀ request ∈ pool.requests, request.registersUser = false) ∧
      ¬ pool.world.state.RatingsCounted)) = some true)
  exact ⟨pool, played, of_decide_eq_true checked⟩

/-- One rider rates Dan after a ride. -/
def oneRating : List ApplicationEvent :=
  rideWithDan 0 7 "r1" "u1" ++
  [.spawn (.rate "r1" "u1" 5 none "k1" 120)] ++ steps 4 8

theorem oneRating_counted :
    ∃ pool, play oneRating = some pool ∧ pool.world.state.RatingsCounted := by
  obtain ⟨pool, played, checked⟩ := Option.map_eq_some_iff.mp
    (by decide +kernel : (play oneRating).map (fun pool =>
      decide ((∀ request ∈ pool.requests, request.registersUser = false) ∧
      Lawful (UserCountCurrent store) pool.world.log ∧
      Lawful (DriverCountCurrent store) pool.world.log ∧
      (∀ entry ∈ pool.world.log, entry.outage = false) ∧ pool.Quiescent)) = some true)
  obtain ⟨kinds, users, drivers, working, quiescent⟩ := of_decide_eq_true checked
  exact ⟨pool, played, (ratings_counted rfl (by decide) played kinds users drivers).1
    working quiescent⟩

end SmallCity

end RideHailing
