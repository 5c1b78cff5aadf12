import RideHailing.RideTriples

/-!
# Drivers, ratings and accounts

The methods of the driver service, of the rating service and of the routes for
accounts as tasks among others.  A rating that was inserted is counted in the
rated user's row, unless the infrastructure fails.
-/

namespace RideHailing

variable {P : Platform} {init : Store} {pid : Nat} {request : Request}

/-! ## `services/driver.py` -/

theorem registerDriver_triple {pre post : History → Prop}
    {userId vehicleType licensePlate : String}
    (framed : Framed P init pid request pre)
    (lawful : ∀ log, Lawful (law init) log → pre log →
      DriverLaw init pid request log {
        userId := userId, vehicleType := vehicleType, licensePlate := licensePlate })
    (saves : ∀ log driver value, pre log →
      post (⟨pid, request, .driverMerge driver, .ok value⟩ :: log))
    (framedPost : Framed P init pid request post) :
    (rules P init).Triple pid request pre
      (DriverService.registerDriver userId vehicleType licensePlate)
      (fun _ => post) (fun _ _ => True) := by
  unfold DriverService.registerDriver
  refine (quiet_triple rfl framed fun _ _ _ => trivial).bind fun present => ?_
  simp only [reject_bind]
  refine guard_triple (fun _ _ _ => trivial) fun _ => ?_
  apply driverRepositorySave_triple framed.stable lawful ?_ framedPost
    (fun _ _ _ _ _ => trivial) (fun _ _ _ _ => trivial)
  intro log value _ holds
  exact saves log _ value holds

theorem goOnline_triple {userId : String} {lat lng : Float64}
    (requestEq : request = .goOnline userId lat lng) :
    (rules P init).Triple pid request (fun _ => True)
      (DriverService.goOnline userId lat lng)
      (fun _ => HasMarked pid userId true) (fun _ _ => True) := by
  unfold DriverService.goOnline
  refine (getProfile_triple (framed_const True) (fun _ _ _ => trivial)
    fun _ _ _ _ => trivial).bind fun _ => ?_
  refine (quiet_triple rfl (framed_const True) fun _ _ _ => trivial).bind fun _ => ?_
  apply markById_triple (framed_const True) ?_ ?_ (framed_hasMarked userId true)
    (fun _ _ _ _ _ => trivial) (fun _ _ _ _ => trivial)
  · intro log driver _ _ idEq availability
    rw [requestEq]
    exact ⟨idEq, availability⟩
  · intro log driver value _ _ idEq available
    exact ⟨_, List.mem_cons_self, rfl, driver,
      Entry.driverAt_eq_some.mpr ⟨rfl, idEq⟩, available⟩

theorem goOffline_triple {userId : String} (requestEq : request = .goOffline userId) :
    (rules P init).Triple pid request (fun _ => True)
      (DriverService.goOffline userId)
      (fun _ => HasMarked pid userId false) (fun _ _ => True) := by
  unfold DriverService.goOffline
  refine (getProfile_triple (framed_const True) (fun _ _ _ => trivial)
    fun _ _ _ _ => trivial).bind fun _ => ?_
  refine (quiet_triple rfl (framed_const True) fun _ _ _ => trivial).bind fun _ => ?_
  have marks : (rules P init).Triple pid request (fun _ => True)
      (DriverService.markUnavailableById userId)
      (fun _ => HasMarked pid userId false) (fun _ _ => True) := by
    apply markById_triple (framed_const True) ?_ ?_ (framed_hasMarked userId false)
      (fun _ _ _ _ _ => trivial) (fun _ _ _ _ => trivial)
    · intro log driver _ _ idEq availability
      rw [requestEq]
      exact ⟨idEq, availability⟩
    · intro log driver value _ _ idEq available
      exact ⟨_, List.mem_cons_self, rfl, driver,
        Entry.driverAt_eq_some.mpr ⟨rfl, idEq⟩, available⟩
  refine marks.bind fun saved => ?_
  refine (quiet_triple rfl (framed_hasMarked userId false)
    fun _ _ _ => trivial).bind fun _ => ?_
  exact HistoryRules.triple_pure fun _ _ holds => holds

theorem updateLocation_triple {userId : String} {lat lng : Float64} :
    (rules P init).Triple pid request (fun _ => True)
      (DriverService.updateLocation P userId lat lng)
      (fun _ _ => True) (fun _ _ => True) := by
  have refuse : ∀ (_ : Failure) (log : History), True → True :=
    fun _ _ holds => holds
  unfold DriverService.updateLocation
  refine (getProfile_triple (framed_const True) refuse
    fun _ _ _ _ => trivial).bind fun _ => ?_
  refine (quiet_triple rfl (framed_const True) refuse).bind fun _ => ?_
  refine (quiet_triple rfl (framed_const True) refuse).bind fun serving => ?_
  cases serving with
  | none => exact HistoryRules.triple_pure fun _ _ holds => holds
  | some ride =>
      refine (compute_triple refuse).bind fun distanceKm => ?_
      refine (compute_triple refuse).bind fun eta => ?_
      exact quiet_triple rfl (framed_const True) refuse

/-! ## `services/rating.py` -/

theorem hasRated_framed (userId : String) :
    Framed P init pid request fun log => HasRated pid log userId :=
  framed_exists_mem _

/-- The rating that the task inserted is counted in the rated user's row, if
there was such a row from the start. -/
def Counted (init : Store) (pid : Nat) (userId : String) (log : History) : Prop :=
  init.users.find userId ≠ none →
    ∃ entry ∈ log, entry.pid = pid ∧ ∃ user, entry.userAt userId = some user

/-- How a rating task may end: it broke, inserted nothing, or has counted the
rating it inserted. -/
def RateEnds (init : Store) (pid : Nat) (log : History) : Prop :=
  Broken pid log ∨ NoneOwn pid savesRating log ∨
    ∃ userId, HasRated pid log userId ∧ Counted init pid userId log

theorem framed_counted (userId : String) :
    Framed P init pid request (Counted init pid userId) :=
  framed_forall fun _ => framed_exists_mem _

theorem ratedUser_triple {ride : Ride} {fromUserId : String} {pre : History → Prop}
    {exits : Failure → History → Prop}
    (refuse : ∀ failure log, pre log → exits failure log) :
    (rules P init).Triple pid request pre (RatingService.ratedUser ride fromUserId)
      (fun toUserId log => pre log ∧ ride.otherParty fromUserId = some toUserId)
      exits := by
  unfold RatingService.ratedUser
  apply triple_ite
  · intro isRider
    cases assigned : ride.driverId with
    | none => exact reject_triple refuse
    | some driverId =>
        apply HistoryRules.triple_pure
        intro log _ holds
        exact ⟨holds, by rw [Ride.otherParty, if_pos isRider, assigned]⟩
  intro notRider
  apply triple_ite
  · intro isDriver
    apply HistoryRules.triple_pure
    intro log _ holds
    exact ⟨holds, by rw [Ride.otherParty, if_neg notRider, if_pos isDriver]⟩
  · intro _
    exact reject_triple refuse

/-- The update of the rated driver's row, if there is one. -/
theorem rateDriver_triple {rideId fromUserId toUserId : String} {score : Int}
    {comment : Option String} {newId : String} {now : Timestamp} {driver : Driver}
    (requestEq : request = .rate rideId fromUserId score comment newId now) :
    (rules P init).Triple pid request
      (fun log => (HasRated pid log toUserId ∧ NoneOwn pid savesUser log) ∧
        driverSeen init pid toUserId log = some driver)
      (DriverRepository.save { driver with
        avgRating := some (RatingService.roundTo2
          (RatingService.incrementalAvg driver.avgRating driver.ratingCount score))
        ratingCount := driver.ratingCount + 1 })
      (fun _ log => HasRated pid log toUserId ∧ NoneOwn pid savesUser log)
      (fun _ => RateEnds init pid) := by
  have framed : Framed P init pid request fun log =>
      HasRated pid log toUserId ∧ NoneOwn pid savesUser log :=
    (hasRated_framed toUserId).and framed_noUser
  apply driverRepositorySave_triple
    (framed.stable.and (stable_driverSeen toUserId driver)) ?_ ?_ framed ?_
    fun _ _ _ _ => Or.inl broken_outage
  · intro log _ holds
    have idEq := userId_of_driverSeen holds.2
    rw [requestEq]
    refine ⟨?_, driver, ?_, rfl⟩
    · rw [idEq]
      exact holds.1.1
    · rw [← holds.2, ← idEq]
  · intro log value _ holds
    exact ⟨exists_mem_cons _ holds.1.1, holds.1.2.cons rfl⟩
  · intro log fault _ holds answers
    have idEq := userId_of_driverSeen holds.2
    rw [outage_of_driverMerge answers (by rw [← holds.2, ← idEq])]
    exact Or.inl broken_outage

theorem userFindById_reads {userId : String} {pre : History → Prop}
    {returns : Option User → History → Prop} {exits : Failure → History → Prop}
    (stable : (rules P init).Stable pid request pre)
    (found : ∀ log, Lawful (law init) log → pre log →
      returns (storedUser init userId log)
        (⟨pid, request, .userFindById userId, .ok (storedUser init userId log)⟩ :: log))
    (broken : ∀ failure call log, pre log →
      exits failure (⟨pid, request, call, .error .outage⟩ :: log)) :
    (rules P init).Triple pid request pre (Service.call (.userFindById userId))
      returns exits := by
  apply HistoryRules.triple_perform stable
  · intro log reply _ _ _
    trivial
  · intro log result lawfulLog holds answers
    rw [answers_userFindById answers]
    exact found log lawfulLog holds
  · intro log fault _ holds answers
    rw [outage_of_steady rfl answers]
    exact broken _ _ log holds

/-- The update of the rated user's row, if there is one. -/
theorem rateUser_triple {rideId fromUserId toUserId : String} {score : Int}
    {comment : Option String} {newId : String} {now : Timestamp} {user : User}
    (requestEq : request = .rate rideId fromUserId score comment newId now) :
    (rules P init).Triple pid request
      (fun log => (HasRated pid log toUserId ∧ NoneOwn pid savesUser log) ∧
        userSeen init pid toUserId log = some user)
      (Service.call (.userSave { user with
        avgRating := some (RatingService.roundTo2
          (RatingService.incrementalAvg user.avgRating user.ratingCount score))
        ratingCount := user.ratingCount + 1 }))
      (fun _ log => HasRated pid log toUserId ∧ Counted init pid toUserId log)
      (fun _ => RateEnds init pid) := by
  have idOfSeen : ∀ {log : History},
      userSeen init pid toUserId log = some user → user.id = toUserId :=
    fun seen => (everUser_of_seen seen).id
  apply HistoryRules.triple_perform (((hasRated_framed toUserId).and
    framed_noUser).and (framed_userSeen toUserId user)).stable
  · intro log reply _ holds _
    have idEq := idOfSeen holds.2
    change UserLaw init pid request log _
    rw [requestEq]
    refine ⟨?_, holds.1.2, user, ?_, rfl⟩
    · rw [idEq]
      exact holds.1.1
    · rw [← holds.2, ← idEq]
  · intro log value _ holds _
    refine ⟨exists_mem_cons _ holds.1.1, fun _ => ?_⟩
    exact ⟨_, List.mem_cons_self, rfl, _,
      Entry.userAt_eq_some.mpr ⟨rfl, idOfSeen holds.2⟩⟩
  · intro log fault lawfulLog holds answers
    have readAgain : userSeen init pid user.id log = some user := by
      rw [idOfSeen holds.2, holds.2]
    rw [outage_of_userSave answers lawfulLog readAgain rfl]
    exact Or.inl broken_outage

/-- The task has not rated anybody, and its identifier is new. -/
def Unrated (init : Store) (pid : Nat) (newId : String) (log : History) : Prop :=
  (∀ row ∈ init.ratings.rows ++ insertedRatings log, row.id ≠ newId) ∧
    NoneOwn pid savesRating log ∧ NoneOwn pid savesUser log

theorem framed_unrated {newId : String} (drawn : newId ∈ request.draws) :
    Framed P init pid request (Unrated init pid newId) :=
  (framed_newRating drawn).and (framed_noRating.and framed_noUser)

theorem Unrated.cons {newId : String} {log : History} {entry : HistoryEntry}
    (unrated : Unrated init pid newId log) (noRating : entry.savedRating = none)
    (noUser : entry.savedUser = none) : Unrated init pid newId (entry :: log) := by
  refine ⟨?_, unrated.2.1.cons ?_, unrated.2.2.cons ?_⟩
  · rw [insertedRatings, noRating]
    simpa using unrated.1
  · rw [savesRating, noRating]
    rfl
  · rw [savesUser, noUser]
    rfl

/-- The insertion of the rating itself. -/
theorem ratingSave_triple {rideId fromUserId toUserId : String} {score : Int}
    {comment : Option String} {newId : String} {now : Timestamp} {ride : Ride}
    (requestEq : request = .rate rideId fromUserId score comment newId now)
    (inRange : 1 ≤ score ∧ score ≤ 5) (completed : ride.status = .completed)
    (other : ride.otherParty fromUserId = some toUserId) :
    (rules P init).Triple pid request
      (fun log => Unrated init pid newId log ∧
        rideSeen init pid rideId log = some ride)
      (Service.call (.ratingSave {
        rideId := rideId, fromUserId := fromUserId, toUserId := toUserId,
        score := score, comment := comment, id := newId, createdAt := now }))
      (fun _ log => HasRated pid log toUserId ∧ NoneOwn pid savesUser log)
      (fun _ => RateEnds init pid) := by
  have framedStart : Framed P init pid request (Unrated init pid newId) :=
    framed_unrated (by simp [requestEq, Request.draws])
  apply HistoryRules.triple_perform
    (framedStart.and (framed_rideSeen rideId ride)).stable
  · intro log reply _ holds _
    change RatingLaw init pid request log _
    rw [requestEq]
    exact ⟨rfl, inRange, ⟨ride, holds.2, completed, other⟩, holds.1.1, holds.1.2.1⟩
  · intro log value _ holds _
    exact ⟨⟨_, List.mem_cons_self, rfl, _, rfl, rfl⟩, holds.1.2.2.cons rfl⟩
  · intro log fault _ holds _
    exact Or.inr (Or.inl (holds.1.2.1.cons rfl))

/-- The framed condition under which the counters are raised. -/
theorem framed_hasRated (toUserId : String) :
    Framed P init pid request fun log => HasRated pid log toUserId ∧ NoneOwn pid savesUser log :=
  (hasRated_framed toUserId).and framed_noUser

theorem countUser_triple {rideId fromUserId toUserId : String} {score : Int}
    {comment : Option String} {newId : String} {now : Timestamp}
    (requestEq : request = .rate rideId fromUserId score comment newId now) :
    (rules P init).Triple pid request
      (fun log => HasRated pid log toUserId ∧ NoneOwn pid savesUser log)
      (RatingService.countUser toUserId score)
      (fun _ => RateEnds init pid) (fun _ => RateEnds init pid) := by
  have reads : (rules P init).Triple pid request
      (fun log => HasRated pid log toUserId ∧ NoneOwn pid savesUser log)
      (Service.call (.userFindById toUserId))
      (fun found log => (HasRated pid log toUserId ∧ NoneOwn pid savesUser log) ∧
        userSeen init pid toUserId log = found ∧
          storedUser init toUserId log = found)
      (fun _ => RateEnds init pid) := by
    apply userFindById_reads (framed_hasRated toUserId).stable
    · intro log _ holds
      refine ⟨⟨exists_mem_cons _ holds.1, holds.2.cons rfl⟩, ?_, ?_⟩
      · rw [userSeen_cons, if_pos (by simp [Call.readsUser])]
      · exact storedUser_cons toUserId _ log
    · intro _ _ _ _
      exact Or.inl broken_outage
  refine reads.bind fun found => ?_
  cases found with
  | none =>
      apply HistoryRules.triple_pure
      intro log _ holds
      refine Or.inr (Or.inr ⟨toUserId, holds.1.1, fun present => ?_⟩)
      obtain ⟨user, userEq⟩ := Option.ne_none_iff_exists'.mp present
      exact absurd holds.2.2 (Ever.latest_ne_none (Or.inl userEq))
  | some user =>
      refine ((rateUser_triple requestEq).weaken
        (fun log holds => ⟨holds.1, holds.2.1⟩) (fun _ _ holds => holds)
        fun _ _ holds => holds).bind fun _ => ?_
      apply HistoryRules.triple_pure
      intro log _ holds
      exact Or.inr (Or.inr ⟨toUserId, holds⟩)

/-- The part of `rate` that runs once the rating is inserted. -/
theorem rateCounts_triple {rideId fromUserId toUserId : String} {score : Int}
    {comment : Option String} {newId : String} {now : Timestamp}
    (requestEq : request = .rate rideId fromUserId score comment newId now) :
    (rules P init).Triple pid request
      (fun log => HasRated pid log toUserId ∧ NoneOwn pid savesUser log)
      (do
        match ← Service.call (.driverFindById toUserId) with
        | none => pure ()
        | some driver =>
            let newAvg := RatingService.roundTo2
              (RatingService.incrementalAvg driver.avgRating driver.ratingCount score)
            let _ ← DriverRepository.save { driver with
              avgRating := some newAvg, ratingCount := driver.ratingCount + 1 }
        RatingService.countUser toUserId score)
      (fun _ => RateEnds init pid) (fun _ => RateEnds init pid) := by
  refine (driverFindById_triple (framed_hasRated toUserId) fun _ _ _ _ =>
    Or.inl broken_outage).bind fun found => ?_
  cases found with
  | none => exact (countUser_triple requestEq).strengthen fun log holds => holds.1
  | some driver =>
      refine ((rateDriver_triple requestEq).strengthen fun log holds =>
        ⟨holds.1, holds.2.1⟩).bind fun _ => ?_
      exact countUser_triple requestEq

theorem rate_triple {rideId fromUserId : String} {score : Int}
    {comment : Option String} {newId : String} {now : Timestamp}
    (requestEq : request = .rate rideId fromUserId score comment newId now) :
    (rules P init).Triple pid request (Unrated init pid newId)
      (RatingService.rate rideId fromUserId score comment newId now)
      (fun _ => RateEnds init pid) (fun _ => RateEnds init pid) := by
  have framedStart : Framed P init pid request (Unrated init pid newId) :=
    framed_unrated (by simp [requestEq, Request.draws])
  have refuse : ∀ (_ : Failure) (log : History),
      Unrated init pid newId log → RateEnds init pid log :=
    fun _ _ holds => Or.inr (Or.inl holds.2.1)
  unfold RatingService.rate
  simp only [reject_bind]
  refine guard_triple refuse fun inRange => ?_
  have keptByRead : ∀ reply log, Unrated init pid newId log →
      Unrated init pid newId (⟨pid, request, .rideFindById rideId, reply⟩ :: log) := by
    intro reply log holds
    apply holds.cons <;> cases reply <;> rfl
  refine (getRide_triple framedStart.stable keptByRead refuse).bind fun ride => ?_
  refine guard_triple (fun failure log holds => refuse failure log holds.1)
    fun completed => ?_
  refine (ratedUser_triple fun failure log holds =>
    refuse failure log holds.1).bind fun toUserId => ?_
  have framedRead : Framed P init pid request fun log =>
      (Unrated init pid newId log ∧ rideSeen init pid rideId log = some ride) ∧
        ride.otherParty fromUserId = some toUserId :=
    (framedStart.and (framed_rideSeen rideId ride)).and (framed_const _)
  refine (quiet_triple rfl framedRead fun failure log holds =>
    refuse failure log holds.1.1).bind fun already => ?_
  refine guard_triple (fun failure log holds => refuse failure log holds.1.1)
    fun _ => ?_
  apply HistoryRules.triple_assume (fun log holds => holds.2)
  intro other
  refine ((ratingSave_triple requestEq (not_not.mp inRange) (not_not.mp completed)
    other).strengthen fun log holds => holds.1).bind fun _ => ?_
  exact rateCounts_triple requestEq

end RideHailing
