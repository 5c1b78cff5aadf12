import RideHailing.AccountTriples

/-!
# What every request guarantees

The routes for accounts complete the list of programs.  From the triples of all
of them follows the rule for whole runs: whatever the requests and however
their calls interleave, the history stays lawful, it describes the store, and a
finished request has kept its guarantee.
-/

namespace RideHailing

variable {P : Platform} {init : Store} {pid : Nat} {request : Request}

/-! ## Accounts -/

theorem authRegister_triple {clientIp username password newId salt : String}
    (requestEq : request = .authRegister clientIp username password newId salt) :
    (rules P init).Triple pid request
      (fun log => storedUser init newId log = none)
      (Auth.register P clientIp username password newId salt)
      (fun _ _ => True) (fun _ _ => True) := by
  have framed : Framed P init pid request fun log =>
      storedUser init newId log = none :=
    framed_newUser (by simp [requestEq, Request.draws])
  unfold Auth.register Auth.attemptAllowed
  refine (quiet_triple rfl framed fun _ _ _ => trivial).bind fun allowed => ?_
  simp only [reject_bind]
  refine guard_triple (fun _ _ _ => trivial) fun _ => ?_
  refine (quiet_triple rfl framed fun _ _ _ => trivial).bind fun present => ?_
  refine guard_triple (fun _ _ _ => trivial) fun _ => ?_
  have saves : (rules P init).Triple pid request
      (fun log => storedUser init newId log = none)
      (Service.call (.userSave {
        username := username, passwordHash := P.hashPassword salt password,
        id := newId }))
      (fun _ _ => True) (fun _ _ => True) := by
    apply HistoryRules.triple_perform framed.stable
    · intro log reply _ absent _
      change UserLaw init pid request log _
      rw [requestEq]
      exact ⟨rfl, absent⟩
    · intro _ _ _ _ _
      trivial
    · intro _ _ _ _ _
      trivial
  refine saves.bind fun user => ?_
  exact HistoryRules.triple_pure fun _ _ _ => trivial

theorem userFindByUsername_triple {username : String} {pre : History → Prop}
    {returns : Option User → History → Prop} {exits : Failure → History → Prop}
    (stable : (rules P init).Stable pid request pre)
    (found : ∀ log result, pre log →
      (rules P init).Answers pid (.userFindByUsername username) (.ok result) log →
        returns result
          (⟨pid, request, .userFindByUsername username, .ok result⟩ :: log))
    (broken : ∀ failure log, pre log →
      exits failure
        (⟨pid, request, .userFindByUsername username, .error .outage⟩ :: log)) :
    (rules P init).Triple pid request pre
      (Service.call (.userFindByUsername username)) returns exits := by
  apply HistoryRules.triple_perform stable
  · intro log reply _ _ _
    trivial
  · intro log result _ holds answers
    exact found log result holds answers
  · intro log fault _ holds answers
    rw [outage_of_steady rfl answers]
    exact broken _ log holds

theorem login_triple {clientIp username password : String} :
    (rules P init).Triple pid request (fun _ => True)
      (Auth.login P clientIp username password)
      (fun _ _ => True) (fun _ _ => True) := by
  unfold Auth.login Auth.attemptAllowed
  refine (quiet_triple rfl (framed_const True) fun _ _ _ => trivial).bind
    fun allowed => ?_
  simp only [reject_bind]
  refine guard_triple (fun _ _ _ => trivial) fun _ => ?_
  have finds : (rules P init).Triple pid request (fun _ => True)
      (Service.call (.userFindByUsername username))
      (fun _ _ => True) (fun _ _ => True) :=
    userFindByUsername_triple (HistoryRules.stable_const True)
      (fun _ _ _ _ => trivial) fun _ _ _ => trivial
  refine finds.bind fun found => ?_
  cases found with
  | none => exact reject_triple fun _ _ _ => trivial
  | some user =>
      refine guard_triple (fun _ _ _ => trivial) fun _ => ?_
      exact HistoryRules.triple_pure fun _ _ _ => trivial

/-- When the task looked the name up, the call failed or no driver bore it. -/
def Denied (init : Store) (pid : Nat) (username : String) (log : History) : Prop :=
  ∃ newer lookup older, log = newer ++ lookup :: older ∧ lookup.pid = pid ∧
    (lookup.outage = true ∨ ∀ userId user, storedUser init userId older = some user →
      user.username = username → user.role ≠ .driver)

theorem stable_denied (username : String) :
    (rules P init).Stable pid request (Denied init pid username) := by
  intro entry older _ _ _ denied
  obtain ⟨newer, lookup, before, rfl, denied⟩ := denied
  exact ⟨entry :: newer, lookup, before, rfl, denied⟩

theorem switchMode_triple {username mode : String} :
    (rules P init).Triple pid request (fun _ => True)
      (Auth.switchMode username mode)
      (fun token _ => parseMode mode = some .driver → token = ⟨username, .driver⟩)
      (fun _ log => parseMode mode = some .driver → Denied init pid username log) := by
  unfold Auth.switchMode
  cases parsed : parseMode mode with
  | none =>
      apply reject_triple
      intro _ _ _ absurdMode
      cases absurdMode
  | some role =>
      cases role with
      | rider =>
          apply HistoryRules.triple_pure
          intro _ _ _ absurdMode
          cases absurdMode
      | driver =>
          have finds : (rules P init).Triple pid request (fun _ => True)
              (Service.call (.userFindByUsername username))
              (fun found log => (∀ user, found = some user → user.role ≠ .driver) →
                Denied init pid username log)
              (fun _ log => some Role.driver = some Role.driver →
                Denied init pid username log) := by
            apply userFindByUsername_triple (HistoryRules.stable_const True)
            · intro log found _ answers refused
              refine ⟨[], _, log, rfl, rfl, Or.inr fun userId user stored named => ?_⟩
              exact refused user (answers_username_taken answers stored named)
            · intro failure log _ _
              exact ⟨[], _, log, rfl, rfl, Or.inl rfl⟩
          refine finds.bind fun found => ?_
          cases found with
          | none =>
              apply reject_triple
              intro _ log denied _
              exact denied fun user absurdUser => by cases absurdUser
          | some user =>
              simp only [reject_bind]
              apply triple_ite
              · intro notDriver
                apply reject_triple
                intro _ log denied _
                exact denied fun other otherEq => by
                  cases otherEq
                  exact notDriver
              · intro _
                exact HistoryRules.triple_pure fun _ _ _ _ => rfl

/-- The task has written the role DRIVER to the user of this name. -/
def Registered (pid : Nat) (username : String) (log : History) : Prop :=
  ∃ entry ∈ log, entry.pid = pid ∧ ∃ user, entry.savedUser = some user ∧
    user.username = username ∧ user.role = .driver

theorem resolveCurrentUser_triple {username : String} :
    (rules P init).Triple pid request (fun _ => True)
      (Auth.resolveCurrentUser username)
      (fun user log => userSeen init pid user.id log = some user ∧
        user.username = username)
      (fun _ _ => True) := by
  have finds : (rules P init).Triple pid request (fun _ => True)
      (Service.call (.userFindByUsername username))
      (fun found log => ∀ user, found = some user →
        userSeen init pid user.id log = some user ∧ user.username = username)
      (fun _ _ => True) := by
    apply userFindByUsername_triple (HistoryRules.stable_const True)
    · intro log found _ answers user foundEq
      cases foundEq
      obtain ⟨stored, named⟩ := answers_userFindByUsername answers
      refine ⟨?_, named⟩
      rw [userSeen_cons, if_pos (by simp [Call.readsUser]), stored]
    · intro _ _ _
      trivial
  unfold Auth.resolveCurrentUser
  refine finds.bind fun found => ?_
  cases found with
  | none => exact reject_triple fun _ _ _ => trivial
  | some user => exact HistoryRules.triple_pure fun log _ holds => holds user rfl

theorem registerAsDriver_triple {username vehicleType licensePlate : String}
    (requestEq : request = .driverRegister username vehicleType licensePlate) :
    (rules P init).Triple pid request (fun _ => True)
      (Auth.registerAsDriver username vehicleType licensePlate)
      (fun _ => Registered pid username) (fun _ _ => True) := by
  unfold Auth.registerAsDriver
  refine resolveCurrentUser_triple.bind fun user => ?_
  have framedSeen : Framed P init pid request fun log =>
      userSeen init pid user.id log = some user ∧ user.username = username :=
    (framed_userSeen user.id user).and (framed_const _)
  have registers : (rules P init).Triple pid request
      (fun log => userSeen init pid user.id log = some user ∧ user.username = username)
      (DriverService.registerDriver user.id vehicleType licensePlate)
      (fun _ log => userSeen init pid user.id log = some user ∧
        user.username = username)
      (fun _ _ => True) := by
    apply registerDriver_triple framedSeen ?_ ?_ framedSeen
    · intro log _ holds
      rw [requestEq]
      exact ⟨rfl, user, holds.1, holds.2⟩
    · intro log driver value holds
      exact holds
  refine registers.bind fun driver => ?_
  have promotes : (rules P init).Triple pid request
      (fun log => userSeen init pid user.id log = some user ∧ user.username = username)
      (Service.call (.userSave { user with role := .driver }))
      (fun _ => Registered pid username) (fun _ _ => True) := by
    apply HistoryRules.triple_perform framedSeen.stable
    · intro log reply _ holds _
      change UserLaw init pid request log _
      rw [requestEq]
      exact ⟨user, holds.1, holds.2, rfl⟩
    · intro log value _ holds _
      exact ⟨_, List.mem_cons_self, rfl, _, rfl, holds.2, rfl⟩
    · intro _ _ _ _ _
      trivial
  refine promotes.bind fun saved => ?_
  exact HistoryRules.triple_pure fun _ _ holds => holds

/-! ## All requests -/

/-- What a request that has ended has done. -/
def Guarantee (init : Store) (pid : Nat) :
    Request → Outcome → History → Prop
  | .acceptRide rideId driverId, .ok _, log =>
      Committed pid rideId log ∧ HasTaken pid driverId log
  | .acceptRide _ _, .error _, log => AcceptRaises pid log
  | .startRide rideId _, .ok _, log => Committed pid rideId log
  | .completeRide rideId driverId _, .ok _, log =>
      Committed pid rideId log ∧ Released init rideId driverId log
  | .completeRide rideId driverId _, .error _, log =>
      Broken pid log ∨ NoneOwn pid savesRide log ∨ Released init rideId driverId log
  | .cancelRide rideId _, .ok _, log => Committed pid rideId log
  | .goOnline userId _ _, .ok _, log => HasMarked pid userId true log
  | .goOffline userId, .ok _, log => HasMarked pid userId false log
  | .rate _ _ _ _ _ _, _, log => RateEnds init pid log
  | .driverRegister username _ _, .ok _, log => Registered pid username log
  | .switchMode username mode, .ok response, _ =>
      parseMode mode = some .driver → response = .token ⟨username, .driver⟩
  | .switchMode username mode, .error _, log =>
      parseMode mode = some .driver → Denied init pid username log
  | _, _, _ => True

theorem stable_guarantee (kind : Request) (outcome : Outcome) :
    (rules P init).Stable pid request (Guarantee init pid kind outcome) := by
  have rateEnds : (rules P init).Stable pid request (RateEnds init pid) :=
    (framed_broken.or (framed_noRating.or (framed_exists fun userId =>
      (hasRated_framed userId).and (framed_counted userId)))).stable
  cases kind with
  | acceptRide rideId driverId =>
      cases outcome with
      | ok response => exact ((framed_committed rideId).and (framed_hasTaken driverId)).stable
      | error failure => exact (framed_broken.or framed_noDriver).stable
  | startRide rideId driverId =>
      cases outcome with
      | ok response => exact (framed_committed rideId).stable
      | error failure => exact HistoryRules.stable_const True
  | completeRide rideId driverId now =>
      cases outcome with
      | ok response =>
          exact ((framed_committed rideId).and (framed_released rideId driverId)).stable
      | error failure =>
          exact (framed_broken.or (framed_noRide.or
            (framed_released rideId driverId))).stable
  | cancelRide rideId userId =>
      cases outcome with
      | ok response => exact (framed_committed rideId).stable
      | error failure => exact HistoryRules.stable_const True
  | goOnline userId lat lng =>
      cases outcome with
      | ok response => exact (framed_hasMarked userId true).stable
      | error failure => exact HistoryRules.stable_const True
  | goOffline userId =>
      cases outcome with
      | ok response => exact (framed_hasMarked userId false).stable
      | error failure => exact HistoryRules.stable_const True
  | rate rideId fromUserId score comment newId now =>
      cases outcome <;> exact rateEnds
  | driverRegister username vehicleType licensePlate =>
      cases outcome with
      | ok response => exact HistoryRules.stable_exists_mem _
      | error failure => exact HistoryRules.stable_const True
  | switchMode username mode =>
      cases outcome with
      | ok response => exact HistoryRules.stable_const _
      | error failure => exact HistoryRules.stable_imp (stable_denied username)
  | _ => cases outcome <;> exact HistoryRules.stable_const True

/-- A task that starts has made no calls. -/
theorem noneOwn_of_starts {world : World Value Fault Store Request}
    (starts : (rules P init).Starts pid request world)
    (saved : HistoryEntry → Bool) : NoneOwn pid saved world.log :=
  fun entry entryMem ownPid => absurd ownPid (starts.foreign entry entryMem).1

/-- The identifiers that a starting request has drawn are new. -/
theorem unused_of_starts {world : World Value Fault Store Request}
    (starts : (rules P init).Starts pid request world) {newId : String}
    (drawn : newId ∈ request.draws) :
    storedRide init newId world.log = none ∧ storedUser init newId world.log = none ∧
      ∀ row ∈ init.ratings.rows ++ insertedRatings world.log, row.id ≠ newId := by
  have described : Describes init world := starts.good.1
  have unused : Store.unused newId world.state = true := starts.unused newId drawn
  simp only [Store.unused, Bool.and_eq_true, Option.isNone_iff_eq_none] at unused
  refine ⟨?_, ?_, ?_⟩
  · rw [← described.rides newId]
    exact unused.1.1
  · rw [← described.users newId]
    exact unused.1.2
  · rw [← described.ratings]
    intro row rowMem idEq
    exact KeyedTable.find_eq_none_iff.mp unused.2 (idEq ▸ List.mem_map_of_mem rowMem)

/-- Every request, started in any situation, keeps to the law and ends with its
guarantee. -/
theorem request_valid (world : World Value Fault Store Request)
    (starts : (rules P init).Starts pid request world) :
    (rules P init).wp pid request ((application P).program request)
      ((rules P init).Settled pid request (Guarantee init pid request)) world := by
  have settled : ∀ {pre : History → Prop},
      (rules P init).Triple pid request pre (handler P request)
        (fun response => Guarantee init pid request (.ok response))
        (fun failure => Guarantee init pid request (.error failure)) →
      pre world.log →
      (rules P init).wp pid request ((application P).program request)
        ((rules P init).Settled pid request (Guarantee init pid request)) world :=
    fun triple holds =>
      triple.settled (fun outcome => stable_guarantee request outcome) starts.good holds
  cases request with
  | requestRide newId now riderId pickupLat pickupLng dropoffLat dropoffLng =>
      apply settled ((requestRide_triple rfl).bind fun ride =>
        HistoryRules.triple_pure fun _ _ _ => trivial)
      exact (unused_of_starts starts (by simp [Request.draws])).1
  | acceptRide rideId driverId =>
      apply settled ((acceptRide_triple rfl).bind fun ride =>
        HistoryRules.triple_pure fun _ _ holds => holds)
      exact noneOwn_of_starts starts _
  | startRide rideId driverId =>
      apply settled (((startRide_triple rfl).weaken (fun _ holds => holds)
        (fun _ _ holds => holds) fun _ _ _ => trivial).bind fun ride =>
          HistoryRules.triple_pure fun _ _ holds => holds)
      trivial
  | completeRide rideId driverId now =>
      apply settled ((completeRide_triple rfl).bind fun ride =>
        HistoryRules.triple_pure fun _ _ holds => holds)
      exact noneOwn_of_starts starts _
  | cancelRide rideId userId =>
      apply settled ((cancelRide_triple rfl).bind fun ride =>
        HistoryRules.triple_pure fun _ _ holds => holds)
      trivial
  | registerDriver userId vehicleType licensePlate =>
      have registers : (rules P init).Triple pid
          (.registerDriver userId vehicleType licensePlate) (fun _ => True)
          (DriverService.registerDriver userId vehicleType licensePlate)
          (fun _ _ => True) (fun _ _ => True) :=
        registerDriver_triple (framed_const True) (fun _ _ _ => rfl)
          (fun _ _ _ _ => trivial) (framed_const True)
      apply settled (registers.bind fun driver =>
        HistoryRules.triple_pure fun _ _ _ => trivial)
      trivial
  | goOnline userId lat lng =>
      apply settled ((goOnline_triple rfl).bind fun driver =>
        HistoryRules.triple_pure fun _ _ holds => holds)
      trivial
  | goOffline userId =>
      apply settled ((goOffline_triple rfl).bind fun driver =>
        HistoryRules.triple_pure fun _ _ holds => holds)
      trivial
  | updateLocation userId lat lng =>
      apply settled (updateLocation_triple.bind fun _ =>
        HistoryRules.triple_pure fun _ _ _ => trivial)
      trivial
  | rate rideId fromUserId score comment newId now =>
      apply settled ((rate_triple rfl).bind fun _ =>
        HistoryRules.triple_pure fun _ _ holds => holds)
      exact ⟨(unused_of_starts starts (by simp [Request.draws])).2.2,
        noneOwn_of_starts starts _, noneOwn_of_starts starts _⟩
  | authRegister clientIp username password newId salt =>
      apply settled ((authRegister_triple rfl).bind fun token =>
        HistoryRules.triple_pure fun _ _ _ => trivial)
      exact (unused_of_starts starts (by simp [Request.draws])).2.1
  | login clientIp username password =>
      apply settled (login_triple.bind fun token =>
        HistoryRules.triple_pure fun _ _ _ => trivial)
      trivial
  | switchMode username mode =>
      apply settled (switchMode_triple.bind fun token =>
        HistoryRules.triple_pure fun _ _ holds parsed => by rw [holds parsed])
      trivial
  | driverRegister username vehicleType licensePlate =>
      apply settled ((registerAsDriver_triple rfl).bind fun result =>
        HistoryRules.triple_pure fun _ _ holds => holds)
      trivial

/-! ## Runs -/

/-- Every configuration of every run keeps the law and all guarantees. -/
theorem reached_valid (unlocked : init.acceptLock = none)
    {events : List ApplicationEvent} {pool : ApplicationPool}
    (ran : (application P).run (Pool.start init) events = some pool) :
    (rules P init).Valid (Guarantee init) pool :=
  HistoryRules.run_valid (fun _ _ world starts => request_valid world starts)
    (HistoryRules.valid_start (describes_nil init unlocked)) ran

/-- A task that has returned has kept its guarantee. -/
theorem guarantee_of_returned {pool : ApplicationPool}
    (valid : (rules P init).Valid (Guarantee init) pool)
    (ended : returned pool pid = some request) :
    pool.requests[pid]? = some request ∧
      ∃ response, Guarantee init pid request (.ok response) pool.world.log := by
  unfold returned at ended
  split at ended
  · rename_i endedRequest response endedEq
    cases ended
    have found := Pool.ended?_eq_some endedEq
    exact ⟨by simp [Pool.requests, found], response, valid.result found rfl⟩
  · cases ended

/-- Once no request is in flight, whoever made a call has kept its guarantee. -/
theorem guarantee_of_quiescent {pool : ApplicationPool}
    (valid : (rules P init).Valid (Guarantee init) pool) (quiescent : pool.Quiescent)
    {entry : HistoryEntry} (entryMem : entry ∈ pool.world.log) :
    ∃ outcome, Guarantee init entry.pid entry.request outcome pool.world.log := by
  have owned := valid.owned entry entryMem
  rw [Pool.requests, List.getElem?_map, Option.map_eq_some_iff] at owned
  obtain ⟨task, found, requestEq⟩ := owned
  obtain ⟨taskRequest, rest⟩ := task
  have ended := quiescent _ (List.mem_of_getElem? found)
  cases rest with
  | done outcome =>
      subst requestEq
      exact ⟨outcome, valid.result found rfl⟩
  | await call resume => cases ended

end RideHailing
