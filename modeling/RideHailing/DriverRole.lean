import RideHailing.RatingCounts

/-!
# The role of a registered driver

Registering as a driver writes the role DRIVER into the user's row.  Nothing
writes RIDER on purpose, but a rating writes back the whole row of the rated
user as it was read.  As long as no rating brings back an old role, a registered
driver stays one and can always switch to the driver's mode.
-/

namespace RideHailing

variable {P : Platform} {init : Store}
variable {events later : List ApplicationEvent} {pool final : ApplicationPool}

/-- A rating that writes a user back has read the role that is stored. -/
def RoleCurrent (init : Store) (entry : HistoryEntry) (older : History) : Prop :=
  entry.request.isRate = true →
    ∀ user ∈ entry.savedUser, ∀ stored ∈ storedUser init user.id older,
      ∃ seen ∈ userSeen init entry.pid user.id older, seen.role = stored.role

instance (entry : HistoryEntry) (older : History) :
    Decidable (RoleCurrent init entry older) := by
  unfold RoleCurrent
  infer_instance

/-- The user of this name has the role DRIVER. -/
def Store.HasDriver (store : Store) (username : String) : Prop :=
  ∃ user ∈ store.users.rows, user.username = username ∧ user.role = .driver

instance (store : Store) (username : String) : Decidable (store.HasDriver username) := by
  unfold Store.HasDriver
  infer_instance

/-- The user is stored with the role DRIVER. -/
def StoredDriver (init : Store) (userId username : String) (log : History) : Prop :=
  ∃ user, storedUser init userId log = some user ∧ user.username = username ∧
    user.role = .driver

theorem StoredDriver.cons {userId username : String} {entry : HistoryEntry}
    {older : History} (lawful : Lawful (law init) (entry :: older))
    (current : RoleCurrent init entry older)
    (stored : StoredDriver init userId username older) :
    StoredDriver init userId username (entry :: older) := by
  obtain ⟨old, found, named, role⟩ := stored
  cases saved : entry.userAt userId with
  | none => exact ⟨old, by rw [storedUser_cons, saved]; exact found, named, role⟩
  | some user =>
      refine ⟨user, by rw [storedUser_cons, saved]; rfl, ?_, ?_⟩
      · rw [← named]
        exact EverUser.username_eq lawful (ever_cons.mpr (Or.inl saved))
          (ever_of_latest found).cons
      · obtain ⟨savedUser, rfl⟩ := Entry.userAt_eq_some.mp saved
        have userLaw := law_savedUser lawful.1 savedUser
        cases requestEq : entry.request with
        | authRegister clientIp name password newId salt =>
            simp only [requestEq, UserLaw] at userLaw
            have idEq : user.id = newId := by rw [userLaw.1]
            rw [idEq, userLaw.2] at found
            cases found
        | driverRegister name vehicleType licensePlate =>
            simp only [requestEq, UserLaw] at userLaw
            obtain ⟨seen, _, _, userEq⟩ := userLaw
            rw [userEq]
        | rate rideId fromUserId score comment newId now =>
            simp only [requestEq, UserLaw] at userLaw
            obtain ⟨_, _, seen, read, userEq⟩ := userLaw
            obtain ⟨other, otherRead, same⟩ :=
              current (by rw [requestEq]; rfl) user savedUser old found
            rw [read] at otherRead
            cases otherRead
            rw [userEq]
            exact same.trans role
        | _ => simp only [requestEq, UserLaw] at userLaw

theorem StoredDriver.append {userId username : String} {newer older : History}
    (lawful : Lawful (law init) (newer ++ older))
    (current : Lawful (RoleCurrent init) (newer ++ older))
    (stored : StoredDriver init userId username older) :
    StoredDriver init userId username (newer ++ older) := by
  induction newer with
  | nil => exact stored
  | cons entry newer ih => exact (ih lawful.2 current.2).cons lawful current.1

/-- A registration that returned has stored the role. -/
theorem storedDriver_of_registered {pid : Nat} {username : String} {log : History}
    (lawful : Lawful (law init) log) (current : Lawful (RoleCurrent init) log)
    (registered : Registered pid username log) :
    ∃ userId, StoredDriver init userId username log := by
  obtain ⟨entry, entryMem, _, user, saved, named, role⟩ := registered
  obtain ⟨newer, older, rfl⟩ := List.append_of_mem entryMem
  refine ⟨user.id, StoredDriver.append lawful current ⟨user, ?_, named, role⟩⟩
  rw [storedUser_cons, Entry.userAt_eq_some.mpr ⟨saved, rfl⟩]
  rfl

/-- When no rating brings back an old role, a user whose registration as a driver
has returned has the role DRIVER in every later state, and every later request of
that user to switch to the driver's mode succeeds. -/
theorem driver_role_permanent (unlocked : init.acceptLock = none)
    (ran : (application P).run (Pool.start init) events = some pool)
    {pid : Nat} {username vehicleType licensePlate : String}
    (registered : returned pool pid =
      some (.driverRegister username vehicleType licensePlate))
    (ranLater : (application P).run pool later = some final)
    (current : Lawful (RoleCurrent init) final.world.log) :
    final.world.state.HasDriver username ∧
      ∀ switch mode outcome, pool.tasks.length ≤ switch →
        final.ended? switch = some (.switchMode username mode, outcome) →
          parseMode mode = some .driver → ¬ Broken switch final.world.log →
            outcome = .ok (.token ⟨username, .driver⟩) := by
  have valid := reached_valid unlocked ran
  have ranAll : (application P).run (Pool.start init) (events ++ later) = some final := by
    rw [Machine.run, runSteps_append]
    exact Option.bind_eq_some_iff.mpr ⟨pool, ran, ranLater⟩
  have validFinal := reached_valid unlocked ranAll
  have described : Describes init final.world := validFinal.good.1
  have lawful : Lawful (law init) final.world.log := validFinal.good.2
  obtain ⟨news, logEq⟩ := log_grows ranLater
  have storedThen : ∃ userId, StoredDriver init userId username pool.world.log := by
    obtain ⟨_, response, guarantee⟩ := guarantee_of_returned valid registered
    rw [logEq] at lawful current
    exact storedDriver_of_registered lawful.of_append current.of_append guarantee
  obtain ⟨userId, storedThen⟩ := storedThen
  constructor
  · obtain ⟨user, stored, named, role⟩ :
        StoredDriver init userId username final.world.log := by
      rw [logEq] at lawful current ⊢
      exact storedThen.append lawful current
    rw [← described.users userId] at stored
    exact ⟨user, (KeyedTable.find_eq_some_iff.mp stored).1, named, role⟩
  · intro switch mode outcome spawnedLater ended driverMode working
    have guarantee := validFinal.result (Pool.ended?_eq_some ended) rfl
    cases outcome with
    | ok response => rw [guarantee driverMode]
    | error failure =>
        obtain ⟨newer, lookup, older, split, lookupPid, denied⟩ := guarantee driverMode
        have notOld : lookup ∉ pool.world.log := by
          intro lookupMem
          have owned := valid.owned lookup lookupMem
          have bound := (List.getElem?_eq_some_iff.mp owned).1
          rw [Pool.requests, List.length_map, lookupPid] at bound
          omega
        obtain ⟨middle, olderEq⟩ := older_of_append_eq (split.symm.trans logEq) notOld
        rw [split] at lawful current
        have lawfulOlder := lawful.of_append.2
        have currentOlder := current.of_append.2
        rw [olderEq] at lawfulOlder currentOlder
        obtain ⟨user, stored, named, role⟩ :=
          StoredDriver.append lawfulOlder currentOlder storedThen
        rcases denied with outage | notDriver
        · exact absurd ⟨lookup, by simp [split], lookupPid, outage⟩ working
        · rw [olderEq] at notDriver
          exact absurd role (notDriver userId user stored named)

namespace SmallCity

/-- Dan rates Ann after a ride and has read her row when she registers as a driver. -/
def registersDuringRate : List ApplicationEvent :=
  rideWithDan 0 7 "r1" "u1" ++
  [.spawn (.rate "r1" "u3" 5 none "k1" 120)] ++ steps 4 5 ++
  [.spawn (.driverRegister "ann" "sedan" "K3")] ++ steps 5 5

/-- The rating ends, and Ann asks for the driver's mode. -/
def rateThenSwitch : List ApplicationEvent :=
  [.step 4, .spawn (.switchMode "ann" "driver"), .step 6]

theorem registersDuringRate_loses_role :
    ∃ pool, play registersDuringRate = some pool ∧
      returned pool 5 = some (.driverRegister "ann" "sedan" "K3") ∧
      ∃ final, (application platform).run pool rateThenSwitch = some final ∧
        ¬ final.world.state.HasDriver "ann" ∧
        (final.ended? 6).map Prod.snd = some (.error (.http 403 "Forbidden")) := by
  obtain ⟨pool, played, checked⟩ := Option.map_eq_some_iff.mp
    (by decide +kernel : (play registersDuringRate).map (fun pool =>
      decide (returned pool 5 = some (.driverRegister "ann" "sedan" "K3") ∧
      ∃ final ∈ (application platform).run pool rateThenSwitch,
        ¬ final.world.state.HasDriver "ann" ∧
        (final.ended? 6).map Prod.snd = some (.error (.http 403 "Forbidden")))) =
      some true)
  exact ⟨pool, played, of_decide_eq_true checked⟩

/-- Ann registers as a driver. -/
def annRegisters : List ApplicationEvent :=
  [.spawn (.driverRegister "ann" "sedan" "K3")] ++ steps 0 5

/-- Ann asks for the driver's mode. -/
def annSwitches : List ApplicationEvent :=
  [.spawn (.switchMode "ann" "driver"), .step 1]

theorem annSwitches_keeps_role :
    ∃ pool, play annRegisters = some pool ∧
      ∃ final, (application platform).run pool annSwitches = some final ∧
        final.world.state.HasDriver "ann" ∧
        ∀ outcome, final.ended? 1 = some (.switchMode "ann" "driver", outcome) →
          outcome = .ok (.token ⟨"ann", .driver⟩) := by
  obtain ⟨pool, played, checked⟩ := Option.map_eq_some_iff.mp
    (by decide +kernel : (play annRegisters).map (fun pool =>
      decide (returned pool 0 = some (.driverRegister "ann" "sedan" "K3") ∧
      pool.tasks.length ≤ 1 ∧
      ∃ final ∈ (application platform).run pool annSwitches,
        Lawful (RoleCurrent store) final.world.log ∧
        ∀ entry ∈ final.world.log, entry.outage = false)) = some true)
  obtain ⟨registered, spawned, final, ran, current, working⟩ := of_decide_eq_true checked
  obtain ⟨role, switches⟩ := driver_role_permanent rfl played registered ran current
  refine ⟨pool, played, final, ran, role, fun outcome ended => ?_⟩
  exact switches 1 "driver" outcome spawned ended (by decide)
    (not_broken_of_working working)

end SmallCity

end RideHailing
