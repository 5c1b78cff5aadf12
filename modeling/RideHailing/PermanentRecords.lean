import RideHailing.DriverMode
import RideHailing.RatingAggregates
import RideHailing.RideRecords

/-!
# What is never lost

Rows are written back whole, from copies that may be stale, and nothing is ever deleted.
In every interleaving a user keeps the name and the password, a ride its rider, its
coordinates and its quoted fare, and a rating stays as it was given.  A driver's vehicle
is always one that was registered, but two requests to register the same driver can run
side by side.
-/

namespace RideHailing

/-- The request registers this vehicle for this driver. -/
def Request.RegistersVehicle (store : Store) (driver : Driver) : Request → Prop
  | .registerDriver userId vehicleType licensePlate =>
      userId = driver.userId ∧ vehicleType = driver.vehicleType ∧
        licensePlate = driver.licensePlate
  | .driverRegister username vehicleType licensePlate =>
      store.Knows driver.userId username ∧ vehicleType = driver.vehicleType ∧
        licensePlate = driver.licensePlate
  | _ => False

/-- The later store has all the rows of the earlier one, with the columns that are for
good. -/
structure Store.Retains (before after : Store) : Prop where
  users : ∀ user ∈ before.users.rows, ∃ kept ∈ after.users.rows, kept.id = user.id ∧
    kept.username = user.username ∧ kept.passwordHash = user.passwordHash
  drivers : ∀ driver ∈ before.drivers.rows, ∃ kept ∈ after.drivers.rows,
    kept.userId = driver.userId
  rides : ∀ ride ∈ before.rides.rows, ∃ kept ∈ after.rides.rows,
    kept.id = ride.id ∧ kept.SameOrder ride
  ratings : before.ratings.rows <+: after.ratings.rows

section Retained

variable {P : Platform} {init : Store} {pool final : ApplicationPool}
variable {events later : List ApplicationEvent} {log older newer : History}
variable {entry : HistoryEntry}

/-- A saved user is new or keeps the password of a row that was read. -/
theorem passwordHash_userAt {userId : String} {user : User} (lawful : law init entry older)
    (saved : entry.userAt userId = some user) :
    storedUser init userId older = none ∨
      ∃ seen, EverUser init userId older seen ∧ user.passwordHash = seen.passwordHash := by
  obtain ⟨savedUser, rfl⟩ := Entry.userAt_eq_some.mp saved
  have userLaw := law_savedUser lawful savedUser
  cases requestEq : entry.request with
  | authRegister clientIp username password newId salt =>
      simp only [UserLaw, requestEq] at userLaw
      rw [userLaw.1]
      exact Or.inl userLaw.2
  | driverRegister username vehicleType licensePlate =>
      simp only [UserLaw, requestEq] at userLaw
      obtain ⟨seen, read, _, rfl⟩ := userLaw
      exact Or.inr ⟨seen, everUser_of_seen read, rfl⟩
  | rate rideId fromUserId score comment newId now =>
      simp only [UserLaw, requestEq] at userLaw
      obtain ⟨_, _, seen, read, userEq⟩ := userLaw
      exact Or.inr ⟨seen, everUser_of_seen read, by rw [userEq]⟩
  | _ => simp only [UserLaw, requestEq] at userLaw

theorem EverUser.passwordHash_eq {userId : String} {first second : User}
    (lawful : Lawful (law init) log) (everFirst : EverUser init userId log first)
    (everSecond : EverUser init userId log second) :
    first.passwordHash = second.passwordHash := by
  apply Ever.agree ?_ lawful everFirst everSecond
  intro entry older user entryLawful _ saved
  exact passwordHash_userAt entryLawful saved

/-- All rows of a ride were ordered alike. -/
theorem EverRide.sameOrder {rideId : String} {first second : Ride}
    (lawful : Lawful (law init) log) (everFirst : EverRide init rideId log first)
    (everSecond : EverRide init rideId log second) : first.SameOrder second := by
  have agree : ∀ {γ : Type} (field : Ride → γ),
      (∀ {request before after}, Moves request before after → field after = field before) →
        field first = field second := by
    intro γ field kept
    apply Ever.agree ?_ lawful everFirst everSecond
    intro entry older ride entryLawful _ saved
    rcases law_rideAt entryLawful saved with ⟨_, _, absent⟩ | ⟨_, seen, read, moves⟩
    · exact Or.inl absent
    · exact Or.inr ⟨seen, everRide_of_seen read, kept moves⟩
  constructor
  all_goals
    apply agree
    intro request before after moves
    cases moves <;> rfl

/-- The vehicle is that of the row that was read, or the request registers it. -/
theorem vehicle_driverAt {userId : String} {driver : Driver} (lawful : law init entry older)
    (saved : entry.driverAt userId = some driver) :
    (∃ seen, driverSeen init entry.pid userId older = some seen ∧
        driver.vehicleType = seen.vehicleType ∧ driver.licensePlate = seen.licensePlate) ∨
      entry.request = .registerDriver userId driver.vehicleType driver.licensePlate ∨
        ∃ username user, EverUser init userId older user ∧ user.username = username ∧
          entry.request =
            .driverRegister username driver.vehicleType driver.licensePlate := by
  obtain ⟨savedDriver, rfl⟩ := Entry.driverAt_eq_some.mp saved
  have driverLaw := law_savedDriver lawful savedDriver
  cases requestEq : entry.request with
  | registerDriver userId vehicleType licensePlate =>
      simp only [DriverLaw, requestEq] at driverLaw
      rw [driverLaw]
      exact Or.inr (Or.inl rfl)
  | driverRegister username vehicleType licensePlate =>
      simp only [DriverLaw, requestEq] at driverLaw
      obtain ⟨driverEq, user, read, named⟩ := driverLaw
      refine Or.inr (Or.inr ⟨username, user, everUser_of_seen read, named, ?_⟩)
      rw [driverEq]
  | acceptRide rideId driverId =>
      simp only [DriverLaw, requestEq] at driverLaw
      obtain ⟨seen, read, driverEq⟩ := driverLaw.2.1
      exact Or.inl ⟨seen, read, by rw [driverEq], by rw [driverEq]⟩
  | completeRide rideId driverId now =>
      simp only [DriverLaw, requestEq] at driverLaw
      obtain ⟨seen, read, driverEq⟩ := driverLaw.2
      exact Or.inl ⟨seen, read, by rw [driverEq], by rw [driverEq]⟩
  | cancelRide rideId userId =>
      simp only [DriverLaw, requestEq] at driverLaw
      obtain ⟨seen, read, driverEq⟩ := driverLaw.2
      exact Or.inl ⟨seen, read, by rw [driverEq], by rw [driverEq]⟩
  | goOnline userId lat lng =>
      simp only [DriverLaw, requestEq] at driverLaw
      obtain ⟨seen, read, driverEq⟩ := driverLaw.2
      exact Or.inl ⟨seen, read, by rw [driverEq], by rw [driverEq]⟩
  | goOffline userId =>
      simp only [DriverLaw, requestEq] at driverLaw
      obtain ⟨seen, read, driverEq⟩ := driverLaw.2
      exact Or.inl ⟨seen, read, by rw [driverEq], by rw [driverEq]⟩
  | rate rideId fromUserId score comment newId now =>
      simp only [DriverLaw, requestEq] at driverLaw
      obtain ⟨_, seen, read, driverEq⟩ := driverLaw
      exact Or.inl ⟨seen, read, by rw [driverEq], by rw [driverEq]⟩
  | _ => simp only [DriverLaw, requestEq] at driverLaw

/-- A vehicle has been registered, or was there from the start. -/
theorem vehicle_registered {userId : String} {driver : Driver} (lawful : Lawful (law init) log)
    (ever : EverDriver init userId log driver) :
    (∃ base, init.drivers.find userId = some base ∧
        base.vehicleType = driver.vehicleType ∧ base.licensePlate = driver.licensePlate) ∨
      ∃ entry ∈ log,
        entry.request = .registerDriver userId driver.vehicleType driver.licensePlate ∨
          ∃ username user, EverUser init userId log user ∧ user.username = username ∧
            entry.request =
              .driverRegister username driver.vehicleType driver.licensePlate := by
  induction log generalizing driver with
  | nil =>
      rcases ever with fromInit | ⟨_, absurdMem, _⟩
      · exact Or.inl ⟨driver, fromInit, rfl, rfl⟩
      · cases absurdMem
  | cons entry older ih =>
      have earlier : ∀ {row : Driver}, EverDriver init userId older row →
          row.vehicleType = driver.vehicleType → row.licensePlate = driver.licensePlate →
            (∃ base, init.drivers.find userId = some base ∧
              base.vehicleType = driver.vehicleType ∧
                base.licensePlate = driver.licensePlate) ∨
              ∃ source ∈ entry :: older,
                source.request =
                    .registerDriver userId driver.vehicleType driver.licensePlate ∨
                  ∃ username user, EverUser init userId (entry :: older) user ∧
                    user.username = username ∧ source.request =
                      .driverRegister username driver.vehicleType driver.licensePlate := by
        intro row everRow sameType samePlate
        rw [← sameType, ← samePlate]
        rcases ih lawful.2 everRow with base | ⟨source, sourceMem, registers⟩
        · exact Or.inl base
        · refine Or.inr ⟨source, List.mem_cons_of_mem _ sourceMem, ?_⟩
          rcases registers with direct | ⟨username, user, everUser, named, request⟩
          · exact Or.inl direct
          · exact Or.inr ⟨username, user, everUser.cons, named, request⟩
      rcases ever_cons.mp ever with saved | before
      · rcases vehicle_driverAt lawful.1 saved with
          ⟨seen, read, sameType, samePlate⟩ | direct | ⟨username, user, everUser, named, request⟩
        · exact earlier (ever_of_atLast read) sameType.symm samePlate.symm
        · exact Or.inr ⟨entry, List.mem_cons_self, Or.inl direct⟩
        · exact Or.inr ⟨entry, List.mem_cons_self,
            Or.inr ⟨username, user, everUser.cons, named, request⟩⟩
      · exact earlier before rfl rfl

theorem insertedRatings_append (newer older : History) :
    insertedRatings (newer ++ older) = insertedRatings older ++ insertedRatings newer := by
  induction newer with
  | nil => simp [insertedRatings]
  | cons entry newer ih =>
      rw [List.cons_append, insertedRatings, ih, List.append_assoc]
      rfl

theorem retains_of_append {before after : World Value Fault Store Request}
    (describedBefore : Describes init before) (describedAfter : Describes init after)
    (lawful : Lawful (law init) after.log) (logEq : after.log = newer ++ before.log) :
    before.state.Retains after.state := by
  constructor
  · intro user stored
    have found : storedUser init user.id before.log = some user := by
      rw [← describedBefore.users user.id]
      exact KeyedTable.mem_rows_iff_find.mp stored
    have ever : EverUser init user.id after.log user := by
      rw [logEq]
      exact (ever_of_latest found).append
    obtain ⟨kept, keptFound⟩ := Option.ne_none_iff_exists'.mp ever.latest_ne_none
    have everKept : EverUser init user.id after.log kept := ever_of_latest keptFound
    refine ⟨kept, ?_, everKept.id, everKept.username_eq lawful ever,
      everKept.passwordHash_eq lawful ever⟩
    have tableFound : after.state.users.find user.id = some kept :=
      (describedAfter.users user.id).trans keptFound
    exact (KeyedTable.find_eq_some_iff.mp tableFound).1
  · intro driver stored
    have found : storedDriver init driver.userId before.log = some driver := by
      rw [← describedBefore.drivers driver.userId]
      exact KeyedTable.mem_rows_iff_find.mp stored
    have ever : EverDriver init driver.userId after.log driver := by
      rw [logEq]
      exact (ever_of_latest found).append
    obtain ⟨kept, keptFound⟩ := Option.ne_none_iff_exists'.mp ever.latest_ne_none
    have tableFound : after.state.drivers.find driver.userId = some kept :=
      (describedAfter.drivers driver.userId).trans keptFound
    exact ⟨kept, KeyedTable.find_eq_some_iff.mp tableFound⟩
  · intro ride stored
    have found : storedRide init ride.id before.log = some ride := by
      rw [← describedBefore.rides ride.id]
      exact KeyedTable.mem_rows_iff_find.mp stored
    have ever : EverRide init ride.id after.log ride := by
      rw [logEq]
      exact (ever_of_latest found).append
    obtain ⟨kept, keptFound⟩ := Option.ne_none_iff_exists'.mp ever.latest_ne_none
    have everKept : EverRide init ride.id after.log kept := ever_of_latest keptFound
    have tableFound : after.state.rides.find ride.id = some kept :=
      (describedAfter.rides ride.id).trans keptFound
    exact ⟨kept, (KeyedTable.find_eq_some_iff.mp tableFound).1, everKept.id,
      everKept.sameOrder lawful ever⟩
  · rw [describedBefore.ratings, describedAfter.ratings, logEq, insertedRatings_append,
      ← List.append_assoc]
    exact List.prefix_append _ _

end Retained

/-- Nothing is ever lost.  Under every interleaving, with any calls failing, the rows that
are stored at one moment are stored at each later one: users with their names and
passwords, rides with their orders, ratings unchanged and in their places; and each
stored driver has a vehicle that some request has registered for this very driver. -/
theorem records_retained {P : Platform} {init : Store} {events later : List ApplicationEvent}
    {pool final : ApplicationPool} (unlocked : init.acceptLock = none)
    (noDrivers : init.drivers.rows = [])
    (ran : (application P).run (Pool.start init) events = some pool)
    (ranLater : (application P).run pool later = some final) :
    pool.world.state.Retains final.world.state ∧
      ∀ driver ∈ final.world.state.drivers.rows, ∃ request ∈ final.requests,
        request.RegistersVehicle final.world.state driver := by
  have ranFinal : (application P).run (Pool.start init) (events ++ later) = some final := by
    rw [Machine.run, runSteps_append]
    rw [Machine.run] at ran
    rw [ran]
    exact ranLater
  have valid := reached_valid unlocked ran
  have validFinal := reached_valid unlocked ranFinal
  have described : Describes init pool.world := valid.good.1
  have describedFinal : Describes init final.world := validFinal.good.1
  have lawful : Lawful (law init) final.world.log := validFinal.good.2
  obtain ⟨newer, logEq⟩ := log_grows ranLater
  refine ⟨retains_of_append described describedFinal lawful logEq, ?_⟩
  intro driver stored
  have found : storedDriver init driver.userId final.world.log = some driver := by
    rw [← describedFinal.drivers driver.userId]
    exact KeyedTable.mem_rows_iff_find.mp stored
  rcases vehicle_registered lawful (ever_of_latest found) with
    ⟨base, baseFound, _⟩ | ⟨entry, entryMem, registers⟩
  · simp [KeyedTable.find, noDrivers] at baseFound
  · refine ⟨entry.request, List.mem_of_getElem? (validFinal.owned entry entryMem), ?_⟩
    rcases registers with direct | ⟨username, user, everUser, named, request⟩
    · rw [direct]
      exact ⟨rfl, rfl, rfl⟩
    · rw [request]
      refine ⟨?_, rfl, rfl⟩
      obtain ⟨kept, keptFound⟩ := Option.ne_none_iff_exists'.mp everUser.latest_ne_none
      have everKept : EverUser init driver.userId final.world.log kept :=
        ever_of_latest keptFound
      have tableFound : final.world.state.users.find driver.userId = some kept :=
        (describedFinal.users driver.userId).trans keptFound
      exact ⟨kept, (KeyedTable.find_eq_some_iff.mp tableFound).1, everKept.id,
        (everKept.username_eq lawful everUser).trans named⟩

namespace SmallCity

/-- The city before anybody has registered as a driver. -/
def unregistered : Store :=
  { store with drivers := KeyedTable.empty }

/-- Dan registers with two vehicles at the same time, and the first one is committed. -/
def danRegistersTwice : List ApplicationEvent :=
  [.spawn (.driverRegister "dan" "sedan" "K3"), .spawn (.driverRegister "dan" "van" "V4")] ++
  steps 0 2 ++ steps 1 2 ++ [.step 0]

/-- The second registration replaces the vehicle, and nothing else is lost. -/
theorem danRegistersTwice_retained :
    ∃ pool final, (application platform).run (Pool.start unregistered) danRegistersTwice =
        some pool ∧
      (application platform).run pool [.step 1] = some final ∧
      (pool.world.state.drivers.find "u3").map Driver.vehicleType = some "sedan" ∧
      (final.world.state.drivers.find "u3").map Driver.vehicleType = some "van" ∧
      pool.world.state.Retains final.world.state := by
  obtain ⟨pool, played, checked⟩ := Option.map_eq_some_iff.mp
    (by decide +kernel : ((application platform).run (Pool.start unregistered)
      danRegistersTwice).map (fun pool =>
        decide ((pool.world.state.drivers.find "u3").map Driver.vehicleType = some "sedan" ∧
          ((application platform).run pool [.step 1]).any fun final =>
            decide ((final.world.state.drivers.find "u3").map Driver.vehicleType =
              some "van"))) = some true)
  obtain ⟨sedan, goesOn⟩ := of_decide_eq_true checked
  obtain ⟨final, playedLater, van⟩ := (Option.any_eq_true _ _).mp goesOn
  exact ⟨pool, final, played, playedLater, sedan, of_decide_eq_true van,
    (records_retained rfl rfl played playedLater).1⟩

end SmallCity

end RideHailing
