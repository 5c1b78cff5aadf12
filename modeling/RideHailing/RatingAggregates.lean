import RideHailing.RatingCounts
import RideHailing.RatingAverages

/-!
# Rating columns under concurrency

A rating reads the average and the count of a row, continues both and writes them
back, and other requests write the same rows back from what they have read before.
An update can be lost; but every pair that was ever written continues a pair that was
ever written, so each of them keeps making sense.
-/

namespace RideHailing

variable {P : Platform} {init : Store}
variable {events : List ApplicationEvent} {pool : ApplicationPool}

/-- An average of ratings and their number that can belong together. -/
structure MeaningfulRating (average : Option ℚ) (count : Int) : Prop where
  nonneg : 0 ≤ count
  unrated : average = none ↔ count = 0
  range : ∀ value ∈ average,
    (∃ hundredths : Int, value = hundredths / 100) ∧ 1 ≤ value ∧ value ≤ 5

theorem meaningfulRating_none : MeaningfulRating none 0 :=
  ⟨le_rfl, by simp, by simp⟩

/-- A mean that takes in one more score stays within the range of scores. -/
theorem incrementalAvg_between {average : Option ℚ} {count score : Int}
    (meaningful : MeaningfulRating average count) (scored : 1 ≤ score ∧ score ≤ 5) :
    1 ≤ RatingService.incrementalAvg average count score ∧
      RatingService.incrementalAvg average count score ≤ 5 := by
  have low : (1 : ℚ) ≤ score := by exact_mod_cast scored.1
  have high : (score : ℚ) ≤ 5 := by exact_mod_cast scored.2
  have counted : (0 : ℚ) ≤ count := by exact_mod_cast meaningful.nonneg
  have positive : (0 : ℚ) < count + 1 := by linarith
  unfold RatingService.incrementalAvg
  cases average with
  | none =>
      have zero : count = 0 := meaningful.unrated.mp rfl
      subst zero
      constructor
      · simpa using low
      · simpa using high
  | some value =>
      obtain ⟨-, least, most⟩ := meaningful.range value rfl
      have lowest : 1 * (count : ℚ) ≤ value * count :=
        mul_le_mul_of_nonneg_right least counted
      have highest : value * (count : ℚ) ≤ 5 * count :=
        mul_le_mul_of_nonneg_right most counted
      rw [Option.getD_some, le_div_iff₀ positive, div_le_iff₀ positive]
      constructor <;> linarith

/-- Continuing the columns by a score keeps them meaningful. -/
theorem MeaningfulRating.continued {average : Option ℚ} {count score : Int}
    (meaningful : MeaningfulRating average count) (scored : 1 ≤ score ∧ score ≤ 5) :
    MeaningfulRating
      (some (RatingService.roundTo2 (RatingService.incrementalAvg average count score)))
      (count + 1) := by
  have nonneg := meaningful.nonneg
  obtain ⟨low, high⟩ := incrementalAvg_between meaningful scored
  refine ⟨by omega, ⟨fun absent => (by cases absent), fun zero => (by omega)⟩, ?_⟩
  rintro value ⟨rfl⟩
  refine ⟨RatingService.exists_hundredths _, ?_⟩
  exact_mod_cast @RatingService.roundTo2_between _ 1 5 (by exact_mod_cast low)
    (by exact_mod_cast high)

/-- The rating columns of all users and drivers make sense. -/
structure Store.RatingsMeaningful (store : Store) : Prop where
  users : ∀ user ∈ store.users.rows, MeaningfulRating user.avgRating user.ratingCount
  drivers : ∀ driver ∈ store.drivers.rows,
    MeaningfulRating driver.avgRating driver.ratingCount

/-! ## Everything ever written -/

abbrev EverDriver (init : Store) (userId : String) (log : History) : Driver → Prop :=
  Ever (Entry.driverAt · userId) (init.drivers.find userId) log

/-- Every row of a user or a driver that was ever stored makes sense, and so does every
one that a request still holds from a read. -/
structure EverMeaningful (init : Store) (log : History) : Prop where
  users : ∀ userId user, EverUser init userId log user →
    MeaningfulRating user.avgRating user.ratingCount
  drivers : ∀ userId driver, EverDriver init userId log driver →
    MeaningfulRating driver.avgRating driver.ratingCount

/-- Whoever has inserted a rating rates with a score. -/
theorem scored_of_hasRated {pid : Nat} {log : History} {userId : String}
    {rideId fromUserId newId : String} {score : Int} {comment : Option String}
    {now : Timestamp} (lawful : Lawful (law init) log)
    (rated : HasRated pid log userId)
    (owned : ∀ entry ∈ log, entry.pid = pid →
      entry.request = .rate rideId fromUserId score comment newId now) :
    1 ≤ score ∧ score ≤ 5 := by
  obtain ⟨entry, entryMem, samePid, rating, saved, -⟩ := rated
  obtain ⟨newer, older, split⟩ := List.append_of_mem entryMem
  rw [split] at lawful
  have ratingLaw := law_savedRating lawful.entry saved
  rw [owned entry entryMem samePid] at ratingLaw
  exact ratingLaw.2.1

/-- A user who is written back keeps meaningful columns. -/
theorem meaningful_of_userLaw {entry : HistoryEntry} {older : History} {user : User}
    (lawful : Lawful (law init) (entry :: older)) (same : OneRequestEach (entry :: older))
    (ever : EverMeaningful init older) (saved : entry.savedUser = some user) :
    MeaningfulRating user.avgRating user.ratingCount := by
  have userLaw := law_savedUser lawful.1 saved
  cases requestEq : entry.request with
  | authRegister clientIp username password newId salt =>
      simp only [requestEq, UserLaw] at userLaw
      rw [userLaw.1]
      exact meaningfulRating_none
  | driverRegister username vehicleType licensePlate =>
      simp only [requestEq, UserLaw] at userLaw
      obtain ⟨seen, read, -, userEq⟩ := userLaw
      have seenMeaningful := ever.users _ _ (everUser_of_seen read)
      rw [userEq]
      exact seenMeaningful
  | rate rideId fromUserId score comment newId now =>
      simp only [requestEq, UserLaw] at userLaw
      obtain ⟨rated, -, seen, read, userEq⟩ := userLaw
      have scored := scored_of_hasRated lawful.2 rated fun other otherMem samePid => by
        rw [← requestEq]
        exact same other (by simp [otherMem]) entry (by simp) samePid
      have seenMeaningful := ever.users _ _ (everUser_of_seen read)
      rw [userEq]
      exact seenMeaningful.continued scored
  | _ => simp only [requestEq, UserLaw] at userLaw

/-- A driver who is written back keeps meaningful columns. -/
theorem meaningful_of_driverLaw {entry : HistoryEntry} {older : History} {driver : Driver}
    (lawful : Lawful (law init) (entry :: older)) (same : OneRequestEach (entry :: older))
    (ever : EverMeaningful init older) (saved : entry.savedDriver = some driver) :
    MeaningfulRating driver.avgRating driver.ratingCount := by
  have driverLaw := law_savedDriver lawful.1 saved
  have availability : ∀ {available : Bool},
      AvailabilityLaw init entry.pid older available driver →
        MeaningfulRating driver.avgRating driver.ratingCount := by
    rintro available ⟨seen, read, driverEq⟩
    have seenMeaningful := ever.drivers _ _ (ever_of_atLast read)
    rw [driverEq]
    exact seenMeaningful
  cases requestEq : entry.request with
  | registerDriver userId vehicleType licensePlate =>
      simp only [requestEq, DriverLaw] at driverLaw
      rw [driverLaw]
      exact meaningfulRating_none
  | driverRegister username vehicleType licensePlate =>
      simp only [requestEq, DriverLaw] at driverLaw
      rw [driverLaw.1]
      exact meaningfulRating_none
  | acceptRide rideId driverId =>
      simp only [requestEq, DriverLaw] at driverLaw
      exact availability driverLaw.2.1
  | completeRide rideId driverId now =>
      simp only [requestEq, DriverLaw] at driverLaw
      exact availability driverLaw.2
  | cancelRide rideId userId =>
      simp only [requestEq, DriverLaw] at driverLaw
      exact availability driverLaw.2
  | goOnline userId lat lng =>
      simp only [requestEq, DriverLaw] at driverLaw
      exact availability driverLaw.2
  | goOffline userId =>
      simp only [requestEq, DriverLaw] at driverLaw
      exact availability driverLaw.2
  | rate rideId fromUserId score comment newId now =>
      simp only [requestEq, DriverLaw] at driverLaw
      obtain ⟨rated, seen, read, driverEq⟩ := driverLaw
      have scored := scored_of_hasRated lawful.2 rated fun other otherMem samePid => by
        rw [← requestEq]
        exact same other (by simp [otherMem]) entry (by simp) samePid
      have seenMeaningful := ever.drivers _ _ (ever_of_atLast read)
      rw [driverEq]
      exact seenMeaningful.continued scored
  | _ => simp only [requestEq, DriverLaw] at driverLaw

theorem everMeaningful {log : History} (meaningful : init.RatingsMeaningful)
    (lawful : Lawful (law init) log) (same : OneRequestEach log) :
    EverMeaningful init log := by
  induction log with
  | nil =>
      constructor
      · rintro userId user (stored | ⟨entry, entryMem, -⟩)
        · exact meaningful.users user (KeyedTable.find_eq_some_iff.mp stored).1
        · cases entryMem
      · rintro userId driver (stored | ⟨entry, entryMem, -⟩)
        · exact meaningful.drivers driver (KeyedTable.find_eq_some_iff.mp stored).1
        · cases entryMem
  | cons entry older ih =>
      have ever := ih lawful.2 same.tail
      constructor
      · intro userId user everUser
        rcases ever_cons.mp everUser with saved | before
        · exact meaningful_of_userLaw lawful same ever (Entry.userAt_eq_some.mp saved).1
        · exact ever.users userId user before
      · intro userId driver everDriver
        rcases ever_cons.mp everDriver with saved | before
        · exact meaningful_of_driverLaw lawful same ever
            (Entry.driverAt_eq_some.mp saved).1
        · exact ever.drivers userId driver before

/-- In every interleaving of requests the rating columns of every user and of every
driver make sense, whatever was lost among them. -/
theorem ratings_meaningful (unlocked : init.acceptLock = none)
    (meaningful : init.RatingsMeaningful)
    (ran : (application P).run (Pool.start init) events = some pool) :
    pool.world.state.RatingsMeaningful := by
  have valid := reached_valid unlocked ran
  have described : Describes init pool.world := valid.good.1
  have ever := everMeaningful meaningful valid.good.2 valid.oneRequestEach
  constructor
  · intro user userMem
    apply ever.users user.id user
    apply ever_of_latest
    rw [show latest _ _ pool.world.log = _ from (described.users user.id).symm]
    exact KeyedTable.mem_rows_iff_find.mp userMem
  · intro driver driverMem
    apply ever.drivers driver.userId driver
    apply ever_of_latest
    rw [show latest _ _ pool.world.log = _ from (described.drivers driver.userId).symm]
    exact KeyedTable.mem_rows_iff_find.mp driverMem

namespace SmallCity

/-- Nobody is rated when the city opens. -/
theorem store_ratingsMeaningful : store.RatingsMeaningful := by
  constructor
  · intro user userMem
    have unrated : ∀ user ∈ store.users.rows, user.avgRating = none ∧ user.ratingCount = 0 := by
      decide
    rw [(unrated user userMem).1, (unrated user userMem).2]
    exact meaningfulRating_none
  · intro driver driverMem
    have unrated : ∀ driver ∈ store.drivers.rows,
        driver.avgRating = none ∧ driver.ratingCount = 0 := by
      decide
    rw [(unrated driver driverMem).1, (unrated driver driverMem).2]
    exact meaningfulRating_none

/-- One of the two ratings of Dan is lost, and his columns still make sense. -/
theorem twoRatings_meaningful :
    ∃ pool, play twoRatings = some pool ∧ pool.world.state.RatingsMeaningful := by
  obtain ⟨pool, played⟩ := Option.isSome_iff_exists.mp
    (by decide +kernel : (play twoRatings).isSome = true)
  exact ⟨pool, played, ratings_meaningful rfl store_ratingsMeaningful played⟩

end SmallCity

end RideHailing
