import RideHailing.FleetRequests
import RideHailing.RatingAverages

/-!
# The ledger of ratings

Seen on its own, rating somebody is an entry in a ledger: one row more in the table of
ratings, and the columns of the rated user and of the rated driver continued by the
score.  A call that fails may leave the row without the columns.
-/

namespace RideHailing

open Service

/-- The part of the store that tells how users and drivers were rated. -/
@[ext]
structure Ledger where
  user : String → Option User
  driver : String → Option Driver
  ratings : List Rating

def Store.ledger (store : Store) : Ledger :=
  ⟨store.users.find, store.drivers.find, store.ratings.rows⟩

/-- The rating columns of a user. -/
def User.columns (user : User) : Option ℚ × Int :=
  (user.avgRating, user.ratingCount)

def Driver.columns (driver : Driver) : Option ℚ × Int :=
  (driver.avgRating, driver.ratingCount)

/-- The row with its columns continued by a score. -/
def User.rated (user : User) (score : Int) : User :=
  { user with
    avgRating := some (RatingService.roundTo2
      (RatingService.incrementalAvg user.avgRating user.ratingCount score))
    ratingCount := user.ratingCount + 1 }

def Driver.rated (driver : Driver) (score : Int) : Driver :=
  { driver with
    avgRating := some (RatingService.roundTo2
      (RatingService.incrementalAvg driver.avgRating driver.ratingCount score))
    ratingCount := driver.ratingCount + 1 }

theorem User.columns_rated (user : User) (score : Int) :
    (user.rated score).columns = RatingService.continued user.columns score :=
  rfl

theorem Driver.columns_rated (driver : Driver) (score : Int) :
    (driver.rated score).columns = RatingService.continued driver.columns score :=
  rfl

namespace Ledger

/-- A user's row written. -/
def withUser (ledger : Ledger) (row : User) : Ledger :=
  { ledger with
    user := fun userId => if row.id = userId then some row else ledger.user userId }

def withDriver (ledger : Ledger) (row : Driver) : Ledger :=
  { ledger with
    driver := fun userId => if row.userId = userId then some row else ledger.driver userId }

def withRating (ledger : Ledger) (rating : Rating) : Ledger :=
  { ledger with ratings := ledger.ratings ++ [rating] }

/-- The driver's columns continued, where there is such a driver. -/
def countDriver (ledger : Ledger) (userId : String) (score : Int) : Ledger :=
  match ledger.driver userId with
  | none => ledger
  | some driver => ledger.withDriver (driver.rated score)

def countUser (ledger : Ledger) (userId : String) (score : Int) : Ledger :=
  match ledger.user userId with
  | none => ledger
  | some user => ledger.withUser (user.rated score)

/-- Everything that a rating does. -/
def rate (ledger : Ledger) (rating : Rating) : Ledger :=
  ((ledger.withRating rating).countDriver rating.toUserId rating.score).countUser
    rating.toUserId rating.score

/-- A request to rate was served: it wrote everything, or nothing, or a failed call left
a row and maybe columns. -/
def Becomes (failing : Bool) (before after : Ledger) : Prop :=
  after = before ∨ (∃ rating, after = before.rate rating) ∨
    (failing = true ∧ ∃ rating, after.ratings = before.ratings ++ [rating])

/-- Rows are stored under their keys. -/
structure Keyed (ledger : Ledger) : Prop where
  user : ∀ {userId row}, ledger.user userId = some row → row.id = userId
  driver : ∀ {userId row}, ledger.driver userId = some row → row.userId = userId

end Ledger

theorem Store.ledger_keyed (store : Store) : store.ledger.Keyed :=
  ⟨KeyedTable.key_of_find, KeyedTable.key_of_find⟩

variable {P : Platform} {failing : Bool} {pid : Nat} {ledger : Ledger}

/-- The triple for a service whose calls are seen through the ledger. -/
abbrev LedgerSolo (P : Platform) (failing : Bool) (pid : Nat) {α : Type} (ledger : Ledger)
    (action : Service α) (returns : α → Ledger → Prop)
    (raises : Failure → Ledger → Prop) : Prop :=
  (application P).Solo Store.ledger failing pid ledger action returns raises

section Calls

variable {raises : Failure → Ledger → Prop}

/-- The call writes neither users nor drivers nor ratings. -/
def Call.unrated : Call → Bool
  | .userSave _ => false
  | .driverMerge _ => false
  | .ratingSave _ => false
  | _ => true

theorem ledger_of_unrated {call : Call} {reply : Except Fault (Value call)}
    {before after : Store} (unrated : call.unrated = true)
    (performed : P.perform pid call before = some (reply, after)) :
    after.ledger = before.ledger := by
  rcases perform_cases performed with rfl | change
  · rfl
  · cases change <;> first | rfl | cases unrated

theorem unrated_solo {call : Call} (unrated : call.unrated = true)
    (raised : ∀ failure, raises failure ledger) :
    LedgerSolo P failing pid ledger (Service.call call)
      (fun _ after => after = ledger) raises :=
  kept_solo (ledger_of_unrated unrated) raised

theorem findUser_solo {userId : String}
    (raised : failing = true → ∀ failure, raises failure ledger) :
    LedgerSolo P failing pid ledger (Service.call (.userFindById userId))
      (fun found after => after = ledger ∧ found = ledger.user userId) raises := by
  apply reads_solo
  · rintro state rfl
    rfl
  · exact raised

theorem findDriver_solo {userId : String}
    (raised : failing = true → ∀ failure, raises failure ledger) :
    LedgerSolo P failing pid ledger (Service.call (.driverFindById userId))
      (fun found after => after = ledger ∧ found = ledger.driver userId) raises := by
  apply reads_solo
  · rintro state rfl
    rfl
  · exact raised

/-- The row of a driver who has one is not refused. -/
theorem mergeDriver_solo {driver : Driver} (known : ledger.driver driver.userId ≠ none)
    (raised : failing = true → ∀ failure, raises failure ledger) :
    LedgerSolo P failing pid ledger (Service.call (.driverMerge driver))
      (fun _ after => after = ledger.withDriver driver) raises := by
  apply solo_call
  · intro state after result looks performed
    subst looks
    simp only [Platform.perform] at performed
    split at performed
    · cases performed
    · cases performed
      ext1
      · rfl
      · funext userId
        exact KeyedTable.find_save _ _ _
      · rfl
  · intro state after fault looks performed
    subst looks
    simp only [Platform.perform] at performed
    split at performed
    · rename_i unknown
      exact absurd (Option.isNone_iff_eq_none.mp unknown.1) known
    · cases performed
  · intro fails fault _
    exact raised fails _

/-- The row of a user who keeps the name is not refused. -/
theorem saveUser_solo {old user : User} (known : ledger.user user.id = some old)
    (sameName : old.username = user.username)
    (raised : failing = true → ∀ failure, raises failure ledger) :
    LedgerSolo P failing pid ledger (Service.call (.userSave user))
      (fun _ after => after = ledger.withUser user) raises := by
  apply solo_call
  · intro state after result looks performed
    subst looks
    simp only [Platform.perform] at performed
    split at performed
    · cases performed
    · rename_i users merged
      cases performed
      ext1
      · funext userId
        change users.find userId = _
        rw [(UniqueTable.merge_eq_some merged).2]
        exact KeyedTable.find_save _ _ _
      · rfl
      · rfl
  · intro state after fault looks performed
    subst looks
    simp only [Platform.perform] at performed
    split at performed
    · rename_i refused
      exact absurd (UniqueTable.merge_eq_none refused)
        (UniqueTable.not_conflicts_of_find known sameName)
    · cases performed
  · intro fails fault _
    exact raised fails _

/-- A rating with a new identifier is appended to the table, or refused. -/
theorem saveRating_solo {rating : Rating} (fresh : ∀ row ∈ ledger.ratings, row.id ≠ rating.id)
    (raised : ∀ failure, raises failure ledger) :
    LedgerSolo P failing pid ledger (Service.call (.ratingSave rating))
      (fun _ after => after = ledger.withRating rating) raises := by
  apply solo_call
  · intro state after result looks performed
    subst looks
    simp only [Platform.perform] at performed
    split at performed
    · cases performed
    · rename_i ratings merged
      cases performed
      have absent : state.ratings.find rating.id = none := by
        rw [KeyedTable.find_eq_none_iff]
        intro taken
        obtain ⟨row, rowMem, sameId⟩ := List.mem_map.mp taken
        exact fresh row rowMem sameId
      ext1
      · rfl
      · rfl
      · change ratings.rows = state.ratings.rows ++ [rating]
        rw [(UniqueTable.merge_eq_some merged).2]
        exact KeyedTable.rows_save_of_absent absent
  · intro state after fault looks performed
    subst looks
    simp only [Platform.perform] at performed
    split at performed
    · cases performed
      exact raised _
    · cases performed
  · intro _ fault _
    exact raised _

end Calls

/-! ## `services/rating.py` -/

section Rate

variable {raises : Failure → Ledger → Prop}

theorem getRide_ledger {rideId : String} (raised : ∀ failure, raises failure ledger) :
    LedgerSolo P failing pid ledger (RideService.getRide rideId)
      (fun _ after => after = ledger) raises := by
  unfold RideService.getRide
  refine (unrated_solo rfl raised).skip fun found => ?_
  cases found with
  | none => exact reject_solo raised
  | some ride => exact solo_pure rfl

theorem ratedUser_ledger {ride : Ride} {fromUserId : String}
    (raised : ∀ failure, raises failure ledger) :
    LedgerSolo P failing pid ledger (RatingService.ratedUser ride fromUserId)
      (fun _ after => after = ledger) raises := by
  unfold RatingService.ratedUser
  apply solo_ite
  · intro _
    cases ride.driverId with
    | none => exact reject_solo raised
    | some driverId => exact solo_pure rfl
  · intro _
    apply solo_ite
    · intro _
      exact solo_pure rfl
    · intro _
      exact reject_solo raised

theorem driverRepositorySave_ledger {driver : Driver}
    (known : ledger.driver driver.userId ≠ none)
    (raised : failing = true → ∀ failure, raises failure ledger)
    (torn : failing = true → ∀ failure, raises failure (ledger.withDriver driver)) :
    LedgerSolo P failing pid ledger (DriverRepository.save driver)
      (fun _ after => after = ledger.withDriver driver) raises := by
  unfold DriverRepository.save
  refine (mergeDriver_solo known raised).bind ?_
  rintro saved _ rfl
  have lists : ∀ {listing : Call}, listing.unrated = true →
      (∀ {state fault after}, P.perform pid listing state ≠ some (.error fault, after)) →
        LedgerSolo P failing pid (ledger.withDriver driver) (call listing)
          (fun _ after => after = ledger.withDriver driver) raises := by
    intro listing unrated answered
    apply solo_call
    · intro state after result looks performed
      exact (ledger_of_unrated unrated performed).trans looks
    · intro state after fault looks performed
      exact absurd performed answered
    · intro fails fault _
      exact torn fails _
  apply solo_ite
  · intro _
    refine (lists rfl ?_).skip fun _ => solo_pure rfl
    intro _ _ _ performed
    cases performed
  · intro _
    refine (lists rfl ?_).skip fun _ => solo_pure rfl
    intro _ _ _ performed
    cases performed

/-- The driver's columns are continued, where there is such a driver. -/
theorem rateDriver_ledger {α : Type} {toUserId : String} {score : Int} {rest : Service α}
    {returns : α → Ledger → Prop} (keyed : ledger.Keyed)
    (raised : failing = true → ∀ failure, raises failure ledger)
    (torn : failing = true → ∀ failure,
      raises failure (ledger.countDriver toUserId score))
    (goesOn : LedgerSolo P failing pid (ledger.countDriver toUserId score) rest
      returns raises) :
    LedgerSolo P failing pid ledger
      (do
        match ← call (.driverFindById toUserId) with
        | none => pure ()
        | some driver =>
            let newAvg := RatingService.roundTo2
              (RatingService.incrementalAvg driver.avgRating driver.ratingCount score)
            let _ ← DriverRepository.save { driver with
              avgRating := some newAvg, ratingCount := driver.ratingCount + 1 }
        rest) returns raises := by
  refine (findDriver_solo raised).read fun found foundEq => ?_
  subst foundEq
  cases profile : ledger.driver toUserId with
  | none =>
      have unchanged : ledger.countDriver toUserId score = ledger := by
        rw [Ledger.countDriver, profile]
      rw [unchanged] at goesOn
      exact goesOn
  | some driver =>
      have written : ledger.countDriver toUserId score =
          ledger.withDriver (driver.rated score) := by
        rw [Ledger.countDriver, profile]
      have known : ledger.driver (driver.rated score).userId ≠ none := by
        change ledger.driver driver.userId ≠ none
        rw [keyed.driver profile, profile]
        exact Option.some_ne_none _
      rw [written] at torn goesOn
      change LedgerSolo P failing pid ledger
        (DriverRepository.save (driver.rated score) >>= fun _ => rest) returns raises
      refine (driverRepositorySave_ledger known raised torn).bind ?_
      rintro _ _ rfl
      exact goesOn

/-- The user's columns are continued, where there is such a user. -/
theorem rateUser_ledger {toUserId : String} {score : Int} (keyed : ledger.Keyed)
    (raised : failing = true → ∀ failure, raises failure ledger) :
    LedgerSolo P failing pid ledger
      (RatingService.countUser toUserId score)
      (fun _ after => after = ledger.countUser toUserId score) raises := by
  refine (findUser_solo raised).read fun found foundEq => ?_
  subst foundEq
  cases stored : ledger.user toUserId with
  | none =>
      apply solo_pure
      rw [Ledger.countUser, stored]
  | some user =>
      have written : ledger.countUser toUserId score = ledger.withUser (user.rated score) := by
        rw [Ledger.countUser, stored]
      have known : ledger.user (user.rated score).id = some user := by
        change ledger.user user.id = some user
        rw [keyed.user stored, stored]
      rw [written]
      refine (saveUser_solo known rfl raised).bind ?_
      rintro _ _ rfl
      exact solo_pure rfl

theorem ratings_countDriver (ledger : Ledger) (userId : String) (score : Int) :
    (ledger.countDriver userId score).ratings = ledger.ratings := by
  unfold Ledger.countDriver
  cases ledger.driver userId <;> rfl

theorem keyed_withRating (keyed : ledger.Keyed) (rating : Rating) :
    (ledger.withRating rating).Keyed :=
  ⟨keyed.user, keyed.driver⟩

theorem keyed_countDriver (keyed : ledger.Keyed) (userId : String) (score : Int) :
    (ledger.countDriver userId score).Keyed := by
  unfold Ledger.countDriver
  cases profile : ledger.driver userId with
  | none => exact keyed
  | some driver =>
      refine ⟨keyed.user, ?_⟩
      intro otherId row found
      change (if driver.userId = otherId then some (driver.rated score)
        else ledger.driver otherId) = some row at found
      split at found
      · rename_i same
        cases found
        exact same
      · exact keyed.driver found

/-- A request to rate that is served alone makes its entry in the ledger. -/
theorem rate_ledger {rideId fromUserId : String} {score : Int} {comment : Option String}
    {newId : String} {now : Timestamp} (keyed : ledger.Keyed)
    (fresh : ∀ row ∈ ledger.ratings, row.id ≠ newId) :
    LedgerSolo P failing pid ledger
      (RatingService.rate rideId fromUserId score comment newId now)
      (fun _ => Ledger.Becomes failing ledger) (fun _ => Ledger.Becomes failing ledger) := by
  have unchanged : ∀ failure : Failure,
      (fun _ => Ledger.Becomes failing ledger) failure ledger := fun _ => Or.inl rfl
  unfold RatingService.rate
  simp only [reject_bind]
  refine guard_solo unchanged fun _ => ?_
  refine (getRide_ledger unchanged).skip fun ride => ?_
  refine guard_solo unchanged fun _ => ?_
  refine (ratedUser_ledger unchanged).skip fun toUserId => ?_
  refine (unrated_solo rfl unchanged).skip fun already => ?_
  refine guard_solo unchanged fun _ => ?_
  refine (saveRating_solo fresh unchanged).bind ?_
  rintro _ _ rfl
  -- from here on a failing call leaves the row behind
  apply rateDriver_ledger (keyed_withRating keyed _)
  · intro fails _
    exact Or.inr (Or.inr ⟨fails, _, rfl⟩)
  · intro fails _
    exact Or.inr (Or.inr ⟨fails, _, ratings_countDriver _ _ _⟩)
  · refine (rateUser_ledger (keyed_countDriver (keyed_withRating keyed _) _ _) ?_).returning ?_
    · intro fails _
      exact Or.inr (Or.inr ⟨fails, _, ratings_countDriver _ _ _⟩)
    · rintro _ after rfl
      exact Or.inr (Or.inl ⟨_, rfl⟩)

end Rate

end RideHailing
