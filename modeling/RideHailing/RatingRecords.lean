import RideHailing.RatingCounts
import RideHailing.RideLifecycle
import RideHailing.OneAtATime

/-!
# What the rows of the ratings table refer to

The service checks a rating against its ride once, before it inserts the row.  When
requests are executed one at a time the check stays true: a ride that is COMPLETED is
not written any more, and its rider and its driver never change.
-/

namespace RideHailing

variable {P : Platform} {init : Store}
variable {events : List ApplicationEvent} {pool : ApplicationPool}

/-- A score in range, for a COMPLETED ride, by one of its two participants for the
other. -/
def Rating.Sound (rating : Rating) (rides : String → Option Ride) : Prop :=
  (1 ≤ rating.score ∧ rating.score ≤ 5) ∧
    ∃ ride driverId, rides rating.rideId = some ride ∧ ride.status = .completed ∧
      ride.driverId = some driverId ∧
        ((rating.fromUserId = ride.riderId ∧ rating.toUserId = driverId) ∨
          (rating.fromUserId = driverId ∧ rating.toUserId = ride.riderId))

/-- The ratings table is sound, and no participant rates a ride twice. -/
structure Store.RatingsSound (store : Store) : Prop where
  rows : ∀ rating ∈ store.ratings.rows, rating.Sound store.rides.find
  once : ∀ first ∈ store.ratings.rows, ∀ second ∈ store.ratings.rows,
    first.rideId = second.rideId → first.fromUserId = second.fromUserId → first = second
  two : ∀ rideId, (store.ratings.rows.countP fun rating => rating.rideId = rideId) ≤ 2

/-! ## Two ratings at most -/

/-- The table itself keeps a participant from rating a ride twice. -/
theorem rating_once (store : Store) {first second : Rating}
    (firstMem : first ∈ store.ratings.rows) (secondMem : second ∈ store.ratings.rows)
    (sameRide : first.rideId = second.rideId) (sameFrom : first.fromUserId = second.fromUserId) :
    first = second :=
  List.inj_on_of_nodup_map store.ratings.exclusive firstMem secondMem
    (by rw [sameRide, sameFrom])

/-- A ride with sound ratings has two at most. -/
theorem ratings_le_two (store : Store)
    (rows : ∀ rating ∈ store.ratings.rows, rating.Sound store.rides.find) (rideId : String) :
    (store.ratings.rows.countP fun rating => rating.rideId = rideId) ≤ 2 := by
  rw [List.countP_eq_length_filter]
  cases found : store.rides.find rideId with
  | none =>
      have empty : store.ratings.rows.filter (fun rating => rating.rideId = rideId) = [] := by
        rw [List.filter_eq_nil_iff]
        intro rating ratingMem isOfRide
        obtain ⟨-, ride, -, stored, -⟩ := rows rating ratingMem
        rw [of_decide_eq_true isOfRide, found] at stored
        cases stored
      rw [empty]
      simp
  | some ride =>
      -- those who rate the ride are different, and each is one of two
      have givers : ((store.ratings.rows.filter fun rating =>
          rating.rideId = rideId).map Rating.fromUserId).Nodup := by
        apply List.Nodup.map_on ?_ (store.ratings.distinct.of_map.filter _)
        intro first firstMem second secondMem sameFrom
        obtain ⟨firstRow, firstRide⟩ := List.mem_filter.mp firstMem
        obtain ⟨secondRow, secondRide⟩ := List.mem_filter.mp secondMem
        apply rating_once store firstRow secondRow ?_ sameFrom
        rw [of_decide_eq_true firstRide, of_decide_eq_true secondRide]
      have parties : ((store.ratings.rows.filter fun rating =>
          rating.rideId = rideId).map Rating.fromUserId) ⊆
            [ride.riderId, ride.driverId.getD ""] := by
        intro giver giverMem
        obtain ⟨rating, ratingMem, rfl⟩ := List.mem_map.mp giverMem
        obtain ⟨row, isOfRide⟩ := List.mem_filter.mp ratingMem
        obtain ⟨-, other, driverId, stored, -, assigned, sides⟩ := rows rating row
        rw [of_decide_eq_true isOfRide, found] at stored
        obtain rfl := Option.some.inj stored
        rw [assigned]
        rcases sides with ⟨fromRider, -⟩ | ⟨fromDriver, -⟩
        · simp [fromRider]
        · simp [fromDriver]
      have few := (givers.subperm parties).length_le
      simpa using few

/-! ## A COMPLETED ride is final -/

/-- Nothing moves a COMPLETED ride. -/
theorem Moves.not_completed {request : Request} {before after : Ride}
    (moves : Moves request before after) : before.status ≠ .completed := by
  cases moves with
  | accept requested => simp [requested]
  | start matched assigned => simp [matched]
  | complete inProgress assigned => simp [inProgress]
  | cancel cancellable participant => exact cancellable.2

/-- A rating request commits no ride. -/
theorem rideAt_of_isRate {entry : HistoryEntry} {older : History}
    (lawful : law init entry older) (isRate : entry.request.isRate = true) (rideId : String) :
    entry.rideAt rideId = none := by
  cases saved : entry.rideAt rideId with
  | none => rfl
  | some ride =>
      cases requestEq : entry.request with
      | rate _ _ _ _ _ _ =>
          rcases law_rideAt lawful saved with ⟨_, inserts, _⟩ | ⟨moved, _⟩
          · rw [requestEq] at inserts
            cases inserts
          · rw [requestEq] at moved
            cases moved
      | _ =>
          rw [requestEq] at isRate
          cases isRate

/-- A stored COMPLETED ride is written by nobody who has read it in its place. -/
theorem rideAt_of_completed {entry : HistoryEntry} {older : History} {rideId : String}
    {ride : Ride} (lawful : law init entry older)
    (stored : storedRide init rideId older = some ride) (completed : ride.status = .completed)
    (current : ∀ seen, rideSeen init entry.pid rideId older = some seen → seen = ride) :
    entry.rideAt rideId = none := by
  cases saved : entry.rideAt rideId with
  | none => rfl
  | some written =>
      rcases law_rideAt lawful saved with ⟨_, _, absent⟩ | ⟨_, seen, read, moves⟩
      · rw [stored] at absent
        cases absent
      · rw [current seen read] at moves
        exact absurd completed moves.not_completed

/-- A COMPLETED ride stays as it is, when whoever makes a call after that only rates or
has begun after that. -/
theorem completed_stays {newer older : History} {rideId : String} {ride : Ride}
    (lawful : Lawful (law init) (newer ++ older))
    (begun : ∀ entry ∈ newer, entry.request.isRate = true ∨
      ∀ past ∈ older, past.pid ≠ entry.pid)
    (stored : storedRide init rideId older = some ride) (completed : ride.status = .completed) :
    ∀ entry ∈ newer, entry.rideAt rideId = none := by
  induction newer with
  | nil =>
      intro entry entryMem
      cases entryMem
  | cons first newer ih =>
      have unchanged := ih lawful.2 fun entry entryMem =>
        begun entry (List.mem_cons_of_mem _ entryMem)
      have here : first.rideAt rideId = none := by
        rcases begun first (by simp) with isRate | fresh
        · exact rideAt_of_isRate lawful.1 isRate rideId
        · apply rideAt_of_completed lawful.1 ?_ completed
          · intro seen read
            have unread : ∀ past ∈ older, rideReadBy first.pid rideId past = false := by
              intro past pastMem
              simp [rideReadBy, fresh past pastMem]
            rcases ever_of_atLast_append unread read with before | ⟨source, sourceMem, changed⟩
            · exact Option.some.inj (before.symm.trans stored)
            · have written : source.rideAt rideId = some seen := changed
              rw [unchanged source sourceMem] at written
              cases written
          · exact (latest_append_of_unchanged unchanged).trans stored
      intro entry entryMem
      rcases List.mem_cons.mp entryMem with rfl | entryNewer
      · exact here
      · exact unchanged entry entryNewer

/-! ## Rows once inserted -/

/-- The other side of a ride that has been COMPLETED is its driver or its rider. -/
theorem sides_of_otherParty {ride : Ride} {fromUserId toUserId : String}
    (other : ride.otherParty fromUserId = some toUserId) :
    ∃ driverId, ride.driverId = some driverId ∧
      ((fromUserId = ride.riderId ∧ toUserId = driverId) ∨
        (fromUserId = driverId ∧ toUserId = ride.riderId)) := by
  unfold Ride.otherParty at other
  split at other
  · rename_i fromRider
    exact ⟨toUserId, other, Or.inl ⟨fromRider, rfl⟩⟩
  · split at other
    · rename_i fromDriver
      exact ⟨fromUserId, fromDriver.symm, Or.inr ⟨rfl, (Option.some.inj other).symm⟩⟩
    · cases other

/-- The rating that a request inserts is sound when it is inserted. -/
theorem sound_of_ratingLaw {entry : HistoryEntry} {older : History} {rating : Rating}
    (lawful : Lawful (law init) (entry :: older)) (ordered : TaskOrdered (entry :: older))
    (same : OneRequestEach (entry :: older)) (saved : entry.savedRating = some rating) :
    rating.Sound fun rideId => storedRide init rideId older := by
  have ratingLaw := law_savedRating lawful.1 saved
  cases requestEq : entry.request with
  | rate rideId fromUserId score comment newId now =>
      simp only [requestEq, RatingLaw] at ratingLaw
      obtain ⟨rowEq, scored, ⟨ride, read, completed, other⟩, -, -⟩ := ratingLaw
      have isRate : ∀ past ∈ older, past.pid = entry.pid → past.request.isRate = true := by
        intro past pastMem samePid
        rw [same past (by simp [pastMem]) entry (by simp) samePid, requestEq]
        rfl
      -- the ride that was checked is still the stored one
      have stored : storedRide init rideId older = some ride := by
        apply latest_of_read ordered ?_ read
        · intro past pastMem samePid
          obtain ⟨newer, oldest, split⟩ := List.append_of_mem pastMem
          have lawfulOlder := lawful.2
          rw [split] at lawfulOlder
          exact rideAt_of_isRate lawfulOlder.entry (isRate past pastMem samePid) rideId
        · intro past reads
          obtain ⟨-, samePid⟩ := Bool.and_eq_true_iff.mp reads
          exact ⟨of_decide_eq_true samePid, rideReadBy_unsaved reads⟩
      obtain ⟨driverId, assigned, sides⟩ := sides_of_otherParty other
      rw [rowEq]
      exact ⟨scored, ride, driverId, stored, completed, assigned, sides⟩
  | _ => simp only [requestEq, RatingLaw] at ratingLaw

theorem mem_insertedRatings {log : History} {rating : Rating}
    (inserted : rating ∈ insertedRatings log) :
    ∃ newer entry older, log = newer ++ entry :: older ∧ entry.savedRating = some rating := by
  induction log with
  | nil => cases inserted
  | cons entry older ih =>
      rcases List.mem_append.mp inserted with before | here
      · obtain ⟨newer, source, oldest, split, saved⟩ := ih before
        exact ⟨entry :: newer, source, oldest, by rw [split]; rfl, saved⟩
      · exact ⟨[], entry, older, rfl, Option.mem_toList.mp here⟩

/-- A rating stays sound as long as its ride stays what it is. -/
theorem Rating.Sound.of_stored {rating : Rating} {rides rides' : String → Option Ride}
    (sound : rating.Sound rides)
    (stays : ∀ ride, rides rating.rideId = some ride → ride.status = .completed →
      rides' rating.rideId = some ride) : rating.Sound rides' := by
  obtain ⟨scored, ride, driverId, stored, completed, assigned, sides⟩ := sound
  exact ⟨scored, ride, driverId, stays ride stored completed, completed, assigned, sides⟩

/-- When requests are executed one at a time, every rating stays sound. -/
theorem sound_of_run (unlocked : init.acceptLock = none)
    (sound : ∀ rating ∈ init.ratings.rows, rating.Sound init.rides.find)
    (ran : (application P).run (Pool.start init) events = some pool)
    (alone : EveryStep (application P).next Pool.BeginsAlone (Pool.start init) events) :
    ∀ rating ∈ pool.world.state.ratings.rows, rating.Sound pool.world.state.rides.find := by
  have valid := reached_valid unlocked ran
  have oneByOne := oneByOne_of_run alone (oneByOne_start init) ran
  have described : Describes init pool.world := valid.good.1
  have lawful : Lawful (law init) pool.world.log := valid.good.2
  intro rating ratingMem
  rw [described.ratings, List.mem_append] at ratingMem
  rcases ratingMem with initial | inserted
  · apply (sound rating initial).of_stored
    intro ride stored completed
    rw [described.rides, ← List.append_nil pool.world.log]
    rw [← List.append_nil pool.world.log] at lawful
    have unchanged := completed_stays lawful (fun _ _ => Or.inr (by simp)) stored completed
    exact (latest_append_of_unchanged unchanged).trans stored
  · obtain ⟨newer, entry, older, split, saved⟩ := mem_insertedRatings inserted
    have ordered := oneByOne.ordered
    have same := valid.oneRequestEach
    rw [split] at ordered lawful same
    have isRate : entry.request.isRate = true :=
      (ratingLaw_of_savesRating lawful.entry (by simp [savesRating, saved])).1
    have soundThen := sound_of_ratingLaw lawful.of_append (List.pairwise_append.mp ordered).2.1
      same.of_append saved
    apply soundThen.of_stored
    intro ride stored completed
    have storedAfter : storedRide init rating.rideId (entry :: older) = some ride := by
      rw [storedRide_cons, rideAt_of_isRate lawful.entry isRate]
      exact stored
    have unchanged := completed_stays lawful ?_ storedAfter completed
    · rw [described.rides, split]
      exact (latest_append_of_unchanged unchanged).trans storedAfter
    · -- who makes a call after the insertion rates as well, or has begun after it
      intro later laterMem
      rcases ordered.begun laterMem with samePid | fresh
      · left
        rw [same later (by simp [laterMem]) entry (by simp) samePid.symm]
        exact isRate
      · exact Or.inr fresh

/-- When requests are executed one at a time, the ratings table is sound in every state,
also in the middle of a request. -/
theorem ratings_sound (unlocked : init.acceptLock = none) (sound : init.RatingsSound)
    (ran : (application P).run (Pool.start init) events = some pool)
    (alone : EveryStep (application P).next Pool.BeginsAlone (Pool.start init) events) :
    pool.world.state.RatingsSound := by
  have rows := sound_of_run unlocked sound.rows ran alone
  exact ⟨rows, fun _ firstMem _ secondMem => rating_once _ firstMem secondMem,
    ratings_le_two _ rows⟩

theorem ratingsSound_of_unrated {store : Store} (unrated : store.ratings.rows = []) :
    store.RatingsSound := by
  constructor
  · intro rating ratingMem
    rw [unrated] at ratingMem
    cases ratingMem
  · intro first firstMem
    rw [unrated] at firstMem
    cases firstMem
  · simp [unrated]

namespace SmallCity

/-- Ann's ride with Dan and her rating of it, one request after the other. -/
theorem oneRating_sound :
    ∃ pool, play oneRating = some pool ∧ pool.world.state.RatingsSound := by
  obtain ⟨pool, played⟩ := Option.isSome_iff_exists.mp
    (by decide +kernel : (play oneRating).isSome = true)
  have alone : EveryStep (application platform).next Pool.BeginsAlone (Pool.start store)
      oneRating := by decide +kernel
  exact ⟨pool, played, ratings_sound rfl (ratingsSound_of_unrated rfl) played alone⟩

end SmallCity

end RideHailing
