import RideHailing.RatingRecords
import RideHailing.ActiveRides
import RideHailing.DriverMode

/-!
# Riders who drive themselves

In driver mode a user keeps the rights of a rider, so the same account can stand on
both sides of a ride, and no check keeps it from doing so.  But it gets there in one way
only: its user accepts the ride that the user has requested.
-/

namespace RideHailing

variable {P : Platform} {init : Store}
variable {events : List ApplicationEvent} {pool : ApplicationPool}

/-- The rider of a ride has accepted it himself. -/
def SelfAccepted (rideId : String) (log : History) : Prop :=
  ∃ entry ∈ log, ∃ ride, entry.rideAt rideId = some ride ∧
    entry.request = .acceptRide rideId ride.riderId

/-- No rating is by a user for the same user, and no ride is driven by its rider. -/
structure Store.Apart (store : Store) : Prop where
  ratings : ∀ rating ∈ store.ratings.rows, rating.fromUserId ≠ rating.toUserId
  rides : ∀ ride ∈ store.rides.rows,
    ride.status = .matched ∨ ride.status = .inProgress ∨ ride.status = .completed →
      ride.driverId ≠ some ride.riderId

/-- Wherever somebody is on both sides, the rider of the ride has accepted it. -/
structure ApartUnlessSelfAccepted (world : World Value Fault Store Request) : Prop where
  ratings : ∀ rating ∈ world.state.ratings.rows, rating.fromUserId = rating.toUserId →
    SelfAccepted rating.rideId world.log
  rides : ∀ ride ∈ world.state.rides.rows, ride.driverId = some ride.riderId →
    SelfAccepted ride.id world.log

theorem SelfAccepted.cons {rideId : String} {entry : HistoryEntry} {older : History}
    (accepted : SelfAccepted rideId older) : SelfAccepted rideId (entry :: older) := by
  obtain ⟨source, sourceMem, accepts⟩ := accepted
  exact ⟨source, List.mem_cons_of_mem entry sourceMem, accepts⟩

/-- A row that has its rider as its driver goes back to a self-acceptance. -/
theorem selfAccepted_of_ever {log : History} {rideId : String} {ride : Ride}
    (initial : ∀ ride ∈ init.rides.rows, ride.driverId ≠ some ride.riderId)
    (lawful : Lawful (law init) log) (ever : EverRide init rideId log ride)
    (own : ride.driverId = some ride.riderId) : SelfAccepted rideId log := by
  induction log generalizing ride with
  | nil =>
      rcases ever with fromInit | ⟨_, absurdMem, _⟩
      · exact absurd own (initial ride (KeyedTable.find_eq_some_iff.mp fromInit).1)
      · cases absurdMem
  | cons entry older ih =>
      rcases ever_cons.mp ever with saved | before
      · have written : entry.rideAt rideId = some ride := saved
        rcases law_rideAt lawful.1 written with ⟨_, inserts, _⟩ | ⟨moved, seen, read, moves⟩
        · rw [(requested_eq_some inserts).2.2.1] at own
          cases own
        · rcases moves.driverId with kept | ⟨movedId, driverId, requestEq, assigned, _⟩
          · have ownBefore : seen.driverId = some seen.riderId := by
              rw [← kept, own, moves.riderId]
            exact (ih lawful.2 (everRide_of_seen read) ownBefore).cons
          · rw [requestEq] at moved
            obtain rfl : movedId = rideId := Option.some.inj moved
            obtain rfl : driverId = ride.riderId := Option.some.inj (assigned.symm.trans own)
            exact ⟨entry, by simp, ride, written, requestEq⟩
      · exact (ih lawful.2 before own).cons

/-- When requests are executed one at a time, nobody rates himself and nobody drives
himself, but where a rider has accepted his own ride. -/
theorem apart_unless_selfAccepted (unlocked : init.acceptLock = none)
    (sound : ∀ rating ∈ init.ratings.rows, rating.Sound init.rides.find)
    (initial : ∀ ride ∈ init.rides.rows, ride.driverId ≠ some ride.riderId)
    (ran : (application P).run (Pool.start init) events = some pool)
    (alone : EveryStep (application P).next Pool.BeginsAlone (Pool.start init) events) :
    ApartUnlessSelfAccepted pool.world := by
  have valid := reached_valid unlocked ran
  have described : Describes init pool.world := valid.good.1
  have ofRide : ∀ ride rideId, pool.world.state.rides.find rideId = some ride →
      ride.driverId = some ride.riderId → SelfAccepted rideId pool.world.log := by
    intro ride rideId found own
    rw [described.rides] at found
    exact selfAccepted_of_ever initial valid.good.2 (ever_of_latest found) own
  constructor
  · intro rating ratingMem sameUser
    obtain ⟨-, ride, driverId, found, -, assigned, sides⟩ :=
      sound_of_run unlocked sound ran alone rating ratingMem
    apply ofRide ride rating.rideId found
    rcases sides with ⟨fromRider, toDriver⟩ | ⟨fromDriver, toRider⟩
    · rw [assigned, ← toDriver, ← fromRider, sameUser]
    · rw [assigned, ← fromDriver, ← toRider, sameUser]
  · intro ride rideMem own
    exact ofRide ride ride.id (KeyedTable.mem_rows_iff_find.mp rideMem) own

namespace SmallCity

/-- Dan requests a ride, accepts it, drives it and rates it. -/
def ownRide : List ApplicationEvent :=
  rideWithDan 0 7 "r1" "u3" ++ [.spawn (.rate "r1" "u3" 5 none "k1" 120)] ++ steps 4 8

/-- The rating that Dan gives himself goes back to his own acceptance. -/
theorem ownRide_selfAccepted :
    ∃ pool, play ownRide = some pool ∧ ApartUnlessSelfAccepted pool.world := by
  obtain ⟨pool, played⟩ := Option.isSome_iff_exists.mp
    (by decide +kernel : (play ownRide).isSome = true)
  have alone : EveryStep (application platform).next Pool.BeginsAlone (Pool.start store)
      ownRide := by decide +kernel
  refine ⟨pool, played, apart_unless_selfAccepted rfl (ratingsSound_of_unrated rfl).rows ?_
    played alone⟩
  intro ride rideMem
  cases rideMem

/-- Serve one routed request of Dan in driver mode. -/
def danAsks (pid calls : Nat) (endpoint : Endpoint) : List RoutingEvent :=
  .spawn ⟨some ⟨"dan", .driver⟩, endpoint⟩ :: List.replicate calls (.step pid)

/-- The same through the routes, with the token that Dan is given when he signs in. -/
def ownRideRouted : List RoutingEvent :=
  [.spawn ⟨none, .login "ip" "dan" "cedar"⟩, .step 0, .step 0] ++
  danAsks 1 9 (.requestRide "r1" 0 centre centre centre centre) ++
  danAsks 2 10 (.acceptRide "r1") ++ danAsks 3 3 (.startRide "r1") ++
  danAsks 4 7 (.completeRide "r1" 60) ++ danAsks 5 8 (.rateRide "r1" 5 none "k1" 120)

/-- Dan rates himself after a ride with himself, and no guard of the routes or of the
services objects. -/
theorem ownRide_not_apart :
    (∃ pool, playRoutes ownRideRouted = some pool ∧
      EveryStep (Routing.next platform 5) Pool.BeginsAlone (Pool.start store) ownRideRouted ∧
        ¬ pool.world.state.Apart) ∧
      ¬ ∀ events pool, play events = some pool →
        EveryStep (application platform).next Pool.BeginsAlone (Pool.start store) events →
          pool.world.state.Apart := by
  constructor
  · obtain ⟨pool, played, checked⟩ := Option.map_eq_some_iff.mp
      (by decide +kernel : (playRoutes ownRideRouted).map (fun pool =>
        decide (∃ rating ∈ pool.world.state.ratings.rows,
          rating.fromUserId = rating.toUserId)) = some true)
    obtain ⟨rating, ratingMem, sameUser⟩ := of_decide_eq_true checked
    refine ⟨pool, played, by decide +kernel, fun apart => ?_⟩
    exact apart.ratings rating ratingMem sameUser
  · intro always
    obtain ⟨pool, played, checked⟩ := Option.map_eq_some_iff.mp
      (by decide +kernel : (play ownRide).map (fun pool =>
        decide (∃ rating ∈ pool.world.state.ratings.rows,
          rating.fromUserId = rating.toUserId)) = some true)
    obtain ⟨rating, ratingMem, sameUser⟩ := of_decide_eq_true checked
    exact (always ownRide pool played (by decide +kernel)).ratings rating ratingMem sameUser

end SmallCity

end RideHailing
