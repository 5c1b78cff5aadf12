import RideHailing.RequestGuarantees

/-!
# Ride rows stay well formed

Rows are written back from what a request has read, which may be stale.  Every
row ever committed is nevertheless well formed, because a transition of a well
formed row is one, whenever that row was current.  In particular a completed
ride is charged the fare that was quoted when it was requested.
-/

namespace RideHailing

variable {P : Platform} {init : Store}
variable {events : List ApplicationEvent} {pool : ApplicationPool}

/-- What the status of a ride says about its other columns. -/
structure Ride.WellFormed (ride : Ride) : Prop where
  estimated : ride.estimatedFare ≠ none
  requested : ride.status = .requested → ride.driverId = none ∧ ride.version = 0
  matched : ride.status = .matched → ride.driverId ≠ none ∧ ride.version = 1
  inProgress : ride.status = .inProgress → ride.driverId ≠ none ∧ ride.version = 2
  completed : ride.status = .completed → ride.driverId ≠ none ∧ ride.version = 3 ∧
    ride.completedAt ≠ none ∧ ride.fare = ride.estimatedFare
  cancelled : ride.status = .cancelled → 1 ≤ ride.version
  unfinished : ride.status ≠ .completed → ride.fare = none ∧ ride.completedAt = none

/-- The columns that a request for a ride fills in for good. -/
structure Ride.SameOrder (ride created : Ride) : Prop where
  riderId : ride.riderId = created.riderId
  pickupLat : ride.pickupLat = created.pickupLat
  pickupLng : ride.pickupLng = created.pickupLng
  dropoffLat : ride.dropoffLat = created.dropoffLat
  dropoffLng : ride.dropoffLng = created.dropoffLng
  estimatedFare : ride.estimatedFare = created.estimatedFare
  requestedAt : ride.requestedAt = created.requestedAt

/-- The entry inserts the row of a request for this ride. -/
def Creates (rideId : String) (created : Ride) (entry : HistoryEntry) : Prop :=
  entry.rideAt rideId = some created ∧
    ∃ estimatedFare, entry.request.requested estimatedFare = some created

theorem wellFormed_of_requested {request : Request} {estimatedFare : Decimal}
    {ride : Ride} (inserts : request.requested estimatedFare = some ride) :
    ride.WellFormed := by
  cases request with
  | requestRide newId now riderId pickupLat pickupLng dropoffLat dropoffLng =>
      cases inserts
      constructor <;> simp
  | _ => cases inserts

theorem Moves.wellFormed {request : Request} {before after : Ride}
    (moves : Moves request before after) (wellFormed : before.WellFormed) :
    after.WellFormed := by
  have estimated := wellFormed.estimated
  cases moves with
  | accept requested =>
      have version := (wellFormed.requested requested).2
      have unfinished := wellFormed.unfinished (by simp [requested])
      constructor <;> simp_all
  | start matched assigned =>
      have version := (wellFormed.matched matched).2
      have unfinished := wellFormed.unfinished (by simp [matched])
      constructor <;> simp_all
  | complete inProgress assigned =>
      have version := (wellFormed.inProgress inProgress).2
      constructor <;> simp_all
  | cancel cancellable participant =>
      have unfinished := wellFormed.unfinished cancellable.2
      have version : 0 ≤ before.version := by
        cases status : before.status with
        | requested => simp [(wellFormed.requested status).2]
        | matched => simp [(wellFormed.matched status).2]
        | cancelled =>
            have atLeast := wellFormed.cancelled status
            omega
        | inProgress => exact absurd status cancellable.1
        | completed => exact absurd status cancellable.2
      have raised : 1 ≤ before.version + 1 := by omega
      constructor <;> simp_all

theorem Moves.sameOrder {request : Request} {before after created : Ride}
    (moves : Moves request before after) (same : before.SameOrder created) :
    after.SameOrder created := by
  cases moves <;>
    exact ⟨same.riderId, same.pickupLat, same.pickupLng, same.dropoffLat,
      same.dropoffLng, same.estimatedFare, same.requestedAt⟩

/-- A row that was ever committed is well formed and keeps the order of the
request that created the ride. -/
theorem wellFormed_of_ever {rideId : String} {log : History} {ride : Ride}
    (noRides : init.rides.find rideId = none) (lawful : Lawful (law init) log)
    (ever : EverRide init rideId log ride) :
    ride.WellFormed ∧
      ∃ entry ∈ log, ∃ created, Creates rideId created entry ∧ ride.SameOrder created := by
  induction log generalizing ride with
  | nil =>
      rcases ever with fromInit | ⟨_, absurdMem, _⟩
      · rw [noRides] at fromInit
        cases fromInit
      · cases absurdMem
  | cons entry older ih =>
      rcases ever_cons.mp ever with saved | before
      · rcases law_rideAt lawful.1 saved with
          ⟨estimatedFare, inserts, _⟩ | ⟨_, seen, read, moves⟩
        · exact ⟨wellFormed_of_requested inserts, entry, by simp, ride,
            ⟨saved, estimatedFare, inserts⟩, rfl, rfl, rfl, rfl, rfl, rfl, rfl⟩
        · obtain ⟨wellFormed, source, sourceMem, created, creates, same⟩ :=
            ih lawful.2 (everRide_of_seen read)
          exact ⟨moves.wellFormed wellFormed, source, by simp [sourceMem], created,
            creates, moves.sameOrder same⟩
      · obtain ⟨wellFormed, source, sourceMem, created, creates, same⟩ :=
          ih lawful.2 before
        exact ⟨wellFormed, source, by simp [sourceMem], created, creates, same⟩

/-- Every ride row of every reachable state is well formed and keeps what the
request for that ride stored. -/
theorem rides_wellFormed (unlocked : init.acceptLock = none)
    (noRides : init.rides.rows = [])
    (ran : (application P).run (Pool.start init) events = some pool) :
    ∀ ride ∈ pool.world.state.rides.rows, ride.WellFormed ∧
      ∃ entry ∈ pool.world.log, ∃ created,
        Creates ride.id created entry ∧ ride.SameOrder created := by
  have valid := reached_valid unlocked ran
  have described : Describes init pool.world := valid.good.1
  intro ride stored
  have found : storedRide init ride.id pool.world.log = some ride := by
    rw [← described.rides ride.id]
    exact KeyedTable.mem_rows_iff_find.mp stored
  have absent : init.rides.find ride.id = none := by
    simp [KeyedTable.find, noRides]
  exact wellFormed_of_ever absent valid.good.2 (ever_of_latest found)

namespace SmallCity

/-- A ride is accepted and cancelled at once, and both commits succeed. -/
def cancelDuringAccept : List ApplicationEvent :=
  [.spawn (wants "r1" "u1")] ++ steps 0 7 ++
  [.spawn (.acceptRide "r1" "u3"), .spawn (.cancelRide "r1" "u1")] ++
  steps 1 6 ++ steps 2 2 ++ steps 1 3

theorem cancelDuringAccept_wellFormed :
    ∃ pool, play cancelDuringAccept = some pool ∧
      ∀ ride ∈ pool.world.state.rides.rows, ride.WellFormed ∧
        ∃ entry ∈ pool.world.log, ∃ created,
          Creates ride.id created entry ∧ ride.SameOrder created := by
  obtain ⟨pool, played, _⟩ := Option.map_eq_some_iff.mp
    (by decide +kernel : (play cancelDuringAccept).map (fun pool =>
      decide (pool.world.state.rides.rows.length = 1)) = some true)
  exact ⟨pool, played, rides_wellFormed rfl rfl played⟩

end SmallCity

end RideHailing
