import RideHailing.FleetRequests

/-!
# What holds of the fleet between requests

Whatever requests have been served one after the other, and whichever calls
failed on the way: between two requests the accept lock is free, every driver of
a ride has a profile, and a ride that is still REQUESTED has no driver.
-/

namespace RideHailing

namespace Fleet

structure Sound (fleet : Fleet) : Prop where
  unlocked : fleet.acceptLock = none
  profiled : ∀ rideId ride driverId, fleet.rides.find rideId = some ride →
    ride.driverId = some driverId →
      ∃ driver, fleet.drivers.find driverId = some driver
  unassigned : ∀ rideId ride, fleet.rides.find rideId = some ride →
    ride.status = .requested → ride.driverId = none

variable {P : Platform} {fleet : Fleet}

/-- A row once written stays, if not unchanged. -/
theorem profile_write {userId : String} {driver : Driver} (saved : Driver)
    (profile : fleet.drivers.find userId = some driver) :
    ∃ driver, (fleet.write (.driver saved)).drivers.find userId = some driver := by
  change ∃ driver, (fleet.drivers.save saved).find userId = some driver
  rw [KeyedTable.find_save]
  by_cases same : saved.userId = userId
  · exact ⟨saved, if_pos same⟩
  · exact ⟨driver, by rw [if_neg same, profile]⟩

theorem Sound.driver (sound : fleet.Sound) (driver : Driver) :
    (fleet.write (.driver driver)).Sound := by
  refine ⟨sound.unlocked, ?_, sound.unassigned⟩
  intro rideId ride driverId found assigned
  obtain ⟨old, profile⟩ := sound.profiled rideId ride driverId found assigned
  exact profile_write driver profile

theorem Sound.listing (sound : fleet.Sound) (userId : String) (isAvailable : Bool) :
    (fleet.write (.listing userId isAvailable)).Sound := by
  cases isAvailable <;> exact ⟨sound.unlocked, sound.profiled, sound.unassigned⟩

theorem Sound.ride (sound : fleet.Sound) {ride : Ride}
    (profile : ∀ driverId, ride.driverId = some driverId →
      ∃ driver, fleet.drivers.find driverId = some driver)
    (unassigned : ride.status = .requested → ride.driverId = none) :
    (fleet.write (.ride ride)).Sound := by
  have cases : ∀ rideId found, (fleet.rides.save ride).find rideId = some found →
      found = ride ∨ fleet.rides.find rideId = some found := by
    intro rideId found foundEq
    rw [KeyedTable.find_save] at foundEq
    split at foundEq
    · exact Or.inl (Option.some.inj foundEq).symm
    · exact Or.inr foundEq
  refine ⟨sound.unlocked, ?_, ?_⟩
  · intro rideId found driverId foundEq assigned
    rcases cases rideId found foundEq with rfl | old
    · exact profile driverId assigned
    · exact sound.profiled rideId found driverId old assigned
  · intro rideId found foundEq requested
    rcases cases rideId found foundEq with rfl | old
    · exact unassigned requested
    · exact sound.unassigned rideId found old requested

theorem Sound.saving (sound : fleet.Sound) (driver : Driver) :
    Throughout write Sound fleet (saving driver) :=
  ⟨sound, sound.driver driver, (sound.driver driver).listing _ _⟩

/-- A ride that was accepted before is written back with its driver. -/
theorem Sound.moved (sound : fleet.Sound) {request : Request} {rideId : String}
    {ride moved : Ride} (found : fleet.rides.find rideId = some ride)
    (moves : Moves request ride moved) (keeps : moved.driverId = ride.driverId) :
    (fleet.write (.ride moved)).Sound := by
  apply sound.ride
  · intro driverId assigned
    rw [keeps] at assigned
    exact sound.profiled rideId ride driverId found assigned
  · intro requested
    cases moves <;> cases requested

/-- Every request leaves the fleet sound, also when it is interrupted. -/
theorem Sound.effect {request : Request} {writes : List FleetWrite}
    (sound : fleet.Sound) (effect : Effect P fleet request writes) :
    Throughout write Sound fleet writes := by
  cases effect with
  | request inserted =>
      have driverless := (requested_eq_some inserted).2.2.1
      refine ⟨sound, sound.ride ?_ fun _ => driverless⟩
      intro driverId assigned
      rw [driverless] at assigned
      cases assigned
  | @accept rideId driverId ride moved driver found moves profile free =>
      have saved := sound.driver { driver with isAvailable := false }
      have listed := saved.listing driver.userId false
      refine ⟨sound, saved, listed, listed.ride ?_ ?_⟩
      · cases moves
        intro assignedId assigned
        cases assigned
        exact profile_write _ profile
      · cases moves
        intro requested
        cases requested
  | start found moves =>
      refine ⟨sound, sound.moved found moves ?_⟩
      cases moves
      rfl
  | @complete rideId driverId now ride moved driver found moves profile =>
      have written : (fleet.write (.ride moved)).Sound := by
        apply sound.moved found moves
        cases moves
        rfl
      exact ⟨sound, written.saving _⟩
  | completeAlone found moves absent =>
      refine ⟨sound, sound.moved found moves ?_⟩
      cases moves
      rfl
  | @cancel rideId userId driverId ride moved driver found moves assigned profile =>
      have saved := sound.driver { driver with isAvailable := true }
      have listed := saved.listing driver.userId true
      refine ⟨sound, saved, listed, listed.moved found moves ?_⟩
      cases moves
      rfl
  | cancelAlone found moves unassigned =>
      refine ⟨sound, sound.moved found moves ?_⟩
      cases moves
      rfl
  | register registers absent offline => exact sound.saving _
  | goOnline located profile => exact sound.saving _
  | goOffline profile => exact sound.saving _
  | rate profile sameUser sameAvailability => exact sound.saving _

end Fleet

variable {P : Platform} {init : Store} {turns : List ApplicationTurn}
variable {pool : ApplicationPool}

theorem Store.fleet_sound (unlocked : init.acceptLock = none)
    (noRides : init.rides.rows = []) : init.fleet.Sound := by
  have absent : ∀ rideId, init.rides.find rideId = none := by
    intro rideId
    rw [KeyedTable.find_eq_none_iff, noRides]
    simp
  refine ⟨unlocked, ?_, ?_⟩
  · intro rideId ride _ found
    have none := (absent rideId).symm.trans found
    cases none
  · intro rideId ride found
    have none := (absent rideId).symm.trans found
    cases none

/-- Between requests served one at a time the fleet is sound. -/
theorem sound_of_serves (unlocked : init.acceptLock = none)
    (noRides : init.rides.rows = [])
    (served : runSteps (application P).serve (Pool.start init) turns = some pool) :
    pool.world.state.fleet.Sound := by
  have kept : ∀ (before : ApplicationPool) (turn : ApplicationTurn) after,
      before.world.state.fleet.Sound → (application P).serve before turn = some after →
        after.world.state.fleet.Sound := by
    intro before turn after sound moved
    exact (becomes_of_serve moved).keeps sound fun _ effect => sound.effect effect
  exact runSteps_invariant kept (Store.fleet_sound unlocked noRides) served

namespace SmallCity

/-- Serve a request that makes this many calls. -/
def served (request : Request) (calls : Nat) : ApplicationTurn :=
  ⟨request, List.replicate calls .step⟩

/-- Serve requests one at a time from the opening of the city. -/
def serveAll (turns : List ApplicationTurn) : Option ApplicationPool :=
  runSteps (application platform).serve (Pool.start store) turns

end SmallCity

end RideHailing
