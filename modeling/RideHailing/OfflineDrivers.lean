import RideHailing.FleetRuns
import RideHailing.NearbySearch

/-!
# Drivers who have gone offline

Going offline marks a driver unavailable and takes the driver off the
availability set.  Nothing but going online should undo that, yet the end of a
ride does: completing it, or cancelling it, makes its driver available whatever
the driver has said meanwhile.
-/

namespace RideHailing

namespace Fleet

/-- The driver is marked unavailable and is not in the availability set. -/
structure Offline (fleet : Fleet) (driverId : String) : Prop where
  unavailable : ∃ driver, fleet.drivers.find driverId = some driver ∧
    driver.isAvailable = false
  unlisted : driverId ∉ fleet.available

/-- The turn ends no ride of this driver: the driver completes no ride that is
IN_PROGRESS with the driver assigned, and no participant cancels a ride with this
driver that can still be cancelled. -/
def EndsNoRideOf (fleet : Fleet) (driverId : String) (turn : ApplicationTurn) : Prop :=
  match turn.request with
  | .completeRide rideId completedBy _ =>
      completedBy = driverId → ∀ ride, fleet.rides.find rideId = some ride →
        ride.status = .inProgress → ride.driverId ≠ some driverId
  | .cancelRide rideId userId =>
      ∀ ride, fleet.rides.find rideId = some ride → ride.driverId = some driverId →
        (ride.riderId = userId ∨ ride.driverId = some userId) →
          ride.status = .inProgress ∨ ride.status = .completed
  | _ => True

variable {P : Platform} {fleet : Fleet} {driverId : String}

theorem Offline.ride (offline : fleet.Offline driverId) (ride : Ride) :
    (fleet.write (.ride ride)).Offline driverId :=
  ⟨offline.unavailable, offline.unlisted⟩

theorem Offline.driver (offline : fleet.Offline driverId) {driver : Driver}
    (keeps : driver.userId = driverId → driver.isAvailable = false) :
    (fleet.write (.driver driver)).Offline driverId := by
  refine ⟨?_, offline.unlisted⟩
  change ∃ found, (fleet.drivers.save driver).find driverId = some found ∧ _
  rw [KeyedTable.find_save]
  by_cases same : driver.userId = driverId
  · exact ⟨driver, if_pos same, keeps same⟩
  · rw [if_neg same]
    exact offline.unavailable

theorem Offline.listing (offline : fleet.Offline driverId) {userId : String}
    {isAvailable : Bool} (keeps : userId = driverId → isAvailable = false) :
    (fleet.write (.listing userId isAvailable)).Offline driverId := by
  refine ⟨by cases isAvailable <;> exact offline.unavailable, ?_⟩
  cases isAvailable with
  | false =>
      change driverId ∉ fleet.available.erase userId
      exact fun listed => offline.unlisted (Finset.mem_of_mem_erase listed)
  | true =>
      change driverId ∉ insert userId fleet.available
      intro listed
      rcases Finset.mem_insert.mp listed with same | before
      · cases keeps same.symm
      · exact offline.unlisted before

theorem Offline.saving (offline : fleet.Offline driverId) {driver : Driver}
    (keeps : driver.userId = driverId → driver.isAvailable = false) :
    Throughout write (fun fleet => fleet.Offline driverId) fleet (saving driver) :=
  ⟨offline, offline.driver keeps, (offline.driver keeps).listing keeps⟩

/-- A turn that neither takes the driver online nor ends a ride of the driver
leaves the driver offline throughout. -/
theorem Offline.effect {turn : ApplicationTurn} {writes : List FleetWrite}
    (offline : fleet.Offline driverId) (effect : Effect P fleet turn.request writes)
    (stays : ∀ lat lng, turn.request ≠ .goOnline driverId lat lng)
    (endsNone : fleet.EndsNoRideOf driverId turn) :
    Throughout write (fun fleet => fleet.Offline driverId) fleet writes := by
  obtain ⟨request, moves⟩ := turn
  cases effect with
  | request inserted => exact ⟨offline, offline.ride _⟩
  | @accept rideId acceptedBy ride moved driver found moves profile free =>
      have saved : (fleet.write
          (.driver { driver with isAvailable := false })).Offline driverId :=
        offline.driver fun _ => rfl
      have listed : ((fleet.write (.driver { driver with isAvailable := false })).write
          (.listing driver.userId false)).Offline driverId :=
        saved.listing fun _ => rfl
      exact ⟨offline, saved, listed, listed.ride moved⟩
  | start found moves => exact ⟨offline, offline.ride _⟩
  | complete found moves profile =>
      obtain ⟨inProgress, assigned, _⟩ := moves.completes
      refine ⟨offline, (offline.ride _).saving fun same => ?_⟩
      have isDriver := (KeyedTable.key_of_find profile).symm.trans same
      subst isDriver
      exact absurd assigned (endsNone rfl _ found inProgress)
  | completeAlone found moves absent => exact ⟨offline, offline.ride _⟩
  | @cancel rideId userId assignedId ride moved driver found moves assigned profile =>
      obtain ⟨cancellable, participant, _⟩ := moves.cancels
      have other : driver.userId ≠ driverId := by
        intro same
        have isDriver := (KeyedTable.key_of_find profile).symm.trans same
        subst isDriver
        rcases endsNone ride found assigned participant with started | ended
        · exact cancellable.1 started
        · exact cancellable.2 ended
      have saved : (fleet.write
          (.driver { driver with isAvailable := true })).Offline driverId :=
        offline.driver fun same => absurd same other
      have listed : ((fleet.write (.driver { driver with isAvailable := true })).write
          (.listing driver.userId true)).Offline driverId :=
        saved.listing fun same => absurd same other
      exact ⟨offline, saved, listed, listed.ride moved⟩
  | cancelAlone found moves unassigned => exact ⟨offline, offline.ride _⟩
  | register registers absent isOffline => exact offline.saving fun _ => isOffline
  | goOnline located profile =>
      apply offline.saving
      intro same
      have isDriver := (KeyedTable.key_of_find profile).symm.trans same
      subst isDriver
      exact absurd rfl (stays _ _)
  | goOffline profile => exact offline.saving fun _ => rfl
  | rate profile sameUser sameAvailability =>
      apply offline.saving
      intro same
      obtain ⟨driver, found, unavailable⟩ := offline.unavailable
      rw [sameUser, KeyedTable.key_of_find profile] at same
      rw [same, found] at profile
      cases profile
      exact sameAvailability.trans unavailable

/-- A driver who has gone offline is offline. -/
theorem offline_of_carried {after : Fleet}
    (carried : Carried P (.goOffline driverId) fleet after) :
    after.Offline driverId := by
  obtain ⟨writes, effect, rfl⟩ := carried
  cases effect with
  | request inserted => cases inserted
  | register registers _ _ => cases registers
  | @goOffline _ driver profile =>
      have isDriver : driver.userId = driverId := KeyedTable.key_of_find profile
      refine ⟨⟨{ driver with isAvailable := false }, ?_, rfl⟩, ?_⟩
      · rw [← isDriver]
        exact KeyedTable.find_save_self fleet.drivers { driver with isAvailable := false }
      · rw [← isDriver]
        exact Finset.notMem_erase driver.userId fleet.available

/-- A driver who is offline accepts no ride. -/
theorem not_carried_of_offline {rideId : String} {after : Fleet}
    (offline : fleet.Offline driverId) :
    ¬ Carried P (.acceptRide rideId driverId) fleet after := by
  rintro ⟨writes, effect, _⟩
  cases effect with
  | request inserted => cases inserted
  | register registers _ _ => cases registers
  | accept found moves profile free =>
      obtain ⟨driver, driverFound, unavailable⟩ := offline.unavailable
      rw [profile] at driverFound
      cases driverFound
      rw [free] at unavailable
      cases unavailable

end Fleet

/-! ## Runs -/

variable {P : Platform} {pool next : ApplicationPool} {driverId : String}

/-- The search for nearby drivers returns members of the availability set only. -/
theorem mem_available_of_nearby {lat lng radiusKm : Float64} {pid : Nat}
    {state after : Store} {found : List NearbyDriver}
    (finished : (application P).finish pid (findNearbyAvailableDrivers lat lng radiusKm)
      state = some (.ok found, after)) :
    ∀ nearby ∈ found, nearby.driverId ∈ state.available := by
  cases searched : P.geosearch state.locations.rows lat lng radiusKm maxResults with
  | none =>
      rw [finish_refusedSearch searched] at finished
      cases finished
  | some results =>
      rw [finish_search searched] at finished
      cases finished
      exact fun nearby => mem_selects

/-- The driver is offline, is not found nearby anything, and wins no ride. -/
structure OffDuty (P : Platform) (driverId : String) (pool : ApplicationPool) :
    Prop where
  offline : pool.world.state.fleet.Offline driverId
  unseen : ∀ lat lng radiusKm pid found after,
    (application P).finish pid (findNearbyAvailableDrivers lat lng radiusKm)
      pool.world.state = some (.ok found, after) →
        ∀ nearby ∈ found, nearby.driverId ≠ driverId
  losing : ∀ turn next rideId, turn.request = .acceptRide rideId driverId →
    (application P).serve pool turn = some next →
      returned next pool.tasks.length = none

/-- What a request that has returned has written, if its handler writes. -/
theorem carried_of_serve {turn : ApplicationTurn} {request : Request}
    {raises : Failure → Fleet → Prop}
    (solo : FleetSolo P (!turn.unbroken) pool.tasks.length pool.world.state.fleet
      (handler P turn.request)
      (fun _ => Fleet.Carried P turn.request pool.world.state.fleet) raises)
    (served : (application P).serve pool turn = some next)
    (succeeded : returned next pool.tasks.length = some request) :
    Fleet.Carried P turn.request pool.world.state.fleet next.world.state.fleet := by
  obtain ⟨outcome, ended, ends⟩ := alone_of_serve (fun _ _ => rfl) served fun _ => solo
  cases outcome with
  | ok response => exact ends
  | error failure => simp [returned, ended] at succeeded

theorem offDuty_of_offline (offline : pool.world.state.fleet.Offline driverId) :
    OffDuty P driverId pool := by
  refine ⟨offline, ?_, ?_⟩
  · rintro lat lng radiusKm pid found after finished nearby nearbyMem rfl
    exact offline.unlisted (mem_available_of_nearby finished nearby nearbyMem)
  · intro turn next rideId requestEq served
    cases succeeded : returned next pool.tasks.length with
    | none => rfl
    | some request =>
        have solo : FleetSolo P (!turn.unbroken) pool.tasks.length
            pool.world.state.fleet (handler P turn.request)
            (fun _ => Fleet.Carried P turn.request pool.world.state.fleet)
            (fun _ => Fleet.Becomes P turn.request (!turn.unbroken)
              pool.world.state.fleet) := by
          rw [requestEq]
          exact acceptRide_solo.bind fun _ _ carried => solo_pure carried
        have carried := carried_of_serve solo served succeeded
        rw [requestEq] at carried
        exact absurd carried (Fleet.not_carried_of_offline offline)

/-- After a driver's request to go offline has succeeded, and as long as neither
the driver goes online nor a turn ends a ride of the driver, the driver is off
duty in every state between the requests that are served. -/
theorem offline_stays_offline {turn : ApplicationTurn}
    {later : List ApplicationTurn}
    (goesOffline : turn.request = .goOffline driverId)
    (served : (application P).serve pool turn = some next)
    (succeeded : returned next pool.tasks.length = some turn.request)
    (stays : ∀ turn ∈ later, ∀ lat lng, turn.request ≠ .goOnline driverId lat lng)
    (endsNone : EveryStep (application P).serve
      (fun before turn _ => before.world.state.fleet.EndsNoRideOf driverId turn)
      next later) :
    Always (application P).serve (OffDuty P driverId) next later := by
  have solo : FleetSolo P (!turn.unbroken) pool.tasks.length
      pool.world.state.fleet (handler P turn.request)
      (fun _ => Fleet.Carried P turn.request pool.world.state.fleet)
      (fun _ => Fleet.Becomes P turn.request (!turn.unbroken)
        pool.world.state.fleet) := by
    rw [goesOffline]
    exact goOffline_solo.bind fun _ _ carried => solo_pure carried
  have carried := carried_of_serve solo served succeeded
  rw [goesOffline] at carried
  have kept : ∀ before (turn : ApplicationTurn) after (middle last : ApplicationPool),
      later = before ++ turn :: after →
        runSteps (application P).serve next before = some middle →
          (application P).serve middle turn = some last →
            middle.world.state.fleet.Offline driverId →
              middle.world.state.fleet.EndsNoRideOf driverId turn →
                last.world.state.fleet.Offline driverId := by
    intro before turn after middle last split _ moved offline endsNone
    have turnMem : turn ∈ later := by simp [split]
    exact (becomes_of_serve moved).keeps offline fun _ effect =>
      offline.effect effect (stays turn turnMem) endsNone
  have always : Always (application P).serve
      (fun pool => pool.world.state.fleet.Offline driverId) next later :=
    always_of_everyStep (Fleet.offline_of_carried carried) kept endsNone
  intro before after middle split ran
  exact offDuty_of_offline (always before after middle split ran)

namespace SmallCity

/-- Dan accepts a ride. -/
def danAccepts : List ApplicationTurn :=
  [served (wants "r1" "u1") 7, served (.acceptRide "r1" "u3") 9]

def danRests : ApplicationTurn :=
  served (.goOffline "u3") 6

/-- The rider's cancellation makes Dan available again. -/
theorem cancelledAfterOffline_available :
    ∃ pool next final, serveAll danAccepts = some pool ∧
      (application platform).serve pool danRests = some next ∧
      returned next pool.tasks.length = some danRests.request ∧
      runSteps (application platform).serve next [served (.cancelRide "r1" "u1") 6] =
        some final ∧
      final.world.state.fleet.drivers.find "u3" =
        some { danDriver with isAvailable := true } ∧
      ¬ OffDuty platform "u3" final := by
  obtain ⟨pool, ran, checked⟩ := Option.map_eq_some_iff.mp
    (by decide +kernel : (serveAll danAccepts).map (fun pool =>
      decide (∃ next ∈ (application platform).serve pool danRests,
        returned next pool.tasks.length = some danRests.request ∧
        ∃ final ∈ runSteps (application platform).serve next
          [served (.cancelRide "r1" "u1") 6],
          final.world.state.fleet.drivers.find "u3" =
            some { danDriver with isAvailable := true })) = some true)
  obtain ⟨next, rested, succeeded, final, cancelled, available⟩ :=
    of_decide_eq_true checked
  refine ⟨pool, next, final, ran, rested, succeeded, cancelled, available, ?_⟩
  intro offDuty
  obtain ⟨driver, found, unavailable⟩ := offDuty.offline.unavailable
  rw [available] at found
  cases found
  cases unavailable

/-- A ride that Eve serves does not concern Dan. -/
theorem ridesOfEve_offDuty :
    ∃ pool next final, serveAll [] = some pool ∧
      (application platform).serve pool danRests = some next ∧
      runSteps (application platform).serve next
        [served (wants "r1" "u1") 7, served (.acceptRide "r1" "u4") 9] = some final ∧
      OffDuty platform "u3" final := by
  obtain ⟨pool, ran, checked⟩ := Option.map_eq_some_iff.mp
    (by decide +kernel : (serveAll []).map (fun pool =>
      decide (∃ next ∈ (application platform).serve pool danRests,
        returned next pool.tasks.length = some danRests.request ∧
        (runSteps (application platform).serve next
          [served (wants "r1" "u1") 7, served (.acceptRide "r1" "u4") 9]).isSome)) =
      some true)
  obtain ⟨next, rested, succeeded, served⟩ := of_decide_eq_true checked
  obtain ⟨final, ranLater⟩ := Option.isSome_iff_exists.mp served
  have stays : ∀ turn ∈ [SmallCity.served (wants "r1" "u1") 7,
      SmallCity.served (.acceptRide "r1" "u4") 9], ∀ lat lng,
      turn.request ≠ .goOnline "u3" lat lng := by
    intro turn turnMem lat lng
    simp only [List.mem_cons, List.not_mem_nil, or_false] at turnMem
    rcases turnMem with rfl | rfl <;> simp [SmallCity.served, wants]
  have endsNone : EveryStep (application platform).serve
      (fun before turn _ => before.world.state.fleet.EndsNoRideOf "u3" turn) next
      [SmallCity.served (wants "r1" "u1") 7,
        SmallCity.served (.acceptRide "r1" "u4") 9] := by
    intro before turn after middle last split _ _
    have turnMem : turn ∈ [SmallCity.served (wants "r1" "u1") 7,
        SmallCity.served (.acceptRide "r1" "u4") 9] := by simp [split]
    simp only [List.mem_cons, List.not_mem_nil, or_false] at turnMem
    rcases turnMem with rfl | rfl <;> trivial
  exact ⟨pool, next, final, ran, rested, ranLater,
    offline_stays_offline rfl rested succeeded stays endsNone _ [] final (by simp)
      ranLater⟩

end SmallCity

end RideHailing
