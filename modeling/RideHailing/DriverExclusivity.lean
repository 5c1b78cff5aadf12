import RideHailing.FleetRuns

/-!
# One ride for each driver

A driver who serves a ride is unavailable, so nobody else's ride can take the
same driver.  Two requests make a serving driver available all the same: going
online, and cancelling an already cancelled ride of the same driver once more.
Requests served one at a time keep the invariant as long as neither happens and
no call fails inside the cancellation of a matched ride.
-/

namespace RideHailing

namespace Fleet

/-- The ride is MATCHED or IN_PROGRESS, with this driver. -/
def Serves (fleet : Fleet) (rideId driverId : String) : Prop :=
  ∃ ride, fleet.rides.find rideId = some ride ∧ ride.driverId = some driverId ∧
    ride.status ∈ servingRideStatuses

instance (fleet : Fleet) (rideId driverId : String) :
    Decidable (fleet.Serves rideId driverId) :=
  inferInstanceAs (Decidable (∃ ride ∈ fleet.rides.find rideId,
    ride.driverId = some driverId ∧ ride.status ∈ servingRideStatuses))

/-- No driver serves two rides, and whoever serves one is not available. -/
structure Exclusive (fleet : Fleet) : Prop where
  single : ∀ driverId first second, fleet.Serves first driverId →
    fleet.Serves second driverId → first = second
  occupied : ∀ driverId rideId, fleet.Serves rideId driverId →
    ∃ driver, fleet.drivers.find driverId = some driver ∧ driver.isAvailable = false

/-- The turn makes no serving driver available: nobody goes online while serving a
ride, no participant cancels a CANCELLED ride whose driver serves another one, and
no call fails in the cancellation of a MATCHED ride. -/
def SparesServing (P : Platform) (fleet : Fleet) (turn : ApplicationTurn) : Prop :=
  match turn.request with
  | .goOnline userId lat lng =>
      P.geoAccepts lat lng = true → ∀ rideId, ¬ fleet.Serves rideId userId
  | .cancelRide rideId userId =>
      ∀ ride driverId, fleet.rides.find rideId = some ride →
        (ride.riderId = userId ∨ ride.driverId = some userId) →
          ride.driverId = some driverId →
            (ride.status = .cancelled →
              ∀ otherId, ¬ fleet.Serves otherId driverId) ∧
              (ride.status = .matched → turn.unbroken = true)
  | _ => True

variable {P : Platform} {fleet : Fleet}

/-! ## One write -/

theorem serves_write_ride {ride : Ride} {rideId driverId : String} :
    (fleet.write (.ride ride)).Serves rideId driverId ↔
      (ride.id = rideId ∧ ride.driverId = some driverId ∧
        ride.status ∈ servingRideStatuses) ∨
        (ride.id ≠ rideId ∧ fleet.Serves rideId driverId) := by
  have found : (fleet.write (.ride ride)).rides.find rideId =
      if ride.id = rideId then some ride else fleet.rides.find rideId :=
    KeyedTable.find_save fleet.rides ride rideId
  by_cases same : ride.id = rideId <;> simp [Serves, found, same]

theorem Exclusive.driver (exclusive : fleet.Exclusive) {driver : Driver}
    (spares : driver.isAvailable = true →
      ∀ rideId, ¬ fleet.Serves rideId driver.userId) :
    (fleet.write (.driver driver)).Exclusive := by
  refine ⟨exclusive.single, ?_⟩
  intro driverId rideId serves
  change ∃ found, (fleet.drivers.save driver).find driverId = some found ∧ _
  rw [KeyedTable.find_save]
  by_cases same : driver.userId = driverId
  · refine ⟨driver, if_pos same, ?_⟩
    cases available : driver.isAvailable with
    | false => rfl
    | true => exact absurd (same ▸ serves) (spares available rideId)
  · obtain ⟨found, profile, unavailable⟩ := exclusive.occupied driverId rideId serves
    exact ⟨found, by rw [if_neg same, profile], unavailable⟩

theorem Exclusive.listing (exclusive : fleet.Exclusive) (userId : String)
    (isAvailable : Bool) : (fleet.write (.listing userId isAvailable)).Exclusive := by
  cases isAvailable <;> exact ⟨exclusive.single, exclusive.occupied⟩

theorem Exclusive.saving (exclusive : fleet.Exclusive) {driver : Driver}
    (spares : driver.isAvailable = true →
      ∀ rideId, ¬ fleet.Serves rideId driver.userId) :
    Throughout write Exclusive fleet (saving driver) :=
  ⟨exclusive, exclusive.driver spares, (exclusive.driver spares).listing _ _⟩

/-- A ride may be written when its driver serves no other ride and is not
available. -/
theorem Exclusive.ride (exclusive : fleet.Exclusive) {ride : Ride}
    (taken : ∀ driverId, ride.driverId = some driverId →
      ride.status ∈ servingRideStatuses →
        (∀ otherId, fleet.Serves otherId driverId → otherId = ride.id) ∧
          ∃ driver, fleet.drivers.find driverId = some driver ∧
            driver.isAvailable = false) :
    (fleet.write (.ride ride)).Exclusive := by
  constructor
  · intro driverId first second firstServes secondServes
    rcases serves_write_ride.mp firstServes with ⟨rfl, assigned, serving⟩ | ⟨_, firstOld⟩
    · rcases serves_write_ride.mp secondServes with ⟨rfl, _⟩ | ⟨_, secondOld⟩
      · rfl
      · exact ((taken driverId assigned serving).1 second secondOld).symm
    · rcases serves_write_ride.mp secondServes with
        ⟨rfl, assigned, serving⟩ | ⟨_, secondOld⟩
      · exact (taken driverId assigned serving).1 first firstOld
      · exact exclusive.single driverId first second firstOld secondOld
  · intro driverId rideId serves
    rcases serves_write_ride.mp serves with ⟨_, assigned, serving⟩ | ⟨_, old⟩
    · exact (taken driverId assigned serving).2
    · exact exclusive.occupied driverId rideId old

theorem Exclusive.idle_ride (exclusive : fleet.Exclusive) {ride : Ride}
    (idle : ride.status ∉ servingRideStatuses) :
    (fleet.write (.ride ride)).Exclusive :=
  exclusive.ride fun _ _ serving => absurd serving idle

/-- Once the ride that a driver served has ended, the driver serves none. -/
theorem Exclusive.unserved (exclusive : fleet.Exclusive) {ride moved : Ride}
    {rideId driverId : String} (found : fleet.rides.find rideId = some ride)
    (assigned : ride.driverId = some driverId)
    (serving : ride.status ∈ servingRideStatuses) (sameId : moved.id = ride.id)
    (idle : moved.status ∉ servingRideStatuses) (otherId : String) :
    ¬ (fleet.write (.ride moved)).Serves otherId driverId := by
  intro serves
  rcases serves_write_ride.mp serves with ⟨_, _, stillServing⟩ | ⟨other, old⟩
  · exact idle stillServing
  · apply other
    rw [sameId, KeyedTable.key_of_find found]
    exact exclusive.single driverId rideId otherId ⟨ride, found, assigned, serving⟩ old

/-! ## One request -/

/-- A driver who is available serves no ride. -/
theorem Exclusive.unserved_of_available (exclusive : fleet.Exclusive) {driver : Driver}
    {driverId : String} (profile : fleet.drivers.find driverId = some driver)
    (available : driver.isAvailable = true) (rideId : String) :
    ¬ fleet.Serves rideId driverId := by
  intro serves
  obtain ⟨found, foundEq, unavailable⟩ := exclusive.occupied driverId rideId serves
  rw [profile] at foundEq
  cases foundEq
  rw [available] at unavailable
  cases unavailable

theorem Exclusive.accept (exclusive : fleet.Exclusive) {rideId driverId : String}
    {ride moved : Ride} {driver : Driver}
    (moves : Moves (.acceptRide rideId driverId) ride moved)
    (profile : fleet.drivers.find driverId = some driver)
    (free : driver.isAvailable = true) :
    Throughout write Exclusive fleet
      (RideHailing.saving { driver with isAvailable := false } ++ [.ride moved]) := by
  have saved : (fleet.write (.driver { driver with isAvailable := false })).Exclusive :=
    exclusive.driver fun available => by cases available
  have listed := saved.listing driver.userId false
  refine ⟨exclusive, saved, listed, listed.ride ?_⟩
  intro takenId assigned _
  cases moves
  cases assigned
  refine ⟨fun otherId serves => ?_, { driver with isAvailable := false }, ?_, rfl⟩
  · exact absurd serves (exclusive.unserved_of_available profile free otherId)
  · rw [← KeyedTable.key_of_find profile]
    exact KeyedTable.find_save_self fleet.drivers { driver with isAvailable := false }

theorem Exclusive.start (exclusive : fleet.Exclusive) {rideId driverId : String}
    {ride moved : Ride} (found : fleet.rides.find rideId = some ride)
    (moves : Moves (.startRide rideId driverId) ride moved) :
    (fleet.write (.ride moved)).Exclusive := by
  apply exclusive.ride
  intro servedBy assigned _
  cases moves with
  | start matched _ =>
      have serves : fleet.Serves rideId servedBy :=
        ⟨ride, found, assigned, by rw [matched]; decide⟩
      refine ⟨fun otherId other => ?_, exclusive.occupied servedBy rideId serves⟩
      rw [exclusive.single servedBy otherId rideId other serves]
      exact (KeyedTable.key_of_find found).symm

/-- The end of a ride, and then its driver made available. -/
theorem Exclusive.release (exclusive : fleet.Exclusive) {ride moved : Ride}
    {driver : Driver} {rideId driverId : String}
    (found : fleet.rides.find rideId = some ride)
    (assigned : ride.driverId = some driverId)
    (serving : ride.status ∈ servingRideStatuses) (sameId : moved.id = ride.id)
    (idle : moved.status ∉ servingRideStatuses)
    (profile : fleet.drivers.find driverId = some driver) :
    Throughout write Exclusive fleet
      (.ride moved :: RideHailing.saving { driver with isAvailable := true }) := by
  have ended := exclusive.idle_ride idle
  refine ⟨exclusive, ended.saving fun _ => ?_⟩
  rw [KeyedTable.key_of_find profile]
  exact exclusive.unserved found assigned serving sameId idle

/-- Apart from the requests that the condition singles out, every request keeps
the invariant even while it is under way. -/
theorem Exclusive.effect {request : Request} {writes : List FleetWrite}
    (exclusive : fleet.Exclusive) (effect : Effect P fleet request writes)
    (spares : ∀ userId lat lng, request = .goOnline userId lat lng →
      P.geoAccepts lat lng = true → ∀ rideId, ¬ fleet.Serves rideId userId)
    (releases : ∀ rideId userId, request ≠ .cancelRide rideId userId) :
    Throughout write Exclusive fleet writes := by
  cases effect with
  | request inserted =>
      refine ⟨exclusive, exclusive.idle_ride ?_⟩
      rw [(requested_eq_some inserted).2.1]
      decide
  | accept found moves profile free => exact exclusive.accept moves profile free
  | start found moves => exact ⟨exclusive, exclusive.start found moves⟩
  | complete found moves profile =>
      obtain ⟨inProgress, assigned, completed⟩ := moves.completes
      apply exclusive.release found assigned ?_ moves.id ?_ profile
      · rw [inProgress]
        decide
      · rw [completed]
        decide
  | completeAlone found moves absent =>
      refine ⟨exclusive, exclusive.idle_ride ?_⟩
      rw [moves.completes.2.2]
      decide
  | cancel _ _ _ _ => exact absurd rfl (releases _ _)
  | cancelAlone _ _ _ => exact absurd rfl (releases _ _)
  | register registers absent offline =>
      apply exclusive.saving
      intro available
      rw [offline] at available
      cases available
  | goOnline located profile =>
      apply exclusive.saving
      intro _
      rw [KeyedTable.key_of_find profile]
      exact spares _ _ _ rfl located
  | goOffline profile =>
      apply exclusive.saving
      intro available
      cases available
  | rate profile sameUser sameAvailability =>
      apply exclusive.saving
      intro available
      rw [sameAvailability] at available
      rw [sameUser, KeyedTable.key_of_find profile]
      exact exclusive.unserved_of_available profile available

/-- The driver of a ride that is cancelled is made available before the ride is
written, but the two writes commute. -/
theorem writeAll_cancel (driver : Driver) (moved : Ride) :
    fleet.writeAll (RideHailing.saving { driver with isAvailable := true } ++
      [.ride moved]) =
      fleet.writeAll (.ride moved ::
        RideHailing.saving { driver with isAvailable := true }) :=
  rfl

/-- A cancellation keeps the invariant if the driver serves at most the ride that
it cancels, and in that case no call fails. -/
theorem Exclusive.cancel (exclusive : fleet.Exclusive) (sound : fleet.Sound)
    {turn : ApplicationTurn} {rideId userId : String} {after : Fleet}
    (requestEq : turn.request = .cancelRide rideId userId)
    (spares : fleet.SparesServing P turn)
    (becomes : Becomes P turn.request (!turn.unbroken) fleet after) :
    after.Exclusive := by
  rcases becomes with rfl | ⟨writes, done, effect, begun, rfl, works⟩
  · exact exclusive
  simp only [SparesServing, requestEq] at spares
  rw [requestEq] at effect
  cases effect with
  | request inserted => cases inserted
  | register registers _ _ => cases registers
  | cancelAlone found moves unassigned =>
      apply Throughout.interrupted ?_ begun
      refine ⟨exclusive, exclusive.idle_ride ?_⟩
      rw [moves.cancels.2.2]
      decide
  | @cancel _ _ driverId ride moved driver found moves assigned profile =>
      obtain ⟨⟨notInProgress, notCompleted⟩, participant, cancelled⟩ := moves.cancels
      have idle : moved.status ∉ servingRideStatuses := by
        rw [cancelled]
        decide
      obtain ⟨whenCancelled, whenMatched⟩ :=
        spares ride driverId found participant assigned
      cases status : ride.status with
      | inProgress => exact absurd status notInProgress
      | completed => exact absurd status notCompleted
      | requested =>
          rw [sound.unassigned rideId ride found status] at assigned
          cases assigned
      | matched =>
          have unbroken := whenMatched status
          rw [works (by rw [unbroken]; rfl), writeAll_cancel]
          apply Throughout.interrupted ?_ List.prefix_rfl
          exact exclusive.release found assigned (by rw [status]; decide) moves.id idle
            profile
      | cancelled =>
          have saved : (fleet.write
              (.driver { driver with isAvailable := true })).Exclusive := by
            apply exclusive.driver
            intro _
            rw [KeyedTable.key_of_find profile]
            exact whenCancelled status
          have listed := saved.listing driver.userId true
          apply Throughout.interrupted ?_ begun
          exact ⟨exclusive, saved, listed, listed.idle_ride idle⟩

/-- One turn that meets the condition keeps the invariant. -/
theorem Exclusive.turn (exclusive : fleet.Exclusive) (sound : fleet.Sound)
    {turn : ApplicationTurn} {after : Fleet} (spares : fleet.SparesServing P turn)
    (becomes : Becomes P turn.request (!turn.unbroken) fleet after) :
    after.Exclusive := by
  by_cases cancels : ∃ rideId userId, turn.request = .cancelRide rideId userId
  · obtain ⟨rideId, userId, requestEq⟩ := cancels
    exact exclusive.cancel sound requestEq spares becomes
  · apply becomes.keeps exclusive
    intro writes effect
    apply exclusive.effect effect
    · intro userId lat lng requestEq
      simpa only [SparesServing, requestEq] using spares
    · intro rideId userId requestEq
      exact cancels ⟨rideId, userId, requestEq⟩

end Fleet

/-! ## Runs -/

variable {P : Platform} {init : Store} {turns : List ApplicationTurn}

theorem Store.fleet_exclusive (noRides : init.rides.rows = []) :
    init.fleet.Exclusive := by
  have idle : ∀ rideId driverId, ¬ init.fleet.Serves rideId driverId := by
    rintro rideId driverId ⟨ride, found, _⟩
    have stored := (KeyedTable.find_eq_some_iff.mp found).1
    rw [show init.fleet.rides.rows = [] from noRides] at stored
    cases stored
  exact ⟨fun _ _ _ serves => absurd serves (idle _ _),
    fun _ _ serves => absurd serves (idle _ _)⟩

/-- As long as no turn makes a serving driver available, in every state between
requests that are served one at a time no driver serves two rides, and every
driver who serves one is unavailable. -/
theorem drivers_exclusive (unlocked : init.acceptLock = none)
    (noRides : init.rides.rows = [])
    (spares : EveryStep (application P).serve
      (fun before turn _ => before.world.state.fleet.SparesServing P turn)
      (Pool.start init) turns) :
    Always (application P).serve (fun pool => pool.world.state.fleet.Exclusive)
      (Pool.start init) turns := by
  have kept : ∀ before (turn : ApplicationTurn) after (middle next : ApplicationPool),
      turns = before ++ turn :: after →
        runSteps (application P).serve (Pool.start init) before = some middle →
          (application P).serve middle turn = some next →
            middle.world.state.fleet.Exclusive →
              middle.world.state.fleet.SparesServing P turn →
                next.world.state.fleet.Exclusive := by
    intro before turn after middle next _ ran moved exclusive spared
    exact exclusive.turn (sound_of_serves unlocked noRides ran) spared
      (becomes_of_serve moved)
  exact always_of_everyStep (Store.fleet_exclusive noRides) kept spares

namespace SmallCity

/-- Dan accepts a ride, goes online and accepts another one. -/
def onlineWhileServing : List ApplicationTurn :=
  [served (wants "r1" "u1") 7, served (.acceptRide "r1" "u3") 9,
    served (.goOnline "u3" centre centre) 5, served (wants "r2" "u2") 7,
    served (.acceptRide "r2" "u3") 9]

theorem onlineWhileServing_two_rides :
    ∃ pool, serveAll onlineWhileServing = some pool ∧
      ¬ pool.world.state.fleet.Exclusive := by
  obtain ⟨pool, ran, checked⟩ := Option.map_eq_some_iff.mp
    (by decide +kernel : (serveAll onlineWhileServing).map (fun pool =>
      decide (pool.world.state.fleet.Serves "r1" "u3" ∧
        pool.world.state.fleet.Serves "r2" "u3")) = some true)
  obtain ⟨first, second⟩ := of_decide_eq_true checked
  refine ⟨pool, ran, fun exclusive => ?_⟩
  exact absurd (exclusive.single "u3" "r1" "r2" first second) (by decide)

/-- Dan accepts a ride and starts it. -/
def danStarts : List ApplicationTurn :=
  [served (wants "r1" "u1") 7, served (.acceptRide "r1" "u3") 9,
    served (.startRide "r1" "u3") 2]

theorem danStarts_exclusive :
    ∃ pool, serveAll danStarts = some pool ∧
      pool.world.state.fleet.Serves "r1" "u3" ∧ pool.world.state.fleet.Exclusive := by
  obtain ⟨pool, ran, checked⟩ := Option.map_eq_some_iff.mp
    (by decide +kernel : (serveAll danStarts).map (fun pool =>
      decide (pool.world.state.fleet.Serves "r1" "u3")) = some true)
  have spares : EveryStep (application platform).serve
      (fun before turn _ => before.world.state.fleet.SparesServing platform turn)
      (Pool.start store) danStarts := by
    intro before turn after middle next split _ _
    have turnMem : turn ∈ danStarts := by simp [split]
    simp only [danStarts, List.mem_cons, List.not_mem_nil, or_false] at turnMem
    rcases turnMem with rfl | rfl | rfl <;> trivial
  exact ⟨pool, ran, of_decide_eq_true checked,
    drivers_exclusive rfl rfl spares danStarts [] pool (by simp) ran⟩

end SmallCity

end RideHailing
