import RideHailing.RequestGuarantees

/-!
# Accepting a ride, accepting with a driver

Under the lock an accept finds the ride REQUESTED and the driver available, and
no other accept writes before it is done.  No other request writes REQUESTED
rows over old rides.  Hence no ride is accepted twice, and a driver whose row two
accepts have taken has been made available between the two writes.  That write may
come before the first of them has saved its ride.
-/

namespace RideHailing

variable {P : Platform} {init : Store}
variable {events : List ApplicationEvent} {pool : ApplicationPool}

/-- The task is an accept of the ride by the driver and has returned. -/
def Accepted (pool : ApplicationPool) (pid : Nat) (rideId driverId : String) : Prop :=
  returned pool pid = some (.acceptRide rideId driverId)

theorem Accepted.wrote {pid : Nat} {rideId driverId : String}
    (accepted : Accepted pool pid rideId driverId)
    (valid : (rules P init).Valid (Guarantee init) pool) :
    Committed pid rideId pool.world.log ∧ HasTaken pid driverId pool.world.log := by
  obtain ⟨_, response, guarantee⟩ := guarantee_of_returned valid accepted
  exact guarantee

theorem Accepted.request {pid : Nat} {rideId driverId : String}
    (accepted : Accepted pool pid rideId driverId)
    (valid : (rules P init).Valid (Guarantee init) pool) :
    pool.requests[pid]? = some (.acceptRide rideId driverId) :=
  (guarantee_of_returned valid accepted).1

/-- An accept that commits after another accept of the same ride breaks the
law. -/
theorem accept_not_after {rideId driverId : String} {newer between older : History}
    {later earlier : HistoryEntry}
    (lawful : Lawful (law init) (newer ++ later :: (between ++ earlier :: older)))
    (laterAccepts : later.request = .acceptRide rideId driverId)
    (laterSaved : later.savedRide ≠ none)
    (earlierAccepts : earlier.request.Accepts rideId)
    (earlierSaved : earlier.savedRide ≠ none) : False := by
  obtain ⟨ride, saved⟩ := Option.ne_none_iff_exists'.mp laterSaved
  have acceptLaw := (law_savedRide lawful.entry saved).2.1 _ _ laterAccepts
  exact acceptLaw.2.1 (Or.inr ⟨earlier, by simp, earlierAccepts, earlierSaved⟩)

/-- Two accepts of one ride that both return are the same task. -/
theorem accepted_unique (valid : (rules P init).Valid (Guarantee init) pool)
    {rideId firstDriver secondDriver : String} {first second : Nat}
    (firstAccepted : Accepted pool first rideId firstDriver)
    (secondAccepted : Accepted pool second rideId secondDriver) :
    first = second := by
  by_contra different
  obtain ⟨one, oneMem, onePid, oneRide, oneSaved⟩ := (firstAccepted.wrote valid).1
  obtain ⟨two, twoMem, twoPid, twoRide, twoSaved⟩ := (secondAccepted.wrote valid).1
  have oneRequest : one.request = .acceptRide rideId firstDriver := by
    have owned := valid.owned one oneMem
    rw [onePid, firstAccepted.request valid] at owned
    exact (Option.some.inj owned).symm
  have twoRequest : two.request = .acceptRide rideId secondDriver := by
    have owned := valid.owned two twoMem
    rw [twoPid, secondAccepted.request valid] at owned
    exact (Option.some.inj owned).symm
  have oneCommits : one.savedRide ≠ none := by
    simp [(Entry.rideAt_eq_some.mp oneSaved).1]
  have twoCommits : two.savedRide ≠ none := by
    simp [(Entry.rideAt_eq_some.mp twoSaved).1]
  have entriesDiffer : one ≠ two := by
    rintro rfl
    exact different (onePid.symm.trans twoPid)
  have lawful : Lawful (law init) pool.world.log := valid.good.2
  rcases exists_split_of_mem oneMem twoMem entriesDiffer with
    ⟨newer, between, older, split⟩ | ⟨newer, between, older, split⟩
  · rw [split] at lawful
    exact accept_not_after lawful oneRequest oneCommits ⟨_, twoRequest⟩ twoCommits
  · rw [split] at lawful
    exact accept_not_after lawful twoRequest twoCommits ⟨_, oneRequest⟩ oneCommits

/-- Between the entries by which two rides took the driver there is one that made
the driver available. -/
def RearmedBetween (driverId : String) (earlier later : Nat) (log : History) : Prop :=
  ∃ newer laterTake between earlierTake older,
    log = newer ++ laterTake :: (between ++ earlierTake :: older) ∧
      earlierTake.pid = earlier ∧ Takes driverId earlierTake ∧
        laterTake.pid = later ∧ Takes driverId laterTake ∧
          ∃ entry ∈ between, Marks driverId true entry

theorem rearmedBetween_of_split {driverId : String} {newer between older log : History}
    {later earlier : HistoryEntry} (lawful : Lawful (law init) log)
    (split : log = newer ++ later :: (between ++ earlier :: older))
    (laterTakes : Takes driverId later) (earlierTakes : Takes driverId earlier) :
    RearmedBetween driverId earlier.pid later.pid log := by
  subst split
  obtain ⟨⟨rideId, requestEq⟩, driver, saved, unavailable⟩ := laterTakes
  have driverLaw := law_savedDriver lawful.entry (Entry.driverAt_eq_some.mp saved).1
  simp only [requestEq, DriverLaw] at driverLaw
  exact ⟨newer, later, between, earlier, older, rfl, rfl, earlierTakes, rfl,
    ⟨⟨rideId, requestEq⟩, driver, saved, unavailable⟩,
    driverLaw.2.2.2.2 between earlier older rfl earlierTakes⟩

/-- Over the whole run at most one accept of a ride succeeds, and of two accepts
by one driver that succeed, the second marked the driver unavailable after some step
had made available the driver whom the first had marked. -/
theorem accepts_exclusive (unlocked : init.acceptLock = none)
    (ran : (application P).run (Pool.start init) events = some pool) :
    (∀ rideId firstDriver secondDriver first second,
      Accepted pool first rideId firstDriver →
        Accepted pool second rideId secondDriver → first = second) ∧
    ∀ driverId firstRide secondRide first second, first ≠ second →
      Accepted pool first firstRide driverId →
        Accepted pool second secondRide driverId →
          RearmedBetween driverId first second pool.world.log ∨
            RearmedBetween driverId second first pool.world.log := by
  have valid := reached_valid unlocked ran
  refine ⟨?_, ?_⟩
  · intro rideId firstDriver secondDriver first second firstAccepted secondAccepted
    exact accepted_unique valid firstAccepted secondAccepted
  · intro driverId firstRide secondRide first second different firstAccepted
      secondAccepted
    obtain ⟨one, oneMem, onePid, oneTakes⟩ := (firstAccepted.wrote valid).2
    obtain ⟨two, twoMem, twoPid, twoTakes⟩ := (secondAccepted.wrote valid).2
    have entriesDiffer : one ≠ two := by
      rintro rfl
      exact different (onePid.symm.trans twoPid)
    rw [← onePid, ← twoPid]
    rcases exists_split_of_mem oneMem twoMem entriesDiffer with
      ⟨newer, between, older, split⟩ | ⟨newer, between, older, split⟩
    · exact Or.inr (rearmedBetween_of_split valid.good.2 split oneTakes twoTakes)
    · exact Or.inl (rearmedBetween_of_split valid.good.2 split twoTakes oneTakes)

namespace SmallCity

/-- Dan serves two rides one after the other; Eve's accepts of both are refused
while she waits for the lock. -/
def twoRidesByDan : List ApplicationEvent :=
  [.spawn (wants "r1" "u1")] ++ steps 0 7 ++
  [.spawn (.acceptRide "r1" "u3"), .spawn (.acceptRide "r1" "u4")] ++
  steps 1 9 ++ steps 2 3 ++
  [.spawn (.startRide "r1" "u3")] ++ steps 3 2 ++
  [.spawn (.completeRide "r1" "u3" 60)] ++ steps 4 6 ++
  [.spawn (wants "r2" "u1")] ++ steps 5 6 ++
  [.spawn (.acceptRide "r2" "u3")] ++ steps 6 9

theorem twoRidesByDan_rearmed :
    ∃ pool, play twoRidesByDan = some pool ∧
      (RearmedBetween "u3" 1 6 pool.world.log ∨
        RearmedBetween "u3" 6 1 pool.world.log) := by
  obtain ⟨pool, played, checked⟩ := Option.map_eq_some_iff.mp
    (by decide +kernel : (play twoRidesByDan).map (fun pool =>
      decide (returned pool 1 = some (.acceptRide "r1" "u3") ∧
      returned pool 6 = some (.acceptRide "r2" "u3"))) = some true)
  obtain ⟨first, second⟩ := of_decide_eq_true checked
  exact ⟨pool, played,
    (accepts_exclusive rfl played).2 "u3" "r1" "r2" 1 6 (by decide) first second⟩

/-- Dan goes online again when his accept of ann's ride has marked him unavailable and
has not yet saved the ride.  The accept then comes to its end. -/
def onlineDuringAccept : List ApplicationEvent :=
  [.spawn (wants "r1" "u1")] ++ steps 0 7 ++
  [.spawn (.acceptRide "r1" "u3")] ++ steps 1 6 ++
  [.spawn (.goOnline "u3" centre centre)] ++ steps 2 5 ++ steps 1 3

/-- Afterwards bob wants a ride, and dan accepts that one too. -/
def acceptedAgain : List ApplicationEvent :=
  [.spawn (wants "r2" "u2")] ++ steps 3 7 ++
  [.spawn (.acceptRide "r2" "u3")] ++ steps 4 9

/-- After the first accept has succeeded nothing makes dan available, and the second
accept succeeds. -/
theorem onlineDuringAccept_notRearmed :
    ∃ first, play onlineDuringAccept = some first ∧ Accepted first 1 "r1" "u3" ∧
      ∃ second, (application platform).run first acceptedAgain = some second ∧
        Accepted second 4 "r2" "u3" ∧ ∃ newer, second.world.log = newer ++ first.world.log ∧
          ∀ entry ∈ newer, ¬ Marks "u3" true entry := by
  obtain ⟨first, played, checked⟩ := Option.map_eq_some_iff.mp
    (by decide +kernel : (play onlineDuringAccept).map (fun first =>
      decide (returned first 1 = some (.acceptRide "r1" "u3") ∧
        ∃ second ∈ (application platform).run first acceptedAgain,
          returned second 4 = some (.acceptRide "r2" "u3") ∧
            ∀ entry ∈ second.world.log.take (second.world.log.length - first.world.log.length),
              ¬ Marks "u3" true entry)) = some true)
  obtain ⟨accepted, second, ran, again, never⟩ := of_decide_eq_true checked
  obtain ⟨newer, grown⟩ := log_grows ran
  refine ⟨first, played, accepted, second, ran, again, newer, grown, ?_⟩
  have isNewer : second.world.log.take (second.world.log.length - first.world.log.length) =
      newer := by
    simp [grown]
  rwa [isNewer] at never

end SmallCity

end RideHailing
