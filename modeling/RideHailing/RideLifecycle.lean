import RideHailing.RequestGuarantees

/-!
# The lifecycle of a ride under interleaving

The accept lock keeps two accepts of one ride apart, so a ride is accepted at
most once and a driver is taken only while free.  It does not keep an accept
apart from a cancellation, nor a start from either: a transition writes back the
row it has read, whatever was committed since.  A ride follows its lifecycle
exactly in the runs in which no transition is disturbed in this way.
-/

namespace RideHailing

variable {P : Platform} {init : Store}
variable {events : List ApplicationEvent} {pool : ApplicationPool}

/-! ## The lifecycle -/

/-- REQUESTED, MATCHED, IN_PROGRESS, COMPLETED in this order; a ride that is not
yet in progress may be cancelled, also again. -/
def lifecycle : RideStatus → RideStatus → Bool
  | .requested, .matched => true
  | .matched, .inProgress => true
  | .inProgress, .completed => true
  | .requested, .cancelled => true
  | .matched, .cancelled => true
  | .cancelled, .cancelled => true
  | _, _ => false

/-- The row begins a ride, or takes the one it replaces a step further. -/
def LifecycleStep (replaced : Option Ride) (committed : Ride) : Prop :=
  match replaced with
  | none => committed.status = .requested ∧ committed.version = 0
  | some before =>
      lifecycle before.status committed.status = true ∧
        committed.version = before.version + 1

instance (replaced : Option Ride) (committed : Ride) :
    Decidable (LifecycleStep replaced committed) := by
  cases replaced <;> exact inferInstanceAs (Decidable (_ ∧ _))

/-- If the entry commits a row of the ride, that is a lifecycle step. -/
def FollowsLifecycle (init : Store) (rideId : String) (entry : HistoryEntry)
    (older : History) : Prop :=
  ∀ ride ∈ entry.rideAt rideId, LifecycleStep (storedRide init rideId older) ride

instance (rideId : String) (entry : HistoryEntry) (older : History) :
    Decidable (FollowsLifecycle init rideId entry older) := by
  unfold FollowsLifecycle
  infer_instance

/-- If the entry commits a transition of the ride, nobody has committed a row of
it since the task read it. -/
def Undisturbed (rideId : String) (entry : HistoryEntry) (older : History) : Prop :=
  entry.request.rideMoved = some rideId → entry.rideAt rideId ≠ none →
    ∀ other ∈ since (rideReadBy entry.pid rideId) older, other.rideAt rideId = none

/-- Every commit of the ride is a lifecycle step, and every transition that
returned has committed one. -/
structure LifecycleKept (init : Store) (pool : ApplicationPool) (rideId : String) :
    Prop where
  commits : Lawful (FollowsLifecycle init rideId) pool.world.log
  succeeded : ∀ pid request, returned pool pid = some request →
    request.rideMoved = some rideId → Committed pid rideId pool.world.log

theorem Moves.lifecycle {request : Request} {before after : Ride}
    (moves : Moves request before after) :
    lifecycle before.status after.status = true := by
  cases moves with
  | accept requested => simp [RideHailing.lifecycle, requested]
  | start matched assigned => simp [RideHailing.lifecycle, matched]
  | complete inProgress assigned => simp [RideHailing.lifecycle, inProgress]
  | cancel cancellable participant =>
      cases status : before.status with
      | inProgress => exact absurd status cancellable.1
      | completed => exact absurd status cancellable.2
      | _ => rfl

/-- Along lifecycle steps the version never falls, and any commit raises it. -/
theorem version_grows {rideId : String} {newer older : History} {before : Ride}
    (kept : Lawful (FollowsLifecycle init rideId) (newer ++ older))
    (stored : storedRide init rideId older = some before) :
    ∃ after, storedRide init rideId (newer ++ older) = some after ∧
      before.version ≤ after.version ∧
        ((∃ entry ∈ newer, entry.rideAt rideId ≠ none) →
          before.version < after.version) := by
  induction newer with
  | nil => exact ⟨before, stored, le_refl _, by simp⟩
  | cons entry newer ih =>
      obtain ⟨middle, middleStored, atLeast, _⟩ := ih kept.2
      cases saved : entry.rideAt rideId with
      | none =>
          refine ⟨middle, ?_, atLeast, ?_⟩
          · rw [List.cons_append, storedRide_cons, saved, middleStored]
            rfl
          · rintro ⟨source, sourceMem, committed⟩
            rcases List.mem_cons.mp sourceMem with rfl | sourceNewer
            · exact absurd saved committed
            · obtain ⟨found, foundEq, _, raised⟩ := ih kept.2
              rw [middleStored] at foundEq
              cases foundEq
              exact raised ⟨source, sourceNewer, committed⟩
      | some after =>
          have step : LifecycleStep (storedRide init rideId (newer ++ older)) after :=
            kept.1 after saved
          rw [middleStored] at step
          have raised : before.version < after.version := by
            rw [step.2]
            omega
          refine ⟨after, ?_, le_of_lt raised, fun _ => raised⟩
          rw [List.cons_append, storedRide_cons, saved]
          rfl

/-- An undisturbed commit of a lawful history is a lifecycle step. -/
theorem followsLifecycle_of_undisturbed {rideId : String} {entry : HistoryEntry}
    {older : History} (lawful : law init entry older)
    (undisturbed : Undisturbed rideId entry older) :
    FollowsLifecycle init rideId entry older := by
  intro ride saved
  have saved : entry.rideAt rideId = some ride := saved
  rcases law_rideAt lawful saved with ⟨_, inserts, absent⟩ | ⟨moved, seen, read, moves⟩
  · rw [absent]
    obtain ⟨_, status, _, version, _⟩ := requested_eq_some inserts
    exact ⟨status, version⟩
  · have current : storedRide init rideId older = some seen := by
      apply latest_eq_of_since_unchanged read
      · intro other reads
        exact rideReadBy_unsaved reads
      · exact undisturbed moved (by simp [saved])
    rw [current]
    exact ⟨moves.lifecycle, moves.version⟩

/-- A commit that raises the version of the row it replaces by one has not been
disturbed, if the commits before it kept the lifecycle. -/
theorem undisturbed_of_followsLifecycle {rideId : String} {entry : HistoryEntry}
    {older : History} (lawful : law init entry older)
    (follows : FollowsLifecycle init rideId entry older)
    (kept : Lawful (FollowsLifecycle init rideId) older) :
    Undisturbed rideId entry older := by
  intro moved committed other otherMem
  obtain ⟨ride, saved⟩ := Option.ne_none_iff_exists'.mp committed
  rcases law_rideAt lawful saved with ⟨_, inserts, _⟩ | ⟨_, seen, read, moves⟩
  · rw [(requested_eq_some inserts).1] at moved
    cases moved
  · obtain ⟨mark, before, split, reads, viewed⟩ := atLast_eq_some read
    have markStored : storedRide init rideId (mark :: before) = some seen := by
      rw [storedRide_cons, rideReadBy_unsaved reads, viewed]
      rfl
    have keptSplit : Lawful (FollowsLifecycle init rideId)
        (since (rideReadBy entry.pid rideId) older ++ mark :: before) := by
      rw [← split]
      exact kept
    obtain ⟨current, currentStored, _, raised⟩ := version_grows keptSplit markStored
    rw [← split] at currentStored
    have step := follows ride saved
    rw [currentStored] at step
    by_contra disturbed
    have grown := raised ⟨other, otherMem, disturbed⟩
    have same : ride.version = seen.version + 1 := moves.version
    have next : ride.version = current.version + 1 := step.2
    omega

/-- A ride follows its lifecycle, every success committing the next version,
exactly in the runs in which no transition of it is disturbed between its read
and its write. -/
theorem lifecycleKept_iff (unlocked : init.acceptLock = none)
    (ran : (application P).run (Pool.start init) events = some pool)
    (rideId : String) :
    LifecycleKept init pool rideId ↔ Lawful (Undisturbed rideId) pool.world.log := by
  have valid := reached_valid unlocked ran
  have lawful : Lawful (law init) pool.world.log := valid.good.2
  constructor
  · intro kept
    apply kept.commits.mono
    intro newer entry older split follows
    have commits := kept.commits
    rw [split] at commits lawful
    exact undisturbed_of_followsLifecycle lawful.entry follows commits.of_append.2
  · intro undisturbed
    refine ⟨?_, ?_⟩
    · apply undisturbed.mono
      intro newer entry older split quiet
      rw [split] at lawful
      exact followsLifecycle_of_undisturbed lawful.entry quiet
    · intro pid request ended moved
      obtain ⟨_, response, guarantee⟩ := guarantee_of_returned valid ended
      cases request with
      | acceptRide target driverId =>
          cases moved
          exact guarantee.1
      | startRide target driverId =>
          cases moved
          exact guarantee
      | completeRide target driverId now =>
          cases moved
          exact guarantee.1
      | cancelRide target userId =>
          cases moved
          exact guarantee
      | _ => cases moved

namespace SmallCity

/-- A matched ride is cancelled between the read and the write of its start. -/
def cancelDuringStart : List ApplicationEvent :=
  [.spawn (wants "r1" "u1")] ++ steps 0 7 ++
  [.spawn (.acceptRide "r1" "u3")] ++ steps 1 9 ++
  [.spawn (.startRide "r1" "u3"), .spawn (.cancelRide "r1" "u1")] ++
  [.step 2] ++ steps 3 6 ++ [.step 2]

/-- The start succeeds, and its row puts the cancelled ride IN_PROGRESS. -/
theorem cancelDuringStart_breaks_lifecycle :
    ∃ pool, play cancelDuringStart = some pool ∧ ¬ LifecycleKept store pool "r1" := by
  obtain ⟨pool, played, checked⟩ := Option.map_eq_some_iff.mp
    (by decide +kernel : (play cancelDuringStart).map (fun pool =>
      !decide (Lawful (FollowsLifecycle store "r1") pool.world.log)) = some true)
  refine ⟨pool, played, fun kept => ?_⟩
  simp [kept.commits] at checked

/-- A ride from its request to its completion, one request at a time. -/
def wholeRide : List ApplicationEvent :=
  [.spawn (wants "r1" "u1")] ++ steps 0 7 ++
  [.spawn (.acceptRide "r1" "u3")] ++ steps 1 9 ++
  [.spawn (.startRide "r1" "u3")] ++ steps 2 2 ++
  [.spawn (.completeRide "r1" "u3" 60)] ++ steps 3 6

theorem wholeRide_lifecycleKept :
    ∃ pool, play wholeRide = some pool ∧ pool.world.log.length = 24 ∧
      (LifecycleKept store pool "r1" ↔ Lawful (Undisturbed "r1") pool.world.log) := by
  obtain ⟨pool, played, checked⟩ := Option.map_eq_some_iff.mp
    (by decide +kernel : (play wholeRide).map (fun pool =>
      decide (pool.world.log.length = 24)) = some true)
  exact ⟨pool, played, of_decide_eq_true checked, lifecycleKept_iff rfl played "r1"⟩

end SmallCity

end RideHailing
