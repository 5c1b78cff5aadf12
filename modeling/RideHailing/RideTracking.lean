import RideHailing.DeploymentStreams
import RideHailing.StreamEnds
import RideHailing.Transcripts

/-!
# Tracking a ride to its end

The handlers of a ride's last message complete the ride's key.  This ends the one
location stream that the key refers to at that moment: neither a stream that another
one has replaced, nor one that registers too late.
-/

namespace RideHailing

open EventStreams

variable {P : Platform} {W : Wiring} {start : Deployment}
variable {events : List DeploymentEvent} {pool : DeploymentPool} {rideId : String}

/-- Every stream of the ride that its client has not left has ended, or finds the
sentinel in its queue. -/
def TrackingEnded (moves : List (StreamStep Payload)) (rideId : String)
    (board : EventStreams Payload) : Prop :=
  ∀ index stream, board.streams[index]? = some stream → stream.key = rideId →
    .disconnects index ∉ moves → board.Released index

/-! ## What the handlers of the last message do -/

/-- The transcript of a handler that has ended well: the ride was missing, or it was not
completed although its message said so, or the last call has completed the ride's key. -/
def ClosesRide (topic : Topic) (rideId : String)
    (transcript : List (Answered DeploymentValue Fault)) : Prop :=
  transcript = [⟨.inl (.rideFindById rideId), .ok none⟩] ∨
    (topic = .rideCompleted ∧ ∃ ride : Ride, ride.status ≠ .completed ∧
      transcript = [⟨.inl (.rideFindById rideId), .ok (some ride)⟩]) ∨
    ∃ earlier, transcript = ⟨.inl (.sseComplete rideId), .ok ()⟩ :: earlier

/-- From this transcript on the action leaves such a transcript if it succeeds. -/
abbrev Closes (topic : Topic) (rideId : String)
    (transcript : List (Answered DeploymentValue Fault)) (action : Background Unit) : Prop :=
  (transcribing fun _ _ => True).Watches action
    (CallMonitor.Leaves (fun _ after => ClosesRide topic rideId after) fun _ _ => True)
    transcript

theorem completed_closes : Closes .rideCompleted rideId [] (handleRideCompleted rideId) := by
  unfold handleRideCompleted
  refine ⟨trivial, fun reply _ => ?_⟩
  cases reply with
  | error fault => trivial
  | ok found =>
      cases found with
      | none => exact Or.inl rfl
      | some ride =>
          change Closes .rideCompleted rideId _ (if _ then _ else _)
          split
          · rename_i notCompleted
            exact Or.inr (Or.inl ⟨rfl, ride, notCompleted, rfl⟩)
          · refine ⟨trivial, fun reply _ => ?_⟩
            cases reply with
            | error fault => trivial
            | ok value => exact Or.inr (Or.inr ⟨_, rfl⟩)

theorem cancelled_closes : Closes .rideCancelled rideId [] (handleRideCancelled rideId) := by
  unfold handleRideCancelled
  refine ⟨trivial, fun reply _ => ?_⟩
  cases reply with
  | error fault => trivial
  | ok found =>
      cases found with
      | none => exact Or.inl rfl
      | some ride =>
          refine ⟨trivial, fun reply _ => ?_⟩
          cases reply with
          | error fault => trivial
          | ok value => exact Or.inr (Or.inr ⟨_, rfl⟩)

/-- What a handler of a ride's last message has done when it ends well. -/
theorem handler_closes {topic : Topic} (last : topic = .rideCompleted ∨ topic = .rideCancelled) :
    (transcribing fun _ _ => True).Watches
      ((deployment P W).program (.inr (.handle topic rideId)))
      (fun outcome after => ∀ response, outcome = .ok response → ClosesRide topic rideId after)
      [] := by
  have closes : Closes topic rideId [] (handlers P W topic rideId) := by
    rcases last with rfl | rfl
    · exact completed_closes
    · exact cancelled_closes
  have responds : (transcribing fun _ _ => True).Watches
      ((deployment P W).program (.inr (.handle topic rideId)))
      (CallMonitor.Leaves (fun _ after => ClosesRide topic rideId after) fun _ _ => True) [] :=
    closes.andThen fun _ _ closed => closed
  apply responds.mono
  rintro outcome after leaves response rfl
  exact leaves

/-! ## The moment at which the last message has been handled -/

/-- After these events the task takes a step with which it ends well, and it has handled that
the ride was cancelled, or that it was completed, and has found it so. -/
def HandlesLast (P : Platform) (W : Wiring) (start : Deployment) (rideId : String)
    (events : List DeploymentEvent) (pid : Nat) : Prop :=
  ∃ moment next topic response,
    Deployment.run P W (Pool.start start) events = some moment ∧
    Deployment.next P W moment (.step pid) = some next ∧
    next.ended? pid = some (.inr (.handle topic rideId), .ok response) ∧
    (topic = .rideCancelled ∨ topic = .rideCompleted ∧ ∃ ride : Ride, ride.status = .completed ∧
      ⟨.inl (.rideFindById rideId), .ok (some ride)⟩ ∈ told pid next.world.log)

/-- This step completes the ride's key. -/
theorem completes_of_handlesLast (unlocked : start.store.acceptLock = none)
    (silent : start.store.published = []) {pid : Nat}
    (handles : HandlesLast P W start rideId events pid) :
    ∃ moment next, Deployment.run P W (Pool.start start) events = some moment ∧
      Deployment.next P W moment (.step pid) = some next ∧
      Deployment.streamMove moment (.step pid) = some (.completes rideId) := by
  obtain ⟨moment, next, topic, response, ran, moved, ended, message⟩ := handles
  have ranNext := Deployment.run_snoc ran moved
  have last : topic = .rideCompleted ∨ topic = .rideCancelled := by
    rcases message with cancelled | ⟨completed, _⟩
    · exact Or.inr cancelled
    · exact Or.inl completed
  have closes : ClosesRide topic rideId (told pid next.world.log) :=
    transcript_ended machine_next_of_next (handler_closes last) ranNext ended response rfl
  have stored : (noted pid next.world.log).found ≠ some none := by
    apply (attentive_of_run unlocked silent ranNext pid topic rideId _
      (Pool.ended?_eq_some ended) ?_).finds
    rcases last with rfl | rfl <;> simp
  refine ⟨moment, next, ran, moved, ?_⟩
  rcases closes with missing | ⟨rfl, ride, notCompleted, only⟩ | ⟨earlier, completes⟩
  · rw [noted, noteOf_eq_foldr, missing] at stored
    exact absurd rfl stored
  · rcases message with other | ⟨_, found, completed, learns⟩
    · cases other
    · rw [only, List.mem_singleton] at learns
      cases learns
      exact absurd completed notCompleted
  · obtain ⟨request, call, resume, reply, state, found, _, rfl⟩ :=
      (deployment P W).advance_eq_some (machine_next_of_next moved)
    simp only [told, if_true] at completes
    obtain ⟨newest, _⟩ := List.cons.inj completes
    cases newest
    simp [Deployment.streamMove, found, DeploymentCall.streamStep]

/-! ## Runs -/

theorem streamMoves_split {before after : List DeploymentEvent} {event : DeploymentEvent}
    {start middle next : DeploymentPool}
    (ranBefore : Deployment.run P W start before = some middle)
    (moved : Deployment.next P W middle event = some next) :
    Deployment.streamMoves P W start (before ++ event :: after) =
      Deployment.streamMoves P W start before ++
        ((Deployment.streamMove middle event).toList ++
          Deployment.streamMoves P W next after) := by
  induction before generalizing start with
  | nil =>
      cases ranBefore
      simp [Deployment.streamMoves, moved]
  | cons first before ih =>
      rw [Deployment.run, runSteps_cons, Option.bind_eq_some_iff] at ranBefore
      obtain ⟨second, movedFirst, rest⟩ := ranBefore
      simp only [List.cons_append, Deployment.streamMoves, movedFirst]
      rw [ih rest, List.append_assoc]

/-- Take any run of the process, and suppose that for each location stream of a ride that
its client has not left, a handler of the ride's last message has ended while the stream
held the ride's key: after the stream registered, before another stream of the ride did, and
before one that was running then ended.  Then tracking of the ride has ended. -/
theorem tracking_ends (unlocked : start.store.acceptLock = none)
    (silent : start.store.published = []) (fresh : start.board = EventStreams.empty)
    (ran : Deployment.run P W (Pool.start start) events = some pool)
    (handled : ∀ index stream, pool.world.state.board.streams[index]? = some stream →
      stream.key = rideId →
        .disconnects index ∉ Deployment.streamMoves P W (Pool.start start) events →
          ∃ before pid after, events = before ++ .step pid :: after ∧
            HandlesLast P W start rideId before pid ∧
            InTurn (Deployment.streamMoves P W (Pool.start start) before) rideId index) :
    TrackingEnded (Deployment.streamMoves P W (Pool.start start) events) rideId
      pool.world.state.board := by
  intro index stream found sameRide stays
  obtain ⟨before, pid, after, rfl, handles, inTurn⟩ := handled index stream found sameRide stays
  obtain ⟨moment, next, ranBefore, moved, completes⟩ :=
    completes_of_handlesLast unlocked silent handles
  have board := board_of_run ran
  change runSteps _ start.board _ = _ at board
  rw [fresh, streamMoves_split ranBefore moved, completes] at board
  exact released_of_inTurn inTurn board

namespace SmallCity

/-- Eve accepts the ride of ann, who opens its location stream. -/
def annTracks : List DeploymentEvent :=
  [.spawn (.inl (.goOnline "u4" centre centre))] ++ moves 0 5 ++
  [.spawn (.inl (wants "r1" "u1"))] ++ moves 1 8 ++
  [.spawn (.inl (.acceptRide "r1" "u4"))] ++ moves 2 9 ++
  [.spawn (.inr (.streamDriverLocation "r1" "u1"))] ++ moves 3 2

/-- She cancels the ride, and the handler of the cancellation has found the ride. -/
def annTracksOnce : List DeploymentEvent :=
  annTracks ++ [.spawn (.inl (.cancelRide "r1" "u1"))] ++ moves 4 6 ++
  [.spawn (.inr (.handle .rideCancelled "r1"))] ++ moves 5 1

/-- With its next step the handler ends. -/
theorem annTracksOnce_handlesLast :
    HandlesLast platform wiring (Deployment.opening store) "r1" annTracksOnce 5 := by
  obtain ⟨moment, played, checked⟩ := Option.map_eq_some_iff.mp
    (by decide +kernel : (playAll annTracksOnce).map (fun moment =>
      ((Deployment.next platform wiring moment (.step 5)).map fun next =>
        decide (next.ended? 5 = some (.inr (.handle .rideCancelled "r1"), .ok .noContent)))) =
      some (some true))
  obtain ⟨next, moved, ended⟩ := Option.map_eq_some_iff.mp checked
  exact ⟨moment, next, .rideCancelled, .noContent, played, moved, of_decide_eq_true ended,
    Or.inl rfl⟩

/-- Her one stream is still registered then. -/
theorem annTracksOnce_inTurn :
    EventStreams.InTurn (Deployment.streamMoves platform wiring
      (Pool.start (Deployment.opening store)) annTracksOnce) "r1" 0 := by
  have registers : Deployment.streamMoves platform wiring
      (Pool.start (Deployment.opening store)) annTracksOnce = [.opens "r1"] := by
    decide +kernel
  rw [registers]
  refine ⟨[], [], EventStreams.empty, _, rfl, rfl, rfl, List.not_mem_nil, rfl, ?_⟩
  rintro ⟨older, stream, wasRunning, _⟩
  simp [EventStreams.running, EventStreams.empty] at wasRunning

/-- The location stream that she has opened ends with the ride. -/
theorem annTracksOnce_ends :
    ∃ pool, playAll (annTracksOnce ++ [.step 5]) = some pool ∧
      pool.world.state.board.Released 0 := by
  obtain ⟨pool, played, checked⟩ := Option.map_eq_some_iff.mp
    (by decide +kernel : (playAll (annTracksOnce ++ [.step 5])).map (fun pool =>
      pool.world.state.board.streams.map EventStream.key) = some ["r1"])
  obtain ⟨stream, streams, keyEq⟩ := List.map_eq_singleton_iff.mp checked
  have stays : .disconnects 0 ∉ Deployment.streamMoves platform wiring
      (Pool.start (Deployment.opening store)) (annTracksOnce ++ [.step 5]) := by
    intro leaves
    have disconnects := disconnect_of_streamMoves leaves
    simp [annTracksOnce, annTracks, moves] at disconnects
  refine ⟨pool, played, tracking_ends rfl rfl rfl played ?_ 0 stream (by rw [streams]; rfl)
    keyEq stays⟩
  intro index stream found _ _
  obtain rfl : index = 0 := by
    have bound := (List.getElem?_eq_some_iff.mp found).1
    simpa [streams] using bound
  exact ⟨annTracksOnce, 5, [], rfl, annTracksOnce_handlesLast, annTracksOnce_inTurn⟩

/-- Before that she opens it once more, in a second window. -/
def annTracksTwice : List DeploymentEvent :=
  annTracks ++ [.spawn (.inr (.streamDriverLocation "r1" "u1"))] ++ moves 4 2 ++
  [.spawn (.inl (.cancelRide "r1" "u1"))] ++ moves 5 6 ++
  [.spawn (.inr (.handle .rideCancelled "r1"))] ++ moves 6 2

/-- The cancellation has been handled and no request is under way, but her first
stream waits forever. -/
theorem annTracksTwice_waits :
    ∃ pool, playAll annTracksTwice = some pool ∧ pool.Quiescent ∧
      pool.ended? 6 = some (.inr (.handle .rideCancelled "r1"), .ok .noContent) ∧
      ¬ TrackingEnded (Deployment.streamMoves platform wiring
        (Pool.start (Deployment.opening store)) annTracksTwice) "r1"
          pool.world.state.board := by
  obtain ⟨pool, played, checked⟩ := Option.map_eq_some_iff.mp
    (by decide +kernel : (playAll annTracksTwice).map (fun pool =>
      decide (pool.Quiescent ∧
        pool.ended? 6 = some (.inr (.handle .rideCancelled "r1"), .ok .noContent) ∧
        pool.world.state.board.streams[0]?.map (fun stream =>
          (stream.key, stream.queue, stream.closed)) = some ("r1", 0, false) ∧
        pool.world.state.board.registry.queues[0]? = some [])) = some true)
  obtain ⟨quiescent, handled, first, queue⟩ := of_decide_eq_true checked
  refine ⟨pool, played, quiescent, handled, fun ended => ?_⟩
  obtain ⟨stream, found, facts⟩ := Option.map_eq_some_iff.mp first
  obtain ⟨keyEq, queueEq, closedEq⟩ : stream.key = "r1" ∧ stream.queue = 0 ∧
      stream.closed = false := by simpa using facts
  have stays : .disconnects 0 ∉ Deployment.streamMoves platform wiring
      (Pool.start (Deployment.opening store)) annTracksTwice := by
    intro leaves
    have disconnects := disconnect_of_streamMoves leaves
    simp [annTracksTwice, annTracks, moves] at disconnects
  obtain ⟨other, foundOther, closed | waits⟩ := ended 0 stream found keyEq stays
  · rw [found] at foundOther
    cases foundOther
    rw [closedEq] at closed
    cases closed
  · rw [found] at foundOther
    cases foundOther
    rw [queueEq, queue] at waits
    cases waits

end SmallCity

end RideHailing
