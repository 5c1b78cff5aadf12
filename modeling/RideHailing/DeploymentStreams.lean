import RideHailing.LiveStreams
import RideHailing.RideOffers

/-!
# The event streams of the process

Whatever the process does, its event streams make at most one step: a call emits an
event, completes a key or opens a stream; the listener emits the offer that it
forwards; a stream takes an item or loses its client.
-/

namespace RideHailing

/-- The step of the event streams that a call is. -/
def DeploymentCall.streamStep : DeploymentCall → Option (StreamStep Payload)
  | .inl (.sseEmit key event payload) => some (.emits key event payload)
  | .inl (.sseComplete key) => some (.completes key)
  | .inr (.openStream key) => some (.opens key)
  | _ => none

/-- The step of the event streams that happens on its own. -/
def Passing.streamStep (deployment : Deployment) : Passing → Option (StreamStep Payload)
  | .elapse _ => none
  | .subscribe => none
  | .forwardOffer => deployment.offers.head?.map fun (driverId, payload) =>
      .emits driverId "ride_offer" payload
  | .unsubscribe => none
  | .take stream => some (.takes stream)
  | .disconnect stream => some (.disconnects stream)

/-- The event streams are as before, or they have made this step. -/
def EventStreams.Moves (before : EventStreams Payload) (step : Option (StreamStep Payload))
    (after : EventStreams Payload) : Prop :=
  after = before ∨ ∃ action, step = some action ∧ before.step action = some after

section Moves

variable {P : Platform} {W : Wiring} {pid : Nat} {broken : Option Fault}
variable {d after : Deployment} {call : DeploymentCall}
variable {reply : Except Fault (DeploymentValue call)}

theorem answer_moves (answered : (deployment P W).answer pid broken call d = some (reply, after)) :
    d.board.Moves call.streamStep after.board := by
  cases call with
  | inl call =>
      rcases answer_inl answered with ⟨storeAfter, _, performed, rfl⟩ | ⟨_, _, _, _, rfl⟩
      · cases outward : call.outward with
        | false =>
            left
            change (⟨storeAfter.sse, d.streams⟩ : EventStreams Payload) = d.board
            rw [(aside_of_inward outward performed).1]
            rfl
        | true =>
            cases call with
            | publish topic rideId =>
                cases performed
                exact Or.inl rfl
            | sseEmit key event payload =>
                cases performed
                exact Or.inr ⟨_, rfl, rfl⟩
            | sseComplete key =>
                cases performed
                exact Or.inr ⟨_, rfl, rfl⟩
            | _ => cases outward
      · exact Or.inl rfl
  | inr call =>
      rcases answer_inr answered with ⟨_, rfl⟩ | ⟨_, rfl⟩
      · cases call with
        | openStream key => exact Or.inr ⟨_, rfl, rfl⟩
        | dispatchedExpire rideId seconds =>
            left
            simp only [Wiring.perform, Deployment.dispatchedExpire]
            split <;> rfl
        | _ => exact Or.inl rfl
      · exact Or.inl rfl

theorem streamStep_moves (step : StreamStep Payload) :
    d.board.Moves (some step) (d.streamStep step).board := by
  unfold Deployment.streamStep
  split
  · exact Or.inl rfl
  · rename_i board moved
    exact Or.inr ⟨step, rfl, moved⟩

theorem passing_moves (change : Passing) :
    d.board.Moves (change.streamStep d) (d.passing change).board := by
  cases change with
  | forwardOffer =>
      simp only [Deployment.passing, Deployment.forwardOffer, Passing.streamStep]
      split
      · exact Or.inl rfl
      · rename_i driverId payload rest offers
        exact Or.inr ⟨.emits driverId "ride_offer" payload, by rw [offers]; rfl, rfl⟩
  | take stream => exact streamStep_moves _
  | disconnect stream => exact streamStep_moves _
  | _ => exact Or.inl rfl

theorem EventStreams.Moves.aligned {before after : EventStreams Payload}
    {step : Option (StreamStep Payload)} (moves : before.Moves step after)
    (aligned : before.Aligned) : after.Aligned := by
  rcases moves with rfl | ⟨_, _, moved⟩
  · exact aligned
  · exact aligned.step moved

end Moves

theorem stream_kept_of_moves {before after : EventStreams Payload}
    {step : Option (StreamStep Payload)} {index : Nat} {stream : EventStream Payload}
    (moves : before.Moves step after) (found : before.streams[index]? = some stream) :
    ∃ later, after.streams[index]? = some later ∧ later.key = stream.key := by
  rcases moves with rfl | ⟨action, _, moved⟩
  · exact ⟨stream, found, rfl⟩
  · obtain ⟨later, foundLater, keyEq, _⟩ := EventStreams.stream_kept moved found
    exact ⟨later, foundLater, keyEq⟩

/-- One event of the process moves its event streams by one step at most. -/
theorem next_moves {P : Platform} {W : Wiring} {pool pool' : DeploymentPool}
    {event : DeploymentEvent} (moved : Deployment.next P W pool event = some pool') :
    ∃ step, pool.world.state.board.Moves step pool'.world.state.board := by
  rcases (deployment P W).next_cases (machine_next_of_next moved) with
    ⟨_, _, rfl⟩ | ⟨pid, broken, advanced⟩ | ⟨change, _, rfl⟩
  · exact ⟨none, Or.inl rfl⟩
  · obtain ⟨_, call, _, _, _, _, answered, rfl⟩ := (deployment P W).advance_eq_some advanced
    exact ⟨_, answer_moves answered⟩
  · exact ⟨_, passing_moves change⟩

theorem Deployment.aligned_of_run {P : Platform} {W : Wiring} {pool final : DeploymentPool}
    {events : List DeploymentEvent} (ran : Deployment.run P W pool events = some final)
    (aligned : pool.world.state.board.Aligned) : final.world.state.board.Aligned := by
  apply runSteps_invariant ?_ ?_ ran
  · intro before event next alignedBefore moved
    obtain ⟨step, moves⟩ := next_moves moved
    exact moves.aligned alignedBefore
  · exact aligned

/-! ## The steps of the event streams in a run -/

/-- The step that the event streams make at an event of the process. -/
def Deployment.streamMove (pool : DeploymentPool) :
    DeploymentEvent → Option (StreamStep Payload)
  | .spawn _ => none
  | .step pid => pool.tasks[pid]?.bind fun task =>
      match task.rest with
      | .done _ => none
      | .await call _ => call.streamStep
  | .fault _ _ => none
  | .ambient change => (change.streamStep pool.world.state).filter fun step =>
      (pool.world.state.board.step step).isSome

/-- The steps that the event streams make during a run. -/
def Deployment.streamMoves (P : Platform) (W : Wiring) (pool : DeploymentPool) :
    List DeploymentEvent → List (StreamStep Payload)
  | [] => []
  | event :: events =>
      match Deployment.next P W pool event with
      | none => []
      | some next =>
          (Deployment.streamMove pool event).toList ++ Deployment.streamMoves P W next events

section Runs

variable {P : Platform} {W : Wiring} {pool pool' : DeploymentPool}

theorem answer_board {pid : Nat} {call : DeploymentCall} {d after : Deployment}
    {reply : Except Fault (DeploymentValue call)}
    (answered : (deployment P W).answer pid none call d = some (reply, after)) :
    runSteps EventStreams.step d.board call.streamStep.toList = some after.board := by
  rcases answer_moves answered with same | ⟨action, stepEq, moved⟩
  · cases stepEq : call.streamStep with
    | none =>
        rw [same]
        rfl
    | some action =>
        cases call with
        | inl call =>
            cases call with
            | sseEmit key event payload =>
                cases stepEq
                cases answered
                rfl
            | sseComplete key =>
                cases stepEq
                cases answered
                rfl
            | _ => cases stepEq
        | inr call =>
            cases call with
            | openStream key =>
                cases stepEq
                cases answered
                rfl
            | _ => cases stepEq
  · rw [stepEq]
    simp [runSteps, moved]

theorem streamStep_board (d : Deployment) (step : StreamStep Payload) :
    runSteps EventStreams.step d.board
        (Option.filter (fun step => (d.board.step step).isSome) (some step)).toList =
      some (d.streamStep step).board := by
  unfold Deployment.streamStep
  cases moved : d.board.step step with
  | none => simp [Option.filter, moved, runSteps]
  | some board =>
      simp only [Option.filter, moved, Option.isSome_some, if_true, Option.toList_some,
        runSteps_cons, Option.bind_some]
      rfl

theorem passing_board (d : Deployment) (change : Passing) :
    runSteps EventStreams.step d.board
        ((change.streamStep d).filter fun step => (d.board.step step).isSome).toList =
      some (d.passing change).board := by
  cases change with
  | forwardOffer =>
      simp only [Deployment.passing, Deployment.forwardOffer, Passing.streamStep]
      split
      · rename_i empty
        rw [empty]
        rfl
      · rename_i driverId payload rest offers
        rw [offers]
        rfl
  | take stream => exact streamStep_board d (.takes stream)
  | disconnect stream => exact streamStep_board d (.disconnects stream)
  | _ => rfl

theorem next_board {event : DeploymentEvent}
    (moved : Deployment.next P W pool event = some pool') :
    runSteps EventStreams.step pool.world.state.board
      (Deployment.streamMove pool event).toList = some pool'.world.state.board := by
  have machineMoved := machine_next_of_next moved
  cases event with
  | spawn request =>
      obtain rfl := (deployment P W).next_spawn machineMoved
      rfl
  | step pid =>
      obtain ⟨_, _, _, _, _, found, answered, rfl⟩ :=
        (deployment P W).advance_eq_some machineMoved
      have steps := answer_board answered
      simpa [Deployment.streamMove, found] using steps
  | fault pid fault =>
      obtain ⟨_, _, _, _, _, _, answered, rfl⟩ :=
        (deployment P W).advance_eq_some machineMoved
      obtain ⟨_, _, rfl⟩ := Machine.answer_broken answered
      rfl
  | ambient change =>
      cases machineMoved
      exact passing_board pool.world.state change

/-- The event streams of the process make these steps and no others. -/
theorem board_of_run {events : List DeploymentEvent} {final : DeploymentPool}
    (ran : Deployment.run P W pool events = some final) :
    runSteps EventStreams.step pool.world.state.board
      (Deployment.streamMoves P W pool events) = some final.world.state.board := by
  induction events generalizing pool with
  | nil =>
      cases ran
      rfl
  | cons event events ih =>
      rw [Deployment.run, runSteps_cons, Option.bind_eq_some_iff] at ran
      obtain ⟨next, moved, rest⟩ := ran
      rw [Deployment.streamMoves, moved]
      simp only
      rw [runSteps_append, next_board moved]
      exact ih rest

/-- A stream disconnects when its client does. -/
theorem disconnect_of_streamMove {event : DeploymentEvent} {index : Nat}
    (leaves : Deployment.streamMove pool event = some (.disconnects index)) :
    event = .ambient (.disconnect index) := by
  cases event with
  | spawn request => cases leaves
  | fault pid fault => cases leaves
  | step pid =>
      obtain ⟨⟨request, rest⟩, _, calls⟩ := Option.bind_eq_some_iff.mp leaves
      cases rest with
      | done outcome => cases calls
      | await call resume =>
          cases call with
          | inl call => cases call <;> cases calls
          | inr call => cases call <;> cases calls
  | ambient change =>
      have moves := (Option.filter_eq_some_iff.mp leaves).1
      cases change with
      | forwardOffer =>
          obtain ⟨offer, _, emits⟩ := Option.map_eq_some_iff.mp moves
          cases emits
      | disconnect stream =>
          cases moves
          rfl
      | _ => cases moves

theorem disconnect_of_streamMoves {events : List DeploymentEvent} {index : Nat}
    (leaves : .disconnects index ∈ Deployment.streamMoves P W pool events) :
    .ambient (.disconnect index) ∈ events := by
  induction events generalizing pool with
  | nil => cases leaves
  | cons event events ih =>
      simp only [Deployment.streamMoves] at leaves
      split at leaves
      · cases leaves
      · rcases List.mem_append.mp leaves with here | later
        · rw [disconnect_of_streamMove (Option.mem_toList.mp here)]
          exact List.mem_cons_self
        · exact List.mem_cons_of_mem event (ih later)

end Runs

end RideHailing
