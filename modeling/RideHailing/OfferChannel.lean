import RideHailing.DeploymentStreams
import RideHailing.Transcripts

/-!
# The channel of the offers

Between a handler and the listener an offer travels on the channel of its driver.  Redis
keeps it for the subscription of the listener, if there is one.  However the tasks of the
process interleave, and whenever the listener stops and starts, no offer is doubled or
overtaken on the way; and while the listener stays subscribed none is lost.
-/

namespace RideHailing

/-- The offer that a call publishes, if it succeeds. -/
def DeploymentCall.sends :
    (call : DeploymentCall) → Except Fault (DeploymentValue call) → Option (String × Payload)
  | .inr (.publishOffer driverId payload), .ok _ => some (driverId, payload)
  | _, _ => none

/-- The offer that the listener takes. -/
def Passing.forwards (deployment : Deployment) : Passing → Option (String × Payload)
  | .forwardOffer => deployment.offers.head?
  | _ => none

/-- The offers that the tasks have published, the first first. -/
def sentOffers (log : List (Entry DeploymentValue Fault (Request ⊕ Errand))) :
    List (String × Payload) :=
  gathered DeploymentCall.sends log

namespace Deployment

/-- The offer that is forwarded at an event of the process. -/
def forwards (pool : DeploymentPool) : DeploymentEvent → Option (String × Payload)
  | .ambient change => change.forwards pool.world.state
  | _ => none

/-- The offers that the listener forwards during a run, the first first. -/
def forwardedOffers (P : Platform) (W : Wiring) (pool : DeploymentPool)
    (events : List DeploymentEvent) : List (String × Payload) :=
  outputs (Deployment.next P W) Deployment.forwards pool events

/-- The listener is subscribed, and it is not stopped or cut off in these events. -/
def Subscribed (pool : DeploymentPool) (later : List DeploymentEvent) : Prop :=
  pool.world.state.listening = true ∧ .ambient .unsubscribe ∉ later

end Deployment

section Channel

variable {P : Platform} {W : Wiring} {start : Deployment}
variable {events : List DeploymentEvent} {pool pool' : DeploymentPool}

theorem sends_eq_some {call : DeploymentCall} {reply : Except Fault (DeploymentValue call)}
    {driverId : String} {payload : Payload}
    (sends : call.sends reply = some (driverId, payload)) :
    call = .inr (.publishOffer driverId payload) := by
  rcases call with call | call
  · cases sends
  · cases call with
    | publishOffer receiver published =>
        cases reply with
        | error fault => cases sends
        | ok value =>
            cases sends
            rfl
    | _ => cases sends

/-- A call puts the offer that it publishes behind those that wait, if the listener is
subscribed. -/
theorem offers_answer {pid : Nat} {broken : Option Fault} {d after : Deployment}
    {call : DeploymentCall} {reply : Except Fault (DeploymentValue call)}
    (answered : (deployment P W).answer pid broken call d = some (reply, after)) :
    after.listening = d.listening ∧
      after.offers = d.offers ++ if d.listening then (call.sends reply).toList else [] := by
  cases call with
  | inl call =>
      rcases answer_inl answered with ⟨_, _, _, rfl⟩ | ⟨_, _, _, _, rfl⟩ <;>
        simp [DeploymentCall.sends]
  | inr call =>
      rcases answer_inr answered with ⟨rfl, rfl⟩ | ⟨rfl, rfl⟩
      · cases call with
        | publishOffer driverId payload => exact ⟨rfl, rfl⟩
        | dispatchedExpire expiring seconds =>
            simp only [Wiring.perform, Deployment.dispatchedExpire]
            split <;> simp [DeploymentCall.sends]
        | _ =>
            simp [Wiring.perform, DeploymentCall.sends, Deployment.dispatchedAdd,
              Deployment.withBoard]
      · simp [DeploymentCall.sends]

/-- The listener takes the first of the offers that wait for it. -/
theorem offers_passing (d : Deployment) {change : Passing} (stays : change ≠ .unsubscribe) :
    d.offers = (change.forwards d).toList ++ (d.passing change).offers ∧
      (d.listening = true → (d.passing change).listening = true) := by
  have streams : ∀ step : StreamStep Payload, (d.streamStep step).offers = d.offers ∧
      (d.streamStep step).listening = d.listening := by
    intro step
    unfold Deployment.streamStep
    split <;> exact ⟨rfl, rfl⟩
  cases change with
  | elapse milliseconds => exact ⟨rfl, id⟩
  | subscribe => exact ⟨rfl, fun _ => rfl⟩
  | forwardOffer =>
      simp only [Passing.forwards, Deployment.passing, Deployment.forwardOffer]
      split
      · rename_i empty
        simp [empty]
      · rename_i driverId payload rest waiting
        simp [waiting]
  | unsubscribe => exact absurd rfl stays
  | take stream =>
      obtain ⟨same, listens⟩ := streams (.takes stream)
      exact ⟨same.symm, fun before => listens.trans before⟩
  | disconnect stream =>
      obtain ⟨same, listens⟩ := streams (.disconnects stream)
      exact ⟨same.symm, fun before => listens.trans before⟩

/-- What an event that publishes these offers does to the channel. -/
structure ChannelStep (pool : DeploymentPool) (event : DeploymentEvent) (pool' : DeploymentPool)
    (sent : List (String × Payload)) : Prop where
  sends : sentOffers pool'.world.log = sentOffers pool.world.log ++ sent
  within : ((Deployment.forwards pool event).toList ++ pool'.world.state.offers).Sublist
    (pool.world.state.offers ++ sent)
  whole : Deployment.Subscribed pool [event] → pool'.world.state.listening = true ∧
    pool.world.state.offers ++ sent =
      (Deployment.forwards pool event).toList ++ pool'.world.state.offers

/-- One event of the process on the channel. -/
theorem channel_next {event : DeploymentEvent}
    (moved : Deployment.next P W pool event = some pool') :
    ∃ sent, ChannelStep pool event pool' sent := by
  have machineMoved := machine_next_of_next moved
  have advances : ∀ {pid : Nat} {broken : Option Fault},
      (deployment P W).advance pool pid broken = some pool' →
        Deployment.forwards pool event = none → ∃ sent, ChannelStep pool event pool' sent := by
    intro pid broken advanced none
    obtain ⟨request, call, resume, reply, state, _, answered, rfl⟩ :=
      (deployment P W).advance_eq_some advanced
    obtain ⟨listens, offers⟩ := offers_answer answered
    refine ⟨(call.sends reply).toList, rfl, ?_, ?_⟩
    · rw [none, offers]
      apply List.Sublist.append_left
      cases listens : pool.world.state.listening <;> simp
    · rintro ⟨subscribed, _⟩
      refine ⟨listens.trans subscribed, ?_⟩
      rw [none, offers, if_pos subscribed]
      rfl
  cases event with
  | spawn request =>
      obtain rfl := (deployment P W).next_spawn machineMoved
      refine ⟨[], (List.append_nil _).symm, ?_, fun subscribed => ⟨subscribed.1, ?_⟩⟩
      · rw [List.append_nil]
        exact List.Sublist.refl _
      · exact List.append_nil _
  | step pid => exact advances machineMoved rfl
  | fault pid fault => exact advances machineMoved rfl
  | ambient change =>
      obtain rfl := Option.some.inj machineMoved
      refine ⟨[], (List.append_nil _).symm, ?_, ?_⟩
      · rw [List.append_nil]
        by_cases stays : change = .unsubscribe
        · subst stays
          exact List.nil_sublist _
        · rw [(offers_passing pool.world.state stays).1]
          exact List.Sublist.refl _
      · rintro ⟨subscribed, unbroken⟩
        have stays : change ≠ .unsubscribe := by
          rintro rfl
          exact unbroken List.mem_cons_self
        obtain ⟨offers, listens⟩ := offers_passing pool.world.state stays
        exact ⟨listens subscribed, (List.append_nil _).trans offers⟩

/-- Nothing is doubled on the channel, nothing is overtaken and nothing is made up. -/
theorem offers_of_run (ran : Deployment.run P W (Pool.start start) events = some pool) :
    (Deployment.forwardedOffers P W (Pool.start start) events ++
      pool.world.state.offers).Sublist (start.offers ++ sentOffers pool.world.log) := by
  apply runSteps_along ?_ ?_ ran
  · simp [Pool.start, sentOffers, gathered, Deployment.forwardedOffers, outputs]
  · intro before middle event next ranBefore moved earlier
    obtain ⟨sent, step⟩ := channel_next moved
    have forwarded : Deployment.forwardedOffers P W (Pool.start start) (before ++ [event]) =
        Deployment.forwardedOffers P W (Pool.start start) before ++
          (Deployment.forwards middle event).toList := outputs_snoc ranBefore moved
    rw [forwarded, step.sends, List.append_assoc, ← List.append_assoc start.offers]
    apply (step.within.append_left _).trans
    rw [← List.append_assoc]
    exact earlier.append_right sent

/-- While the listener stays subscribed, nothing is lost. -/
theorem offers_kept {later : List DeploymentEvent} {final : DeploymentPool}
    (subscribed : Deployment.Subscribed pool later)
    (ran : Deployment.run P W pool later = some final) :
    ∃ sent, sentOffers final.world.log = sentOffers pool.world.log ++ sent ∧
      pool.world.state.offers ++ sent =
        Deployment.forwardedOffers P W pool later ++ final.world.state.offers := by
  induction later generalizing pool with
  | nil =>
      cases ran
      exact ⟨[], (List.append_nil _).symm, List.append_nil _⟩
  | cons event later ih =>
      rw [Deployment.run, runSteps_cons, Option.bind_eq_some_iff] at ran
      obtain ⟨next, moved, rest⟩ := ran
      obtain ⟨listens, unbroken⟩ := subscribed
      rw [List.mem_cons, not_or] at unbroken
      obtain ⟨sent, step⟩ := channel_next moved
      obtain ⟨listensNext, offers⟩ := step.whole ⟨listens, by simpa using unbroken.1⟩
      obtain ⟨more, sentLater, offersLater⟩ := ih ⟨listensNext, unbroken.2⟩ rest
      refine ⟨sent ++ more, ?_, ?_⟩
      · rw [sentLater, step.sends, List.append_assoc]
      · simp only [Deployment.forwardedOffers, outputs, moved]
        rw [← List.append_assoc, offers, List.append_assoc, offersLater, List.append_assoc]
        rfl

end Channel

end RideHailing
