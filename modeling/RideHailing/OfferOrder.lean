import RideHailing.DeploymentStreams

/-!
# Offers and their withdrawals on one queue

An offer reaches a driver's queue through Redis and the listener, its withdrawal
directly.  When a withdrawal is emitted the ride is gone, so no further offer of it is
published; but those that wait for the listener are still to be forwarded, and they
come after the withdrawal.
-/

namespace RideHailing

variable {P : Platform} {W : Wiring} {init : Store} {rideId driverId : String}
variable {pool pool' : DeploymentPool} {guest : ApplicationPool}

/-- The offers of the ride that the listener is still to forward to the driver. -/
def Deployment.waitingOffers (deployment : Deployment) (driverId rideId : String) :
    List Payload :=
  (deployment.offers.filter fun offer =>
    decide (offer.1 = driverId ∧ offer.2.offers = some rideId)).map Prod.snd

/-- The offers of the ride that a stream has yielded or that wait in its queue. -/
def EventStreams.offersOn (board : EventStreams Payload) (index : Nat) (rideId : String) :
    List Payload :=
  ((board.events index).map Prod.snd).filter fun payload =>
    decide (payload.offers = some rideId)

/-- The call tells the driver that the offer of the ride is withdrawn. -/
def DeploymentCall.withdraws (driverId rideId : String) : DeploymentCall → Bool
  | .inl (.sseEmit key event payload) =>
      decide (key = driverId ∧ event = "offer_cancelled" ∧ payload.withdraws = some rideId)
  | _ => false

theorem withdraws_eq_true {call : DeploymentCall}
    (withdraws : call.withdraws driverId rideId = true) :
    ∃ payload, call = .inl (.sseEmit driverId "offer_cancelled" payload) ∧
      payload.withdraws = some rideId := by
  cases call with
  | inl call =>
      cases call with
      | sseEmit key event payload =>
          obtain ⟨rfl, rfl, gone⟩ := of_decide_eq_true withdraws
          exact ⟨payload, rfl, gone⟩
      | _ => cases withdraws
  | inr call => cases withdraws

/-! ## One step of the event streams -/

section Board

variable {before after : EventStreams Payload} {step : Option (StreamStep Payload)}

theorem offersOn_moves (aligned : before.Aligned) (moves : before.Moves step after)
    (index : Nat) :
    after.offersOn index rideId = before.offersOn index rideId ∨
      ∃ key event payload, step = some (.emits key event payload) ∧
        payload.offers = some rideId ∧ before.registry.emitterOf key = some index ∧
          after.offersOn index rideId = before.offersOn index rideId ++ [payload] := by
  rcases moves with rfl | ⟨action, rfl, moved⟩
  · exact Or.inl rfl
  · rcases EventStreams.events_step aligned moved index with same |
      ⟨key, event, payload, rfl, refers, added⟩
    · left
      rw [EventStreams.offersOn, same]
      rfl
    · have appended : after.offersOn index rideId = before.offersOn index rideId ++
          [payload].filter fun payload => decide (payload.offers = some rideId) := by
        rw [EventStreams.offersOn, added, List.map_append, List.filter_append]
        rfl
      by_cases offers : payload.offers = some rideId
      · right
        refine ⟨key, event, payload, rfl, offers, refers, ?_⟩
        rw [appended, List.filter_singleton]
        simp [offers]
      · left
        rw [appended, List.filter_singleton]
        simp [offers]

end Board

/-! ## What is still to come after a withdrawal -/

/-- Since then some of the driver's offers of the ride have been forwarded, or lost with the
subscription, and the queues of the driver's streams got no other. -/
structure Lagging (driverId rideId : String) (before after : Deployment) : Prop where
  aligned : after.board.Aligned
  forwards : ∃ forwarded,
    before.waitingOffers driverId rideId =
        forwarded ++ after.waitingOffers driverId rideId ∧
      ∀ index, (∀ stream, after.board.streams[index]? = some stream →
          stream.key = driverId) →
        ∃ enqueued, enqueued.Sublist forwarded ∧
          after.board.offersOn index rideId =
            before.board.offersOn index rideId ++ enqueued

section Lagging

variable {before middle after : Deployment} {move : Option (StreamStep Payload)}

theorem lagging_refl (aligned : before.board.Aligned) :
    Lagging driverId rideId before before := by
  refine ⟨aligned, [], rfl, fun index _ => ⟨[], List.Sublist.refl [], ?_⟩⟩
  rw [List.append_nil]

/-- Such a step enqueues what it takes from the waiting offers, or nothing. -/
theorem Lagging.step (lagging : Lagging driverId rideId before middle)
    (moves : middle.board.Moves move after.board) {taken : List Payload}
    (waits : middle.waitingOffers driverId rideId =
      taken ++ after.waitingOffers driverId rideId)
    (emits : ∀ event payload, move = some (.emits driverId event payload) →
      payload.offers = some rideId → taken = [payload]) :
    Lagging driverId rideId before after := by
  obtain ⟨aligned, forwarded, waiting, enqueues⟩ := lagging
  refine ⟨moves.aligned aligned, forwarded ++ taken, ?_, ?_⟩
  · rw [waiting, waits, List.append_assoc]
  · intro index ofDriver
    have ofDriverBefore : ∀ stream, middle.board.streams[index]? = some stream →
        stream.key = driverId := by
      intro stream found
      obtain ⟨later, foundLater, keyEq⟩ := stream_kept_of_moves moves found
      rw [← keyEq]
      exact ofDriver later foundLater
    obtain ⟨enqueued, part, offersEq⟩ := enqueues index ofDriverBefore
    rcases offersOn_moves aligned moves index with same |
      ⟨key, event, payload, stepEq, offers, refers, added⟩
    · refine ⟨enqueued, part.trans (List.sublist_append_left forwarded taken), ?_⟩
      rw [same, offersEq]
    · obtain ⟨owner, found, ownerKey⟩ := aligned.ownStream refers
      obtain rfl : key = driverId := ownerKey.symm.trans (ofDriverBefore owner found)
      obtain rfl := emits event payload stepEq offers
      refine ⟨enqueued ++ [payload], part.append (List.Sublist.refl _), ?_⟩
      rw [added, offersEq, List.append_assoc]

/-- Such a step enqueues nothing. -/
theorem Lagging.unoffered (lagging : Lagging driverId rideId before middle)
    (moves : middle.board.Moves move after.board)
    (sameWaiting : after.waitingOffers driverId rideId =
      middle.waitingOffers driverId rideId)
    (quiet : ∀ event payload, move = some (.emits driverId event payload) →
      payload.offers ≠ some rideId) : Lagging driverId rideId before after := by
  have waits : middle.waitingOffers driverId rideId =
      [] ++ after.waitingOffers driverId rideId := sameWaiting.symm
  apply lagging.step moves waits
  intro event payload same offers
  exact absurd offers (quiet event payload same)

/-- The listener takes the first offer. -/
theorem Lagging.forward (lagging : Lagging driverId rideId before middle) :
    Lagging driverId rideId before middle.forwardOffer := by
  have moves := @passing_moves middle .forwardOffer
  cases offersEq : middle.offers with
  | nil =>
      have still : middle.forwardOffer = middle := by
        simp [Deployment.forwardOffer, offersEq]
      rwa [still]
  | cons offer rest =>
      obtain ⟨receiver, payload⟩ := offer
      have restEq : middle.forwardOffer.offers = rest := by
        simp [Deployment.forwardOffer, offersEq]
      have stepEq : Passing.streamStep middle .forwardOffer =
          some (.emits receiver "ride_offer" payload) := by
        simp [Passing.streamStep, offersEq]
      rw [stepEq] at moves
      by_cases ours : receiver = driverId ∧ payload.offers = some rideId
      · have waits : middle.waitingOffers driverId rideId =
            [payload] ++ middle.forwardOffer.waitingOffers driverId rideId := by
          simp [Deployment.waitingOffers, offersEq, restEq, ours]
        apply lagging.step moves waits
        rintro event other same _
        cases same
        rfl
      · have waits : middle.waitingOffers driverId rideId =
            [] ++ middle.forwardOffer.waitingOffers driverId rideId := by
          simp [Deployment.waitingOffers, offersEq, restEq, ours]
        apply lagging.step moves waits
        rintro event other same offers
        cases same
        exact absurd ⟨rfl, offers⟩ ours

theorem Lagging.passing (lagging : Lagging driverId rideId before middle)
    (change : Passing) : Lagging driverId rideId before (middle.passing change) := by
  have still : ∀ step : StreamStep Payload,
      (middle.streamStep step).waitingOffers driverId rideId =
        middle.waitingOffers driverId rideId := by
    intro step
    unfold Deployment.streamStep
    split <;> rfl
  cases change with
  | elapse milliseconds =>
      exact lagging.unoffered (passing_moves (.elapse milliseconds)) rfl
        (by simp [Passing.streamStep])
  | subscribe =>
      exact lagging.unoffered (passing_moves .subscribe) rfl (by simp [Passing.streamStep])
  | forwardOffer => exact lagging.forward
  | unsubscribe =>
      have waits : middle.waitingOffers driverId rideId =
          middle.waitingOffers driverId rideId ++
            middle.unsubscribe.waitingOffers driverId rideId := by
        simp [Deployment.waitingOffers, Deployment.unsubscribe]
      apply lagging.step (passing_moves .unsubscribe) waits
      simp [Passing.streamStep]
  | take stream =>
      exact lagging.unoffered (passing_moves (.take stream)) (still (.takes stream))
        (by simp [Passing.streamStep])
  | disconnect stream =>
      exact lagging.unoffered (passing_moves (.disconnect stream))
        (still (.disconnects stream)) (by simp [Passing.streamStep])

/-- Only a handler publishes an offer. -/
theorem waitingOffers_answer {pid : Nat} {broken : Option Fault} {call : DeploymentCall}
    {reply : Except Fault (DeploymentValue call)}
    (answered : (deployment P W).answer pid broken call middle = some (reply, after))
    (unoffered : ¬ OffersRide rideId call) :
    after.waitingOffers driverId rideId = middle.waitingOffers driverId rideId := by
  cases call with
  | inl call =>
      rcases answer_inl answered with ⟨_, _, _, rfl⟩ | ⟨_, _, _, _, rfl⟩ <;> rfl
  | inr call =>
      rcases answer_inr answered with ⟨_, rfl⟩ | ⟨_, rfl⟩
      · cases call with
        | publishOffer receiver payload =>
            have other : payload.offers ≠ some rideId := unoffered
            simp only [Wiring.perform, Deployment.waitingOffers, Deployment.publishOffer]
            split <;> simp [other]
        | dispatchedExpire expiring seconds =>
            simp only [Wiring.perform, Deployment.dispatchedExpire]
            split <;> rfl
        | _ => rfl
      · rfl

end Lagging

/-- An event that a task emits is no offer. -/
theorem Dutiful.emits_no_offer (dutiful : Dutiful pool) (inside : Inside P W init pool guest)
    {pid : Nat} {request : Request ⊕ Errand} {key event : String} {payload : Payload}
    {resume : Except Fault Unit →
      AwaitProgram DeploymentCall (fun call => Except Fault (DeploymentValue call)) Outcome}
    (found : pool.tasks[pid]? =
      some ⟨request, .await (.inl (.sseEmit key event payload)) resume⟩) :
    payload.offers = none := by
  by_contra offers
  have deals : offering (.inl (.sseEmit key event payload)) = true := by
    rw [offering, Option.isSome_iff_ne_none.mpr offers, Bool.true_or]
  obtain ⟨_, _, _, allowed⟩ := dutiful.handler_of_offering inside found deals
  exact offers allowed.1

/-- In the calm the queues get waiting offers only. -/
theorem Lagging.next {before : Deployment} {event : DeploymentEvent}
    (lagging : Lagging driverId rideId before pool.world.state) (calm : Calm rideId pool)
    (inside : Inside P W init pool guest) (dutiful : Dutiful pool)
    (moved : Deployment.next P W pool event = some pool') :
    Lagging driverId rideId before pool'.world.state := by
  rcases (deployment P W).next_cases (machine_next_of_next moved) with
    ⟨_, _, rfl⟩ | ⟨pid, broken, advanced⟩ | ⟨change, _, rfl⟩
  · exact lagging
  · obtain ⟨request, call, resume, reply, state, found, answered, rfl⟩ :=
      (deployment P W).advance_eq_some advanced
    apply lagging.unoffered (answer_moves answered)
    · exact waitingOffers_answer answered (calm.no_offer inside dutiful found)
    · intro name payload same offers
      obtain ⟨key, rfl⟩ | other := em (∃ key, call = .inl (.sseEmit key name payload))
      · rw [dutiful.emits_no_offer inside found] at offers
        cases offers
      · cases call with
        | inl call =>
            cases call with
            | sseEmit key event emitted =>
                cases same
                exact other ⟨_, rfl⟩
            | _ => cases same
        | inr call => cases call <;> cases same
  · exact lagging.passing change

/-! ## Runs -/

section Runs

variable {start : Deployment} {events later : List DeploymentEvent}
variable {next final : DeploymentPool}

theorem lagging_of_run (unlocked : start.store.acceptLock = none)
    (aligned : pool.world.state.board.Aligned) (calm : Calm rideId pool)
    (ran : Deployment.run P W (Pool.start start) events = some pool)
    (ranLater : Deployment.run P W pool later = some final) :
    Lagging driverId rideId pool.world.state final.world.state := by
  have kept : Calm rideId final ∧
      Lagging driverId rideId pool.world.state final.world.state := by
    apply runSteps_reached ?_ ?_ ranLater
    · exact ⟨calm, lagging_refl aligned⟩
    · rintro before middle event next ranBefore moved ⟨calm, lagging⟩
      have ranMiddle := (Deployment.run_split ran).mpr ranBefore
      obtain ⟨guest, inside⟩ := inside_of_run ranMiddle
      have dutiful := dutiful_of_run ranMiddle
      exact ⟨calm.next unlocked inside dutiful moved,
        lagging.next calm inside dutiful moved⟩
  exact kept.2

/-- Whoever emits a withdrawal handles that the ride was accepted. -/
theorem calm_of_withdrawal (unlocked : start.store.acceptLock = none)
    (silent : start.store.published = [])
    (ran : Deployment.run P W (Pool.start start) events = some pool)
    {pid : Nat} {request : Request ⊕ Errand} {key event : String} {payload : Payload}
    {resume : Except Fault Unit →
      AwaitProgram DeploymentCall (fun call => Except Fault (DeploymentValue call)) Outcome}
    (found : pool.tasks[pid]? =
      some ⟨request, .await (.inl (.sseEmit key event payload)) resume⟩)
    (withdraws : payload.withdraws = some rideId) : Calm rideId pool := by
  obtain ⟨guest, inside⟩ := inside_of_run ran
  have deals : offering (.inl (.sseEmit key event payload)) = true := by
    rw [offering, withdraws, Option.isSome_some, Bool.or_true]
  obtain ⟨topic, handled, rfl, allowed⟩ :=
    (dutiful_of_run ran).handler_of_offering inside found deals
  obtain ⟨rfl, same, _⟩ := allowed.2 rideId withdraws
  subst same
  have attends := attentive_of_run unlocked silent ran pid .rideAccepted rideId _ found
    (by decide)
  exact attends.calm

/-- Take a step at which a task emits that the offer of a ride is withdrawn, and any
later state.  No further offer of the ride to the driver has been published: those
that wait for the listener waited already when the withdrawal was emitted, and
whatever offer of the ride a queue of the driver got since then is one of those that
no longer wait, forwarded late. -/
theorem only_late_offers_follow (unlocked : start.store.acceptLock = none)
    (silent : start.store.published = []) (aligned : start.board.Aligned)
    (ran : Deployment.run P W (Pool.start start) events = some pool)
    {event : DeploymentEvent} (moved : Deployment.next P W pool event = some next)
    {entry : Entry DeploymentValue Fault (Request ⊕ Errand)}
    (logged : next.world.log = entry :: pool.world.log)
    (withdraws : entry.call.withdraws driverId rideId = true)
    (ranLater : Deployment.run P W next later = some final) :
    ∃ forwarded,
      pool.world.state.waitingOffers driverId rideId =
          forwarded ++ final.world.state.waitingOffers driverId rideId ∧
        ∀ index stream, final.world.state.board.streams[index]? = some stream →
          stream.key = driverId →
            ∃ late, late.Sublist forwarded ∧
              final.world.state.board.offersOn index rideId =
                pool.world.state.board.offersOn index rideId ++ late := by
  have calm : Calm rideId pool := by
    rcases (deployment P W).next_cases (machine_next_of_next moved) with
      ⟨_, _, rfl⟩ | ⟨actor, broken, advanced⟩ | ⟨change, _, rfl⟩
    · exact absurd logged (by simp)
    · obtain ⟨_, call, resume, _, state, found, _, rfl⟩ :=
        (deployment P W).advance_eq_some advanced
      obtain rfl := (List.cons.inj logged).1
      obtain ⟨payload, rfl, gone⟩ := withdraws_eq_true withdraws
      exact calm_of_withdrawal unlocked silent ran found gone
    · exact absurd logged (by simp)
  have ranAll : Deployment.run P W pool (event :: later) = some final := by
    rw [Deployment.run, runSteps_cons, moved]
    exact ranLater
  have lagging : Lagging driverId rideId pool.world.state final.world.state :=
    lagging_of_run unlocked (Deployment.aligned_of_run ran aligned) calm ran ranAll
  obtain ⟨forwarded, waiting, enqueues⟩ := lagging.forwards
  refine ⟨forwarded, waiting, fun index stream found keyEq => ?_⟩
  apply enqueues index
  intro other foundOther
  rw [found] at foundOther
  cases foundOther
  exact keyEq

end Runs

namespace SmallCity

/-- Both drivers are offered the ride, and eve's acceptance is handled while the
listener is late; dan's stream is open. -/
def tardyListener : List DeploymentEvent :=
  [.spawn (.inl (.goOnline "u3" centre centre)), .spawn (.inl (.goOnline "u4" centre centre)),
    .spawn (.inl (wants "r1" "u1")), .spawn (.inr (.streamOffers "u3"))] ++
  moves 0 5 ++ moves 1 5 ++ moves 2 8 ++ moves 3 1 ++
  [.spawn (.inr (.handle .rideRequested "r1"))] ++ moves 4 7 ++
  [.spawn (.inl (.acceptRide "r1" "u4"))] ++ moves 5 9 ++
  [.spawn (.inr (.handle .rideAccepted "r1"))] ++ moves 6 4

/-- The withdrawal is emitted, and after it the listener forwards both offers. -/
def lateOffers : List DeploymentEvent :=
  [.step 6, .step 6, .ambient .forwardOffer, .ambient .forwardOffer]

/-- On dan's queue the offer comes after its withdrawal. -/
theorem offer_follows_withdrawal :
    ∃ pool stream,
      playAll (tardyListener ++ lateOffers) = some pool ∧
      pool.world.state.board.streams[0]? = some stream ∧ stream.key = "u3" ∧
      (pool.world.state.board.received 0).map (Option.map fun event =>
          (event.1, event.2.offers, event.2.withdraws)) =
        [some ("offer_cancelled", none, some "r1"), some ("ride_offer", some "r1", none)] := by
  obtain ⟨pool, played, checked⟩ := Option.map_eq_some_iff.mp
    (by decide +kernel : (playAll (tardyListener ++ lateOffers)).map (fun pool =>
      decide (pool.world.state.board.streams[0]?.map EventStream.key = some "u3" ∧
        (pool.world.state.board.received 0).map (Option.map fun event =>
            (event.1, event.2.offers, event.2.withdraws)) =
          [some ("offer_cancelled", none, some "r1"),
            some ("ride_offer", some "r1", none)])) = some true)
  obtain ⟨keyed, received⟩ := of_decide_eq_true checked
  obtain ⟨stream, found, keyEq⟩ := Option.map_eq_some_iff.mp keyed
  exact ⟨pool, stream, played, found, keyEq, received⟩

/-- The late offer waited when the withdrawal was emitted. -/
theorem lateOffers_waited :
    ∃ pool next final forwarded,
      playAll tardyListener = some pool ∧
      Deployment.next platform wiring pool (.step 6) = some next ∧
      Deployment.run platform wiring next lateOffers.tail = some final ∧
      pool.world.state.waitingOffers "u3" "r1" =
        forwarded ++ final.world.state.waitingOffers "u3" "r1" := by
  obtain ⟨pool, played, checked⟩ := Option.map_eq_some_iff.mp
    (by decide +kernel : (playAll tardyListener).map (fun pool =>
      decide ((Deployment.next platform wiring pool (.step 6)).map (fun next =>
        (next.world.log.head?.map fun entry => entry.call.withdraws "u3" "r1",
          (Deployment.run platform wiring next lateOffers.tail).isSome)) =
        some (some true, true))) = some true)
  obtain ⟨next, moved, facts⟩ := Option.map_eq_some_iff.mp (of_decide_eq_true checked)
  obtain ⟨withdraws, ran⟩ := Prod.mk.inj facts
  obtain ⟨final, ranLater⟩ := Option.isSome_iff_exists.mp ran
  obtain ⟨_, call, _, _, _, _, _, rfl⟩ := (deployment platform wiring).advance_eq_some moved
  have aligned : (Deployment.opening store).board.Aligned := EventStreams.aligned_empty
  obtain ⟨forwarded, waiting, _⟩ := only_late_offers_follow rfl rfl aligned played
    moved rfl (Option.some.inj withdraws) ranLater
  exact ⟨pool, _, final, forwarded, played, moved, ranLater, waiting⟩

end SmallCity

end RideHailing
