import RideHailing.LocationSharing
import RideHailing.TruthfulStreams

/-!
# Nobody nearby is missed

While the listener is subscribed, a driver's stream receives the offers that are published to
the driver while the driver's key refers to it, all of them and in their order.  And when the
handler of a ride-requested message has ended well, everybody whom its search found near the
pickup, and the availability set had, has been sent the offer of the ride.
-/

namespace RideHailing

open EventStreams

/-! ## What the streams receive of the channel -/

/-- The offers among the events of a stream. -/
def offersAmong (events : List (String × Payload)) : List (String × Payload) :=
  events.filter fun event => decide (event.1 = "ride_offer")

/-- How these offers appear on the streams of a driver. -/
def offerEvents (driverId : String) (offers : List (String × Payload)) :
    List (String × Payload) :=
  (offers.filter fun offer => decide (offer.1 = driverId)).map
    fun offer => ("ride_offer", offer.2)

theorem offersAmong_append (first second : List (String × Payload)) :
    offersAmong (first ++ second) = offersAmong first ++ offersAmong second :=
  List.filter_append _ _

theorem offerEvents_append (driverId : String) (first second : List (String × Payload)) :
    offerEvents driverId (first ++ second) =
      offerEvents driverId first ++ offerEvents driverId second := by
  simp [offerEvents]

section Receipts

variable {P : Platform} {W : Wiring} {start : Deployment}
variable {events : List DeploymentEvent} {pool pool' : DeploymentPool}

/-- The offers on a key are emitted by the listener, when it forwards them. -/
theorem offersAmong_move (ran : Deployment.run P W (Pool.start start) events = some pool)
    (event : DeploymentEvent) (driverId : String) :
    offersAmong ((Deployment.streamMove pool event).toList.filterMap
        (StreamStep.emission driverId)) =
      offerEvents driverId (Deployment.forwards pool event).toList := by
  cases event with
  | spawn request => rfl
  | fault pid fault => rfl
  | step pid =>
      change _ = []
      cases moves : Deployment.streamMove pool (.step pid) with
      | none => rfl
      | some action =>
          cases emits : action.emission driverId with
          | none => simp [emits, offersAmong]
          | some emitted =>
              obtain rfl := emission_eq_some.mp emits
              rcases emits_of_streamMove moves with ⟨_, request, resume, _, task⟩ | ⟨other, _⟩
              · obtain ⟨label, allowed⟩ := reports_of_run ran task
                have noOffer : emitted.1 ≠ "ride_offer" := by
                  rw [label]
                  cases document : emitted.2 with
                  | rideOffer =>
                      rw [document] at allowed
                      exact allowed.elim
                  | _ => simp [Payload.event]
                simp [emits, offersAmong, noOffer]
              · cases other
  | ambient change =>
      cases change with
      | elapse milliseconds => rfl
      | subscribe => rfl
      | unsubscribe => rfl
      | forwardOffer =>
          simp only [Deployment.streamMove, Passing.streamStep, Deployment.forwards,
            Passing.forwards]
          cases waiting : pool.world.state.offers.head? with
          | none => rfl
          | some offer =>
              by_cases own : offer.1 = driverId <;>
                simp [Option.filter, EventStreams.step, StreamStep.emission, offersAmong,
                  offerEvents, own]
      | take stream =>
          simp only [Deployment.streamMove, Passing.streamStep, Option.filter]
          split <;> rfl
      | disconnect stream =>
          simp only [Deployment.streamMove, Passing.streamStep, Option.filter]
          split <;> rfl

/-- The offers that are emitted on a driver's key are those that are forwarded. -/
theorem offersAmong_moves {later : List DeploymentEvent} {final : DeploymentPool}
    (ran : Deployment.run P W (Pool.start start) events = some pool)
    (ranLater : Deployment.run P W pool later = some final) (driverId : String) :
    offersAmong ((Deployment.streamMoves P W pool later).filterMap
        (StreamStep.emission driverId)) =
      offerEvents driverId (Deployment.forwardedOffers P W pool later) := by
  induction later generalizing events pool with
  | nil => rfl
  | cons event later ih =>
      rw [Deployment.run, runSteps_cons, Option.bind_eq_some_iff] at ranLater
      obtain ⟨next, moved, rest⟩ := ranLater
      have ranNext : Deployment.run P W (Pool.start start) (events ++ [event]) = some next :=
        Deployment.run_snoc ran moved
      simp only [Deployment.streamMoves, Deployment.forwardedOffers, outputs, moved]
      rw [List.filterMap_append, offersAmong_append, offerEvents_append,
        offersAmong_move ran event driverId, ih ranNext rest]
      rfl

/-- What the channel and the streams do with the offers that the tasks publish. -/
structure Receipts (P : Platform) (W : Wiring) (start : Deployment)
    (events : List DeploymentEvent) (pool : DeploymentPool) : Prop where
  once : ∀ driverId, (offersAmong (pool.world.state.board.heardOn driverId)).Sublist
    (offerEvents driverId (start.offers ++ sentOffers pool.world.log))
  unbroken : ∀ before later moment driverId index, events = before ++ later →
    Deployment.run P W (Pool.start start) before = some moment →
      Deployment.Subscribed moment later →
        moment.world.state.board.registry.emitterOf driverId = some index →
          pool.world.state.board.registry.emitterOf driverId = some index →
            ∃ sent received,
              sentOffers pool.world.log = sentOffers moment.world.log ++ sent ∧
              offersAmong (pool.world.state.board.events index) =
                offersAmong (moment.world.state.board.events index) ++ received ∧
              offerEvents driverId (moment.world.state.offers ++ sent) =
                received ++ offerEvents driverId pool.world.state.offers

/-- What all the streams of a driver have received as offers has been forwarded to the
driver. -/
theorem offersAmong_heardOn (fresh : start.board = EventStreams.empty)
    (ran : Deployment.run P W (Pool.start start) events = some pool) (driverId : String) :
    (offersAmong (pool.world.state.board.heardOn driverId)).Sublist
      (offerEvents driverId (Deployment.forwardedOffers P W (Pool.start start) events)) := by
  have board := board_of_run ran
  change runSteps _ start.board _ = _ at board
  rw [fresh] at board
  have latest : (EventStreams.empty : EventStreams Payload).Latest := by
    intro other queue index refers
    obtain ⟨_, found, _⟩ := aligned_empty.ownStream refers
    cases found
  obtain ⟨heard, grown, within⟩ := @heardOn_of_run _ _ _ driverId _ aligned_empty latest board
  have begun : Deployment.run P W (Pool.start start) [] = some (Pool.start start) := rfl
  rw [← offersAmong_moves begun ran driverId]
  change (EventStreams.heardOn _ driverId) = heard at grown
  rw [grown]
  exact within.filter _

/-- A stream that the driver's key refers to receives what is forwarded to the driver. -/
theorem offersAmong_events {later : List DeploymentEvent} {final : DeploymentPool}
    (aligned : start.board.Aligned)
    (ran : Deployment.run P W (Pool.start start) events = some pool)
    (ranLater : Deployment.run P W pool later = some final) {driverId : String} {index : Nat}
    (refers : pool.world.state.board.registry.emitterOf driverId = some index)
    (stillRefers : final.world.state.board.registry.emitterOf driverId = some index) :
    offersAmong (final.world.state.board.events index) =
      offersAmong (pool.world.state.board.events index) ++
        offerEvents driverId (Deployment.forwardedOffers P W pool later) := by
  have alignedPool := Deployment.aligned_of_run ran aligned
  have heard : Heard driverId index (pool.world.state.board.events index)
      pool.world.state.board :=
    ⟨alignedPool, alignedPool.ownStream refers, List.prefix_rfl, fun _ => rfl⟩
  have all := (heard.run (board_of_run ranLater)).all stillRefers
  rw [all, offersAmong_append, offersAmong_moves ran ranLater]

/-- However the tasks of the process interleave, and whenever the listener stops and starts:
the offers that all the streams of a driver have received are offers that have been published
to the driver, in the order of their publication and each of them once at most.  Take any
part of the run in which the listener stays subscribed, and the driver's key refers to the
same stream before and after it: what waited for the listener and what has been published
meanwhile is what this stream has received, in this order, and what still waits. -/
theorem offers_received (fresh : start.board = EventStreams.empty)
    (ran : Deployment.run P W (Pool.start start) events = some pool) :
    Receipts P W start events pool := by
  have aligned : start.board.Aligned := by
    rw [fresh]
    exact aligned_empty
  constructor
  · intro driverId
    apply (offersAmong_heardOn fresh ran driverId).trans
    apply List.Sublist.map
    apply List.Sublist.filter
    exact (List.sublist_append_left _ _).trans (offers_of_run ran)
  · rintro before later moment driverId index rfl ranBefore subscribed refers stillRefers
    rw [Deployment.run_split ranBefore] at ran
    obtain ⟨sent, sends, offers⟩ := offers_kept subscribed ran
    refine ⟨sent, offerEvents driverId (Deployment.forwardedOffers P W moment later), sends,
      offersAmong_events aligned ranBefore ran refers stillRefers, ?_⟩
    rw [offers, offerEvents_append]

end Receipts

/-! ## What becomes of a published offer -/

section Delivery

variable {P : Platform} {W : Wiring} {start : Deployment}
variable {events later : List DeploymentEvent} {pool final : DeploymentPool}

/-- The offer waits for the listener, or the listener has forwarded it in these events and
the stream to which the driver's key referred then, if any, has received it. -/
def Arrives (P : Platform) (W : Wiring) (pool : DeploymentPool) (later : List DeploymentEvent)
    (final : DeploymentPool) (driverId : String) (payload : Payload) : Prop :=
  (driverId, payload) ∈ final.world.state.offers ∨
    ∃ before after moment, later = before ++ .ambient .forwardOffer :: after ∧
      Deployment.run P W pool before = some moment ∧
      moment.world.state.offers.head? = some (driverId, payload) ∧
      ∀ index, moment.world.state.store.sse.emitterOf driverId = some index →
        ("ride_offer", payload) ∈ final.world.state.board.events index

theorem arrives_of_offered (aligned : pool.world.state.board.Aligned)
    (subscribed : Deployment.Subscribed pool later)
    (ran : Deployment.run P W pool later = some final) {driverId : String} {payload : Payload}
    (offered : (driverId, payload) ∈ pool.world.state.offers) :
    Arrives P W pool later final driverId payload := by
  obtain ⟨sent, _, offers⟩ := offers_kept subscribed ran
  have inside := List.mem_append_left sent offered
  rw [offers] at inside
  rcases List.mem_append.mp inside with forwarded | waiting
  · right
    obtain ⟨before, event, after, moment, next, rfl, ranBefore, moved, forwards⟩ :=
      mem_outputs forwarded
    rw [Deployment.run_split ranBefore, Deployment.run, runSteps_cons, moved] at ran
    cases event with
    | ambient change =>
        cases change with
        | forwardOffer =>
            refine ⟨before, after, moment, rfl, ranBefore, forwards, ?_⟩
            intro index refers
            have alignedMoment := Deployment.aligned_of_run ranBefore aligned
            have steps := next_board moved
            have waits : moment.world.state.offers.head? = some (driverId, payload) := forwards
            have emits : Deployment.streamMove moment (.ambient .forwardOffer) =
                some (.emits driverId "ride_offer" payload) := by
              simp [Deployment.streamMove, Passing.streamStep, waits, Option.filter,
                EventStreams.step]
            rw [emits] at steps
            simp only [Option.toList_some, runSteps_cons, Option.bind_eq_some_iff] at steps
            obtain ⟨board, stepped, ended⟩ := steps
            obtain rfl : board = next.world.state.board := Option.some.inj ended
            have emission : (StreamStep.emits driverId "ride_offer" payload).emission driverId =
                some ("ride_offer", payload) := by
              simp [StreamStep.emission]
            have received := EventStreams.events_emission alignedMoment stepped emission refers
            apply (events_kept (alignedMoment.step stepped) (board_of_run ran) index).subset
            rw [received]
            exact List.mem_append_right _ List.mem_cons_self
        | _ => cases forwards
    | _ => cases forwards
  · exact Or.inl waiting

/-- The task has published the offer, and if the listener was subscribed then and has been
ever since, it has arrived. -/
def Delivered (P : Platform) (W : Wiring) (start : Deployment) (events : List DeploymentEvent)
    (pool : DeploymentPool) (pid : Nat) (driverId : String) (payload : Payload) : Prop :=
  ∃ before after moment next, events = before ++ .step pid :: after ∧
    Deployment.run P W (Pool.start start) before = some moment ∧
    (∃ request, moment.Calls pid request (.inr (.publishOffer driverId payload))) ∧
    Deployment.next P W moment (.step pid) = some next ∧
    (Deployment.Subscribed moment after → Arrives P W next after pool driverId payload)

theorem delivered_of_told (aligned : start.board.Aligned)
    (ran : Deployment.run P W (Pool.start start) events = some pool) {pid : Nat}
    {driverId : String} {payload : Payload}
    (published : Report.Learns (told pid pool.world.log)
      (.inr (.publishOffer driverId payload)) ()) :
    Delivered P W start events pool pid driverId payload := by
  obtain ⟨request, logged⟩ := entry_of_told published
  obtain ⟨moment, ⟨before, after, rfl, ranBefore⟩, calls, state, answered⟩ :=
    made_of_logged ran logged fun fault failed => by cases failed
  rw [Deployment.run_split ranBefore, Deployment.run, runSteps_cons,
    Option.bind_eq_some_iff] at ran
  obtain ⟨next, moved, ranAfter⟩ := ran
  refine ⟨before, after, moment, next, rfl, ranBefore, ⟨request, calls⟩, moved, ?_⟩
  rintro ⟨listens, unbroken⟩
  obtain ⟨_, call, _, reply, _, found, replied, rfl⟩ :=
    (deployment P W).advance_eq_some (machine_next_of_next moved)
  obtain ⟨resume, calling⟩ := calls
  obtain rfl : call = .inr (.publishOffer driverId payload) := by
    rw [calling] at found
    cases found
    rfl
  rw [replied] at answered
  obtain ⟨rfl, rfl⟩ := Prod.mk.inj (Option.some.inj answered)
  obtain ⟨sameListening, offers⟩ := offers_answer replied
  have ranNext := Deployment.run_snoc ranBefore moved
  apply arrives_of_offered (Deployment.aligned_of_run ranNext aligned)
    ⟨sameListening.trans listens, unbroken⟩ ranAfter
  simp only [offers, listens, if_true]
  exact List.mem_append_right _ List.mem_cons_self

/-! ## The handler of a ride-requested message -/

/-- What was so at some moment while the task was under way. -/
def Deployment.during (P : Platform) (W : Wiring) (start : Deployment)
    (events : List DeploymentEvent) (pid : Nat) : Moments :=
  fun fact => Once (Deployment.next P W) (Pool.start start) events fun moment =>
    (∃ request call resume, moment.tasks[pid]? = some ⟨request, .await call resume⟩) ∧
      fact moment.world.state

/-- What the transcript of a task quotes was answered so while it was under way. -/
theorem during_learned (ran : Deployment.run P W (Pool.start start) events = some pool)
    {pid : Nat} {call : DeploymentCall} {value : DeploymentValue call}
    (learns : Report.Learns (told pid pool.world.log) call value) :
    Deployment.during P W start events pid fun d => ∃ broken after,
      (deployment P W).answer pid broken call d = some (.ok value, after) := by
  apply (once_awaited machine_next_of_next ran learns).mono
  rintro moment ⟨⟨request, resume, awaited⟩, answered⟩
  exact ⟨⟨request, call, resume, awaited⟩, answered⟩

/-- A handler that has ended well has dispatched its ride. -/
theorem dispatches_of_ended (ran : Deployment.run P W (Pool.start start) events = some pool)
    {pid : Nat} {rideId : String} {response : Response}
    (ended : pool.ended? pid =
      some (.inr (.handle .rideRequested rideId), .ok response)) :
    Report.Dispatches W (told pid pool.world.log) rideId := by
  have program : (transcribing (Report.allows P W (.inr (.handle .rideRequested rideId)))).Watches
      ((deployment P W).program (.inr (.handle .rideRequested rideId)))
      (CallMonitor.Leaves (fun _ after => [] ⊆ after ∧ Report.Dispatches W after rideId)
        fun _ _ => True) [] := by
    apply informs_bind (requested_reports rideId)
    intro _ after _ dispatches
    exact informs_pure dispatches
  exact (transcript_ended machine_next_of_next program ran ended).2

/-- While the task was under way the ride was not waiting, or it was, and then the task has
searched around its pickup; and each driver whom the search found, and who was available at
one moment, has been sent the offer with the minutes from where the driver was found. -/
def Dispatched (P : Platform) (W : Wiring) (start : Deployment) (events : List DeploymentEvent)
    (pool : DeploymentPool) (pid : Nat) (rideId : String) : Prop :=
  Deployment.during P W start events pid (fun d =>
      ∀ ride, d.Stores ride → ride.id = rideId → ride.status ≠ .requested) ∨
    ∃ ride results, ride.id = rideId ∧
      Deployment.during P W start events pid (fun d =>
        d.Stores ride ∧ ride.status = .requested) ∧
      Deployment.during P W start events pid (fun d =>
        P.geosearch d.store.locations.rows ride.pickupLat ride.pickupLng
          defaultSearchRadiusKm maxResults = some results) ∧
      Deployment.during P W start events pid (fun d =>
        ∀ driverId distanceKm, (driverId, distanceKm) ∈ results →
          driverId ∈ d.store.available →
            ∃ eta, etaMinutes distanceKm = .ok eta ∧
              Report.Learns (told pid pool.world.log)
                (.inr (.publishOffer driverId (offerPayload W ride eta))) () ∧
              Delivered P W start events pool pid driverId (offerPayload W ride eta))

/-- Take any run of the whole process in which a handler of a ride-requested message has
ended well.  Unless the ride was not waiting when the handler looked it up, the handler has
published the offer of the stored ride to each driver whom Redis found around the pickup and
then had in the availability set, however the other tasks interleave; and if the listener was
subscribed at the publication and has been ever since, the offer waits for it or has been
forwarded to the stream that the driver had then. -/
theorem nobody_missed (fresh : start.board = EventStreams.empty)
    (ran : Deployment.run P W (Pool.start start) events = some pool) {pid : Nat}
    {rideId : String} {response : Response}
    (ended : pool.ended? pid =
      some (.inr (.handle .rideRequested rideId), .ok response)) :
    Dispatched P W start events pool pid rideId := by
  have aligned : start.board.Aligned := by
    rw [fresh]
    exact EventStreams.aligned_empty
  obtain ⟨found, learns, offersAll⟩ := dispatches_of_ended ran ended
  have lookedUp := during_learned ran learns
  by_cases waits : ∃ ride, found = some ride ∧ ride.status = .requested
  · right
    obtain ⟨ride, rfl, waiting⟩ := waits
    obtain ⟨nearby, ⟨results, flags, searched, asked, listed⟩, offered⟩ :=
      offersAll ride rfl waiting
    have sameId : ride.id = rideId := by
      obtain ⟨_, _, _, _, _, _, _, _, replied⟩ := lookedUp
      exact (stores_of_answer replied).2
    have found := during_learned ran searched
    refine ⟨ride, results, sameId, ?_, ?_, ?_⟩
    · apply lookedUp.mono
      rintro moment ⟨awaits, broken, after, replied⟩
      exact ⟨awaits, (stores_of_answer replied).1, waiting⟩
    · apply found.mono
      rintro moment ⟨awaits, broken, after, replied⟩
      exact ⟨awaits, found_of_answer replied⟩
    · rcases asked with rfl | answered
      · apply found.mono
        rintro moment ⟨awaits, _⟩
        refine ⟨awaits, fun driverId distanceKm mem => ?_⟩
        cases mem
      · apply (during_learned ran answered).mono
        rintro moment ⟨awaits, broken, after, replied⟩
        refine ⟨awaits, fun driverId distanceKm mem available => ?_⟩
        rw [available_of_answer replied] at listed
        have near := (listed ⟨driverId, distanceKm⟩).mpr
          (mem_zip_flags.mpr ⟨mem, decide_eq_true available⟩)
        obtain ⟨eta, computed, published⟩ := offered _ near
        exact ⟨eta, computed, published, delivered_of_told aligned ran published⟩
  · left
    apply lookedUp.mono
    rintro moment ⟨awaits, broken, after, replied⟩
    refine ⟨awaits, fun ride stored sameId status => waits ⟨ride, ?_, status⟩⟩
    rw [← find_of_answer replied, ← sameId]
    exact stored

end Delivery

namespace SmallCity

/-- Dan and eve are available and have been sent the offer of ann's ride.  The listener has
forwarded it to dan, who is listening. -/
def annIsOffered : List DeploymentEvent :=
  [.spawn (.inl (.goOnline "u3" centre centre))] ++ moves 0 5 ++
  [.spawn (.inl (.goOnline "u4" centre centre))] ++ moves 1 5 ++
  [.spawn (.inr (.streamOffers "u3"))] ++ moves 2 1 ++
  [.spawn (.inl (wants "r1" "u1"))] ++ moves 3 8 ++
  [.spawn (.inr (.handle .rideRequested "r1"))] ++ moves 4 7 ++
  [.ambient .forwardOffer]

/-- Dan's stream has received the one offer that has been forwarded. -/
theorem annIsOffered_received :
    ∃ pool, playAll annIsOffered = some pool ∧ (sentOffers pool.world.log).length = 2 ∧
      (pool.world.state.board.events 0).length = 1 ∧
      Receipts platform wiring (Deployment.opening store) annIsOffered pool := by
  obtain ⟨pool, played, checked⟩ := Option.map_eq_some_iff.mp
    (by decide +kernel : (playAll annIsOffered).map (fun pool =>
      decide ((sentOffers pool.world.log).length = 2 ∧
        (pool.world.state.board.events 0).length = 1)) = some true)
  obtain ⟨sent, received⟩ := of_decide_eq_true checked
  exact ⟨pool, played, sent, received, offers_received rfl played⟩

theorem annIsOffered_dispatched :
    ∃ pool, playAll annIsOffered = some pool ∧ pool.world.state.offers.length = 1 ∧
      Dispatched platform wiring (Deployment.opening store) annIsOffered pool 4 "r1" := by
  obtain ⟨pool, played, checked⟩ := Option.map_eq_some_iff.mp
    (by decide +kernel : (playAll annIsOffered).map (fun pool =>
      decide (pool.ended? 4 =
          some (.inr (.handle .rideRequested "r1"), .ok .noContent) ∧
        pool.world.state.offers.length = 1)) = some true)
  obtain ⟨ended, waiting⟩ := of_decide_eq_true checked
  exact ⟨pool, played, waiting, nobody_missed rfl played ended⟩

end SmallCity

end RideHailing
