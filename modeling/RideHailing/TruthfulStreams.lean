import RideHailing.OfferChannel
import RideHailing.OfferWithdrawals
import RideHailing.TruthfulEvents

/-!
# Every event of every stream is true

A report quotes replies, and each of them was given by the stores at some moment of the
run.  What travels through the dispatched sets, the channel of the offers and the queues
of the streams is what was reported.
-/

namespace RideHailing

/-! ## What an event says -/

namespace Deployment

/-- The ride is stored with these columns. -/
def Stores (d : Deployment) (ride : Ride) : Prop :=
  d.store.rides.find ride.id = some ride

/-- A search around the pickup finds the driver at this distance. -/
def Finds (P : Platform) (d : Deployment) (ride : Ride) (driverId : String)
    (distanceKm : Float64) : Prop :=
  ∃ results, P.geosearch d.store.locations.rows ride.pickupLat ride.pickupLng
    defaultSearchRadiusKm maxResults = some results ∧ (driverId, distanceKm) ∈ results

/-- The dispatched set of the ride has this member, or had it when it expired. -/
def Lists (d : Deployment) (rideId driverId : String) : Prop :=
  ∃ listed, d.dispatched.find rideId = some listed ∧ driverId ∈ listed.members

end Deployment

/-- What was so at some moment. -/
abbrev Moments : Type :=
  (Deployment → Prop) → Prop

/-- The ride was waiting, and the driver was found near its pickup and found available. -/
structure Chosen (P : Platform) (once : Moments) (ride : Ride) (driverId : String)
    (distanceKm : Float64) : Prop where
  waiting : once fun d => d.Stores ride ∧ ride.status = .requested
  near : once fun d => d.Finds P ride driverId distanceKm
  available : once fun d => driverId ∈ d.store.available

/-- What a document on the stream of this key says, and to whom it says it. -/
def Truthful (P : Platform) (W : Wiring) (once : Moments) (asked : Request → Prop)
    (key : String) : Payload → Prop
  | .driverLocation lat lng eta => ∃ driverId ride distanceKm,
      key = ride.id ∧ asked (.updateLocation driverId lat lng) ∧
      once (fun d => d.Stores ride ∧ ride.driverId = some driverId ∧
        ride.status ∈ servingRideStatuses) ∧
      P.haversineKm lat lng ride.dropoffLat ride.dropoffLng = .ok distanceKm ∧
      etaMinutes distanceKm = .ok eta
  | .driverEtaToPickup eta => ∃ driverId ride lat lng distanceKm,
      key = ride.id ∧ once (fun d => d.Stores ride ∧ ride.driverId = some driverId) ∧
      once (fun d => W.geopos d.store.locations.rows driverId = some (lat, lng)) ∧
      P.haversineKm lat lng ride.pickupLat ride.pickupLng = .ok distanceKm ∧
      etaMinutes distanceKm = .ok eta
  | .rideOffer rideId pickupLat pickupLng dropoffLat dropoffLng estimatedFare eta =>
      ∃ ride distanceKm, Chosen P once ride key distanceKm ∧ etaMinutes distanceKm = .ok eta ∧
        offerPayload W ride eta =
          .rideOffer rideId pickupLat pickupLng dropoffLat dropoffLng estimatedFare eta
  | .offerCancelled rideId =>
      (∃ ride distanceKm, ride.id = rideId ∧ Chosen P once ride key distanceKm) ∧
      once (fun d => (Topic.rideAccepted, rideId) ∈ d.store.published) ∧
      ∃ ride, ride.id = rideId ∧ ride.driverId ≠ some key ∧ once fun d => d.Stores ride

section Moments

variable {P : Platform} {W : Wiring} {once once' : Moments} {asked asked' : Request → Prop}
variable {ride : Ride} {key driverId : String} {distanceKm : Float64} {payload : Payload}

theorem Chosen.mono (chosen : Chosen P once ride driverId distanceKm)
    (longer : ∀ fact, once fact → once' fact) : Chosen P once' ride driverId distanceKm :=
  ⟨longer _ chosen.waiting, longer _ chosen.near, longer _ chosen.available⟩

theorem Truthful.mono (truthful : Truthful P W once asked key payload)
    (longer : ∀ fact, once fact → once' fact) (more : ∀ request, asked request → asked' request) :
    Truthful P W once' asked' key payload := by
  cases payload with
  | driverLocation lat lng eta =>
      obtain ⟨driverId, ride, distanceKm, keyEq, posted, serves, far, computed⟩ := truthful
      exact ⟨driverId, ride, distanceKm, keyEq, more _ posted, longer _ serves, far, computed⟩
  | driverEtaToPickup eta =>
      obtain ⟨driverId, ride, lat, lng, distanceKm, keyEq, stored, there, measured⟩ := truthful
      exact ⟨driverId, ride, lat, lng, distanceKm, keyEq, longer _ stored, longer _ there,
        measured⟩
  | rideOffer rideId pickupLat pickupLng dropoffLat dropoffLng estimatedFare eta =>
      obtain ⟨ride, distanceKm, chosen, offered⟩ := truthful
      exact ⟨ride, distanceKm, chosen.mono longer, offered⟩
  | offerCancelled rideId =>
      obtain ⟨⟨chosenRide, distanceKm, idEq, chosen⟩, accepted, ride, sameId, other, stored⟩ :=
        truthful
      exact ⟨⟨chosenRide, distanceKm, idEq, chosen.mono longer⟩, longer _ accepted, ride, sameId,
        other, longer _ stored⟩

end Moments

/-! ## What the replies say -/

section Replies

variable {P : Platform} {W : Wiring} {pid : Nat} {broken : Option Fault} {d after : Deployment}

/-- A value that a call of the requests returns. -/
theorem performed_of_answer {call : Call} {value : Value call}
    (answered : (deployment P W).answer pid broken (.inl call) d = some (.ok value, after)) :
    ∃ store, P.perform pid call d.store = some (.ok value, store) := by
  rcases answer_inl answered with ⟨store, _, performed, _⟩ | ⟨_, _, _, failed, _⟩
  · exact ⟨store, performed⟩
  · cases failed

theorem find_of_answer {rideId : String} {found : Option Ride}
    (answered : (deployment P W).answer pid broken (.inl (.rideFindById rideId)) d =
      some (.ok found, after)) : d.store.rides.find rideId = found := by
  obtain ⟨store, performed⟩ := performed_of_answer answered
  simp only [Platform.perform, ok, Option.some.injEq, Prod.mk.injEq, Except.ok.injEq] at performed
  exact performed.1

theorem stores_of_answer {rideId : String} {ride : Ride}
    (answered : (deployment P W).answer pid broken (.inl (.rideFindById rideId)) d =
      some (.ok (some ride), after)) : d.Stores ride ∧ ride.id = rideId := by
  have found := find_of_answer answered
  have sameId := KeyedTable.key_of_find found
  exact ⟨by rw [Deployment.Stores, sameId, found], sameId⟩

theorem serves_of_answer {driverId : String} {ride : Ride}
    (answered : (deployment P W).answer pid broken
      (.inl (.rideFindFirstByDriverIdAndStatusIn driverId servingRideStatuses)) d =
        some (.ok (some ride), after)) :
    d.Stores ride ∧ ride.driverId = some driverId ∧ ride.status ∈ servingRideStatuses := by
  obtain ⟨store, performed⟩ := performed_of_answer answered
  simp only [Platform.perform, ok, Option.some.injEq, Prod.mk.injEq, Except.ok.injEq] at performed
  have listed := List.mem_filter.mp (P.firstRow_mem performed.1)
  have matching := (Bool.and_eq_true _ _).mp listed.2
  exact ⟨KeyedTable.mem_rows_iff_find.mp listed.1, of_decide_eq_true matching.1,
    of_decide_eq_true matching.2⟩

theorem found_of_answer {lat lng radiusKm : Float64} {count : Nat}
    {results : List (String × Float64)}
    (answered : (deployment P W).answer pid broken (.inl (.geosearch lat lng radiusKm count)) d =
      some (.ok results, after)) :
    P.geosearch d.store.locations.rows lat lng radiusKm count = some results := by
  obtain ⟨store, performed⟩ := performed_of_answer answered
  simp only [Platform.perform] at performed
  split at performed
  · simp [refused] at performed
  · rename_i found searched
    simp only [ok, Option.some.injEq, Prod.mk.injEq, Except.ok.injEq] at performed
    rw [searched, performed.1]

theorem available_of_answer {driverIds : List String} {flags : List Bool}
    (answered : (deployment P W).answer pid broken (.inl (.smismember driverIds)) d =
      some (.ok flags, after)) :
    flags = driverIds.map fun driverId => decide (driverId ∈ d.store.available) := by
  obtain ⟨store, performed⟩ := performed_of_answer answered
  simp only [Platform.perform, ok, Option.some.injEq, Prod.mk.injEq, Except.ok.injEq] at performed
  exact performed.1.symm

theorem located_of_answer {driverId : String} {position : Option (Float64 × Float64)}
    (answered : (deployment P W).answer pid broken (.inr (.geopos driverId)) d =
      some (.ok position, after)) :
    W.geopos d.store.locations.rows driverId = position := by
  rcases answer_inr answered with ⟨replied, _⟩ | ⟨failed, _⟩
  · exact (Except.ok.inj replied).symm
  · cases failed

theorem lists_of_answer {rideId driverId : String} {members : List String}
    (answered : (deployment P W).answer pid broken (.inr (.dispatchedMembers rideId)) d =
      some (.ok members, after)) (mem : driverId ∈ members) : d.Lists rideId driverId := by
  rcases answer_inr answered with ⟨replied, _⟩ | ⟨failed, _⟩
  · obtain rfl := Except.ok.inj replied
    have member : driverId ∈ d.dispatchedMembers rideId :=
      (W.setOrder_perm _).mem_iff.mp mem
    obtain ⟨listed, there, inside⟩ := mem_dispatchedMembers.mp member
    exact ⟨listed, (dispatchedTo_eq_some.mp there).1, inside⟩
  · cases failed

/-- Only an addition brings members. -/
theorem lists_answer {call : DeploymentCall} {reply : Except Fault (DeploymentValue call)}
    {rideId driverId : String}
    (answered : (deployment P W).answer pid broken call d = some (reply, after))
    (lists : after.Lists rideId driverId) :
    d.Lists rideId driverId ∨ ∃ driverIds, call = .inr (.dispatchedAdd rideId driverIds) ∧
      driverId ∈ driverIds := by
  have alive : ∀ {sought : String} {old : DispatchedSet}, d.dispatchedTo sought = some old →
      driverId ∈ old.members → d.Lists sought driverId :=
    fun there inside => ⟨_, (dispatchedTo_eq_some.mp there).1, inside⟩
  obtain ⟨listed, found, inside⟩ := lists
  cases call with
  | inl call =>
      rcases answer_inl answered with ⟨store, _, _, rfl⟩ | ⟨_, _, _, _, rfl⟩ <;>
        exact Or.inl ⟨listed, found, inside⟩
  | inr call =>
      rcases answer_inr answered with ⟨_, rfl⟩ | ⟨_, rfl⟩
      · cases call with
        | dispatchedAdd added driverIds =>
            simp only [Wiring.perform, Deployment.dispatchedAdd, KeyedTable.find_save] at found
            split at found
            · rename_i same
              subst same
              cases found
              rcases List.mem_append.mp inside with old | new
              · left
                cases there : d.dispatchedTo added with
                | none => simp [there] at old
                | some set =>
                    simp only [there, Option.getD_some] at old
                    exact alive there old
              · exact Or.inr ⟨driverIds, rfl, List.mem_dedup.mp (List.mem_filter.mp new).1⟩
            · exact Or.inl ⟨listed, found, inside⟩
        | dispatchedExpire expiring seconds =>
            left
            simp only [Wiring.perform, Deployment.dispatchedExpire] at found
            split at found
            · exact ⟨listed, found, inside⟩
            · rename_i old there
              simp only [KeyedTable.find_save] at found
              split at found
              · rename_i same
                subst same
                cases found
                exact alive there inside
              · exact ⟨listed, found, inside⟩
        | dispatchedDelete deleted =>
            left
            simp only [Wiring.perform, KeyedTable.find_erase] at found
            split at found
            · cases found
            · exact ⟨listed, found, inside⟩
        | _ => exact Or.inl ⟨listed, found, inside⟩
      · exact Or.inl ⟨listed, found, inside⟩

/-- The drivers whose flag is set are those of a search who are available. -/
theorem mem_zip_flags {results : List (String × Float64)} {driverId : String}
    {distanceKm : Float64} {available : String → Bool} :
    ((driverId, distanceKm), true) ∈ results.zip ((results.map Prod.fst).map available) ↔
      (driverId, distanceKm) ∈ results ∧ available driverId = true := by
  have pairs : results.zip ((results.map Prod.fst).map available) =
      results.map fun found => (found, available found.1) := by
    rw [List.map_map, List.map_prod_left_eq_zip]
    rfl
  rw [pairs, List.mem_map]
  constructor
  · rintro ⟨found, mem, same⟩
    obtain ⟨rfl, flag⟩ := Prod.mk.inj same
    exact ⟨mem, flag⟩
  · rintro ⟨mem, flag⟩
    exact ⟨(driverId, distanceKm), mem, by rw [flag]⟩

end Replies

/-! ## Runs -/

section Runs

variable {P : Platform} {W : Wiring} {start : Deployment}
variable {events : List DeploymentEvent} {pool pool' : DeploymentPool}

/-- What was so at some moment of the run. -/
def Deployment.once (P : Platform) (W : Wiring) (start : Deployment)
    (events : List DeploymentEvent) : Moments :=
  fun fact => Once (Deployment.next P W) (Pool.start start) events
    fun pool => fact pool.world.state

/-- What the transcript of a task quotes was answered so. -/
theorem once_learned (ran : Deployment.run P W (Pool.start start) events = some pool)
    {pid : Nat} {call : DeploymentCall} {value : DeploymentValue call}
    (learns : Report.Learns (told pid pool.world.log) call value) :
    Deployment.once P W start events fun d => ∃ broken after,
      (deployment P W).answer pid broken call d = some (.ok value, after) :=
  once_told machine_next_of_next ran learns

theorem once_stores (ran : Deployment.run P W (Pool.start start) events = some pool)
    {pid : Nat} {rideId : String} {ride : Ride}
    (learns : Report.Learns (told pid pool.world.log) (.inl (.rideFindById rideId))
      (some ride)) :
    ride.id = rideId ∧ Deployment.once P W start events fun d => d.Stores ride := by
  have answered := once_learned ran learns
  constructor
  · obtain ⟨_, _, _, _, _, _, _, replied⟩ := answered
    exact (stores_of_answer replied).2
  · apply answered.mono
    rintro state ⟨broken, after, replied⟩
    exact (stores_of_answer replied).1

theorem chosen_of_chooses (ran : Deployment.run P W (Pool.start start) events = some pool)
    {pid : Nat} {request : Request ⊕ Errand} {ride : Ride} {driverId : String}
    {distanceKm : Float64}
    (waits : Report.FindsWaiting (told pid pool.world.log) request ride)
    (chooses : Report.Chooses (told pid pool.world.log) ride driverId distanceKm) :
    Chosen P (Deployment.once P W start events) ride driverId distanceKm := by
  obtain ⟨rideId, _, learns, waiting⟩ := waits
  obtain ⟨results, flags, searched, asked, listed⟩ := chooses
  have inside : (driverId, distanceKm) ∈ results := by
    obtain ⟨_, _, _, _, _, _, _, replied⟩ := once_learned ran asked
    rw [available_of_answer replied] at listed
    exact (mem_zip_flags.mp listed).1
  refine ⟨(once_stores ran learns).2.mono fun _ stored => ⟨stored, waiting⟩, ?_, ?_⟩
  · apply (once_learned ran searched).mono
    rintro state ⟨broken, after, found⟩
    exact ⟨results, found_of_answer found, inside⟩
  · apply (once_learned ran asked).mono
    rintro state ⟨broken, after, replied⟩
    rw [available_of_answer replied] at listed
    exact of_decide_eq_true (mem_zip_flags.mp listed).2

theorem reports_of_run (ran : Deployment.run P W (Pool.start start) events = some pool)
    {pid : Nat} {request : Request ⊕ Errand} {call : DeploymentCall}
    {resume : Except Fault (DeploymentValue call) →
      AwaitProgram DeploymentCall (fun call => Except Fault (DeploymentValue call)) Outcome}
    (found : pool.tasks[pid]? = some ⟨request, .await call resume⟩) :
    Report.allows P W request (told pid pool.world.log) call := by
  apply transcript_allows machine_next_of_next ?_ ran found
  intro other
  exact CallMonitor.Watches.mono (undertaking_reports other) fun _ _ _ => trivial

/-- The consumer handles messages that have been published. -/
theorem handled_of_run (ran : Deployment.run P W (Pool.start start) events = some pool)
    {topic : Topic} {rideId : String} (handles : .inr (.handle topic rideId) ∈ pool.requests) :
    Deployment.once P W start events fun d => (topic, rideId) ∈ d.store.published := by
  revert handles
  apply runSteps_along ?_ ?_ ran
  · intro handles
    simp [Pool.start, Pool.requests] at handles
  · intro before middle event next ranBefore moved earlier handles
    rcases (deployment P W).next_cases (machine_next_of_next moved) with
      ⟨request, rfl, rfl⟩ | ⟨_, _, advanced⟩ | ⟨_, _, rfl⟩
    · simp only [Pool.requests, List.map_append, List.mem_append] at handles
      rcases handles with old | new
      · exact (earlier old).append _
      · obtain rfl : .inr (.handle topic rideId) = request := by simpa using new
        have published : (topic, rideId) ∈ middle.world.state.store.published := by
          simp only [Deployment.next] at moved
          split at moved
          · rename_i allowed
            exact allowed.1
          · cases moved
        exact (once_of_run ranBefore published).append _
    · rw [(deployment P W).requests_advance advanced] at handles
      exact (earlier handles).append _
    · exact (earlier handles).append _

/-- Whoever is in a dispatched set was chosen for an offer of the ride. -/
theorem listed_of_run (vacant : ∀ rideId driverId, ¬ start.Lists rideId driverId)
    (ran : Deployment.run P W (Pool.start start) events = some pool) {rideId driverId : String}
    (lists : pool.world.state.Lists rideId driverId) :
    ∃ ride distanceKm, ride.id = rideId ∧
      Chosen P (Deployment.once P W start events) ride driverId distanceKm := by
  revert lists
  apply runSteps_along ?_ ?_ ran
  · intro lists
    exact absurd lists (vacant _ _)
  · intro before middle event next ranBefore moved earlier lists
    have stays : middle.world.state.Lists rideId driverId → ∃ ride distanceKm,
        ride.id = rideId ∧
          Chosen P (Deployment.once P W start (before ++ [event])) ride driverId distanceKm := by
      intro lists
      obtain ⟨ride, distanceKm, sameId, chosen⟩ := earlier lists
      exact ⟨ride, distanceKm, sameId, chosen.mono fun _ once => once.append _⟩
    rcases (deployment P W).next_cases (machine_next_of_next moved) with
      ⟨_, _, rfl⟩ | ⟨pid, broken, advanced⟩ | ⟨change, _, rfl⟩
    · exact stays lists
    · obtain ⟨request, call, resume, reply, state, found, answered, rfl⟩ :=
        (deployment P W).advance_eq_some advanced
      rcases lists_answer answered lists with old | ⟨driverIds, rfl, added⟩
      · exact stays old
      · obtain ⟨ride, waiting, sameId, chosen⟩ := reports_of_run ranBefore found
        obtain ⟨distanceKm, chooses⟩ := chosen driverId added
        exact ⟨ride, distanceKm, sameId.symm,
          (chosen_of_chooses ranBefore waiting chooses).mono fun _ once => once.append _⟩
    · apply stays
      obtain ⟨listed, there, inside⟩ := lists
      exact ⟨listed, by rwa [← passing_dispatched change], inside⟩

/-- An emission is made by a task, or it is the listener's. -/
theorem emits_of_streamMove {event : DeploymentEvent} {key name : String} {payload : Payload}
    (emits : Deployment.streamMove pool event = some (.emits key name payload)) :
    (∃ pid request resume, event = .step pid ∧
      pool.tasks[pid]? = some ⟨request, .await (.inl (.sseEmit key name payload)) resume⟩) ∨
      event = .ambient .forwardOffer ∧ name = "ride_offer" ∧
        (key, payload) ∈ pool.world.state.offers := by
  cases event with
  | spawn request => cases emits
  | fault pid fault => cases emits
  | step pid =>
      obtain ⟨⟨request, rest⟩, found, calls⟩ := Option.bind_eq_some_iff.mp emits
      cases rest with
      | done outcome => cases calls
      | await call resume =>
          rcases call with call | call
          · cases call <;> cases calls
            exact Or.inl ⟨pid, request, resume, rfl, found⟩
          · cases call <;> cases calls
  | ambient change =>
      have moves := (Option.filter_eq_some_iff.mp emits).1
      cases change with
      | forwardOffer =>
          obtain ⟨⟨driverId, offered⟩, first, same⟩ := Option.map_eq_some_iff.mp moves
          cases same
          exact Or.inr ⟨rfl, rfl, List.mem_of_mem_head? first⟩
      | _ => cases moves

/-- The offers under way and the events that the streams have received are true. -/
structure Truths (P : Platform) (W : Wiring) (start : Deployment)
    (events : List DeploymentEvent) (pool : DeploymentPool) : Prop where
  offers : ∀ driverId payload, (driverId, payload) ∈ pool.world.state.offers →
    payload.event = "ride_offer" ∧
      Truthful P W (Deployment.once P W start events) (fun request => .inl request ∈ pool.requests)
        driverId payload
  streams : ∀ index stream, pool.world.state.board.streams[index]? = some stream →
    ∀ name payload, (name, payload) ∈ pool.world.state.board.events index →
      name = payload.event ∧
        Truthful P W (Deployment.once P W start events)
          (fun request => .inl request ∈ pool.requests) stream.key payload

theorem mem_offers_answer {pid : Nat} {broken : Option Fault} {d after : Deployment}
    {call : DeploymentCall} {reply : Except Fault (DeploymentValue call)} {driverId : String}
    {payload : Payload}
    (answered : (deployment P W).answer pid broken call d = some (reply, after))
    (offered : (driverId, payload) ∈ after.offers) :
    (driverId, payload) ∈ d.offers ∨ call = .inr (.publishOffer driverId payload) := by
  rw [(offers_answer answered).2] at offered
  rcases List.mem_append.mp offered with old | new
  · exact Or.inl old
  · split at new
    · exact Or.inr (sends_eq_some (Option.mem_toList.mp new))
    · cases new

theorem mem_offers_passing {d : Deployment} {change : Passing} {offer : String × Payload}
    (offered : offer ∈ (d.passing change).offers) : offer ∈ d.offers := by
  by_cases stays : change = .unsubscribe
  · subst stays
    cases offered
  · rw [(offers_passing d stays).1]
    exact List.mem_append_right _ offered

/-- What a task emits is true. -/
theorem truthful_of_emits (vacant : ∀ rideId driverId, ¬ start.Lists rideId driverId)
    (ran : Deployment.run P W (Pool.start start) events = some pool) {pid : Nat}
    {request : Request ⊕ Errand} (asked : request ∈ pool.requests) {key : String}
    {payload : Payload} (emits : Report.Emits P request (told pid pool.world.log) key payload) :
    Truthful P W (Deployment.once P W start events) (fun request => .inl request ∈ pool.requests)
      key payload := by
  cases payload with
  | driverLocation lat lng eta =>
      obtain ⟨driverId, ride, distanceKm, rfl, learns, keyEq, far, computed⟩ := emits
      refine ⟨driverId, ride, distanceKm, keyEq, asked, ?_, far, computed⟩
      apply (once_learned ran learns).mono
      rintro state ⟨broken, after, replied⟩
      exact serves_of_answer replied
  | driverEtaToPickup eta =>
      obtain ⟨rideId, ride, driverId, lat, lng, distanceKm, learns, keyEq, assigned, located,
        far, computed⟩ := emits
      refine ⟨driverId, ride, lat, lng, distanceKm, keyEq, ?_, ?_, far, computed⟩
      · exact (once_stores ran learns).2.mono fun _ stored => ⟨stored, assigned⟩
      · apply (once_learned ran located).mono
        rintro state ⟨broken, after, replied⟩
        exact located_of_answer replied
  | rideOffer rideId pickupLat pickupLng dropoffLat dropoffLng estimatedFare eta =>
      exact emits.elim
  | offerCancelled rideId =>
      obtain ⟨ride, members, rfl, learns, read, mem, other⟩ := emits
      obtain ⟨sameId, stored⟩ := once_stores ran learns
      refine ⟨?_, handled_of_run ran asked, ride, sameId, Ne.symm other, stored⟩
      obtain ⟨before, later, middle, rfl, ranBefore, broken, after, replied⟩ :=
        once_learned ran read
      obtain ⟨chosenRide, distanceKm, idEq, chosen⟩ :=
        listed_of_run vacant ranBefore (lists_of_answer replied mem)
      exact ⟨chosenRide, distanceKm, idEq, chosen.mono fun _ once => once.append _⟩

theorem requests_next {event : DeploymentEvent}
    (moved : Deployment.next P W pool event = some pool') {request : Request ⊕ Errand}
    (asked : request ∈ pool.requests) : request ∈ pool'.requests := by
  rcases (deployment P W).next_cases (machine_next_of_next moved) with
    ⟨other, _, rfl⟩ | ⟨_, _, advanced⟩ | ⟨_, _, rfl⟩
  · simp only [Pool.requests, List.map_append, List.mem_append]
    exact Or.inl asked
  · rwa [(deployment P W).requests_advance advanced]
  · exact asked

theorem Truths.next (truths : Truths P W start events pool)
    (aligned : pool.world.state.board.Aligned)
    (vacant : ∀ rideId driverId, ¬ start.Lists rideId driverId)
    (ran : Deployment.run P W (Pool.start start) events = some pool) {event : DeploymentEvent}
    (moved : Deployment.next P W pool event = some pool') :
    Truths P W start (events ++ [event]) pool' := by
  have stays : ∀ {key payload}, Truthful P W (Deployment.once P W start events)
      (fun request => .inl request ∈ pool.requests) key payload →
        Truthful P W (Deployment.once P W start (events ++ [event]))
          (fun request => .inl request ∈ pool'.requests) key payload :=
    fun truthful => truthful.mono (fun _ once => once.append _)
      fun _ asked => requests_next moved asked
  constructor
  · intro driverId payload offered
    rcases (deployment P W).next_cases (machine_next_of_next moved) with
      ⟨_, _, rfl⟩ | ⟨pid, broken, advanced⟩ | ⟨change, _, rfl⟩
    · exact (truths.offers _ _ offered).imp_right stays
    · obtain ⟨request, call, resume, reply, state, found, answered, rfl⟩ :=
        (deployment P W).advance_eq_some advanced
      rcases mem_offers_answer answered offered with old | rfl
      · exact (truths.offers _ _ old).imp_right stays
      · obtain ⟨ride, distanceKm, eta, waiting, chooses, computed, rfl⟩ := reports_of_run ran found
        refine ⟨rfl, stays ?_⟩
        exact ⟨ride, distanceKm, chosen_of_chooses ran waiting chooses, computed, rfl⟩
    · exact (truths.offers _ _ (mem_offers_passing offered)).imp_right stays
  · intro index stream found name payload received
    have steps := next_board moved
    cases moveEq : Deployment.streamMove pool event with
    | none =>
        simp only [moveEq, Option.toList_none, runSteps, Option.some.injEq] at steps
        rw [← steps] at found received
        exact (truths.streams index stream found name payload received).imp_right stays
    | some action =>
        simp only [moveEq, Option.toList_some, runSteps_cons, Option.bind_eq_some_iff] at steps
        obtain ⟨board, stepped, ended⟩ := steps
        obtain rfl : board = pool'.world.state.board := Option.some.inj ended
        cases before : pool.world.state.board.streams[index]? with
        | none =>
            -- A stream that has just opened has received nothing.
            have nothing := EventStreams.events_of_missing before
            rcases EventStreams.events_step aligned stepped index with
              same | ⟨_, _, _, _, refers, _⟩
            · rw [same, nothing] at received
              cases received
            · obtain ⟨owner, ownerFound, _⟩ := aligned.ownStream refers
              rw [before] at ownerFound
              cases ownerFound
        | some older =>
            obtain ⟨later, foundLater, sameKey, _⟩ := EventStreams.stream_kept stepped before
            obtain rfl : stream = later := Option.some.inj (found.symm.trans foundLater)
            rw [sameKey]
            rcases EventStreams.emission_of_grown aligned before stepped with
              same | ⟨emitted, emission, _, grown⟩
            · rw [same] at received
              exact (truths.streams index older before name payload received).imp_right stays
            · rw [grown] at received
              rcases List.mem_append.mp received with old | new
              · exact (truths.streams index older before name payload old).imp_right stays
              · obtain rfl := List.mem_singleton.mp new
                obtain rfl := EventStreams.emission_eq_some.mp emission
                rcases emits_of_streamMove moveEq with
                  ⟨pid, request, resume, rfl, task⟩ | ⟨_, rfl, offered⟩
                · obtain ⟨label, emits⟩ := reports_of_run ran task
                  have asked : request ∈ pool.requests :=
                    List.mem_map.mpr ⟨_, List.mem_of_getElem? task, rfl⟩
                  exact ⟨label, stays (truthful_of_emits vacant ran asked emits)⟩
                · obtain ⟨label, truthful⟩ := truths.offers _ _ offered
                  exact ⟨label.symm, stays truthful⟩

/-- Everything that any stream of the process has received, and every offer on its way,
was true at some moment of the run: offers are of waiting rides, with their coordinates and
their fare, to drivers whom a search around the pickup found, at the distance that the minutes
are computed from, and who were available; withdrawals go to drivers who were chosen so for
the ride, after its acceptance was published, and not to the one it was given to; positions
on the stream of a ride are posted by the driver whose ride it was when it was matched or in
progress.  Each event has the name that belongs to its document. -/
theorem streams_truthful (fresh : start.board = EventStreams.empty)
    (vacant : ∀ rideId driverId, ¬ start.Lists rideId driverId) (quiet : start.offers = [])
    (ran : Deployment.run P W (Pool.start start) events = some pool) :
    Truths P W start events pool := by
  have aligned : start.board.Aligned := by
    rw [fresh]
    exact EventStreams.aligned_empty
  apply runSteps_along ?_ ?_ ran
  · constructor
    · intro driverId payload offered
      simp [Pool.start, quiet] at offered
    · intro index stream found
      change start.board.streams[index]? = some stream at found
      rw [fresh] at found
      cases found
  · intro before middle event next ranBefore moved truths
    exact truths.next (Deployment.aligned_of_run ranBefore aligned) vacant ranBefore moved

end Runs

namespace SmallCity

/-- What ann and eve have been told when eve has accepted ann's ride. -/
theorem eveAccepts_truthful :
    ∃ pool, playAll eveAccepts = some pool ∧ pool.world.state.offers ≠ [] ∧
      Truths platform wiring (Deployment.opening store) eveAccepts pool := by
  obtain ⟨pool, played, checked⟩ := Option.map_eq_some_iff.mp
    (by decide +kernel : (playAll eveAccepts).map (fun pool =>
      decide (pool.world.state.offers ≠ [])) = some true)
  have empty : ∀ rideId driverId, ¬ (Deployment.opening store).Lists rideId driverId := by
    rintro rideId driverId ⟨listed, found, _⟩
    cases found
  exact ⟨pool, played, of_decide_eq_true checked, streams_truthful rfl empty rfl played⟩

end SmallCity

end RideHailing
