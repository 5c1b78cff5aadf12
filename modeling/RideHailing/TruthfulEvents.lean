import RideHailing.ConsumerConduct
import RideHailing.StreamHistories
import RideHailing.Transcripts

/-!
# What clients are told is true

Every event on an event stream learns what was so at some moment: an offer is of a ride that
waited, to a driver who was near and available; a withdrawal is of an offer that its driver
was chosen for; a position is one that the driver of the ride has posted, and the minutes
are those to the pickup or the dropoff of the stored ride.
-/

namespace RideHailing

open Background

/-- The name under which a document is put on an event stream. -/
def Payload.event : Payload → String
  | .driverLocation _ _ _ => "driver_location"
  | .driverEtaToPickup _ => "driver_eta_to_pickup"
  | .rideOffer _ _ _ _ _ _ _ => "ride_offer"
  | .offerCancelled _ => "offer_cancelled"

/-! ## What a task may report -/

/-- The calls of a task of the process and the replies it got. -/
abbrev Report : Type :=
  List (Answered DeploymentValue Fault)

namespace Report

/-- The call has been answered with this value. -/
def Learns (report : Report) (call : DeploymentCall) (value : DeploymentValue call) : Prop :=
  ⟨call, .ok value⟩ ∈ report

/-- The search around the pickup has found the driver at this distance, and available. -/
def Chooses (report : Report) (ride : Ride) (driverId : String) (distanceKm : Float64) : Prop :=
  ∃ results flags,
    report.Learns (.inl (.geosearch ride.pickupLat ride.pickupLng defaultSearchRadiusKm
      maxResults)) results ∧
    report.Learns (.inl (.smismember (results.map Prod.fst))) flags ∧
    ((driverId, distanceKm), true) ∈ results.zip flags

/-- The search around the pickup has found these drivers and no others, and available. -/
def Searches (report : Report) (ride : Ride) (nearby : List NearbyDriver) : Prop :=
  ∃ results flags,
    report.Learns (.inl (.geosearch ride.pickupLat ride.pickupLng defaultSearchRadiusKm
      maxResults)) results ∧
    (results = [] ∨ report.Learns (.inl (.smismember (results.map Prod.fst))) flags) ∧
    ∀ driver, driver ∈ nearby ↔
      ((driver.driverId, driver.distanceKm), true) ∈ results.zip flags

/-- Everybody whom the search has found has been offered the ride. -/
def OffersAll (W : Wiring) (report : Report) (ride : Ride) : Prop :=
  ∃ nearby, report.Searches ride nearby ∧
    ∀ driver ∈ nearby, ∃ eta, etaMinutes driver.distanceKm = .ok eta ∧
      report.Learns (.inr (.publishOffer driver.driverId (offerPayload W ride eta))) ()

/-- The ride has been looked up, and offered to everybody nearby if it was waiting. -/
def Dispatches (W : Wiring) (report : Report) (rideId : String) : Prop :=
  ∃ found, report.Learns (.inl (.rideFindById rideId)) found ∧
    ∀ ride, found = some ride → ride.status = .requested → report.OffersAll W ride

/-- The handler of a ride-requested message has found this ride waiting. -/
def FindsWaiting (report : Report) (request : Request ⊕ Errand) (ride : Ride) : Prop :=
  ∃ rideId, request = .inr (.handle .rideRequested rideId) ∧
    report.Learns (.inl (.rideFindById rideId)) (some ride) ∧ ride.status = .requested

theorem Learns.mono {report later : Report} {call : DeploymentCall} {value : DeploymentValue call}
    (learns : report.Learns call value) (grown : report ⊆ later) : later.Learns call value :=
  grown learns

theorem Chooses.mono {report later : Report} {ride : Ride} {driverId : String}
    {distanceKm : Float64} (chooses : report.Chooses ride driverId distanceKm)
    (grown : report ⊆ later) : later.Chooses ride driverId distanceKm := by
  obtain ⟨results, flags, searched, asked, chosen⟩ := chooses
  exact ⟨results, flags, searched.mono grown, asked.mono grown, chosen⟩

theorem Searches.mono {report later : Report} {ride : Ride} {nearby : List NearbyDriver}
    (searches : report.Searches ride nearby) (grown : report ⊆ later) :
    later.Searches ride nearby := by
  obtain ⟨results, flags, found, asked, listed⟩ := searches
  exact ⟨results, flags, found.mono grown, asked.imp_right fun learns => learns.mono grown,
    listed⟩

theorem Searches.chooses {report : Report} {ride : Ride} {nearby : List NearbyDriver}
    (searches : report.Searches ride nearby) {driver : NearbyDriver} (mem : driver ∈ nearby) :
    report.Chooses ride driver.driverId driver.distanceKm := by
  obtain ⟨results, flags, found, asked, listed⟩ := searches
  have inside := (listed driver).mp mem
  rcases asked with rfl | learns
  · cases inside
  · exact ⟨results, flags, found, learns, inside⟩

theorem FindsWaiting.mono {report later : Report} {request : Request ⊕ Errand} {ride : Ride}
    (waiting : report.FindsWaiting request ride) (grown : report ⊆ later) :
    later.FindsWaiting request ride := by
  obtain ⟨rideId, handled, found, status⟩ := waiting
  exact ⟨rideId, handled, found.mono grown, status⟩

/-- The task of this request may put the document on the stream of this key. -/
def Emits (P : Platform) (request : Request ⊕ Errand) (report : Report) (key : String) :
    Payload → Prop
  | .driverLocation lat lng eta => ∃ driverId ride distanceKm,
      request = .inl (.updateLocation driverId lat lng) ∧
      report.Learns (.inl (.rideFindFirstByDriverIdAndStatusIn driverId servingRideStatuses))
        (some ride) ∧
      key = ride.id ∧ P.haversineKm lat lng ride.dropoffLat ride.dropoffLng = .ok distanceKm ∧
      etaMinutes distanceKm = .ok eta
  | .driverEtaToPickup eta => ∃ rideId ride driverId lat lng distanceKm,
      report.Learns (.inl (.rideFindById rideId)) (some ride) ∧ key = ride.id ∧
      ride.driverId = some driverId ∧
      report.Learns (.inr (.geopos driverId)) (some (lat, lng)) ∧
      P.haversineKm lat lng ride.pickupLat ride.pickupLng = .ok distanceKm ∧
      etaMinutes distanceKm = .ok eta
  | .rideOffer _ _ _ _ _ _ _ => False
  | .offerCancelled rideId => ∃ ride members,
      request = .inr (.handle .rideAccepted rideId) ∧
      report.Learns (.inl (.rideFindById rideId)) (some ride) ∧
      report.Learns (.inr (.dispatchedMembers rideId)) members ∧
      key ∈ members ∧ some key ≠ ride.driverId

/-- The task of this request may make this call next. -/
def allows (P : Platform) (W : Wiring) (request : Request ⊕ Errand) (report : Report) :
    DeploymentCall → Prop
  | .inl (.sseEmit key event payload) =>
      event = payload.event ∧ report.Emits P request key payload
  | .inr (.dispatchedAdd rideId driverIds) => ∃ ride,
      report.FindsWaiting request ride ∧ rideId = ride.id ∧
      ∀ driverId ∈ driverIds, ∃ distanceKm, report.Chooses ride driverId distanceKm
  | .inr (.publishOffer driverId payload) => ∃ ride distanceKm eta,
      report.FindsWaiting request ride ∧ report.Chooses ride driverId distanceKm ∧
      etaMinutes distanceKm = .ok eta ∧ payload = offerPayload W ride eta
  | _ => True

/-- The call reports nothing to anybody. -/
def silent : DeploymentCall → Bool
  | .inl (.sseEmit _ _ _) => false
  | .inr (.dispatchedAdd _ _) => false
  | .inr (.publishOffer _ _) => false
  | _ => true

theorem allowed_of_silent {P : Platform} {W : Wiring} {request : Request ⊕ Errand}
    {call : DeploymentCall} (quiet : silent call = true) (report : Report) :
    report.allows P W request call := by
  rcases call with call | call
  · cases call <;> trivial
  · cases call <;> trivial

end Report

/-- The task of this request makes calls that its transcript allows. -/
abbrev Reports (P : Platform) (W : Wiring) (request : Request ⊕ Errand) (report : Report)
    {α : Type} (action : Background α) (returns : α → Report → Prop) : Prop :=
  Informs (Report.allows P W request) report action returns

/-- The action reports nothing to anybody. -/
abbrev Silent {α : Type} (action : Background α) : Prop :=
  AwaitProgram.Only (fun call => Report.silent call = true) action

section Programs

variable {P : Platform} {W : Wiring} {request : Request ⊕ Errand} {report : Report} {α β : Type}

theorem reports_of_silent {action : Background α} (only : Silent action) :
    Reports P W request report action fun _ _ => True :=
  informs_of_only (only.mono fun _ quiet report => Report.allowed_of_silent quiet report)

theorem reports_compute (computed : Except String α) :
    Reports P W request report (compute computed) fun value _ => computed = .ok value := by
  cases computed with
  | ok value => exact informs_pure rfl
  | error name => exact informs_raise _

theorem reports_call {call : DeploymentCall} (allowed : report.allows P W request call) :
    Reports P W request report (Background.call call) fun value after =>
      after.Learns call value :=
  informs_call allowed

/-- A loop whose body is allowed for every item once the transcript is this long; what the
body leaves in the transcript for an item stays there. -/
theorem informs_forEach {allows : Report → DeploymentCall → Prop} {items : List α}
    {body : α → Background Unit} {leaves : α → Report → Prop}
    (kept : ∀ item note later, note ⊆ later → leaves item note → leaves item later)
    (each : ∀ item ∈ items, ∀ after, report ⊆ after →
      Informs allows after (body item) fun _ last => leaves item last) :
    Informs allows report (forEach items body) fun _ last =>
      ∀ item ∈ items, leaves item last := by
  induction items generalizing report with
  | nil => exact informs_pure fun item mem => by cases mem
  | cons item items ih =>
      apply informs_bind (each item List.mem_cons_self report (List.Subset.refl _))
      intro _ after grown left
      have others := ih fun other otherMem later longer =>
        each other (List.mem_cons_of_mem item otherMem) later (List.Subset.trans grown longer)
      apply others.mono
      intro _ last longer rest other mem
      rcases List.mem_cons.mp mem with rfl | later
      · exact kept other after last longer left
      · exact rest other later

/-- A loop whose body is allowed for every item once the transcript is this long. -/
theorem reports_forEach {items : List α} {body : α → Background Unit}
    (each : ∀ item ∈ items, ∀ after, report ⊆ after →
      Reports P W request after (body item) fun _ _ => True) :
    Reports P W request report (forEach items body) fun _ _ => True :=
  Informs.mono (informs_forEach (fun _ _ _ _ _ => trivial) each) fun _ _ _ _ => trivial

/-- The search names the drivers whom it has found. -/
theorem findNearby_reports (ride : Ride) :
    Reports P W request report
      (service (findNearbyAvailableDrivers ride.pickupLat ride.pickupLng
        defaultSearchRadiusKm))
      fun nearby after => after.Searches ride nearby := by
  refine ⟨trivial, fun found _ => ?_⟩
  rcases found with fault | results
  · trivial
  · cases results with
    | nil =>
        refine ⟨List.subset_cons_self _ _, [], [], List.mem_cons_self, Or.inl rfl, ?_⟩
        simp
    | cons first others =>
        refine ⟨trivial, fun asked _ => ?_⟩
        rcases asked with fault | flags
        · trivial
        · refine ⟨?_, first :: others, flags, List.mem_cons_of_mem _ List.mem_cons_self,
            Or.inr List.mem_cons_self, fun driver => ?_⟩
          · exact List.Subset.trans (List.subset_cons_self _ _) (List.subset_cons_self _ _)
          · constructor
            · intro mem
              obtain ⟨⟨⟨driverId, distanceKm⟩, available⟩, listed, kept⟩ :=
                List.mem_filterMap.mp mem
              cases available with
              | false => cases kept
              | true =>
                  cases kept
                  exact listed
            · intro listed
              exact List.mem_filterMap.mpr ⟨_, listed, rfl⟩

/-- The offers go to all drivers whom the search has found, and to nobody else. -/
theorem fanout_reports {ride : Ride} (waiting : report.FindsWaiting request ride) :
    Reports P W request report (fanoutToNearbyDrivers W ride) fun _ after =>
      after.OffersAll W ride := by
  apply informs_bind (findNearby_reports ride)
  intro nearby searched grown searches
  split
  · rename_i nobody
    apply informs_pure
    refine ⟨nearby, searches, fun driver mem => ?_⟩
    rw [List.isEmpty_iff.mp nobody] at mem
    cases mem
  · apply informs_bind (reports_call ?_)
    · intro _ listed grownOnce _
      apply informs_bind (reports_call (Report.allowed_of_silent rfl listed))
      intro _ expiring grownTwice _
      have offersAll : Reports P W request expiring
          (forEach nearby fun driver => do
            let eta ← compute (etaMinutes driver.distanceKm)
            call (.inr (.publishOffer driver.driverId (offerPayload W ride eta))))
          fun _ last => ∀ driver ∈ nearby, ∃ eta, etaMinutes driver.distanceKm = .ok eta ∧
            last.Learns (.inr (.publishOffer driver.driverId (offerPayload W ride eta))) () := by
        apply informs_forEach
        · rintro driver note later longer ⟨eta, computed, learns⟩
          exact ⟨eta, computed, learns.mono longer⟩
        · intro driver mem after longer
          apply informs_bind (reports_compute _)
          intro eta later grownLast computed
          have kept : searched ⊆ later := List.Subset.trans grownOnce
            (List.Subset.trans grownTwice (List.Subset.trans longer grownLast))
          have offered := @reports_call P W request later
            (.inr (.publishOffer driver.driverId (offerPayload W ride eta)))
            ⟨ride, driver.distanceKm, eta, waiting.mono (List.Subset.trans grown kept),
              (searches.chooses mem).mono kept, computed, rfl⟩
          exact offered.mono fun _ _ _ learns => ⟨eta, computed, learns⟩
      apply offersAll.mono
      intro _ last longer told
      exact ⟨nearby, searches.mono (List.Subset.trans grownOnce
        (List.Subset.trans grownTwice longer)), told⟩
    · refine ⟨ride, waiting.mono grown, rfl, ?_⟩
      intro driverId mem
      obtain ⟨driver, nearbyMem, rfl⟩ := List.mem_map.mp mem
      exact ⟨driver.distanceKm, searches.chooses nearbyMem⟩

theorem requested_reports (rideId : String) :
    Reports P W (.inr (.handle .rideRequested rideId)) report (handleRideRequested W rideId)
      fun _ after => after.Dispatches W rideId := by
  apply informs_bind (reports_call (Report.allowed_of_silent rfl report))
  intro found after _ learns
  cases found with
  | none =>
      apply informs_pure
      refine ⟨none, learns, fun ride found => ?_⟩
      cases found
  | some ride =>
      change Reports P W _ after (if _ then _ else _) _
      split
      · rename_i moved
        apply informs_pure
        refine ⟨some ride, learns, fun other found waiting => ?_⟩
        cases found
        exact absurd waiting moved
      · rename_i waiting
        have fanout := @fanout_reports P W _ after ride
          ⟨rideId, rfl, learns, by simpa using waiting⟩
        apply fanout.mono
        intro _ last longer told
        refine ⟨some ride, learns.mono longer, fun other found _ => ?_⟩
        cases found
        exact told

/-- The minutes to the pickup are those from a position of the assigned driver. -/
theorem announceEta_reports {rideId : String} {ride : Ride}
    (found : report.Learns (.inl (.rideFindById rideId)) (some ride)) :
    Reports P W request report (announceEta P ride) fun _ _ => True := by
  unfold announceEta
  cases assigned : ride.driverId with
  | none => exact informs_pure trivial
  | some driverId =>
      apply informs_bind (reports_call (Report.allowed_of_silent rfl report))
      intro position after grown learns
      cases position with
      | none => exact informs_pure trivial
      | some position =>
          obtain ⟨lat, lng⟩ := position
          apply informs_bind (reports_compute _)
          intro distanceKm measured grownOnce far
          apply informs_bind (reports_compute _)
          intro eta timed grownTwice computed
          have kept : after ⊆ timed := List.Subset.trans grownOnce grownTwice
          have told := @reports_call P W request timed
            (.inl (.sseEmit ride.id "driver_eta_to_pickup" (.driverEtaToPickup eta)))
            ⟨rfl, rideId, ride, driverId, lat, lng, distanceKm,
              found.mono (List.Subset.trans grown kept), rfl, assigned, learns.mono kept, far,
              computed⟩
          exact told.mono fun _ _ _ _ => trivial

theorem accepted_reports (rideId : String) :
    Reports P W (.inr (.handle .rideAccepted rideId)) report (handleRideAccepted P rideId)
      fun _ _ => True := by
  apply informs_bind (reports_call (Report.allowed_of_silent rfl report))
  intro found after _ learns
  cases found with
  | none => exact informs_pure trivial
  | some ride =>
      apply informs_bind (announceEta_reports learns)
      intro _ announced grown _
      apply informs_bind (reports_call (Report.allowed_of_silent rfl announced))
      intro members listed grownOnce read
      have tells : Reports P W (.inr (.handle .rideAccepted rideId)) listed
          (forEach members fun driverId =>
            if some driverId ≠ ride.driverId then
              call (.inl (.sseEmit driverId "offer_cancelled" (.offerCancelled rideId)))
            else pure ()) fun _ _ => True := by
        apply reports_forEach
        intro driverId mem later longer
        split
        · rename_i other
          have kept : announced ⊆ later := List.Subset.trans grownOnce longer
          have told := @reports_call P W (.inr (.handle .rideAccepted rideId)) later
            (.inl (.sseEmit driverId "offer_cancelled" (.offerCancelled rideId)))
            ⟨rfl, ride, members, rfl, learns.mono (List.Subset.trans grown kept),
              read.mono longer, mem, other⟩
          exact told.mono fun _ _ _ _ => trivial
        · exact informs_pure trivial
      apply informs_bind tells
      intro _ last _ _
      exact (reports_call (Report.allowed_of_silent rfl last)).mono fun _ _ _ _ => trivial

/-- The parts of a method of the requests, one after the other. -/
theorem service_bind (action : Service α) (next : α → Service β) :
    service (action >>= next) = (service action >>= fun result => service (next result)) := by
  change AwaitProgram.hosted (AwaitProgram.bind _ _) = AwaitProgram.bind _ _
  induction action with
  | done outcome => cases outcome <;> rfl
  | await call resume ih => exact congrArg (AwaitProgram.await _) (funext fun reply => ih reply)

theorem service_call (awaited : Call) :
    service (Service.call awaited) = Background.call (.inl awaited) := by
  refine congrArg (AwaitProgram.await (Sum.inl awaited)) (funext fun reply => ?_)
  cases reply <;> rfl

theorem service_compute (computed : Except String α) :
    service (Service.compute computed) = Background.compute computed := by
  cases computed <;> rfl

/-- The position on the stream is the one that the driver has posted. -/
theorem updateLocation_reports (driverId : String) (lat lng : Float64) :
    Reports P W (.inl (.updateLocation driverId lat lng)) report
      (service (DriverService.updateLocation P driverId lat lng)) fun _ _ => True := by
  have profile : Silent (service (DriverService.getProfile driverId)) :=
    AwaitProgram.Only.hosted ((getProfile_ordinary driverId).mono fun call ordinary => by
      cases call <;> first | rfl | cases ordinary)
  unfold DriverService.updateLocation
  rw [service_bind]
  apply informs_bind (reports_of_silent profile)
  intro _ looked _ _
  rw [service_bind, service_call]
  apply informs_bind (reports_call (Report.allowed_of_silent rfl looked))
  intro _ moved _ _
  rw [service_bind, service_call]
  apply informs_bind (reports_call (Report.allowed_of_silent rfl moved))
  intro serving found _ learns
  cases serving with
  | none => exact informs_pure trivial
  | some ride =>
      change Reports P W _ found (service (Service.compute _ >>= fun distanceKm => _)) _
      rw [service_bind, service_compute]
      apply informs_bind (reports_compute _)
      intro distanceKm measured grown far
      rw [service_bind, service_compute]
      apply informs_bind (reports_compute _)
      intro eta timed grownOnce computed
      rw [service_call]
      have told := @reports_call P W (.inl (.updateLocation driverId lat lng)) timed
        (.inl (.sseEmit ride.id "driver_location" (.driverLocation lat lng eta)))
        ⟨rfl, driverId, ride, distanceKm, rfl, learns.mono (List.Subset.trans grown grownOnce),
          rfl, far, computed⟩
      exact told.mono fun _ _ _ _ => trivial

theorem request_reports (request : Request) :
    Reports P W (.inl request) report (service (handler P request)) fun _ _ => True := by
  by_cases updates : ∃ driverId lat lng, request = .updateLocation driverId lat lng
  · obtain ⟨driverId, lat, lng, rfl⟩ := updates
    change Reports P W _ report
      (service (DriverService.updateLocation P driverId lat lng >>= fun _ => _)) _
    rw [service_bind]
    apply informs_bind (updateLocation_reports driverId lat lng)
    intro _ after _ _
    exact informs_pure trivial
  · have untracking := @handler_untracking P request fun driverId lat lng same =>
      updates ⟨driverId, lat, lng, same⟩
    exact reports_of_silent (AwaitProgram.Only.hosted (untracking.mono fun call quiet => by
      cases call <;> first | rfl | cases quiet))

theorem errand_reports (task : Errand) :
    Reports P W (.inr task) report (errand P W task) fun _ _ => True := by
  cases task with
  | handle topic rideId =>
      cases topic with
      | rideRequested =>
          exact Informs.mono (requested_reports rideId) fun _ _ _ _ => trivial
      | rideAccepted => exact accepted_reports rideId
      | rideCompleted =>
          apply reports_of_silent
          refine ⟨rfl, fun found => ?_⟩
          rcases found with fault | _ | ride
          · trivial
          · trivial
          · change Silent (if _ then _ else _)
            split
            · trivial
            · exact Action.only_perform _ rfl
      | rideCancelled =>
          apply reports_of_silent
          refine ⟨rfl, fun found => ?_⟩
          rcases found with fault | _ | ride
          · trivial
          · trivial
          · exact Action.only_perform _ rfl
  | retryOnce now =>
      apply informs_bind (reports_call (Report.allowed_of_silent rfl report))
      intro stale found _ _
      apply reports_forEach
      intro ride _ after _
      exact (reports_call (Report.allowed_of_silent rfl after)).mono fun _ _ _ _ => trivial
  | streamDriverLocation rideId userId =>
      have getRide : Silent (service (RideService.getRide rideId)) :=
        AwaitProgram.Only.hosted ((getRide_ordinary rideId).mono fun call ordinary => by
          cases call <;> first | rfl | cases ordinary)
      apply informs_bind (reports_of_silent getRide)
      intro ride after _ _
      change Reports P W _ after (if _ then _ else _) _
      split
      · exact informs_raise _
      · change Reports P W _ after (if _ then _ else _) _
        split
        · exact informs_raise _
        · exact (reports_call (Report.allowed_of_silent rfl after)).mono
            fun _ _ _ _ => trivial
  | streamOffers userId =>
      exact (reports_call (Report.allowed_of_silent rfl report)).mono fun _ _ _ _ => trivial

/-- Every task reports what it has been told. -/
theorem undertaking_reports (request : Request ⊕ Errand) :
    Reports P W request [] (undertaking P W request) fun _ _ => True := by
  cases request with
  | inl request => exact request_reports request
  | inr task =>
      apply informs_bind (errand_reports task)
      intro _ after _ _
      exact informs_pure trivial

end Programs

end RideHailing
