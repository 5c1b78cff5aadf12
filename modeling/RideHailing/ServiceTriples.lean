import RideHailing.BackendTriples

/-!
# Triples for the services

Every method of the services, run as a task among others, keeps to the law.
The triples of the methods that write say in addition what they have written
when they return, and what they have not when they raise.
-/

namespace RideHailing

variable {P : Platform} {init : Store} {pid : Nat} {request : Request}
variable {pre post : History → Prop} {exits : Failure → History → Prop}

/-! ## Calls that write or read a row -/

theorem driverFindById_triple {userId : String}
    (framed : Framed P init pid request pre)
    (broken : ∀ failure call log, pre log →
      exits failure (⟨pid, request, call, .error .outage⟩ :: log)) :
    (rules P init).Triple pid request pre (Service.call (.driverFindById userId))
      (fun found log => pre log ∧ driverSeen init pid userId log = found ∧
        storedDriver init userId log = found) exits := by
  apply HistoryRules.triple_perform framed.stable
  · intro log reply _ _ _
    trivial
  · intro log found _ holds answers
    have foundEq := answers_driverFindById answers
    refine ⟨framed.quiet _ _ log rfl holds, ?_, ?_⟩
    · rw [foundEq, driverSeen_cons]
      simp [Call.readsDriver]
    · rw [foundEq]
      exact storedDriver_cons userId _ log
  · intro log fault _ holds answers
    rw [outage_of_steady rfl answers]
    exact broken _ _ log holds

theorem rideSave_triple {ride : Ride}
    (stable : (rules P init).Stable pid request pre)
    (lawful : ∀ log reply, Lawful (law init) log → pre log →
      law init ⟨pid, request, .rideSave ride, reply⟩ log)
    (saves : ∀ log value, Lawful (law init) log → pre log →
      post (⟨pid, request, .rideSave ride, .ok value⟩ :: log))
    (broken : ∀ failure call log, pre log →
      exits failure (⟨pid, request, call, .error .outage⟩ :: log)) :
    (rules P init).Triple pid request pre (Service.call (.rideSave ride))
      (fun _ => post) exits := by
  apply HistoryRules.triple_perform stable
  · intro log reply lawfulLog holds _
    exact lawful log reply lawfulLog holds
  · intro log value lawfulLog holds _
    exact saves log value lawfulLog holds
  · intro log fault _ holds answers
    rw [outage_of_steady rfl answers]
    exact broken _ _ log holds

/-! ## `dispatch.py`, `pricing.py` -/

theorem compute_triple {α : Type} {computed : Except String α}
    (refuse : ∀ failure log, pre log → exits failure log) :
    (rules P init).Triple pid request pre (Service.compute computed)
      (fun _ => pre) exits := by
  cases computed with
  | ok value => exact HistoryRules.triple_pure fun _ _ holds => holds
  | error name => exact HistoryRules.triple_raise fun log holds => refuse _ log holds

theorem decimal_triple {computed : Option Decimal}
    (refuse : ∀ failure log, pre log → exits failure log) :
    (rules P init).Triple pid request pre (Service.decimal computed)
      (fun _ => pre) exits := by
  cases computed with
  | some value => exact HistoryRules.triple_pure fun _ _ holds => holds
  | none => exact HistoryRules.triple_raise fun log holds => refuse _ log holds

theorem findNearbyAvailableDrivers_triple {lat lng radiusKm : Float64}
    (framed : Framed P init pid request pre)
    (refuse : ∀ failure log, pre log → exits failure log) :
    (rules P init).Triple pid request pre
      (findNearbyAvailableDrivers lat lng radiusKm) (fun _ => pre) exits := by
  unfold findNearbyAvailableDrivers
  refine (quiet_triple rfl framed refuse).bind fun results => ?_
  apply triple_ite
  · intro _
    exact HistoryRules.triple_pure fun _ _ holds => holds
  · intro _
    refine (quiet_triple rfl framed refuse).bind fun available => ?_
    exact HistoryRules.triple_pure fun _ _ holds => holds

theorem getSurgeMultiplier_triple {lat lng : Float64}
    {pendingRides availableDrivers : Nat}
    (framed : Framed P init pid request pre)
    (refuse : ∀ failure log, pre log → exits failure log) :
    (rules P init).Triple pid request pre
      (PricingService.getSurgeMultiplier lat lng pendingRides availableDrivers)
      (fun _ => pre) exits := by
  unfold PricingService.getSurgeMultiplier
  refine (quiet_triple rfl framed refuse).bind fun cached => ?_
  cases cached with
  | some multiplier => exact HistoryRules.triple_pure fun _ _ holds => holds
  | none =>
      refine (decimal_triple refuse).bind fun multiplier => ?_
      refine (quiet_triple rfl framed refuse).bind fun _ => ?_
      exact HistoryRules.triple_pure fun _ _ holds => holds

theorem getFareQuote_triple {pickupLat pickupLng dropoffLat dropoffLng : Float64}
    {pendingRides availableDrivers : Nat}
    (framed : Framed P init pid request pre)
    (refuse : ∀ failure log, pre log → exits failure log) :
    (rules P init).Triple pid request pre
      (PricingService.getFareQuote P pickupLat pickupLng dropoffLat dropoffLng
        pendingRides availableDrivers)
      (fun _ => pre) exits := by
  unfold PricingService.getFareQuote
  refine (compute_triple refuse).bind fun distanceKm => ?_
  refine (getSurgeMultiplier_triple framed refuse).bind fun surge => ?_
  refine (decimal_triple refuse).bind fun fare => ?_
  exact HistoryRules.triple_pure fun _ _ holds => holds

theorem calculateFare_triple {ride : Ride} (framed : Framed P init pid request pre)
    (refuse : ∀ failure log, pre log → exits failure log) :
    (rules P init).Triple pid request pre (RideService.calculateFare P ride)
      (fun _ => pre) exits := by
  unfold RideService.calculateFare
  refine (quiet_triple rfl framed refuse).bind fun pendingRides => ?_
  refine (findNearbyAvailableDrivers_triple framed refuse).bind fun nearby => ?_
  refine (getFareQuote_triple framed refuse).bind fun quote => ?_
  exact HistoryRules.triple_pure fun _ _ holds => holds

/-! ## `repositories/driver.py`, `services/driver.py` -/

theorem driverRepositorySave_triple {driver : Driver}
    (stable : (rules P init).Stable pid request pre)
    (lawful : ∀ log, Lawful (law init) log → pre log →
      DriverLaw init pid request log driver)
    (saves : ∀ log value, Lawful (law init) log → pre log →
      post (⟨pid, request, .driverMerge driver, .ok value⟩ :: log))
    (framed : Framed P init pid request post)
    (refuse : ∀ log fault, Lawful (law init) log → pre log →
      (rules P init).Answers pid (.driverMerge driver) (.error fault) log →
        exits (.fault fault) (⟨pid, request, .driverMerge driver, .error fault⟩ :: log))
    (broken : ∀ failure call log, post log →
      exits failure (⟨pid, request, call, .error .outage⟩ :: log)) :
    (rules P init).Triple pid request pre (DriverRepository.save driver)
      (fun _ => post) exits := by
  unfold DriverRepository.save
  have merges : (rules P init).Triple pid request pre
      (Service.call (.driverMerge driver)) (fun _ => post) exits := by
    apply HistoryRules.triple_perform stable
    · intro log reply lawfulLog holds _
      exact lawful log lawfulLog holds
    · intro log value lawfulLog holds _
      exact saves log value lawfulLog holds
    · intro log fault lawfulLog holds answers
      exact refuse log fault lawfulLog holds answers
  refine merges.bind fun saved => ?_
  apply triple_ite
  · intro _
    refine (steady_triple rfl rfl framed broken).bind fun _ => ?_
    exact HistoryRules.triple_pure fun _ _ holds => holds
  · intro _
    refine (steady_triple rfl rfl framed broken).bind fun _ => ?_
    exact HistoryRules.triple_pure fun _ _ holds => holds

theorem getProfile_triple {userId : String} (framed : Framed P init pid request pre)
    (refuse : ∀ failure log, pre log → exits failure log)
    (broken : ∀ failure call log, pre log →
      exits failure (⟨pid, request, call, .error .outage⟩ :: log)) :
    (rules P init).Triple pid request pre (DriverService.getProfile userId)
      (fun _ => pre) exits := by
  unfold DriverService.getProfile
  refine (steady_triple rfl rfl framed broken).bind fun found => ?_
  cases found with
  | none => exact reject_triple refuse
  | some driver => exact HistoryRules.triple_pure fun _ _ holds => holds

/-- Writing back a driver with another availability, when the law allows it. -/
theorem markById_triple {isAvailable : Bool} {userId : String}
    (framed : Framed P init pid request pre)
    (lawful : ∀ log driver, Lawful (law init) log → pre log →
      driver.userId = userId → AvailabilityLaw init pid log isAvailable driver →
        DriverLaw init pid request log driver)
    (saves : ∀ log driver value, Lawful (law init) log → pre log →
      driver.userId = userId → driver.isAvailable = isAvailable →
        post (⟨pid, request, .driverMerge driver, .ok value⟩ :: log))
    (framedPost : Framed P init pid request post)
    (absent : ∀ failure log, Lawful (law init) log → pre log →
      storedDriver init userId log = none → exits failure log)
    (broken : ∀ failure call log, pre log ∨ post log →
      exits failure (⟨pid, request, call, .error .outage⟩ :: log)) :
    (rules P init).Triple pid request pre (DriverService.markById isAvailable userId)
      (fun _ => post) exits := by
  unfold DriverService.markById
  refine (driverFindById_triple framed fun failure call log holds =>
    broken failure call log (Or.inl holds)).bind fun found => ?_
  cases found with
  | none =>
      intro world good holds
      exact ⟨good, absent _ _ good.2 holds.1 holds.2.2⟩
  | some driver =>
      have stablePre : (rules P init).Stable pid request fun log =>
          pre log ∧ driverSeen init pid userId log = some driver :=
        framed.stable.and (stable_driverSeen userId driver)
      have writes : (rules P init).Triple pid request
          (fun log => pre log ∧ driverSeen init pid userId log = some driver)
          (DriverRepository.save { driver with isAvailable := isAvailable })
          (fun _ => post) exits := by
        apply driverRepositorySave_triple stablePre ?_ ?_ framedPost ?_
          fun failure call log holds => broken failure call log (Or.inr holds)
        · intro log lawfulLog holds
          have idEq := userId_of_driverSeen holds.2
          exact lawful log _ lawfulLog holds.1 idEq
            ⟨driver, by rw [← holds.2, ← idEq], rfl⟩
        · intro log value lawfulLog holds
          have idEq := userId_of_driverSeen holds.2
          exact saves log _ value lawfulLog holds.1 idEq rfl
        · intro log fault lawfulLog holds answers
          have idEq := userId_of_driverSeen holds.2
          rw [outage_of_driverMerge answers (by rw [← holds.2, ← idEq])]
          exact broken _ _ log (Or.inl holds.1)
      exact writes.strengthen fun log holds => ⟨holds.1, holds.2.1⟩

/-! ## `services/ride.py` -/

/-- Reading a ride returns the row that is stored at that moment. -/
theorem getRide_reads {rideId : String} {returns : Ride → History → Prop}
    (stable : (rules P init).Stable pid request pre)
    (found : ∀ ride log, Lawful (law init) log → pre log →
      storedRide init rideId log = some ride →
        returns ride (⟨pid, request, .rideFindById rideId, .ok (some ride)⟩ :: log))
    (refuse : ∀ failure reply log, pre log →
      exits failure (⟨pid, request, .rideFindById rideId, reply⟩ :: log)) :
    (rules P init).Triple pid request pre (RideService.getRide rideId)
      returns exits := by
  have reads : (rules P init).Triple pid request pre
      (Service.call (.rideFindById rideId))
      (fun result log => result.elim (∀ failure, exits failure log)
        fun ride => returns ride log) exits := by
    apply HistoryRules.triple_perform stable
    · intro log reply _ _ _
      trivial
    · intro log result lawfulLog holds answers
      have stored := answers_rideFindById answers
      cases result with
      | none => exact fun failure => refuse failure _ log holds
      | some ride => exact found ride log lawfulLog holds stored.symm
    · intro log fault _ holds _
      exact refuse _ _ log holds
  unfold RideService.getRide
  refine reads.bind fun result => ?_
  cases result with
  | none => exact reject_triple fun failure log holds => holds failure
  | some ride => exact HistoryRules.triple_pure fun _ _ holds => holds

theorem getRide_triple {rideId : String}
    (stable : (rules P init).Stable pid request pre)
    (kept : ∀ reply log, pre log →
      pre (⟨pid, request, .rideFindById rideId, reply⟩ :: log))
    (refuse : ∀ failure log, pre log → exits failure log) :
    (rules P init).Triple pid request pre (RideService.getRide rideId)
      (fun ride log => pre log ∧ rideSeen init pid rideId log = some ride) exits := by
  apply getRide_reads stable
  · intro ride log _ holds stored
    refine ⟨kept _ log holds, ?_⟩
    rw [rideSeen_cons, if_pos (by simp [Call.readsRide]), stored]
  · intro failure reply log holds
    exact refuse failure _ (kept reply log holds)

/-! ## The accept lock -/

theorem lockAcquire_triple (stable : (rules P init).Stable pid request pre)
    (acquired : ∀ log value, pre log →
      post (⟨pid, request, .lockAcquire, .ok value⟩ :: log)) :
    (rules P init).Triple pid request pre (Service.call .lockAcquire)
      (fun _ => post) exits := by
  apply HistoryRules.triple_perform stable
  · intro log reply _ _ answers
    exact (answers_lockAcquire answers).1
  · intro log value _ holds _
    exact acquired log value holds
  · intro log fault _ _ answers
    obtain ⟨value, absurdReply⟩ := (answers_lockAcquire answers).2
    cases absurdReply

theorem lockRelease_triple (stable : (rules P init).Stable pid request pre)
    (owned : ∀ log, pre log → lockOwner log = some pid)
    (released : ∀ log value, pre log →
      post (⟨pid, request, .lockRelease, .ok value⟩ :: log)) :
    (rules P init).Triple pid request pre (Service.call .lockRelease)
      (fun _ => post) exits := by
  apply HistoryRules.triple_perform stable
  · intro log reply _ holds _
    exact owned log holds
  · intro log value _ holds _
    exact released log value holds
  · intro log fault _ _ answers
    obtain ⟨value, absurdReply⟩ := answers_lockRelease answers
    cases absurdReply

end RideHailing
