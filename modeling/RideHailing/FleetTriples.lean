import RideHailing.Fleet
import RideHailing.SoloTriples

/-!
# What the backend calls do to the fleet

One rule for each kind of call that a service awaits when it runs alone.  A call
that fails leaves the fleet as it was.
-/

namespace RideHailing

/-- The call does not write what the fleet shows. -/
def Call.unseen : Call → Bool
  | .driverMerge _ => false
  | .rideSave _ => false
  | .sadd _ => false
  | .srem _ => false
  | .lockAcquire => false
  | .lockRelease => false
  | _ => true

/-- The triple for a service whose calls are seen through the fleet. -/
abbrev FleetSolo (P : Platform) (failing : Bool) (pid : Nat) {α : Type} (fleet : Fleet)
    (action : Service α) (returns : α → Fleet → Prop)
    (raises : Failure → Fleet → Prop) : Prop :=
  (application P).Solo Store.fleet failing pid fleet action returns raises

variable {P : Platform} {failing : Bool} {pid : Nat} {fleet : Fleet}

theorem fleet_of_unseen {call : Call} {reply : Except Fault (Value call)}
    {before after : Store} (unseen : call.unseen = true)
    (performed : P.perform pid call before = some (reply, after)) :
    after.fleet = before.fleet := by
  rcases perform_cases performed with rfl | change
  · rfl
  · cases change <;> first | rfl | cases unseen

/-! ## Calls that are answered at once -/

section Answers

variable {awaited : Call} {store after : Store}

theorem finish_call {value : Value awaited}
    (performed : P.perform pid awaited store = ok value after) :
    (application P).finish pid (Service.call awaited) store = some (.ok value, after) := by
  rw [Service.call, finish_perform]
  change (P.perform pid awaited store).map _ = _
  rw [performed]
  rfl

theorem finish_refusedCall {fault : Fault}
    (performed : P.perform pid awaited store = some (.error fault, after)) :
    (application P).finish pid (Service.call awaited) store =
      some (.error (.fault fault), after) := by
  rw [Service.call, finish_perform]
  change (P.perform pid awaited store).map _ = _
  rw [performed]
  rfl

end Answers

/-! ## Services seen through any view -/

section Views

variable {V : Type} {view : Store → V} {seen : V} {raises : Failure → V → Prop}

/-- A call either is performed or, where failures are admitted, fails. -/
theorem solo_call {call : Call} {returns : Value call → V → Prop}
    (performed : ∀ state after result, view state = seen →
      P.perform pid call state = some (.ok result, after) → returns result (view after))
    (refused : ∀ state after fault, view state = seen →
      P.perform pid call state = some (.error fault, after) →
        raises (.fault fault) (view after))
    (broken : failing = true → ∀ fault, breakable call fault = true →
      raises (.fault fault) seen) :
    (application P).Solo view failing pid seen (Service.call call) returns raises := by
  apply solo_perform
  intro state broken? reply after looks fails answered
  cases broken? with
  | none =>
      cases reply with
      | ok result => exact performed state after result looks answered
      | error fault => exact refused state after fault looks answered
  | some fault =>
      obtain ⟨permitted, rfl, rfl⟩ := Machine.answer_broken answered
      rw [looks]
      exact broken (fails rfl) fault permitted

/-- A call that answers from the view and leaves the store alone. -/
theorem reads_solo {call : Call} {result : Value call}
    (answers : ∀ state, view state = seen →
      P.perform pid call state = some (.ok result, state))
    (raised : failing = true → ∀ failure, raises failure seen) :
    (application P).Solo view failing pid seen (Service.call call)
      (fun found after => after = seen ∧ found = result) raises := by
  apply solo_call
  · intro state after found looks performed
    cases (answers state looks).symm.trans performed
    exact ⟨looks, rfl⟩
  · intro state after fault looks performed
    cases (answers state looks).symm.trans performed
  · intro fails fault _
    exact raised fails _

/-- A call that the view does not show. -/
theorem kept_solo {call : Call}
    (kept : ∀ {state reply after}, P.perform pid call state = some (reply, after) →
      view after = view state)
    (raised : ∀ failure, raises failure seen) :
    (application P).Solo view failing pid seen (Service.call call)
      (fun _ after => after = seen) raises := by
  apply solo_call
  · intro state after result looks performed
    exact (kept performed).trans looks
  · intro state after fault looks performed
    rw [kept performed, looks]
    exact raised _
  · intro _ fault _
    exact raised _

theorem solo_ite {α : Type} {condition : Prop} [Decidable condition]
    {yes no : Service α} {returns : α → V → Prop}
    (whenTrue : condition →
      (application P).Solo view failing pid seen yes returns raises)
    (whenFalse : ¬ condition →
      (application P).Solo view failing pid seen no returns raises) :
    (application P).Solo view failing pid seen (if condition then yes else no)
      returns raises := by
  split
  · exact whenTrue ‹_›
  · exact whenFalse ‹_›

theorem reject_solo {α : Type} {status : Nat} {detail : String}
    {returns : α → V → Prop} (raised : ∀ failure, raises failure seen) :
    (application P).Solo view failing pid seen (Service.reject status detail : Service α)
      returns raises :=
  solo_raise (raised _)

/-- A guard rejects, or lets the service go on. -/
theorem guard_solo {α : Type} {condition : Prop} [Decidable condition]
    {status : Nat} {detail : String} {next : Service α} {returns : α → V → Prop}
    (raised : ∀ failure, raises failure seen)
    (goesOn : ¬ condition →
      (application P).Solo view failing pid seen next returns raises) :
    (application P).Solo view failing pid seen
      (if condition then Service.reject status detail else next) returns raises :=
  solo_ite (fun _ => reject_solo raised) goesOn

theorem compute_solo {α : Type} {computed : Except String α}
    (raised : ∀ failure, raises failure seen) :
    (application P).Solo view failing pid seen (Service.compute computed)
      (fun _ after => after = seen) raises := by
  cases computed with
  | ok value => exact solo_pure rfl
  | error name => exact solo_raise (raised _)

theorem decimal_solo {computed : Option Decimal}
    (raised : ∀ failure, raises failure seen) :
    (application P).Solo view failing pid seen (Service.decimal computed)
      (fun _ after => after = seen) raises := by
  cases computed with
  | some value => exact solo_pure rfl
  | none => exact solo_raise (raised _)

end Views

/-! ## The calls that the fleet shows -/

section Calls

variable {raises : Failure → Fleet → Prop}

theorem unseen_solo {call : Call} (unseen : call.unseen = true)
    (raised : ∀ failure, raises failure fleet) :
    FleetSolo P failing pid fleet (Service.call call)
      (fun _ after => after = fleet) raises :=
  kept_solo (fleet_of_unseen unseen) raised

theorem geoadd_solo {userId : String} {lat lng : Float64}
    (raised : ∀ failure, raises failure fleet) :
    FleetSolo P failing pid fleet (Service.call (.geoadd userId lat lng))
      (fun _ after => after = fleet ∧ P.geoAccepts lat lng = true) raises := by
  apply solo_call
  · intro state after result looks performed
    simp only [Platform.perform] at performed
    split at performed
    · rename_i located
      cases performed
      exact ⟨looks, located⟩
    · cases performed
  · intro state after fault looks performed
    rw [fleet_of_unseen rfl performed, looks]
    exact raised _
  · intro _ fault _
    exact raised _

theorem rideFindById_solo {rideId : String}
    (raised : ∀ failure, raises failure fleet) :
    FleetSolo P failing pid fleet (Service.call (.rideFindById rideId))
      (fun found after => after = fleet ∧ found = fleet.rides.find rideId) raises := by
  apply reads_solo
  · rintro state rfl
    rfl
  · exact fun _ => raised

theorem driverFindById_solo {userId : String}
    (raised : failing = true → ∀ failure, raises failure fleet) :
    FleetSolo P failing pid fleet (Service.call (.driverFindById userId))
      (fun found after => after = fleet ∧ found = fleet.drivers.find userId)
      raises := by
  apply reads_solo
  · rintro state rfl
    rfl
  · exact raised

theorem driverExistsById_solo {userId : String}
    (raised : ∀ failure, raises failure fleet) :
    FleetSolo P failing pid fleet (Service.call (.driverExistsById userId))
      (fun found after => after = fleet ∧
        (found = false → fleet.drivers.find userId = none)) raises := by
  have reads : FleetSolo P failing pid fleet (Service.call (.driverExistsById userId))
      (fun found after => after = fleet ∧ found = (fleet.drivers.find userId).isSome)
      raises := by
    apply reads_solo
    · rintro state rfl
      rfl
    · exact fun _ => raised
  apply reads.returning
  rintro _ _ ⟨rfl, rfl⟩
  exact ⟨rfl, fun absent => Option.isSome_eq_false_iff.mp absent |> Option.isNone_iff_eq_none.mp⟩

/-- A call that makes one write and is never refused. -/
theorem write_solo {call : Call} {write : FleetWrite}
    (writes : ∀ state, ∃ result after, P.perform pid call state = some (.ok result, after) ∧
      after.fleet = state.fleet.write write)
    (raised : failing = true → ∀ failure, raises failure fleet) :
    FleetSolo P failing pid fleet (Service.call call)
      (fun _ after => after = fleet.write write) raises := by
  apply solo_call
  · intro state after result looks performed
    obtain ⟨_, _, answered, written⟩ := writes state
    cases answered.symm.trans performed
    rw [written, looks]
  · intro state after fault _ performed
    obtain ⟨_, _, answered, _⟩ := writes state
    cases answered.symm.trans performed
  · intro fails fault _
    exact raised fails _

theorem rideSave_solo {ride : Ride}
    (raised : failing = true → ∀ failure, raises failure fleet) :
    FleetSolo P failing pid fleet (Service.call (.rideSave ride))
      (fun _ after => after = fleet.write (.ride ride)) raises :=
  write_solo (fun _ => ⟨_, _, rfl, rfl⟩) raised

theorem sadd_solo {userId : String}
    (raised : failing = true → ∀ failure, raises failure fleet) :
    FleetSolo P failing pid fleet (Service.call (.sadd userId))
      (fun _ after => after = fleet.write (.listing userId true)) raises :=
  write_solo (fun _ => ⟨_, _, rfl, rfl⟩) raised

theorem srem_solo {userId : String}
    (raised : failing = true → ∀ failure, raises failure fleet) :
    FleetSolo P failing pid fleet (Service.call (.srem userId))
      (fun _ after => after = fleet.write (.listing userId false)) raises :=
  write_solo (fun _ => ⟨_, _, rfl, rfl⟩) raised

/-- The row of a driver who has one is never refused. -/
theorem driverMerge_solo {driver : Driver}
    (raised : failing = true ∨ fleet.drivers.find driver.userId = none →
      ∀ failure, raises failure fleet) :
    FleetSolo P failing pid fleet (Service.call (.driverMerge driver))
      (fun _ after => after = fleet.write (.driver driver)) raises := by
  apply solo_call
  · intro state after result looks performed
    simp only [Platform.perform] at performed
    split at performed
    · cases performed
    · cases performed
      rw [← looks]
      rfl
  · intro state after fault looks performed
    simp only [Platform.perform] at performed
    split at performed
    · rename_i unknown
      cases performed
      rw [looks]
      refine raised (Or.inr ?_) _
      rw [← looks]
      exact Option.isNone_iff_eq_none.mp unknown.1
    · cases performed
  · intro fails fault _
    exact raised (Or.inl fails) _

theorem lockAcquire_solo :
    FleetSolo P failing pid fleet (Service.call .lockAcquire)
      (fun _ after => fleet.acceptLock = none ∧
        after = fleet.lockedBy (some pid)) raises := by
  apply solo_call
  · intro state after result looks performed
    simp only [Platform.perform] at performed
    split at performed
    · rename_i free
      cases performed
      rw [← looks]
      exact ⟨Option.isNone_iff_eq_none.mp free, rfl⟩
    · cases performed
  · intro state after fault _ performed
    simp only [Platform.perform] at performed
    split at performed <;> cases performed
  · intro _ fault absurdFault
    cases absurdFault

theorem lockRelease_solo :
    FleetSolo P failing pid fleet (Service.call .lockRelease)
      (fun _ after => after = fleet.lockedBy none) raises := by
  apply solo_call
  · intro state after result looks performed
    cases performed
    rw [← looks]
    rfl
  · intro state after fault _ performed
    cases performed
  · intro _ fault absurdFault
    cases absurdFault

end Calls

end RideHailing
