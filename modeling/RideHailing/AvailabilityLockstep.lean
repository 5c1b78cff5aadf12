import RideHailing.Application
import RideHailing.ErasedTasks
import Mathlib.Data.Option.Basic

/-!
# Requests that go by availability

Accepting, completing and cancelling a ride and going online or offline read of a
driver's row nothing but its availability.  In two stores that differ in users,
ratings and averages only, they go on in lockstep.
-/

namespace RideHailing

open Service

/-- The rows are of one driver, who is available in both or in neither. -/
structure Driver.Alike (driver driver' : Driver) : Prop where
  userId : driver.userId = driver'.userId
  isAvailable : driver.isAvailable = driver'.isAvailable

/-- The stores agree in rides and locations, in who is a user, in who is a driver and
available, and in whether the accept lock is held. -/
structure Store.Alike (store store' : Store) : Prop where
  users : ∀ userId, (store.users.find userId).isNone = (store'.users.find userId).isNone
  drivers : ∀ userId,
    Option.Rel Driver.Alike (store.drivers.find userId) (store'.drivers.find userId)
  rides : store.rides = store'.rides
  locations : store.locations = store'.locations
  available : store.available = store'.available
  acceptLock : store.acceptLock.isNone = store'.acceptLock.isNone

/-- Faults agree, and values as the relation says. -/
def RepliesAgree {ν ν' : Type} (values : ν → ν' → Prop) :
    Except Fault ν → Except Fault ν' → Prop
  | .ok value, .ok value' => values value value'
  | .error fault, .error fault' => fault = fault'
  | _, _ => False

/-- The calls of these requests that neither read nor write a driver's row. -/
def Call.shared : Call → Bool
  | .rideFindById _ => true
  | .rideSave _ => true
  | .sadd _ => true
  | .srem _ => true
  | .geoadd _ _ _ => true
  | .zrem _ => true
  | .publish _ _ => true
  | .lockAcquire => true
  | .lockRelease => true
  | .sseComplete _ => true
  | _ => false

/-- The calls that these requests make in lockstep. -/
inductive CallsAgree : Agreement Value Fault
  | same {call : Call} (shared : call.shared = true) : CallsAgree call call Eq
  | find (userId : String) :
      CallsAgree (.driverFindById userId) (.driverFindById userId)
        (RepliesAgree (Option.Rel Driver.Alike))
  | merge {driver driver' : Driver} (alike : driver.Alike driver') :
      CallsAgree (.driverMerge driver) (.driverMerge driver') (RepliesAgree Driver.Alike)

section Stores

variable {P : Platform} {pid : Nat} {broken : Option Fault} {store store' after : Store}

theorem Store.Alike.refl (store : Store) : store.Alike store where
  users _ := rfl
  drivers userId := by
    cases store.drivers.find userId with
    | none => exact Option.Rel.none
    | some driver => exact Option.Rel.some ⟨rfl, rfl⟩
  rides := rfl
  locations := rfl
  available := rfl
  acceptLock := rfl

theorem isNone_of_rel {rows : Driver → Driver → Prop} {found found' : Option Driver}
    (related : Option.Rel rows found found') : found.isNone = found'.isNone := by
  cases related <;> rfl

/-- A shared call does the same in both stores. -/
theorem shared_performs (pid' : Nat) {call : Call} {reply : Except Fault (Value call)}
    (shared : call.shared = true) (alike : store.Alike store')
    (performed : P.perform pid call store = some (reply, after)) :
    ∃ after', P.perform pid' call store' = some (reply, after') ∧ after.Alike after' := by
  cases call with
  | rideFindById rideId =>
      cases performed
      exact ⟨store', by rw [alike.rides]; rfl, alike⟩
  | rideSave ride =>
      cases performed
      exact ⟨_, rfl, { alike with rides := by rw [alike.rides] }⟩
  | sadd userId =>
      cases performed
      exact ⟨_, rfl, { alike with available := by rw [alike.available] }⟩
  | srem userId =>
      cases performed
      exact ⟨_, rfl, { alike with available := by rw [alike.available] }⟩
  | geoadd userId lat lng =>
      simp only [Platform.perform] at performed ⊢
      split at performed
      · rename_i accepted
        cases performed
        rw [if_pos accepted]
        exact ⟨_, rfl, { alike with locations := by rw [alike.locations] }⟩
      · rename_i refused
        cases performed
        rw [if_neg refused]
        exact ⟨_, rfl, alike⟩
  | zrem userId =>
      cases performed
      exact ⟨_, rfl, { alike with locations := by rw [alike.locations] }⟩
  | publish topic rideId =>
      cases performed
      exact ⟨_, rfl, { alike with }⟩
  | lockAcquire =>
      simp only [Platform.perform] at performed ⊢
      split at performed
      · rename_i free
        cases performed
        rw [alike.acceptLock] at free
        rw [if_pos free]
        exact ⟨_, rfl, { alike with acceptLock := rfl }⟩
      · cases performed
  | lockRelease =>
      cases performed
      exact ⟨_, rfl, { alike with acceptLock := rfl }⟩
  | sseComplete key =>
      cases performed
      exact ⟨_, rfl, { alike with }⟩
  | _ => cases shared

/-- The row is saved in both stores, or refused in both. -/
theorem merge_performs (pid' : Nat) {driver driver' : Driver} {reply : Except Fault Driver}
    (same : driver.Alike driver') (alike : store.Alike store')
    (performed : P.perform pid (.driverMerge driver) store = some (reply, after)) :
    ∃ reply' after', P.perform pid' (.driverMerge driver') store' =
        some (reply', after') ∧ RepliesAgree Driver.Alike reply reply' ∧
          after.Alike after' := by
  have known : ((store.drivers.find driver.userId).isNone = true ∧
      (store.users.find driver.userId).isNone = true) ↔
        ((store'.drivers.find driver'.userId).isNone = true ∧
          (store'.users.find driver'.userId).isNone = true) := by
    rw [isNone_of_rel (alike.drivers driver.userId), alike.users, same.userId]
  simp only [Platform.perform] at performed ⊢
  split at performed
  · rename_i missing
    cases performed
    rw [if_pos (known.mp missing)]
    exact ⟨_, _, rfl, rfl, alike⟩
  · rename_i present
    cases performed
    rw [if_neg (mt known.mpr present)]
    refine ⟨_, _, rfl, same, { alike with drivers := ?_ }⟩
    intro userId
    simp only [KeyedTable.find_save, same.userId]
    split
    · exact Option.Rel.some same
    · exact alike.drivers userId

end Stores

/-- What the requests that go by availability see of a store. -/
def availabilityLikeness (P : Platform) : Likeness (application P) where
  alike := Store.Alike
  agreement := CallsAgree
  answers := by
    intro pid' pid broken call call' replies state state' after reply agree alike answered
    cases broken with
    | some fault =>
        simp only [Machine.answer] at answered ⊢
        split at answered
        · rename_i breaks
          cases answered
          cases agree with
          | same shared =>
              rw [if_pos breaks]
              exact ⟨_, _, rfl, rfl, alike⟩
          | find userId =>
              have breaks' : (application P).breakable (.driverFindById userId) fault = true :=
                breaks
              rw [if_pos breaks']
              exact ⟨_, _, rfl, rfl, alike⟩
          | @merge driver driver' same =>
              have breaks' : (application P).breakable (.driverMerge driver') fault = true :=
                breaks
              rw [if_pos breaks']
              exact ⟨_, _, rfl, rfl, alike⟩
        · cases answered
    | none =>
        cases agree with
        | same shared =>
            obtain ⟨after', performed, alikeAfter⟩ := shared_performs pid' shared alike answered
            exact ⟨reply, after', performed, rfl, alikeAfter⟩
        | find userId =>
            cases answered
            exact ⟨_, _, rfl, alike.drivers userId, alike⟩
        | @merge driver driver' same =>
            have performed : P.perform pid (.driverMerge driver) state =
                some (reply, after) := answered
            exact merge_performs pid' same alike performed
  ambient := fun alike => { alike with }

/-! ## Lockstep -/

/-- Both services return, with results as the relation says, or both raise. -/
def BothEnd {α α' : Type} (returns : α → α' → Prop) :
    Except Failure α → Except Failure α' → Prop
  | .ok result, .ok result' => returns result result'
  | .error _, .error _ => True
  | _, _ => False

/-- The services go on in lockstep. -/
abbrev InStep {α α' : Type} (returns : α → α' → Prop) (action : Service α)
    (action' : Service α') : Prop :=
  AwaitProgram.Lockstep CallsAgree (BothEnd returns) action action'

section Rules

variable {α α' β β' : Type} {action : Service α} {action' : Service α'}

theorem inStep_bind {next : α → Service β} {next' : α' → Service β'}
    {middle : α → α' → Prop} {last : β → β' → Prop} (first : InStep middle action action')
    (second : ∀ result result', middle result result' →
      InStep last (next result) (next' result')) :
    InStep last (action >>= next) (action' >>= next') := by
  apply AwaitProgram.Lockstep.bind first
  rintro (failure | result) (failure' | result') ended
  · exact AwaitProgram.Lockstep.done trivial
  · exact ended.elim
  · exact ended.elim
  · exact second result result' ended

theorem inStep_pure {returns : α → α' → Prop} {result : α} {result' : α'}
    (matched : returns result result') :
    InStep returns (pure result : Service α) (pure result' : Service α') :=
  AwaitProgram.Lockstep.done matched

theorem inStep_raise {returns : α → α' → Prop} (failure failure' : Failure) :
    InStep returns (raise failure : Service α) (raise failure' : Service α') :=
  AwaitProgram.Lockstep.done trivial

theorem inStep_guard {condition : Prop} [Decidable condition] {status : Nat}
    {detail : String} {returns : α → α' → Prop} (goesOn : InStep returns action action') :
    InStep returns (if condition then reject status detail else action)
      (if condition then reject status detail else action') := by
  split
  · exact inStep_raise _ _
  · exact goesOn

theorem inStep_call {call call' : Call} {values : Value call → Value call' → Prop}
    (agree : CallsAgree call call' (RepliesAgree values)) :
    InStep values (Service.call call) (Service.call call') := by
  apply AwaitProgram.Lockstep.await agree
  rintro (fault | value) (fault' | value') replied
  · exact AwaitProgram.Lockstep.done trivial
  · exact replied.elim
  · exact replied.elim
  · exact AwaitProgram.Lockstep.done replied

theorem inStep_same {call : Call} (shared : call.shared = true) :
    InStep Eq (Service.call call) (Service.call call) := by
  apply AwaitProgram.Lockstep.await (CallsAgree.same shared)
  rintro reply _ rfl
  cases reply with
  | error fault => exact AwaitProgram.Lockstep.done trivial
  | ok value => exact AwaitProgram.Lockstep.done rfl

/-- After a shared call both services go on with the same value. -/
theorem inStep_skip {call : Call} {next : Value call → Service β}
    {next' : Value call → Service β'} {last : β → β' → Prop} (shared : call.shared = true)
    (goesOn : ∀ value, InStep last (next value) (next' value)) :
    InStep last (Service.call call >>= next) (Service.call call >>= next') := by
  apply inStep_bind (inStep_same shared)
  rintro value _ rfl
  exact goesOn value

theorem inStep_lock (body : InStep (fun _ _ => True) action action') :
    InStep (fun _ _ => True) (RideService.withAcceptLock action)
      (RideService.withAcceptLock action') := by
  apply inStep_skip rfl
  intro _
  apply AwaitProgram.Lockstep.bind body
  intro outcome outcome' ended
  apply AwaitProgram.Lockstep.bind (inStep_same rfl)
  rintro (failure | _) (failure' | _) cleaned
  · exact AwaitProgram.Lockstep.done trivial
  · exact cleaned.elim
  · exact cleaned.elim
  · exact AwaitProgram.Lockstep.done ended

end Rules

/-! ## The services -/

theorem save_inStep {driver driver' : Driver} (alike : driver.Alike driver') :
    InStep (fun _ _ => True) (DriverRepository.save driver)
      (DriverRepository.save driver') := by
  unfold DriverRepository.save
  apply inStep_bind (inStep_call (CallsAgree.merge alike))
  intro saved saved' _
  rw [alike.isAvailable, alike.userId]
  split
  · exact inStep_skip rfl fun _ => inStep_pure trivial
  · exact inStep_skip rfl fun _ => inStep_pure trivial

/-- A profile is looked for in both stores. -/
theorem inStep_profile {α α' : Type} {userId detail : String} {status : Nat}
    {next : Driver → Service α} {next' : Driver → Service α'} {last : α → α' → Prop}
    (found : ∀ driver driver', driver.Alike driver' →
      InStep last (next driver) (next' driver')) :
    InStep last
      (do
        match ← call (.driverFindById userId) with
        | none => reject status detail
        | some driver => next driver)
      (do
        match ← call (.driverFindById userId) with
        | none => reject status detail
        | some driver => next' driver) := by
  apply inStep_bind (inStep_call (CallsAgree.find userId))
  rintro _ _ (same | _)
  · exact found _ _ same
  · exact inStep_raise _ _

theorem getProfile_inStep (userId : String) :
    InStep (fun _ _ => True) (DriverService.getProfile userId)
      (DriverService.getProfile userId) :=
  inStep_profile fun _ _ _ => inStep_pure trivial

theorem markById_inStep (isAvailable : Bool) (userId : String) :
    InStep (fun _ _ => True) (DriverService.markById isAvailable userId)
      (DriverService.markById isAvailable userId) := by
  apply inStep_profile
  intro driver driver' same
  exact save_inStep ⟨same.userId, rfl⟩

theorem goOnline_inStep (userId : String) (lat lng : Float64) :
    InStep (fun _ _ => True) (DriverService.goOnline userId lat lng)
      (DriverService.goOnline userId lat lng) := by
  unfold DriverService.goOnline
  apply inStep_bind (getProfile_inStep userId)
  intro _ _ _
  exact inStep_skip rfl fun _ => markById_inStep _ _

theorem goOffline_inStep (userId : String) :
    InStep (fun _ _ => True) (DriverService.goOffline userId)
      (DriverService.goOffline userId) := by
  unfold DriverService.goOffline
  apply inStep_bind (getProfile_inStep userId)
  intro _ _ _
  apply inStep_skip rfl
  intro _
  apply inStep_bind (markById_inStep _ _)
  intro _ _ _
  exact inStep_skip rfl fun _ => inStep_pure trivial

theorem getRide_inStep (rideId : String) :
    InStep Eq (RideService.getRide rideId) (RideService.getRide rideId) := by
  unfold RideService.getRide
  apply inStep_skip rfl
  intro found
  cases found with
  | none => exact inStep_raise _ _
  | some ride => exact inStep_pure rfl

theorem publishing_inStep (ride : Ride) (topic : Topic) :
    InStep (fun _ _ => True)
      (do
        let stored ← call (.rideSave ride)
        call (.publish topic stored.id)
        return stored)
      (do
        let stored ← call (.rideSave ride)
        call (.publish topic stored.id)
        return stored) := by
  apply inStep_skip rfl
  intro stored
  exact inStep_skip rfl fun _ => inStep_pure trivial

theorem acceptRide_inStep (rideId driverId : String) :
    InStep (fun _ _ => True) (RideService.acceptRide rideId driverId)
      (RideService.acceptRide rideId driverId) := by
  apply inStep_lock
  simp only [reject_bind]
  apply inStep_bind (getRide_inStep rideId)
  rintro ride _ rfl
  apply inStep_guard
  apply inStep_profile
  intro driver driver' same
  rw [same.isAvailable]
  apply inStep_guard
  apply inStep_bind (markById_inStep _ _)
  intro _ _ _
  exact publishing_inStep _ _

theorem completeRide_inStep (rideId driverId : String) (now : Timestamp) :
    InStep (fun _ _ => True) (RideService.completeRide rideId driverId now)
      (RideService.completeRide rideId driverId now) := by
  unfold RideService.completeRide
  simp only [reject_bind]
  apply inStep_bind (getRide_inStep rideId)
  rintro ride _ rfl
  apply inStep_guard
  apply inStep_guard
  apply inStep_skip rfl
  intro saved
  apply inStep_bind (markById_inStep _ _)
  intro _ _ _
  exact inStep_skip rfl fun _ => inStep_pure trivial

theorem cancelRide_inStep (rideId userId : String) :
    InStep (fun _ _ => True) (RideService.cancelRide rideId userId)
      (RideService.cancelRide rideId userId) := by
  unfold RideService.cancelRide
  simp only [reject_bind]
  apply inStep_bind (getRide_inStep rideId)
  rintro ride _ rfl
  apply inStep_guard
  apply inStep_guard
  cases ride.driverId with
  | none => exact publishing_inStep _ _
  | some driverId =>
      apply inStep_bind (markById_inStep _ _)
      intro _ _ _
      exact publishing_inStep _ _

/-- Accepting, completing and cancelling rides, going online and going offline. -/
def Request.goesByAvailability : Request → Bool
  | .acceptRide _ _ => true
  | .completeRide _ _ _ => true
  | .cancelRide _ _ => true
  | .goOnline _ _ _ => true
  | .goOffline _ => true
  | _ => false

/-- These requests see no more of a store. -/
theorem blind_of_goesByAvailability {P : Platform} {request : Request}
    (goes : request.goesByAvailability = true) :
    (availabilityLikeness P).Blind request := by
  have ends : ∀ {α : Type} {action : Service α} (respond : α → Response),
      InStep (fun _ _ => True) action action →
        AwaitProgram.Lockstep CallsAgree (fun _ _ => True)
          (do return respond (← action) : Service Response)
          (do return respond (← action) : Service Response) := by
    intro α action respond inStep
    have responds : InStep (fun _ _ => True) (do return respond (← action))
        (do return respond (← action)) :=
      inStep_bind inStep fun _ _ _ => inStep_pure trivial
    exact responds.mono fun _ _ _ => trivial
  cases request with
  | acceptRide rideId driverId => exact ⟨rfl, ends _ (acceptRide_inStep _ _)⟩
  | completeRide rideId driverId now => exact ⟨rfl, ends _ (completeRide_inStep _ _ _)⟩
  | cancelRide rideId userId => exact ⟨rfl, ends _ (cancelRide_inStep _ _)⟩
  | goOnline userId lat lng => exact ⟨rfl, ends _ (goOnline_inStep _ _ _)⟩
  | goOffline userId => exact ⟨rfl, ends _ (goOffline_inStep _)⟩
  | _ => cases goes

end RideHailing
