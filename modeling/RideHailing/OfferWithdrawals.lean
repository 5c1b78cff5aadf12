import RideHailing.OfferOrder

/-!
# Every offer is withdrawn, unless its record expires

The drivers who were offered a ride are remembered in its dispatched set.  Only the
handler of an acceptance deletes the set, when it has told them all, the assigned
driver apart; but the set expires, and whom it loses so is never told.
-/

namespace RideHailing

variable {P : Platform} {W : Wiring} {init : Store} {rideId driverId : String}
variable {start : Deployment} {events : List DeploymentEvent} {event : DeploymentEvent}
variable {pool pool' : DeploymentPool} {guest : ApplicationPool}

/-! ## Members of the dispatched set -/

section Members

variable {pid : Nat} {broken : Option Fault} {d after : Deployment}

theorem perform_clock {call : Call} {store storeAfter : Store}
    {reply : Except Fault (Value call)}
    (performed : P.perform pid call store = some (reply, storeAfter)) :
    storeAfter.clock = store.clock := by
  rcases perform_cases performed with rfl | change
  · rfl
  · cases change <;> rfl

/-- The set is there, with its expiry still to come. -/
theorem dispatchedTo_eq_some {rideId : String} {listed : DispatchedSet} :
    d.dispatchedTo rideId = some listed ↔
      d.dispatched.find rideId = some listed ∧
        (listed.expiresAt.all fun expiry => decide (d.store.clock < expiry)) = true := by
  simp [Deployment.dispatchedTo, Option.filter_eq_some_iff]

theorem mem_dispatchedMembers :
    driverId ∈ d.dispatchedMembers rideId ↔
      ∃ listed, d.dispatchedTo rideId = some listed ∧ driverId ∈ listed.members := by
  unfold Deployment.dispatchedMembers
  cases d.dispatchedTo rideId <;> simp

/-- While the clock stands and the set is not touched. -/
theorem dispatchedMembers_congr (sameSet : after.dispatched.find rideId = d.dispatched.find rideId)
    (sameClock : after.store.clock = d.store.clock) :
    after.dispatchedMembers rideId = d.dispatchedMembers rideId := by
  rw [Deployment.dispatchedMembers, Deployment.dispatchedTo, sameSet, sameClock]
  rfl

theorem passing_clock (change : Passing) :
    (d.passing change).store.clock = d.store.clock + change.elapsed := by
  obtain ⟨sse, storeEq, _⟩ := passing_store d change
  rw [storeEq]

/-- Time takes members away, but it brings none. -/
theorem dispatchedMembers_of_passing {change : Passing}
    (listed : driverId ∈ (d.passing change).dispatchedMembers rideId) :
    driverId ∈ d.dispatchedMembers rideId := by
  obtain ⟨dispatched, there, member⟩ := mem_dispatchedMembers.mp listed
  obtain ⟨found, alive⟩ := dispatchedTo_eq_some.mp there
  rw [passing_dispatched] at found
  rw [passing_clock] at alive
  refine mem_dispatchedMembers.mpr ⟨dispatched, dispatchedTo_eq_some.mpr ⟨found, ?_⟩, member⟩
  cases expiry : dispatched.expiresAt with
  | none => rfl
  | some moment =>
      simp only [expiry, Option.all_some, decide_eq_true_eq] at alive ⊢
      omega

theorem dispatchedMembers_of_still {change : Passing} (still : change.elapsed = 0) :
    (d.passing change).dispatchedMembers rideId = d.dispatchedMembers rideId := by
  apply dispatchedMembers_congr
  · rw [passing_dispatched]
  · rw [passing_clock, still]
    rfl

/-! What the calls do to the set. -/

theorem dispatchedMembers_add (added : String) (driverIds : List String) :
    driverId ∈ (d.dispatchedAdd added driverIds).dispatchedMembers rideId ↔
      driverId ∈ d.dispatchedMembers rideId ∨ added = rideId ∧ driverId ∈ driverIds := by
  by_cases same : added = rideId
  · subst same
    have alive : (((d.dispatchedTo added).getD ⟨added, [], none⟩).expiresAt.all
        fun expiry => decide (d.store.clock < expiry)) = true := by
      cases there : d.dispatchedTo added with
      | none => rfl
      | some listed => exact (dispatchedTo_eq_some.mp there).2
    have there : (d.dispatchedAdd added driverIds).dispatchedTo added = some
        ⟨added, ((d.dispatchedTo added).getD ⟨added, [], none⟩).members ++
          driverIds.dedup.filter (fun other => decide
            (other ∉ ((d.dispatchedTo added).getD ⟨added, [], none⟩).members)),
          ((d.dispatchedTo added).getD ⟨added, [], none⟩).expiresAt⟩ := by
      refine dispatchedTo_eq_some.mpr ⟨?_, alive⟩
      simp [Deployment.dispatchedAdd]
    have members : ((d.dispatchedTo added).getD ⟨added, [], none⟩).members =
        d.dispatchedMembers added := by
      unfold Deployment.dispatchedMembers
      cases d.dispatchedTo added <;> rfl
    rw [mem_dispatchedMembers, there, members]
    simp only [Option.some.injEq, exists_eq_left', List.mem_append, List.mem_filter,
      List.mem_dedup, decide_eq_true_eq, true_and]
    by_cases before : driverId ∈ d.dispatchedMembers added <;> simp [before]
  · have untouched : (d.dispatchedAdd added driverIds).dispatched.find rideId =
        d.dispatched.find rideId := by
      simp [Deployment.dispatchedAdd, KeyedTable.find_save, same]
    rw [dispatchedMembers_congr untouched rfl]
    simp [same]

theorem dispatchedMembers_expire {expiring : String} {seconds : Nat} (later : 0 < seconds) :
    (d.dispatchedExpire expiring seconds).dispatchedMembers rideId =
      d.dispatchedMembers rideId := by
  unfold Deployment.dispatchedExpire
  split
  · rfl
  · rename_i listed there
    by_cases same : expiring = rideId
    · subst same
      have renewed : ({ d with dispatched := d.dispatched.save ⟨expiring, listed.members,
          some (d.store.clock + 1000 * seconds)⟩ } : Deployment).dispatchedTo expiring = some
            ⟨expiring, listed.members, some (d.store.clock + 1000 * seconds)⟩ := by
        refine dispatchedTo_eq_some.mpr ⟨?_, ?_⟩
        · simp
        · simp only [Option.all_some, decide_eq_true_eq]
          omega
      rw [Deployment.dispatchedMembers, Deployment.dispatchedMembers, renewed, there]
      rfl
    · apply dispatchedMembers_congr
      · simp [KeyedTable.find_save, same]
      · rfl

variable {call : DeploymentCall} {reply : Except Fault (DeploymentValue call)}

/-- A call that does not touch the set. -/
theorem dispatchedMembers_answer
    (answered : (deployment P W).answer pid broken call d = some (reply, after))
    (notAdded : ∀ driverIds, call ≠ .inr (.dispatchedAdd rideId driverIds))
    (notDeleted : call ≠ .inr (.dispatchedDelete rideId))
    (renews : ∀ expiring seconds, call = .inr (.dispatchedExpire expiring seconds) →
      0 < seconds) :
    after.dispatchedMembers rideId = d.dispatchedMembers rideId := by
  cases call with
  | inl call =>
      rcases answer_inl answered with ⟨_, _, performed, rfl⟩ | ⟨_, _, _, _, rfl⟩
      · exact dispatchedMembers_congr rfl (perform_clock performed)
      · rfl
  | inr call =>
      rcases answer_inr answered with ⟨_, rfl⟩ | ⟨_, rfl⟩
      · cases call with
        | dispatchedAdd added driverIds =>
            have other : added ≠ rideId := by
              rintro rfl
              exact notAdded driverIds rfl
            apply dispatchedMembers_congr
            · simp [Wiring.perform, Deployment.dispatchedAdd, KeyedTable.find_save, other]
            · rfl
        | dispatchedExpire expiring seconds =>
            exact dispatchedMembers_expire (renews expiring seconds rfl)
        | dispatchedDelete deleted =>
            have other : deleted ≠ rideId := by
              rintro rfl
              exact notDeleted rfl
            apply dispatchedMembers_congr
            · simp [Wiring.perform, KeyedTable.find_erase, Ne.symm other]
            · rfl
        | _ => rfl
      · rfl

/-- Only an addition brings members. -/
theorem dispatchedMembers_of_answer
    (answered : (deployment P W).answer pid broken call d = some (reply, after))
    (notAdded : ∀ driverIds, call ≠ .inr (.dispatchedAdd rideId driverIds))
    (renews : ∀ expiring seconds, call = .inr (.dispatchedExpire expiring seconds) →
      0 < seconds)
    (listed : driverId ∈ after.dispatchedMembers rideId) :
    driverId ∈ d.dispatchedMembers rideId := by
  by_cases deletes : call = .inr (.dispatchedDelete rideId)
  · subst deletes
    rcases answer_inr answered with ⟨_, rfl⟩ | ⟨_, rfl⟩
    · simp [Wiring.perform, Deployment.dispatchedMembers, Deployment.dispatchedTo,
        KeyedTable.find_erase] at listed
    · exact listed
  · rwa [dispatchedMembers_answer answered notAdded deletes renews] at listed

end Members

/-! ## What the handler of an acceptance knows -/

/-- The driver was told that the offer of the ride is withdrawn. -/
def Told (driverId rideId : String) (pool : DeploymentPool) : Prop :=
  ∃ entry ∈ pool.world.log, entry.call.withdraws driverId rideId = true

/-- A handler of the ride's acceptance looked the ride up and found this row. -/
def LookedUp (pid : Nat) (rideId : String) (ride : Ride) (pool : DeploymentPool) : Prop :=
  (⟨pid, .inr (.handle .rideAccepted rideId), .inl (.rideFindById rideId), .ok (some ride)⟩ :
    Entry DeploymentValue Fault (Request ⊕ Errand)) ∈ pool.world.log

/-- Whatever such a handler notes is so. -/
structure Informed (rideId : String) (pid : Nat) (pool : DeploymentPool) : Prop where
  found : ∀ ride, (noted pid pool.world.log).Finds ride → LookedUp pid rideId ride pool
  told : ∀ driverId ∈ (noted pid pool.world.log).withdrawn, Told driverId rideId pool
  read : ∀ members, (noted pid pool.world.log).read = some members →
    ∀ driverId ∈ pool.world.state.dispatchedMembers rideId, driverId ∈ members

section Informed

variable {note : Handling} {call : DeploymentCall} {reply : Except Fault (DeploymentValue call)}

theorem withdrawn_after (tells : driverId ∈ (note.after call reply).withdrawn) :
    driverId ∈ note.withdrawn ∨ ∃ event payload, call = .inl (.sseEmit driverId event payload) ∧
      payload.withdraws ≠ none := by
  cases call with
  | inl call =>
      cases call with
      | sseEmit key event payload =>
          cases reply with
          | ok value =>
              simp only [Handling.after] at tells
              split at tells
              · rename_i withdraws
                rcases List.mem_cons.mp tells with rfl | before
                · exact Or.inr ⟨event, payload, rfl, Option.isSome_iff_ne_none.mp withdraws⟩
                · exact Or.inl before
              · exact Or.inl tells
          | error fault => exact Or.inl tells
      | _ => cases reply <;> exact Or.inl tells
  | inr call => cases call <;> cases reply <;> exact Or.inl tells

/-- The task that makes the call may have learnt the members of the set. -/
theorem read_after (notRead : ∀ sought, call ≠ .inr (.dispatchedMembers sought)) :
    (note.after call reply).read = note.read := by
  cases call with
  | inl call =>
      cases call with
      | sseEmit key event payload =>
          cases reply with
          | ok value =>
              simp only [Handling.after]
              split <;> rfl
          | error fault => rfl
      | _ => cases reply <;> rfl
  | inr call =>
      cases call with
      | dispatchedMembers sought => exact absurd rfl (notRead sought)
      | _ => cases reply <;> rfl

/-- A set is renewed for some time. -/
theorem Dutiful.renews (dutiful : Dutiful pool) (inside : Inside P W init pool guest)
    {pid : Nat} {request : Request ⊕ Errand}
    {resume : Except Fault (DeploymentValue call) →
      AwaitProgram DeploymentCall (fun call => Except Fault (DeploymentValue call)) Outcome}
    (found : pool.tasks[pid]? = some ⟨request, .await call resume⟩) :
    ∀ expiring seconds, call = .inr (.dispatchedExpire expiring seconds) → 0 < seconds := by
  rintro expiring seconds rfl
  obtain ⟨_, _, _, allowed⟩ := dutiful.handler_of_offering inside found rfl
  exact allowed

theorem Told.mono (told : Told driverId rideId pool)
    (grows : pool.world.log ⊆ pool'.world.log) : Told driverId rideId pool' := by
  obtain ⟨entry, logged, tells⟩ := told
  exact ⟨entry, grows logged, tells⟩

/-- Nobody forgets what happened. -/
theorem log_subset_of_next (moved : Deployment.next P W pool event = some pool') :
    pool.world.log ⊆ pool'.world.log := by
  rcases (deployment P W).next_cases (machine_next_of_next moved) with
    ⟨_, _, rfl⟩ | ⟨pid, broken, advanced⟩ | ⟨change, _, rfl⟩
  · exact List.Subset.refl _
  · obtain ⟨_, _, _, _, _, _, _, rfl⟩ := (deployment P W).advance_eq_some advanced
    exact List.subset_cons_self _ _
  · exact List.Subset.refl _

/-- While others move and nobody adds to the set. -/
theorem Informed.kept {pid : Nat} (informed : Informed rideId pid pool)
    (grows : pool.world.log ⊆ pool'.world.log)
    (sameNote : noted pid pool'.world.log = noted pid pool.world.log)
    (shrinks : ∀ driverId ∈ pool'.world.state.dispatchedMembers rideId,
      driverId ∈ pool.world.state.dispatchedMembers rideId) :
    Informed rideId pid pool' := by
  constructor
  · intro ride finds
    rw [sameNote] at finds
    exact grows (informed.found ride finds)
  · intro driverId withdrawn
    rw [sameNote] at withdrawn
    exact (informed.told driverId withdrawn).mono grows
  · intro members read driverId listed
    rw [sameNote] at read
    exact informed.read members read driverId (shrinks driverId listed)

/-- The handler itself makes a call. -/
theorem Informed.own {pid : Nat} {broken : Option Fault} {state : Deployment}
    {tasks : List (Task DeploymentValue Fault (Request ⊕ Errand) Outcome)}
    (informed : Informed rideId pid pool)
    (allowed : (noted pid pool.world.log).allows .rideAccepted rideId call)
    (unoffered : ¬ OffersRide rideId call)
    (renews : ∀ expiring seconds, call = .inr (.dispatchedExpire expiring seconds) →
      0 < seconds)
    (answered : (deployment P W).answer pid broken call pool.world.state =
      some (reply, state)) :
    Informed rideId pid ⟨⟨state,
      ⟨pid, .inr (.handle .rideAccepted rideId), call, reply⟩ :: pool.world.log⟩, tasks⟩ := by
  have shrinks : ∀ driverId ∈ state.dispatchedMembers rideId,
      driverId ∈ pool.world.state.dispatchedMembers rideId := by
    intro driverId listed
    apply dispatchedMembers_of_answer answered ?_ renews listed
    rintro driverIds rfl
    exact unoffered rfl
  constructor
  · intro ride finds
    rw [noted_cons, if_pos rfl] at finds
    by_cases lookup : ∃ sought, call = .inl (.rideFindById sought)
    · obtain ⟨sought, rfl⟩ := lookup
      obtain rfl : sought = rideId := allowed
      cases reply with
      | ok found =>
          obtain rfl : found = some ride := Option.some.inj finds
          exact List.mem_cons_self
      | error fault => exact List.mem_cons_of_mem _ (informed.found ride finds)
    · rw [Handling.Finds, Handling.found_after fun sought same => lookup ⟨sought, same⟩]
        at finds
      exact List.mem_cons_of_mem _ (informed.found ride finds)
  · intro driverId withdrawn
    rw [noted_cons, if_pos rfl] at withdrawn
    rcases withdrawn_after withdrawn with before | ⟨event, payload, rfl, withdraws⟩
    · obtain ⟨entry, logged, tells⟩ := informed.told driverId before
      exact ⟨entry, List.mem_cons_of_mem _ logged, tells⟩
    · obtain ⟨gone, same⟩ := Option.ne_none_iff_exists'.mp withdraws
      obtain ⟨_, rfl, rfl⟩ := allowed.2 gone same
      exact ⟨_, List.mem_cons_self, decide_eq_true ⟨rfl, rfl, same⟩⟩
  · intro members read driverId listed
    rw [noted_cons, if_pos rfl] at read
    by_cases reads : ∃ sought, call = .inr (.dispatchedMembers sought)
    · obtain ⟨sought, rfl⟩ := reads
      obtain rfl : sought = rideId := allowed
      rcases answer_inr answered with ⟨rfl, rfl⟩ | ⟨rfl, rfl⟩
      · obtain rfl : W.setOrder (pool.world.state.dispatchedMembers sought) = members :=
          Option.some.inj read
        exact (W.setOrder_perm _).mem_iff.mpr listed
      · exact informed.read members read driverId listed
    · rw [read_after fun sought same => reads ⟨sought, same⟩] at read
      exact informed.read members read driverId (shrinks driverId listed)

end Informed

/-- All handlers of acceptances, whether at work or not. -/
def AllInformed (pool : DeploymentPool) : Prop :=
  ∀ pid rideId rest,
    pool.tasks[pid]? = some ⟨.inr (.handle .rideAccepted rideId), rest⟩ →
      Informed rideId pid pool

theorem AllInformed.next (informed : AllInformed pool) (attentive : Attentive pool)
    (inside : Inside P W init pool guest) (dutiful : Dutiful pool)
    (moved : Deployment.next P W pool event = some pool') : AllInformed pool' := by
  have grows := log_subset_of_next moved
  intro pid rideId rest found
  rcases (deployment P W).next_cases (machine_next_of_next moved) with
    ⟨request, rfl, same⟩ | ⟨actor, broken, advanced⟩ | ⟨change, rfl, same⟩
  · subst same
    rcases getElem?_concat_cases found with earlier | ⟨rfl, _⟩
    · exact (informed pid rideId rest earlier).kept grows rfl fun _ => id
    · have beyond : noted pool.tasks.length pool.world.log = {} :=
        dutiful.noted_beyond (Nat.le_refl _)
      constructor
      · intro ride finds
        change (noted pool.tasks.length pool.world.log).Finds ride at finds
        rw [beyond] at finds
        cases finds
      · intro driverId withdrawn
        change driverId ∈ (noted pool.tasks.length pool.world.log).withdrawn at withdrawn
        rw [beyond] at withdrawn
        cases withdrawn
      · intro members read
        change (noted pool.tasks.length pool.world.log).read = some members at read
        rw [beyond] at read
        cases read
  · obtain ⟨request, call, resume, reply, state, foundTask, answered, rfl⟩ :=
      (deployment P W).advance_eq_some advanced
    rcases getElem?_set_cases found with ⟨rfl, updated⟩ | ⟨apart, before⟩
    · cases updated
      have calm := (attentive actor .rideAccepted rideId _ foundTask (by decide)).calm
      have allowed := (dutiful.handlers .rideAccepted rideId).allows foundTask rfl
      rw [noteOf_handling] at allowed
      exact (informed actor rideId _ foundTask).own allowed
        (calm.no_offer inside dutiful foundTask) (dutiful.renews inside foundTask) answered
    · have calm := (attentive pid .rideAccepted rideId _ before (by decide)).calm
      apply (informed pid rideId rest before).kept grows
      · rw [noted_cons, if_neg apart]
      · intro driverId listed
        apply dispatchedMembers_of_answer answered ?_ (dutiful.renews inside foundTask) listed
        rintro driverIds rfl
        exact calm.no_offer inside dutiful foundTask rfl
  · subst same
    apply (informed pid rideId rest found).kept grows rfl
    intro driverId listed
    exact dispatchedMembers_of_passing listed

/-! ## Where the drivers are who were offered a ride -/

/-- In the run the dispatched set expired while the driver was in it, and the driver
has not been in it since. -/
def Lapsed (P : Platform) (W : Wiring) (start : Deployment) (events : List DeploymentEvent)
    (driverId rideId : String) : Prop :=
  ∃ before milliseconds after pool next,
    events = before ++ .ambient (.elapse milliseconds) :: after ∧
      Deployment.run P W (Pool.start start) before = some pool ∧
      Deployment.next P W pool (.ambient (.elapse milliseconds)) = some next ∧
      driverId ∈ pool.world.state.dispatchedMembers rideId ∧
      Always (Deployment.next P W)
        (fun pool => driverId ∉ pool.world.state.dispatchedMembers rideId) next after

/-- A handler of the ride's acceptance looked the ride up and found this driver. -/
def assigns (driverId rideId : String) :
    Entry DeploymentValue Fault (Request ⊕ Errand) → Bool
  | ⟨_, request, .inl (.rideFindById sought), .ok (some ride)⟩ =>
      decide (request = .inr (.handle .rideAccepted rideId) ∧ sought = rideId ∧
        ride.driverId = some driverId)
  | _ => false

/-- The driver was the ride's when a handler of its acceptance looked it up. -/
def Assigned (driverId rideId : String) (pool : DeploymentPool) : Prop :=
  ∃ entry ∈ pool.world.log, assigns driverId rideId entry = true

/-- The driver needs no further message. -/
def Settled (P : Platform) (W : Wiring) (start : Deployment) (events : List DeploymentEvent)
    (driverId rideId : String) (pool : DeploymentPool) : Prop :=
  Told driverId rideId pool ∨ Assigned driverId rideId pool ∨
    Lapsed P W start events driverId rideId

/-- The driver is remembered, or needs no further message. -/
def Accounted (P : Platform) (W : Wiring) (start : Deployment) (events : List DeploymentEvent)
    (driverId rideId : String) (pool : DeploymentPool) : Prop :=
  driverId ∈ pool.world.state.dispatchedMembers rideId ∨
    Settled P W start events driverId rideId pool

section Accounted

variable {P : Platform} {W : Wiring} {start : Deployment}

theorem Lapsed.snoc (lapsed : Lapsed P W start events driverId rideId)
    (ran : Deployment.run P W (Pool.start start) events = some pool)
    (moved : Deployment.next P W pool event = some pool')
    (gone : driverId ∉ pool'.world.state.dispatchedMembers rideId) :
    Lapsed P W start (events ++ [event]) driverId rideId := by
  obtain ⟨before, milliseconds, after, middle, next, rfl, ranBefore, expired, listed, stays⟩ :=
    lapsed
  refine ⟨before, milliseconds, after ++ [event], middle, next, by simp, ranBefore, expired,
    listed, ?_⟩
  have ranAfter : runSteps (Deployment.next P W) next after = some pool := by
    rw [Deployment.run, runSteps_append] at ran
    unfold Deployment.run at ranBefore
    rwa [ranBefore, Option.bind_some, runSteps_cons, expired] at ran
  exact stays.snoc ranAfter moved gone

/-- Who is settled stays so, unless the driver is remembered again. -/
theorem Settled.accounted (settled : Settled P W start events driverId rideId pool)
    (ran : Deployment.run P W (Pool.start start) events = some pool)
    (moved : Deployment.next P W pool event = some pool') :
    Accounted P W start (events ++ [event]) driverId rideId pool' := by
  have grows := log_subset_of_next moved
  rcases settled with told | ⟨entry, lookedUp, assigned⟩ | lapsed
  · exact Or.inr (Or.inl (told.mono grows))
  · exact Or.inr (Or.inr (Or.inl ⟨entry, grows lookedUp, assigned⟩))
  · by_cases listed : driverId ∈ pool'.world.state.dispatchedMembers rideId
    · exact Or.inl listed
    · exact Or.inr (Or.inr (Or.inr (lapsed.snoc ran moved listed)))

/-- The set is deleted when all its members are settled. -/
theorem settled_of_deletes (inside : Inside P W init pool guest) (dutiful : Dutiful pool)
    (informed : AllInformed pool) {pid : Nat} {request : Request ⊕ Errand}
    {resume : Except Fault Unit →
      AwaitProgram DeploymentCall (fun call => Except Fault (DeploymentValue call)) Outcome}
    (found : pool.tasks[pid]? =
      some ⟨request, .await (.inr (.dispatchedDelete rideId)) resume⟩)
    (listed : driverId ∈ pool.world.state.dispatchedMembers rideId) :
    Settled P W start events driverId rideId pool := by
  obtain ⟨topic, handled, rfl, rfl, rfl, ride, members, finds, read, told⟩ :=
    dutiful.handler_of_offering inside found rfl
  have informedOf := informed pid rideId _ found
  by_cases assigned : ride.driverId = some driverId
  · exact Or.inr (Or.inl ⟨_, informedOf.found ride finds, decide_eq_true ⟨rfl, rfl, assigned⟩⟩)
  · have member := informedOf.read members read driverId listed
    exact Or.inl (informedOf.told driverId (told driverId member (Ne.symm assigned)))

theorem Accounted.next (accounted : Accounted P W start events driverId rideId pool)
    (ran : Deployment.run P W (Pool.start start) events = some pool)
    (inside : Inside P W init pool guest) (dutiful : Dutiful pool)
    (informed : AllInformed pool) (moved : Deployment.next P W pool event = some pool') :
    Accounted P W start (events ++ [event]) driverId rideId pool' := by
  rcases accounted with listed | settled
  · rcases (deployment P W).next_cases (machine_next_of_next moved) with
      ⟨_, _, rfl⟩ | ⟨pid, broken, advanced⟩ | ⟨change, rfl, same⟩
    · exact Or.inl listed
    · obtain ⟨request, call, resume, reply, state, found, answered, rfl⟩ :=
        (deployment P W).advance_eq_some advanced
      by_cases deletes : call = .inr (.dispatchedDelete rideId)
      · subst deletes
        have settled : Settled P W start events driverId rideId pool :=
          settled_of_deletes inside dutiful informed found listed
        exact settled.accounted ran moved
      · left
        by_cases adds : ∃ driverIds, call = .inr (.dispatchedAdd rideId driverIds)
        · obtain ⟨driverIds, rfl⟩ := adds
          rcases answer_inr answered with ⟨_, rfl⟩ | ⟨_, rfl⟩
          · exact (dispatchedMembers_add rideId driverIds).mpr (Or.inl listed)
          · exact listed
        · have notAdded : ∀ driverIds, call ≠ .inr (.dispatchedAdd rideId driverIds) :=
            fun driverIds same => adds ⟨driverIds, same⟩
          rwa [dispatchedMembers_answer answered notAdded deletes
            (dutiful.renews inside found)]
    · by_cases listedLater : driverId ∈ pool'.world.state.dispatchedMembers rideId
      · exact Or.inl listedLater
      · subst same
        cases change with
        | elapse milliseconds =>
            refine Or.inr (Or.inr (Or.inr ⟨events, milliseconds, [], pool, _, rfl, ran, moved,
              listed, ?_⟩))
            intro before after middle split ranBefore
            obtain ⟨rfl, rfl⟩ := List.append_eq_nil_iff.mp split.symm
            cases ranBefore
            exact listedLater
        | _ =>
            refine absurd ?_ listedLater
            change driverId ∈ (pool.world.state.passing _).dispatchedMembers rideId
            rw [dispatchedMembers_of_still]
            · exact listed
            · rfl
  · exact settled.accounted ran moved

end Accounted

/-! ## Runs -/

/-- The driver is among those whom the task has put into the dispatched set. -/
theorem listed_after {note : Handling} {call : DeploymentCall}
    {reply : Except Fault (DeploymentValue call)}
    (listed : driverId ∈ (note.after call reply).listed) :
    driverId ∈ note.listed ∨ ∃ added driverIds, call = .inr (.dispatchedAdd added driverIds) ∧
      driverId ∈ driverIds ∧ ∀ fault, reply ≠ .error fault := by
  cases call with
  | inl call =>
      cases call with
      | sseEmit key event payload =>
          cases reply with
          | ok value =>
              simp only [Handling.after] at listed
              split at listed <;> exact Or.inl listed
          | error fault => exact Or.inl listed
      | _ => cases reply <;> exact Or.inl listed
  | inr call =>
      cases call with
      | dispatchedAdd added driverIds =>
          cases reply with
          | ok value =>
              rcases List.mem_append.mp listed with new | old
              · exact Or.inr ⟨added, driverIds, rfl, new, fun fault same => by cases same⟩
              · exact Or.inl old
          | error fault => exact Or.inl listed
      | _ => cases reply <;> exact Or.inl listed

/-- The call publishes an offer of the ride to the driver. -/
def DeploymentCall.offers (driverId rideId : String) : DeploymentCall → Bool
  | .inr (.publishOffer receiver payload) =>
      decide (receiver = driverId ∧ payload.offers = some rideId)
  | _ => false

theorem offers_eq_true {call : DeploymentCall} (offers : call.offers driverId rideId = true) :
    ∃ payload, call = .inr (.publishOffer driverId payload) ∧ payload.offers = some rideId := by
  cases call with
  | inl call => cases offers
  | inr call =>
      cases call with
      | publishOffer receiver payload =>
          obtain ⟨rfl, same⟩ := of_decide_eq_true offers
          exact ⟨payload, rfl, same⟩
      | _ => cases offers

/-- An offer of the ride was published to the driver. -/
def Offered (driverId rideId : String) (pool : DeploymentPool) : Prop :=
  ∃ entry ∈ pool.world.log,
    entry.call.offers driverId rideId = true ∧ entry.reply.isOk = true

/-- Whoever was put into a dispatched set, and whoever was offered a ride, is
accounted for. -/
structure Accounts (P : Platform) (W : Wiring) (start : Deployment)
    (events : List DeploymentEvent) (pool : DeploymentPool) : Prop where
  listed : ∀ pid topic rideId rest,
    pool.tasks[pid]? = some ⟨.inr (.handle topic rideId), rest⟩ →
      ∀ driverId ∈ (noted pid pool.world.log).listed,
        Accounted P W start events driverId rideId pool
  offered : ∀ driverId rideId, Offered driverId rideId pool →
    Accounted P W start events driverId rideId pool

theorem Accounts.next (accounts : Accounts P W start events pool)
    (ran : Deployment.run P W (Pool.start start) events = some pool)
    (inside : Inside P W init pool guest) (dutiful : Dutiful pool)
    (informed : AllInformed pool) (moved : Deployment.next P W pool event = some pool') :
    Accounts P W start (events ++ [event]) pool' := by
  have carries : ∀ {driverId rideId}, Accounted P W start events driverId rideId pool →
      Accounted P W start (events ++ [event]) driverId rideId pool' :=
    fun accounted => accounted.next ran inside dutiful informed moved
  rcases (deployment P W).next_cases (machine_next_of_next moved) with
    ⟨request, rfl, same⟩ | ⟨actor, broken, advanced⟩ | ⟨change, rfl, same⟩
  · subst same
    refine ⟨?_, fun driverId rideId offered => carries (accounts.offered _ _ offered)⟩
    intro pid topic rideId rest found driverId listed
    rcases getElem?_concat_cases found with earlier | ⟨rfl, _⟩
    · exact carries (accounts.listed pid topic rideId rest earlier driverId listed)
    · change driverId ∈ (noted pool.tasks.length pool.world.log).listed at listed
      rw [dutiful.noted_beyond (Nat.le_refl _)] at listed
      cases listed
  · obtain ⟨request, call, resume, reply, state, foundTask, answered, rfl⟩ :=
      (deployment P W).advance_eq_some advanced
    constructor
    · intro pid topic rideId rest found driverId listed
      rw [noted_cons] at listed
      rcases getElem?_set_cases found with ⟨rfl, updated⟩ | ⟨apart, unchanged⟩
      · cases updated
        rw [if_pos rfl] at listed
        rcases listed_after listed with before | ⟨added, driverIds, rfl, member, succeeds⟩
        · exact carries (accounts.listed actor topic rideId _ foundTask driverId before)
        · have allowed := (dutiful.handlers topic rideId).allows foundTask rfl
          obtain ⟨_, rfl, _⟩ := allowed
          rcases answer_inr answered with ⟨_, rfl⟩ | ⟨failed, _⟩
          · exact Or.inl ((dispatchedMembers_add added driverIds).mpr (Or.inr ⟨rfl, member⟩))
          · exact absurd failed (succeeds _)
      · rw [if_neg apart] at listed
        exact carries (accounts.listed pid topic rideId rest unchanged driverId listed)
    · rintro driverId rideId ⟨entry, logged, publishes, succeeds⟩
      rcases List.mem_cons.mp logged with rfl | old
      · obtain ⟨payload, rfl, offers⟩ := offers_eq_true publishes
        obtain ⟨topic, handled, rfl, _, same, listed, _⟩ :=
          dutiful.handler_of_offering inside foundTask rfl
        obtain rfl : rideId = handled := Option.some.inj (offers.symm.trans same)
        exact carries (accounts.listed _ topic rideId _ foundTask driverId listed)
      · exact carries (accounts.offered driverId rideId ⟨entry, old, publishes, succeeds⟩)
  · subst same
    refine ⟨?_, fun driverId rideId offered => carries (accounts.offered _ _ offered)⟩
    intro pid topic rideId rest found driverId listed
    exact carries (accounts.listed pid topic rideId rest found driverId listed)

theorem allInformed_of_run (unlocked : start.store.acceptLock = none)
    (silent : start.store.published = [])
    (ran : Deployment.run P W (Pool.start start) events = some pool) : AllInformed pool := by
  apply runSteps_reached ?_ ?_ ran
  · intro pid rideId rest found
    simp [Pool.start] at found
  · intro before middle event next ranBefore moved informed
    obtain ⟨guest, inside⟩ := inside_of_run ranBefore
    exact informed.next (attentive_of_run unlocked silent ranBefore) inside
      (dutiful_of_run ranBefore) moved

theorem accounts_of_run (unlocked : start.store.acceptLock = none)
    (silent : start.store.published = [])
    (ran : Deployment.run P W (Pool.start start) events = some pool) :
    Accounts P W start events pool := by
  apply runSteps_along ?_ ?_ ran
  · constructor
    · intro pid topic rideId rest found
      simp [Pool.start] at found
    · rintro driverId rideId ⟨entry, logged, _⟩
      cases logged
  · intro before middle event next ranBefore moved accounts
    obtain ⟨guest, inside⟩ := inside_of_run ranBefore
    exact accounts.next ranBefore inside (dutiful_of_run ranBefore)
      (allInformed_of_run unlocked silent ranBefore) moved

/-- Once the handling of a ride's acceptance has succeeded, every driver to whom an
offer of the ride was published has been told that it is withdrawn, except the driver
whom the handling found assigned, and except drivers whom the expiry of the dispatched
set removed from it for good. -/
theorem told_unless_lapsed (unlocked : start.store.acceptLock = none)
    (silent : start.store.published = [])
    (ran : Deployment.run P W (Pool.start start) events = some pool)
    {pid : Nat} {response : Response}
    (handled : pool.ended? pid = some (.inr (.handle .rideAccepted rideId), .ok response))
    (offered : Offered driverId rideId pool) :
    Told driverId rideId pool ∨ Assigned driverId rideId pool ∨
      Lapsed P W start events driverId rideId := by
  have found := Pool.ended?_eq_some handled
  have attends : Attends rideId pid pool :=
    attentive_of_run unlocked silent ran pid .rideAccepted rideId _ found (by decide)
  have done : Handling.Done .rideAccepted ((handling .rideAccepted rideId).noteOf pid
      pool.world.log) :=
    ((dutiful_of_run ran).handlers .rideAccepted rideId).ended handled rfl ⟨_, rfl⟩
  rw [noteOf_handling] at done
  have erased : pool.world.state.dispatched.find rideId = none := by
    rcases done with absent | deleted
    · exact absurd absent attends.finds
    · exact attends.erased deleted
  rcases (accounts_of_run unlocked silent ran).offered driverId rideId offered with
    listed | settled
  · simp [Deployment.dispatchedMembers, Deployment.dispatchedTo, erased] at listed
  · exact settled

namespace SmallCity

/-- Dan and eve are offered the ride, eve accepts it, and dan is told: the ride was not his, and
no time has passed. -/
theorem eveAccepts_tells :
    ∃ pool, playAll eveAccepts = some pool ∧ Offered "u3" "r1" pool ∧ Told "u3" "r1" pool := by
  obtain ⟨pool, played, checked⟩ := Option.map_eq_some_iff.mp
    (by decide +kernel : (playAll eveAccepts).map (fun pool =>
      decide (pool.ended? 5 =
          some (.inr (.handle .rideAccepted "r1"), .ok .noContent) ∧
        (∃ entry ∈ pool.world.log,
          entry.call.offers "u3" "r1" = true ∧ entry.reply.isOk = true) ∧
        ¬ ∃ entry ∈ pool.world.log, assigns "u3" "r1" entry = true)) = some true)
  obtain ⟨handled, offered, unassigned⟩ := of_decide_eq_true checked
  refine ⟨pool, played, offered, ?_⟩
  rcases told_unless_lapsed rfl rfl played handled offered with
    told | assigned | ⟨before, milliseconds, after, _, _, split, _⟩
  · exact told
  · exact absurd assigned unassigned
  · have elapses : .ambient (.elapse milliseconds) ∈ eveAccepts := by
      rw [split]
      exact List.mem_append_cons_self
    simp [eveAccepts, moves] at elapses

/-- Dan is offered a ride and goes offline, and the retry finds no driver.  After five
minutes eve goes online and accepts the ride. -/
def offerLapses : List DeploymentEvent :=
  [.spawn (.inl (.goOnline "u3" centre centre))] ++ moves 0 5 ++
  [.spawn (.inl (wants "r1" "u1"))] ++ moves 1 8 ++
  [.spawn (.inr (.handle .rideRequested "r1"))] ++ moves 2 6 ++
  [.spawn (.inl (.goOffline "u3"))] ++ moves 3 6 ++
  [.ambient (.elapse 180000), .spawn (.inr (.retryOnce 180000000))] ++ moves 4 2 ++
  [.spawn (.inr (.handle .rideRequested "r1"))] ++ moves 5 2 ++
  [.ambient (.elapse 120000), .spawn (.inl (.goOnline "u4" centre centre))] ++ moves 6 5 ++
  [.spawn (.inl (.acceptRide "r1" "u4"))] ++ moves 7 9 ++
  [.spawn (.inr (.handle .rideAccepted "r1"))] ++ moves 8 5

/-- Dan is never told. -/
theorem offerLapses_untold :
    ∃ pool, playAll offerLapses = some pool ∧ pool.Quiescent ∧
      pool.ended? 8 = some (.inr (.handle .rideAccepted "r1"), .ok .noContent) ∧
      Offered "u3" "r1" pool ∧ ¬ Told "u3" "r1" pool ∧ ¬ Assigned "u3" "r1" pool := by
  obtain ⟨pool, played, checked⟩ := Option.map_eq_some_iff.mp
    (by decide +kernel : (playAll offerLapses).map (fun pool =>
      decide (pool.Quiescent ∧
        pool.ended? 8 = some (.inr (.handle .rideAccepted "r1"), .ok .noContent) ∧
        (∃ entry ∈ pool.world.log,
          entry.call.offers "u3" "r1" = true ∧ entry.reply.isOk = true) ∧
        (¬ ∃ entry ∈ pool.world.log, entry.call.withdraws "u3" "r1" = true) ∧
        ¬ ∃ entry ∈ pool.world.log, assigns "u3" "r1" entry = true)) = some true)
  obtain ⟨quiescent, handled, offered, untold, unassigned⟩ := of_decide_eq_true checked
  exact ⟨pool, played, quiescent, handled, offered, untold, unassigned⟩

end SmallCity

end RideHailing
