import RideHailing.ConsumerConduct

/-!
# Offers of rides that are gone

The handlers of the consumer work one after the other.  When one begins to handle
that a ride was accepted or cancelled, the ride has left REQUESTED for good and no
other handler is at work; so no handler that has found the ride waiting is left, and
none will ever find it so again.
-/

namespace RideHailing

variable {P : Platform} {W : Wiring} {init : Store} {rideId : String}
variable {pool pool' : DeploymentPool} {guest : ApplicationPool}

/-- Whoever looks a ride up is the only one who learns anything about it. -/
theorem Handling.found_after {note : Handling} {call : DeploymentCall}
    {reply : Except Fault (DeploymentValue call)}
    (notLookup : ∀ sought, call ≠ .inl (.rideFindById sought)) :
    (note.after call reply).found = note.found := by
  cases call with
  | inl call =>
      cases call with
      | rideFindById sought => exact absurd rfl (notLookup sought)
      | sseEmit key event payload =>
          cases reply with
          | ok value =>
              simp only [Handling.after]
              split <;> rfl
          | error fault => rfl
      | _ => cases reply <;> rfl
  | inr call => cases call <;> cases reply <;> rfl

/-- A task yet to come has done nothing. -/
theorem Dutiful.noted_beyond (dutiful : Dutiful pool) {pid : Nat}
    (beyond : pool.tasks.length ≤ pid) : noted pid pool.world.log = {} := by
  apply CallMonitor.noteOf_fresh
  intro entry entryMem
  have owned := dutiful.others.owned entry entryMem
  omega

theorem noted_cons (pid : Nat) (entry : Entry DeploymentValue Fault (Request ⊕ Errand))
    (log : List (Entry DeploymentValue Fault (Request ⊕ Errand))) :
    noted pid (entry :: log) =
      if entry.pid = pid then (noted pid log).after entry.call entry.reply
      else noted pid log :=
  rfl

/-- The message was published, and no handler is at work. -/
theorem next_handle {topic : Topic}
    (moved : Deployment.next P W pool (.spawn (.inr (.handle topic rideId))) = some pool') :
    (topic, rideId) ∈ pool.world.state.store.published ∧
      ∀ task ∈ pool.tasks, handles task = false := by
  simp only [Deployment.next] at moved
  split at moved
  · rename_i begins
    obtain ⟨published, idle⟩ := begins
    refine ⟨published, fun task taskMem => ?_⟩
    simp only [List.any_eq_true, not_exists, not_and, Bool.not_eq_true] at idle
    exact idle task taskMem
  · cases moved

theorem handles_await {request : Request ⊕ Errand} {call : DeploymentCall}
    {resume : Except Fault (DeploymentValue call) →
      AwaitProgram DeploymentCall (fun call => Except Fault (DeploymentValue call)) Outcome}
    {rest : AwaitProgram DeploymentCall (fun call => Except Fault (DeploymentValue call))
      Outcome}
    (works : handles ⟨request, rest⟩ = true) :
    handles ⟨request, .await call resume⟩ = true := by
  cases request with
  | inl request => cases works
  | inr task =>
      cases task with
      | handle topic rideId => rfl
      | _ => cases works

/-- The ride has left REQUESTED, and no handler at work has found it waiting. -/
structure Calm (rideId : String) (pool : DeploymentPool) : Prop where
  left : pool.world.state.Left rideId
  unaware : ∀ {pid : Nat} {task : Task DeploymentValue Fault (Request ⊕ Errand) Outcome},
    pool.tasks[pid]? = some task → handles task = true →
      ∀ ride, (noted pid pool.world.log).Finds ride → ride.id = rideId →
        ride.status ≠ .requested

/-- What a look at the ride tells. -/
theorem Calm.status_of_lookup {pid : Nat} {broken : Option Fault} {sought : String}
    {note : Handling} {after : Deployment}
    {reply : Except Fault (DeploymentValue (.inl (.rideFindById sought)))} {ride : Ride}
    (calm : Calm rideId pool)
    (answered : (deployment P W).answer pid broken (.inl (.rideFindById sought))
      pool.world.state = some (reply, after))
    (finds : (note.after (.inl (.rideFindById sought)) reply).Finds ride)
    (sameId : ride.id = rideId) (before : note.Finds ride → ride.status ≠ .requested) :
    ride.status ≠ .requested := by
  rcases answer_inl answered with ⟨_, _, performed, _⟩ | ⟨_, _, _, rfl, _⟩
  · cases performed
    have found : pool.world.state.store.rides.find sought = some ride :=
      Option.some.inj finds
    obtain ⟨stored, foundStored, status⟩ := calm.left
    have key := KeyedTable.key_of_find found
    rw [← key, sameId, foundStored] at found
    cases found
    exact status
  · exact before finds

theorem Calm.next {event : DeploymentEvent} (calm : Calm rideId pool)
    (unlocked : init.acceptLock = none) (inside : Inside P W init pool guest)
    (dutiful : Dutiful pool) (moved : Deployment.next P W pool event = some pool') :
    Calm rideId pool' := by
  refine ⟨inside.left_next unlocked moved calm.left, ?_⟩
  rcases (deployment P W).next_cases (machine_next_of_next moved) with
    ⟨request, _, rfl⟩ | ⟨pid, broken, advanced⟩ | ⟨change, _, rfl⟩
  · intro pid task found works ride finds
    rcases getElem?_concat_cases found with earlier | ⟨rfl, _⟩
    · exact calm.unaware earlier works ride finds
    · rw [dutiful.noted_beyond (Nat.le_refl _)] at finds
      cases finds
  · obtain ⟨request, call, resume, reply, state, foundTask, answered, rfl⟩ :=
      (deployment P W).advance_eq_some advanced
    intro other task found works ride finds sameId
    rw [noted_cons] at finds
    rcases getElem?_set_cases found with ⟨rfl, rfl⟩ | ⟨apart, before⟩
    · rw [if_pos rfl] at finds
      by_cases lookup : ∃ sought, call = .inl (.rideFindById sought)
      · obtain ⟨sought, rfl⟩ := lookup
        exact calm.status_of_lookup answered finds sameId
          fun finds => calm.unaware foundTask (handles_await works) ride finds sameId
      · rw [Handling.Finds, Handling.found_after fun sought same => lookup ⟨sought, same⟩]
          at finds
        exact calm.unaware foundTask (handles_await works) ride finds sameId
    · rw [if_neg apart] at finds
      exact calm.unaware before works ride finds sameId
  · exact calm.unaware

/-- When a handler begins with a message that a ride is gone, calm begins. -/
theorem calm_of_spawn {topic : Topic} (unlocked : init.acceptLock = none)
    (silent : init.published = []) (gone : topic ≠ .rideRequested)
    (inside : Inside P W init pool guest) (dutiful : Dutiful pool)
    (moved : Deployment.next P W pool (.spawn (.inr (.handle topic rideId))) = some pool') :
    Calm rideId pool' := by
  obtain ⟨published, idle⟩ := next_handle moved
  have left := inside.left_of_published unlocked silent gone published
  refine ⟨inside.left_next unlocked moved left, ?_⟩
  obtain rfl := (deployment P W).next_spawn (machine_next_of_next moved)
  intro pid task found works ride finds
  rcases getElem?_concat_cases found with earlier | ⟨rfl, _⟩
  · have quiet := idle task (List.mem_of_getElem? earlier)
    rw [works] at quiet
    cases quiet
  · rw [dutiful.noted_beyond (Nat.le_refl _)] at finds
    cases finds

/-! ## The dispatched set -/

section Dispatched

variable {pid : Nat} {broken : Option Fault} {d after : Deployment}

theorem passing_dispatched (change : Passing) : (d.passing change).dispatched = d.dispatched :=
  (passing_store d change).choose_spec.2

/-- Only `SADD` makes a set that does not exist. -/
theorem dispatched_stays_gone {call : DeploymentCall}
    {reply : Except Fault (DeploymentValue call)}
    (answered : (deployment P W).answer pid broken call d = some (reply, after))
    (gone : d.dispatched.find rideId = none)
    (notAdded : ∀ driverIds, call ≠ .inr (.dispatchedAdd rideId driverIds)) :
    after.dispatched.find rideId = none := by
  cases call with
  | inl call =>
      rcases answer_inl answered with ⟨_, _, _, rfl⟩ | ⟨_, _, _, _, rfl⟩ <;> exact gone
  | inr call =>
      rcases answer_inr answered with ⟨_, rfl⟩ | ⟨_, rfl⟩
      · cases call with
        | dispatchedAdd added driverIds =>
            have other : added ≠ rideId := by
              rintro rfl
              exact notAdded driverIds rfl
            simp [Wiring.perform, Deployment.dispatchedAdd, KeyedTable.find_save, other, gone]
        | dispatchedExpire expiring seconds =>
            simp only [Wiring.perform, Deployment.dispatchedExpire]
            split
            · exact gone
            · rename_i dispatched found
              have other : expiring ≠ rideId := by
                rintro rfl
                simp [Deployment.dispatchedTo, gone] at found
              simp [KeyedTable.find_save, other, gone]
        | dispatchedDelete deleted =>
            simp [Wiring.perform, KeyedTable.find_erase, gone]
        | _ => exact gone
      · exact gone

end Dispatched

/-- The call records or publishes an offer of the ride. -/
def OffersRide (rideId : String) : DeploymentCall → Prop
  | .inr (.dispatchedAdd added _) => added = rideId
  | .inr (.publishOffer _ payload) => payload.offers = some rideId
  | _ => False

/-- In the calm nobody offers the ride. -/
theorem Calm.no_offer (calm : Calm rideId pool) (inside : Inside P W init pool guest)
    (dutiful : Dutiful pool) {pid : Nat} {request : Request ⊕ Errand}
    {call : DeploymentCall}
    {resume : Except Fault (DeploymentValue call) →
      AwaitProgram DeploymentCall (fun call => Except Fault (DeploymentValue call)) Outcome}
    (found : pool.tasks[pid]? = some ⟨request, .await call resume⟩) :
    ¬ OffersRide rideId call := by
  intro offersRide
  have offers : offering call = true := by
    cases call with
    | inl call => exact offersRide.elim
    | inr call => cases call <;> first | rfl | exact offersRide.elim
  obtain ⟨topic, handled, rfl, allowed⟩ := dutiful.handler_of_offering inside found offers
  have waiting : (noted pid pool.world.log).FindsWaiting rideId := by
    cases call with
    | inl call => exact offersRide.elim
    | inr call =>
        cases call with
        | dispatchedAdd added driverIds =>
            obtain ⟨_, same, waits⟩ := allowed
            obtain rfl : added = rideId := offersRide
            rwa [same]
        | publishOffer driverId payload =>
            obtain ⟨_, same, _, waits⟩ := allowed
            cases same.symm.trans offersRide
            exact waits
        | _ => exact offersRide.elim
  obtain ⟨ride, finds, sameId, status⟩ := waiting
  exact calm.unaware found rfl ride finds sameId status

/-! ## Handlers of messages that a ride is gone -/

/-- How matters stand with a handler of such a message. -/
structure Attends (rideId : String) (pid : Nat) (pool : DeploymentPool) : Prop where
  calm : Calm rideId pool
  finds : (noted pid pool.world.log).found ≠ some none
  erased : (noted pid pool.world.log).deleted = true →
    pool.world.state.dispatched.find rideId = none

/-- All handlers of such messages, whether at work or not. -/
def Attentive (pool : DeploymentPool) : Prop :=
  ∀ pid topic rideId rest,
    pool.tasks[pid]? = some ⟨.inr (.handle topic rideId), rest⟩ → topic ≠ .rideRequested →
      Attends rideId pid pool

theorem deleted_after {note : Handling} {call : DeploymentCall}
    {reply : Except Fault (DeploymentValue call)}
    (deleted : (note.after call reply).deleted = true) :
    note.deleted = true ∨ ∃ key, call = .inr (.dispatchedDelete key) ∧
      ∃ value, reply = .ok value := by
  cases call with
  | inl call =>
      cases call with
      | sseEmit key event payload =>
          cases reply with
          | ok value =>
              simp only [Handling.after] at deleted
              split at deleted <;> exact Or.inl deleted
          | error fault => exact Or.inl deleted
      | _ => cases reply <;> exact Or.inl deleted
  | inr call =>
      cases call with
      | dispatchedDelete key =>
          cases reply with
          | ok value => exact Or.inr ⟨key, rfl, value, rfl⟩
          | error fault => exact Or.inl deleted
      | _ => cases reply <;> exact Or.inl deleted

/-- The handler itself makes a call. -/
theorem Attends.own {topic : Topic} {pid : Nat} {broken : Option Fault}
    {call : DeploymentCall} {reply : Except Fault (DeploymentValue call)}
    {after : Deployment} (attends : Attends rideId pid pool)
    (allowed : (noted pid pool.world.log).allows topic rideId call)
    (unoffered : ¬ OffersRide rideId call)
    (answered : (deployment P W).answer pid broken call pool.world.state =
      some (reply, after)) :
    ((noted pid pool.world.log).after call reply).found ≠ some none ∧
      (((noted pid pool.world.log).after call reply).deleted = true →
        after.dispatched.find rideId = none) := by
  constructor
  · by_cases lookup : ∃ sought, call = .inl (.rideFindById sought)
    · obtain ⟨sought, rfl⟩ := lookup
      rcases answer_inl answered with ⟨_, _, performed, _⟩ | ⟨_, _, _, rfl, _⟩
      · cases performed
        obtain ⟨stored, found, _⟩ := attends.calm.left
        obtain rfl : sought = rideId := allowed
        simp [Handling.after, found]
      · exact attends.finds
    · rw [Handling.found_after fun sought same => lookup ⟨sought, same⟩]
      exact attends.finds
  · intro deleted
    rcases deleted_after deleted with before | ⟨key, rfl, value, rfl⟩
    · apply dispatched_stays_gone answered (attends.erased before)
      rintro driverIds rfl
      exact unoffered rfl
    · obtain ⟨_, rfl, _⟩ := allowed
      rcases answer_inr answered with ⟨_, rfl⟩ | ⟨absurd, _⟩
      · simp [Wiring.perform, KeyedTable.find_erase]
      · cases absurd

theorem Attentive.next {event : DeploymentEvent} (attentive : Attentive pool)
    (unlocked : init.acceptLock = none) (silent : init.published = [])
    (inside : Inside P W init pool guest) (dutiful : Dutiful pool)
    (moved : Deployment.next P W pool event = some pool') : Attentive pool' := by
  intro pid topic rideId rest found gone
  rcases (deployment P W).next_cases (machine_next_of_next moved) with
    ⟨request, rfl, same⟩ | ⟨actor, broken, advanced⟩ | ⟨change, rfl, same⟩
  · subst same
    rcases getElem?_concat_cases found with earlier | ⟨rfl, newest⟩
    · have attends := attentive pid topic rideId rest earlier gone
      exact ⟨attends.calm.next unlocked inside dutiful moved, attends.finds, attends.erased⟩
    · have beyond : noted pool.tasks.length pool.world.log = {} :=
        dutiful.noted_beyond (Nat.le_refl _)
      cases newest
      refine ⟨calm_of_spawn unlocked silent gone inside dutiful moved, ?_, ?_⟩
      · change (noted pool.tasks.length pool.world.log).found ≠ some none
        simp [beyond]
      · change (noted pool.tasks.length pool.world.log).deleted = true → _
        simp [beyond]
  · obtain ⟨request, call, resume, reply, state, foundTask, answered, rfl⟩ :=
      (deployment P W).advance_eq_some advanced
    rcases getElem?_set_cases found with ⟨rfl, updated⟩ | ⟨apart, before⟩
    · cases updated
      have attends := attentive actor topic rideId _ foundTask gone
      have allowed := (dutiful.handlers topic rideId).allows foundTask rfl
      rw [noteOf_handling] at allowed
      obtain ⟨finds, erased⟩ := attends.own allowed
        (attends.calm.no_offer inside dutiful foundTask) answered
      refine ⟨attends.calm.next unlocked inside dutiful moved, ?_, ?_⟩
      · rwa [noted_cons, if_pos rfl]
      · rwa [noted_cons, if_pos rfl]
    · have attends := attentive pid topic rideId rest before gone
      refine ⟨attends.calm.next unlocked inside dutiful moved, ?_, ?_⟩
      · rw [noted_cons, if_neg apart]
        exact attends.finds
      · rw [noted_cons, if_neg apart]
        intro deleted
        apply dispatched_stays_gone answered (attends.erased deleted)
        rintro driverIds rfl
        exact attends.calm.no_offer inside dutiful foundTask rfl
  · subst same
    have attends := attentive pid topic rideId rest found gone
    refine ⟨attends.calm.next unlocked inside dutiful moved, attends.finds, ?_⟩
    intro deleted
    change ((pool.world.state).passing change).dispatched.find rideId = none
    rw [passing_dispatched]
    exact attends.erased deleted

/-! ## Runs -/

section Runs

variable {start : Deployment} {events later : List DeploymentEvent} {final : DeploymentPool}

theorem attentive_of_run (unlocked : start.store.acceptLock = none)
    (silent : start.store.published = [])
    (ran : Deployment.run P W (Pool.start start) events = some pool) : Attentive pool := by
  apply runSteps_reached ?_ ?_ ran
  · intro pid topic rideId rest found
    simp [Pool.start] at found
  · intro before middle event next ranBefore moved attentive
    obtain ⟨guest, inside⟩ := inside_of_run ranBefore
    exact attentive.next unlocked silent inside (dutiful_of_run ranBefore) moved

/-- In the calm the history grows without an offer of the ride, and a dispatched set
that does not exist is not made. -/
theorem Calm.run (unlocked : start.store.acceptLock = none) (calm : Calm rideId pool)
    (ran : Deployment.run P W (Pool.start start) events = some pool)
    (ranLater : Deployment.run P W pool later = some final) :
    (∃ news, final.world.log = news ++ pool.world.log ∧
        ∀ entry ∈ news, ¬ OffersRide rideId entry.call) ∧
      (pool.world.state.dispatched.find rideId = none →
        final.world.state.dispatched.find rideId = none) := by
  have kept : Calm rideId final ∧ (∃ news, final.world.log = news ++ pool.world.log ∧
      ∀ entry ∈ news, ¬ OffersRide rideId entry.call) ∧
        (pool.world.state.dispatched.find rideId = none →
          final.world.state.dispatched.find rideId = none) := by
    apply runSteps_reached ?_ ?_ ranLater
    · exact ⟨calm, ⟨[], rfl, by simp⟩, id⟩
    · rintro before middle event next ranBefore moved ⟨calm, ⟨news, logEq, quiet⟩, erased⟩
      have ranMiddle := (Deployment.run_split ran).mpr ranBefore
      obtain ⟨guest, inside⟩ := inside_of_run ranMiddle
      have dutiful := dutiful_of_run ranMiddle
      refine ⟨calm.next unlocked inside dutiful moved, ?_⟩
      rcases (deployment P W).next_cases (machine_next_of_next moved) with
        ⟨request, _, rfl⟩ | ⟨pid, broken, advanced⟩ | ⟨change, _, rfl⟩
      · exact ⟨⟨news, logEq, quiet⟩, erased⟩
      · obtain ⟨request, call, resume, reply, state, found, answered, rfl⟩ :=
          (deployment P W).advance_eq_some advanced
        have unoffered := calm.no_offer inside dutiful found
        refine ⟨⟨⟨pid, request, call, reply⟩ :: news, ?_, ?_⟩, fun gone => ?_⟩
        · rw [logEq]
          rfl
        · intro entry entryMem
          rcases List.mem_cons.mp entryMem with rfl | old
          · exact unoffered
          · exact quiet entry old
        · apply dispatched_stays_gone answered (erased gone)
          rintro driverIds rfl
          exact unoffered rfl
      · refine ⟨⟨news, logEq, quiet⟩, fun gone => ?_⟩
        change ((middle.world.state).passing change).dispatched.find rideId = none
        rw [passing_dispatched]
        exact erased gone
  exact kept.2

/-- Once a message that a ride was accepted or cancelled has been handled, no later
step publishes an offer of the ride or adds a driver to its dispatched set; and once
the handling of an acceptance has succeeded, that set does not exist any more. -/
theorem no_offer_of_gone (unlocked : start.store.acceptLock = none)
    (silent : start.store.published = [])
    (ran : Deployment.run P W (Pool.start start) events = some pool)
    (ranLater : Deployment.run P W pool later = some final)
    {pid : Nat} {topic : Topic} {outcome : Outcome}
    (handled : pool.ended? pid = some (.inr (.handle topic rideId), outcome))
    (gone : topic = .rideAccepted ∨ topic = .rideCancelled) :
    (∃ news, final.world.log = news ++ pool.world.log ∧
        ∀ entry ∈ news, ¬ OffersRide rideId entry.call) ∧
      (topic = .rideAccepted → (∃ response, outcome = .ok response) →
        final.world.state.dispatchedTo rideId = none) := by
  have notWaiting : topic ≠ .rideRequested := by
    rcases gone with rfl | rfl <;> decide
  have found := Pool.ended?_eq_some handled
  have attends : Attends rideId pid pool :=
    attentive_of_run unlocked silent ran pid topic rideId _ found notWaiting
  obtain ⟨quiet, staysGone⟩ := attends.calm.run unlocked ran ranLater
  refine ⟨quiet, ?_⟩
  rintro rfl succeeded
  have done : Handling.Done .rideAccepted ((handling .rideAccepted rideId).noteOf pid
      pool.world.log) :=
    ((dutiful_of_run ran).handlers .rideAccepted rideId).ended handled rfl succeeded
  rw [noteOf_handling] at done
  rcases done with absent | deleted
  · exact absurd absent attends.finds
  · simp [Deployment.dispatchedTo, staysGone (attends.erased deleted)]

end Runs

namespace SmallCity

/-- The drivers go online, ann asks for a ride and both are offered it; eve accepts it
and the acceptance is handled. -/
def eveAccepts : List DeploymentEvent :=
  [.spawn (.inl (.goOnline "u3" centre centre)), .spawn (.inl (.goOnline "u4" centre centre)),
    .spawn (.inl (wants "r1" "u1"))] ++
  moves 0 5 ++ moves 1 5 ++ moves 2 8 ++
  [.spawn (.inr (.handle .rideRequested "r1"))] ++ moves 3 7 ++
  [.spawn (.inl (.acceptRide "r1" "u4"))] ++ moves 4 9 ++
  [.spawn (.inr (.handle .rideAccepted "r1"))] ++ moves 5 6

/-- The first message is delivered once more. -/
def requestedAgain : List DeploymentEvent :=
  [.spawn (.inr (.handle .rideRequested "r1"))] ++ moves 6 1

theorem requestedAgain_no_offer :
    ∃ pool final, playAll eveAccepts = some pool ∧
      Deployment.run platform wiring pool requestedAgain = some final ∧
        final.world.state.dispatchedTo "r1" = none := by
  obtain ⟨pool, played, checked⟩ := Option.map_eq_some_iff.mp
    (by decide +kernel : (playAll eveAccepts).map (fun pool =>
      decide (pool.ended? 5 =
        some (.inr (.handle .rideAccepted "r1"), .ok .noContent)) &&
      (Deployment.run platform wiring pool requestedAgain).isSome) = some true)
  rw [Bool.and_eq_true, decide_eq_true_eq, Option.isSome_iff_exists] at checked
  obtain ⟨handled, final, ran⟩ := checked
  exact ⟨pool, final, played, ran, (no_offer_of_gone rfl rfl played ran handled
    (Or.inl rfl)).2 rfl ⟨_, rfl⟩⟩

end SmallCity

end RideHailing
