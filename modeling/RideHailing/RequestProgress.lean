import RideHailing.DeploymentRuns
import RideHailing.PoolProgress
import RideHailing.RequestAuthority

/-!
# No request waits for ever

The accept lock is the only thing that a task of the process can wait for.  Its owner
is always a task that has yet to give it back, and that never waits itself; so some task
can always go on, and whichever does, all tasks get done.
-/

namespace RideHailing

open Service

/-- The monitor of the accept lock: the note says whether the task holds it. -/
def locking : CallMonitor DeploymentValue Fault Bool where
  start := false
  allows
    | holding, .inl .lockAcquire => holding = false
    | holding, .inl .lockRelease => holding = true
    | _, _ => True
  answers
    | .inl call, reply => Standing.answers call reply
    | .inr _, _ => True
  after
    | _, .inl .lockAcquire, .ok _ => true
    | _, .inl .lockRelease, .ok _ => false
    | holding, _, _ => holding

section Tasks

variable {P : Platform} {W : Wiring}

/-- A request holds the lock when its standing says so. -/
theorem handler_locking (request : Request) :
    locking.guest.Watches (handler P request) (fun _ holding => holding = false) false := by
  have acts : Acts request.presented (request.Enrols P) request.standing request.standing
      (handler P request) fun _ _ => True := handler_acts request
  refine CallMonitor.Watches.coarsen Standing.holding (fun _ => True) (fun _ _ _ _ => trivial)
    ?_ ?_ ?_ ?_ trivial acts
  · intro note call _ allowed
    cases call <;> first | exact allowed | trivial
  · intro call reply answered
    exact answered
  · intro note call reply
    rcases reply with fault | value
    · cases call <;> rfl
    · cases call with
      | userFindByUsername username =>
          cases value with
          | none => rfl
          | some user => rfl
      | userFindById userId => cases value <;> rfl
      | rideFindById rideId => cases value <;> rfl
      | rideFindFirstByDriverIdAndStatusIn driverId statuses => cases value <;> rfl
      | _ => rfl
  · rintro (failure | response) last leaves
    · exact leaves.holding
    · exact leaves.1.holding

theorem allows_of_harmless {call : DeploymentCall} (harmless : call.harmless = true) :
    locking.allows false call ∧ ∀ reply, locking.after false call reply = false := by
  rcases call with call | background
  · cases call with
    | lockAcquire => cases harmless
    | lockRelease => cases harmless
    | _ => exact ⟨trivial, fun _ => rfl⟩
  · exact ⟨trivial, fun _ => rfl⟩

/-- Everything that the process undertakes. -/
theorem undertaking_locking (task : Request ⊕ Errand) :
    locking.Watches (undertaking P W task) (fun _ holding => holding = false) false := by
  cases task with
  | inl request => exact CallMonitor.watches_hosted (handler_locking request)
  | inr errand =>
      exact CallMonitor.watches_of_only
        ((errand_writesNoTable errand).mono fun _ => allows_of_harmless)

end Tasks

/-! ## The owner of the lock -/

section Owner

variable {P : Platform} {W : Wiring} {pid : Nat} {broken : Option Fault}
variable {d after : Deployment} {pool pool' : DeploymentPool}

theorem locking_answers {call : DeploymentCall} {reply : Except Fault (DeploymentValue call)}
    (answered : (deployment P W).answer pid broken call d = some (reply, after)) :
    locking.answers call reply := by
  rcases call with call | background
  · cases broken with
    | none =>
        obtain ⟨⟨given, store⟩, performed, same⟩ := Option.map_eq_some_iff.mp answered
        cases same
        exact answers_of_perform performed
    | some fault =>
        obtain ⟨permitted, rfl, rfl⟩ := Machine.answer_broken answered
        exact answers_of_broken permitted
  · trivial

/-- Whether a task holds the lock, by the calls it has made. -/
def holds (pool : DeploymentPool) (pid : Nat) : Bool :=
  locking.noteOf pid pool.world.log

/-- Every task takes the lock and gives it back in turn, and the owner of the lock holds
it. -/
structure Locked (pool : DeploymentPool) : Prop where
  followed : locking.Followed (fun _ => True) (fun _ _ holding => holding = false) pool
  owner : ∀ pid, pool.world.state.store.acceptLock = some pid → holds pool pid = true

theorem lock_of_perform {call : Call} {reply : Except Fault (Value call)}
    {before after : Store} (unlocked : call.locks = false)
    (performed : P.perform pid call before = some (reply, after)) :
    after.acceptLock = before.acceptLock := by
  rcases perform_cases performed with rfl | change
  · rfl
  · cases change <;> first | rfl | cases unlocked

theorem lock_of_background (call : BackgroundCall) :
    (W.perform call d).2.store.acceptLock = d.store.acceptLock := by
  cases call with
  | dispatchedExpire rideId seconds =>
      simp only [Wiring.perform, Deployment.dispatchedExpire]
      split <;> rfl
  | _ => rfl

/-- What a call does to the lock. -/
theorem lock_of_answer {call : DeploymentCall} {reply : Except Fault (DeploymentValue call)}
    (answered : (deployment P W).answer pid broken call d = some (reply, after)) :
    (after.store.acceptLock = d.store.acceptLock ∧
        ∀ holding, locking.after holding call reply = holding) ∨
      after.store.acceptLock = none ∨
        (after.store.acceptLock = some pid ∧
          ∀ holding, locking.after holding call reply = true) := by
  rcases call with call | background
  · cases broken with
    | some fault =>
        obtain ⟨_, rfl, rfl⟩ := Machine.answer_broken answered
        exact Or.inl ⟨rfl, fun holding => by cases call <;> rfl⟩
    | none =>
        obtain ⟨⟨given, store⟩, performed, same⟩ := Option.map_eq_some_iff.mp answered
        cases same
        cases call with
        | lockAcquire =>
            simp only [Platform.perform] at performed
            split at performed
            · cases performed
              exact Or.inr (Or.inr ⟨rfl, fun _ => rfl⟩)
            · cases performed
        | lockRelease =>
            cases performed
            exact Or.inr (Or.inl rfl)
        | _ => exact Or.inl ⟨lock_of_perform rfl performed, fun _ => rfl⟩
  · refine Or.inl ⟨?_, fun _ => rfl⟩
    cases broken with
    | some fault =>
        obtain ⟨_, _, rfl⟩ := Machine.answer_broken answered
        rfl
    | none =>
        cases answered
        exact lock_of_background background

theorem lock_of_passing (d : Deployment) (change : Passing) :
    (d.passing change).store.acceptLock = d.store.acceptLock := by
  obtain ⟨sse, storeEq, _⟩ := passing_store d change
  rw [storeEq]

theorem Locked.advance (locked : Locked pool)
    (advanced : (deployment P W).advance pool pid broken = some pool') : Locked pool' := by
  have followed := locked.followed.advance locking_answers advanced
  obtain ⟨task, call, resume, reply, d, found, answered, rfl⟩ :=
    (deployment P W).advance_eq_some advanced
  refine ⟨followed, fun other owned => ?_⟩
  simp only [holds, CallMonitor.noteOf]
  rcases lock_of_answer answered with ⟨same, kept⟩ | free | ⟨taken, noted⟩
  · have before : holds pool other = true := locked.owner other (same.symm.trans owned)
    split
    · rw [kept]
      exact before
    · exact before
  · have absurdOwner : d.store.acceptLock = some other := owned
    rw [free] at absurdOwner
    cases absurdOwner
  · obtain rfl : pid = other := Option.some.inj (taken.symm.trans owned)
    rw [if_pos rfl, noted]

theorem Locked.next {event : DeploymentEvent} (locked : Locked pool)
    (moved : Deployment.next P W pool event = some pool') : Locked pool' := by
  have movedMachine := machine_next_of_next moved
  rcases (deployment P W).next_cases movedMachine with
    ⟨task, rfl, rfl⟩ | ⟨pid, broken, advanced⟩ | ⟨change, rfl, rfl⟩
  · exact ⟨locked.followed.next locking_answers (fun task _ => undertaking_locking task)
      movedMachine, locked.owner⟩
  · exact locked.advance advanced
  · refine ⟨locked.followed.next locking_answers (fun task _ => undertaking_locking task)
      movedMachine, fun pid owned => locked.owner pid ?_⟩
    rw [← lock_of_passing pool.world.state change]
    exact owned

theorem locked_of_run {start : Deployment} {events : List DeploymentEvent}
    (unlocked : start.store.acceptLock = none)
    (ran : Deployment.run P W (Pool.start start) events = some pool) : Locked pool := by
  refine runSteps_invariant (fun _ _ _ locked moved => locked.next moved) ?_ ran
  refine ⟨CallMonitor.followed_start start, fun pid owned => ?_⟩
  have owner : start.store.acceptLock = some pid := owned
  rw [unlocked] at owner
  cases owner

/-- A task that holds the lock has yet to give it back. -/
theorem Locked.owner_unfinished (locked : Locked pool)
    (owned : pool.world.state.store.acceptLock = some pid) :
    ∃ task call resume, pool.tasks[pid]? = some ⟨task, .await call resume⟩ ∧
      call ≠ .inl .lockAcquire := by
  have holding := locked.owner pid owned
  have bound : pid < pool.tasks.length := by
    by_contra outside
    have fresh : holds pool pid = false := by
      apply CallMonitor.noteOf_fresh
      intro entry entryMem same
      have owner := locked.followed.owned entry entryMem
      omega
    rw [fresh] at holding
    cases holding
  obtain ⟨⟨task, rest⟩, found⟩ : ∃ task, pool.tasks[pid]? = some task :=
    ⟨_, List.getElem?_eq_getElem bound⟩
  have watched := locked.followed.tasks found trivial
  cases rest with
  | done outcome =>
      have released : holds pool pid = false := watched
      rw [released] at holding
      cases holding
  | await call resume =>
      refine ⟨task, call, resume, found, ?_⟩
      rintro rfl
      have free : holds pool pid = false := watched.1
      rw [free] at holding
      cases holding

/-- Only a lock that is held keeps a call waiting. -/
theorem perform_of_free {call : DeploymentCall}
    (free : call = .inl .lockAcquire → d.store.acceptLock = none) :
    ∃ reply next, (deployment P W).answer pid none call d = some (reply, next) := by
  rcases call with call | background
  · have performed : ∃ reply store, P.perform pid call d.store = some (reply, store) := by
      cases call with
      | lockAcquire => exact ⟨_, _, if_pos (by rw [free rfl]; rfl)⟩
      | userSave user => simp only [Platform.perform]; split <;> exact ⟨_, _, rfl⟩
      | driverMerge driver => simp only [Platform.perform]; split <;> exact ⟨_, _, rfl⟩
      | ratingSave rating => simp only [Platform.perform]; split <;> exact ⟨_, _, rfl⟩
      | geoadd userId lat lng => simp only [Platform.perform]; split <;> exact ⟨_, _, rfl⟩
      | geosearch lat lng radiusKm count =>
          simp only [Platform.perform]
          split <;> exact ⟨_, _, rfl⟩
      | limiterHit capacity windowSeconds key =>
          simp only [Platform.perform]
          split <;> exact ⟨_, _, rfl⟩
      | _ => exact ⟨_, _, rfl⟩
    obtain ⟨reply, store, performed⟩ := performed
    refine ⟨reply, { d with store := store }, ?_⟩
    simp only [Machine.answer, deployment, performed, Option.map_some]
  · exact ⟨_, _, rfl⟩

theorem step_of_free {task : Request ⊕ Errand} {call : DeploymentCall}
    {resume : Except Fault (DeploymentValue call) →
      AwaitProgram DeploymentCall (fun call => Except Fault (DeploymentValue call)) Outcome}
    (found : pool.tasks[pid]? = some ⟨task, .await call resume⟩)
    (free : call = .inl .lockAcquire → pool.world.state.store.acceptLock = none) :
    ∃ next, Deployment.next P W pool (.step pid) = some next := by
  obtain ⟨reply, after, answered⟩ :
      ∃ reply after, (deployment P W).answer pid none call pool.world.state =
        some (reply, after) := perform_of_free free
  refine ⟨⟨⟨after, ⟨pid, task, call, reply⟩ :: pool.world.log⟩,
    pool.tasks.set pid ⟨task, resume reply⟩⟩, ?_⟩
  change (deployment P W).advance pool pid none = _
  simp only [Machine.advance, found, answered]

/-- Unless all tasks are done, one of them can go on. -/
theorem Locked.progress (locked : Locked pool) :
    pool.Quiescent ∨ ∃ pid next, Deployment.next P W pool (.step pid) = some next := by
  by_cases quiescent : pool.Quiescent
  · exact Or.inl quiescent
  · apply Or.inr
    cases lock : pool.world.state.store.acceptLock with
    | some owner =>
        obtain ⟨task, call, resume, found, other⟩ := locked.owner_unfinished lock
        exact ⟨owner, step_of_free found fun same => absurd same other⟩
    | none =>
        simp only [Pool.Quiescent, not_forall] at quiescent
        obtain ⟨⟨task, rest⟩, taskMem, unfinished⟩ := quiescent
        obtain ⟨pid, found⟩ := List.getElem?_of_mem taskMem
        cases rest with
        | done outcome => exact absurd rfl unfinished
        | await call resume => exact ⟨pid, step_of_free found fun _ => lock⟩

/-- The lock is free when nobody is at work. -/
theorem Locked.free (locked : Locked pool) (quiescent : pool.Quiescent) :
    pool.world.state.store.acceptLock = none := by
  cases lock : pool.world.state.store.acceptLock with
  | none => rfl
  | some owner =>
      obtain ⟨task, call, resume, found, _⟩ := locked.owner_unfinished lock
      have done := quiescent _ (List.mem_of_getElem? found)
      cases done

/-- One task makes its next call, which may fail. -/
def Works (event : DeploymentEvent) : Prop :=
  ∃ pid, event = .step pid ∨ ∃ fault, event = .fault pid fault

theorem less_of_works {event : DeploymentEvent} (works : Works event)
    (moved : Deployment.next P W pool event = some pool') : pool'.Less pool := by
  obtain ⟨pid, rfl | ⟨fault, rfl⟩⟩ := works
  · exact (deployment P W).less_of_advance moved
  · exact (deployment P W).less_of_advance moved

/-- Whatever else happens, unless a task begins, leaves the programs as they are. -/
theorem remaining_of_ambient {change : Passing}
    (moved : Deployment.next P W pool (.ambient change) = some pool') :
    pool'.remaining = pool.remaining := by
  cases machine_next_of_next moved
  rfl

end Owner

/-- No request waits for ever.  Whatever has happened so far, unless all tasks are done
one of them can go on; nobody can keep the tasks busy for ever without beginning new
ones, whatever else happens between their calls; and so they can be run to their ends,
after which the accept lock is free. -/
theorem tasks_complete {P : Platform} {W : Wiring} {start : Deployment}
    {events : List DeploymentEvent} {pool : DeploymentPool}
    (unlocked : start.store.acceptLock = none)
    (ran : Deployment.run P W (Pool.start start) events = some pool) :
    (pool.Quiescent ∨ ∃ pid next, Deployment.next P W pool (.step pid) = some next) ∧
      (¬ ∃ (pools : Nat → DeploymentPool) (happens : Nat → DeploymentEvent), pools 0 = pool ∧
        (∀ time, Deployment.next P W (pools time) (happens time) = some (pools (time + 1))) ∧
        (∀ time, Works (happens time) ∨ ∃ change, happens time = .ambient change) ∧
        ∀ time, ∃ later, time ≤ later ∧ Works (happens later)) ∧
      ∃ steps final, (∀ event ∈ steps, ∃ pid, event = .step pid) ∧
        Deployment.run P W pool steps = some final ∧ final.Quiescent ∧
          final.world.state.store.acceptLock = none := by
  have locked := locked_of_run unlocked ran
  refine ⟨locked.progress, ?_, ?_⟩
  · rintro ⟨pools, happens, _, goesOn, kinds, recurs⟩
    apply @not_smaller_recurrently _ _ AwaitProgram.wellFounded_resumes.cutExpand
      fun time => (pools time).remaining
    · intro time
      rcases kinds time with works | ⟨change, passes⟩
      · exact Or.inr (less_of_works works (goesOn time))
      · have moved := goesOn time
        rw [passes] at moved
        exact Or.inl (remaining_of_ambient moved)
    · intro time
      obtain ⟨later, after, works⟩ := recurs time
      exact ⟨later, after, less_of_works works (goesOn later)⟩
  · have continues : ∀ pool : DeploymentPool, Locked pool → pool.Quiescent ∨
        ∃ event next, (∃ pid, event = .step pid) ∧
          Deployment.next P W pool event = some next ∧ Locked next ∧ next.Less pool := by
      intro pool locked
      have goesOn : pool.Quiescent ∨
          ∃ pid next, Deployment.next P W pool (.step pid) = some next := locked.progress
      rcases goesOn with quiescent | ⟨pid, next, moved⟩
      · exact Or.inl quiescent
      · exact Or.inr ⟨.step pid, next, ⟨pid, rfl⟩, moved, locked.next moved,
          less_of_works ⟨pid, Or.inl rfl⟩ moved⟩
    obtain ⟨steps, final, allSteps, ranSteps, lockedFinal, quiescent⟩ :=
      runSteps_completes Pool.wellFounded_less continues locked
    exact ⟨steps, final, allSteps, ranSteps, quiescent, lockedFinal.free quiescent⟩

namespace SmallCity

/-- Eve has the lock to accept the ride of ann, and dan waits for it. -/
def danWaits : List DeploymentEvent :=
  [.spawn (.inl (.goOnline "u4" centre centre))] ++ moves 0 5 ++
  [.spawn (.inl (wants "r1" "u1"))] ++ moves 1 8 ++
  [.spawn (.inl (.acceptRide "r1" "u4")), .step 2, .spawn (.inl (.acceptRide "r1" "u3"))]

/-- Dan cannot go on, but will be answered. -/
theorem danWaits_complete :
    ∃ pool, playAll danWaits = some pool ∧
      Deployment.next platform wiring pool (.step 3) = none ∧
      ∃ steps final, (∀ event ∈ steps, ∃ pid, event = .step pid) ∧
        Deployment.run platform wiring pool steps = some final ∧ final.Quiescent ∧
          final.world.state.store.acceptLock = none := by
  obtain ⟨pool, played, waits⟩ := Option.map_eq_some_iff.mp
    (by decide +kernel : (playAll danWaits).map (fun pool =>
      (Deployment.next platform wiring pool (.step 3)).isNone) = some true)
  exact ⟨pool, played, Option.isNone_iff_eq_none.mp waits, (tasks_complete rfl played).2.2⟩

end SmallCity

end RideHailing
