import RideHailing.HistoryLookup
import RideHailing.TaskPool

/-!
# Reasoning about interleaved tasks through their common history

Other tasks can only add calls of their own to the common history.  A law says
which call a task may add to which history; if every program, started in any
situation and interrupted by any lawful calls of others, obeys the law, then
every reachable history is lawful.  The weakest precondition below is the rule
for one program, `HistoryRules.run_valid` the rule for a whole run.
-/

namespace RideHailing

variable {Call : Type} {Value : Call → Type}
variable {Fault State Request Outcome Token Ambient : Type}

/-- A law for single calls and a description of the state by its history. -/
structure HistoryRules
    (m : Machine Value Fault State Request Outcome Token Ambient) where
  law : Entry Value Fault Request → List (Entry Value Fault Request) → Prop
  describes : World Value Fault State Request → Prop
  describes_answer : ∀ {world : World Value Fault State Request} {pid : Nat}
    {request : Request} {call : Call} {broken : Option Fault}
    {reply : Except Fault (Value call)} {state : State},
    describes world → Lawful law world.log →
      m.answer pid broken call world.state = some (reply, state) →
        law ⟨pid, request, call, reply⟩ world.log →
          describes ⟨state, ⟨pid, request, call, reply⟩ :: world.log⟩
  describes_ambient : ∀ {world : World Value Fault State Request}
    (change : Ambient), describes world →
      describes { world with state := m.ambient change world.state }

/-- All calls of a task are made for one request. -/
def OneRequestEach (log : List (Entry Value Fault Request)) : Prop :=
  ∀ entry ∈ log, ∀ other ∈ log, entry.pid = other.pid → entry.request = other.request

theorem OneRequestEach.of_append {newer older : List (Entry Value Fault Request)}
    (same : OneRequestEach (newer ++ older)) : OneRequestEach older :=
  fun one oneMem other otherMem => same one (List.mem_append_right newer oneMem) other
    (List.mem_append_right newer otherMem)

theorem OneRequestEach.tail {entry : Entry Value Fault Request}
    {older : List (Entry Value Fault Request)} (same : OneRequestEach (entry :: older)) :
    OneRequestEach older := by
  change OneRequestEach ([entry] ++ older) at same
  exact same.of_append

namespace HistoryRules

variable {m : Machine Value Fault State Request Outcome Token Ambient}

/-- The call was made by another task, one that drew other tokens. -/
def Foreign (m : Machine Value Fault State Request Outcome Token Ambient)
    (pid : Nat) (request : Request) (entry : Entry Value Fault Request) : Prop :=
  entry.pid ≠ pid ∧
    ∀ token ∈ m.draws request, token ∉ m.draws entry.request

/-- Other tasks have made some calls. -/
def Later (m : Machine Value Fault State Request Outcome Token Ambient)
    (pid : Nat) (request : Request)
    (before after : World Value Fault State Request) : Prop :=
  ∃ others, after.log = others ++ before.log ∧
    ∀ entry ∈ others, Foreign m pid request entry

theorem Later.refl (pid : Nat) (request : Request)
    (world : World Value Fault State Request) :
    Later m pid request world world :=
  ⟨[], rfl, by simp⟩

theorem Later.trans {pid : Nat} {request : Request}
    {first second third : World Value Fault State Request}
    (toSecond : Later m pid request first second)
    (toThird : Later m pid request second third) :
    Later m pid request first third := by
  obtain ⟨early, secondLog, earlyForeign⟩ := toSecond
  obtain ⟨late, thirdLog, lateForeign⟩ := toThird
  refine ⟨late ++ early, by rw [thirdLog, secondLog, List.append_assoc], ?_⟩
  intro entry entryMem
  rcases List.mem_append.mp entryMem with inLate | inEarly
  · exact lateForeign entry inLate
  · exact earlyForeign entry inEarly

/-- A fact about histories that survives every lawful call of another task
survives any number of them. -/
theorem Later.preserve {pid : Nat} {request : Request}
    {before after : World Value Fault State Request}
    {law : Entry Value Fault Request → List (Entry Value Fault Request) → Prop}
    {fact : List (Entry Value Fault Request) → Prop}
    (later : Later m pid request before after) (lawful : Lawful law after.log)
    (stable : ∀ entry older, Foreign m pid request entry → law entry older →
      Lawful law older → fact older → fact (entry :: older))
    (holds : fact before.log) : fact after.log := by
  obtain ⟨others, log, foreign⟩ := later
  rw [log] at lawful ⊢
  clear log
  induction others with
  | nil => exact holds
  | cons entry others ih =>
      apply stable entry (others ++ before.log) (foreign entry (by simp))
        lawful.1 lawful.2
      exact ih lawful.2 fun other otherMem => foreign other (by simp [otherMem])

variable (R : HistoryRules m)

/-- The history is lawful and describes the state. -/
def Good (world : World Value Fault State Request) : Prop :=
  R.describes world ∧ Lawful R.law world.log

/-- Started here, a program keeps to the law whatever others do between its
calls, and ends in a world satisfying the postcondition. -/
def wp (pid : Nat) (request : Request) {α : Type} :
    AwaitProgram Call (fun call => Except Fault (Value call)) α →
      (α → World Value Fault State Request → Prop) →
        World Value Fault State Request → Prop
  | .done result, post, world => post result world
  | .await call resume, post, world =>
      ∀ now, Later m pid request world now → R.Good now →
        ∀ broken reply state,
          m.answer pid broken call now.state = some (reply, state) →
            R.law ⟨pid, request, call, reply⟩ now.log ∧
              (R.Good ⟨state, ⟨pid, request, call, reply⟩ :: now.log⟩ →
                wp pid request (resume reply) post
                  ⟨state, ⟨pid, request, call, reply⟩ :: now.log⟩)

section Rules

variable {pid : Nat} {request : Request} {α β : Type}

theorem wp_bind
    (program : AwaitProgram Call (fun call => Except Fault (Value call)) α)
    (next : α → AwaitProgram Call (fun call => Except Fault (Value call)) β)
    (post : β → World Value Fault State Request → Prop)
    (world : World Value Fault State Request) :
    R.wp pid request (program.bind next) post world ↔
      R.wp pid request program
        (fun result world' => R.wp pid request (next result) post world')
        world := by
  induction program generalizing world with
  | done result => rfl
  | await call resume ih =>
      simp only [AwaitProgram.await_bind, wp]
      constructor
      · intro valid now later good broken reply state answered
        obtain ⟨lawful, rest⟩ := valid now later good broken reply state answered
        exact ⟨lawful, fun goodNext => (ih reply _).mp (rest goodNext)⟩
      · intro valid now later good broken reply state answered
        obtain ⟨lawful, rest⟩ := valid now later good broken reply state answered
        exact ⟨lawful, fun goodNext => (ih reply _).mpr (rest goodNext)⟩

theorem wp_mono
    {program : AwaitProgram Call (fun call => Except Fault (Value call)) α}
    {post post' : α → World Value Fault State Request → Prop}
    {world : World Value Fault State Request}
    (implies : ∀ result world', post result world' → post' result world')
    (valid : R.wp pid request program post world) :
    R.wp pid request program post' world := by
  induction program generalizing world with
  | done result => exact implies result world valid
  | await call resume ih =>
      intro now later good broken reply state answered
      obtain ⟨lawful, rest⟩ := valid now later good broken reply state answered
      exact ⟨lawful, fun goodNext => ih reply (rest goodNext)⟩

/-- The postcondition holds now and stays true while others go on. -/
def Settled (pid : Nat) (request : Request)
    (post : α → List (Entry Value Fault Request) → Prop)
    (result : α) (world : World Value Fault State Request) : Prop :=
  ∀ now, Later m pid request world now → R.Good now → post result now.log

/-- A suspended program does not notice lawful calls of others. -/
theorem wp_later
    {program : AwaitProgram Call (fun call => Except Fault (Value call)) α}
    {post : α → List (Entry Value Fault Request) → Prop}
    {before after : World Value Fault State Request}
    (later : Later m pid request before after)
    (valid : R.wp pid request program (R.Settled pid request post) before) :
    R.wp pid request program (R.Settled pid request post) after := by
  cases program with
  | done result =>
      intro now further good
      exact valid now (later.trans further) good
  | await call resume =>
      intro now further good
      exact valid now (later.trans further) good

end Rules

/-- The situation in which a request may start: nothing in the history is its
own, and its tokens are new to the state. -/
structure Starts (pid : Nat) (request : Request)
    (world : World Value Fault State Request) : Prop where
  good : R.Good world
  foreign : ∀ entry ∈ world.log, Foreign m pid request entry
  unused : ∀ token ∈ m.draws request, m.unused token world.state = true

/-- Every task of the pool will keep to the law, entries belong to the tasks
that made them, and different tasks drew different tokens. -/
structure Valid
    (post : Nat → Request → Outcome → List (Entry Value Fault Request) → Prop)
    (pool : Pool Value Fault State Request Outcome) : Prop where
  good : R.Good pool.world
  tasks : ∀ {pid : Nat} {task : Task Value Fault Request Outcome},
    pool.tasks[pid]? = some task →
      R.wp pid task.request task.rest
        (R.Settled pid task.request (post pid task.request)) pool.world
  owned : ∀ entry ∈ pool.world.log,
    pool.requests[entry.pid]? = some entry.request
  apart : ∀ {first second : Nat} {one another : Request}, first ≠ second →
    pool.requests[first]? = some one → pool.requests[second]? = some another →
      ∀ token ∈ m.draws one, token ∉ m.draws another

variable {R}
variable {post : Nat → Request → Outcome →
  List (Entry Value Fault Request) → Prop}
variable {pool pool' : Pool Value Fault State Request Outcome}

theorem Valid.advance {pid : Nat} {broken : Option Fault}
    (valid : R.Valid post pool)
    (advanced : m.advance pool pid broken = some pool') :
    R.Valid post pool' := by
  have requestsEq := m.requests_advance advanced
  obtain ⟨request, call, resume, reply, state, found, answered, rfl⟩ :=
    m.advance_eq_some advanced
  have requestAt : pool.requests[pid]? = some request := by
    simp [Pool.requests, found]
  obtain ⟨lawful, rest⟩ := valid.tasks found pool.world (Later.refl _ _ _)
    valid.good broken reply state answered
  have good : R.Good ⟨state, ⟨pid, request, call, reply⟩ :: pool.world.log⟩ :=
    ⟨R.describes_answer valid.good.1 valid.good.2 answered lawful,
      lawful, valid.good.2⟩
  refine ⟨good, ?_, ?_, ?_⟩
  · intro other task otherFound
    rcases getElem?_set_cases otherFound with ⟨rfl, rfl⟩ | ⟨apart, otherBefore⟩
    · exact rest good
    · have otherAt : pool.requests[other]? = some task.request := by
        simp [Pool.requests, otherBefore]
      apply R.wp_later ?_ (valid.tasks otherBefore)
      refine ⟨[⟨pid, request, call, reply⟩], rfl, ?_⟩
      intro entry entryMem
      rw [List.mem_singleton.mp entryMem]
      exact ⟨apart, valid.apart (Ne.symm apart) otherAt requestAt⟩
  · intro entry entryMem
    rw [requestsEq]
    rcases List.mem_cons.mp entryMem with rfl | older
    · exact requestAt
    · exact valid.owned entry older
  · rw [requestsEq]
    exact valid.apart

variable [DecidableEq Token]

theorem Valid.spawn {request : Request} (valid : R.Valid post pool)
    (programs : ∀ pid request world, R.Starts pid request world →
      R.wp pid request (m.program request)
        (R.Settled pid request (post pid request)) world)
    (admitted : m.admits pool request = true) :
    R.Valid post { pool with
      tasks := pool.tasks ++ [⟨request, m.program request⟩] } := by
  simp only [Machine.admits, List.all_eq_true, Bool.and_eq_true,
    decide_eq_true_eq] at admitted
  have tokensNew : ∀ {pid : Nat} {earlier : Request},
      pool.requests[pid]? = some earlier →
        ∀ token ∈ m.draws request, token ∉ m.draws earlier :=
    fun found token drawn =>
      (admitted token drawn).2 _ (List.mem_of_getElem? found)
  have requestsEq : Pool.requests { pool with
      tasks := pool.tasks ++ [⟨request, m.program request⟩] } =
        pool.requests ++ [request] := by
    simp [Pool.requests]
  have lengthEq : pool.requests.length = pool.tasks.length := by
    simp [Pool.requests]
  have oldOrNew : ∀ {pid : Nat} {found : Request},
      (pool.requests ++ [request])[pid]? = some found →
        pool.requests[pid]? = some found ∨
          (pid = pool.tasks.length ∧ found = request) := by
    intro pid found foundEq
    rw [← lengthEq]
    exact getElem?_concat_cases foundEq
  refine ⟨valid.good, ?_, ?_, ?_⟩
  · intro pid task found
    rcases getElem?_concat_cases found with earlier | ⟨rfl, rfl⟩
    · exact valid.tasks earlier
    · apply programs
      refine ⟨valid.good, ?_, fun token drawn => (admitted token drawn).1⟩
      intro entry entryMem
      have owner := valid.owned entry entryMem
      have inBounds := (List.getElem?_eq_some_iff.mp owner).1
      exact ⟨by omega, tokensNew owner⟩
  · intro entry entryMem
    have owner := valid.owned entry entryMem
    rw [requestsEq,
      List.getElem?_append_left (List.getElem?_eq_some_iff.mp owner).1]
    exact owner
  · intro first second one another ne firstFound secondFound
    rw [requestsEq] at firstFound secondFound
    rcases oldOrNew firstFound with firstOld | ⟨firstEq, rfl⟩
    · rcases oldOrNew secondFound with secondOld | ⟨_, rfl⟩
      · exact valid.apart ne firstOld secondOld
      · intro token inFirst inSecond
        exact tokensNew firstOld token inSecond inFirst
    · rcases oldOrNew secondFound with secondOld | ⟨secondEq, _⟩
      · exact tokensNew secondOld
      · exact absurd (firstEq.trans secondEq.symm) ne

theorem Valid.next {event : Event Fault Request Ambient}
    (programs : ∀ pid request world, R.Starts pid request world →
      R.wp pid request (m.program request)
        (R.Settled pid request (post pid request)) world)
    (valid : R.Valid post pool) (moved : m.next pool event = some pool') :
    R.Valid post pool' := by
  cases event with
  | spawn request =>
      simp only [Machine.next] at moved
      split at moved
      · rename_i admitted
        cases moved
        exact valid.spawn programs admitted
      · cases moved
  | step pid => exact valid.advance moved
  | fault pid fault => exact valid.advance moved
  | ambient change =>
      cases moved
      refine ⟨⟨R.describes_ambient change valid.good.1, valid.good.2⟩, ?_,
        valid.owned, valid.apart⟩
      intro pid task found
      exact R.wp_later ⟨[], rfl, by simp⟩ (valid.tasks found)

/-- If all programs keep to the law, every run does. -/
theorem run_valid
    (programs : ∀ pid request world, R.Starts pid request world →
      R.wp pid request (m.program request)
        (R.Settled pid request (post pid request)) world)
    {events : List (Event Fault Request Ambient)} (valid : R.Valid post pool)
    (ran : m.run pool events = some pool') : R.Valid post pool' :=
  runSteps_invariant (fun _ _ _ before moved => before.next programs moved) valid ran

omit [DecidableEq Token] in
theorem valid_start {state : State} (described : R.describes ⟨state, []⟩) :
    R.Valid post (Pool.start state) :=
  ⟨⟨described, trivial⟩, by simp [Pool.start], by simp [Pool.start],
    by simp [Pool.start, Pool.requests]⟩

omit [DecidableEq Token] in
theorem Valid.oneRequestEach (valid : R.Valid post pool) : OneRequestEach pool.world.log := by
  intro entry entryMem other otherMem samePid
  have owner := valid.owned entry entryMem
  rw [samePid, valid.owned other otherMem] at owner
  exact (Option.some.inj owner).symm

omit [DecidableEq Token] in
/-- The postcondition of a finished task holds of the history. -/
theorem Valid.result (valid : R.Valid post pool) {pid : Nat}
    {task : Task Value Fault Request Outcome} {outcome : Outcome}
    (found : pool.tasks[pid]? = some task) (done : task.rest = .done outcome) :
    post pid task.request outcome pool.world.log := by
  have settled := valid.tasks found
  rw [done] at settled
  exact settled pool.world (Later.refl _ _ _) valid.good

end HistoryRules

end RideHailing
