import RideHailing.AwaitProgram
import RideHailing.StepRuns

/-!
# Tasks interleaved on one event loop

A machine serves requests.  Every request becomes a task that runs the
request's program; a scheduler picks, in any order, which task performs its
next awaited call.  One call is one atomic step on the shared state.  The
environment may let an awaited call fail without effect, and it may change the
state on its own, as the passage of time does.

Requests draw tokens, names that no earlier request has drawn and that the
state does not know yet.  A configuration also keeps the history of the calls
performed so far, the newest first.
-/

namespace RideHailing

/-- One performed call: the task, the request it serves, the call and the
reply. -/
structure Entry {Call : Type} (Value : Call → Type) (Fault Request : Type) where
  pid : Nat
  request : Request
  call : Call
  reply : Except Fault (Value call)

/-- The shared state together with the history of performed calls. -/
structure World {Call : Type} (Value : Call → Type)
    (Fault State Request : Type) where
  state : State
  log : List (Entry Value Fault Request)

/-- A request and what is left of its program. -/
structure Task {Call : Type} (Value : Call → Type)
    (Fault Request Outcome : Type) where
  request : Request
  rest : AwaitProgram Call (fun call => Except Fault (Value call)) Outcome

/-- The tasks, finished ones included; a task's position is its process id. -/
structure Pool {Call : Type} (Value : Call → Type)
    (Fault State Request Outcome : Type) where
  world : World Value Fault State Request
  tasks : List (Task Value Fault Request Outcome)

/-- The requests served so far, by process id. -/
def Pool.requests {Call : Type} {Value : Call → Type}
    {Fault State Request Outcome : Type}
    (pool : Pool Value Fault State Request Outcome) : List Request :=
  pool.tasks.map Task.request

theorem Pool.request_of_task {Call : Type} {Value : Call → Type}
    {Fault State Request Outcome : Type}
    {pool : Pool Value Fault State Request Outcome} {pid : Nat}
    {task : Task Value Fault Request Outcome} (found : pool.tasks[pid]? = some task) :
    pool.requests[pid]? = some task.request := by
  rw [Pool.requests, List.getElem?_map, found]
  rfl

/-- What the scheduler and the environment may do next. -/
inductive Event (Fault Request Ambient : Type) where
  | spawn (request : Request)
  | step (pid : Nat)
  | fault (pid : Nat) (fault : Fault)
  | ambient (change : Ambient)

/-- The programs of the requests and the meaning of the calls. -/
structure Machine {Call : Type} (Value : Call → Type)
    (Fault State Request Outcome Token Ambient : Type) where
  program : Request →
    AwaitProgram Call (fun call => Except Fault (Value call)) Outcome
  perform : Nat → (call : Call) → State →
    Option (Except Fault (Value call) × State)
  breakable : Call → Fault → Bool
  draws : Request → List Token
  unused : Token → State → Bool
  ambient : Ambient → State → State

variable {Call : Type} {Value : Call → Type}
variable {Fault State Request Outcome Token Ambient : Type}

/-- No call of the task is left. -/
def AwaitProgram.result? {Reply : Call → Type} {α : Type} :
    AwaitProgram Call Reply α → Option α
  | .done result => some result
  | .await _ _ => none

namespace Machine

variable (m : Machine Value Fault State Request Outcome Token Ambient)

/-- A call answered by the state, or broken by the environment. -/
def answer (pid : Nat) (broken : Option Fault) (call : Call) (state : State) :
    Option (Except Fault (Value call) × State) :=
  match broken with
  | none => m.perform pid call state
  | some fault =>
      if m.breakable call fault then some (.error fault, state) else none

variable {m}

/-- A broken call is one that may break, and it has no effect. -/
theorem answer_broken {pid : Nat} {fault : Fault} {call : Call} {state after : State}
    {reply : Except Fault (Value call)}
    (answered : m.answer pid (some fault) call state = some (reply, after)) :
    m.breakable call fault = true ∧ reply = .error fault ∧ after = state := by
  simp only [answer] at answered
  split at answered
  · rename_i permitted
    cases answered
    exact ⟨permitted, rfl, rfl⟩
  · cases answered

/-- A value is what the call returns in the state. -/
theorem perform_of_answer {pid : Nat} {broken : Option Fault} {call : Call}
    {value : Value call} {state after : State}
    (answered : m.answer pid broken call state = some (.ok value, after)) :
    m.perform pid call state = some (.ok value, after) := by
  cases broken with
  | none => exact answered
  | some fault =>
      obtain ⟨_, replied, _⟩ := answer_broken answered
      cases replied

variable (m)

/-- Let one task perform its next call. -/
def advance (pool : Pool Value Fault State Request Outcome) (pid : Nat)
    (broken : Option Fault) : Option (Pool Value Fault State Request Outcome) :=
  match pool.tasks[pid]? with
  | none => none
  | some task =>
      match task.rest with
      | .done _ => none
      | .await call resume =>
          match m.answer pid broken call pool.world.state with
          | none => none
          | some (reply, state) => some {
              world := {
                state := state
                log := ⟨pid, task.request, call, reply⟩ :: pool.world.log }
              tasks := pool.tasks.set pid ⟨task.request, resume reply⟩ }

/-- What one call of a task changes: its program moves on, the call enters the
history, and the state becomes what the call made of it. -/
theorem advance_eq_some {pool pool' : Pool Value Fault State Request Outcome}
    {pid : Nat} {broken : Option Fault}
    (advanced : m.advance pool pid broken = some pool') :
    ∃ request call resume reply state,
      pool.tasks[pid]? = some ⟨request, .await call resume⟩ ∧
        m.answer pid broken call pool.world.state = some (reply, state) ∧
          pool' = {
            world := ⟨state, ⟨pid, request, call, reply⟩ :: pool.world.log⟩
            tasks := pool.tasks.set pid ⟨request, resume reply⟩ } := by
  unfold advance at advanced
  split at advanced
  · cases advanced
  · rename_i task found
    obtain ⟨request, rest⟩ := task
    cases rest with
    | done result => cases advanced
    | await call resume =>
        simp only at advanced
        split at advanced
        · cases advanced
        · rename_i reply state answered
          exact ⟨request, call, resume, reply, state, found, answered,
            (Option.some.inj advanced).symm⟩

theorem requests_advance {pool pool' : Pool Value Fault State Request Outcome}
    {pid : Nat} {broken : Option Fault}
    (advanced : m.advance pool pid broken = some pool') :
    pool'.requests = pool.requests := by
  obtain ⟨request, call, resume, reply, state, found, -, rfl⟩ :=
    m.advance_eq_some advanced
  obtain ⟨bound, requestEq⟩ : ∃ bound : pid < pool.requests.length,
      pool.requests[pid] = request := by
    rw [← List.getElem?_eq_some_iff]
    simp [Pool.requests, found]
  subst requestEq
  rw [Pool.requests, List.map_set]
  exact List.set_getElem_self bound

variable [DecidableEq Token]

/-- A request may start when the tokens it draws are new. -/
def admits (pool : Pool Value Fault State Request Outcome)
    (request : Request) : Bool :=
  (m.draws request).all fun token =>
    m.unused token pool.world.state &&
      pool.requests.all fun earlier => decide (token ∉ m.draws earlier)

/-- One event of a run. -/
def next (pool : Pool Value Fault State Request Outcome) :
    Event Fault Request Ambient → Option (Pool Value Fault State Request Outcome)
  | .spawn request =>
      if m.admits pool request then
        some { pool with tasks := pool.tasks ++ [⟨request, m.program request⟩] }
      else none
  | .step pid => m.advance pool pid none
  | .fault pid fault => m.advance pool pid (some fault)
  | .ambient change =>
      some { pool with
        world := { pool.world with
          state := m.ambient change pool.world.state } }

theorem next_spawn {pool pool' : Pool Value Fault State Request Outcome} {request : Request}
    (moved : m.next pool (.spawn request) = some pool') :
    pool' = { pool with tasks := pool.tasks ++ [⟨request, m.program request⟩] } := by
  simp only [next] at moved
  split at moved
  · exact (Option.some.inj moved).symm
  · cases moved

/-- What an event changes: a task begins, or one makes a call, or the environment
changes the state. -/
theorem next_cases {pool pool' : Pool Value Fault State Request Outcome}
    {event : Event Fault Request Ambient} (moved : m.next pool event = some pool') :
    (∃ request, event = .spawn request ∧
        pool' = { pool with tasks := pool.tasks ++ [⟨request, m.program request⟩] }) ∨
      (∃ pid broken, m.advance pool pid broken = some pool') ∨
        ∃ change, event = .ambient change ∧ pool' = { pool with
          world := { pool.world with state := m.ambient change pool.world.state } } := by
  cases event with
  | spawn request => exact Or.inl ⟨request, rfl, m.next_spawn moved⟩
  | step pid => exact Or.inr (Or.inl ⟨pid, none, moved⟩)
  | fault pid fault => exact Or.inr (Or.inl ⟨pid, some fault, moved⟩)
  | ambient change => exact Or.inr (Or.inr ⟨change, rfl, (Option.some.inj moved).symm⟩)

/-- Perform the events of a schedule in order. -/
def run (pool : Pool Value Fault State Request Outcome)
    (events : List (Event Fault Request Ambient)) :
    Option (Pool Value Fault State Request Outcome) :=
  runSteps m.next pool events

end Machine

/-- A pool before its first request. -/
def Pool.start (state : State) : Pool Value Fault State Request Outcome :=
  ⟨⟨state, []⟩, []⟩

/-- The request of a finished task and what it ended with. -/
def Pool.ended? (pool : Pool Value Fault State Request Outcome) (pid : Nat) :
    Option (Request × Outcome) :=
  pool.tasks[pid]?.bind fun task =>
    task.rest.result?.map fun outcome => (task.request, outcome)

theorem Pool.ended?_eq_some {pool : Pool Value Fault State Request Outcome}
    {pid : Nat} {request : Request} {outcome : Outcome}
    (ended : pool.ended? pid = some (request, outcome)) :
    pool.tasks[pid]? = some ⟨request, .done outcome⟩ := by
  cases found : pool.tasks[pid]? with
  | none => simp [Pool.ended?, found] at ended
  | some task =>
      obtain ⟨taskRequest, rest⟩ := task
      cases rest with
      | done result =>
          simp [Pool.ended?, found, AwaitProgram.result?] at ended
          rw [ended.1, ended.2]
      | await call resume => simp [Pool.ended?, found, AwaitProgram.result?] at ended

theorem Pool.ended?_of_task {pool : Pool Value Fault State Request Outcome}
    {pid : Nat} {request : Request} {outcome : Outcome}
    (found : pool.tasks[pid]? = some ⟨request, .done outcome⟩) :
    pool.ended? pid = some (request, outcome) := by
  rw [Pool.ended?, found]
  rfl

/-- A task ends at a step of its own, unless its program makes no call. -/
theorem Machine.ends_by_advance
    {m : Machine Value Fault State Request Outcome Token Ambient} [DecidableEq Token]
    {pool pool' : Pool Value Fault State Request Outcome} {event : Event Fault Request Ambient}
    {pid : Nat} {request : Request} {outcome : Outcome} (moved : m.next pool event = some pool')
    (running : pool.ended? pid = none) (ended : pool'.ended? pid = some (request, outcome)) :
    (∃ broken, m.advance pool pid broken = some pool') ∨ m.program request = .done outcome := by
  have unfinished : pool.tasks[pid]? ≠ some ⟨request, .done outcome⟩ := by
    intro found
    rw [Pool.ended?_of_task found] at running
    cases running
  have found := Pool.ended?_eq_some ended
  rcases m.next_cases moved with ⟨spawned, _, rfl⟩ | ⟨other, broken, advanced⟩ | ⟨_, _, rfl⟩
  · rcases getElem?_concat_cases found with earlier | ⟨_, newest⟩
    · exact absurd earlier unfinished
    · obtain ⟨rfl, done⟩ := Task.mk.inj newest
      exact Or.inr done.symm
  · by_cases same : other = pid
    · exact Or.inl ⟨broken, same ▸ advanced⟩
    · obtain ⟨_, _, _, _, _, _, _, rfl⟩ := m.advance_eq_some advanced
      rw [List.getElem?_set_ne same] at found
      exact absurd found unfinished
  · exact absurd found unfinished

/-- No request is in flight. -/
def Pool.Quiescent (pool : Pool Value Fault State Request Outcome) : Prop :=
  ∀ task ∈ pool.tasks, task.rest.result?.isSome

instance (pool : Pool Value Fault State Request Outcome) :
    Decidable pool.Quiescent := by
  unfold Pool.Quiescent
  infer_instance

end RideHailing
