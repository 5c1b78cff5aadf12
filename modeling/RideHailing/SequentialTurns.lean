import RideHailing.TaskPool

/-!
# Requests served one at a time

A turn serves one request from its first call to its last, and no other request
moves meanwhile; calls may still fail and the environment may change the state.
Turns are runs of the machine, so whatever holds of all runs holds of them.  What
a program does when it runs alone needs no account of other tasks: it is enough
to follow the part of the state that the environment does not touch.
-/

namespace RideHailing

/-- What happens while a request is served. -/
inductive Move (Fault Ambient : Type) where
  | step
  | fault (fault : Fault)
  | ambient (change : Ambient)
deriving DecidableEq, Repr

/-- A request and the course that serving it takes. -/
structure Turn (Fault Request Ambient : Type) where
  request : Request
  moves : List (Move Fault Ambient)

variable {Call : Type} {Value : Call → Type}
variable {Fault State Request Outcome Token Ambient : Type}

namespace Move

def event (pid : Nat) : Move Fault Ambient → Event Fault Request Ambient
  | .step => .step pid
  | .fault reason => .fault pid reason
  | .ambient change => .ambient change

def isFault : Move Fault Ambient → Bool
  | .fault _ => true
  | _ => false

end Move

namespace Turn

/-- No call fails. -/
def unbroken (turn : Turn Fault Request Ambient) : Bool :=
  turn.moves.all fun move => !move.isFault

/-- The events of a turn that serves its request under this process id. -/
def events (pid : Nat) (turn : Turn Fault Request Ambient) :
    List (Event Fault Request Ambient) :=
  .spawn turn.request :: turn.moves.map (Move.event pid)

end Turn

namespace Machine

variable (m : Machine Value Fault State Request Outcome Token Ambient)
variable [DecidableEq Token]

/-- Take a turn, which ends with no request in flight. -/
def serve (pool : Pool Value Fault State Request Outcome)
    (turn : Turn Fault Request Ambient) :
    Option (Pool Value Fault State Request Outcome) :=
  (m.run pool (turn.events pool.tasks.length)).filter fun next =>
    decide next.Quiescent

variable {m}

theorem serve_eq_some {pool next : Pool Value Fault State Request Outcome}
    {turn : Turn Fault Request Ambient} :
    m.serve pool turn = some next ↔
      m.run pool (turn.events pool.tasks.length) = some next ∧ next.Quiescent := by
  simp [serve, Option.filter_eq_some_iff]

theorem quiescent_of_serves {pool final : Pool Value Fault State Request Outcome}
    {turns : List (Turn Fault Request Ambient)} (quiescent : pool.Quiescent)
    (served : runSteps m.serve pool turns = some final) : final.Quiescent :=
  runSteps_invariant (fun _ _ _ _ moved => (serve_eq_some.mp moved).2)
    quiescent served

end Machine

/-! ## A program that runs alone -/

section Alone

variable {V : Type}
variable (m : Machine Value Fault State Request Outcome Token Ambient)
variable (view : State → V) (failing : Bool) (pid : Nat)

/-- From any state that looks like this, the program, whose calls fail only if
failures are admitted, ends in a state that looks like the postcondition says. -/
def Machine.alone {α : Type} :
    AwaitProgram Call (fun call => Except Fault (Value call)) α →
      (α → V → Prop) → V → Prop
  | .done result, post, seen => post result seen
  | .await call resume, post, seen =>
      ∀ state, view state = seen → ∀ broken reply after,
        (broken.isSome = true → failing = true) →
          m.answer pid broken call state = some (reply, after) →
            Machine.alone (resume reply) post (view after)

variable {m view failing pid} {α β : Type}

theorem alone_bind
    (program : AwaitProgram Call (fun call => Except Fault (Value call)) α)
    (next : α → AwaitProgram Call (fun call => Except Fault (Value call)) β)
    (post : β → V → Prop) (seen : V) :
    m.alone view failing pid (program.bind next) post seen ↔
      m.alone view failing pid program
        (fun result => m.alone view failing pid (next result) post) seen := by
  induction program generalizing seen with
  | done result => rfl
  | await call resume ih =>
      constructor
      · intro holds state looks broken reply after fails answered
        exact (ih reply _).mp (holds state looks broken reply after fails answered)
      · intro holds state looks broken reply after fails answered
        exact (ih reply _).mpr (holds state looks broken reply after fails answered)

theorem alone_mono
    {program : AwaitProgram Call (fun call => Except Fault (Value call)) α}
    {post post' : α → V → Prop} {seen : V}
    (weaker : ∀ result seen, post result seen → post' result seen)
    (holds : m.alone view failing pid program post seen) :
    m.alone view failing pid program post' seen := by
  induction program generalizing seen with
  | done result => exact weaker result seen holds
  | await call resume ih =>
      intro state looks broken reply after fails answered
      exact ih reply (holds state looks broken reply after fails answered)

/-- Underway this request, the last task so far, what is left of its program is
correct if it runs alone. -/
def Underway (m : Machine Value Fault State Request Outcome Token Ambient)
    (view : State → V) (failing : Bool) (pid : Nat) (request : Request)
    (post : Outcome → V → Prop)
    (pool : Pool Value Fault State Request Outcome) : Prop :=
  pool.tasks.length = pid + 1 ∧
    ∃ rest, pool.tasks[pid]? = some ⟨request, rest⟩ ∧
      m.alone view failing pid rest post (view pool.world.state)

theorem Underway.advance {request : Request} {post : Outcome → V → Prop}
    {pool next : Pool Value Fault State Request Outcome} {broken : Option Fault}
    (underway : Underway m view failing pid request post pool)
    (fails : broken.isSome = true → failing = true)
    (advanced : m.advance pool pid broken = some next) :
    Underway m view failing pid request post next := by
  obtain ⟨count, rest, found, holds⟩ := underway
  obtain ⟨taskRequest, call, resume, reply, state, task, answered, rfl⟩ :=
    m.advance_eq_some advanced
  rw [found] at task
  cases task
  refine ⟨by simpa using count, resume reply, ?_, ?_⟩
  · have bound : pid < pool.tasks.length := by omega
    simp [bound]
  · exact holds pool.world.state rfl broken reply state fails answered

variable [DecidableEq Token]

theorem Underway.next {request : Request} {post : Outcome → V → Prop}
    {pool next : Pool Value Fault State Request Outcome}
    {move : Move Fault Ambient}
    (hidden : ∀ change state, view (m.ambient change state) = view state)
    (underway : Underway m view failing pid request post pool)
    (fails : move.isFault = true → failing = true)
    (moved : m.next pool (move.event pid) = some next) :
    Underway m view failing pid request post next := by
  cases move with
  | step => exact underway.advance (by simp) moved
  | fault reason => exact underway.advance (fun _ => fails rfl) moved
  | ambient change =>
      cases moved
      obtain ⟨count, rest, found, holds⟩ := underway
      exact ⟨count, rest, found, by simpa only [hidden] using holds⟩

theorem Underway.run {request : Request} {post : Outcome → V → Prop}
    {pool final : Pool Value Fault State Request Outcome}
    {moves : List (Move Fault Ambient)}
    (hidden : ∀ change state, view (m.ambient change state) = view state)
    (underway : Underway m view failing pid request post pool)
    (fails : ∀ move ∈ moves, move.isFault = true → failing = true)
    (ran : m.run pool (moves.map (Move.event pid)) = some final) :
    Underway m view failing pid request post final := by
  induction moves generalizing pool with
  | nil =>
      cases ran
      exact underway
  | cons move moves ih =>
      rw [List.map_cons, Machine.run, runSteps_cons, Option.bind_eq_some_iff] at ran
      obtain ⟨middle, moved, rest⟩ := ran
      have underwayNext := underway.next hidden (fails move (by simp)) moved
      exact ih underwayNext (fun other otherMem => fails other (by simp [otherMem])) rest

/-- The request of a turn ends, in a state that looks as its program, run alone,
leaves it. -/
theorem alone_of_serve {pool next : Pool Value Fault State Request Outcome}
    {turn : Turn Fault Request Ambient} {post : Outcome → V → Prop}
    (hidden : ∀ change state, view (m.ambient change state) = view state)
    (served : m.serve pool turn = some next)
    (holds : m.admits pool turn.request = true →
      m.alone view (!turn.unbroken) pool.tasks.length (m.program turn.request) post
        (view pool.world.state)) :
    ∃ outcome, next.ended? pool.tasks.length = some (turn.request, outcome) ∧
      post outcome (view next.world.state) := by
  obtain ⟨ran, quiescent⟩ := Machine.serve_eq_some.mp served
  rw [Turn.events, Machine.run, runSteps_cons, Option.bind_eq_some_iff] at ran
  obtain ⟨spawned, spawn, ran⟩ := ran
  simp only [Machine.next] at spawn
  split at spawn
  · rename_i admitted
    cases spawn
    have started : Underway m view (!turn.unbroken) pool.tasks.length turn.request post
        { pool with
          tasks := pool.tasks ++ [⟨turn.request, m.program turn.request⟩] } :=
      ⟨by simp, m.program turn.request, by simp, holds admitted⟩
    have faulty : ∀ move ∈ turn.moves, move.isFault = true →
        (!turn.unbroken) = true := by
      intro move moveMem isFault
      simp only [Turn.unbroken, Bool.not_eq_true', List.all_eq_false]
      exact ⟨move, moveMem, by simp [isFault]⟩
    obtain ⟨_, rest, found, done⟩ := started.run hidden faulty ran
    have ended := quiescent _ (List.mem_of_getElem? found)
    cases rest with
    | done outcome =>
        exact ⟨outcome, by simp [Pool.ended?, found, AwaitProgram.result?], done⟩
    | await call resume => cases ended
  · cases spawn

end Alone

/-! ## A program that no call keeps waiting -/

section Finish

variable (m : Machine Value Fault State Request Outcome Token Ambient)

/-- Perform the calls of a program one after the other. -/
def Machine.finish (pid : Nat) {α : Type} :
    AwaitProgram Call (fun call => Except Fault (Value call)) α → State →
      Option (α × State)
  | .done result, state => some (result, state)
  | .await call resume, state =>
      (m.perform pid call state).bind fun (reply, after) =>
        Machine.finish pid (resume reply) after

variable {m}

theorem finish_bind {α β : Type} (pid : Nat)
    (program : AwaitProgram Call (fun call => Except Fault (Value call)) α)
    (next : α → AwaitProgram Call (fun call => Except Fault (Value call)) β)
    (state : State) :
    m.finish pid (program.bind next) state =
      (m.finish pid program state).bind fun (result, after) =>
        m.finish pid (next result) after := by
  induction program generalizing state with
  | done result => rfl
  | await call resume ih =>
      simp only [AwaitProgram.await_bind, Machine.finish, Option.bind_assoc]
      congr 1
      funext ⟨reply, after⟩
      exact ih reply after

variable [DecidableEq Token]

theorem steps_of_finish (pool : Pool Value Fault State Request Outcome) {pid : Nat}
    {request : Request} {outcome : Outcome} {final : State}
    {rest : AwaitProgram Call (fun call => Except Fault (Value call)) Outcome}
    (found : pool.tasks[pid]? = some ⟨request, rest⟩)
    (finished : m.finish pid rest pool.world.state = some (outcome, final)) :
    ∃ count log, m.run pool (List.replicate count (.step pid)) =
      some ⟨⟨final, log⟩, pool.tasks.set pid ⟨request, .done outcome⟩⟩ := by
  obtain ⟨bound, taskEq⟩ := List.getElem?_eq_some_iff.mp found
  induction rest generalizing pool with
  | done result =>
      cases finished
      refine ⟨0, pool.world.log, ?_⟩
      rw [← taskEq, List.set_getElem_self]
      rfl
  | await call resume ih =>
      simp only [Machine.finish, Option.bind_eq_some_iff] at finished
      obtain ⟨⟨reply, after⟩, performed, finished⟩ := finished
      have stepped : m.advance pool pid none = some
          ⟨⟨after, ⟨pid, request, call, reply⟩ :: pool.world.log⟩,
            pool.tasks.set pid ⟨request, resume reply⟩⟩ := by
        simp only [Machine.advance, found, Machine.answer, performed]
      obtain ⟨count, log, ran⟩ := ih reply
        ⟨⟨after, ⟨pid, request, call, reply⟩ :: pool.world.log⟩,
          pool.tasks.set pid ⟨request, resume reply⟩⟩
        (by simp [bound]) finished (by simpa using bound) (by simp)
      refine ⟨count + 1, log, ?_⟩
      rw [List.replicate_succ, Machine.run, runSteps_cons]
      exact Option.bind_eq_some_iff.mpr ⟨_, stepped, by simpa [Machine.run] using ran⟩

/-- A request that no call keeps waiting can be served. -/
theorem serve_of_finish {pool : Pool Value Fault State Request Outcome}
    {request : Request} {outcome : Outcome} {final : State}
    (quiescent : pool.Quiescent) (admitted : m.admits pool request = true)
    (finished : m.finish pool.tasks.length (m.program request) pool.world.state =
      some (outcome, final)) :
    ∃ count next, m.serve pool ⟨request, List.replicate count .step⟩ = some next ∧
      next.ended? pool.tasks.length = some (request, outcome) ∧
        next.world.state = final := by
  let spawned : Task Value Fault Request Outcome := ⟨request, m.program request⟩
  have found : (pool.tasks ++ [spawned])[pool.tasks.length]? = some spawned := by simp
  obtain ⟨count, log, ran⟩ :=
    steps_of_finish ⟨pool.world, pool.tasks ++ [spawned]⟩ found finished
  have ended : (pool.tasks ++ [spawned]).set pool.tasks.length
      ⟨request, .done outcome⟩ = pool.tasks ++ [⟨request, .done outcome⟩] := by
    simp
  rw [ended] at ran
  refine ⟨count, ⟨⟨final, log⟩, pool.tasks ++ [⟨request, .done outcome⟩]⟩,
    Machine.serve_eq_some.mpr ⟨?_, ?_⟩, ?_, rfl⟩
  · rw [Turn.events, Machine.run, runSteps_cons, List.map_replicate]
    refine Option.bind_eq_some_iff.mpr ⟨_, ?_, ran⟩
    rw [Machine.next, if_pos admitted]
  · intro task taskMem
    rcases List.mem_append.mp taskMem with old | new
    · exact quiescent task old
    · rw [List.mem_singleton.mp new]
      rfl
  · simp [Pool.ended?, AwaitProgram.result?]

end Finish

end RideHailing
