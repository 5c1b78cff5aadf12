import RideHailing.HostedMachines

/-!
# A run without one of its tasks

A run is compared with the run of the same schedule in which one task is left out.
The other tasks go on in lockstep: their calls agree, and agreeing replies leave
programs that go on in lockstep.  As long as the task that is left out makes no
difference to the state that the others could tell, the shorter schedule can be run
and leads to a state like that of the longer one.
-/

namespace RideHailing

variable {Call : Type} {Value : Call → Type}
variable {Fault State Request Outcome Token Ambient : Type}

/-- Which calls agree, and which replies to them do. -/
abbrev Agreement (Value : Call → Type) (Fault : Type) : Type :=
  (call call' : Call) → (Except Fault (Value call) → Except Fault (Value call') → Prop) → Prop

namespace AwaitProgram

variable {α α' β β' : Type} {agreement : Agreement Value Fault}

/-- The programs make agreeing calls while their replies agree, and end with matching
results. -/
inductive Lockstep (agreement : Agreement Value Fault) (matching : α → α' → Prop) :
    AwaitProgram Call (fun call => Except Fault (Value call)) α →
      AwaitProgram Call (fun call => Except Fault (Value call)) α' → Prop
  | done {result : α} {result' : α'} (matched : matching result result') :
      Lockstep agreement matching (.done result) (.done result')
  | await {call call' : Call}
      {replies : Except Fault (Value call) → Except Fault (Value call') → Prop}
      {resume : Except Fault (Value call) →
        AwaitProgram Call (fun call => Except Fault (Value call)) α}
      {resume' : Except Fault (Value call') →
        AwaitProgram Call (fun call => Except Fault (Value call)) α'}
      (agree : agreement call call' replies)
      (goesOn : ∀ reply reply', replies reply reply' →
        Lockstep agreement matching (resume reply) (resume' reply')) :
      Lockstep agreement matching (.await call resume) (.await call' resume')

theorem Lockstep.bind {first : α → α' → Prop} {last : β → β' → Prop}
    {program : AwaitProgram Call (fun call => Except Fault (Value call)) α}
    {program' : AwaitProgram Call (fun call => Except Fault (Value call)) α'}
    {next : α → AwaitProgram Call (fun call => Except Fault (Value call)) β}
    {next' : α' → AwaitProgram Call (fun call => Except Fault (Value call)) β'}
    (begun : Lockstep agreement first program program')
    (goesOn : ∀ result result', first result result' →
      Lockstep agreement last (next result) (next' result')) :
    Lockstep agreement last (program.bind next) (program'.bind next') := by
  induction begun with
  | done matched => exact goesOn _ _ matched
  | await agree _ ih => exact Lockstep.await agree ih

theorem Lockstep.mono {matching weaker : α → α' → Prop}
    {program : AwaitProgram Call (fun call => Except Fault (Value call)) α}
    {program' : AwaitProgram Call (fun call => Except Fault (Value call)) α'}
    (lockstep : Lockstep agreement matching program program')
    (weakens : ∀ result result', matching result result' → weaker result result') :
    Lockstep agreement weaker program program' := by
  induction lockstep with
  | done matched => exact Lockstep.done (weakens _ _ matched)
  | await agree _ ih => exact Lockstep.await agree ih

end AwaitProgram

/-! ## Schedules -/

/-- The process id that a task has when an earlier task is left out. -/
def movedUp (left pid : Nat) : Nat :=
  if left < pid then pid - 1 else pid

/-- What is left of an event without this task, after so many tasks have begun. -/
def Event.without (left begun : Nat) :
    Event Fault Request Ambient → Option (Event Fault Request Ambient)
  | .spawn request => if begun = left then none else some (.spawn request)
  | .step pid => if pid = left then none else some (.step (movedUp left pid))
  | .fault pid cause => if pid = left then none else some (.fault (movedUp left pid) cause)
  | .ambient change => some (.ambient change)

/-- How many tasks begin. -/
def Event.begins : Event Fault Request Ambient → Nat
  | .spawn _ => 1
  | _ => 0

/-- The event is a call of this task. -/
def Event.performs (pid : Nat) : Event Fault Request Ambient → Bool
  | .step other => decide (other = pid)
  | .fault other _ => decide (other = pid)
  | _ => false

/-- The same events in the same order, without those of one task. -/
def withoutTask (left : Nat) :
    Nat → List (Event Fault Request Ambient) → List (Event Fault Request Ambient)
  | _, [] => []
  | begun, event :: events =>
      (event.without left begun).toList ++ withoutTask left (begun + event.begins) events

/-! ## The requests of a run -/

section Requests

variable {m : Machine Value Fault State Request Outcome Token Ambient} [DecidableEq Token]
variable {pool next final : Pool Value Fault State Request Outcome}
variable {event : Event Fault Request Ambient} {events : List (Event Fault Request Ambient)}

theorem requests_prefix_next (moved : m.next pool event = some next) :
    pool.requests <+: next.requests := by
  rcases m.next_cases moved with ⟨request, _, rfl⟩ | ⟨pid, broken, advanced⟩ | ⟨change, _, rfl⟩
  · exact ⟨[request], by simp [Pool.requests]⟩
  · exact ⟨[], by rw [m.requests_advance advanced, List.append_nil]⟩
  · exact List.prefix_rfl

theorem requests_prefix_run (ran : m.run pool events = some final) :
    pool.requests <+: final.requests := by
  have kept : ∀ (middle : Pool Value Fault State Request Outcome)
      (event : Event Fault Request Ambient) (next : Pool Value Fault State Request Outcome),
      pool.requests <+: middle.requests → m.next middle event = some next →
        pool.requests <+: next.requests :=
    fun _ _ _ grown moved => grown.trans (requests_prefix_next moved)
  exact runSteps_invariant kept List.prefix_rfl ran

theorem request_kept {pid : Nat} {request : Request}
    (grown : pool.requests <+: final.requests)
    (served : pool.requests[pid]? = some request) : final.requests[pid]? = some request := by
  obtain ⟨later, split⟩ := grown
  rw [← split, List.getElem?_append_left (List.getElem?_eq_some_iff.mp served).1]
  exact served

theorem length_next (moved : m.next pool event = some next) :
    next.tasks.length = pool.tasks.length + event.begins := by
  cases event with
  | spawn request =>
      rw [m.next_spawn moved]
      simp [Event.begins]
  | step pid =>
      obtain ⟨_, _, _, _, _, _, _, rfl⟩ := m.advance_eq_some moved
      simp [Event.begins]
  | fault pid fault =>
      obtain ⟨_, _, _, _, _, _, _, rfl⟩ := m.advance_eq_some moved
      simp [Event.begins]
  | ambient change =>
      cases moved
      rfl

end Requests

/-! ## Machines -/

/-- Which states look alike to the tasks that go on, and which calls agree: agreeing
calls in states that look alike are given agreeing replies and leave states that look
alike. -/
structure Likeness (m : Machine Value Fault State Request Outcome Token Ambient) where
  alike : State → State → Prop
  agreement : Agreement Value Fault
  answers : ∀ (pid' : Nat) {pid : Nat} {broken : Option Fault} {call call' : Call}
    {replies : Except Fault (Value call) → Except Fault (Value call') → Prop}
    {state state' after : State} {reply : Except Fault (Value call)},
    agreement call call' replies → alike state state' →
      m.answer pid broken call state = some (reply, after) →
        ∃ reply' after', m.answer pid' broken call' state' = some (reply', after') ∧
          replies reply reply' ∧ alike after after'
  ambient : ∀ {change : Ambient} {state state' : State}, alike state state' →
    alike (m.ambient change state) (m.ambient change state')

namespace Likeness

variable {m : Machine Value Fault State Request Outcome Token Ambient} (L : Likeness m)

/-- Tasks that go on in lockstep. -/
def TasksAgree (task task' : Task Value Fault Request Outcome) : Prop :=
  task.rest.Lockstep L.agreement (fun _ _ => True) task'.rest

/-- The second pool is like the first without one task. -/
structure LeavesOut (left : Nat) (pool pool' : Pool Value Fault State Request Outcome) :
    Prop where
  states : L.alike pool.world.state pool'.world.state
  tasks : List.Forall₂ L.TasksAgree (pool.tasks.eraseIdx left) pool'.tasks

variable {L} {left pid : Nat} {broken : Option Fault}
variable {pool pool' next final : Pool Value Fault State Request Outcome}

/-- A call of another task is made in both pools. -/
theorem LeavesOut.advance (leaves : L.LeavesOut left pool pool') (other : pid ≠ left)
    (advanced : m.advance pool pid broken = some next) :
    ∃ next', m.advance pool' (movedUp left pid) broken = some next' ∧
      L.LeavesOut left next next' := by
  obtain ⟨request, call, resume, reply, after, found, answered, rfl⟩ :=
    m.advance_eq_some advanced
  have kept : (pool.tasks.eraseIdx left)[movedUp left pid]? =
      some ⟨request, .await call resume⟩ := by
    rw [List.getElem?_eraseIdx, ← found]
    unfold movedUp
    split <;> split <;> first | rfl | omega | (congr 1; omega)
  have moved : ∀ task : Task Value Fault Request Outcome,
      (pool.tasks.set pid task).eraseIdx left =
        (pool.tasks.eraseIdx left).set (movedUp left pid) task := by
    intro task
    rw [List.eraseIdx_set, if_neg (Ne.symm other)]
    unfold movedUp
    split <;> rfl
  obtain ⟨⟨request', rest'⟩, found', agree⟩ := Hosting.getElem?_of_forall₂ leaves.tasks kept
  cases rest' with
  | done result => cases agree
  | await call' resume' =>
      cases agree with
      | await agree goesOn =>
          obtain ⟨reply', after', answered', replied, alike⟩ :=
            L.answers (movedUp left pid) agree leaves.states answered
          refine ⟨⟨⟨after', ⟨movedUp left pid, request', call', reply'⟩ ::
            pool'.world.log⟩, pool'.tasks.set (movedUp left pid)
              ⟨request', resume' reply'⟩⟩, ?_, alike, ?_⟩
          · simp only [Machine.advance, found', answered']
          · rw [moved]
            exact Hosting.forall₂_set leaves.tasks _ (goesOn reply reply' replied)

/-- A call of the task that is left out is not seen. -/
theorem LeavesOut.spare (leaves : L.LeavesOut left pool pool')
    (advanced : m.advance pool left broken = some next)
    (spares : L.alike next.world.state pool'.world.state) : L.LeavesOut left next pool' := by
  refine ⟨spares, ?_⟩
  obtain ⟨request, call, resume, reply, after, found, answered, rfl⟩ :=
    m.advance_eq_some advanced
  rw [List.eraseIdx_set_eq]
  exact leaves.tasks

variable [DecidableEq Token]
variable {event : Event Fault Request Ambient} {events : List (Event Fault Request Ambient)}

/-- The request draws nothing, and its program goes on in lockstep with itself. -/
def Blind (L : Likeness m) (request : Request) : Prop :=
  m.draws request = [] ∧
    (m.program request).Lockstep L.agreement (fun _ _ => True) (m.program request)

theorem LeavesOut.spawn {request : Request} (leaves : L.LeavesOut left pool pool')
    (blind : pool.tasks.length ≠ left → L.Blind request)
    (moved : m.next pool (.spawn request) = some next) :
    ∃ next', runSteps m.next pool'
        (Event.without left pool.tasks.length (.spawn request)).toList = some next' ∧
      L.LeavesOut left next next' := by
  obtain rfl := m.next_spawn moved
  by_cases begun : pool.tasks.length = left
  · refine ⟨pool', by simp [Event.without, begun, runSteps], leaves.states, ?_⟩
    subst begun
    rw [List.eraseIdx_append_of_length_le (Nat.le_refl _), Nat.sub_self,
      List.eraseIdx_zero, List.tail_cons, List.append_nil]
    have tasks := leaves.tasks
    rwa [List.eraseIdx_of_length_le (Nat.le_refl _)] at tasks
  · obtain ⟨draws, lockstep⟩ := blind begun
    have admitted : m.admits pool' request = true := by
      simp [Machine.admits, draws]
    refine ⟨{ pool' with tasks := pool'.tasks ++ [⟨request, m.program request⟩] }, ?_,
      leaves.states, ?_⟩
    · simp [Event.without, begun, runSteps, Machine.next, admitted]
    · have kept : ∀ task : Task Value Fault Request Outcome,
          (pool.tasks ++ [task]).eraseIdx left = pool.tasks.eraseIdx left ++ [task] := by
        intro task
        rcases Nat.lt_or_ge left pool.tasks.length with earlier | later
        · exact List.eraseIdx_append_of_lt_length earlier _
        · rw [List.eraseIdx_of_length_le later, List.eraseIdx_of_length_le]
          rw [List.length_append, List.length_singleton]
          omega
      rw [kept]
      exact List.rel_append leaves.tasks (List.Forall₂.cons lockstep List.Forall₂.nil)

/-- One event of the longer schedule is at most one of the shorter. -/
theorem LeavesOut.follow (leaves : L.LeavesOut left pool pool')
    (blind : ∀ request, event = .spawn request → pool.tasks.length ≠ left →
      L.Blind request)
    (spares : event.performs left = true → ∀ state', L.alike pool.world.state state' →
      L.alike next.world.state state')
    (moved : m.next pool event = some next) :
    ∃ next', runSteps m.next pool' (event.without left pool.tasks.length).toList =
        some next' ∧ L.LeavesOut left next next' := by
  have single : ∀ {event : Event Fault Request Ambient}
      {last : Pool Value Fault State Request Outcome}, m.next pool' event = some last →
        runSteps m.next pool' [event] = some last := by
    intro event last moved'
    rw [runSteps_cons, moved']
    rfl
  have advances : ∀ {pid : Nat} {broken : Option Fault}
      {event' : Event Fault Request Ambient},
      m.next pool' event' = m.advance pool' (movedUp left pid) broken →
      m.advance pool pid broken = some next → pid ≠ left →
        ∃ next', runSteps m.next pool' [event'] = some next' ∧
          L.LeavesOut left next next' := by
    intro pid broken event' same advanced other
    obtain ⟨next', advanced', leavesNext⟩ := leaves.advance other advanced
    exact ⟨next', single (same.trans advanced'), leavesNext⟩
  cases event with
  | spawn request => exact leaves.spawn (blind request rfl) moved
  | step pid =>
      by_cases same : pid = left
      · subst same
        refine ⟨pool', by simp [Event.without, runSteps], ?_⟩
        exact leaves.spare moved (spares (by simp [Event.performs]) _ leaves.states)
      · simp only [Event.without, if_neg same, Option.toList_some]
        exact advances rfl moved same
  | fault pid fault =>
      by_cases same : pid = left
      · subst same
        refine ⟨pool', by simp [Event.without, runSteps], ?_⟩
        exact leaves.spare moved (spares (by simp [Event.performs]) _ leaves.states)
      · simp only [Event.without, if_neg same, Option.toList_some]
        exact advances rfl moved same
  | ambient change =>
      cases moved
      exact ⟨_, single rfl, L.ambient leaves.states, leaves.tasks⟩

/-- What the task that is left out does is not seen by the others. -/
def Spares (L : Likeness m) (left : Nat) (pool : Pool Value Fault State Request Outcome)
    (event : Event Fault Request Ambient)
    (next : Pool Value Fault State Request Outcome) : Prop :=
  event.performs left = true → ∀ state', L.alike pool.world.state state' →
    L.alike next.world.state state'

/-- The schedule without the task can be run. -/
theorem LeavesOut.run (leaves : L.LeavesOut left pool pool')
    (blind : ∀ pid request, final.requests[pid]? = some request → pid ≠ left →
      L.Blind request)
    (spares : EveryStep m.next (L.Spares left) pool events)
    (ran : m.run pool events = some final) :
    ∃ final', m.run pool' (withoutTask left pool.tasks.length events) = some final' ∧
      L.LeavesOut left final final' := by
  induction events generalizing pool pool' with
  | nil =>
      cases ran
      exact ⟨pool', rfl, leaves⟩
  | cons event events ih =>
      rw [Machine.run, runSteps_cons, Option.bind_eq_some_iff] at ran
      obtain ⟨next, moved, rest⟩ := ran
      obtain ⟨spared, sparesRest⟩ := everyStep_cons.mp spares next moved
      have blindHere : ∀ request, event = .spawn request → pool.tasks.length ≠ left →
          L.Blind request := by
        rintro request rfl other
        have begun : next.requests[pool.tasks.length]? = some request := by
          rw [m.next_spawn moved]
          simp [Pool.requests]
        exact blind pool.tasks.length request
          (request_kept (requests_prefix_run rest) begun) other
      obtain ⟨next', moved', leavesNext⟩ := leaves.follow blindHere spared moved
      obtain ⟨final', ran', leavesFinal⟩ := ih leavesNext sparesRest rest
      refine ⟨final', ?_, leavesFinal⟩
      rw [withoutTask, Machine.run, runSteps_append, moved', ← length_next moved]
      exact ran'

end Likeness

end RideHailing
