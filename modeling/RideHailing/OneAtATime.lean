import RideHailing.SequentialTurns
import RideHailing.HistoryLookup

/-!
# Runs that serve one request at a time

Such a run begins a request only when no other request is in flight, and may be looked
at in the middle of a request.  Its history is ordered by task.  So what a task has
read was stored when the task began, or the task has written it itself.
-/

namespace RideHailing

variable {Call : Type} {Value : Call → Type}
variable {Fault State Request Outcome Token Ambient : Type}
variable {m : Machine Value Fault State Request Outcome Token Ambient}

/-- A request begins only when no other is in flight. -/
def Pool.BeginsAlone (pool : Pool Value Fault State Request Outcome) :
    Event Fault Request Ambient → Pool Value Fault State Request Outcome → Prop
  | .spawn _, _ => pool.Quiescent
  | _, _ => True

instance (pool pool' : Pool Value Fault State Request Outcome)
    (event : Event Fault Request Ambient) : Decidable (pool.BeginsAlone event pool') := by
  cases event <;> unfold Pool.BeginsAlone <;> infer_instance

/-- No entry is of a later task than an entry after it. -/
def TaskOrdered (log : List (Entry Value Fault Request)) : Prop :=
  log.Pairwise fun newer older => older.pid ≤ newer.pid

/-- The tasks made their calls one after the other, and only the last may have calls
left to make. -/
structure Pool.OneByOne (pool : Pool Value Fault State Request Outcome) : Prop where
  ordered : TaskOrdered pool.world.log
  owned : ∀ entry ∈ pool.world.log, entry.pid < pool.tasks.length
  last : ∀ {pid : Nat} {task : Task Value Fault Request Outcome},
    pool.tasks[pid]? = some task → task.rest.result? = none →
      pid + 1 = pool.tasks.length

theorem oneByOne_start (state : State) :
    (Pool.start state : Pool Value Fault State Request Outcome).OneByOne := by
  constructor
  · exact List.Pairwise.nil
  · intro entry entryMem
    cases entryMem
  · intro pid task found
    simp [Pool.start] at found

variable {pool pool' : Pool Value Fault State Request Outcome}

theorem Pool.OneByOne.advance {pid : Nat} {broken : Option Fault}
    (oneByOne : pool.OneByOne) (advanced : m.advance pool pid broken = some pool') :
    pool'.OneByOne := by
  obtain ⟨request, call, resume, reply, state, found, -, rfl⟩ := m.advance_eq_some advanced
  have isLast : pid + 1 = pool.tasks.length := oneByOne.last found rfl
  have bound : pid < pool.tasks.length := by omega
  constructor
  · refine List.pairwise_cons.mpr ⟨?_, oneByOne.ordered⟩
    intro entry entryMem
    have earlier := oneByOne.owned entry entryMem
    change entry.pid ≤ pid
    omega
  · intro entry entryMem
    rw [List.length_set]
    rcases List.mem_cons.mp entryMem with rfl | older
    · exact bound
    · exact oneByOne.owned entry older
  · intro other task otherFound unfinished
    rw [List.length_set]
    rcases getElem?_set_cases otherFound with ⟨rfl, _⟩ | ⟨_, otherBefore⟩
    · exact isLast
    · exact oneByOne.last otherBefore unfinished

variable [DecidableEq Token]

theorem Pool.OneByOne.next {event : Event Fault Request Ambient}
    (oneByOne : pool.OneByOne) (alone : pool.BeginsAlone event pool')
    (moved : m.next pool event = some pool') : pool'.OneByOne := by
  cases event with
  | spawn request =>
      rw [m.next_spawn moved]
      constructor
      · exact oneByOne.ordered
      · intro entry entryMem
        have earlier := oneByOne.owned entry entryMem
        rw [List.length_append]
        omega
      · intro pid task found unfinished
        rw [List.length_append, List.length_singleton]
        rcases getElem?_concat_cases found with earlier | ⟨rfl, rfl⟩
        · -- the tasks before this one have all ended
          have ended := alone task (List.mem_of_getElem? earlier)
          rw [unfinished] at ended
          cases ended
        · rfl
  | step pid => exact oneByOne.advance moved
  | fault pid fault => exact oneByOne.advance moved
  | ambient change =>
      cases moved
      exact ⟨oneByOne.ordered, oneByOne.owned, oneByOne.last⟩

/-- In a run whose requests each begin alone the tasks make their calls one after the
other. -/
theorem oneByOne_of_run {events : List (Event Fault Request Ambient)}
    (alone : EveryStep m.next Pool.BeginsAlone pool events) (oneByOne : pool.OneByOne)
    (ran : m.run pool events = some pool') : pool'.OneByOne := by
  have always : Always m.next Pool.OneByOne pool events :=
    always_of_everyStep oneByOne
      (fun before event after middle reached _ _ moved here begins =>
        here.next begins moved) alone
  exact always events [] pool' (by simp) ran

/-! ## Turns -/

/-- Once a request has begun, nothing else begins in its turn. -/
theorem beginsAlone_of_moves (pid : Nat) (moves : List (Move Fault Ambient)) :
    EveryStep m.next Pool.BeginsAlone pool (moves.map (Move.event pid)) := by
  intro before event after middle reached split _ _
  have eventMem : event ∈ moves.map (Move.event pid) := by
    rw [split]
    simp
  obtain ⟨move, -, rfl⟩ := List.mem_map.mp eventMem
  cases move <;> trivial

/-- Turns are a run in which every request begins alone. -/
theorem run_of_turns {turns : List (Turn Fault Request Ambient)} (quiescent : pool.Quiescent)
    (served : runSteps m.serve pool turns = some pool') :
    ∃ events, m.run pool events = some pool' ∧
      EveryStep m.next Pool.BeginsAlone pool events := by
  induction turns generalizing pool with
  | nil =>
      refine ⟨[], served, ?_⟩
      intro before event after middle reached split
      simp at split
  | cons turn turns ih =>
      rw [runSteps_cons, Option.bind_eq_some_iff] at served
      obtain ⟨middle, first, rest⟩ := served
      obtain ⟨ranFirst, middleQuiescent⟩ := Machine.serve_eq_some.mp first
      obtain ⟨events, ran, alone⟩ := ih middleQuiescent rest
      refine ⟨turn.events pool.tasks.length ++ events, ?_, ?_⟩
      · rw [Machine.run, runSteps_append]
        exact Option.bind_eq_some_iff.mpr ⟨middle, ranFirst, ran⟩
      · apply everyStep_append ?_ ranFirst alone
        refine everyStep_cons.mpr fun begun _ => ⟨quiescent, ?_⟩
        exact beginsAlone_of_moves pool.tasks.length turn.moves

theorem log_of_moves {pid : Nat} {request : Request} {moves : List (Move Fault Ambient)}
    {rest : AwaitProgram Call (fun call => Except Fault (Value call)) Outcome}
    (found : pool.tasks[pid]? = some ⟨request, rest⟩)
    (ran : m.run pool (moves.map (Move.event pid)) = some pool') :
    ∃ newer, pool'.world.log = newer ++ pool.world.log ∧
      ∀ entry ∈ newer, entry.pid = pid ∧ entry.request = request := by
  induction moves generalizing pool rest with
  | nil =>
      cases ran
      exact ⟨[], rfl, by simp⟩
  | cons move moves ih =>
      rw [List.map_cons, Machine.run, runSteps_cons, Option.bind_eq_some_iff] at ran
      obtain ⟨middle, moved, later⟩ := ran
      have advances : ∀ {broken : Option Fault}, m.advance pool pid broken = some middle →
          ∃ newer, pool'.world.log = newer ++ pool.world.log ∧
            ∀ entry ∈ newer, entry.pid = pid ∧ entry.request = request := by
        intro broken advanced
        obtain ⟨_, call, resume, reply, state, task, -, rfl⟩ := m.advance_eq_some advanced
        rw [found] at task
        cases task
        have bound := (List.getElem?_eq_some_iff.mp found).1
        obtain ⟨newer, grown, own⟩ := ih (List.getElem?_set_self bound) later
        refine ⟨newer ++ [⟨pid, request, call, reply⟩], by simpa using grown, ?_⟩
        intro entry entryMem
        rcases List.mem_append.mp entryMem with newest | first
        · exact own entry newest
        · rw [List.mem_singleton.mp first]
          exact ⟨rfl, rfl⟩
      cases move with
      | step => exact advances moved
      | fault reason => exact advances moved
      | ambient change =>
          cases moved
          exact @ih ⟨⟨m.ambient change pool.world.state, pool.world.log⟩, pool.tasks⟩ rest
            found later

/-- What a turn adds to the history are the calls of its own task. -/
theorem log_of_serve {turn : Turn Fault Request Ambient}
    (served : m.serve pool turn = some pool') :
    ∃ newer, pool'.world.log = newer ++ pool.world.log ∧
      ∀ entry ∈ newer, entry.pid = pool.tasks.length ∧ entry.request = turn.request := by
  obtain ⟨ran, -⟩ := Machine.serve_eq_some.mp served
  rw [Turn.events, Machine.run, runSteps_cons, Option.bind_eq_some_iff] at ran
  obtain ⟨begun, spawned, ran⟩ := ran
  have begunEq := m.next_spawn spawned
  have found : begun.tasks[pool.tasks.length]? =
      some ⟨turn.request, m.program turn.request⟩ := by
    rw [begunEq]
    simp
  have grown := log_of_moves found ran
  rw [begunEq] at grown
  exact grown

/-! ## What a task has read -/

section Read

variable {ρ : Type} {marks : Entry Value Fault Request → Bool}
variable {change : Entry Value Fault Request → Option ρ} {base : Option ρ}
variable {entry : Entry Value Fault Request} {record : ρ}
variable {newer older : List (Entry Value Fault Request)}

theorem TaskOrdered.behind (ordered : TaskOrdered (newer ++ entry :: older)) :
    ∀ other ∈ older, other.pid ≤ entry.pid := by
  intro other otherMem
  exact List.rel_of_pairwise_cons (List.pairwise_append.mp ordered).2.1 otherMem

theorem TaskOrdered.before (ordered : TaskOrdered (newer ++ entry :: older)) :
    ∀ other ∈ newer, entry.pid ≤ other.pid := by
  intro other otherMem
  exact (List.pairwise_append.mp ordered).2.2 other otherMem entry (by simp)

/-- What a task has read is still stored, unless the task itself has changed it. -/
theorem latest_of_read (ordered : TaskOrdered (entry :: older))
    (own : ∀ other, marks other = true → other.pid = entry.pid ∧ change other = none)
    (seen : atLast marks (latest change base) older = some record)
    (unchanged : ∀ other ∈ older, other.pid = entry.pid → change other = none) :
    latest change base older = some record := by
  apply latest_eq_of_since_unchanged seen (fun other marked => (own other marked).2)
  intro other otherMem
  obtain ⟨mark, before, split, marked, -⟩ := atLast_eq_some seen
  have otherOlder : other ∈ older := by
    rw [split]
    exact List.mem_append_left _ otherMem
  have orderedOlder : TaskOrdered older := (List.pairwise_cons.mp ordered).2
  rw [split] at orderedOlder
  -- between the read and the entry there are only calls of the task
  have afterRead : entry.pid ≤ other.pid := by
    rw [← (own mark marked).1]
    exact orderedOlder.before other otherMem
  have beforeEntry : other.pid ≤ entry.pid := (List.pairwise_cons.mp ordered).1 other otherOlder
  exact unchanged other otherOlder (by omega)

/-- A task that makes a call after this entry made the entry too, or began after it. -/
theorem TaskOrdered.begun {later : Entry Value Fault Request}
    (ordered : TaskOrdered (newer ++ entry :: older)) (laterMem : later ∈ newer) :
    entry.pid = later.pid ∨ ∀ other ∈ entry :: older, other.pid ≠ later.pid := by
  rcases Nat.eq_or_lt_of_le (ordered.before later laterMem) with same | isLater
  · exact Or.inl same
  · right
    intro other otherMem
    rcases List.mem_cons.mp otherMem with rfl | otherOlder
    · omega
    · have earlier := ordered.behind other otherOlder
      omega

end Read

end RideHailing
