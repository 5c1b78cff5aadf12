import RideHailing.TaskPool

/-!
# Monitors of single tasks

A monitor watches the calls of one task.  It keeps a note, which every reply may
change, and it says which call may come next.  What other tasks do between the
calls plays no part, so a program is checked once, by following its text, and
then obeys the monitor in every run.
-/

namespace RideHailing

variable {Call : Type} {Value : Call → Type}
variable {Fault State Request Outcome Token Ambient Note : Type}

/-- The note of a task that has made no call, the calls that may come next, the
replies that may be given to a call, and how a reply changes the note. -/
structure CallMonitor {Call : Type} (Value : Call → Type) (Fault Note : Type) where
  start : Note
  allows : Note → Call → Prop
  answers : (call : Call) → Except Fault (Value call) → Prop
  after : Note → (call : Call) → Except Fault (Value call) → Note

namespace CallMonitor

variable (w : CallMonitor Value Fault Note)

/-- Begun with this note, the program makes allowed calls only, and ends with a
note as the postcondition says. -/
def Watches {α : Type} :
    AwaitProgram Call (fun call => Except Fault (Value call)) α →
      (α → Note → Prop) → Note → Prop
  | .done result, post, note => post result note
  | .await call resume, post, note =>
      w.allows note call ∧ ∀ reply, w.answers call reply →
        Watches (resume reply) post (w.after note call reply)

section Rules

variable {w} {α β ε : Type} {note : Note}

theorem watches_bind
    {program : AwaitProgram Call (fun call => Except Fault (Value call)) α}
    {next : α → AwaitProgram Call (fun call => Except Fault (Value call)) β}
    {post : β → Note → Prop} :
    w.Watches (program.bind next) post note ↔
      w.Watches program (fun result => w.Watches (next result) post) note := by
  induction program generalizing note with
  | done result => rfl
  | await call resume ih =>
      constructor
      · rintro ⟨allowed, rest⟩
        exact ⟨allowed, fun reply answered => (ih reply).mp (rest reply answered)⟩
      · rintro ⟨allowed, rest⟩
        exact ⟨allowed, fun reply answered => (ih reply).mpr (rest reply answered)⟩

theorem Watches.mono
    {program : AwaitProgram Call (fun call => Except Fault (Value call)) α}
    {post post' : α → Note → Prop} (watches : w.Watches program post note)
    (weaker : ∀ result note, post result note → post' result note) :
    w.Watches program post' note := by
  induction program generalizing note with
  | done result => exact weaker result note watches
  | await call resume ih =>
      exact ⟨watches.1, fun reply answered => ih reply (watches.2 reply answered)⟩

/-- A program whose calls are allowed and leave the note alone. -/
theorem watches_of_only
    {program : AwaitProgram Call (fun call => Except Fault (Value call)) α}
    (only : program.Only fun call => w.allows note call ∧
      ∀ reply, w.after note call reply = note) :
    w.Watches program (fun _ after => after = note) note := by
  induction program with
  | done result => rfl
  | await call resume ih =>
      refine ⟨only.1.1, fun reply _ => ?_⟩
      rw [only.1.2 reply]
      exact ih reply (only.2 reply)

/-- A program whose calls are allowed whatever the note says. -/
theorem watches_of_allowed
    {program : AwaitProgram Call (fun call => Except Fault (Value call)) α}
    (only : program.Only fun call => ∀ note, w.allows note call) :
    w.Watches program (fun _ _ => True) note := by
  induction program generalizing note with
  | done result => trivial
  | await call resume ih => exact ⟨only.1 note, fun reply _ => ih reply (only.2 reply)⟩

/-- The postcondition of an action, for its results and for its exceptions. -/
def Leaves (returns : α → Note → Prop) (raises : ε → Note → Prop) :
    Except ε α → Note → Prop
  | .ok result, note => returns result note
  | .error exception, note => raises exception note

variable {action : Action Call Value Fault ε α} {returns : α → Note → Prop}
variable {raises : ε → Note → Prop}

/-- One part of an action after the other. -/
theorem Watches.andThen {next : α → Action Call Value Fault ε β}
    {middle : α → Note → Prop} {final : β → Note → Prop}
    (first : w.Watches action (Leaves middle raises) note)
    (second : ∀ result note, middle result note →
      w.Watches (next result) (Leaves final raises) note) :
    w.Watches (action >>= next : Action Call Value Fault ε β) (Leaves final raises)
      note := by
  apply watches_bind.mpr
  apply first.mono
  intro outcome later leaves
  cases outcome with
  | ok result => exact second result later leaves
  | error exception => exact leaves

theorem watches_perform {raised : Fault → ε} {call : Call}
    {returns : Value call → Note → Prop} (allowed : w.allows note call)
    (replied : ∀ value, w.answers call (.ok value) →
      returns value (w.after note call (.ok value)))
    (failed : ∀ fault, w.answers call (.error fault) →
      raises (raised fault) (w.after note call (.error fault))) :
    w.Watches (Action.perform raised call : Action Call Value Fault ε (Value call))
      (Leaves returns raises) note := by
  refine ⟨allowed, fun reply answered => ?_⟩
  cases reply with
  | ok value => exact replied value answered
  | error fault => exact failed fault answered

/-- The cleanup after the body, whatever the body ended with. -/
theorem watches_ensuring {cleanup : Action Call Value Fault ε Unit}
    {final : Except ε α → Note → Prop}
    (body : w.Watches action (fun outcome => w.Watches cleanup fun cleaned note =>
      match cleaned with
      | .ok _ => final outcome note
      | .error exception => final (.error exception) note) note) :
    w.Watches (Action.ensuring action cleanup) final note := by
  apply watches_bind.mpr
  apply body.mono
  intro outcome later cleans
  apply watches_bind.mpr
  apply cleans.mono
  intro cleaned last holds
  cases cleaned with
  | ok _ => exact holds
  | error exception => exact holds

end Rules

/-! ## Runs -/

variable [DecidableEq Token]
variable (m : Machine Value Fault State Request Outcome Token Ambient)

/-- The note of a task, from the calls that it has made so far. -/
def noteOf (pid : Nat) : List (Entry Value Fault Request) → Note
  | [] => w.start
  | entry :: older =>
      if entry.pid = pid then w.after (noteOf pid older) entry.call entry.reply
      else noteOf pid older

/-- What is left of every task of this kind is watched from the task's note on, and
the tasks made all the calls there were. -/
structure Followed (kind : Request → Prop) (final : Request → Outcome → Note → Prop)
    (pool : Pool Value Fault State Request Outcome) : Prop where
  tasks : ∀ {pid : Nat} {task : Task Value Fault Request Outcome},
    pool.tasks[pid]? = some task → kind task.request →
      w.Watches task.rest (final task.request) (w.noteOf pid pool.world.log)
  owned : ∀ entry ∈ pool.world.log, entry.pid < pool.tasks.length

variable {w m} {kind : Request → Prop} {final : Request → Outcome → Note → Prop}
variable {pool pool' : Pool Value Fault State Request Outcome}

omit [DecidableEq Token] in
theorem noteOf_fresh {pid : Nat} {log : List (Entry Value Fault Request)}
    (fresh : ∀ entry ∈ log, entry.pid ≠ pid) : w.noteOf pid log = w.start := by
  induction log with
  | nil => rfl
  | cons entry older ih =>
      rw [noteOf, if_neg (fresh entry (by simp))]
      exact ih fun other otherMem => fresh other (by simp [otherMem])

omit [DecidableEq Token] in
/-- The call that a task makes is one that its note allows. -/
theorem Followed.allows {pid : Nat} {request : Request} {call : Call}
    {resume : Except Fault (Value call) →
      AwaitProgram Call (fun call => Except Fault (Value call)) Outcome}
    (followed : w.Followed kind final pool)
    (found : pool.tasks[pid]? = some ⟨request, .await call resume⟩)
    (ofKind : kind request) : w.allows (w.noteOf pid pool.world.log) call :=
  (followed.tasks found ofKind).1

omit [DecidableEq Token] in
/-- A task that has ended has left a note as its postcondition says. -/
theorem Followed.ended {pid : Nat} {request : Request} {outcome : Outcome}
    (followed : w.Followed kind final pool)
    (ended : pool.ended? pid = some (request, outcome)) (ofKind : kind request) :
    final request outcome (w.noteOf pid pool.world.log) :=
  followed.tasks (Pool.ended?_eq_some ended) ofKind

omit [DecidableEq Token] in
theorem Followed.advance {pid : Nat} {broken : Option Fault}
    (answered : ∀ {pid broken call state reply after},
      m.answer pid broken call state = some (reply, after) → w.answers call reply)
    (followed : w.Followed kind final pool) (advanced : m.advance pool pid broken = some pool') :
    w.Followed kind final pool' := by
  obtain ⟨request, call, resume, reply, state, found, replied, rfl⟩ :=
    m.advance_eq_some advanced
  have bound := (List.getElem?_eq_some_iff.mp found).1
  constructor
  · intro other task otherFound ofKind
    rcases getElem?_set_cases otherFound with ⟨rfl, rfl⟩ | ⟨apart, otherBefore⟩
    · simp only [noteOf, if_true]
      exact (followed.tasks found ofKind).2 reply (answered replied)
    · simp only [noteOf, if_neg apart]
      exact followed.tasks otherBefore ofKind
  · intro entry entryMem
    rw [List.length_set]
    rcases List.mem_cons.mp entryMem with rfl | older
    · exact bound
    · exact followed.owned entry older

theorem Followed.next {event : Event Fault Request Ambient}
    (answered : ∀ {pid broken call state reply after},
      m.answer pid broken call state = some (reply, after) → w.answers call reply)
    (programs : ∀ request, kind request →
      w.Watches (m.program request) (final request) w.start)
    (followed : w.Followed kind final pool) (moved : m.next pool event = some pool') :
    w.Followed kind final pool' := by
  cases event with
  | spawn request =>
      simp only [Machine.next] at moved
      split at moved
      · cases moved
        constructor
        · intro pid task found ofKind
          rcases getElem?_concat_cases found with before | ⟨rfl, rfl⟩
          · exact followed.tasks before ofKind
          · rw [noteOf_fresh]
            · exact programs request ofKind
            · intro entry entryMem
              have earlier := followed.owned entry entryMem
              omega
        · intro entry entryMem
          have earlier := followed.owned entry entryMem
          rw [List.length_append]
          omega
      · cases moved
  | step pid => exact followed.advance answered moved
  | fault pid fault => exact followed.advance answered moved
  | ambient change =>
      cases moved
      exact ⟨followed.tasks, followed.owned⟩

omit [DecidableEq Token] in
theorem followed_start (state : State) :
    w.Followed kind final (Pool.start state : Pool Value Fault State Request Outcome) := by
  constructor
  · intro pid task found _
    simp [Pool.start] at found
  · intro entry entryMem
    simp [Pool.start] at entryMem

/-- Watched programs stay watched in every run. -/
theorem followed_of_run {state : State} {events : List (Event Fault Request Ambient)}
    (answered : ∀ {pid broken call state reply after},
      m.answer pid broken call state = some (reply, after) → w.answers call reply)
    (programs : ∀ request, kind request →
      w.Watches (m.program request) (final request) w.start)
    (ran : m.run (Pool.start state) events = some pool) : w.Followed kind final pool :=
  runSteps_invariant (fun _ _ _ before moved => before.next answered programs moved)
    (followed_start state) ran

end CallMonitor

end RideHailing
