/-!
# Programs that await calls

A coroutine alternates pure computation with awaited calls to an environment.
Its meaning is a tree: either it is done with a result, or it awaits one call
and goes on with the reply.  Everything between two awaits happens at once.
An action is such a program whose calls may fail and which may itself raise.
-/

namespace RideHailing

/-- A program that awaits calls, resumed with the reply to each of them. -/
inductive AwaitProgram (Call : Type) (Reply : Call → Type) (α : Type) : Type where
  | done (result : α)
  | await (call : Call) (resume : Reply call → AwaitProgram Call Reply α)

namespace AwaitProgram

variable {Call : Type} {Reply : Call → Type} {α β γ : Type}

/-- Run a second program on the result of the first. -/
def bind : AwaitProgram Call Reply α → (α → AwaitProgram Call Reply β) →
    AwaitProgram Call Reply β
  | .done result, next => next result
  | .await call resume, next => .await call fun reply => (resume reply).bind next

@[simp]
theorem await_bind (call : Call) (resume : Reply call → AwaitProgram Call Reply α)
    (next : α → AwaitProgram Call Reply β) :
    (await call resume).bind next =
      .await call fun reply => (resume reply).bind next :=
  rfl

theorem bind_assoc (program : AwaitProgram Call Reply α)
    (next : α → AwaitProgram Call Reply β) (last : β → AwaitProgram Call Reply γ) :
    (program.bind next).bind last =
      program.bind fun result => (next result).bind last := by
  induction program with
  | done result => rfl
  | await call resume ih =>
      simp only [await_bind]
      congr 1
      funext reply
      exact ih reply

/-- The program makes allowed calls only. -/
def Only (allowed : Call → Prop) : AwaitProgram Call Reply α → Prop
  | .done _ => True
  | .await call resume => allowed call ∧ ∀ reply, (resume reply).Only allowed

theorem Only.mono {allowed allowed' : Call → Prop} {program : AwaitProgram Call Reply α}
    (only : program.Only allowed) (weaker : ∀ call, allowed call → allowed' call) :
    program.Only allowed' := by
  induction program with
  | done result => trivial
  | await call resume ih =>
      exact ⟨weaker call only.1, fun reply => ih reply (only.2 reply)⟩

theorem only_bind {allowed : Call → Prop} {program : AwaitProgram Call Reply α}
    {next : α → AwaitProgram Call Reply β} (first : program.Only allowed)
    (second : ∀ result, (next result).Only allowed) :
    (program.bind next).Only allowed := by
  induction program with
  | done result => exact second result
  | await call resume ih => exact ⟨first.1, fun reply => ih reply (first.2 reply)⟩

end AwaitProgram

/-- A program whose calls reply with a value or a fault, and which ends with a
result or an exception. -/
def Action (Call : Type) (Value : Call → Type) (Fault ε α : Type) : Type :=
  AwaitProgram Call (fun call => Except Fault (Value call)) (Except ε α)

namespace Action

variable {Call : Type} {Value : Call → Type} {Fault ε α β γ : Type}

/-- What comes after an action, when exceptions pass through. -/
def andThen (next : α → Action Call Value Fault ε β) :
    Except ε α → Action Call Value Fault ε β
  | .ok result => next result
  | .error exception => AwaitProgram.done (.error exception)

@[simp]
theorem andThen_ok (next : α → Action Call Value Fault ε β) (result : α) :
    andThen next (.ok result) = next result :=
  rfl

instance : Monad (Action Call Value Fault ε) where
  pure result := AwaitProgram.done (.ok result)
  bind action next := AwaitProgram.bind action (andThen next)

theorem bind_assoc (action : Action Call Value Fault ε α)
    (next : α → Action Call Value Fault ε β) (last : β → Action Call Value Fault ε γ) :
    (action >>= next >>= last : Action Call Value Fault ε γ) =
      action >>= fun result => next result >>= last := by
  refine (AwaitProgram.bind_assoc action (andThen next) (andThen last)).trans ?_
  have sameRest : (fun outcome => AwaitProgram.bind (andThen next outcome) (andThen last)) =
      andThen fun result => next result >>= last := by
    funext outcome
    cases outcome <;> rfl
  rw [sameRest]
  rfl

/-- End with an exception. -/
def raise (exception : ε) : Action Call Value Fault ε α :=
  AwaitProgram.done (.error exception)

/-- Await one call; its fault is raised as an exception. -/
def perform (raised : Fault → ε) (call : Call) :
    Action Call Value Fault ε (Value call) :=
  AwaitProgram.await call fun
    | .ok value => AwaitProgram.done (.ok value)
    | .error fault => AwaitProgram.done (.error (raised fault))

/-- Run the cleanup after the body, whatever the body ended with. -/
def ensuring (body : Action Call Value Fault ε α)
    (cleanup : Action Call Value Fault ε Unit) : Action Call Value Fault ε α :=
  AwaitProgram.bind body fun outcome =>
    AwaitProgram.bind cleanup (andThen fun _ => AwaitProgram.done outcome)

/-! ### The calls of an action -/

variable {allowed : Call → Prop} {action : Action Call Value Fault ε α}

theorem only_andThen {next : α → Action Call Value Fault ε β}
    (first : AwaitProgram.Only allowed action)
    (second : ∀ result, AwaitProgram.Only allowed (next result)) :
    AwaitProgram.Only allowed (action >>= next : Action Call Value Fault ε β) := by
  apply AwaitProgram.only_bind first
  intro outcome
  cases outcome with
  | ok result => exact second result
  | error exception => trivial

theorem only_perform (raised : Fault → ε) {call : Call} (permitted : allowed call) :
    AwaitProgram.Only allowed
      (perform raised call : Action Call Value Fault ε (Value call)) := by
  refine ⟨permitted, fun reply => ?_⟩
  cases reply <;> trivial

end Action

end RideHailing
