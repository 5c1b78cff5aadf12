import RideHailing.SoloTriples

/-!
# A program alone with one failing call

The environment lets one awaited call of a program fail without effect, the one
that comes after a given number of others.  What the program has done by then
stays done, unless the program itself undoes it.
-/

namespace RideHailing

variable {Call : Type} {Value : Call → Type}
variable {Fault State Request Outcome Token Ambient : Type}
variable (m : Machine Value Fault State Request Outcome Token Ambient)

/-- Perform the calls of a program, but let the one after this many others fail. -/
def Machine.interrupt (pid : Nat) (fault : Fault) {α : Type} :
    AwaitProgram Call (fun call => Except Fault (Value call)) α → Nat → State →
      Option (α × State)
  | .done result, _, state => some (result, state)
  | .await call resume, 0, state =>
      if m.breakable call fault then m.finish pid (resume (.error fault)) state
      else none
  | .await call resume, count + 1, state =>
      (m.perform pid call state).bind fun (reply, after) =>
        Machine.interrupt pid fault (resume reply) count after

/-- However the interrupted program ends, it ends so. -/
def Machine.Interrupted (pid : Nat) (fault : Fault) {α : Type}
    (program : AwaitProgram Call (fun call => Except Fault (Value call)) α)
    (count : Nat) (state : State) (post : α → State → Prop) : Prop :=
  ∀ outcome after, m.interrupt pid fault program count state = some (outcome, after) →
    post outcome after

variable {m} {pid count : Nat} {fault : Fault} {state : State} {ε α β : Type}

theorem interrupted_pure {result : α} {post : Except ε α → State → Prop}
    (holds : post (.ok result) state) :
    m.Interrupted pid fault (pure result : Action Call Value Fault ε α) count state
      post := by
  intro outcome after ends
  cases ends
  exact holds

theorem interrupted_raise {exception : ε} {post : Except ε α → State → Prop}
    (holds : post (.error exception) state) :
    m.Interrupted pid fault (Action.raise exception : Action Call Value Fault ε α) count
      state post := by
  intro outcome after ends
  cases ends
  exact holds

/-- The call fails, or it is answered and the rest is interrupted later. -/
theorem interrupted_call {raised : Fault → ε} {call : Call} {answer : Value call}
    {middle : State} {next : Value call → Action Call Value Fault ε β}
    {post : Except ε β → State → Prop}
    (performed : m.perform pid call state = some (.ok answer, middle))
    (fails : count = 0 → post (.error (raised fault)) state)
    (goesOn : ∀ rest, count = rest + 1 →
      m.Interrupted pid fault (next answer) rest middle post) :
    m.Interrupted pid fault
      (Action.perform raised call >>= next : Action Call Value Fault ε β) count state
      post := by
  intro outcome after ends
  change m.interrupt pid fault (.await call _) count state = some (outcome, after) at ends
  cases count with
  | zero =>
      simp only [Machine.interrupt] at ends
      split at ends
      · cases ends
        exact fails rfl
      · cases ends
  | succ rest =>
      simp only [Machine.interrupt, performed, Option.bind_some] at ends
      exact goesOn rest rfl outcome after ends

/-- A cleanup by one call that the environment cannot break, and that is never
refused, is performed after the body, wherever the body was interrupted. -/
theorem interrupted_ensuring {call : Call}
    {resume : Except Fault (Value call) →
      AwaitProgram Call (fun call => Except Fault (Value call)) (Except ε Unit)}
    {answer : State → Value call} {cleaned : State → State}
    {body : Action Call Value Fault ε α} {cleanup : Action Call Value Fault ε Unit}
    {post : Except ε α → State → Prop}
    (cleanupEq : cleanup = AwaitProgram.await call resume)
    (resumes : ∀ answer, resume (.ok answer) = .done (.ok ()))
    (unbroken : m.breakable call fault = false)
    (performed : ∀ state,
      m.perform pid call state = some (.ok (answer state), cleaned state))
    (inside : m.Interrupted pid fault body count state
      fun outcome after => post outcome (cleaned after)) :
    m.Interrupted pid fault (Action.ensuring body cleanup) count state post := by
  subst cleanupEq
  have cleans : ∀ (outcome : Except ε α) (state : State),
      m.finish pid (AwaitProgram.bind (.await call resume)
        (Action.andThen fun _ => AwaitProgram.done outcome)) state =
          some (outcome, cleaned state) := by
    intro outcome state
    change (m.perform pid call state).bind _ = _
    rw [performed]
    change m.finish pid ((resume (.ok (answer state))).bind _) (cleaned state) = _
    rw [resumes]
    rfl
  change ∀ outcome after, m.interrupt pid fault (AwaitProgram.bind body _) count state =
    some (outcome, after) → post outcome after
  intro outcome after ends
  change ∀ outcome after, m.interrupt pid fault body count state = some (outcome, after) →
    post outcome (cleaned after) at inside
  induction body generalizing count state with
  | done result =>
      cases count with
      | zero =>
          change (if m.breakable call fault = true then _ else none) = _ at ends
          rw [unbroken] at ends
          cases ends
      | succ rest =>
          change (m.perform pid call state).bind _ = _ at ends
          rw [performed] at ends
          change m.interrupt pid fault ((resume (.ok (answer state))).bind _) rest
            (cleaned state) = _ at ends
          rw [resumes] at ends
          cases ends
          exact inside _ state rfl
  | await first resume ih =>
      cases count with
      | zero =>
          simp only [AwaitProgram.await_bind, Machine.interrupt] at ends inside
          split at ends
          · rename_i broken
            rw [if_pos broken] at inside
            rw [finish_bind] at ends
            obtain ⟨⟨result, middle⟩, finished, last⟩ := Option.bind_eq_some_iff.mp ends
            cases (cleans result middle).symm.trans last
            exact inside _ middle finished
          · cases ends
      | succ rest =>
          simp only [AwaitProgram.await_bind, Machine.interrupt] at ends inside
          obtain ⟨⟨reply, middle⟩, answered, last⟩ := Option.bind_eq_some_iff.mp ends
          rw [answered] at inside
          exact ih reply last inside

theorem interrupt_map
    (program : AwaitProgram Call (fun call => Except Fault (Value call)) α)
    (respond : α → β) (count : Nat) (state : State) :
    m.interrupt pid fault (program.bind fun result => .done (respond result)) count state =
      (m.interrupt pid fault program count state).map fun (result, after) =>
        (respond result, after) := by
  induction program generalizing count state with
  | done result => rfl
  | await call resume ih =>
      cases count with
      | zero =>
          simp only [AwaitProgram.await_bind, Machine.interrupt, finish_bind]
          split
          · cases m.finish pid (resume (.error fault)) state <;> rfl
          · rfl
      | succ rest =>
          simp only [AwaitProgram.await_bind, Machine.interrupt]
          cases m.perform pid call state with
          | none => rfl
          | some answer => exact ih answer.1 rest answer.2

/-- What is made of the result does not matter to an interruption. -/
theorem interrupted_map {action : Action Call Value Fault ε α} {respond : α → β}
    {post : Except ε β → State → Prop}
    (holds : m.Interrupted pid fault action count state
      fun outcome after => post (outcome.map respond) after) :
    m.Interrupted pid fault
      (do return respond (← action) : Action Call Value Fault ε β) count state post := by
  have responds : (do return respond (← action) : Action Call Value Fault ε β) =
      AwaitProgram.bind action fun outcome => AwaitProgram.done (outcome.map respond) := by
    refine congrArg (AwaitProgram.bind action) ?_
    funext outcome
    cases outcome <;> rfl
  intro outcome after ends
  rw [responds] at ends
  obtain ⟨⟨inner, middle⟩, endsInside, same⟩ := Option.map_eq_some_iff.mp
    ((interrupt_map action (Except.map respond) count state).symm.trans ends)
  cases same
  exact holds inner _ endsInside

end RideHailing
