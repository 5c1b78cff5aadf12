import RideHailing.SequentialTurns

/-!
# Triples for an action that runs alone

A triple says what an action does, when no other task moves, to the part of the
state that a view shows: begun where the view shows this, it returns or raises
where the view shows what the postconditions say.
-/

namespace RideHailing

/-- How an action ends, by its result or its exception. -/
def Ends {V ε α : Type} (returns : α → V → Prop) (raises : ε → V → Prop) :
    Except ε α → V → Prop
  | .ok result, seen => returns result seen
  | .error exception, seen => raises exception seen

variable {Call : Type} {Value : Call → Type}
variable {Fault State Request Outcome Token Ambient : Type}
variable (m : Machine Value Fault State Request Outcome Token Ambient)
variable {V ε α β : Type} (view : State → V) (failing : Bool) (pid : Nat)

def Machine.Solo (seen : V) (action : Action Call Value Fault ε α)
    (returns : α → V → Prop) (raises : ε → V → Prop) : Prop :=
  m.alone view failing pid action (Ends returns raises) seen

variable {m view failing pid} {seen : V}
variable {returns : α → V → Prop} {raises : ε → V → Prop}

theorem solo_pure {result : α} (holds : returns result seen) :
    m.Solo view failing pid seen
      (pure result : Action Call Value Fault ε α) returns raises :=
  holds

theorem solo_raise {exception : ε} (holds : raises exception seen) :
    m.Solo view failing pid seen
      (Action.raise exception : Action Call Value Fault ε α) returns raises :=
  holds

theorem Machine.Solo.weaken {action : Action Call Value Fault ε α}
    {returns' : α → V → Prop} {raises' : ε → V → Prop}
    (solo : m.Solo view failing pid seen action returns raises)
    (returned : ∀ result seen, returns result seen → returns' result seen)
    (raised : ∀ exception seen, raises exception seen → raises' exception seen) :
    m.Solo view failing pid seen action returns' raises' := by
  apply alone_mono ?_ solo
  intro outcome after ends
  cases outcome with
  | ok result => exact returned result after ends
  | error exception => exact raised exception after ends

theorem Machine.Solo.returning {action : Action Call Value Fault ε α}
    {returns' : α → V → Prop}
    (solo : m.Solo view failing pid seen action returns raises)
    (returned : ∀ result seen, returns result seen → returns' result seen) :
    m.Solo view failing pid seen action returns' raises :=
  solo.weaken returned fun _ _ holds => holds

theorem Machine.Solo.bind {action : Action Call Value Fault ε α}
    {next : α → Action Call Value Fault ε β} {middle : α → V → Prop}
    {final : β → V → Prop}
    (first : m.Solo view failing pid seen action middle raises)
    (second : ∀ result after, middle result after →
      m.Solo view failing pid after (next result) final raises) :
    m.Solo view failing pid seen (action >>= next) final raises := by
  apply (alone_bind action (Action.andThen next) _ seen).mpr
  apply alone_mono ?_ first
  intro outcome after ends
  cases outcome with
  | ok result => exact second result after ends
  | error exception => exact ends

/-- First an action that changes nothing. -/
theorem Machine.Solo.skip {action : Action Call Value Fault ε α}
    {next : α → Action Call Value Fault ε β} {final : β → V → Prop}
    (first : m.Solo view failing pid seen action (fun _ after => after = seen) raises)
    (second : ∀ result, m.Solo view failing pid seen (next result) final raises) :
    m.Solo view failing pid seen (action >>= next) final raises :=
  first.bind fun result _ unchanged => unchanged ▸ second result

/-- First an action that changes nothing and tells something. -/
theorem Machine.Solo.read {action : Action Call Value Fault ε α}
    {next : α → Action Call Value Fault ε β} {fact : α → Prop}
    {final : β → V → Prop}
    (first : m.Solo view failing pid seen action
      (fun result after => after = seen ∧ fact result) raises)
    (second : ∀ result, fact result →
      m.Solo view failing pid seen (next result) final raises) :
    m.Solo view failing pid seen (action >>= next) final raises :=
  first.bind fun result _ told => told.1 ▸ second result told.2

/-- The rule for one awaited call. -/
theorem solo_perform {raised : Fault → ε} {call : Call}
    {returns : Value call → V → Prop}
    (answers : ∀ state broken reply after, view state = seen →
      (broken.isSome = true → failing = true) →
        m.answer pid broken call state = some (reply, after) →
          Ends returns (fun fault => raises (raised fault)) reply (view after)) :
    m.Solo view failing pid seen (Action.perform raised call) returns raises := by
  intro state looks broken reply after fails answered
  have ends := answers state broken reply after looks fails answered
  cases reply with
  | ok value => exact ends
  | error fault => exact ends

/-- The cleanup runs after the body, whatever the body ended with. -/
theorem solo_ensuring {body : Action Call Value Fault ε α}
    {cleanup : Action Call Value Fault ε Unit}
    {returns' : α → V → Prop} {raises' : ε → V → Prop}
    (inside : m.Solo view failing pid seen body returns raises)
    (returned : ∀ result after, returns result after →
      m.Solo view failing pid after cleanup (fun _ => returns' result) raises')
    (raised : ∀ exception after, raises exception after →
      m.Solo view failing pid after cleanup (fun _ => raises' exception) raises') :
    m.Solo view failing pid seen (Action.ensuring body cleanup) returns' raises' := by
  apply (alone_bind body _ _ seen).mpr
  apply alone_mono ?_ inside
  intro outcome after ends
  apply (alone_bind cleanup _ _ after).mpr
  cases outcome with
  | ok result =>
      apply alone_mono ?_ (returned result after ends)
      rintro (thrown | _) last cleaned <;> exact cleaned
  | error exception =>
      apply alone_mono ?_ (raised exception after ends)
      rintro (thrown | _) last cleaned <;> exact cleaned

/-! ## Actions that no call keeps waiting -/

theorem finish_andThen (pid : Nat) (action : Action Call Value Fault ε α)
    (next : α → Action Call Value Fault ε β) (state : State) :
    m.finish pid (action >>= next : Action Call Value Fault ε β) state =
      (m.finish pid action state).bind fun (outcome, after) =>
        m.finish pid (Action.andThen next outcome) after :=
  finish_bind pid action (Action.andThen next) state

theorem finish_of_ok {action : Action Call Value Fault ε α} {result : α}
    {state after : State} (first : m.finish pid action state = some (.ok result, after))
    (next : α → Action Call Value Fault ε β) :
    m.finish pid (action >>= next : Action Call Value Fault ε β) state =
      m.finish pid (next result) after := by
  rw [finish_andThen, first]
  rfl

theorem finish_of_error {action : Action Call Value Fault ε α} {exception : ε}
    {state after : State}
    (first : m.finish pid action state = some (.error exception, after))
    (next : α → Action Call Value Fault ε β) :
    m.finish pid (action >>= next : Action Call Value Fault ε β) state =
      some (.error exception, after) := by
  rw [finish_andThen, first]
  rfl

theorem finish_perform (pid : Nat) (raised : Fault → ε) (call : Call) (state : State) :
    m.finish pid (Action.perform raised call) state =
      (m.perform pid call state).map fun (reply, after) =>
        (reply.mapError raised, after) := by
  simp only [Action.perform, Machine.finish]
  cases m.perform pid call state with
  | none => rfl
  | some answer =>
      obtain ⟨reply, after⟩ := answer
      cases reply <;> rfl

theorem finish_ensuring {body : Action Call Value Fault ε α}
    {cleanup : Action Call Value Fault ε Unit} {outcome : Except ε α}
    {state middle after : State} (inside : m.finish pid body state = some (outcome, middle))
    (cleaned : m.finish pid cleanup middle = some (.ok (), after)) :
    m.finish pid (Action.ensuring body cleanup) state = some (outcome, after) := by
  rw [Action.ensuring]
  refine (finish_bind pid body _ state).trans ?_
  rw [inside]
  refine (finish_bind pid cleanup _ middle).trans ?_
  rw [cleaned]
  rfl

end RideHailing
