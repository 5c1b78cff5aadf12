import RideHailing.AwaitProgram

/-!
# Programs played out

Played out against an environment that answers as it likes, a program leaves a
trace, the calls that it made with the replies that it got, and a result.  What is
true of all its traces is true however many calls fail, and whatever other programs
do in between.
-/

namespace RideHailing

namespace AwaitProgram

variable {Call : Type} {Reply : Call → Type} {α β : Type}

/-- The program can make these calls, get these replies and end so. -/
inductive Plays : AwaitProgram Call Reply α → List (Sigma Reply) → α → Prop where
  | done (result : α) : Plays (.done result) [] result
  | await {call : Call} {resume : Reply call → AwaitProgram Call Reply α}
      {reply : Reply call} {later : List (Sigma Reply)} {result : α}
      (goesOn : Plays (resume reply) later result) :
      Plays (.await call resume) (⟨call, reply⟩ :: later) result

variable {program : AwaitProgram Call Reply α} {next : α → AwaitProgram Call Reply β}

theorem Plays.bind {first later : List (Sigma Reply)} {middle : α} {result : β}
    (played : program.Plays first middle) (playedNext : (next middle).Plays later result) :
    (program.bind next).Plays (first ++ later) result := by
  induction played with
  | done middle => exact playedNext
  | await goesOn ih => exact .await (ih playedNext)

/-- A trace of two programs, one after the other, is a trace of each. -/
theorem plays_bind {trace : List (Sigma Reply)} {result : β} :
    (program.bind next).Plays trace result ↔
      ∃ first later middle, trace = first ++ later ∧ program.Plays first middle ∧
        (next middle).Plays later result := by
  constructor
  · intro played
    induction program generalizing trace with
    | done middle => exact ⟨[], trace, middle, rfl, .done middle, played⟩
    | await call resume ih =>
        cases played with
        | await goesOn =>
            obtain ⟨first, later, middle, rfl, playedFirst, playedNext⟩ := ih _ goesOn
            exact ⟨_ :: first, later, middle, rfl, .await playedFirst, playedNext⟩
  · rintro ⟨first, later, middle, rfl, played, playedNext⟩
    exact played.bind playedNext

end AwaitProgram

namespace Action

open AwaitProgram

variable {Call : Type} {Value : Call → Type} {Fault ε α β : Type}

/-- `try` the body; `except Exception` goes on, whatever was raised. -/
def attempt (body : Action Call Value Fault ε α) : Action Call Value Fault ε Unit :=
  AwaitProgram.bind body fun _ => AwaitProgram.done (.ok ())

/-- A call with its reply. -/
abbrev Exchange {Call : Type} (Value : Call → Type) (Fault : Type) : Type :=
  Σ call, Except Fault (Value call)

/-- The call failed. -/
def Exchange.failed (exchange : Exchange Value Fault) : Bool :=
  match exchange.2 with
  | .ok _ => false
  | .error _ => true

@[simp]
theorem failed_ok {call : Call} (value : Value call) :
    Exchange.failed (⟨call, .ok value⟩ : Exchange Value Fault) = false :=
  rfl

@[simp]
theorem failed_error {call : Call} (fault : Fault) :
    Exchange.failed (⟨call, .error fault⟩ : Exchange Value Fault) = true :=
  rfl

variable {action : Action Call Value Fault ε α} {next : α → Action Call Value Fault ε β}
variable {trace : List (Exchange Value Fault)}

/-- An action ends with its first part's exception, or goes on with its result. -/
theorem plays_andThen {outcome : Except ε β} :
    Plays (action >>= next : Action Call Value Fault ε β) trace outcome ↔
      (∃ exception, Plays action trace (.error exception) ∧ outcome = .error exception) ∨
        ∃ first later result, trace = first ++ later ∧ Plays action first (.ok result) ∧
          Plays (next result) later outcome := by
  constructor
  · intro played
    obtain ⟨first, later, middle, rfl, playedFirst, playedNext⟩ := plays_bind.mp played
    cases middle with
    | ok result => exact Or.inr ⟨first, later, result, rfl, playedFirst, playedNext⟩
    | error exception =>
        cases playedNext with
        | done => exact Or.inl ⟨exception, by simpa using playedFirst, rfl⟩
  · rintro (⟨exception, played, rfl⟩ | ⟨first, later, result, rfl, played, playedNext⟩)
    · have ends : Plays (andThen next (.error exception)) [] (.error exception) := .done _
      have playedAll := played.bind ends
      rw [List.append_nil] at playedAll
      exact playedAll
    · have playedAll : Plays (action >>= next : Action Call Value Fault ε β)
          (first ++ later) outcome := Plays.bind played playedNext
      exact playedAll

theorem plays_pure {result : α} {outcome : Except ε α} :
    Plays (pure result : Action Call Value Fault ε α) trace outcome ↔
      trace = [] ∧ outcome = .ok result := by
  constructor
  · intro played
    cases played
    exact ⟨rfl, rfl⟩
  · rintro ⟨rfl, rfl⟩
    exact .done _

theorem plays_raise {exception : ε} {outcome : Except ε α} :
    Plays (raise exception : Action Call Value Fault ε α) trace outcome ↔
      trace = [] ∧ outcome = .error exception := by
  constructor
  · intro played
    cases played
    exact ⟨rfl, rfl⟩
  · rintro ⟨rfl, rfl⟩
    exact .done _

/-- A call has one exchange, and raises if it fails. -/
theorem plays_perform {raised : Fault → ε} {call : Call} {outcome : Except ε (Value call)} :
    Plays (perform raised call : Action Call Value Fault ε (Value call)) trace outcome ↔
      ∃ reply, trace = [⟨call, reply⟩] ∧ outcome = reply.mapError raised := by
  constructor
  · intro played
    cases played with
    | @await _ _ reply _ _ goesOn =>
        cases reply <;>
          cases goesOn <;>
          exact ⟨_, rfl, rfl⟩
  · rintro ⟨reply, rfl, rfl⟩
    refine .await ?_
    cases reply <;> exact .done _

/-- An attempt goes on after whatever its body does. -/
theorem plays_attempt {outcome : Except ε Unit} :
    Plays (attempt action) trace outcome ↔
      outcome = .ok () ∧ ∃ ending, Plays action trace ending := by
  constructor
  · intro played
    obtain ⟨first, later, ending, rfl, playedBody, playedRest⟩ := plays_bind.mp played
    cases playedRest
    rw [List.append_nil]
    exact ⟨rfl, ending, playedBody⟩
  · rintro ⟨rfl, ending, played⟩
    have playedAll : Plays (attempt action) (trace ++ []) (.ok ()) :=
      Plays.bind played (.done _)
    rw [List.append_nil] at playedAll
    exact playedAll

end Action

end RideHailing
