import RideHailing.HistoryLogic

/-!
# Triples over the common history

A triple says of one action, run by one task among others, that it keeps to the
law and what the history looks like when it returns or raises.  Assertions are
facts about the history alone.  Where the action awaits a call, the assertion
before it has to be stable: no lawful call of another task may destroy it.
-/

namespace RideHailing

variable {Call : Type} {Value : Call → Type}
variable {Fault State Request Outcome Token Ambient : Type}
variable {m : Machine Value Fault State Request Outcome Token Ambient}

namespace HistoryRules

variable (R : HistoryRules m) (pid : Nat) (request : Request)

/-- No lawful call of another task destroys the fact. -/
def Stable (fact : List (Entry Value Fault Request) → Prop) : Prop :=
  ∀ entry older, Foreign m pid request entry → R.law entry older →
    Lawful R.law older → fact older → fact (entry :: older)

/-- The reply that a call may get after this history. -/
def Answers (call : Call) (reply : Except Fault (Value call))
    (log : List (Entry Value Fault Request)) : Prop :=
  ∃ world broken state, R.Good world ∧ world.log = log ∧
    m.answer pid broken call world.state = some (reply, state)

/-- What an action leaves behind, by its result or its exception. -/
def Leaves {ε α : Type}
    (post : α → List (Entry Value Fault Request) → Prop)
    (exits : ε → List (Entry Value Fault Request) → Prop) :
    Except ε α → List (Entry Value Fault Request) → Prop
  | .ok result, log => post result log
  | .error exception, log => exits exception log

/-- Begun after a history that satisfies the precondition, the action keeps to
the law and ends as the postconditions say. -/
def Triple {ε α : Type} (pre : List (Entry Value Fault Request) → Prop)
    (action : Action Call Value Fault ε α)
    (post : α → List (Entry Value Fault Request) → Prop)
    (exits : ε → List (Entry Value Fault Request) → Prop) : Prop :=
  ∀ world, R.Good world → pre world.log →
    R.wp pid request action
      (fun outcome world' => R.Good world' ∧ Leaves post exits outcome world'.log)
      world

variable {R pid request}

section Stability

variable {fact other : List (Entry Value Fault Request) → Prop}

theorem Stable.later (stable : R.Stable pid request fact)
    {before after : World Value Fault State Request}
    (later : Later m pid request before after) (good : R.Good after)
    (holds : fact before.log) : fact after.log :=
  later.preserve good.2 stable holds

theorem stable_const (proposition : Prop) :
    R.Stable pid request fun _ => proposition :=
  fun _ _ _ _ _ holds => holds

theorem Stable.and (one : R.Stable pid request fact)
    (two : R.Stable pid request other) :
    R.Stable pid request fun log => fact log ∧ other log :=
  fun entry older foreign law lawful holds =>
    ⟨one entry older foreign law lawful holds.1,
      two entry older foreign law lawful holds.2⟩

theorem Stable.or (one : R.Stable pid request fact)
    (two : R.Stable pid request other) :
    R.Stable pid request fun log => fact log ∨ other log :=
  fun entry older foreign law lawful holds =>
    holds.imp (one entry older foreign law lawful)
      (two entry older foreign law lawful)

theorem stable_exists {γ : Sort*}
    {facts : γ → List (Entry Value Fault Request) → Prop}
    (each : ∀ index, R.Stable pid request (facts index)) :
    R.Stable pid request fun log => ∃ index, facts index log :=
  fun entry older foreign law lawful holds =>
    holds.imp fun index => each index entry older foreign law lawful

theorem stable_forall {γ : Sort*}
    {facts : γ → List (Entry Value Fault Request) → Prop}
    (each : ∀ index, R.Stable pid request (facts index)) :
    R.Stable pid request fun log => ∀ index, facts index log :=
  fun entry older foreign law lawful holds index =>
    each index entry older foreign law lawful (holds index)

theorem stable_imp {proposition : Prop}
    (stable : R.Stable pid request fact) :
    R.Stable pid request fun log => proposition → fact log :=
  stable_forall fun _ => stable

/-- An entry that was made stays made. -/
theorem stable_exists_mem (property : Entry Value Fault Request → Prop) :
    R.Stable pid request fun log => ∃ entry ∈ log, property entry := by
  intro entry older _ _ _ holds
  obtain ⟨made, madeMem, property⟩ := holds
  exact ⟨made, List.mem_cons_of_mem entry madeMem, property⟩

/-- A fact about the task's own entries. -/
theorem stable_own (property : Entry Value Fault Request → Prop) :
    R.Stable pid request fun log =>
      ∀ entry ∈ log, entry.pid = pid → property entry := by
  intro entry older foreign _ _ holds own ownMem ownPid
  rcases List.mem_cons.mp ownMem with rfl | ownOlder
  · exact absurd ownPid foreign.1
  · exact holds own ownOlder ownPid

end Stability

section Rules

variable {ε α β : Type}
variable {pre pre' : List (Entry Value Fault Request) → Prop}
variable {post post' : α → List (Entry Value Fault Request) → Prop}
variable {exits exits' : ε → List (Entry Value Fault Request) → Prop}

theorem Triple.weaken {action : Action Call Value Fault ε α}
    (triple : R.Triple pid request pre action post exits)
    (stronger : ∀ log, pre' log → pre log)
    (returns : ∀ result log, post result log → post' result log)
    (raises : ∀ exception log, exits exception log → exits' exception log) :
    R.Triple pid request pre' action post' exits' := by
  intro world good holds
  apply R.wp_mono ?_ (triple world good (stronger _ holds))
  rintro (exception | result) world' ⟨good', leaves⟩
  · exact ⟨good', raises exception _ leaves⟩
  · exact ⟨good', returns result _ leaves⟩

theorem Triple.strengthen {action : Action Call Value Fault ε α}
    (triple : R.Triple pid request pre action post exits)
    (stronger : ∀ log, pre' log → pre log) :
    R.Triple pid request pre' action post exits :=
  triple.weaken stronger (fun _ _ holds => holds) (fun _ _ holds => holds)

/-- What the precondition implies of the program's data may be assumed. -/
theorem triple_assume {action : Action Call Value Fault ε α} {proposition : Prop}
    (known : ∀ log, pre log → proposition)
    (given : proposition → R.Triple pid request pre action post exits) :
    R.Triple pid request pre action post exits :=
  fun world good holds => given (known world.log holds) world good holds

theorem triple_pure {result : α}
    (returns : ∀ log, Lawful R.law log → pre log → post result log) :
    R.Triple pid request pre
      (pure result : Action Call Value Fault ε α) post exits :=
  fun world good holds => ⟨good, returns world.log good.2 holds⟩

theorem triple_raise {exception : ε}
    (raises : ∀ log, pre log → exits exception log) :
    R.Triple pid request pre
      (Action.raise exception : Action Call Value Fault ε α) post exits :=
  fun world good holds => ⟨good, raises world.log holds⟩

theorem Triple.bind {action : Action Call Value Fault ε α}
    {next : α → Action Call Value Fault ε β}
    {final : β → List (Entry Value Fault Request) → Prop}
    (first : R.Triple pid request pre action post exits)
    (second : ∀ result, R.Triple pid request (post result) (next result)
      final exits) :
    R.Triple pid request pre (action >>= next) final exits := by
  intro world good holds
  apply (R.wp_bind action (Action.andThen next) _ world).mpr
  apply R.wp_mono ?_ (first world good holds)
  rintro (exception | result) world' ⟨good', leaves⟩
  · exact ⟨good', leaves⟩
  · exact second result world' good' leaves

/-- The rule for one awaited call. -/
theorem triple_perform {raised : Fault → ε} {call : Call}
    {returns : Value call → List (Entry Value Fault Request) → Prop}
    (stable : R.Stable pid request pre)
    (law : ∀ log reply, Lawful R.law log → pre log →
      R.Answers pid call reply log → R.law ⟨pid, request, call, reply⟩ log)
    (value : ∀ log result, Lawful R.law log → pre log →
      R.Answers pid call (.ok result) log →
        returns result (⟨pid, request, call, .ok result⟩ :: log))
    (faulty : ∀ log fault, Lawful R.law log → pre log →
      R.Answers pid call (.error fault) log →
        exits (raised fault) (⟨pid, request, call, .error fault⟩ :: log)) :
    R.Triple pid request pre (Action.perform raised call) returns exits := by
  intro world good holds now later goodNow broken reply state answered
  have holdsNow := stable.later later goodNow holds
  have answers : R.Answers pid call reply now.log :=
    ⟨now, broken, state, goodNow, rfl, answered⟩
  refine ⟨law now.log reply goodNow.2 holdsNow answers, ?_⟩
  intro goodNext
  cases reply with
  | ok result => exact ⟨goodNext, value now.log result goodNow.2 holdsNow answers⟩
  | error fault => exact ⟨goodNext, faulty now.log fault goodNow.2 holdsNow answers⟩

/-- The cleanup runs after the body, whatever the body ended with. -/
theorem triple_ensuring {body : Action Call Value Fault ε α}
    {cleanup : Action Call Value Fault ε Unit}
    (inside : R.Triple pid request pre body post exits)
    (returned : ∀ result, R.Triple pid request (post result) cleanup
      (fun _ => post' result) exits')
    (raised : ∀ exception, R.Triple pid request (exits exception) cleanup
      (fun _ => exits' exception) exits') :
    R.Triple pid request pre (Action.ensuring body cleanup) post' exits' := by
  intro world good holds
  apply (R.wp_bind body _ _ world).mpr
  apply R.wp_mono ?_ (inside world good holds)
  intro outcome middle ⟨goodMiddle, leaves⟩
  apply (R.wp_bind cleanup _ _ middle).mpr
  cases outcome with
  | error exception =>
      apply R.wp_mono ?_ (raised exception middle goodMiddle leaves)
      rintro (thrown | _) world' ends <;> exact ends
  | ok result =>
      apply R.wp_mono ?_ (returned result middle goodMiddle leaves)
      rintro (thrown | _) world' ends <;> exact ends

/-- A program proved from the situation in which it starts satisfies its
postcondition from its end on. -/
theorem Triple.settled {action : Action Call Value Fault ε α}
    {ends : Except ε α → List (Entry Value Fault Request) → Prop}
    {world : World Value Fault State Request}
    (triple : R.Triple pid request pre action
      (fun result => ends (.ok result)) (fun exception => ends (.error exception)))
    (stable : ∀ outcome, R.Stable pid request (ends outcome))
    (good : R.Good world) (holds : pre world.log) :
    R.wp pid request action (R.Settled pid request ends) world := by
  apply R.wp_mono ?_ (triple world good holds)
  rintro (exception | result) world' ⟨_, leaves⟩ now later goodNow
  · exact (stable (.error exception)).later later goodNow leaves
  · exact (stable (.ok result)).later later goodNow leaves

end Rules

end HistoryRules

end RideHailing
