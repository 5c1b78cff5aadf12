import Mathlib.Data.List.Induction

/-!
# Runs of a partial step function

A step function may refuse an event in a state.  A run performs a list of events
one after the other.  What every step preserves holds in every state on the way;
and what every step that satisfies a condition preserves holds in every state of a
run whose steps all satisfy it.  What the steps give out makes up the outputs of the
run.  A sequence of writes, in contrast, is never refused, but it may be interrupted
at any point.
-/

namespace RideHailing

/-- What is found in a list with one item more. -/
theorem getElem?_concat_cases {α : Type} {items : List α} {last item : α} {index : Nat}
    (found : (items ++ [last])[index]? = some item) :
    items[index]? = some item ∨ index = items.length ∧ item = last := by
  rw [List.getElem?_append] at found
  split at found
  · exact Or.inl found
  · rw [List.getElem?_singleton] at found
    split at found
    · cases found
      exact Or.inr ⟨by omega, rfl⟩
    · cases found

/-- What is found in a list with one item rewritten. -/
theorem getElem?_set_cases {α : Type} {items : List α} {updated item : α} {index other : Nat}
    (found : (items.set index updated)[other]? = some item) :
    (index = other ∧ item = updated) ∨ (index ≠ other ∧ items[other]? = some item) := by
  by_cases same : index = other
  · subst same
    have bound := (List.getElem?_eq_some_iff.mp found).1
    rw [List.length_set] at bound
    rw [List.getElem?_set_self bound] at found
    exact Or.inl ⟨rfl, (Option.some.inj found).symm⟩
  · rw [List.getElem?_set_ne same] at found
    exact Or.inr ⟨same, found⟩

variable {σ ε : Type} (step : σ → ε → Option σ)

/-- Perform the events in order. -/
def runSteps (state : σ) : List ε → Option σ
  | [] => some state
  | event :: events => (step state event).bind fun next => runSteps next events

theorem runSteps_cons (state : σ) (event : ε) (events : List ε) :
    runSteps step state (event :: events) =
      (step state event).bind fun next => runSteps step next events :=
  rfl

theorem runSteps_append (state : σ) (first second : List ε) :
    runSteps step state (first ++ second) =
      (runSteps step state first).bind fun middle => runSteps step middle second := by
  induction first generalizing state with
  | nil => rfl
  | cons event events ih =>
      rw [List.cons_append, runSteps_cons, runSteps_cons, Option.bind_assoc]
      congr 1
      funext next
      exact ih next

theorem runSteps_snoc {state middle next : σ} {events : List ε} {event : ε}
    (ran : runSteps step state events = some middle) (moved : step middle event = some next) :
    runSteps step state (events ++ [event]) = some next := by
  rw [runSteps_append, ran, Option.bind_some, runSteps_cons, moved]
  rfl

/-- The property holds of every state on the way, the first and the last
included. -/
def Always (property : σ → Prop) (state : σ) (events : List ε) : Prop :=
  ∀ before after middle, events = before ++ after →
    runSteps step state before = some middle → property middle

/-- The relation holds of every step on the way. -/
def EveryStep (relation : σ → ε → σ → Prop) (state : σ) (events : List ε) : Prop :=
  ∀ before event after middle next, events = before ++ event :: after →
    runSteps step state before = some middle → step middle event = some next →
      relation middle event next

variable {step}

/-- What holds at the start and is kept by every step holds at the end. -/
theorem runSteps_invariant {property : σ → Prop}
    (kept : ∀ state event next, property state → step state event = some next →
      property next)
    {state final : σ} {events : List ε} (start : property state)
    (ran : runSteps step state events = some final) : property final := by
  induction events generalizing state with
  | nil =>
      cases ran
      exact start
  | cons event events ih =>
      rw [runSteps_cons, Option.bind_eq_some_iff] at ran
      obtain ⟨next, moved, rest⟩ := ran
      exact ih (kept state event next start moved) rest

/-- A run with fewer steps to take is a run. -/
theorem runSteps_mono {wider : σ → ε → Option σ}
    (steps : ∀ {state event next}, step state event = some next → wider state event = some next)
    {state final : σ} {events : List ε} (ran : runSteps step state events = some final) :
    runSteps wider state events = some final := by
  induction events generalizing state with
  | nil => exact ran
  | cons event events ih =>
      rw [runSteps_cons, Option.bind_eq_some_iff] at ran
      obtain ⟨next, moved, rest⟩ := ran
      rw [runSteps_cons, steps moved]
      exact ih rest

/-- What holds at the start and is kept by every step after the steps before it holds
at the end. -/
theorem runSteps_along {property : List ε → σ → Prop} {state final : σ}
    {events : List ε} (start : property [] state)
    (kept : ∀ before middle event next, runSteps step state before = some middle →
      step middle event = some next → property before middle →
        property (before ++ [event]) next)
    (ran : runSteps step state events = some final) : property events final := by
  induction events using List.reverseRecOn generalizing final with
  | nil =>
      cases ran
      exact start
  | append_singleton before event ih =>
      rw [runSteps_append, Option.bind_eq_some_iff] at ran
      obtain ⟨middle, ranBefore, last⟩ := ran
      rw [runSteps_cons, Option.bind_eq_some_iff] at last
      obtain ⟨next, moved, ended⟩ := last
      obtain rfl : next = final := Option.some.inj ended
      exact kept before middle event next ranBefore moved (ih ranBefore)

/-- What holds at the start and is kept by every step from a state that has been
reached holds at the end. -/
theorem runSteps_reached {property : σ → Prop} {state final : σ} {events : List ε}
    (start : property state)
    (kept : ∀ before middle event next, runSteps step state before = some middle →
      step middle event = some next → property middle → property next)
    (ran : runSteps step state events = some final) : property final :=
  @runSteps_along σ ε step (fun _ => property) state final events start kept ran

/-- What holds at the end of a run but not at its start came about at one of its
steps. -/
theorem runSteps_arises {property : σ → Prop} {state final : σ} {events : List ε}
    (absent : ¬ property state) (ran : runSteps step state events = some final)
    (holds : property final) :
    ∃ before event after middle next, events = before ++ event :: after ∧
      runSteps step state before = some middle ∧ step middle event = some next ∧
        ¬ property middle ∧ property next := by
  induction events generalizing state with
  | nil =>
      cases ran
      exact absurd holds absent
  | cons event events ih =>
      rw [runSteps_cons, Option.bind_eq_some_iff] at ran
      obtain ⟨next, moved, rest⟩ := ran
      by_cases here : property next
      · exact ⟨[], event, events, state, next, rfl, rfl, moved, absent, here⟩
      · obtain ⟨before, later, after, middle, last, split, ranBefore, movedLater, arises⟩ :=
          ih here rest
        refine ⟨event :: before, later, after, middle, last, ?_, ?_, movedLater, arises⟩
        · rw [split, List.cons_append]
        · rw [runSteps_cons, moved]
          exact ranBefore

/-- One more state that has the property. -/
theorem Always.snoc {property : σ → Prop} {state middle next : σ} {events : List ε}
    {event : ε} (always : Always step property state events)
    (ran : runSteps step state events = some middle) (moved : step middle event = some next)
    (here : property next) : Always step property state (events ++ [event]) := by
  intro before after reached split ranBefore
  rcases List.eq_nil_or_concat after with rfl | ⟨rest, last, rfl⟩
  · rw [List.append_nil] at split
    rw [← split, runSteps_append, ran, Option.bind_some, runSteps_cons, moved] at ranBefore
    cases ranBefore
    exact here
  · rw [List.concat_eq_append, ← List.append_assoc] at split
    obtain ⟨rfl, _⟩ := List.append_inj' split rfl
    exact always before rest reached rfl ranBefore

theorem everyStep_cons {relation : σ → ε → σ → Prop} {state : σ} {event : ε}
    {events : List ε} :
    EveryStep step relation state (event :: events) ↔
      ∀ next, step state event = some next →
        relation state event next ∧ EveryStep step relation next events := by
  constructor
  · intro everyStep next moved
    constructor
    · exact everyStep [] event events state next rfl rfl moved
    · intro before later after middle last split ran movedLater
      apply everyStep (event :: before) later after middle last
      · rw [split, List.cons_append]
      · rw [runSteps_cons, moved]
        exact ran
      · exact movedLater
  · intro holds before later after middle last split ran movedLater
    cases before with
    | nil =>
        cases split
        cases ran
        exact (holds last movedLater).1
    | cons first before =>
        cases split
        rw [runSteps_cons, Option.bind_eq_some_iff] at ran
        obtain ⟨next, moved, rest⟩ := ran
        exact (holds next moved).2 before later after middle last rfl rest movedLater

theorem everyStep_append {relation : σ → ε → σ → Prop} {state middle : σ}
    {first second : List ε} (everyFirst : EveryStep step relation state first)
    (ran : runSteps step state first = some middle)
    (everySecond : EveryStep step relation middle second) :
    EveryStep step relation state (first ++ second) := by
  induction first generalizing state with
  | nil =>
      cases ran
      exact everySecond
  | cons event first ih =>
      rw [runSteps_cons, Option.bind_eq_some_iff] at ran
      obtain ⟨next, moved, rest⟩ := ran
      obtain ⟨here, later⟩ := everyStep_cons.mp everyFirst next moved
      rw [List.cons_append, everyStep_cons]
      intro other otherMoved
      obtain rfl : next = other := Option.some.inj (moved.symm.trans otherMoved)
      exact ⟨here, ih later rest⟩

instance decidableEveryStep {relation : σ → ε → σ → Prop}
    [∀ state event next, Decidable (relation state event next)] :
    ∀ (state : σ) (events : List ε), Decidable (EveryStep step relation state events)
  | _, [] => isTrue (by
      intro before event after middle next split
      simp at split)
  | state, event :: events =>
      match moved : step state event with
      | none => isTrue (everyStep_cons.mpr (by
          intro next stepped
          rw [moved] at stepped
          cases stepped))
      | some next =>
          have : Decidable (EveryStep step relation next events) :=
            decidableEveryStep next events
          decidable_of_iff (relation state event next ∧ EveryStep step relation next events)
            (by
              rw [everyStep_cons, moved]
              simp)

/-- If every step that satisfies a condition preserves a property, a run of such
steps preserves it. -/
theorem always_of_everyStep {property : σ → Prop} {relation : σ → ε → σ → Prop}
    {state : σ} {events : List ε} (start : property state)
    (kept : ∀ before event after middle next, events = before ++ event :: after →
      runSteps step state before = some middle → step middle event = some next →
        property middle → relation middle event next → property next)
    (everyStep : EveryStep step relation state events) :
    Always step property state events := by
  intro before
  induction before using List.reverseRecOn with
  | nil =>
      intro after middle _ ran
      cases ran
      exact start
  | append_singleton before event ih =>
      intro after final split ran
      rw [runSteps_append, Option.bind_eq_some_iff] at ran
      obtain ⟨middle, ranBefore, last⟩ := ran
      rw [runSteps_cons, Option.bind_eq_some_iff] at last
      obtain ⟨next, moved, ended⟩ := last
      obtain rfl : next = final := Option.some.inj ended
      have split' : events = before ++ event :: after := by
        rw [split, List.append_assoc]
        rfl
      have here := ih (event :: after) middle split' ranBefore
      exact kept before event after middle next split' ranBefore moved here
        (everyStep before event after middle next split' ranBefore moved)

/-! ## What a run gives out -/

section Outputs

variable {ω : Type} {gives : σ → ε → Option ω}

/-- What the steps of a run give out, the first first. -/
def outputs (step : σ → ε → Option σ) (gives : σ → ε → Option ω) : σ → List ε → List ω
  | _, [] => []
  | state, event :: events =>
      match step state event with
      | none => []
      | some next => (gives state event).toList ++ outputs step gives next events

theorem outputs_append {state middle : σ} {before : List ε} (after : List ε)
    (ran : runSteps step state before = some middle) :
    outputs step gives state (before ++ after) =
      outputs step gives state before ++ outputs step gives middle after := by
  induction before generalizing state with
  | nil =>
      cases ran
      rfl
  | cons event before ih =>
      rw [runSteps_cons, Option.bind_eq_some_iff] at ran
      obtain ⟨next, moved, rest⟩ := ran
      simp only [List.cons_append, outputs, moved]
      rw [ih rest, List.append_assoc]

theorem outputs_snoc {state middle next : σ} {before : List ε} {event : ε}
    (ran : runSteps step state before = some middle) (moved : step middle event = some next) :
    outputs step gives state (before ++ [event]) =
      outputs step gives state before ++ (gives middle event).toList := by
  rw [outputs_append [event] ran]
  simp [outputs, moved]

/-- An output was given out at one of the steps, the ones before it earlier and the ones
after it later. -/
theorem outputs_split {state : σ} {events : List ε} {first second : List ω} {output : ω}
    (split : outputs step gives state events = first ++ output :: second) :
    ∃ before event after middle next, events = before ++ event :: after ∧
      runSteps step state before = some middle ∧ step middle event = some next ∧
        gives middle event = some output ∧ outputs step gives state before = first ∧
          outputs step gives next after = second := by
  induction events generalizing state first with
  | nil => simp [outputs] at split
  | cons event events ih =>
      simp only [outputs] at split
      cases moved : step state event with
      | none => simp [moved] at split
      | some next =>
          simp only [moved] at split
          have later : ∀ {rest : List ω},
              outputs step gives next events = rest ++ output :: second →
              (gives state event).toList ++ rest = first →
                ∃ before event' after middle next, event :: events = before ++ event' :: after ∧
                  runSteps step state before = some middle ∧ step middle event' = some next ∧
                    gives middle event' = some output ∧
                      outputs step gives state before = first ∧
                        outputs step gives next after = second := by
            intro rest splitLater whole
            obtain ⟨before, other, after, middle, last, rfl, ran, movedLater, given, ahead,
              behind⟩ := ih splitLater
            refine ⟨event :: before, other, after, middle, last, rfl, ?_, movedLater, given, ?_,
              behind⟩
            · rw [runSteps_cons, moved]
              exact ran
            · simp only [outputs, moved]
              rw [ahead, whole]
          cases given : gives state event with
          | none =>
              rw [given] at split later
              exact later split rfl
          | some other =>
              rw [given] at split later
              cases first with
              | nil =>
                  obtain ⟨rfl, behind⟩ := List.cons.inj split
                  exact ⟨[], event, events, state, next, rfl, rfl, moved, given, rfl, behind⟩
              | cons head rest =>
                  obtain ⟨rfl, splitLater⟩ := List.cons.inj split
                  exact later splitLater rfl

theorem mem_outputs {state : σ} {events : List ε} {output : ω}
    (mem : output ∈ outputs step gives state events) :
    ∃ before event after middle next, events = before ++ event :: after ∧
      runSteps step state before = some middle ∧ step middle event = some next ∧
        gives middle event = some output := by
  obtain ⟨first, second, split⟩ := List.append_of_mem mem
  obtain ⟨before, event, after, middle, next, whole, ran, moved, given, _, _⟩ :=
    outputs_split split
  exact ⟨before, event, after, middle, next, whole, ran, moved, given⟩

end Outputs

/-! ## Interrupted writes -/

section Writes

variable {ω : Type} (write : σ → ω → σ)

/-- The property holds before, between and after the writes. -/
def Throughout (property : σ → Prop) : σ → List ω → Prop
  | state, [] => property state
  | state, first :: rest => property state ∧ Throughout property (write state first) rest

variable {write}

theorem Throughout.interrupted {property : σ → Prop} {state : σ}
    {done writes : List ω} (throughout : Throughout write property state writes)
    (begun : done <+: writes) : property (done.foldl write state) := by
  induction done generalizing state writes with
  | nil =>
      cases writes with
      | nil => exact throughout
      | cons first rest => exact throughout.1
  | cons first done ih =>
      obtain ⟨rest, rfl⟩ := begun
      exact ih throughout.2 (List.prefix_append done rest)

end Writes

end RideHailing
