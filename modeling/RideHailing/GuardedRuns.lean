import RideHailing.Transcripts

/-!
# Programs behind guards

A guard makes a few calls of its own and then either refuses, or it becomes the program
of a request of another machine, which one depending on what it was told.  If the calls of
the guards leave alone what the other machine can see of the state, then every run of
guarded programs is a run of the other machine: the one in which each request begins as
soon as it arrives, and waits until its guard lets it pass.  Which request that will be is
known only later, so the run is shown for every choice that agrees with the guards passed
so far.  Of the other machine's programs it is enough to know what a monitor allows them
to call.
-/

namespace RideHailing

variable {Call : Type} {Value : Call → Type}
variable {Fault State State' Request Request' Outcome Token Ambient : Type}

/-- From this transcript on the program calls what a guard may call, until it refuses or
becomes the program of a request, as it may after what it has been told. -/
inductive Guarded (inner : Machine Value Fault State' Request' Outcome Token Ambient)
    (quiet : Call → Prop) (becomes : List (Answered Value Fault) → Request' → Prop)
    (refuses : List (Answered Value Fault) → Outcome → Prop) :
    List (Answered Value Fault) →
      AwaitProgram Call (fun call => Except Fault (Value call)) Outcome → Prop where
  | passes {asked rest} (request : Request') (may : becomes asked request)
      (same : rest = inner.program request) : Guarded inner quiet becomes refuses asked rest
  | refused {asked} (outcome : Outcome) (may : refuses asked outcome) :
      Guarded inner quiet becomes refuses asked (.done outcome)
  | asks {asked} (call : Call)
      (resume : Except Fault (Value call) →
        AwaitProgram Call (fun call => Except Fault (Value call)) Outcome)
      (asking : quiet call)
      (goesOn : ∀ reply, Guarded inner quiet becomes refuses (⟨call, reply⟩ :: asked)
        (resume reply)) :
      Guarded inner quiet becomes refuses asked (.await call resume)

/-- A monitor watches a program behind its guard if it lets the guard ask, and watches what
the program becomes. -/
theorem Guarded.watches {Note : Type} {w : CallMonitor Value Fault Note}
    {inner : Machine Value Fault State' Request' Outcome Token Ambient} {quiet : Call → Prop}
    {becomes : List (Answered Value Fault) → Request' → Prop}
    {refuses : List (Answered Value Fault) → Outcome → Prop} {asked program}
    (guarded : Guarded inner quiet becomes refuses asked program)
    (asks : ∀ note call, quiet call → w.allows note call)
    (passes : ∀ note asked request, becomes asked request →
      w.Watches (inner.program request) (fun _ _ => True) note) (note : Note) :
    w.Watches program (fun _ _ => True) note := by
  induction guarded generalizing note with
  | passes request may same =>
      subst same
      exact passes note _ request may
  | refused outcome may => trivial
  | asks call resume asking goesOn ih =>
      exact ⟨asks note call asking, fun reply _ => ih reply _⟩

/-- One machine serves the requests of another one behind guards. -/
structure Protects (outer : Machine Value Fault State Request Outcome Token Ambient)
    (inner : Machine Value Fault State' Request' Outcome Token Ambient) where
  related : State → State' → Prop
  quiet : Call → Prop
  Note : Type
  monitor : Request' → CallMonitor Value Fault Note
  becomes : Request → List (Answered Value Fault) → Request' → Prop
  refuses : Request → List (Answered Value Fault) → Outcome → Prop
  idle : Request'
  guarded : ∀ request,
    Guarded inner quiet (becomes request) (refuses request) [] (outer.program request)
  watched : ∀ request, (monitor request).Watches (inner.program request) (fun _ _ => True)
    (monitor request).start
  draws : ∀ {request asked request'}, becomes request asked request' →
    ∀ token ∈ inner.draws request', token ∈ outer.draws request
  idle_draws : inner.draws idle = []
  unused : ∀ {state state' token}, related state state' →
    outer.unused token state = true → inner.unused token state' = true
  asked : ∀ {state state' after pid broken call reply}, related state state' →
    quiet call → outer.answer pid broken call state = some (reply, after) →
      related after state'
  replied : ∀ {state after pid broken call reply} request,
    outer.answer pid broken call state = some (reply, after) →
      (monitor request).answers call reply
  answered : ∀ {state state' after pid broken call reply} request note, related state state' →
    (monitor request).allows note call →
      outer.answer pid broken call state = some (reply, after) →
        ∃ after', inner.answer pid broken call state' = some (reply, after') ∧
          related after after'
  ambient : ∀ {state state'} change, related state state' →
    related (outer.ambient change state) (inner.ambient change state')

namespace Protects

variable {outer : Machine Value Fault State Request Outcome Token Ambient}
variable {inner : Machine Value Fault State' Request' Outcome Token Ambient}
variable {G : Protects outer inner} {served : Nat → Option Request'}
variable {choice : Nat → Request'}
variable {pool last : Pool Value Fault State Request Outcome}
variable {pool' : Pool Value Fault State' Request' Outcome}

/-- The other machine has the same tasks: those past their guards have as much left, the
others have yet to begin. -/
def Mirrors (inner : Machine Value Fault State' Request' Outcome Token Ambient)
    (served : Nat → Option Request') (choice : Nat → Request')
    (pool : Pool Value Fault State Request Outcome)
    (pool' : Pool Value Fault State' Request' Outcome) : Prop :=
  ∀ pid : Nat, pool'.tasks[pid]? = pool.tasks[pid]?.map fun task =>
    ⟨choice pid,
      if (served pid).isSome then task.rest else inner.program (choice pid)⟩

/-- The choice agrees with the guards passed so far, and draws nothing else. -/
structure Fits (G : Protects outer inner) (served : Nat → Option Request')
    (pool : Pool Value Fault State Request Outcome) (choice : Nat → Request') : Prop where
  served : ∀ {pid request}, served pid = some request → choice pid = request
  draws : ∀ {pid : Nat} {task}, pool.tasks[pid]? = some task →
    ∀ token ∈ inner.draws (choice pid), token ∈ outer.draws task.request

/-- Some run of the other machine has come as far with this choice. -/
def Arrives [DecidableEq Token] (G : Protects outer inner) (init : State')
    (served : Nat → Option Request') (pool : Pool Value Fault State Request Outcome)
    (choice : Nat → Request') : Prop :=
  ∃ events pool', inner.run (Pool.start init) events = some pool' ∧
    G.related pool.world.state pool'.world.state ∧ Mirrors inner served choice pool pool'

/-- Who is past the guards, and that whatever the others become there is a run for it. -/
structure Followed [DecidableEq Token] (G : Protects outer inner) (init : State')
    (pool : Pool Value Fault State Request Outcome) (served : Nat → Option Request') :
    Prop where
  waiting : ∀ {pid : Nat} {task}, pool.tasks[pid]? = some task → served pid = none →
    Guarded inner G.quiet (G.becomes task.request) (G.refuses task.request)
      (told pid pool.world.log) task.rest
  passed : ∀ {pid : Nat} {task request}, pool.tasks[pid]? = some task →
    served pid = some request →
      (∃ asked, asked <:+ told pid pool.world.log ∧ G.becomes task.request asked request) ∧
        ∃ note, (G.monitor request).Watches task.rest (fun _ _ => True) note
  begun : ∀ {pid : Nat}, pool.tasks.length ≤ pid →
    served pid = none ∧ told pid pool.world.log = []
  arrives : ∀ choice, G.Fits served pool choice → G.Arrives init served pool choice

variable [DecidableEq Token] {init : State'}

omit [DecidableEq Token] in
theorem Mirrors.length (mirrors : Mirrors inner served choice pool pool') :
    pool'.tasks.length = pool.tasks.length := by
  apply Nat.le_antisymm
  · have here := mirrors pool.tasks.length
    rw [List.getElem?_eq_none (Nat.le_refl _), Option.map_none] at here
    exact List.getElem?_eq_none_iff.mp here
  · have here := mirrors pool'.tasks.length
    rw [List.getElem?_eq_none (Nat.le_refl _)] at here
    exact List.getElem?_eq_none_iff.mp (Option.map_eq_none_iff.mp here.symm)

/-- The request can begin in the other machine at once. -/
theorem admits_of_mirrors {request : Request} (fits : G.Fits served pool choice)
    (mirrors : Mirrors inner served choice pool pool')
    (related : G.related pool.world.state pool'.world.state)
    (drawn : ∀ token ∈ inner.draws (choice pool.tasks.length),
      token ∈ outer.draws request)
    (admitted : outer.admits pool request = true) :
    inner.admits pool' (choice pool.tasks.length) = true := by
  simp only [Machine.admits, List.all_eq_true, Bool.and_eq_true, decide_eq_true_eq]
    at admitted ⊢
  intro token tokenMem
  obtain ⟨unused, foreign⟩ := admitted token (drawn token tokenMem)
  refine ⟨G.unused related unused, ?_⟩
  intro earlier earlierMem drawnEarlier
  obtain ⟨task', taskMem, rfl⟩ := List.mem_map.mp earlierMem
  obtain ⟨pid, found'⟩ := List.mem_iff_getElem?.mp taskMem
  rw [mirrors pid] at found'
  obtain ⟨task, found, rfl⟩ := Option.map_eq_some_iff.mp found'
  exact foreign task.request (List.mem_map_of_mem (List.mem_of_getElem? found))
    (fits.draws found token drawnEarlier)

theorem Followed.spawn {request : Request} (followed : G.Followed init pool served)
    (moved : outer.next pool (.spawn request) = some last) :
    G.Followed init last served := by
  have admitted : outer.admits pool request = true := by
    simp only [Machine.next] at moved
    split at moved
    · assumption
    · cases moved
  obtain rfl := outer.next_spawn moved
  constructor
  · intro pid task found unserved
    rcases getElem?_concat_cases found with earlier | ⟨rfl, rfl⟩
    · exact followed.waiting earlier unserved
    · rw [(followed.begun (Nat.le_refl _)).2]
      exact G.guarded request
  · intro pid task inside found serves
    rcases getElem?_concat_cases found with earlier | ⟨rfl, rfl⟩
    · exact followed.passed earlier serves
    · rw [(followed.begun (Nat.le_refl _)).1] at serves
      cases serves
  · intro pid beyond
    apply followed.begun
    rw [List.length_append] at beyond
    omega
  · intro choice fits
    have fitsBefore : G.Fits served pool choice := by
      refine ⟨fits.served, fun found => fits.draws ?_⟩
      rw [List.getElem?_append_left (List.getElem?_eq_some_iff.mp found).1]
      exact found
    obtain ⟨events, pool', ran, related, mirrors⟩ := followed.arrives choice fitsBefore
    have drawn : ∀ token ∈ inner.draws (choice pool.tasks.length),
        token ∈ outer.draws request := by
      intro token tokenMem
      have newest : (pool.tasks ++ [⟨request, outer.program request⟩])[pool.tasks.length]? =
          some ⟨request, outer.program request⟩ := by simp
      exact fits.draws newest token tokenMem
    have enters := admits_of_mirrors fitsBefore mirrors related drawn admitted
    refine ⟨events ++ [.spawn (choice pool.tasks.length)], ⟨pool'.world, pool'.tasks ++
      [⟨choice pool.tasks.length, inner.program (choice pool.tasks.length)⟩]⟩, ?_, related, ?_⟩
    · rw [Machine.run, runSteps_append]
      rw [Machine.run] at ran
      rw [ran, Option.bind_some, runSteps_cons]
      simp only [Machine.next, if_pos enters]
      rfl
    · intro pid
      have lengths := mirrors.length
      rcases Nat.lt_trichotomy pid pool.tasks.length with less | rfl | more
      · rw [List.getElem?_append_left (by omega), List.getElem?_append_left less]
        exact mirrors pid
      · rw [← lengths]
        simp only [List.getElem?_concat_length]
        rw [lengths]
        simp [(followed.begun (Nat.le_refl _)).1]
      · rw [List.getElem?_eq_none (by simp; omega), List.getElem?_eq_none (by simp; omega)]
        rfl

/-- A task past its guard makes its next call in the other machine too. -/
theorem Arrives.advance {pid : Nat} {broken : Option Fault} {request : Request} {call : Call}
    {resume : Except Fault (Value call) →
      AwaitProgram Call (fun call => Except Fault (Value call)) Outcome}
    {reply : Except Fault (Value call)} {state : State} {later : Nat → Option Request'}
    (found : pool.tasks[pid]? = some ⟨request, .await call resume⟩)
    (replied : outer.answer pid broken call pool.world.state = some (reply, state))
    {inside : Request'} {note : G.Note} (allowed : (G.monitor inside).allows note call)
    (arrives : G.Arrives init served pool choice)
    (same : served pid = none → inner.program (choice pid) = .await call resume)
    (serves : (later pid).isSome) (others : ∀ other, other ≠ pid → later other = served other) :
    G.Arrives init later ⟨⟨state, ⟨pid, request, call, reply⟩ :: pool.world.log⟩,
      pool.tasks.set pid ⟨request, resume reply⟩⟩ choice := by
  obtain ⟨events, pool', ran, related, mirrors⟩ := arrives
  obtain ⟨state', replied', relatedAfter⟩ := G.answered inside note related allowed replied
  have found' : pool'.tasks[pid]? = some ⟨choice pid, .await call resume⟩ := by
    rw [mirrors pid, found, Option.map_some]
    cases serving : served pid with
    | some _ => rfl
    | none =>
        rw [same serving]
        rfl
  have moved : inner.advance pool' pid broken = some
      ⟨⟨state', ⟨pid, choice pid, call, reply⟩ :: pool'.world.log⟩,
        pool'.tasks.set pid ⟨choice pid, resume reply⟩⟩ := by
    simp only [Machine.advance, found', replied']
  have stepped : ∃ event, inner.next pool' event = some
      ⟨⟨state', ⟨pid, choice pid, call, reply⟩ :: pool'.world.log⟩,
        pool'.tasks.set pid ⟨choice pid, resume reply⟩⟩ := by
    cases broken with
    | none => exact ⟨.step pid, moved⟩
    | some fault => exact ⟨.fault pid fault, moved⟩
  obtain ⟨event, stepped⟩ := stepped
  refine ⟨events ++ [event], ⟨⟨state', ⟨pid, choice pid, call, reply⟩ :: pool'.world.log⟩,
    pool'.tasks.set pid ⟨choice pid, resume reply⟩⟩, ?_, relatedAfter, ?_⟩
  · rw [Machine.run, runSteps_append]
    rw [Machine.run] at ran
    rw [ran, Option.bind_some, runSteps_cons, stepped]
    rfl
  · intro other
    have bound := (List.getElem?_eq_some_iff.mp found).1
    have bound' := (List.getElem?_eq_some_iff.mp found').1
    by_cases here : other = pid
    · subst here
      rw [List.getElem?_set_self bound, List.getElem?_set_self bound', Option.map_some,
        if_pos serves]
    · rw [List.getElem?_set_ne (Ne.symm here), List.getElem?_set_ne (Ne.symm here),
        others other here]
      exact mirrors other

omit [DecidableEq Token] in
/-- What fits the tasks after a call fits the tasks before it. -/
theorem Fits.before {pid : Nat} {request : Request} {rest rest'} {world}
    {later : Nat → Option Request'}
    (fits : G.Fits later ⟨world, pool.tasks.set pid ⟨request, rest⟩⟩ choice)
    (found : pool.tasks[pid]? = some ⟨request, rest'⟩)
    (kept : ∀ {other inside}, served other = some inside → later other = some inside) :
    G.Fits served pool choice := by
  refine ⟨fun serving => fits.served (kept serving), ?_⟩
  intro other task otherFound
  have bound := (List.getElem?_eq_some_iff.mp found).1
  by_cases here : other = pid
  · subst here
    obtain rfl : (⟨request, rest'⟩ : Task Value Fault Request Outcome) = task :=
      Option.some.inj (found.symm.trans otherFound)
    have set : (pool.tasks.set other ⟨request, rest⟩)[other]? = some ⟨request, rest⟩ :=
      List.getElem?_set_self bound
    have drawn := fits.draws set
    exact drawn
  · have kept : (pool.tasks.set pid ⟨request, rest⟩)[other]? = some task := by
      rw [List.getElem?_set_ne (Ne.symm here)]
      exact otherFound
    exact fits.draws kept

section Answering

variable {pid : Nat} {broken : Option Fault} {request : Request} {call : Call}
variable {resume : Except Fault (Value call) →
  AwaitProgram Call (fun call => Except Fault (Value call)) Outcome}
variable {reply : Except Fault (Value call)} {state : State} {later : Nat → Option Request'}

/-- An answered call concerns its own task only: what is to be shown is how far this task
has come, and that the other machine has a run for it. -/
theorem Followed.answered (followed : G.Followed init pool served)
    (found : pool.tasks[pid]? = some ⟨request, .await call resume⟩)
    (others : ∀ other, other ≠ pid → later other = served other)
    (waiting : later pid = none → Guarded inner G.quiet (G.becomes request)
      (G.refuses request) (⟨call, reply⟩ :: told pid pool.world.log) (resume reply))
    (passed : ∀ inside, later pid = some inside →
      (∃ asked, asked <:+ ⟨call, reply⟩ :: told pid pool.world.log ∧
        G.becomes request asked inside) ∧
        ∃ note, (G.monitor inside).Watches (resume reply) (fun _ _ => True) note)
    (arrives : ∀ choice,
      G.Fits later ⟨⟨state, ⟨pid, request, call, reply⟩ :: pool.world.log⟩,
        pool.tasks.set pid ⟨request, resume reply⟩⟩ choice →
      G.Arrives init later ⟨⟨state, ⟨pid, request, call, reply⟩ :: pool.world.log⟩,
        pool.tasks.set pid ⟨request, resume reply⟩⟩ choice) :
    G.Followed init ⟨⟨state, ⟨pid, request, call, reply⟩ :: pool.world.log⟩,
      pool.tasks.set pid ⟨request, resume reply⟩⟩ later := by
  have bound := (List.getElem?_eq_some_iff.mp found).1
  have own : told pid (⟨pid, request, call, reply⟩ :: pool.world.log) =
      ⟨call, reply⟩ :: told pid pool.world.log := if_pos rfl
  -- What the other tasks have been told is what they had been told before.
  have apart : ∀ {other : Nat}, pid ≠ other →
      told other (⟨pid, request, call, reply⟩ :: pool.world.log) =
        told other pool.world.log := fun ne => by rw [told, if_neg ne]
  constructor
  · intro other task otherFound unserved
    rcases getElem?_set_cases otherFound with ⟨rfl, rfl⟩ | ⟨ne, otherBefore⟩
    · exact own ▸ waiting unserved
    · rw [others other (Ne.symm ne)] at unserved
      exact (apart ne).symm ▸ followed.waiting otherBefore unserved
  · intro other task inside otherFound serves
    rcases getElem?_set_cases otherFound with ⟨rfl, rfl⟩ | ⟨ne, otherBefore⟩
    · exact own ▸ passed inside serves
    · rw [others other (Ne.symm ne)] at serves
      exact (apart ne).symm ▸ followed.passed otherBefore serves
  · intro other beyond
    rw [List.length_set] at beyond
    have ne : pid ≠ other := by omega
    rw [others other (Ne.symm ne)]
    exact (apart ne).symm ▸ followed.begun beyond
  · exact arrives

/-- A task that has passed its guard goes on in the other machine. -/
theorem Followed.answered_of_passed {inside : Request'} (followed : G.Followed init pool served)
    (found : pool.tasks[pid]? = some ⟨request, .await call resume⟩)
    (replied : outer.answer pid broken call pool.world.state = some (reply, state))
    (serving : served pid = some inside) :
    G.Followed init ⟨⟨state, ⟨pid, request, call, reply⟩ :: pool.world.log⟩,
      pool.tasks.set pid ⟨request, resume reply⟩⟩ served := by
  obtain ⟨⟨asked, earlier, may⟩, note, allowed, rest⟩ := followed.passed found serving
  refine followed.answered found (fun _ _ => rfl) ?_ ?_ ?_
  · intro unserved
    rw [serving] at unserved
    cases unserved
  · intro otherInside serves
    obtain rfl : inside = otherInside := Option.some.inj (serving.symm.trans serves)
    exact ⟨⟨asked, earlier.trans (List.suffix_cons _ _), may⟩, _,
      rest reply (G.replied inside replied)⟩
  · intro choice fits
    have arrives := followed.arrives choice (fits.before found fun same => same)
    refine arrives.advance found replied allowed ?_ (by rw [serving]; rfl) fun _ _ => rfl
    rw [serving]
    intro absent
    cases absent

/-- A task that makes the first call of what it has become passes its guard. -/
theorem Followed.answered_of_passing {inside : Request'} (followed : G.Followed init pool served)
    (found : pool.tasks[pid]? = some ⟨request, .await call resume⟩)
    (replied : outer.answer pid broken call pool.world.state = some (reply, state))
    (serving : served pid = none)
    (may : G.becomes request (told pid pool.world.log) inside)
    (same : .await call resume = inner.program inside) :
    G.Followed init ⟨⟨state, ⟨pid, request, call, reply⟩ :: pool.world.log⟩,
      pool.tasks.set pid ⟨request, resume reply⟩⟩
        (Function.update served pid (some inside)) := by
  have watches := G.watched inside
  rw [← same] at watches
  obtain ⟨allowed, rest⟩ := watches
  have others : ∀ other, other ≠ pid →
      Function.update served pid (some inside) other = served other :=
    fun other ne => Function.update_of_ne ne _ _
  refine followed.answered found others ?_ ?_ ?_
  · intro unserved
    rw [Function.update_self] at unserved
    cases unserved
  · intro otherInside serves
    rw [Function.update_self] at serves
    cases serves
    exact ⟨⟨_, List.suffix_cons _ _, may⟩, _, rest reply (G.replied inside replied)⟩
  · intro choice fits
    have chosen : choice pid = inside := fits.served (Function.update_self pid _ _)
    have kept : ∀ {other earlier}, served other = some earlier →
        Function.update served pid (some inside) other = some earlier := by
      intro other earlier serves
      rw [others other]
      · exact serves
      · rintro rfl
        rw [serving] at serves
        cases serves
    have arrives := followed.arrives choice (fits.before found kept)
    refine arrives.advance found replied allowed ?_ ?_ others
    · intro _
      rw [chosen]
      exact same.symm
    · rw [Function.update_self]
      rfl

/-- The other machine does not see a call of a guard. -/
theorem Followed.answered_of_asking (followed : G.Followed init pool served)
    (found : pool.tasks[pid]? = some ⟨request, .await call resume⟩)
    (replied : outer.answer pid broken call pool.world.state = some (reply, state))
    (serving : served pid = none) (asking : G.quiet call)
    (goesOn : Guarded inner G.quiet (G.becomes request) (G.refuses request)
      (⟨call, reply⟩ :: told pid pool.world.log) (resume reply)) :
    G.Followed init ⟨⟨state, ⟨pid, request, call, reply⟩ :: pool.world.log⟩,
      pool.tasks.set pid ⟨request, resume reply⟩⟩ served := by
  refine followed.answered found (fun _ _ => rfl) (fun _ => goesOn) ?_ ?_
  · intro inside serves
    rw [serving] at serves
    cases serves
  · intro choice fits
    obtain ⟨events, pool', ran, related, mirrors⟩ :=
      followed.arrives choice (fits.before found fun same => same)
    refine ⟨events, pool', ran, G.asked related asking replied, ?_⟩
    intro other
    rw [mirrors other]
    by_cases here : other = pid
    · subst here
      rw [List.getElem?_set_self (List.getElem?_eq_some_iff.mp found).1, found,
        Option.map_some, Option.map_some, serving]
      rfl
    · rw [List.getElem?_set_ne (Ne.symm here)]

theorem Followed.advance (followed : G.Followed init pool served)
    (advanced : outer.advance pool pid broken = some last) :
    ∃ later, G.Followed init last later := by
  obtain ⟨request, call, resume, reply, state, found, replied, rfl⟩ :=
    outer.advance_eq_some advanced
  cases serving : served pid with
  | some inside => exact ⟨served, followed.answered_of_passed found replied serving⟩
  | none =>
      generalize restEq : (AwaitProgram.await call resume :
        AwaitProgram Call (fun call => Except Fault (Value call)) Outcome) = rest at found
      cases followed.waiting found serving with
      | refused outcome may => cases restEq
      | passes inside may same =>
          rw [← restEq] at found same
          exact ⟨_, followed.answered_of_passing found replied serving may same⟩
      | asks otherCall otherResume asking goesOn =>
          cases restEq
          exact ⟨served, followed.answered_of_asking found replied serving asking
            (goesOn reply)⟩

end Answering

theorem Followed.next {event : Event Fault Request Ambient}
    (followed : G.Followed init pool served) (moved : outer.next pool event = some last) :
    ∃ later, G.Followed init last later := by
  cases event with
  | spawn request => exact ⟨served, followed.spawn moved⟩
  | step pid => exact followed.advance moved
  | fault pid fault => exact followed.advance moved
  | ambient change =>
      cases moved
      refine ⟨served, followed.waiting, followed.passed, followed.begun, ?_⟩
      intro choice fits
      obtain ⟨events, pool', ran, related, mirrors⟩ :=
        followed.arrives choice ⟨fits.served, fits.draws⟩
      refine ⟨events ++ [.ambient change], ⟨⟨inner.ambient change pool'.world.state,
        pool'.world.log⟩, pool'.tasks⟩, ?_, G.ambient change related, mirrors⟩
      rw [Machine.run, runSteps_append]
      rw [Machine.run] at ran
      rw [ran, Option.bind_some, runSteps_cons]
      rfl

theorem followed_of_run {start : State} {events : List (Event Fault Request Ambient)}
    (related : G.related start init) (ran : outer.run (Pool.start start) events = some pool) :
    ∃ served, G.Followed init pool served := by
  apply @runSteps_invariant _ _ outer.next (fun reached => ∃ served, G.Followed init reached served)
    ?_ _ _ _ ?_ ran
  · rintro before event after ⟨served, followed⟩ moved
    exact followed.next moved
  · refine ⟨fun _ => none, ?_, ?_, fun _ => ⟨rfl, rfl⟩, ?_⟩
    · intro pid task found
      simp [Pool.start] at found
    · intro pid task request found
      simp [Pool.start] at found
    · intro choice _
      refine ⟨[], Pool.start init, rfl, related, ?_⟩
      intro pid
      simp [Pool.start]

/-- What is left of the task is the program of this request of the other machine. -/
def BecomesAs (G : Protects outer inner) (pool : Pool Value Fault State Request Outcome)
    (pid : Nat) (request' : Request') : Prop :=
  ∃ task, pool.tasks[pid]? = some task ∧
    G.becomes task.request (told pid pool.world.log) request' ∧
      task.rest = inner.program request'

open Classical in
/-- Once the run is over, each task is taken for what it has become. -/
noncomputable def chosen (G : Protects outer inner) (served : Nat → Option Request')
    (pool : Pool Value Fault State Request Outcome) (pid : Nat) : Request' :=
  match served pid with
  | some request => request
  | none => if becomes : ∃ request', G.BecomesAs pool pid request' then becomes.choose else G.idle

end Protects

end RideHailing
