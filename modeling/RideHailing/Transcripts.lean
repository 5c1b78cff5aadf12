import RideHailing.CallMonitors

/-!
# What a task has been told

The transcript of a task lists its calls with their replies.  Nobody but the shared state
has given these replies, each at some moment of the run, so a task that acts on its
transcript acts on what was so at some time, though it need not be so any more.
-/

namespace RideHailing

/-! ## Moments of a run -/

section Moments

variable {σ ε : Type} {step : σ → ε → Option σ} {start : σ} {events more : List ε}
variable {fact fact' : σ → Prop}

/-- The fact holds of a state that the run has passed or reached. -/
def Once (step : σ → ε → Option σ) (start : σ) (events : List ε) (fact : σ → Prop) : Prop :=
  ∃ before after middle, events = before ++ after ∧
    runSteps step start before = some middle ∧ fact middle

theorem Once.append (once : Once step start events fact) (more : List ε) :
    Once step start (events ++ more) fact := by
  obtain ⟨before, after, middle, rfl, ran, holds⟩ := once
  exact ⟨before, after ++ more, middle, List.append_assoc _ _ _, ran, holds⟩

theorem Once.mono (once : Once step start events fact)
    (weaker : ∀ state, fact state → fact' state) : Once step start events fact' := by
  obtain ⟨before, after, middle, split, ran, holds⟩ := once
  exact ⟨before, after, middle, split, ran, weaker middle holds⟩

theorem once_of_run {final : σ} (ran : runSteps step start events = some final)
    (holds : fact final) : Once step start events fact :=
  ⟨events, [], final, (List.append_nil _).symm, ran, holds⟩

end Moments

variable {Call : Type} {Value : Call → Type}
variable {Fault State Request Outcome Token Ambient : Type}

/-- A call and the reply to it. -/
structure Answered {Call : Type} (Value : Call → Type) (Fault : Type) where
  call : Call
  reply : Except Fault (Value call)

/-- The calls of a task with their replies, the newest first. -/
def told (pid : Nat) : List (Entry Value Fault Request) → List (Answered Value Fault)
  | [] => []
  | entry :: older =>
      if entry.pid = pid then ⟨entry.call, entry.reply⟩ :: told pid older else told pid older

theorem told_cons (pid : Nat) (entry : Entry Value Fault Request)
    (older : List (Entry Value Fault Request)) :
    told pid (entry :: older) = told pid older ∨
      entry.pid = pid ∧ told pid (entry :: older) =
        ⟨entry.call, entry.reply⟩ :: told pid older := by
  rw [told]
  split
  · rename_i same
    exact Or.inr ⟨same, rfl⟩
  · exact Or.inl rfl

/-- What a task has been told stands in the history, under its number. -/
theorem entry_of_told {pid : Nat} {answered : Answered Value Fault}
    {log : List (Entry Value Fault Request)} (mem : answered ∈ told pid log) :
    ∃ request, ⟨pid, request, answered.call, answered.reply⟩ ∈ log := by
  induction log with
  | nil => cases mem
  | cons entry older ih =>
      rcases told_cons pid entry older with same | ⟨rfl, grown⟩
      · obtain ⟨request, inside⟩ := ih (same ▸ mem)
        exact ⟨request, List.mem_cons_of_mem entry inside⟩
      · rcases List.mem_cons.mp (grown ▸ mem) with rfl | earlier
        · exact ⟨entry.request, List.mem_cons_self⟩
        · obtain ⟨request, inside⟩ := ih earlier
          exact ⟨request, List.mem_cons_of_mem entry inside⟩

/-- What the calls of the history have brought about, the first first. -/
def gathered {ω : Type} (gives : (call : Call) → Except Fault (Value call) → Option ω) :
    List (Entry Value Fault Request) → List ω
  | [] => []
  | entry :: older => gathered gives older ++ (gives entry.call entry.reply).toList

theorem mem_gathered {ω : Type} {gives : (call : Call) → Except Fault (Value call) → Option ω}
    {output : ω} {log : List (Entry Value Fault Request)} :
    output ∈ gathered gives log ↔
      ∃ entry ∈ log, gives entry.call entry.reply = some output := by
  induction log with
  | nil => simp [gathered]
  | cons first older ih =>
      rw [gathered, List.mem_append, ih, Option.mem_toList]
      constructor
      · rintro (⟨entry, mem, given⟩ | given)
        · exact ⟨entry, List.mem_cons_of_mem first mem, given⟩
        · exact ⟨first, List.mem_cons_self, given⟩
      · rintro ⟨entry, mem, given⟩
        rcases List.mem_cons.mp mem with rfl | earlier
        · exact Or.inr given
        · exact Or.inl ⟨entry, earlier, given⟩

/-! ## Programs that act on their transcript -/

/-- The monitor whose note is the transcript. -/
def transcribing (allows : List (Answered Value Fault) → Call → Prop) :
    CallMonitor Value Fault (List (Answered Value Fault)) where
  start := []
  allows := allows
  answers := fun _ _ => True
  after note call reply := ⟨call, reply⟩ :: note

theorem noteOf_transcribing (allows : List (Answered Value Fault) → Call → Prop) (pid : Nat)
    (log : List (Entry Value Fault Request)) :
    (transcribing allows).noteOf pid log = told pid log := by
  induction log with
  | nil => rfl
  | cons entry older ih =>
      simp only [CallMonitor.noteOf, told, ih]
      rfl

/-- The note of a task depends on its transcript alone. -/
theorem noteOf_eq_foldr {Note : Type} (w : CallMonitor Value Fault Note) (pid : Nat)
    (log : List (Entry Value Fault Request)) :
    w.noteOf pid log =
      (told pid log).foldr (fun answered note => w.after note answered.call answered.reply)
        w.start := by
  induction log with
  | nil => rfl
  | cons entry older ih =>
      simp only [CallMonitor.noteOf, told, ih]
      split <;> rfl

section Rules

variable {ε α β : Type} {allows : List (Answered Value Fault) → Call → Prop}
variable {transcript : List (Answered Value Fault)} {action : Action Call Value Fault ε α}

/-- Begun with this transcript, the action makes allowed calls only; it lengthens the
transcript, and so that it says this of the result. -/
def Informs (allows : List (Answered Value Fault) → Call → Prop)
    (transcript : List (Answered Value Fault)) (action : Action Call Value Fault ε α)
    (returns : α → List (Answered Value Fault) → Prop) : Prop :=
  (transcribing allows).Watches action
    (CallMonitor.Leaves (fun result after => transcript ⊆ after ∧ returns result after)
      fun _ _ => True) transcript

theorem informs_pure {result : α} {returns : α → List (Answered Value Fault) → Prop}
    (holds : returns result transcript) :
    Informs allows transcript (pure result : Action Call Value Fault ε α) returns :=
  ⟨List.Subset.refl _, holds⟩

theorem informs_raise (exception : ε) {returns : α → List (Answered Value Fault) → Prop} :
    Informs allows transcript (Action.raise exception : Action Call Value Fault ε α) returns :=
  trivial

theorem informs_call {raised : Fault → ε} {call : Call} (allowed : allows transcript call) :
    Informs allows transcript
      (Action.perform raised call : Action Call Value Fault ε (Value call))
      fun value after => (⟨call, .ok value⟩ : Answered Value Fault) ∈ after :=
  CallMonitor.watches_perform allowed
    (fun _ _ => ⟨List.subset_cons_self _ _, List.mem_cons_self⟩) fun _ _ => trivial

theorem informs_bind {next : α → Action Call Value Fault ε β}
    {middle : α → List (Answered Value Fault) → Prop}
    {returns : β → List (Answered Value Fault) → Prop}
    (first : Informs allows transcript action middle)
    (second : ∀ result after, transcript ⊆ after → middle result after →
      Informs allows after (next result) returns) :
    Informs allows transcript (action >>= next : Action Call Value Fault ε β) returns := by
  apply CallMonitor.Watches.andThen first
  rintro result after ⟨grown, holds⟩
  apply (second result after grown holds).mono
  intro outcome later leaves
  cases outcome with
  | ok value => exact ⟨List.Subset.trans grown leaves.1, leaves.2⟩
  | error exception => trivial

theorem Informs.mono {returns returns' : α → List (Answered Value Fault) → Prop}
    (informs : Informs allows transcript action returns)
    (weaker : ∀ result after, transcript ⊆ after → returns result after →
      returns' result after) :
    Informs allows transcript action returns' := by
  apply CallMonitor.Watches.mono informs
  intro outcome later leaves
  cases outcome with
  | ok value => exact ⟨leaves.1, weaker value later leaves.1 leaves.2⟩
  | error exception => trivial

/-- What is allowed to write less is allowed to write more. -/
theorem Informs.weaken {allows' : List (Answered Value Fault) → Call → Prop}
    {returns : α → List (Answered Value Fault) → Prop}
    (informs : Informs allows transcript action returns)
    (weaker : ∀ note call, allows note call → allows' note call) :
    Informs allows' transcript action returns := by
  suffices wider : ∀ (program : AwaitProgram Call (fun call => Except Fault (Value call))
      (Except ε α)) note post, (transcribing allows).Watches program post note →
        (transcribing allows').Watches program post note from
    wider action transcript _ informs
  intro program
  induction program with
  | done outcome => exact fun _ _ ends => ends
  | await call resume ih =>
      rintro note post ⟨allowed, rest⟩
      exact ⟨weaker note call allowed, fun reply answered => ih reply _ _ (rest reply answered)⟩

/-- The cleanup after the body, which is allowed whatever the body was told; what the body
says of its result is kept. -/
theorem informs_ensuring_returns {cleanup : Action Call Value Fault ε Unit}
    {returns : α → List (Answered Value Fault) → Prop}
    (body : Informs allows transcript action returns)
    (kept : ∀ result note later, note ⊆ later → returns result note → returns result later)
    (cleans : ∀ note, Informs allows note cleanup fun _ _ => True) :
    Informs allows transcript (Action.ensuring action cleanup) returns := by
  apply CallMonitor.watches_ensuring
  apply CallMonitor.Watches.mono body
  intro outcome after leaves
  apply CallMonitor.Watches.mono (cleans after)
  intro cleaned last cleanedWell
  cases outcome with
  | ok value =>
      cases cleaned with
      | ok _ =>
          exact ⟨List.Subset.trans leaves.1 cleanedWell.1,
            kept value after last cleanedWell.1 leaves.2⟩
      | error exception => trivial
  | error exception => cases cleaned <;> trivial

/-- The cleanup after the body, which is allowed whatever the body was told. -/
theorem informs_ensuring {cleanup : Action Call Value Fault ε Unit}
    (body : Informs allows transcript action fun _ _ => True)
    (cleans : ∀ note, Informs allows note cleanup fun _ _ => True) :
    Informs allows transcript (Action.ensuring action cleanup) fun _ _ => True :=
  informs_ensuring_returns body (fun _ _ _ _ _ => trivial) cleans

/-- An action whose calls are allowed whatever the transcript. -/
theorem informs_of_only (only : AwaitProgram.Only (fun call => ∀ note, allows note call) action) :
    Informs allows transcript action fun _ _ => True := by
  suffices longer : ∀ (program : AwaitProgram Call (fun call => Except Fault (Value call))
      (Except ε α)) (note : List (Answered Value Fault)), transcript ⊆ note →
        program.Only (fun call => ∀ note, allows note call) →
          (transcribing allows).Watches program (CallMonitor.Leaves
            (fun _ after => transcript ⊆ after ∧ True) fun _ _ => True) note from
    longer action transcript (List.Subset.refl _) only
  intro program
  induction program with
  | done outcome =>
      intro note grown _
      cases outcome with
      | ok value => exact ⟨grown, trivial⟩
      | error exception => trivial
  | await call resume ih =>
      intro note grown only
      refine ⟨only.1 note, fun reply _ => ?_⟩
      exact ih reply _ (List.Subset.trans grown (List.subset_cons_self _ _)) (only.2 reply)

/-- Any action, where everything is allowed. -/
theorem informs_anything (action : Action Call Value Fault ε α) :
    Informs (fun _ _ => True) transcript action fun _ _ => True := by
  apply informs_of_only
  induction action with
  | done outcome => trivial
  | await call resume ih => exact ⟨fun _ => trivial, ih⟩

end Rules

/-! ## Who has given the replies -/

section Runs

variable [DecidableEq Token]
variable {m : Machine Value Fault State Request Outcome Token Ambient}
variable {step : Pool Value Fault State Request Outcome → Event Fault Request Ambient →
  Option (Pool Value Fault State Request Outcome)}
variable {start : State} {events : List (Event Fault Request Ambient)}
variable {pool : Pool Value Fault State Request Outcome}

/-- A reply in the transcript of a task was given by the state of a moment at which the
task awaited it. -/
theorem once_awaited
    (narrow : ∀ {before event after}, step before event = some after →
      m.next before event = some after)
    (ran : runSteps step (Pool.start start) events = some pool) {pid : Nat}
    {answered : Answered Value Fault} (mem : answered ∈ told pid pool.world.log) :
    Once step (Pool.start start) events fun moment =>
      (∃ request resume, moment.tasks[pid]? = some ⟨request, .await answered.call resume⟩) ∧
        ∃ broken later,
          m.answer pid broken answered.call moment.world.state = some (answered.reply, later) := by
  revert mem
  apply runSteps_along ?_ ?_ ran
  · intro mem
    cases mem
  · intro before middle event next ranBefore moved earlier mem
    rcases m.next_cases (narrow moved) with
      ⟨_, _, rfl⟩ | ⟨other, broken, advanced⟩ | ⟨_, _, rfl⟩
    · exact (earlier mem).append _
    · obtain ⟨request, call, resume, reply, state, found, replied, rfl⟩ :=
        m.advance_eq_some advanced
      rcases told_cons pid ⟨other, request, call, reply⟩ middle.world.log with
        same | ⟨rfl, grown⟩
      · exact (earlier (same ▸ mem)).append _
      · rcases List.mem_cons.mp (grown ▸ mem) with rfl | older
        · exact (once_of_run ranBefore
            ⟨⟨request, resume, found⟩, broken, state, replied⟩).append _
        · exact (earlier older).append _
    · exact (earlier mem).append _

/-- An entry of the history was made when its call had just been answered. -/
theorem once_answered
    (narrow : ∀ {before event after}, step before event = some after →
      m.next before event = some after)
    (ran : runSteps step (Pool.start start) events = some pool)
    {entry : Entry Value Fault Request} (mem : entry ∈ pool.world.log) :
    Once step (Pool.start start) events fun moment => ∃ broken earlier,
      m.answer entry.pid broken entry.call earlier =
        some (entry.reply, moment.world.state) := by
  revert mem
  apply runSteps_along ?_ ?_ ran
  · intro mem
    cases mem
  · intro before middle event next ranBefore moved earlier mem
    have ranNext : runSteps step (Pool.start start) (before ++ [event]) = some next :=
      runSteps_snoc step ranBefore moved
    rcases m.next_cases (narrow moved) with
      ⟨_, _, rfl⟩ | ⟨pid, broken, advanced⟩ | ⟨_, _, rfl⟩
    · exact (earlier mem).append _
    · obtain ⟨request, call, resume, reply, state, found, replied, rfl⟩ :=
        m.advance_eq_some advanced
      rcases List.mem_cons.mp mem with rfl | older
      · exact once_of_run ranNext ⟨broken, middle.world.state, replied⟩
      · exact (earlier older).append _
    · exact (earlier mem).append _

/-- A reply in the transcript of a task was given by the state of some moment. -/
theorem once_told
    (narrow : ∀ {before event after}, step before event = some after →
      m.next before event = some after)
    (ran : runSteps step (Pool.start start) events = some pool) {pid : Nat}
    {answered : Answered Value Fault} (mem : answered ∈ told pid pool.world.log) :
    Once step (Pool.start start) events fun moment => ∃ broken later,
      m.answer pid broken answered.call moment.world.state = some (answered.reply, later) :=
  (once_awaited narrow ran mem).mono fun _ awaited => awaited.2

/-- The entries of the history belong to the tasks that made them. -/
theorem request_of_entry
    (narrow : ∀ {before event after}, step before event = some after →
      m.next before event = some after)
    (ran : runSteps step (Pool.start start) events = some pool)
    {entry : Entry Value Fault Request} (mem : entry ∈ pool.world.log) :
    pool.requests[entry.pid]? = some entry.request := by
  revert mem
  apply runSteps_along ?_ ?_ ran
  · intro mem
    cases mem
  · intro before middle event next _ moved earlier mem
    rcases m.next_cases (narrow moved) with
      ⟨request, _, rfl⟩ | ⟨pid, broken, advanced⟩ | ⟨_, _, rfl⟩
    · have kept := earlier mem
      have bound := (List.getElem?_eq_some_iff.mp kept).1
      simp only [Pool.requests, List.map_append] at kept bound ⊢
      rw [List.getElem?_append_left bound]
      exact kept
    · have same := m.requests_advance advanced
      obtain ⟨request, call, resume, reply, state, found, _, rfl⟩ := m.advance_eq_some advanced
      rw [same]
      rcases List.mem_cons.mp mem with rfl | older
      · exact middle.request_of_task found
      · exact earlier older
    · exact earlier mem

variable {allows : Request → List (Answered Value Fault) → Call → Prop}

/-- The call that a task makes is one that its transcript allows. -/
theorem transcript_allows
    (narrow : ∀ {before event after}, step before event = some after →
      m.next before event = some after)
    (programs : ∀ request, (transcribing (allows request)).Watches (m.program request)
      (fun _ _ => True) [])
    (ran : runSteps step (Pool.start start) events = some pool) {pid : Nat} {request : Request}
    {call : Call} {resume : Except Fault (Value call) →
      AwaitProgram Call (fun call => Except Fault (Value call)) Outcome}
    (found : pool.tasks[pid]? = some ⟨request, .await call resume⟩) :
    allows request (told pid pool.world.log) call := by
  have followed : (transcribing (allows request)).Followed
      (fun other => other = request) (fun _ _ _ => True) pool := by
    apply CallMonitor.followed_of_run (fun _ => trivial) ?_ (runSteps_mono narrow ran)
    intro other same
    subst same
    exact programs other
  have allowed := followed.allows found rfl
  rwa [noteOf_transcribing] at allowed

/-- What a program leaves in its transcript when it ends is what its task has been told. -/
theorem transcript_ended
    (narrow : ∀ {before event after}, step before event = some after →
      m.next before event = some after)
    {allows : List (Answered Value Fault) → Call → Prop} {request : Request} {outcome : Outcome}
    {leaves : Outcome → List (Answered Value Fault) → Prop}
    (program : (transcribing allows).Watches (m.program request) leaves [])
    (ran : runSteps step (Pool.start start) events = some pool) {pid : Nat}
    (ended : pool.ended? pid = some (request, outcome)) :
    leaves outcome (told pid pool.world.log) := by
  have followed : (transcribing allows).Followed
      (fun other => other = request) (fun _ => leaves) pool := by
    apply CallMonitor.followed_of_run (fun _ => trivial) ?_ (runSteps_mono narrow ran)
    intro other same
    subst same
    exact program
  have left := followed.ended ended rfl
  rwa [noteOf_transcribing] at left

end Runs

end RideHailing
