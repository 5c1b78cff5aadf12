import RideHailing.LiveStreams

/-!
# How a stream ends

Completing a key closes the one queue that the key refers to at that moment.  So a
stream ends with its key if the key is completed before another stream takes the key
over, or takes it away by ending.
-/

namespace RideHailing

namespace EventStreams

variable {π : Type} {board next opened final : EventStreams π} {action : StreamStep π}
variable {key : String} {index : Nat} {stream : EventStream π} {after : List (StreamStep π)}

/-- The stream has ended, or the closing sentinel waits in its queue. -/
def Released (board : EventStreams π) (index : Nat) : Prop :=
  ∃ stream, board.streams[index]? = some stream ∧
    (stream.closed = true ∨ none ∈ (board.registry.queues[stream.queue]?).getD [])

/-! ## One step -/

theorem released_eq (aligned : board.Aligned) (found : board.streams[index]? = some stream) :
    board.Released index ↔
      stream.closed = true ∨ none ∈ (board.registry.queues[index]?).getD [] := by
  rw [Released]
  constructor
  · rintro ⟨other, foundOther, ended⟩
    rw [found] at foundOther
    cases foundOther
    rwa [aligned.ownQueue found] at ended
  · intro ended
    refine ⟨stream, found, ?_⟩
    rwa [aligned.ownQueue found]

theorem released_of_same (sameStream : next.streams[index]? = board.streams[index]?)
    (sameQueue : next.registry.queues[index]? = board.registry.queues[index]?)
    (aligned : board.Aligned) (alignedNext : next.Aligned)
    (found : board.streams[index]? = some stream) :
    next.Released index ↔ board.Released index := by
  rw [released_eq aligned found, released_eq alignedNext (sameStream.trans found), sameQueue]

/-- A stream is released when its client leaves and when its queue is completed. -/
theorem released_step (aligned : board.Aligned) (found : board.streams[index]? = some stream)
    (moved : board.step action = some next) :
    next.Released index ↔ board.Released index ∨ action = .disconnects index ∨
      ∃ key, action = .completes key ∧ board.registry.emitterOf key = some index := by
  have alignedNext := aligned.step moved
  have bound := (List.getElem?_eq_some_iff.mp found).1
  have queueBound : index < board.registry.queues.length := by
    rwa [← aligned.count]
  cases action with
  | opens opened =>
      cases moved
      rw [released_of_same _ _ aligned alignedNext found]
      · simp
      · simp [opening, List.getElem?_append_left bound]
      · simp [opening, SseRegistry.register, List.getElem?_append_left queueBound]
  | takes other =>
      obtain ⟨old, ran, took⟩ := Option.bind_eq_some_iff.mp moved
      obtain ⟨oldFound, _⟩ := running_eq_some.mp ran
      obtain ⟨item, waiting, registry, queued, rfl, taken⟩ := taking_eq_some took
      rw [aligned.ownQueue oldFound] at queued taken
      by_cases same : other = index
      · subst same
        rw [found] at oldFound
        cases oldFound
        rw [released_eq aligned found, queued]
        rcases taken with ⟨rfl, rfl⟩ | ⟨event, rfl, rfl⟩
        · rw [released_eq alignedNext (List.getElem?_set_self bound)]
          simp
        · rw [released_eq alignedNext (List.getElem?_set_self bound)]
          simp [List.getElem?_set_self queueBound]
      · rw [released_of_same _ _ aligned alignedNext found]
        · simp
        · rcases taken with ⟨_, rfl⟩ | ⟨_, _, rfl⟩ <;>
            simp [closing, List.getElem?_set_ne same]
        · rcases taken with ⟨_, rfl⟩ | ⟨_, _, rfl⟩ <;>
            simp [closing, SseRegistry.unregister, List.getElem?_set_ne same]
  | disconnects other =>
      obtain ⟨old, ran, rfl⟩ := Option.map_eq_some_iff.mp moved
      obtain ⟨oldFound, _⟩ := running_eq_some.mp ran
      by_cases same : other = index
      · subst same
        rw [released_eq alignedNext (List.getElem?_set_self bound)]
        simp
      · rw [released_of_same _ _ aligned alignedNext found]
        · simp [same]
        · simp [closing, List.getElem?_set_ne same]
        · rfl
  | emits other event payload =>
      cases moved
      cases refers : board.registry.emitterOf other with
      | none => simp [SseRegistry.emit_eq, refers]
      | some queue =>
          by_cases same : queue = index
          · subst same
            rw [released_eq aligned found, released_eq alignedNext found]
            simp [SseRegistry.emit_eq, refers, SseRegistry.put,
              List.getElem?_eq_getElem queueBound]
          · rw [released_of_same _ _ aligned alignedNext found]
            · simp
            · rfl
            · simp only [SseRegistry.emit_eq, refers]
              exact SseRegistry.queues_put_of_ne _ same
  | completes other =>
      cases moved
      cases refers : board.registry.emitterOf other with
      | none => simp [SseRegistry.complete_eq, refers]
      | some queue =>
          by_cases same : queue = index
          · subst same
            rw [released_eq alignedNext found]
            simp [SseRegistry.complete_eq, refers, SseRegistry.put, SseRegistry.unregister,
              List.getElem?_eq_getElem queueBound]
          · rw [released_of_same _ _ aligned alignedNext found]
            · simp [refers, same]
            · rfl
            · simp only [SseRegistry.complete_eq, refers]
              exact SseRegistry.queues_put_of_ne _ same

/-! ## Runs -/

/-- What has been released stays so. -/
theorem released_of_run (aligned : board.Aligned) (found : board.streams[index]? = some stream)
    (released : board.Released index) (ran : runSteps step board after = some final) :
    final.Released index := by
  have kept : final.Aligned ∧ final.Released index ∧
      ∃ later, final.streams[index]? = some later := by
    apply runSteps_invariant ?_ ?_ ran
    · rintro state event next ⟨aligned, released, later, foundLater⟩ moved
      obtain ⟨kept, foundKept, _⟩ := stream_kept moved foundLater
      exact ⟨aligned.step moved, (released_step aligned foundLater moved).mpr (Or.inl released),
        kept, foundKept⟩
    · exact ⟨aligned, released, stream, found⟩
  exact kept.2.1

/-- A stream of a key that no other stream takes over, and that no older stream takes away,
is released when its key is completed; until then the key refers to it. -/
theorem released_or_following (aligned : opened.Aligned)
    (ran : runSteps step (opened.opening key) after = some board)
    (unopened : .opens key ∉ after) (undisplaced : ¬ Displaced opened key board) :
    board.Released opened.streams.length ∨ Following opened key board := by
  induction after using List.reverseRecOn generalizing board with
  | nil =>
      cases ran
      exact Or.inr (following_opening aligned key)
  | append_singleton before action ih =>
      rw [runSteps_append, Option.bind_eq_some_iff] at ran
      obtain ⟨middle, ranBefore, last⟩ := ran
      rw [runSteps_cons, Option.bind_eq_some_iff] at last
      obtain ⟨next, moved, ended⟩ := last
      obtain rfl : next = board := Option.some.inj ended
      simp only [List.mem_append, List.mem_singleton, not_or] at unopened
      have undisplacedBefore : ¬ Displaced opened key middle :=
        fun displaced => undisplaced (displaced.step moved)
      have alignedMiddle : middle.Aligned :=
        runSteps_invariant (fun _ _ _ before moved => Aligned.step before moved)
          (aligned.opening key) ranBefore
      obtain ⟨stream, found⟩ := stream_exists_of_run ranBefore
      rcases ih ranBefore unopened.1 undisplacedBefore with released | following
      · exact Or.inl ((released_step alignedMiddle found moved).mpr (Or.inl released))
      by_cases completes : action = .completes key
      · exact Or.inl ((released_step alignedMiddle found moved).mpr
          (Or.inr (Or.inr ⟨key, completes, following.referred undisplacedBefore⟩)))
      by_cases runs : (next.running opened.streams.length).isSome = true
      · exact Or.inr (following.step (Ne.symm unopened.2) completes moved runs)
      · obtain ⟨later, foundLater, _⟩ := stream_kept moved found
        refine Or.inl ⟨later, foundLater, Or.inl ?_⟩
        by_contra notClosed
        rw [Bool.not_eq_true] at notClosed
        simp [running_eq_some.mpr ⟨foundLater, notClosed⟩] at runs

/-- In these steps the stream has registered its key.  Since then no other stream has
registered it, and none that was running then has ended. -/
def InTurn (steps : List (StreamStep π)) (key : String) (index : Nat) : Prop :=
  ∃ before after opened board, steps = before ++ .opens key :: after ∧
    runSteps step empty before = some opened ∧ opened.streams.length = index ∧
      .opens key ∉ after ∧ runSteps step (opened.opening key) after = some board ∧
        ¬ Displaced opened key board

/-- A stream that holds its key when the key is completed is released. -/
theorem released_of_inTurn {steps more : List (StreamStep π)} (inTurn : InTurn steps key index)
    (ran : runSteps step empty (steps ++ .completes key :: more) = some final) :
    final.Released index := by
  obtain ⟨before, after, opened, board, rfl, ranBefore, rfl, unopened, ranAfter,
    undisplaced⟩ := inTurn
  have aligned := aligned_of_run ranBefore
  have ranSteps : runSteps step empty (before ++ .opens key :: after) = some board := by
    rw [runSteps_append, ranBefore]
    exact ranAfter
  rw [runSteps_append, ranSteps, Option.bind_some, runSteps_cons, Option.bind_eq_some_iff] at ran
  obtain ⟨next, moved, ranRest⟩ := ran
  have alignedBoard := aligned_of_run ranSteps
  obtain ⟨stream, found⟩ := stream_exists_of_run ranAfter
  obtain ⟨later, foundLater, _⟩ := stream_kept moved found
  apply released_of_run (alignedBoard.step moved) foundLater ?_ ranRest
  apply (released_step alignedBoard found moved).mpr
  rcases released_or_following aligned ranAfter unopened undisplaced with released | following
  · exact Or.inl released
  · exact Or.inr (Or.inr ⟨key, rfl, following.referred undisplaced⟩)

/-- Every stream was opened by a step of the run. -/
theorem opened_of_run {steps : List (StreamStep π)}
    (ran : runSteps step empty steps = some final)
    (found : final.streams[index]? = some stream) :
    ∃ before after opened, steps = before ++ .opens stream.key :: after ∧
      runSteps step empty before = some opened ∧ opened.streams.length = index := by
  induction steps using List.reverseRecOn generalizing final stream with
  | nil =>
      cases ran
      simp [empty] at found
  | append_singleton earlier action ih =>
      rw [runSteps_append, Option.bind_eq_some_iff] at ran
      obtain ⟨middle, ranBefore, last⟩ := ran
      rw [runSteps_cons, Option.bind_eq_some_iff] at last
      obtain ⟨next, moved, ended⟩ := last
      obtain rfl : next = final := Option.some.inj ended
      cases foundBefore : middle.streams[index]? with
      | some old =>
          obtain ⟨kept, foundKept, keyEq, _⟩ := stream_kept moved foundBefore
          rw [found] at foundKept
          cases foundKept
          obtain ⟨before, after, opened, rfl, ranOpened, position⟩ := ih ranBefore foundBefore
          refine ⟨before, after ++ [action], opened, ?_, ranOpened, position⟩
          rw [keyEq]
          simp
      | none =>
          by_cases opens : action = .opens stream.key
          · subst opens
            cases moved
            refine ⟨earlier, [], middle, rfl, ranBefore, ?_⟩
            have beyond := List.getElem?_eq_none_iff.mp foundBefore
            have bound := (List.getElem?_eq_some_iff.mp found).1
            simp only [opening, List.length_append, List.length_singleton] at bound
            omega
          · obtain ⟨old, foundOld, _⟩ := stream_of_step opens moved found rfl
            rw [foundBefore] at foundOld
            cases foundOld

end EventStreams

end RideHailing
