import Mathlib.Data.List.ReduceOption
import RideHailing.EventStreams

/-!
# What reaches the newest stream of a key

The registry knows keys, not streams.  While a key refers to the queue of its
newest stream, this stream misses nothing; but the end of an older stream of the
same key removes the key, and from then on every event on it is lost.
-/

namespace RideHailing

namespace SseRegistry

variable {π : Type} {registry : SseRegistry π}

theorem emitterOf_register (registry : SseRegistry π) (key sought : String) :
    (registry.register key).emitterOf sought =
      if sought = key then some registry.queues.length else registry.emitterOf sought := by
  rw [emitterOf, register, KeyedTable.find_save]
  by_cases same : key = sought
  · simp [same]
  · simp [same, Ne.symm same, emitterOf]

theorem emitterOf_unregister (registry : SseRegistry π) (key sought : String) :
    (registry.unregister key).emitterOf sought =
      if sought = key then none else registry.emitterOf sought := by
  rw [emitterOf, unregister, KeyedTable.find_erase]
  by_cases same : sought = key
  · simp [same]
  · simp [same, emitterOf]

theorem emit_eq (registry : SseRegistry π) (key event : String) (payload : π) :
    registry.emit key event payload =
      match registry.emitterOf key with
      | none => registry
      | some queue => registry.put queue (some (event, payload)) := by
  unfold emit emitterOf
  cases registry.emitters.find key <;> rfl

theorem complete_eq (registry : SseRegistry π) (key : String) :
    registry.complete key =
      match registry.emitterOf key with
      | none => registry
      | some queue => (registry.unregister key).put queue none := by
  unfold complete emitterOf
  cases registry.emitters.find key <;> rfl

@[simp]
theorem emitterOf_put (queue : Nat) (item : Option (String × π)) (key : String) :
    (registry.put queue item).emitterOf key = registry.emitterOf key :=
  rfl

@[simp]
theorem length_put (queue : Nat) (item : Option (String × π)) :
    (registry.put queue item).queues.length = registry.queues.length := by
  simp [put]

theorem queues_put_of_ne {queue other : Nat} (item : Option (String × π))
    (apart : queue ≠ other) :
    (registry.put queue item).queues[other]? = registry.queues[other]? := by
  simp [put, apart]

theorem get_eq_some {queue : Nat} {item : Option (String × π)} {after : SseRegistry π}
    (got : registry.get queue = some (item, after)) :
    ∃ waiting, registry.queues[queue]? = some (item :: waiting) ∧
      after = { registry with queues := registry.queues.set queue waiting } := by
  unfold get at got
  split at got
  · rename_i first waiting queued
    cases got
    exact ⟨waiting, queued, rfl⟩
  · cases got

end SseRegistry

namespace EventStreams

variable {π : Type} {board next : EventStreams π}

/-! ## Streams and their queues -/

/-- Every stream reads a queue of its own, and a key refers to the queue of one
of its own streams. -/
structure Aligned (board : EventStreams π) : Prop where
  count : board.streams.length = board.registry.queues.length
  ownQueue : ∀ {index : Nat} {stream : EventStream π},
    board.streams[index]? = some stream → stream.queue = index
  ownStream : ∀ {key : String} {queue : Nat},
    board.registry.emitterOf key = some queue →
      ∃ stream, board.streams[queue]? = some stream ∧ stream.key = key

theorem aligned_empty : (empty : EventStreams π).Aligned := by
  refine ⟨rfl, ?_, ?_⟩
  · intro index stream found
    simp [empty] at found
  · intro key queue refers
    simp [empty, SseRegistry.empty, SseRegistry.emitterOf, KeyedTable.empty,
      KeyedTable.find] at refers

theorem running_eq_some {index : Nat} {stream : EventStream π} :
    board.running index = some stream ↔
      board.streams[index]? = some stream ∧ stream.closed = false := by
  simp [running, Option.filter_eq_some_iff]

/-- Rewriting a stream without changing its key or its queue. -/
theorem streams_set {index other : Nat} {stream rewritten found : EventStream π}
    (old : board.streams[index]? = some stream) (sameKey : rewritten.key = stream.key)
    (sameQueue : rewritten.queue = stream.queue)
    (lookup : (board.streams.set index rewritten)[other]? = some found) :
    ∃ before, board.streams[other]? = some before ∧ found.key = before.key ∧
      found.queue = before.queue := by
  rcases getElem?_set_cases lookup with ⟨rfl, rfl⟩ | ⟨_, before⟩
  · exact ⟨stream, old, sameKey, sameQueue⟩
  · exact ⟨found, before, rfl, rfl⟩

theorem Aligned.opening (aligned : board.Aligned) (key : String) :
    (board.opening key).Aligned := by
  have count := aligned.count
  refine ⟨?_, ?_, ?_⟩
  · simp [EventStreams.opening, SseRegistry.register, count]
  · intro index stream found
    rcases getElem?_concat_cases found with earlier | ⟨rfl, rfl⟩
    · exact aligned.ownQueue earlier
    · exact count.symm
  · intro sought queue refers
    simp only [EventStreams.opening, SseRegistry.emitterOf_register] at refers
    split at refers
    · rename_i same
      cases refers
      refine ⟨{ key := key, queue := board.registry.queues.length }, ?_, same.symm⟩
      simp [EventStreams.opening, ← count]
    · obtain ⟨stream, found, keyEq⟩ := aligned.ownStream refers
      refine ⟨stream, ?_, keyEq⟩
      have bound := (List.getElem?_eq_some_iff.mp found).1
      simp [EventStreams.opening, List.getElem?_append_left bound, found]

/-- Steps that rewrite one stream and remove keys from the registry at most. -/
theorem Aligned.rewriting {index : Nat} {stream rewritten : EventStream π}
    {registry : SseRegistry π} (aligned : board.Aligned)
    (old : board.streams[index]? = some stream) (sameKey : rewritten.key = stream.key)
    (sameQueue : rewritten.queue = stream.queue)
    (sameCount : registry.queues.length = board.registry.queues.length)
    (fewer : ∀ key queue, registry.emitterOf key = some queue →
      board.registry.emitterOf key = some queue) :
    (⟨registry, board.streams.set index rewritten⟩ : EventStreams π).Aligned := by
  refine ⟨?_, ?_, ?_⟩
  · simp [sameCount, aligned.count]
  · intro other found lookup
    obtain ⟨before, foundBefore, _, queueEq⟩ :=
      streams_set old sameKey sameQueue lookup
    rw [queueEq]
    exact aligned.ownQueue foundBefore
  · intro key queue refers
    obtain ⟨owner, found, keyEq⟩ := aligned.ownStream (fewer key queue refers)
    by_cases same : index = queue
    · subst same
      rw [old] at found
      cases found
      refine ⟨rewritten, ?_, sameKey.trans keyEq⟩
      exact List.getElem?_set_self (List.getElem?_eq_some_iff.mp old).1
    · exact ⟨owner, by rw [List.getElem?_set_ne same, found], keyEq⟩

theorem Aligned.registry {registry : SseRegistry π} (aligned : board.Aligned)
    (sameCount : registry.queues.length = board.registry.queues.length)
    (fewer : ∀ key queue, registry.emitterOf key = some queue →
      board.registry.emitterOf key = some queue) :
    ({ board with registry := registry } : EventStreams π).Aligned :=
  ⟨aligned.count.trans sameCount.symm, aligned.ownQueue,
    fun refers => aligned.ownStream (fewer _ _ refers)⟩

theorem emitterOf_of_unregister {registry : SseRegistry π} {gone key : String}
    {queue : Nat} (refers : (registry.unregister gone).emitterOf key = some queue) :
    registry.emitterOf key = some queue := by
  rw [SseRegistry.emitterOf_unregister] at refers
  split at refers
  · cases refers
  · exact refers

theorem Aligned.closing {index : Nat} {stream : EventStream π} (aligned : board.Aligned)
    (found : board.streams[index]? = some stream) :
    (board.closing index stream).Aligned :=
  aligned.rewriting found rfl rfl rfl fun _ _ => emitterOf_of_unregister

/-- What a stream does with the first item of its queue. -/
theorem taking_eq_some {index : Nat} {stream : EventStream π}
    (took : board.taking index stream = some next) :
    ∃ item waiting registry,
      board.registry.queues[stream.queue]? = some (item :: waiting) ∧
      registry = { board.registry with
        queues := board.registry.queues.set stream.queue waiting } ∧
      ((item = none ∧ next = closing ⟨registry, board.streams⟩ index stream) ∨
        ∃ event, item = some event ∧ next = ⟨registry, board.streams.set index
          { stream with delivered := stream.delivered ++ [event] }⟩) := by
  obtain ⟨⟨item, registry⟩, got, rfl⟩ := Option.map_eq_some_iff.mp took
  obtain ⟨waiting, queued, registryEq⟩ := SseRegistry.get_eq_some got
  refine ⟨item, waiting, registry, queued, registryEq, ?_⟩
  cases item with
  | none => exact Or.inl ⟨rfl, rfl⟩
  | some event => exact Or.inr ⟨event, rfl, rfl⟩

theorem Aligned.step {action : StreamStep π} (aligned : board.Aligned)
    (moved : board.step action = some next) : next.Aligned := by
  cases action with
  | opens key =>
      cases moved
      exact aligned.opening key
  | takes index =>
      obtain ⟨stream, ran, took⟩ := Option.bind_eq_some_iff.mp moved
      have found := (running_eq_some.mp ran).1
      obtain ⟨item, waiting, registry, _, rfl, ⟨_, rfl⟩ | ⟨event, _, rfl⟩⟩ :=
        taking_eq_some took
      · have drained : ({ board with registry := { board.registry with
            queues := board.registry.queues.set stream.queue waiting } } :
              EventStreams π).Aligned :=
          aligned.registry (by simp) fun _ _ refers => refers
        exact drained.closing found
      · exact aligned.rewriting found rfl rfl (by simp) fun _ _ refers => refers
  | disconnects index =>
      obtain ⟨stream, ran, rfl⟩ := Option.map_eq_some_iff.mp moved
      exact aligned.closing (running_eq_some.mp ran).1
  | emits key event payload =>
      cases moved
      rw [SseRegistry.emit_eq]
      split
      · exact aligned
      · exact aligned.registry (by simp) fun _ _ refers => refers
  | completes key =>
      cases moved
      rw [SseRegistry.complete_eq]
      split
      · exact aligned
      · exact aligned.registry (by simp [SseRegistry.unregister])
          fun _ _ => emitterOf_of_unregister

theorem aligned_of_run {steps : List (StreamStep π)}
    (ran : runSteps step empty steps = some board) : board.Aligned :=
  runSteps_invariant (fun _ _ _ before moved => Aligned.step before moved)
    aligned_empty ran

/-! ## One step, seen from one key -/

variable {action : StreamStep π} {key : String}

/-- A step keeps every stream, and a stream that has ended stays so. -/
theorem stream_kept {index : Nat} {stream : EventStream π}
    (moved : board.step action = some next)
    (found : board.streams[index]? = some stream) :
    ∃ later, next.streams[index]? = some later ∧ later.key = stream.key ∧
      (stream.closed = true → later.closed = true) := by
  have bound := (List.getElem?_eq_some_iff.mp found).1
  have rewrites : ∀ {other : Nat} {old rewritten : EventStream π},
      board.running other = some old →
        next.streams = board.streams.set other rewritten → rewritten.key = old.key →
          ∃ later, next.streams[index]? = some later ∧ later.key = stream.key ∧
            (stream.closed = true → later.closed = true) := by
    intro other old rewritten ran streamsEq sameKey
    obtain ⟨oldFound, open_⟩ := running_eq_some.mp ran
    rw [streamsEq]
    by_cases same : other = index
    · subst same
      rw [found] at oldFound
      cases oldFound
      refine ⟨rewritten, List.getElem?_set_self bound, sameKey, ?_⟩
      intro closed
      rw [open_] at closed
      cases closed
    · exact ⟨stream, by rw [List.getElem?_set_ne same, found], rfl, id⟩
  have unchanged : next.streams = board.streams →
      ∃ later, next.streams[index]? = some later ∧ later.key = stream.key ∧
        (stream.closed = true → later.closed = true) :=
    fun streamsEq => ⟨stream, by rw [streamsEq, found], rfl, id⟩
  cases action with
  | opens opened =>
      cases moved
      refine ⟨stream, ?_, rfl, id⟩
      simp [opening, List.getElem?_append_left bound, found]
  | takes other =>
      obtain ⟨old, ran, took⟩ := Option.bind_eq_some_iff.mp moved
      obtain ⟨item, waiting, registry, _, _, ⟨_, rfl⟩ | ⟨event, _, rfl⟩⟩ :=
        taking_eq_some took
      · exact rewrites ran rfl rfl
      · exact rewrites ran rfl rfl
  | disconnects other =>
      obtain ⟨old, ran, rfl⟩ := Option.map_eq_some_iff.mp moved
      exact rewrites ran rfl rfl
  | emits other event payload =>
      cases moved
      exact unchanged rfl
  | completes other =>
      cases moved
      exact unchanged rfl

/-- A stream of the key after a step was there before, unless the step opened it,
and when it ends the key leaves the registry. -/
theorem stream_of_step {index : Nat} {later : EventStream π}
    (notOpened : action ≠ .opens key) (moved : board.step action = some next)
    (found : next.streams[index]? = some later) (keyEq : later.key = key) :
    ∃ stream, board.streams[index]? = some stream ∧ stream.key = key ∧
      (later.closed = true →
        stream.closed = true ∨ next.registry.emitterOf key = none) := by
  have closes : ∀ {other : Nat} {old : EventStream π} {registry : SseRegistry π},
      board.running other = some old →
        next = closing ⟨registry, board.streams⟩ other old →
          ∃ stream, board.streams[index]? = some stream ∧ stream.key = key ∧
            (later.closed = true →
              stream.closed = true ∨ next.registry.emitterOf key = none) := by
    rintro other old registry ran rfl
    have oldFound := (running_eq_some.mp ran).1
    simp only [closing] at found
    rcases getElem?_set_cases found with ⟨rfl, rfl⟩ | ⟨_, before⟩
    · refine ⟨old, oldFound, keyEq, fun _ => Or.inr ?_⟩
      rw [closing, SseRegistry.emitterOf_unregister]
      exact if_pos keyEq.symm
    · exact ⟨later, before, keyEq, fun closed => Or.inl closed⟩
  cases action with
  | opens opened =>
      cases moved
      rcases getElem?_concat_cases found with earlier | ⟨_, rfl⟩
      · exact ⟨later, earlier, keyEq, fun closed => Or.inl closed⟩
      · exact absurd (congrArg StreamStep.opens keyEq) notOpened
  | takes other =>
      obtain ⟨old, ran, took⟩ := Option.bind_eq_some_iff.mp moved
      obtain ⟨item, waiting, registry, _, _, ⟨_, closed⟩ | ⟨event, _, rfl⟩⟩ :=
        taking_eq_some took
      · exact closes ran closed
      · have oldFound := (running_eq_some.mp ran).1
        rcases getElem?_set_cases found with ⟨rfl, rfl⟩ | ⟨_, before⟩
        · exact ⟨old, oldFound, keyEq, fun closed => Or.inl closed⟩
        · exact ⟨later, before, keyEq, fun closed => Or.inl closed⟩
  | disconnects other =>
      obtain ⟨old, ran, closed⟩ := Option.map_eq_some_iff.mp moved
      exact closes ran closed.symm
  | emits other event payload =>
      cases moved
      exact ⟨later, found, keyEq, fun closed => Or.inl closed⟩
  | completes other =>
      cases moved
      exact ⟨later, found, keyEq, fun closed => Or.inl closed⟩

/-- What a step that neither opens a stream of the key nor completes the key does
to its entry in the registry. -/
theorem emitterOf_step (notOpened : action ≠ .opens key)
    (notCompleted : action ≠ .completes key) (moved : board.step action = some next) :
    next.registry.emitterOf key = board.registry.emitterOf key ∨
      (next.registry.emitterOf key = none ∧
        ∃ index stream, board.running index = some stream ∧ stream.key = key ∧
          ∃ later, next.streams[index]? = some later ∧ later.key = key ∧
            later.closed = true) := by
  have closes : ∀ {index : Nat} {stream : EventStream π} {registry : SseRegistry π},
      board.running index = some stream →
        next = closing ⟨registry, board.streams⟩ index stream →
          registry.emitterOf key = board.registry.emitterOf key →
            next.registry.emitterOf key = board.registry.emitterOf key ∨
              (next.registry.emitterOf key = none ∧
                ∃ index stream, board.running index = some stream ∧ stream.key = key ∧
                  ∃ later, next.streams[index]? = some later ∧ later.key = key ∧
                    later.closed = true) := by
    rintro index stream registry ran rfl sameEntry
    rw [closing, SseRegistry.emitterOf_unregister]
    split
    · rename_i same
      have bound := (List.getElem?_eq_some_iff.mp (running_eq_some.mp ran).1).1
      exact Or.inr ⟨rfl, index, stream, ran, same.symm,
        { stream with closed := true }, List.getElem?_set_self bound, same.symm, rfl⟩
    · exact Or.inl sameEntry
  cases action with
  | opens opened =>
      cases moved
      have apart : key ≠ opened := fun same =>
        notOpened (congrArg StreamStep.opens same.symm)
      simp [opening, SseRegistry.emitterOf_register, apart]
  | takes index =>
      obtain ⟨stream, ran, took⟩ := Option.bind_eq_some_iff.mp moved
      obtain ⟨item, waiting, registry, _, rfl, ⟨_, closed⟩ | ⟨event, _, rfl⟩⟩ :=
        taking_eq_some took
      · exact closes ran closed rfl
      · exact Or.inl rfl
  | disconnects index =>
      obtain ⟨stream, ran, closed⟩ := Option.map_eq_some_iff.mp moved
      exact closes ran closed.symm rfl
  | emits other event payload =>
      cases moved
      rw [SseRegistry.emit_eq]
      split <;> exact Or.inl rfl
  | completes other =>
      cases moved
      have apart : key ≠ other := fun same =>
        notCompleted (congrArg StreamStep.completes same.symm)
      rw [SseRegistry.complete_eq]
      split
      · exact Or.inl rfl
      · simp [SseRegistry.emitterOf_unregister, apart]

theorem received_eq {index : Nat} {stream : EventStream π} (aligned : board.Aligned)
    (found : board.streams[index]? = some stream) :
    board.received index =
      stream.delivered.map some ++ (board.registry.queues[index]?).getD [] := by
  rw [received, found]
  simp only
  rw [aligned.ownQueue found]

/-- A step that leaves a stream and its queue alone leaves what it received alone. -/
theorem received_of_same {index : Nat} {stream : EventStream π}
    (aligned : board.Aligned) (alignedNext : next.Aligned)
    (found : board.streams[index]? = some stream)
    (sameStream : next.streams[index]? = some stream)
    (sameQueue : next.registry.queues[index]? = board.registry.queues[index]?) :
    next.received index = board.received index := by
  rw [received_eq aligned found, received_eq alignedNext sameStream, sameQueue]

/-- What a stream has yielded and what waits in its queue, the sentinel left out. -/
def events (board : EventStreams π) (index : Nat) : List (String × π) :=
  (board.received index).reduceOption

theorem events_eq {index : Nat} {stream : EventStream π} (aligned : board.Aligned)
    (found : board.streams[index]? = some stream) :
    board.events index =
      stream.delivered ++ ((board.registry.queues[index]?).getD []).reduceOption := by
  rw [events, received_eq aligned found, List.reduceOption_append]
  congr 1
  simp [List.reduceOption]

theorem events_of_missing {index : Nat} (missing : board.streams[index]? = none) :
    board.events index = [] := by
  rw [events, received, missing]
  rfl

theorem events_put {index queue : Nat} {item : Option (String × π)} (aligned : board.Aligned)
    (bound : queue < board.registry.queues.length) :
    events ⟨board.registry.put queue item, board.streams⟩ index =
      if queue = index then board.events index ++ item.toList else board.events index := by
  have put : (⟨board.registry.put queue item, board.streams⟩ : EventStreams π).Aligned :=
    aligned.registry (by simp) fun _ _ refers => refers
  cases found : board.streams[index]? with
  | none =>
      have beyond : board.streams.length ≤ index := List.getElem?_eq_none_iff.mp found
      have count := aligned.count
      have missing : events ⟨board.registry.put queue item, board.streams⟩ index = [] :=
        events_of_missing found
      rw [missing, events_of_missing found, if_neg (by omega)]
  | some stream =>
      rw [events_eq aligned found, events_eq put found]
      split
      · rename_i same
        subst same
        cases item <;>
          simp [SseRegistry.put, List.getElem?_eq_getElem bound, List.reduceOption_append]
      · rename_i apart
        rw [SseRegistry.queues_put_of_ne _ apart]

/-- Events are never lost once they are in a queue, and only an emission adds one. -/
theorem events_step (aligned : board.Aligned) (moved : board.step action = some next)
    (index : Nat) :
    next.events index = board.events index ∨
      ∃ key event payload, action = .emits key event payload ∧
        board.registry.emitterOf key = some index ∧
          next.events index = board.events index ++ [(event, payload)] := by
  have alignedNext := aligned.step moved
  have referred : ∀ {key : String} {queue : Nat},
      board.registry.emitterOf key = some queue → queue < board.registry.queues.length := by
    intro key queue refers
    obtain ⟨owner, found, _⟩ := aligned.ownStream refers
    rw [← aligned.count]
    exact (List.getElem?_eq_some_iff.mp found).1
  cases action with
  | opens key =>
      cases moved
      left
      cases found : board.streams[index]? with
      | some stream =>
          have bound := (List.getElem?_eq_some_iff.mp found).1
          have queueBound : index < board.registry.queues.length := by
            rwa [← aligned.count]
          rw [events, events, received_of_same aligned alignedNext found]
          · simp [opening, List.getElem?_append_left bound, found]
          · simp [opening, SseRegistry.register, List.getElem?_append_left queueBound]
      | none =>
          rw [events_of_missing found]
          cases foundNext : (board.opening key).streams[index]? with
          | none => exact events_of_missing foundNext
          | some stream =>
              have beyond := List.getElem?_eq_none_iff.mp found
              have bound := (List.getElem?_eq_some_iff.mp foundNext).1
              simp only [opening, List.length_append, List.length_singleton] at bound
              obtain rfl : index = board.streams.length := by omega
              rw [events_eq alignedNext foundNext]
              simp only [opening, List.getElem?_concat_length] at foundNext
              cases foundNext
              simp [opening, SseRegistry.register, aligned.count]
  | takes other =>
      left
      obtain ⟨stream, ran, took⟩ := Option.bind_eq_some_iff.mp moved
      have found := (running_eq_some.mp ran).1
      have bound := (List.getElem?_eq_some_iff.mp found).1
      obtain ⟨item, waiting, registry, queued, rfl, taken⟩ := taking_eq_some took
      rw [aligned.ownQueue found] at queued taken
      have queueBound := (List.getElem?_eq_some_iff.mp queued).1
      by_cases same : other = index
      · subst same
        rw [events_eq aligned found, queued]
        rcases taken with ⟨rfl, rfl⟩ | ⟨event, rfl, rfl⟩
        · rw [events_eq alignedNext (List.getElem?_set_self bound)]
          simp [closing, SseRegistry.unregister, List.getElem?_set_self queueBound]
        · rw [events_eq alignedNext (List.getElem?_set_self bound)]
          simp [List.getElem?_set_self queueBound]
      · have sameStreams : next.streams[index]? = board.streams[index]? := by
          rcases taken with ⟨_, rfl⟩ | ⟨_, _, rfl⟩ <;>
            simp [closing, List.getElem?_set_ne same]
        have sameQueues : next.registry.queues[index]? = board.registry.queues[index]? := by
          rcases taken with ⟨_, rfl⟩ | ⟨_, _, rfl⟩ <;>
            simp [closing, SseRegistry.unregister, List.getElem?_set_ne same]
        cases foundIndex : board.streams[index]? with
        | none =>
            rw [events_of_missing foundIndex, events_of_missing (sameStreams.trans foundIndex)]
        | some other =>
            rw [events, events, received_of_same aligned alignedNext foundIndex
              (sameStreams.trans foundIndex) sameQueues]
  | disconnects other =>
      left
      obtain ⟨stream, ran, rfl⟩ := Option.map_eq_some_iff.mp moved
      have found := (running_eq_some.mp ran).1
      have bound := (List.getElem?_eq_some_iff.mp found).1
      by_cases same : other = index
      · subst same
        rw [events_eq aligned found, events_eq alignedNext (List.getElem?_set_self bound)]
        rfl
      · have sameStreams : (board.closing other stream).streams[index]? =
            board.streams[index]? := by
          simp [closing, List.getElem?_set_ne same]
        cases foundIndex : board.streams[index]? with
        | none =>
            rw [events_of_missing foundIndex, events_of_missing (sameStreams.trans foundIndex)]
        | some other =>
            rw [events, events, received_of_same aligned alignedNext foundIndex
              (sameStreams.trans foundIndex) rfl]
  | emits key event payload =>
      cases moved
      rw [SseRegistry.emit_eq]
      split
      · exact Or.inl rfl
      · rename_i queue refers
        rw [events_put aligned (referred refers)]
        split
        · rename_i same
          subst same
          exact Or.inr ⟨key, event, payload, rfl, refers, rfl⟩
        · exact Or.inl rfl
  | completes key =>
      cases moved
      left
      rw [SseRegistry.complete_eq]
      split
      · rfl
      · rename_i queue refers
        have erased : ({ board with registry := board.registry.unregister key } :
            EventStreams π).Aligned :=
          aligned.registry rfl fun _ _ => emitterOf_of_unregister
        have bound : queue < (board.registry.unregister key).queues.length := referred refers
        rw [@events_put π ⟨board.registry.unregister key, board.streams⟩ index queue none
          erased bound]
        split
        · rw [Option.toList_none, List.append_nil]
          rfl
        · rfl

/-- A running stream of the key receives exactly the events that are emitted on it
while the key refers to it. -/
theorem received_step {index : Nat} {stream : EventStream π}
    (aligned : board.Aligned) (found : board.streams[index]? = some stream)
    (keyEq : stream.key = key)
    (refers : board.registry.emitterOf key = some index ∨
      board.registry.emitterOf key = none)
    (notCompleted : action ≠ .completes key) (moved : board.step action = some next)
    (runs : (next.running index).isSome = true) :
    next.received index = board.received index ++
      if board.registry.emitterOf key = none then []
      else ((action.emission key).map some).toList := by
  have alignedNext := aligned.step moved
  have elsewhere : ∀ {other : String} {queue : Nat}, other ≠ key →
      board.registry.emitterOf other = some queue → queue ≠ index := by
    rintro other queue apart refersOther rfl
    obtain ⟨owner, ownerFound, ownerKey⟩ := aligned.ownStream refersOther
    rw [found] at ownerFound
    cases ownerFound
    exact apart (ownerKey.symm.trans keyEq)
  have ends : ∀ {registry : SseRegistry π},
      next ≠ closing ⟨registry, board.streams⟩ index stream := by
    rintro registry rfl
    have bound := (List.getElem?_eq_some_iff.mp found).1
    simp [closing, running, List.getElem?_set_self bound] at runs
  have nothing : ∀ {emission : Option (String × π)}, emission = none →
      board.received index = board.received index ++
        if board.registry.emitterOf key = none then []
        else (emission.map some).toList := by
    rintro emission rfl
    split <;> simp
  cases action with
  | opens opened =>
      cases moved
      have bound := (List.getElem?_eq_some_iff.mp found).1
      rw [received_of_same aligned alignedNext found
        (by simp [opening, List.getElem?_append_left bound, found])
        (by
          have queueBound : index < board.registry.queues.length := by
            rw [← aligned.count]
            exact bound
          simp [opening, SseRegistry.register, List.getElem?_append_left queueBound])]
      exact nothing rfl
  | takes other =>
      obtain ⟨old, ran, took⟩ := Option.bind_eq_some_iff.mp moved
      obtain ⟨oldFound, _⟩ := running_eq_some.mp ran
      have ownQueue := aligned.ownQueue oldFound
      obtain ⟨item, waiting, registry, queued, rfl, taken⟩ := taking_eq_some took
      rw [ownQueue] at queued taken
      by_cases same : other = index
      · subst same
        rw [found] at oldFound
        cases oldFound
        rcases taken with ⟨_, closed⟩ | ⟨event, rfl, rfl⟩
        · exact absurd closed ends
        · have bound := (List.getElem?_eq_some_iff.mp found).1
          have queueBound := (List.getElem?_eq_some_iff.mp queued).1
          rw [received_eq aligned found,
            received_eq alignedNext (List.getElem?_set_self bound), queued]
          simp only [List.getElem?_set_self queueBound]
          split <;> simp [StreamStep.emission]
      · have sameReceived : next.received index = board.received index := by
          rcases taken with ⟨_, rfl⟩ | ⟨event, _, rfl⟩
          · exact received_of_same aligned alignedNext found
              (by simp [closing, List.getElem?_set_ne same, found])
              (by simp [closing, SseRegistry.unregister, List.getElem?_set_ne same])
          · exact received_of_same aligned alignedNext found
              (by simp [List.getElem?_set_ne same, found])
              (by simp [List.getElem?_set_ne same])
        rw [sameReceived]
        exact nothing rfl
  | disconnects other =>
      obtain ⟨old, ran, closed⟩ := Option.map_eq_some_iff.mp moved
      obtain ⟨oldFound, _⟩ := running_eq_some.mp ran
      by_cases same : other = index
      · subst same
        rw [found] at oldFound
        cases oldFound
        exact absurd closed.symm ends
      · subst closed
        rw [received_of_same aligned alignedNext found
          (by simp [closing, List.getElem?_set_ne same, found])
          (by simp [closing, SseRegistry.unregister])]
        exact nothing rfl
  | emits other event payload =>
      cases moved
      by_cases same : other = key
      · subst same
        rcases refers with here | nowhere
        · have queueBound : index < board.registry.queues.length := by
            rw [← aligned.count]
            exact (List.getElem?_eq_some_iff.mp found).1
          rw [received_eq aligned found, received_eq alignedNext found]
          simp [SseRegistry.emit_eq, here, SseRegistry.put, StreamStep.emission,
            List.getElem?_eq_getElem queueBound]
        · rw [received_of_same aligned alignedNext found found
            (by simp [SseRegistry.emit_eq, nowhere]), if_pos nowhere]
          simp
      · rw [received_of_same aligned alignedNext found found ?_]
        · exact nothing (by simp [StreamStep.emission, same])
        · rw [SseRegistry.emit_eq]
          split
          · rfl
          · rename_i queue refersOther
            exact SseRegistry.queues_put_of_ne _ (elsewhere same refersOther)
  | completes other =>
      cases moved
      have apart : other ≠ key := fun same =>
        notCompleted (congrArg StreamStep.completes same)
      rw [received_of_same aligned alignedNext found found ?_]
      · exact nothing rfl
      · rw [SseRegistry.complete_eq]
        split
        · rfl
        · rename_i queue refersOther
          exact SseRegistry.queues_put_of_ne _ (elsewhere apart refersOther)

/-! ## The newest stream of a key -/

variable {opened : EventStreams π}

/-- An older stream of the key, which was running when the newest one opened, has
ended since. -/
def Displaced (opened : EventStreams π) (key : String) (board : EventStreams π) : Prop :=
  ∃ older stream, (opened.running older).isSome = true ∧
    board.streams[older]? = some stream ∧ stream.key = key ∧ stream.closed = true

theorem Displaced.step (displaced : Displaced opened key board)
    (moved : board.step action = some next) : Displaced opened key next := by
  obtain ⟨older, stream, wasRunning, found, keyEq, closed⟩ := displaced
  obtain ⟨later, foundLater, sameKey, stays⟩ := stream_kept moved found
  exact ⟨older, later, wasRunning, foundLater, sameKey.trans keyEq, stays closed⟩

/-- The board some time after a stream of the key opened, while no newer one has
opened and the key has not been completed. -/
structure Following (opened : EventStreams π) (key : String) (board : EventStreams π) :
    Prop where
  aligned : board.Aligned
  newest : ∃ stream, board.streams[opened.streams.length]? = some stream ∧
    stream.key = key
  older : ∀ {index : Nat} {stream : EventStream π},
    board.streams[index]? = some stream → stream.key = key →
      index ≠ opened.streams.length → stream.closed = false →
        (opened.running index).isSome = true
  referred : ¬ Displaced opened key board →
    board.registry.emitterOf key = some opened.streams.length
  forgotten : Displaced opened key board → board.registry.emitterOf key = none

theorem following_opening (aligned : opened.Aligned) (key : String) :
    Following opened key (opened.opening key) := by
  have notDisplaced : ¬ Displaced opened key (opened.opening key) := by
    rintro ⟨older, stream, wasRunning, found, _, closed⟩
    obtain ⟨old, ran⟩ := Option.isSome_iff_exists.mp wasRunning
    obtain ⟨oldFound, notClosed⟩ := running_eq_some.mp ran
    have bound := (List.getElem?_eq_some_iff.mp oldFound).1
    simp only [opening, List.getElem?_append_left bound, oldFound] at found
    cases found
    rw [notClosed] at closed
    cases closed
  refine ⟨aligned.opening key,
    ⟨{ key := key, queue := opened.registry.queues.length }, by simp [opening], rfl⟩,
    ?_, ?_, ?_⟩
  · intro index stream found _ apart notClosed
    rcases getElem?_concat_cases found with earlier | ⟨rfl, _⟩
    · simp [running_eq_some.mpr ⟨earlier, notClosed⟩]
    · exact absurd rfl apart
  · intro _
    simp [opening, SseRegistry.emitterOf_register, aligned.count]
  · intro displaced
    exact absurd displaced notDisplaced

theorem Following.step (following : Following opened key board)
    (notOpened : action ≠ .opens key) (notCompleted : action ≠ .completes key)
    (moved : board.step action = some next)
    (runs : (next.running opened.streams.length).isSome = true) :
    Following opened key next := by
  have entry := emitterOf_step notOpened notCompleted moved
  refine ⟨following.aligned.step moved, ?_, ?_, ?_, ?_⟩
  · obtain ⟨stream, found, keyEq⟩ := following.newest
    obtain ⟨later, foundLater, sameKey, _⟩ := stream_kept moved found
    exact ⟨later, foundLater, sameKey.trans keyEq⟩
  · intro index later foundLater keyEq apart notClosed
    obtain ⟨stream, found, streamKey, _⟩ :=
      stream_of_step notOpened moved foundLater keyEq
    apply following.older found streamKey apart
    by_contra closed
    obtain ⟨kept, foundKept, _, stays⟩ := stream_kept moved found
    rw [foundLater] at foundKept
    cases foundKept
    rw [stays (by simpa using closed)] at notClosed
    cases notClosed
  · intro notDisplaced
    have before := following.referred fun displaced => notDisplaced (displaced.step moved)
    rcases entry with same | ⟨_, index, stream, ran, keyEq, later, foundLater,
      laterKey, closed⟩
    · rw [same, before]
    · -- A stream of the key that ends is the newest one, or it displaces it.
      by_cases newest : index = opened.streams.length
      · subst newest
        simp [running, foundLater, closed] at runs
      · obtain ⟨found, notClosed⟩ := running_eq_some.mp ran
        exact absurd ⟨index, later, following.older found keyEq newest notClosed,
          foundLater, laterKey, closed⟩ notDisplaced
  · intro displaced
    by_cases before : Displaced opened key board
    · rcases entry with same | ⟨gone, _⟩
      · rw [same, following.forgotten before]
      · exact gone
    · obtain ⟨older, later, wasRunning, foundLater, keyEq, closed⟩ := displaced
      obtain ⟨stream, found, streamKey, ended⟩ :=
        stream_of_step notOpened moved foundLater keyEq
      rcases ended closed with already | gone
      · exact absurd ⟨older, stream, wasRunning, found, streamKey, already⟩ before
      · exact gone

/-- No event is emitted on the key after an older stream of it has ended. -/
def Undisturbed (opened : EventStreams π) (key : String)
    (after : List (StreamStep π)) : Prop :=
  ∀ before event later middle, after = before ++ event :: later →
    event.emission key ≠ none →
      runSteps step (opened.opening key) before = some middle →
        ¬ Displaced opened key middle

/-- Whether one more step leaves a run undisturbed. -/
theorem undisturbed_append {after : List (StreamStep π)}
    (ran : runSteps step (opened.opening key) after = some board) :
    Undisturbed opened key (after ++ [action]) ↔
      Undisturbed opened key after ∧
        (action.emission key ≠ none → ¬ Displaced opened key board) := by
  constructor
  · intro undisturbed
    constructor
    · intro before event later middle split emits ranBefore
      exact undisturbed before event (later ++ [action]) middle
        (by simp [split]) emits ranBefore
    · intro emits
      exact undisturbed after action [] board rfl emits ran
  · rintro ⟨undisturbed, last⟩ before event later middle split emits ranBefore
    rcases List.eq_nil_or_concat later with rfl | ⟨rest, final, rfl⟩
    · obtain ⟨rfl, same⟩ := List.append_inj' split rfl
      cases same
      rw [ran] at ranBefore
      cases ranBefore
      exact last emits
    · have split' : after ++ [action] = (before ++ event :: rest) ++ [final] := by
        simp [split]
      obtain ⟨rfl, _⟩ := List.append_inj' split' rfl
      exact undisturbed before event rest middle rfl emits ranBefore

/-- A stream that runs after a step ran before it, if it existed. -/
theorem running_of_step {index : Nat} {stream : EventStream π}
    (found : board.streams[index]? = some stream) (moved : board.step action = some next)
    (runs : (next.running index).isSome = true) :
    (board.running index).isSome = true := by
  obtain ⟨later, ranLater⟩ := Option.isSome_iff_exists.mp runs
  obtain ⟨foundLater, notClosed⟩ := running_eq_some.mp ranLater
  obtain ⟨kept, foundKept, _, stays⟩ := stream_kept moved found
  rw [foundLater] at foundKept
  cases foundKept
  cases closed : stream.closed with
  | false => simp [running_eq_some.mpr ⟨found, closed⟩]
  | true =>
      rw [stays closed] at notClosed
      cases notClosed

theorem stream_exists_of_run {after : List (StreamStep π)}
    (ran : runSteps step (opened.opening key) after = some board) :
    ∃ stream, board.streams[opened.streams.length]? = some stream := by
  apply runSteps_invariant ?_ ?_ ran
  · rintro state event next ⟨stream, found⟩ moved
    obtain ⟨later, foundLater, _⟩ := stream_kept moved found
    exact ⟨later, foundLater⟩
  · exact ⟨{ key := key, queue := opened.registry.queues.length }, by simp [opening]⟩

/-- How the newest stream stands after a run: it received no more than was emitted,
and exactly that if and only if the run was undisturbed. -/
theorem received_of_run {after : List (StreamStep π)} (aligned : opened.Aligned)
    (notOpened : .opens key ∉ after) (notCompleted : .completes key ∉ after)
    (ran : runSteps step (opened.opening key) after = some board)
    (runs : (board.running opened.streams.length).isSome = true) :
    Following opened key board ∧
      (board.received opened.streams.length).length ≤
        ((after.filterMap (StreamStep.emission key)).map some).length ∧
      (board.received opened.streams.length =
          (after.filterMap (StreamStep.emission key)).map some ↔
        Undisturbed opened key after) := by
  induction after using List.reverseRecOn generalizing board with
  | nil =>
      cases ran
      have following := following_opening aligned key
      obtain ⟨stream, found, _⟩ := following.newest
      have nothing : (opened.opening key).received opened.streams.length = [] := by
        simp [received, opening, SseRegistry.register]
      refine ⟨following, by simp [nothing], ?_⟩
      rw [nothing]
      refine ⟨fun _ => ?_, fun _ => rfl⟩
      intro before event later middle split
      simp at split
  | append_singleton after action ih =>
      rw [runSteps_append, Option.bind_eq_some_iff] at ran
      obtain ⟨before, ranBefore, last⟩ := ran
      rw [runSteps_cons, Option.bind_eq_some_iff] at last
      obtain ⟨next, moved, ended⟩ := last
      obtain rfl : next = board := Option.some.inj ended
      simp only [List.mem_append, List.mem_singleton, not_or] at notOpened notCompleted
      obtain ⟨stream, found⟩ := stream_exists_of_run ranBefore
      obtain ⟨following, bounded, complete⟩ := ih notOpened.1 notCompleted.1 ranBefore
        (running_of_step found moved runs)
      refine ⟨following.step (Ne.symm notOpened.2) (Ne.symm notCompleted.2) moved runs,
        ?_⟩
      have emitted : ([action].filterMap (StreamStep.emission key)).map some =
          ((action.emission key).map some).toList := by
        cases emission : action.emission key <;> simp [emission]
      rw [undisturbed_append ranBefore, List.filterMap_append, List.map_append, emitted]
      obtain ⟨newest, foundNewest, keyEq⟩ := following.newest
      by_cases displaced : Displaced opened key before
      · have forgotten := following.forgotten displaced
        rw [received_step following.aligned foundNewest keyEq (Or.inr forgotten)
          (Ne.symm notCompleted.2) moved runs, if_pos forgotten, List.append_nil]
        refine ⟨by rw [List.length_append]; omega, ?_⟩
        cases emission : action.emission key with
        | none => simpa using complete
        | some event =>
            -- One event more was emitted than before, and the stream misses it.
            constructor
            · intro all
              have longer := congrArg List.length all
              rw [List.length_append] at longer
              simp only [Option.map_some, Option.toList_some, List.length_singleton]
                at longer
              omega
            · rintro ⟨_, spared⟩
              exact absurd displaced (spared (by simp))
      · have referred := following.referred displaced
        rw [received_step following.aligned foundNewest keyEq (Or.inl referred)
          (Ne.symm notCompleted.2) moved runs, if_neg (by simp [referred])]
        refine ⟨by rw [List.length_append, List.length_append]; omega, ?_⟩
        rw [List.append_left_inj, complete]
        exact ⟨fun undisturbed => ⟨undisturbed, fun _ => displaced⟩, And.left⟩

/-- Take the newest stream of a key, while it runs and the key has not been
completed since it opened.  What it yielded and what waits in its queue are the
events emitted on the key since then, in order and each once, if and only if none
of them was emitted after an older stream of the key, still running when this one
opened, had ended. -/
theorem newest_stream_complete_iff {before after : List (StreamStep π)}
    {opened final : EventStreams π} {key : String}
    (ranBefore : runSteps step empty before = some opened)
    (ran : runSteps step opened (.opens key :: after) = some final)
    (newest : .opens key ∉ after) (notCompleted : .completes key ∉ after)
    (runs : (final.running opened.streams.length).isSome = true) :
    final.received opened.streams.length =
        (after.filterMap (StreamStep.emission key)).map some ↔
      Undisturbed opened key after :=
  (received_of_run (aligned_of_run ranBefore) newest notCompleted ran runs).2.2

/-- A page is loaded again: its new stream opens, its old one ends, and an event is
emitted on their key. -/
def reloaded : List (StreamStep String) :=
  [.disconnects 0, .emits "u3" "ride_offer" "r1"]

/-- The new stream never sees the event. -/
theorem reloaded_stream_misses :
    ∃ opened final : EventStreams String,
      runSteps step empty [.opens "u3"] = some opened ∧
      runSteps step opened (.opens "u3" :: reloaded) = some final ∧
      .opens "u3" ∉ reloaded ∧ .completes "u3" ∉ reloaded ∧
      (final.running opened.streams.length).isSome = true ∧
      final.received opened.streams.length ≠
        (reloaded.filterMap (StreamStep.emission "u3")).map some := by
  refine ⟨_, _, rfl, rfl, by simp [reloaded], by simp [reloaded], rfl, ?_⟩
  intro all
  cases all

/-- An event emitted before the old stream ends reaches the new one. -/
theorem swift_stream_complete :
    ∃ opened final : EventStreams String,
      runSteps step empty [.opens "u3"] = some opened ∧
      runSteps step opened [.opens "u3", .emits "u3" "ride_offer" "r1",
        .disconnects 0] = some final ∧
      Undisturbed opened "u3" [.emits "u3" "ride_offer" "r1", .disconnects 0] := by
  refine ⟨_, _, rfl, rfl, ?_⟩
  exact (@newest_stream_complete_iff String [.opens "u3"] _ _ _ "u3" rfl rfl (by simp)
    (by simp) rfl).mp rfl

end EventStreams

end RideHailing
