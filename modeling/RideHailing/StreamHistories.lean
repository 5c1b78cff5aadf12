import RideHailing.DeploymentStreams
import RideHailing.StreamEnds

/-!
# What the streams of a key have received

Events reach a stream in the order of their emission and without a gap, from the moment
it opens to the moment its key refers to something else.  After that it never receives
another one.  The streams that are opened under one key, one after the other, therefore
share out what is emitted on the key, and no event reaches two of them.
-/

namespace RideHailing

namespace EventStreams

variable {π : Type} {board next : EventStreams π} {action : StreamStep π}
variable {key : String} {index : Nat}

/-! ## One stream -/

theorem emitterOf_bound {queue : Nat} (aligned : board.Aligned)
    (refers : board.registry.emitterOf key = some queue) : queue < board.streams.length := by
  obtain ⟨stream, found, _⟩ := aligned.ownStream refers
  exact (List.getElem?_eq_some_iff.mp found).1

theorem emission_eq_some {event : String × π} :
    action.emission key = some event ↔ action = .emits key event.1 event.2 := by
  cases action with
  | emits other name payload =>
      obtain ⟨name', payload'⟩ := event
      simp only [StreamStep.emission, StreamStep.emits.injEq]
      split
      · simp_all
      · simp_all
  | _ => simp [StreamStep.emission]

/-- An event emitted on a key that refers to a stream is received by that stream. -/
theorem events_emission {event : String × π} (aligned : board.Aligned)
    (moved : board.step action = some next) (emits : action.emission key = some event)
    (refers : board.registry.emitterOf key = some index) :
    next.events index = board.events index ++ [event] := by
  obtain rfl := emission_eq_some.mp emits
  cases moved
  have bound : index < board.registry.queues.length := by
    rw [← aligned.count]
    exact emitterOf_bound aligned refers
  rw [SseRegistry.emit_eq, refers]
  simp only
  rw [events_put aligned bound, if_pos rfl]
  rfl

/-- A stream that receives an event belongs to the key on which it is emitted. -/
theorem emission_of_grown {stream : EventStream π} (aligned : board.Aligned)
    (found : board.streams[index]? = some stream) (moved : board.step action = some next) :
    next.events index = board.events index ∨
      ∃ event, action.emission stream.key = some event ∧
        board.registry.emitterOf stream.key = some index ∧
          next.events index = board.events index ++ [event] := by
  rcases events_step aligned moved index with same | ⟨other, name, payload, rfl, refers, grown⟩
  · exact Or.inl same
  · obtain ⟨owner, ownerFound, ownerKey⟩ := aligned.ownStream refers
    rw [found] at ownerFound
    cases ownerFound
    subst ownerKey
    exact Or.inr ⟨(name, payload), emission_eq_some.mpr rfl, refers, grown⟩

/-- A key comes to refer to a stream when the stream opens, and never again. -/
theorem emitterOf_earlier (aligned : board.Aligned) (moved : board.step action = some next)
    (refers : next.registry.emitterOf key = some index)
    (bound : index < board.streams.length) : board.registry.emitterOf key = some index := by
  by_cases opens : action = .opens key
  · subst opens
    cases moved
    have count := aligned.count
    simp only [opening, SseRegistry.emitterOf_register, if_true, Option.some.injEq] at refers
    omega
  · by_cases completes : action = .completes key
    · subst completes
      cases moved
      rw [SseRegistry.complete_eq] at refers
      split at refers
      · exact refers
      · simp [SseRegistry.emitterOf_unregister] at refers
    · rcases emitterOf_step opens completes moved with same | ⟨gone, _⟩
      · rw [← same, refers]
      · rw [gone] at refers
        cases refers

/-- The stream of this number belongs to the key, and these events have been emitted on
the key since it opened. -/
structure Heard (key : String) (index : Nat) (emitted : List (String × π))
    (board : EventStreams π) : Prop where
  aligned : board.Aligned
  own : ∃ stream, board.streams[index]? = some stream ∧ stream.key = key
  first : board.events index <+: emitted
  all : board.registry.emitterOf key = some index → board.events index = emitted

theorem heard_opening (aligned : board.Aligned) (key : String) :
    Heard key board.streams.length [] (board.opening key) := by
  have alignedNext := aligned.opening key
  have found : (board.opening key).streams[board.streams.length]? =
      some { key := key, queue := board.registry.queues.length } := by
    simp [opening]
  have nothing : (board.opening key).events board.streams.length = [] := by
    rw [events_eq alignedNext found]
    simp [opening, SseRegistry.register, aligned.count]
  exact ⟨alignedNext, ⟨_, found, rfl⟩, nothing ▸ List.nil_prefix, fun _ => nothing⟩

theorem Heard.step {emitted : List (String × π)} (heard : Heard key index emitted board)
    (moved : board.step action = some next) :
    Heard key index (emitted ++ (action.emission key).toList) next := by
  obtain ⟨aligned, ⟨stream, found, rfl⟩, first, all⟩ := heard
  obtain ⟨later, foundLater, sameKey, _⟩ := stream_kept moved found
  have bound := (List.getElem?_eq_some_iff.mp found).1
  refine ⟨aligned.step moved, ⟨later, foundLater, sameKey⟩, ?_, ?_⟩
  · rcases emission_of_grown aligned found moved with same | ⟨event, emits, refers, grown⟩
    · rw [same]
      exact first.trans (List.prefix_append _ _)
    · rw [grown, emits, all refers]
      exact List.prefix_rfl
  · intro refersLater
    have refers := emitterOf_earlier aligned moved refersLater bound
    rw [← all refers]
    cases emits : action.emission stream.key with
    | some event => exact events_emission aligned moved emits refers
    | none =>
        rcases emission_of_grown aligned found moved with same | ⟨event, emits', _⟩
        · simp [same]
        · rw [emits] at emits'
          cases emits'

theorem Heard.run {emitted : List (String × π)} {steps : List (StreamStep π)}
    (heard : Heard key index emitted board)
    (ran : runSteps EventStreams.step board steps = some next) :
    Heard key index (emitted ++ steps.filterMap (StreamStep.emission key)) next := by
  induction steps generalizing board emitted with
  | nil =>
      cases ran
      simpa using heard
  | cons action steps ih =>
      rw [runSteps_cons, Option.bind_eq_some_iff] at ran
      obtain ⟨middle, moved, rest⟩ := ran
      have onwards := ih (heard.step moved) rest
      have emission : (action :: steps).filterMap (StreamStep.emission key) =
          (action.emission key).toList ++ steps.filterMap (StreamStep.emission key) := by
        cases emits : action.emission key <;> simp [emits]
      rwa [emission, ← List.append_assoc]

/-! ## All streams of a key -/

/-- What the stream of this number has received, if it belongs to the key. -/
def heardBy (board : EventStreams π) (key : String) (index : Nat) : List (String × π) :=
  if board.streams[index]?.map EventStream.key = some key then board.events index else []

/-- What the streams of the key have received, one stream after the other. -/
def heardOn (board : EventStreams π) (key : String) : List (String × π) :=
  (List.range board.streams.length).flatMap (board.heardBy key)

/-- A key refers to no stream but the newest of its own. -/
def Latest (board : EventStreams π) : Prop :=
  ∀ {key : String} {queue index : Nat}, board.registry.emitterOf key = some queue →
    queue < index → board.streams[index]?.map EventStream.key ≠ some key

theorem key_kept (moved : board.step action = some next) (bound : index < board.streams.length) :
    next.streams[index]?.map EventStream.key = board.streams[index]?.map EventStream.key := by
  have found := List.getElem?_eq_getElem bound
  obtain ⟨later, foundLater, sameKey, _⟩ := stream_kept moved found
  simp [found, foundLater, sameKey]

theorem length_step (moved : board.step action = some next) :
    (∃ key, action = .opens key ∧ next.streams.length = board.streams.length + 1) ∨
      (∀ key, action ≠ .opens key) ∧ next.streams.length = board.streams.length := by
  cases action with
  | opens key =>
      cases moved
      exact Or.inl ⟨key, rfl, by simp [opening]⟩
  | takes index =>
      obtain ⟨stream, _, took⟩ := Option.bind_eq_some_iff.mp moved
      obtain ⟨item, waiting, registry, _, rfl, ⟨_, rfl⟩ | ⟨event, _, rfl⟩⟩ :=
        taking_eq_some took <;> exact Or.inr ⟨by simp, by simp [closing]⟩
  | disconnects index =>
      obtain ⟨stream, _, rfl⟩ := Option.map_eq_some_iff.mp moved
      exact Or.inr ⟨by simp, by simp [closing]⟩
  | emits key event payload =>
      cases moved
      exact Or.inr ⟨by simp, rfl⟩
  | completes key =>
      cases moved
      exact Or.inr ⟨by simp, rfl⟩

theorem Latest.step (latest : board.Latest) (aligned : board.Aligned)
    (moved : board.step action = some next) : next.Latest := by
  intro key queue index refers later
  rcases length_step moved with ⟨opened, rfl, longer⟩ | ⟨notOpens, same⟩
  · cases moved
    simp only [opening, SseRegistry.emitterOf_register] at refers
    split at refers
    · cases refers
      have beyond : (board.opening opened).streams.length ≤ index := by
        have count := aligned.count
        omega
      simp [List.getElem?_eq_none beyond]
    · rename_i apart
      rcases Nat.lt_or_ge index board.streams.length with bound | beyond
      · simpa [opening, List.getElem?_append_left bound] using latest refers later
      · rcases Nat.eq_or_lt_of_le beyond with rfl | beyond
        · simpa [opening] using Ne.symm apart
        · have past : (board.opening opened).streams.length ≤ index := by omega
          simp [List.getElem?_eq_none past]
  · rcases Nat.lt_or_ge index board.streams.length with bound | beyond
    · rw [key_kept moved bound]
      exact latest (emitterOf_earlier aligned moved refers (by omega)) later
    · simp [List.getElem?_eq_none (same ▸ beyond)]

/-- The stream of a key receives the event that a step emits on it, if the key refers to
the stream, and nothing otherwise. -/
theorem heardBy_step (aligned : board.Aligned) (moved : board.step action = some next)
    (bound : index < board.streams.length) :
    next.heardBy key index = board.heardBy key index ∧
        (board.registry.emitterOf key = some index → action.emission key = none) ∨
      ∃ event, action.emission key = some event ∧
        board.registry.emitterOf key = some index ∧
          next.heardBy key index = board.heardBy key index ++ [event] := by
  have found := List.getElem?_eq_getElem bound
  unfold heardBy
  rw [key_kept moved bound, found]
  simp only [Option.map_some, Option.some.injEq]
  split
  · rename_i own
    subst own
    rcases emission_of_grown aligned found moved with same | grown
    · refine Or.inl ⟨same, fun refers => ?_⟩
      by_contra emits
      obtain ⟨event, emission⟩ := Option.ne_none_iff_exists'.mp emits
      have longer := events_emission aligned moved emission refers
      simp [same] at longer
    · exact Or.inr grown
  · rename_i other
    refine Or.inl ⟨rfl, fun refers => ?_⟩
    obtain ⟨owner, ownerFound, ownerKey⟩ := aligned.ownStream refers
    rw [found] at ownerFound
    cases ownerFound
    exact absurd ownerKey other

theorem heardBy_opening (aligned : board.Aligned) (opened : String) :
    (board.opening opened).heardBy key board.streams.length = [] := by
  unfold heardBy
  split
  · have nothing : (board.opening opened).events board.streams.length <+: [] :=
      (heard_opening aligned opened).first
    exact List.prefix_nil.mp nothing
  · rfl

/-- A step lets the streams of a key receive the event that it emits on the key, or
nothing. -/
theorem heardOn_step (aligned : board.Aligned) (latest : board.Latest)
    (moved : board.step action = some next) :
    next.heardOn key = board.heardOn key ∨
      ∃ event, action.emission key = some event ∧
        next.heardOn key = board.heardOn key ++ [event] := by
  have alone : ∀ {count : Nat}, count ≤ board.streams.length →
      (∀ index < count, board.registry.emitterOf key = some index →
        action.emission key = none) →
      (List.range count).flatMap (next.heardBy key) =
        (List.range count).flatMap (board.heardBy key) := by
    intro count bounded silent
    apply List.flatMap_congr
    intro index within
    have below := List.mem_range.mp within
    have bound : index < board.streams.length := by omega
    rcases heardBy_step aligned moved bound with ⟨same, _⟩ | ⟨event, emits, refers, _⟩
    · exact same
    · rw [silent index below refers] at emits
      cases emits
  unfold heardOn
  rcases length_step moved with ⟨opened, rfl, longer⟩ | ⟨_, same⟩
  · left
    rw [longer, List.range_succ, List.flatMap_append, alone le_rfl fun _ _ _ => rfl]
    cases moved
    simp [heardBy_opening aligned]
  · rw [same]
    cases emits : action.emission key with
    | none => exact Or.inl (alone le_rfl fun _ _ _ => emits)
    | some event =>
        cases refers : board.registry.emitterOf key with
        | none => exact Or.inl (alone le_rfl fun _ _ other => by simp [refers] at other)
        | some queue =>
            -- The streams after the one that the key refers to belong to other keys.
            have bound := emitterOf_bound aligned refers
            obtain ⟨rest, total⟩ := Nat.exists_eq_add_of_lt bound
            have silent : ∀ state : EventStreams π,
                (∀ index, queue < index → state.streams[index]?.map EventStream.key ≠ some key) →
                ((List.range rest).map (queue + 1 + ·)).flatMap (state.heardBy key) = [] := by
              intro state others
              simp only [List.flatMap_eq_nil_iff, List.mem_map]
              rintro _ ⟨offset, _, rfl⟩
              exact if_neg (others _ (by omega))
            right
            refine ⟨event, rfl, ?_⟩
            have refersLater : next.registry.emitterOf key = some queue := by
              obtain rfl := emission_eq_some.mp emits
              cases moved
              simp [SseRegistry.emit_eq, refers]
            have received : next.heardBy key queue = board.heardBy key queue ++ [event] := by
              rcases heardBy_step aligned moved bound with ⟨_, none⟩ | ⟨other, emits', _, grown⟩
              · rw [none refers] at emits
                cases emits
              · rw [emits] at emits'
                cases emits'
                exact grown
            have before : (List.range queue).flatMap (next.heardBy key) =
                (List.range queue).flatMap (board.heardBy key) := by
              apply alone (by omega)
              intro index below other
              rw [refers] at other
              cases other
              omega
            rw [total, Nat.add_right_comm, List.range_add, List.range_succ]
            simp only [List.flatMap_append, List.flatMap_singleton]
            rw [silent board fun index later => latest refers later,
              silent next fun index later => latest.step aligned moved refersLater later,
              before, received]
            simp

/-- No event is received twice, whichever streams of its key are opened and closed, and
none before an earlier one. -/
theorem heardOn_of_run {steps : List (StreamStep π)} (aligned : board.Aligned)
    (latest : board.Latest) (ran : runSteps EventStreams.step board steps = some next) :
    ∃ heard, next.heardOn key = board.heardOn key ++ heard ∧
      heard.Sublist (steps.filterMap (StreamStep.emission key)) := by
  induction steps generalizing board with
  | nil =>
      cases ran
      exact ⟨[], by simp, List.nil_sublist _⟩
  | cons action steps ih =>
      rw [runSteps_cons, Option.bind_eq_some_iff] at ran
      obtain ⟨middle, moved, rest⟩ := ran
      obtain ⟨heard, grown, within⟩ := ih (aligned.step moved) (latest.step aligned moved) rest
      rcases heardOn_step aligned latest moved with same | ⟨event, emits, received⟩
      · refine ⟨heard, by rw [grown, same], within.trans ?_⟩
        cases emits : action.emission key with
        | none => simp [emits]
        | some event => simp [emits]
      · refine ⟨event :: heard, by rw [grown, received]; simp, ?_⟩
        simpa [emits] using within

/-- What a stream has received stays received. -/
theorem events_kept {steps : List (StreamStep π)} (aligned : board.Aligned)
    (ran : runSteps EventStreams.step board steps = some next) (index : Nat) :
    board.events index <+: next.events index := by
  induction steps generalizing board with
  | nil =>
      cases ran
      exact List.prefix_rfl
  | cons action steps ih =>
      rw [runSteps_cons, Option.bind_eq_some_iff] at ran
      obtain ⟨middle, moved, rest⟩ := ran
      have onwards := ih (aligned.step moved) rest
      rcases events_step aligned moved index with same | ⟨_, _, _, _, _, grown⟩
      · rwa [same] at onwards
      · rw [grown] at onwards
        exact (List.prefix_append _ _).trans onwards

/-- A stream to which its key does not refer any more receives nothing more. -/
theorem events_frozen {stream : EventStream π} {steps : List (StreamStep π)}
    (aligned : board.Aligned) (found : board.streams[index]? = some stream)
    (past : board.registry.emitterOf stream.key ≠ some index)
    (ran : runSteps EventStreams.step board steps = some next) :
    next.events index = board.events index := by
  induction steps generalizing board stream with
  | nil =>
      cases ran
      rfl
  | cons action steps ih =>
      rw [runSteps_cons, Option.bind_eq_some_iff] at ran
      obtain ⟨middle, moved, rest⟩ := ran
      have bound := (List.getElem?_eq_some_iff.mp found).1
      obtain ⟨later, foundLater, sameKey, _⟩ := stream_kept moved found
      have pastLater : middle.registry.emitterOf later.key ≠ some index := by
        rw [sameKey]
        exact fun refers => past (emitterOf_earlier aligned moved refers bound)
      rw [ih (aligned.step moved) foundLater pastLater rest]
      rcases emission_of_grown aligned found moved with same | ⟨_, _, refers, _⟩
      · exact same
      · exact absurd refers past

end EventStreams

/-! ## The streams of the process -/

section Process

open EventStreams

variable {P : Platform} {W : Wiring} {start : Deployment}
variable {events : List DeploymentEvent} {pool : DeploymentPool}

/-- Take any stream of the process in any state that is reached: what it has yielded, and
what waits for it after that, are the first of the events emitted on its key since it
opened; they are all of these events while the key refers to the stream, and once it does
not, nothing is added any more.  And all the streams of a key together, one after the
other, have received events emitted on the key in the order of their emission, each event
once at most. -/
theorem streams_in_order (fresh : start.board = EventStreams.empty)
    (ran : Deployment.run P W (Pool.start start) events = some pool) :
    (∀ index stream, pool.world.state.board.streams[index]? = some stream →
      ∃ before after opened,
        Deployment.streamMoves P W (Pool.start start) events =
            before ++ .opens stream.key :: after ∧
          runSteps EventStreams.step EventStreams.empty before = some opened ∧
          opened.streams.length = index ∧
          stream.delivered <+: pool.world.state.board.events index ∧
          pool.world.state.board.events index <+:
            after.filterMap (StreamStep.emission stream.key) ∧
          (pool.world.state.board.registry.emitterOf stream.key = some index →
            pool.world.state.board.events index =
              after.filterMap (StreamStep.emission stream.key)) ∧
          (pool.world.state.board.registry.emitterOf stream.key ≠ some index →
            ∀ more later, Deployment.run P W pool more = some later →
              later.world.state.board.events index = pool.world.state.board.events index)) ∧
      ∀ key, (pool.world.state.board.heardOn key).Sublist
        ((Deployment.streamMoves P W (Pool.start start) events).filterMap
          (StreamStep.emission key)) := by
  have board := board_of_run ran
  change runSteps _ start.board _ = _ at board
  rw [fresh] at board
  have aligned := aligned_of_run board
  constructor
  · intro index stream found
    obtain ⟨before, after, opened, split, ranBefore, rfl⟩ := opened_of_run board found
    have heard := heard_opening (aligned_of_run ranBefore) stream.key
    rw [split, runSteps_append, ranBefore, Option.bind_some, runSteps_cons] at board
    obtain ⟨_, _, first, all⟩ := heard.run board
    rw [List.nil_append] at first all
    refine ⟨before, after, opened, split, ranBefore, rfl, ?_, first, all, ?_⟩
    · rw [events_eq aligned found]
      exact List.prefix_append _ _
    · intro past more later ranLater
      exact events_frozen aligned found past (board_of_run ranLater)
  · intro key
    have latest : (EventStreams.empty : EventStreams Payload).Latest := by
      intro other queue index refers
      obtain ⟨_, found, _⟩ := aligned_empty.ownStream refers
      cases found
    obtain ⟨heard, grown, within⟩ := heardOn_of_run aligned_empty latest board
    rw [grown]
    exact within

end Process

namespace SmallCity

/-- Ann tracks her ride in a second window and closes the first one. -/
def annTracksAgain : List DeploymentEvent :=
  [.spawn (.inl (.goOnline "u4" centre centre))] ++ moves 0 5 ++
  [.spawn (.inl (wants "r1" "u1"))] ++ moves 1 8 ++
  [.spawn (.inl (.acceptRide "r1" "u4"))] ++ moves 2 9 ++
  [.spawn (.inr (.streamDriverLocation "r1" "u1"))] ++ moves 3 2 ++
  [.spawn (.inl (.updateLocation "u4" centre centre))] ++ moves 4 4 ++
  [.spawn (.inr (.streamDriverLocation "r1" "u1"))] ++ moves 5 2 ++
  [.spawn (.inl (.updateLocation "u4" centre centre))] ++ moves 6 4

/-- The first window has received the first of the positions, the second the other. -/
theorem annTracksAgain_in_order :
    ∃ pool, playAll annTracksAgain = some pool ∧
      (pool.world.state.board.events 0).length = 1 ∧
      (pool.world.state.board.events 1).length = 1 ∧
      ((Deployment.streamMoves platform wiring (Pool.start (Deployment.opening store))
        annTracksAgain).filterMap (StreamStep.emission "r1")).length = 2 ∧
      (pool.world.state.board.heardOn "r1").Sublist
        ((Deployment.streamMoves platform wiring (Pool.start (Deployment.opening store))
          annTracksAgain).filterMap (StreamStep.emission "r1")) := by
  obtain ⟨pool, played, checked⟩ := Option.map_eq_some_iff.mp
    (by decide +kernel : (playAll annTracksAgain).map (fun pool =>
      decide ((pool.world.state.board.events 0).length = 1 ∧
        (pool.world.state.board.events 1).length = 1 ∧
        ((Deployment.streamMoves platform wiring (Pool.start (Deployment.opening store))
          annTracksAgain).filterMap (StreamStep.emission "r1")).length = 2)) = some true)
  obtain ⟨first, second, emitted⟩ := of_decide_eq_true checked
  exact ⟨pool, played, first, second, emitted, (streams_in_order rfl played).2 "r1"⟩

end SmallCity

end RideHailing
