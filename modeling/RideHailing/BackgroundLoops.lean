import RideHailing.Deployment
import RideHailing.ProgramTraces

/-!
# The loops behind the background tasks

The consumer's loop guards each handler, but decodes the record's value outside the
guard.  The retry loop guards nothing.  So a value that is no UTF-8 text ends the
first loop, and any failing query or publish ends the second, together with the rest
of its pass.
-/

namespace RideHailing

open Background AwaitProgram

/-! ## `kafka_consumer.py` -/

/-- The two attributes of a record that the loop reads. -/
structure ConsumerRecord where
  topic : Topic
  value : Option ByteArray

/-- `value.decode("utf-8")`; a tombstone has no value. -/
def decodeValue : Option ByteArray → Except String String
  | none => .error "AttributeError"
  | some bytes =>
      match String.fromUTF8? bytes with
      | none => .error "UnicodeDecodeError"
      | some text => .ok text

/-- `_consume_loop`, until it waits for the record after these. -/
def consumeLoop (handle : Topic → String → Background Unit)
    (records : List ConsumerRecord) : Background Unit :=
  forEach records fun record => do
    let rideId ← compute (decodeValue record.value)
    -- `_HANDLERS` has an entry for every topic that the consumer has subscribed to.
    Action.attempt (handle record.topic rideId)

/-! ## `stale_ride_retry.py` -/

/-- `_retry_loop`, until it sleeps after these passes. -/
def retryLoop (passes : List Timestamp) : Background Unit :=
  forEach passes retryOnce

/-! ## What the loops should do -/

abbrev BackgroundTrace : Type :=
  List (Action.Exchange DeploymentValue Fault)

/-- Every record whose value is UTF-8 text has gone to the handler of its topic, one
record after the other. -/
inductive Handled (handle : Topic → String → Background Unit) :
    List ConsumerRecord → BackgroundTrace → Prop where
  | nil : Handled handle [] []
  | skipped {record : ConsumerRecord} {name : String} {records : List ConsumerRecord}
      {later : BackgroundTrace} (undecoded : decodeValue record.value = .error name)
      (rest : Handled handle records later) : Handled handle (record :: records) later
  | handled {record : ConsumerRecord} {rideId : String} {ending : Except Failure Unit}
      {records : List ConsumerRecord} {first later : BackgroundTrace}
      (decoded : decodeValue record.value = .ok rideId)
      (played : Plays (handle record.topic rideId) first ending)
      (rest : Handled handle records later) :
      Handled handle (record :: records) (first ++ later)

/-- The value is UTF-8 text. -/
def ConsumerRecord.IsText (record : ConsumerRecord) : Prop :=
  ∃ rideId, decodeValue record.value = .ok rideId

/-- The query for the rides that are stale at this moment. -/
def staleQuery (now : Timestamp) : DeploymentCall :=
  .inr (.rideFindByStatusAndRequestedAtBefore .requested (now - retryCutoff))

/-- Each of the rides has been published again, or its own publish has failed. -/
def Republished (stale : List Ride) (trace : BackgroundTrace) : Prop :=
  trace.map Sigma.fst = stale.map fun ride => .inl (.publish .rideRequested ride.id)

/-- Every pass has looked for stale rides and, if it could, published all it found. -/
inductive Retried : List Timestamp → BackgroundTrace → Prop where
  | nil : Retried [] []
  | failed {now : Timestamp} {fault : Fault} {passes : List Timestamp}
      {later : BackgroundTrace} (rest : Retried passes later) :
      Retried (now :: passes) (⟨staleQuery now, .error fault⟩ :: later)
  | found {now : Timestamp} {stale : List Ride} {passes : List Timestamp}
      {published later : BackgroundTrace} (republished : Republished stale published)
      (rest : Retried passes later) :
      Retried (now :: passes) (⟨staleQuery now, .ok stale⟩ :: published ++ later)

/-! ## What they do -/

section Loops

variable {α : Type} {item : α} {items : List α} {body : α → Background Unit}
variable {trace : BackgroundTrace} {outcome : Except Failure Unit}

theorem plays_forEach_nil :
    Plays (forEach [] body) trace outcome ↔ trace = [] ∧ outcome = .ok () :=
  Action.plays_pure

/-- A loop ends with the exception that an iteration lets through. -/
theorem plays_forEach_cons :
    Plays (forEach (item :: items) body) trace outcome ↔
      (∃ exception, Plays (body item) trace (.error exception) ∧
          outcome = .error exception) ∨
        ∃ first later, trace = first ++ later ∧ Plays (body item) first (.ok ()) ∧
          Plays (forEach items body) later outcome := by
  rw [forEach, Action.plays_andThen]
  apply or_congr_right
  constructor
  · rintro ⟨first, later, _, split, played, rest⟩
    exact ⟨first, later, split, played, rest⟩
  · rintro ⟨first, later, split, played, rest⟩
    exact ⟨first, later, (), split, played, rest⟩

end Loops

section Consumer

variable {handle : Topic → String → Background Unit} {record : ConsumerRecord}
variable {records : List ConsumerRecord} {trace : BackgroundTrace}
variable {outcome : Except Failure Unit}

/-- A record that is no text raises, any other goes to its handler, which may raise. -/
theorem plays_record :
    Plays (do
      let rideId ← compute (decodeValue record.value)
      Action.attempt (handle record.topic rideId) : Background Unit) trace outcome ↔
      (∃ name, decodeValue record.value = .error name ∧ trace = [] ∧
          outcome = .error (.exception name)) ∨
        ∃ rideId ending, decodeValue record.value = .ok rideId ∧ outcome = .ok () ∧
          Plays (handle record.topic rideId) trace ending := by
  cases decoded : decodeValue record.value with
  | error name =>
      change Plays (Action.raise (.exception name) >>= _ : Background Unit) trace outcome ↔ _
      rw [Action.plays_andThen]
      simp [Action.plays_raise]
  | ok rideId =>
      change Plays (Action.attempt (handle record.topic rideId)) trace outcome ↔ _
      rw [Action.plays_attempt]
      simp

/-- The consumer goes on after text only. -/
theorem texts_of_consumed (played : Plays (consumeLoop handle records) trace (.ok ())) :
    ∀ record ∈ records, record.IsText := by
  induction records generalizing trace with
  | nil => simp
  | cons record records ih =>
      rcases plays_forEach_cons.mp played with ⟨exception, _, ended⟩ |
        ⟨first, later, _, returned, rest⟩
      · cases ended
      · rw [List.forall_mem_cons]
        refine ⟨?_, ih rest⟩
        rcases plays_record.mp returned with ⟨_, _, _, ended⟩ | ⟨rideId, _, decoded, _, _⟩
        · cases ended
        · exact ⟨rideId, decoded⟩

/-- Over text the consumer goes on, whatever its handlers do. -/
theorem consumed_of_texts (texts : ∀ record ∈ records, record.IsText)
    (played : Plays (consumeLoop handle records) trace outcome) :
    outcome = .ok () ∧ Handled handle records trace := by
  induction records generalizing trace with
  | nil =>
      obtain ⟨rfl, rfl⟩ := plays_forEach_nil.mp played
      exact ⟨rfl, .nil⟩
  | cons record records ih =>
      rw [List.forall_mem_cons] at texts
      obtain ⟨⟨text, decoded⟩, textsLater⟩ := texts
      rcases plays_forEach_cons.mp played with ⟨exception, raised, _⟩ |
        ⟨first, later, rfl, returned, rest⟩
      · rcases plays_record.mp raised with ⟨name, undecoded, _, _⟩ | ⟨_, _, _, ended, _⟩
        · rw [decoded] at undecoded
          cases undecoded
        · cases ended
      · rcases plays_record.mp returned with ⟨_, _, _, ended⟩ |
          ⟨rideId, ending, decodedSo, _, playedHandler⟩
        · cases ended
        · obtain ⟨rfl, handled⟩ := ih textsLater rest
          exact ⟨rfl, .handled decodedSo playedHandler handled⟩

/-- The consumer waits for another record, with all the ones before handled, exactly
when all of them were text. -/
theorem consumed_iff (played : Plays (consumeLoop handle records) trace outcome) :
    (outcome = .ok () ∧ Handled handle records trace) ↔
      ∀ record ∈ records, record.IsText := by
  constructor
  · rintro ⟨rfl, _⟩
    exact texts_of_consumed played
  · intro texts
    exact consumed_of_texts texts played

end Consumer

section Retry

variable {now : Timestamp} {passes : List Timestamp} {stale : List Ride}
variable {trace : BackgroundTrace} {outcome : Except Failure Unit}

/-- One call goes on if it succeeds, and otherwise raises. -/
theorem plays_call {awaited : DeploymentCall}
    {ending : Except Failure (DeploymentValue awaited)} :
    Plays (call awaited) trace ending ↔
      (∃ value, trace = [⟨awaited, .ok value⟩] ∧ ending = .ok value) ∨
        ∃ fault, trace = [⟨awaited, .error fault⟩] ∧ ending = .error (.fault fault) := by
  rw [call, Action.plays_perform]
  constructor
  · rintro ⟨reply, traced, rfl⟩
    cases reply with
    | ok value => exact Or.inl ⟨value, traced, rfl⟩
    | error fault => exact Or.inr ⟨fault, traced, rfl⟩
  · rintro (⟨value, traced, rfl⟩ | ⟨fault, traced, rfl⟩)
    · exact ⟨.ok value, traced, rfl⟩
    · exact ⟨.error fault, traced, rfl⟩

/-- The loop over the stale rides ends at the first publish that fails. -/
theorem published_of_plays
    (played : Plays (forEach stale fun ride =>
      call (.inl (.publish .rideRequested ride.id))) trace outcome) :
    (outcome = .ok () ↔ ∀ exchange ∈ trace, exchange.failed = false) ∧
      (outcome = .ok () → Republished stale trace) := by
  induction stale generalizing trace with
  | nil =>
      obtain ⟨rfl, rfl⟩ := plays_forEach_nil.mp played
      simp [Republished]
  | cons ride stale ih =>
      rcases plays_forEach_cons.mp played with ⟨exception, raised, rfl⟩ |
        ⟨first, later, rfl, returned, rest⟩
      · rcases plays_call.mp raised with ⟨_, _, ended⟩ | ⟨fault, rfl, _⟩
        · cases ended
        · simp
      · rcases plays_call.mp returned with ⟨_, rfl, _⟩ | ⟨_, _, ended⟩
        · obtain ⟨goesOn, republished⟩ := ih rest
          refine ⟨?_, ?_⟩
          · rw [goesOn]
            simp
          · intro returned
            simpa [Republished] using republished returned
        · cases ended

/-- A pass ends at its first failing call. -/
theorem retryOnce_plays (played : Plays (retryOnce now) trace outcome) :
    (outcome = .ok () ↔ ∀ exchange ∈ trace, exchange.failed = false) ∧
      (outcome = .ok () → ∃ stale published,
        trace = ⟨staleQuery now, .ok stale⟩ :: published ∧ Republished stale published) := by
  rw [retryOnce, Action.plays_andThen] at played
  rcases played with ⟨exception, raised, rfl⟩ | ⟨first, later, stale, rfl, returned, rest⟩
  · rcases plays_call.mp raised with ⟨_, _, ended⟩ | ⟨fault, rfl, _⟩
    · cases ended
    · simp
  · rcases plays_call.mp returned with ⟨found, rfl, ended⟩ | ⟨_, _, ended⟩
    · cases ended
      obtain ⟨goesOn, republished⟩ := published_of_plays rest
      refine ⟨?_, ?_⟩
      · rw [goesOn]
        simp
      · intro ended
        exact ⟨stale, later, rfl, republished ended⟩
    · cases ended

/-- The retry loop sleeps again, with every pass made, exactly when no query and no
publish has failed. -/
theorem retried_iff (played : Plays (retryLoop passes) trace outcome) :
    (outcome = .ok () ∧ Retried passes trace) ↔
      ∀ exchange ∈ trace, exchange.failed = false := by
  have goesOn : (outcome = .ok () ↔ ∀ exchange ∈ trace, exchange.failed = false) ∧
      (outcome = .ok () → Retried passes trace) := by
    induction passes generalizing trace with
    | nil =>
        obtain ⟨rfl, rfl⟩ := plays_forEach_nil.mp played
        simp [Retried.nil]
    | cons now passes ih =>
        rcases plays_forEach_cons.mp played with ⟨exception, raised, rfl⟩ |
          ⟨first, later, rfl, returned, rest⟩
        · have failing := (retryOnce_plays raised).1
          refine ⟨?_, fun ended => by cases ended⟩
          rw [← failing]
        · obtain ⟨succeeds, passed⟩ := retryOnce_plays returned
          obtain ⟨stale, published, rfl, republished⟩ := passed rfl
          obtain ⟨laterGoesOn, retried⟩ := ih rest
          constructor
          · rw [laterGoesOn]
            have firstSucceeds := succeeds.mp rfl
            simp only [List.forall_mem_append]
            exact ⟨fun laterSucceeds => ⟨firstSucceeds, laterSucceeds⟩, And.right⟩
          · intro ended
            exact .found republished (retried ended)
  rw [← goesOn.1]
  exact ⟨And.left, fun ended => ⟨ended, goesOn.2 ended⟩⟩

end Retry

/-- Both loops isolate faults exactly where there are none for them to isolate: the
consumer goes on, with every text handled, when all records are text, whatever the
handlers do; the retry job goes on, with every stale ride published again, when no
query and no publish fails. -/
theorem loops_isolate_iff {handle : Topic → String → Background Unit}
    {records : List ConsumerRecord} {passes : List Timestamp}
    {consumerTrace retryTrace : BackgroundTrace}
    {consumerOutcome retryOutcome : Except Failure Unit}
    (consumed : Plays (consumeLoop handle records) consumerTrace consumerOutcome)
    (retried : Plays (retryLoop passes) retryTrace retryOutcome) :
    ((consumerOutcome = .ok () ∧ Handled handle records consumerTrace) ↔
        ∀ record ∈ records, record.IsText) ∧
      ((retryOutcome = .ok () ∧ Retried passes retryTrace) ↔
        ∀ exchange ∈ retryTrace, exchange.failed = false) :=
  ⟨consumed_iff consumed, retried_iff retried⟩

namespace SmallCity

/-- A tombstone comes before the record of a ride. -/
def tombstoneFirst : List ConsumerRecord :=
  [⟨.rideRequested, none⟩, ⟨.rideRequested, some "r1".toUTF8⟩]

/-- A ride that was requested at the epoch. -/
def staleRide (rideId : String) : Ride :=
  { riderId := "u1", pickupLat := centre, pickupLng := centre, dropoffLat := centre,
    dropoffLng := centre, id := rideId, requestedAt := 0 }

/-- Five minutes later two rides are stale, and the publish of the first one fails. -/
def firstPublishFails : BackgroundTrace :=
  [⟨staleQuery 300000000, .ok [staleRide "r1", staleRide "r2"]⟩,
    ⟨.inl (.publish .rideRequested "r1"), .error .outage⟩]

/-- The second record is never handled, and the second ride is not published. -/
theorem faults_end_loops :
    (∃ failure, Plays (consumeLoop (handlers platform wiring) tombstoneFirst) []
        (.error failure) ∧
      ¬ Handled (handlers platform wiring) tombstoneFirst []) ∧
    ∃ failure, Plays (retryLoop [300000000]) firstPublishFails (.error failure) ∧
      ¬ Retried [300000000] firstPublishFails := by
  refine ⟨⟨.exception "AttributeError", .done _, ?_⟩, .fault .outage,
    .await (.await (.done _)), ?_⟩
  · generalize traceEq : ([] : BackgroundTrace) = trace
    intro handled
    have decoded : decodeValue (some "r1".toUTF8) = .ok "r1" := by decide
    cases handled with
    | handled tombstone _ _ => cases tombstone
    | skipped _ rest =>
        cases rest with
        | skipped undecoded _ =>
            rw [decoded] at undecoded
            cases undecoded
        | handled _ played _ =>
            obtain ⟨rfl, _⟩ := List.append_eq_nil_iff.mp traceEq.symm
            cases played
  · generalize traceEq : firstPublishFails = trace
    intro retried
    cases retried with
    | failed _ => cases traceEq
    | @found _ stale _ published later republished rest =>
        cases rest
        rw [List.append_nil] at traceEq
        cases traceEq
        cases republished

/-- One ride was requested, the other one is cancelled. -/
def twoRecords : List ConsumerRecord :=
  [⟨.rideRequested, some "r1".toUTF8⟩, ⟨.rideCancelled, some "r2".toUTF8⟩]

/-- The handler of the first record fails at its first call, the one of the second record
completes the ride's stream. -/
def firstHandlerFails : BackgroundTrace :=
  [⟨.inl (.rideFindById "r1"), .error .outage⟩,
    ⟨.inl (.rideFindById "r2"), .ok (some (staleRide "r2"))⟩,
    ⟨.inl (.sseComplete "r2"), .ok ()⟩]

/-- A pass finds two stale rides and publishes both. -/
def bothPublished : BackgroundTrace :=
  [⟨staleQuery 300000000, .ok [staleRide "r1", staleRide "r2"]⟩,
    ⟨.inl (.publish .rideRequested "r1"), .ok ()⟩,
    ⟨.inl (.publish .rideRequested "r2"), .ok ()⟩]

theorem failingHandler_isolated :
    Handled (handlers platform wiring) twoRecords firstHandlerFails ∧
      Retried [300000000] bothPublished := by
  have texts : ∀ record ∈ twoRecords, record.IsText := by
    simp only [twoRecords, List.forall_mem_cons]
    exact ⟨⟨"r1", by decide⟩, ⟨"r2", by decide⟩, by simp⟩
  have consumed : Plays (consumeLoop (handlers platform wiring) twoRecords) firstHandlerFails
      (.ok ()) :=
    .await (.await (.await (.done _)))
  have retried : Plays (retryLoop [300000000]) bothPublished (.ok ()) :=
    .await (.await (.await (.done _)))
  obtain ⟨consumer, retry⟩ := loops_isolate_iff consumed retried
  exact ⟨(consumer.mpr texts).2, (retry.mpr (by decide)).2⟩

end SmallCity

end RideHailing
