import RideHailing.Application
import RideHailing.CallMonitors
import RideHailing.SoloTriples

/-!
# The producers of the event loops

`kafka_producer.py` keeps a producer for each event loop.  A call of `get_producer` looks for
it, and if there is none it creates one, awaits `start()` and puts it into the map; other calls
run in the meantime.  `dispose` takes the producer out of the map and awaits its `stop()`.
-/

namespace RideHailing

namespace Kafka

def rideRequestedTopic : String := "ride-requested"
def rideAcceptedTopic : String := "ride-accepted"
def rideCompletedTopic : String := "ride-completed"
def rideCancelledTopic : String := "ride-cancelled"

/-- A producer, by the call that has created it. -/
structure Producer where
  creator : Nat
  loop : Nat
  bootstrapServers : String
deriving DecidableEq, Repr

/-- What a coroutine does up to its next suspension: look for the producer of the loop, or put
the producer there once it has started; a message is acknowledged; take the producer of the
loop out of the map; a producer has stopped. -/
inductive ProducerCall where
  | lookUp (loop : Nat)
  | start (loop : Nat) (bootstrapServers : String)
  | send (producer : Producer) (topic value : String)
  | pop (loop : Nat)
  | stop (producer : Producer)
deriving DecidableEq, Repr

@[reducible]
def ProducerValue : ProducerCall → Type
  | .lookUp _ => String × Option Producer
  | .start _ _ => Producer
  | .send _ _ _ => Unit
  | .pop _ => Option Producer
  | .stop _ => Unit

/-- The globals of the module and the messages that the broker has. -/
structure Producers where
  bootstrapServers : Option String
  producers : KeyedTable Producer.loop
  sent : List (String × String)

namespace Producers

/-- Before anything has been published. -/
def opening : Producers :=
  ⟨none, KeyedTable.empty, []⟩

/-- The bootstrap servers are those of the settings unless others have been configured. -/
def perform (settings : String) (pid : Nat) : (call : ProducerCall) → Producers →
    Option (Except Fault (ProducerValue call) × Producers)
  | .lookUp loop, s =>
      let bootstrapServers := s.bootstrapServers.getD settings
      some (.ok (bootstrapServers, s.producers.find loop),
        { s with bootstrapServers := some bootstrapServers })
  | .start loop bootstrapServers, s =>
      let producer : Producer := ⟨pid, loop, bootstrapServers⟩
      some (.ok producer, { s with producers := s.producers.save producer })
  | .send _ topic value, s => some (.ok (), { s with sent := s.sent ++ [(topic, value)] })
  | .pop loop, s =>
      some (.ok (s.producers.find loop), { s with producers := s.producers.erase loop })
  | .stop _, s => some (.ok (), s)

end Producers

/-- Where the broker is spoken to the call may fail. -/
def breakable : ProducerCall → Fault → Bool
  | .lookUp _, _ => false
  | .pop _, _ => false
  | _, fault => decide (fault = .outage)

abbrev ProducerService : Type → Type :=
  Action ProducerCall ProducerValue Fault Failure

def command (call : ProducerCall) : ProducerService (ProducerValue call) :=
  Action.perform Failure.fault call

def getProducer (loop : Nat) : ProducerService Producer := do
  let (bootstrapServers, producer) ← command (.lookUp loop)
  match producer with
  | some producer => return producer
  | none => command (.start loop bootstrapServers)

def dispose (loop : Nat) : ProducerService Unit := do
  match ← command (.pop loop) with
  | none => return ()
  | some producer => command (.stop producer)

/-- The four `publish_ride_*` differ in their topic. -/
def publish (loop : Nat) (topic rideId : String) : ProducerService Unit := do
  let producer ← getProducer loop
  command (.send producer topic rideId)

def publishRideRequested (loop : Nat) (rideId : String) : ProducerService Unit :=
  publish loop rideRequestedTopic rideId

def publishRideAccepted (loop : Nat) (rideId : String) : ProducerService Unit :=
  publish loop rideAcceptedTopic rideId

def publishRideCompleted (loop : Nat) (rideId : String) : ProducerService Unit :=
  publish loop rideCompletedTopic rideId

def publishRideCancelled (loop : Nat) (rideId : String) : ProducerService Unit :=
  publish loop rideCancelledTopic rideId

/-- A coroutine of the module on its event loop. -/
inductive ProducerTask where
  | getProducer (loop : Nat)
  | publish (loop : Nat) (topic : Topic) (rideId : String)
  | dispose (loop : Nat)
deriving DecidableEq, Repr

def ProducerTask.program : ProducerTask → ProducerService (Option Producer)
  | .getProducer loop => do return some (← Kafka.getProducer loop)
  | .publish loop .rideRequested rideId => do publishRideRequested loop rideId; return none
  | .publish loop .rideAccepted rideId => do publishRideAccepted loop rideId; return none
  | .publish loop .rideCompleted rideId => do publishRideCompleted loop rideId; return none
  | .publish loop .rideCancelled rideId => do publishRideCancelled loop rideId; return none
  | .dispose loop => do Kafka.dispose loop; return none

/-- Any number of coroutines on any event loops. -/
def producers (settings : String) : Machine ProducerValue Fault Producers ProducerTask
    (Except Failure (Option Producer)) Unit Empty where
  program := ProducerTask.program
  perform := Producers.perform settings
  breakable := breakable
  draws := fun _ => []
  unused := fun _ _ => true
  ambient := fun change _ => change.elim

abbrev ProducerPool :=
  Pool ProducerValue Fault Producers ProducerTask (Except Failure (Option Producer))

abbrev ProducerEvent := Event Fault ProducerTask Empty

abbrev ProducerEntry := RideHailing.Entry ProducerValue Fault ProducerTask

/-! ## Starts and stops -/

/-- The producers started on the loop since its producer was last taken out of the map, the
newest first. -/
def startedSince (loop : Nat) : List ProducerEntry → List Producer
  | [] => []
  | ⟨_, _, .start _ _, .ok producer⟩ :: older =>
      if producer.loop = loop then producer :: startedSince loop older
      else startedSince loop older
  | ⟨_, _, .pop disposed, .ok _⟩ :: older =>
      if disposed = loop then [] else startedSince loop older
  | _ :: older => startedSince loop older

def startedBy : ProducerEntry → Option Producer
  | ⟨_, _, .start _ _, .ok producer⟩ => some producer
  | _ => none

def poppedBy : ProducerEntry → Option (Nat × Option Producer)
  | ⟨_, _, .pop loop, .ok taken⟩ => some (loop, taken)
  | _ => none

def stoppedBy : ProducerEntry → Option Producer
  | ⟨_, _, .stop producer, .ok _⟩ => some producer
  | _ => none

/-- All producers ever started on the loop. -/
def startedOn (loop : Nat) (log : List ProducerEntry) : List Producer :=
  (log.filterMap startedBy).filter fun producer => decide (producer.loop = loop)

def stopped (log : List ProducerEntry) : List Producer :=
  log.filterMap stoppedBy

/-- The coroutine has returned. -/
def Returned (pool : ProducerPool) (pid : Nat) : Prop :=
  ∃ task value, pool.ended? pid = some (task, .ok value)

/-- A coroutine that disposes of the loop takes this producer out of the map, or none. -/
def disposal (pid loop : Nat) (taken : Option Producer) : ProducerEntry :=
  ⟨pid, .dispose loop, .pop loop, .ok taken⟩

theorem disposal_inj {pid other loop : Nat} {taken given : Option Producer}
    (same : disposal pid loop taken = disposal other loop given) : taken = given := by
  cases same
  rfl

/-- No more than one producer is started on a loop between two disposals; and when a disposal
has returned, as those of the loop before it have, every producer that had been started on the
loop has been stopped. -/
structure NoLeak (pool : ProducerPool) : Prop where
  once : ∀ loop, (startedSince loop pool.world.log).length ≤ 1
  disposed : ∀ pid loop taken older, (disposal pid loop taken :: older) <:+ pool.world.log →
    Returned pool pid →
      (∀ entry ∈ older, entry.call = .pop loop → Returned pool entry.pid) →
        ∀ producer ∈ startedOn loop older, producer ∈ stopped pool.world.log

/-- The loop whose producer the task looks for next. -/
def looksUp : Task ProducerValue Fault ProducerTask (Except Failure (Option Producer)) →
    Option Nat
  | ⟨_, .await (.lookUp loop) _⟩ => some loop
  | _ => none

/-- The loop for which the task awaits the start of a producer. -/
def creates : Task ProducerValue Fault ProducerTask (Except Failure (Option Producer)) →
    Option Nat
  | ⟨_, .await (.start loop _) _⟩ => some loop
  | _ => none

/-- No call looks for the producer of its loop, and finds none, while another one awaits the
start of a producer for this loop. -/
def LooksAlone (pool : ProducerPool) : ProducerEvent → ProducerPool → Prop
  | .step pid, _ => ∀ loop ∈ pool.tasks[pid]?.bind looksUp,
      pool.world.state.producers.find loop = none →
        ∀ task ∈ pool.tasks, creates task ≠ some loop
  | _, _ => True

instance : ∀ (pool : ProducerPool) (event : ProducerEvent) (next : ProducerPool),
    Decidable (LooksAlone pool event next)
  | pool, .step pid, _ => inferInstanceAs (Decidable (∀ loop ∈ pool.tasks[pid]?.bind looksUp,
      pool.world.state.producers.find loop = none →
        ∀ task ∈ pool.tasks, creates task ≠ some loop))
  | _, .spawn _, _ => .isTrue trivial
  | _, .fault _ _, _ => .isTrue trivial
  | _, .ambient _, _ => .isTrue trivial

/-! ## What one coroutine does -/

inductive ProducerNote where
  | fresh
  | holding (taken : Option Producer)
  | stopped
  | failed

def ProducerCall.disposes : ProducerCall → Bool
  | .pop _ => true
  | .stop _ => true
  | _ => false

/-- Only a disposal takes producers out of the map, and it stops the one that it has taken. -/
def disposing (task : ProducerTask) : CallMonitor ProducerValue Fault ProducerNote where
  start := .fresh
  allows note call :=
    match task, note, call with
    | .dispose loop, .fresh, call => call = .pop loop
    | .dispose _, .holding (some producer), call => call = .stop producer
    | .dispose _, _, _ => False
    | _, _, call => call.disposes = false
  answers := fun _ _ => True
  after
    | _, .pop _, .ok taken => .holding taken
    | _, .stop _, .ok _ => .stopped
    | _, _, .error _ => .failed
    | note, _, _ => note

theorem allows_pop {task : ProducerTask} {note : ProducerNote} {loop : Nat}
    (allowed : (disposing task).allows note (.pop loop)) :
    task = .dispose loop ∧ note = .fresh := by
  cases task with
  | dispose own =>
      cases note with
      | fresh =>
          cases allowed
          exact ⟨rfl, rfl⟩
      | holding taken => cases taken <;> cases allowed
      | stopped => cases allowed
      | failed => cases allowed
  | getProducer own => cases allowed
  | publish own topic rideId => cases allowed

/-- A disposal that returns has found nothing to stop, or it has stopped it. -/
def Disposes : ProducerTask → Except Failure (Option Producer) → ProducerNote → Prop
  | .dispose _, .ok _, note => note = .holding none ∨ note = .stopped
  | _, _, _ => True

theorem getProducer_only (loop : Nat) :
    (getProducer loop).Only fun call => call.disposes = false := by
  refine ⟨rfl, fun reply => ?_⟩
  rcases reply with fault | ⟨bootstrapServers, found⟩
  · trivial
  · cases found with
    | some producer => trivial
    | none =>
        refine ⟨rfl, fun reply => ?_⟩
        cases reply <;> trivial

theorem publish_only (loop : Nat) (topic rideId : String) :
    (publish loop topic rideId).Only fun call => call.disposes = false := by
  apply AwaitProgram.only_bind (getProducer_only loop)
  intro outcome
  cases outcome with
  | error failure => trivial
  | ok producer =>
      refine ⟨rfl, fun reply => ?_⟩
      cases reply <;> trivial

theorem program_only (task : ProducerTask) (publishes : ∀ loop, task ≠ .dispose loop) :
    task.program.Only fun call => call.disposes = false := by
  have wrapped : ∀ {α : Type} {action : ProducerService α} {value : α → Option Producer},
      action.Only (fun call => call.disposes = false) →
        (do return value (← action) : ProducerService (Option Producer)).Only
          fun call => call.disposes = false := by
    intro α action value only
    apply AwaitProgram.only_bind only
    intro outcome
    cases outcome <;> trivial
  cases task with
  | getProducer loop => exact wrapped (getProducer_only loop)
  | publish loop topic rideId =>
      cases topic <;> exact wrapped (publish_only loop _ rideId)
  | dispose loop => exact absurd rfl (publishes loop)

theorem disposing_program (task : ProducerTask) :
    (disposing task).Watches task.program (Disposes task) .fresh := by
  cases task with
  | dispose loop =>
      refine ⟨rfl, fun reply _ => ?_⟩
      rcases reply with fault | taken
      · trivial
      · cases taken with
        | none => exact Or.inl rfl
        | some producer =>
            refine ⟨rfl, fun reply _ => ?_⟩
            cases reply with
            | error fault => trivial
            | ok _ => exact Or.inr rfl
  | getProducer loop =>
      have only := program_only (.getProducer loop) fun _ same => by cases same
      exact (CallMonitor.watches_of_allowed (only.mono fun _ keeps _ => keeps)).mono
        fun _ _ _ => trivial
  | publish loop topic rideId =>
      have only := program_only (.publish loop topic rideId) fun _ same => by cases same
      exact (CallMonitor.watches_of_allowed (only.mono fun _ keeps _ => keeps)).mono
        fun _ _ _ => trivial

variable {settings : String} {events events' : List ProducerEvent} {pool next : ProducerPool}

theorem disposing_of_run (task : ProducerTask)
    (ran : (producers settings).run (Pool.start Producers.opening) events = some pool) :
    (disposing task).Followed (· = task) Disposes pool :=
  CallMonitor.followed_of_run (fun _ => trivial)
    (by
      rintro task rfl
      exact disposing_program task) ran

/-! ## Creations -/

/-- A producer is started by those only who have just looked for one and found none. -/
def creating : CallMonitor ProducerValue Fault (Option Nat) where
  start := none
  allows note call := ∀ loop bootstrapServers, call = .start loop bootstrapServers →
    note = some loop
  answers := fun _ _ => True
  after
    | _, .lookUp loop, .ok (_, none) => some loop
    | _, _, _ => none

theorem getProducer_creating (loop : Nat) (note : Option Nat) :
    creating.Watches (getProducer loop) (fun _ _ => True) note := by
  refine ⟨(fun _ _ starts => by cases starts), fun reply _ => ?_⟩
  rcases reply with fault | ⟨bootstrapServers, found⟩
  · trivial
  · cases found with
    | some producer => trivial
    | none =>
        constructor
        · intro own servers starts
          cases starts
          rfl
        · rintro (fault | producer) _ <;> trivial

theorem publish_creating (loop : Nat) (topic rideId : String) (note : Option Nat) :
    creating.Watches (publish loop topic rideId) (fun _ _ => True) note := by
  apply CallMonitor.watches_bind.mpr
  apply (getProducer_creating loop note).mono
  intro outcome later _
  cases outcome with
  | error failure => trivial
  | ok producer =>
      refine ⟨(fun _ _ starts => by cases starts), fun reply _ => ?_⟩
      cases reply <;> trivial

theorem dispose_creating (loop : Nat) (note : Option Nat) :
    creating.Watches (dispose loop) (fun _ _ => True) note := by
  refine ⟨(fun _ _ starts => by cases starts), fun reply _ => ?_⟩
  rcases reply with fault | taken
  · trivial
  · cases taken with
    | none => trivial
    | some producer =>
        refine ⟨(fun _ _ starts => by cases starts), fun reply _ => ?_⟩
        cases reply <;> trivial

theorem creating_program (task : ProducerTask) :
    creating.Watches task.program (fun _ _ => True) none := by
  have wrapped : ∀ {α : Type} {action : ProducerService α} {value : α → Option Producer},
      creating.Watches action (fun _ _ => True) none →
        creating.Watches (do return value (← action) : ProducerService (Option Producer))
          (fun _ _ => True) none := by
    intro α action value watches
    apply CallMonitor.watches_bind.mpr
    apply watches.mono
    intro outcome later _
    cases outcome <;> trivial
  cases task with
  | getProducer loop => exact wrapped (getProducer_creating loop none)
  | publish loop topic rideId =>
      cases topic <;> exact wrapped (publish_creating loop _ rideId none)
  | dispose loop => exact wrapped (dispose_creating loop none)

theorem creating_of_run
    (ran : (producers settings).run (Pool.start Producers.opening) events = some pool) :
    creating.Followed (fun _ => True) (fun _ _ _ => True) pool :=
  CallMonitor.followed_of_run (fun _ => trivial) (fun task _ => creating_program task) ran

theorem creates_eq_some
    {task : Task ProducerValue Fault ProducerTask (Except Failure (Option Producer))}
    {loop : Nat} (awaits : creates task = some loop) :
    ∃ bootstrapServers resume, task.rest = .await (.start loop bootstrapServers) resume := by
  obtain ⟨request, rest⟩ := task
  cases rest with
  | done outcome => cases awaits
  | await call resume =>
      cases call with
      | start own bootstrapServers =>
          cases awaits
          exact ⟨bootstrapServers, resume, rfl⟩
      | _ => cases awaits

/-- Who awaits the start of a producer has looked for one in its last step. -/
theorem note_of_creates {pid loop : Nat}
    {task : Task ProducerValue Fault ProducerTask (Except Failure (Option Producer))}
    (ran : (producers settings).run (Pool.start Producers.opening) events = some pool)
    (found : pool.tasks[pid]? = some task) (awaits : creates task = some loop) :
    creating.noteOf pid pool.world.log = some loop := by
  obtain ⟨bootstrapServers, resume, rest⟩ := creates_eq_some awaits
  have watched := (creating_of_run ran).tasks found trivial
  rw [rest] at watched
  exact watched.1 loop bootstrapServers rfl

/-! ## What a step does to the map -/

/-- A producer is started and put into the map, or taken out of it, or the map stays. -/
inductive ProducerStep (before : Producers) (pid : Nat) : ProducerEntry → Producers → Prop where
  | started (task : ProducerTask) (loop : Nat) (bootstrapServers : String) :
      ProducerStep before pid
        ⟨pid, task, .start loop bootstrapServers, .ok ⟨pid, loop, bootstrapServers⟩⟩
        { before with producers := before.producers.save ⟨pid, loop, bootstrapServers⟩ }
  | popped (loop : Nat) :
      ProducerStep before pid (disposal pid loop (before.producers.find loop))
        { before with producers := before.producers.erase loop }
  | elsewhere (entry : ProducerEntry) (after : Producers) (unstarted : startedBy entry = none)
      (unpopped : poppedBy entry = none) (same : after.producers = before.producers) :
      ProducerStep before pid entry after

theorem advance_cases {pid : Nat} {broken : Option Fault}
    (ran : (producers settings).run (Pool.start Producers.opening) events = some pool)
    (advanced : (producers settings).advance pool pid broken = some next) :
    ∃ entry, next.world.log = entry :: pool.world.log ∧
      (∃ resume, pool.tasks[pid]? = some ⟨entry.request, .await entry.call resume⟩) ∧
      ProducerStep pool.world.state pid entry next.world.state := by
  obtain ⟨task, call, resume, reply, after, found, answered, rfl⟩ :=
    (producers settings).advance_eq_some advanced
  refine ⟨_, rfl, ⟨resume, found⟩, ?_⟩
  cases broken with
  | some fault =>
      obtain ⟨_, rfl, rfl⟩ := Machine.answer_broken answered
      exact .elsewhere _ _ (by cases call <;> rfl) (by cases call <;> rfl) rfl
  | none =>
      cases call with
      | start loop bootstrapServers =>
          cases answered
          exact .started task loop bootstrapServers
      | pop loop =>
          obtain ⟨rfl, _⟩ := allows_pop ((disposing_of_run task ran).allows found rfl)
          cases answered
          exact .popped loop
      | _ =>
          cases answered
          exact .elsewhere _ _ rfl rfl rfl

/-! ## The map and the starts -/

theorem startedSince_elsewhere {entry : ProducerEntry} (unstarted : startedBy entry = none)
    (unpopped : poppedBy entry = none) (loop : Nat) (older : List ProducerEntry) :
    startedSince loop (entry :: older) = startedSince loop older := by
  obtain ⟨pid, task, call, reply⟩ := entry
  cases call with
  | start other bootstrapServers =>
      cases reply with
      | ok producer => cases unstarted
      | error fault => rfl
  | pop other =>
      cases reply with
      | ok taken => cases unpopped
      | error fault => rfl
  | _ => rfl

theorem startedSince_started {entry : ProducerEntry} {producer : Producer}
    (begun : startedBy entry = some producer) (loop : Nat) (older : List ProducerEntry) :
    startedSince loop (entry :: older) =
      if producer.loop = loop then producer :: startedSince loop older
      else startedSince loop older := by
  obtain ⟨pid, task, call, reply⟩ := entry
  cases call with
  | start other bootstrapServers =>
      cases reply with
      | ok other =>
          cases begun
          rfl
      | error fault => cases begun
  | _ => cases begun

theorem startedOn_started {entry : ProducerEntry} {producer : Producer}
    (begun : startedBy entry = some producer) (loop : Nat) (older : List ProducerEntry) :
    startedOn loop (entry :: older) =
      if producer.loop = loop then producer :: startedOn loop older
      else startedOn loop older := by
  rw [startedOn, List.filterMap_cons, begun]
  simp only [List.filter_cons, decide_eq_true_eq]
  rfl

theorem startedSince_disposal (pid loop other : Nat) (taken : Option Producer)
    (older : List ProducerEntry) :
    startedSince loop (disposal pid other taken :: older) =
      if other = loop then [] else startedSince loop older :=
  rfl

/-- The map has the producer that was started last since the last disposal. -/
def Cached (pool : ProducerPool) : Prop :=
  ∀ loop, pool.world.state.producers.find loop = (startedSince loop pool.world.log).head?

theorem Cached.advance {pid : Nat} {broken : Option Fault} (cached : Cached pool)
    (ran : (producers settings).run (Pool.start Producers.opening) events = some pool)
    (advanced : (producers settings).advance pool pid broken = some next) : Cached next := by
  intro loop
  obtain ⟨entry, log, _, producerStep⟩ := advance_cases ran advanced
  generalize next.world.state = after at producerStep ⊢
  rw [log]
  cases producerStep with
  | started task other bootstrapServers =>
      rw [startedSince_started rfl, KeyedTable.find_save, cached loop]
      split <;> rfl
  | popped other =>
      rw [startedSince_disposal, KeyedTable.find_erase, cached loop]
      by_cases same : other = loop
      · rw [if_pos same, if_pos same.symm]
        rfl
      · rw [if_neg same, if_neg (Ne.symm same)]
  | elsewhere entry after unstarted unpopped same =>
      rw [startedSince_elsewhere unstarted unpopped, same, cached loop]

theorem cached_of_run
    (ran : (producers settings).run (Pool.start Producers.opening) events = some pool) :
    Cached pool := by
  refine runSteps_reached (fun loop => rfl) ?_ ran
  intro before middle event next ranBefore moved cached
  rcases (producers settings).next_cases moved with
    ⟨_, _, rfl⟩ | ⟨pid, broken, advanced⟩ | ⟨change, _⟩
  · exact cached
  · exact cached.advance ranBefore advanced
  · exact change.elim

/-! ## What becomes of a producer -/

/-- Producers are taken out of the map by disposals, which get the one that was started last,
and nowhere has more than one been started since the disposal before. -/
def Lawful : List ProducerEntry → Prop
  | [] => True
  | entry :: older =>
      (∀ loop, (startedSince loop (entry :: older)).length ≤ 1) ∧
        (∀ loop taken, poppedBy entry = some (loop, taken) →
          entry = disposal entry.pid loop (startedSince loop older).head?) ∧ Lawful older

theorem Lawful.of_suffix {older log : List ProducerEntry} (lawful : Lawful log)
    (suffix : older <:+ log) : Lawful older := by
  induction log with
  | nil =>
      obtain rfl := List.suffix_nil.mp suffix
      trivial
  | cons entry log ih =>
      rcases List.suffix_cons_iff.mp suffix with rfl | suffix
      · exact lawful
      · exact ih lawful.2.2 suffix

theorem Lawful.once {log : List ProducerEntry} (lawful : Lawful log) (loop : Nat) :
    (startedSince loop log).length ≤ 1 := by
  cases log with
  | nil => exact Nat.zero_le 1
  | cons entry older => exact lawful.1 loop

/-- A list of no more than one item is its first item. -/
theorem head?_of_length_le_one {producer : Producer} {items : List Producer}
    (short : items.length ≤ 1) (inside : producer ∈ items) : items.head? = some producer := by
  match items, short, inside with
  | [only], _, inside =>
      rw [List.mem_singleton.mp inside]
      rfl

/-- A producer that has been started is in the map, or a disposal has taken it out. -/
theorem Lawful.traced {log : List ProducerEntry} {loop : Nat} {producer : Producer}
    (lawful : Lawful log) (started : producer ∈ startedOn loop log) :
    producer ∈ startedSince loop log ∨ ∃ pid, disposal pid loop (some producer) ∈ log := by
  induction log with
  | nil => cases started
  | cons entry older ih =>
      obtain ⟨_, replied, lawfulOlder⟩ := lawful
      cases begun : startedBy entry with
      | some other =>
          rw [startedOn_started begun] at started
          rw [startedSince_started begun]
          have fromOlder : producer ∈ startedOn loop older →
              producer ∈ startedSince loop older ∨
                ∃ pid, disposal pid loop (some producer) ∈ entry :: older := fun startedOlder =>
            (ih lawfulOlder startedOlder).imp_right
              (Exists.imp fun _ disposed => List.mem_cons_of_mem entry disposed)
          split at started
          · rename_i here
            rw [if_pos here]
            rcases List.mem_cons.mp started with rfl | startedOlder
            · exact Or.inl List.mem_cons_self
            · exact (fromOlder startedOlder).imp_left (List.mem_cons_of_mem other)
          · rename_i elsewhere
            rw [if_neg elsewhere]
            exact fromOlder started
      | none =>
          have startedOlder : producer ∈ startedOn loop older := by
            rwa [startedOn, List.filterMap_cons, begun] at started
          cases popped : poppedBy entry with
          | none =>
              rw [startedSince_elsewhere begun popped]
              exact (ih lawfulOlder startedOlder).imp_right
                (Exists.imp fun _ disposed => List.mem_cons_of_mem entry disposed)
          | some taking =>
              obtain ⟨other, taken⟩ := taking
              have disposes := replied other taken popped
              rcases ih lawfulOlder startedOlder with present | ⟨pid, disposed⟩
              · by_cases same : other = loop
                · -- The producer is the one that this disposal takes out.
                  subst same
                  rw [head?_of_length_le_one (lawfulOlder.once other) present] at disposes
                  exact Or.inr ⟨entry.pid, disposes ▸ List.mem_cons_self⟩
                · rw [disposes, startedSince_disposal, if_neg same]
                  exact Or.inl present
              · exact Or.inr ⟨pid, List.mem_cons_of_mem entry disposed⟩

/-- What a disposal has taken out of the map it holds until it has stopped it, unless this
fails. -/
def Held (pool : ProducerPool) (pid loop : Nat) (producer : Producer) : Prop :=
  (disposing (.dispose loop)).noteOf pid pool.world.log = .holding (some producer) ∨
    ((disposing (.dispose loop)).noteOf pid pool.world.log = .stopped ∧
      producer ∈ stopped pool.world.log) ∨
    (disposing (.dispose loop)).noteOf pid pool.world.log = .failed

def Handed (pool : ProducerPool) : Prop :=
  ∀ pid loop producer, disposal pid loop (some producer) ∈ pool.world.log →
    pool.requests[pid]? = some (.dispose loop) ∧ Held pool pid loop producer

theorem mem_stopped_cons {producer : Producer} {older : List ProducerEntry}
    (entry : ProducerEntry) (inside : producer ∈ stopped older) :
    producer ∈ stopped (entry :: older) := by
  rw [stopped, List.mem_filterMap] at inside ⊢
  obtain ⟨stop, stopMem, stops⟩ := inside
  exact ⟨stop, List.mem_cons_of_mem entry stopMem, stops⟩

theorem Handed.advance {pid : Nat} {broken : Option Fault} (handed : Handed pool)
    (ran : (producers settings).run (Pool.start Producers.opening) events = some pool)
    (advanced : (producers settings).advance pool pid broken = some next) : Handed next := by
  have requests := (producers settings).requests_advance advanced
  obtain ⟨task, call, resume, reply, after, found, _, rfl⟩ :=
    (producers settings).advance_eq_some advanced
  have request := pool.request_of_task found
  intro other loop producer disposed
  rw [requests]
  rcases List.mem_cons.mp disposed with newest | older
  · -- The disposal takes the producer out at this step.
    cases newest
    refine ⟨request, Or.inl ?_⟩
    simp only [CallMonitor.noteOf, if_true]
    rfl
  · obtain ⟨disposes, held⟩ := handed other loop producer older
    refine ⟨disposes, ?_⟩
    by_cases same : pid = other
    · subst same
      obtain rfl : task = .dispose loop := Option.some.inj (request.symm.trans disposes)
      have allowed := (disposing_of_run (.dispose loop) ran).allows found rfl
      simp only [Held, CallMonitor.noteOf, if_true]
      rcases held with note | ⟨note, _⟩ | note
      · rw [note] at allowed
        obtain rfl : call = .stop producer := allowed
        cases reply with
        | ok _ => exact Or.inr (Or.inl ⟨rfl, List.mem_cons_self⟩)
        | error fault => exact Or.inr (Or.inr rfl)
      · rw [note] at allowed
        cases allowed
      · rw [note] at allowed
        cases allowed
    · simp only [Held, CallMonitor.noteOf, if_neg same]
      exact held.imp_right (Or.imp_left (And.imp_right (mem_stopped_cons _)))

theorem handed_of_run
    (ran : (producers settings).run (Pool.start Producers.opening) events = some pool) :
    Handed pool := by
  refine runSteps_reached (fun pid loop producer disposed => ?_) ?_ ran
  · cases disposed
  intro before middle event next ranBefore moved handed
  rcases (producers settings).next_cases moved with
    ⟨task, _, rfl⟩ | ⟨pid, broken, advanced⟩ | ⟨change, _⟩
  · intro pid loop producer disposed
    obtain ⟨disposes, held⟩ := handed pid loop producer disposed
    refine ⟨?_, held⟩
    have bound := (List.getElem?_eq_some_iff.mp disposes).1
    rw [Pool.requests, List.map_append]
    exact (List.getElem?_append_left bound).trans disposes
  · exact handed.advance ranBefore advanced
  · exact change.elim

/-- A disposal that has returned has stopped the producer that it took out of the map. -/
theorem stopped_of_returned {pid loop : Nat} {producer : Producer}
    (ran : (producers settings).run (Pool.start Producers.opening) events = some pool)
    (disposed : disposal pid loop (some producer) ∈ pool.world.log)
    (returned : Returned pool pid) : producer ∈ stopped pool.world.log := by
  obtain ⟨task, value, ended⟩ := returned
  obtain ⟨disposes, held⟩ := handed_of_run ran pid loop producer disposed
  have request := pool.request_of_task (Pool.ended?_eq_some ended)
  obtain rfl : task = .dispose loop := Option.some.inj (request.symm.trans disposes)
  have note := (disposing_of_run (.dispose loop) ran).ended ended rfl
  rcases held with holding | ⟨_, inside⟩ | failed
  · rw [holding] at note
    rcases note with note | note <;> cases note
  · exact inside
  · rw [failed] at note
    rcases note with note | note <;> cases note

/-! ## One creation at a time -/

/-- No two tasks await the start of a producer for one loop, and none does for a loop that has
a producer in the map. -/
structure Alone (pool : ProducerPool) : Prop where
  one : ∀ {pid other loop : Nat} {first second}, pool.tasks[pid]? = some first →
    pool.tasks[other]? = some second → creates first = some loop →
      creates second = some loop → pid = other
  free : ∀ {pid loop : Nat} {task}, pool.tasks[pid]? = some task → creates task = some loop →
    pool.world.state.producers.find loop = none

/-- Who comes to await a start has looked and found nothing. -/
theorem creates_advance {pid loop : Nat} {broken : Option Fault}
    {task : Task ProducerValue Fault ProducerTask (Except Failure (Option Producer))}
    (ranNext : (producers settings).run (Pool.start Producers.opening) events = some next)
    (advanced : (producers settings).advance pool pid broken = some next)
    (found : next.tasks[pid]? = some task) (awaits : creates task = some loop) :
    broken = none ∧ loop ∈ pool.tasks[pid]?.bind looksUp ∧
      pool.world.state.producers.find loop = none ∧
      next.world.state.producers = pool.world.state.producers := by
  have note := note_of_creates ranNext found awaits
  obtain ⟨request, call, resume, reply, state, foundBefore, answered, rfl⟩ :=
    (producers settings).advance_eq_some advanced
  simp only [CallMonitor.noteOf, if_true] at note
  cases call with
  | lookUp own =>
      rcases reply with fault | ⟨bootstrapServers, producer⟩
      · cases note
      · cases producer with
        | some producer => cases note
        | none =>
            cases note
            rw [foundBefore]
            cases broken with
            | some fault =>
                obtain ⟨breaks, _⟩ := Machine.answer_broken answered
                cases breaks
            | none =>
                have looked := Prod.mk.inj (Option.some.inj answered)
                obtain ⟨replied, rfl⟩ := looked
                exact ⟨rfl, rfl, (Prod.mk.inj (Except.ok.inj replied)).2, rfl⟩
  | _ => cases note

theorem alone_start : Alone (Pool.start Producers.opening) := by
  constructor <;> intros <;> simp_all [Pool.start]

theorem Alone.spawn {task : ProducerTask} (alone : Alone pool)
    (ran : (producers settings).run (Pool.start Producers.opening) events = some pool)
    (ranNext : (producers settings).run (Pool.start Producers.opening) events' = some
      { pool with tasks := pool.tasks ++ [⟨task, (producers settings).program task⟩] }) :
    Alone { pool with tasks := pool.tasks ++ [⟨task, (producers settings).program task⟩] } := by
  -- The new task has not looked for a producer yet.
  have earlier : ∀ {pid loop : Nat} {other}, (pool.tasks ++
      [⟨task, (producers settings).program task⟩])[pid]? = some other →
        creates other = some loop → pool.tasks[pid]? = some other := by
    intro pid loop other found awaits
    have note := note_of_creates ranNext found awaits
    rcases getElem?_concat_cases found with before | ⟨rfl, _⟩
    · exact before
    · rw [CallMonitor.noteOf_fresh] at note
      · cases note
      · intro entry inside
        have owned := (creating_of_run ran).owned entry inside
        omega
  constructor
  · intro pid other loop first second foundFirst foundSecond awaitsFirst awaitsSecond
    exact alone.one (earlier foundFirst awaitsFirst) (earlier foundSecond awaitsSecond)
      awaitsFirst awaitsSecond
  · intro pid loop other found awaits
    exact alone.free (earlier found awaits) awaits

theorem Alone.advance {pid : Nat} {broken : Option Fault} (alone : Alone pool)
    (ran : (producers settings).run (Pool.start Producers.opening) events = some pool)
    (ranNext : (producers settings).run (Pool.start Producers.opening) events' = some next)
    (advanced : (producers settings).advance pool pid broken = some next)
    (looksAlone : broken = none → LooksAlone pool (.step pid) next) : Alone next := by
  -- The step of one task leaves the others where they are.
  have others : ∀ {other : Nat} {task}, next.tasks[other]? = some task → other ≠ pid →
      pool.tasks[other]? = some task := by
    intro other task found different
    obtain ⟨_, _, _, _, _, _, _, rfl⟩ := (producers settings).advance_eq_some advanced
    rwa [List.getElem?_set_ne (Ne.symm different)] at found
  -- Who has just looked and found nothing is the only one.
  have only : ∀ {other loop : Nat} {first second}, next.tasks[pid]? = some first →
      creates first = some loop → next.tasks[other]? = some second →
        creates second = some loop → other = pid := by
    intro other loop first second foundFirst awaitsFirst foundSecond awaitsSecond
    by_contra different
    obtain ⟨unbroken, looked, missing, _⟩ := creates_advance ranNext advanced foundFirst awaitsFirst
    exact looksAlone unbroken loop looked missing second
      (List.mem_of_getElem? (others foundSecond different)) awaitsSecond
  constructor
  · intro here there loop first second foundFirst foundSecond awaitsFirst awaitsSecond
    by_cases firstSteps : here = pid
    · subst firstSteps
      exact (only foundFirst awaitsFirst foundSecond awaitsSecond).symm
    by_cases secondSteps : there = pid
    · subst secondSteps
      exact only foundSecond awaitsSecond foundFirst awaitsFirst
    · exact alone.one (others foundFirst firstSteps) (others foundSecond secondSteps)
        awaitsFirst awaitsSecond
  · intro other loop task found awaits
    by_cases steps : other = pid
    · subst steps
      obtain ⟨_, _, missing, same⟩ := creates_advance ranNext advanced found awaits
      rwa [same]
    have foundBefore := others found steps
    have missing := alone.free foundBefore awaits
    obtain ⟨entry, _, ⟨resume, stepping⟩, producerStep⟩ := advance_cases ran advanced
    generalize next.world.state = after at producerStep ⊢
    cases producerStep with
    | started request own bootstrapServers =>
        have elsewhere : loop ≠ own := by
          rintro rfl
          exact steps (alone.one foundBefore stepping awaits rfl)
        rw [KeyedTable.find_save, if_neg (Ne.symm elsewhere)]
        exact missing
    | popped own =>
        rw [KeyedTable.find_erase, missing]
        exact ite_self none
    | elsewhere entry after unstarted unpopped same =>
        rw [same]
        exact missing

theorem Alone.step {event : ProducerEvent} (alone : Alone pool)
    (ran : (producers settings).run (Pool.start Producers.opening) events = some pool)
    (moved : (producers settings).next pool event = some next)
    (looksAlone : LooksAlone pool event next) : Alone next := by
  have ranNext := runSteps_snoc _ ran moved
  cases event with
  | spawn task =>
      obtain rfl := (producers settings).next_spawn moved
      exact alone.spawn ran ranNext
  | step pid => exact alone.advance ran ranNext moved fun _ => looksAlone
  | fault pid fault => exact alone.advance ran ranNext moved fun unbroken => by cases unbroken
  | ambient change => exact change.elim

/-! ## Runs without leaks -/

theorem noLeak_of_lawful
    (ran : (producers settings).run (Pool.start Producers.opening) events = some pool)
    (lawful : Lawful pool.world.log) : NoLeak pool := by
  refine ⟨lawful.once, ?_⟩
  intro pid loop taken older suffix returned earlier producer started
  have lawfulHere := lawful.of_suffix suffix
  have inLog : ∀ entry ∈ disposal pid loop taken :: older, entry ∈ pool.world.log :=
    fun entry inside => suffix.subset inside
  rcases lawfulHere.2.2.traced started with present | ⟨other, disposed⟩
  · have replied := lawfulHere.2.1 loop taken rfl
    rw [head?_of_length_le_one (lawfulHere.2.2.once loop) present] at replied
    obtain rfl := disposal_inj replied
    exact stopped_of_returned ran (inLog _ List.mem_cons_self) returned
  · exact stopped_of_returned ran (inLog _ (List.mem_cons_of_mem _ disposed))
      (earlier _ disposed rfl)

theorem Lawful.advance {pid : Nat} {broken : Option Fault} (lawful : Lawful pool.world.log)
    (ran : (producers settings).run (Pool.start Producers.opening) events = some pool)
    (alone : Alone pool)
    (advanced : (producers settings).advance pool pid broken = some next) :
    Lawful next.world.log := by
  have cached := cached_of_run ran
  obtain ⟨entry, log, ⟨resume, found⟩, producerStep⟩ := advance_cases ran advanced
  have once := lawful.once
  generalize next.world.state = after at producerStep
  rw [log]
  cases producerStep with
  | started task other bootstrapServers =>
      have free := alone.free found rfl
      rw [cached other, List.head?_eq_none_iff] at free
      refine ⟨fun loop => ?_, fun loop taken popped => ?_, lawful⟩
      · rw [startedSince_started rfl]
        split
        · rename_i here
          subst here
          rw [free]
          exact Nat.le_refl 1
        · exact once loop
      · cases popped
  | popped other =>
      refine ⟨fun loop => ?_, fun loop taken popped => ?_, lawful⟩
      · rw [startedSince_disposal]
        split
        · exact Nat.zero_le 1
        · exact once loop
      · cases popped
        rw [cached other]
        rfl
  | elsewhere entry after unstarted unpopped same =>
      refine ⟨fun loop => ?_, fun loop taken popped => ?_, lawful⟩
      · rw [startedSince_elsewhere unstarted unpopped]
        exact once loop
      · rw [unpopped] at popped
        cases popped

/-- In a run in which no call looks for the producer of its loop, and finds none, while
another one awaits the start of a producer for this loop, no producer leaks. -/
theorem noLeak_of_looksAlone
    (looksAlone : EveryStep (producers settings).next LooksAlone (Pool.start Producers.opening)
      events) :
    Always (producers settings).next NoLeak (Pool.start Producers.opening) events := by
  have kept : Always (producers settings).next
      (fun pool => Alone pool ∧ Lawful pool.world.log) (Pool.start Producers.opening) events := by
    refine always_of_everyStep ⟨alone_start, trivial⟩ ?_ looksAlone
    rintro before event after middle next _ ran moved ⟨alone, lawful⟩ looksAlone
    refine ⟨alone.step ran moved looksAlone, ?_⟩
    rcases (producers settings).next_cases moved with
      ⟨_, _, rfl⟩ | ⟨pid, broken, advanced⟩ | ⟨change, _⟩
    · exact lawful
    · exact lawful.advance ran alone advanced
    · exact change.elim
  intro before after middle split ran
  exact noLeak_of_lawful ran (kept before after middle split ran).2

/-! ## Two first messages -/

/-- Two riders' first messages overlap: each looks before the other has put its producer into
the map. -/
def firstMessages : List ProducerEvent :=
  [.spawn (.publish 0 .rideRequested "r1"), .spawn (.publish 0 .rideRequested "r2"),
    .step 0, .step 1, .step 0, .step 1, .step 0, .step 1]

/-- Both have returned before the loop is disposed of. -/
def thenDispose : List ProducerEvent :=
  firstMessages ++ [.spawn (.dispose 0), .step 2, .step 2]

/-- Two producers are started, and the one that the other has replaced is never stopped. -/
theorem firstMessages_leak : ∃ before pool,
    (producers "kafka:9092").run (Pool.start Producers.opening) firstMessages = some before ∧
      Returned before 0 ∧ Returned before 1 ∧
      (producers "kafka:9092").run (Pool.start Producers.opening) thenDispose = some pool ∧
      Returned pool 2 ∧
      startedOn 0 pool.world.log = [⟨1, 0, "kafka:9092"⟩, ⟨0, 0, "kafka:9092"⟩] ∧
      stopped pool.world.log = [⟨1, 0, "kafka:9092"⟩] := by
  have first : ((producers "kafka:9092").run (Pool.start Producers.opening) firstMessages).any
      (fun pool => decide (pool.ended? 0 = some (.publish 0 .rideRequested "r1", .ok none) ∧
        pool.ended? 1 = some (.publish 0 .rideRequested "r2", .ok none))) = true := by
    decide +kernel
  have last : ((producers "kafka:9092").run (Pool.start Producers.opening) thenDispose).any
      (fun pool => decide (pool.ended? 2 = some (.dispose 0, .ok none) ∧
        startedOn 0 pool.world.log = [⟨1, 0, "kafka:9092"⟩, ⟨0, 0, "kafka:9092"⟩] ∧
        stopped pool.world.log = [⟨1, 0, "kafka:9092"⟩])) = true := by
    decide +kernel
  rw [Option.any_eq_true] at first last
  obtain ⟨before, ranFirst, ended⟩ := first
  obtain ⟨pool, ranLast, seen⟩ := last
  obtain ⟨ended0, ended1⟩ := of_decide_eq_true ended
  obtain ⟨ended2, begun, ceased⟩ := of_decide_eq_true seen
  exact ⟨before, pool, ranFirst, ⟨_, _, ended0⟩, ⟨_, _, ended1⟩, ranLast, ⟨_, _, ended2⟩, begun,
    ceased⟩

/-- The second message is published while the first one is being sent. -/
def messagesInTurn : List ProducerEvent :=
  [.spawn (.publish 0 .rideRequested "r1"), .spawn (.publish 0 .rideRequested "r2"),
    .step 0, .step 0, .step 1, .step 1, .step 0, .spawn (.dispose 0), .step 2, .step 2]

/-- It is sent by the producer of the first one, which the disposal stops. -/
theorem messagesInTurn_noLeak : ∃ pool,
    (producers "kafka:9092").run (Pool.start Producers.opening) messagesInTurn = some pool ∧
      Returned pool 2 ∧ startedOn 0 pool.world.log = [⟨0, 0, "kafka:9092"⟩] ∧ NoLeak pool := by
  have last : ((producers "kafka:9092").run (Pool.start Producers.opening) messagesInTurn).any
      (fun pool => decide (pool.ended? 2 = some (.dispose 0, .ok none) ∧
        startedOn 0 pool.world.log = [⟨0, 0, "kafka:9092"⟩])) = true := by
    decide +kernel
  obtain ⟨pool, ran, seen⟩ := (Option.any_eq_true _ _).mp last
  obtain ⟨ended, begun⟩ := of_decide_eq_true seen
  have looksAlone : EveryStep (producers "kafka:9092").next LooksAlone
      (Pool.start Producers.opening) messagesInTurn := by
    decide +kernel
  exact ⟨pool, ran, ⟨_, _, ended⟩, begun,
    noLeak_of_looksAlone looksAlone messagesInTurn [] pool (List.append_nil _).symm ran⟩

/-! ## The messages of the application -/

def topicName : Topic → String
  | .rideRequested => rideRequestedTopic
  | .rideAccepted => rideAcceptedTopic
  | .rideCompleted => rideCompletedTopic
  | .rideCancelled => rideCancelledTopic

/-- The broker has the messages that the application has published, in their order. -/
def Delivers (s : Producers) (store : Store) : Prop :=
  s.sent = store.published.map fun (topic, rideId) => (topicName topic, rideId)

section Alone

variable (settings : String) (loop pid : Nat) (s : Producers)

theorem finish_getProducer : ∃ producer after, after.sent = s.sent ∧
    (producers settings).finish pid (getProducer loop) s = some (.ok producer, after) := by
  have looked : (producers settings).finish pid (command (.lookUp loop)) s =
      some (.ok (s.bootstrapServers.getD settings, s.producers.find loop),
        { s with bootstrapServers := some (s.bootstrapServers.getD settings) }) := by
    rw [command, finish_perform]
    rfl
  unfold getProducer
  rw [finish_of_ok looked]
  cases found : s.producers.find loop with
  | some producer =>
      exact ⟨producer, { s with bootstrapServers := some (s.bootstrapServers.getD settings) },
        rfl, rfl⟩
  | none =>
      exact ⟨⟨pid, loop, s.bootstrapServers.getD settings⟩,
        { s with
          bootstrapServers := some (s.bootstrapServers.getD settings)
          producers := s.producers.save ⟨pid, loop, s.bootstrapServers.getD settings⟩ },
        rfl, finish_perform pid Failure.fault _ _⟩

theorem finish_publish (topic : Topic) (rideId : String) :
    ∃ after, after.sent = s.sent ++ [(topicName topic, rideId)] ∧
      (producers settings).finish pid (ProducerTask.publish loop topic rideId).program s =
        some (.ok none, after) := by
  obtain ⟨producer, middle, sent, got⟩ := finish_getProducer settings loop pid s
  have published : (producers settings).finish pid (publish loop (topicName topic) rideId) s =
      some (.ok (), { middle with sent := middle.sent ++ [(topicName topic, rideId)] }) := by
    rw [publish, finish_of_ok got]
    exact finish_perform pid Failure.fault _ _
  refine ⟨{ middle with sent := middle.sent ++ [(topicName topic, rideId)] }, by rw [sent], ?_⟩
  cases topic <;> exact (finish_of_ok published _).trans rfl

end Alone

/-- A message that the application publishes reaches the broker. -/
theorem Delivers.publish {s : Producers} {store : Store} (delivers : Delivers s store)
    (P : Platform) (settings : String) (loop pid : Nat) (topic : Topic) (rideId : String) :
    ∃ after store', Delivers after store' ∧
      (producers settings).finish pid (ProducerTask.publish loop topic rideId).program s =
        some (.ok none, after) ∧
      P.perform pid (.publish topic rideId) store = some (.ok (), store') := by
  obtain ⟨after, sent, published⟩ := finish_publish settings loop pid s topic rideId
  refine ⟨after, _, ?_, published, rfl⟩
  rw [Delivers, sent, delivers]
  simp

end Kafka

end RideHailing
