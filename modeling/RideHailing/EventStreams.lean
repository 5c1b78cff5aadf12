import RideHailing.SseRegistry
import RideHailing.StepRuns

/-!
# Streams over the registry

`stream(key)` of `sse.py`: a running stream has registered a queue under its key,
takes the items of that queue one after the other, and removes its key from the
registry when it ends, at the sentinel or when its client has gone.
-/

namespace RideHailing

/-- A stream that has begun to run, the queue it reads and what it has yielded. -/
structure EventStream (π : Type) where
  key : String
  queue : Nat
  delivered : List (String × π) := []
  closed : Bool := false

/-- The registry and the streams opened so far, the oldest first. -/
structure EventStreams (π : Type) where
  registry : SseRegistry π
  streams : List (EventStream π)

inductive StreamStep (π : Type) where
  | opens (key : String)
  | takes (stream : Nat)
  | disconnects (stream : Nat)
  | emits (key event : String) (payload : π)
  | completes (key : String)
deriving DecidableEq

namespace EventStreams

variable {π : Type}

def empty : EventStreams π :=
  ⟨SseRegistry.empty, []⟩

/-- `queue = register(key)`, when the generator first runs. -/
def opening (board : EventStreams π) (key : String) : EventStreams π :=
  ⟨board.registry.register key,
    board.streams ++ [{ key := key, queue := board.registry.queues.length }]⟩

/-- `finally: unregister(key)`. -/
def closing (board : EventStreams π) (index : Nat) (stream : EventStream π) :
    EventStreams π :=
  ⟨board.registry.unregister stream.key,
    board.streams.set index { stream with closed := true }⟩

/-- `item = await queue.get()`: the sentinel ends the loop, an event is yielded. -/
def taking (board : EventStreams π) (index : Nat) (stream : EventStream π) :
    Option (EventStreams π) :=
  (board.registry.get stream.queue).map fun
    | (none, registry) => closing ⟨registry, board.streams⟩ index stream
    | (some event, registry) => ⟨registry, board.streams.set index
        { stream with delivered := stream.delivered ++ [event] }⟩

/-- The stream of this number, while it runs. -/
def running (board : EventStreams π) (index : Nat) : Option (EventStream π) :=
  board.streams[index]?.filter fun stream => !stream.closed

def step (board : EventStreams π) : StreamStep π → Option (EventStreams π)
  | .opens key => some (board.opening key)
  | .takes index => (board.running index).bind fun stream => board.taking index stream
  | .disconnects index =>
      (board.running index).map fun stream => board.closing index stream
  | .emits key event payload =>
      some { board with registry := board.registry.emit key event payload }
  | .completes key => some { board with registry := board.registry.complete key }

/-- What a stream has yielded, and after it what waits in its queue. -/
def received (board : EventStreams π) (index : Nat) : List (Option (String × π)) :=
  match board.streams[index]? with
  | none => []
  | some stream =>
      stream.delivered.map some ++ (board.registry.queues[stream.queue]?).getD []

end EventStreams

/-- The event that a step emits on a key. -/
def StreamStep.emission {π : Type} (key : String) : StreamStep π → Option (String × π)
  | .emits other event payload => if other = key then some (event, payload) else none
  | _ => none

end RideHailing
