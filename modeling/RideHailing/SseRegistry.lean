import RideHailing.KeyedTable

/-!
# The registry of live event streams

`sse.py`: one process-wide map from a key, a ride id or a driver id, to the
queue of the stream registered last under it.  A queue holds the events still
to be read; `none` is the sentinel that closes the stream.
-/

namespace RideHailing

/-- All queues ever made, and which of them each key refers to. -/
structure SseRegistry (π : Type) where
  queues : List (List (Option (String × π)))
  emitters : KeyedTable (Prod.fst : String × Nat → String)

namespace SseRegistry

variable {π : Type}

def empty : SseRegistry π :=
  ⟨[], KeyedTable.empty⟩

/-- The queue that a key refers to. -/
def emitterOf (registry : SseRegistry π) (key : String) : Option Nat :=
  (registry.emitters.find key).map Prod.snd

/-- Make a new queue, numbered by the queues before it, and refer the key to it. -/
def register (registry : SseRegistry π) (key : String) : SseRegistry π :=
  ⟨registry.queues ++ [[]], registry.emitters.save (key, registry.queues.length)⟩

def unregister (registry : SseRegistry π) (key : String) : SseRegistry π :=
  { registry with emitters := registry.emitters.erase key }

/-- `queue.put_nowait(item)`. -/
def put (registry : SseRegistry π) (queue : Nat)
    (item : Option (String × π)) : SseRegistry π :=
  { registry with queues := registry.queues.modify queue (· ++ [item]) }

/-- `queue.get()`, which waits while the queue is empty. -/
def get (registry : SseRegistry π) (queue : Nat) :
    Option (Option (String × π) × SseRegistry π) :=
  match registry.queues[queue]? with
  | some (item :: waiting) =>
      some (item, { registry with queues := registry.queues.set queue waiting })
  | _ => none

def emit (registry : SseRegistry π) (key event : String) (payload : π) :
    SseRegistry π :=
  match registry.emitters.find key with
  | none => registry
  | some (_, queue) => registry.put queue (some (event, payload))

def complete (registry : SseRegistry π) (key : String) : SseRegistry π :=
  match registry.emitters.find key with
  | none => registry
  | some (_, queue) =>
      { registry with emitters := registry.emitters.erase key }.put queue none

end SseRegistry

end RideHailing
