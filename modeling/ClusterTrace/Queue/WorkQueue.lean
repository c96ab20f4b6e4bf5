import ClusterTrace.Storage.Assoc

/-!
# Work queues

A queue of keyed items.  A key is pending, being processed, waiting for a retry,
or none of these; a key being processed is also dirty when a newer value was
added meanwhile.  Adding a key that is pending, waiting or dirty replaces its
value.  The queue counts the units of outstanding work.

The queue is a value: time is an argument of the operations that depend on it.
-/

namespace ClusterTrace.Queue

/-- What is reported of an item that was handed out. -/
inductive Outcome (α : Type) where
  /-- The item is done with. -/
  | finished
  /-- The item is to be handed out again after a delay. -/
  | retry (value : α) (delay : Nat)
deriving Repr

/-- A queue of items with distinct keys. -/
structure WorkQueue (κ α : Type) where
  /-- Pending keys, the next one first. -/
  order : List κ := []
  pending : Assoc κ α := []
  processing : List κ := []
  dirty : Assoc κ α := []
  /-- Values to be handed out again, with the time from which on they may be. -/
  waiting : Assoc κ (α × Nat) := []
  /-- The units of work that are not finished. -/
  outstanding : Nat := 0
  isClosed : Bool := false
deriving Repr

namespace WorkQueue

variable {κ α : Type} [DecidableEq κ]

/-- Adds an item.  The answer tells whether this is a new unit of work. -/
def add (queue : WorkQueue κ α) (key : κ) (value : α) : Bool × WorkQueue κ α :=
  if queue.pending.has key then
    (false, { queue with pending := queue.pending.put key value })
  else
    match queue.waiting.get? key with
    | some (_, due) =>
        (false, { queue with waiting := queue.waiting.put key (value, due) })
    | none =>
        if key ∈ queue.processing then
          if queue.dirty.has key then
            (false, { queue with dirty := queue.dirty.put key value })
          else
            (true,
              { queue with
                dirty := queue.dirty.put key value
                outstanding := queue.outstanding + 1 })
        else
          (true,
            { queue with
              order := queue.order ++ [key]
              pending := queue.pending.put key value
              outstanding := queue.outstanding + 1 })

/-- Makes the given waiting items pending, in order. -/
def promote (queue : WorkQueue κ α) : List (κ × α × Nat) → WorkQueue κ α
  | [] => queue
  | (key, value, _) :: rest =>
      promote
        { queue with
          waiting := queue.waiting.erase key
          order := queue.order ++ [key]
          pending := queue.pending.put key value }
        rest

/-- The waiting items whose time has come. -/
def due (queue : WorkQueue κ α) (now : Nat) : List (κ × α × Nat) :=
  queue.waiting.filter fun item => item.2.2 ≤ now

/-- Takes the first key of an order that is pending, with its value. -/
def popFrom (queue : WorkQueue κ α) : List κ → Option (κ × α) × WorkQueue κ α
  | [] => (none, { queue with order := [] })
  | key :: order =>
      match queue.pending.get? key with
      | some value =>
          (some (key, value),
            { queue with
              order := order
              pending := queue.pending.erase key
              processing := key :: queue.processing.filter (· ≠ key) })
      | none => popFrom queue order

/-- What a taker gets. -/
inductive Handed (κ α : Type) where
  | item (key : κ) (value : α)
  /-- Nothing is there yet. -/
  | nothing
  /-- The queue hands out nothing any more. -/
  | closed
deriving Repr

/-- Hands out the first pending item, if there is one. -/
def pop (queue : WorkQueue κ α) : Handed κ α × WorkQueue κ α :=
  match queue.popFrom queue.order with
  | (some (key, value), rest) => (.item key value, rest)
  | (none, rest) => (.nothing, rest)

/-- Hands out the next item, if there is one now.  Every item whose time has
come is pending first. -/
def get (queue : WorkQueue κ α) (now : Nat) : Handed κ α × WorkQueue κ α :=
  if queue.isClosed then (.closed, queue)
  else (queue.promote (queue.due now)).pop

/-- Takes back a key.  A retry is skipped when a newer value was added
meanwhile; the newer value is pending next. -/
def done (queue : WorkQueue κ α) (key : κ) (outcome : Outcome α) (now : Nat) :
    WorkQueue κ α :=
  let released := { queue with processing := queue.processing.filter (· ≠ key) }
  let settled :=
    match outcome with
    | .finished => { released with outstanding := released.outstanding - 1 }
    | .retry value delay =>
        if released.dirty.has key then
          { released with outstanding := released.outstanding - 1 }
        else
          { released with
            waiting := released.waiting.put key (value, now + delay) }
  match settled.dirty.get? key with
  | some value =>
      { settled with
        dirty := settled.dirty.erase key
        order := settled.order ++ [key]
        pending := settled.pending.put key value }
  | none => settled

/-- Stops handing out items. -/
def shutDown (queue : WorkQueue κ α) : WorkQueue κ α :=
  { queue with isClosed := true }

/-- No work is outstanding. -/
def isIdle (queue : WorkQueue κ α) : Bool :=
  queue.outstanding = 0

/-- The earliest time at which a waiting item may be handed out. -/
def nextDue? (queue : WorkQueue κ α) : Option Nat :=
  (queue.waiting.map fun item => item.2.2).min?

/-- Serves a number of takers that wait: what each that goes on is handed, the
first in line first, and the queue after that. -/
def serve (now : Nat) : Nat → WorkQueue κ α → List (Handed κ α) × WorkQueue κ α
  | 0, queue => ([], queue)
  | takers + 1, queue =>
      match queue.get now with
      | (.nothing, queue) => ([], queue)
      | (handed, queue) =>
          let (more, queue) := serve now takers queue
          (handed :: more, queue)

end WorkQueue
end ClusterTrace.Queue
