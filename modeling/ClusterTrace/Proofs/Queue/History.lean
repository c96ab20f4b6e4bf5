import ClusterTrace.Queue.WorkQueue

/-!
# Histories of a work queue

What was asked of a queue and what it answered, the latest first.  `Reaches`
relates a history to the states it can lead to.  Only keys that are held are
reported, and items whose time has come together become pending in any order,
so that `WorkQueue.get` is one of the ways in which a queue may be looked into.
-/

namespace ClusterTrace.Queue

/-- Something that happened to a queue. -/
inductive Event (κ α : Type) where
  | added (key : κ) (value : α)
  /-- A taker looked for an item. -/
  | looked (handed : WorkQueue.Handed κ α)
  | reported (key : κ) (outcome : Outcome α)
  | waited (span : Nat)
  | closed

/-- What happened to a queue, the latest first. -/
abbrev History (κ α : Type) := List (Event κ α)

namespace History

variable {κ α : Type} [DecidableEq κ]

/-- The value most recently added for a key. -/
def newest? (key : κ) : History κ α → Option α
  | [] => none
  | .added k value :: history =>
      if k = key then some value else newest? key history
  | _ :: history => newest? key history

/-- The value with which a key was handed out, until it is reported. -/
def held? (key : κ) : History κ α → Option α
  | [] => none
  | .looked (.item k value) :: history =>
      if k = key then some value else held? key history
  | .reported k _ :: history =>
      if k = key then none else held? key history
  | _ :: history => held? key history

/-- The key was handed out after it was most recently added. -/
def handedSince (key : κ) : History κ α → Bool
  | [] => false
  | .added k _ :: history =>
      if k = key then false else handedSince key history
  | .looked (.item k _) :: history =>
      if k = key then true else handedSince key history
  | _ :: history => handedSince key history

/-- Every retry carries the value that was handed out. -/
def Faithful : History κ α → Prop
  | [] => True
  | .reported key (.retry value _) :: history =>
      held? key history = some value ∧ Faithful history
  | _ :: history => Faithful history

end History

namespace WorkQueue

variable {κ α : Type} [DecidableEq κ]

/-- What a taker may be handed at a time, and the queue after that. -/
inductive Hands (queue : WorkQueue κ α) (now : Nat) :
    Handed κ α → WorkQueue κ α → Prop where
  | closed : queue.isClosed = true → Hands queue now .closed queue
  | popped {due : List (κ × α × Nat)} {handed : Handed κ α}
      {rest : WorkQueue κ α} :
      queue.isClosed = false →
      due.Perm (queue.due now) →
      (queue.promote due).pop = (handed, rest) →
      Hands queue now handed rest

theorem hands_get (queue : WorkQueue κ α) (now : Nat) :
    queue.Hands now (queue.get now).1 (queue.get now).2 := by
  cases isClosed : queue.isClosed with
  | true =>
      rw [get, if_pos isClosed]
      exact .closed isClosed
  | false =>
      rw [get, if_neg (by simp [isClosed])]
      exact .popped isClosed (List.Perm.refl _) rfl

end WorkQueue

/-- A history, the time since its start and a state to which it can lead. -/
inductive Reaches {κ α : Type} [DecidableEq κ] :
    History κ α → Nat → WorkQueue κ α → Prop where
  | start : Reaches [] 0 {}
  | add {history : History κ α} {clock : Nat} {queue : WorkQueue κ α}
      (key : κ) (value : α) :
      Reaches history clock queue →
      Reaches (.added key value :: history) clock (queue.add key value).2
  | look {history : History κ α} {clock : Nat} {queue rest : WorkQueue κ α}
      {handed : WorkQueue.Handed κ α} :
      Reaches history clock queue →
      queue.Hands clock handed rest →
      Reaches (.looked handed :: history) clock rest
  | report {history : History κ α} {clock : Nat} {queue : WorkQueue κ α}
      (key : κ) (outcome : Outcome α) :
      Reaches history clock queue →
      (history.held? key).isSome →
      Reaches (.reported key outcome :: history) clock
        (queue.done key outcome clock)
  | wait {history : History κ α} {clock : Nat} {queue : WorkQueue κ α}
      (span : Nat) :
      Reaches history clock queue →
      Reaches (.waited span :: history) (clock + span) queue
  | close {history : History κ α} {clock : Nat} {queue : WorkQueue κ α} :
      Reaches history clock queue →
      Reaches (.closed :: history) clock queue.shutDown

end ClusterTrace.Queue
