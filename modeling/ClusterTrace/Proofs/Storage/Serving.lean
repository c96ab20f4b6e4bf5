import ClusterTrace.Proofs.Queue.Newest
import ClusterTrace.Storage.Store

/-!
# Stores with one worker

Records are added in any order with the steps of a worker, which takes an item,
tries to store it with or without success, and takes the next one.  `Serves`
relates what happened, the latest first, to the item that the worker holds and
to the store.  Its queue goes through the history of a work queue in which every
retry carries the value that was handed out, `Serves.reaches`.
-/

namespace ClusterTrace

open Queue (Reaches WorkQueue)

/-- The item that was handed out. -/
@[simp]
def Queue.WorkQueue.Handed.item? {κ α : Type} :
    WorkQueue.Handed κ α → Option (κ × α)
  | .item key value => some (key, value)
  | .nothing => none
  | .closed => none

namespace Store

/-- What became of an attempt to store a record. -/
inductive Attempt where
  | stored
  | retried (delay : Nat)
  | dropped

/-- What is reported to the queue of an attempt. -/
def Attempt.outcome (record : Record) : Attempt → Queue.Outcome Record
  | .stored => .finished
  | .retried delay => .retry record delay
  | .dropped => .finished

/-- What becomes of an attempt that succeeds or fails. -/
def attempt (store : Store) (key : Key) (succeeds : Bool) : Attempt :=
  if succeeds then .stored
  else if store.limiter.requeues key < store.maxRetries then
    .retried (store.limiter.fail key).1
  else .dropped

/-- Something that happened to a store. -/
inductive Event where
  | added (record : Record) (isNew : Bool)
  /-- The worker looked for an item. -/
  | looked (handed : WorkQueue.Handed Key Record)
  /-- The worker tried to store the record that it held. -/
  | tried (key : Key) (record : Record) (attempt : Attempt)
  | waited (span : Nat)
  | stopped

/-- What happened to a store, the latest first. -/
abbrev History := List Event

namespace History

/-- The record most recently added under a key. -/
def latest? (key : Key) : History → Option Record
  | [] => none
  | .added record _ :: history =>
      if record.key = key then some record else latest? key history
  | _ :: history => latest? key history

/-- What happened to the queue of the store. -/
def ofQueue : History → Queue.History Key Record
  | [] => []
  | .added record _ :: history => .added record.key record :: ofQueue history
  | .looked handed :: history => .looked handed :: ofQueue history
  | .tried key record attempt :: history =>
      .reported key (attempt.outcome record) :: ofQueue history
  | .waited span :: history => .waited span :: ofQueue history
  | .stopped :: history => .closed :: ofQueue history

theorem newest?_ofQueue (key : Key) (history : History) :
    history.ofQueue.newest? key = history.latest? key := by
  induction history with
  | nil => rfl
  | cons event history ih =>
      cases event with
      | added record isNew =>
          rw [ofQueue, Queue.History.newest?, latest?, ih]
      | _ => exact ih

theorem key_of_latest? {key : Key} {record : Record} {history : History}
    (isLatest : history.latest? key = some record) : record.key = key := by
  induction history with
  | nil => cases isLatest
  | cons event history ih =>
      cases event with
      | added other isNew =>
          by_cases same : other.key = key
          · rw [latest?, if_pos same] at isLatest
            cases isLatest
            exact same
          · rw [latest?, if_neg same] at isLatest
            exact ih isLatest
      | _ => exact ih isLatest

end History

/-- What happened to a store with one worker, the item that the worker holds and
the store after that. -/
inductive Serves (initial : Store) :
    History → Option (Key × Record) → Store → Prop where
  | start : Serves initial [] none initial
  | add {history : History} {held : Option (Key × Record)} {store : Store}
      (record : Record) :
      Serves initial history held store →
      Serves initial (.added record (store.add record).1 :: history) held
        (store.add record).2
  | look {history : History} {store : Store}
      {handed : WorkQueue.Handed Key Record} {rest : WorkQueue Key Record} :
      Serves initial history none store →
      store.queue.Hands store.clock handed rest →
      Serves initial (.looked handed :: history) handed.item?
        { store with queue := rest }
  | finish {history : History} {key : Key} {record : Record} {store : Store}
      (succeeds : Bool) :
      Serves initial history (some (key, record)) store →
      Serves initial
        (.tried key record (store.attempt key succeeds) :: history) none
        (store.finish key record succeeds)
  /-- An attempt that runs out of time fails, and may have stored its record. -/
  | overrun {history : History} {key : Key} {record : Record}
      {store : Store} :
      Serves initial history (some (key, record)) store →
      Serves initial (.tried key record (store.attempt key false) :: history)
        none
        { store.finish key record false with
          database := store.database.put record }
  | wait {history : History} {held : Option (Key × Record)} {store : Store}
      (span : Nat) :
      Serves initial history held store →
      Serves initial (.waited span :: history) held
        { store with clock := store.clock + span }
  | stop {history : History} {held : Option (Key × Record)} {store : Store} :
      Serves initial history held store →
      Serves initial (.stopped :: history) held store.stop

/-! ## What an attempt changes -/

theorem queue_finish (store : Store) (key : Key) (record : Record)
    (succeeds : Bool) :
    (store.finish key record succeeds).queue =
      store.queue.done key ((store.attempt key succeeds).outcome record)
        store.clock := by
  cases succeeds with
  | true => rfl
  | false =>
      by_cases retries : store.limiter.requeues key < store.maxRetries
      · simp [finish, fail, attempt, Attempt.outcome, retries]
      · simp [finish, fail, attempt, Attempt.outcome, retries]

theorem clock_finish (store : Store) (key : Key) (record : Record)
    (succeeds : Bool) :
    (store.finish key record succeeds).clock = store.clock := by
  cases succeeds with
  | true => rfl
  | false =>
      rw [finish, if_neg Bool.false_ne_true, fail]
      split <;> rfl

theorem database_finish (store : Store) (key : Key) (record : Record)
    (succeeds : Bool) :
    (store.finish key record succeeds).database =
      if succeeds then store.database.put record else store.database := by
  cases succeeds with
  | true => rfl
  | false =>
      rw [finish, if_neg Bool.false_ne_true, fail]
      split <;> rfl

theorem attempt_failed_ne_stored (store : Store) (key : Key) :
    store.attempt key false ≠ .stored := by
  rw [attempt, if_neg Bool.false_ne_true]
  intro stored
  split at stored <;> cases stored

/-- Every attempt that ends in a drop is counted. -/
theorem no_drop_of_finish {store : Store} {key : Key} {record : Record}
    {succeeds : Bool}
    (noDrop : (store.finish key record succeeds).dropped = 0) :
    store.dropped = 0 ∧ store.attempt key succeeds ≠ .dropped := by
  cases succeeds with
  | true => exact ⟨noDrop, by simp [attempt]⟩
  | false =>
      by_cases retries : store.limiter.requeues key < store.maxRetries
      · simp [finish, fail, retries] at noDrop
        simp [attempt, retries, noDrop]
      · simp [finish, fail, retries] at noDrop

/-! ## The queue of a store -/

/-- The queue of a store goes through a history in which the worker holds at
most one item, and retries carry the record that was handed out. -/
structure Follows (history : History) (held : Option (Key × Record))
    (store : Store) : Prop where
  reaches : Reaches history.ofQueue store.clock store.queue
  faithful : history.ofQueue.Faithful
  held_iff : ∀ key record,
    history.ofQueue.held? key = some record ↔ held = some (key, record)
  held_key : ∀ key record, held = some (key, record) → record.key = key

namespace Follows

variable {history : History} {held : Option (Key × Record)} {store : Store}

theorem traced (follows : Follows history held store) :
    Queue.Traced history.ofQueue store.queue :=
  follows.reaches.traced follows.faithful

/-- What a worker may be handed is the record most recently added under its
key. -/
theorem latest_of_hands (follows : Follows history held store)
    {key : Key} {record : Record} {rest : WorkQueue Key Record}
    (hands : store.queue.Hands store.clock (.item key record) rest) :
    history.latest? key = some record := by
  rw [← History.newest?_ofQueue]
  exact (follows.traced.item_of_hands follows.reaches.accounted hands).2

theorem look (follows : Follows history none store)
    {handed : WorkQueue.Handed Key Record} {rest : WorkQueue Key Record}
    (hands : store.queue.Hands store.clock handed rest) :
    Follows (.looked handed :: history) handed.item?
      { store with queue := rest } := by
  have free : ∀ key, history.ofQueue.held? key = none := by
    intro key
    refine Option.eq_none_iff_forall_ne_some.mpr fun record isHeld => ?_
    cases (follows.held_iff key record).mp isHeld
  constructor
  case reaches => exact follows.reaches.look hands
  case faithful => exact follows.faithful
  case held_iff =>
    intro other record
    cases handed with
    | item key value =>
        rw [History.ofQueue, Queue.History.held?, free other]
        by_cases same : key = other
        · simp [same]
        · simp [same]
    | nothing => exact follows.held_iff other record
    | closed => exact follows.held_iff other record
  case held_key =>
    intro key record isHeld
    cases handed with
    | item _ _ =>
        cases isHeld
        exact History.key_of_latest? (follows.latest_of_hands hands)
    | nothing => cases isHeld
    | closed => cases isHeld

theorem mem_processing {key : Key} {record : Record}
    (follows : Follows history (some (key, record)) store) :
    key ∈ store.queue.processing := by
  rw [follows.reaches.mem_processing, (follows.held_iff key record).mpr rfl]
  rfl

/-- The record that is held is the latest one, or a later one is kept. -/
theorem latest_of_held {key : Key} {record : Record}
    (follows : Follows history (some (key, record)) store) :
    history.latest? key = some record ∨ store.queue.kept key ≠ [] := by
  rw [← History.newest?_ofQueue]
  exact follows.traced.held_newest key record
    ((follows.held_iff key record).mpr rfl)

theorem latest_ne_none_of_held {key : Key} {record : Record}
    (follows : Follows history (some (key, record)) store) :
    history.latest? key ≠ none := by
  rcases follows.latest_of_held with isLatest | something
  · rw [isLatest]
    exact Option.some_ne_none record
  · obtain ⟨later, isKept⟩ := List.exists_mem_of_ne_nil _ something
    rw [← History.newest?_ofQueue,
      follows.traced.kept_newest key later isKept]
    exact Option.some_ne_none later

theorem finish {key : Key} {record : Record}
    (follows : Follows history (some (key, record)) store) (succeeds : Bool) :
    Follows (.tried key record (store.attempt key succeeds) :: history) none
      (store.finish key record succeeds) := by
  have isHeld := (follows.held_iff key record).mpr rfl
  constructor
  case reaches =>
    rw [queue_finish, clock_finish]
    exact follows.reaches.report key _ (by rw [isHeld]; rfl)
  case faithful =>
    cases attempted : store.attempt key succeeds with
    | retried delay => exact ⟨isHeld, follows.faithful⟩
    | stored => exact follows.faithful
    | dropped => exact follows.faithful
  case held_iff =>
    intro other old
    have otherHeld := follows.held_iff other old
    rw [History.ofQueue, Queue.History.held?]
    by_cases same : key = other
    · simp [same]
    · simp [same, otherHeld]
  case held_key =>
    intro other old isNone
    cases isNone

end Follows

/-- After every run of a store with one worker. -/
theorem Serves.follows {initial : Store} (empty : initial.queue = {})
    (atStart : initial.clock = 0) {history : History}
    {held : Option (Key × Record)} {store : Store}
    (serves : Serves initial history held store) :
    Follows history held store := by
  induction serves with
  | start =>
      refine ⟨?_, trivial, ?_, ?_⟩
      · rw [empty, atStart]
        exact .start
      · simp [History.ofQueue, Queue.History.held?]
      · simp
  | add record _ ih =>
      exact ⟨ih.reaches.add _ record, ih.faithful, ih.held_iff, ih.held_key⟩
  | look _ hands ih => exact ih.look hands
  | finish succeeds _ ih => exact ih.finish succeeds
  | overrun _ ih =>
      have failed := ih.finish false
      exact ⟨failed.reaches, failed.faithful, failed.held_iff,
        failed.held_key⟩
  | wait span _ ih =>
      exact ⟨ih.reaches.wait span, ih.faithful, ih.held_iff, ih.held_key⟩
  | stop _ ih =>
      exact ⟨ih.reaches.close, ih.faithful, ih.held_iff, ih.held_key⟩

theorem Serves.take {initial : Store} {history : History} {store : Store}
    (serves : Serves initial history none store) :
    Serves initial (.looked store.take.1 :: history) store.take.1.item?
      store.take.2 :=
  serves.look (WorkQueue.hands_get store.queue store.clock)

/-- `Store.work` takes the steps of one worker. -/
theorem Serves.work {initial : Store} (limit : Nat) {history : History}
    {store : Store} (serves : Serves initial history none store) :
    ∃ later, Serves initial (later ++ history) none (store.work limit) := by
  induction limit generalizing history store with
  | zero => exact ⟨[], serves⟩
  | succ limit ih =>
      have looked := serves.take
      rw [Store.work]
      generalize store.take = taken at looked ⊢
      obtain ⟨handed, rest⟩ := taken
      cases handed with
      | item key record =>
          obtain ⟨later, result⟩ := ih (looked.finish rest.isOpen)
          exact ⟨later ++ [_, _], by simpa using result⟩
      | closed => exact ⟨[_], looked⟩
      | nothing =>
          cases next : rest.queue.nextDue? with
          | none => exact ⟨[_], by simpa [next] using looked⟩
          | some due =>
              have waited := looked.wait (due - rest.clock)
              have later : rest.clock + (due - rest.clock) =
                  max rest.clock due := by omega
              rw [later] at waited
              obtain ⟨further, result⟩ := ih waited
              exact ⟨further ++ [_, _], by simpa [next] using result⟩

end Store
end ClusterTrace
