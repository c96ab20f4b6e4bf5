import ClusterTrace.Proofs.Storage.LatestRecords
import Mathlib.Logic.Relation

/-!
# Stores that work without failures

`Tracked` is what is known of a store whose worker has not failed: its rows are
the latest records, but for the keys that its queue owes.  No step of the worker
makes it owe a key, `Works.tracked`, and draining leaves nothing outstanding,
`IsReady.worksOn_drain`.
-/

namespace ClusterTrace

open Queue (WorkQueue)

/-! ## Keys that are not owed -/

namespace Queue.WorkQueue

variable {κ α : Type} [DecidableEq κ] {queue rest : WorkQueue κ α}
  {key other : κ}

theorem owes_of_owes_add (different : other ≠ key) {value : α}
    (owes : (queue.add key value).2.Owes other) : queue.Owes other := by
  rw [Owes, kept_add_of_ne queue different, processing_add] at owes
  exact owes

/-- A look into the queue brings no new key. -/
theorem Accounted.owes_of_owes_hands (accounted : queue.Accounted) {now : Nat}
    {handed : Handed κ α} (hands : queue.Hands now handed rest)
    (owes : rest.Owes key) : queue.Owes key := by
  rcases accounted.hands_cases hands with
    ⟨_, rfl⟩ | ⟨due, promotable, ⟨_, rfl⟩ |
      ⟨taken, value, later, _, order, found, rfl⟩⟩
  · exact owes
  · rw [Owes, accounted.kept_promote promotable, processing_promote] at owes
    exact owes
  · have promoted := accounted.promote promotable
    rw [Owes, promoted.kept_start order] at owes
    by_cases same : key = taken
    · subst same
      left
      rw [← accounted.kept_promote promotable, promoted.kept_of_pending found]
      exact List.cons_ne_nil value []
    · rw [if_neg same, accounted.kept_promote promotable,
        processing_promote] at owes
      refine owes.imp_right fun member => ?_
      simpa [same] using member

theorem owes_of_owes_done (member : key ∈ queue.processing)
    {outcome : Outcome α} {now : Nat}
    (owes : (queue.done key outcome now).Owes other) : queue.Owes other := by
  by_cases same : other = key
  · subst same
    exact .inr member
  · rw [Owes, kept_done_of_ne queue same, processing_done] at owes
    exact owes.imp_right fun isHeld => List.mem_of_mem_filter isHeld

/-! ## Queues at rest -/

/-- No key is held, nothing waits, and items are handed out. -/
structure AtRest (queue : WorkQueue κ α) : Prop where
  processing : queue.processing = []
  dirty : queue.dirty = []
  waiting : queue.waiting = []
  isOpen : queue.isClosed = false

namespace AtRest

omit [DecidableEq κ] in
theorem empty : ({} : WorkQueue κ α).AtRest :=
  ⟨rfl, rfl, rfl, rfl⟩

theorem add (atRest : queue.AtRest) (key : κ) (value : α) :
    (queue.add key value).2.AtRest := by
  rcases add_cases queue key value with
    ⟨_, result⟩ | ⟨_, old, due, waits, _⟩ | ⟨_, _, isHeld, _⟩ |
    ⟨_, _, isHeld, _⟩ | ⟨_, _, _, result⟩
  · rw [result]
    exact ⟨atRest.processing, atRest.dirty, atRest.waiting, atRest.isOpen⟩
  · rw [atRest.waiting] at waits
    cases waits
  · rw [atRest.processing] at isHeld
    cases isHeld
  · rw [atRest.processing] at isHeld
    cases isHeld
  · rw [result]
    exact ⟨atRest.processing, atRest.dirty, atRest.waiting, atRest.isOpen⟩

theorem of_done (alone : queue.processing = [key]) (dirty : queue.dirty = [])
    (waiting : queue.waiting = []) (isOpen : queue.isClosed = false)
    (now : Nat) : (queue.done key .finished now).AtRest := by
  rcases done_cases queue key .finished now with
    ⟨value, found, _⟩ | ⟨_, _, result⟩ | ⟨_, _, _, retried, _⟩
  · rw [dirty] at found
    cases found
  · rw [result]
    exact ⟨by simp [alone], dirty, waiting, isOpen⟩
  · cases retried

/-- A taker gets nothing if nothing is outstanding, or an item after which one
unit of work less is. -/
theorem get_cases (atRest : queue.AtRest) (accounted : queue.Accounted)
    (now : Nat) :
    (queue.outstanding = 0 ∧ queue.get now = (.nothing, queue)) ∨
      ∃ key value rest, queue.get now = (.item key value, rest) ∧
        key ∈ rest.processing ∧ (rest.done key .finished now).AtRest ∧
        (rest.done key .finished now).outstanding + 1 = queue.outstanding := by
  have isPop : queue.get now = queue.pop := by
    rw [get, if_neg (by simp [atRest.isOpen]), due, atRest.waiting]
    rfl
  rw [isPop]
  rcases accounted.pop_cases with
    ⟨order, result⟩ | ⟨key, value, later, order, found, result⟩
  · left
    refine ⟨?_, result⟩
    exact of_decide_eq_true (accounted.isIdle_iff.mpr
      ⟨accounted.pending_eq_nil order, atRest.processing, atRest.dirty,
        atRest.waiting⟩)
  · right
    refine ⟨key, value, _, result, List.mem_cons_self, ?_, ?_⟩
    · apply of_done
      · simp [atRest.processing]
      · exact atRest.dirty
      · exact atRest.waiting
      · exact atRest.isOpen
    · exact (accounted.start order).outstanding_done List.mem_cons_self
        .finished now

end AtRest

end Queue.WorkQueue

namespace Store

variable {database : Database} {history : History}
  {held held' : Option (Key × Record)} {store store' : Store}

/-! ## Steps of a worker -/

/-- What a worker does whose attempts succeed: it looks for an item, stores the
record that it holds, or time passes. -/
inductive Works :
    Option (Key × Record) → Store → Option (Key × Record) → Store → Prop where
  | look {store : Store} {handed : WorkQueue.Handed Key Record}
      {rest : WorkQueue Key Record} :
      store.queue.Hands store.clock handed rest →
      Works none store handed.item? { store with queue := rest }
  | finish (key : Key) (record : Record) (store : Store) :
      Works (some (key, record)) store none (store.finish key record true)
  | wait (span : Nat) (held : Option (Key × Record)) (store : Store) :
      Works held store held { store with clock := store.clock + span }

/-- What is known of a store that has dropped no record: rows of keys that are
not owed are the latest records. -/
structure Tracked (database : Database) (history : History)
    (held : Option (Key × Record)) (store : Store) : Prop where
  follows : Follows history held store
  written : Written database history store
  noDrop : store.dropped = 0

theorem Tracked.start {initial : Store} (empty : initial.queue = {})
    (atStart : initial.clock = 0) (keyed : initial.database.Keyed)
    (noDrop : initial.dropped = 0) :
    Tracked initial.database [] none initial := by
  have serves : Serves initial [] none initial := .start
  exact ⟨serves.follows empty atStart, serves.written empty atStart keyed,
    noDrop⟩

theorem Tracked.add (tracked : Tracked database history held store)
    (record : Record) :
    Tracked database (.added record (store.add record).1 :: history) held
      (store.add record).2 := by
  have follows := tracked.follows
  constructor
  case follows =>
    exact ⟨follows.reaches.add _ record, follows.faithful, follows.held_iff,
      follows.held_key⟩
  case written =>
    exact tracked.written.add follows.reaches.accounted record
  case noDrop => exact tracked.noDrop

theorem Tracked.congr (tracked : Tracked database history held store)
    (isOpen : Bool) :
    Tracked database history held { store with isOpen := isOpen } := by
  have follows := tracked.follows
  have written := tracked.written
  exact ⟨⟨follows.reaches, follows.faithful, follows.held_iff,
    follows.held_key⟩, ⟨written.keyed, written.untouched, written.settled⟩,
    tracked.noDrop⟩

/-- A worker adds no record, and no key comes to be owed. -/
theorem Works.tracked (works : Works held store held' store')
    (tracked : Tracked database history held store) :
    store'.isOpen = store.isOpen ∧
      (∀ key, store'.queue.Owes key → store.queue.Owes key) ∧
      ∃ history', Tracked database history' held' store' ∧
        ∀ key, history'.latest? key = history.latest? key := by
  have follows := tracked.follows
  have accounted := follows.reaches.accounted
  cases works with
  | look hands =>
      refine ⟨rfl, fun key => accounted.owes_of_owes_hands hands, _,
        ⟨follows.look hands, ?_, tracked.noDrop⟩, fun key => rfl⟩
      exact tracked.written.look accounted hands
  | finish key record =>
      refine ⟨rfl, fun other => ?_, _, ⟨follows.finish true, ?_, ?_⟩,
        fun other => rfl⟩
      · exact WorkQueue.owes_of_owes_done follows.mem_processing
      · exact tracked.written.finish follows true
      · exact tracked.noDrop
  | wait span =>
      refine ⟨rfl, fun key owes => owes, .waited span :: history,
        ⟨?_, ?_, tracked.noDrop⟩, fun key => rfl⟩
      · exact ⟨follows.reaches.wait span, follows.faithful, follows.held_iff,
          follows.held_key⟩
      · exact ⟨tracked.written.keyed, tracked.written.untouched,
          tracked.written.settled⟩

/-- The rows of a key that is not owed are the record most recently added, or
what they were before. -/
theorem Tracked.rowsAt_of_not_owes
    (tracked : Tracked database history held store)
    {key : Key} (notMigration : key.kind ≠ .migration)
    (notOwed : ¬ store.queue.Owes key) :
    store.database.rowsAt key =
      match history.latest? key with
      | some record => [record]
      | none => database.rowsAt key := by
  cases isLatest : history.latest? key with
  | none => exact tracked.written.untouched key notMigration isLatest
  | some record =>
      exact (tracked.written.settled tracked.noDrop key record notMigration
        isLatest).resolve_left notOwed

/-! ## Draining -/

/-- What a worker does in any number of steps. -/
abbrev WorksOn :
    Option (Key × Record) × Store → Option (Key × Record) × Store → Prop :=
  Relation.ReflTransGen fun before after =>
    Works before.1 before.2 after.1 after.2

theorem Works.andThen {last : Option (Key × Record) × Store}
    (works : Works held store held' store')
    (later : WorksOn (held', store') last) :
    WorksOn (held, store) last :=
  Relation.ReflTransGen.head works later

/-- The accounts of the queue are right, and nothing is under way. -/
structure IsReady (store : Store) : Prop where
  accounted : store.queue.Accounted
  atRest : store.queue.AtRest

theorem isOpen_add (store : Store) (record : Record) :
    (store.add record).2.isOpen = store.isOpen := by
  rfl

theorem IsReady.add (ready : IsReady store) (record : Record) :
    IsReady (store.add record).2 :=
  ⟨ready.accounted.add record.key record, ready.atRest.add record.key record⟩

theorem IsReady.addAll (ready : IsReady store) (records : List Record) :
    IsReady (store.addAll records).2 ∧
      (store.addAll records).2.isOpen = store.isOpen := by
  induction records generalizing store with
  | nil => exact ⟨ready, rfl⟩
  | cons record records induction =>
      obtain ⟨stillReady, sameOpen⟩ := induction (ready.add record)
      exact ⟨stillReady, sameOpen.trans (isOpen_add store record)⟩

/-- A worker takes nothing if nothing is outstanding, or a record after which
less is. -/
theorem IsReady.take_cases (ready : IsReady store) :
    (store.outstanding = 0 ∧ store.take = (.nothing, store)) ∨
      ∃ key record taken, store.take = (.item key record, taken) ∧
        Works none store (some (key, record)) taken ∧
        taken.isOpen = store.isOpen ∧
        IsReady (taken.finish key record true) ∧
        (taken.finish key record true).outstanding + 1 =
          store.outstanding := by
  have accounted := ready.accounted
  have hands := WorkQueue.hands_get store.queue store.clock
  rw [take]
  rcases ready.atRest.get_cases accounted store.clock with
    ⟨nothing, result⟩ | ⟨key, record, rest, result, isHeld, after, fewer⟩
  · left
    rw [result]
    exact ⟨nothing, rfl⟩
  · right
    rw [result] at hands ⊢
    have stillAccounted :=
      (accounted.hands hands).done isHeld .finished store.clock
    exact ⟨key, record, _, rfl, .look hands, rfl, ⟨stillAccounted, after⟩,
      fewer⟩

/-- A worker at an open store comes to the end of its work. -/
theorem IsReady.worksOn_work {limit : Nat} (ready : IsReady store)
    (isOpen : store.isOpen = true) (enough : store.outstanding < limit) :
    WorksOn (none, store) (none, store.work limit) ∧
      (store.work limit).outstanding = 0 ∧ IsReady (store.work limit) := by
  induction limit generalizing store with
  | zero => cases enough
  | succ limit induction =>
      rw [work]
      rcases ready.take_cases with
        ⟨nothing, result⟩ |
        ⟨key, record, taken, result, looks, same, after, fewer⟩
      · have noneDue : store.queue.nextDue? = none := by
          rw [WorkQueue.nextDue?, ready.atRest.waiting]
          rfl
        rw [result]
        dsimp only
        rw [noneDue]
        exact ⟨.refl, nothing, ready⟩
      · rw [isOpen] at same
        rw [result]
        dsimp only
        rw [same]
        -- A record that is taken and stored leaves one less outstanding.
        obtain ⟨works, done, stillReady⟩ := induction after same (by omega)
        have finishes : Works (some (key, record)) taken none
            (taken.finish key record true) := .finish key record taken
        exact ⟨looks.andThen (finishes.andThen works), done, stillReady⟩

theorem IsReady.worksOn_drain (ready : IsReady store)
    (isOpen : store.isOpen = true) :
    WorksOn (none, store) (none, store.drain) ∧
      store.drain.outstanding = 0 ∧ IsReady store.drain := by
  apply ready.worksOn_work isOpen
  have atLeast : 2 * store.outstanding ≤
      2 * store.outstanding * (store.maxRetries + 1) :=
    Nat.le_mul_of_pos_right _ (Nat.succ_pos _)
  omega

end Store
end ClusterTrace
