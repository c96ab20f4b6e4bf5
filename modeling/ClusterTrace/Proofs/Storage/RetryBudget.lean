import ClusterTrace.Proofs.Queue.Failures
import ClusterTrace.Proofs.Queue.Progress
import ClusterTrace.Proofs.Storage.AcceptedRecords
import ClusterTrace.Proofs.Storage.TakenRecords

/-!
# The budget of retries

The limiter counts, for each key, the attempts that failed in a row since the
last one that ended in a success or a drop.  Only keys with work have a count,
and no count is above the number of retries.  So each unit of work allows that
many attempts and one more, less the failures that are counted already:
`attemptsLeft` falls with every attempt and bounds how many there are until
nothing is outstanding, `retries_of_serves`.
-/

namespace ClusterTrace.Store

open Queue (WorkQueue)

namespace History

/-- How many attempts at a key failed in a row, with no success and no drop in
between. -/
def failuresInARow (key : Key) : History → Nat
  | [] => 0
  | .tried k _ attempt :: history =>
      if k = key then
        match attempt with
        | .retried _ => failuresInARow key history + 1
        | .stored => 0
        | .dropped => 0
      else failuresInARow key history
  | _ :: history => failuresInARow key history

/-- How many attempts were made. -/
def attempts : History → Nat
  | [] => 0
  | .tried _ _ _ :: history => attempts history + 1
  | _ :: history => attempts history

end History

/-- No count of failures is above the number of retries, and only keys with work
have one. -/
structure WithinBudget (maxRetries : Nat) (store : Store) : Prop where
  bounded : ∀ key, store.limiter.requeues key ≤ maxRetries
  placed : ∀ key, 0 < store.limiter.requeues key →
    key ∈ store.queue.pending.keys ∨ key ∈ store.queue.processing ∨
      key ∈ store.queue.waiting.keys

/-- The store after the counts of an attempt, before the queue is told of it. -/
def settle (store : Store) (key : Key) (record : Record) (succeeds : Bool) :
    Store :=
  { store.finish key record succeeds with queue := store.queue }

variable {initial : Store} {history : History} {held : Option (Key × Record)}
  {store : Store}

/-! ## What an attempt counts -/

theorem maxRetries_finish (store : Store) (key : Key) (record : Record)
    (succeeds : Bool) :
    (store.finish key record succeeds).maxRetries = store.maxRetries := by
  cases succeeds with
  | true => rfl
  | false =>
      rw [finish, if_neg Bool.false_ne_true, fail]
      split <;> rfl

/-- An attempt clears the count of its key, or adds to it. -/
theorem limiter_finish_cases (store : Store) (key : Key) (record : Record)
    (succeeds : Bool) :
    ((store.attempt key succeeds).outcome record = .finished ∧
      (store.finish key record succeeds).limiter = store.limiter.forget key) ∨
    ∃ delay, store.attempt key succeeds = .retried delay ∧
      store.limiter.requeues key < store.maxRetries ∧
      (store.finish key record succeeds).limiter =
        (store.limiter.fail key).2 := by
  cases succeeds with
  | true => exact .inl ⟨rfl, rfl⟩
  | false =>
      by_cases retries : store.limiter.requeues key < store.maxRetries
      · right
        refine ⟨(store.limiter.fail key).1, ?_, retries, ?_⟩
        · simp [attempt, retries]
        · simp [finish, fail, retries]
      · left
        constructor
        · simp [attempt, retries, Attempt.outcome]
        · simp [finish, fail, retries]

theorem attempt_eq_dropped_iff {key : Key}
    (bounded : store.limiter.requeues key ≤ store.maxRetries)
    (succeeds : Bool) :
    store.attempt key succeeds = .dropped ↔
      store.attempt key succeeds ≠ .stored ∧
        store.limiter.requeues key = store.maxRetries := by
  cases succeeds with
  | true => simp [attempt]
  | false =>
      by_cases retries : store.limiter.requeues key < store.maxRetries
      · simp [attempt, retries, Nat.ne_of_lt retries]
      · have spent : store.limiter.requeues key = store.maxRetries := by omega
        simp [attempt, spent]

namespace History

theorem failuresInARow_of_ne {key other : Key} (different : other ≠ key)
    (record : Record) (attempt : Attempt) (history : History) :
    failuresInARow other (.tried key record attempt :: history) =
      failuresInARow other history :=
  if_neg (Ne.symm different)

theorem failuresInARow_of_finished {attempt : Attempt} {record : Record}
    (finished : attempt.outcome record = .finished) (key : Key)
    (history : History) :
    failuresInARow key (.tried key record attempt :: history) = 0 := by
  cases attempt with
  | retried delay => cases finished
  | stored => exact if_pos rfl
  | dropped => exact if_pos rfl

theorem failuresInARow_of_retried (key : Key) (record : Record) (delay : Nat)
    (history : History) :
    failuresInARow key (.tried key record (.retried delay) :: history) =
      failuresInARow key history + 1 :=
  if_pos rfl

end History

/-! ## Counts and work -/

/-- The counts are the failures in a row, they are within the budget, and their
keys have work. -/
structure Counted (history : History) (store : Store) : Prop where
  distinct : store.limiter.failures.keys.Nodup
  owed : ∀ key ∈ store.limiter.failures.keys, store.queue.Owes key
  counts : ∀ key, store.limiter.requeues key = history.failuresInARow key
  bounded : ∀ key, store.limiter.requeues key ≤ store.maxRetries

namespace Counted

theorem add (counted : Counted history store)
    (accounted : store.queue.Accounted) (record : Record) :
    Counted (.added record (store.add record).1 :: history)
      (store.add record).2 := by
  refine ⟨counted.distinct, ?_, counted.counts, counted.bounded⟩
  intro key member
  by_cases same : key = record.key
  · subst same
    exact accounted.owes_add_self record.key record
  · exact WorkQueue.owes_add_of_ne same record (counted.owed key member)

theorem look (counted : Counted history store)
    (accounted : store.queue.Accounted)
    {handed : WorkQueue.Handed Key Record} {rest : WorkQueue Key Record}
    (hands : store.queue.Hands store.clock handed rest) :
    Counted (.looked handed :: history) { store with queue := rest } :=
  ⟨counted.distinct,
    fun key member => accounted.owes_of_hands hands (counted.owed key member),
    counted.counts, counted.bounded⟩

theorem finish {key : Key} {record : Record}
    (counted : Counted history store)
    (follows : Follows history (some (key, record)) store)
    (fits : store.maxRetries < Word.limit 32) (succeeds : Bool) :
    Counted (.tried key record (store.attempt key succeeds) :: history)
      (store.finish key record succeeds) := by
  have accounted := follows.reaches.accounted
  have owed : ∀ other ∈ store.limiter.failures.keys, other ≠ key →
      (store.finish key record succeeds).queue.Owes other := by
    intro other member different
    rw [queue_finish]
    exact WorkQueue.owes_done_of_ne different _ _ (counted.owed other member)
  rcases limiter_finish_cases store key record succeeds with
    ⟨finished, limiter⟩ | ⟨delay, retried, inBudget, limiter⟩
  · constructor
    case distinct =>
      rw [limiter]
      exact Assoc.nodup_keys_filter counted.distinct _
    case owed =>
      intro other member
      rw [limiter] at member
      obtain ⟨different, known⟩ := Queue.Backoff.mem_keys_forget member
      exact owed other known different
    case counts =>
      intro other
      rw [limiter]
      by_cases same : other = key
      · subst same
        rw [Queue.Backoff.requeues_forget_self,
          History.failuresInARow_of_finished finished]
      · rw [Queue.Backoff.requeues_forget_of_ne _ same,
          History.failuresInARow_of_ne same]
        exact counted.counts other
    case bounded =>
      intro other
      rw [limiter, maxRetries_finish]
      by_cases same : other = key
      · subst same
        rw [Queue.Backoff.requeues_forget_self]
        exact Nat.zero_le _
      · rw [Queue.Backoff.requeues_forget_of_ne _ same]
        exact counted.bounded other
  · have raised : (store.limiter.fail key).2.requeues key =
        store.limiter.requeues key + 1 := by
      rw [Queue.Backoff.requeues_fail_self]
      omega
    constructor
    case distinct =>
      rw [limiter]
      exact Assoc.nodup_keys_put counted.distinct _ _
    case owed =>
      intro other member
      by_cases same : other = key
      · subst same
        rw [queue_finish, retried]
        refine (accounted.owes_done_self follows.mem_processing _
          _).resolve_left fun ended => ?_
        cases ended.1
      · rw [limiter] at member
        exact owed other
          ((Queue.Backoff.mem_keys_fail member).resolve_left same) same
    case counts =>
      intro other
      rw [limiter, retried]
      by_cases same : other = key
      · subst same
        rw [raised, History.failuresInARow_of_retried, counted.counts other]
      · rw [Queue.Backoff.requeues_fail_of_ne _ same,
          History.failuresInARow_of_ne same]
        exact counted.counts other
    case bounded =>
      intro other
      rw [limiter, maxRetries_finish]
      by_cases same : other = key
      · subst same
        rw [raised]
        exact inBudget
      · rw [Queue.Backoff.requeues_fail_of_ne _ same]
        exact counted.bounded other

theorem withinBudget (counted : Counted history store)
    (accounted : store.queue.Accounted) :
    WithinBudget store.maxRetries store := by
  refine ⟨counted.bounded, fun key failed => ?_⟩
  exact accounted.place_of_owes
    (counted.owed key (Queue.Backoff.mem_keys_of_requeues failed))

theorem failures_eq_nil (counted : Counted history store)
    (accounted : store.queue.Accounted) (drained : store.outstanding = 0) :
    store.limiter.failures = [] := by
  have isIdle : store.queue.isIdle = true := decide_eq_true drained
  have noKey : store.limiter.failures.keys = [] := by
    refine List.eq_nil_iff_forall_not_mem.mpr fun key member => ?_
    exact accounted.not_owes_of_isIdle isIdle key (counted.owed key member)
  exact List.map_eq_nil_iff.mp noKey

theorem total_le (counted : Counted history store)
    (accounted : store.queue.Accounted) :
    store.limiter.total ≤ store.maxRetries * store.outstanding := by
  rw [Nat.mul_comm]
  exact (Assoc.sum_le counted.distinct counted.bounded).trans
    (Nat.mul_le_mul_right _
      (accounted.length_le_outstanding counted.distinct counted.owed))

end Counted

/-- A store that nothing has happened to, and whose retries a word of 32 bits
counts. -/
structure IsFresh (initial : Store) : Prop where
  queue : initial.queue = {}
  clock : initial.clock = 0
  failures : initial.limiter.failures = []
  fits : initial.maxRetries < Word.limit 32

theorem Serves.maxRetries_eq (serves : Serves initial history held store) :
    store.maxRetries = initial.maxRetries := by
  induction serves with
  | start => rfl
  | add record _ ih => exact ih
  | look _ _ ih => exact ih
  | finish succeeds _ ih => rw [maxRetries_finish, ih]
  | overrun _ ih => exact (maxRetries_finish _ _ _ false).trans ih
  | wait span _ ih => exact ih
  | stop _ ih => exact ih

theorem IsFresh.follows (fresh : initial.IsFresh)
    (serves : Serves initial history held store) :
    Follows history held store :=
  serves.follows fresh.queue fresh.clock

theorem IsFresh.fits_of_serves (fresh : initial.IsFresh)
    (serves : Serves initial history held store) :
    store.maxRetries < Word.limit 32 :=
  serves.maxRetries_eq ▸ fresh.fits

theorem Serves.counted (fresh : initial.IsFresh)
    (serves : Serves initial history held store) : Counted history store := by
  induction serves with
  | start =>
      constructor <;>
        simp [Queue.Backoff.requeues, fresh.failures, Assoc.get?,
          History.failuresInARow]
  | add record serves ih =>
      exact ih.add (fresh.follows serves).reaches.accounted record
  | look serves hands ih =>
      exact ih.look (fresh.follows serves).reaches.accounted hands
  | finish succeeds serves ih =>
      exact ih.finish (fresh.follows serves) (fresh.fits_of_serves serves)
        succeeds
  | overrun serves ih =>
      have failed := ih.finish (fresh.follows serves)
        (fresh.fits_of_serves serves) false
      exact ⟨failed.distinct, failed.owed, failed.counts, failed.bounded⟩
  | wait span _ ih => exact ⟨ih.distinct, ih.owed, ih.counts, ih.bounded⟩
  | stop _ ih => exact ⟨ih.distinct, ih.owed, ih.counts, ih.bounded⟩

/-! ## Attempts that are left -/

/-- How many attempts the outstanding work allows. -/
def attemptsLeft (store : Store) : Nat :=
  (store.maxRetries + 1) * store.outstanding - store.limiter.total

theorem Counted.outstanding_le_attemptsLeft (counted : Counted history store)
    (accounted : store.queue.Accounted) :
    store.outstanding ≤ store.attemptsLeft := by
  have counts := counted.total_le accounted
  rw [attemptsLeft, Nat.succ_mul]
  omega

theorem attemptsLeft_look (accounted : store.queue.Accounted)
    {handed : WorkQueue.Handed Key Record} {rest : WorkQueue Key Record}
    (hands : store.queue.Hands store.clock handed rest) :
    attemptsLeft { store with queue := rest } = store.attemptsLeft := by
  rw [attemptsLeft, outstanding, accounted.outstanding_hands hands]
  rfl

/-- Every attempt is one of those that were left.  A success or a drop ends a
unit of work and takes away a count within the budget; a retry adds to its
count. -/
theorem Counted.attemptsLeft_finish {key : Key} {record : Record}
    (counted : Counted history store)
    (follows : Follows history (some (key, record)) store)
    (fits : store.maxRetries < Word.limit 32) (succeeds : Bool) :
    (store.finish key record succeeds).attemptsLeft < store.attemptsLeft := by
  have accounted := follows.reaches.accounted
  have member := follows.mem_processing
  have room : store.limiter.total <
      (store.maxRetries + 1) * store.outstanding := by
    have total := accounted.outstanding_eq
    have positive := List.length_pos_of_mem member
    have counts := counted.total_le accounted
    rw [outstanding] at counts ⊢
    rw [Nat.succ_mul]
    omega
  have fewer : (store.finish key record succeeds).outstanding +
      store.queue.endedUnits key
        ((store.attempt key succeeds).outcome record) = store.outstanding := by
    rw [outstanding, queue_finish]
    exact accounted.outstanding_done member _ _
  rw [attemptsLeft, attemptsLeft, maxRetries_finish]
  rcases limiter_finish_cases store key record succeeds with
    ⟨finished, limiter⟩ | ⟨delay, retried, inBudget, limiter⟩
  · have cleared := Queue.Backoff.total_forget counted.distinct key
    have bounded := counted.bounded key
    rw [finished, WorkQueue.endedUnits] at fewer
    rw [← fewer, Nat.mul_succ] at room ⊢
    rw [limiter]
    omega
  · have raised := store.limiter.total_fail key
    have notMore : (store.maxRetries + 1) *
        (store.finish key record succeeds).outstanding ≤
          (store.maxRetries + 1) * store.outstanding :=
      Nat.mul_le_mul_left _ (by omega)
    rw [limiter]
    omega

theorem Serves.attemptsLeft_finish (fresh : initial.IsFresh) {key : Key}
    {record : Record}
    (serves : Serves initial history (some (key, record)) store)
    (succeeds : Bool) :
    (store.finish key record succeeds).attemptsLeft < store.attemptsLeft :=
  (serves.counted fresh).attemptsLeft_finish (fresh.follows serves)
    (fresh.fits_of_serves serves) succeeds

/-- Until nothing is added any more, at most as many attempts are made as the
outstanding work allowed. -/
theorem Serves.attempts_le (fresh : initial.IsFresh) {earlier : History}
    {heldBefore : Option (Key × Record)} {before : Store}
    (servesBefore : Serves initial earlier heldBefore before)
    {later : History} (noMore : later.added = [])
    (serves : Serves initial (later ++ earlier) held store) :
    later.attempts + store.attemptsLeft ≤
      (initial.maxRetries + 1) * before.outstanding := by
  induction later generalizing held store with
  | nil =>
      -- What is outstanding can be told from the history.
      have accepted :=
        serves.accepted_eq_outstanding_add fresh.queue fresh.clock
      have acceptedBefore :=
        servesBefore.accepted_eq_outstanding_add fresh.queue fresh.clock
      rw [List.nil_append] at accepted
      have same : store.outstanding = before.outstanding := by omega
      rw [History.attempts, attemptsLeft, serves.maxRetries_eq, same]
      omega
  | cons event later ih =>
      rw [List.cons_append] at serves
      cases serves with
      | add record serves => simp [History.added] at noMore
      | look serves hands =>
          have accounted := (fresh.follows serves).reaches.accounted
          rw [attemptsLeft_look accounted hands]
          exact ih noMore serves
      | @finish _ key record previous succeeds serves =>
          have fewer := serves.attemptsLeft_finish fresh succeeds
          have bound := ih noMore serves
          rw [History.attempts]
          omega
      | @overrun _ key record previous serves =>
          have fewer := serves.attemptsLeft_finish fresh false
          have bound := ih noMore serves
          change History.attempts later + 1 +
            (previous.finish key record false).attemptsLeft ≤ _
          omega
      | wait span serves =>
          have bound := ih noMore serves
          exact bound
      | stop serves =>
          have bound := ih noMore serves
          exact bound

theorem Serves.exists_before {later earlier : History}
    (serves : Serves initial (later ++ earlier) held store) :
    ∃ heldBefore before, Serves initial earlier heldBefore before := by
  induction later generalizing held store with
  | nil => exact ⟨held, store, serves⟩
  | cons event later ih =>
      rw [List.cons_append] at serves
      cases serves with
      | add record serves => exact ih serves
      | look serves hands => exact ih serves
      | finish succeeds serves => exact ih serves
      | overrun serves => exact ih serves
      | wait span serves => exact ih serves
      | stop serves => exact ih serves

/-- A key is dropped by the failure that follows as many failures in a row as
there are retries. -/
theorem Serves.dropped_iff (fresh : initial.IsFresh)
    {later earlier : History} {key : Key} {record : Record}
    {attempt : Attempt}
    (serves : Serves initial
      (later ++ .tried key record attempt :: earlier) held store) :
    attempt = .dropped ↔
      attempt ≠ .stored ∧
        earlier.failuresInARow key = initial.maxRetries := by
  have decided : ∀ (before : Store) (succeeds : Bool),
      Serves initial earlier (some (key, record)) before →
      (before.attempt key succeeds = .dropped ↔
        before.attempt key succeeds ≠ .stored ∧
          earlier.failuresInARow key = initial.maxRetries) := by
    intro before succeeds servesBefore
    have counted := servesBefore.counted fresh
    rw [← counted.counts, ← servesBefore.maxRetries_eq]
    exact attempt_eq_dropped_iff (counted.bounded key) succeeds
  obtain ⟨_, after, servesAfter⟩ := serves.exists_before
  cases servesAfter with
  | finish succeeds servesBefore => exact decided _ succeeds servesBefore
  | overrun servesBefore => exact decided _ false servesBefore

/-! ## Between the counts and the queue -/

theorem add_settle (store : Store) (key : Key) (record : Record)
    (succeeds : Bool) (other : Record) :
    ((store.settle key record succeeds).add other).2 =
      (store.add other).2.settle key record succeeds := by
  have same : ∀ queue : WorkQueue Key Record,
      { store.finish key record succeeds with queue := queue } =
        ({ store with queue := queue } : Store).settle key record succeeds := by
    intro queue
    cases succeeds with
    | true => rfl
    | false =>
        by_cases retries : store.limiter.requeues key < store.maxRetries
        · simp [settle, finish, fail, retries]
        · simp [settle, finish, fail, retries]
  exact same _

theorem Serves.addAll (serves : Serves initial history held store)
    (records : List Record) :
    ∃ later, Serves initial (later ++ history) held
      (store.addAll records).2 := by
  induction records generalizing history store with
  | nil => exact ⟨[], serves⟩
  | cons record records ih =>
      obtain ⟨later, result⟩ := ih (serves.add record)
      exact ⟨later ++ [_], by simpa [Store.addAll] using result⟩

/-- Records that are added meanwhile may as well have been added before. -/
theorem addAll_settle (store : Store) (key : Key) (record : Record)
    (succeeds : Bool) (records : List Record) :
    ((store.settle key record succeeds).addAll records).2 =
      (store.addAll records).2.settle key record succeeds := by
  induction records generalizing store with
  | nil => rfl
  | cons other records ih =>
      have first := ih (store.add other).2
      rw [← add_settle] at first
      exact first

theorem Counted.withinBudget_settle {key : Key} {record : Record}
    (counted : Counted history store)
    (follows : Follows history (some (key, record)) store)
    (fits : store.maxRetries < Word.limit 32) (succeeds : Bool) :
    WithinBudget store.maxRetries (store.settle key record succeeds) := by
  have after := counted.finish follows fits succeeds
  have accounted := follows.reaches.accounted
  refine ⟨fun other => ?_, fun other failed => ?_⟩
  · rw [← maxRetries_finish store key record succeeds]
    exact after.bounded other
  · by_cases same : other = key
    · subst same
      exact .inr (.inl follows.mem_processing)
    · have owes := after.owed other
        (Queue.Backoff.mem_keys_of_requeues failed)
      rw [queue_finish, WorkQueue.Owes,
        WorkQueue.kept_done_of_ne store.queue same,
        WorkQueue.processing_done] at owes
      refine accounted.place_of_owes (owes.imp_right fun isHeld => ?_)
      exact List.mem_of_mem_filter isHeld

/-! ## Draining -/

theorem Follows.processing_eq_nil (follows : Follows history none store) :
    store.queue.processing = [] := by
  refine List.eq_nil_iff_forall_not_mem.mpr fun key member => ?_
  rw [follows.reaches.mem_processing] at member
  obtain ⟨record, isHeld⟩ := Option.isSome_iff_exists.mp member
  cases (follows.held_iff key record).mp isHeld

/-- A free worker at a store that is not stopped takes an item, or there is
none. -/
theorem Serves.take_cases (fresh : initial.IsFresh)
    (serves : Serves initial history none store)
    (isOpen : store.queue.isClosed = false) :
    (∃ key record taken, store.take = (.item key record, taken) ∧
      Serves initial (.looked (.item key record) :: history)
        (some (key, record)) taken ∧
      taken.queue.isClosed = false ∧
      taken.attemptsLeft = store.attemptsLeft) ∨
    (store.take = (.nothing, store) ∧ ¬ store.queue.HasItem store.clock) := by
  have accounted := (fresh.follows serves).reaches.accounted
  have hands := WorkQueue.hands_get store.queue store.clock
  rw [Store.take]
  generalize store.queue.get store.clock = taken at hands
  obtain ⟨handed, rest⟩ := taken
  rcases accounted.hands_cases_of_isOpen isOpen hands with
    ⟨key, record, rfl⟩ | ⟨rfl, rfl, noItem⟩
  · left
    exact ⟨key, record, _, rfl, serves.look hands,
      (accounted.isClosed_hands hands).trans isOpen,
      attemptsLeft_look accounted hands⟩
  · exact .inr ⟨rfl, noItem⟩

/-- A wait is followed by an attempt, so that each attempt takes at most two
steps. -/
theorem Serves.outstanding_work (fresh : initial.IsFresh) (limit : Nat)
    (serves : Serves initial history none store)
    (isOpen : store.queue.isClosed = false)
    (enough : 2 * store.attemptsLeft ≤ limit ∨
      store.queue.HasItem store.clock ∧ 2 * store.attemptsLeft ≤ limit + 1) :
    (store.work limit).outstanding = 0 := by
  induction limit generalizing history store with
  | zero =>
      have accounted := (fresh.follows serves).reaches.accounted
      have bound :=
        (serves.counted fresh).outstanding_le_attemptsLeft accounted
      rw [Store.work]
      omega
  | succ limit ih =>
      have follows := fresh.follows serves
      rw [Store.work]
      rcases serves.take_cases fresh isOpen with
        ⟨key, record, taken, result, looked, stillOpen, same⟩ |
        ⟨result, noItem⟩
      · rw [result]
        have fewer := looked.attemptsLeft_finish fresh taken.isOpen
        refine ih (looked.finish taken.isOpen) ?_ (.inl (by omega))
        rw [queue_finish, WorkQueue.isClosed_done, stillOpen]
      · rw [result]
        dsimp only
        cases next : store.queue.nextDue? with
        | none =>
            have order : store.queue.order = [] := by
              by_contra pending
              exact noItem (.inl pending)
            have isIdle := follows.reaches.accounted.isIdle_of_nextDue?
              follows.processing_eq_nil order next
            exact of_decide_eq_true isIdle
        | some due =>
            have waited := serves.wait (due - store.clock)
            have later : store.clock + (due - store.clock) =
                max store.clock due := by omega
            rw [later] at waited
            have ready : store.queue.HasItem (max store.clock due) :=
              WorkQueue.hasItem_of_nextDue? next (Nat.le_max_right ..)
            have still : 2 * store.attemptsLeft ≤ limit + 1 :=
              enough.resolve_right fun early => noItem early.1
            exact ih waited isOpen (.inr ⟨ready, still⟩)

/-- Draining a store that is not stopped leaves nothing outstanding. -/
theorem Serves.outstanding_drain (fresh : initial.IsFresh)
    (serves : Serves initial history none store)
    (isOpen : store.queue.isClosed = false) :
    store.drain.outstanding = 0 := by
  refine serves.outstanding_work fresh _ isOpen (.inl ?_)
  have atMost : store.attemptsLeft ≤
      (store.maxRetries + 1) * store.outstanding := Nat.sub_le _ _
  rw [Nat.mul_assoc, Nat.mul_comm store.outstanding]
  omega

/-- In every state between the steps of a worker, also when the failures of an
attempt are counted, records were added since and the queue is not yet told, the
counts are within the budget and only keys with work have one.  A count is the
number of failures in a row, cleared by a success or a drop, and a key is
dropped by the failure that follows as many as there are retries.  When no more
records are added, the outstanding work allows only so many attempts, and when
it is done no count and no retry is left.  While a store is not stopped and its
worker is free, outstanding work is handed out sooner or later, and draining
does all of it. -/
theorem retries_of_serves (fresh : initial.IsFresh)
    (serves : Serves initial history held store) :
    WithinBudget initial.maxRetries store ∧
    (∀ key record succeeds added, held = some (key, record) →
      WithinBudget initial.maxRetries
        ((store.settle key record succeeds).addAll added).2) ∧
    (∀ key, store.limiter.requeues key = history.failuresInARow key) ∧
    (∀ later key record attempt earlier,
      history = later ++ .tried key record attempt :: earlier →
      (attempt = .dropped ↔
        attempt ≠ .stored ∧
          History.failuresInARow key earlier = initial.maxRetries)) ∧
    (∀ later earlier heldBefore before,
      history = later ++ earlier → History.added later = [] →
      Serves initial earlier heldBefore before →
      History.attempts later ≤
        (initial.maxRetries + 1) * before.outstanding) ∧
    (store.outstanding = 0 →
      store.limiter.failures = [] ∧ store.queue.waiting = []) ∧
    (held = none → store.queue.isClosed = false →
      (store.outstanding ≠ 0 →
        ∃ due, ∀ now, due ≤ now → ∀ handed rest,
          store.queue.Hands now handed rest →
          ∃ key record, handed = .item key record) ∧
      store.drain.outstanding = 0 ∧ store.drain.limiter.failures = []) := by
  have follows := fresh.follows serves
  have accounted := follows.reaches.accounted
  have counted := serves.counted fresh
  refine ⟨?within, ?settled, counted.counts, ?drops, ?finite, ?clean, ?drains⟩
  case within =>
    rw [← serves.maxRetries_eq]
    exact counted.withinBudget accounted
  case settled =>
    rintro key record succeeds added rfl
    obtain ⟨later, servesAdded⟩ := serves.addAll added
    rw [addAll_settle, ← servesAdded.maxRetries_eq]
    exact (servesAdded.counted fresh).withinBudget_settle
      (fresh.follows servesAdded) (fresh.fits_of_serves servesAdded) succeeds
  case drops =>
    rintro later key record attempt earlier rfl
    exact serves.dropped_iff fresh
  case finite =>
    rintro later earlier heldBefore before rfl noMore servesBefore
    have bound := servesBefore.attempts_le fresh noMore serves
    omega
  case clean =>
    intro drained
    obtain ⟨_, _, _, waiting⟩ :=
      accounted.isIdle_iff.mp (decide_eq_true drained)
    exact ⟨counted.failures_eq_nil accounted drained, waiting⟩
  case drains =>
    rintro rfl isOpen
    refine ⟨fun work => ?_, serves.outstanding_drain fresh isOpen, ?_⟩
    · obtain ⟨due, hasItem⟩ :=
        accounted.exists_hasItem follows.processing_eq_nil work
      exact ⟨due, fun now notBefore handed rest hands =>
        accounted.item_of_hasItem isOpen (hasItem now notBefore) hands⟩
    · obtain ⟨later, drained⟩ := serves.work
        (2 * store.outstanding * (store.maxRetries + 1) + 1)
      exact (drained.counted fresh).failures_eq_nil
        (fresh.follows drained).reaches.accounted
        (serves.outstanding_drain fresh isOpen)

theorem isFresh_new {maxRetries : Nat} (fits : maxRetries < Word.limit 32)
    (base maximum : Nat) (database : Database) (isOpen : Bool) :
    IsFresh
      { new maxRetries base maximum with
        database := database
        isOpen := isOpen } :=
  ⟨rfl, rfl, rfl, fits⟩

/-- A record whose storing fails is tried twice and dropped. -/
theorem retries_of_failing_record :
    ∃ history store, Serves (new 1 10 100) history none store ∧
      store.dropped = 1 ∧ history.attempts = 2 ∧
      store.limiter.failures = [] := by
  have fresh : (new 1 10 100).IsFresh :=
    isFresh_new (by decide) 10 100 {} false
  have initial : Serves (new 1 10 100) [] none _ := .start
  have added := initial.add (.gather ⟨"a", ⟨3, 0⟩, ⟨3, 0⟩⟩)
  have failed := (added.take.finish false).wait 10
  have serves := failed.take.finish false
  obtain ⟨_, _, _, _, _, clean, _⟩ := retries_of_serves fresh serves
  exact ⟨_, _, serves, by decide, by decide, (clean (by decide)).1⟩

end ClusterTrace.Store
