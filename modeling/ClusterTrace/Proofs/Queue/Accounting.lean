import Mathlib.Data.List.Nodup
import ClusterTrace.Proofs.Queue.History
import ClusterTrace.Proofs.Queue.Steps

/-!
# The accounts of a work queue

In every state that a history leads to, a key is in one place only, the order
lists the pending keys, and the count of outstanding work is the number of keys
that are pending, processing, dirty or waiting.

No clause holds by itself.  The step lemmas below put one key into one place or
take it out, with one unit of work more or less; every operation is a
composition of them.
-/

namespace ClusterTrace.Queue

namespace WorkQueue

variable {κ α : Type}

/-- The keys are where they should be, and the count is the number of keys. -/
structure Accounted (queue : WorkQueue κ α) : Prop where
  pending_processing : queue.pending.keys.Disjoint queue.processing
  pending_waiting : queue.pending.keys.Disjoint queue.waiting.keys
  processing_waiting : queue.processing.Disjoint queue.waiting.keys
  dirty_processing : ∀ key ∈ queue.dirty.keys, key ∈ queue.processing
  order_nodup : queue.order.Nodup
  mem_order : ∀ key, key ∈ queue.order ↔ key ∈ queue.pending.keys
  pending_nodup : queue.pending.keys.Nodup
  processing_nodup : queue.processing.Nodup
  dirty_nodup : queue.dirty.keys.Nodup
  waiting_nodup : queue.waiting.keys.Nodup
  outstanding_eq : queue.outstanding =
    queue.pending.keys.length + queue.processing.length +
      queue.dirty.keys.length + queue.waiting.keys.length

namespace Accounted

theorem empty : ({} : WorkQueue κ α).Accounted := by
  constructor <;> simp [List.Disjoint]

/-- The values and the closing of a queue do not matter to its accounts. -/
theorem congr {queue other : WorkQueue κ α} (accounted : queue.Accounted)
    (order : other.order = queue.order)
    (pending : other.pending.keys = queue.pending.keys)
    (processing : other.processing = queue.processing)
    (dirty : other.dirty.keys = queue.dirty.keys)
    (waiting : other.waiting.keys = queue.waiting.keys)
    (outstanding : other.outstanding = queue.outstanding) :
    other.Accounted where
  pending_processing := by
    rw [pending, processing]
    exact accounted.pending_processing
  pending_waiting := by
    rw [pending, waiting]
    exact accounted.pending_waiting
  processing_waiting := by
    rw [processing, waiting]
    exact accounted.processing_waiting
  dirty_processing := by
    rw [dirty, processing]
    exact accounted.dirty_processing
  order_nodup := by
    rw [order]
    exact accounted.order_nodup
  mem_order := by
    rw [order, pending]
    exact accounted.mem_order
  pending_nodup := by
    rw [pending]
    exact accounted.pending_nodup
  processing_nodup := by
    rw [processing]
    exact accounted.processing_nodup
  dirty_nodup := by
    rw [dirty]
    exact accounted.dirty_nodup
  waiting_nodup := by
    rw [waiting]
    exact accounted.waiting_nodup
  outstanding_eq := by
    rw [outstanding, pending, processing, dirty, waiting]
    exact accounted.outstanding_eq

end Accounted

/-- The units of work that a report of a key ends.  A retry that no newer value
replaces goes on. -/
def endedUnits [DecidableEq κ] (queue : WorkQueue κ α) (key : κ) :
    Outcome α → Nat
  | .finished => 1
  | .retry _ _ => if key ∈ queue.dirty.keys then 1 else 0

theorem nodup_snoc {key : κ} {keys : List κ} (distinct : keys.Nodup)
    (absent : key ∉ keys) : (keys ++ [key]).Nodup := by
  rw [← List.concat_eq_append]
  exact distinct.concat absent

variable [DecidableEq κ]

theorem length_filter_ne {key : κ} {keys : List κ} (distinct : keys.Nodup)
    (member : key ∈ keys) :
    (keys.filter (· ≠ key)).length + 1 = keys.length := by
  have erased : keys.filter (· ≠ key) = keys.erase key := by
    rw [distinct.erase_eq_filter]
    exact List.filter_congr fun other _ => by rw [decide_not]; rfl
  rw [erased, List.length_erase_add_one member]

namespace Accounted

variable {queue : WorkQueue κ α}

/-! ## A key is in one place -/

omit [DecidableEq κ] in
theorem not_pending_of_processing (accounted : queue.Accounted) {key : κ}
    (member : key ∈ queue.processing) : key ∉ queue.pending.keys := by
  intro isPending
  exact accounted.pending_processing isPending member

omit [DecidableEq κ] in
theorem not_waiting_of_processing (accounted : queue.Accounted) {key : κ}
    (member : key ∈ queue.processing) : key ∉ queue.waiting.keys := by
  intro isWaiting
  exact accounted.processing_waiting member isWaiting

omit [DecidableEq κ] in
theorem not_dirty_of_pending (accounted : queue.Accounted) {key : κ}
    (member : key ∈ queue.pending.keys) : key ∉ queue.dirty.keys := by
  intro isDirty
  exact accounted.pending_processing member
    (accounted.dirty_processing key isDirty)

omit [DecidableEq κ] in
theorem not_dirty_of_waiting (accounted : queue.Accounted) {key : κ}
    (member : key ∈ queue.waiting.keys) : key ∉ queue.dirty.keys := by
  intro isDirty
  exact accounted.processing_waiting
    (accounted.dirty_processing key isDirty) member

/-! ## One key more or less in one place -/

/-- A key that is nowhere becomes pending. -/
theorem enqueue (accounted : queue.Accounted) {key : κ} (value : α)
    (notPending : key ∉ queue.pending.keys)
    (notProcessing : key ∉ queue.processing)
    (notWaiting : key ∉ queue.waiting.keys) :
    Accounted
      { queue with
        order := queue.order ++ [key]
        pending := queue.pending.put key value
        outstanding := queue.outstanding + 1 } := by
  have keys := Assoc.keys_put_of_not_mem notPending value
  have notOrdered : key ∉ queue.order := fun member =>
    notPending ((accounted.mem_order key).mp member)
  exact
    { accounted with
      pending_processing := by
        intro other inPending inProcessing
        rw [keys, List.mem_append, List.mem_singleton] at inPending
        rcases inPending with old | rfl
        · exact accounted.pending_processing old inProcessing
        · exact notProcessing inProcessing
      pending_waiting := by
        intro other inPending inWaiting
        rw [keys, List.mem_append, List.mem_singleton] at inPending
        rcases inPending with old | rfl
        · exact accounted.pending_waiting old inWaiting
        · exact notWaiting inWaiting
      order_nodup := nodup_snoc accounted.order_nodup notOrdered
      mem_order := by
        intro other
        rw [keys, List.mem_append, List.mem_append, accounted.mem_order]
      pending_nodup := by
        rw [keys]
        exact nodup_snoc accounted.pending_nodup notPending
      outstanding_eq := by
        have total := accounted.outstanding_eq
        rw [keys, List.length_append, List.length_singleton]
        simp only
        omega }

/-- A waiting key is taken out. -/
theorem unwait (accounted : queue.Accounted) {key : κ}
    (member : key ∈ queue.waiting.keys) :
    Accounted
      { queue with
        waiting := queue.waiting.erase key
        outstanding := queue.outstanding - 1 } := by
  have keys := Assoc.keys_erase key queue.waiting
  have shorter := length_filter_ne accounted.waiting_nodup member
  exact
    { accounted with
      pending_waiting := by
        intro other inPending inWaiting
        rw [keys] at inWaiting
        exact accounted.pending_waiting inPending
          (List.mem_filter.mp inWaiting).1
      processing_waiting := by
        intro other inProcessing inWaiting
        rw [keys] at inWaiting
        exact accounted.processing_waiting inProcessing
          (List.mem_filter.mp inWaiting).1
      waiting_nodup := by
        rw [keys]
        exact accounted.waiting_nodup.sublist List.filter_sublist
      outstanding_eq := by
        have total := accounted.outstanding_eq
        rw [keys]
        simp only
        omega }

/-- A key that is nowhere is put to wait. -/
theorem schedule (accounted : queue.Accounted) {key : κ} (item : α × Nat)
    (notPending : key ∉ queue.pending.keys)
    (notProcessing : key ∉ queue.processing)
    (notWaiting : key ∉ queue.waiting.keys) :
    Accounted
      { queue with
        waiting := queue.waiting.put key item
        outstanding := queue.outstanding + 1 } := by
  have keys := Assoc.keys_put_of_not_mem notWaiting item
  exact
    { accounted with
      pending_waiting := by
        intro other inPending inWaiting
        rw [keys, List.mem_append, List.mem_singleton] at inWaiting
        rcases inWaiting with old | rfl
        · exact accounted.pending_waiting inPending old
        · exact notPending inPending
      processing_waiting := by
        intro other inProcessing inWaiting
        rw [keys, List.mem_append, List.mem_singleton] at inWaiting
        rcases inWaiting with old | rfl
        · exact accounted.processing_waiting inProcessing old
        · exact notProcessing inProcessing
      waiting_nodup := by
        rw [keys]
        exact nodup_snoc accounted.waiting_nodup notWaiting
      outstanding_eq := by
        have total := accounted.outstanding_eq
        rw [keys, List.length_append, List.length_singleton]
        simp only
        omega }

/-- A key that is processing becomes dirty too. -/
theorem soil (accounted : queue.Accounted) {key : κ} (value : α)
    (member : key ∈ queue.processing)
    (notDirty : key ∉ queue.dirty.keys) :
    Accounted
      { queue with
        dirty := queue.dirty.put key value
        outstanding := queue.outstanding + 1 } := by
  have keys := Assoc.keys_put_of_not_mem notDirty value
  exact
    { accounted with
      dirty_processing := by
        intro other inDirty
        rw [keys, List.mem_append, List.mem_singleton] at inDirty
        rcases inDirty with old | rfl
        · exact accounted.dirty_processing other old
        · exact member
      dirty_nodup := by
        rw [keys]
        exact nodup_snoc accounted.dirty_nodup notDirty
      outstanding_eq := by
        have total := accounted.outstanding_eq
        rw [keys, List.length_append, List.length_singleton]
        simp only
        omega }

/-- A dirty key is dirty no more. -/
theorem clean (accounted : queue.Accounted) {key : κ}
    (member : key ∈ queue.dirty.keys) :
    Accounted
      { queue with
        dirty := queue.dirty.erase key
        outstanding := queue.outstanding - 1 } := by
  have keys := Assoc.keys_erase key queue.dirty
  have shorter := length_filter_ne accounted.dirty_nodup member
  exact
    { accounted with
      dirty_processing := by
        intro other inDirty
        rw [keys] at inDirty
        exact accounted.dirty_processing other (List.mem_filter.mp inDirty).1
      dirty_nodup := by
        rw [keys]
        exact accounted.dirty_nodup.sublist List.filter_sublist
      outstanding_eq := by
        have total := accounted.outstanding_eq
        rw [keys]
        simp only
        omega }

/-- A key that is processing and not dirty is taken out. -/
theorem release (accounted : queue.Accounted) {key : κ}
    (member : key ∈ queue.processing)
    (notDirty : key ∉ queue.dirty.keys) :
    Accounted
      { queue with
        processing := queue.processing.filter (· ≠ key)
        outstanding := queue.outstanding - 1 } := by
  have shorter := length_filter_ne accounted.processing_nodup member
  exact
    { accounted with
      pending_processing := by
        intro other inPending inProcessing
        exact accounted.pending_processing inPending
          (List.mem_filter.mp inProcessing).1
      processing_waiting := by
        intro other inProcessing inWaiting
        exact accounted.processing_waiting
          (List.mem_filter.mp inProcessing).1 inWaiting
      dirty_processing := by
        intro other inDirty
        have different : other ≠ key := fun equal =>
          notDirty (equal ▸ inDirty)
        exact List.mem_filter.mpr
          ⟨accounted.dirty_processing other inDirty, by simpa using different⟩
      processing_nodup :=
        accounted.processing_nodup.sublist List.filter_sublist
      outstanding_eq := by
        have total := accounted.outstanding_eq
        simp only
        omega }

/-- The first key of the order goes from pending to processing. -/
theorem start (accounted : queue.Accounted) {key : κ} {later : List κ}
    (order : queue.order = key :: later) :
    Accounted
      { queue with
        order := later
        pending := queue.pending.erase key
        processing := key :: queue.processing.filter (· ≠ key) } := by
  have keys := Assoc.keys_erase key queue.pending
  have ordered := accounted.order_nodup
  rw [order] at ordered
  obtain ⟨notLater, laterDistinct⟩ := List.nodup_cons.mp ordered
  have member : key ∈ queue.pending.keys := by
    rw [← accounted.mem_order, order]
    exact List.mem_cons_self
  have shorter := length_filter_ne accounted.pending_nodup member
  have notProcessing : key ∉ queue.processing := fun processing =>
    accounted.pending_processing member processing
  have unchanged : queue.processing.filter (· ≠ key) = queue.processing := by
    rw [List.filter_eq_self]
    intro other inProcessing
    simpa using fun equal : other = key => notProcessing (equal ▸ inProcessing)
  rw [unchanged]
  exact
    { accounted with
      pending_processing := by
        intro other inPending inProcessing
        rw [keys] at inPending
        obtain ⟨old, different⟩ := List.mem_filter.mp inPending
        rcases List.mem_cons.mp inProcessing with rfl | earlier
        · simp at different
        · exact accounted.pending_processing old earlier
      pending_waiting := by
        intro other inPending inWaiting
        rw [keys] at inPending
        exact accounted.pending_waiting (List.mem_filter.mp inPending).1
          inWaiting
      processing_waiting := by
        intro other inProcessing inWaiting
        rcases List.mem_cons.mp inProcessing with rfl | earlier
        · exact accounted.pending_waiting member inWaiting
        · exact accounted.processing_waiting earlier inWaiting
      dirty_processing := by
        intro other inDirty
        exact List.mem_cons_of_mem _ (accounted.dirty_processing other inDirty)
      order_nodup := laterDistinct
      mem_order := by
        intro other
        rw [keys, List.mem_filter, ← accounted.mem_order, order]
        by_cases same : other = key
        · subst other
          simp [notLater]
        · simp [same]
      pending_nodup := by
        rw [keys]
        exact accounted.pending_nodup.sublist List.filter_sublist
      processing_nodup :=
        List.nodup_cons.mpr ⟨notProcessing, accounted.processing_nodup⟩
      outstanding_eq := by
        have total := accounted.outstanding_eq
        rw [keys]
        simp only [List.length_cons]
        omega }

/-! ## The operations -/

theorem add (accounted : queue.Accounted) (key : κ) (value : α) :
    (queue.add key value).2.Accounted := by
  rcases add_cases queue key value with
    ⟨member, result⟩ | ⟨_, old, due, found, result⟩ |
    ⟨_, _, _, member, result⟩ | ⟨_, _, member, notDirty, result⟩ |
    ⟨notPending, notWaiting, notProcessing, result⟩
  · rw [result]
    exact accounted.congr rfl (Assoc.keys_put_of_mem member _) rfl rfl rfl rfl
  · rw [result]
    have member := Assoc.mem_keys_of_get? found
    exact accounted.congr rfl rfl rfl rfl (Assoc.keys_put_of_mem member _) rfl
  · rw [result]
    exact accounted.congr rfl rfl rfl (Assoc.keys_put_of_mem member _) rfl rfl
  · rw [result]
    exact accounted.soil value member notDirty
  · rw [result]
    exact accounted.enqueue value notPending notProcessing notWaiting

/-- A waiting item becomes pending. -/
theorem promoteOne (accounted : queue.Accounted) {key : κ} (value : α)
    (member : key ∈ queue.waiting.keys) :
    Accounted
      { queue with
        waiting := queue.waiting.erase key
        order := queue.order ++ [key]
        pending := queue.pending.put key value } := by
  have notWaiting : key ∉ (queue.waiting.erase key).keys := by
    rw [Assoc.keys_erase]
    simp
  have pending := (accounted.unwait member).enqueue value
    (fun inPending => accounted.pending_waiting inPending member)
    (fun inProcessing => accounted.processing_waiting inProcessing member)
    notWaiting
  have counted : queue.outstanding = queue.outstanding - 1 + 1 := by
    have total := accounted.outstanding_eq
    have positive := List.length_pos_of_mem member
    omega
  exact pending.congr rfl rfl rfl rfl rfl counted

end Accounted

/-- Items with distinct keys that wait in the queue as they are. -/
structure Promotable (queue : WorkQueue κ α) (due : Assoc κ (α × Nat)) :
    Prop where
  distinct : due.keys.Nodup
  waits : ∀ item ∈ due, queue.waiting.get? item.1 = some item.2

theorem Promotable.tail {queue : WorkQueue κ α} {key : κ} {value : α}
    {time : Nat} {rest : Assoc κ (α × Nat)}
    (promotable : queue.Promotable ((key, value, time) :: rest)) :
    Promotable
      { queue with
        waiting := queue.waiting.erase key
        order := queue.order ++ [key]
        pending := queue.pending.put key value } rest := by
  obtain ⟨absent, distinct⟩ := List.nodup_cons.mp promotable.distinct
  refine ⟨distinct, ?_⟩
  intro item member
  have different : item.1 ≠ key := fun equal =>
    absent (equal ▸ List.mem_map.mpr ⟨item, member, rfl⟩)
  change (queue.waiting.erase key).get? item.1 = some item.2
  rw [Assoc.get?_erase_of_ne different]
  exact promotable.waits item (List.mem_cons_of_mem _ member)

namespace Accounted

variable {queue : WorkQueue κ α}

/-- Items that are due are promotable, in whichever order they are taken. -/
theorem promotable (accounted : queue.Accounted) {now : Nat}
    {due : Assoc κ (α × Nat)} (order : due.Perm (queue.due now)) :
    queue.Promotable due := by
  constructor
  · have sublist : ((queue.due now).map (·.1)).Sublist queue.waiting.keys :=
      List.filter_sublist.map _
    exact (order.map _).nodup_iff.mpr (accounted.waiting_nodup.sublist sublist)
  · intro item member
    have waits : item ∈ queue.waiting :=
      (List.mem_filter.mp (order.mem_iff.mp member)).1
    exact Assoc.get?_of_mem accounted.waiting_nodup waits

theorem promote {due : Assoc κ (α × Nat)} (accounted : queue.Accounted)
    (promotable : queue.Promotable due) : (queue.promote due).Accounted := by
  induction due generalizing queue with
  | nil => exact accounted
  | cons item rest ih =>
      obtain ⟨key, value, time⟩ := item
      have waits := promotable.waits _ List.mem_cons_self
      exact ih (accounted.promoteOne value (Assoc.mem_keys_of_get? waits))
        promotable.tail

/-- The branches of `pop`: no key of the order is skipped. -/
theorem pop_cases (accounted : queue.Accounted) :
    (queue.order = [] ∧ queue.pop = (.nothing, queue)) ∨
    ∃ key value later, queue.order = key :: later ∧
      queue.pending.get? key = some value ∧
      queue.pop =
        (.item key value,
          { queue with
            order := later
            pending := queue.pending.erase key
            processing := key :: queue.processing.filter (· ≠ key) }) := by
  cases order : queue.order with
  | nil =>
      left
      exact ⟨rfl, pop_of_order_nil order⟩
  | cons key later =>
      right
      have member : key ∈ queue.pending.keys := by
        rw [← accounted.mem_order, order]
        exact List.mem_cons_self
      obtain ⟨value, found⟩ := Assoc.exists_get?_of_mem_keys member
      exact ⟨key, value, later, rfl, found, pop_of_order_cons order found⟩

/-- What a look into the queue can lead to. -/
theorem hands_cases {now : Nat} {handed : Handed κ α} {rest : WorkQueue κ α}
    (accounted : queue.Accounted) (hands : queue.Hands now handed rest) :
    (handed = .closed ∧ rest = queue) ∨
    ∃ due, queue.Promotable due ∧
      ((handed = .nothing ∧ rest = queue.promote due) ∨
      ∃ key value later, handed = .item key value ∧
        (queue.promote due).order = key :: later ∧
        (queue.promote due).pending.get? key = some value ∧
        rest =
          { queue.promote due with
            order := later
            pending := (queue.promote due).pending.erase key
            processing :=
              key :: (queue.promote due).processing.filter (· ≠ key) }) := by
  cases hands with
  | closed isClosed => exact .inl ⟨rfl, rfl⟩
  | @popped due _ _ isOpen order popped =>
      right
      have promotable := accounted.promotable order
      refine ⟨due, promotable, ?_⟩
      rcases (accounted.promote promotable).pop_cases with
        ⟨_, result⟩ | ⟨key, value, later, ordered, found, result⟩
      · rw [result] at popped
        cases popped
        exact .inl ⟨rfl, rfl⟩
      · rw [result] at popped
        cases popped
        exact .inr ⟨key, value, later, rfl, ordered, found, rfl⟩

theorem hands {now : Nat} {handed : Handed κ α} {rest : WorkQueue κ α}
    (accounted : queue.Accounted) (hands : queue.Hands now handed rest) :
    rest.Accounted := by
  rcases accounted.hands_cases hands with
    ⟨_, rfl⟩ | ⟨due, promotable, ⟨_, rfl⟩ |
      ⟨key, value, later, _, order, _, rfl⟩⟩
  · exact accounted
  · exact accounted.promote promotable
  · exact (accounted.promote promotable).start order

theorem isClosed_hands {now : Nat} {handed : Handed κ α}
    {rest : WorkQueue κ α} (accounted : queue.Accounted)
    (hands : queue.Hands now handed rest) :
    rest.isClosed = queue.isClosed := by
  rcases accounted.hands_cases hands with
    ⟨_, rfl⟩ | ⟨due, _, ⟨_, rfl⟩ | ⟨_, _, _, _, _, _, rfl⟩⟩
  · rfl
  · exact isClosed_promote queue due
  · exact isClosed_promote queue due

theorem outstanding_hands {now : Nat} {handed : Handed κ α}
    {rest : WorkQueue κ α} (accounted : queue.Accounted)
    (hands : queue.Hands now handed rest) :
    rest.outstanding = queue.outstanding := by
  rcases accounted.hands_cases hands with
    ⟨_, rfl⟩ | ⟨due, _, ⟨_, rfl⟩ | ⟨_, _, _, _, _, _, rfl⟩⟩
  · rfl
  · exact outstanding_promote queue due
  · exact outstanding_promote queue due

theorem done (accounted : queue.Accounted) {key : κ}
    (member : key ∈ queue.processing) (outcome : Outcome α) (now : Nat) :
    (queue.done key outcome now).Accounted := by
  have notPending := accounted.not_pending_of_processing member
  have notWaiting := accounted.not_waiting_of_processing member
  have notProcessing : key ∉ queue.processing.filter (· ≠ key) := by
    simp
  have total := accounted.outstanding_eq
  have isProcessing := List.length_pos_of_mem member
  rcases done_cases queue key outcome now with
    ⟨value, found, result⟩ | ⟨absent, _, result⟩ |
    ⟨absent, value, delay, _, result⟩
  · rw [result]
    have inDirty := Assoc.mem_keys_of_get? found
    have isDirty := List.length_pos_of_mem inDirty
    have notDirty : key ∉ (queue.dirty.erase key).keys := by
      rw [Assoc.keys_erase]
      simp
    have requeued := ((accounted.clean inDirty).release member notDirty).enqueue
      value notPending notProcessing notWaiting
    refine requeued.congr rfl rfl rfl rfl rfl ?_
    simp only
    omega
  · rw [result]
    exact accounted.release member (Assoc.get?_eq_none_iff.mp absent)
  · rw [result]
    have released :=
      accounted.release member (Assoc.get?_eq_none_iff.mp absent)
    have scheduled := released.schedule (value, now + delay)
      notPending notProcessing notWaiting
    refine scheduled.congr rfl rfl rfl rfl rfl ?_
    simp only
    omega

omit [DecidableEq κ] in
theorem pending_eq_nil (accounted : queue.Accounted)
    (order : queue.order = []) : queue.pending = [] := by
  have noKey : queue.pending.keys = [] := by
    refine List.eq_nil_iff_forall_not_mem.mpr fun key isPending => ?_
    rw [← accounted.mem_order, order] at isPending
    cases isPending
  exact List.map_eq_nil_iff.mp noKey

omit [DecidableEq κ] in
theorem dirty_eq_nil (accounted : queue.Accounted)
    (free : queue.processing = []) : queue.dirty = [] := by
  have noKey : queue.dirty.keys = [] := by
    refine List.eq_nil_iff_forall_not_mem.mpr fun key isDirty => ?_
    have isHeld := accounted.dirty_processing key isDirty
    rw [free] at isHeld
    cases isHeld
  exact List.map_eq_nil_iff.mp noKey

omit [DecidableEq κ] in
theorem isIdle_iff (accounted : queue.Accounted) :
    queue.isIdle = true ↔
      queue.pending = [] ∧ queue.processing = [] ∧ queue.dirty = [] ∧
        queue.waiting = [] := by
  have total := accounted.outstanding_eq
  simp only [Assoc.length_keys] at total
  rw [isIdle, decide_eq_true_iff, total]
  simp only [← List.length_eq_zero_iff]
  omega

/-- The units that a report ends are there to be subtracted. -/
theorem outstanding_done (accounted : queue.Accounted) {key : κ}
    (member : key ∈ queue.processing) (outcome : Outcome α) (now : Nat) :
    (queue.done key outcome now).outstanding + queue.endedUnits key outcome =
      queue.outstanding := by
  have total := accounted.outstanding_eq
  have positive := List.length_pos_of_mem member
  rcases done_cases queue key outcome now with
    ⟨value, found, result⟩ | ⟨_, finished, result⟩ |
    ⟨absent, value, delay, retried, result⟩
  · have inDirty := Assoc.mem_keys_of_get? found
    rw [result]
    cases outcome <;> simp only [endedUnits, inDirty, if_true] <;> omega
  · subst finished
    rw [result]
    simp only [endedUnits]
    omega
  · subst retried
    rw [result]
    simp [endedUnits, Assoc.get?_eq_none_iff.mp absent]

end Accounted
end WorkQueue

/-! ## Whole histories -/

/-- The accounts are right after every history, and the keys that are processing
are those that are held. -/
theorem Reaches.accounted_and_held {κ α : Type} [DecidableEq κ]
    {history : History κ α} {clock : Nat} {queue : WorkQueue κ α}
    (reaches : Reaches history clock queue) :
    queue.Accounted ∧
      ∀ key, key ∈ queue.processing ↔ (history.held? key).isSome := by
  induction reaches with
  | start => exact ⟨.empty, by simp [History.held?]⟩
  | add key value _ ih =>
      refine ⟨ih.1.add key value, ?_⟩
      intro other
      rw [WorkQueue.processing_add]
      exact ih.2 other
  | look _ hands ih =>
      refine ⟨ih.1.hands hands, ?_⟩
      intro other
      rcases ih.1.hands_cases hands with
        ⟨rfl, rfl⟩ | ⟨due, _, ⟨rfl, rfl⟩ | ⟨key, value, _, rfl, _, _, rfl⟩⟩
      · exact ih.2 other
      · rw [WorkQueue.processing_promote]
        exact ih.2 other
      · simp only [WorkQueue.processing_promote, List.mem_cons,
          List.mem_filter, ih.2, History.held?]
        by_cases same : other = key
        · simp [same]
        · simp [same, Ne.symm same]
  | report key outcome _ isHeld ih =>
      refine ⟨ih.1.done ((ih.2 key).mpr isHeld) outcome _, ?_⟩
      intro other
      rw [WorkQueue.processing_done, List.mem_filter, ih.2, History.held?]
      by_cases same : other = key
      · simp [same]
      · simp [same, Ne.symm same]
  | wait span _ ih => exact ih
  | close _ ih => exact ⟨ih.1.congr rfl rfl rfl rfl rfl rfl, ih.2⟩

theorem Reaches.accounted {κ α : Type} [DecidableEq κ]
    {history : History κ α} {clock : Nat} {queue : WorkQueue κ α}
    (reaches : Reaches history clock queue) : queue.Accounted :=
  reaches.accounted_and_held.1

theorem Reaches.mem_processing {κ α : Type} [DecidableEq κ]
    {history : History κ α} {clock : Nat} {queue : WorkQueue κ α}
    (reaches : Reaches history clock queue) (key : κ) :
    key ∈ queue.processing ↔ (history.held? key).isSome :=
  reaches.accounted_and_held.2 key

/-- After every history the keys are where they should be, a report of a held
key takes its unit of work from a count that has it, and the queue is idle
exactly when it holds nothing. -/
theorem accounts_of_reaches {κ α : Type} [DecidableEq κ]
    {history : History κ α} {clock : Nat} {queue : WorkQueue κ α}
    (reaches : Reaches history clock queue) :
    queue.Accounted ∧
    (∀ key outcome, (history.held? key).isSome →
      (queue.done key outcome clock).outstanding +
          queue.endedUnits key outcome =
        queue.outstanding) ∧
    (queue.isIdle = true ↔
      queue.pending = [] ∧ queue.processing = [] ∧ queue.dirty = [] ∧
        queue.waiting = []) := by
  refine ⟨reaches.accounted, ?_, reaches.accounted.isIdle_iff⟩
  intro key outcome isHeld
  have member := (reaches.mem_processing key).mpr isHeld
  exact reaches.accounted.outstanding_done member outcome clock

/-- A retry that a newer value replaces. -/
theorem accounts_of_superseded_retry :
    Reaches
      [.reported 7 (.retry 1 10), .added 8 3, .added 7 2,
        .looked (.item 7 1), .added 7 1] 0
      ({ order := [8, 7], pending := [(8, 3), (7, 2)], outstanding := 2 } :
        WorkQueue Nat Nat) ∧
    WorkQueue.Accounted
      ({ order := [8, 7], pending := [(8, 3), (7, 2)], outstanding := 2 } :
        WorkQueue Nat Nat) := by
  have taken : Reaches [.looked (.item 7 1), .added 7 1] 0 _ :=
    .look (.add 7 1 .start) (WorkQueue.hands_get _ 0)
  have reaches := Reaches.report 7 (.retry 1 10)
    (.add 8 3 (.add 7 2 taken)) (by decide)
  exact ⟨reaches, (accounts_of_reaches reaches).1⟩

end ClusterTrace.Queue
