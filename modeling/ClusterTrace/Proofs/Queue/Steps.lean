import ClusterTrace.Queue.WorkQueue

/-!
# What the operations of a work queue do

Each operation takes one of a few branches.  The lemmas below list them, with
the condition of each branch in terms of the keys that the queue holds, so that
an invariant is proved by cases on a branch and no operation is unfolded again.
-/

namespace ClusterTrace.Queue.WorkQueue

variable {κ α : Type} [DecidableEq κ]

/-- The branches of `add`. -/
theorem add_cases (queue : WorkQueue κ α) (key : κ) (value : α) :
    (key ∈ queue.pending.keys ∧
      queue.add key value =
        (false, { queue with pending := queue.pending.put key value })) ∨
    (key ∉ queue.pending.keys ∧ ∃ old due,
      queue.waiting.get? key = some (old, due) ∧
      queue.add key value =
        (false, { queue with waiting := queue.waiting.put key (value, due) })) ∨
    (key ∉ queue.pending.keys ∧ key ∉ queue.waiting.keys ∧
      key ∈ queue.processing ∧ key ∈ queue.dirty.keys ∧
      queue.add key value =
        (false, { queue with dirty := queue.dirty.put key value })) ∨
    (key ∉ queue.pending.keys ∧ key ∉ queue.waiting.keys ∧
      key ∈ queue.processing ∧ key ∉ queue.dirty.keys ∧
      queue.add key value =
        (true,
          { queue with
            dirty := queue.dirty.put key value
            outstanding := queue.outstanding + 1 })) ∨
    (key ∉ queue.pending.keys ∧ key ∉ queue.waiting.keys ∧
      key ∉ queue.processing ∧
      queue.add key value =
        (true,
          { queue with
            order := queue.order ++ [key]
            pending := queue.pending.put key value
            outstanding := queue.outstanding + 1 })) := by
  by_cases isPending : key ∈ queue.pending.keys
  · left
    refine ⟨isPending, ?_⟩
    rw [add, if_pos (Assoc.has_iff_mem_keys.mpr isPending)]
  right
  have hasPending : ¬ queue.pending.has key = true := fun has =>
    isPending (Assoc.has_iff_mem_keys.mp has)
  cases found : queue.waiting.get? key with
  | some item =>
      obtain ⟨old, due⟩ := item
      left
      refine ⟨isPending, old, due, rfl, ?_⟩
      rw [add, if_neg hasPending, found]
  | none =>
      right
      have notWaiting := Assoc.get?_eq_none_iff.mp found
      by_cases isProcessing : key ∈ queue.processing
      · by_cases isDirty : key ∈ queue.dirty.keys
        · left
          refine ⟨isPending, notWaiting, isProcessing, isDirty, ?_⟩
          simp [add, hasPending, found, isProcessing,
            Assoc.has_iff_mem_keys.mpr isDirty]
        · have hasDirty : ¬ queue.dirty.has key = true := fun has =>
            isDirty (Assoc.has_iff_mem_keys.mp has)
          right
          left
          refine ⟨isPending, notWaiting, isProcessing, isDirty, ?_⟩
          simp [add, hasPending, found, isProcessing, hasDirty]
      · right
        right
        refine ⟨isPending, notWaiting, isProcessing, ?_⟩
        simp [add, hasPending, found, isProcessing]

theorem pop_of_order_nil {queue : WorkQueue κ α} (order : queue.order = []) :
    queue.pop = (.nothing, queue) := by
  obtain ⟨_, _, _, _, _, _, _⟩ := queue
  cases order
  rfl

theorem pop_of_order_cons {queue : WorkQueue κ α} {key : κ} {value : α}
    {later : List κ} (order : queue.order = key :: later)
    (found : queue.pending.get? key = some value) :
    queue.pop =
      (.item key value,
        { queue with
          order := later
          pending := queue.pending.erase key
          processing := key :: queue.processing.filter (· ≠ key) }) := by
  rw [pop, order, popFrom, found]

/-- The branches of `done`.  A newer value is pending next whatever is reported
of the older one. -/
theorem done_cases (queue : WorkQueue κ α) (key : κ) (outcome : Outcome α)
    (now : Nat) :
    (∃ value, queue.dirty.get? key = some value ∧
      queue.done key outcome now =
        { queue with
          order := queue.order ++ [key]
          pending := queue.pending.put key value
          processing := queue.processing.filter (· ≠ key)
          dirty := queue.dirty.erase key
          outstanding := queue.outstanding - 1 }) ∨
    (queue.dirty.get? key = none ∧ outcome = .finished ∧
      queue.done key outcome now =
        { queue with
          processing := queue.processing.filter (· ≠ key)
          outstanding := queue.outstanding - 1 }) ∨
    (queue.dirty.get? key = none ∧ ∃ value delay,
      outcome = .retry value delay ∧
      queue.done key outcome now =
        { queue with
          processing := queue.processing.filter (· ≠ key)
          waiting := queue.waiting.put key (value, now + delay) }) := by
  cases found : queue.dirty.get? key with
  | some value =>
      left
      refine ⟨value, rfl, ?_⟩
      cases outcome with
      | finished => simp [done, found]
      | retry value delay => simp [done, Assoc.has, found]
  | none =>
      right
      cases outcome with
      | finished =>
          left
          simp [done, found]
      | retry value delay =>
          right
          refine ⟨rfl, value, delay, rfl, ?_⟩
          simp [done, Assoc.has, found]

theorem processing_add (queue : WorkQueue κ α) (key : κ) (value : α) :
    (queue.add key value).2.processing = queue.processing := by
  rcases add_cases queue key value with
    ⟨_, result⟩ | ⟨_, _, _, _, result⟩ | ⟨_, _, _, _, result⟩ |
    ⟨_, _, _, _, result⟩ | ⟨_, _, _, result⟩ <;> rw [result]

/-- Items become pending in the order and leave the waiting ones; nothing else
changes. -/
theorem exists_promote (queue : WorkQueue κ α) (due : List (κ × α × Nat)) :
    ∃ order pending waiting,
      queue.promote due =
        { queue with
          order := order, pending := pending, waiting := waiting } := by
  induction due generalizing queue with
  | nil => exact ⟨queue.order, queue.pending, queue.waiting, rfl⟩
  | cons item rest ih =>
      obtain ⟨key, value, time⟩ := item
      obtain ⟨order, pending, waiting, result⟩ := ih
        { queue with
          waiting := queue.waiting.erase key
          order := queue.order ++ [key]
          pending := queue.pending.put key value }
      exact ⟨order, pending, waiting, result⟩

theorem processing_promote (queue : WorkQueue κ α)
    (due : List (κ × α × Nat)) :
    (queue.promote due).processing = queue.processing := by
  obtain ⟨_, _, _, result⟩ := exists_promote queue due
  rw [result]

theorem processing_done (queue : WorkQueue κ α) (key : κ)
    (outcome : Outcome α) (now : Nat) :
    (queue.done key outcome now).processing =
      queue.processing.filter (· ≠ key) := by
  rcases done_cases queue key outcome now with
    ⟨_, _, result⟩ | ⟨_, _, result⟩ | ⟨_, _, _, _, result⟩ <;> rw [result]

theorem isClosed_promote (queue : WorkQueue κ α)
    (due : List (κ × α × Nat)) :
    (queue.promote due).isClosed = queue.isClosed := by
  obtain ⟨_, _, _, result⟩ := exists_promote queue due
  rw [result]

theorem isClosed_done (queue : WorkQueue κ α) (key : κ)
    (outcome : Outcome α) (now : Nat) :
    (queue.done key outcome now).isClosed = queue.isClosed := by
  rcases done_cases queue key outcome now with
    ⟨_, _, result⟩ | ⟨_, _, result⟩ | ⟨_, _, _, _, result⟩ <;> rw [result]

/-! ## Outstanding work -/

theorem outstanding_add (queue : WorkQueue κ α) (key : κ) (value : α) :
    (queue.add key value).2.outstanding =
      queue.outstanding + (queue.add key value).1.toNat := by
  rcases add_cases queue key value with
    ⟨_, result⟩ | ⟨_, _, _, _, result⟩ | ⟨_, _, _, _, result⟩ |
    ⟨_, _, _, _, result⟩ | ⟨_, _, _, result⟩ <;> rw [result] <;> rfl

theorem outstanding_promote (queue : WorkQueue κ α)
    (due : List (κ × α × Nat)) :
    (queue.promote due).outstanding = queue.outstanding := by
  obtain ⟨_, _, _, result⟩ := exists_promote queue due
  rw [result]

end ClusterTrace.Queue.WorkQueue
