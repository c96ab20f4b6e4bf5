import ClusterTrace.Proofs.Queue.Accounting

/-!
# Progress of a work queue

An open queue hands out an item to whoever looks while a key is pending or the
time of a waiting one has come.  If no key is processing and work is
outstanding, this is so from some time on, `Accounted.exists_hasItem`.
-/

namespace ClusterTrace.Queue.WorkQueue

variable {κ α : Type} [DecidableEq κ] {queue rest : WorkQueue κ α} {now : Nat}

/-- A key is pending, or the time of one that waits has come. -/
def HasItem (queue : WorkQueue κ α) (now : Nat) : Prop :=
  queue.order ≠ [] ∨ queue.due now ≠ []

theorem order_promote (queue : WorkQueue κ α) (due : List (κ × α × Nat)) :
    (queue.promote due).order = queue.order ++ due.map (·.1) := by
  induction due generalizing queue with
  | nil => exact (List.append_nil _).symm
  | cons item rest ih =>
      obtain ⟨key, value, time⟩ := item
      rw [promote, ih, List.map_cons]
      exact (List.append_cons ..).symm

omit [DecidableEq κ] in
/-- What waits may be handed out from its time on. -/
theorem hasItem_of_nextDue? {time : Nat}
    (next : queue.nextDue? = some time) (notBefore : time ≤ now) :
    queue.HasItem now := by
  obtain ⟨item, waits, rfl⟩ := List.mem_map.mp (List.min?_mem next)
  have isDue : item ∈ queue.due now :=
    List.mem_filter.mpr ⟨waits, decide_eq_true notBefore⟩
  exact .inr (List.ne_nil_of_mem isDue)

namespace Accounted

/-- A look into an open queue hands out an item, or there is none and nothing
changes. -/
theorem hands_cases_of_isOpen (accounted : queue.Accounted)
    (isOpen : queue.isClosed = false) {handed : Handed κ α}
    (hands : queue.Hands now handed rest) :
    (∃ key value, handed = .item key value) ∨
      (handed = .nothing ∧ rest = queue ∧ ¬ queue.HasItem now) := by
  cases hands with
  | closed isClosed =>
      rw [isOpen] at isClosed
      cases isClosed
  | @popped due _ _ _ perm popped =>
      have promoted := accounted.promote (accounted.promotable perm)
      rcases promoted.pop_cases with
        ⟨order, result⟩ | ⟨key, value, _, _, _, result⟩
      · right
        rw [result] at popped
        cases popped
        rw [order_promote, List.append_eq_nil_iff, List.map_eq_nil_iff]
          at order
        obtain ⟨noOrder, rfl⟩ := order
        exact ⟨rfl, rfl, fun hasItem =>
          hasItem.elim (· noOrder) (· (List.nil_perm.mp perm))⟩
      · left
        rw [result] at popped
        cases popped
        exact ⟨key, value, rfl⟩

theorem item_of_hasItem (accounted : queue.Accounted)
    (isOpen : queue.isClosed = false) (hasItem : queue.HasItem now)
    {handed : Handed κ α} (hands : queue.Hands now handed rest) :
    ∃ key value, handed = .item key value :=
  (accounted.hands_cases_of_isOpen isOpen hands).resolve_right
    fun nothing => nothing.2.2 hasItem

omit [DecidableEq κ] in
/-- Work that is outstanding is pending, processing or waiting. -/
theorem isIdle_of_nextDue? (accounted : queue.Accounted)
    (free : queue.processing = []) (order : queue.order = [])
    (next : queue.nextDue? = none) : queue.isIdle = true := by
  exact accounted.isIdle_iff.mpr ⟨accounted.pending_eq_nil order, free,
    accounted.dirty_eq_nil free,
    List.map_eq_nil_iff.mp (List.min?_eq_none_iff.mp next)⟩

omit [DecidableEq κ] in
/-- While work is outstanding and no key is processing, there is an item to hand
out from some time on. -/
theorem exists_hasItem (accounted : queue.Accounted)
    (free : queue.processing = []) (work : queue.outstanding ≠ 0) :
    ∃ due, ∀ now, due ≤ now → queue.HasItem now := by
  by_cases order : queue.order = []
  · cases next : queue.nextDue? with
    | none =>
        have isIdle := accounted.isIdle_of_nextDue? free order next
        exact (work (of_decide_eq_true isIdle)).elim
    | some due => exact ⟨due, fun now => hasItem_of_nextDue? next⟩
  · exact ⟨0, fun now _ => .inl order⟩

end Accounted
end ClusterTrace.Queue.WorkQueue
