import ClusterTrace.Proofs.Queue.Accounting

/-!
# Phases of a key

What happened to a queue tells of each key whether it is idle, ready to be
handed out, held or waiting for its time, `History.phase`.  The queue shows the
same phase by the places in which it keeps the key, `Reaches.phase_eq`.
-/

namespace ClusterTrace.Queue

/-- How far a key has come on its way to a taker. -/
inductive Phase where
  | idle
  | ready
  /-- The key is held, and perhaps to be ready again once it is reported. -/
  | held (again : Bool)
  /-- The key is to be ready at the first look from a time on. -/
  | waiting (due : Nat)
deriving DecidableEq

namespace Phase

/-- After an item of the key was added. -/
def add : Phase → Phase
  | .idle => .ready
  | .held _ => .held true
  | phase => phase

/-- After a look that hands out another key or nothing. -/
def promote (now : Nat) : Phase → Phase
  | .waiting due => if due ≤ now then .ready else .waiting due
  | phase => phase

/-- After a report of the key. -/
def report {α : Type} (now : Nat) (outcome : Outcome α) : Phase → Phase
  | .held true => .ready
  | .held false =>
      match outcome with
      | .finished => .idle
      | .retry _ delay => .waiting (now + delay)
  | phase => phase

end Phase

/-- The phase of a key after a look at a time. -/
def WorkQueue.Handed.phaseAfter {κ α : Type} [DecidableEq κ]
    (handed : Handed κ α) (key : κ) (now : Nat) (phase : Phase) : Phase :=
  match handed with
  | .item k _ => if k = key then .held false else phase.promote now
  | .nothing => phase.promote now
  | .closed => phase

namespace History

variable {κ α : Type}

/-- The time since the start. -/
def clock : History κ α → Nat
  | [] => 0
  | .waited span :: history => clock history + span
  | _ :: history => clock history

variable [DecidableEq κ]

/-- The phase of a key. -/
def phase (key : κ) : History κ α → Phase
  | [] => .idle
  | .added k _ :: history =>
      if k = key then (phase key history).add else phase key history
  | .looked handed :: history =>
      handed.phaseAfter key (clock history) (phase key history)
  | .reported k outcome :: history =>
      if k = key then (phase key history).report (clock history) outcome
      else phase key history
  | _ :: history => phase key history

end History

theorem Reaches.clock_eq {κ α : Type} [DecidableEq κ] {history : History κ α}
    {clock : Nat} {queue : WorkQueue κ α}
    (reaches : Reaches history clock queue) : history.clock = clock := by
  induction reaches with
  | start => rfl
  | add _ _ _ ih => exact ih
  | look _ _ ih => exact ih
  | report _ _ _ _ ih => exact ih
  | wait span _ ih => exact congrArg (· + span) ih
  | close _ ih => exact ih

namespace WorkQueue

variable {κ α : Type} [DecidableEq κ]

/-- The phase of a key, by the places in which the queue keeps it. -/
def phase (queue : WorkQueue κ α) (key : κ) : Phase :=
  if queue.pending.has key then .ready
  else
    match queue.waiting.get? key with
    | some (_, due) => .waiting due
    | none =>
        if key ∈ queue.processing then .held (queue.dirty.has key) else .idle

/-- Where a key is kept at the same places, it has the same phase. -/
theorem phase_congr {queue other : WorkQueue κ α} {key : κ}
    (pending : other.pending.get? key = queue.pending.get? key)
    (waiting : other.waiting.get? key = queue.waiting.get? key)
    (processing : key ∈ other.processing ↔ key ∈ queue.processing)
    (dirty : other.dirty.get? key = queue.dirty.get? key) :
    other.phase key = queue.phase key := by
  rw [phase, phase, Assoc.has, Assoc.has, Assoc.has, Assoc.has, pending,
    waiting, dirty]
  simp only [processing]

theorem phase_of_pending {queue : WorkQueue κ α} {key : κ}
    (member : key ∈ queue.pending.keys) : queue.phase key = .ready := by
  rw [phase, if_pos (Assoc.has_iff_mem_keys.mpr member)]

/-- A key that is in no place is idle. -/
theorem phase_of_absent {queue : WorkQueue κ α} {key : κ}
    (notPending : key ∉ queue.pending.keys)
    (notWaiting : key ∉ queue.waiting.keys)
    (notProcessing : key ∉ queue.processing) : queue.phase key = .idle := by
  rw [phase, if_neg fun has => notPending (Assoc.has_iff_mem_keys.mp has),
    Assoc.get?_eq_none_iff.mpr notWaiting]
  exact if_neg notProcessing

theorem phase_eq_ready_iff {queue : WorkQueue κ α} {key : κ} :
    queue.phase key = .ready ↔ key ∈ queue.pending.keys := by
  refine ⟨fun isReady => ?_, phase_of_pending⟩
  rw [phase] at isReady
  split at isReady
  · rename_i has
    exact Assoc.has_iff_mem_keys.mp has
  · split at isReady
    · cases isReady
    · split at isReady <;> cases isReady

theorem get?_of_phase_eq_waiting {queue : WorkQueue κ α} {key : κ} {due : Nat}
    (waits : queue.phase key = .waiting due) :
    ∃ value, queue.waiting.get? key = some (value, due) := by
  rw [phase] at waits
  split at waits
  · cases waits
  · split at waits
    · rename_i value due' found
      cases waits
      exact ⟨value, found⟩
    · split at waits <;> cases waits

namespace Accounted

variable {queue : WorkQueue κ α}

theorem phase_of_waiting (accounted : queue.Accounted) {key : κ} {value : α}
    {due : Nat} (found : queue.waiting.get? key = some (value, due)) :
    queue.phase key = .waiting due := by
  have notPending : ¬ queue.pending.has key = true := fun has =>
    accounted.pending_waiting (Assoc.has_iff_mem_keys.mp has)
      (Assoc.mem_keys_of_get? found)
  rw [phase, if_neg notPending, found]

theorem phase_of_processing (accounted : queue.Accounted) {key : κ}
    (member : key ∈ queue.processing) :
    queue.phase key = .held (queue.dirty.has key) := by
  have notPending : ¬ queue.pending.has key = true := fun has =>
    accounted.pending_processing (Assoc.has_iff_mem_keys.mp has) member
  have notWaiting : queue.waiting.get? key = none :=
    Assoc.get?_eq_none_iff.mpr (accounted.not_waiting_of_processing member)
  rw [phase, if_neg notPending, notWaiting]
  exact if_pos member

/-! ## What the operations make of a phase -/

theorem phase_add_self (accounted : queue.Accounted) (key : κ) (value : α) :
    (queue.add key value).2.phase key = (queue.phase key).add := by
  have after := accounted.add key value
  rcases add_cases queue key value with
    ⟨member, result⟩ | ⟨_, old, due, found, result⟩ |
    ⟨_, _, member, isDirty, result⟩ | ⟨_, _, member, notDirty, result⟩ |
    ⟨notPending, notWaiting, notProcessing, result⟩ <;>
    rw [result] at after ⊢
  · rw [phase_of_pending member, phase_of_pending]
    · rfl
    · rw [Assoc.keys_put_of_mem member]
      exact member
  · rw [accounted.phase_of_waiting found,
      after.phase_of_waiting (Assoc.get?_put_self ..)]
    rfl
  · rw [accounted.phase_of_processing member, after.phase_of_processing member]
    simp [Assoc.has, Assoc.get?_put_self, Phase.add]
  · rw [accounted.phase_of_processing member, after.phase_of_processing member]
    simp [Assoc.has, Assoc.get?_put_self, Phase.add]
  · rw [phase_of_absent notPending notWaiting notProcessing, phase_of_pending]
    · rfl
    · rw [Assoc.keys_put_of_not_mem notPending]
      exact List.mem_append_right _ (List.mem_singleton_self key)

/-- Items that become pending are ready, and other keys stay where they are. -/
theorem phase_promote {due : Assoc κ (α × Nat)} (accounted : queue.Accounted)
    (promotable : queue.Promotable due) (key : κ) :
    (queue.promote due).phase key =
      if key ∈ due.keys then .ready else queue.phase key := by
  induction due generalizing queue with
  | nil => rfl
  | cons item rest ih =>
      obtain ⟨taken, value, time⟩ := item
      have waits := promotable.waits _ List.mem_cons_self
      have after :=
        accounted.promoteOne value (Assoc.mem_keys_of_get? waits)
      rw [WorkQueue.promote, ih after promotable.tail, Assoc.keys_cons]
      by_cases inRest : key ∈ Assoc.keys rest
      · rw [if_pos inRest, if_pos (List.mem_cons_of_mem _ inRest)]
      · rw [if_neg inRest]
        by_cases same : key = taken
        · subst same
          rw [if_pos List.mem_cons_self]
          exact phase_of_pending
            (Assoc.mem_keys_of_get? (Assoc.get?_put_self ..))
        · rw [if_neg (by simp [same, inRest])]
          exact phase_congr (Assoc.get?_put_of_ne same _ _)
            (Assoc.get?_erase_of_ne same _) Iff.rfl rfl

/-- The keys that are due are those that wait for a time that has come. -/
theorem mem_keys_due_iff (accounted : queue.Accounted) {now : Nat}
    {due : Assoc κ (α × Nat)} (order : due.Perm (queue.due now)) (key : κ) :
    key ∈ due.keys ↔ ∃ time ≤ now, queue.phase key = .waiting time := by
  rw [Assoc.keys, (order.map _).mem_iff, List.mem_map]
  constructor
  · rintro ⟨⟨key, value, time⟩, isDue, rfl⟩
    obtain ⟨waits, inTime⟩ := List.mem_filter.mp isDue
    exact ⟨time, of_decide_eq_true inTime, accounted.phase_of_waiting
      (Assoc.get?_of_mem accounted.waiting_nodup waits)⟩
  · rintro ⟨time, inTime, waits⟩
    obtain ⟨value, found⟩ := get?_of_phase_eq_waiting waits
    exact ⟨(key, value, time),
      List.mem_filter.mpr ⟨Assoc.mem_of_get? found, decide_eq_true inTime⟩, rfl⟩

theorem phase_promote_due (accounted : queue.Accounted) {now : Nat}
    {due : Assoc κ (α × Nat)} (order : due.Perm (queue.due now)) (key : κ) :
    (queue.promote due).phase key = (queue.phase key).promote now := by
  rw [accounted.phase_promote (accounted.promotable order)]
  have isDue := accounted.mem_keys_due_iff order key
  split
  · rename_i member
    obtain ⟨time, inTime, waits⟩ := isDue.mp member
    rw [waits]
    exact (if_pos inTime).symm
  · rename_i notDue
    cases isPhase : queue.phase key with
    | waiting time =>
        have later : ¬ time ≤ now := fun inTime =>
          notDue (isDue.mpr ⟨time, inTime, isPhase⟩)
        exact (if_neg later).symm
    | _ => rfl

/-- The first key of the order is held, and other keys stay where they are. -/
theorem phase_start (accounted : queue.Accounted) {key : κ} {later : List κ}
    (order : queue.order = key :: later) (other : κ) :
    phase
        { queue with
          order := later
          pending := queue.pending.erase key
          processing := key :: queue.processing.filter (· ≠ key) } other =
      if key = other then .held false else queue.phase other := by
  have after := accounted.start order
  by_cases same : other = key
  · subst same
    have notDirty : queue.dirty.get? other = none := by
      refine Assoc.get?_eq_none_iff.mpr (accounted.not_dirty_of_pending ?_)
      rw [← accounted.mem_order, order]
      exact List.mem_cons_self
    rw [after.phase_of_processing List.mem_cons_self, if_pos rfl]
    simp [Assoc.has, notDirty]
  · rw [if_neg (Ne.symm same)]
    refine phase_congr (Assoc.get?_erase_of_ne same _) rfl ?_ rfl
    simp [same]

theorem phase_of_hands (accounted : queue.Accounted) {now : Nat}
    {handed : Handed κ α} {rest : WorkQueue κ α}
    (hands : queue.Hands now handed rest) (key : κ) :
    rest.phase key = handed.phaseAfter key now (queue.phase key) := by
  cases hands with
  | closed _ => rfl
  | popped _ perm popped =>
      have promoted := accounted.promote (accounted.promotable perm)
      rcases promoted.pop_cases with
        ⟨_, result⟩ | ⟨taken, value, later, order, _, result⟩
      · rw [result] at popped
        cases popped
        exact accounted.phase_promote_due perm key
      · rw [result] at popped
        cases popped
        rw [promoted.phase_start order, accounted.phase_promote_due perm]
        rfl

theorem phase_done_self (accounted : queue.Accounted) {key : κ}
    (member : key ∈ queue.processing) (outcome : Outcome α) (now : Nat) :
    (queue.done key outcome now).phase key =
      (queue.phase key).report now outcome := by
  have after := accounted.done member outcome now
  have notPending := accounted.not_pending_of_processing member
  have notWaiting := accounted.not_waiting_of_processing member
  have notProcessing : key ∉ queue.processing.filter (· ≠ key) := by
    simp
  rw [accounted.phase_of_processing member]
  rcases done_cases queue key outcome now with
    ⟨value, found, result⟩ | ⟨absent, rfl, result⟩ |
    ⟨absent, value, delay, rfl, result⟩ <;>
    rw [result] at after ⊢
  · rw [phase_of_pending (Assoc.mem_keys_of_get? (Assoc.get?_put_self ..)),
      Assoc.has, found]
    rfl
  · rw [phase_of_absent, Assoc.has, absent]
    · rfl
    · exact notPending
    · exact notWaiting
    · exact notProcessing
  · rw [after.phase_of_waiting (Assoc.get?_put_self ..), Assoc.has, absent]
    rfl

end Accounted

theorem phase_add_of_ne (queue : WorkQueue κ α) {key other : κ}
    (different : other ≠ key) (value : α) :
    (queue.add key value).2.phase other = queue.phase other := by
  rcases add_cases queue key value with
    ⟨_, result⟩ | ⟨_, _, due, _, result⟩ | ⟨_, _, _, _, result⟩ |
    ⟨_, _, _, _, result⟩ | ⟨_, _, _, result⟩ <;>
    rw [result] <;>
    apply phase_congr <;>
    first
      | rfl
      | exact Assoc.get?_put_of_ne different _ _

theorem phase_done_of_ne (queue : WorkQueue κ α) {key other : κ}
    (different : other ≠ key) (outcome : Outcome α) (now : Nat) :
    (queue.done key outcome now).phase other = queue.phase other := by
  have stays : other ∈ queue.processing.filter (· ≠ key) ↔
      other ∈ queue.processing := by simp [different]
  rcases done_cases queue key outcome now with
    ⟨_, _, result⟩ | ⟨_, _, result⟩ | ⟨_, _, _, _, result⟩ <;>
    rw [result]
  · exact phase_congr (Assoc.get?_put_of_ne different _ _) rfl stays
      (Assoc.get?_erase_of_ne different _)
  · exact phase_congr rfl rfl stays rfl
  · exact phase_congr rfl (Assoc.get?_put_of_ne different _ _) stays rfl

end WorkQueue

/-- A queue keeps each key where its history says that it is. -/
theorem Reaches.phase_eq {κ α : Type} [DecidableEq κ] {history : History κ α}
    {clock : Nat} {queue : WorkQueue κ α}
    (reaches : Reaches history clock queue) (key : κ) :
    queue.phase key = history.phase key := by
  induction reaches with
  | start => rfl
  | add added value reaches ih =>
      rw [History.phase, ← ih]
      by_cases same : added = key
      · subst same
        rw [if_pos rfl]
        exact reaches.accounted.phase_add_self added value
      · rw [if_neg same]
        exact WorkQueue.phase_add_of_ne _ (Ne.symm same) value
  | look reaches hands ih =>
      rw [History.phase, ← ih, reaches.clock_eq]
      exact reaches.accounted.phase_of_hands hands key
  | report reported outcome reaches isHeld ih =>
      rw [History.phase, ← ih, reaches.clock_eq]
      by_cases same : reported = key
      · subst same
        rw [if_pos rfl]
        have member := (reaches.mem_processing reported).mpr isHeld
        exact reaches.accounted.phase_done_self member outcome _
      · rw [if_neg same]
        exact WorkQueue.phase_done_of_ne _ (Ne.symm same) outcome _
  | wait _ _ ih => exact ih
  | close _ ih => exact ih

end ClusterTrace.Queue
