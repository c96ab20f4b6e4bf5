import ClusterTrace.Proofs.Queue.Phases
import ClusterTrace.Proofs.Queue.Progress

/-!
# The order in which keys are handed out

The keys that were handed out and, after them, those that stand in line are the
keys in the order in which they became ready, `Reaches.readyOrder`.  So a key
that was put to wait is handed out at the first look from its time on, unless
keys that became ready before it or together with it are handed out first.
-/

namespace ClusterTrace.Queue

/-- The keys that a taker is handed: one or none. -/
def WorkQueue.Handed.keys {κ α : Type} : Handed κ α → List κ
  | .item key _ => [key]
  | .nothing => []
  | .closed => []

namespace History

variable {κ α : Type} [DecidableEq κ]

/-- The keys that were handed out, the first one first. -/
def handedOut : History κ α → List κ
  | [] => []
  | .looked handed :: history => handedOut history ++ handed.keys
  | _ :: history => handedOut history

/-- The keys that become ready by what happens after a history, in order.  A
look promotes all keys whose time has come, in any order. -/
inductive Readies (history : History κ α) : Event κ α → List κ → Prop where
  | fresh {key : κ} {value : α} :
      history.phase key = .idle → Readies history (.added key value) [key]
  | replaced {key : κ} {value : α} :
      history.phase key ≠ .idle → Readies history (.added key value) []
  | promoted {handed : WorkQueue.Handed κ α} {keys : List κ} :
      handed ≠ .closed → keys.Nodup →
      (∀ key, key ∈ keys ↔
        ∃ due ≤ history.clock, history.phase key = .waiting due) →
      Readies history (.looked handed) keys
  | refused : Readies history (.looked .closed) []
  | released {key : κ} {outcome : Outcome α} :
      history.phase key = .held true →
      Readies history (.reported key outcome) [key]
  | settled {key : κ} {outcome : Outcome α} :
      history.phase key ≠ .held true →
      Readies history (.reported key outcome) []
  | waited {span : Nat} : Readies history (.waited span) []
  | closed : Readies history .closed []

/-- The keys in an order in which they became ready, once for each time. -/
inductive ReadyOrder : History κ α → List κ → Prop where
  | start : ReadyOrder [] []
  | step {history : History κ α} {event : Event κ α} {before keys : List κ} :
      ReadyOrder history before → Readies history event keys →
      ReadyOrder (event :: history) (before ++ keys)

theorem ReadyOrder.step_nil {history : History κ α} {event : Event κ α}
    {before : List κ} (order : history.ReadyOrder before)
    (readies : history.Readies event []) :
    ReadyOrder (event :: history) before := by
  have step := order.step readies
  rwa [List.append_nil] at step

/-- A report put the key to wait until a time, and it was not handed out since
then. -/
inductive Awaits (key : κ) (due : Nat) : History κ α → Prop where
  | put {history : History κ α} {value : α} {delay : Nat} :
      history.phase key = .held false → history.clock + delay = due →
      Awaits key due (.reported key (.retry value delay) :: history)
  | kept {history : History κ α} {event : Event κ α} :
      Awaits key due history → (∀ value, event ≠ .looked (.item key value)) →
      Awaits key due (event :: history)

/-- What was put to wait is ready only when its time has come. -/
theorem Awaits.phase_cases {key : κ} {due : Nat} {history : History κ α}
    (awaits : history.Awaits key due) :
    history.phase key = .waiting due ∨
      history.phase key = .ready ∧ due ≤ history.clock := by
  induction awaits with
  | put isHeld isDue =>
      left
      rw [phase, if_pos rfl, isHeld, ← isDue]
      rfl
  | @kept history event _ notHanded ih =>
      -- A look that does not hand out the key promotes it if it is due.
      have promoted :
          (phase key history).promote (clock history) = .waiting due ∨
            (phase key history).promote (clock history) = .ready ∧
              due ≤ clock history := by
        rcases ih with waits | ⟨isReady, inTime⟩
        · rw [waits, Phase.promote]
          by_cases inTime : due ≤ clock history
          · exact .inr ⟨if_pos inTime, inTime⟩
          · exact .inl (if_neg inTime)
        · rw [isReady]
          exact .inr ⟨rfl, inTime⟩
      cases event with
      | added other value =>
          rw [phase]
          split
          · rcases ih with waits | ⟨isReady, inTime⟩
            · exact .inl (congrArg Phase.add waits)
            · exact .inr ⟨congrArg Phase.add isReady, inTime⟩
          · exact ih
      | looked handed =>
          cases handed with
          | item other value =>
              have different : other ≠ key := by
                rintro rfl
                exact notHanded value rfl
              rw [phase, WorkQueue.Handed.phaseAfter, if_neg different]
              exact promoted
          | nothing => exact promoted
          | closed => exact ih
      | reported other outcome =>
          rw [phase]
          split
          · rcases ih with waits | ⟨isReady, inTime⟩
            · exact .inl (congrArg (Phase.report _ outcome) waits)
            · exact .inr ⟨congrArg (Phase.report _ outcome) isReady, inTime⟩
          · exact ih
      | waited span =>
          rcases ih with waits | ⟨isReady, inTime⟩
          · exact .inl waits
          · exact .inr ⟨isReady, Nat.le_add_right_of_le inTime⟩
      | closed => exact ih

end History

namespace WorkQueue

variable {κ α : Type} [DecidableEq κ] {queue rest : WorkQueue κ α} {now : Nat}

/-- The keys that wait, with their times. -/
def dues (queue : WorkQueue κ α) : List (κ × Nat) :=
  queue.waiting.map fun item => (item.1, item.2.2)

theorem map_put_of_get? {β γ : Type} {key : κ} {old value : β} {f : κ × β → γ}
    {pairs : Assoc κ β} (found : pairs.get? key = some old)
    (same : f (key, value) = f (key, old)) :
    (pairs.put key value).map f = pairs.map f := by
  induction pairs with
  | nil => cases found
  | cons pair rest ih =>
      obtain ⟨k, first⟩ := pair
      rw [Assoc.get?] at found
      rw [Assoc.put]
      by_cases here : k = key
      · subst here
        rw [if_pos rfl] at found ⊢
        cases found
        rw [List.map_cons, List.map_cons, same]
      · rw [if_neg here] at found ⊢
        rw [List.map_cons, List.map_cons, ih found]

/-- Another value of a key that is pending or waits changes neither the order
nor the times. -/
theorem order_add_of_queued {key : κ}
    (queued : key ∈ queue.pending.keys ∨ key ∈ queue.waiting.keys)
    (value : α) :
    (queue.add key value).2.order = queue.order ∧
      (queue.add key value).2.dues = queue.dues := by
  rcases add_cases queue key value with
    ⟨_, result⟩ | ⟨_, old, due, found, result⟩ |
    ⟨notPending, notWaiting, _, _, _⟩ | ⟨notPending, notWaiting, _, _, _⟩ |
    ⟨notPending, notWaiting, _, _⟩
  · rw [result]
    exact ⟨rfl, rfl⟩
  · rw [result]
    exact ⟨rfl, map_put_of_get? found rfl⟩
  all_goals exact (queued.elim notPending notWaiting).elim

namespace Accounted

/-- A look takes the first key of the line, behind which it puts the keys whose
time has come. -/
theorem line_of_hands (accounted : queue.Accounted)
    (isOpen : queue.isClosed = false) {handed : Handed κ α}
    (hands : queue.Hands now handed rest) :
    handed ≠ .closed ∧ ∃ due : Assoc κ (α × Nat), due.Perm (queue.due now) ∧
      queue.order ++ Assoc.keys due = handed.keys ++ rest.order := by
  cases hands with
  | closed isClosed =>
      rw [isOpen] at isClosed
      cases isClosed
  | @popped due _ _ _ perm popped =>
      have line : queue.order ++ Assoc.keys due = (queue.promote due).order :=
        (order_promote queue due).symm
      have promoted := accounted.promote (accounted.promotable perm)
      rcases promoted.pop_cases with
        ⟨_, result⟩ | ⟨key, value, later, order, _, result⟩
      · rw [result] at popped
        cases popped
        exact ⟨nofun, due, perm, line⟩
      · rw [result] at popped
        cases popped
        exact ⟨nofun, due, perm, line.trans order⟩

end Accounted
end WorkQueue

namespace Reaches

variable {κ α : Type} [DecidableEq κ] {history : History κ α} {clock : Nat}
  {queue rest : WorkQueue κ α}

theorem isClosed_iff (reaches : Reaches history clock queue) :
    queue.isClosed = true ↔ .closed ∈ history := by
  induction reaches with
  | start => simp
  | @add history _ queue key value _ ih =>
      have same : (queue.add key value).2.isClosed = queue.isClosed := by
        rcases WorkQueue.add_cases queue key value with
          ⟨_, result⟩ | ⟨_, _, _, _, result⟩ | ⟨_, _, _, _, result⟩ |
          ⟨_, _, _, _, result⟩ | ⟨_, _, _, result⟩ <;> rw [result]
      rw [same, ih]
      simp
  | look reaches hands ih =>
      rw [reaches.accounted.isClosed_hands hands, ih]
      simp
  | report _ _ _ _ ih =>
      rw [WorkQueue.isClosed_done, ih]
      simp
  | wait _ _ ih =>
      rw [ih]
      simp
  | close => simp [WorkQueue.shutDown]

theorem isClosed_eq_false_iff (reaches : Reaches history clock queue) :
    queue.isClosed = false ↔ .closed ∉ history := by
  rw [← reaches.isClosed_iff, Bool.not_eq_true]

/-- The keys that an event makes ready go to the end of the line, from the front
of which takers are handed theirs. -/
theorem exists_readies_look {handed : WorkQueue.Handed κ α}
    (reaches : Reaches history clock queue)
    (hands : queue.Hands clock handed rest) :
    ∃ keys, history.Readies (.looked handed) keys ∧
      queue.order ++ keys = handed.keys ++ rest.order := by
  have accounted := reaches.accounted
  by_cases isOpen : queue.isClosed = false
  · obtain ⟨notClosed, due, perm, line⟩ := accounted.line_of_hands isOpen hands
    refine ⟨due.keys, .promoted notClosed ?_ fun key => ?_, line⟩
    · exact (accounted.promotable perm).distinct
    · rw [accounted.mem_keys_due_iff perm, reaches.clock_eq, reaches.phase_eq]
  · cases hands with
    | closed _ => exact ⟨[], .refused, List.append_nil _⟩
    | popped open' _ _ => exact (isOpen open').elim

/-- A fresh key goes to the end of the line. -/
theorem exists_readies_add (reaches : Reaches history clock queue) (key : κ)
    (value : α) :
    ∃ keys, history.Readies (.added key value) keys ∧
      (queue.add key value).2.order = queue.order ++ keys := by
  have accounted := reaches.accounted
  have phase := reaches.phase_eq key
  rcases WorkQueue.add_cases queue key value with
    ⟨member, result⟩ | ⟨_, _, _, found, result⟩ |
    ⟨_, _, member, _, result⟩ | ⟨_, _, member, _, result⟩ |
    ⟨notPending, notWaiting, notProcessing, result⟩ <;>
    rw [result]
  · rw [WorkQueue.phase_of_pending member] at phase
    exact ⟨[], .replaced (by simp [← phase]), (List.append_nil _).symm⟩
  · rw [accounted.phase_of_waiting found] at phase
    exact ⟨[], .replaced (by simp [← phase]), (List.append_nil _).symm⟩
  · rw [accounted.phase_of_processing member] at phase
    exact ⟨[], .replaced (by simp [← phase]), (List.append_nil _).symm⟩
  · rw [accounted.phase_of_processing member] at phase
    exact ⟨[], .replaced (by simp [← phase]), (List.append_nil _).symm⟩
  · rw [WorkQueue.phase_of_absent notPending notWaiting notProcessing] at phase
    exact ⟨[key], .fresh phase.symm, rfl⟩

/-- A key with a newer value goes to the end of the line when it is reported. -/
theorem exists_readies_done {key : κ} (reaches : Reaches history clock queue)
    (isHeld : (history.held? key).isSome) (outcome : Outcome α) :
    ∃ keys, history.Readies (.reported key outcome) keys ∧
      (queue.done key outcome clock).order = queue.order ++ keys := by
  have member := (reaches.mem_processing key).mpr isHeld
  have phase := reaches.phase_eq key
  rw [reaches.accounted.phase_of_processing member, Assoc.has] at phase
  rcases WorkQueue.done_cases queue key outcome clock with
    ⟨value, found, result⟩ | ⟨absent, _, result⟩ | ⟨absent, _, _, _, result⟩ <;>
    rw [result]
  · rw [found] at phase
    exact ⟨[key], .released phase.symm, rfl⟩
  · rw [absent] at phase
    exact ⟨[], .settled (by simp [← phase]), (List.append_nil _).symm⟩
  · rw [absent] at phase
    exact ⟨[], .settled (by simp [← phase]), (List.append_nil _).symm⟩

/-- The keys that were handed out and those that stand in line are the keys in
the order in which they became ready. -/
theorem readyOrder (reaches : Reaches history clock queue) :
    history.ReadyOrder (history.handedOut ++ queue.order) := by
  induction reaches with
  | start => exact .start
  | add key value reaches ih =>
      obtain ⟨keys, readies, order⟩ := reaches.exists_readies_add key value
      rw [order, ← List.append_assoc]
      exact ih.step readies
  | look reaches hands ih =>
      obtain ⟨keys, readies, line⟩ := reaches.exists_readies_look hands
      rw [History.handedOut, List.append_assoc, ← line, ← List.append_assoc]
      exact ih.step readies
  | report key outcome reaches isHeld ih =>
      obtain ⟨keys, readies, order⟩ :=
        reaches.exists_readies_done isHeld outcome
      rw [order, ← List.append_assoc]
      exact ih.step readies
  | wait _ _ ih => exact ih.step_nil .waited
  | close _ ih => exact ih.step_nil .closed

/-- Nothing that was put to wait is handed out before its time. -/
theorem due_le_of_hands (reaches : Reaches history clock queue) {key : κ}
    {value : α} {due : Nat} (awaits : history.Awaits key due)
    (hands : queue.Hands clock (.item key value) rest) : due ≤ clock := by
  obtain ⟨keys, readies, line⟩ := reaches.exists_readies_look hands
  have inLine : key ∈ queue.order ++ keys := by
    rw [line]
    exact List.mem_cons_self
  rcases awaits.phase_cases with waits | ⟨_, inTime⟩
  · rcases List.mem_append.mp inLine with ordered | isPromoted
    · rw [reaches.accounted.mem_order, ← WorkQueue.phase_eq_ready_iff,
        reaches.phase_eq, waits] at ordered
      cases ordered
    · cases readies with
      | promoted _ _ mem_keys =>
          obtain ⟨time, inTime, waits'⟩ := (mem_keys key).mp isPromoted
          rw [waits] at waits'
          cases waits'
          rwa [reaches.clock_eq] at inTime
  · rwa [reaches.clock_eq] at inTime

/-- From its time on, what was put to wait is in the line of which a look takes
the first key. -/
theorem mem_line_of_due (reaches : Reaches history clock queue) {key : κ}
    {due : Nat} (awaits : history.Awaits key due) (inTime : due ≤ clock)
    (isOpen : .closed ∉ history) {handed : WorkQueue.Handed κ α}
    (hands : queue.Hands clock handed rest) :
    key ∈ handed.keys ++ rest.order := by
  have accounted := reaches.accounted
  obtain ⟨_, promoted, perm, line⟩ :=
    accounted.line_of_hands (reaches.isClosed_eq_false_iff.mpr isOpen) hands
  rw [← line, List.mem_append, accounted.mem_order,
    accounted.mem_keys_due_iff perm, ← WorkQueue.phase_eq_ready_iff,
    reaches.phase_eq]
  rcases awaits.phase_cases with waits | ⟨isReady, _⟩
  · exact .inr ⟨due, inTime, waits⟩
  · exact .inl isReady

end Reaches

/-- The keys that were handed out are the first ones of those that became ready,
in order; the others stand in line.  Another value of a key that is pending or
waits changes neither its place in line nor its time.  What a report puts to
wait is not handed out before its time; from then on every look hands out that
key or one ahead of it, which leaves the line.  After the closing nothing is
handed out. -/
theorem order_and_delays_of_reaches {κ α : Type} [DecidableEq κ]
    {history : History κ α} {clock : Nat} {queue : WorkQueue κ α}
    (reaches : Reaches history clock queue) :
    history.ReadyOrder (history.handedOut ++ queue.order) ∧
    (∀ key value, key ∈ queue.pending.keys ∨ key ∈ queue.waiting.keys →
      (queue.add key value).2.order = queue.order ∧
        (queue.add key value).2.dues = queue.dues) ∧
    (∀ key due, history.Awaits key due →
      (∀ value rest, queue.Hands clock (.item key value) rest → due ≤ clock) ∧
      (due ≤ clock → .closed ∉ history → ∀ handed rest,
        queue.Hands clock handed rest →
          ∃ first value ahead behind, handed = .item first value ∧
            first :: rest.order = ahead ++ key :: behind ∧
            History.ReadyOrder (.looked handed :: history)
              (history.handedOut ++ (ahead ++ key :: behind)))) ∧
    (.closed ∈ history → ∀ handed rest, queue.Hands clock handed rest →
      handed = .closed) := by
  refine ⟨reaches.readyOrder, ?_, ?_, ?_⟩
  · exact fun key value queued => WorkQueue.order_add_of_queued queued value
  · intro key due awaits
    refine ⟨fun value rest => reaches.due_le_of_hands awaits, ?_⟩
    intro inTime isOpen handed rest hands
    have inLine := reaches.mem_line_of_due awaits inTime isOpen hands
    have readyOrder := (reaches.look hands).readyOrder
    rw [History.handedOut, List.append_assoc] at readyOrder
    rcases reaches.accounted.hands_cases_of_isOpen
        (reaches.isClosed_eq_false_iff.mpr isOpen) hands with
      ⟨first, value, rfl⟩ | ⟨rfl, rfl, noItem⟩
    · obtain ⟨ahead, behind, line⟩ := List.mem_iff_append.mp inLine
      rw [line] at readyOrder
      exact ⟨first, value, ahead, behind, rfl, line, readyOrder⟩
    · exact (noItem (.inl (List.ne_nil_of_mem inLine))).elim
  · intro isClosed handed rest hands
    have closed := reaches.isClosed_iff.mpr isClosed
    cases hands with
    | closed _ => rfl
    | popped isOpen _ _ =>
        rw [closed] at isOpen
        cases isOpen

/-- A retry comes behind a key that was added while it waited. -/
theorem order_and_delays_of_late_retry :
    ∃ queue rest : WorkQueue Nat Nat,
      Reaches
        [.waited 10, .added 8 5, .reported 7 (.retry 1 10),
          .looked (.item 7 1), .added 7 1] 10 queue ∧
      History.ReadyOrder
        ([.waited 10, .added 8 5, .reported 7 (.retry 1 10),
          .looked (.item 7 1), .added 7 1] : History Nat Nat) [7, 8] ∧
      History.Awaits 7 10
        ([.waited 10, .added 8 5, .reported 7 (.retry 1 10),
          .looked (.item 7 1), .added 7 1] : History Nat Nat) ∧
      queue.Hands 10 (.item 8 5) rest ∧
      ∃ ahead behind, 8 :: rest.order = ahead ++ 7 :: behind := by
  have taken : Reaches [.looked (.item 7 1), .added 7 1] 0 _ :=
    .look (.add 7 1 .start) (WorkQueue.hands_get _ 0)
  have reaches := Reaches.wait 10
    (.add 8 5 (.report 7 (.retry 1 10) taken (by decide)))
  have awaits : History.Awaits 7 10
      ([.waited 10, .added 8 5, .reported 7 (.retry 1 10),
        .looked (.item 7 1), .added 7 1] : History Nat Nat) :=
    .kept (.kept (.put rfl rfl) nofun) nofun
  have hands := WorkQueue.hands_get
    ({ order := [8], pending := [(8, 5)], waiting := [(7, 1, 10)],
       outstanding := 2 } : WorkQueue Nat Nat) 10
  obtain ⟨readyOrder, -, delays, -⟩ := order_and_delays_of_reaches reaches
  obtain ⟨first, value, ahead, behind, isFirst, line, -⟩ :=
    (delays 7 10 awaits).2 (Nat.le_refl 10) (by simp) _ _ hands
  cases isFirst
  exact ⟨_, _, reaches, readyOrder, awaits, hands, ahead, behind, line⟩

end ClusterTrace.Queue
