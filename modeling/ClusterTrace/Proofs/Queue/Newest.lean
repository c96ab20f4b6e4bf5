import Mathlib.Data.List.Perm.Subperm
import ClusterTrace.Proofs.Queue.Accounting

/-!
# The newest values of a work queue

`WorkQueue.kept` lists the values that a queue holds of a key.  After every
history in which a retry carries the value that was handed out, each of them is
the value most recently added for the key, and that value is either kept, once,
or was handed out since it was added.
-/

namespace ClusterTrace.Queue

namespace WorkQueue

variable {κ α : Type} [DecidableEq κ]

/-- The pending, the dirty and the waiting value of a key, as far as there are
such. -/
def kept (queue : WorkQueue κ α) (key : κ) : List α :=
  (queue.pending.get? key).toList ++ (queue.dirty.get? key).toList ++
    ((queue.waiting.get? key).map (·.1)).toList

/-- Something is kept of the key, or the key is held. -/
def Owes (queue : WorkQueue κ α) (key : κ) : Prop :=
  queue.kept key ≠ [] ∨ key ∈ queue.processing

theorem kept_add_of_ne (queue : WorkQueue κ α) {key other : κ}
    (different : other ≠ key) (value : α) :
    (queue.add key value).2.kept other = queue.kept other := by
  rcases add_cases queue key value with
    ⟨_, result⟩ | ⟨_, _, due, _, result⟩ | ⟨_, _, _, _, result⟩ |
    ⟨_, _, _, _, result⟩ | ⟨_, _, _, result⟩ <;>
    simp only [result, kept, Assoc.get?_put_of_ne different]

theorem kept_done_of_ne (queue : WorkQueue κ α) {key other : κ}
    (different : other ≠ key) (outcome : Outcome α) (now : Nat) :
    (queue.done key outcome now).kept other = queue.kept other := by
  rcases done_cases queue key outcome now with
    ⟨_, _, result⟩ | ⟨_, _, result⟩ | ⟨_, _, _, _, result⟩ <;>
    simp only [result, kept, Assoc.get?_put_of_ne different,
      Assoc.get?_erase_of_ne different]

namespace Accounted

variable {queue : WorkQueue κ α}

/-! ## What is kept of a key, by the place of the key -/

theorem kept_of_pending (accounted : queue.Accounted) {key : κ} {value : α}
    (found : queue.pending.get? key = some value) :
    queue.kept key = [value] := by
  have member := Assoc.mem_keys_of_get? found
  have notDirty : queue.dirty.get? key = none :=
    Assoc.get?_eq_none_iff.mpr (accounted.not_dirty_of_pending member)
  have notWaiting : queue.waiting.get? key = none :=
    Assoc.get?_eq_none_iff.mpr fun inWaiting =>
      accounted.pending_waiting member inWaiting
  simp [kept, found, notDirty, notWaiting]

theorem kept_of_waiting (accounted : queue.Accounted) {key : κ} {value : α}
    {due : Nat} (found : queue.waiting.get? key = some (value, due)) :
    queue.kept key = [value] := by
  have member := Assoc.mem_keys_of_get? found
  have notPending : queue.pending.get? key = none :=
    Assoc.get?_eq_none_iff.mpr fun inPending =>
      accounted.pending_waiting inPending member
  have notDirty : queue.dirty.get? key = none :=
    Assoc.get?_eq_none_iff.mpr (accounted.not_dirty_of_waiting member)
  simp [kept, found, notPending, notDirty]

theorem kept_of_processing (accounted : queue.Accounted) {key : κ}
    (member : key ∈ queue.processing) :
    queue.kept key = (queue.dirty.get? key).toList := by
  have notPending : queue.pending.get? key = none :=
    Assoc.get?_eq_none_iff.mpr (accounted.not_pending_of_processing member)
  have notWaiting : queue.waiting.get? key = none :=
    Assoc.get?_eq_none_iff.mpr (accounted.not_waiting_of_processing member)
  simp [kept, notPending, notWaiting]

/-! ## What the operations keep -/

theorem kept_add_self (accounted : queue.Accounted) (key : κ) (value : α) :
    (queue.add key value).2.kept key = [value] := by
  have after := accounted.add key value
  rcases add_cases queue key value with
    ⟨_, result⟩ | ⟨_, _, due, _, result⟩ | ⟨_, _, member, _, result⟩ |
    ⟨_, _, member, _, result⟩ | ⟨_, _, _, result⟩ <;>
    rw [result] at after ⊢
  · exact after.kept_of_pending (Assoc.get?_put_self ..)
  · exact after.kept_of_waiting (Assoc.get?_put_self ..)
  · rw [after.kept_of_processing member, Assoc.get?_put_self]
    rfl
  · rw [after.kept_of_processing member, Assoc.get?_put_self]
    rfl
  · exact after.kept_of_pending (Assoc.get?_put_self ..)

theorem kept_promote {due : Assoc κ (α × Nat)} (accounted : queue.Accounted)
    (promotable : queue.Promotable due) (other : κ) :
    (queue.promote due).kept other = queue.kept other := by
  induction due generalizing queue with
  | nil => rfl
  | cons item rest ih =>
      obtain ⟨key, value, time⟩ := item
      have waits := promotable.waits _ List.mem_cons_self
      have after :=
        accounted.promoteOne value (Assoc.mem_keys_of_get? waits)
      rw [WorkQueue.promote, ih after promotable.tail]
      by_cases same : other = key
      · subst other
        rw [after.kept_of_pending (Assoc.get?_put_self ..),
          accounted.kept_of_waiting waits]
      · simp only [kept, Assoc.get?_put_of_ne same,
          Assoc.get?_erase_of_ne same]

/-- What is kept when the first key of the order goes to processing. -/
theorem kept_start (accounted : queue.Accounted) {key : κ} {later : List κ}
    (order : queue.order = key :: later) (other : κ) :
    kept
        { queue with
          order := later
          pending := queue.pending.erase key
          processing := key :: queue.processing.filter (· ≠ key) } other =
      if other = key then [] else queue.kept other := by
  have after := accounted.start order
  by_cases same : other = key
  · subst other
    have member : key ∈ queue.pending.keys := by
      rw [← accounted.mem_order, order]
      exact List.mem_cons_self
    have notDirty : queue.dirty.get? key = none :=
      Assoc.get?_eq_none_iff.mpr (accounted.not_dirty_of_pending member)
    rw [after.kept_of_processing List.mem_cons_self, if_pos rfl]
    simp only [notDirty, Option.toList_none]
  · rw [if_neg same]
    simp only [kept, Assoc.get?_erase_of_ne same]

/-- A report changes what is kept only by a retry of a key of which nothing is
kept. -/
theorem kept_done_self (accounted : queue.Accounted) {key : κ}
    (member : key ∈ queue.processing) (outcome : Outcome α) (now : Nat) :
    ((queue.done key outcome now).kept key = queue.kept key ∧
      (outcome = .finished ∨ queue.kept key ≠ [])) ∨
    ∃ value delay, outcome = .retry value delay ∧ queue.kept key = [] ∧
      (queue.done key outcome now).kept key = [value] := by
  have after := accounted.done member outcome now
  have before := accounted.kept_of_processing member
  rcases done_cases queue key outcome now with
    ⟨value, found, result⟩ | ⟨absent, finished, result⟩ |
    ⟨absent, value, delay, retried, result⟩ <;>
    rw [result] at after ⊢
  · left
    rw [after.kept_of_pending (Assoc.get?_put_self ..), before, found]
    exact ⟨rfl, .inr (List.cons_ne_nil value [])⟩
  · left
    exact ⟨rfl, .inl finished⟩
  · right
    refine ⟨value, delay, retried, ?_,
      after.kept_of_waiting (Assoc.get?_put_self ..)⟩
    rw [before, absent]
    rfl

/-! ## Keys that are still owed -/

theorem owes_add_self (accounted : queue.Accounted) (key : κ) (value : α) :
    (queue.add key value).2.Owes key := by
  left
  rw [accounted.kept_add_self]
  exact List.cons_ne_nil value []

/-- What is owed before a look is kept or held after it. -/
theorem owes_of_hands (accounted : queue.Accounted) {now : Nat}
    {handed : Handed κ α} {rest : WorkQueue κ α}
    (hands : queue.Hands now handed rest) {key : κ} (owes : queue.Owes key) :
    rest.Owes key := by
  rcases accounted.hands_cases hands with
    ⟨_, rfl⟩ | ⟨due, promotable, ⟨_, rfl⟩ |
      ⟨taken, value, later, _, order, _, rfl⟩⟩
  · exact owes
  · rw [Owes, accounted.kept_promote promotable, processing_promote]
    exact owes
  · by_cases same : key = taken
    · subst key
      exact .inr List.mem_cons_self
    · rw [Owes, (accounted.promote promotable).kept_start order, if_neg same,
        accounted.kept_promote promotable, processing_promote]
      refine owes.imp_right fun member => List.mem_cons_of_mem _ ?_
      exact List.mem_filter.mpr ⟨member, by simpa using same⟩

/-- A report ends what is owed of its key only if nothing newer is kept and no
retry was asked for. -/
theorem owes_done_self (accounted : queue.Accounted) {key : κ}
    (member : key ∈ queue.processing) (outcome : Outcome α) (now : Nat) :
    (outcome = .finished ∧ queue.kept key = []) ∨
      (queue.done key outcome now).Owes key := by
  rcases accounted.kept_done_self member outcome now with
    ⟨unchanged, finished | something⟩ | ⟨value, _, _, _, kept⟩
  · by_cases nothing : queue.kept key = []
    · exact .inl ⟨finished, nothing⟩
    · right
      left
      rw [unchanged]
      exact nothing
  · right
    left
    rw [unchanged]
    exact something
  · right
    left
    rw [kept]
    exact List.cons_ne_nil value []

theorem not_owes_of_isIdle (accounted : queue.Accounted)
    (isIdle : queue.isIdle = true) (key : κ) : ¬ queue.Owes key := by
  obtain ⟨pending, processing, dirty, waiting⟩ := accounted.isIdle_iff.mp isIdle
  simp [Owes, kept, pending, processing, dirty, waiting, Assoc.get?]

/-- A dirty key is processing too. -/
theorem place_of_owes (accounted : queue.Accounted) {key : κ}
    (owes : queue.Owes key) :
    key ∈ queue.pending.keys ∨ key ∈ queue.processing ∨
      key ∈ queue.waiting.keys := by
  by_contra nowhere
  rw [not_or, not_or] at nowhere
  obtain ⟨notPending, notProcessing, notWaiting⟩ := nowhere
  have notDirty : key ∉ queue.dirty.keys := fun isDirty =>
    notProcessing (accounted.dirty_processing key isDirty)
  rw [← Assoc.get?_eq_none_iff] at notPending notDirty notWaiting
  refine owes.elim (fun something => something ?_) notProcessing
  rw [kept, notPending, notDirty, notWaiting]
  rfl

theorem length_le_outstanding (accounted : queue.Accounted) {keys : List κ}
    (distinct : keys.Nodup) (owed : ∀ key ∈ keys, queue.Owes key) :
    keys.length ≤ queue.outstanding := by
  have subset : keys ⊆
      queue.pending.keys ++ queue.processing ++ queue.waiting.keys := by
    intro key member
    rw [List.mem_append, List.mem_append, or_assoc]
    exact accounted.place_of_owes (owed key member)
  have fewer := (distinct.subperm subset).length_le
  have total := accounted.outstanding_eq
  rw [List.length_append, List.length_append] at fewer
  omega

end Accounted

theorem owes_add_of_ne {queue : WorkQueue κ α} {key other : κ}
    (different : other ≠ key) (value : α) (owes : queue.Owes other) :
    (queue.add key value).2.Owes other := by
  rw [Owes, kept_add_of_ne queue different, processing_add]
  exact owes

theorem owes_done_of_ne {queue : WorkQueue κ α} {key other : κ}
    (different : other ≠ key) (outcome : Outcome α) (now : Nat)
    (owes : queue.Owes other) : (queue.done key outcome now).Owes other := by
  rw [Owes, kept_done_of_ne queue different, processing_done]
  refine owes.imp_right fun member => ?_
  exact List.mem_filter.mpr ⟨member, by simpa using different⟩

end WorkQueue

/-! ## Whole histories -/

/-- What a queue keeps of a key and what is held of it are the newest value. -/
structure Traced {κ α : Type} [DecidableEq κ] (history : History κ α)
    (queue : WorkQueue κ α) : Prop where
  kept_newest : ∀ key value, value ∈ queue.kept key →
    history.newest? key = some value
  awaiting : ∀ key value, history.newest? key = some value →
    history.handedSince key = true ∨ queue.kept key = [value]
  /-- A value that is held and not the newest is replaced by one that is
  kept. -/
  held_newest : ∀ key value, history.held? key = some value →
    history.newest? key = some value ∨ queue.kept key ≠ []

namespace Traced

variable {κ α : Type} [DecidableEq κ] {history : History κ α}
  {queue : WorkQueue κ α}

theorem add (traced : Traced history queue) (accounted : queue.Accounted)
    (key : κ) (value : α) :
    Traced (.added key value :: history) (queue.add key value).2 := by
  have self := accounted.kept_add_self key value
  have newest : History.newest? key (.added key value :: history) =
      some value := if_pos rfl
  constructor
  case kept_newest =>
    intro other old member
    by_cases same : other = key
    · subst other
      rw [self, List.mem_singleton] at member
      rw [newest, member]
    · rw [WorkQueue.kept_add_of_ne queue same] at member
      simpa [History.newest?, Ne.symm same] using
        traced.kept_newest other old member
  case awaiting =>
    intro other latest isLatest
    by_cases same : other = key
    · subst other
      right
      rw [newest] at isLatest
      cases isLatest
      exact self
    · rw [WorkQueue.kept_add_of_ne queue same]
      simpa [History.handedSince, Ne.symm same] using
        traced.awaiting other latest
          (by simpa [History.newest?, Ne.symm same] using isLatest)
  case held_newest =>
    intro other old isHeld
    by_cases same : other = key
    · subst other
      right
      simp [self]
    · rw [WorkQueue.kept_add_of_ne queue same]
      simpa [History.newest?, Ne.symm same] using
        traced.held_newest other old isHeld

/-- A look that hands out nothing. -/
theorem promote (traced : Traced history queue) (accounted : queue.Accounted)
    {due : Assoc κ (α × Nat)} (promotable : queue.Promotable due) :
    Traced history (queue.promote due) := by
  have kept := accounted.kept_promote promotable
  constructor
  case kept_newest =>
    intro key value member
    rw [kept] at member
    exact traced.kept_newest key value member
  case awaiting =>
    intro key value isNewest
    rw [kept]
    exact traced.awaiting key value isNewest
  case held_newest =>
    intro key value isHeld
    rw [kept]
    exact traced.held_newest key value isHeld

theorem start (traced : Traced history queue) (accounted : queue.Accounted)
    {key : κ} {value : α} {later : List κ}
    (order : queue.order = key :: later)
    (found : queue.pending.get? key = some value) :
    Traced (.looked (.item key value) :: history)
      { queue with
        order := later
        pending := queue.pending.erase key
        processing := key :: queue.processing.filter (· ≠ key) } := by
  have kept := accounted.kept_start order
  have newest : history.newest? key = some value := by
    refine traced.kept_newest key value ?_
    rw [accounted.kept_of_pending found]
    exact List.mem_singleton_self value
  constructor
  case kept_newest =>
    intro other old member
    rw [kept] at member
    by_cases same : other = key
    · rw [if_pos same] at member
      cases member
    · rw [if_neg same] at member
      exact traced.kept_newest other old member
  case awaiting =>
    intro other latest isLatest
    rw [kept]
    by_cases same : other = key
    · subst other
      left
      exact if_pos rfl
    · rw [if_neg same]
      simpa [History.handedSince, Ne.symm same] using
        traced.awaiting other latest isLatest
  case held_newest =>
    intro other old isHeld
    rw [kept]
    by_cases same : other = key
    · subst other
      left
      simp only [History.held?, if_true] at isHeld
      cases isHeld
      exact newest
    · rw [if_neg same]
      exact traced.held_newest other old
        (by simpa [History.held?, Ne.symm same] using isHeld)

theorem done (traced : Traced history queue) (accounted : queue.Accounted)
    {key : κ} (member : key ∈ queue.processing) (outcome : Outcome α)
    (now : Nat)
    (faithful : ∀ value delay, outcome = .retry value delay →
      history.held? key = some value) :
    Traced (.reported key outcome :: history)
      (queue.done key outcome now) := by
  have self := accounted.kept_done_self member outcome now
  constructor
  case kept_newest =>
    intro other value isKept
    by_cases same : other = key
    · subst other
      rcases self with ⟨unchanged, _⟩ | ⟨retried, delay, equal, nothing, kept⟩
      · rw [unchanged] at isKept
        exact traced.kept_newest key value isKept
      · rw [kept, List.mem_singleton] at isKept
        subst value
        rcases traced.held_newest key retried
          (faithful retried delay equal) with newest | something
        · exact newest
        · exact (something nothing).elim
    · rw [WorkQueue.kept_done_of_ne queue same] at isKept
      exact traced.kept_newest other value isKept
  case awaiting =>
    intro other value isNewest
    by_cases same : other = key
    · subst other
      rcases traced.awaiting key value isNewest with since | kept
      · exact .inl since
      · right
        rcases self with ⟨unchanged, _⟩ | ⟨_, _, _, nothing, _⟩
        · rw [unchanged]
          exact kept
        · rw [nothing] at kept
          cases kept
    · rw [WorkQueue.kept_done_of_ne queue same]
      exact traced.awaiting other value isNewest
  case held_newest =>
    intro other value isHeld
    by_cases same : other = key
    · subst other
      simp [History.held?] at isHeld
    · rw [WorkQueue.kept_done_of_ne queue same]
      exact traced.held_newest other value
        (by simpa [History.held?, Ne.symm same] using isHeld)

end Traced

theorem Reaches.traced {κ α : Type} [DecidableEq κ] {history : History κ α}
    {clock : Nat} {queue : WorkQueue κ α}
    (reaches : Reaches history clock queue) (faithful : history.Faithful) :
    Traced history queue := by
  induction reaches with
  | start => constructor <;> simp [WorkQueue.kept, History.newest?,
      History.held?, Assoc.get?]
  | add key value reaches ih =>
      exact (ih faithful).add reaches.accounted key value
  | look reaches hands ih =>
      have traced := ih faithful
      have accounted := reaches.accounted
      rcases accounted.hands_cases hands with
        ⟨rfl, rfl⟩ | ⟨due, promotable, ⟨rfl, rfl⟩ |
          ⟨key, value, later, rfl, order, found, rfl⟩⟩
      · exact ⟨traced.kept_newest, traced.awaiting, traced.held_newest⟩
      · have promoted := traced.promote accounted promotable
        exact ⟨promoted.kept_newest, promoted.awaiting, promoted.held_newest⟩
      · exact (traced.promote accounted promotable).start
          (accounted.promote promotable) order found
  | report key outcome reaches isHeld ih =>
      have member := (reaches.mem_processing key).mpr isHeld
      cases outcome with
      | finished =>
          refine (ih faithful).done reaches.accounted member _ _ ?_
          intro value delay equal
          cases equal
      | retry value delay =>
          refine (ih faithful.2).done reaches.accounted member _ _ ?_
          intro retried _ equal
          cases equal
          exact faithful.1
  | wait span _ ih =>
      have traced := ih faithful
      exact ⟨traced.kept_newest, traced.awaiting, traced.held_newest⟩
  | close _ ih =>
      have traced := ih faithful
      exact ⟨traced.kept_newest, traced.awaiting, traced.held_newest⟩

/-- The item that a taker may be handed is the newest value of a key that is not
being processed. -/
theorem Traced.item_of_hands {κ α : Type} [DecidableEq κ]
    {history : History κ α} {queue rest : WorkQueue κ α} {now : Nat} {key : κ}
    {value : α} (traced : Traced history queue)
    (accounted : queue.Accounted)
    (hands : queue.Hands now (.item key value) rest) :
    key ∉ queue.processing ∧ history.newest? key = some value := by
  rcases accounted.hands_cases hands with
    ⟨impossible, _⟩ | ⟨due, promotable, ⟨impossible, _⟩ |
      ⟨_, _, later, same, order, found, _⟩⟩
  · cases impossible
  · cases impossible
  · cases same
    have promoted := accounted.promote promotable
    constructor
    · intro member
      rw [← WorkQueue.processing_promote queue due] at member
      exact promoted.pending_processing (Assoc.mem_keys_of_get? found) member
    · refine (traced.promote accounted promotable).kept_newest key value ?_
      rw [promoted.kept_of_pending found]
      exact List.mem_singleton_self value

/-- Of a key that is held something is kept exactly if the key was added since
it was handed out. -/
theorem Reaches.kept_eq_nil_iff {κ α : Type} [DecidableEq κ]
    {history : History κ α} {clock : Nat} {queue : WorkQueue κ α}
    (reaches : Reaches history clock queue) {key : κ}
    (member : key ∈ queue.processing) :
    queue.kept key = [] ↔ history.handedSince key = true := by
  induction reaches with
  | start => cases member
  | @add _ _ queue added value reaches ih =>
      rw [WorkQueue.processing_add] at member
      rw [History.handedSince]
      by_cases same : key = added
      · subst same
        rw [reaches.accounted.kept_add_self, if_pos rfl]
        exact iff_of_false (List.cons_ne_nil value []) Bool.false_ne_true
      · rw [WorkQueue.kept_add_of_ne queue same, if_neg (Ne.symm same)]
        exact ih member
  | look reaches hands ih =>
      have accounted := reaches.accounted
      rcases accounted.hands_cases hands with
        ⟨rfl, rfl⟩ | ⟨due, promotable, ⟨rfl, rfl⟩ |
          ⟨taken, value, later, rfl, order, found, rfl⟩⟩
      · exact ih member
      · rw [WorkQueue.processing_promote] at member
        rw [accounted.kept_promote promotable]
        exact ih member
      · rw [(accounted.promote promotable).kept_start order,
          History.handedSince]
        by_cases same : key = taken
        · rw [if_pos same, if_pos same.symm]
          exact iff_of_true rfl rfl
        · rw [if_neg same, if_neg (Ne.symm same),
            accounted.kept_promote promotable]
          refine ih ?_
          simpa [WorkQueue.processing_promote, same] using member
  | @report _ _ queue reported outcome _ _ ih =>
      rw [WorkQueue.processing_done] at member
      obtain ⟨member, different⟩ := List.mem_filter.mp member
      rw [WorkQueue.kept_done_of_ne queue (of_decide_eq_true different)]
      exact ih member
  | wait _ _ ih => exact ih member
  | close _ ih => exact ih member

/-- A taker is only handed the newest value of a key that nobody holds, and the
newest value of a key was handed out since it was added or is kept in exactly
one place. -/
theorem newest_handed_out_or_kept {κ α : Type} [DecidableEq κ]
    {history : History κ α} {clock : Nat} {queue : WorkQueue κ α}
    (reaches : Reaches history clock queue) (faithful : history.Faithful) :
    (∀ key value rest, queue.Hands clock (.item key value) rest →
      key ∉ queue.processing ∧ history.held? key = none ∧
        history.newest? key = some value) ∧
    (∀ key value, history.newest? key = some value →
      history.handedSince key = true ∨ queue.kept key = [value]) := by
  have traced := reaches.traced faithful
  refine ⟨?_, traced.awaiting⟩
  intro key value rest hands
  obtain ⟨absent, newest⟩ := traced.item_of_hands reaches.accounted hands
  refine ⟨absent, ?_, newest⟩
  rw [reaches.mem_processing, Option.not_isSome_iff_eq_none] at absent
  exact absent

/-- A newer value of one key meets the retry of the older one, while another key
waits for its retry. -/
theorem newest_after_superseded_retry :
    ∃ queue : WorkQueue Nat Nat,
      Reaches
        [.reported 8 (.retry 5 30), .waited 10, .reported 7 (.retry 1 10),
          .added 7 2, .looked (.item 8 5), .looked (.item 7 1), .added 8 5,
          .added 7 1] 10 queue ∧
      (queue.get 10).1 = .item 7 2 ∧ 7 ∉ queue.processing ∧
      queue.kept 7 = [2] := by
  have both : Reaches
      [.looked (.item 8 5), .looked (.item 7 1), .added 8 5, .added 7 1] 0 _ :=
    .look (.look (.add 8 5 (.add 7 1 .start)) (WorkQueue.hands_get _ 0))
      (WorkQueue.hands_get _ 0)
  have reaches := Reaches.report 8 (.retry 5 30)
    (.wait 10 (.report 7 (.retry 1 10) (.add 7 2 both) (by decide)))
    (by decide)
  obtain ⟨handed, kept⟩ :=
    newest_handed_out_or_kept reaches ⟨rfl, rfl, trivial⟩
  have free := handed 7 2 _ (WorkQueue.hands_get _ 10)
  have notSince : ¬ History.handedSince 7
      ([.reported 8 (.retry 5 30), .waited 10, .reported 7 (.retry 1 10),
        .added 7 2, .looked (.item 8 5), .looked (.item 7 1), .added 8 5,
        .added 7 1] : History Nat Nat) = true := by decide
  exact ⟨_, reaches, rfl, free.1, (kept 7 2 rfl).resolve_left notSince⟩

end ClusterTrace.Queue
