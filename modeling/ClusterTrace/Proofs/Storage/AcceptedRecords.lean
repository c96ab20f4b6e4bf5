import ClusterTrace.Proofs.Storage.Serving

/-!
# Accounts of accepted records

A record whose addition is a new unit of work is accepted.  Each unit that is
not outstanding was ended by an attempt: its record was stored, or dropped, or
its retry was skipped, for a newer record of the key had been added meanwhile.
So the counters of a store account for every accepted record but those,
`accounts_of_serves`.
-/

namespace ClusterTrace.Store

namespace History

/-- How many additions were new units of work. -/
def accepted : History → Nat
  | [] => 0
  | .added _ isNew :: history => accepted history + isNew.toNat
  | _ :: history => accepted history

/-- The units of work that an attempt ends.  A retry ends one if a record of the
key was added since the key was handed out. -/
def endedBy (history : History) (key : Key) : Attempt → Nat
  | .stored => 1
  | .retried _ => if (ofQueue history).handedSince key then 0 else 1
  | .dropped => 1

/-- The units of work that attempts ended. -/
def ended : History → Nat
  | [] => 0
  | .tried key _ attempt :: history =>
      ended history + endedBy history key attempt
  | _ :: history => ended history

/-- How many failed attempts were not retried, for a newer record of the key had
been added meanwhile. -/
def superseded : History → Nat
  | [] => 0
  | .tried key _ (.retried _) :: history =>
      superseded history + if (ofQueue history).handedSince key then 0 else 1
  | _ :: history => superseded history

/-- No record was added while one of its key was tried. -/
def Uninterrupted : History → Prop
  | [] => True
  | .added record _ :: history =>
      (ofQueue history).held? record.key = none ∧ Uninterrupted history
  | _ :: history => Uninterrupted history

end History

variable {initial : Store} {history : History} {held : Option (Key × Record)}
  {store : Store}

/-! ## Units of work -/

namespace Follows

/-- What the queue takes as the end of a unit of work. -/
theorem endedUnits_eq {key : Key} {record : Record}
    (follows : Follows history (some (key, record)) store)
    (attempt : Attempt) :
    store.queue.endedUnits key (attempt.outcome record) =
      history.endedBy key attempt := by
  cases attempt with
  | stored => rfl
  | dropped => rfl
  | retried delay =>
      have member := follows.mem_processing
      have since := follows.reaches.kept_eq_nil_iff member
      rw [follows.reaches.accounted.kept_of_processing member,
        Option.toList_eq_nil_iff, Assoc.get?_eq_none_iff] at since
      rw [Attempt.outcome, Queue.WorkQueue.endedUnits, History.endedBy]
      by_cases isDirty : key ∈ store.queue.dirty.keys
      · rw [if_pos isDirty, if_neg fun handed => since.mpr handed isDirty]
      · rw [if_neg isDirty, if_pos (since.mp isDirty)]

theorem accepted_finish {key : Key} {record : Record}
    (follows : Follows history (some (key, record)) store)
    (accounts : history.accepted = store.outstanding + history.ended)
    (succeeds : Bool) :
    history.accepted =
      (store.finish key record succeeds).outstanding +
        (history.ended + history.endedBy key (store.attempt key succeeds)) := by
  have ended := follows.endedUnits_eq (store.attempt key succeeds)
  have fewer := follows.reaches.accounted.outstanding_done
    follows.mem_processing ((store.attempt key succeeds).outcome record)
    store.clock
  rw [ended, ← queue_finish] at fewer
  rw [outstanding] at accounts ⊢
  omega

end Follows

/-- A unit of work is outstanding until an attempt ends it. -/
theorem Serves.accepted_eq_outstanding_add (empty : initial.queue = {})
    (atStart : initial.clock = 0)
    (serves : Serves initial history held store) :
    history.accepted = store.outstanding + history.ended := by
  induction serves with
  | start =>
      rw [outstanding, empty]
      rfl
  | @add history _ store record _ ih =>
      change history.accepted + (store.add record).1.toNat =
        (store.add record).2.outstanding + history.ended
      have added : (store.add record).2.outstanding =
          store.outstanding + (store.add record).1.toNat :=
        store.queue.outstanding_add record.key record
      omega
  | @look history store _ rest serves hands ih =>
      have accounted := (serves.follows empty atStart).reaches.accounted
      change history.accepted = rest.outstanding + history.ended
      rw [accounted.outstanding_hands hands]
      exact ih
  | finish succeeds serves ih =>
      exact (serves.follows empty atStart).accepted_finish ih succeeds
  | overrun serves ih =>
      exact (serves.follows empty atStart).accepted_finish ih false
  | wait span _ ih => exact ih
  | stop _ ih => exact ih

/-! ## Counters -/

/-- What the counters and the skipped retries tell of an attempt. -/
theorem counted_finish (store : Store) (key : Key) (record : Record)
    (succeeds : Bool) (history : History) :
    (store.finish key record succeeds).stored +
        (store.finish key record succeeds).dropped +
        History.superseded
          (.tried key record (store.attempt key succeeds) :: history) =
      store.stored + store.dropped + history.superseded +
        history.endedBy key (store.attempt key succeeds) := by
  cases succeeds with
  | true =>
      simp only [finish, succeed, attempt, if_true, History.superseded,
        History.endedBy]
      omega
  | false =>
      by_cases retries : store.limiter.requeues key < store.maxRetries
      · simp only [finish, fail, attempt, retries, if_true,
          Bool.false_eq_true, if_false, History.superseded, History.endedBy]
        omega
      · simp only [finish, fail, attempt, retries, Bool.false_eq_true,
          if_false, History.superseded, History.endedBy]
        omega

/-- Every unit of work that was ended is counted. -/
theorem Serves.ended_eq (unstored : initial.stored = 0)
    (undropped : initial.dropped = 0)
    (serves : Serves initial history held store) :
    history.ended = store.stored + store.dropped + history.superseded := by
  induction serves with
  | start =>
      rw [unstored, undropped]
      rfl
  | add record _ ih => exact ih
  | look _ _ ih => exact ih
  | @finish history key record store succeeds _ ih =>
      rw [History.ended, counted_finish, ih]
  | @overrun history key record store _ ih =>
      rw [History.ended, ih]
      exact (counted_finish store key record false history).symm
  | wait span _ ih => exact ih
  | stop _ ih => exact ih

/-! ## Skipped retries -/

theorem History.Uninterrupted.handedSince_of_held {history : History}
    (uninterrupted : history.Uninterrupted) {key : Key}
    (isHeld : (history.ofQueue.held? key).isSome) :
    history.ofQueue.handedSince key = true := by
  induction history with
  | nil => cases isHeld
  | cons event history ih =>
      cases event with
      | added record isNew =>
          obtain ⟨free, before⟩ := uninterrupted
          have different : record.key ≠ key := by
            rintro rfl
            have isNone : Queue.History.held? record.key
              (.added record.key record :: ofQueue history) = none := free
            rw [ofQueue, isNone] at isHeld
            cases isHeld
          rw [ofQueue, Queue.History.handedSince, if_neg different]
          exact ih before isHeld
      | looked handed =>
          cases handed with
          | item taken record =>
              rw [ofQueue, Queue.History.handedSince]
              by_cases same : taken = key
              · rw [if_pos same]
              · rw [if_neg same]
                refine ih uninterrupted ?_
                simpa [ofQueue, Queue.History.held?, same] using isHeld
          | nothing => exact ih uninterrupted isHeld
          | closed => exact ih uninterrupted isHeld
      | tried tried record attempt =>
          refine ih uninterrupted ?_
          rw [ofQueue, Queue.History.held?] at isHeld
          split at isHeld
          · cases isHeld
          · exact isHeld
      | waited span => exact ih uninterrupted isHeld
      | stopped => exact ih uninterrupted isHeld

theorem Follows.superseded_tried {key : Key} {record : Record}
    (follows : Follows history (some (key, record)) store)
    (uninterrupted : history.Uninterrupted) (attempt : Attempt) :
    History.superseded (.tried key record attempt :: history) =
      history.superseded := by
  cases attempt with
  | stored => rfl
  | dropped => rfl
  | retried delay =>
      have isHeld : (history.ofQueue.held? key).isSome := by
        rw [(follows.held_iff key record).mpr rfl]
        rfl
      rw [History.superseded, uninterrupted.handedSince_of_held isHeld,
        if_pos rfl, Nat.add_zero]

/-- A retry is only skipped for a record that was added meanwhile. -/
theorem Serves.superseded_eq_zero (empty : initial.queue = {})
    (atStart : initial.clock = 0)
    (serves : Serves initial history held store)
    (uninterrupted : history.Uninterrupted) : history.superseded = 0 := by
  induction serves with
  | start => rfl
  | add record _ ih => exact ih uninterrupted.2
  | look _ _ ih => exact ih uninterrupted
  | finish succeeds serves ih =>
      rw [(serves.follows empty atStart).superseded_tried uninterrupted]
      exact ih uninterrupted
  | overrun serves ih =>
      rw [(serves.follows empty atStart).superseded_tried uninterrupted]
      exact ih uninterrupted
  | wait span _ ih => exact ih uninterrupted
  | stop _ ih => exact ih uninterrupted

/-- In every state between the steps of a worker the accepted records are those
that were stored, dropped or are outstanding, and those whose retry was skipped
for a newer record.  When nothing is outstanding and no record was added while
one of its key was tried, all were stored or dropped. -/
theorem accounts_of_serves {maxRetries base maximum : Nat}
    {database : Database} {isOpen : Bool}
    (serves : Serves
      { new maxRetries base maximum with
        database := database
        isOpen := isOpen } history held store) :
    history.accepted =
        store.stored + store.dropped + store.outstanding +
          history.superseded ∧
      (store.outstanding = 0 → history.Uninterrupted →
        store.stored + store.dropped = history.accepted) := by
  have accepted := serves.accepted_eq_outstanding_add rfl rfl
  have ended := serves.ended_eq rfl rfl
  constructor
  · omega
  · intro drained uninterrupted
    have noneSkipped := serves.superseded_eq_zero rfl rfl uninterrupted
    omega

/-- A record is replaced while it is tried and fails, and the newer one is
dropped. -/
theorem accounts_after_skipped_retry :
    ∃ history store,
      Serves { new 1 10 100 with database := {}, isOpen := true } history none
        store ∧
      history.superseded = 1 ∧ store.stored = 0 ∧ store.dropped = 1 ∧
      history.accepted = 2 := by
  have initial : Serves { new 1 10 100 with database := {}, isOpen := true }
    [] none _ := .start
  have first := (initial.add (.gather ⟨"a", ⟨3, 0⟩, ⟨3, 0⟩⟩)).take
  have skipped :=
    (first.add (.gather ⟨"a", ⟨4, 0⟩, ⟨4, 0⟩⟩)).finish false
  have serves := skipped.take.finish false
  have accounts := (accounts_of_serves serves).1
  exact ⟨_, _, serves, by decide, by decide, by decide, accounts⟩

end ClusterTrace.Store
