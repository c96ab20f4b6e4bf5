import ClusterTrace.Proofs.Database.Rows
import ClusterTrace.Proofs.Storage.Serving

/-!
# The latest record of every key

When nothing is outstanding and nothing was dropped, the tables other than that
of the migrations hold of each added key the record most recently added, and of
the other keys what they held before.  Until then a key whose row is not up to
date is owed by the queue.
-/

namespace ClusterTrace
namespace Store

open Queue (WorkQueue)

/-- Rows are up to date, or the queue owes them, unless a record was dropped. -/
structure Written (database : Database) (history : History) (store : Store) :
    Prop where
  keyed : store.database.Keyed
  untouched : ∀ key, key.kind ≠ .migration → history.latest? key = none →
    store.database.rowsAt key = database.rowsAt key
  settled : store.dropped = 0 → ∀ key record, key.kind ≠ .migration →
    history.latest? key = some record →
    store.queue.Owes key ∨ store.database.rowsAt key = [record]

namespace Written

variable {database : Database} {history : History} {store : Store}

theorem add (written : Written database history store)
    (accounted : store.queue.Accounted) (record : Record) :
    Written database (.added record (store.add record).1 :: history)
      (store.add record).2 := by
  constructor
  case keyed => exact written.keyed
  case untouched =>
    intro key notMigration isLatest
    rw [History.latest?] at isLatest
    split at isLatest
    · cases isLatest
    · exact written.untouched key notMigration isLatest
  case settled =>
    intro noDrop key latest notMigration isLatest
    rw [History.latest?] at isLatest
    by_cases same : record.key = key
    · subst key
      exact .inl (accounted.owes_add_self record.key record)
    · rw [if_neg same] at isLatest
      exact (written.settled noDrop key latest notMigration isLatest).imp_left
        (WorkQueue.owes_add_of_ne (Ne.symm same) record)

theorem look (written : Written database history store)
    (accounted : store.queue.Accounted)
    {handed : WorkQueue.Handed Key Record} {rest : WorkQueue Key Record}
    (hands : store.queue.Hands store.clock handed rest) :
    Written database (.looked handed :: history)
      { store with queue := rest } := by
  constructor
  case keyed => exact written.keyed
  case untouched => exact written.untouched
  case settled =>
    intro noDrop key record notMigration isLatest
    exact (written.settled noDrop key record notMigration isLatest).imp_left
      (accounted.owes_of_hands hands)

/-- An attempt that is not counted as stored may have stored its record too. -/
theorem tried (written : Written database history store) {key : Key}
    {record : Record} (follows : Follows history (some (key, record)) store)
    {attempt : Attempt} {after : Store}
    (queue : after.queue =
      store.queue.done key (attempt.outcome record) store.clock)
    (rows : after.database = store.database.put record ∨
      attempt ≠ .stored ∧ after.database = store.database)
    (noDrop : after.dropped = 0 → store.dropped = 0 ∧ attempt ≠ .dropped) :
    Written database (.tried key record attempt :: history) after := by
  cases follows.held_key key record rfl
  have others : ∀ other, other ≠ record.key → other.kind ≠ .migration →
      after.database.rowsAt other = store.database.rowsAt other := by
    intro other different notMigration
    rcases rows with stored | ⟨_, unchanged⟩
    · rw [stored]
      exact Database.rowsAt_put_of_ne different notMigration _
    · rw [unchanged]
  constructor
  case keyed =>
    rcases rows with stored | ⟨_, unchanged⟩
    · rw [stored]
      exact written.keyed.put record
    · rw [unchanged]
      exact written.keyed
  case untouched =>
    intro other notMigration isLatest
    have different : other ≠ record.key := fun same =>
      follows.latest_ne_none_of_held (same ▸ isLatest)
    rw [others other different notMigration]
    exact written.untouched other notMigration isLatest
  case settled =>
    intro afterNoDrop other latest notMigration isLatest
    obtain ⟨beforeNoDrop, notDropped⟩ := noDrop afterNoDrop
    rw [queue]
    by_cases same : other = record.key
    · subst other
      rcases follows.reaches.accounted.owes_done_self follows.mem_processing
          (attempt.outcome record) store.clock with ⟨finished, nothing⟩ | owes
      · right
        have isRecord := follows.latest_of_held.resolve_right (· nothing)
        cases isLatest.symm.trans isRecord
        have isStored : attempt = .stored := by
          cases attempt with
          | stored => rfl
          | retried delay => cases finished
          | dropped => exact (notDropped rfl).elim
        rw [rows.resolve_right fun failed => failed.1 isStored]
        exact Database.rowsAt_put_self written.keyed notMigration
      · exact .inl owes
    · rw [others other same notMigration]
      exact (written.settled beforeNoDrop other latest notMigration
        isLatest).imp_left (WorkQueue.owes_done_of_ne same _ _)

theorem finish (written : Written database history store) {key : Key}
    {record : Record} (follows : Follows history (some (key, record)) store)
    (succeeds : Bool) :
    Written database (.tried key record (store.attempt key succeeds) :: history)
      (store.finish key record succeeds) := by
  refine written.tried follows (queue_finish ..) ?_ ?_
  · rw [database_finish]
    cases succeeds with
    | true => exact .inl rfl
    | false => exact .inr ⟨attempt_failed_ne_stored store key, rfl⟩
  · exact no_drop_of_finish

end Written

/-- After every run of a store with one worker. -/
theorem Serves.written {initial : Store} (empty : initial.queue = {})
    (atStart : initial.clock = 0) (keyed : initial.database.Keyed)
    {history : History} {held : Option (Key × Record)} {store : Store}
    (serves : Serves initial history held store) :
    Written initial.database history store := by
  induction serves with
  | start =>
      refine ⟨keyed, fun _ _ _ => rfl, ?_⟩
      intro _ key record _ isLatest
      cases isLatest
  | add record serves ih =>
      exact ih.add (serves.follows empty atStart).reaches.accounted record
  | look serves hands ih =>
      exact ih.look (serves.follows empty atStart).reaches.accounted hands
  | finish succeeds serves ih =>
      exact ih.finish (serves.follows empty atStart) succeeds
  | @overrun history key record store serves ih =>
      have follows := serves.follows empty atStart
      exact ih.tried follows (queue_finish store key record false) (.inl rfl)
        no_drop_of_finish
  | wait span _ ih => exact ⟨ih.keyed, ih.untouched, ih.settled⟩
  | stop _ ih => exact ⟨ih.keyed, ih.untouched, ih.settled⟩

/-- When nothing is outstanding and nothing was dropped, every key that was
added has the record most recently added as its only row, and every other key
has the rows that it had before. -/
theorem rows_of_drained {maxRetries base maximum : Nat} {database : Database}
    (keyed : database.Keyed) {history : History}
    {held : Option (Key × Record)} {store : Store}
    (serves : Serves { new maxRetries base maximum with database := database }
      history held store)
    (drained : store.outstanding = 0) (noDrop : store.dropped = 0) :
    (∀ key, key.kind ≠ .migration →
      store.database.rowsAt key =
        match history.latest? key with
        | some record => [record]
        | none => database.rowsAt key) ∧
    ∀ kind, kind ≠ .migration → ∀ record ∈ store.database.records kind,
      history.latest? record.key = some record ∨
        (history.latest? record.key = none ∧
          record ∈ database.records kind) := by
  have accounted := (serves.follows rfl rfl).reaches.accounted
  have written : Written database history store := serves.written rfl rfl keyed
  have isIdle : store.queue.isIdle = true := decide_eq_true drained
  have rows : ∀ key, key.kind ≠ .migration →
      store.database.rowsAt key =
        match history.latest? key with
        | some record => [record]
        | none => database.rowsAt key := by
    intro key notMigration
    cases isLatest : history.latest? key with
    | none => exact written.untouched key notMigration isLatest
    | some record =>
        exact (written.settled noDrop key record notMigration
          isLatest).resolve_left (accounted.not_owes_of_isIdle isIdle key)
  refine ⟨rows, ?_⟩
  intro kind notMigration record member
  obtain ⟨sameKind, isRow⟩ := Database.mem_records_iff.mp member
  rw [rows record.key (sameKind ▸ notMigration)] at isRow
  cases isLatest : history.latest? record.key with
  | none =>
      rw [isLatest] at isRow
      exact .inr ⟨rfl, Database.mem_records_iff.mpr ⟨sameKind, isRow⟩⟩
  | some latest =>
      rw [isLatest] at isRow
      exact .inl (congrArg some (List.mem_singleton.mp isRow).symm)

/-- A record is replaced while it is tried and fails, and the newer one is
stored at its second attempt. -/
theorem rows_after_superseded_retry :
    ∃ history store,
      Serves
        { new 2 10 100 with
          database.gathers :=
            [⟨"a", ⟨1, 0⟩, ⟨1, 0⟩⟩, ⟨"b", ⟨2, 0⟩, ⟨2, 0⟩⟩] }
        history none store ∧
      store.outstanding = 0 ∧ store.dropped = 0 ∧
      store.database.rowsAt ⟨.gather, "a"⟩ =
        [.gather ⟨"a", ⟨4, 0⟩, ⟨4, 0⟩⟩] ∧
      store.database.rowsAt ⟨.gather, "b"⟩ =
        [.gather ⟨"b", ⟨2, 0⟩, ⟨2, 0⟩⟩] := by
  have keyed : Database.Keyed
      { gathers := [⟨"a", ⟨1, 0⟩, ⟨1, 0⟩⟩, ⟨"b", ⟨2, 0⟩, ⟨2, 0⟩⟩] } := by
    intro kind
    cases kind <;> decide
  have initial : Serves
      { new 2 10 100 with
        database.gathers :=
          [⟨"a", ⟨1, 0⟩, ⟨1, 0⟩⟩, ⟨"b", ⟨2, 0⟩, ⟨2, 0⟩⟩] } [] none _ := .start
  have first := (initial.add (.gather ⟨"a", ⟨3, 0⟩, ⟨3, 0⟩⟩)).take
  have failed := (first.add (.gather ⟨"a", ⟨4, 0⟩, ⟨4, 0⟩⟩)).finish false
  have waited := (failed.take.finish false).wait 20
  have stored := waited.take.finish true
  obtain ⟨rows, _⟩ := rows_of_drained keyed stored (by decide) (by decide)
  exact ⟨_, _, stored, by decide, by decide, rows ⟨.gather, "a"⟩ (by decide),
    rows ⟨.gather, "b"⟩ (by decide)⟩

end Store
end ClusterTrace
