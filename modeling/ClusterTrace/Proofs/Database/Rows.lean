import ClusterTrace.Database.Basic
import Mathlib.Data.List.Nodup

/-!
# The rows of a key

A database is seen as the rows that its tables hold of each key.  Storing a
record other than a migration leaves the record as the only row of its key and
changes no row of another key, apart from those of migrations.
-/

namespace ClusterTrace

namespace Database

/-! ## Rows of one table -/

section Tables

variable {α β κ ι : Type} [DecidableEq κ] [DecidableEq ι]

/-- The rows of the key into which a row is merged: the first of them is
updated. -/
theorem filter_mergeRow_self {key : α → κ} {merge : α → α → α} {row : α}
    {value : κ} (isKey : key row = value)
    (keeps : ∀ old, key old = key row → key (merge old row) = key row)
    (rows : List α) :
    (mergeRow key merge row rows).filter (fun other => key other = value) =
      match rows.filter (fun other => key other = value) with
      | [] => [row]
      | old :: rest => merge old row :: rest := by
  subst value
  induction rows with
  | nil => simp [mergeRow]
  | cons head tail ih =>
      by_cases same : key head = key row
      · simp [mergeRow, same, keeps head same]
      · rw [mergeRow, if_neg same]
        simp only [List.filter_cons, same, decide_false, Bool.false_eq_true,
          if_false, ih]

theorem filter_mergeRow_of_ne {key : α → κ} {merge : α → α → α} {row : α}
    (keeps : ∀ old, key old = key row → key (merge old row) = key row)
    {other : κ} (different : other ≠ key row) (rows : List α) :
    (mergeRow key merge row rows).filter (fun row => key row = other) =
      rows.filter (fun row => key row = other) := by
  induction rows with
  | nil => simp [mergeRow, Ne.symm different]
  | cons head tail ih =>
      by_cases same : key head = key row
      · simp [mergeRow, same, keeps head same, Ne.symm different]
      · simp only [mergeRow, if_neg same, List.filter_cons, ih]

theorem mergeRow_of_not_mem {key : α → κ} {merge : α → α → α} {row : α}
    {rows : List α} (absent : key row ∉ rows.map key) :
    mergeRow key merge row rows = rows ++ [row] := by
  induction rows with
  | nil => rfl
  | cons head tail ih =>
      rw [List.map_cons, List.mem_cons, not_or] at absent
      rw [mergeRow, if_neg (Ne.symm absent.1), ih absent.2]
      rfl

theorem map_mergeRow {key : α → κ} {merge : α → α → α} {row : α}
    (keeps : ∀ old, key old = key row → key (merge old row) = key row)
    (rows : List α) :
    (mergeRow key merge row rows).map key =
      if key row ∈ rows.map key then rows.map key
      else rows.map key ++ [key row] := by
  induction rows with
  | nil => rfl
  | cons head tail ih =>
      by_cases same : key head = key row
      · simp [mergeRow, same, keeps head same]
      · rw [mergeRow, if_neg same, List.map_cons, ih, List.map_cons]
        by_cases member : key row ∈ tail.map key
        · rw [if_pos member, if_pos (List.mem_cons_of_mem _ member)]
        · rw [if_neg member, if_neg (by simp [member, Ne.symm same])]
          rfl

/-- Merging keeps one row for each key. -/
theorem nodup_map_mergeRow {key : α → κ} {merge : α → α → α} {row : α}
    (keeps : ∀ old, key old = key row → key (merge old row) = key row)
    {rows : List α} (distinct : (rows.map key).Nodup) :
    ((mergeRow key merge row rows).map key).Nodup := by
  rw [map_mergeRow keeps]
  split
  · exact distinct
  · rename_i absent
    rw [← List.concat_eq_append]
    exact distinct.concat absent

theorem map_putRow {key : α → κ} {wrap : α → β} {wrappedKey : β → ι}
    (agree : ∀ first second, wrappedKey (wrap first) =
      wrappedKey (wrap second) ↔ key first = key second)
    (row : α) (rows : List α) :
    (putRow key row rows).map wrap =
      putRow wrappedKey (wrap row) (rows.map wrap) := by
  induction rows with
  | nil => rfl
  | cons head tail ih =>
      simp only [putRow] at ih
      by_cases same : key head = key row
      · simp [putRow, mergeRow, same, agree]
      · simp [putRow, mergeRow, same, agree, ih]

end Tables

/-! ## Rows of a database -/

/-- The records of a kind, in the order of their rows. -/
def records (database : Database) : Kind → List Record
  | .pod => database.pods.map .pod
  | .node => database.nodes.map .node
  | .vm => database.vms.map .vm
  | .vmi => database.vmis.map .vmi
  | .migration => database.migrations.map .migration
  | .pvc => database.pvcs.map .pvc
  | .subscription => database.subscriptions.map .subscription
  | .gather => database.gathers.map .gather

/-- The rows of a key. -/
def rowsAt (database : Database) (key : Key) : List Record :=
  (database.records key.kind).filter fun record => record.key = key

theorem kind_of_mem_records {database : Database} {kind : Kind}
    {record : Record} (member : record ∈ database.records kind) :
    record.key.kind = kind := by
  cases kind with
  | _ =>
      obtain ⟨row, _, rfl⟩ := List.mem_map.mp member
      rfl

/-- A table has no rows besides those of the keys of its kind. -/
theorem mem_records_iff {database : Database} {kind : Kind} {record : Record} :
    record ∈ database.records kind ↔
      record.key.kind = kind ∧ record ∈ database.rowsAt record.key := by
  rw [rowsAt, List.mem_filter]
  constructor
  · intro member
    have same := kind_of_mem_records member
    subst kind
    exact ⟨rfl, member, by simp⟩
  · rintro ⟨rfl, member, _⟩
    exact member

/-- No table has two rows of one key. -/
def Keyed (database : Database) : Prop :=
  ∀ kind, ((database.records kind).map Record.key).Nodup

theorem records_putInstance (vmi : VirtualMachineInstance)
    (database : Database) {kind : Kind} (notMigration : kind ≠ .migration) :
    (database.putInstance vmi).records kind =
      if .vmi = kind then
        putRow Record.key (.vmi vmi) (database.records kind)
      else database.records kind := by
  have vmis : (database.putInstance vmi).vmis =
      putRow (·.uuid) vmi database.vmis := by
    unfold putInstance
    split <;> rfl
  cases kind with
  | vmi =>
      rw [if_pos rfl, records, vmis]
      exact map_putRow (by simp [Record.key]) vmi database.vmis
  | migration => exact (notMigration rfl).elim
  | _ =>
      rw [if_neg (by decide)]
      unfold putInstance
      split <;> rfl

/-- A record other than a migration goes into the table of its kind only, as far
as the other tables are not that of the migrations. -/
theorem records_put (record : Record) (database : Database) {kind : Kind}
    (notMigration : kind ≠ .migration) :
    (database.put record).records kind =
      if record.key.kind = kind then
        putRow Record.key record (database.records kind)
      else database.records kind := by
  cases record with
  | vmi row => exact records_putInstance row database notMigration
  | migration row =>
      have other : (Record.migration row).key.kind ≠ kind :=
        Ne.symm notMigration
      rw [if_neg other]
      cases kind with
      | migration => exact (notMigration rfl).elim
      | _ => rfl
  | _ row =>
      split
      · rename_i same
        cases same
        exact map_putRow (by simp [Record.key]) row _
      · rename_i different
        cases kind with
        | migration => exact (notMigration rfl).elim
        | _ => simp_all [put, records, Record.key]

theorem rowsAt_put_of_ne {record : Record} {key : Key}
    (different : key ≠ record.key) (notMigration : key.kind ≠ .migration)
    (database : Database) :
    (database.put record).rowsAt key = database.rowsAt key := by
  rw [rowsAt, records_put record database notMigration]
  split
  · exact filter_mergeRow_of_ne (fun _ _ => rfl) different _
  · rfl

theorem Keyed.length_rowsAt_le {database : Database}
    (keyed : database.Keyed) (key : Key) :
    (database.rowsAt key).length ≤ 1 := by
  have once := List.nodup_iff_count_le_one.mp (keyed key.kind) key
  rw [List.count, List.countP_map, List.countP_eq_length_filter] at once
  exact once

theorem rowsAt_put_self {record : Record} {database : Database}
    (keyed : database.Keyed) (notMigration : record.key.kind ≠ .migration) :
    (database.put record).rowsAt record.key = [record] := by
  have once := keyed.length_rowsAt_le record.key
  rw [rowsAt, records_put record database notMigration, if_pos rfl, putRow,
    filter_mergeRow_self rfl fun _ _ => rfl]
  rw [rowsAt] at once
  cases rows : (database.records record.key.kind).filter
      (fun other => other.key = record.key) with
  | nil => rfl
  | cons old rest =>
      rw [rows, List.length_cons] at once
      have nothing : rest = [] := List.eq_nil_of_length_eq_zero (by omega)
      rw [nothing]

/-! ## One row for each key -/

theorem migrations_put_vmi (vmi : VirtualMachineInstance)
    (database : Database) :
    (database.put (.vmi vmi)).migrations =
      match vmi.derivedMigration? with
      | some implied =>
          mergeRow Migration.uuid withState (impliedRow implied)
            database.migrations
      | none => database.migrations := by
  cases implied : vmi.derivedMigration? with
  | none => simp [put, putInstance, implied]
  | some migration => simp [put, putInstance, implied, putImplied]

/-- The table of migrations is merged into by a migration and by an instance
that implies one. -/
theorem nodup_migrations_put (record : Record) {database : Database}
    (distinct : (database.migrations.map Migration.uuid).Nodup) :
    ((database.put record).migrations.map Migration.uuid).Nodup := by
  cases record with
  | migration row =>
      have keeps : ∀ old : Migration, old.uuid = row.uuid →
          (mergeManifest old row).uuid = row.uuid := fun _ _ => rfl
      exact nodup_map_mergeRow keeps distinct
  | vmi row =>
      rw [migrations_put_vmi]
      split
      · exact nodup_map_mergeRow (fun _ same => same) distinct
      · exact distinct
  | _ row => exact distinct

theorem keys_migrations (database : Database) :
    (database.records .migration).map Record.key =
      (database.migrations.map Migration.uuid).map (Key.mk .migration) := by
  rw [records, List.map_map, List.map_map]
  rfl

theorem nodup_keys_migrations_iff (database : Database) :
    ((database.records .migration).map Record.key).Nodup ↔
      (database.migrations.map Migration.uuid).Nodup := by
  rw [keys_migrations]
  exact List.nodup_map_iff fun first second equal => (Key.mk.inj equal).2

theorem Keyed.put {database : Database} (keyed : database.Keyed)
    (record : Record) : (database.put record).Keyed := by
  intro kind
  by_cases isMigration : kind = .migration
  · subst isMigration
    rw [nodup_keys_migrations_iff]
    exact nodup_migrations_put record
      ((nodup_keys_migrations_iff database).mp (keyed .migration))
  · rw [records_put record database isMigration]
    split
    · exact nodup_map_mergeRow (fun _ _ => rfl) (keyed kind)
    · exact keyed kind

end Database
end ClusterTrace
