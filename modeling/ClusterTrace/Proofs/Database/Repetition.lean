import ClusterTrace.Proofs.Database.MigrationWrites

/-!
# Records that are stored again

A sequence of records that is stored a second time leaves the database as it is,
row by row and in order, `putAll_putAll`.  The second pass begins with rows that
hold what the first pass told last, and goes through the older records again.
For one key, the writes of a pass come down to one change of its row, and that
change makes no difference when it is made twice.
-/

namespace ClusterTrace

namespace Database

/-! ## Writes into a table -/

/-- A row that is put into a table, and how it is merged into the row of its key
if there is one. -/
structure Write (α : Type) where
  row : α
  merge : α → α → α

section Tables

variable {α κ : Type} [DecidableEq κ] {key : α → κ}

/-- A table after writes, one after the other. -/
def writeAll (key : α → κ) (writes : List (Write α)) (rows : List α) :
    List α :=
  writes.foldl (fun rows write => mergeRow key write.merge write.row rows) rows

/-- A row after writes of its key, one after the other. -/
def change (writes : List (Write α)) (old : α) : α :=
  writes.foldl (fun old write => write.merge old write.row) old

/-- Merging the row leaves the key of a row. -/
def Write.Keeps (key : α → κ) (write : Write α) : Prop :=
  ∀ old, key old = key write.row → key (write.merge old write.row) =
    key write.row

theorem writeAll_concat (writes : List (Write α)) (write : Write α)
    (rows : List α) :
    writeAll key (writes ++ [write]) rows =
      mergeRow key write.merge write.row (writeAll key writes rows) := by
  rw [writeAll, List.foldl_append, List.foldl_cons, List.foldl_nil, writeAll]

omit [DecidableEq κ] in
theorem change_concat (writes : List (Write α)) (write : Write α) (old : α) :
    change (writes ++ [write]) old =
      write.merge (change writes old) write.row := by
  rw [change, List.foldl_append, List.foldl_cons, List.foldl_nil, change]

/-- Tables are equal if their rows have the same keys in the same order and the
rows of each key are the same. -/
theorem eq_of_rows {rows rows' : List α}
    (keys : rows.map key = rows'.map key)
    (same : ∀ value, rows.filter (fun row => key row = value) =
      rows'.filter fun row => key row = value) : rows = rows' := by
  induction rows generalizing rows' with
  | nil => exact (List.map_eq_nil_iff.mp keys.symm).symm
  | cons first rest induction =>
      cases rows' with
      | nil => cases keys
      | cons first' rest' =>
          rw [List.map_cons, List.map_cons, List.cons.injEq] at keys
          have isFirst : first = first' := by
            have here := same (key first)
            simp only [List.filter_cons, keys.1, decide_true, if_true,
              List.cons.injEq] at here
            exact here.1
          subst isFirst
          rw [induction keys.2 fun value => ?_]
          have here := same value
          simp only [List.filter_cons] at here
          split at here
          · exact (List.cons.inj here).2
          · exact here

/-! ## The rows of one key -/

/-- A write of a key goes into the rows of that key. -/
theorem filter_mergeRow_of_eq {write : Write α} (keeps : write.Keeps key)
    {value : κ} (same : key write.row = value) (rows : List α) :
    (mergeRow key write.merge write.row rows).filter
        (fun row => key row = value) =
      mergeRow key write.merge write.row
        (rows.filter fun row => key row = value) := by
  rw [filter_mergeRow_self same keeps]
  cases found : rows.filter fun row => key row = value with
  | nil => rfl
  | cons old rest =>
      have isOld : old ∈ rows.filter fun row => key row = value := by
        rw [found]
        exact List.mem_cons_self
      have sameKey : key old = key write.row :=
        (of_decide_eq_true (List.mem_filter.mp isOld).2).trans same.symm
      rw [mergeRow, if_pos sameKey]

/-- The rows of a key are changed by its own writes only. -/
theorem filter_writeAll {writes : List (Write α)}
    (keeps : ∀ write ∈ writes, write.Keeps key) (value : κ) (rows : List α) :
    (writeAll key writes rows).filter (fun row => key row = value) =
      writeAll key (writes.filter fun write => key write.row = value)
        (rows.filter fun row => key row = value) := by
  induction writes generalizing rows with
  | nil => rfl
  | cons write writes induction =>
      rw [List.forall_mem_cons] at keeps
      rw [writeAll, List.foldl_cons, ← writeAll, induction keeps.2]
      by_cases same : key write.row = value
      · rw [List.filter_cons_of_pos (by simpa using same),
          filter_mergeRow_of_eq keeps.1 same]
        rfl
      · rw [List.filter_cons_of_neg (by simpa using same),
          filter_mergeRow_of_ne keeps.1 (Ne.symm same)]

omit [DecidableEq κ] in
/-- Writes of a key leave the key of a row. -/
theorem key_change {writes : List (Write α)}
    (keeps : ∀ write ∈ writes, write.Keeps key) {old : α}
    (same : ∀ write ∈ writes, key write.row = key old) :
    key (change writes old) = key old := by
  induction writes using List.reverseRecOn with
  | nil => rfl
  | append_singleton writes write induction =>
      rw [List.forall_mem_append, List.forall_mem_singleton] at keeps same
      rw [change_concat,
        keeps.2 _ ((induction keeps.1 same.1).trans same.2.symm), same.2]

/-- Writes of a key change the first of its rows. -/
theorem writeAll_cons {writes : List (Write α)}
    (keeps : ∀ write ∈ writes, write.Keeps key) {old : α}
    (same : ∀ write ∈ writes, key write.row = key old) (rest : List α) :
    writeAll key writes (old :: rest) = change writes old :: rest := by
  induction writes using List.reverseRecOn with
  | nil => rfl
  | append_singleton writes write induction =>
      rw [List.forall_mem_append, List.forall_mem_singleton] at keeps same
      have isKey := (key_change keeps.1 same.1).trans same.2.symm
      rw [writeAll_concat, induction keeps.1 same.1, mergeRow, if_pos isKey,
        change_concat]

/-- Writes that change a row no further when they are made again. -/
structure Repeatable (writes : List (Write α)) : Prop where
  first : ∀ write ∈ writes, write.merge write.row write.row = write.row
  again : ∀ old, change writes (change writes old) = change writes old

/-- Writes of one key leave its rows as they are when they are made again. -/
theorem writeAll_writeAll_of_key {writes : List (Write α)}
    (keeps : ∀ write ∈ writes, write.Keeps key)
    (repeatable : Repeatable writes) {value : κ}
    (same : ∀ write ∈ writes, key write.row = value) {rows : List α}
    (sameRows : ∀ row ∈ rows, key row = value) :
    writeAll key writes (writeAll key writes rows) =
      writeAll key writes rows := by
  have ofRow : ∀ old rest, key old = value →
      writeAll key writes (writeAll key writes (old :: rest)) =
        writeAll key writes (old :: rest) := by
    intro old rest isKey
    have sameKey : ∀ write ∈ writes, key write.row = key old :=
      fun write member => (same write member).trans isKey.symm
    have changed := key_change keeps sameKey
    rw [writeAll_cons keeps sameKey, writeAll_cons keeps
      (fun write member => (sameKey write member).trans changed.symm),
      repeatable.again]
  cases rows with
  | cons old rest => exact ofRow old rest (sameRows old List.mem_cons_self)
  | nil =>
      cases writes with
      | nil => rfl
      | cons write writes =>
          -- the row that the first write puts there would not be changed by it
          have asOne : writeAll key (write :: writes) [] =
              writeAll key (write :: writes) [write.row] := by
            rw [writeAll, writeAll, List.foldl_cons, List.foldl_cons, mergeRow,
              mergeRow, if_pos rfl, repeatable.first write List.mem_cons_self]
          rw [asOne]
          exact ofRow write.row [] (same write List.mem_cons_self)

/-! ## All rows -/

theorem map_writeAll {writes : List (Write α)}
    (keeps : ∀ write ∈ writes, write.Keeps key) {rows : List α}
    (there : ∀ write ∈ writes, key write.row ∈ rows.map key) :
    (writeAll key writes rows).map key = rows.map key := by
  induction writes generalizing rows with
  | nil => rfl
  | cons write writes induction =>
      rw [List.forall_mem_cons] at keeps there
      have once : (mergeRow key write.merge write.row rows).map key =
          rows.map key := by
        rw [map_mergeRow keeps.1, if_pos there.1]
      rw [writeAll, List.foldl_cons, ← writeAll, induction keeps.2, once]
      rw [once]
      exact there.2

/-- After a write there is a row of its key. -/
theorem mem_map_writeAll {writes : List (Write α)}
    (keeps : ∀ write ∈ writes, write.Keeps key) (rows : List α) :
    ∀ write ∈ writes, key write.row ∈ (writeAll key writes rows).map key := by
  induction writes using List.reverseRecOn with
  | nil => simp
  | append_singleton writes write induction =>
      rw [List.forall_mem_append, List.forall_mem_singleton] at keeps
      have after : (writeAll key (writes ++ [write]) rows).map key =
          if key write.row ∈ (writeAll key writes rows).map key then
            (writeAll key writes rows).map key
          else (writeAll key writes rows).map key ++ [key write.row] := by
        rw [writeAll_concat, map_mergeRow keeps.2]
      rw [after, List.forall_mem_append, List.forall_mem_singleton]
      split
      · rename_i there
        exact ⟨induction keeps.1, there⟩
      · refine ⟨fun other member => ?_, ?_⟩
        · exact List.mem_append_left _ (induction keeps.1 other member)
        · exact List.mem_append_right _ (List.mem_singleton_self _)

/-- Writes that can be made again for each key can be made again. -/
theorem writeAll_writeAll {writes : List (Write α)}
    (keeps : ∀ write ∈ writes, write.Keeps key)
    (repeatable : ∀ value,
      Repeatable (writes.filter fun write => key write.row = value))
    (rows : List α) :
    writeAll key writes (writeAll key writes rows) =
      writeAll key writes rows := by
  apply eq_of_rows (map_writeAll keeps (mem_map_writeAll keeps rows))
  intro value
  rw [filter_writeAll keeps, filter_writeAll keeps]
  apply writeAll_writeAll_of_key _ (repeatable value)
  · intro write member
    exact of_decide_eq_true (List.mem_filter.mp member).2
  · intro row member
    exact of_decide_eq_true (List.mem_filter.mp member).2
  · intro write member
    exact keeps write (List.mem_of_mem_filter member)

end Tables

/-! ## Rows that are replaced -/

section Replacements

variable {α : Type}

/-- A write that replaces the row of its key. -/
def replacement (row : α) : Write α where
  row := row
  merge := fun _ new => new

theorem repeatable_replacements (rows : List α) :
    Repeatable (rows.map replacement) := by
  constructor
  · intro write member
    obtain ⟨row, _, rfl⟩ := List.mem_map.mp member
    rfl
  · intro old
    induction rows using List.reverseRecOn with
    | nil => rfl
    | append_singleton rows row _ =>
        rw [List.map_append, List.map_singleton, change_concat, change_concat]
        rfl

end Replacements

/-! ## Rows of migrations -/

/-- What is written into the table of migrations for a record. -/
def migrationWrites : Record → List (Write Migration)
  | .migration manifest => [⟨manifest, mergeManifest⟩]
  | .vmi vmi =>
      (vmi.derivedMigration?.map fun implied =>
        ⟨impliedRow implied, withState⟩).toList
  | _ => []

/-- The row with the identity that a manifest gives it. -/
def identified (manifest? : Option Migration) (old : Migration) : Migration :=
  match manifest? with
  | none => old
  | some manifest =>
      { manifest with
        targetPod := old.targetPod
        sourceNode := old.sourceNode
        targetNode := old.targetNode
        startTimestamp := old.startTimestamp
        endTimestamp := old.endTimestamp
        completed := old.completed
        failed := old.failed }

theorem newer_assoc {α : Type} (new between old : Option α) :
    newer (newer new between) old = newer new (newer between old) := by
  cases new <;> rfl

theorem newer_self {α : Type} (value : Option α) :
    newer value value = value := by
  cases value <;> rfl

theorem withState_self (migration : Migration) :
    withState migration migration = migration := by
  simp only [withState, newer_self]

/-- The identity of a row and what is known of its state are told
independently. -/
theorem retell (manifest? later? : Option Migration)
    (state later old : Migration) :
    withState (identified later? (withState (identified manifest? old) state))
        later =
      withState (identified (later?.or manifest?) old)
        (withState state later) := by
  cases later? <;> cases manifest? <;>
    simp only [withState, identified, newer_assoc, Option.none_or,
      Option.some_or]

/-- A write into the table of migrations merges a state, and an identity if it
is that of a manifest. -/
theorem exists_identified {write : Write Migration} {record : Record}
    (ofRecord : write ∈ migrationWrites record) :
    ∃ manifest?, (manifest? = none ∨ manifest? = some write.row) ∧
      ∀ old, write.merge old write.row =
        withState (identified manifest? old) write.row := by
  cases record with
  | migration manifest =>
      cases List.mem_singleton.mp ofRecord
      exact ⟨some manifest, .inr rfl, fun old => rfl⟩
  | vmi vmi =>
      rw [migrationWrites, Option.mem_toList,
        Option.map_eq_some_iff] at ofRecord
      obtain ⟨implied, _, rfl⟩ := ofRecord
      exact ⟨none, .inl rfl, fun old => rfl⟩
  | _ => cases ofRecord

/-- Writes into the row of a migration come down to one identity and one state
that are told. -/
theorem exists_told {writes : List (Write Migration)}
    (ofRecords : ∀ write ∈ writes, ∃ record, write ∈ migrationWrites record) :
    ∃ manifest? state, ∀ old,
      change writes old = withState (identified manifest? old) state := by
  induction writes using List.reverseRecOn with
  | nil => exact ⟨none, default, fun old => rfl⟩
  | append_singleton writes write induction =>
      rw [List.forall_mem_append, List.forall_mem_singleton] at ofRecords
      obtain ⟨manifest?, state, told⟩ := induction ofRecords.1
      obtain ⟨record, ofRecord⟩ := ofRecords.2
      obtain ⟨later?, _, merges⟩ := exists_identified ofRecord
      refine ⟨later?.or manifest?, withState state write.row, fun old => ?_⟩
      rw [change_concat, told, merges, retell]

theorem repeatable_migrationWrites {writes : List (Write Migration)}
    (ofRecords : ∀ write ∈ writes, ∃ record, write ∈ migrationWrites record) :
    Repeatable writes := by
  constructor
  · intro write member
    obtain ⟨record, ofRecord⟩ := ofRecords write member
    obtain ⟨_, rfl | rfl, merges⟩ := exists_identified ofRecord
    · rw [merges, identified, withState_self]
    · rw [merges, identified, withState_self]
  · intro old
    obtain ⟨manifest?, state, told⟩ := exists_told ofRecords
    rw [told, told, retell, Option.or_self, withState_self]

/-! ## Databases -/

/-- Of the records the table of a kind gets those of its kind, as far as it is
not that of the migrations. -/
theorem records_putAll (records : List Record) (database : Database)
    {kind : Kind} (notMigration : kind ≠ .migration) :
    (database.putAll records).records kind =
      writeAll Record.key
        ((records.filter fun record => record.key.kind = kind).map replacement)
        (database.records kind) := by
  induction records using List.reverseRecOn with
  | nil => rfl
  | append_singleton records record induction =>
      rw [putAll_concat, records_put record _ notMigration, induction,
        List.filter_append, List.map_append]
      by_cases same : record.key.kind = kind
      · rw [if_pos same, List.filter_cons_of_pos (by simpa using same),
          List.filter_nil, List.map_singleton, writeAll_concat]
        rfl
      · rw [if_neg same, List.filter_cons_of_neg (by simpa using same),
          List.filter_nil, List.map_nil, List.append_nil]

theorem migrations_putAll (records : List Record) (database : Database) :
    (database.putAll records).migrations =
      writeAll Migration.uuid (records.flatMap migrationWrites)
        database.migrations := by
  induction records using List.reverseRecOn with
  | nil => rfl
  | append_singleton records record induction =>
      rw [putAll_concat, List.flatMap_append, List.flatMap_singleton]
      cases record with
      | migration manifest =>
          rw [migrationWrites, writeAll_concat, ← induction]
          rfl
      | vmi vmi =>
          rw [migrations_put_vmi, induction, migrationWrites]
          cases vmi.derivedMigration? with
          | none => rw [Option.map_none, Option.toList_none, List.append_nil]
          | some implied =>
              rw [Option.map_some, Option.toList_some, writeAll_concat]
      | _ =>
          -- any other kind of record writes into the table of its kind only
          exact induction.trans (congrArg (writeAll _ · _)
            (List.append_nil _).symm)

theorem keeps_migrationWrites (record : Record) :
    ∀ write ∈ migrationWrites record, write.Keeps Migration.uuid := by
  intro write member
  cases record with
  | migration manifest =>
      cases List.mem_singleton.mp member
      exact fun _ _ => rfl
  | vmi vmi =>
      rw [migrationWrites, Option.mem_toList, Option.map_eq_some_iff] at member
      obtain ⟨implied, _, rfl⟩ := member
      exact fun _ same => same
  | _ => cases member

/-- A database is made of its tables. -/
theorem eq_of_records {database other : Database}
    (same : ∀ kind, database.records kind = other.records kind) :
    database = other := by
  have table : ∀ {α : Type} (wrap : α → Record), Function.Injective wrap →
      ∀ {rows rows' : List α}, rows.map wrap = rows'.map wrap → rows = rows' :=
    fun wrap injective => (List.map_injective_iff.mpr injective).eq_iff.mp
  cases database
  cases other
  congr
  · exact table Record.pod (fun _ _ => Record.pod.inj) (same .pod)
  · exact table Record.node (fun _ _ => Record.node.inj) (same .node)
  · exact table Record.vm (fun _ _ => Record.vm.inj) (same .vm)
  · exact table Record.vmi (fun _ _ => Record.vmi.inj) (same .vmi)
  · exact table Record.migration (fun _ _ => Record.migration.inj)
      (same .migration)
  · exact table Record.pvc (fun _ _ => Record.pvc.inj) (same .pvc)
  · exact table Record.subscription (fun _ _ => Record.subscription.inj)
      (same .subscription)
  · exact table Record.gather (fun _ _ => Record.gather.inj) (same .gather)

/-- Records that are stored again, all in the same order, leave the database as
it is. -/
theorem putAll_putAll (records : List Record) (database : Database) :
    (database.putAll records).putAll records = database.putAll records := by
  apply eq_of_records
  intro kind
  by_cases isMigration : kind = .migration
  · subst isMigration
    apply congrArg (List.map Record.migration)
    rw [migrations_putAll, migrations_putAll]
    apply writeAll_writeAll
    · intro write member
      obtain ⟨record, _, ofRecord⟩ := List.mem_flatMap.mp member
      exact keeps_migrationWrites record write ofRecord
    · intro uuid
      apply repeatable_migrationWrites
      intro write member
      obtain ⟨record, _, ofRecord⟩ :=
        List.mem_flatMap.mp (List.mem_of_mem_filter member)
      exact ⟨record, ofRecord⟩
  · rw [records_putAll _ _ isMigration, records_putAll _ _ isMigration]
    apply writeAll_writeAll
    · intro write member
      obtain ⟨record, _, rfl⟩ := List.mem_map.mp member
      exact fun _ _ => rfl
    · intro key
      rw [List.filter_map]
      exact repeatable_replacements _

end Database
end ClusterTrace
