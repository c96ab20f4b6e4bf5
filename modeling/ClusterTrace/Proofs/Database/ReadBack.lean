import ClusterTrace.Database.Listing
import ClusterTrace.Proofs.Database.MigrationWrites
import ClusterTrace.Proofs.ListReading
import Mathlib.Data.List.Dedup

/-!
# Records that are read back

Every lookup tells of the records that were stored last under each key: lookups
by key, whole listings, manifests and the number of keys of each kind,
`readsBack_ofRecords`.  The rows of a key decide what is found, so each lookup
is brought down to them first.
-/

namespace ClusterTrace

open Listing (View Page)

/-! ## Manifests that come back as they are -/

namespace Json

/-- There is no floating point number in a value. -/
def isExact : Json → Bool
  | .number (.float _) => false
  | .array items => itemsExact items
  | .object members => membersExact members
  | _ => true
where
  /-- There is no floating point number in the items. -/
  itemsExact : List Json → Bool
    | [] => true
    | item :: rest => item.isExact && itemsExact rest
  /-- There is no floating point number in the members' values. -/
  membersExact : List (String × Json) → Bool
    | [] => true
    | (_, value) :: rest => value.isExact && membersExact rest

mutual

theorem restored_of_isExact (value : Json) (exact : value.isExact = true) :
    value.restored = value := by
  cases value with
  | number number =>
      cases number with
      | int value => rfl
      | float bits => cases exact
  | array items =>
      rw [restored, restoredItems_of_itemsExact items exact]
  | object members =>
      rw [restored, restoredMembers_of_membersExact members exact]
  | _ => rfl

theorem restoredItems_of_itemsExact (items : List Json)
    (exact : isExact.itemsExact items = true) :
    restored.restoredItems items = items := by
  cases items with
  | nil => rfl
  | cons item rest =>
      rw [isExact.itemsExact, Bool.and_eq_true] at exact
      rw [restored.restoredItems, restored_of_isExact item exact.1,
        restoredItems_of_itemsExact rest exact.2]

theorem restoredMembers_of_membersExact (members : List (String × Json))
    (exact : isExact.membersExact members = true) :
    restored.restoredMembers members = members := by
  cases members with
  | nil => rfl
  | cons member rest =>
      obtain ⟨key, value⟩ := member
      rw [isExact.membersExact, Bool.and_eq_true] at exact
      rw [restored.restoredMembers, restored_of_isExact value exact.1,
        restoredMembers_of_membersExact rest exact.2]

end

/-- A value that is read back as it was written. -/
structure IsPlain (value : Json) : Prop where
  exact : value.isExact = true
  shallow : value.depth ≤ maxDepth

theorem IsPlain.restore {value : Json} (plain : value.IsPlain) :
    value.restore = .ok value := by
  rw [restore_of_shallow plain.shallow, restored_of_isExact value plain.exact]

end Json

theorem restoreContent_of_isPlain {content : Json} (plain : content.IsPlain) :
    restoreContent content = .ok content := by
  rw [restoreContent, plain.restore]
  rfl

theorem map_restoreContent {α : Type} {content : Json} (plain : content.IsPlain)
    (fill : Json → α) :
    (restoreContent content).map fill = .ok (fill content) := by
  rw [restoreContent_of_isPlain plain]
  rfl

namespace Record

/-- The manifest of a record, if it carries one. -/
def manifest? : Record → Option Json
  | .pod record => some record.content
  | .node record => some record.content
  | .vm record => some record.content
  | .vmi record => some record.content
  | .migration record => record.content
  | .pvc record => some record.content
  | .subscription record => some record.content
  | .gather _ => none

/-- The manifest of a record is read back as it was written. -/
def IsPlain (record : Record) : Prop :=
  ∀ manifest ∈ record.manifest?, manifest.IsPlain

/-- The key of the migration that an instance implies. -/
def impliedKey? : Record → Option Key
  | .vmi record =>
      record.derivedMigration?.map fun implied => ⟨.migration, implied.uuid⟩
  | _ => none

/-- The keys of the rows that a record is written into. -/
def keys (record : Record) : List Key :=
  record.key :: record.impliedKey?.toList

end Record

namespace Database

/-! ## The record that was stored last -/

/-- Of records that of a key that comes last. -/
def latest? (key : Key) (records : List Record) : Option Record :=
  (records.filter fun record => record.key = key).getLast?

theorem latest?_concat_self (records : List Record) (record : Record) :
    latest? record.key (records ++ [record]) = some record := by
  rw [latest?, List.filter_append, List.filter_cons_of_pos (by simp),
    List.filter_nil, List.getLast?_concat]

theorem latest?_concat_of_ne {key : Key} {record : Record}
    (different : record.key ≠ key) (records : List Record) :
    latest? key (records ++ [record]) = latest? key records := by
  rw [latest?, List.filter_append, List.filter_cons_of_neg (by simpa),
    List.filter_nil, List.append_nil, latest?]

theorem mem_of_latest? {key : Key} {records : List Record} {record : Record}
    (isLatest : latest? key records = some record) :
    record ∈ records ∧ record.key = key := by
  have member := List.mem_of_getLast? isLatest
  exact ⟨List.mem_of_mem_filter member,
    of_decide_eq_true (List.mem_filter.mp member).2⟩

theorem Keyed.putAll {database : Database} (keyed : database.Keyed)
    (records : List Record) : (database.putAll records).Keyed := by
  induction records using List.reverseRecOn with
  | nil => exact keyed
  | append_singleton records record induction =>
      rw [putAll_concat]
      exact induction.put record

theorem keyed_empty : ({} : Database).Keyed := by
  intro kind
  cases kind <;> exact List.nodup_nil

theorem keyed_ofRecords (records : List Record) :
    (ofRecords records).Keyed :=
  keyed_empty.putAll records

/-- The row of a key is the record that was stored last under it. -/
theorem rowsAt_ofRecords {key : Key} (notMigration : key.kind ≠ .migration)
    (records : List Record) :
    (ofRecords records).rowsAt key = (latest? key records).toList := by
  induction records using List.reverseRecOn with
  | nil =>
      obtain ⟨kind, id⟩ := key
      cases kind <;> rfl
  | append_singleton records record induction =>
      rw [ofRecords_concat]
      by_cases same : record.key = key
      · subst key
        rw [rowsAt_put_self (keyed_ofRecords records) notMigration,
          latest?_concat_self]
        rfl
      · rw [rowsAt_put_of_ne (Ne.symm same) notMigration, induction,
          latest?_concat_of_ne same]

theorem mem_of_mem_records_ofRecords {kind : Kind}
    (notMigration : kind ≠ .migration) {records : List Record}
    {record : Record} (member : record ∈ (ofRecords records).records kind) :
    record ∈ records := by
  obtain ⟨rfl, isRow⟩ := mem_records_iff.mp member
  rw [rowsAt_ofRecords notMigration, Option.mem_toList] at isRow
  exact (mem_of_latest? isRow).1

/-! ## Tables -/

/-- The rows of a kind as its table holds them, and how they are read back. -/
structure IsTable {α : Type} (database : Database) (kind : Kind)
    (wrap : α → Record) (name : α → String) (restore : α → Outcome α)
    (rows : List α) : Prop where
  records : database.records kind = rows.map wrap
  key : ∀ row, (wrap row).key = ⟨kind, name row⟩
  restored : ∀ row, (wrap row).IsPlain → restore row = .ok row

theorem isTable_pods (database : Database) :
    database.IsTable .pod .pod (·.uuid) Pod.restore database.pods :=
  ⟨rfl, fun _ => rfl, fun _ plain => map_restoreContent (plain _ rfl) _⟩

theorem isTable_nodes (database : Database) :
    database.IsTable .node .node (·.name) Node.restore database.nodes :=
  ⟨rfl, fun _ => rfl, fun _ plain => map_restoreContent (plain _ rfl) _⟩

theorem isTable_vms (database : Database) :
    database.IsTable .vm .vm (·.uuid) VirtualMachine.restore database.vms :=
  ⟨rfl, fun _ => rfl, fun _ plain => map_restoreContent (plain _ rfl) _⟩

theorem isTable_vmis (database : Database) :
    database.IsTable .vmi .vmi (·.uuid) VirtualMachineInstance.restore
      database.vmis :=
  ⟨rfl, fun _ => rfl, fun _ plain => map_restoreContent (plain _ rfl) _⟩

theorem isTable_migrations (database : Database) :
    database.IsTable .migration .migration (·.uuid) Migration.restore
      database.migrations := by
  refine ⟨rfl, fun _ => rfl, fun row plain => ?_⟩
  rw [Migration.restore]
  cases carried : row.content with
  | none => rfl
  | some content =>
      refine (map_restoreContent (plain content carried) _).trans ?_
      rw [← carried]

theorem isTable_pvcs (database : Database) :
    database.IsTable .pvc .pvc (·.uuid) VolumeClaim.restore database.pvcs :=
  ⟨rfl, fun _ => rfl, fun _ plain => map_restoreContent (plain _ rfl) _⟩

theorem isTable_subscriptions (database : Database) :
    database.IsTable .subscription .subscription (·.uuid) Subscription.restore
      database.subscriptions :=
  ⟨rfl, fun _ => rfl, fun _ plain => map_restoreContent (plain _ rfl) _⟩

/-- What a lookup answers that finds the record, if any. -/
def orNotFound (entity id : String) : Option Record → Outcome Record
  | some record => .ok record
  | none => .error (.notFound entity id)

namespace IsTable

variable {α : Type} {database : Database} {kind : Kind} {wrap : α → Record}
  {name : α → String} {restore : α → Outcome α} {rows : List α}

theorem rowsAt (table : database.IsTable kind wrap name restore rows)
    (id : String) :
    database.rowsAt ⟨kind, id⟩ =
      (rows.filter fun row => name row = id).map wrap := by
  rw [Database.rowsAt, table.records, List.filter_map]
  congr 1
  apply List.filter_congr
  intro row _
  rw [Function.comp_apply, table.key]
  simp

theorem map_find? (table : database.IsTable kind wrap name restore rows)
    (id : String) :
    (rows.find? fun row => name row = id).map wrap =
      (database.rowsAt ⟨kind, id⟩).head? := by
  rw [table.rowsAt, List.head?_map, List.head?_filter]

/-- A lookup by key finds the row of the key. -/
theorem map_require (table : database.IsTable kind wrap name restore rows)
    (entity id : String)
    (isRead : ∀ row ∈ rows, restore row = .ok row) :
    (require entity id restore (rows.find? fun row => name row = id)).map
        wrap =
      orNotFound entity id (database.rowsAt ⟨kind, id⟩).head? := by
  rw [← table.map_find?]
  cases found : rows.find? fun row => name row = id with
  | none => rfl
  | some row =>
      rw [require, isRead row (List.mem_of_find?_eq_some found)]
      rfl

/-- The manifest of a key is that of its row. -/
theorem map_content (table : database.IsTable kind wrap name restore rows)
    {content : α → Json}
    (carries : ∀ row, content row = (wrap row).manifest?.getD .null)
    (id : String) :
    (rows.find? fun row => name row = id).map content =
      (database.rowsAt ⟨kind, id⟩).head?.map fun record =>
        record.manifest?.getD .null := by
  rw [← table.map_find?, Option.map_map]
  congr 1
  exact funext carries

/-- The whole listing has all rows. -/
theorem exists_list (table : database.IsTable kind wrap name restore rows)
    (view : View α) (isRead : ∀ row ∈ rows, view.restore row = .ok row) :
    ∃ page, (view.list {} rows).map (Page.map wrap) = .ok page ∧
      page.rows.Perm (database.records kind) := by
  have noFault : ({} : Listing.Filter).fault? view.kind = none := by
    cases view.kind <;> rfl
  have isAll : rows.filter
      (fun row => ({} : Listing.Filter).accepts (view.columns row)) = rows :=
    List.filter_eq_self.mpr fun _ _ => rfl
  have matching : (view.matching {} rows).Perm rows := by
    rw [View.matching, isAll]
    exact List.mergeSort_perm _ _
  have isList := mapM_eq_ok_map (f := id)
    fun row (member : row ∈ view.matching {} rows) =>
      isRead row (matching.mem_iff.mp member)
  rw [List.map_id] at isList
  rw [View.list, noFault, table.records]
  simp only [Listing.pageRows, isList]
  exact ⟨_, rfl, matching.map wrap⟩

end IsTable

/-! ## Manifests -/

/-- The manifest of a key is read from its first row. -/
theorem content_eq (database : Database) {kind : Kind}
    (carries : kind ≠ .gather) (id : String) :
    database.content kind id =
      require kind.name id restoreContent
        ((database.rowsAt ⟨kind, id⟩).head?.map fun record =>
          record.manifest?.getD .null) := by
  cases kind with
  | pod =>
      rw [← (isTable_pods database).map_content fun _ => rfl]
      rfl
  | node =>
      rw [← (isTable_nodes database).map_content fun _ => rfl]
      rfl
  | vm =>
      rw [← (isTable_vms database).map_content fun _ => rfl]
      rfl
  | vmi =>
      rw [← (isTable_vmis database).map_content fun _ => rfl]
      rfl
  | migration =>
      rw [← (isTable_migrations database).map_content fun _ => rfl]
      rfl
  | pvc =>
      rw [← (isTable_pvcs database).map_content fun _ => rfl]
      rfl
  | subscription =>
      rw [← (isTable_subscriptions database).map_content fun _ => rfl]
      rfl
  | gather => exact (carries rfl).elim

/-- What a lookup of a manifest answers that finds the record, if any. -/
def manifestOf (kind : Kind) (id : String) : Option Record → Outcome Json
  | some record => .ok (record.manifest?.getD .null)
  | none => .error (.notFound kind.name id)

theorem require_manifest {kind : Kind} {id : String} {record? : Option Record}
    (plain : ∀ record ∈ record?, record.IsPlain) :
    require kind.name id restoreContent
        (record?.map fun record => record.manifest?.getD .null) =
      manifestOf kind id record? := by
  cases record? with
  | none => rfl
  | some record =>
      rw [Option.map_some, require, manifestOf]
      cases carried : record.manifest? with
      | none => rfl
      | some manifest =>
          exact restoreContent_of_isPlain (plain record rfl manifest carried)

theorem content_ofRecords {records : List Record}
    (plain : ∀ record ∈ records, record.IsPlain) {kind : Kind}
    (carries : kind ≠ .gather) (notMigration : kind ≠ .migration)
    (id : String) :
    (ofRecords records).content kind id =
      manifestOf kind id (latest? ⟨kind, id⟩ records) := by
  have isRow : ((ofRecords records).rowsAt ⟨kind, id⟩).head? =
      latest? ⟨kind, id⟩ records := by
    rw [rowsAt_ofRecords notMigration, Option.head?_toList]
  rw [content_eq _ carries, isRow]
  exact require_manifest fun record isLatest =>
    plain record (mem_of_latest? isLatest).1

/-! ## Manifests of migrations -/

theorem map_manifestsOf (uuid : String) (records : List Record) :
    (manifestsOf uuid records).map Record.migration =
      records.filter fun record => record.key = ⟨.migration, uuid⟩ := by
  induction records with
  | nil => rfl
  | cons record rest induction =>
      rw [manifestsOf] at induction
      cases record with
      | migration manifest =>
          by_cases same : manifest.uuid = uuid <;>
            simp [manifestsOf, Record.key, same, induction]
      | _ => simp [manifestsOf, Record.key, induction]

theorem map_getLast?_manifestsOf (uuid : String) (records : List Record) :
    (manifestsOf uuid records).getLast?.map Record.migration =
      latest? ⟨.migration, uuid⟩ records := by
  rw [latest?, ← map_manifestsOf, List.getLast?_map]

/-- A migration of which a manifest was stored has the last one's content, and
any other one of which there is a row has none. -/
theorem manifest?_of_toldRow? {uuid : String} {records : List Record}
    {row : Migration} (isTold : toldRow? uuid records = some row) :
    (Record.migration row).manifest? =
      (latest? ⟨.migration, uuid⟩ records).bind Record.manifest? := by
  rw [toldRow?, Option.map_eq_some_iff] at isTold
  obtain ⟨owner, _, rfl⟩ := isTold
  rw [← map_getLast?_manifestsOf]
  cases (manifestsOf uuid records).getLast? <;> rfl

theorem toldRow?_eq_none_iff {uuid : String} {records : List Record} :
    toldRow? uuid records = none ↔
      latest? ⟨.migration, uuid⟩ records = none ∧
        instancesOf uuid records = [] := by
  rw [toldRow?, Option.map_eq_none_iff, ownerOf?_eq_none_iff,
    ← map_getLast?_manifestsOf, Option.map_eq_none_iff,
    List.getLast?_eq_none_iff]

theorem content_migration_ofRecords {records : List Record}
    (plain : ∀ record ∈ records, record.IsPlain) (id : String) :
    (ofRecords records).content .migration id =
      match latest? ⟨.migration, id⟩ records, instancesOf id records with
      | some record, _ => .ok (record.manifest?.getD .null)
      | none, [] => .error (.notFound "migration" id)
      | none, _ :: _ => .ok .null := by
  have isRow : ((ofRecords records).rowsAt ⟨.migration, id⟩).head? =
      (toldRow? id records).map Record.migration := by
    rw [(isTable_migrations _).rowsAt, ← rowsOf, rowsOf_ofRecords]
    cases toldRow? id records <;> rfl
  rw [content_eq _ (by decide), isRow]
  cases isTold : toldRow? id records with
  | none =>
      obtain ⟨noManifest, noInstance⟩ := toldRow?_eq_none_iff.mp isTold
      rw [noManifest, noInstance]
      rfl
  | some row =>
      have isManifest := manifest?_of_toldRow? isTold
      have isPlain : (Record.migration row).IsPlain := by
        intro manifest carried
        rw [isManifest] at carried
        obtain ⟨record, isLatest, isItsOwn⟩ :=
          Option.bind_eq_some_iff.mp carried
        exact plain record (mem_of_latest? isLatest).1 manifest isItsOwn
      rw [Option.map_some, require_manifest (by simpa using isPlain),
        manifestOf,
        isManifest]
      cases isLatest : latest? ⟨.migration, id⟩ records with
      | some record => rfl
      | none =>
          cases instances : instancesOf id records with
          | cons vmi rest => rfl
          | nil =>
              rw [toldRow?_eq_none_iff.mpr ⟨isLatest, instances⟩] at isTold
              cases isTold

/-! ## Manifests that stay -/

/-- Rows of keys that a record is not written into stay. -/
theorem rowsAt_put_of_not_mem {record : Record} {key : Key}
    (other : key ∉ record.keys) (database : Database) :
    (database.put record).rowsAt key = database.rowsAt key := by
  rw [Record.keys, List.mem_cons, not_or] at other
  obtain ⟨kind, id⟩ := key
  by_cases isMigration : kind = .migration
  · subst isMigration
    rw [(isTable_migrations _).rowsAt, (isTable_migrations _).rowsAt]
    congr 1
    cases record with
    | migration manifest =>
        have different : id ≠ manifest.uuid := by
          rintro rfl
          exact other.1 rfl
        exact filter_mergeRow_of_ne (fun _ _ => rfl) different _
    | vmi vmi =>
        rw [migrations_put_vmi]
        cases derived : vmi.derivedMigration? with
        | none => rfl
        | some implied =>
            have different : id ≠ (impliedRow implied).uuid := by
              rintro rfl
              exact other.2 (by simp [Record.impliedKey?, derived, impliedRow])
            exact filter_mergeRow_of_ne (fun _ same => same) different _
    | _ => rfl
  · exact rowsAt_put_of_ne other.1 isMigration database

theorem content_put_of_not_mem {record : Record} {key : Key}
    (other : key ∉ record.keys) (database : Database) :
    (database.put record).content key.kind key.id =
      database.content key.kind key.id := by
  by_cases carries : key.kind = .gather
  · rw [carries]
    rfl
  · rw [content_eq _ carries, content_eq _ carries, rowsAt_put_of_not_mem other]

/-- What the rows of a key hold as manifests. -/
def manifestsAt (database : Database) (key : Key) : List (Option Json) :=
  (database.rowsAt key).map Record.manifest?

theorem manifestsAt_migration (database : Database) (uuid : String) :
    database.manifestsAt ⟨.migration, uuid⟩ =
      (database.migrations.filter fun row => row.uuid = uuid).map
        (·.content) := by
  rw [manifestsAt, (isTable_migrations database).rowsAt, List.map_map]
  rfl

theorem content_eq_of_manifestsAt (database : Database) {key : Key}
    (carries : key.kind ≠ .gather) :
    database.content key.kind key.id =
      require key.kind.name key.id restoreContent
        ((database.manifestsAt key).head?.map fun manifest? =>
          manifest?.getD .null) := by
  rw [content_eq database carries, manifestsAt, List.head?_map, Option.map_map]
  rfl

/-- A record leaves the manifests of other keys, but may imply a migration
without one. -/
theorem manifestsAt_put_of_ne {record : Record} {key : Key}
    (different : key ≠ record.key) (database : Database) :
    (database.put record).manifestsAt key = database.manifestsAt key ∨
      database.manifestsAt key = [] ∧
        (database.put record).manifestsAt key = [none] := by
  by_cases other : key ∈ record.keys
  · have isImplied := (List.mem_cons.mp other).resolve_left different
    cases record with
    | vmi vmi =>
        rw [Option.mem_toList, Record.impliedKey?, Option.map_eq_some_iff]
          at isImplied
        obtain ⟨implied, derived, rfl⟩ := isImplied
        rw [manifestsAt_migration, manifestsAt_migration, migrations_put_vmi,
          derived]
        simp only
        have isKey : (impliedRow implied).uuid = implied.uuid := rfl
        rw [filter_mergeRow_self isKey fun _ same => same]
        cases database.migrations.filter fun row => row.uuid = implied.uuid with
        | nil => exact Or.inr ⟨rfl, rfl⟩
        | cons old rest => exact Or.inl rfl
    | _ => cases isImplied
  · exact Or.inl (by rw [manifestsAt, rowsAt_put_of_not_mem other, manifestsAt])

/-- A record under another key leaves a manifest that there is. -/
theorem content_put_of_ne {record : Record} {key : Key}
    (different : key ≠ record.key) {database : Database} {content : Json}
    (found : database.content key.kind key.id = .ok content) :
    (database.put record).content key.kind key.id = .ok content := by
  by_cases carries : key.kind = .gather
  · rw [carries] at found
    cases found
  · rw [content_eq_of_manifestsAt _ carries] at found ⊢
    rcases manifestsAt_put_of_ne different database with kept | ⟨nothing, -⟩
    · rw [kept, found]
    · rw [nothing] at found
      cases found

/-! ## Numbers of keys -/

theorem mem_map_mergeRow_self {α κ : Type} [DecidableEq κ] {key : α → κ}
    {merge : α → α → α} {row : α}
    (keeps : ∀ old, key old = key row → key (merge old row) = key row)
    (rows : List α) : key row ∈ (mergeRow key merge row rows).map key := by
  rw [map_mergeRow keeps]
  split
  · assumption
  · exact List.mem_append_right _ (List.mem_singleton_self _)

theorem mem_map_key_iff {database : Database} {key : Key} :
    key ∈ (database.records key.kind).map Record.key ↔
      database.rowsAt key ≠ [] := by
  rw [rowsAt, Ne, List.filter_eq_nil_iff, List.mem_map]
  simp

/-- There is a row of every key that a record is written into. -/
theorem mem_map_key_put {record : Record} {key : Key}
    (member : key ∈ record.keys) (database : Database) :
    key ∈ ((database.put record).records key.kind).map Record.key := by
  rcases List.mem_cons.mp member with rfl | isImplied
  · by_cases isMigration : record.key.kind = .migration
    · cases record with
      | migration manifest =>
          rw [isMigration, keys_migrations]
          have keeps : ∀ old : Migration, old.uuid = manifest.uuid →
              (mergeManifest old manifest).uuid = manifest.uuid :=
            fun _ _ => rfl
          exact List.mem_map_of_mem
            (mem_map_mergeRow_self keeps database.migrations)
      | _ => cases isMigration
    · rw [records_put record database isMigration, if_pos rfl]
      exact mem_map_mergeRow_self (fun _ _ => rfl) _
  · cases record with
    | vmi vmi =>
        rw [Option.mem_toList, Record.impliedKey?, Option.map_eq_some_iff]
          at isImplied
        obtain ⟨implied, derived, rfl⟩ := isImplied
        rw [keys_migrations, migrations_put_vmi, derived]
        have keeps : ∀ old : Migration, old.uuid = (impliedRow implied).uuid →
            (withState old (impliedRow implied)).uuid =
              (impliedRow implied).uuid := fun _ same => same
        exact List.mem_map_of_mem
          (mem_map_mergeRow_self keeps database.migrations)
    | _ => cases isImplied

/-- A table has the keys that the records are written into. -/
theorem mem_map_key_ofRecords {records : List Record} {key : Key} :
    key ∈ ((ofRecords records).records key.kind).map Record.key ↔
      key ∈ records.flatMap Record.keys := by
  induction records using List.reverseRecOn with
  | nil =>
      obtain ⟨kind, id⟩ := key
      cases kind <;> simp [ofRecords, putAll, Database.records]
  | append_singleton records record induction =>
      rw [ofRecords_concat, List.flatMap_append, List.flatMap_singleton,
        List.mem_append, ← induction]
      by_cases member : key ∈ record.keys
      · exact iff_of_true (mem_map_key_put member _) (.inr member)
      · rw [mem_map_key_iff, rowsAt_put_of_not_mem member, ← mem_map_key_iff]
        exact (or_iff_left member).symm

theorem count_eq (database : Database) (kind : Kind) :
    database.count kind =
      ((database.records kind).map Record.key).length := by
  cases kind <;> simp [count, records]

theorem count_ofRecords (records : List Record) (kind : Kind) :
    (ofRecords records).count kind =
      ((records.flatMap Record.keys).filter
        fun key => key.kind = kind).dedup.length := by
  rw [count_eq]
  apply List.Perm.length_eq
  rw [List.perm_ext_iff_of_nodup (keyed_ofRecords records kind)
    (List.nodup_dedup _)]
  intro key
  rw [List.mem_dedup, List.mem_filter, decide_eq_true_eq,
    ← mem_map_key_ofRecords]
  constructor
  · intro member
    obtain ⟨record, isRow, rfl⟩ := List.mem_map.mp member
    have isKind := kind_of_mem_records isRow
    exact ⟨isKind.symm ▸ member, isKind⟩
  · rintro ⟨member, rfl⟩
    exact member

/-! ## All lookups -/

/-- The lookups of a database tell of the records that were stored last. -/
structure ReadsBack (records : List Record) (database : Database) : Prop where
  pod : ∀ id, (database.getPod id).map Record.pod =
    orNotFound "pod" id (latest? ⟨.pod, id⟩ records)
  node : ∀ id, (database.getNode id).map Record.node =
    orNotFound "node" id (latest? ⟨.node, id⟩ records)
  vm : ∀ id, (database.getMachine id).map Record.vm =
    orNotFound "virtual machine" id (latest? ⟨.vm, id⟩ records)
  vmi : ∀ id, (database.getInstance id).map Record.vmi =
    orNotFound "virtual machine instance" id (latest? ⟨.vmi, id⟩ records)
  listing : ∀ kind, kind ≠ .migration →
    ∃ page, database.list kind {} = .ok page ∧
      (∀ row ∈ page.rows, row.key.kind = kind) ∧
      ∀ id, (page.rows.filter fun row => row.key = ⟨kind, id⟩) =
        (latest? ⟨kind, id⟩ records).toList
  imports : ∀ name, ((database.imports.filter
      fun gather => gather.name = name).map Record.gather) =
    (latest? ⟨.gather, name⟩ records).toList
  content : ∀ kind, kind ≠ .gather → kind ≠ .migration → ∀ id,
    database.content kind id = manifestOf kind id (latest? ⟨kind, id⟩ records)
  migrationContent : ∀ id,
    database.content .migration id =
      match latest? ⟨.migration, id⟩ records, instancesOf id records with
      | some record, _ => .ok (record.manifest?.getD .null)
      | none, [] => .error (.notFound "migration" id)
      | none, _ :: _ => .ok .null
  contentKept : ∀ record key content, key ≠ record.key →
    database.content key.kind key.id = .ok content →
    (database.put record).content key.kind key.id = .ok content
  contentUnchanged : ∀ record key, key ∉ record.keys →
    (database.put record).content key.kind key.id =
      database.content key.kind key.id
  counts : database.counts = Kind.all.map fun kind =>
    (kind, ((records.flatMap Record.keys).filter
      fun key => key.kind = kind).dedup.length)

section Readers

variable {records : List Record}

/-- The rows of a table other than that of the migrations are records that were
stored, so they are read back as they are. -/
theorem IsTable.restore_eq (plain : ∀ record ∈ records, record.IsPlain)
    {α : Type} {kind : Kind} {wrap : α → Record} {name : α → String}
    {restore : α → Outcome α} {rows : List α}
    (table : (ofRecords records).IsTable kind wrap name restore rows)
    (notMigration : kind ≠ .migration) :
    ∀ row ∈ rows, restore row = .ok row := by
  intro row member
  apply table.restored
  apply plain _ (mem_of_mem_records_ofRecords notMigration _)
  rw [table.records]
  exact List.mem_map_of_mem member

theorem map_require_ofRecords (plain : ∀ record ∈ records, record.IsPlain)
    {α : Type} {kind : Kind} {wrap : α → Record} {name : α → String}
    {restore : α → Outcome α} {rows : List α}
    (table : (ofRecords records).IsTable kind wrap name restore rows)
    (notMigration : kind ≠ .migration) (entity id : String) :
    (require entity id restore (rows.find? fun row => name row = id)).map
        wrap =
      orNotFound entity id (latest? ⟨kind, id⟩ records) := by
  rw [table.map_require entity id (table.restore_eq plain notMigration),
    rowsAt_ofRecords notMigration, Option.head?_toList]

/-- Rows in any order are those of the keys that were stored last. -/
theorem filter_of_perm {kind : Kind} (notMigration : kind ≠ .migration)
    {rows : List Record} (perm : rows.Perm ((ofRecords records).records kind))
    (id : String) :
    (rows.filter fun row => row.key = ⟨kind, id⟩) =
      (latest? ⟨kind, id⟩ records).toList := by
  have samePerm := perm.filter fun row => decide (row.key = ⟨kind, id⟩)
  rw [← rowsAt_ofRecords notMigration]
  change List.Perm _ ((ofRecords records).rowsAt ⟨kind, id⟩) at samePerm
  rw [rowsAt_ofRecords notMigration] at samePerm ⊢
  cases isLatest : latest? ⟨kind, id⟩ records with
  | none =>
      rw [isLatest] at samePerm
      exact samePerm.eq_nil
  | some record =>
      rw [isLatest] at samePerm
      exact List.perm_singleton.mp samePerm

theorem exists_list_ofRecords (plain : ∀ record ∈ records, record.IsPlain)
    {kind : Kind} (notMigration : kind ≠ .migration) :
    ∃ page, (ofRecords records).list kind {} = .ok page ∧
      page.rows.Perm ((ofRecords records).records kind) := by
  have ofTable : ∀ {α : Type} {wrap : α → Record} {name : α → String}
      {rows : List α} (view : View α),
      (ofRecords records).IsTable kind wrap name view.restore rows →
      ∃ page, (view.list {} rows).map (Page.map wrap) = .ok page ∧
        page.rows.Perm ((ofRecords records).records kind) :=
    fun view table =>
      table.exists_list view (table.restore_eq plain notMigration)
  cases kind with
  | pod => exact ofTable Listing.pods (isTable_pods _)
  | node => exact ofTable Listing.nodes (isTable_nodes _)
  | vm => exact ofTable Listing.vms (isTable_vms _)
  | vmi => exact ofTable Listing.vmis (isTable_vmis _)
  | migration => exact (notMigration rfl).elim
  | pvc => exact ofTable Listing.pvcs (isTable_pvcs _)
  | subscription =>
      exact ofTable Listing.subscriptions (isTable_subscriptions _)
  | gather => exact ⟨_, rfl, (List.mergeSort_perm _ _).map Record.gather⟩

end Readers

/-- Every lookup in an empty database after records were stored one after the
other tells of the last of them. -/
theorem readsBack_ofRecords {records : List Record}
    (plain : ∀ record ∈ records, record.IsPlain) :
    ReadsBack records (ofRecords records) := by
  constructor
  case pod =>
    exact map_require_ofRecords plain (isTable_pods _) (by decide) "pod"
  case node =>
    exact map_require_ofRecords plain (isTable_nodes _) (by decide) "node"
  case vm =>
    exact map_require_ofRecords plain (isTable_vms _) (by decide)
      "virtual machine"
  case vmi =>
    exact map_require_ofRecords plain (isTable_vmis _) (by decide)
      "virtual machine instance"
  case listing =>
    intro kind notMigration
    obtain ⟨page, isPage, perm⟩ := exists_list_ofRecords plain notMigration
    refine ⟨page, isPage, ?_, filter_of_perm notMigration perm⟩
    intro row member
    exact kind_of_mem_records (perm.mem_iff.mp member)
  case imports =>
    intro name
    have perm : ((ofRecords records).imports.map Record.gather).Perm
        ((ofRecords records).records .gather) :=
      (List.mergeSort_perm _ _).map Record.gather
    rw [← filter_of_perm (by decide) perm name, List.filter_map]
    congr 1
    apply List.filter_congr
    intro gather _
    simp [Record.key]
  case content =>
    intro kind carries notMigration id
    exact content_ofRecords plain carries notMigration id
  case migrationContent => exact content_migration_ofRecords plain
  case contentKept =>
    intro record key content different found
    exact content_put_of_ne different found
  case contentUnchanged =>
    intro record key other
    exact content_put_of_not_mem other _
  case counts =>
    exact List.map_congr_left fun kind _ => by rw [count_ofRecords]

/-- A pod that was stored twice, and an instance that implies a migration. -/
theorem readsBack_of_repeated_pod :
    let early : Pod :=
      ⟨"pod-1", "Pod", "web", "shop", "Pending", 0, 1, "", ⟨5, 0⟩, "", none,
        .object [("spec", .array [.int 1])]⟩
    let vmi : VirtualMachineInstance :=
      ⟨"vmi-1", "fedora", "vms", "", "Running", "worker-1", ⟨5, 0⟩,
        some ⟨"mig-1", none, none, none, none, none, true, false⟩, .null⟩
    let late : Pod :=
      { early with
        phase := "Running"
        nodeName := "worker-1"
        content := .object [("spec", .array [.int 2])] }
    let records : List Record := [.pod early, .vmi vmi, .pod late]
    (∀ record ∈ records, record.IsPlain) ∧
      ((ofRecords records).getPod "pod-1").map Record.pod = .ok (.pod late) ∧
      ((ofRecords records).getNode "worker-1").map Record.node =
        .error (.notFound "node" "worker-1") ∧
      (ofRecords records).content .pod "pod-1" = .ok late.content ∧
      (ofRecords records).content .migration "mig-1" = .ok .null ∧
      (ofRecords records).counts =
        [(.pod, 1), (.node, 0), (.vm, 0), (.vmi, 1), (.migration, 1), (.pvc, 0),
          (.subscription, 0), (.gather, 0)] := by
  intro early vmi late records
  have plain : ∀ record ∈ records, record.IsPlain := by
    intro record member manifest carried
    simp only [records, List.mem_cons, List.not_mem_nil, or_false] at member
    rcases member with rfl | rfl | rfl <;> cases carried <;>
      exact ⟨rfl, by decide⟩
  have reads := readsBack_ofRecords plain
  exact ⟨plain, reads.pod "pod-1", reads.node "worker-1",
    reads.content .pod (by decide) (by decide) "pod-1",
    reads.migrationContent "mig-1", reads.counts⟩

end Database
end ClusterTrace
