import ClusterTrace.Proofs.Database.MigrationSources
import Mathlib.Data.List.Induction

/-!
# What a row of a migration is made of

A row of a migration collects what manifests and instances tell of it over any
number of writes.  Each column of its state has the last value that was told,
its identity is that of the last manifest, and its owner is that of the last
manifest or else of the first instance, `migrations_ofRecords`.
-/

namespace ClusterTrace

/-- A column of the state of a migration. -/
inductive StateColumn where
  | targetPod
  | sourceNode
  | targetNode
  | startTimestamp
  | endTimestamp
  | completed
  | failed

namespace StateColumn

/-- What a column holds if it is known. -/
abbrev Value : StateColumn → Type
  | targetPod => String
  | sourceNode => String
  | targetNode => String
  | startTimestamp => Time.Instant
  | endTimestamp => Time.Instant
  | completed => Bool
  | failed => Bool

/-- The column in a row or a manifest. -/
def ofMigration : (column : StateColumn) → Migration → Option column.Value
  | targetPod, migration => migration.targetPod
  | sourceNode, migration => migration.sourceNode
  | targetNode, migration => migration.targetNode
  | startTimestamp, migration => migration.startTimestamp
  | endTimestamp, migration => migration.endTimestamp
  | completed, migration => migration.completed
  | failed, migration => migration.failed

/-- The column in the status of an instance, which always tells whether the
migration is completed and whether it failed. -/
def ofState : (column : StateColumn) → MigrationState → Option column.Value
  | targetPod, state => state.targetPod
  | sourceNode, state => state.sourceNode
  | targetNode, state => state.targetNode
  | startTimestamp, state => state.startTimestamp
  | endTimestamp, state => state.endTimestamp
  | completed, state => some state.completed
  | failed, state => some state.failed

end StateColumn

/-- The state of a migration in the status of an instance that names it.  The
empty name stands for no migration. -/
def VirtualMachineInstance.stateOf? (uuid : String)
    (vmi : VirtualMachineInstance) : Option MigrationState :=
  vmi.migrationState.filter fun state =>
    state.migrationUid = uuid && uuid ≠ ""

namespace Database

/-- Stores records one after the other. -/
def putAll (records : List Record) (database : Database) : Database :=
  records.foldl (fun database record => database.put record) database

/-- The database that records leave when they are stored one after the other. -/
def ofRecords (records : List Record) : Database :=
  putAll records {}

/-- The manifests of a migration among records. -/
def manifestsOf (uuid : String) (records : List Record) : List Migration :=
  records.filterMap fun
    | .migration manifest =>
        if manifest.uuid = uuid then some manifest else none
    | _ => none

/-- The instances among records whose status names a migration. -/
def instancesOf (uuid : String) (records : List Record) :
    List VirtualMachineInstance :=
  records.filterMap fun
    | .vmi vmi => if (vmi.stateOf? uuid).isSome then some vmi else none
    | _ => none

/-- What a record tells of a column of a migration. -/
def told (column : StateColumn) (uuid : String) :
    Record → Option column.Value
  | .migration manifest =>
      if manifest.uuid = uuid then column.ofMigration manifest else none
  | .vmi vmi => (vmi.stateOf? uuid).bind column.ofState
  | _ => none

/-- The last value that records tell of a column of a migration. -/
def lastTold (column : StateColumn) (uuid : String) (records : List Record) :
    Option column.Value :=
  (records.filterMap (told column uuid)).getLast?

/-- The namespace and the instance of a migration: as the last manifest has
them, or else the first instance. -/
def ownerOf? (uuid : String) (records : List Record) :
    Option (String × String) :=
  match (manifestsOf uuid records).getLast? with
  | some manifest => some (manifest.namespaceName, manifest.vmiName)
  | none =>
      (instancesOf uuid records).head?.map fun vmi =>
        (vmi.namespaceName, vmi.name)

/-- What records tell of a migration, if they tell of it. -/
def toldRow? (uuid : String) (records : List Record) : Option Migration :=
  let manifest := (manifestsOf uuid records).getLast?
  (ownerOf? uuid records).map fun (namespaceName, vmiName) =>
    { uuid := uuid
      name := manifest.bind (·.name)
      namespaceName := namespaceName
      phase := manifest.bind (·.phase)
      vmiName := vmiName
      creationTime := manifest.bind (·.creationTime)
      targetPod := lastTold .targetPod uuid records
      sourceNode := lastTold .sourceNode uuid records
      targetNode := lastTold .targetNode uuid records
      startTimestamp := lastTold .startTimestamp uuid records
      endTimestamp := lastTold .endTimestamp uuid records
      completed := lastTold .completed uuid records
      failed := lastTold .failed uuid records
      content := manifest.bind (·.content) }

/-! ## One record more -/

theorem putAll_concat (records : List Record) (record : Record)
    (database : Database) :
    database.putAll (records ++ [record]) =
      (database.putAll records).put record := by
  rw [putAll, List.foldl_append]
  rfl

theorem ofRecords_concat (records : List Record) (record : Record) :
    ofRecords (records ++ [record]) = (ofRecords records).put record :=
  putAll_concat records record {}

theorem lastTold_concat (column : StateColumn) (uuid : String)
    (records : List Record) (record : Record) :
    lastTold column uuid (records ++ [record]) =
      newer (told column uuid record) (lastTold column uuid records) := by
  rw [lastTold, List.filterMap_append, List.filterMap_cons]
  cases told column uuid record with
  | none => simp [newer, lastTold]
  | some value => simp [newer]

theorem manifestsOf_concat (uuid : String) (records : List Record)
    (record : Record) :
    manifestsOf uuid (records ++ [record]) =
      manifestsOf uuid records ++ manifestsOf uuid [record] :=
  List.filterMap_append

theorem instancesOf_concat (uuid : String) (records : List Record)
    (record : Record) :
    instancesOf uuid (records ++ [record]) =
      instancesOf uuid records ++ instancesOf uuid [record] :=
  List.filterMap_append

/-- A manifest is the last one, and owns the migration. -/
theorem ownerOf?_concat_manifest {uuid : String} {records : List Record}
    {record : Record} {manifest : Migration}
    (isManifest : manifestsOf uuid [record] = [manifest]) :
    ownerOf? uuid (records ++ [record]) =
      some (manifest.namespaceName, manifest.vmiName) := by
  rw [ownerOf?, manifestsOf_concat, isManifest, List.getLast?_concat]

/-- A record that is no manifest leaves an owner that is known. -/
theorem ownerOf?_concat_of_some {uuid : String} {records : List Record}
    {record : Record} (noManifest : manifestsOf uuid [record] = [])
    {owner : String × String} (known : ownerOf? uuid records = some owner) :
    ownerOf? uuid (records ++ [record]) = some owner := by
  rw [ownerOf?, manifestsOf_concat, noManifest, List.append_nil,
    instancesOf_concat]
  rw [ownerOf?] at known
  cases last : (manifestsOf uuid records).getLast? with
  | some manifest =>
      rw [last] at known
      exact known
  | none =>
      rw [last] at known
      simp only [Option.map_eq_some_iff] at known ⊢
      obtain ⟨vmi, first, isOwner⟩ := known
      exact ⟨vmi, by rw [List.head?_append, first]; rfl, isOwner⟩

theorem ownerOf?_eq_none_iff {uuid : String} {records : List Record} :
    ownerOf? uuid records = none ↔
      manifestsOf uuid records = [] ∧ instancesOf uuid records = [] := by
  rw [ownerOf?]
  cases last : (manifestsOf uuid records).getLast? with
  | some manifest =>
      have something : manifestsOf uuid records ≠ [] := by
        intro nothing
        rw [nothing] at last
        cases last
      simp [something]
  | none => simp [List.getLast?_eq_none_iff.mp last]

/-- Where no owner is known nothing was told. -/
theorem lastTold_of_ownerOf?_eq_none {uuid : String} {records : List Record}
    (nothing : ownerOf? uuid records = none) (column : StateColumn) :
    lastTold column uuid records = none := by
  obtain ⟨noManifest, noInstance⟩ := ownerOf?_eq_none_iff.mp nothing
  have silent : ∀ record ∈ records, told column uuid record = none := by
    intro record member
    have notManifest := List.filterMap_eq_nil_iff.mp noManifest record member
    have notInstance := List.filterMap_eq_nil_iff.mp noInstance record member
    cases record with
    | migration manifest =>
        by_cases same : manifest.uuid = uuid
        · simp [same] at notManifest
        · exact if_neg same
    | vmi vmi =>
        cases state : vmi.stateOf? uuid with
        | none => simp [told, state]
        | some known => simp [state] at notInstance
    | _ => rfl
  rw [lastTold, List.filterMap_eq_nil_iff.mpr silent]
  rfl

/-! ## What the records of a migration leave of its row -/

/-- A record that tells nothing of a migration. -/
structure Silent (uuid : String) (record : Record) : Prop where
  manifests : manifestsOf uuid [record] = []
  instances : instancesOf uuid [record] = []

theorem Silent.toldRow?_concat {uuid : String} {record : Record}
    (silent : Silent uuid record) (records : List Record) :
    toldRow? uuid (records ++ [record]) = toldRow? uuid records := by
  have manifests : manifestsOf uuid (records ++ [record]) =
      manifestsOf uuid records := by
    rw [manifestsOf_concat, silent.manifests, List.append_nil]
  have instances : instancesOf uuid (records ++ [record]) =
      instancesOf uuid records := by
    rw [instancesOf_concat, silent.instances, List.append_nil]
  have columns : ∀ column, lastTold column uuid (records ++ [record]) =
      lastTold column uuid records := by
    intro column
    have nothing := lastTold_of_ownerOf?_eq_none
      (ownerOf?_eq_none_iff.mpr ⟨silent.manifests, silent.instances⟩) column
    rw [← List.nil_append [record], lastTold_concat] at nothing
    rw [lastTold_concat]
    cases isTold : told column uuid record with
    | none => rfl
    | some value =>
        rw [isTold] at nothing
        cases nothing
  rw [toldRow?, toldRow?, ownerOf?, ownerOf?, manifests, instances]
  simp only [columns]

theorem newer_none {α : Type} (new : Option α) : newer new none = new := by
  cases new <;> rfl

theorem toldRow?_concat_manifest (manifest : Migration)
    (records : List Record) :
    toldRow? manifest.uuid (records ++ [.migration manifest]) =
      some (match toldRow? manifest.uuid records with
        | none => manifest
        | some old => mergeManifest old manifest) := by
  have isManifest :
      manifestsOf manifest.uuid [.migration manifest] = [manifest] := by
    simp [manifestsOf]
  have isTold : ∀ column,
      told column manifest.uuid (.migration manifest) =
        column.ofMigration manifest := fun _ => if_pos rfl
  rw [toldRow?, ownerOf?_concat_manifest isManifest, manifestsOf_concat,
    isManifest, List.getLast?_concat]
  simp only [lastTold_concat, isTold, Option.map_some, Option.bind_some,
    Option.some.injEq]
  cases owner : ownerOf? manifest.uuid records with
  | none =>
      simp only [toldRow?, owner, Option.map_none,
        lastTold_of_ownerOf?_eq_none owner, newer_none]
      rfl
  | some names => simp only [toldRow?, owner, Option.map_some]; rfl

/-- What an instance implies of the migration that its status names. -/
structure Implies (vmi : VirtualMachineInstance) (state : MigrationState)
    (implied : Migration) : Prop where
  derived : vmi.derivedMigration? = some implied
  uuid : implied.uuid = state.migrationUid
  namespaceName : implied.namespaceName = vmi.namespaceName
  vmiName : implied.vmiName = vmi.name
  columns : ∀ column : StateColumn,
    column.ofMigration implied = column.ofState state

theorem migrationUid_of_stateOf? {uuid : String}
    {vmi : VirtualMachineInstance} {state : MigrationState}
    (names : vmi.stateOf? uuid = some state) : state.migrationUid = uuid := by
  have same := (Option.filter_eq_some_iff.mp names).2
  simp only [Bool.and_eq_true, decide_eq_true_eq] at same
  exact same.1

theorem exists_implies_of_stateOf? {uuid : String}
    {vmi : VirtualMachineInstance} {state : MigrationState}
    (names : vmi.stateOf? uuid = some state) :
    ∃ implied, Implies vmi state implied := by
  obtain ⟨carries, same⟩ := Option.filter_eq_some_iff.mp names
  simp only [Bool.and_eq_true, decide_eq_true_eq] at same
  have isNamed : ¬ state.migrationUid.isEmpty = true := by
    simpa [same.1] using same.2
  cases derived : vmi.derivedMigration? with
  | none =>
      rw [VirtualMachineInstance.derivedMigration?, carries] at derived
      simp [isNamed] at derived
  | some implied =>
      refine ⟨implied, ?_⟩
      have isImplied := derived
      rw [VirtualMachineInstance.derivedMigration?, carries] at isImplied
      simp only [if_neg isNamed, Option.some.injEq] at isImplied
      subst implied
      refine ⟨derived, rfl, rfl, rfl, ?_⟩
      intro column
      cases column <;> rfl

theorem uuid_ne_of_stateOf?_eq_none {uuid : String}
    {vmi : VirtualMachineInstance} (other : vmi.stateOf? uuid = none)
    {implied : Migration} (implies : vmi.derivedMigration? = some implied) :
    uuid ≠ implied.uuid := by
  rintro rfl
  rw [VirtualMachineInstance.derivedMigration?] at implies
  cases carries : vmi.migrationState with
  | none =>
      rw [carries] at implies
      cases implies
  | some state =>
      rw [carries] at implies
      simp only at implies
      split at implies
      · cases implies
      · rename_i notEmpty
        cases implies
        simp [VirtualMachineInstance.stateOf?, carries] at other
        exact notEmpty (by simp [other])

theorem toldRow?_concat_instance {vmi : VirtualMachineInstance}
    {state : MigrationState} {implied : Migration}
    (implies : Implies vmi state implied)
    (names : vmi.stateOf? implied.uuid = some state) (records : List Record) :
    toldRow? implied.uuid (records ++ [.vmi vmi]) =
      some (match toldRow? implied.uuid records with
        | none => impliedRow implied
        | some old => withState old (impliedRow implied)) := by
  have noManifest : manifestsOf implied.uuid [.vmi vmi] = [] := rfl
  have isTold : ∀ column, told column implied.uuid (.vmi vmi) =
      column.ofMigration implied := by
    intro column
    rw [told, names, implies.columns]
    rfl
  cases owner : ownerOf? implied.uuid records with
  | none =>
      obtain ⟨noManifests, noInstances⟩ := ownerOf?_eq_none_iff.mp owner
      have isOwner : ownerOf? implied.uuid (records ++ [.vmi vmi]) =
          some (implied.namespaceName, implied.vmiName) := by
        rw [ownerOf?, manifestsOf_concat, instancesOf_concat, noManifests,
          noInstances, implies.namespaceName, implies.vmiName]
        simp [manifestsOf, instancesOf, names]
      simp only [toldRow?, isOwner, owner, Option.map_some, Option.map_none,
        lastTold_concat, lastTold_of_ownerOf?_eq_none owner, newer_none, isTold,
        manifestsOf_concat, noManifest, noManifests, List.append_nil,
        List.getLast?_nil, Option.bind_none]
      rfl
  | some names =>
      simp only [toldRow?, ownerOf?_concat_of_some noManifest owner, owner,
        Option.map_some, lastTold_concat, isTold, manifestsOf_concat,
        noManifest, List.append_nil]
      rfl

/-- The rows of a migration in a database. -/
def rowsOf (uuid : String) (database : Database) : List Migration :=
  database.migrations.filter fun row => row.uuid = uuid

/-- Every row holds what the records that were stored tell of its migration. -/
theorem rowsOf_ofRecords (uuid : String) (records : List Record) :
    rowsOf uuid (ofRecords records) = (toldRow? uuid records).toList := by
  induction records using List.reverseRecOn with
  | nil => rfl
  | append_singleton records record ih =>
      rw [ofRecords_concat]
      cases record with
      | migration manifest =>
          by_cases same : manifest.uuid = uuid
          · subst uuid
            rw [toldRow?_concat_manifest, rowsOf, migrations_put_migration,
              filter_mergeRow_self rfl (fun _ _ => rfl)]
            rw [rowsOf] at ih
            rw [ih]
            cases toldRow? manifest.uuid records <;> rfl
          · have silent : Silent uuid (.migration manifest) :=
              ⟨by simp [manifestsOf, same], rfl⟩
            rw [silent.toldRow?_concat, ← ih, rowsOf, migrations_put_migration,
              filter_mergeRow_of_ne (fun _ _ => rfl) (Ne.symm same)]
            rfl
      | vmi vmi =>
          cases names : vmi.stateOf? uuid with
          | some state =>
              obtain ⟨implied, implies⟩ := exists_implies_of_stateOf? names
              have same : implied.uuid = uuid :=
                implies.uuid.trans (migrationUid_of_stateOf? names)
              subst uuid
              have isKey : (impliedRow implied).uuid = implied.uuid := rfl
              rw [toldRow?_concat_instance implies names, rowsOf,
                migrations_put_vmi, implies.derived]
              simp only
              rw [filter_mergeRow_self isKey (fun _ same => same)]
              rw [rowsOf] at ih
              rw [ih]
              cases toldRow? implied.uuid records <;> rfl
          | none =>
              have silent : Silent uuid (.vmi vmi) :=
                ⟨rfl, by simp [instancesOf, names]⟩
              rw [silent.toldRow?_concat, ← ih, rowsOf, migrations_put_vmi]
              cases implied : vmi.derivedMigration? with
              | none => rfl
              | some other =>
                  have different := uuid_ne_of_stateOf?_eq_none names implied
                  have isKey : (impliedRow other).uuid = other.uuid := rfl
                  rw [← isKey] at different
                  simp only
                  rw [filter_mergeRow_of_ne (fun _ same => same) different]
                  rfl
      | _ row =>
          refine Eq.trans ih ?_
          refine congrArg Option.toList (Silent.toldRow?_concat ?_ records).symm
          exact ⟨rfl, rfl⟩

theorem lastTold_isSome_append {column : StateColumn} {uuid : String}
    {records : List Record}
    (known : (lastTold column uuid records).isSome) (later : List Record) :
    (lastTold column uuid (records ++ later)).isSome := by
  rw [lastTold] at known
  rw [lastTold, List.filterMap_append, List.getLast?_append, Option.isSome_or,
    known, Bool.or_true]

theorem ofMigration_of_toldRow? {uuid : String} {records : List Record}
    {row : Migration} (isTold : toldRow? uuid records = some row)
    (column : StateColumn) :
    column.ofMigration row = lastTold column uuid records := by
  rw [toldRow?, Option.map_eq_some_iff] at isTold
  obtain ⟨owner, _, rfl⟩ := isTold
  cases column <;> rfl

theorem ownerOf?_eq_none_of_append {uuid : String}
    {records later : List Record}
    (nothing : ownerOf? uuid (records ++ later) = none) :
    ownerOf? uuid records = none := by
  rw [ownerOf?_eq_none_iff] at nothing ⊢
  rw [manifestsOf, instancesOf, List.filterMap_append, List.filterMap_append,
    List.append_eq_nil_iff, List.append_eq_nil_iff] at nothing
  exact ⟨nothing.1.1, nothing.2.1⟩

/-- A migration of which nothing was stored has no row, and any other one has
exactly the row that was told of it.  A column of its state that is known stays
known. -/
theorem migrations_ofRecords (uuid : String) (records : List Record) :
    (rowsOf uuid (ofRecords records) = [] ↔
      manifestsOf uuid records = [] ∧ instancesOf uuid records = []) ∧
    rowsOf uuid (ofRecords records) = (toldRow? uuid records).toList ∧
    ∀ (later : List Record) (column : StateColumn),
      ∀ row ∈ rowsOf uuid (ofRecords records),
        (column.ofMigration row).isSome →
        ∃ after, rowsOf uuid (ofRecords (records ++ later)) = [after] ∧
          (column.ofMigration after).isSome := by
  have rows := rowsOf_ofRecords uuid records
  refine ⟨?_, rows, ?_⟩
  · rw [rows, ← ownerOf?_eq_none_iff, Option.toList_eq_nil_iff, toldRow?,
      Option.map_eq_none_iff]
  · intro later column row member known
    rw [rows, Option.mem_toList] at member
    cases told : toldRow? uuid (records ++ later) with
    | none =>
        rw [toldRow?, Option.map_eq_none_iff] at told
        have nothing := ownerOf?_eq_none_of_append told
        simp [toldRow?, nothing] at member
    | some after =>
        refine ⟨after, by rw [rowsOf_ofRecords, told]; rfl, ?_⟩
        rw [ofMigration_of_toldRow? member] at known
        rw [ofMigration_of_toldRow? told]
        exact lastTold_isSome_append known later

/-- An instance, the manifest and the instance again, which by then knows less
of the pod and more of the end. -/
theorem migration_of_interleaved_writes :
    let early : VirtualMachineInstance :=
      ⟨"vmi-1", "fedora", "vms", "", "Running", "worker-1", ⟨5, 0⟩,
        some ⟨"mig-1", some "pod-2", none, none, some ⟨10, 0⟩, none, false,
          false⟩, .null⟩
    let manifest : Migration :=
      ⟨"mig-1", some "m", "vms", some "Running", "fedora", none, none,
        some "worker-1", none, none, none, none, some false, some .null⟩
    let late : VirtualMachineInstance :=
      ⟨"vmi-1", "renamed", "vms", "", "Running", "worker-2", ⟨5, 0⟩,
        some ⟨"mig-1", none, none, some "worker-2", some ⟨10, 0⟩,
          some ⟨20, 0⟩, true, false⟩, .null⟩
    let records : List Record := [.vmi early, .migration manifest, .vmi late]
    let row : Migration :=
      ⟨"mig-1", some "m", "vms", some "Running", "fedora", none, some "pod-2",
        some "worker-1", some "worker-2", some ⟨10, 0⟩, some ⟨20, 0⟩, some true,
        some false, some .null⟩
    rowsOf "mig-1" (ofRecords records) = [row] ∧
    ∀ later, ∃ after,
      rowsOf "mig-1" (ofRecords (records ++ later)) = [after] ∧
        after.endTimestamp.isSome := by
  intro early manifest late records row
  obtain ⟨_, rows, stays⟩ := migrations_ofRecords "mig-1" records
  have isRow : rowsOf "mig-1" (ofRecords records) = [row] := rows
  refine ⟨isRow, fun later => ?_⟩
  refine stays later .endTimestamp row ?_ rfl
  rw [isRow]
  exact List.mem_singleton_self row

end Database
end ClusterTrace
