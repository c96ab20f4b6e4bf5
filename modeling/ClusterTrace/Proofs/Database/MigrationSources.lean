import ClusterTrace.Proofs.Database.Rows

/-!
# The two sources of a migration

A migration is stored from its own manifest and from the status of an instance.
Both orders leave its identity as the manifest has it.  A column of its state
that only one of them knows keeps what that one says, in both orders; where they
contradict each other, the later one wins, `rows_of_both_orders_iff`.
-/

namespace ClusterTrace
namespace Database

/-- Values of two sources, as far as both are known, are the same. -/
def Compatible {α : Type} (first second : Option α) : Prop :=
  ∀ a ∈ first, ∀ b ∈ second, a = b

theorem newer_comm_iff {α : Type} (first second : Option α) :
    newer second first = newer first second ↔ Compatible first second := by
  cases first with
  | none => cases second <;> simp [newer, Compatible]
  | some a =>
      cases second with
      | none => simp [newer, Compatible]
      | some b => simp [newer, Compatible, eq_comm]

/-- What two sources know of the state of a migration does not differ. -/
structure StatesAgree (first second : Migration) : Prop where
  targetPod : Compatible first.targetPod second.targetPod
  sourceNode : Compatible first.sourceNode second.sourceNode
  targetNode : Compatible first.targetNode second.targetNode
  startTimestamp : Compatible first.startTimestamp second.startTimestamp
  endTimestamp : Compatible first.endTimestamp second.endTimestamp
  completed : Compatible first.completed second.completed
  failed : Compatible first.failed second.failed

/-- The rows that the two orders leave are the same exactly if no column of the
state differs. -/
theorem withState_eq_mergeManifest_iff (manifest implied : Migration) :
    withState manifest implied =
        mergeManifest (impliedRow implied) manifest ↔
      StatesAgree manifest implied := by
  simp only [withState, mergeManifest, impliedRow, Migration.mk.injEq, true_and,
    and_true, newer_comm_iff]
  constructor
  · rintro ⟨targetPod, sourceNode, targetNode, startTimestamp, endTimestamp,
      completed, failed⟩
    exact
      { targetPod, sourceNode, targetNode, startTimestamp, endTimestamp,
        completed, failed }
  · intro agree
    exact ⟨agree.targetPod, agree.sourceNode, agree.targetNode,
      agree.startTimestamp, agree.endTimestamp, agree.completed, agree.failed⟩

/-! ## The row of each order -/

theorem rowsAt_migration (database : Database) (uuid : String) :
    database.rowsAt ⟨.migration, uuid⟩ =
      (database.migrations.filter (·.uuid = uuid)).map .migration := by
  rw [rowsAt, records, List.filter_map]
  refine congrArg (List.map _) (List.filter_congr fun row _ => ?_)
  simp [Record.key]

theorem migrations_put_migration (manifest : Migration) (database : Database) :
    (database.put (.migration manifest)).migrations =
      mergeRow Migration.uuid mergeManifest manifest database.migrations :=
  rfl

/-- The manifest comes first: what the instance knows of the state goes over
it. -/
theorem rowsAt_put_migration_vmi {database : Database} (manifest : Migration)
    (vmi : VirtualMachineInstance) {implied : Migration}
    (absent : database.rowsAt ⟨.migration, manifest.uuid⟩ = [])
    (implies : vmi.derivedMigration? = some implied)
    (same : (impliedRow implied).uuid = manifest.uuid) :
    ((database.put (.migration manifest)).put (.vmi vmi)).rowsAt
        ⟨.migration, manifest.uuid⟩ =
      [.migration (withState manifest implied)] := by
  rw [rowsAt_migration, List.map_eq_nil_iff] at absent
  have stored : (database.put (.migration manifest)).migrations.filter
      (·.uuid = manifest.uuid) = [manifest] := by
    rw [migrations_put_migration, filter_mergeRow_self rfl (fun _ _ => rfl),
      absent]
  rw [rowsAt_migration, migrations_put_vmi, implies]
  simp only
  rw [filter_mergeRow_self same (fun _ equal => equal), stored]
  rfl

/-- The instance comes first: the manifest replaces the identity, and what it
knows of the state goes over what the instance implied. -/
theorem rowsAt_put_vmi_migration {database : Database} (manifest : Migration)
    (vmi : VirtualMachineInstance) {implied : Migration}
    (absent : database.rowsAt ⟨.migration, manifest.uuid⟩ = [])
    (implies : vmi.derivedMigration? = some implied)
    (same : (impliedRow implied).uuid = manifest.uuid) :
    ((database.put (.vmi vmi)).put (.migration manifest)).rowsAt
        ⟨.migration, manifest.uuid⟩ =
      [.migration (mergeManifest (impliedRow implied) manifest)] := by
  rw [rowsAt_migration, List.map_eq_nil_iff] at absent
  have stored : (database.put (.vmi vmi)).migrations.filter
      (·.uuid = manifest.uuid) = [impliedRow implied] := by
    rw [migrations_put_vmi, implies]
    simp only
    rw [filter_mergeRow_self same (fun _ equal => equal), absent]
  rw [rowsAt_migration, migrations_put_migration,
    filter_mergeRow_self rfl (fun _ _ => rfl), stored]
  rfl

/-- An instance that implies no migration may come first or last. -/
theorem rowsAt_put_comm_of_none {vmi : VirtualMachineInstance}
    (implies : vmi.derivedMigration? = none) (manifest : Migration)
    (database : Database) (uuid : String) :
    ((database.put (.migration manifest)).put (.vmi vmi)).rowsAt
        ⟨.migration, uuid⟩ =
      ((database.put (.vmi vmi)).put (.migration manifest)).rowsAt
        ⟨.migration, uuid⟩ := by
  have unchanged : ∀ before : Database,
      (before.put (.vmi vmi)).migrations = before.migrations := by
    intro before
    rw [migrations_put_vmi, implies]
  rw [rowsAt_migration, rowsAt_migration, unchanged, migrations_put_migration,
    migrations_put_migration, unchanged]

theorem uuid_of_derivedMigration? {vmi : VirtualMachineInstance}
    {state : MigrationState} {implied : Migration}
    (carries : vmi.migrationState = some state)
    (implies : vmi.derivedMigration? = some implied) :
    implied.uuid = state.migrationUid := by
  rw [VirtualMachineInstance.derivedMigration?, carries] at implies
  simp only at implies
  split at implies
  · cases implies
  · cases implies
    rfl

/-- A manifest and an instance that carries the state of its migration leave the
same row in both orders exactly if the instance implies no migration or one
whose state agrees with the manifest. -/
theorem rows_of_both_orders_iff {database : Database} (manifest : Migration)
    (vmi : VirtualMachineInstance) {state : MigrationState}
    (absent : database.rowsAt ⟨.migration, manifest.uuid⟩ = [])
    (carries : vmi.migrationState = some state)
    (same : state.migrationUid = manifest.uuid) :
    ((database.put (.migration manifest)).put (.vmi vmi)).rowsAt
        ⟨.migration, manifest.uuid⟩ =
      ((database.put (.vmi vmi)).put (.migration manifest)).rowsAt
        ⟨.migration, manifest.uuid⟩ ↔
    ∀ implied ∈ vmi.derivedMigration?, StatesAgree manifest implied := by
  cases implies : vmi.derivedMigration? with
  | none =>
      have equal := rowsAt_put_comm_of_none implies manifest database
        manifest.uuid
      refine iff_of_true equal ?_
      intro implied member
      cases member
  | some implied =>
      have sameUuid : implied.uuid = manifest.uuid :=
        (uuid_of_derivedMigration? carries implies).trans same
      rw [rowsAt_put_migration_vmi manifest vmi absent implies sameUuid,
        rowsAt_put_vmi_migration manifest vmi absent implies sameUuid]
      simp only [List.cons.injEq, and_true, Record.migration.injEq,
        withState_eq_mergeManifest_iff, Option.mem_def, Option.some.injEq,
        forall_eq']

/-- The instance knows less than the manifest, and the same as far as it
does. -/
theorem rows_of_partial_state :
    let manifest : Migration :=
      ⟨"mig-1", some "m", "vms", some "Succeeded", "fedora", none, some "pod-2",
        some "worker-1", some "worker-2", some ⟨10, 0⟩, some ⟨20, 0⟩, some true,
        some false, some .null⟩
    let vmi : VirtualMachineInstance :=
      ⟨"vmi-1", "fedora", "vms", "", "Running", "worker-2", ⟨5, 0⟩,
        some ⟨"mig-1", none, some "worker-1", some "worker-2", some ⟨10, 0⟩,
          none, true, false⟩, .null⟩
    ((({} : Database).put (.migration manifest)).put (.vmi vmi)).rowsAt
        ⟨.migration, "mig-1"⟩ =
      ((({} : Database).put (.vmi vmi)).put (.migration manifest)).rowsAt
        ⟨.migration, "mig-1"⟩ := by
  intro manifest vmi
  refine (rows_of_both_orders_iff manifest vmi rfl rfl rfl).mpr ?_
  intro implied member
  cases member
  constructor <;> simp [Compatible, manifest]

/-- A manifest that was taken while the migration went on, and the instance
after it. -/
theorem rows_of_earlier_manifest :
    ∃ (manifest : Migration) (vmi : VirtualMachineInstance)
      (state : MigrationState),
      ({} : Database).rowsAt ⟨.migration, manifest.uuid⟩ = [] ∧
      vmi.migrationState = some state ∧ state.migrationUid = manifest.uuid ∧
      ((({} : Database).put (.migration manifest)).put (.vmi vmi)).rowsAt
          ⟨.migration, manifest.uuid⟩ ≠
        ((({} : Database).put (.vmi vmi)).put (.migration manifest)).rowsAt
          ⟨.migration, manifest.uuid⟩ := by
  let manifest : Migration :=
    ⟨"mig-1", some "m", "vms", some "Running", "fedora", some ⟨1709280840, 0⟩,
      some "tp", some "node-a", some "node-b", some ⟨1709280900, 0⟩, none,
      some false, some false, some (.object [("k", .string "mig")])⟩
  let vmi : VirtualMachineInstance :=
    ⟨"vmi-1", "fedora", "vms", "", "Running", "node-b", ⟨1709280000, 0⟩,
      some ⟨"mig-1", some "tp", some "node-a", some "node-b",
        some ⟨1709280900, 0⟩, some ⟨1709280960, 0⟩, true, false⟩, .object []⟩
  refine ⟨manifest, vmi, _, rfl, rfl, rfl, ?_⟩
  rw [rowsAt_put_migration_vmi manifest vmi rfl rfl rfl,
    rowsAt_put_vmi_migration manifest vmi rfl rfl rfl]
  intro equal
  have agree := (withState_eq_mergeManifest_iff manifest _).mp
    (by simpa using equal)
  exact Bool.false_ne_true (agree.completed false rfl true rfl)

end Database
end ClusterTrace
