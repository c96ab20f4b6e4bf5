import ClusterTrace.Proofs.Correlation.QueryAgreement

/-!
# Later instances of a name

A migration names its instance, and a query takes the newest instance of that
name.  An instance that is created after a migration has started is not the one
that migrated.  Storing it leaves an answer for the migration as it is, unless
it becomes the newest instance of the name: then the source is looked for among
the pods of that instance, of which none was created in time,
`ofMigration_putInstance`.
-/

namespace ClusterTrace

open Time (Instant)

namespace Database

/-- A row at the end is the newest one only if its time is greater. -/
theorem newest?_concat {α : Type} {time : α → Instant} {rows : List α} {row : α}
    (found : newest? time rows = some row) (last : α) :
    newest? time (rows ++ [last]) =
      if (time row).columnText < (time last).columnText then some last
      else some row := by
  have newest := newest?_eq_some_iff_isFirstLeast.mp found
  split
  · rename_i less
    rw [newest?_eq_some_iff_isFirstLeast]
    refine ⟨rows, [], rfl, fun other member => ?_, by simp⟩
    exact lt_of_lt_of_le (OrderDual.toDual_lt_toDual.mpr less)
      (newest.le member)
  · rename_i notLess
    obtain ⟨before, after, rfl, others, notGreater⟩ := newest
    rw [newest?_eq_some_iff_isFirstLeast]
    refine ⟨before, after ++ [last], by simp, others, ?_⟩
    intro other member
    rcases List.mem_append.mp member with earlier | isLast
    · exact notGreater other earlier
    · rw [List.mem_singleton.mp isLast, OrderDual.toDual_le_toDual]
      exact not_lt.mp notLess

/-- An instance of a new key that tells of no migration is one more row. -/
theorem put_instance_of_not_mem {database : Database}
    {vmi : VirtualMachineInstance}
    (fresh : ∀ other ∈ database.vmis, other.uuid ≠ vmi.uuid)
    (stateless : vmi.migrationState = none) :
    database.put (.vmi vmi) =
      { database with vmis := database.vmis ++ [vmi] } := by
  have silent : vmi.derivedMigration? = none := by
    rw [VirtualMachineInstance.derivedMigration?, stateless]
  have absent : vmi.uuid ∉ database.vmis.map (·.uuid) := by
    intro member
    obtain ⟨other, isRow, same⟩ := List.mem_map.mp member
    exact fresh other isRow same
  rw [put, putInstance, silent, putRow, mergeRow_of_not_mem absent]

end Database

namespace Correlation

open Database (newest? instanceRow? restore?)

variable {database : Database} {migration : Migration} {started : Instant}
  {vmi later : VirtualMachineInstance} {answer : Answer}

/-! ## What is told of an instance -/

/-- What a query for a migration tells when its instance is found. -/
def ofMigrated (database : Database) (migration : Migration)
    (started : Instant) (vmi : VirtualMachineInstance) : Outcome Answer := do
  let target ← orMissing .target (← targetPod? database migration)
  let sourceNode ← orMissing .source migration.sourceNode
  let candidates ← database.podsCreatedBy vmi.uuid (some sourceNode)
  let source ← orMissing .source
    (sourceLauncher? candidates vmi.uuid sourceNode vmi.creationTime started)
  let sourceHandler ← orMissing .sourceHandler
    (← handlerAt database sourceNode started)
  let targetNode := migration.targetNode.getD target.nodeName
  let targetHandler ← orMissing .targetHandler
    (← handlerAt database targetNode started)
  let launchers ← database.podsCreatedBy vmi.uuid none
  let pvcs ← claimUuids database launchers vmi.namespaceName
  return { namespaceName := migration.namespaceName
           sourcePodUuid := source.uuid
           targetPodUuid := target.uuid
           vmiUuid := vmi.uuid
           migrationUuid := migration.uuid
           sourcePod := source.name
           targetPod := target.name
           startTimestamp := some (windowStart started)
           endTimestamp := migration.endTimestamp
           sourceHandler := sourceHandler.name
           targetHandler := targetHandler.name
           pvcs := pvcs }

theorem ofMigration_eq {uuid : String}
    (found : database.getMigration uuid = .ok migration)
    (hasStarted : migration.startTimestamp = some started) :
    ofMigration database uuid = (do
      let vmi ← orMissing .vmi
        (← database.findInstance migration.vmiName migration.namespaceName)
      ofMigrated database migration started vmi) := by
  rw [ofMigration, found]
  change (orMissing .migrationStart migration.startTimestamp >>= _) = _
  rw [hasStarted]
  rfl

theorem bind_eq_ok {α β : Type} {outcome : Outcome α} {next : α → Outcome β}
    {result : β} (given : outcome >>= next = .ok result) :
    ∃ value, outcome = .ok value ∧ next value = .ok result := by
  cases outcome with
  | error failure => cases given
  | ok value => exact ⟨value, rfl, given⟩

/-- The target of a migration and the node of its source are found before its
source is. -/
structure HasEnds (database : Database) (migration : Migration)
    (target : Pod) (node : String) : Prop where
  target : targetPod? database migration = .ok (some target)
  sourceNode : migration.sourceNode = some node

theorem exists_ends_of_ofMigrated
    (answers : ofMigrated database migration started vmi = .ok answer) :
    vmi.creationTime ≤ started ∧
      ∃ target node, HasEnds database migration target node := by
  obtain ⟨target?, isTarget, answers⟩ := bind_eq_ok answers
  obtain ⟨target, isSome, answers⟩ := orMissing_bind_eq_ok answers
  obtain ⟨node, sourceNode, answers⟩ := orMissing_bind_eq_ok answers
  obtain ⟨candidates, -, answers⟩ := bind_eq_ok answers
  obtain ⟨source, isSource, -⟩ := orMissing_bind_eq_ok answers
  have candidate := (sourceLauncher?_isSource isSource).candidate
  rw [isSome] at isTarget
  exact ⟨candidate.created.trans candidate.started, target, node, isTarget,
    sourceNode⟩

/-- No pod of an instance is the source of a migration that started before the
instance was created. -/
theorem tells_ofMigrated_of_late {target : Pod} {node : String}
    (ends : HasEnds database migration target node)
    (late : started < vmi.creationTime) :
    database.Tells (ofMigrated database migration started vmi)
      (.error (.incomplete .source)) := by
  have noSource : ∀ candidates : List Pod, sourceLauncher? candidates vmi.uuid
      node vmi.creationTime started = none := by
    intro candidates
    rw [sourceLauncher?_eq_none_iff]
    intro pod _ candidate
    exact absurd (candidate.created.trans candidate.started) (not_le.mpr late)
  simp only [ofMigrated, ends.target, ends.sourceNode]
  refine (Database.tells_podsCreatedBy database vmi.uuid (some node)).andThen ?_
  rw [noSource]
  exact Database.tells_self _

/-! ## Another instance -/

/-- The instance becomes the newest one of the name that a migration gives: its
time is greater as a text. -/
structure Supersedes (database : Database) (migration : Migration)
    (later : VirtualMachineInstance) : Prop where
  name : later.name = migration.vmiName
  namespaceName : later.namespaceName = migration.namespaceName
  newest : ∀ vmi ∈ instancesOf database migration,
    vmi.creationTime.columnText < later.creationTime.columnText

theorem instancesOf_concat (database : Database) (migration : Migration)
    (later : VirtualMachineInstance) :
    instancesOf { database with vmis := database.vmis ++ [later] } migration =
      if later.name = migration.vmiName ∧
        later.namespaceName = migration.namespaceName
      then instancesOf database migration ++ [later]
      else instancesOf database migration := by
  rw [instancesOf, instancesOf, List.filter_append]
  split
  · rename_i same
    simp [same]
  · rename_i different
    simpa using different

theorem newest_instance_concat
    (newest : newest? (·.creationTime) (instancesOf database migration) =
      some vmi) (later : VirtualMachineInstance) :
    newest? (·.creationTime)
        (instancesOf { database with vmis := database.vmis ++ [later] }
          migration) = some later ∧ Supersedes database migration later ∨
      newest? (·.creationTime)
        (instancesOf { database with vmis := database.vmis ++ [later] }
          migration) = some vmi ∧ ¬ Supersedes database migration later := by
  have isFirst := Database.newest?_eq_some_iff_isFirstLeast.mp newest
  rw [instancesOf_concat]
  split
  · rename_i same
    rw [Database.newest?_concat newest]
    split
    · rename_i less
      left
      refine ⟨rfl, same.1, same.2, fun other member => ?_⟩
      exact (OrderDual.toDual_le_toDual.mp (isFirst.le member)).trans_lt less
    · rename_i notLess
      exact Or.inr ⟨rfl, fun supersedes =>
        notLess (supersedes.newest vmi isFirst.mem)⟩
  · rename_i different
    exact Or.inr ⟨newest, fun supersedes =>
      different ⟨supersedes.name, supersedes.namespaceName⟩⟩

/-- In years of four digits, an instance that is created later supersedes those
of its name. -/
theorem supersedes_iff (dated : database.IsDated)
    (plain : later.creationTime.IsPlain)
    (newest : newest? (·.creationTime) (instancesOf database migration) =
      some vmi) (older : vmi.creationTime < later.creationTime) :
    Supersedes database migration later ↔
      later.name = migration.vmiName ∧
        later.namespaceName = migration.namespaceName := by
  constructor
  · intro supersedes
    exact ⟨supersedes.name, supersedes.namespaceName⟩
  · rintro ⟨name, namespaceName⟩
    refine ⟨name, namespaceName, fun other member => ?_⟩
    have isFirst := Database.newest?_eq_some_iff_isFirstLeast.mp newest
    have isDated := dated.vmis vmi (List.mem_of_mem_filter isFirst.mem)
    exact (OrderDual.toDual_le_toDual.mp (isFirst.le member)).trans_lt
      ((isDated.columnText_lt_iff plain).mpr older)

theorem creationTime_of_restore {row : VirtualMachineInstance}
    (restored : row.restore = .ok vmi) :
    vmi.creationTime = row.creationTime := by
  rw [VirtualMachineInstance.restore] at restored
  cases content : restoreContent row.content with
  | error failure =>
      rw [content] at restored
      cases restored
  | ok value =>
      rw [content] at restored
      cases restored
      rfl

theorem findInstance_of_newest {row : VirtualMachineInstance}
    (newest : newest? (·.creationTime) (instancesOf database migration) =
      some row) :
    database.findInstance migration.vmiName migration.namespaceName =
      row.restore.map some := by
  change restore? _ (newest? _ (instancesOf database migration)) = _
  rw [newest]
  rfl

/-- The row of the instance that an answer for a migration tells of. -/
theorem exists_row_of_ofMigration {uuid : String}
    (found : database.getMigration uuid = .ok migration)
    (hasStarted : migration.startTimestamp = some started)
    (answers : ofMigration database uuid = .ok answer) :
    ∃ row vmi,
      newest? (·.creationTime) (instancesOf database migration) = some row ∧
      row.restore = .ok vmi ∧
      ofMigrated database migration started vmi = .ok answer := by
  rw [ofMigration_eq found hasStarted] at answers
  obtain ⟨vmi?, isFound, answers⟩ := bind_eq_ok answers
  obtain ⟨vmi, isSome, answers⟩ := orMissing_bind_eq_ok answers
  rw [isSome] at isFound
  cases newest : newest? (·.creationTime) (instancesOf database migration) with
  | none =>
      change restore? _ (newest? _ (instancesOf database migration)) = _
        at isFound
      rw [newest] at isFound
      cases isFound
  | some row =>
      rw [findInstance_of_newest newest] at isFound
      cases restored : row.restore with
      | error failure =>
          rw [restored] at isFound
          cases isFound
      | ok value =>
          rw [restored] at isFound
          cases isFound
          exact ⟨row, vmi, rfl, restored, answers⟩

/-- An instance that is created after the start of a migration leaves an answer
for the migration as it is, or supersedes the one that the migration names. -/
theorem ofMigration_put_cases {uuid : String}
    (found : database.getMigration uuid = .ok migration)
    (hasStarted : migration.startTimestamp = some started)
    (answers : ofMigration database uuid = .ok answer)
    (fresh : ∀ vmi ∈ database.vmis, vmi.uuid ≠ later.uuid)
    (stateless : later.migrationState = none)
    (isLater : started < later.creationTime) :
    (¬ Supersedes database migration later ∧
      ofMigration (database.put (.vmi later)) uuid = .ok answer) ∨
    Supersedes database migration later ∧
      (database.put (.vmi later)).Tells
        (ofMigration (database.put (.vmi later)) uuid)
        (.error (.incomplete .source)) := by
  obtain ⟨row, vmi, newest, restored, answers⟩ :=
    exists_row_of_ofMigration found hasStarted answers
  obtain ⟨-, target, node, ends⟩ := exists_ends_of_ofMigrated answers
  rw [Database.put_instance_of_not_mem fresh stateless]
  -- The other tables are the same, and so is what is read from them.
  have found' : Database.getMigration
      { database with vmis := database.vmis ++ [later] } uuid =
        .ok migration := found
  rw [ofMigration_eq found' hasStarted]
  rcases newest_instance_concat newest later with
    ⟨newest', supersedes⟩ | ⟨newest', not⟩
  · right
    refine ⟨supersedes, ?_⟩
    rw [findInstance_of_newest newest']
    have isRow : later ∈ database.vmis ++ [later] := by simp
    refine ((Database.tells_restoreInstance isRow).map some).andThen ?_
    exact tells_ofMigrated_of_late ⟨ends.target, ends.sourceNode⟩ isLater
  · left
    refine ⟨not, ?_⟩
    rw [findInstance_of_newest newest', restored]
    exact answers

/-- An instance that is created after the start of a migration leaves an answer
for the migration as it is if and only if it does not supersede the instance
that the migration names.  If it does, no source is found.  In years of four
digits, it supersedes exactly the instances of its name. -/
theorem ofMigration_putInstance {uuid : String}
    (found : database.getMigration uuid = .ok migration)
    (hasStarted : migration.startTimestamp = some started)
    (answers : ofMigration database uuid = .ok answer)
    (fresh : ∀ vmi ∈ database.vmis, vmi.uuid ≠ later.uuid)
    (stateless : later.migrationState = none)
    (isLater : started < later.creationTime) :
    (ofMigration (database.put (.vmi later)) uuid = .ok answer ↔
      ¬ Supersedes database migration later) ∧
    (Supersedes database migration later →
      (database.put (.vmi later)).Tells
        (ofMigration (database.put (.vmi later)) uuid)
        (.error (.incomplete .source))) ∧
    (database.IsDated → later.creationTime.IsPlain →
      (Supersedes database migration later ↔
        later.name = migration.vmiName ∧
          later.namespaceName = migration.namespaceName)) := by
  have older : ∃ row,
      newest? (·.creationTime) (instancesOf database migration) = some row ∧
        row.creationTime < later.creationTime := by
    obtain ⟨row, vmi, newest, restored, answers⟩ :=
      exists_row_of_ofMigration found hasStarted answers
    have before := (exists_ends_of_ofMigrated answers).1
    rw [creationTime_of_restore restored] at before
    exact ⟨row, newest, before.trans_lt isLater⟩
  obtain ⟨row, newest, older⟩ := older
  have superseded : database.IsDated → later.creationTime.IsPlain →
      (Supersedes database migration later ↔
        later.name = migration.vmiName ∧
          later.namespaceName = migration.namespaceName) :=
    fun dated plain => supersedes_iff dated plain newest older
  rcases ofMigration_put_cases found hasStarted answers fresh stateless isLater
    with ⟨not, same⟩ | ⟨supersedes, tells⟩
  · exact ⟨iff_of_true same not, fun supersedes => (not supersedes).elim,
      superseded⟩
  · refine ⟨iff_of_false ?_ (not_not_intro supersedes), fun _ => tells,
      superseded⟩
    intro same
    rcases tells with other | ⟨fails, -⟩
    · rw [same] at other
      cases other
    · exact fails.not_exists_ok ⟨answer, same⟩

/-! ## A restart after a migration -/

/-- An instance that is created ten minutes after the start of the move. -/
def instanceAfterMove (name : String) : VirtualMachineInstance :=
  { instanceOfMove with
    uuid := "vmi-2"
    name := name
    creationTime := ⟨1709281500, 0⟩ }

/-- The move, with its times. -/
def moved : Database :=
  movingAt ⟨1709280000, 0⟩ ⟨1709280900, 0⟩

theorem fresh_instanceAfterMove (name : String) :
    ∀ vmi ∈ moved.vmis, vmi.uuid ≠ (instanceAfterMove name).uuid := by
  intro vmi member
  cases List.mem_singleton.mp member
  exact (by decide : "vmi-1" ≠ "vmi-2")

/-- Another machine is started after the move. -/
theorem ofMigration_of_other_machine :
    ∃ answer, ofMigration moved "mig-1" = .ok answer ∧
      ofMigration (moved.put (.vmi (instanceAfterMove "debian"))) "mig-1" =
        .ok answer := by
  obtain ⟨answer, answers⟩ := exists_ofMigration_movingAt
    (by decide : (⟨1709280000, 0⟩ : Instant) ≤ ⟨1709280900, 0⟩)
  have found : moved.getMigration "mig-1" =
      .ok (migrationAt ⟨1709280900, 0⟩) := rfl
  refine ⟨answer, answers, ?_⟩
  refine (ofMigration_putInstance found rfl answers
    (fresh_instanceAfterMove "debian") rfl (by decide)).1.mpr ?_
  intro supersedes
  exact absurd supersedes.name (by decide)

/-- The machine that moved is started again after the move. -/
theorem source_lost_by_restart :
    (∃ answer, ofMigration moved "mig-1" = .ok answer) ∧
      (∀ vmi ∈ moved.vmis, vmi.uuid ≠ (instanceAfterMove "fedora").uuid) ∧
      (instanceAfterMove "fedora").migrationState = none ∧
      (⟨1709280900, 0⟩ : Instant) < (instanceAfterMove "fedora").creationTime ∧
      ofMigration (moved.put (.vmi (instanceAfterMove "fedora"))) "mig-1" =
        .error (.incomplete .source) := by
  obtain ⟨answer, answers⟩ := exists_ofMigration_movingAt
    (by decide : (⟨1709280000, 0⟩ : Instant) ≤ ⟨1709280900, 0⟩)
  have found : moved.getMigration "mig-1" =
      .ok (migrationAt ⟨1709280900, 0⟩) := rfl
  have supersedes : Supersedes moved (migrationAt ⟨1709280900, 0⟩)
      (instanceAfterMove "fedora") := by
    refine ⟨rfl, rfl, fun vmi member => ?_⟩
    cases List.mem_singleton.mp (List.mem_of_mem_filter member)
    decide +kernel
  have readable :
      (moved.put (.vmi (instanceAfterMove "fedora"))).Readable := by
    have before := readable_movingAt ⟨1709280000, 0⟩ ⟨1709280900, 0⟩
    refine ⟨before.pods, ?_, before.migrations, before.pvcs⟩
    have rows : (moved.put (.vmi (instanceAfterMove "fedora"))).vmis =
        [instanceAt ⟨1709280000, 0⟩, instanceAfterMove "fedora"] := rfl
    rw [rows, List.forall_mem_cons]
    exact ⟨Nat.zero_le _,
      by simp [instanceAfterMove, instanceOfMove, Json.depth]⟩
  refine ⟨⟨answer, answers⟩, fresh_instanceAfterMove "fedora", rfl, by decide,
    ?_⟩
  rcases ofMigration_put_cases found rfl answers
    (fresh_instanceAfterMove "fedora") rfl (by decide) with
    ⟨not, -⟩ | ⟨-, tells⟩
  · exact (not supersedes).elim
  · exact tells.eq_of_readable readable

end Correlation
end ClusterTrace
