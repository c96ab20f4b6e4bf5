import ClusterTrace.Proofs.Correlation.Lookups

/-!
# Queries for migrations

A query for a migration needs six parts, each of which depends on earlier ones.
It answers when all of them are there, and else names the first one that is
missing, `ofMigration_outcome`.  The exception are manifests that nest too deep
to be read back: a query that looks up one of their rows gives the fault of the
reader.
-/

namespace ClusterTrace

open Time (Instant)

/-- The instances and pods were created in years of four digits. -/
structure Database.IsDated (database : Database) : Prop where
  pods : ∀ pod ∈ database.pods, pod.creationTime.IsPlain
  vmis : ∀ vmi ∈ database.vmis, vmi.creationTime.IsPlain

namespace Correlation

open Database (IsNewest newest?)

/-! ## The parts of a migration -/

/-- The instances that have the name that a migration gives. -/
def instancesOf (database : Database) (migration : Migration) :
    List VirtualMachineInstance :=
  database.vmis.filter fun vmi =>
    vmi.name = migration.vmiName &&
      vmi.namespaceName = migration.namespaceName

/-- The pods that have the name of a migration's target. -/
def targetsOf (database : Database) (migration : Migration) : List Pod :=
  database.pods.filter fun pod =>
    migration.targetPod = some pod.name &&
      pod.namespaceName = migration.namespaceName

/-- What a query for a migration finds. -/
structure Parts where
  started : Instant
  vmi : VirtualMachineInstance
  target : Pod
  sourceNode : String
  source : Pod
  sourceHandler : Pod
  targetHandler : Pod

/-- The parts are those of the migration. -/
structure Parts.Of (parts : Parts) (database : Database)
    (migration : Migration) : Prop where
  started : migration.startTimestamp = some parts.started
  vmi : IsNewest (·.creationTime) (instancesOf database migration) parts.vmi
  target : IsNewest (·.creationTime) (targetsOf database migration) parts.target
  sourceNode : migration.sourceNode = some parts.sourceNode
  source : IsSource database.pods parts.vmi parts.sourceNode parts.started
    parts.source
  sourceHandler : IsHandlerAt database.pods parts.sourceNode parts.started
    parts.sourceHandler
  targetHandler : IsHandlerAt database.pods
    (migration.targetNode.getD parts.target.nodeName) parts.started
    parts.targetHandler

/-- The answer that tells of the parts. -/
def Parts.answer (parts : Parts) (database : Database) (migration : Migration) :
    Answer where
  namespaceName := migration.namespaceName
  sourcePodUuid := parts.source.uuid
  targetPodUuid := parts.target.uuid
  vmiUuid := parts.vmi.uuid
  migrationUuid := migration.uuid
  sourcePod := parts.source.name
  targetPod := parts.target.name
  startTimestamp := some (parts.started.before 30)
  endTimestamp := migration.endTimestamp
  sourceHandler := parts.sourceHandler.name
  targetHandler := parts.targetHandler.name
  pvcs := claimsOf database (launchersOf database parts.vmi.uuid)
    parts.vmi.namespaceName

/-- The part is missing: there is no such row, or the migration does not name
it.  A part that depends on another one fails with it, which comes earlier. -/
def Fails (database : Database) (migration : Migration) : MissingLink → Prop
  | .migrationStart => migration.startTimestamp = none
  | .vmi => ∀ vmi ∈ database.vmis,
      ¬ (vmi.name = migration.vmiName ∧
        vmi.namespaceName = migration.namespaceName)
  | .target => ∀ pod ∈ database.pods,
      ¬ (migration.targetPod = some pod.name ∧
        pod.namespaceName = migration.namespaceName)
  | .source => ∀ node ∈ migration.sourceNode,
      ∀ started ∈ migration.startTimestamp,
      ∀ vmi, IsNewest (·.creationTime) (instancesOf database migration) vmi →
      ∀ pod ∈ database.pods, ¬ IsCandidate vmi node started pod
  | .sourceHandler => ∀ node ∈ migration.sourceNode, ∀ pod ∈ database.pods,
      isHandler node pod = false
  | .targetHandler =>
      ∀ target,
      IsNewest (·.creationTime) (targetsOf database migration) target →
      ∀ pod ∈ database.pods,
        isHandler (migration.targetNode.getD target.nodeName) pod = false
  | .launcher => False
  | .handler => False

/-- The parts that a migration needs, in the order in which they are looked
for. -/
def required : List MissingLink :=
  [.migrationStart, .vmi, .target, .source, .sourceHandler, .targetHandler]

/-- The first of some parts that is missing. -/
def FirstFailing (database : Database) (migration : Migration)
    (links : List MissingLink) (link : MissingLink) : Prop :=
  ∃ earlier later, links = earlier ++ link :: later ∧
    Fails database migration link ∧
    ∀ other ∈ earlier, ¬ Fails database migration other

section FirstFailing

variable {database : Database} {migration : Migration}
  {links : List MissingLink} {link link' : MissingLink}

theorem FirstFailing.unique (first : FirstFailing database migration links link)
    (first' : FirstFailing database migration links link') : link = link' := by
  classical
  have found : ∀ {link}, FirstFailing database migration links link →
      links.find? (fun link => decide (Fails database migration link)) =
        some link := by
    rintro link ⟨earlier, later, split, fails, passed⟩
    rw [List.find?_eq_some_iff_append]
    exact ⟨decide_eq_true fails, earlier, later, split, fun other member => by
      simpa using passed other member⟩
  exact Option.some.inj ((found first).symm.trans (found first'))

theorem FirstFailing.exists_fails
    (first : FirstFailing database migration links link) :
    ∃ link ∈ links, Fails database migration link := by
  obtain ⟨earlier, later, split, fails, -⟩ := first
  exact ⟨link, by simp [split], fails⟩

theorem FirstFailing.cons (first : FirstFailing database migration links link)
    (passed : ¬ Fails database migration link') :
    FirstFailing database migration (link' :: links) link := by
  obtain ⟨earlier, later, rfl, fails, others⟩ := first
  exact ⟨link' :: earlier, later, rfl, fails,
    List.forall_mem_cons.mpr ⟨passed, others⟩⟩

end FirstFailing

/-! ## The answer of the rows -/

/-- The outcome of a query for which all rows are read back. -/
def answerOfRows (database : Database) (migration : Migration) :
    Outcome Answer := do
  let started ← orMissing .migrationStart migration.startTimestamp
  let vmi ← orMissing .vmi
    (newest? (·.creationTime) (instancesOf database migration))
  let target ← orMissing .target
    (newest? (·.creationTime) (targetsOf database migration))
  let sourceNode ← orMissing .source migration.sourceNode
  let source ← orMissing .source
    (sourceLauncher? database.pods vmi.uuid sourceNode vmi.creationTime started)
  let sourceHandler ← orMissing .sourceHandler
    (handler? database.pods sourceNode started)
  let targetHandler ← orMissing .targetHandler
    (handler? database.pods (migration.targetNode.getD target.nodeName) started)
  return Parts.answer
    ⟨started, vmi, target, sourceNode, source, sourceHandler, targetHandler⟩
    database migration

variable {database : Database}

theorem tells_targetPod? (migration : Migration) :
    database.Tells (targetPod? database migration)
      (.ok ((newest? (·.creationTime) (targetsOf database migration)).map
        Pod.readBack)) := by
  rw [targetPod?]
  cases target : migration.targetPod with
  | none =>
      have nothing : targetsOf database migration = [] := by
        simp [targetsOf, target]
      rw [nothing]
      exact Database.tells_self _
  | some name =>
      have named : targetsOf database migration =
          database.pods.filter fun pod =>
            pod.name = name && pod.namespaceName = migration.namespaceName := by
        rw [targetsOf, target]
        simp [eq_comm]
      rw [named]
      exact Database.tells_findPod database name migration.namespaceName

/-- A part is looked for among rows, and found as it is read back. -/
theorem tells_orMissing {α β : Type} {link : MissingLink} {readBack : α → α}
    {row? : Option α} {next next' : α → Outcome β}
    (second : ∀ row, database.Tells (next (readBack row)) (next' row)) :
    database.Tells (orMissing link (row?.map readBack) >>= next)
      (orMissing link row? >>= next') := by
  cases row? with
  | none => exact Database.tells_self _
  | some row => exact second row

theorem tells_ofMigration (keyed : database.Keyed) {migration : Migration}
    (member : migration ∈ database.migrations) :
    database.Tells (ofMigration database migration.uuid)
      (answerOfRows database migration) := by
  have found := Database.tells_getMigration database migration.uuid
  rw [Database.find?_eq_some_of_mem keyed.nodup_migrations member] at found
  -- One step for each lookup, and one for each part that may be missing.
  refine found.andThen ?_
  refine Database.tells_bind fun started => ?_
  refine (Database.tells_findInstance database _ _).andThen ?_
  refine tells_orMissing fun vmi => ?_
  refine (tells_targetPod? migration.readBack).andThen ?_
  refine tells_orMissing fun target => ?_
  refine Database.tells_bind fun sourceNode => ?_
  refine (Database.tells_podsCreatedBy database _ _).andThen ?_
  rw [sourceLauncher?_candidates keyed]
  refine tells_orMissing fun source => ?_
  refine (tells_handlerAt keyed sourceNode started).andThen ?_
  refine tells_orMissing fun sourceHandler => ?_
  refine (tells_handlerAt keyed _ started).andThen ?_
  refine tells_orMissing fun targetHandler => ?_
  refine (tells_launchers database vmi.uuid).andThen ?_
  exact (tells_claimUuids database _ vmi.namespaceName).andThen
    (Database.tells_self _)

theorem instancesOf_eq_nil_iff {migration : Migration} :
    instancesOf database migration = [] ↔ Fails database migration .vmi := by
  rw [instancesOf, List.filter_eq_nil_iff, Fails]
  simp

theorem targetsOf_eq_nil_iff {migration : Migration} :
    targetsOf database migration = [] ↔ Fails database migration .target := by
  rw [targetsOf, List.filter_eq_nil_iff, Fails]
  simp

theorem newest_instance_iff (dated : database.IsDated)
    {migration : Migration} {vmi : VirtualMachineInstance} :
    newest? (·.creationTime) (instancesOf database migration) = some vmi ↔
      IsNewest (·.creationTime) (instancesOf database migration) vmi :=
  Database.newest?_eq_some_iff fun _ member =>
    dated.vmis _ (List.mem_of_mem_filter member)

theorem newest_target_iff (dated : database.IsDated)
    {migration : Migration} {target : Pod} :
    newest? (·.creationTime) (targetsOf database migration) = some target ↔
      IsNewest (·.creationTime) (targetsOf database migration) target :=
  Database.newest?_eq_some_iff fun _ member =>
    dated.pods _ (List.mem_of_mem_filter member)

theorem fails_source_iff {migration : Migration}
    {vmi : VirtualMachineInstance} {started : Instant} {node : String}
    (dated : database.IsDated)
    (hasStarted : migration.startTimestamp = some started)
    (hasNode : migration.sourceNode = some node)
    (newest : newest? (·.creationTime) (instancesOf database migration) =
      some vmi) :
    Fails database migration .source ↔
      sourceLauncher? database.pods vmi.uuid node vmi.creationTime started =
        none := by
  rw [sourceLauncher?_eq_none_iff, Fails, hasStarted, hasNode]
  constructor
  · intro fails
    exact fails node rfl started rfl vmi ((newest_instance_iff dated).mp newest)
  · intro missing node' isNode started' isStarted other newest'
    cases isNode
    cases isStarted
    rw [← newest_instance_iff dated, newest, Option.some.injEq] at newest'
    subst newest'
    exact missing

theorem fails_sourceHandler_iff {migration : Migration} {node : String}
    (hasNode : migration.sourceNode = some node) (started : Instant) :
    Fails database migration .sourceHandler ↔
      handler? database.pods node started = none := by
  rw [handler?_eq_none_iff, Fails, hasNode]
  constructor
  · intro fails
    exact fails node rfl
  · intro missing node' isNode
    cases isNode
    exact missing

theorem fails_targetHandler_iff {migration : Migration} {target : Pod}
    (dated : database.IsDated)
    (newest : newest? (·.creationTime) (targetsOf database migration) =
      some target) (started : Instant) :
    Fails database migration .targetHandler ↔
      handler? database.pods (migration.targetNode.getD target.nodeName)
        started = none := by
  rw [handler?_eq_none_iff, Fails]
  constructor
  · intro fails
    exact fails target ((newest_target_iff dated).mp newest)
  · intro missing other newest'
    rw [← newest_target_iff dated, newest, Option.some.injEq] at newest'
    subst newest'
    exact missing

/-- The outcome is an answer with all parts, or names the first of the links
that is missing. -/
def Diagnoses (database : Database) (migration : Migration)
    (links : List MissingLink) (outcome : Outcome Answer) : Prop :=
  (∃ link, outcome = .error (.incomplete link) ∧
    FirstFailing database migration links link) ∨
  ∃ parts : Parts, parts.Of database migration ∧
    outcome = .ok (parts.answer database migration) ∧
    ∀ link ∈ links, ¬ Fails database migration link

section Diagnoses

variable {α : Type} {migration : Migration} {links : List MissingLink}
  {link : MissingLink} {row? : Option α} {next : α → Outcome Answer}

/-- A part is missing if something that it depends on is. -/
theorem diagnoses_dependency
    (missing : row? = none → Fails database migration link)
    (rest : ∀ row, row? = some row →
      Diagnoses database migration (link :: links) (next row)) :
    Diagnoses database migration (link :: links)
      (orMissing link row? >>= next) := by
  cases found : row? with
  | none =>
      exact Or.inl ⟨link, rfl, [], links, rfl, missing found, by simp⟩
  | some row => exact rest row found

/-- A part is missing exactly if it is not found, and the other parts are looked
for afterwards. -/
theorem diagnoses_part
    (missing : Fails database migration link ↔ row? = none)
    (rest : ∀ row, row? = some row →
      Diagnoses database migration links (next row)) :
    Diagnoses database migration (link :: links)
      (orMissing link row? >>= next) := by
  refine diagnoses_dependency missing.mpr fun row found => ?_
  have passed : ¬ Fails database migration link := by
    rw [missing, found]
    exact Option.some_ne_none row
  rcases rest row found with ⟨other, failed, first⟩ | ⟨parts, isOf, told, all⟩
  · exact Or.inl ⟨other, failed, first.cons passed⟩
  · exact Or.inr ⟨parts, isOf, told, List.forall_mem_cons.mpr ⟨passed, all⟩⟩

variable {outcome : Outcome Answer}

theorem Diagnoses.incomplete_iff
    (diagnoses : Diagnoses database migration links outcome) :
    outcome = .error (.incomplete link) ↔
      FirstFailing database migration links link := by
  rcases diagnoses with ⟨other, rfl, first⟩ | ⟨parts, -, rfl, all⟩
  · constructor
    · intro same
      cases same
      exact first
    · intro first'
      rw [first.unique first']
  · constructor
    · intro same
      cases same
    · intro first
      obtain ⟨missing, member, fails⟩ := first.exists_fails
      exact (all missing member fails).elim

theorem Diagnoses.ok_iff
    (diagnoses : Diagnoses database migration links outcome) :
    (∃ answer, outcome = .ok answer) ↔
      ∀ link ∈ links, ¬ Fails database migration link := by
  rcases diagnoses with ⟨other, rfl, first⟩ | ⟨parts, -, rfl, all⟩
  · constructor
    · rintro ⟨answer, same⟩
      cases same
    · intro all
      obtain ⟨missing, member, fails⟩ := first.exists_fails
      exact (all missing member fails).elim
  · exact ⟨fun _ => all, fun _ => ⟨_, rfl⟩⟩

theorem Diagnoses.parts
    (diagnoses : Diagnoses database migration links outcome) {answer : Answer}
    (answers : outcome = .ok answer) :
    ∃ parts : Parts, parts.Of database migration ∧
      answer = parts.answer database migration := by
  rcases diagnoses with ⟨other, rfl, first⟩ | ⟨parts, isOf, rfl, all⟩
  · cases answers
  · cases answers
    exact ⟨parts, isOf, rfl⟩

/-- Nothing else goes wrong than that a part is missing. -/
theorem Diagnoses.isIncomplete
    (diagnoses : Diagnoses database migration links outcome)
    {failure : Failure} (fails : outcome = .error failure) :
    ∃ link, failure = .incomplete link := by
  rcases diagnoses with ⟨other, rfl, first⟩ | ⟨parts, isOf, rfl, all⟩
  · cases fails
    exact ⟨other, rfl⟩
  · cases fails

end Diagnoses

theorem diagnoses_answerOfRows (dated : database.IsDated)
    (migration : Migration) :
    Diagnoses database migration required
      (answerOfRows database migration) := by
  refine diagnoses_part Iff.rfl fun started hasStarted => ?_
  refine diagnoses_part ?_ fun vmi newest => ?_
  · rw [← instancesOf_eq_nil_iff, Database.newest?_eq_none]
  refine diagnoses_part ?_ fun target newestTarget => ?_
  · rw [← targetsOf_eq_nil_iff, Database.newest?_eq_none]
  -- A source is missing without a node to look for it as well.
  refine diagnoses_dependency ?_ fun node hasNode => ?_
  · intro noNode
    simp [Fails, noNode]
  refine diagnoses_part (fails_source_iff dated hasStarted hasNode newest)
    fun source isSource => ?_
  refine diagnoses_part (fails_sourceHandler_iff hasNode started)
    fun sourceHandler isSourceHandler => ?_
  refine diagnoses_part (fails_targetHandler_iff dated newestTarget started)
    fun targetHandler isTargetHandler => ?_
  refine Or.inr ⟨_, ?_, rfl, by simp⟩
  constructor
  case started => exact hasStarted
  case vmi => exact (newest_instance_iff dated).mp newest
  case target => exact (newest_target_iff dated).mp newestTarget
  case sourceNode => exact hasNode
  case source => exact sourceLauncher?_isSource isSource
  case sourceHandler => exact handler?_isHandlerAt isSourceHandler
  case targetHandler => exact handler?_isHandlerAt isTargetHandler

theorem ofMigration_of_absent {uuid : String}
    (absent : ∀ migration ∈ database.migrations, migration.uuid ≠ uuid) :
    ofMigration database uuid = .error (.notFound "migration" uuid) := by
  have nothing : database.migrations.find? (fun row => row.uuid = uuid) =
      none := by
    simpa [List.find?_eq_none] using absent
  rw [ofMigration, Database.getMigration, nothing]
  rfl

/-- A query does not find a migration exactly if it has no row.  For a row, it
names the first part that is missing, or it tells of the parts, unless a
manifest that it reads nests too deep. -/
theorem ofMigration_outcome (keyed : database.Keyed)
    (dated : database.IsDated) (uuid : String) :
    (ofMigration database uuid = .error (.notFound "migration" uuid) ↔
      ∀ migration ∈ database.migrations, migration.uuid ≠ uuid) ∧
    (∀ migration ∈ database.migrations, migration.uuid = uuid →
      ¬ FailsTooDeep (ofMigration database uuid) →
      (∀ link, ofMigration database uuid = .error (.incomplete link) ↔
        FirstFailing database migration required link) ∧
      ((∃ answer, ofMigration database uuid = .ok answer) ↔
        ∀ link ∈ required, ¬ Fails database migration link) ∧
      ∀ answer, ofMigration database uuid = .ok answer →
        ∃ parts : Parts, parts.Of database migration ∧
          answer = parts.answer database migration) ∧
    (database.Readable → ¬ FailsTooDeep (ofMigration database uuid)) := by
  refine ⟨⟨?_, ofMigration_of_absent⟩, ?_, ?_⟩
  · rintro notFound migration member rfl
    have tells := tells_ofMigration keyed member
    have read : ¬ FailsTooDeep (ofMigration database migration.uuid) := by
      rintro ⟨column, deep⟩
      cases notFound.symm.trans deep
    obtain ⟨link, same⟩ := (diagnoses_answerOfRows dated migration).isIncomplete
      ((tells.eq read).symm.trans notFound)
    cases same
  · rintro migration member rfl read
    have diagnoses := diagnoses_answerOfRows dated migration
    rw [← (tells_ofMigration keyed member).eq read] at diagnoses
    exact ⟨fun link => diagnoses.incomplete_iff, diagnoses.ok_iff,
      fun answer => diagnoses.parts⟩
  · rintro readable ⟨column, deep⟩
    by_cases absent : ∀ migration ∈ database.migrations, migration.uuid ≠ uuid
    · rw [ofMigration_of_absent absent] at deep
      cases deep
    · push Not at absent
      obtain ⟨migration, member, rfl⟩ := absent
      have tells := (tells_ofMigration keyed member).eq_of_readable readable
      have diagnoses := diagnoses_answerOfRows dated migration
      obtain ⟨link, same⟩ := diagnoses.isIncomplete (tells.symm.trans deep)
      cases same

/-! ## A migration between two nodes -/

/-- The source of the migration, with a manifest. -/
def sourceOfMove (content : Json) : Pod :=
  ⟨"src", "Pod", "launcher-1", "vms", "Running", 1, 1, "node-a",
    ⟨1709280300, 0⟩, "", some "vmi-1", content⟩

def targetOfMove : Pod :=
  ⟨"tgt", "Pod", "launcher-2", "vms", "Running", 1, 1, "node-b",
    ⟨1709280870, 0⟩, "", some "vmi-1", .null⟩

def handlerOfMove (uuid node : String) : Pod :=
  ⟨uuid, "Pod", "virt-handler-1", "kubevirt", "Running", 1, 1, node,
    ⟨1709276400, 0⟩, "", none, .null⟩

def instanceOfMove : VirtualMachineInstance :=
  ⟨"vmi-1", "fedora", "vms", "", "Running", "node-b", ⟨1709280000, 0⟩, none,
    .null⟩

def migrationOfMove : Migration :=
  ⟨"mig-1", some "move", "vms", some "Running", "fedora", none,
    some "launcher-2", some "node-a", some "node-b", some ⟨1709280900, 0⟩, none,
    some false, some false, none⟩

/-- An instance moves from one node to another.  The manifest of its first pod
is given. -/
def moving (content : Json) : Database where
  pods := [sourceOfMove content, targetOfMove, handlerOfMove "ha" "node-a",
    handlerOfMove "hb" "node-b"]
  vmis := [instanceOfMove]
  migrations := [migrationOfMove]

theorem keyed_moving (content : Json) : (moving content).Keyed := by
  intro kind
  cases kind <;>
    simp [Database.records, moving, Record.key, sourceOfMove, targetOfMove,
      handlerOfMove]

theorem isDated_moving (content : Json) : (moving content).IsDated := by
  constructor
  case pods =>
    simp only [moving, List.forall_mem_cons, sourceOfMove, targetOfMove,
      handlerOfMove]
    exact ⟨by decide +kernel, by decide +kernel, by decide +kernel,
      by decide +kernel, by simp⟩
  case vmis =>
    simp only [moving, List.forall_mem_cons, instanceOfMove]
    exact ⟨by decide +kernel, by simp⟩

theorem isHandler_handlerOfMove (uuid node : String) :
    isHandler node (handlerOfMove uuid node) = true := by
  have named : handlerPrefix.toList <+: "virt-handler-1".toList := by decide
  rw [isHandler_eq, decide_eq_true_iff]
  exact ⟨rfl, named⟩

theorem isCandidate_sourceOfMove (content : Json) :
    IsCandidate instanceOfMove "node-a" ⟨1709280900, 0⟩
      (sourceOfMove content) := by
  refine ⟨rfl, rfl, ?_, ?_⟩
  · exact Or.inl (by decide : (1709280000 : Int) < 1709280300)
  · exact Or.inl (by decide : (1709280300 : Int) < 1709280900)

theorem not_fails_moving (content : Json) :
    ∀ link ∈ required, ¬ Fails (moving content) migrationOfMove link := by
  have isInstance : IsNewest (·.creationTime)
      (instancesOf (moving content) migrationOfMove) instanceOfMove :=
    ⟨[], [], rfl, by simp, by simp⟩
  have isTarget : IsNewest (·.creationTime)
      (targetsOf (moving content) migrationOfMove) targetOfMove := by
    refine ⟨[], [], ?_, by simp, by simp⟩
    simp [targetsOf, moving, migrationOfMove, sourceOfMove, targetOfMove,
      handlerOfMove]
  simp only [required, List.forall_mem_cons, Fails]
  refine ⟨Option.some_ne_none _, ?_, ?_, ?_, ?_, ?_, by simp⟩
  · intro missing
    exact missing instanceOfMove List.mem_cons_self ⟨rfl, rfl⟩
  · intro missing
    exact missing targetOfMove (by simp [moving]) ⟨rfl, rfl⟩
  · intro missing
    exact missing "node-a" rfl _ rfl _ isInstance _ List.mem_cons_self
      (isCandidate_sourceOfMove content)
  · intro missing
    have absent := missing "node-a" rfl (handlerOfMove "ha" "node-a")
      (by simp [moving])
    rw [isHandler_handlerOfMove] at absent
    cases absent
  · intro missing
    have absent := missing _ isTarget (handlerOfMove "hb" "node-b")
      (by simp [moving])
    rw [migrationOfMove, Option.getD_some, isHandler_handlerOfMove] at absent
    cases absent

theorem readable_moving {content : Json}
    (shallow : content.depth ≤ Json.maxDepth) :
    (moving content).Readable := by
  constructor
  case pods =>
    simp only [moving, List.forall_mem_cons, sourceOfMove, targetOfMove,
      handlerOfMove]
    exact ⟨shallow, by decide, by decide, by decide, by simp⟩
  case vmis =>
    simp only [moving, List.forall_mem_cons, instanceOfMove]
    exact ⟨by decide, by simp⟩
  case migrations => simp [moving, migrationOfMove]
  case pvcs => simp [moving]

/-- All parts are there, and their manifests are shallow. -/
theorem ofMigration_of_move :
    ∃ answer, ofMigration (moving .null) "mig-1" = .ok answer := by
  obtain ⟨-, outcome, read⟩ := ofMigration_outcome (keyed_moving .null)
    (isDated_moving .null) "mig-1"
  obtain ⟨-, answers, -⟩ := outcome migrationOfMove List.mem_cons_self rfl
    (read (readable_moving (by decide)))
  exact answers.mpr (not_fails_moving .null)

/-- A candidate whose manifest nests too deep cannot be read back. -/
theorem ofMigration_moving_nested :
    FailsTooDeep (ofMigration (moving (Json.nested 128)) "mig-1") := by
  have candidates : FailsTooDeep ((moving (Json.nested 128)).podsCreatedBy
      "vmi-1" (some "node-a")) := by
    refine Database.oldestFirst_of_deep
      ⟨sourceOfMove (Json.nested 128), ?_, Json.maxDepth_lt_depth_nested⟩
    simp [moving, sourceOfMove]
  have found : (moving (Json.nested 128)).getMigration "mig-1" =
      .ok migrationOfMove := rfl
  have started : migrationOfMove.startTimestamp = some ⟨1709280900, 0⟩ := rfl
  have vmi : (moving (Json.nested 128)).findInstance migrationOfMove.vmiName
      migrationOfMove.namespaceName = .ok (some instanceOfMove) := rfl
  have target : targetPod? (moving (Json.nested 128)) migrationOfMove =
      .ok (some targetOfMove) := by
    have rows : (moving (Json.nested 128)).pods.filter (fun pod =>
        pod.name = "launcher-2" && pod.namespaceName = "vms") =
        [targetOfMove] := by
      simp [moving, sourceOfMove, targetOfMove, handlerOfMove]
    change (moving (Json.nested 128)).findPod "launcher-2" "vms" = _
    rw [Database.findPod, rows]
    rfl
  have sourceNode : migrationOfMove.sourceNode = some "node-a" := rfl
  have uuid : instanceOfMove.uuid = "vmi-1" := rfl
  obtain ⟨column, fails⟩ := candidates
  refine ⟨column, ?_⟩
  simp only [ofMigration, found, started, vmi, target, sourceNode, uuid,
    fails, orMissing, bind, Except.bind]

/-- An instance of the same name that is created in the year 10000. -/
def lateInstance : VirtualMachineInstance :=
  { instanceOfMove with uuid := "vmi-2", creationTime := ⟨253402300800, 0⟩ }

/-- The move, when there is a later instance of the same name. -/
def movingLate : Database :=
  { moving .null with vmis := [instanceOfMove, lateInstance] }

theorem firstFailing_movingLate :
    FirstFailing movingLate migrationOfMove required .source := by
  refine ⟨[.migrationStart, .vmi, .target], _, rfl, ?_, ?_⟩
  · rintro node - started - vmi ⟨before, after, split, -, latest⟩ pod member
      candidate
    have rows : instancesOf movingLate migrationOfMove =
        [instanceOfMove, lateInstance] := rfl
    have isLate : vmi = lateInstance := by
      rw [rows] at split
      cases before with
      | nil =>
          obtain ⟨rfl, rfl⟩ := List.cons.inj split
          have early := latest lateInstance List.mem_cons_self
          exact absurd early (by decide)
      | cons first before =>
          obtain ⟨-, rest⟩ := List.cons.inj split
          cases before with
          | nil => exact (List.cons.inj rest).1.symm
          | cons second before => simp at rest
    have createdBy := candidate.createdBy
    rw [isLate] at createdBy
    simp only [movingLate, moving, List.mem_cons, List.not_mem_nil,
      or_false] at member
    rcases member with rfl | rfl | rfl | rfl <;>
      simp [sourceOfMove, targetOfMove, handlerOfMove, lateInstance]
        at createdBy
  · simp only [List.forall_mem_cons, Fails]
    refine ⟨Option.some_ne_none _, ?_, ?_, by simp⟩
    · intro missing
      exact missing instanceOfMove List.mem_cons_self ⟨rfl, rfl⟩
    · intro missing
      exact missing targetOfMove (by simp [movingLate, moving]) ⟨rfl, rfl⟩

theorem newest_movingLate :
    newest? (·.creationTime) (instancesOf movingLate migrationOfMove) =
      some instanceOfMove := by
  have less : lateInstance.creationTime.columnText <
      instanceOfMove.creationTime.columnText := by decide +kernel
  rw [Database.newest?_eq_some_iff_isFirstLeast]
  refine ⟨[], [lateInstance], rfl, by simp, List.forall_mem_cons.mpr ⟨?_, ?_⟩⟩
  · exact less.le
  · simp

theorem keyed_movingLate : movingLate.Keyed := by
  intro kind
  cases kind <;>
    simp [Database.records, movingLate, moving, Record.key, sourceOfMove,
      targetOfMove, handlerOfMove, instanceOfMove, lateInstance]

theorem readable_movingLate : movingLate.Readable := by
  have readable := readable_moving (by decide : Json.null.depth ≤ Json.maxDepth)
  refine ⟨readable.pods, ?_, readable.migrations, readable.pvcs⟩
  simp only [movingLate, List.forall_mem_cons]
  exact ⟨by decide, by decide, by simp⟩

theorem ofMigration_movingLate :
    ofMigration movingLate "mig-1" ≠ .error (.incomplete .source) := by
  have member : migrationOfMove ∈ movingLate.migrations := List.mem_cons_self
  have rows := (tells_ofMigration keyed_movingLate member).eq_of_readable
    readable_movingLate
  have started : migrationOfMove.startTimestamp = some ⟨1709280900, 0⟩ := rfl
  have target : newest? (·.creationTime)
      (targetsOf movingLate migrationOfMove) = some targetOfMove := by
    have named : targetsOf movingLate migrationOfMove = [targetOfMove] := by
      simp [targetsOf, movingLate, moving, migrationOfMove, sourceOfMove,
        targetOfMove, handlerOfMove]
    rw [named]
    rfl
  have sourceNode : migrationOfMove.sourceNode = some "node-a" := rfl
  intro missing
  have failed := rows.symm.trans missing
  simp only [answerOfRows, started, newest_movingLate, target, sourceNode,
    orMissing, bind, Except.bind] at failed
  cases source : sourceLauncher? movingLate.pods instanceOfMove.uuid "node-a"
      instanceOfMove.creationTime ⟨1709280900, 0⟩ with
  | none =>
      rw [sourceLauncher?_eq_none_iff] at source
      exact source _ List.mem_cons_self (isCandidate_sourceOfMove .null)
  | some pod =>
      rw [source] at failed
      cases handler : handler? movingLate.pods "node-a" ⟨1709280900, 0⟩ with
      | none =>
          rw [handler] at failed
          cases failed
      | some pod =>
          rw [handler] at failed
          cases handler' : handler? movingLate.pods
              (migrationOfMove.targetNode.getD targetOfMove.nodeName)
              ⟨1709280900, 0⟩ with
          | none =>
              rw [handler'] at failed
              cases failed
          | some pod =>
              rw [handler'] at failed
              cases failed

/-- All parts are there, but the manifest of the source nests too deep; and a
part of the newest instance is missing, but its time is less as a text. -/
theorem ofMigration_of_deep_manifest_and_late_instance :
    ((moving (Json.nested 128)).Keyed ∧ (moving (Json.nested 128)).IsDated ∧
      (∀ link ∈ required,
        ¬ Fails (moving (Json.nested 128)) migrationOfMove link) ∧
      ¬ ∃ answer, ofMigration (moving (Json.nested 128)) "mig-1" = .ok answer) ∧
    movingLate.Keyed ∧ movingLate.Readable ∧
      FirstFailing movingLate migrationOfMove required .source ∧
      ofMigration movingLate "mig-1" ≠ .error (.incomplete .source) := by
  exact ⟨⟨keyed_moving _, isDated_moving _, not_fails_moving _,
    ofMigration_moving_nested.not_exists_ok⟩, keyed_movingLate,
    readable_movingLate, firstFailing_movingLate, ofMigration_movingLate⟩

end Correlation
end ClusterTrace
