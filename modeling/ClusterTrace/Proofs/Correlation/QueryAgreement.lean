import ClusterTrace.Proofs.Correlation.HistoryQuery
import ClusterTrace.Proofs.Correlation.MigrationQuery
import ClusterTrace.Proofs.ListReading

/-!
# Queries that agree

The history of an instance agrees with what is told of each of its migrations,
`ofHistory_agrees`, although the two queries reach the same rows in other ways:
by a name and by a UID, for one node and for all nodes, with handlers at the
start of the migration and at the first visit of a node.
-/

namespace ClusterTrace.Correlation

open Database (newest? oldestFirst isLike prefixPattern)
open Time (Instant)

/-- The history of an instance agrees with the answer for a migration of it.
The window of the history starts first, apart from an instance that was created
within a leap second. -/
structure Agrees (migration : Migration) (vmi : VirtualMachineInstance)
    (answer history : Answer) : Prop where
  namespaceName : history.namespaceName = answer.namespaceName
  pvcs : history.pvcs = answer.pvcs
  start : ∃ started ∈ migration.startTimestamp,
    ∃ first ∈ history.startTimestamp, ∃ later ∈ answer.startTimestamp,
      (first ≤ later ↔ ¬ Instant.Overtakes vmi.creationTime started)
  source : answer.sourcePodUuid ∈ history.launchers.map (·.uuid)
  handled : ∀ node ∈ migration.sourceNode, node ≠ "" →
    (history.handlers.map (·.nodeName)).count node = 1 ∧
      node ∉ history.skippedNodes

variable {database : Database} {migration : Migration}

/-! ## Parts of an answer -/

theorem orMissing_bind_eq_ok {α β : Type} {link : MissingLink} {row? : Option α}
    {next : α → Outcome β} {result : β}
    (given : orMissing link row? >>= next = .ok result) :
    ∃ row, row? = some row ∧ next row = .ok result := by
  cases row? with
  | none => cases given
  | some row => exact ⟨row, rfl, given⟩

/-- The rows that an answer for a migration tells of. -/
structure Parts.Found (parts : Parts) (database : Database)
    (migration : Migration) : Prop where
  started : migration.startTimestamp = some parts.started
  vmi : parts.vmi ∈ instancesOf database migration
  sourceNode : migration.sourceNode = some parts.sourceNode
  source : IsSource database.pods parts.vmi parts.sourceNode parts.started
    parts.source
  sourceHandler : IsHandlerAt database.pods parts.sourceNode parts.started
    parts.sourceHandler

theorem exists_parts_of_answerOfRows {answer : Answer}
    (answers : answerOfRows database migration = .ok answer) :
    ∃ parts : Parts, parts.Found database migration ∧
      answer = parts.answer database migration := by
  obtain ⟨started, hasStarted, answers⟩ := orMissing_bind_eq_ok answers
  obtain ⟨vmi, newest, answers⟩ := orMissing_bind_eq_ok answers
  obtain ⟨target, -, answers⟩ := orMissing_bind_eq_ok answers
  obtain ⟨node, hasNode, answers⟩ := orMissing_bind_eq_ok answers
  obtain ⟨source, isSource, answers⟩ := orMissing_bind_eq_ok answers
  obtain ⟨sourceHandler, isHandler, answers⟩ := orMissing_bind_eq_ok answers
  obtain ⟨targetHandler, -, answers⟩ := orMissing_bind_eq_ok answers
  refine ⟨⟨started, vmi, target, node, source, sourceHandler, targetHandler⟩,
    ?_, (Except.ok.inj answers).symm⟩
  constructor
  case started => exact hasStarted
  case vmi => exact Database.mem_of_newest?_eq_some newest
  case sourceNode => exact hasNode
  case source => exact sourceLauncher?_isSource isSource
  case sourceHandler => exact handler?_isHandlerAt isHandler

/-! ## Agreement -/

/-- The source of a migration is among the pods of the history. -/
theorem Parts.Found.mem_launchersOf {parts : Parts}
    (found : parts.Found database migration) :
    parts.source.readBack ∈ launchersOf database parts.vmi.uuid := by
  rw [(perm_launchersOf database _).mem_iff]
  refine List.mem_map_of_mem (List.mem_filter.mpr ⟨found.source.mem, ?_⟩)
  rw [isLauncher, found.source.candidate.createdBy, beq_self_eq_true]

/-- A node with a handler is visited in a history exactly once. -/
theorem Covers.count_eq_one {uuid node : String} {history : Answer}
    (covers : Covers database uuid history) (isNamed : node ≠ "")
    (visited : ∃ pod ∈ history.launchers, pod.nodeName = node)
    {handler : Pod} (member : handler ∈ database.pods)
    (handles : isHandler node handler = true) :
    (history.handlers.map (·.nodeName)).count node = 1 ∧
      node ∉ history.skippedNodes := by
  have isVisited := (covers.visited node).mpr ⟨isNamed, visited⟩
  have notSkipped : node ∉ history.skippedNodes := by
    rw [covers.skipped node isVisited]
    intro noHandler
    rw [noHandler handler member] at handles
    cases handles
  have isHandled := (List.mem_append.mp isVisited).resolve_right notSkipped
  have distinct := (List.nodup_append.mp covers.once).1
  exact ⟨List.count_eq_one_of_mem distinct isHandled, notSkipped⟩

theorem Parts.Found.agrees (keyed : database.Keyed) {parts : Parts}
    (found : parts.Found database migration) :
    Agrees migration parts.vmi (parts.answer database migration)
      (historyOfRows database parts.vmi) := by
  have covers := covers_historyOfRows keyed parts.vmi
  have sameName := (List.mem_filter.mp found.vmi).2
  rw [Bool.and_eq_true, decide_eq_true_eq, decide_eq_true_eq] at sameName
  have candidate := found.source.candidate
  constructor
  case namespaceName => exact sameName.2
  case pvcs => rfl
  case start =>
    exact ⟨parts.started, found.started, _, rfl, _, rfl,
      Instant.before_le_before_iff (candidate.created.trans candidate.started)
        (by decide)⟩
  case source => exact List.mem_map.mpr ⟨_, found.mem_launchersOf, rfl⟩
  case handled =>
    intro node isNode isNamed
    cases found.sourceNode.symm.trans isNode
    exact covers.count_eq_one isNamed
      ⟨_, found.mem_launchersOf, candidate.nodeName⟩ found.sourceHandler.mem
      found.sourceHandler.isHandler

theorem exists_found_of_ofMigration (keyed : database.Keyed) {uuid : String}
    {answer : Answer} (answers : ofMigration database uuid = .ok answer) :
    ∃ migration ∈ database.migrations, migration.uuid = uuid ∧
      ∃ parts : Parts, parts.Found database migration ∧
        answer = parts.answer database migration := by
  by_cases absent : ∀ migration ∈ database.migrations, migration.uuid ≠ uuid
  · rw [ofMigration_of_absent absent] at answers
    cases answers
  · push Not at absent
    obtain ⟨migration, member, rfl⟩ := absent
    have read : ¬ FailsTooDeep (ofMigration database migration.uuid) := by
      rintro ⟨column, deep⟩
      cases answers.symm.trans deep
    rw [(tells_ofMigration keyed member).eq read] at answers
    exact ⟨migration, member, rfl, exists_parts_of_answerOfRows answers⟩

theorem Parts.Found.tells_ofHistory (keyed : database.Keyed) {parts : Parts}
    (found : parts.Found database migration) :
    database.Tells (ofHistory database parts.vmi.uuid)
      (.ok (historyOfRows database parts.vmi)) := by
  have tells := Correlation.tells_ofHistory keyed
    (List.mem_of_mem_filter found.vmi)
  rwa [List.isEmpty_eq_false_iff.mpr (List.ne_nil_of_mem found.mem_launchersOf),
    if_neg Bool.false_ne_true] at tells

/-- Where a query for a migration answers, the one for the history of its
instance answers as well and agrees with it, unless a manifest that it reads
nests too deep. -/
theorem ofHistory_agrees (keyed : database.Keyed) {uuid : String}
    {answer : Answer} (answers : ofMigration database uuid = .ok answer) :
    ∃ migration ∈ database.migrations, migration.uuid = uuid ∧
    ∃ vmi ∈ database.vmis, vmi.uuid = answer.vmiUuid ∧
      (¬ FailsTooDeep (ofHistory database answer.vmiUuid) →
        ∃ history, ofHistory database answer.vmiUuid = .ok history ∧
          Agrees migration vmi answer history) ∧
      (database.Readable →
        ¬ FailsTooDeep (ofHistory database answer.vmiUuid)) := by
  obtain ⟨migration, member, rfl, parts, found, rfl⟩ :=
    exists_found_of_ofMigration keyed answers
  have tells := found.tells_ofHistory keyed
  refine ⟨migration, member, rfl, parts.vmi, List.mem_of_mem_filter found.vmi,
    rfl, fun read => ⟨_, tells.eq read, found.agrees keyed⟩, fun readable => ?_⟩
  rintro ⟨column, deep⟩
  cases (tells.eq_of_readable readable).symm.trans deep

/-! ## A migration after another one -/

/-- A query answers if its parts are there. -/
theorem exists_answerOfRows {started : Instant} {vmi : VirtualMachineInstance}
    {target : Pod} {node : String}
    (hasStarted : migration.startTimestamp = some started)
    (newest : newest? (·.creationTime) (instancesOf database migration) =
      some vmi)
    (newestTarget : newest? (·.creationTime) (targetsOf database migration) =
      some target)
    (hasNode : migration.sourceNode = some node)
    (source : ∃ pod ∈ database.pods, IsCandidate vmi node started pod)
    (sourceHandler : ∃ pod ∈ database.pods, isHandler node pod = true)
    (targetHandler : ∃ pod ∈ database.pods,
      isHandler (migration.targetNode.getD target.nodeName) pod = true) :
    ∃ answer, answerOfRows database migration = .ok answer := by
  have handled : ∀ {node : String},
      (∃ pod ∈ database.pods, isHandler node pod = true) →
        ∃ pod, handler? database.pods node started = some pod := by
    rintro node ⟨pod, member, handles⟩
    refine Option.ne_none_iff_exists'.mp fun missing => ?_
    rw [handler?_eq_none_iff.mp missing pod member] at handles
    cases handles
  have found : ∃ pod, sourceLauncher? database.pods vmi.uuid node
      vmi.creationTime started = some pod := by
    obtain ⟨pod, member, candidate⟩ := source
    refine Option.ne_none_iff_exists'.mp fun missing => ?_
    exact sourceLauncher?_eq_none_iff.mp missing pod member candidate
  obtain ⟨source, found⟩ := found
  obtain ⟨first, handled'⟩ := handled sourceHandler
  obtain ⟨second, handled⟩ := handled targetHandler
  simp only [answerOfRows, hasStarted, newest, newestTarget, hasNode, found,
    handled', handled, orMissing, bind, Except.bind]
  exact ⟨_, rfl⟩

def sourceAt (created : Instant) : Pod :=
  { sourceOfMove .null with creationTime := created }

def earlierPod : Pod :=
  { sourceOfMove .null with uuid := "old", nodeName := "node-c" }

def instanceAt (created : Instant) : VirtualMachineInstance :=
  { instanceOfMove with creationTime := created }

def migrationAt (started : Instant) : Migration :=
  { migrationOfMove with startTimestamp := some started }

/-- An instance moves from one node to another, and had a pod on a third one.
The times of the instance and its source pod and of the start are given. -/
def movingAt (created started : Instant) : Database where
  pods := [sourceAt created, earlierPod, targetOfMove,
    handlerOfMove "ha" "node-a", handlerOfMove "hb" "node-b"]
  vmis := [instanceAt created]
  migrations := [migrationAt started]

theorem keyed_movingAt (created started : Instant) :
    (movingAt created started).Keyed := by
  intro kind
  cases kind <;>
    simp [Database.records, movingAt, Record.key, sourceAt, earlierPod,
      sourceOfMove, targetOfMove, handlerOfMove]

theorem readable_movingAt (created started : Instant) :
    (movingAt created started).Readable := by
  constructor
  case pods =>
    simp only [movingAt, List.forall_mem_cons]
    exact ⟨Nat.zero_le _, Nat.zero_le _, Nat.zero_le _, Nat.zero_le _,
      Nat.zero_le _, by simp⟩
  case vmis =>
    simp only [movingAt, List.forall_mem_cons]
    exact ⟨Nat.zero_le _, by simp⟩
  case migrations => simp [movingAt, migrationAt, migrationOfMove]
  case pvcs => simp [movingAt]

theorem exists_ofMigration_movingAt {created started : Instant}
    (ordered : created ≤ started) :
    ∃ answer, ofMigration (movingAt created started) "mig-1" = .ok answer := by
  have member : migrationAt started ∈ (movingAt created started).migrations :=
    List.mem_cons_self
  have named : targetsOf (movingAt created started) (migrationAt started) =
      [targetOfMove] := by
    simp [targetsOf, movingAt, migrationAt, migrationOfMove, sourceAt,
      earlierPod, sourceOfMove, targetOfMove, handlerOfMove]
  obtain ⟨answer, answers⟩ : ∃ answer,
      answerOfRows (movingAt created started) (migrationAt started) =
        .ok answer := by
    refine exists_answerOfRows rfl rfl (by rw [named]; rfl) rfl ?_ ?_ ?_
    · exact ⟨sourceAt created, List.mem_cons_self, rfl, rfl, le_rfl, ordered⟩
    · exact ⟨_, by simp [movingAt], isHandler_handlerOfMove "ha" "node-a"⟩
    · exact ⟨_, by simp [movingAt], isHandler_handlerOfMove "hb" "node-b"⟩
  have tells := (tells_ofMigration (keyed_movingAt created started)
    member).eq_of_readable (readable_movingAt created started)
  exact ⟨answer, tells.trans answers⟩

theorem ofHistory_of_move :
    ∃ answer history,
      ofMigration (movingAt ⟨1709280000, 0⟩ ⟨1709280900, 0⟩) "mig-1" =
        .ok answer ∧
      ofHistory (movingAt ⟨1709280000, 0⟩ ⟨1709280900, 0⟩) answer.vmiUuid =
        .ok history ∧
      Agrees (migrationAt ⟨1709280900, 0⟩) (instanceAt ⟨1709280000, 0⟩) answer
        history := by
  obtain ⟨answer, answers⟩ := exists_ofMigration_movingAt
    (by decide : (⟨1709280000, 0⟩ : Instant) ≤ ⟨1709280900, 0⟩)
  obtain ⟨migration, isMigration, -, vmi, isInstance, -, agrees, read⟩ :=
    ofHistory_agrees (keyed_movingAt _ _) answers
  obtain ⟨history, given, agrees⟩ := agrees (read (readable_movingAt _ _))
  cases List.mem_singleton.mp isMigration
  cases List.mem_singleton.mp isInstance
  exact ⟨answer, history, answers, given, agrees⟩

/-- The instance is created within a leap second, nine tenths of a second into
it, and the migration starts a tenth of a second after it. -/
def movingAfterLeap : Database :=
  movingAt ⟨1709280899, 1900000000⟩ ⟨1709280900, 100000000⟩

/-- The window of the history starts after that of the migration. -/
theorem late_start_of_leap_second :
    ∃ answer history,
      ofMigration movingAfterLeap "mig-1" = .ok answer ∧
      ofHistory movingAfterLeap answer.vmiUuid = .ok history ∧
      ¬ ∃ first ∈ history.startTimestamp, ∃ later ∈ answer.startTimestamp,
        first ≤ later := by
  have keyed : movingAfterLeap.Keyed := keyed_movingAt _ _
  have readable : movingAfterLeap.Readable := readable_movingAt _ _
  obtain ⟨answer, answers⟩ : ∃ answer,
      ofMigration movingAfterLeap "mig-1" = .ok answer :=
    exists_ofMigration_movingAt (by decide)
  obtain ⟨migration, isMigration, -, parts, found, rfl⟩ :=
    exists_found_of_ofMigration keyed answers
  cases List.mem_singleton.mp isMigration
  have isInstance := List.mem_singleton.mp (List.mem_of_mem_filter found.vmi)
  have started := Option.some.inj found.started
  refine ⟨_, _, answers,
    (found.tells_ofHistory keyed).eq_of_readable readable, ?_⟩
  rintro ⟨first, isFirst, later, isLater, ordered⟩
  cases isFirst
  cases isLater
  rw [isInstance, ← started] at ordered
  exact absurd ordered (by decide)

/-! ### A handler that cannot be read back -/

def deepHandler : Pod :=
  { handlerOfMove "hc" "node-c" with content := Json.nested 128 }

/-- The third node has a handler, whose manifest nests too deep. -/
def movingByDeepHandler (created started : Instant) : Database :=
  { movingAt created started with
    pods := (movingAt created started).pods ++ [deepHandler] }

theorem keyed_movingByDeepHandler (created started : Instant) :
    (movingByDeepHandler created started).Keyed := by
  intro kind
  cases kind <;>
    simp [Database.records, movingByDeepHandler, movingAt, Record.key, sourceAt,
      earlierPod, sourceOfMove, targetOfMove, handlerOfMove, deepHandler]

section DeepHandler

variable {created started : Instant}

theorem podsCreatedBy_movingByDeepHandler :
    (movingByDeepHandler created started).podsCreatedBy =
      (movingAt created started).podsCreatedBy := by
  funext vmi node
  simp [Database.podsCreatedBy, movingByDeepHandler, deepHandler, handlerOfMove]

theorem handlerAt_movingByDeepHandler {node : String}
    (other : node ≠ "node-c") :
    handlerAt (movingByDeepHandler created started) node =
      handlerAt (movingAt created started) node := by
  funext at'
  simp [handlerAt, Database.podsOnNode, movingByDeepHandler, deepHandler,
    handlerOfMove, Ne.symm other]

/-- The query for the migration does not read the handler. -/
theorem ofMigration_movingByDeepHandler :
    ofMigration (movingByDeepHandler created started) "mig-1" =
      ofMigration (movingAt created started) "mig-1" := by
  have migration : (movingByDeepHandler created started).getMigration "mig-1" =
      .ok (migrationAt started) := rfl
  have migration' : (movingAt created started).getMigration "mig-1" =
      .ok (migrationAt started) := rfl
  have instances : (movingByDeepHandler created started).findInstance =
      (movingAt created started).findInstance := rfl
  have target : targetPod? (movingByDeepHandler created started)
        (migrationAt started) =
      targetPod? (movingAt created started) (migrationAt started) := by
    simp [targetPod?, Database.findPod, movingByDeepHandler, deepHandler,
      handlerOfMove, migrationAt, migrationOfMove]
  have sourceNode : (migrationAt started).sourceNode = some "node-a" := rfl
  have targetNode : (migrationAt started).targetNode = some "node-b" := rfl
  have claims : claimUuids (movingByDeepHandler created started) =
      claimUuids (movingAt created started) := rfl
  simp only [ofMigration, migration, migration', instances, target, sourceNode,
    targetNode, claims, podsCreatedBy_movingByDeepHandler, Option.getD_some,
    handlerAt_movingByDeepHandler (by decide : "node-a" ≠ "node-c"),
    handlerAt_movingByDeepHandler (by decide : "node-b" ≠ "node-c"), orMissing,
    bind, Except.bind]

theorem not_exists_ofHistory_movingByDeepHandler :
    ¬ ∃ history, ofHistory (movingByDeepHandler created started) "vmi-1" =
      .ok history := by
  have keyed := keyed_movingAt created started
  have found : (movingByDeepHandler created started).getInstance "vmi-1" =
      .ok (instanceAt created) := rfl
  have launchers := (tells_launchers (movingAt created started)
    "vmi-1").eq_of_readable (readable_movingAt created started)
  have unreadable : ∀ at', ¬ ∃ handler,
      handlerAt (movingByDeepHandler created started) "node-c" at' =
        .ok handler := by
    intro at'
    have handles := isHandler_handlerOfMove "hc" "node-c"
    rw [isHandler, Bool.and_eq_true] at handles
    have pods : FailsTooDeep (oldestFirst
        ((movingByDeepHandler created started).pods.filter fun pod =>
          pod.nodeName == "node-c" &&
            isLike (prefixPattern handlerPrefix) pod.name)) := by
      refine Database.oldestFirst_of_deep
        ⟨deepHandler, ?_, Json.maxDepth_lt_depth_nested⟩
      refine List.mem_filter.mpr ⟨by simp [movingByDeepHandler], ?_⟩
      exact Bool.and_eq_true _ _ ▸
        ⟨handles.1, Database.isLike_prefixPattern handles.2⟩
    obtain ⟨column, fails⟩ := pods
    rw [handlerAt, Database.podsOnNode, fails]
    rintro ⟨handler, ⟨⟩⟩
  have visited : "node-c" ∈ (firstVisits
      (launchersOf (movingAt created started) "vmi-1")).map (·.nodeName) := by
    rw [mem_nodes_firstVisits_iff (nodup_launchersOf keyed _)]
    refine ⟨by decide, earlierPod.readBack, ?_, rfl⟩
    rw [(perm_launchersOf _ _).mem_iff]
    exact List.mem_map_of_mem (List.mem_filter.mpr ⟨by simp [movingAt], rfl⟩)
  rintro ⟨history, given⟩
  simp only [ofHistory, found, podsCreatedBy_movingByDeepHandler, launchers,
    bind, Except.bind] at given
  split at given
  · cases given
  split at given
  · cases given
  rename_i visits told
  obtain ⟨first, isFirst, sameNode⟩ := List.mem_map.mp visited
  obtain ⟨visit, read⟩ := exists_mapM_eq_ok_iff.mp ⟨_, told⟩ (visitOf first)
    (visitedNodes_eq _ ▸ List.mem_map_of_mem isFirst)
  cases handler : handlerAt (movingByDeepHandler created started) "node-c"
      first.creationTime with
  | error failure =>
      rw [visitOf, sameNode, handler] at read
      cases read
  | ok handler' => exact unreadable _ ⟨handler', handler⟩

end DeepHandler

/-- A window that starts late, and a handler on a third node that only the
history reads. -/
theorem disagreement_of_leap_second_and_deep_handler :
    (movingAfterLeap.Keyed ∧ movingAfterLeap.Readable ∧
      ∃ answer history,
        ofMigration movingAfterLeap "mig-1" = .ok answer ∧
        ofHistory movingAfterLeap answer.vmiUuid = .ok history ∧
        ¬ ∃ first ∈ history.startTimestamp, ∃ later ∈ answer.startTimestamp,
          first ≤ later) ∧
    (movingByDeepHandler ⟨1709280000, 0⟩ ⟨1709280900, 0⟩).Keyed ∧
      ∃ answer,
        ofMigration (movingByDeepHandler ⟨1709280000, 0⟩ ⟨1709280900, 0⟩)
          "mig-1" = .ok answer ∧
        ¬ ∃ history,
          ofHistory (movingByDeepHandler ⟨1709280000, 0⟩ ⟨1709280900, 0⟩)
            answer.vmiUuid = .ok history := by
  refine ⟨⟨keyed_movingAt _ _, readable_movingAt _ _,
    late_start_of_leap_second⟩, keyed_movingByDeepHandler _ _, ?_⟩
  obtain ⟨answer, answers⟩ := exists_ofMigration_movingAt
    (by decide : (⟨1709280000, 0⟩ : Instant) ≤ ⟨1709280900, 0⟩)
  refine ⟨answer, ofMigration_movingByDeepHandler.trans answers, ?_⟩
  obtain ⟨migration, -, -, parts, found, rfl⟩ :=
    exists_found_of_ofMigration (keyed_movingAt _ _) answers
  have isInstance := List.mem_singleton.mp (List.mem_of_mem_filter found.vmi)
  rw [Parts.answer, isInstance]
  exact not_exists_ofHistory_movingByDeepHandler

end ClusterTrace.Correlation
