import ClusterTrace.Database.Lookup
import ClusterTrace.Record.Document

/-!
# Queries

What belongs to an event: the pods and handlers that took part, the claims, and
the window of time in which to look at logs.  A query names the first part that
it misses, in the order in which the parts depend on each other.
-/

namespace ClusterTrace.Correlation

open Time (Instant)

/-- The answer to a query.  What a query does not ask for is empty. -/
structure Answer where
  namespaceName : String := ""
  sourcePodUuid : String := ""
  targetPodUuid : String := ""
  vmiUuid : String := ""
  migrationUuid : String := ""
  sourcePod : String := ""
  targetPod : String := ""
  /-- The start of the window. -/
  startTimestamp : Option Instant := none
  /-- The end of the window; it is open where there is none. -/
  endTimestamp : Option Instant := none
  sourceHandler : String := ""
  targetHandler : String := ""
  /-- The UIDs of the claims. -/
  pvcs : List String := []
  /-- The launchers of an instance, the oldest first. -/
  launchers : List Pod := []
  /-- The handlers of the nodes that were visited, in order of the first
  visit. -/
  handlers : List Pod := []
  /-- The visited nodes without a handler. -/
  skippedNodes : List String := []
deriving Repr, Inhabited

def Answer.toJson (answer : Answer) : Json :=
  .object
    [("namespace", .string answer.namespaceName),
      ("sourcePodUuid", .string answer.sourcePodUuid),
      ("targetPodUuid", .string answer.targetPodUuid),
      ("vmiUuid", .string answer.vmiUuid),
      ("migrationUuid", .string answer.migrationUuid),
      ("sourcePod", .string answer.sourcePod),
      ("targetPod", .string answer.targetPod),
      ("startTimestamp", .ofInstant? answer.startTimestamp),
      ("endTimestamp", .ofInstant? answer.endTimestamp),
      ("sourceHandler", .string answer.sourceHandler),
      ("targetHandler", .string answer.targetHandler),
      ("pvcs", .array (answer.pvcs.map .string)),
      ("involvedVirtLaunchers", .array (answer.launchers.map Pod.toJson)),
      ("involvedVirtHandlers", .array (answer.handlers.map Pod.toJson)),
      ("skippedNodes", .array (answer.skippedNodes.map .string))]

/-- What was found, or the missing part. -/
def orMissing {α : Type} (link : MissingLink) : Option α → Outcome α
  | some found => .ok found
  | none => .error (.incomplete link)

/-- The handler of a node at a time, among the pods of a database. -/
def handlerAt (database : Database) (node : String) (at' : Instant) :
    Outcome (Option Pod) :=
  (database.podsOnNode node handlerPrefix).map
    fun pods => handler? pods node at'

/-- The UIDs of the claims that pods mount. -/
def claimUuids (database : Database) (pods : List Pod) (inNamespace : String) :
    Outcome (List String) :=
  (database.claimsByNames (claimNames pods) inNamespace).map
    fun claims => claims.map (·.uuid)

/-- What belongs to a pod. -/
def ofPod (database : Database) (uuid : String) : Outcome Answer := do
  let pod ← database.getPod uuid
  let pvcs ← claimUuids database [pod] pod.namespaceName
  return { namespaceName := pod.namespaceName
           sourcePodUuid := pod.uuid
           sourcePod := pod.name
           startTimestamp := some (windowStart pod.creationTime)
           pvcs := pvcs }

/-- What belongs to an instance on a node. -/
def ofInstance (database : Database) (uuid node : String) : Outcome Answer := do
  let candidates ← database.podsCreatedBy uuid (some node)
  let launcher ← orMissing .launcher (launcher? candidates uuid node)
  let handler ←
    orMissing .handler (← handlerAt database node launcher.creationTime)
  let pvcs ← claimUuids database [launcher] launcher.namespaceName
  return { namespaceName := launcher.namespaceName
           sourcePodUuid := launcher.uuid
           vmiUuid := uuid
           sourcePod := launcher.name
           startTimestamp := some (windowStart launcher.creationTime)
           sourceHandler := handler.name
           pvcs := pvcs }

/-- The pod that a migration names as its target. -/
def targetPod? (database : Database) (migration : Migration) :
    Outcome (Option Pod) :=
  match migration.targetPod with
  | some name => database.findPod name migration.namespaceName
  | none => .ok none

/-- What belongs to a migration. -/
def ofMigration (database : Database) (uuid : String) : Outcome Answer := do
  let migration ← database.getMigration uuid
  let started ← orMissing .migrationStart migration.startTimestamp
  let vmi ← orMissing .vmi
    (← database.findInstance migration.vmiName migration.namespaceName)
  let target ← orMissing .target (← targetPod? database migration)
  let sourceNode ← orMissing .source migration.sourceNode
  let candidates ← database.podsCreatedBy vmi.uuid (some sourceNode)
  let source ← orMissing .source
    (sourceLauncher? candidates vmi.uuid sourceNode vmi.creationTime started)
  let sourceHandler ←
    orMissing .sourceHandler (← handlerAt database sourceNode started)
  let targetNode := migration.targetNode.getD target.nodeName
  let targetHandler ←
    orMissing .targetHandler (← handlerAt database targetNode started)
  let launchers ← database.podsCreatedBy vmi.uuid none
  let pvcs ← claimUuids database launchers vmi.namespaceName
  return { namespaceName := migration.namespaceName
           sourcePodUuid := source.uuid
           targetPodUuid := target.uuid
           vmiUuid := vmi.uuid
           migrationUuid := migration.uuid
           sourcePod := source.name
           targetPod := target.name
           startTimestamp := some (windowStart started)
           endTimestamp := migration.endTimestamp
           sourceHandler := sourceHandler.name
           targetHandler := targetHandler.name
           pvcs := pvcs }

/-- What belongs to the whole life of an instance.  A node without a handler is
skipped. -/
def ofHistory (database : Database) (uuid : String) : Outcome Answer := do
  let vmi ← database.getInstance uuid
  let launchers ← database.podsCreatedBy uuid none
  if launchers.isEmpty then throw (.incomplete .launcher)
  let visits ← (visitedNodes launchers).mapM fun (node, first) =>
    (handlerAt database node first).map (node, ·)
  let pvcs ← claimUuids database launchers vmi.namespaceName
  return { namespaceName := vmi.namespaceName
           vmiUuid := uuid
           startTimestamp := some (windowStart vmi.creationTime)
           pvcs := pvcs
           launchers := launchers
           handlers := visits.filterMap (·.2)
           skippedNodes := (visits.filter (·.2.isNone)).map (·.1) }

end ClusterTrace.Correlation
