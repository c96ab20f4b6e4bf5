import ClusterTrace.Correlation.Selection
import ClusterTrace.Database.Basic
import ClusterTrace.Database.Like
import ClusterTrace.Failure
import ClusterTrace.Json.Restore
import ClusterTrace.Time.Written
import ClusterTrace.Yaml.Printer

/-!
# Looking up records

Rows are found by key, by name and namespace, or by node.  Times are compared as
the texts that tables hold.  A row is handed out with its manifest as it is read
back from text.
-/

namespace ClusterTrace

open Time (Instant)

/-! ## Reading rows -/

/-- A manifest read back from a table. -/
def restoreContent (content : Json) : Outcome Json :=
  content.restore.mapError fun fault => .json (.syntax' fault)

/-- A pod read back from its row. -/
def Pod.restore (pod : Pod) : Outcome Pod :=
  (restoreContent pod.content).map fun content =>
    { pod with content := content }

def Node.restore (node : Node) : Outcome Node :=
  (restoreContent node.content).map fun content =>
    { node with content := content }

def VirtualMachine.restore (vm : VirtualMachine) : Outcome VirtualMachine :=
  (restoreContent vm.content).map fun content => { vm with content := content }

def VirtualMachineInstance.restore (vmi : VirtualMachineInstance) :
    Outcome VirtualMachineInstance :=
  (restoreContent vmi.content).map fun content =>
    { vmi with content := content }

def Migration.restore (migration : Migration) : Outcome Migration :=
  match migration.content with
  | none => .ok migration
  | some content =>
      (restoreContent content).map fun content =>
        { migration with content := some content }

def VolumeClaim.restore (pvc : VolumeClaim) : Outcome VolumeClaim :=
  (restoreContent pvc.content).map fun content =>
    { pvc with content := content }

def Subscription.restore (subscription : Subscription) : Outcome Subscription :=
  (restoreContent subscription.content).map fun content =>
    { subscription with content := content }

namespace Database

/-- Reads back the row that was looked up. -/
def require {α : Type} (entity id : String) (restore : α → Outcome α) :
    Option α → Outcome α
  | some row => restore row
  | none => .error (.notFound entity id)

/-- Reads back a row, if there is one. -/
def restore? {α : Type} (restore : α → Outcome α) :
    Option α → Outcome (Option α)
  | some row => (restore row).map some
  | none => .ok none

/-! ## By key -/

def getPod (database : Database) (uuid : String) : Outcome Pod :=
  require "pod" uuid Pod.restore
    (database.pods.find? fun pod => pod.uuid = uuid)

def getNode (database : Database) (name : String) : Outcome Node :=
  require "node" name Node.restore
    (database.nodes.find? fun node => node.name = name)

def getMachine (database : Database) (uuid : String) : Outcome VirtualMachine :=
  require "virtual machine" uuid VirtualMachine.restore
    (database.vms.find? fun vm => vm.uuid = uuid)

def getInstance (database : Database) (uuid : String) :
    Outcome VirtualMachineInstance :=
  require "virtual machine instance" uuid VirtualMachineInstance.restore
    (database.vmis.find? fun vmi => vmi.uuid = uuid)

def getMigration (database : Database) (uuid : String) : Outcome Migration :=
  require "migration" uuid Migration.restore
    (database.migrations.find? fun migration => migration.uuid = uuid)

/-- The manifest of a record.  A migration that only an instance implies has
none, which is null. -/
def content (database : Database) (kind : Kind) (id : String) : Outcome Json :=
  let found : Outcome (Option Json) :=
    match kind with
    | .pod =>
        .ok ((database.pods.find? fun row => row.uuid = id).map (·.content))
    | .node =>
        .ok ((database.nodes.find? fun row => row.name = id).map (·.content))
    | .vm => .ok ((database.vms.find? fun row => row.uuid = id).map (·.content))
    | .vmi =>
        .ok ((database.vmis.find? fun row => row.uuid = id).map (·.content))
    | .migration =>
        .ok ((database.migrations.find? fun row => row.uuid = id).map
          (·.content.getD .null))
    | .pvc =>
        .ok ((database.pvcs.find? fun row => row.uuid = id).map (·.content))
    | .subscription =>
        .ok ((database.subscriptions.find? fun row => row.uuid = id).map
          (·.content))
    | .gather => .error (.invalidArgument (.noManifest kind))
  found.bind (require kind.name id restoreContent)

/-- The manifest of a record as a YAML document. -/
def contentYaml (database : Database) (kind : Kind) (id : String) :
    Outcome String :=
  (database.content kind id).map Yaml.print

/-! ## By name -/

/-- The first of the rows with the greatest time. -/
def newest? {α : Type} (time : α → Instant) (rows : List α) : Option α :=
  Correlation.firstLeast?
    (fun a b => decide ((time b).columnText < (time a).columnText)) rows

/-- The newest pod of a name in a namespace. -/
def findPod (database : Database) (name inNamespace : String) :
    Outcome (Option Pod) :=
  restore? Pod.restore
    (newest? (·.creationTime)
      (database.pods.filter
        fun pod => pod.name = name && pod.namespaceName = inNamespace))

/-- The newest instance of a name in a namespace. -/
def findInstance (database : Database) (name inNamespace : String) :
    Outcome (Option VirtualMachineInstance) :=
  restore? VirtualMachineInstance.restore
    (newest? (·.creationTime)
      (database.vmis.filter
        fun vmi => vmi.name = name && vmi.namespaceName = inNamespace))

/-- The first claim of a name in a namespace. -/
def findClaim (database : Database) (name inNamespace : String) :
    Outcome (Option VolumeClaim) :=
  restore? VolumeClaim.restore
    (database.pvcs.find?
      fun pvc => pvc.name = name && pvc.namespaceName = inNamespace)

/-! ## Lists of pods and claims -/

/-- The order of rows by age: by the text of the creation time, then by UID. -/
def isNotAfter (a b : Pod) : Bool :=
  let earlier := a.creationTime.columnText
  let later := b.creationTime.columnText
  decide (earlier < later) || (earlier == later && decide (a.uuid ≤ b.uuid))

/-- Pods read back from their rows, the oldest first. -/
def oldestFirst (pods : List Pod) : Outcome (List Pod) :=
  (pods.mergeSort isNotAfter).mapM Pod.restore

/-- The pods that an instance created, on one node if it is given. -/
def podsCreatedBy (database : Database) (vmi : String) (node : Option String) :
    Outcome (List Pod) :=
  oldestFirst (database.pods.filter fun pod =>
    pod.createdBy == some vmi && node.all (pod.nodeName == ·))

/-- The pods of a node whose names begin with a text. -/
def podsOnNode (database : Database) (node beginning : String) :
    Outcome (List Pod) :=
  let rows := database.pods.filter fun pod =>
    pod.nodeName == node && isLike (prefixPattern beginning) pod.name
  (oldestFirst rows).map
    fun pods => pods.filter fun pod => pod.name.startsWith beginning

/-- The claims of names in a namespace; names without a claim are skipped. -/
def claimsByNames (database : Database) (names : List String)
    (inNamespace : String) : Outcome (List VolumeClaim) :=
  (names.mapM fun name => database.findClaim name inNamespace).map
    fun found => found.filterMap id

/-- The claims that a pod mounts. -/
def podClaims (database : Database) (pod : String) :
    Outcome (List VolumeClaim) := do
  let pod ← database.getPod pod
  database.claimsByNames (Correlation.claimNames [pod]) pod.namespaceName

/-- The claims that any pod of an instance mounts. -/
def instanceClaims (database : Database) (vmi : String) :
    Outcome (List VolumeClaim) := do
  let found ← database.getInstance vmi
  let launchers ← database.podsCreatedBy vmi none
  database.claimsByNames (Correlation.claimNames launchers) found.namespaceName

/-! ## Imported archives -/

/-- An archive of this name was imported. -/
def isImported (database : Database) (name : String) : Bool :=
  database.gathers.any fun gather => gather.name = name

/-- The imported archives, the last one first; those of one time are in the
order of their names. -/
def imports (database : Database) : List Gather :=
  database.gathers.mergeSort fun a b =>
    let first := a.importTime.columnText
    let second := b.importTime.columnText
    decide (second < first) || (first == second && decide (a.name ≤ b.name))

end Database
end ClusterTrace
