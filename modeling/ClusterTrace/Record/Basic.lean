import ClusterTrace.Json.Basic
import ClusterTrace.Record.Kind
import ClusterTrace.Text.Blank
import ClusterTrace.Time.Instant

/-!
# Records

The snapshot of one object of each kind, as it is stored and handed out.  A
virtual machine instance that carries the state of a migration implies a
migration record of its own, `VirtualMachineInstance.derivedMigration?`.
-/

namespace ClusterTrace

open Time (Instant)

structure Pod where
  uuid : String
  kind : String
  name : String
  namespaceName : String
  phase : String
  /-- Containers that are running. -/
  activeContainers : Int
  /-- Containers that are declared. -/
  totalContainers : Int
  nodeName : String
  creationTime : Instant
  /-- The names of the mounted volume claims, joined by commas. -/
  pvcs : String
  /-- The virtual machine instance that created the pod. -/
  createdBy : Option String
  /-- The whole manifest. -/
  content : Json
deriving Repr, Inhabited

structure Node where
  name : String
  systemUuid : String
  /-- `Ready` or `NotReady`. -/
  status : String
  internalIp : String
  hostname : String
  osImage : String
  kernelVersion : String
  kubeletVersion : String
  containerRuntimeVersion : String
  content : Json
deriving Repr, Inhabited

structure VirtualMachine where
  uuid : String
  name : String
  namespaceName : String
  /-- The machine is meant to run. -/
  running : Bool
  /-- Its instance exists. -/
  created : Bool
  /-- Its instance is ready. -/
  ready : Bool
  status : String
  content : Json
deriving Repr, Inhabited

/-- The migration state in the status of a virtual machine instance. -/
structure MigrationState where
  migrationUid : String
  targetPod : Option String
  sourceNode : Option String
  targetNode : Option String
  startTimestamp : Option Instant
  endTimestamp : Option Instant
  completed : Bool
  failed : Bool
deriving Repr, DecidableEq, Inhabited

structure VirtualMachineInstance where
  uuid : String
  name : String
  namespaceName : String
  reason : String
  phase : String
  nodeName : String
  creationTime : Instant
  migrationState : Option MigrationState
  content : Json
deriving Repr, Inhabited

/-- A migration of a virtual machine instance.  What its source does not tell is
absent. -/
structure Migration where
  uuid : String
  name : Option String
  namespaceName : String
  phase : Option String
  vmiName : String
  creationTime : Option Instant
  targetPod : Option String
  sourceNode : Option String
  targetNode : Option String
  startTimestamp : Option Instant
  endTimestamp : Option Instant
  completed : Option Bool
  failed : Option Bool
  content : Option Json
deriving Repr, Inhabited

/-- A claim of a persistent volume. -/
structure VolumeClaim where
  uuid : String
  name : String
  namespaceName : String
  /-- The access modes, joined by commas. -/
  accessModes : String
  storageClassName : String
  volumeName : String
  volumeMode : String
  phase : String
  capacity : String
  creationTime : Option Instant
  content : Json
deriving Repr, Inhabited

/-- A subscription to an operator. -/
structure Subscription where
  uuid : String
  name : String
  namespaceName : String
  source : String
  sourceNamespace : String
  startingCsv : String
  currentCsv : String
  installedCsv : String
  state : String
  creationTime : Option Instant
  content : Json
deriving Repr, Inhabited

/-- An archive that has been imported. -/
structure Gather where
  name : String
  importTime : Instant
  gatherTime : Instant
deriving Repr, DecidableEq, Inhabited

/-- A record of any kind. -/
inductive Record where
  | pod (record : Pod)
  | node (record : Node)
  | vm (record : VirtualMachine)
  | vmi (record : VirtualMachineInstance)
  | migration (record : Migration)
  | pvc (record : VolumeClaim)
  | subscription (record : Subscription)
  | gather (record : Gather)
deriving Repr, Inhabited

/-- The identity of a record: its UID, or the name of a node or an archive. -/
def Record.key : Record → Key
  | .pod record => ⟨.pod, record.uuid⟩
  | .node record => ⟨.node, record.name⟩
  | .vm record => ⟨.vm, record.uuid⟩
  | .vmi record => ⟨.vmi, record.uuid⟩
  | .migration record => ⟨.migration, record.uuid⟩
  | .pvc record => ⟨.pvc, record.uuid⟩
  | .subscription record => ⟨.subscription, record.uuid⟩
  | .gather record => ⟨.gather, record.name⟩

/-- The names of the claims a pod mounts, in order. -/
def Pod.pvcNames (pod : Pod) : List String :=
  ((pod.pvcs.toList.splitOn ',').map
    fun name => String.ofList (Text.trim name)).filter
    fun name => !name.isEmpty

/-- The migration that the status of an instance implies, if it names one. -/
def VirtualMachineInstance.derivedMigration? (vmi : VirtualMachineInstance) :
    Option Migration :=
  match vmi.migrationState with
  | none => none
  | some state =>
      if state.migrationUid.isEmpty then none
      else
        some
          { uuid := state.migrationUid
            name := none
            namespaceName := vmi.namespaceName
            phase := none
            vmiName := vmi.name
            creationTime := none
            targetPod := state.targetPod
            sourceNode := state.sourceNode
            targetNode := state.targetNode
            startTimestamp := state.startTimestamp
            endTimestamp := state.endTimestamp
            completed := some state.completed
            failed := some state.failed
            content := none }

end ClusterTrace
