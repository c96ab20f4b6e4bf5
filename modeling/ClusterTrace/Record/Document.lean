import ClusterTrace.Json.Shape
import ClusterTrace.Record.Basic
import ClusterTrace.Time.Written

/-!
# Records as JSON documents

Each record type has a JSON form, written with its fields in order and read with
every field required that is not optional.
-/

namespace ClusterTrace

open Shape Json
open Time (Instant)

def Json.ofInstant (instant : Instant) : Json :=
  .string instant.text

/-- An instant as a JSON value, or null. -/
def Json.ofInstant? : Option Instant → Json
  | some instant => .ofInstant instant
  | none => .null

/-- A truth value as a JSON value, or null. -/
def Json.ofBool? : Option Bool → Json
  | some value => .bool value
  | none => .null

/-- The record type with these fields in order. -/
abbrev DocumentShape (σ : Type) := Struct Json Mismatch σ

namespace Pod

/-- The JSON form of a pod. -/
def toJson (pod : Pod) : Json :=
  .object
    [("uuid", .string pod.uuid), ("kind", .string pod.kind),
      ("name", .string pod.name), ("namespace", .string pod.namespaceName),
      ("phase", .string pod.phase),
      ("activeContainers", .int pod.activeContainers),
      ("totalContainers", .int pod.totalContainers),
      ("nodeName", .string pod.nodeName),
      ("creationTime", .ofInstant pod.creationTime), ("pvcs", .string pod.pvcs),
      ("createdBy", .ofText? pod.createdBy), ("content", pod.content)]

def shape : DocumentShape Pod where
  name := "Pod"
  start := default
  fields :=
    [.required "uuid" asText fun v pod => { pod with uuid := v },
      .required "kind" asText fun v pod => { pod with kind := v },
      .required "name" asText fun v pod => { pod with name := v },
      .required "namespace" asText fun v pod => { pod with namespaceName := v },
      .required "phase" asText fun v pod => { pod with phase := v },
      .required "activeContainers" asInt64
        fun v pod => { pod with activeContainers := v },
      .required "totalContainers" asInt64
        fun v pod => { pod with totalContainers := v },
      .required "nodeName" asText fun v pod => { pod with nodeName := v },
      .required "creationTime" asInstant
        fun v pod => { pod with creationTime := v },
      .required "pvcs" asText fun v pod => { pod with pvcs := v },
      .optional "createdBy" (asOptional asText)
        fun v pod => { pod with createdBy := v },
      .required "content" asValue fun v pod => { pod with content := v }]

end Pod

namespace Node

/-- The JSON form of a node. -/
def toJson (node : Node) : Json :=
  .object
    [("name", .string node.name), ("systemUuid", .string node.systemUuid),
      ("status", .string node.status), ("internalIp", .string node.internalIp),
      ("hostname", .string node.hostname), ("osImage", .string node.osImage),
      ("kernelVersion", .string node.kernelVersion),
      ("kubeletVersion", .string node.kubeletVersion),
      ("containerRuntimeVersion", .string node.containerRuntimeVersion),
      ("content", node.content)]

def shape : DocumentShape Node where
  name := "Node"
  start := default
  fields :=
    [.required "name" asText fun v node => { node with name := v },
      .required "systemUuid" asText fun v node => { node with systemUuid := v },
      .required "status" asText fun v node => { node with status := v },
      .required "internalIp" asText fun v node => { node with internalIp := v },
      .required "hostname" asText fun v node => { node with hostname := v },
      .required "osImage" asText fun v node => { node with osImage := v },
      .required "kernelVersion" asText
        fun v node => { node with kernelVersion := v },
      .required "kubeletVersion" asText
        fun v node => { node with kubeletVersion := v },
      .required "containerRuntimeVersion" asText
        fun v node => { node with containerRuntimeVersion := v },
      .required "content" asValue fun v node => { node with content := v }]

end Node

namespace VirtualMachine

/-- The JSON form of a virtual machine. -/
def toJson (vm : VirtualMachine) : Json :=
  .object
    [("uuid", .string vm.uuid), ("name", .string vm.name),
      ("namespace", .string vm.namespaceName), ("running", .bool vm.running),
      ("created", .bool vm.created), ("ready", .bool vm.ready),
      ("status", .string vm.status), ("content", vm.content)]

def shape : DocumentShape VirtualMachine where
  name := "VirtualMachine"
  start := default
  fields :=
    [.required "uuid" asText fun v vm => { vm with uuid := v },
      .required "name" asText fun v vm => { vm with name := v },
      .required "namespace" asText fun v vm => { vm with namespaceName := v },
      .required "running" asBool fun v vm => { vm with running := v },
      .required "created" asBool fun v vm => { vm with created := v },
      .required "ready" asBool fun v vm => { vm with ready := v },
      .required "status" asText fun v vm => { vm with status := v },
      .required "content" asValue fun v vm => { vm with content := v }]

end VirtualMachine

namespace MigrationState

/-- The JSON form of a migration state. -/
def toJson (state : MigrationState) : Json :=
  .object
    [("migrationUid", .string state.migrationUid),
      ("targetPod", .ofText? state.targetPod),
      ("sourceNode", .ofText? state.sourceNode),
      ("targetNode", .ofText? state.targetNode),
      ("startTimestamp", .ofInstant? state.startTimestamp),
      ("endTimestamp", .ofInstant? state.endTimestamp),
      ("completed", .bool state.completed), ("failed", .bool state.failed)]

def shape : DocumentShape MigrationState where
  name := "MigrationState"
  start := default
  fields :=
    [.required "migrationUid" asText
        fun v state => { state with migrationUid := v },
      .optional "targetPod" (asOptional asText)
        fun v state => { state with targetPod := v },
      .optional "sourceNode" (asOptional asText)
        fun v state => { state with sourceNode := v },
      .optional "targetNode" (asOptional asText)
        fun v state => { state with targetNode := v },
      .optional "startTimestamp" (asOptional asInstant)
        fun v state => { state with startTimestamp := v },
      .optional "endTimestamp" (asOptional asInstant)
        fun v state => { state with endTimestamp := v },
      .required "completed" asBool fun v state => { state with completed := v },
      .required "failed" asBool fun v state => { state with failed := v }]

end MigrationState

namespace VirtualMachineInstance

/-- The JSON form of a virtual machine instance. -/
def toJson (vmi : VirtualMachineInstance) : Json :=
  .object
    [("uuid", .string vmi.uuid), ("name", .string vmi.name),
      ("namespace", .string vmi.namespaceName), ("reason", .string vmi.reason),
      ("phase", .string vmi.phase), ("nodeName", .string vmi.nodeName),
      ("creationTime", .ofInstant vmi.creationTime),
      ("migrationState",
        match vmi.migrationState with
        | some state => state.toJson
        | none => .null),
      ("content", vmi.content)]

def shape : DocumentShape VirtualMachineInstance where
  name := "VirtualMachineInstance"
  start := default
  fields :=
    [.required "uuid" asText fun v vmi => { vmi with uuid := v },
      .required "name" asText fun v vmi => { vmi with name := v },
      .required "namespace" asText fun v vmi => { vmi with namespaceName := v },
      .required "reason" asText fun v vmi => { vmi with reason := v },
      .required "phase" asText fun v vmi => { vmi with phase := v },
      .required "nodeName" asText fun v vmi => { vmi with nodeName := v },
      .required "creationTime" asInstant
        fun v vmi => { vmi with creationTime := v },
      .optional "migrationState" (asOptional (asStruct MigrationState.shape))
        fun v vmi => { vmi with migrationState := v },
      .required "content" asValue fun v vmi => { vmi with content := v }]

end VirtualMachineInstance

namespace Migration

/-- The JSON form of a migration. -/
def toJson (migration : Migration) : Json :=
  .object
    [("uuid", .string migration.uuid), ("name", .ofText? migration.name),
      ("namespace", .string migration.namespaceName),
      ("phase", .ofText? migration.phase),
      ("vmiName", .string migration.vmiName),
      ("creationTime", .ofInstant? migration.creationTime),
      ("targetPod", .ofText? migration.targetPod),
      ("sourceNode", .ofText? migration.sourceNode),
      ("targetNode", .ofText? migration.targetNode),
      ("startTimestamp", .ofInstant? migration.startTimestamp),
      ("endTimestamp", .ofInstant? migration.endTimestamp),
      ("completed", .ofBool? migration.completed),
      ("failed", .ofBool? migration.failed),
      ("content", migration.content.getD .null)]

def shape : DocumentShape Migration where
  name := "VirtualMachineInstanceMigration"
  start := default
  fields :=
    [.required "uuid" asText fun v row => { row with uuid := v },
      .optional "name" (asOptional asText) fun v row => { row with name := v },
      .required "namespace" asText fun v row => { row with namespaceName := v },
      .optional "phase" (asOptional asText)
        fun v row => { row with phase := v },
      .required "vmiName" asText fun v row => { row with vmiName := v },
      .optional "creationTime" (asOptional asInstant)
        fun v row => { row with creationTime := v },
      .optional "targetPod" (asOptional asText)
        fun v row => { row with targetPod := v },
      .optional "sourceNode" (asOptional asText)
        fun v row => { row with sourceNode := v },
      .optional "targetNode" (asOptional asText)
        fun v row => { row with targetNode := v },
      .optional "startTimestamp" (asOptional asInstant)
        fun v row => { row with startTimestamp := v },
      .optional "endTimestamp" (asOptional asInstant)
        fun v row => { row with endTimestamp := v },
      .optional "completed" (asOptional asBool)
        fun v row => { row with completed := v },
      .optional "failed" (asOptional asBool)
        fun v row => { row with failed := v },
      .optional "content" (asOptional asValue)
        fun v row => { row with content := v }]

end Migration

namespace VolumeClaim

/-- The JSON form of a volume claim. -/
def toJson (pvc : VolumeClaim) : Json :=
  .object
    [("uuid", .string pvc.uuid), ("name", .string pvc.name),
      ("namespace", .string pvc.namespaceName),
      ("accessModes", .string pvc.accessModes),
      ("storageClassName", .string pvc.storageClassName),
      ("volumeName", .string pvc.volumeName),
      ("volumeMode", .string pvc.volumeMode), ("phase", .string pvc.phase),
      ("capacity", .string pvc.capacity),
      ("creationTime", .ofInstant? pvc.creationTime), ("content", pvc.content)]

def shape : DocumentShape VolumeClaim where
  name := "PersistentVolumeClaim"
  start := default
  fields :=
    [.required "uuid" asText fun v pvc => { pvc with uuid := v },
      .required "name" asText fun v pvc => { pvc with name := v },
      .required "namespace" asText fun v pvc => { pvc with namespaceName := v },
      .required "accessModes" asText fun v pvc => { pvc with accessModes := v },
      .required "storageClassName" asText
        fun v pvc => { pvc with storageClassName := v },
      .required "volumeName" asText fun v pvc => { pvc with volumeName := v },
      .required "volumeMode" asText fun v pvc => { pvc with volumeMode := v },
      .required "phase" asText fun v pvc => { pvc with phase := v },
      .required "capacity" asText fun v pvc => { pvc with capacity := v },
      .optional "creationTime" (asOptional asInstant)
        fun v pvc => { pvc with creationTime := v },
      .required "content" asValue fun v pvc => { pvc with content := v }]

end VolumeClaim

namespace Subscription

/-- The JSON form of a subscription. -/
def toJson (sub : Subscription) : Json :=
  .object
    [("uuid", .string sub.uuid), ("name", .string sub.name),
      ("namespace", .string sub.namespaceName), ("source", .string sub.source),
      ("sourceNamespace", .string sub.sourceNamespace),
      ("startingCsv", .string sub.startingCsv),
      ("currentCsv", .string sub.currentCsv),
      ("installedCsv", .string sub.installedCsv), ("state", .string sub.state),
      ("creationTime", .ofInstant? sub.creationTime), ("content", sub.content)]

def shape : DocumentShape Subscription where
  name := "Subscription"
  start := default
  fields :=
    [.required "uuid" asText fun v sub => { sub with uuid := v },
      .required "name" asText fun v sub => { sub with name := v },
      .required "namespace" asText fun v sub => { sub with namespaceName := v },
      .required "source" asText fun v sub => { sub with source := v },
      .required "sourceNamespace" asText
        fun v sub => { sub with sourceNamespace := v },
      .required "startingCsv" asText fun v sub => { sub with startingCsv := v },
      .required "currentCsv" asText fun v sub => { sub with currentCsv := v },
      .required "installedCsv" asText
        fun v sub => { sub with installedCsv := v },
      .required "state" asText fun v sub => { sub with state := v },
      .optional "creationTime" (asOptional asInstant)
        fun v sub => { sub with creationTime := v },
      .required "content" asValue fun v sub => { sub with content := v }]

end Subscription

namespace Gather

/-- The JSON form of an imported archive. -/
def toJson (gather : Gather) : Json :=
  .object
    [("name", .string gather.name),
      ("importTime", .ofInstant gather.importTime),
      ("gatherTime", .ofInstant gather.gatherTime)]

def shape : DocumentShape Gather where
  name := "ImportedMustGather"
  start := default
  fields :=
    [.required "name" asText fun v gather => { gather with name := v },
      .required "importTime" asInstant
        fun v gather => { gather with importTime := v },
      .required "gatherTime" asInstant
        fun v gather => { gather with gatherTime := v }]

end Gather

namespace Record

/-- The JSON form of a record. -/
def toJson : Record → Json
  | .pod record => record.toJson
  | .node record => record.toJson
  | .vm record => record.toJson
  | .vmi record => record.toJson
  | .migration record => record.toJson
  | .pvc record => record.toJson
  | .subscription record => record.toJson
  | .gather record => record.toJson

/-- Reads a record of the given kind. -/
def read (kind : Kind) (document : Json) : Except Mismatch Record :=
  match kind with
  | .pod => (asStruct Pod.shape document).map .pod
  | .node => (asStruct Node.shape document).map .node
  | .vm => (asStruct VirtualMachine.shape document).map .vm
  | .vmi => (asStruct VirtualMachineInstance.shape document).map .vmi
  | .migration => (asStruct Migration.shape document).map .migration
  | .pvc => (asStruct VolumeClaim.shape document).map .pvc
  | .subscription => (asStruct Subscription.shape document).map .subscription
  | .gather => (asStruct Gather.shape document).map .gather

end Record
end ClusterTrace
