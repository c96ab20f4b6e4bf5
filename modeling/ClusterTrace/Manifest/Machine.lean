import ClusterTrace.Manifest.Metadata

/-!
# Manifests of virtual machines, their instances and migrations
-/

namespace ClusterTrace.Manifest

open Shape Json
open Time (Instant)

/-! ## Virtual machines -/

structure MachineSpec where
  running : Option Bool := none
  runStrategy : Option String := none

def MachineSpec.shape : DocumentShape MachineSpec :=
  view "VirtualMachineSpec" {}
    [.optional "running" (asOptional asBool)
        fun v spec => { spec with running := v },
      .optional "runStrategy" (asOptional asText)
        fun v spec => { spec with runStrategy := v }]

/-- The machine is meant to run: the switch says so or, without it, the
strategy. -/
def MachineSpec.isRunning (spec : MachineSpec) : Bool :=
  match spec.running with
  | some running => running
  | none =>
      spec.runStrategy == some "Always" ||
        spec.runStrategy == some "RerunOnFailure"

structure MachineStatus where
  created : Bool := false
  ready : Bool := false
  printableStatus : String := ""

def MachineStatus.shape : DocumentShape MachineStatus :=
  view "VirtualMachineStatus" {}
    [.optional "created" asBool fun v status => { status with created := v },
      .optional "ready" asBool fun v status => { status with ready := v },
      .optional "printableStatus" asText
        fun v status => { status with printableStatus := v }]

structure MachineManifest where
  metadata : Metadata := {}
  spec : MachineSpec := {}
  status : MachineStatus := {}

namespace MachineManifest

def shape : DocumentShape MachineManifest :=
  view "VirtualMachineManifest" {}
    [.optional "metadata" (asStruct Metadata.shape)
        fun v vm => { vm with metadata := v },
      .optional "spec" (asStruct MachineSpec.shape)
        fun v vm => { vm with spec := v },
      .optional "status" (asStruct MachineStatus.shape)
        fun v vm => { vm with status := v }]

def toRecord (vm : MachineManifest) (content : Json) :
    Except MissingField Record := do
  let uuid ← vm.metadata.requireUid
  let name ← vm.metadata.requireName
  return .vm
    { uuid := uuid
      name := name
      namespaceName := vm.metadata.inNamespace
      running := vm.spec.isRunning
      created := vm.status.created
      ready := vm.status.ready
      status := vm.status.printableStatus
      content := content }

end MachineManifest

/-! ## Instances -/

/-- The migration state in a status, of which any part may be left out. -/
def stateShape : DocumentShape MigrationState :=
  { MigrationState.shape with
    name := "MigrationStateManifest"
    fields :=
      MigrationState.shape.fields.map fun field =>
        { field with isRequired := false }
    mayEndEarly := true }

structure InstanceStatus where
  reason : String := ""
  phase : String := ""
  nodeName : String := ""
  migrationState : Option MigrationState := none

def InstanceStatus.shape : DocumentShape InstanceStatus :=
  view "VirtualMachineInstanceStatus" {}
    [.optional "reason" asText fun v status => { status with reason := v },
      .optional "phase" asText fun v status => { status with phase := v },
      .optional "nodeName" asText fun v status => { status with nodeName := v },
      .optional "migrationState" (asOptional (asStruct stateShape))
        fun v status => { status with migrationState := v }]

structure InstanceManifest where
  metadata : Metadata := {}
  status : InstanceStatus := {}

namespace InstanceManifest

def shape : DocumentShape InstanceManifest :=
  view "VirtualMachineInstanceManifest" {}
    [.optional "metadata" (asStruct Metadata.shape)
        fun v vmi => { vmi with metadata := v },
      .optional "status" (asStruct InstanceStatus.shape)
        fun v vmi => { vmi with status := v }]

def toRecord (vmi : InstanceManifest) (content : Json) :
    Except MissingField Record := do
  let uuid ← vmi.metadata.requireUid
  let name ← vmi.metadata.requireName
  let creationTime ← vmi.metadata.requireCreation
  return .vmi
    { uuid := uuid
      name := name
      namespaceName := vmi.metadata.inNamespace
      reason := vmi.status.reason
      phase := vmi.status.phase
      nodeName := vmi.status.nodeName
      creationTime := creationTime
      migrationState := vmi.status.migrationState
      content := content }

end InstanceManifest

/-! ## Migrations -/

structure MigrationSpec where
  vmiName : String := ""

def MigrationSpec.shape : DocumentShape MigrationSpec :=
  view "MigrationSpec" {}
    [.optional "vmiName" asText fun v spec => { spec with vmiName := v }]

structure MigrationStatus where
  phase : Option String := none
  migrationState : Option MigrationState := none

def MigrationStatus.shape : DocumentShape MigrationStatus :=
  view "MigrationStatus" {}
    [.optional "phase" (asOptional asText)
        fun v status => { status with phase := v },
      .optional "migrationState" (asOptional (asStruct stateShape))
        fun v status => { status with migrationState := v }]

structure MigrationManifest where
  metadata : Metadata := {}
  spec : MigrationSpec := {}
  status : MigrationStatus := {}

namespace MigrationManifest

def shape : DocumentShape MigrationManifest :=
  view "MigrationManifest" {}
    [.optional "metadata" (asStruct Metadata.shape)
        fun v migration => { migration with metadata := v },
      .optional "spec" (asStruct MigrationSpec.shape)
        fun v migration => { migration with spec := v },
      .optional "status" (asStruct MigrationStatus.shape)
        fun v migration => { migration with status := v }]

def toRecord (migration : MigrationManifest) (content : Json) :
    Except MissingField Record := do
  let uuid ← migration.metadata.requireUid
  let name ← migration.metadata.requireName
  let state := migration.status.migrationState
  return .migration
    { uuid := uuid
      name := some name
      namespaceName := migration.metadata.inNamespace
      phase := migration.status.phase
      vmiName := migration.spec.vmiName
      creationTime := migration.metadata.creationTimestamp
      targetPod := state.bind (·.targetPod)
      sourceNode := state.bind (·.sourceNode)
      targetNode := state.bind (·.targetNode)
      startTimestamp := state.bind (·.startTimestamp)
      endTimestamp := state.bind (·.endTimestamp)
      completed := state.map (·.completed)
      failed := state.map (·.failed)
      content := some content }

end MigrationManifest
end ClusterTrace.Manifest
