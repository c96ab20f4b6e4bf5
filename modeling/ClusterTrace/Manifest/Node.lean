import ClusterTrace.Manifest.Metadata

/-!
# Manifests of nodes
-/

namespace ClusterTrace.Manifest

open Shape Json

structure NodeCondition where
  type : String := ""
  status : String := ""

def NodeCondition.shape : DocumentShape NodeCondition :=
  view "NodeCondition" {}
    [.optional "type" asText fun v condition => { condition with type := v },
      .optional "status" asText
        fun v condition => { condition with status := v }]

structure NodeAddress where
  type : String := ""
  address : String := ""

def NodeAddress.shape : DocumentShape NodeAddress :=
  view "NodeAddress" {}
    [.optional "type" asText fun v address => { address with type := v },
      .optional "address" asText fun v address => { address with address := v }]

/-- What a node tells of its system. -/
structure NodeSystem where
  systemUuid : String := ""
  osImage : String := ""
  kernelVersion : String := ""
  kubeletVersion : String := ""
  containerRuntimeVersion : String := ""

def NodeSystem.shape : DocumentShape NodeSystem :=
  view "NodeSystemInfo" {}
    [.optional "systemUUID" asText
        fun v system => { system with systemUuid := v },
      .optional "osImage" asText fun v system => { system with osImage := v },
      .optional "kernelVersion" asText
        fun v system => { system with kernelVersion := v },
      .optional "kubeletVersion" asText
        fun v system => { system with kubeletVersion := v },
      .optional "containerRuntimeVersion" asText
        fun v system => { system with containerRuntimeVersion := v }]

structure NodeStatus where
  conditions : List NodeCondition := []
  addresses : List NodeAddress := []
  system : NodeSystem := {}

def NodeStatus.shape : DocumentShape NodeStatus :=
  view "NodeStatus" {}
    [.optional "conditions" (asList (asStruct NodeCondition.shape))
        fun v status => { status with conditions := v },
      .optional "addresses" (asList (asStruct NodeAddress.shape))
        fun v status => { status with addresses := v },
      .optional "nodeInfo" (asStruct NodeSystem.shape)
        fun v status => { status with system := v }]

structure NodeManifest where
  metadata : Metadata := {}
  status : NodeStatus := {}

namespace NodeManifest

def shape : DocumentShape NodeManifest :=
  view "NodeManifest" {}
    [.optional "metadata" (asStruct Metadata.shape)
        fun v node => { node with metadata := v },
      .optional "status" (asStruct NodeStatus.shape)
        fun v node => { node with status := v }]

/-- The condition `Ready` holds. -/
def isReady (node : NodeManifest) : Bool :=
  node.status.conditions.any fun condition =>
    condition.type = "Ready" && condition.status = "True"

/-- The first address of a type, empty if there is none. -/
def address (node : NodeManifest) (type : String) : String :=
  match node.status.addresses.find? fun address => address.type = type with
  | some found => found.address
  | none => ""

def toRecord (node : NodeManifest) (content : Json) :
    Except MissingField Record := do
  let name ← node.metadata.requireName
  let system := node.status.system
  return .node
    { name := name
      systemUuid := system.systemUuid
      status := if node.isReady then "Ready" else "NotReady"
      internalIp := node.address "InternalIP"
      hostname := node.address "Hostname"
      osImage := system.osImage
      kernelVersion := system.kernelVersion
      kubeletVersion := system.kubeletVersion
      containerRuntimeVersion := system.containerRuntimeVersion
      content := content }

end NodeManifest
end ClusterTrace.Manifest
