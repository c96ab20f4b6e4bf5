import ClusterTrace.Manifest.Metadata

/-!
# Manifests of pods
-/

namespace ClusterTrace.Manifest

open Shape Json

/-- The mounting of a claim. -/
structure ClaimSource where
  claimName : String := ""

def ClaimSource.shape : DocumentShape ClaimSource :=
  view "PersistentVolumeClaimSource" {}
    [.optional "claimName" asText
        fun v source => { source with claimName := v }]

structure Volume where
  name : String := ""
  claim : Option ClaimSource := none

def Volume.shape : DocumentShape Volume :=
  view "Volume" {}
    [.optional "name" asText fun v volume => { volume with name := v },
      .optional "persistentVolumeClaim"
        (asOptional (asStruct ClaimSource.shape))
        fun v volume => { volume with claim := v }]

/-- A container that is declared. -/
structure Container where
  name : String := ""

def Container.shape : DocumentShape Container :=
  view "Container" {}
    [.optional "name" asText fun v container => { container with name := v }]

structure PodSpec where
  nodeName : String := ""
  containers : List Container := []
  volumes : List Volume := []

def PodSpec.shape : DocumentShape PodSpec :=
  view "PodSpec" {}
    [.optional "nodeName" asText fun v spec => { spec with nodeName := v },
      .optional "containers" (asList (asStruct Container.shape))
        fun v spec => { spec with containers := v },
      .optional "volumes" (asList (asStruct Volume.shape))
        fun v spec => { spec with volumes := v }]

/-- The state of a container, of which one member is set. -/
structure ContainerState where
  running : Option Json := none
  waiting : Option Json := none
  terminated : Option Json := none

def ContainerState.shape : DocumentShape ContainerState :=
  view "ContainerState" {}
    [.optional "running" (asOptional asValue)
        fun v state => { state with running := v },
      .optional "waiting" (asOptional asValue)
        fun v state => { state with waiting := v },
      .optional "terminated" (asOptional asValue)
        fun v state => { state with terminated := v }]

structure ContainerStatus where
  name : String := ""
  state : ContainerState := {}

def ContainerStatus.shape : DocumentShape ContainerStatus :=
  view "ContainerStatus" {}
    [.optional "name" asText fun v status => { status with name := v },
      .optional "state" (asStruct ContainerState.shape)
        fun v status => { status with state := v }]

structure PodStatus where
  phase : String := ""
  hostIp : String := ""
  containers : List ContainerStatus := []

def PodStatus.shape : DocumentShape PodStatus :=
  view "PodStatus" {}
    [.optional "phase" asText fun v status => { status with phase := v },
      .optional "hostIP" asText fun v status => { status with hostIp := v },
      .optional "containerStatuses" (asList (asStruct ContainerStatus.shape))
        fun v status => { status with containers := v }]

structure PodManifest where
  kind : Option String := none
  metadata : Metadata := {}
  spec : PodSpec := {}
  status : PodStatus := {}

namespace PodManifest

def shape : DocumentShape PodManifest :=
  view "PodManifest" {}
    [.optional "kind" (asOptional asText) fun v pod => { pod with kind := v },
      .optional "metadata" (asStruct Metadata.shape)
        fun v pod => { pod with metadata := v },
      .optional "spec" (asStruct PodSpec.shape)
        fun v pod => { pod with spec := v },
      .optional "status" (asStruct PodStatus.shape)
        fun v pod => { pod with status := v }]

/-- How many containers are running. -/
def activeContainers (pod : PodManifest) : Nat :=
  pod.status.containers.countP fun status => status.state.running.isSome

/-- The names of the claims that are mounted, in the order of the volumes. -/
def claimNames (pod : PodManifest) : List String :=
  (pod.spec.volumes.filterMap
    fun volume => volume.claim.map (·.claimName)).filter
    fun name => !name.isEmpty

def toRecord (pod : PodManifest) (content : Json) :
    Except MissingField Record := do
  let uuid ← pod.metadata.requireUid
  let name ← pod.metadata.requireName
  let creationTime ← pod.metadata.requireCreation
  return .pod
    { uuid := uuid
      kind := pod.kind.getD "Pod"
      name := name
      namespaceName := pod.metadata.inNamespace
      phase := pod.status.phase
      activeContainers := pod.activeContainers
      totalContainers := pod.spec.containers.length
      nodeName := pod.spec.nodeName
      creationTime := creationTime
      pvcs := ",".intercalate pod.claimNames
      createdBy := pod.metadata.label? createdByLabel
      content := content }

end PodManifest
end ClusterTrace.Manifest
