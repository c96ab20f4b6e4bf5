import ClusterTrace.Json.Printer
import ClusterTrace.Manifest.Metadata

/-!
# Manifests of volume claims
-/

namespace ClusterTrace.Manifest

open Shape Json

structure ClaimSpec where
  accessModes : List String := []
  storageClassName : Option String := none
  volumeName : String := ""
  volumeMode : Option String := none

def ClaimSpec.shape : DocumentShape ClaimSpec :=
  view "PersistentVolumeClaimSpec" {}
    [.optional "accessModes" (asList asText)
        fun v spec => { spec with accessModes := v },
      .optional "storageClassName" (asOptional asText)
        fun v spec => { spec with storageClassName := v },
      .optional "volumeName" asText fun v spec => { spec with volumeName := v },
      .optional "volumeMode" (asOptional asText)
        fun v spec => { spec with volumeMode := v }]

structure ClaimStatus where
  phase : String := ""
  capacity : List (String × Json) := []

def ClaimStatus.shape : DocumentShape ClaimStatus :=
  view "PersistentVolumeClaimStatus" {}
    [.optional "phase" asText fun v status => { status with phase := v },
      .optional "capacity" (asMap asValue)
        fun v status => { status with capacity := v }]

/-- The storage that is bound, as a text. -/
def ClaimStatus.storage (status : ClaimStatus) : String :=
  match status.capacity.lookup "storage" with
  | some (.string text) => text
  | some .null => ""
  | some other => other.compact
  | none => ""

structure ClaimManifest where
  metadata : Metadata := {}
  spec : ClaimSpec := {}
  status : ClaimStatus := {}

namespace ClaimManifest

def shape : DocumentShape ClaimManifest :=
  view "PersistentVolumeClaimManifest" {}
    [.optional "metadata" (asStruct Metadata.shape)
        fun v claim => { claim with metadata := v },
      .optional "spec" (asStruct ClaimSpec.shape)
        fun v claim => { claim with spec := v },
      .optional "status" (asStruct ClaimStatus.shape)
        fun v claim => { claim with status := v }]

def toRecord (claim : ClaimManifest) (content : Json) :
    Except MissingField Record := do
  let uuid ← claim.metadata.requireUid
  let name ← claim.metadata.requireName
  return .pvc
    { uuid := uuid
      name := name
      namespaceName := claim.metadata.inNamespace
      accessModes := ",".intercalate claim.spec.accessModes
      storageClassName := claim.spec.storageClassName.getD ""
      volumeName := claim.spec.volumeName
      volumeMode := claim.spec.volumeMode.getD ""
      phase := claim.status.phase
      capacity := claim.status.storage
      creationTime := claim.metadata.creationTimestamp
      content := content }

end ClaimManifest
end ClusterTrace.Manifest
