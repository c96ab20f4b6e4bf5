import ClusterTrace.Manifest.Metadata

/-!
# Manifests of subscriptions
-/

namespace ClusterTrace.Manifest

open Shape Json

structure SubscriptionSpec where
  package : String := ""
  source : String := ""
  sourceNamespace : String := ""
  startingCsv : String := ""

def SubscriptionSpec.shape : DocumentShape SubscriptionSpec :=
  view "SubscriptionSpec" {}
    [.optional "name" asText fun v spec => { spec with package := v },
      .optional "source" asText fun v spec => { spec with source := v },
      .optional "sourceNamespace" asText
        fun v spec => { spec with sourceNamespace := v },
      .optional "startingCSV" asText
        fun v spec => { spec with startingCsv := v }]

structure SubscriptionStatus where
  currentCsv : String := ""
  installedCsv : String := ""
  state : String := ""

def SubscriptionStatus.shape : DocumentShape SubscriptionStatus :=
  view "SubscriptionStatus" {}
    [.optional "currentCSV" asText
        fun v status => { status with currentCsv := v },
      .optional "installedCSV" asText
        fun v status => { status with installedCsv := v },
      .optional "state" asText fun v status => { status with state := v }]

structure SubscriptionManifest where
  metadata : Metadata := {}
  spec : SubscriptionSpec := {}
  status : SubscriptionStatus := {}

namespace SubscriptionManifest

def shape : DocumentShape SubscriptionManifest :=
  view "SubscriptionManifest" {}
    [.optional "metadata" (asStruct Metadata.shape)
        fun v row => { row with metadata := v },
      .optional "spec" (asStruct SubscriptionSpec.shape)
        fun v row => { row with spec := v },
      .optional "status" (asStruct SubscriptionStatus.shape)
        fun v row => { row with status := v }]

/-- The record of a subscription, which is named after its package. -/
def toRecord (subscription : SubscriptionManifest) (content : Json) :
    Except MissingField Record := do
  let uuid ← subscription.metadata.requireUid
  return .subscription
    { uuid := uuid
      name := subscription.spec.package
      namespaceName := subscription.metadata.inNamespace
      source := subscription.spec.source
      sourceNamespace := subscription.spec.sourceNamespace
      startingCsv := subscription.spec.startingCsv
      currentCsv := subscription.status.currentCsv
      installedCsv := subscription.status.installedCsv
      state := subscription.status.state
      creationTime := subscription.metadata.creationTimestamp
      content := content }

end SubscriptionManifest
end ClusterTrace.Manifest
