import ClusterTrace.Manifest.Claim
import ClusterTrace.Manifest.Machine
import ClusterTrace.Manifest.Node
import ClusterTrace.Manifest.Pod
import ClusterTrace.Manifest.Subscription
import ClusterTrace.Yaml.Reading

/-!
# From manifest files to records

A manifest file is a stream of YAML documents.  A document is one object or a
list of objects under `items`; empty documents and empty items are skipped.  A
file gives one record for each object, or the first fault and no record at all.
-/

namespace ClusterTrace.Manifest

open Shape Json

/-- Why a file gives no records. -/
inductive Fault where
  /-- The text is no stream of documents; the flag tells whether it is malformed
  as a whole. -/
  | yaml (fault : Yaml.Fault) (isMalformed : Bool)
  /-- An object has another shape than its kind. -/
  | shape (what : Mismatch)
  | missing (field : MissingField)
  /-- Objects of this kind have no manifests. -/
  | noManifests
deriving Repr

/-- The wording of a fault, without the place in the text. -/
def Fault.summary : Fault → String
  | .yaml fault _ => fault.summary
  | .shape what => what.message .json
  | .missing field => field.message
  | .noManifests => "import ledger entries have no manifests"

def Fault.message : Fault → String
  | .yaml fault _ => fault.message
  | other => other.summary

/-- The objects that a document holds. -/
def objectsOf (document : Json) : List Json :=
  match document with
  | .null => []
  | .object members =>
      match members.lookup "items" with
      | some (.array items) => items.filter fun item => !item.isNull
      | _ => [document]
  | _ => [document]

/-- The objects of a stream of documents. -/
def objects (octets : List UInt8) : Except Yaml.Fault (List Json) :=
  (Yaml.readAll octets).map fun documents => documents.flatMap objectsOf

/-- Reads an object by the shape of its kind. -/
def readObject {σ : Type} (shape : DocumentShape σ)
    (toRecord : σ → Json → Except MissingField Record) (object : Json) :
    Except Fault Record :=
  match asStruct shape object with
  | .error what => .error (.shape what)
  | .ok manifest => (toRecord manifest object).mapError .missing

/-- The record of an object of a kind. -/
def recordOf : Kind → Json → Except Fault Record
  | .pod => readObject PodManifest.shape PodManifest.toRecord
  | .node => readObject NodeManifest.shape NodeManifest.toRecord
  | .vm => readObject MachineManifest.shape MachineManifest.toRecord
  | .vmi => readObject InstanceManifest.shape InstanceManifest.toRecord
  | .migration => readObject MigrationManifest.shape MigrationManifest.toRecord
  | .pvc => readObject ClaimManifest.shape ClaimManifest.toRecord
  | .subscription =>
      readObject SubscriptionManifest.shape SubscriptionManifest.toRecord
  | .gather => fun _ => .error .noManifests

/-- The records of a manifest file of a kind. -/
def decode (kind : Kind) (octets : List UInt8) : Except Fault (List Record) :=
  if kind = .gather then .error .noManifests
  else
    match objects octets with
    | .error fault => .error (.yaml fault (Yaml.isMalformed octets))
    | .ok objects => objects.mapM (recordOf kind)

end ClusterTrace.Manifest
