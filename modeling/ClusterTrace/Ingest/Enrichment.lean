import ClusterTrace.Json.Printer
import ClusterTrace.Json.Reader
import ClusterTrace.Manifest.Pod
import ClusterTrace.Text.Utf8

/-!
# Enrichment of logs

What a line of a pod's log is enriched with: the host of the pod, its UID and
its owners.  The table has one entry for each namespace and name.  It is kept in
a file from one import to the next; a file that cannot be read counts as an
empty table.
-/

namespace ClusterTrace.Ingest

open Shape Json

/-- What is known of a pod. -/
structure EnrichmentEntry where
  hostName : String := ""
  hostIp : String := ""
  uid : String := ""
  /-- The UIDs of the pod's owners. -/
  owners : List String := []
deriving Repr, DecidableEq, Inhabited

namespace EnrichmentEntry

def shape : DocumentShape EnrichmentEntry :=
  Manifest.view "EnrichmentEntry" {}
    [.optional "host.name" asText fun v entry => { entry with hostName := v },
      .optional "host.ip" asText fun v entry => { entry with hostIp := v },
      .optional "pod.uid" asText fun v entry => { entry with uid := v },
      .optional "pod.ownerReferences" (asList asText)
        fun v entry => { entry with owners := v }]

/-- An entry as a JSON value.  No owners are left out. -/
def toJson (entry : EnrichmentEntry) : Json :=
  .object
    ([("host.name", .string entry.hostName), ("host.ip", .string entry.hostIp),
        ("pod.uid", .string entry.uid)] ++
      if entry.owners.isEmpty then []
      else [("pod.ownerReferences", .array (entry.owners.map .string))])

/-- The entry of a pod.  The address of the host and the owners are taken from
its manifest, if that can be read. -/
def ofPod (pod : Pod) : EnrichmentEntry :=
  let manifest : Manifest.PodManifest :=
    match asStruct Manifest.PodManifest.shape pod.content with
    | .ok manifest => manifest
    | .error _ => {}
  { hostName := pod.nodeName
    hostIp := manifest.status.hostIp
    uid := pod.uuid
    owners :=
      (manifest.metadata.owners.map (·.uid)).filter fun uid => !uid.isEmpty }

end EnrichmentEntry

/-- The entries of pods by namespace and name, in order. -/
abbrev EnrichmentTable := Assoc String EnrichmentEntry

namespace EnrichmentTable

/-- The key of a pod. -/
def key (inNamespace name : String) : String :=
  inNamespace ++ "/" ++ name

/-- The entry of a pod, if there is one. -/
def entry? (table : EnrichmentTable) (inNamespace name : String) :
    Option EnrichmentEntry :=
  table.get? (key inNamespace name)

/-- The table with the entry of a pod, in place of one that is there. -/
def insertPod (table : EnrichmentTable) (pod : Pod) : EnrichmentTable :=
  table.insert (key pod.namespaceName pod.name) (.ofPod pod)

def toJson (table : EnrichmentTable) : Json :=
  .object (table.map fun (key, entry) => (key, entry.toJson))

/-- A table as the octets of its file. -/
def write (table : EnrichmentTable) : List UInt8 :=
  Text.Utf8.encode (toJson table).compact

/-- The table that octets hold, unless they hold none. -/
def read? (octets : List UInt8) : Option EnrichmentTable := do
  let text ← Text.Utf8.decode? octets
  let value ← (Json.parseAsWritten text).toOption
  let entries ← (asMap (asStruct EnrichmentEntry.shape) value).toOption
  return Assoc.sorted entries

/-- The table of a file's octets; an empty one where they cannot be read. -/
def read (octets : List UInt8) : EnrichmentTable :=
  (read? octets).getD []

end EnrichmentTable
end ClusterTrace.Ingest
