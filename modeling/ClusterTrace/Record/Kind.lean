/-!
# Kinds of records

The resource kinds that are kept, the identity of a record, and the coarse
statuses by which listings are filtered.
-/

namespace ClusterTrace

inductive Kind where
  | pod
  | node
  | vm
  | vmi
  | migration
  | pvc
  | subscription
  | gather
deriving Repr, DecidableEq, Inhabited

namespace Kind

/-- All kinds, in the order in which they are counted. -/
def all : List Kind :=
  [.pod, .node, .vm, .vmi, .migration, .pvc, .subscription, .gather]

/-- The short name of a kind. -/
def name : Kind → String
  | .pod => "pod"
  | .node => "node"
  | .vm => "vm"
  | .vmi => "vmi"
  | .migration => "migration"
  | .pvc => "pvc"
  | .subscription => "subscription"
  | .gather => "importedmustgather"

/-- The kind of a short name. -/
def ofName? (text : String) : Option Kind :=
  all.find? fun kind => kind.name = text

/-- The table of the kind's records. -/
def table : Kind → String
  | .pod => "pods"
  | .node => "nodes"
  | .vm => "vms"
  | .vmi => "vmis"
  | .migration => "vmimigrations"
  | .pvc => "pvcs"
  | .subscription => "subscriptions"
  | .gather => "imported_must_gathers"

/-- The column that identifies the kind's records. -/
def keyColumn : Kind → String
  | .node => "name"
  | .gather => "name"
  | _ => "uuid"

end Kind

/-- The identity of a record. -/
structure Key where
  kind : Kind
  id : String
deriving Repr, DecidableEq, Inhabited

/-- The identity in one text. -/
def Key.text (key : Key) : String :=
  key.kind.name ++ "/" ++ key.id

/-- A coarse status, which stands for a set of phases. -/
inductive Status where
  | running
  | pending
  | failed
  | succeeded
  | bound
  | ready
  | notReady
  | unknown
deriving Repr, DecidableEq

namespace Status

/-- All statuses. -/
def all : List Status :=
  [.running, .pending, .failed, .succeeded, .bound, .ready, .notReady, .unknown]

def name : Status → String
  | .running => "running"
  | .pending => "pending"
  | .failed => "failed"
  | .succeeded => "succeeded"
  | .bound => "bound"
  | .ready => "ready"
  | .notReady => "notready"
  | .unknown => "unknown"

/-- The status of a name in upper or lower case. -/
def ofName? (text : String) : Option Status :=
  let lowered := String.ofList (text.toList.map Char.toLower)
  all.find? fun status => status.name = lowered

/-- The phases that a status stands for. -/
def phases : Status → List String
  | .running => ["Running"]
  | .pending => ["Pending", "Scheduling", "Scheduled", "PreparingTarget"]
  | .failed => ["Failed"]
  | .succeeded => ["Succeeded"]
  | .bound => ["Bound"]
  | .ready => ["Ready"]
  | .notReady => ["NotReady"]
  | .unknown => ["Unknown", ""]

end Status
end ClusterTrace
