import ClusterTrace.Database.Basic
import ClusterTrace.Json.Printer
import ClusterTrace.Json.Reader
import ClusterTrace.Record.Document
import ClusterTrace.Text.Utf8

/-!
# The file of a database

A database is kept as one JSON object: the rows of each table, in order, under
the name of their kind.
-/

namespace ClusterTrace.Database

open Shape Json

def toJson (database : Database) : Json :=
  .object
    [(Kind.pod.name, .array (database.pods.map Pod.toJson)),
      (Kind.node.name, .array (database.nodes.map Node.toJson)),
      (Kind.vm.name, .array (database.vms.map VirtualMachine.toJson)),
      (Kind.vmi.name, .array (database.vmis.map VirtualMachineInstance.toJson)),
      (Kind.migration.name, .array (database.migrations.map Migration.toJson)),
      (Kind.pvc.name, .array (database.pvcs.map VolumeClaim.toJson)),
      (Kind.subscription.name,
        .array (database.subscriptions.map Subscription.toJson)),
      (Kind.gather.name, .array (database.gathers.map Gather.toJson))]

/-- Reads the rows of a table. -/
def asRows {σ : Type} (row : DocumentShape σ) : Json.Reader (List σ) :=
  asList (asStruct row)

/-- The tables of a database's JSON form.  One that is missing is empty. -/
def shape : DocumentShape Database where
  name := "Database"
  start := {}
  fields :=
    [.optional Kind.pod.name (asRows Pod.shape)
        fun v db => { db with pods := v },
      .optional Kind.node.name (asRows Node.shape)
        fun v db => { db with nodes := v },
      .optional Kind.vm.name (asRows VirtualMachine.shape)
        fun v db => { db with vms := v },
      .optional Kind.vmi.name (asRows VirtualMachineInstance.shape)
        fun v db => { db with vmis := v },
      .optional Kind.migration.name (asRows Migration.shape)
        fun v db => { db with migrations := v },
      .optional Kind.pvc.name (asRows VolumeClaim.shape)
        fun v db => { db with pvcs := v },
      .optional Kind.subscription.name (asRows Subscription.shape)
        fun v db => { db with subscriptions := v },
      .optional Kind.gather.name (asRows Gather.shape)
        fun v db => { db with gathers := v }]

/-- A database as the octets of its file. -/
def write (database : Database) : List UInt8 :=
  Text.Utf8.encode database.toJson.compact

/-- The database that octets hold, unless they hold none. -/
def read? (octets : List UInt8) : Option Database := do
  let text ← Text.Utf8.decode? octets
  let value ← (Json.parse text).toOption
  (asStruct shape value).toOption

/-- The database of a file's octets; an empty one where they hold none. -/
def read (octets : List UInt8) : Database :=
  (read? octets).getD {}

end ClusterTrace.Database
