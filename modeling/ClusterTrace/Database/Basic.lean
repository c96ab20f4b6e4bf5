import ClusterTrace.Record.Basic

/-!
# The database

A table is the list of its rows in the order in which they were first inserted,
with one row for each key.  Writing a record replaces the row of its key in its
place.  A migration has two sources, its own manifest and the status of an
instance: what is learned of its state from one is not forgotten when the other
says nothing.
-/

namespace ClusterTrace

/-- All records that were stored. -/
structure Database where
  pods : List Pod := []
  nodes : List Node := []
  vms : List VirtualMachine := []
  vmis : List VirtualMachineInstance := []
  migrations : List Migration := []
  pvcs : List VolumeClaim := []
  subscriptions : List Subscription := []
  gathers : List Gather := []
deriving Repr, Inhabited

namespace Database

/-- Merges a row into a table: into the row of its key, or at the end. -/
def mergeRow {α κ : Type} [DecidableEq κ] (key : α → κ) (merge : α → α → α)
    (row : α) : List α → List α
  | [] => [row]
  | old :: rest =>
      if key old = key row then merge old row :: rest
      else old :: mergeRow key merge row rest

/-- Puts a row into a table: in place of the row of its key, or at the end. -/
def putRow {α κ : Type} [DecidableEq κ] (key : α → κ) (row : α)
    (rows : List α) : List α :=
  mergeRow key (fun _ new => new) row rows

/-- What a new value says, or else the old one. -/
def newer {α : Type} (new old : Option α) : Option α :=
  match new with
  | some value => some value
  | none => old

/-- The migration with what is known of another one's state. -/
def withState (migration state : Migration) : Migration :=
  { migration with
    targetPod := newer state.targetPod migration.targetPod
    sourceNode := newer state.sourceNode migration.sourceNode
    targetNode := newer state.targetNode migration.targetNode
    startTimestamp := newer state.startTimestamp migration.startTimestamp
    endTimestamp := newer state.endTimestamp migration.endTimestamp
    completed := newer state.completed migration.completed
    failed := newer state.failed migration.failed }

/-- A row that a migration's own manifest updates: its identity is replaced, its
state merged. -/
def mergeManifest (old new : Migration) : Migration :=
  withState
    { new with
      targetPod := old.targetPod
      sourceNode := old.sourceNode
      targetNode := old.targetNode
      startTimestamp := old.startTimestamp
      endTimestamp := old.endTimestamp
      completed := old.completed
      failed := old.failed }
    new

/-- The row that the status of an instance implies when there is none yet. -/
def impliedRow (migration : Migration) : Migration :=
  { migration with
    name := none, phase := none, creationTime := none, content := none }

/-- Stores a migration from its own manifest. -/
def putMigration (migration : Migration) (database : Database) : Database :=
  { database with
    migrations :=
      mergeRow Migration.uuid mergeManifest migration database.migrations }

/-- Stores a migration that the status of an instance implies.  A row that is
there keeps its identity. -/
def putImplied (migration : Migration) (database : Database) : Database :=
  { database with
    migrations :=
      mergeRow Migration.uuid withState (impliedRow migration)
        database.migrations }

/-- Stores an instance, and the migration that its status implies. -/
def putInstance (vmi : VirtualMachineInstance) (database : Database) :
    Database :=
  let stored := { database with vmis := putRow (·.uuid) vmi database.vmis }
  match vmi.derivedMigration? with
  | some migration => stored.putImplied migration
  | none => stored

/-- Stores a record. -/
def put (record : Record) (database : Database) : Database :=
  match record with
  | .pod row => { database with pods := putRow (·.uuid) row database.pods }
  | .node row => { database with nodes := putRow (·.name) row database.nodes }
  | .vm row => { database with vms := putRow (·.uuid) row database.vms }
  | .vmi row => database.putInstance row
  | .migration row => database.putMigration row
  | .pvc row => { database with pvcs := putRow (·.uuid) row database.pvcs }
  | .subscription row =>
      { database with
        subscriptions := putRow (·.uuid) row database.subscriptions }
  | .gather row =>
      { database with gathers := putRow (·.name) row database.gathers }

/-- How many records of a kind there are. -/
def count (database : Database) : Kind → Nat
  | .pod => database.pods.length
  | .node => database.nodes.length
  | .vm => database.vms.length
  | .vmi => database.vmis.length
  | .migration => database.migrations.length
  | .pvc => database.pvcs.length
  | .subscription => database.subscriptions.length
  | .gather => database.gathers.length

/-- How many records there are of each kind. -/
def counts (database : Database) : List (Kind × Nat) :=
  Kind.all.map fun kind => (kind, database.count kind)

end Database
end ClusterTrace
