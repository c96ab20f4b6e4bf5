import ClusterTrace.Database.Lookup
import ClusterTrace.Record.Document

/-!
# Listings

The rows of a table that match a filter, in the order of their kind, one page of
them at a time.  Times are ordered as the texts that tables hold, and what is
absent comes before all else.
-/

namespace ClusterTrace.Listing

/-! ## Filters -/

/-- What the rows of a listing must match, and which page of them is wanted. -/
structure Filter where
  /-- The key. -/
  uuid : Option String := none
  name : Option String := none
  namespaceName : Option String := none
  /-- The keys, unless there are none. -/
  uuids : List String := []
  names : List String := []
  namespaces : List String := []
  status : Option Status := none
  /-- The page, counted from 1. -/
  page : Nat := 1
  /-- How many rows a page holds; all of them where it is absent. -/
  perPage : Option Nat := none
deriving Repr, DecidableEq, Inhabited

/-- A column that filters look at.  Kinds differ in what they hold there. -/
inductive Column where
  | key
  | name
  | namespaceName
  | status
deriving Repr, DecidableEq

/-- What a filter sees of a row. -/
structure Columns where
  key : String
  name : Option String
  namespaceName : Option String
  status : Option String
deriving Repr, DecidableEq

/-- The text of a column, unless the row lacks it. -/
def Columns.text? (row : Columns) : Column → Option String
  | .key => some row.key
  | .name => row.name
  | .namespaceName => row.namespaceName
  | .status => row.status

/-- A condition on rows: a column holds one of some texts. -/
structure Condition where
  column : Column
  texts : List String
deriving Repr, DecidableEq

/-- The row satisfies the condition.  A row that lacks the text satisfies
none. -/
def Condition.holds (condition : Condition) (row : Columns) : Bool :=
  (row.text? condition.column).any condition.texts.contains

/-- The condition that a column holds the wanted text, if one is wanted. -/
def equal? (column : Column) (wanted : Option String) : Option Condition :=
  wanted.map fun text => ⟨column, [text]⟩

/-- The condition that a column holds one of the wanted texts, if any are
wanted. -/
def among? (column : Column) (wanted : List String) : Option Condition :=
  if wanted.isEmpty then none else some ⟨column, wanted⟩

/-- The conditions of a filter, one for each part of it that is set. -/
def Filter.conditions (filter : Filter) : List Condition :=
  [equal? .key filter.uuid, equal? .name filter.name,
    equal? .namespaceName filter.namespaceName, among? .key filter.uuids,
    among? .name filter.names, among? .namespaceName filter.namespaces,
    filter.status.bind fun status => among? .status status.phases].filterMap id

/-- The row satisfies all conditions of the filter. -/
def Filter.accepts (filter : Filter) (row : Columns) : Bool :=
  filter.conditions.all (·.holds row)

/-- The records of a kind live in namespaces. -/
def hasNamespaces : Kind → Bool
  | .node => false
  | .gather => false
  | _ => true

/-- The filter cannot be applied to rows of the kind. -/
def Filter.fault? (filter : Filter) (kind : Kind) : Option BadArgument :=
  if filter.page = 0 then some .pageZero
  else if filter.perPage = some 0 then some .perPageZero
  else if !hasNamespaces kind &&
      (filter.namespaceName.isSome || !filter.namespaces.isEmpty) then
    some (.noNamespace kind)
  else none

/-! ## Pages -/

structure Page (α : Type) where
  rows : List α
  page : Nat
  perPage : Option Nat
  /-- How many rows match, on all pages together. -/
  totalRows : Nat
  totalPages : Nat
deriving Repr

/-- The page with its rows changed. -/
def Page.map {α β : Type} (f : α → β) (page : Page α) : Page β :=
  { page with rows := page.rows.map f }

def pageRows {α : Type} (page : Nat) (perPage : Option Nat) (rows : List α) :
    List α :=
  match perPage with
  | some size => (rows.drop ((page - 1) * size)).take size
  | none => rows

/-- How many pages rows take; one where all are on a single page. -/
def pageCount (perPage : Option Nat) (total : Nat) : Nat :=
  match perPage with
  | some size => (total + size - 1) / size
  | none => 1

/-- How the rows of a table are listed. -/
structure View (α : Type) where
  kind : Kind
  columns : α → Columns
  /-- The order of the listing. -/
  order : α → α → Ordering
  /-- Reads a row back. -/
  restore : α → Outcome α

/-- The rows that match a filter, in order. -/
def View.matching {α : Type} (view : View α) (filter : Filter) (rows : List α) :
    List α :=
  (rows.filter fun row => filter.accepts (view.columns row)).mergeSort
    fun a b => (view.order a b).isLE

/-- The page of the rows that a filter asks for. -/
def View.list {α : Type} (view : View α) (filter : Filter) (rows : List α) :
    Outcome (Page α) :=
  match filter.fault? view.kind with
  | some cause => .error (.invalidArgument cause)
  | none => do
      let found := view.matching filter rows
      let data ← (pageRows filter.page filter.perPage found).mapM view.restore
      return ⟨data, filter.page, filter.perPage, found.length,
        pageCount filter.perPage found.length⟩

/-! ## The order of each kind -/

/-- Texts in order, none before all. -/
def compareText? : Option String → Option String → Ordering
  | none, none => .eq
  | none, some _ => .lt
  | some _, none => .gt
  | some a, some b => compare a b

/-- Times in the order of their texts, none before all. -/
def compareTime? (a b : Option Time.Instant) : Ordering :=
  compareText? (a.map (·.columnText)) (b.map (·.columnText))

/-- Times in the order of their texts. -/
def compareTime (a b : Time.Instant) : Ordering :=
  compare a.columnText b.columnText

/-- Pods, the newest first. -/
def pods : View Pod where
  kind := .pod
  columns pod :=
    ⟨pod.uuid, some pod.name, some pod.namespaceName, some pod.phase⟩
  order a b := (compareTime b.creationTime a.creationTime).then
    (compare a.uuid b.uuid)
  restore := Pod.restore

/-- Nodes by name. -/
def nodes : View Node where
  kind := .node
  columns node := ⟨node.name, some node.name, none, some node.status⟩
  order a b := compare a.name b.name
  restore := Node.restore

/-- Virtual machines by namespace and name. -/
def vms : View VirtualMachine where
  kind := .vm
  columns vm := ⟨vm.uuid, some vm.name, some vm.namespaceName, some vm.status⟩
  order a b := ((compare a.namespaceName b.namespaceName).then
    (compare a.name b.name)).then (compare a.uuid b.uuid)
  restore := VirtualMachine.restore

/-- Instances, the newest first. -/
def vmis : View VirtualMachineInstance where
  kind := .vmi
  columns vmi :=
    ⟨vmi.uuid, some vmi.name, some vmi.namespaceName, some vmi.phase⟩
  order a b := (compareTime b.creationTime a.creationTime).then
    (compare a.uuid b.uuid)
  restore := VirtualMachineInstance.restore

/-- Migrations, the one started last first. -/
def migrations : View Migration where
  kind := .migration
  columns migration :=
    ⟨migration.uuid, migration.name, some migration.namespaceName,
      migration.phase⟩
  order a b := ((compareTime? b.startTimestamp a.startTimestamp).then
    (compareTime? b.creationTime a.creationTime)).then (compare a.uuid b.uuid)
  restore := Migration.restore

/-- Claims by namespace and name. -/
def pvcs : View VolumeClaim where
  kind := .pvc
  columns pvc :=
    ⟨pvc.uuid, some pvc.name, some pvc.namespaceName, some pvc.phase⟩
  order a b := ((compare a.namespaceName b.namespaceName).then
    (compare a.name b.name)).then (compare a.uuid b.uuid)
  restore := VolumeClaim.restore

/-- Subscriptions by namespace and name. -/
def subscriptions : View Subscription where
  kind := .subscription
  columns subscription :=
    ⟨subscription.uuid, some subscription.name, some subscription.namespaceName,
      some subscription.state⟩
  order a b := ((compare a.namespaceName b.namespaceName).then
    (compare a.name b.name)).then (compare a.uuid b.uuid)
  restore := Subscription.restore

end ClusterTrace.Listing

namespace ClusterTrace
namespace Database

open Listing (Filter Page)

/-- A page of the records of a kind.  The imported archives are always listed as
a whole. -/
def list (database : Database) (kind : Kind) (filter : Filter) :
    Outcome (Page Record) :=
  match kind with
  | .pod => (Listing.pods.list filter database.pods).map (Page.map .pod)
  | .node => (Listing.nodes.list filter database.nodes).map (Page.map .node)
  | .vm => (Listing.vms.list filter database.vms).map (Page.map .vm)
  | .vmi => (Listing.vmis.list filter database.vmis).map (Page.map .vmi)
  | .migration =>
      (Listing.migrations.list filter database.migrations).map
        (Page.map .migration)
  | .pvc => (Listing.pvcs.list filter database.pvcs).map (Page.map .pvc)
  | .subscription =>
      (Listing.subscriptions.list filter database.subscriptions).map
        (Page.map .subscription)
  | .gather =>
      let rows := database.imports
      .ok ⟨rows.map .gather, 1, none, rows.length, 1⟩

end Database

namespace Listing

/-- How a listing describes itself. -/
def Page.meta' {α : Type} (page : Page α) : Json :=
  .object
    [("page", .int page.page),
      ("per_page",
        (page.perPage.map fun (size : Nat) => Json.int size).getD .null),
      ("totalRowCount", .int page.totalRows),
      ("totalPages", .int page.totalPages)]

def Page.toJson (page : Page Record) : Json :=
  .object [("data", .array (page.rows.map Record.toJson)), ("meta", page.meta')]

end Listing
end ClusterTrace
