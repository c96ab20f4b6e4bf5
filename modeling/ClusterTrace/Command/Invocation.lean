import ClusterTrace.Command.Arguments
import ClusterTrace.Database.Listing

/-!
# Invocations

What a command line asks for.
-/

namespace ClusterTrace.Command

/-- What to correlate. -/
inductive Query where
  | pod (uuid : String)
  | onNode (vmi node : String)
  | migration (uuid : String)
  | history (vmi : String)
deriving Repr, DecidableEq

/-- Which records to list. -/
structure Selection where
  kind : String
  uuid : Option String := none
  name : Option String := none
  namespaces : List String := []
  status : Option String := none
  page : Nat := 1
  perPage : Nat := 50
  /-- All rows are wanted on one page. -/
  isWhole : Bool := false
deriving Repr, DecidableEq

/-- What to do. -/
inductive Request where
  | importArchive (archive : String)
  | query (query : Query)
  | list (selection : Selection)
  | get (kind id : String) (asYaml : Bool)
  | claims (kind uuid : String)
  | counts
  | imports
deriving Repr, DecidableEq

/-- What a command line asks for. -/
structure Invocation where
  /-- What to do; without it help is given. -/
  request : Option Request
  isVerbose : Bool
  config : Option String
  home : Option String
deriving Repr, DecidableEq

/-- The status of a text, if one is given. -/
def statusOf : Option String → Outcome (Option Status)
  | none => .ok none
  | some text =>
      match Status.ofName? text with
      | some status => .ok (some status)
      | none => .error (.invalidArgument (.unknownStatus text))

def Selection.filter (selection : Selection) : Outcome Listing.Filter :=
  (statusOf selection.status).map fun status =>
    { uuid := selection.uuid
      name := selection.name
      namespaces := selection.namespaces
      status := status
      page := selection.page
      perPage := if selection.isWhole then none else some selection.perPage }

namespace Reading

/-- The values of a name. -/
def all (reading : Reading) (name : String) : List String :=
  (reading.values.get? name).getD []

/-- The value of a name, if it is given. -/
def value? (reading : Reading) (name : String) : Option String :=
  (reading.all name).head?

def value (reading : Reading) (name : String) : String :=
  (reading.value? name).getD ""

/-- The number of a name, if it is given. -/
def number? (reading : Reading) (name : String) : Option Nat :=
  (reading.value? name).bind readNumber?

/-- The option of a name is given. -/
def has (reading : Reading) (name : String) : Bool :=
  (reading.value? name).isSome

/-- The selection of a listing. -/
def selection (reading : Reading) : Selection where
  kind := reading.value "kind"
  uuid := reading.value? "uuid"
  name := reading.value? "name"
  namespaces := reading.all "namespace"
  status := reading.value? "status"
  page := (reading.number? "page").getD 1
  perPage := (reading.number? "per-page").getD 50
  isWhole := reading.has "all"

/-- What to do. -/
def request? (reading : Reading) : Option Request :=
  match reading.place with
  | .program => none
  | .querying => none
  | .importing => some (.importArchive (reading.value "archive"))
  | .podQuery => some (.query (.pod (reading.value "uuid")))
  | .instanceQuery =>
      some (.query (.onNode (reading.value "uuid") (reading.value "node")))
  | .migrationQuery => some (.query (.migration (reading.value "uuid")))
  | .historyQuery => some (.query (.history (reading.value "uuid")))
  | .listing => some (.list reading.selection)
  | .getting =>
      some (.get
        (reading.value "kind") (reading.value "id") (reading.has "yaml"))
  | .claims => some (.claims (reading.value "kind") (reading.value "uuid"))
  | .counting => some .counts
  | .ledger => some .imports

/-- What the command line asks for. -/
def invocation (reading : Reading) : Invocation where
  request := reading.request?
  isVerbose := reading.has "verbose"
  config := reading.value? "config"
  home := reading.value? "home"

end Reading

/-- What arguments ask for. -/
def Invocation.parse (arguments : List String) : Except UsageFault Invocation :=
  (readArguments arguments).map Reading.invocation

end ClusterTrace.Command
