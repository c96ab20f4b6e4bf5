import ClusterTrace.Json.Basic
import ClusterTrace.Yaml.Document
import ClusterTrace.Yaml.Resolved

/-!
# Documents as JSON values

A document is read as a JSON value with texts as keys.  Containers nest 128 deep
at most, and aliases are followed at most a hundred times as often as the
document has marks.  `isMalformed` tells whether some document of a text cannot
even be read as an untyped value, in which any value may be a key but none
twice.
-/

namespace ClusterTrace.Yaml

open Shape (Found Mismatch)

/-! ## Paths -/

/-- The way from the root of a document to a node. -/
inductive Path where
  | root
  | item (parent : Path) (index : Nat)
  | member (parent : Path) (key : String)
  | nameless (parent : Path)

/-- The path in words. -/
def Path.text : Path → String
  | .root => "."
  | .item parent index => parent.text ++ "[" ++ toString index ++ "]"
  | .member .root key => key
  | .member parent key => parent.text ++ "." ++ key
  | .nameless .root => "?"
  | .nameless parent => parent.text ++ ".?"

/-! ## Aliases -/

/-- What aliases refer to. -/
structure Scope where
  anchored : List (Nat × Node)
  /-- How often aliases may be followed. -/
  limit : Nat

def Document.scope (document : Document) : Scope where
  anchored := document.anchored
  limit := 100 * (document.root.map Node.size).getD 1

/-- A reader that counts the aliases it follows. -/
abbrev Follow (α : Type) := StateT Nat (Except Fault) α

/-- The node that an alias stands for; any other node itself. -/
def Scope.follow (scope : Scope) (node : Node) : Follow Node := do
  match node with
  | .alias anchor mark =>
      let count := (← get) + 1
      set count
      if scope.limit < count then throw .tooManyAliases
      match scope.anchored.lookup anchor with
      | some target => return target
      | none => throw (.unknownAnchor mark)
  | node => return node

/-- The greatest number of containers around a value, itself included. -/
def maxNesting : Nat := 128

/-! ## JSON values -/

/-- The key that a node is, as it is written. -/
def Scope.readKey (scope : Scope) (path : Path) (expected : String)
    (node : Node) : Follow String := do
  match (← scope.follow node) with
  | .scalar _ text _ => return text
  | .sequence head _ =>
      throw (.mismatch path.text head.mark (.wrongType .sequence expected))
  | .mapping head _ =>
      throw (.mismatch path.text head.mark (.wrongType .mapping expected))
  | .alias _ mark => throw (.unknownAnchor mark)

/-- The path to the value of a key. -/
def Path.toValueOf (path : Path) : Node → Path
  | .scalar _ text _ => .member path text
  | _ => .nameless path

/-- What JSON values are called. -/
def anyJson : String := "any valid JSON value"

def Resolved.toJson : Resolved → Except Mismatch Json
  | .null => .ok .null
  | .bool value => .ok (.bool value)
  | .integer value => .ok (.int value)
  | .wide value => .error (.wrongType (.wideInteger value) anyJson)
  | .float bits =>
      .ok (if Decimal.isFinite bits then .number (.float bits) else .null)
  | .text value => .ok (.string value)

def mismatch {α : Type} (path : Path) (node : Node) (what : Mismatch) :
    Follow α :=
  throw (.mismatch path.text node.mark what)

/-- A node as a JSON value, with at most `depth` containers. -/
def Scope.toJson (scope : Scope) (depth : Nat) (path : Path) (node : Node) :
    Follow Json := do
  let node ← scope.follow node
  match node, depth with
  | .alias _ mark, _ => throw (.unknownAnchor mark)
  | .scalar head text style, _ =>
      if head.tag.any isLocalTag then
        mismatch path node (.wrongType .tagged anyJson)
      else
        match (resolve head.tag text style.isPlain).bind Resolved.toJson with
        | .ok value => return value
        | .error what => mismatch path node what
  | .sequence head items, depth =>
      if head.tag.any isLocalTag then
        mismatch path node (.wrongType .tagged anyJson)
      else
        match depth with
        | 0 => throw (.tooDeep head.mark)
        | depth + 1 =>
            let values ← items.zipIdx.mapM fun (item, index) =>
              scope.toJson depth (.item path index) item
            return .array values
  | .mapping head entries, depth =>
      if head.tag.any isLocalTag then
        mismatch path node (.wrongType .tagged anyJson)
      else
        match depth with
        | 0 => throw (.tooDeep head.mark)
        | depth + 1 =>
            let members ← entries.zipIdx.mapM fun ((key, value), index) => do
              let name ←
                scope.readKey path
                  (if index = 0 then "a string key" else "a string") key
              return (name, ← scope.toJson depth (path.toValueOf key) value)
            return .ofMembers members
termination_by depth

def Document.toJson (document : Document) : Except Fault Json :=
  match document.root with
  | none => .ok .null
  | some root => ((document.scope.toJson maxNesting .root root).run 0).map (·.1)

/-! ## Untyped values -/

/-- An untyped value: any value can be a key, and a local tag is kept. -/
inductive Untyped where
  | scalar (value : Resolved)
  | sequence (items : List Untyped)
  | mapping (entries : List (Untyped × Untyped))
  | tagged (tag : String) (value : Untyped)

/-- Floating point numbers that are the same key: equal ones, or two that are no
numbers. -/
def sameFloat (a b : UInt64) : Bool :=
  let isNaN (bits : UInt64) : Bool :=
    !Decimal.isFinite bits && bits &&& 0xFFFFFFFFFFFFF != 0
  let isZero (bits : UInt64) : Bool := bits <<< 1 == 0
  (isNaN a && isNaN b) || (!isNaN a && a == b) || (isZero a && isZero b)

/-- Scalars that are the same key. -/
def Resolved.same : Resolved → Resolved → Bool
  | .float a, .float b => sameFloat a b
  | a, b => a == b

/-- Values that are the same key.  The entries of a mapping have no order. -/
def Untyped.same : Untyped → Untyped → Bool
  | .scalar a, .scalar b => a.same b
  | .sequence items, .sequence others => sameItems items others
  | .mapping entries, .mapping others =>
      entries.length == others.length && allAmong entries others
  | .tagged tag a, .tagged other b => tag == other && a.same b
  | _, _ => false
where
  /-- The items are the same one by one. -/
  sameItems : List Untyped → List Untyped → Bool
    | [], [] => true
    | a :: rest, b :: others => a.same b && sameItems rest others
    | _, _ => false
  /-- Every entry is among the others. -/
  allAmong : List (Untyped × Untyped) → List (Untyped × Untyped) → Bool
    | [], _ => true
    | (key, value) :: rest, others =>
        others.any (fun other => key.same other.1 && value.same other.2) &&
          allAmong rest others

/-- The value of a scalar without 128-bit integers. -/
def Resolved.narrow? : Resolved → Option Resolved
  | .wide _ => none
  | value => some value

/-- Entries one by one, no key twice. -/
def distinctEntries (entries : List (Untyped × Untyped)) : Bool :=
  match entries with
  | [] => true
  | (key, _) :: rest =>
      !rest.any (fun entry => key.same entry.1) && distinctEntries rest

/-- A reader of untyped values that counts the aliases it follows. -/
abbrev FollowUntyped (α : Type) := StateT Nat Option α

/-- A node as an untyped value, with at most `depth` containers. -/
def Scope.untyped (scope : Scope) (depth : Nat) (node : Node) :
    FollowUntyped Untyped := do
  let node ← fun count =>
    match (scope.follow node).run count with
    | .ok result => some result
    | .error _ => none
  let tagging (head : Head) (value : Untyped) : Untyped :=
    match head.tag with
    | some tag => if isLocalTag tag then .tagged tag value else value
    | none => value
  match node, depth with
  | .alias _ _, _ => failure
  | .scalar head text style, _ =>
      let tag := head.tag.filter fun tag => !isLocalTag tag
      match (resolve tag text style.isPlain).toOption.bind Resolved.narrow? with
      | some value => return tagging head (.scalar value)
      | none => failure
  | .sequence _ _, 0 => failure
  | .mapping _ _, 0 => failure
  | .sequence head items, depth + 1 =>
      return tagging head
        (.sequence (← items.mapM fun item => scope.untyped depth item))
  | .mapping head entries, depth + 1 =>
      let entries ← entries.mapM fun (key, value) => do
        return (← scope.untyped depth key, ← scope.untyped depth value)
      if distinctEntries entries then return tagging head (.mapping entries)
      else failure
termination_by depth

/-- The document can be read as an untyped value. -/
def Document.isReadable (document : Document) : Bool :=
  match document.root with
  | none => true
  | some root => ((document.scope.untyped maxNesting root).run 0).isSome

/-- Some document of the text cannot even be read as an untyped value. -/
def isMalformed (octets : List UInt8) : Bool :=
  let (documents, fault) := documents octets
  fault.isSome || !documents.all Document.isReadable

/-- The documents of the text as JSON values, or the fault of the first that is
none. -/
def readAll (octets : List UInt8) : Except Fault (List Json) :=
  let (documents, fault) := documents octets
  match documents.mapM Document.toJson, fault with
  | .error e, _ => .error e
  | .ok _, some e => .error e
  | .ok values, none => .ok values

end ClusterTrace.Yaml
