import ClusterTrace.Shape.Mismatch
import ClusterTrace.Yaml.Lexer

/-!
# Documents as trees of nodes

A node may carry an anchor, and an alias stands for the node with its anchor.
Anchors are numbered; of nodes with the same number the last one of the document
counts.
-/

namespace ClusterTrace.Yaml

open Shape (Mismatch)

/-- What a node carries besides its content. -/
structure Head where
  tag : Option String := none
  anchor : Option Nat := none
  mark : Mark
deriving Repr

/-- A node of a document. -/
inductive Node where
  | alias (anchor : Nat) (mark : Mark)
  | scalar (head : Head) (text : String) (style : Style)
  | sequence (head : Head) (items : List Node)
  | mapping (head : Head) (entries : List (Node × Node))
deriving Repr

namespace Node

/-- Where the node starts. -/
def mark : Node → Mark
  | .alias _ mark => mark
  | .scalar head _ _ => head.mark
  | .sequence head _ => head.mark
  | .mapping head _ => head.mark

/-- The number of the node's anchor. -/
def anchor? : Node → Option Nat
  | .alias _ _ => none
  | .scalar head _ _ => head.anchor
  | .sequence head _ => head.anchor
  | .mapping head _ => head.anchor

/-- The node that is written as nothing. -/
def nothing (mark : Mark) : Node :=
  .scalar { mark := mark } "" .plain

/-- The number of marks that the node is made of: two for a collection, one for
other nodes. -/
def size : Node → Nat
  | .sequence _ items => sizes items + 2
  | .mapping _ entries => entrySizes entries + 2
  | _ => 1
where
  /-- The marks of all items. -/
  sizes : List Node → Nat
    | [] => 0
    | item :: rest => item.size + sizes rest
  /-- The marks of all keys and values. -/
  entrySizes : List (Node × Node) → Nat
    | [] => 0
    | (key, value) :: rest => key.size + value.size + entrySizes rest

/-- The nodes with anchors, in the order in which they start, before those in
`after`. -/
def anchored (node : Node) (after : List (Nat × Node)) : List (Nat × Node) :=
  let inner :=
    match node with
    | .sequence _ items => ofItems items after
    | .mapping _ entries => ofEntries entries after
    | _ => after
  match node.anchor? with
  | some anchor => (anchor, node) :: inner
  | none => inner
where
  /-- The nodes with anchors among the items. -/
  ofItems : List Node → List (Nat × Node) → List (Nat × Node)
    | [], after => after
    | item :: rest, after => item.anchored (ofItems rest after)
  /-- The nodes with anchors among the keys and values. -/
  ofEntries : List (Node × Node) → List (Nat × Node) → List (Nat × Node)
    | [], after => after
    | (key, value) :: rest, after =>
        key.anchored (value.anchored (ofEntries rest after))

end Node

/-- A document: its root, nothing for a stream without any document. -/
structure Document where
  root : Option Node
deriving Repr

/-- The anchored nodes of a document, the last one first. -/
def Document.anchored (document : Document) : List (Nat × Node) :=
  match document.root with
  | some root => (root.anchored []).reverse
  | none => []

/-- Why a document cannot be read. -/
inductive Fault where
  | syntax' (fault : SyntaxFault)
  | unknownAnchor (mark : Mark)
  | tooDeep (mark : Mark)
  | tooManyAliases
  | severalDocuments
  /-- The document has another shape; the path leads to the place. -/
  | mismatch (path : String) (mark : Mark) (what : Mismatch)
deriving Repr

/-- The wording of a fault without its place. -/
def Fault.summary : Fault → String
  | .syntax' fault => fault.words
  | .unknownAnchor _ => "unknown anchor"
  | .tooDeep _ => "recursion limit exceeded"
  | .tooManyAliases => "repetition limit exceeded"
  | .severalDocuments =>
      "deserializing from YAML containing more than one document " ++
        "is not supported"
  | .mismatch path _ what =>
      (if path = "." then "" else path ++ ": ") ++ what.message .yaml

def Fault.message (fault : Fault) : String :=
  let mark :=
    match fault with
    | .unknownAnchor mark => mark
    | .tooDeep mark => mark
    | .mismatch _ mark _ => mark
    | _ => {}
  fault.summary ++ if mark.isPastStart then " at " ++ mark.words else ""

end ClusterTrace.Yaml
