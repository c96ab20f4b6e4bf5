import ClusterTrace.Config.Basic
import ClusterTrace.Files.Tree
import ClusterTrace.Json.Shape
import ClusterTrace.Text.Utf8
import ClusterTrace.Word
import ClusterTrace.Yaml.Reading

/-!
# Reading settings

Settings are read from a JSON value or from a file with one YAML document.  In a
document the source text of any scalar is a path, and a plain number may stand
for itself under any tag.
-/

namespace ClusterTrace.Config

open Shape

/-- The fields of settings, of values that are read as an optional path or as a
number of some bits that has a name. -/
def shape {ν ε : Type} (path : ν → Except ε (Option String))
    (number : Nat → String → ν → Except ε Nat) : Struct ν ε Config where
  name := "LogsViewerConfig"
  start := {}
  isClosed := true
  mayEndEarly := true
  fields :=
    [.optional "home_dir" path fun v config => { config with home := v },
      .optional "db_path" path fun v config => { config with database := v },
      .optional "staging_dir" path fun v config => { config with staging := v },
      .optional "enrichment_file" path
        fun v config => { config with enrichment := v },
      .optional "workers" (number 64 "usize")
        fun v config => { config with workers := v },
      .optional "store_timeout_ms" (number 64 "u64")
        fun v config => { config with timeout := v },
      .optional "max_retries" (number 32 "u32")
        fun v config => { config with maxRetries := v },
      .optional "backoff_base_ms" (number 64 "u64")
        fun v config => { config with backoffBase := v },
      .optional "backoff_max_ms" (number 64 "u64")
        fun v config => { config with backoffMaximum := v }]

/-! ## From JSON values -/

/-- Reads a path from a JSON value. -/
def pathOfJson : Json.Reader (Option String) :=
  Json.asOptional fun
    | .string text => .ok text
    | other => .error (.wrongType other.found "path string")

def numberOfJson (bits : Nat) (expected : String) : Json.Reader Nat :=
  fun value => (Json.asInteger (Word.fits bits) expected value).map Int.toNat

/-- Reads settings from a JSON value, without a look at what they say. -/
def ofJson (value : Json) : Outcome Config :=
  (Json.asStruct (shape pathOfJson numberOfJson) value).mapError .ofMismatch

/-! ## From YAML documents -/

/-- The value of a field of a document. -/
structure Spot where
  /-- The field. -/
  key : String
  keyMark : Yaml.Mark
  /-- The value, an alias replaced by what it stands for. -/
  node : Yaml.Node
  /-- Where the settings start. -/
  start : Yaml.Mark

/-- The value of a field is not what it should be. -/
def Spot.mismatch {α : Type} (spot : Spot) (what : Mismatch) :
    Except Yaml.Fault α :=
  .error (.mismatch spot.key spot.node.mark what)

/-- A node of a document is found where something else is expected. -/
def unexpected (node : Yaml.Node) (expected : String) : Mismatch :=
  match node with
  | .scalar head text style =>
      match Yaml.resolve head.tag text style.isPlain with
      | .ok value => .wrongType value.found expected
      | .error what => what
  | .mapping _ _ => .wrongType .mapping expected
  | _ => .wrongType .sequence expected

/-- Reads a path: the source text of a scalar.  A plain null stands for no
path. -/
def pathOfSpot (spot : Spot) : Except Yaml.Fault (Option String) :=
  match spot.node with
  | .scalar head text .plain =>
      match head.tag with
      | none =>
          .ok (if text.isEmpty || Yaml.isNull text then none else some text)
      | some tag =>
          if tag = Yaml.coreTag "null" then
            if Yaml.isNull text then .ok none
            else
              .error (.mismatch Yaml.Path.root.text spot.start
                (.wrongValue (.text text) "null"))
          else .ok (if text.isEmpty then none else some text)
  | .scalar _ text _ => .ok (some text)
  | node => spot.mismatch (unexpected node "path string")

/-- The number that a scalar writes, if it is plain or a literal with the tag of
integers. -/
def magnitudeOf? (head : Yaml.Head) (text : String) (style : Yaml.Style) :
    Option Nat :=
  if style = .plain ||
      (style = .literal && head.tag = some (Yaml.coreTag "int")) then
    let digits :=
      match text.toList with
      | '+' :: rest => rest
      | digits => digits
    (Yaml.magnitude? digits).filter fun value => Word.fits 64 value
  else none

def numberOfSpot (bits : Nat) (expected : String) (spot : Spot) :
    Except Yaml.Fault Nat :=
  match spot.node with
  | .scalar head text style =>
      match magnitudeOf? head text style with
      | some value =>
          if Word.fits bits value then .ok value
          else spot.mismatch (.wrongValue (.integer value) expected)
      | none => spot.mismatch (unexpected spot.node expected)
  | node => spot.mismatch (unexpected node expected)

/-- The node that an alias stands for; any other node itself. -/
def target (document : Yaml.Document) : Yaml.Node → Except Yaml.Fault Yaml.Node
  | .alias anchor mark =>
      match document.anchored.lookup anchor with
      | some node => .ok node
      | none => .error (.unknownAnchor mark)
  | node => .ok node

/-- The fields of a mapping up to the first key that is none, and its fault. -/
def spotsOf (document : Yaml.Document) (start : Yaml.Mark) :
    List (Yaml.Node × Yaml.Node) → List (String × Spot) × Option Yaml.Fault
  | [] => ([], none)
  | (key, value) :: rest =>
      match target document key, target document value with
      | .ok (.scalar head text _), .ok node =>
          let (spots, fault) := spotsOf document start rest
          ((text, ⟨text, head.mark, node, start⟩) :: spots, fault)
      | .ok (.scalar _ _ _), .error fault => ([], some fault)
      | .ok node, _ =>
          ([], some (.mismatch Yaml.Path.root.text node.mark
            (unexpected node "field identifier")))
      | .error fault, _ => ([], some fault)

/-- Reads settings from a document.  One without content leaves all as it is. -/
def ofDocument (document : Yaml.Document) : Except Yaml.Fault Config := do
  let struct := shape pathOfSpot numberOfSpot
  match document.root with
  | none => return {}
  | some root =>
      let node ← target document root
      let refuse (what : Mismatch) : Except Yaml.Fault Config :=
        .error (.mismatch Yaml.Path.root.text node.mark what)
      match node with
      | .scalar _ "" .plain => return {}
      | .mapping head entries =>
          let (spots, fault) := spotsOf document head.mark entries
          let config ← struct.ofMembers
            (fun what => .mismatch Yaml.Path.root.text head.mark what)
            (fun spot what =>
              .mismatch Yaml.Path.root.text spot.keyMark what) spots
          match fault with
          | some fault => throw fault
          | none => return config
      | node => refuse (unexpected node ("struct " ++ struct.name))

/-- Reads settings from the one document of a text. -/
def ofYaml (octets : Bytes) : Except Yaml.Fault Config :=
  match Yaml.documents octets with
  | ([], some fault) => .error fault
  | ([], none) => .ok {}
  | (document :: rest, fault) => do
      let config ← ofDocument document
      if !rest.isEmpty || fault.isSome then throw .severalDocuments
      return config

/-! ## From files -/

/-- Reads the settings of a file. -/
def load (path : String) (disk : Disk) : Outcome Config := do
  let octets ← (disk.read path).mapError .io
  if (Text.Utf8.decode? octets).isNone then throw (.io .notText)
  let config ←
    (ofYaml octets).mapError fun fault => .yaml fault (Yaml.isMalformed octets)
  config.validate

/-- Reads the settings of a file, or of the file in the home directory if there
is one. -/
def loadOrDefault (path : Option String) (environment : Environment)
    (disk : Disk) : Outcome Config :=
  match path with
  | some path => load path disk
  | none =>
      let path := environment.homeConfigPath
      match disk.locate path with
      | .error .notFound => .ok {}
      | .error fault => .error (.io fault)
      | .ok route => if disk.tree.has route then load path disk else .ok {}

end ClusterTrace.Config
