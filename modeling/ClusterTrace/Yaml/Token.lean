import ClusterTrace.Yaml.Text

/-!
# Tokens of YAML streams

Besides the marks that are written, tokens stand for the start and the end of a
block collection, which indentation gives.
-/

namespace ClusterTrace.Yaml

/-- How a scalar is written. -/
inductive Style where
  | plain
  | quoted
  | literal
  | folded
deriving Repr, DecidableEq

/-- The scalar stands without quotes or indicators. -/
def Style.isPlain : Style → Bool
  | .plain => true
  | _ => false

inductive Token where
  | streamEnd
  | version (major minor : Nat)
  | tagHandle (handle start : String)
  | documentStart
  | documentEnd
  | blockSequenceStart
  | blockMappingStart
  | blockEnd
  | flowSequenceStart
  | flowSequenceEnd
  | flowMappingStart
  | flowMappingEnd
  | blockEntry
  | flowEntry
  | key
  | value
  | alias (name : String)
  | anchor (name : String)
  | tag (handle suffix : String)
  | scalar (text : String) (style : Style)
deriving Repr, DecidableEq

/-- A token with the place where it starts. -/
structure Located where
  token : Token
  start : Mark
deriving Repr

/-- The place behind a token of one character. -/
def Located.stop (located : Located) : Mark :=
  { located.start with
    index := located.start.index + 1
    column := located.start.column + 1 }

/-- A token read from the front of a text, with the rest. -/
abbrev Scan (α : Type) := Except SyntaxFault (α × Cursor)

end ClusterTrace.Yaml
