import ClusterTrace.Decimal.Notation
import ClusterTrace.Text.Quoted
import ClusterTrace.Time.Pattern

/-!
# Mismatches

A document of the right syntax may still lack the shape that a record needs.  A
mismatch says what was found and what was expected.  Its wording depends on the
document format only in how absence and floating point numbers are spelled.
-/

namespace ClusterTrace.Shape

/-- What stands in a document where something else was expected. -/
inductive Found where
  | bool (value : Bool)
  | integer (value : Int)
  /-- An integer that 64 bits cannot hold. -/
  | wideInteger (value : Int)
  | float (bits : UInt64)
  | text (value : String)
  | absence
  | sequence
  | mapping
  | tagged
deriving Repr, DecidableEq

/-- Why a document does not have the shape that is read. -/
inductive Mismatch where
  | wrongType (found : Found) (expected : String)
  | wrongValue (found : Found) (expected : String)
  | wrongLength (length : Nat) (expected : String)
  | missingField (name : String)
  | repeatedField (name : String)
  | unknownField (name : String) (known : List String)
  | notAnInstant (cause : Time.TimeError)
deriving Repr, DecidableEq

/-- How a document format spells what it does not take from the document. -/
structure Spelling where
  absence : String
  float : UInt64 → String

/-- The spelling for JSON values. -/
def Spelling.json : Spelling where
  absence := "null"
  float := Decimal.render .json

/-- The spelling for YAML documents. -/
def Spelling.yaml : Spelling where
  absence := "unit value"
  float := Decimal.message

def Found.words (spelling : Spelling) : Found → String
  | .bool value => "boolean `" ++ (if value then "true" else "false") ++ "`"
  | .integer value => "integer `" ++ toString value ++ "`"
  | .wideInteger value =>
      "integer `" ++ toString value ++
        (if 0 ≤ value then "` as u128" else "` as i128")
  | .float bits => "floating point `" ++ spelling.float bits ++ "`"
  | .text value => "string " ++ Text.quote value
  | .absence => spelling.absence
  | .sequence => "sequence"
  | .mapping => "map"
  | .tagged => "enum"

/-- Names in backquotes: one, two joined by `or`, or a list after `one of`. -/
def expectedNames : List String → String
  | [] => "there are no fields"
  | [name] => "expected `" ++ name ++ "`"
  | [first, second] => "expected `" ++ first ++ "` or `" ++ second ++ "`"
  | names =>
      "expected one of " ++
        ", ".intercalate (names.map fun name => "`" ++ name ++ "`")

def Mismatch.message (spelling : Spelling) : Mismatch → String
  | .wrongType found expected =>
      "invalid type: " ++ found.words spelling ++ ", expected " ++ expected
  | .wrongValue found expected =>
      "invalid value: " ++ found.words spelling ++ ", expected " ++ expected
  | .wrongLength length expected =>
      "invalid length " ++ toString length ++ ", expected " ++ expected
  | .missingField name => "missing field `" ++ name ++ "`"
  | .repeatedField name => "duplicate field `" ++ name ++ "`"
  | .unknownField name known =>
      "unknown field `" ++ name ++ "`, " ++ expectedNames known
  | .notAnInstant cause => cause.message

end ClusterTrace.Shape
