import ClusterTrace.Json.Basic
import ClusterTrace.Shape.Struct
import ClusterTrace.Word

/-!
# Reading records from JSON

Readers of plain values, optional values, lists, maps and records from JSON
values.
-/

namespace ClusterTrace.Json

open Shape

/-- What a value is found to be. -/
def found : Json → Found
  | .null => .absence
  | .bool value => .bool value
  | .number (.int value) => .integer value
  | .number (.float bits) => .float bits
  | .string text => .text text
  | .array _ => .sequence
  | .object _ => .mapping

/-- A reader of values of a type. -/
abbrev Reader (α : Type) := Json → Except Mismatch α

/-- Reads any value as it is. -/
def asValue : Reader Json := .ok

/-- Reads a text. -/
def asText : Reader String
  | .string text => .ok text
  | other => .error (.wrongType other.found "a string")

/-- Reads a truth value. -/
def asBool : Reader Bool
  | .bool value => .ok value
  | other => .error (.wrongType other.found "a boolean")

/-- Reads an integer that fits; `expected` names what it fits into. -/
def asInteger (fits : Int → Bool) (expected : String) : Reader Int
  | .number (.int value) =>
      if fits value then .ok value
      else .error (.wrongValue (.integer value) expected)
  | other => .error (.wrongType other.found expected)

/-- Reads a signed integer of 64 bits. -/
def asInt64 : Reader Int :=
  asInteger (Word.fitsSigned 64) "i64"

/-- Reads an instant. -/
def asInstant : Reader Time.Instant
  | .string text => (Time.Instant.parse text).mapError .notAnInstant
  | other =>
      .error (.wrongType other.found
        "an RFC 3339 formatted date and time string")

/-- Reads a value or its absence. -/
def asOptional {α : Type} (read : Reader α) : Reader (Option α)
  | .null => .ok none
  | value => (read value).map some

def asList {α : Type} (read : Reader α) : Reader (List α)
  | .array items => items.mapM read
  | other => .error (.wrongType other.found "a sequence")

/-- Reads an object with values of one type. -/
def asMap {α : Type} (read : Reader α) : Reader (List (String × α))
  | .object members =>
      members.mapM fun (key, value) => (read value).map (key, ·)
  | other => .error (.wrongType other.found "a map")

/-- Reads a record, from an object or from a list. -/
def asStruct {σ : Type} (struct : Struct Json Mismatch σ) : Reader σ
  | .object members => struct.ofMembers id (fun _ => id) members
  | .array items => struct.ofItems id items
  | other => .error (.wrongType other.found ("struct " ++ struct.name))

end ClusterTrace.Json
