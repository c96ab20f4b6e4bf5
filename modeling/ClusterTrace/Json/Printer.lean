import ClusterTrace.Decimal.Notation
import ClusterTrace.Json.Basic

/-!
# Written JSON

One form without any blanks and one with a line for each item.  Text is escaped
alike in both: the quote, the backslash and the control characters, nothing
else.
-/

namespace ClusterTrace.Json

/-- The hexadecimal digit of a number below sixteen. -/
def hexDigit (n : Nat) : Char :=
  "0123456789abcdef".toList.getD n '0'

/-- One character inside a quoted text. -/
def escape (c : Char) : List Char :=
  match c with
  | '"' => ['\\', '"']
  | '\\' => ['\\', '\\']
  | '\n' => ['\\', 'n']
  | '\r' => ['\\', 'r']
  | '\t' => ['\\', 't']
  | c =>
      if c.toNat = 8 then ['\\', 'b']
      else if c.toNat = 12 then ['\\', 'f']
      else if c.toNat < 32 then
        ['\\', 'u', '0', '0', hexDigit (c.toNat / 16), hexDigit (c.toNat % 16)]
      else [c]

/-- The text between quotes, escaped. -/
def quoted (text : String) : String :=
  "\"" ++ String.ofList (text.toList.flatMap escape) ++ "\""

def numberText : Number → String
  | .int value => toString value
  | .float bits => Decimal.render .json bits

/-- The value without any blanks. -/
def compact : Json → String
  | .null => "null"
  | .bool true => "true"
  | .bool false => "false"
  | .number value => numberText value
  | .string text => quoted text
  | .array items => "[" ++ ",".intercalate (items' items) ++ "]"
  | .object members => "\x7b" ++ ",".intercalate (members' members) ++ "\x7d"
where
  /-- The texts of the items. -/
  items' : List Json → List String
    | [] => []
    | item :: rest => item.compact :: items' rest
  /-- The texts of the members. -/
  members' : List (String × Json) → List String
    | [] => []
    | (key, value) :: rest =>
        (quoted key ++ ":" ++ value.compact) :: members' rest

private def indentation (level : Nat) : String :=
  "\n" ++ String.ofList (List.replicate (2 * level) ' ')

/-- The lines between an opening and a closing bracket at a level of
indentation. -/
private def block (opening closing : String) (level : Nat)
    (entries : List String) : String :=
  if entries.isEmpty then opening ++ closing
  else
    opening ++ indentation (level + 1) ++
      (("," ++ indentation (level + 1)).intercalate entries) ++
      indentation level ++ closing

/-- The value with each item and each member on a line of its own, two spaces a
level. -/
def prettyAt (level : Nat) : Json → String
  | .array items => block "[" "]" level (prettyItems (level + 1) items)
  | .object members =>
      block "\x7b" "\x7d" level (prettyMembers (level + 1) members)
  | scalar => scalar.compact
where
  /-- The texts of the items, at their level. -/
  prettyItems (level : Nat) : List Json → List String
    | [] => []
    | item :: rest => item.prettyAt level :: prettyItems level rest
  /-- The texts of the members, at their level. -/
  prettyMembers (level : Nat) : List (String × Json) → List String
    | [] => []
    | (key, value) :: rest =>
        (quoted key ++ ": " ++ value.prettyAt level) :: prettyMembers level rest

/-- The value on several lines, from the left margin. -/
def pretty (value : Json) : String :=
  value.prettyAt 0

end ClusterTrace.Json
