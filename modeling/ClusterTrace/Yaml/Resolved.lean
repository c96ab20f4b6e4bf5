import ClusterTrace.Decimal.Nearest
import ClusterTrace.Shape.Mismatch
import ClusterTrace.Word

/-!
# What scalars mean

A plain scalar without a tag is a null, a truth value, a number or a text by its
spelling.  A tag of the core schema asks for one of them; any other tag, like
quotes, makes the scalar a text.
-/

namespace ClusterTrace.Yaml

open Shape (Found Mismatch)

/-- The value of a scalar. -/
inductive Resolved where
  | null
  | bool (value : Bool)
  | integer (value : Int)
  /-- An integer that 64 bits cannot hold. -/
  | wide (value : Int)
  | float (bits : UInt64)
  | text (value : String)
deriving Repr, DecidableEq

/-- What the value is found to be. -/
def Resolved.found : Resolved → Found
  | .null => .absence
  | .bool value => .bool value
  | .integer value => .integer value
  | .wide value => .wideInteger value
  | .float bits => .float bits
  | .text value => .text value

/-- The spellings of null. -/
def isNull (text : String) : Bool :=
  ["null", "Null", "NULL", "~"].contains text

/-- The truth value that a text spells. -/
def bool? (text : String) : Option Bool :=
  if ["true", "True", "TRUE"].contains text then some true
  else if ["false", "False", "FALSE"].contains text then some false
  else none

/-- The value of a digit in some base. -/
def digit? (base : Nat) (c : Char) : Option Nat :=
  let value :=
    if c.isDigit then c.toNat - '0'.toNat
    else if 'a' ≤ c ∧ c ≤ 'f' then c.toNat - 'a'.toNat + 10
    else if 'A' ≤ c ∧ c ≤ 'F' then c.toNat - 'A'.toNat + 10
    else base
  if value < base then some value else none

/-- The value of digits in some base, if there are any and nothing else. -/
def digitsIn? (base : Nat) (digits : List Char) : Option Nat :=
  if digits.isEmpty then none
  else digits.foldlM (fun n c => (digit? base c).map (n * base + ·)) 0

/-- The number of at least two digits that starts with zero: a text. -/
def isZeroPadded (text : List Char) : Bool :=
  let digits :=
    match text with
    | '-' :: rest => rest
    | '+' :: rest => rest
    | rest => rest
  match digits with
  | '0' :: rest => !rest.isEmpty && rest.all Char.isDigit
  | _ => false

/-- The magnitude of an integer that no sign precedes. -/
def magnitude? (text : List Char) : Option Nat :=
  let prefixed :=
    match text with
    | '0' :: 'x' :: digits => digitsIn? 16 digits
    | '0' :: 'o' :: digits => digitsIn? 8 digits
    | '0' :: 'b' :: digits => digitsIn? 2 digits
    | _ => none
  match prefixed with
  | some value => some value
  | none => if isZeroPadded text then none else digitsIn? 10 text

/-- The integer that a text spells. -/
def integer? (text : List Char) : Option Int :=
  match text with
  | '-' :: rest => (magnitude? rest).map fun n => -(n : Int)
  | '+' :: rest => (magnitude? rest).map Int.ofNat
  | rest => (magnitude? rest).map Int.ofNat

/-- The integer as a value, unless 128 bits cannot hold it. -/
def Resolved.ofInteger? (value : Int) : Option Resolved :=
  if Word.fitsSigned 64 value || Word.fits 64 value then some (.integer value)
  else if Word.fitsSigned 128 value || Word.fits 128 value then
    some (.wide value)
  else none

/-- The bits of the floating point number that a text spells. -/
def float? (text : List Char) : Option UInt64 :=
  let spelled (names : List String) (text : List Char) : Bool :=
    names.contains (String.ofList text)
  let unsigned :=
    match text with
    | '+' :: rest => rest
    | rest => rest
  if unsigned.length < text.length &&
      unsigned.head?.any (fun c => c = '+' || c = '-') then
    none
  else if spelled [".inf", ".Inf", ".INF"] unsigned then some 0x7FF0000000000000
  else if spelled ["-.inf", "-.Inf", "-.INF"] text then some 0xFFF0000000000000
  else if spelled [".nan", ".NaN", ".NAN"] text then some 0x7FF8000000000000
  else Decimal.ofText? unsigned

/-- The value of a plain scalar without a tag. -/
def Resolved.ofPlain (text : String) : Resolved :=
  if text.isEmpty || isNull text then .null
  else
    match bool? text with
    | some value => .bool value
    | none =>
        let chars := text.toList
        match (integer? chars).bind Resolved.ofInteger? with
        | some value => value
        | none =>
            if isZeroPadded chars then .text text
            else
              match float? chars with
              | some bits => .float bits
              | none => .text text

/-- A tag of the core schema. -/
def coreTag (name : String) : String :=
  "tag:yaml.org,2002:" ++ name

/-- The tag is one of the document's own. -/
def isLocalTag (tag : String) : Bool :=
  tag.startsWith "!"

/-- The value of a scalar with its tag. -/
def resolve (tag : Option String) (text : String) (isPlain : Bool) :
    Except Mismatch Resolved :=
  let required (expected : String) (value : Option Resolved) :
      Except Mismatch Resolved :=
    match value with
    | some value => .ok value
    | none => .error (.wrongValue (.text text) expected)
  match tag with
  | none => .ok (if isPlain then .ofPlain text else .text text)
  | some tag =>
      if tag = coreTag "bool" then required "a boolean" ((bool? text).map .bool)
      else if tag = coreTag "int" then
        required "an integer" ((integer? text.toList).bind Resolved.ofInteger?)
      else if tag = coreTag "float" then
        required "a float" ((float? text.toList).map .float)
      else if tag = coreTag "null" then
        required "null" (if isNull text then some .null else none)
      else if isLocalTag tag && isPlain then .ok (.ofPlain text)
      else .ok (.text text)

end ClusterTrace.Yaml
