import ClusterTrace.Decimal.Notation
import ClusterTrace.Json.Basic
import ClusterTrace.Yaml.Resolved
import ClusterTrace.Yaml.Text

/-!
# Written YAML

A JSON value is written as a block document with two spaces a level.  A text is
written plain where it reads back as this text, else between quotes, and as a
literal block if it has several lines.
-/

namespace ClusterTrace.Yaml

/-! ## The form of a text -/

/-- The characters that are written as they are. -/
def isShown (c : Char) : Bool :=
  c = '\n' || (isPrintable c.toNat && c ≠ '\t' && c ≠ '\r' && c ≠ '\u0085' &&
    c ≠ '\ufeff')

/-- How a text can be written. -/
inductive Form where
  | plain
  | single
  | double
  | literal
deriving Repr, DecidableEq

/-- Whether some character satisfies a predicate that also sees the characters
before and after it; before the first and after the last there is none. -/
def anyBetween (accepts : Option Char → Char → Option Char → Bool) :
    Option Char → List Char → Bool
  | _, [] => false
  | before, c :: rest =>
      accepts before c rest.head? || anyBetween accepts (some c) rest

/-- A blank, a line break or nothing. -/
def isSpaced (c : Option Char) : Bool :=
  c.all fun c => isBlank c || isBreak c

/-- The character would be read as a mark of its own. -/
def isIndicator (before : Option Char) (c : Char) (after : Option Char) :
    Bool :=
  match before with
  | none =>
      "#,[]\x7b\x7d&*!|>'\"%@`".toList.contains c ||
        ((c = '?' || c = ':' || c = '-') && isSpaced after)
  | some _ => (c = ':' && isSpaced after) || (c = '#' && isSpaced before)

/-- The text begins like the marker of the start or the end of a document. -/
def beginsAsMarker (text : List Char) : Bool :=
  text.take 3 = ['-', '-', '-'] || text.take 3 = ['.', '.', '.']

/-- What matters of a text for the forms it can have. -/
structure Traits where
  isEmpty : Bool
  isMultiline : Bool
  /-- It has a mark, or blanks or breaks at its ends. -/
  needsQuotes : Bool
  /-- Only escapes preserve it. -/
  needsEscapes : Bool
  /-- A space follows a break. -/
  hasIndent : Bool
  endsInSpace : Bool

def Traits.of (text : List Char) : Traits :=
  let isSpaceOrBreak (c : Char) : Bool := c = ' ' || isBreak c
  { isEmpty := text.isEmpty
    isMultiline := text.any isBreak
    needsQuotes :=
      beginsAsMarker text || anyBetween isIndicator none text ||
        text.head?.any isSpaceOrBreak || text.getLast?.any isSpaceOrBreak
    needsEscapes :=
      text.any (fun c => !isShown c) ||
        anyBetween (fun before c _ => before = some ' ' && isBreak c) none text
    hasIndent :=
      anyBetween (fun before c _ => before.any isBreak && c = ' ') none text
    endsInSpace := text.getLast? = some ' ' }

/-- The form that a text is meant to have. -/
def Form.intended (text : String) : Form :=
  if text.toList.contains '\n' then .literal
  else
    match Resolved.ofPlain text with
    | .text _ => if isZeroPadded text.toList then .single else .plain
    | _ => .single

/-- The form that a text gets, given the intended one. -/
def Form.possible (traits : Traits) (isKey : Bool) (intended : Form) : Form :=
  let form := if isKey && traits.isMultiline then .double else intended
  let form :=
    if form = .plain &&
        ((traits.needsQuotes || traits.isMultiline || traits.hasIndent ||
            traits.needsEscapes) || (traits.isEmpty && isKey)) then
      .single
    else form
  let form :=
    if form = .single && (traits.hasIndent || traits.needsEscapes) then .double
    else form
  if form = .literal &&
      (traits.isEmpty || traits.endsInSpace || traits.needsEscapes ||
        isKey) then
    .double
  else form

/-! ## Writing -/

/-- What was written, the last character first. -/
structure Written where
  text : List Char := []
  column : Nat := 0
  /-- The last character was a blank. -/
  afterBlank : Bool := true
  /-- On the line there are only blanks and marks that indent. -/
  inIndent : Bool := true

namespace Written

/-- Writes characters within a line. -/
def add (out : Written) (chars : List Char) : Written :=
  { out with
    text := chars.reverse ++ out.text, column := out.column + chars.length }

/-- Writes a character that ends a line. -/
def addBreak (out : Written) (c : Char) : Written :=
  { out with text := c :: out.text, column := 0 }

/-- Goes to a column, on a new line unless the line has only indentation up to
there. -/
def indentTo (out : Written) (indent : Nat) : Written :=
  let out :=
    if !out.inIndent || indent < out.column ||
        (out.column == indent && !out.afterBlank) then
      out.addBreak '\n'
    else out
  { out.add (List.replicate (indent - out.column) ' ') with
    afterBlank := true, inIndent := true }

/-- Writes a mark. -/
def mark (out : Written) (chars : List Char) (needsBlank isIndent : Bool) :
    Written :=
  let out := if needsBlank && !out.afterBlank then out.add [' '] else out
  { out.add chars with
    afterBlank := false, inIndent := out.inIndent && isIndent }

/-- The columns that a level indents. -/
def step : Nat := 2

/-- A character in single quotes. -/
def addQuoted (indent : Nat) (out : Written × Bool) (c : Char) :
    Written × Bool :=
  let (out, wasBreak) := out
  if c = ' ' then (out.add [c], wasBreak)
  else if isBreak c then ({ out.addBreak c with inIndent := true }, true)
  else
    let out := if wasBreak then out.indentTo indent else out
    ({ out.add (if c = '\'' then ['\'', '\''] else [c]) with
        inIndent := false },
      false)

/-- Writes a text between single quotes. -/
def single (out : Written) (indent : Nat) (text : List Char) : Written :=
  let (out, wasBreak) :=
    text.foldl (addQuoted indent) (out.mark ['\''] true false, false)
  (if wasBreak then out.indentTo indent else out).mark ['\''] false false

/-- The digit of a hexadecimal number, in upper case. -/
def upperDigit (n : Nat) : Char :=
  "0123456789ABCDEF".toList.getD n '0'

/-- A number with a fixed count of hexadecimal digits. -/
def hexDigits (n : Nat) : Nat → List Char
  | 0 => []
  | count + 1 => upperDigit (n / Nat.pow 16 count % 16) :: hexDigits n count

/-- A character in double quotes. -/
def escape (c : Char) : List Char :=
  if isShown c && !isBreak c && c ≠ '"' && c ≠ '\\' then [c]
  else
    let code := c.toNat
    let short : List (Nat × Char) :=
      [(0, '0'), (7, 'a'), (8, 'b'), (9, 't'), (10, 'n'), (11, 'v'), (12, 'f'),
        (13, 'r'), (0x1B, 'e'), (0x22, '"'), (0x5C, '\\'), (0x85, 'N'),
        (0x2028, 'L'), (0x2029, 'P')]
    match short.lookup code with
    | some letter => ['\\', letter]
    | none =>
        if code ≤ 0xFF then '\\' :: 'x' :: hexDigits code 2
        else if code ≤ 0xFFFF then '\\' :: 'u' :: hexDigits code 4
        else '\\' :: 'U' :: hexDigits code 8

/-- Writes a text between double quotes. -/
def double (out : Written) (text : List Char) : Written :=
  ((out.mark ['"'] true false).add (text.flatMap escape)).mark ['"'] false false

/-- The signs behind the mark of a literal block: the indentation if the text
begins with a blank or a break, and what becomes of the breaks at its end. -/
def hints (text : List Char) : List Char :=
  let indentation :=
    if text.head?.any (fun c => c = ' ' || isBreak c) then
      (toString step).toList
    else []
  let chomping :=
    match text.reverse with
    | [] => ['-']
    | [c] => if isBreak c then ['+'] else ['-']
    | c :: before :: _ =>
        if !isBreak c then ['-'] else if isBreak before then ['+'] else []
  indentation ++ chomping

/-- A character of a literal block. -/
def addLiteral (indent : Nat) (out : Written × Bool) (c : Char) :
    Written × Bool :=
  let (out, wasBreak) := out
  if isBreak c then ({ out.addBreak c with inIndent := true }, true)
  else
    let out := if wasBreak then out.indentTo indent else out
    ({ out.add [c] with inIndent := false }, false)

/-- Writes a text as a literal block. -/
def literal (out : Written) (indent : Nat) (text : List Char) : Written :=
  let header := (out.mark ('|' :: hints text) true false).addBreak '\n'
  (text.foldl (addLiteral indent)
    ({ header with afterBlank := true, inIndent := true }, true)).1

/-- Writes a text plain. -/
def plain (out : Written) (text : List Char) : Written :=
  let out := if !out.afterBlank && !text.isEmpty then out.add [' '] else out
  { out.add text with afterBlank := false, inIndent := false }

/-- Writes a text in a form; `indent` is the column of the lines after the
first. -/
def scalar (out : Written) (indent : Nat) (form : Form) (text : List Char) :
    Written :=
  match form with
  | .plain => out.plain text
  | .single => out.single indent text
  | .double => out.double text
  | .literal => out.literal indent text

/-- Writes a text. -/
def string (out : Written) (indent : Nat) (isKey : Bool) (text : String) :
    Written :=
  let chars := text.toList
  out.scalar indent (Form.possible (Traits.of chars) isKey (.intended text))
    chars

/-- A key that is written before its colon on one line. -/
def isSimpleKey (key : String) : Bool :=
  !key.toList.any isBreak && key.utf8ByteSize ≤ 128

/-- The column of the collections within a collection; none around the
document. -/
def deeper (indent : Option Nat) : Nat :=
  match indent with
  | some column => column + step
  | none => 0

/-- The column of the further lines of a scalar. -/
def scalarIndent (indent : Option Nat) : Nat :=
  indent.getD 0 + step

/-- Writes a key and what separates it from its value. -/
def key (out : Written) (column : Nat) (name : String) : Written :=
  let out := out.indentTo column
  if isSimpleKey name then
    (out.string (column + step) true name).mark [':'] false false
  else
    (((out.mark ['?'] true true).string (column + step) false name).indentTo
      column).mark [':'] true true

/-- Writes a value within a collection at `indent`.  A sequence as the value of
a key on its line is not indented. -/
def value (out : Written) (indent : Option Nat) (isValue : Bool) :
    Json → Written
  | .null => out.plain "null".toList
  | .bool true => out.plain "true".toList
  | .bool false => out.plain "false".toList
  | .number (.int n) => out.plain (toString n).toList
  | .number (.float bits) => out.plain (Decimal.render .yaml bits).toList
  | .string text => out.string (scalarIndent indent) false text
  | .array [] => out.mark ['[', ']'] true false
  | .object [] => out.mark ['\x7b', '\x7d'] true false
  | .array items =>
      let column :=
        match indent with
        | some column =>
            if isValue && !out.inIndent then column else column + step
        | none => 0
      sequence out column items
  | .object members => mapping out (deeper indent) members
where
  /-- The items, each behind a dash. -/
  sequence (out : Written) (column : Nat) : List Json → Written
    | [] => out
    | item :: rest =>
        sequence (((out.indentTo column).mark ['-'] true true).value
          (some column) false item) column
          rest
  /-- The keys with their values. -/
  mapping (out : Written) (column : Nat) : List (String × Json) → Written
    | [] => out
    | (name, member) :: rest =>
        mapping
          ((out.key column name).value (some column) true member) column rest

end Written

/-- The value as a document. -/
def print (value : Json) : String :=
  let out := ((({} : Written).value none false value).indentTo 0)
  String.ofList out.text.reverse

end ClusterTrace.Yaml
