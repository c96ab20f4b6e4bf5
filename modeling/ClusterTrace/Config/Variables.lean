import ClusterTrace.Storage.Assoc
import ClusterTrace.Text.Blank
import ClusterTrace.Text.Utf8

/-!
# Variables

The variables of an environment, and files that declare more of them.  A file
has a line `NAME=value` for each variable.  A value may be quoted, which lets it
run over several lines, and it may name variables that are known before.  What
has a value keeps it.  Reading ends at the first line that declares nothing; the
declarations before it count.
-/

namespace ClusterTrace

/-- The values of variables, by their names. -/
abbrev Variables := Assoc String String

namespace Variables

/-- The variables with one more, unless its name has a value. -/
def declare (name value : String) (known : Variables) : Variables :=
  if known.has name then known else known.put name value

/-! ## Lines -/

/-- The two marks of quotation. -/
inductive Quote where
  | single
  | double
deriving Repr, DecidableEq

def Quote.mark : Quote → Char
  | .single => '\''
  | .double => '"'

/-- Where in a line the next character is. -/
inductive Place where
  | plain
  /-- Directly after a blank. -/
  | blank
  | escaped
  | quoted (quote : Quote)
  | quotedEscaped (quote : Quote)
deriving Repr, DecidableEq

/-- The place after a character outside of quotes. -/
def Place.ofPlain (c : Char) : Place :=
  if c = '\\' then .escaped
  else if c = Quote.double.mark then .quoted .double
  else if c = Quote.single.mark then .quoted .single
  else .plain

/-- The place after one more character.  One blank after another does not count
as one. -/
def Place.next (place : Place) (c : Char) : Place :=
  match place with
  | .plain =>
      if Text.isBlank c && c != '\n' && c != '\r' then .blank else .ofPlain c
  | .blank => .ofPlain c
  | .escaped => .plain
  | .quoted quote =>
      if c = '\\' then .quotedEscaped quote
      else if c = quote.mark then .plain else place
  | .quotedEscaped quote => .quoted quote

/-- The characters before a comment, and the place after the last one if there
is no comment.  A comment begins directly after a blank. -/
def beforeComment (place : Place) : List Char → List Char × Option Place
  | [] => ([], some place)
  | c :: rest =>
      if place = .blank && c = '#' then ([], none)
      else
        let (before, last) := beforeComment (place.next c) rest
        (c :: before, last)

/-- The text is a comment as a whole. -/
def isComment (text : List Char) : Bool :=
  (Text.trimStart text).head? = some '#'

/-- Joins lines over which a quoted text runs.  What is held back has not ended;
lines that never end are left out. -/
def joinLines (held : List Char) (place : Place) :
    List (List Char) → List (List Char)
  | [] => []
  | line :: rest =>
      if isComment (held ++ line) then joinLines [] .plain rest
      else
        match beforeComment place line with
        | (before, none) => (held ++ before) :: joinLines [] .plain rest
        | (before, some .plain) => (held ++ before) :: joinLines [] .plain rest
        | (before, some place) => joinLines (held ++ before) place rest

/-- The lines of octets, each with its line feed. -/
def splitLines : List UInt8 → List (List UInt8)
  | [] => []
  | octet :: rest =>
      if octet = 0x0A then [octet] :: splitLines rest
      else
        match splitLines rest with
        | [] => [[octet]]
        | line :: more => (octet :: line) :: more

/-- The lines of a file up to the first one that is no text, joined. -/
def linesOf (octets : List UInt8) : List (List Char) :=
  let octets :=
    if [0xEF, 0xBB, 0xBF].isPrefixOf octets then octets.drop 3 else octets
  let texts := ((splitLines octets).map Text.Utf8.decode?).takeWhile (·.isSome)
  joinLines [] .plain (texts.filterMap fun text => text.map (·.toList))

/-! ## Values -/

/-- What the next character of a value belongs to. -/
inductive Stage where
  /-- The text itself, inside quotes if there is a mark. -/
  | text (quote : Option Quote)
  | escaped (quote : Option Quote)
  /-- A name after a dollar sign. -/
  | name (quote : Option Quote) (read : List Char)
  /-- A name in braces. -/
  | braced (quote : Option Quote) (read : List Char)
  /-- Nothing but blanks may follow. -/
  | ended
  | comment
deriving Repr, DecidableEq

/-- The character belongs to a name after a dollar sign: a letter, a digit, or
any character beyond ASCII that is not blank. -/
def isNamed (c : Char) : Bool :=
  c.isAlphanum || (0x80 ≤ c.toNat && !Text.isBlank c)

/-- The character that an escaped one stands for. -/
def unescape? (c : Char) : Option Char :=
  if c = '\\' || c = '\'' || c = '"' || c = '$' || c = ' ' then some c
  else if c = 'n' then some '\n'
  else none

/-- The stage after a character of the text, and what the character adds to the
value. -/
def Stage.ofText (quote : Option Quote) (c : Char) : Stage × List Char :=
  match quote with
  | some .single => if c = '\'' then (.text none, []) else (.text quote, [c])
  | some .double =>
      if c = '$' then (.name quote [], [])
      else if c = '"' then (.text none, [])
      else if c = '\\' then (.escaped quote, [])
      else (.text quote, [c])
  | none =>
      if c = '$' then (.name none [], [])
      else if c = '\'' then (.text (some .single), [])
      else if c = '"' then (.text (some .double), [])
      else if c = '\\' then (.escaped none, [])
      else if c = ' ' || c = '\t' then (.ended, [])
      else (.text none, [c])

/-- The stage after one more character, and what the character adds to the
value.  The character that ends a name without braces counts as text, whatever
it is, unless another name begins. -/
def Stage.next? (valueOf : List Char → List Char) (c : Char) :
    Stage → Option (Stage × List Char)
  | .text quote => some (ofText quote c)
  | .escaped quote => (unescape? c).map fun meant => (.text quote, [meant])
  | .name quote read =>
      if isNamed c then some (.name quote (read ++ [c]), [])
      else if c = '\x7b' && read.isEmpty then some (.braced quote [], [])
      else if c = '$' then some (.name quote [], valueOf read)
      else some (.text quote, valueOf read ++ [c])
  | .braced quote read =>
      if c = '\x7d' then some (.text quote, valueOf read)
      else some (.braced quote (read ++ [c]), [])
  | .ended =>
      if c = ' ' || c = '\t' then some (.ended, [])
      else if c = '#' then some (.comment, [])
      else none
  | .comment => some (.comment, [])

/-- What the end of the line adds to the value.  Quotes and braces must be
closed. -/
def Stage.atEnd? (valueOf : List Char → List Char) : Stage → Option (List Char)
  | .text none => some []
  | .escaped none => some []
  | .name none read => some (valueOf read)
  | .ended => some []
  | .comment => some []
  | _ => none

def readValue? (valueOf : List Char → List Char) (stage : Stage) :
    List Char → Option (List Char)
  | [] => stage.atEnd? valueOf
  | c :: rest => do
      let (stage, added) ← stage.next? valueOf c
      return added ++ (← readValue? valueOf stage rest)

/-! ## Declarations -/

/-- Reads a name: letters, digits, low lines and full stops, the first no digit
or full stop. -/
def readName? (text : List Char) : Option (List Char × List Char) :=
  match text with
  | first :: _ =>
      if first.isAlpha || first = '_' then
        let inName (c : Char) : Bool := c.isAlphanum || c = '_' || c = '.'
        some (text.takeWhile inName, Text.trimStart (text.dropWhile inName))
      else none
  | [] => none

/-- What follows an equals sign. -/
def afterEquals? : List Char → Option (List Char)
  | '=' :: rest => some (Text.trimStart rest)
  | _ => none

/-- Reads the name that a line declares, and the equals sign after it.  The word
`export` before the name is left out. -/
def readDeclared? (text : List Char) : Option (List Char × List Char) := do
  let (name, rest) ← readName? text
  match afterEquals? rest with
  | some rest => return (name, rest)
  | none =>
      if name = "export".toList then
        let (name, rest) ← readName? rest
        return (name, ← afterEquals? rest)
      else none

/-- The text is empty or a comment. -/
def isIdle (text : List Char) : Bool :=
  text.isEmpty || isComment text

/-- The variables after a line, if nothing is wrong with it. -/
def addLine? (known : Variables) (line : List Char) : Option Variables := do
  let text := Text.trim line
  if isIdle text then return known
  let (name, rest) ← readDeclared? text
  let valueOf (name : List Char) : List Char :=
    ((known.get? (String.ofList name)).getD "").toList
  let value ←
    if isIdle rest then some [] else readValue? valueOf (.text none) rest
  return known.declare (String.ofList name) (String.ofList value)

/-- The variables after lines up to the first one with which something is
wrong. -/
def addLines (known : Variables) : List (List Char) → Variables
  | [] => known
  | line :: rest =>
      match known.addLine? line with
      | some known => known.addLines rest
      | none => known

/-- The variables with those that a file declares. -/
def addFile (octets : List UInt8) (known : Variables) : Variables :=
  known.addLines (linesOf octets)

/-- The names that a file may mention, and others. -/
def mentioned (octets : List UInt8) : List String :=
  (linesOf octets).flatMap fun line =>
    (line.splitOnP (fun c => !isNamed c) ++
      line.splitOnP
        (fun c => !(isNamed c || c = '_' || c = '.'))).map String.ofList

end Variables
end ClusterTrace
