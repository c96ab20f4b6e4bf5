import ClusterTrace.Yaml.Scalar

/-!
# From characters to tokens

The lexer keeps the columns of the open block collections and, for each open
flow collection, the place of a token that may turn out to be a mapping key.  A
key and the start of its mapping are known only at the colon, so they are
inserted before tokens that were read already.
-/

namespace ClusterTrace.Yaml

/-- A token that is a mapping key if a colon follows. -/
structure PendingKey where
  /-- How many tokens stand before it. -/
  position : Nat
  mark : Mark
  /-- In its place there can be nothing but a key. -/
  isRequired : Bool
deriving Repr

/-- The state of the lexer. -/
structure Lexer where
  cursor : Cursor
  /-- A bound on the steps within one scalar. -/
  fuel : Nat
  /-- The tokens that were read, the last one first. -/
  tokens : List Located := []
  count : Nat := 0
  /-- The column of the innermost block collection, -1 outside of any. -/
  indent : Int := -1
  /-- The columns of the collections around it. -/
  outer : List Int := []
  /-- A key without mark may start here. -/
  keyAllowed : Bool := true
  /-- The pending key of the innermost flow collection, or of the block outside
  of all. -/
  key : Option PendingKey := none
  /-- The pending keys around it, one for each open flow collection. -/
  outerKeys : List (Option PendingKey) := []

namespace Lexer

/-- Within a flow collection. -/
def inFlow (lexer : Lexer) : Bool :=
  !lexer.outerKeys.isEmpty

/-- One more token, here. -/
def push (lexer : Lexer) (token : Token) : Lexer :=
  { lexer with
    tokens := ⟨token, lexer.cursor.mark⟩ :: lexer.tokens
    count := lexer.count + 1 }

/-- One more token, behind the first `position` ones. -/
def insert (lexer : Lexer) (position : Nat) (token : Token) (mark : Mark) :
    Lexer :=
  { lexer with
    tokens := lexer.tokens.insertIdx (lexer.count - position) ⟨token, mark⟩
    count := lexer.count + 1 }

def moveTo (lexer : Lexer) (cursor : Cursor) : Lexer :=
  { lexer with cursor := cursor }

/-- One more token, made of the next characters. -/
def pushMark (lexer : Lexer) (token : Token) (length : Nat) : Lexer :=
  (lexer.push token).moveTo (lexer.cursor.skip length)

/-! ## Indentation -/

/-- Opens a block collection at a column, unless one is open there. -/
def roll (lexer : Lexer) (column : Nat) (position : Nat) (token : Token)
    (mark : Mark) : Lexer :=
  if !lexer.inFlow && lexer.indent < (column : Int) then
    { lexer.insert position token mark with
      outer := lexer.indent :: lexer.outer
      indent := column }
  else lexer

/-- Closes the block collections beyond a column. -/
def unrollFrom (column : Int) : List Int → Lexer → Lexer
  | [], lexer => lexer
  | next :: outer, lexer =>
      if column < lexer.indent then
        unrollFrom column outer
          { lexer.push .blockEnd with indent := next, outer := outer }
      else lexer

/-- Closes the block collections beyond a column, within blocks. -/
def unroll (lexer : Lexer) (column : Int) : Lexer :=
  if lexer.inFlow then lexer else unrollFrom column lexer.outer lexer

/-! ## Pending keys -/

/-- What a required key without a colon is. -/
def missingColon {α : Type} (lexer : Lexer) (key : PendingKey) :
    Except SyntaxFault α :=
  lexer.cursor.faultWhile .simpleKey key.mark .missingColon

/-- The pending key, unless it can be none any more: it lies on an earlier line,
or too far back. -/
def freshen (lexer : Lexer) (key : Option PendingKey) :
    Except SyntaxFault (Option PendingKey) :=
  match key with
  | none => .ok none
  | some pending =>
      let mark := lexer.cursor.mark
      if pending.mark.line < mark.line ||
          pending.mark.index + 1024 < mark.index then
        if pending.isRequired then lexer.missingColon pending else .ok none
      else .ok (some pending)

/-- Drops the pending keys that can be none any more. -/
def dropStaleKeys (lexer : Lexer) : Except SyntaxFault Lexer := do
  let outerKeys ← lexer.outerKeys.mapM lexer.freshen
  let key ← lexer.freshen lexer.key
  return { lexer with key := key, outerKeys := outerKeys }

/-- Drops the pending key. -/
def dropKey (lexer : Lexer) : Except SyntaxFault Lexer :=
  match lexer.key with
  | some pending =>
      if pending.isRequired then lexer.missingColon pending
      else .ok { lexer with key := none }
  | none => .ok lexer

/-- The next token may be a key, if one may start here. -/
def saveKey (lexer : Lexer) : Except SyntaxFault Lexer :=
  if lexer.keyAllowed then do
    let lexer ← lexer.dropKey
    let mark := lexer.cursor.mark
    let isRequired := !lexer.inFlow && lexer.indent == mark.column
    return { lexer with key := some ⟨lexer.count, mark, isRequired⟩ }
  else .ok lexer

/-! ## Directives and tags -/

def takeVersionNumber (start : Mark) (cursor : Cursor) : Scan Nat :=
  let digits := cursor.text.takeWhile Char.isDigit
  if digits.isEmpty then
    cursor.faultWhile .versionDirective start .missingVersion
  else if 9 < digits.length then
    (cursor.skip 9).faultWhile .versionDirective start .longVersion
  else
    .ok (digits.foldl (fun n c => n * 10 + (c.toNat - '0'.toNat)) 0,
      cursor.skip digits.length)

/-- The octets of a character that a tag gives by hexadecimal numbers, each as a
character.  Of the first octet follows how many there are. -/
def takeEscapedOctets (isDirective : Bool) (start : Mark) :
    Nat → List Char → Cursor → Scan (List Char)
  | 0, octets, cursor => .ok (octets.reverse, cursor)
  | left + 1, octets, cursor =>
      let octet? :=
        match cursor.text with
        | '%' :: a :: b :: _ => hexValue [a, b]
        | _ => none
      match octet? with
      | none =>
          cursor.faultWhile (.tagText isDirective) start .missingEscapedOctet
      | some octet =>
          if octets.isEmpty then
            match octetWidth octet.toUInt8 with
            | 0 =>
                cursor.faultWhile (.tagText isDirective) start
                  .wrongLeadingOctet
            | more + 1 =>
                takeEscapedOctets isDirective start (min left more)
                  [Char.ofNat octet] (cursor.skip 3)
          else if octet / 64 ≠ 2 then
            cursor.faultWhile (.tagText isDirective) start .wrongTrailingOctet
          else
            takeEscapedOctets isDirective start left
              (Char.ofNat octet :: octets) (cursor.skip 3)

/-- The characters of tags.  Those of flow collections occur in whole tags
only. -/
def isTagChar (isWhole : Bool) (c : Char) : Bool :=
  isNameChar c || ";/?:@&=+$.%!~*'()".toList.contains c ||
    (isWhole && ",[]".toList.contains c)

/-- The text of a tag behind what was read of it already. -/
def takeTagText (isWhole isDirective : Bool) (start : Mark) :
    Nat → List Char → Cursor → Scan (List Char)
  | 0, text, cursor => .ok (text.reverse, cursor)
  | fuel + 1, text, cursor =>
      match cursor.peek? with
      | none => .ok (text.reverse, cursor)
      | some c =>
          if c = '%' then
            match takeEscapedOctets isDirective start 5 [] cursor with
            | .ok (octets, rest) =>
                takeTagText isWhole isDirective start fuel
                  (octets.reverse ++ text) rest
            | .error e => .error e
          else if isTagChar isWhole c then
            takeTagText isWhole isDirective start fuel (c :: text)
              (cursor.skip 1)
          else .ok (text.reverse, cursor)

/-- The text of a tag, which may only be empty when `mayBeEmpty`. -/
def takeTag (lexer : Lexer) (isWhole isDirective mayBeEmpty : Bool)
    (start : Mark) (cursor : Cursor) : Scan (List Char) :=
  match takeTagText isWhole isDirective start lexer.fuel [] cursor with
  | .error e => .error e
  | .ok ([], rest) =>
      if mayBeEmpty then .ok ([], rest)
      else rest.faultWhile (.tagText isDirective) start .missingUri
  | .ok result => .ok result

/-- A tag handle: `!`, a name and, if it is there, another `!`.  A directive
needs the second one, unless the name is empty. -/
def takeHandle (isDirective : Bool) (start : Mark) (cursor : Cursor) :
    Scan (List Char) :=
  if cursor.startsWith '!' then
    let (name, rest) := (cursor.skip 1).takeWhile isNameChar
    if rest.startsWith '!' then .ok ('!' :: name ++ ['!'], rest.skip 1)
    else if isDirective && !name.isEmpty then
      rest.faultWhile (.tagText isDirective) start .missingBang
    else .ok ('!' :: name, rest)
  else
    cursor.faultWhile (if isDirective then .directive else .tag) start
      .missingBang

/-- The token of a tag; the cursor stands at its `!`. -/
def takeTagToken (lexer : Lexer) (cursor : Cursor) : Scan Token :=
  let start := cursor.mark
  let parts : Scan (String × String) :=
    if cursor.peekAt? 1 = some '<' then
      match lexer.takeTag true false false start (cursor.skip 2) with
      | .error e => .error e
      | .ok (suffix, rest) =>
          if rest.startsWith '>' then
            .ok (("", String.ofList suffix), rest.skip 1)
          else rest.faultWhile .tag start .missingTagEnd
    else
      match takeHandle false start cursor with
      | .error e => .error e
      | .ok (handle, rest) =>
          if 1 < handle.length && handle.getLast? == some '!' then
            (lexer.takeTag false false false start rest).map
              fun (suffix, rest) =>
                ((String.ofList handle, String.ofList suffix), rest)
          else
            (lexer.takeTag false false true start rest).map
              fun (suffix, rest) =>
                let name := handle.drop 1 ++ suffix
                (if name.isEmpty then ("", "!") else ("!", String.ofList name),
                  rest)
  match parts with
  | .error e => .error e
  | .ok ((handle, suffix), rest) =>
      if rest.isSpacedAt 0 || (lexer.inFlow && rest.startsWith ',') then
        .ok (.tag handle suffix, rest)
      else rest.faultWhile .tag start .missingSpaceOrBreak

/-- The token of a `%YAML` or `%TAG` directive. -/
def takeDirectiveToken (lexer : Lexer) (cursor : Cursor) : Scan Token :=
  let start := cursor.mark
  let (name, rest) := (cursor.skip 1).takeWhile isNameChar
  if name.isEmpty then rest.faultWhile .directive start .missingDirectiveName
  else if !rest.isSpacedAt 0 then
    rest.faultWhile .directive start .nonAlphabetical
  else if name = "YAML".toList then
    match takeVersionNumber start rest.skipBlanks with
    | .error e => .error e
    | .ok (major, rest) =>
        if rest.startsWith '.' then
          (takeVersionNumber start (rest.skip 1)).map fun (minor, rest) =>
            (.version major minor, rest)
        else rest.faultWhile .versionDirective start .missingDigitOrDot
  else if name = "TAG".toList then
    match takeHandle true start rest.skipBlanks with
    | .error e => .error e
    | .ok (handle, rest) =>
        if rest.atBlank then
          match lexer.takeTag true true false start rest.skipBlanks with
          | .error e => .error e
          | .ok (text, rest) =>
              if rest.isSpacedAt 0 then
                .ok (.tagHandle (String.ofList handle) (String.ofList text),
                  rest)
              else rest.faultWhile .tagDirective start .missingSpaceOrBreak
        else rest.faultWhile .tagDirective start .missingSpace
  else rest.faultWhile .directive start .unknownDirective

/-! ## One token after the other -/

/-- Reads a directive up to the end of its line. -/
def readDirective (lexer : Lexer) : Except SyntaxFault Lexer := do
  let lexer ← (lexer.unroll (-1)).dropKey
  let start := lexer.cursor.mark
  let (token, rest) ← lexer.takeDirectiveToken lexer.cursor
  let rest := rest.skipBlanks.skipComment
  if rest.atBreakOrEnd then
    return { lexer.push token with
      keyAllowed := false, cursor := rest.skipBreak.2 }
  else rest.faultWhile .directive start .missingCommentOrBreak

/-- Reads the marker of the start or the end of a document. -/
def readMarker (lexer : Lexer) (token : Token) : Except SyntaxFault Lexer := do
  let lexer ← (lexer.unroll (-1)).dropKey
  return { lexer.pushMark token 3 with keyAllowed := false }

/-- Reads the opening mark of a flow collection. -/
def readOpening (lexer : Lexer) (token : Token) : Except SyntaxFault Lexer := do
  let lexer ← lexer.saveKey
  let outerKeys := lexer.key :: lexer.outerKeys
  return { lexer.pushMark token 1 with
    key := none, outerKeys := outerKeys, keyAllowed := true }

/-- Reads the closing mark of a flow collection. -/
def readClosing (lexer : Lexer) (token : Token) : Except SyntaxFault Lexer := do
  let lexer ← lexer.dropKey
  let closed := { lexer.pushMark token 1 with keyAllowed := false }
  match lexer.outerKeys with
  | key :: outerKeys =>
      return { closed with key := key, outerKeys := outerKeys }
  | [] => return closed

def readComma (lexer : Lexer) : Except SyntaxFault Lexer := do
  let lexer ← lexer.dropKey
  return { lexer.pushMark .flowEntry 1 with keyAllowed := true }

/-- Reads the dash of a block entry. -/
def readDash (lexer : Lexer) : Except SyntaxFault Lexer := do
  let mark := lexer.cursor.mark
  if !lexer.inFlow && !lexer.keyAllowed then lexer.cursor.fault .misplacedEntry
  else
    let lexer ←
      (lexer.roll mark.column lexer.count .blockSequenceStart mark).dropKey
    return { lexer.pushMark .blockEntry 1 with keyAllowed := true }

/-- Reads the mark of a key. -/
def readKey (lexer : Lexer) : Except SyntaxFault Lexer := do
  let mark := lexer.cursor.mark
  if !lexer.inFlow && !lexer.keyAllowed then lexer.cursor.fault .misplacedKey
  else
    let lexer ←
      (lexer.roll mark.column lexer.count .blockMappingStart mark).dropKey
    return { lexer.pushMark .key 1 with keyAllowed := !lexer.inFlow }

/-- Reads a colon, which makes a pending key one. -/
def readColon (lexer : Lexer) : Except SyntaxFault Lexer :=
  let mark := lexer.cursor.mark
  match lexer.key with
  | some key =>
      let lexer := lexer.insert key.position .key key.mark
      let lexer :=
        lexer.roll key.mark.column key.position .blockMappingStart key.mark
      .ok { lexer.pushMark .value 1 with key := none, keyAllowed := false }
  | none =>
      if !lexer.inFlow && !lexer.keyAllowed then
        lexer.cursor.fault .misplacedValue
      else
        let lexer := lexer.roll mark.column lexer.count .blockMappingStart mark
        .ok { lexer.pushMark .value 1 with keyAllowed := !lexer.inFlow }

/-- Reads a token that may be a key. -/
def readKeyLike (lexer : Lexer) (take : Cursor → Scan Token) :
    Except SyntaxFault Lexer := do
  let lexer ← lexer.saveKey
  let (token, rest) ← take lexer.cursor
  return { lexer.push token with keyAllowed := false, cursor := rest }

/-- The characters that may follow a name. -/
def endsName (cursor : Cursor) : Bool :=
  cursor.isSpacedAt 0 || cursor.peek?.any
    fun c => "?:,]\x7d%@`".toList.contains c

/-- Reads the name of an anchor or an alias, behind its mark. -/
def takeName (activity : Activity) (token : String → Token) (cursor : Cursor) :
    Scan Token :=
  let (name, rest) := (cursor.skip 1).takeWhile isNameChar
  if name.isEmpty || !endsName rest then
    rest.faultWhile activity cursor.mark .missingName
  else .ok (token (String.ofList name), rest)

def scalarToken (style : Style) (text : Growing) : Token :=
  .scalar (String.ofList text.reverse) style

def readBlockScalar (lexer : Lexer) (isLiteral : Bool) :
    Except SyntaxFault Lexer := do
  let lexer ← lexer.dropKey
  let (text, rest) ← takeBlock isLiteral lexer.indent lexer.fuel lexer.cursor
  let next :=
    lexer.push (scalarToken (if isLiteral then .literal else .folded) text)
  return { next with keyAllowed := true, cursor := rest }

def readQuotedScalar (lexer : Lexer) (isDouble : Bool) :
    Except SyntaxFault Lexer :=
  lexer.readKeyLike fun cursor =>
    (takeQuoted isDouble lexer.fuel cursor).map
      fun (text, rest) => (scalarToken .quoted text, rest)

def readPlainScalar (lexer : Lexer) : Except SyntaxFault Lexer := do
  let lexer ← lexer.saveKey
  let (plain, rest) ←
    takePlain lexer.inFlow (lexer.indent + 1).toNat lexer.fuel lexer.cursor
  let next := lexer.push (scalarToken .plain plain.text)
  return { next with keyAllowed := plain.endsLine, cursor := rest }

/-- Moves to the next token: over blanks, comments and line breaks.  A tab does
not indent. -/
def skipToToken : Nat → Lexer → Lexer
  | 0, lexer => lexer
  | fuel + 1, lexer =>
      let cursor :=
        if lexer.cursor.mark.column == 0 &&
            lexer.cursor.startsWith '\ufeff' then
          lexer.cursor.skip 1
        else lexer.cursor
      let cursor :=
        if lexer.inFlow || !lexer.keyAllowed then cursor.skipBlanks
        else cursor.skipWhile (· = ' ')
      let cursor := cursor.skipComment
      if cursor.atBreak then
        skipToToken fuel
          { lexer with
            cursor := cursor.skipBreak.2
            keyAllowed := !lexer.inFlow || lexer.keyAllowed }
      else lexer.moveTo cursor

/-- A plain scalar may start with this character, the next one given by its
place. -/
def startsPlain (lexer : Lexer) (c : Char) : Bool :=
  if "-?:,[]\x7b\x7d#&*!|>'\"%@`".toList.contains c then
    (c = '-' && !(lexer.cursor.peekAt? 1).any isBlank) ||
      (!lexer.inFlow && (c = '?' || c = ':') && !lexer.cursor.isSpacedAt 1)
  else !isBlank c

/-- Reads the token that begins with a character. -/
def readToken (lexer : Lexer) (c : Char) : Except SyntaxFault Lexer :=
  let cursor := lexer.cursor
  if cursor.mark.column == 0 && c = '%' then lexer.readDirective
  else if cursor.atMarker '-' then lexer.readMarker .documentStart
  else if cursor.atMarker '.' then lexer.readMarker .documentEnd
  else if c = '[' then lexer.readOpening .flowSequenceStart
  else if c = '\x7b' then lexer.readOpening .flowMappingStart
  else if c = ']' then lexer.readClosing .flowSequenceEnd
  else if c = '\x7d' then lexer.readClosing .flowMappingEnd
  else if c = ',' then lexer.readComma
  else if c = '-' && cursor.isSpacedAt 1 then lexer.readDash
  else if c = '?' && (lexer.inFlow || cursor.isSpacedAt 1) then lexer.readKey
  else if c = ':' && (lexer.inFlow || cursor.isSpacedAt 1) then lexer.readColon
  else if c = '*' then lexer.readKeyLike (takeName .alias .alias)
  else if c = '&' then lexer.readKeyLike (takeName .anchor .anchor)
  else if c = '!' then lexer.readKeyLike lexer.takeTagToken
  else if c = '|' && !lexer.inFlow then lexer.readBlockScalar true
  else if c = '>' && !lexer.inFlow then lexer.readBlockScalar false
  else if c = '\'' then lexer.readQuotedScalar false
  else if c = '"' then lexer.readQuotedScalar true
  else if lexer.startsPlain c then lexer.readPlainScalar
  else cursor.faultWhile .token cursor.mark .noToken

/-- Ends the stream. -/
def finish (lexer : Lexer) : Except SyntaxFault Lexer := do
  let mark := lexer.cursor.mark
  let mark :=
    if mark.column = 0 then mark
    else { mark with line := mark.line + 1, column := 0 }
  let lexer ←
    ((lexer.moveTo { lexer.cursor with mark := mark }).unroll (-1)).dropKey
  return lexer.push .streamEnd

/-- The tokens up to the end of the stream or a fault. -/
def run : Nat → Lexer → List Located × Option SyntaxFault
  | 0, lexer => (lexer.tokens.reverse, none)
  | fuel + 1, lexer =>
      let ready := skipToToken lexer.fuel lexer
      match ready.dropStaleKeys with
      | .error e => (ready.tokens.reverse, some e)
      | .ok ready =>
          let ready := ready.unroll ready.cursor.mark.column
          match ready.cursor.peek? with
          | none =>
              match ready.finish with
              | .ok lexer => (lexer.tokens.reverse, none)
              | .error e => (ready.tokens.reverse, some e)
          | some c =>
              match ready.readToken c with
              | .ok lexer => run fuel lexer
              | .error e => (ready.tokens.reverse, some e)

end Lexer

/-- The tokens of a stream up to its end or to a fault. -/
def tokens (text : List Char) : List Located × Option SyntaxFault :=
  let size := text.length + 2
  Lexer.run size { cursor := { text := text }, fuel := size }

end ClusterTrace.Yaml
