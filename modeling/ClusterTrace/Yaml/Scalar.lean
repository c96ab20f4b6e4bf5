import ClusterTrace.Yaml.Token

/-!
# Scalars

The texts of scalars in their four forms.  Within a scalar of several lines a
single line break counts as a space and a longer run of breaks as one break
less.  Every reader takes a bound on the number of its steps, for which the
length of the text is enough.
-/

namespace ClusterTrace.Yaml

/-- A text that grows at its end, the last character first. -/
abbrev Growing := List Char

/-- The text with more at its end. -/
def Growing.add (text : Growing) (more : List Char) : Growing :=
  more.reverse ++ text

/-- What a line break and the breaks that follow it stand for. -/
def foldBreaks (first following : List Char) : List Char :=
  match first, following with
  | '\n' :: _, [] => [' ']
  | '\n' :: _, _ => following
  | _, _ => first ++ following

/-! ## Blanks between the words of a scalar -/

/-- The blanks and breaks that were read since the last word. -/
structure Gap where
  blanks : List Char := []
  /-- The first line break. -/
  first : List Char := []
  /-- The line breaks after the first. -/
  following : List Char := []
  /-- A line break was read. -/
  isBroken : Bool := false

/-- What a gap stands for. -/
def Gap.text (gap : Gap) : List Char :=
  if gap.isBroken then foldBreaks gap.first gap.following else gap.blanks

/-- Reads blanks and breaks.  In a plain scalar, whose start is then given, a
tab may not indent a line up to a column. -/
def takeGap (tabsFrom : Option (Nat × Mark)) : Nat → Gap → Cursor → Scan Gap
  | 0, gap, cursor => .ok (gap, cursor)
  | fuel + 1, gap, cursor =>
      match cursor.peek? with
      | none => .ok (gap, cursor)
      | some c =>
          if isBlank c then
            match tabsFrom.filter fun limit =>
                gap.isBroken && cursor.mark.column < limit.1 && c = '\t' with
            | some (_, start) =>
                cursor.faultWhile .plainScalar start .tabViolatesIndentation
            | none =>
                let gap :=
                  if gap.isBroken then gap
                  else { gap with blanks := gap.blanks ++ [c] }
                takeGap tabsFrom fuel gap (cursor.skip 1)
          else if isBreak c then
            let (written, next) := cursor.skipBreak
            let gap :=
              if gap.isBroken then
                { gap with following := gap.following ++ written }
              else { gap with blanks := [], first := written, isBroken := true }
            takeGap tabsFrom fuel gap next
          else .ok (gap, cursor)

/-! ## Plain scalars -/

/-- The marks of flow collections, before which a plain scalar within them
ends. -/
def isFlowMark (c : Char) : Bool :=
  c = ',' || c = '[' || c = ']' || c = '\x7b' || c = '\x7d'

/-- Whether a plain scalar ends here. -/
def endsPlain (inFlow : Bool) (cursor : Cursor) : Bool :=
  match cursor.peek? with
  | none => true
  | some c =>
      isBlank c || isBreak c || (c = ':' && cursor.isSpacedAt 1) ||
        (inFlow && isFlowMark c)

/-- Within flow collections a colon may not stand before their marks. -/
def hasStrayColon (inFlow : Bool) (cursor : Cursor) : Bool :=
  inFlow && cursor.startsWith ':' && (cursor.peekAt? 1).any
    fun c => isFlowMark c || c = '?'

/-- The characters of a word of a plain scalar. -/
def takePlainWord (inFlow : Bool) (start : Mark) :
    Nat → Growing → Cursor → Scan Growing
  | 0, text, cursor => .ok (text, cursor)
  | fuel + 1, text, cursor =>
      match cursor.peek? with
      | none => .ok (text, cursor)
      | some c =>
          if hasStrayColon inFlow cursor then
            cursor.faultWhile .plainScalar start .unexpectedColon
          else if endsPlain inFlow cursor then .ok (text, cursor)
          else takePlainWord inFlow start fuel (c :: text) (cursor.skip 1)

/-- The text of a plain scalar, and whether a line break follows it. -/
structure PlainText where
  text : Growing
  endsLine : Bool

/-- The words of a plain scalar, with the gaps between them. -/
def takePlainFrom (inFlow : Bool) (column : Nat) (start : Mark) :
    Nat → Growing → Gap → Cursor → Scan PlainText
  | 0, text, gap, cursor => .ok (⟨text, gap.isBroken⟩, cursor)
  | fuel + 1, text, gap, cursor =>
      if cursor.atMarker '-' || cursor.atMarker '.' ||
          cursor.startsWith '#' then
        .ok (⟨text, gap.isBroken⟩, cursor)
      else
        match takePlainWord inFlow start (fuel + 1) [] cursor with
        | .error e => .error e
        | .ok (word, cursor) =>
            let (text, gap) :=
              if word.isEmpty then (text, gap)
              else (word ++ Growing.add text gap.text, {})
            if cursor.atBlank || cursor.atBreak then
              match takeGap (some (column, start)) (fuel + 1) gap cursor with
              | .error e => .error e
              | .ok (gap, cursor) =>
                  if !inFlow && cursor.mark.column < column then
                    .ok (⟨text, gap.isBroken⟩, cursor)
                  else takePlainFrom inFlow column start fuel text gap cursor
            else .ok (⟨text, gap.isBroken⟩, cursor)

/-- A plain scalar.  In a block its lines stand at or beyond a column. -/
def takePlain (inFlow : Bool) (column fuel : Nat) (cursor : Cursor) :
    Scan PlainText :=
  takePlainFrom inFlow column cursor.mark fuel [] {} cursor

/-! ## Quoted scalars -/

/-- What a short escape stands for. -/
def escaped? (c : Char) : Option Char :=
  match c with
  | '0' => some '\x00'
  | 'a' => some '\x07'
  | 'b' => some '\x08'
  | 't' => some '\t'
  | '\t' => some '\t'
  | 'n' => some '\n'
  | 'v' => some '\x0b'
  | 'f' => some '\x0c'
  | 'r' => some '\r'
  | 'e' => some '\x1b'
  | ' ' => some ' '
  | '"' => some '"'
  | '/' => some '/'
  | '\\' => some '\\'
  | 'N' => some '\u0085'
  | '_' => some '\u00a0'
  | 'L' => some '\u2028'
  | 'P' => some '\u2029'
  | _ => none

/-- How many hexadecimal digits follow an escape that gives a code point. -/
def codeLength? (c : Char) : Option Nat :=
  match c with
  | 'x' => some 2
  | 'u' => some 4
  | 'U' => some 8
  | _ => none

/-- The value of a hexadecimal digit. -/
def hexDigit? (c : Char) : Option Nat :=
  if c.isDigit then some (c.toNat - '0'.toNat)
  else if 'a' ≤ c ∧ c ≤ 'f' then some (c.toNat - 'a'.toNat + 10)
  else if 'A' ≤ c ∧ c ≤ 'F' then some (c.toNat - 'A'.toNat + 10)
  else none

/-- The value of hexadecimal digits, if all of them are. -/
def hexValue (digits : List Char) : Option Nat :=
  digits.foldlM (fun n c => (hexDigit? c).map (n * 16 + ·)) 0

/-- The character of an escape; the cursor stands at the backslash. -/
def takeEscape (start : Mark) (cursor : Cursor) : Scan Char :=
  match cursor.peekAt? 1 with
  | none => cursor.faultWhile .escape start .unknownEscape
  | some c =>
      match escaped? c, codeLength? c with
      | some value, _ => .ok (value, cursor.skip 2)
      | none, some length =>
          let after := cursor.skip 2
          let digits := after.text.take length
          match hexValue digits with
          | some value =>
              if digits.length < length then
                after.faultWhile .escape start .missingHexadecimal
              else if (0xD800 ≤ value ∧ value ≤ 0xDFFF) ∨ 0x10FFFF < value then
                after.faultWhile .escape start .invalidCodePoint
              else .ok (Char.ofNat value, after.skip length)
          | none => after.faultWhile .escape start .missingHexadecimal
      | none, none => cursor.faultWhile .escape start .unknownEscape

/-- The characters of a quoted scalar up to a blank, a break, its end or an
escaped line break; the last case is told apart. -/
def takeQuotedWord (isDouble : Bool) (start : Mark) :
    Nat → Growing → Cursor → Scan (Growing × Bool)
  | 0, text, cursor => .ok ((text, false), cursor)
  | fuel + 1, text, cursor =>
      match cursor.text with
      | [] => .ok ((text, false), cursor)
      | c :: more =>
          if isBlank c || isBreak c then .ok ((text, false), cursor)
          else if isDouble then
            if c = '"' then .ok ((text, false), cursor)
            else if c = '\\' then
              if more.head?.any isBreak then
                .ok ((text, true), (cursor.skip 1).skipBreak.2)
              else
                match takeEscape start cursor with
                | .ok (value, rest) =>
                    takeQuotedWord isDouble start fuel (value :: text) rest
                | .error e => .error e
            else takeQuotedWord isDouble start fuel (c :: text) (cursor.skip 1)
          else if c = '\'' then
            if more.head? = some '\'' then
              takeQuotedWord isDouble start fuel ('\'' :: text) (cursor.skip 2)
            else .ok ((text, false), cursor)
          else takeQuotedWord isDouble start fuel (c :: text) (cursor.skip 1)

/-- The words of a quoted scalar, with the gaps between them. -/
def takeQuotedFrom (isDouble : Bool) (start : Mark) :
    Nat → Growing → Cursor → Scan Growing
  | 0, _, cursor => cursor.faultWhile .quotedScalar start .endOfStream
  | fuel + 1, text, cursor =>
      if cursor.atMarker '-' || cursor.atMarker '.' then
        cursor.faultWhile .quotedScalar start .documentIndicator
      else if cursor.atEnd then
        cursor.faultWhile .quotedScalar start .endOfStream
      else
        match takeQuotedWord isDouble start (fuel + 1) text cursor with
        | .error e => .error e
        | .ok ((text, isJoined), cursor) =>
            if cursor.startsWith (if isDouble then '"' else '\'') then
              .ok (text, cursor.skip 1)
            else
              match takeGap none (fuel + 1) { isBroken := isJoined } cursor with
              | .error e => .error e
              | .ok (gap, cursor) =>
                  takeQuotedFrom isDouble start fuel
                    (Growing.add text gap.text) cursor

/-- A quoted scalar; the cursor stands at its opening quote. -/
def takeQuoted (isDouble : Bool) (fuel : Nat) (cursor : Cursor) :
    Scan Growing :=
  takeQuotedFrom isDouble cursor.mark fuel [] (cursor.skip 1)

/-! ## Block scalars -/

/-- What happens to the line breaks at the end of a block scalar. -/
inductive Chomping where
  | strip
  | clip
  | keep
deriving Repr, DecidableEq

/-- The header of a block scalar: chomping, and the indentation if it is
given. -/
structure BlockHeader where
  chomping : Chomping := .clip
  increment : Option Nat := none

/-- The chomping that a sign gives. -/
def chomping? (cursor : Cursor) : Option Chomping :=
  match cursor.peek? with
  | some '+' => some .keep
  | some '-' => some .strip
  | _ => none

/-- The digit that gives the indentation, if there is one. -/
def takeIncrement (start : Mark) (cursor : Cursor) : Scan (Option Nat) :=
  match cursor.peek? with
  | some c =>
      if c = '0' then cursor.faultWhile .blockScalar start .zeroIndentation
      else if c.isDigit then .ok (some (c.toNat - '0'.toNat), cursor.skip 1)
      else .ok (none, cursor)
  | none => .ok (none, cursor)

/-- The signs of the header in either order. -/
def takeHeaderSigns (start : Mark) (cursor : Cursor) : Scan BlockHeader :=
  match chomping? cursor with
  | some chomping =>
      (takeIncrement start (cursor.skip 1)).map
        fun (increment, rest) => (⟨chomping, increment⟩, rest)
  | none =>
      (takeIncrement start cursor).map fun (increment, rest) =>
        match increment, chomping? rest with
        | some increment, some chomping =>
            (⟨chomping, some increment⟩, rest.skip 1)
        | increment, _ => (⟨.clip, increment⟩, rest)

/-- The header up to the end of its line; the cursor stands behind the mark of
the scalar. -/
def takeBlockHeader (start : Mark) (cursor : Cursor) : Scan BlockHeader :=
  match takeHeaderSigns start cursor with
  | .error e => .error e
  | .ok (header, rest) =>
      let rest := rest.skipBlanks.skipComment
      if rest.atBreakOrEnd then .ok (header, rest.skipBreak.2)
      else rest.faultWhile .blockScalar start .missingCommentOrBreak

/-- The breaks of empty lines, and the widest column that these and the next
line reach. -/
structure EmptyLines where
  breaks : List Char := []
  widest : Nat := 0

/-- Moves over the spaces that count as indentation: all of them when no column
is known yet. -/
def skipIndentation (indent : Option Nat) (cursor : Cursor) : Cursor :=
  match indent with
  | none => cursor.skipWhile (· = ' ')
  | some column =>
      cursor.skip ((cursor.text.take (column - cursor.mark.column)).takeWhile
        (· = ' ')).length

/-- Reads the empty lines of a block scalar and the indentation of the next
line. -/
def takeEmptyLines (indent : Option Nat) (start : Mark) :
    Nat → EmptyLines → Cursor → Scan EmptyLines
  | 0, lines, cursor => .ok (lines, cursor)
  | fuel + 1, lines, cursor =>
      let cursor := skipIndentation indent cursor
      let lines := { lines with widest := max lines.widest cursor.mark.column }
      if indent.all (cursor.mark.column < ·) && cursor.startsWith '\t' then
        cursor.faultWhile .blockScalar start .tabInIndentation
      else if cursor.atBreak then
        let (written, next) := cursor.skipBreak
        takeEmptyLines indent start fuel
          { lines with breaks := lines.breaks ++ written } next
      else .ok (lines, cursor)

/-- What was read of a block scalar. -/
structure BlockText where
  text : Growing := []
  /-- The break at the end of the last line. -/
  last : List Char := []
  /-- The breaks of the empty lines after it. -/
  following : List Char := []
  /-- The last line began with a blank. -/
  wasBlank : Bool := false

/-- The text between the last line and one that begins with a blank or not.  In
a folded scalar only lines that do not are joined. -/
def BlockText.between (block : BlockText) (isLiteral isBlankLine : Bool) :
    List Char :=
  if !isLiteral && block.last.head? == some '\n' && !block.wasBlank &&
      !isBlankLine then
    foldBreaks block.last block.following
  else block.last ++ block.following

def takeBlockLines (isLiteral : Bool) (column : Nat) (start : Mark) :
    Nat → BlockText → Cursor → Scan BlockText
  | 0, block, cursor => .ok (block, cursor)
  | fuel + 1, block, cursor =>
      if cursor.mark.column != column || cursor.atEnd then .ok (block, cursor)
      else
        let isBlankLine := cursor.atBlank
        let (line, rest) := cursor.takeWhile fun c => !isBreak c
        let (written, next) := rest.skipBreak
        match takeEmptyLines (some column) start (fuel + 1) {} next with
        | .error e => .error e
        | .ok (lines, next) =>
            takeBlockLines isLiteral column start fuel
              { text :=
                  Growing.add
                    (Growing.add block.text
                      (block.between isLiteral isBlankLine)) line
                last := written
                following := lines.breaks
                wasBlank := isBlankLine }
              next

/-- A block scalar within a block whose column is `parent`, -1 outside of any.
The cursor stands at its mark. -/
def takeBlock (isLiteral : Bool) (parent : Int) (fuel : Nat) (cursor : Cursor) :
    Scan Growing :=
  let start := cursor.mark
  match takeBlockHeader start (cursor.skip 1) with
  | .error e => .error e
  | .ok (header, rest) =>
      let given :=
        header.increment.map fun increment => (max parent 0).toNat + increment
      match takeEmptyLines given start fuel {} rest with
      | .error e => .error e
      | .ok (lines, rest) =>
          let column := given.getD (max lines.widest (max (parent + 1).toNat 1))
          match takeBlockLines isLiteral column start fuel
              { following := lines.breaks } rest with
          | .error e => .error e
          | .ok (block, rest) =>
              match header.chomping with
              | .strip => .ok (block.text, rest)
              | .clip => .ok (block.text.add block.last, rest)
              | .keep =>
                  .ok (block.text.add (block.last ++ block.following), rest)

end ClusterTrace.Yaml
