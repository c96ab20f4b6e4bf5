/-!
# Faults of YAML texts

A syntax fault names the problem, where it was noticed, and what was being read
at the time.  The wording of a place counts lines and columns from one.
-/

namespace ClusterTrace.Yaml

/-- A place in a text; lines and columns count from zero. -/
structure Mark where
  index : Nat := 0
  line : Nat := 0
  column : Nat := 0
deriving Repr, DecidableEq, Inhabited

/-- The place is not the very first one. -/
def Mark.isPastStart (mark : Mark) : Bool :=
  mark.line != 0 || mark.column != 0

/-- The place in words. -/
def Mark.words (mark : Mark) : String :=
  "line " ++ toString (mark.line + 1) ++ " column " ++
    toString (mark.column + 1)

/-- What the syntax forbids. -/
inductive Problem where
  | invalidLeadingOctet
  | incompleteOctets
  | invalidTrailingOctet
  | invalidLength
  | invalidCharacter
  | controlCharacter
  | noToken
  | missingColon
  | misplacedEntry
  | misplacedKey
  | misplacedValue
  | unknownDirective
  | missingDirectiveName
  | nonAlphabetical
  | missingCommentOrBreak
  | missingDigitOrDot
  | longVersion
  | missingVersion
  | missingSpace
  | missingSpaceOrBreak
  | missingName
  | missingTagEnd
  | missingBang
  | missingUri
  | missingEscapedOctet
  | wrongLeadingOctet
  | wrongTrailingOctet
  | zeroIndentation
  | tabInIndentation
  | documentIndicator
  | endOfStream
  | unknownEscape
  | missingHexadecimal
  | invalidCodePoint
  | unexpectedColon
  | tabViolatesIndentation
  | missingDocumentStart
  | duplicateVersion
  | incompatibleVersion
  | duplicateTagDirective
  | undefinedHandle
  | missingContent
  | missingDash
  | missingKey
  | missingSequenceEnd
  | missingMappingEnd
deriving Repr, DecidableEq

def Problem.words : Problem → String
  | .invalidLeadingOctet => "invalid leading UTF-8 octet"
  | .incompleteOctets => "incomplete UTF-8 octet sequence"
  | .invalidTrailingOctet => "invalid trailing UTF-8 octet"
  | .invalidLength => "invalid length of a UTF-8 sequence"
  | .invalidCharacter => "invalid Unicode character"
  | .controlCharacter => "control characters are not allowed"
  | .noToken => "found character that cannot start any token"
  | .missingColon => "could not find expected ':'"
  | .misplacedEntry => "block sequence entries are not allowed in this context"
  | .misplacedKey => "mapping keys are not allowed in this context"
  | .misplacedValue => "mapping values are not allowed in this context"
  | .unknownDirective => "found unknown directive name"
  | .missingDirectiveName => "could not find expected directive name"
  | .nonAlphabetical => "found unexpected non-alphabetical character"
  | .missingCommentOrBreak => "did not find expected comment or line break"
  | .missingDigitOrDot => "did not find expected digit or '.' character"
  | .longVersion => "found extremely long version number"
  | .missingVersion => "did not find expected version number"
  | .missingSpace => "did not find expected whitespace"
  | .missingSpaceOrBreak => "did not find expected whitespace or line break"
  | .missingName => "did not find expected alphabetic or numeric character"
  | .missingTagEnd => "did not find the expected '>'"
  | .missingBang => "did not find expected '!'"
  | .missingUri => "did not find expected tag URI"
  | .missingEscapedOctet => "did not find URI escaped octet"
  | .wrongLeadingOctet => "found an incorrect leading UTF-8 octet"
  | .wrongTrailingOctet => "found an incorrect trailing UTF-8 octet"
  | .zeroIndentation => "found an indentation indicator equal to 0"
  | .tabInIndentation =>
      "found a tab character where an indentation space is expected"
  | .documentIndicator => "found unexpected document indicator"
  | .endOfStream => "found unexpected end of stream"
  | .unknownEscape => "found unknown escape character"
  | .missingHexadecimal => "did not find expected hexdecimal number"
  | .invalidCodePoint => "found invalid Unicode character escape code"
  | .unexpectedColon => "found unexpected ':'"
  | .tabViolatesIndentation => "found a tab character that violates indentation"
  | .missingDocumentStart => "did not find expected <document start>"
  | .duplicateVersion => "found duplicate %YAML directive"
  | .incompatibleVersion => "found incompatible YAML document"
  | .duplicateTagDirective => "found duplicate %TAG directive"
  | .undefinedHandle => "found undefined tag handle"
  | .missingContent => "did not find expected node content"
  | .missingDash => "did not find expected '-' indicator"
  | .missingKey => "did not find expected key"
  | .missingSequenceEnd => "did not find expected ',' or ']'"
  | .missingMappingEnd => "did not find expected ',' or '\x7d'"

/-- What was being read when a problem was noticed. -/
inductive Activity where
  | token
  | simpleKey
  | directive
  | versionDirective
  | tagDirective
  | anchor
  | alias
  | tag
  | tagText (isDirective : Bool)
  | blockScalar
  | quotedScalar
  | escape
  | plainScalar
  | node
  | blockNode
  | flowNode
  | blockCollection
  | blockMapping
  | flowSequence
  | flowMapping
deriving Repr, DecidableEq

def Activity.words : Activity → String
  | .token => "while scanning for the next token"
  | .simpleKey => "while scanning a simple key"
  | .directive => "while scanning a directive"
  | .versionDirective => "while scanning a %YAML directive"
  | .tagDirective => "while scanning a %TAG directive"
  | .anchor => "while scanning an anchor"
  | .alias => "while scanning an alias"
  | .tag => "while scanning a tag"
  | .tagText true => "while parsing a %TAG directive"
  | .tagText false => "while parsing a tag"
  | .blockScalar => "while scanning a block scalar"
  | .quotedScalar => "while scanning a quoted scalar"
  | .escape => "while parsing a quoted scalar"
  | .plainScalar => "while scanning a plain scalar"
  | .node => "while parsing a node"
  | .blockNode => "while parsing a block node"
  | .flowNode => "while parsing a flow node"
  | .blockCollection => "while parsing a block collection"
  | .blockMapping => "while parsing a block mapping"
  | .flowSequence => "while parsing a flow sequence"
  | .flowMapping => "while parsing a flow mapping"

/-- A violation of the syntax. -/
structure SyntaxFault where
  problem : Problem
  /-- Where the problem was noticed. -/
  mark : Mark
  /-- The octet of the problem, when the text could not even be decoded. -/
  octet : Nat := 0
  /-- What was being read, and where that began. -/
  activity : Option (Activity × Mark) := none
deriving Repr, DecidableEq

/-- The wording of a violation, with its places. -/
def SyntaxFault.words (fault : SyntaxFault) : String :=
  let place :=
    if fault.mark.isPastStart then " at " ++ fault.mark.words
    else if fault.octet ≠ 0 then " at position " ++ toString fault.octet
    else ""
  let context :=
    match fault.activity with
    | none => ""
    | some (activity, start) =>
        ", " ++ activity.words ++
          (if start.isPastStart &&
              (start.line != fault.mark.line ||
                start.column != fault.mark.column)
            then " at " ++ start.words else "")
  fault.problem.words ++ place ++ context

end ClusterTrace.Yaml
