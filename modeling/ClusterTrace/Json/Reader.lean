import ClusterTrace.Json.Basic
import ClusterTrace.Word

/-!
# Reading JSON

`Json.parse` reads one value from a text.  Containers may nest 127 deep.  A
number with a fraction or an exponent, and an integer outside 64 bits, is taken
as significand times a power of ten: the significand keeps as many leading
digits as fit 64 bits and is scaled by one floating point operation.
-/

namespace ClusterTrace.Json

/-- What keeps a text from being a JSON value. -/
inductive SyntaxError where
  | unexpectedEnd
  | unexpectedEndInText
  | unexpectedEndInList
  | unexpectedEndInObject
  | expectedValue
  | expectedColon
  | expectedListCommaOrEnd
  | expectedObjectCommaOrEnd
  | keyMustBeText
  | trailingComma
  | trailingCharacters
  | invalidNumber
  | numberOutOfRange
  | invalidEscape
  | loneLeadingSurrogate
  | unexpectedEndOfHexEscape
  | controlCharacter
  | nestedTooDeep
  | expectedIdent
deriving Repr, DecidableEq

/-- The wording of an error, without its place. -/
def SyntaxError.words : SyntaxError → String
  | .unexpectedEnd => "EOF while parsing a value"
  | .unexpectedEndInText => "EOF while parsing a string"
  | .unexpectedEndInList => "EOF while parsing a list"
  | .unexpectedEndInObject => "EOF while parsing an object"
  | .expectedValue => "expected value"
  | .expectedColon => "expected `:`"
  | .expectedListCommaOrEnd => "expected `,` or `]`"
  | .expectedObjectCommaOrEnd => "expected `,` or `\x7d`"
  | .keyMustBeText => "key must be a string"
  | .trailingComma => "trailing comma"
  | .trailingCharacters => "trailing characters"
  | .invalidNumber => "invalid number"
  | .numberOutOfRange => "number out of range"
  | .invalidEscape => "invalid escape"
  | .loneLeadingSurrogate => "lone leading surrogate in hex escape"
  | .unexpectedEndOfHexEscape => "unexpected end of hex escape"
  | .controlCharacter =>
      "control character (\\u0000-\\u001F) found while parsing a string"
  | .nestedTooDeep => "recursion limit exceeded"
  | .expectedIdent => "expected ident"

/-- What keeps a text from being a JSON value, and the place where the reader
stops.  Lines and the octets of a line are counted from one. -/
structure SyntaxFault where
  cause : SyntaxError
  line : Nat
  column : Nat
deriving Repr, DecidableEq

def SyntaxFault.message (fault : SyntaxFault) : String :=
  fault.cause.words ++ " at line " ++ toString fault.line ++ " column " ++
    toString fault.column

/-- A value read from the front of a text, with the rest of the text. -/
abbrev Read (α : Type) := Except SyntaxError (α × List Char)

/-- The four characters that JSON counts as blank. -/
def isSpace (c : Char) : Bool :=
  c == ' ' || c == '\n' || c == '\t' || c == '\r'

/-- The text from its first character that is not blank. -/
def skipSpace (text : List Char) : List Char :=
  text.dropWhile isSpace

/-! ## Numbers -/

/-- Digits appended to a significand while it stays below `2 ^ 64`: the new
significand, how many digits were taken, and the rest. -/
def takeDigits (significand taken : Nat) : List Char → Nat × Nat × List Char
  | [] => (significand, taken, [])
  | c :: rest =>
      if c.isDigit then
        let next := significand * 10 + (c.toNat - '0'.toNat)
        if Word.fits 64 next then takeDigits next (taken + 1) rest
        else (significand, taken, c :: rest)
      else (significand, taken, c :: rest)

/-- The floating point number `significand * 10 ^ exponent`, scaled by steps of
at most `10 ^ 308`; none when it is too large. -/
def scaleFloat? (value : Float) (exponent : Int) : Nat → Option Float
  | 0 => some value
  | fuel + 1 =>
      if exponent.natAbs ≤ 308 then
        let power := Float.ofScientific 1 false exponent.natAbs
        if 0 ≤ exponent then
          let scaled := value * power
          if scaled.isInf then none else some scaled
        else some (value / power)
      else if value == 0.0 then some value
      else if 0 ≤ exponent then none
      else scaleFloat? (value / 1e308) (exponent + 308) fuel

private def finishFloat (negative : Bool) (significand : Nat) (exponent : Int)
    (rest : List Char) : Read Number :=
  match scaleFloat? (Float.ofNat significand) exponent 40 with
  | some value => .ok (.float (if negative then -value else value).toBits, rest)
  | none => .error .numberOutOfRange

/-- The number after its exponent mark. -/
private def readExponent (negative : Bool) (significand : Nat) (exponent : Int)
    (text : List Char) : Read Number :=
  let (below, digits) :=
    match text with
    | '+' :: rest => (false, rest)
    | '-' :: rest => (true, rest)
    | rest => (false, rest)
  match digits with
  | [] => .error .unexpectedEnd
  | c :: _ =>
      if c.isDigit then
        let written := digits.takeWhile Char.isDigit
        let rest := digits.dropWhile Char.isDigit
        let size := written.foldl (fun n d => n * 10 + (d.toNat - '0'.toNat)) 0
        if Word.fitsSigned 32 size then
          finishFloat negative significand
            (if below then exponent - size else exponent + size) rest
        else if significand ≠ 0 ∧ ¬ below then .error .numberOutOfRange
        else
          .ok (.float (if negative then (-0.0 : Float) else 0.0).toBits, rest)
      else .error .invalidNumber

/-- The number after its leading digits. -/
private def readScaled (negative : Bool) (significand : Nat) (exponent : Int)
    (text : List Char) : Read Number :=
  match text with
  | c :: rest =>
      if c == 'e' || c == 'E' then
        readExponent negative significand exponent rest
      else finishFloat negative significand exponent text
  | [] => finishFloat negative significand exponent text

/-- The number after its point. -/
private def readFraction (negative : Bool) (significand : Nat) (exponent : Int)
    (text : List Char) : Read Number :=
  let (significand, taken, rest) := takeDigits significand 0 text
  let ignored := rest.takeWhile Char.isDigit
  if taken = 0 ∧ ignored.isEmpty then
    .error (if rest.isEmpty then .unexpectedEnd else .invalidNumber)
  else
    readScaled negative significand (exponent - taken)
      (rest.drop ignored.length)

/-- The number without its sign. -/
private def readMagnitude (negative : Bool) (text : List Char) : Read Number :=
  match text with
  | [] => .error .unexpectedEnd
  | '0' :: c :: rest =>
      if c.isDigit then .error .invalidNumber else afterDigits 0 0 (c :: rest)
  | c :: _ =>
      if c.isDigit then
        let (significand, _, rest) := takeDigits 0 0 text
        let dropped := rest.takeWhile Char.isDigit
        afterDigits significand dropped.length (rest.drop dropped.length)
      else .error .invalidNumber
where
  /-- What follows the digits before the point. -/
  afterDigits (significand dropped : Nat) (rest : List Char) : Read Number :=
    match rest with
    | '.' :: more => readFraction negative significand dropped more
    | 'e' :: more => readExponent negative significand dropped more
    | 'E' :: more => readExponent negative significand dropped more
    | _ =>
        if dropped = 0 then
          if negative then
            let value : Int := -significand
            if significand ≠ 0 ∧ Word.fitsSigned 64 value then
              .ok (.int value, rest)
            else finishFloat true significand 0 rest
          else .ok (.int significand, rest)
        else finishFloat negative significand dropped rest

/-- A number at the front of the text. -/
def readNumber (text : List Char) : Read Number :=
  match text with
  | '-' :: rest => readMagnitude true rest
  | _ => readMagnitude false text

/-! ## Text -/

/-- The value of a hexadecimal digit. -/
def hexValue? (c : Char) : Option Nat :=
  if c.isDigit then some (c.toNat - '0'.toNat)
  else if 'a' ≤ c ∧ c ≤ 'f' then some (c.toNat - 'a'.toNat + 10)
  else if 'A' ≤ c ∧ c ≤ 'F' then some (c.toNat - 'A'.toNat + 10)
  else none

/-- The value of four hexadecimal digits. -/
def readHex4 (text : List Char) : Read Nat :=
  match text with
  | a :: b :: c :: d :: rest =>
      match hexValue? a, hexValue? b, hexValue? c, hexValue? d with
      | some a, some b, some c, some d =>
          .ok (a * 4096 + b * 256 + c * 16 + d, rest)
      | _, _, _, _ => .error .invalidEscape
  | _ => .error .unexpectedEndInText

/-- The character of an escape that gives a code unit, a second one following if
it is the first half of a pair. -/
def readUnicode (text : List Char) : Read Char :=
  match readHex4 text with
  | .error e => .error e
  | .ok (unit, rest) =>
      if 0xDC00 ≤ unit ∧ unit ≤ 0xDFFF then .error .loneLeadingSurrogate
      else if 0xD800 ≤ unit ∧ unit ≤ 0xDBFF then
        match rest with
        | '\\' :: 'u' :: more =>
            match readHex4 more with
            | .error e => .error e
            | .ok (low, rest) =>
                if 0xDC00 ≤ low ∧ low ≤ 0xDFFF then
                  .ok (Char.ofNat
                    (0x10000 + (unit - 0xD800) * 0x400 + (low - 0xDC00)), rest)
                else .error .loneLeadingSurrogate
        | [] => .error .unexpectedEndInText
        | _ => .error .unexpectedEndOfHexEscape
      else .ok (Char.ofNat unit, rest)

/-- The rest of a quoted text; each round takes at least one character. -/
def readQuotedFrom : Nat → List Char → List Char → Read String
  | 0, _, _ => .error .unexpectedEndInText
  | fuel + 1, acc, text =>
      match text with
      | [] => .error .unexpectedEndInText
      | '"' :: rest => .ok (String.ofList acc.reverse, rest)
      | '\\' :: c :: rest =>
          match c with
          | '"' => readQuotedFrom fuel ('"' :: acc) rest
          | '\\' => readQuotedFrom fuel ('\\' :: acc) rest
          | '/' => readQuotedFrom fuel ('/' :: acc) rest
          | 'b' => readQuotedFrom fuel (Char.ofNat 8 :: acc) rest
          | 'f' => readQuotedFrom fuel (Char.ofNat 12 :: acc) rest
          | 'n' => readQuotedFrom fuel ('\n' :: acc) rest
          | 'r' => readQuotedFrom fuel ('\r' :: acc) rest
          | 't' => readQuotedFrom fuel ('\t' :: acc) rest
          | 'u' =>
              match readUnicode rest with
              | .ok (unit, rest) => readQuotedFrom fuel (unit :: acc) rest
              | .error e => .error e
          | _ => .error .invalidEscape
      | ['\\'] => .error .unexpectedEndInText
      | c :: rest =>
          if c.toNat < 32 then .error .controlCharacter
          else readQuotedFrom fuel (c :: acc) rest

/-- A quoted text after its opening quote. -/
def readQuoted (text : List Char) : Read String :=
  readQuotedFrom (text.length + 1) [] text

/-! ## Values -/

/-- The value that the rest of a word stands for. -/
def readWord (word : List Char) (value : Json) (text : List Char) : Read Json :=
  if word.isPrefixOf text then .ok (value, text.drop word.length)
  else if text.length < word.length ∧ text.isPrefixOf word then
    .error .unexpectedEnd
  else .error .expectedIdent

mutual

/-- A value at the front of the text, with at most `depth` containers around its
innermost value.  Each call takes from `fuel`, which the text's length
bounds. -/
def readValue (depth : Nat) : Nat → List Char → Read Json
  | 0, _ => .error .unexpectedEnd
  | fuel + 1, text =>
      match skipSpace text with
      | [] => .error .unexpectedEnd
      | '"' :: rest =>
          (readQuoted rest).map fun (text, rest) => (.string text, rest)
      | '[' :: rest =>
          match depth with
          | 0 => .error .nestedTooDeep
          | depth + 1 =>
              match skipSpace rest with
              | ']' :: rest => .ok (.array [], rest)
              | rest => readItems depth fuel [] rest
      | '\x7b' :: rest =>
          match depth with
          | 0 => .error .nestedTooDeep
          | depth + 1 =>
              match skipSpace rest with
              | '\x7d' :: rest => .ok (.object [], rest)
              | rest => readMembers depth fuel [] rest
      | 'n' :: rest => readWord "ull".toList .null rest
      | 't' :: rest => readWord "rue".toList (.bool true) rest
      | 'f' :: rest => readWord "alse".toList (.bool false) rest
      | c :: rest =>
          if c == '-' || c.isDigit then
            (readNumber (c :: rest)).map
              fun (value, rest) => (.number value, rest)
          else .error .expectedValue

/-- The items of a list up to its end, the last read first in `acc`. -/
def readItems (depth : Nat) : Nat → List Json → List Char → Read Json
  | 0, _, _ => .error .unexpectedEndInList
  | fuel + 1, acc, text =>
      match readValue depth fuel text with
      | .error .unexpectedEnd =>
          .error (if (skipSpace text).isEmpty then .unexpectedEndInList
            else .unexpectedEnd)
      | .error e => .error e
      | .ok (item, rest) =>
          match skipSpace rest with
          | ',' :: rest =>
              match skipSpace rest with
              | ']' :: _ => .error .trailingComma
              | rest => readItems depth fuel (item :: acc) rest
          | ']' :: rest => .ok (.array (item :: acc).reverse, rest)
          | [] => .error .unexpectedEndInList
          | _ => .error .expectedListCommaOrEnd

/-- The members of an object up to its end, the last read first in `acc`. -/
def readMembers (depth : Nat) :
    Nat → List (String × Json) → List Char → Read Json
  | 0, _, _ => .error .unexpectedEndInObject
  | fuel + 1, acc, text =>
      match skipSpace text with
      | '"' :: rest =>
          match readQuoted rest with
          | .error e => .error e
          | .ok (key, rest) =>
              match skipSpace rest with
              | ':' :: rest =>
                  match readValue depth fuel rest with
                  | .error e => .error e
                  | .ok (value, rest) =>
                      match skipSpace rest with
                      | ',' :: rest =>
                          match skipSpace rest with
                          | '\x7d' :: _ => .error .trailingComma
                          | rest =>
                              readMembers depth fuel ((key, value) :: acc) rest
                      | '\x7d' :: rest =>
                          .ok (.object ((key, value) :: acc).reverse, rest)
                      | [] => .error .unexpectedEndInObject
                      | _ => .error .expectedObjectCommaOrEnd
              | [] => .error .unexpectedEndInObject
              | _ => .error .expectedColon
      | [] => .error .unexpectedEndInObject
      | _ => .error .keyMustBeText

end

/-- The greatest number of containers that may lie around a value. -/
def maxDepth : Nat := 127

/-- The value that the text holds, with blanks around it at most.  The members
of its objects are as they are written. -/
def parseAsWritten (text : String) : Except SyntaxError Json :=
  let chars := text.toList
  match readValue maxDepth (2 * chars.length + 2) chars with
  | .error e => .error e
  | .ok (value, rest) =>
      if (skipSpace rest).isEmpty then .ok value else .error .trailingCharacters

/-- The value that the text holds, in canonical form. -/
def parse (text : String) : Except SyntaxError Json :=
  (parseAsWritten text).map canonical

end ClusterTrace.Json
