import ClusterTrace.Yaml.Fault

/-!
# Texts of YAML streams

A stream is read from octets in UTF-8, of which every character must be
printable.  `Cursor` is a text with the place that its front has in the stream.
-/

namespace ClusterTrace.Yaml

/-! ## Characters -/

/-- The characters that may occur in a stream. -/
def isPrintable (code : Nat) : Bool :=
  code = 0x09 || code = 0x0A || code = 0x0D || (0x20 ≤ code && code ≤ 0x7E) ||
    code = 0x85 || (0xA0 ≤ code && code ≤ 0xD7FF) ||
    (0xE000 ≤ code && code ≤ 0xFFFD) || (0x10000 ≤ code && code ≤ 0x10FFFF)

/-- The characters that end a line. -/
def isBreak (c : Char) : Bool :=
  c = '\r' || c = '\n' || c = '\u0085' || c = '\u2028' || c = '\u2029'

/-- Space and tab. -/
def isBlank (c : Char) : Bool :=
  c = ' ' || c = '\t'

/-- The characters of names: ASCII letters and digits, `_` and `-`. -/
def isNameChar (c : Char) : Bool :=
  c.isAlphanum || c = '_' || c = '-'

/-- How many octets a character has, by its first one. -/
def octetWidth (octet : UInt8) : Nat :=
  if octet < 0x80 then 1
  else if octet &&& 0xE0 = 0xC0 then 2
  else if octet &&& 0xF0 = 0xE0 then 3
  else if octet &&& 0xF8 = 0xF0 then 4
  else 0

/-- The bits that the first octet of a character of some width contributes. -/
def leadingBits (width : Nat) (octet : UInt8) : Nat :=
  match width with
  | 1 => octet.toNat
  | 2 => octet.toNat % 0x20
  | 3 => octet.toNat % 0x10
  | _ => octet.toNat % 0x08

/-- The least code point that needs a number of octets. -/
def leastOfWidth : Nat → Nat
  | 2 => 0x80
  | 3 => 0x800
  | 4 => 0x10000
  | _ => 0

/-- The code point of a character's octets, or the first octet that is no
continuation. -/
def joinOctets (value : Nat) (position : Nat) : List UInt8 → Except Nat Nat
  | [] => .ok value
  | octet :: rest =>
      if octet &&& 0xC0 = 0x80 then
        joinOctets (value * 64 + octet.toNat % 64) (position + 1) rest
      else .error position

/-- The characters of octets in UTF-8; `position` is the place of the first
octet. -/
def decodeOctets (octets : List UInt8) (position : Nat) (acc : List Char) :
    Except SyntaxFault (List Char) :=
  match octets with
  | [] => .ok acc.reverse
  | first :: rest =>
      let width := octetWidth first
      let fault (problem : Problem) (offset : Nat) :
          Except SyntaxFault (List Char) :=
        .error { problem := problem, mark := {}, octet := position + offset }
      if width = 0 then fault .invalidLeadingOctet 0
      else if (rest.take (width - 1)).length < width - 1 then
        fault .incompleteOctets 0
      else
        match joinOctets (leadingBits width first) 1
            (rest.take (width - 1)) with
        | .error offset => fault .invalidTrailingOctet offset
        | .ok code =>
            if code < leastOfWidth width then fault .invalidLength 0
            else if (0xD800 ≤ code ∧ code ≤ 0xDFFF) ∨ 0x10FFFF < code then
              fault .invalidCharacter 0
            else if isPrintable code then
              decodeOctets (rest.drop (width - 1)) (position + width)
                (Char.ofNat code :: acc)
            else fault .controlCharacter 0
termination_by octets.length
decreasing_by
  simp only [List.length_drop, List.length_cons]
  omega

/-! ## Cursors -/

/-- The rest of a text, and its place in the stream. -/
structure Cursor where
  text : List Char
  mark : Mark := {}
deriving Repr

namespace Cursor

/-- The first character. -/
def peek? (cursor : Cursor) : Option Char :=
  cursor.text.head?

def peekAt? (cursor : Cursor) (distance : Nat) : Option Char :=
  cursor.text[distance]?

/-- The first character is the given one. -/
def startsWith (cursor : Cursor) (c : Char) : Bool :=
  cursor.peek? == some c

/-- There is a space or a tab. -/
def atBlank (cursor : Cursor) : Bool :=
  cursor.peek?.any isBlank

/-- There is a line break. -/
def atBreak (cursor : Cursor) : Bool :=
  cursor.peek?.any isBreak

/-- There is nothing. -/
def atEnd (cursor : Cursor) : Bool :=
  cursor.text.isEmpty

/-- There is a line break or nothing. -/
def atBreakOrEnd (cursor : Cursor) : Bool :=
  cursor.peek?.all isBreak

/-- At a distance there is a blank, a line break or nothing. -/
def isSpacedAt (cursor : Cursor) (distance : Nat) : Bool :=
  (cursor.peekAt? distance).all fun c => isBlank c || isBreak c

/-- There is a document marker of three equal characters at the start of a
line. -/
def atMarker (cursor : Cursor) (c : Char) : Bool :=
  cursor.mark.column == 0 && cursor.text.take 3 == [c, c, c] &&
    cursor.isSpacedAt 3

/-- Moves over characters within a line, as many as there must be. -/
def skip (cursor : Cursor) (count : Nat) : Cursor :=
  { text := cursor.text.drop count
    mark :=
      { cursor.mark with
        index := cursor.mark.index + count
        column := cursor.mark.column + count } }

/-- Moves over the characters in front that a predicate accepts, all within a
line. -/
def skipWhile (cursor : Cursor) (accepts : Char → Bool) : Cursor :=
  cursor.skip (cursor.text.takeWhile accepts).length

/-- The characters in front that a predicate accepts, all within a line, and the
rest. -/
def takeWhile (cursor : Cursor) (accepts : Char → Bool) : List Char × Cursor :=
  let taken := cursor.text.takeWhile accepts
  (taken, cursor.skip taken.length)

/-- Moves over a line break, if there is one.  What it stands for is a line
feed, or the separator itself. -/
def skipBreak (cursor : Cursor) : List Char × Cursor :=
  let next (count : Nat) : Cursor :=
    { text := cursor.text.drop count
      mark := ⟨cursor.mark.index + count, cursor.mark.line + 1, 0⟩ }
  match cursor.text with
  | '\r' :: '\n' :: _ => (['\n'], next 2)
  | c :: _ =>
      if c = '\u2028' ∨ c = '\u2029' then ([c], next 1)
      else if isBreak c then (['\n'], next 1)
      else ([], cursor)
  | [] => ([], cursor)

/-- Moves over blanks. -/
def skipBlanks (cursor : Cursor) : Cursor :=
  cursor.skipWhile isBlank

/-- Moves over a comment, if there is one. -/
def skipComment (cursor : Cursor) : Cursor :=
  if cursor.startsWith '#' then cursor.skipWhile fun c => !isBreak c else cursor

/-- A problem noticed here. -/
def fault {α : Type} (cursor : Cursor) (problem : Problem) :
    Except SyntaxFault α :=
  .error { problem := problem, mark := cursor.mark }

/-- A problem noticed here while reading something. -/
def faultWhile {α : Type} (cursor : Cursor) (activity : Activity) (start : Mark)
    (problem : Problem) : Except SyntaxFault α :=
  .error
    { problem := problem
      mark := cursor.mark
      activity := some (activity, start) }

end Cursor
end ClusterTrace.Yaml
