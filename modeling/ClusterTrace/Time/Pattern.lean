import ClusterTrace.Text.Blank
import ClusterTrace.Time.Instant
import ClusterTrace.Word

/-!
# Reading instants

A pattern is a list of items that are read one after the other.  `Instant.parse`
reads the date and time format of documents, where blanks may stand around the
marks; `readWhole` reads a text that a single pattern covers.
-/

namespace ClusterTrace.Time

open ClusterTrace.Text

/-- Why a text is not an instant. -/
inductive TimeError where
  | tooShort
  | invalid
  | outOfRange
  | tooLong
  | impossible
deriving Repr, DecidableEq

def TimeError.message : TimeError → String
  | .tooShort => "premature end of input"
  | .invalid => "input contains invalid characters"
  | .outOfRange => "input is out of range"
  | .tooLong => "trailing input"
  | .impossible => "no possible date and time matching input"

/-- The fields of a local date and time with its offset from universal time in
seconds. -/
structure Fields where
  date : Date := ⟨0, 1, 1⟩
  hour : Nat := 0
  minute : Nat := 0
  second : Nat := 0
  nanos : Nat := 0
  offset : Int := 0
deriving Repr, DecidableEq

/-- One step of a pattern. -/
inductive Item where
  | year
  | month
  | day
  | hour
  | minute
  | second
  /-- A point and digits, if there is a point. -/
  | fraction
  /-- Any blanks, none included. -/
  | blanks
  /-- This very character. -/
  | mark (c : Char)
  /-- A sign, two digits of hours and two of minutes. -/
  | offset
deriving Repr, DecidableEq

/-- A value read from the front of a text, with the rest. -/
abbrev Taken (α : Type) := Except TimeError (α × List Char)

/-- The value of decimal digits. -/
def digitsValue (digits : List Char) : Nat :=
  digits.foldl (fun n d => n * 10 + (d.toNat - '0'.toNat)) 0

/-- At least one and at most `limit` digits. -/
def takeNumber (limit : Nat) (text : List Char) : Taken Nat :=
  match text with
  | [] => .error .tooShort
  | c :: _ =>
      if c.isDigit then
        let digits := (text.take limit).takeWhile Char.isDigit
        let value := digitsValue digits
        if Word.fitsSigned 64 value then .ok (value, text.drop digits.length)
        else .error .outOfRange
      else .error .invalid

/-- A year: a sign and any number of digits, or at most four digits. -/
def takeYear (text : List Char) : Taken Int :=
  let year : Taken Int :=
    match text with
    | '-' :: rest =>
        (takeNumber rest.length rest).map fun (n, rest) => (-(n : Int), rest)
    | '+' :: rest =>
        (takeNumber rest.length rest).map fun (n, rest) => ((n : Int), rest)
    | _ => (takeNumber 4 text).map fun (n, rest) => ((n : Int), rest)
  match year with
  | .ok (n, rest) =>
      if Word.fitsSigned 32 n then .ok (n, rest) else .error .outOfRange
  | .error e => .error e

/-- A number of at most two digits between two bounds. -/
def takeBounded (low high : Nat) (text : List Char) : Taken Nat :=
  match takeNumber 2 (trimStart text) with
  | .ok (n, rest) =>
      if low ≤ n ∧ n ≤ high then .ok (n, rest) else .error .outOfRange
  | .error e => .error e

/-- The nanoseconds after a point; digits from the tenth on are ignored. -/
def takeFraction (text : List Char) : Taken Nat :=
  match takeNumber 9 text with
  | .ok (value, rest) =>
      let width := text.length - rest.length
      .ok (value * Nat.pow 10 (9 - width), rest.dropWhile Char.isDigit)
  | .error e => .error e

/-- The first two characters as digits; a single character of one byte is too
few. -/
def takePair (text : List Char) : Taken (Nat × Nat) :=
  match text with
  | a :: b :: rest =>
      if a.isDigit ∧ b.isDigit then
        .ok ((a.toNat - '0'.toNat, b.toNat - '0'.toNat), rest)
      else .error .invalid
  | [a] => .error (if a.toNat < 128 then .tooShort else .invalid)
  | [] => .error .tooShort

/-- An offset in seconds: sign, hours, any colons and blanks, minutes below
sixty. -/
def takeOffset (text : List Char) : Taken Int :=
  let signed : Taken Bool :=
    match text with
    | '+' :: rest => .ok (false, rest)
    | '-' :: rest => .ok (true, rest)
    | '−' :: rest => .ok (true, rest)
    | _ :: _ => .error .invalid
    | [] => .error .tooShort
  match signed with
  | .error e => .error e
  | .ok (negative, rest) =>
      match takePair rest with
      | .error e => .error e
      | .ok ((h₁, h₂), rest) =>
          match takePair (rest.dropWhile fun c => c == ':' || isBlank c) with
          | .error e => .error e
          | .ok ((m₁, m₂), rest) =>
              if m₁ < 6 then
                let size : Int :=
                  ((h₁ * 10 + h₂) * 3600 + (m₁ * 10 + m₂) * 60 : Nat)
                .ok (if negative then -size else size, rest)
              else .error .outOfRange

def Item.read (item : Item) (fields : Fields) (text : List Char) :
    Taken Fields :=
  match item with
  | .year =>
      (takeYear (trimStart text)).map fun (n, rest) =>
        ({ fields with date := { fields.date with year := n } }, rest)
  | .month =>
      (takeBounded 1 12 text).map fun (n, rest) =>
        ({ fields with date := { fields.date with month := n } }, rest)
  | .day =>
      (takeBounded 1 31 text).map fun (n, rest) =>
        ({ fields with date := { fields.date with day := n } }, rest)
  | .hour =>
      (takeBounded 0 23 text).map
        fun (n, rest) => ({ fields with hour := n }, rest)
  | .minute =>
      (takeBounded 0 59 text).map
        fun (n, rest) => ({ fields with minute := n }, rest)
  | .second =>
      (takeBounded 0 60 text).map
        fun (n, rest) => ({ fields with second := n }, rest)
  | .fraction =>
      match text with
      | '.' :: rest =>
          (takeFraction rest).map
            fun (n, rest) => ({ fields with nanos := n }, rest)
      | _ => .ok (fields, text)
  | .blanks => .ok (fields, trimStart text)
  | .mark c =>
      match text with
      | [] => .error .tooShort
      | d :: rest => if c = d then .ok (fields, rest) else .error .invalid
  | .offset =>
      (takeOffset (trimStart text)).map
        fun (n, rest) => ({ fields with offset := n }, rest)

/-- Reads the items of a pattern in order. -/
def readItems : List Item → Fields → List Char → Taken Fields
  | [], fields, text => .ok (fields, text)
  | item :: items, fields, text =>
      match item.read fields text with
      | .ok (fields, rest) => readItems items fields rest
      | .error e => .error e

/-- The instant that the fields name.  The sixtieth second of a minute is a leap
second. -/
def Fields.toInstant (fields : Fields) : Except TimeError Instant :=
  if ¬ (fields.date.isValid ∧ isRepresented fields.date.year) then
    .error .outOfRange
  else if 86400 ≤ fields.offset.natAbs then .error .outOfRange
  else
    let leap := fields.second / 60
    let second := fields.second - leap
    let clock := fields.hour * 3600 + fields.minute * 60 + second
    let seconds := fields.date.toDays * 86400 + clock - fields.offset
    if isRepresented (Date.ofDays (seconds / 86400)).year then
      .ok ⟨seconds, fields.nanos + leap * Instant.nanosPerSecond⟩
    else .error .impossible

/-- The instant of a text that the pattern covers to its end. -/
def readWhole (pattern : List Item) (text : List Char) :
    Except TimeError Instant :=
  match readItems pattern {} text with
  | .ok (fields, []) => fields.toInstant
  | .ok (_, _ :: _) => .error .tooLong
  | .error e => .error e

/-- The date of a document's instant. -/
def datePattern : List Item :=
  [.year, .blanks, .mark '-', .month, .blanks, .mark '-', .day]

/-- The time of day of a document's instant. -/
def clockPattern : List Item :=
  [.hour, .blanks, .mark ':', .minute, .blanks, .mark ':', .second, .fraction,
    .blanks]

/-- The offset of a document's instant: `Z`, `UTC` in either case, or a signed
offset. -/
def takeZone (text : List Char) : Taken Int :=
  if (text.take 3).map Char.toLower = ['u', 't', 'c'] then .ok (0, text.drop 3)
  else
    match text with
    | 'Z' :: rest => .ok (0, rest)
    | 'z' :: rest => .ok (0, rest)
    | _ => takeOffset text

/-- The instant that a document's text gives: date, `T` or a blank, time of day
and zone. -/
def Instant.parse (text : String) : Except TimeError Instant :=
  match readItems datePattern {} text.toList with
  | .error e => .error e
  | .ok (fields, rest) =>
      match rest with
      | [] => .error .tooShort
      | c :: rest =>
          if c == 't' || c == 'T' || c == ' ' then
            match readItems clockPattern fields rest with
            | .error e => .error e
            | .ok (fields, rest) =>
                match takeZone (trimStart rest) with
                | .error e => .error e
                | .ok (offset, rest) =>
                    if (trimStart rest).isEmpty then
                      { fields with offset := offset }.toInstant
                    else .error .tooLong
          else .error .invalid

end ClusterTrace.Time
