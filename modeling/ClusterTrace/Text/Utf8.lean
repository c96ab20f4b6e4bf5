/-!
# UTF-8

Reading characters from octets.  What is no character is refused by `decode?`
and replaced by `decodeLossy`, which writes one replacement character for each
longest beginning of a character and for each octet that begins none.
-/

namespace ClusterTrace.Text.Utf8

/-- How many octets a character has that begins with the octet; 0 where none
does. -/
def width (first : UInt8) : Nat :=
  if first < 0x80 then 1
  else if first < 0xC2 then 0
  else if first < 0xE0 then 2
  else if first < 0xF0 then 3
  else if first < 0xF5 then 4
  else 0

/-- The octet may be the second one of a character that begins with `first`. -/
def isSecond (first second : UInt8) : Bool :=
  let low : UInt8 :=
    if first = 0xE0 then 0xA0 else if first = 0xF0 then 0x90 else 0x80
  let high : UInt8 :=
    if first = 0xED then 0x9F else if first = 0xF4 then 0x8F else 0xBF
  low ≤ second && second ≤ high

/-- The octet continues a character. -/
def isContinuation (octet : UInt8) : Bool :=
  0x80 ≤ octet && octet ≤ 0xBF

/-- The octets after the first one that may belong to its character. -/
def continuation (first : UInt8) (rest : List UInt8) : List UInt8 :=
  match rest with
  | second :: more =>
      if 1 < width first && isSecond first second then
        second :: (more.take (width first - 2)).takeWhile isContinuation
      else []
  | [] => []

/-- The code point of the octets of a character. -/
def codePoint (first : UInt8) (later : List UInt8) : Nat :=
  let leading :=
    match width first with
    | 1 => first.toNat
    | 2 => first.toNat % 0x20
    | 3 => first.toNat % 0x10
    | _ => first.toNat % 0x08
  later.foldl (fun value octet => value * 64 + octet.toNat % 64) leading

/-- The characters of octets, with nothing for each fault. -/
def readAll : List UInt8 → List (Option Char)
  | [] => []
  | first :: rest =>
      let later := continuation first rest
      let char :=
        if later.length + 1 = width first then
          some (Char.ofNat (codePoint first later))
        else none
      char :: readAll (rest.drop later.length)
termination_by octets => octets.length
decreasing_by simp only [List.length_drop, List.length_cons]; omega

def decode? (octets : List UInt8) : Option String :=
  ((readAll octets).mapM id).map String.ofList

/-- The text of octets, faults replaced. -/
def decodeLossy (octets : List UInt8) : String :=
  String.ofList ((readAll octets).map fun char => char.getD '\uFFFD')

def encode (text : String) : List UInt8 :=
  text.toUTF8.toList

end ClusterTrace.Text.Utf8
