import ClusterTrace.Files.Path
import ClusterTrace.Word

/-!
# Numbered names

A file whose place is taken gets the next numbered name: `pod.yaml` becomes
`pod_1.yaml`, then `pod_2.yaml`.  Numbers are words of 64 bits.  The name before
a numbering can be read off again.
-/

namespace ClusterTrace.Ingest

/-! ## Numbering -/

/-- The value of decimal digits. -/
def indexValue (digits : List Char) : Nat :=
  digits.foldl (fun value c => value * 10 + (c.toNat - '0'.toNat)) 0

/-- The number that digits with an optional sign write, if it fits in 64
bits. -/
def readIndex? (text : List Char) : Option Nat :=
  let digits :=
    match text with
    | '+' :: rest => rest
    | _ => text
  if digits.isEmpty || !digits.all Char.isDigit then none
  else if Word.fits 64 (indexValue digits) then some (indexValue digits)
  else none

/-- A stem with a number at its end. -/
def numbered (base : List Char) (index : Nat) : List Char :=
  base ++ '_' :: (toString index).toList

/-- The stem with the next number. -/
def bumpStem (stem : List Char) : List Char :=
  match Path.splitLast? '_' stem with
  | some (base, suffix) =>
      match readIndex? suffix with
      | some index => numbered base (Word.next 64 index)
      | none => numbered stem 1
  | none => numbered stem 1

/-- The file name with the next number in front of its extension. -/
def bumpName (name : String) : String :=
  let (stem, extension) := Path.stemAndExtension name.toList
  String.ofList (Path.ofStem (bumpStem stem) extension)

/-- The path with the next numbered file name. -/
def bumpPath (path : String) : String :=
  Path.withFileName path (bumpName ((Path.fileName? path).getD ""))

/-- The first of `limit` candidates that is not taken, each the next one after
the one before. -/
def firstFree {α : Type} (isTaken : α → Bool) (next : α → α) : Nat → α → α
  | 0, candidate => candidate
  | limit + 1, candidate =>
      if isTaken candidate then firstFree isTaken next limit (next candidate)
      else candidate

/-! ## The name before a numbering -/

/-- The file name that was numbered to give this one. -/
def nameBeforeRename? (name : String) : Option String :=
  let (stem, extension) := Path.stemAndExtension name.toList
  match Path.splitLast? '_' stem with
  | some (base, suffix) =>
      if base.isEmpty || suffix.isEmpty || !suffix.all Char.isDigit then none
      else some (String.ofList (Path.ofStem base extension))
  | none => none

end ClusterTrace.Ingest
