import ClusterTrace.Archive.Gzip
import ClusterTrace.Text.Blank
import ClusterTrace.Text.Utf8
import ClusterTrace.Word

/-!
# Archives of files

An archive is a sequence of blocks of 512 octets: for each member a header and
its content, padded with zeros, and a block of zeros at the end.  A long path
stands in a member of its own in front of the member that it names.  `Tar.read`
gives the members up to the end of the archive or to the first place at which it
is damaged.
-/

namespace ClusterTrace.Archive

inductive MemberKind where
  | file
  | hardLink
  | symbolicLink
  | directory
  | fifo
  /-- A file in one piece. -/
  | continuous
  | other (flag : UInt8)
deriving Repr, DecidableEq

namespace MemberKind

/-- The kind that a flag stands for. -/
def ofFlag (flag : UInt8) : MemberKind :=
  if flag = 0 || flag = 0x30 then .file
  else if flag = 0x31 then .hardLink
  else if flag = 0x32 then .symbolicLink
  else if flag = 0x35 then .directory
  else if flag = 0x36 then .fifo
  else if flag = 0x37 then .continuous
  else .other flag

def flag : MemberKind → UInt8
  | .file => 0x30
  | .hardLink => 0x31
  | .symbolicLink => 0x32
  | .directory => 0x35
  | .fifo => 0x36
  | .continuous => 0x37
  | .other flag => flag

end MemberKind

structure Member where
  path : List UInt8
  kind : MemberKind
  content : List UInt8
deriving Repr, DecidableEq

/-- The members of an archive, and whether it is damaged after them. -/
structure Contents where
  members : List Member
  isDamaged : Bool
deriving Repr, DecidableEq

namespace Tar

def blockSize : Nat := 512

/-- A size in whole blocks. -/
def padded (size : Nat) : Nat :=
  (size + (blockSize - 1)) / blockSize * blockSize

/-! ## Headers -/

def field (header : List UInt8) (start size : Nat) : List UInt8 :=
  (header.drop start).take size

/-- The octets before the first that is zero. -/
def textOf (octets : List UInt8) : List UInt8 :=
  octets.takeWhile (· ≠ 0)

/-- The value of an octal digit. -/
def octalDigit? (c : Char) : Option Nat :=
  if '0' ≤ c ∧ c ≤ '7' then some (c.toNat - '0'.toNat) else none

/-- The number that a text of octal digits writes. -/
def octal? (octets : List UInt8) : Option Nat := do
  let text ← Text.Utf8.decode? (textOf octets)
  let digits :=
    match Text.trim text.toList with
    | '+' :: rest => rest
    | trimmed => trimmed
  if digits.isEmpty then none
  let value : Nat ← (digits.mapM octalDigit?).map fun values =>
    values.foldl (fun total digit => total * 8 + digit) 0
  if Word.fits 64 value then some value else none

/-- The number of a field: octal digits, or octets behind one whose highest bit
is set. -/
def number? (octets : List UInt8) : Option Nat :=
  match octets with
  | first :: _ =>
      if first &&& 0x80 ≠ 0 then
        some ((octets.drop (octets.length - 8)).foldl
          (fun total octet => (total * 256 + octet.toNat) % Word.limit 64) 0)
      else octal? octets
  | [] => none

/-- The sum of the octets of a header, those of the field that holds it counted
as blanks. -/
def headerSum (header : List UInt8) : Nat :=
  (header.take 148 ++ header.drop 156).foldl
    (fun total octet => total + octet.toNat) (8 * 32)

/-- The header is of a form with long paths. -/
def isExtended (header : List UInt8) : Bool :=
  field header 257 8 = [0x75, 0x73, 0x74, 0x61, 0x72, 0x20, 0x20, 0] ||
    field header 257 8 = [0x75, 0x73, 0x74, 0x61, 0x72, 0, 0x30, 0x30]

/-- The header has a field for the beginning of the path. -/
def hasPathPrefix (header : List UInt8) : Bool :=
  field header 257 8 = [0x75, 0x73, 0x74, 0x61, 0x72, 0, 0x30, 0x30]

/-- The path that a header holds. -/
def headerPath (header : List UInt8) : List UInt8 :=
  let name := textOf (field header 0 100)
  let beginning := textOf (field header 345 155)
  if hasPathPrefix header && !beginning.isEmpty then beginning ++ 0x2F :: name
  else name

/-- The number at the front of octets that are digits, and the octets after
it. -/
def readDigits (octets : List UInt8) : Option Nat × List UInt8 :=
  let digits := octets.takeWhile fun octet => 0x30 ≤ octet && octet ≤ 0x39
  (if digits.isEmpty then none
    else
      some (digits.foldl
        (fun total octet => total * 10 + (octet.toNat - 0x30)) 0),
    octets.dropWhile fun octet => 0x30 ≤ octet && octet ≤ 0x39)

/-- The key and value of a line: its own size, a blank, the key, `=` and the
value. -/
def attribute? (line : List UInt8) : Option (List UInt8 × List UInt8) :=
  match readDigits line with
  | (some size, 0x20 :: rest) =>
      if size = line.length + 1 then
        match rest.dropWhile (· ≠ 0x3D) with
        | _ :: value => some (rest.takeWhile (· ≠ 0x3D), value)
        | [] => none
      else none
  | _ => none

/-- The value of a key among the lines of a list of attributes. -/
def attributeOf? (key : String) (lines : List UInt8) : Option (List UInt8) :=
  ((lines.splitOn 0x0A).filterMap attribute?).lookup (Text.Utf8.encode key)

/-! ## Reading -/

/-- What was read in front of the member that it describes. -/
structure Description where
  path : Option (List UInt8) := none
  link : Bool := false
  attributes : Option (List UInt8) := none
deriving Repr

/-- Nothing was read. -/
def Description.isEmpty (description : Description) : Bool :=
  description.path.isNone && !description.link && description.attributes.isNone

/-- The path of the member of a header. -/
def Description.pathOf (description : Description) (header : List UInt8) :
    List UInt8 :=
  match description.path with
  | some path => if path.getLast? = some 0 then path.dropLast else path
  | none =>
      match description.attributes.bind (attributeOf? "path") with
      | some path => path
      | none => headerPath header

/-- The size of the content of a header's member. -/
def Description.sizeOf? (description : Description) (header : List UInt8) :
    Option Nat :=
  match (description.attributes.bind (attributeOf? "size")).map readDigits with
  | some (some size, []) => some size
  | _ => number? (field header 124 12)

/-- The description with a member that describes the next one, if the header is
of such a member; the outer absence means that two describe the same. -/
def Description.extend? (description : Description)
    (header content : List UInt8) : Option (Option Description) :=
  let flag := (header.drop 156).headD 0
  if !isExtended header then some none
  else if flag = 0x4C then
    if description.path.isSome then none
    else some (some { description with path := some content })
  else if flag = 0x4B then
    if description.link then none
    else some (some { description with link := true })
  else if flag = 0x78 then
    if description.attributes.isSome then none
    else some (some { description with attributes := some content })
  else some none

/-- Reads members to the end.  Every member takes a block at least, so that
`limit` members suffice for an archive of `limit` octets. -/
def readMembers (isBroken : Bool) :
    Nat → Description → List UInt8 → List Member → List Member × Bool
  | 0, _, _, members => (members.reverse, true)
  | limit + 1, description, octets, members =>
      let header := octets.take blockSize
      let rest := octets.drop blockSize
      if octets.isEmpty then (members.reverse, isBroken || !description.isEmpty)
      else if header.length < blockSize then (members.reverse, true)
      else if header.all (· = 0) then (members.reverse, !description.isEmpty)
      else if octal? (field header 148 8) ≠ some (headerSum header) then
        (members.reverse, true)
      else
        match description.sizeOf? header with
        | none => (members.reverse, true)
        | some size =>
            let content := rest.take size
            match description.extend? header content with
            | none => (members.reverse, true)
            | some extended =>
                let (description, members) :=
                  match extended with
                  | some description => (description, members)
                  | none =>
                      let kind := MemberKind.ofFlag ((header.drop 156).headD 0)
                      ({},
                        ⟨description.pathOf header, kind, content⟩ :: members)
                if rest.length < padded size then (members.reverse, true)
                else
                  readMembers isBroken limit description
                    (rest.drop (padded size)) members

/-- The members of an archive. -/
def read (stream : Stream) : Contents :=
  let (members, isDamaged) :=
    readMembers stream.isDamaged (stream.octets.length + 1) {} stream.octets []
  ⟨members, isDamaged⟩

/-! ## Writing -/

/-- Octets with zeros after them, up to a size. -/
def zeroPadded (size : Nat) (octets : List UInt8) : List UInt8 :=
  octets ++ List.replicate (size - octets.length) 0

def octalDigits (width value : Nat) : List UInt8 :=
  (List.range width).map
    fun index => (0x30 + value / Nat.pow 8 (width - 1 - index) % 8).toUInt8

/-- The header of a member. -/
def header (path : List UInt8) (flag : UInt8) (size : Nat) : List UInt8 :=
  let front := zeroPadded 100 (path.take 100) ++ octalDigits 7 0o644 ++ [0] ++
    octalDigits 7 0 ++ [0] ++ octalDigits 7 0 ++ [0] ++
    octalDigits 11 size ++ [0] ++ octalDigits 11 0 ++ [0]
  let back := flag :: List.replicate 100 0 ++
    [0x75, 0x73, 0x74, 0x61, 0x72, 0x20, 0x20, 0]
  let blank := zeroPadded blockSize (front ++ List.replicate 8 0x20 ++ back)
  let sum := headerSum blank
  zeroPadded blockSize (front ++ octalDigits 6 sum ++ [0, 0x20] ++ back)

/-- A member in blocks. -/
def writeMember (member : Member) : List UInt8 :=
  let described :=
    if member.path.length ≤ 100 then []
    else
      let path := member.path ++ [0]
      header (Text.Utf8.encode "././@LongLink") 0x4C path.length ++
        zeroPadded (padded path.length) path
  described ++ header member.path member.kind.flag member.content.length ++
    zeroPadded (padded member.content.length) member.content

/-- Members in blocks, without the end of an archive. -/
def writeMembers (members : List Member) : List UInt8 :=
  members.flatMap writeMember

def write (members : List Member) : List UInt8 :=
  writeMembers members ++ List.replicate (2 * blockSize) 0

end Tar
end ClusterTrace.Archive
