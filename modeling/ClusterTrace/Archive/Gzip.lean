import ClusterTrace.Archive.Deflate

/-!
# Compressed files

A compressed file is a header, deflated data, and a check of the data.  It is
read as a stream that may turn out to be damaged only after some of its data was
handed out.
-/

namespace ClusterTrace.Archive

/-- Octets that can be read, and whether reading on past them fails. -/
structure Stream where
  octets : List UInt8
  isDamaged : Bool
deriving Repr, DecidableEq

namespace Gzip

/-- The octets after one that is zero. -/
def skipText? (octets : List UInt8) : Option (List UInt8) :=
  match octets.dropWhile (· ≠ 0) with
  | _ :: rest => some rest
  | [] => none

/-- The octets after a field that begins with its own size. -/
def skipField? (octets : List UInt8) : Option (List UInt8) :=
  let rest := octets.drop 2
  let size := ofLittleEndian (octets.take 2)
  if octets.length < 2 || rest.length < size then none
  else some (rest.drop size)

/-- The octets after a header. -/
def skipHeader? (file : List UInt8) : Option (List UInt8) :=
  match file with
  | 0x1F :: 0x8B :: 8 :: flags :: rest => do
      if rest.length < 6 || flags &&& 0xE0 ≠ 0 then none
      let rest := rest.drop 6
      let rest ← if flags &&& 0x04 ≠ 0 then skipField? rest else some rest
      let rest ← if flags &&& 0x08 ≠ 0 then skipText? rest else some rest
      let rest ← if flags &&& 0x10 ≠ 0 then skipText? rest else some rest
      if flags &&& 0x02 ≠ 0 then
        let header := file.take (file.length - rest.length)
        if rest.length < 2 || ofLittleEndian (rest.take 2) ≠
            (checksum header).toNat % 0x10000 then
          none
        else some (rest.drop 2)
      else some rest
  | _ => none

/-- The check of data and its size. -/
def trailer (octets : List UInt8) : List UInt8 :=
  littleEndian 4 (checksum octets).toNat ++ littleEndian 4 octets.length

/-- The data of a compressed file.  What follows it is not looked at. -/
def read (file : List UInt8) : Stream :=
  match skipHeader? file with
  | none => ⟨[], true⟩
  | some deflated =>
      match Deflate.inflate deflated with
      | (octets, none) => ⟨octets, true⟩
      | (octets, some rest) => ⟨octets, rest.take 8 ≠ trailer octets⟩

/-- Data as a compressed file in which nothing is made smaller. -/
def write (octets : List UInt8) : List UInt8 :=
  [0x1F, 0x8B, 8, 0, 0, 0, 0, 0, 0, 0xFF] ++ Deflate.store octets ++
    trailer octets

end Gzip
end ClusterTrace.Archive
