import ClusterTrace.Archive.Checksum

/-!
# Deflated data

Deflated data is a sequence of blocks: stored octets, or words of canonical
prefix codes that stand for single octets and for repetitions of what came
before.  `Deflate.inflate` gives all that can be read, and what follows the data
if it is whole.
-/

namespace ClusterTrace.Archive.Deflate

/-! ## Bits -/

/-- Octets that are read bit by bit, the lowest bit of each first. -/
structure Bits where
  /-- The bits that are left of an octet. -/
  pending : List Bool
  octets : List UInt8
deriving Repr

namespace Bits

/-- The bits of an octet, the lowest first. -/
def ofOctet (octet : UInt8) : List Bool :=
  (List.range 8).map fun index => octet.toNat.testBit index

/-- How many bits there are. -/
def size (bits : Bits) : Nat :=
  bits.pending.length + 8 * bits.octets.length

def next? (bits : Bits) : Option (Bool × Bits) :=
  match bits.pending, bits.octets with
  | bit :: rest, octets => some (bit, ⟨rest, octets⟩)
  | [], octet :: octets =>
      match ofOctet octet with
      | bit :: rest => some (bit, ⟨rest, octets⟩)
      | [] => none
  | [], [] => none

/-- The number of the next bits, the lowest first. -/
def number? : Nat → Bits → Option (Nat × Bits)
  | 0, bits => some (0, bits)
  | count + 1, bits => do
      let (bit, bits) ← bits.next?
      let (value, bits) ← number? count bits
      return (bit.toNat + 2 * value, bits)

end Bits

/-! ## Prefix codes -/

/-- A canonical prefix code: its words are ordered by length, and those of one
length by symbol. -/
structure Code where
  /-- How many words have each length, from 1 on. -/
  counts : List Nat
  /-- The symbols in the order of their words. -/
  symbols : Array Nat
deriving Repr

namespace Code

/-- The greatest length of a word. -/
def longest : Nat := 15

/-- The code whose symbols have words of these lengths; a symbol of length 0 has
none.  All words of the greatest length must be accounted for, unless there is
but one symbol. -/
def ofLengths? (lengths : List Nat) : Option Code :=
  let sizes := (List.range longest).map (· + 1)
  let counts := sizes.map lengths.count
  let weight := (sizes.zip counts).foldl
    (fun weight (size, count) => weight + count * Nat.pow 2 (longest - size)) 0
  let symbols := sizes.flatMap fun size =>
    lengths.zipIdx.filterMap
      fun (length, symbol) => if length = size then some symbol else none
  if weight = Nat.pow 2 longest || symbols.length ≤ 1 then
    some ⟨counts, symbols.toArray⟩
  else none

/-- Reads a word: `word` are the bits so far, `first` is the first word of the
current length and `index` the number of shorter words. -/
def readWord (symbols : Array Nat) (word first index : Nat) :
    List Nat → Bits → Option (Nat × Bits)
  | [], _ => none
  | count :: counts, bits => do
      let (bit, bits) ← bits.next?
      let word := word * 2 + bit.toNat
      if word < first * 2 + count then
        let symbol ← symbols[index + (word - first * 2)]?
        return (symbol, bits)
      else readWord symbols word (first * 2 + count) (index + count) counts bits

/-- Reads the symbol of the next word. -/
def read? (code : Code) (bits : Bits) : Option (Nat × Bits) :=
  readWord code.symbols 0 0 0 code.counts bits

end Code

/-! ## Blocks -/

/-- The least length of each length symbol, and the bits that are added to
it. -/
def lengthTable : Array (Nat × Nat) :=
  #[(3, 0), (4, 0), (5, 0), (6, 0), (7, 0), (8, 0), (9, 0), (10, 0), (11, 1),
    (13, 1), (15, 1), (17, 1), (19, 2), (23, 2), (27, 2), (31, 2), (35, 3),
    (43, 3), (51, 3), (59, 3), (67, 4), (83, 4), (99, 4), (115, 4), (131, 5),
    (163, 5), (195, 5), (227, 5), (258, 0)]

/-- The least distance of each distance symbol, and the bits that are added to
it. -/
def distanceTable : Array (Nat × Nat) :=
  #[(1, 0), (2, 0), (3, 0), (4, 0), (5, 1), (7, 1), (9, 2), (13, 2), (17, 3),
    (25, 3), (33, 4), (49, 4), (65, 5), (97, 5), (129, 6), (193, 6), (257, 7),
    (385, 7), (513, 8), (769, 8), (1025, 9), (1537, 9), (2049, 10), (3073, 10),
    (4097, 11), (6145, 11), (8193, 12), (12289, 12), (16385, 13), (24577, 13)]

/-- What was read, and the bits after it unless the data breaks off or is
damaged there. -/
abbrev Progress := Array UInt8 × Option Bits

/-- A number from a table and the bits that are added to it. -/
def tableNumber? (table : Array (Nat × Nat)) (symbol : Nat) (bits : Bits) :
    Option (Nat × Bits) := do
  let (base, extra) ← table[symbol]?
  let (more, bits) ← bits.number? extra
  return (base + more, bits)

/-- The output with octets repeated that were written `distance` octets
before. -/
def repeatOctets (output : Array UInt8) (distance : Nat) : Nat → Array UInt8
  | 0 => output
  | length + 1 =>
      repeatOctets (output.push (output.getD (output.size - distance) 0))
        distance length

/-- Reads the words of a block.  Every word takes a bit at least, so that
`limit` words suffice for `limit` bits. -/
def readWords (literals distances : Code) : Nat → Array UInt8 → Bits → Progress
  | 0, output, _ => (output, none)
  | limit + 1, output, bits =>
      match literals.read? bits with
      | none => (output, none)
      | some (symbol, bits) =>
          if symbol < 256 then
            readWords literals distances limit (output.push symbol.toUInt8) bits
          else if symbol = 256 then (output, some bits)
          else
            let repetition : Option (Nat × Nat × Bits) := do
              let (length, bits) ← tableNumber? lengthTable (symbol - 257) bits
              let (symbol, bits) ← distances.read? bits
              let (distance, bits) ← tableNumber? distanceTable symbol bits
              return (length, distance, bits)
            match repetition with
            | none => (output, none)
            | some (length, distance, bits) =>
                if output.size < distance then (output, none)
                else
                  readWords literals distances limit
                    (repeatOctets output distance length) bits

/-- Reads a stored block. -/
def readStored (output : Array UInt8) (bits : Bits) : Progress :=
  let header := bits.octets.take 4
  let rest := bits.octets.drop 4
  let size := ofLittleEndian (header.take 2)
  if header.length < 4 || size + ofLittleEndian (header.drop 2) ≠ 0xFFFF then
    (output, none)
  else
    let output := output ++ (rest.take size).toArray
    if rest.length < size then (output, none)
    else (output, some ⟨[], rest.drop size⟩)

/-- The lengths of the words of the fixed code of octets and lengths. -/
def fixedLengths : List Nat :=
  List.replicate 144 8 ++ List.replicate 112 9 ++ List.replicate 24 7 ++
    List.replicate 8 8

/-- The lengths of the words of the fixed code of distances. -/
def fixedDistances : List Nat :=
  List.replicate 32 5

/-- The order in which the lengths of the code of lengths are written. -/
def lengthOrder : List Nat :=
  [16, 17, 18, 0, 8, 7, 9, 6, 10, 5, 11, 4, 12, 3, 13, 2, 14, 1, 15]

/-- Reads numbers of three bits. -/
def readTriples : Nat → Bits → Option (List Nat × Bits)
  | 0, bits => some ([], bits)
  | count + 1, bits => do
      let (value, bits) ← bits.number? 3
      let (values, bits) ← readTriples count bits
      return (value :: values, bits)

/-- Reads `total` lengths of words; `lengths` has those that were read, the last
one first. -/
def readLengths (code : Code) (total : Nat) :
    Nat → List Nat → Bits → Option (List Nat × Bits)
  | 0, _, _ => none
  | limit + 1, lengths, bits =>
      if lengths.length = total then some (lengths.reverse, bits)
      else if total < lengths.length then none
      else do
        let (symbol, bits) ← code.read? bits
        if symbol < 16 then
          readLengths code total limit (symbol :: lengths) bits
        else if symbol = 16 then
          let last ← lengths.head?
          let (more, bits) ← bits.number? 2
          readLengths code total limit
            (List.replicate (3 + more) last ++ lengths) bits
        else if symbol = 17 then
          let (more, bits) ← bits.number? 3
          readLengths code total limit
            (List.replicate (3 + more) 0 ++ lengths) bits
        else
          let (more, bits) ← bits.number? 7
          readLengths code total limit
            (List.replicate (11 + more) 0 ++ lengths) bits

/-- Reads the codes that a block brings along. -/
def readCodes (bits : Bits) : Option (Code × Code × Bits) := do
  let (more, bits) ← bits.number? 5
  let literals := 257 + more
  let (more, bits) ← bits.number? 5
  let distances := 1 + more
  let (more, bits) ← bits.number? 4
  let (triples, bits) ← readTriples (4 + more) bits
  let written := lengthOrder.zip triples
  let code ←
    Code.ofLengths?
      ((List.range 19).map fun symbol => (written.lookup symbol).getD 0)
  let total := literals + distances
  let (lengths, bits) ← readLengths code total (total + 1) [] bits
  let literalCode ← Code.ofLengths? (lengths.take literals)
  let distanceCode ← Code.ofLengths? (lengths.drop literals)
  return (literalCode, distanceCode, bits)

def readBlock (form : Nat) (output : Array UInt8) (bits : Bits) : Progress :=
  if form = 0 then readStored output bits
  else
    let codes : Option (Code × Code × Bits) :=
      if form = 1 then do
        let literals ← Code.ofLengths? fixedLengths
        let distances ← Code.ofLengths? fixedDistances
        return (literals, distances, bits)
      else if form = 2 then readCodes bits
      else none
    match codes with
    | none => (output, none)
    | some (literals, distances, bits) =>
        readWords literals distances (bits.size + 1) output bits

/-- Reads blocks to the last one. -/
def readBlocks : Nat → Array UInt8 → Bits → Progress
  | 0, output, _ => (output, none)
  | limit + 1, output, bits =>
      let header : Option (Bool × Nat × Bits) := do
        let (isLast, bits) ← bits.next?
        let (form, bits) ← bits.number? 2
        return (isLast, form, bits)
      match header with
      | none => (output, none)
      | some (isLast, form, bits) =>
          match readBlock form output bits with
          | (output, none) => (output, none)
          | (output, some bits) =>
              if isLast then (output, some bits)
              else readBlocks limit output bits

/-- The octets that deflated data stands for, as far as it can be read, and the
octets after the data if it is whole. -/
def inflate (octets : List UInt8) : List UInt8 × Option (List UInt8) :=
  let bits : Bits := ⟨[], octets⟩
  let (output, rest) := readBlocks (bits.size + 1) #[] bits
  (output.toList, rest.map (·.octets))

/-- Data as stored blocks. -/
def store (octets : List UInt8) : List UInt8 :=
  let block := octets.take 0xFFFF
  let rest := octets.drop 0xFFFF
  let header :=
    littleEndian 2 block.length ++ littleEndian 2 (0xFFFF - block.length)
  if rest.isEmpty then 1 :: header ++ block
  else 0 :: header ++ block ++ store rest
termination_by octets.length
decreasing_by
  rename_i more
  simp only [rest, List.isEmpty_iff, List.drop_eq_nil_iff] at more
  simp only [List.length_drop]
  omega

end ClusterTrace.Archive.Deflate
