import ClusterTrace.Archive.Gzip
import Mathlib.Tactic.Common

/-!
# Stored data

A compressed file that was written with nothing made smaller is read back as it
was, `Gzip.read_write`.
-/

namespace ClusterTrace.Archive

theorem length_littleEndian (width value : Nat) :
    (littleEndian width value).length = width := by
  induction width generalizing value with
  | zero => rfl
  | succ width induction => rw [littleEndian, List.length_cons, induction]

namespace Deflate

/-- The size of a stored block and its complement. -/
def sizeHeader (size : Nat) : List UInt8 :=
  littleEndian 2 size ++ littleEndian 2 (0xFFFF - size)

variable {octets later block : List UInt8} {output : Array UInt8}

theorem readStored_append (fits : block.length ≤ 0xFFFF) (pending : List Bool) :
    readStored output ⟨pending, sizeHeader block.length ++ (block ++ later)⟩ =
      (output ++ block.toArray, some ⟨[], later⟩) := by
  have size : ofLittleEndian (littleEndian 2 block.length) = block.length := by
    rw [ofLittleEndian_littleEndian]
    exact Nat.mod_eq_of_lt (Nat.lt_succ_of_le fits)
  have complement : ofLittleEndian (littleEndian 2 (0xFFFF - block.length)) =
      0xFFFF - block.length := by
    rw [ofLittleEndian_littleEndian]
    exact Nat.mod_eq_of_lt (Nat.lt_succ_of_le (Nat.sub_le _ _))
  have headerSize : (sizeHeader block.length).length = 4 := by
    simp [sizeHeader, length_littleEndian]
  have sizes : ofLittleEndian ((sizeHeader block.length).take 2) =
        block.length ∧
      ofLittleEndian ((sizeHeader block.length).drop 2) =
        0xFFFF - block.length := by
    rw [sizeHeader, List.take_left' (length_littleEndian 2 _),
      List.drop_left' (length_littleEndian 2 _)]
    exact ⟨size, complement⟩
  rw [readStored]
  dsimp only
  rw [List.take_left' headerSize, List.drop_left' headerSize, headerSize,
    sizes.1, sizes.2, List.take_left, List.drop_left, Nat.add_sub_cancel' fits]
  simp

/-- A stored block is read, and the next one if it is not the last. -/
theorem readBlocks_stored (isLast : Bool) (fits : block.length ≤ 0xFFFF)
    (limit : Nat) (output : Array UInt8) (later : List UInt8) :
    readBlocks (limit + 1) output
        ⟨[], isLast.toNat.toUInt8 ::
          (sizeHeader block.length ++ (block ++ later))⟩ =
      if isLast then (output ++ block.toArray, some ⟨[], later⟩)
      else readBlocks limit (output ++ block.toArray) ⟨[], later⟩ := by
  have marked : ∀ rest : List UInt8,
      Bits.next? ⟨[], isLast.toNat.toUInt8 :: rest⟩ =
        some (isLast, ⟨List.replicate 7 false, rest⟩) := by
    intro rest
    cases isLast <;> rfl
  have formed : ∀ rest : List UInt8,
      Bits.number? 2 ⟨List.replicate 7 false, rest⟩ =
        some (0, ⟨List.replicate 5 false, rest⟩) := by
    intro rest
    rfl
  rw [readBlocks, marked]
  dsimp only [Option.bind_eq_bind, Option.bind_some]
  rw [formed]
  dsimp only [Option.bind_some, pure]
  rw [readBlock, if_pos rfl, readStored_append fits]

/-- Data is stored as one block, or as a block and the data after it. -/
theorem store_cases (octets : List UInt8) :
    (octets.length ≤ 0xFFFF ∧
        store octets = 1 :: (sizeHeader octets.length ++ octets)) ∨
      ∃ block rest, octets = block ++ rest ∧ block.length = 0xFFFF ∧
        store octets =
          0 :: (sizeHeader block.length ++ (block ++ store rest)) := by
  have parts := List.take_append_drop 0xFFFF octets
  rw [store]
  by_cases fits : octets.length ≤ 0xFFFF
  · left
    rw [List.take_of_length_le fits, List.drop_eq_nil_iff.mpr fits]
    exact ⟨fits, rfl⟩
  · right
    have more : ¬ (octets.drop 0xFFFF).isEmpty = true := by
      rw [List.isEmpty_iff, List.drop_eq_nil_iff]
      exact fits
    refine ⟨octets.take 0xFFFF, octets.drop 0xFFFF, parts.symm, ?_, ?_⟩
    · rw [List.length_take]
      omega
    · rw [if_neg more, sizeHeader]
      simp only [List.cons_append, List.append_assoc]

theorem readBlocks_store {limit : Nat}
    (enough : (store octets).length ≤ limit) :
    readBlocks limit output ⟨[], store octets ++ later⟩ =
      (output ++ octets.toArray, some ⟨[], later⟩) := by
  induction limit generalizing octets output with
  | zero =>
      rcases store_cases octets with
        ⟨_, isStored⟩ | ⟨_, _, _, _, isStored⟩ <;>
        simp [isStored] at enough
  | succ limit induction =>
      rcases store_cases octets with
        ⟨fits, isStored⟩ | ⟨block, rest, rfl, size, isStored⟩
      · rw [isStored, List.cons_append, List.append_assoc]
        exact readBlocks_stored true fits limit output later
      · have restEnough : (store rest).length ≤ limit := by
          rw [isStored] at enough
          simp only [List.length_cons, List.length_append] at enough
          omega
        have isRead := readBlocks_stored false (Nat.le_of_eq size) limit output
          (store rest ++ later)
        rw [if_neg Bool.false_ne_true, induction restEnough] at isRead
        rw [isStored, List.cons_append, List.append_assoc, List.append_assoc]
        simpa [Array.append_assoc] using isRead

theorem inflate_store (octets later : List UInt8) :
    inflate (store octets ++ later) = (octets, some later) := by
  have enough : (store octets).length ≤
      Bits.size ⟨[], store octets ++ later⟩ + 1 := by
    simp only [Bits.size, List.length_append, List.length_nil]
    omega
  rw [inflate]
  dsimp only
  rw [readBlocks_store enough]
  simp

end Deflate

theorem Gzip.read_write (octets : List UInt8) :
    Gzip.read (Gzip.write octets) = ⟨octets, false⟩ := by
  have header : Gzip.skipHeader? (Gzip.write octets) =
      some (Deflate.store octets ++ Gzip.trailer octets) := by
    rw [Gzip.write]
    simp [Gzip.skipHeader?]
  have size : (Gzip.trailer octets).length = 8 := by
    simp [Gzip.trailer, length_littleEndian]
  rw [Gzip.read, header]
  dsimp only
  rw [Deflate.inflate_store]
  dsimp only
  rw [List.take_of_length_le (Nat.le_of_eq size)]
  simp

end ClusterTrace.Archive
