/-!
# Cyclic redundancy checks

The check of 32 bits that compressed data carries.
-/

namespace ClusterTrace.Archive

/-- The check after one more bit of an octet was shifted out. -/
def checkBit (check : UInt32) : UInt32 :=
  if check &&& 1 = 1 then (check >>> 1) ^^^ 0xEDB88320 else check >>> 1

/-- The check after one more octet. -/
def checkOctet (check : UInt32) (octet : UInt8) : UInt32 :=
  (List.range 8).foldl (fun value _ => checkBit value)
    (check ^^^ octet.toUInt32)

/-- The check of octets. -/
def checksum (octets : List UInt8) : UInt32 :=
  octets.foldl checkOctet 0xFFFFFFFF ^^^ 0xFFFFFFFF

/-- A number as octets, the lowest first. -/
def littleEndian : Nat → Nat → List UInt8
  | 0, _ => []
  | width + 1, value => value.toUInt8 :: littleEndian width (value / 256)

/-- The number that octets write, the lowest first. -/
def ofLittleEndian : List UInt8 → Nat
  | [] => 0
  | octet :: rest => octet.toNat + 256 * ofLittleEndian rest

theorem ofLittleEndian_littleEndian (width value : Nat) :
    ofLittleEndian (littleEndian width value) = value % Nat.pow 256 width := by
  induction width generalizing value with
  | zero => simp [littleEndian, ofLittleEndian, Nat.mod_one]
  | succ width induction =>
      have octet : value.toUInt8.toNat = value % 256 := UInt8.toNat_ofNat'
      have power : Nat.pow 256 (width + 1) = 256 * Nat.pow 256 width :=
        Nat.mul_comm _ _
      rw [littleEndian, ofLittleEndian, induction, octet, power, Nat.mod_mul]

end ClusterTrace.Archive
