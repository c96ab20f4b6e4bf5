/-!
# Machine words

Which numbers fit into a word of some number of bits.
-/

namespace ClusterTrace.Word

/-- The least number that a word of this many bits cannot hold. -/
def limit (bits : Nat) : Nat :=
  Nat.pow 2 bits

/-- The integer fits into a word without a sign. -/
def fits (bits : Nat) (value : Int) : Bool :=
  decide (0 ≤ value ∧ value < limit bits)

theorem fits_natCast {bits value : Nat} :
    fits bits value = true ↔ value < limit bits := by
  rw [fits, decide_eq_true_iff, Int.ofNat_lt]
  exact and_iff_right (Int.natCast_nonneg value)

/-- The number after another one.  After the greatest one that a word of this
many bits holds it is zero. -/
def next (bits value : Nat) : Nat :=
  (value + 1) % limit bits

theorem next_lt (bits value : Nat) : next bits value < limit bits :=
  Nat.mod_lt _ (Nat.pow_pos Nat.two_pos)

/-- The integer fits into a word of which one bit is the sign. -/
def fitsSigned (bits : Nat) (value : Int) : Bool :=
  decide (-(limit (bits - 1) : Int) ≤ value ∧ value < limit (bits - 1))

end ClusterTrace.Word
