/-!
# Shortest decimals

A finite binary64 value is `m * 2 ^ q`.  The decimal chosen for it has the
fewest digits among the decimals that round to it, and among those it is the
nearest one.  All comparisons are exact, on natural numbers.
-/

namespace ClusterTrace.Decimal

/-- The magnitude of a finite binary64 value, `m * 2 ^ q`. -/
structure Binary where
  m : Nat
  q : Int
  /-- The gap to the value below is half the gap to the value above. -/
  narrowBelow : Bool
deriving Repr, DecidableEq

/-- The magnitude that the bits of a finite value stand for. -/
def Binary.ofBits (bits : UInt64) : Binary :=
  let exponent := ((bits >>> 52) &&& 0x7FF).toNat
  let fraction := (bits &&& 0xFFFFFFFFFFFFF).toNat
  if exponent == 0 then ⟨fraction, -1074, false⟩
  else
    ⟨Nat.pow 2 52 + fraction, (exponent : Int) - 1075,
      fraction == 0 && exponent > 1⟩

/-- The bits have the sign of a negative number. -/
def isNegative (bits : UInt64) : Bool :=
  bits >>> 63 == 1

/-- The bits stand for a number, neither infinite nor undefined. -/
def isFinite (bits : UInt64) : Bool :=
  (bits >>> 52) &&& 0x7FF != 0x7FF

/-- The number `digits * 10 ^ exponent`. -/
structure Scaled where
  digits : Nat
  exponent : Int
deriving Repr, DecidableEq

/-- Which of two equally near decimals is taken. -/
inductive Tie where
  | toEven
  | away
deriving Repr, DecidableEq

/-- The comparison of `a * 10 ^ i` with `n * 2 ^ j`. -/
def compareScaled (a : Nat) (i : Int) (n : Nat) (j : Int) : Ordering :=
  compare (a * Nat.pow 10 i.toNat * Nat.pow 2 (-j).toNat)
    (n * Nat.pow 2 j.toNat * Nat.pow 10 (-i).toNat)

/-- The decimal lies among the reals that round to the value: between the
midpoints to its two neighbours, the midpoints themselves counting when `m` is
even. -/
def Binary.readsBack (value : Binary) (decimal : Scaled) : Bool :=
  let low := if value.narrowBelow then 4 * value.m - 1 else 4 * value.m - 2
  let high := 4 * value.m + 2
  let closed := value.m % 2 == 0
  let toLow := compareScaled decimal.digits decimal.exponent low (value.q - 2)
  let toHigh := compareScaled decimal.digits decimal.exponent high (value.q - 2)
  (toLow == .gt || (closed && toLow == .eq)) &&
    (toHigh == .lt || (closed && toHigh == .eq))

/-- The least `k` with `value < 10 ^ k`, sought among the candidates from
`start` on. -/
def Binary.scaleFrom (value : Binary) : Nat → Int → Int
  | 0, start => start
  | fuel + 1, start =>
      if compareScaled 1 start value.m value.q == .gt then start
      else Binary.scaleFrom value fuel (start + 1)

/-- The least `k` with `value < 10 ^ k`, for a value other than zero.  The
binary logarithm times `log₁₀ 2` is the estimate from which the search
starts. -/
def Binary.scale (value : Binary) : Int :=
  value.scaleFrom 8 (((Nat.log2 value.m : Int) + value.q) * 30103 / 100000 - 2)

/-- The greatest number of units `10 ^ exponent` not above the value. -/
def Binary.floorOn (value : Binary) (exponent : Int) : Nat :=
  (value.m * Nat.pow 2 value.q.toNat * Nat.pow 10 (-exponent).toNat) /
    (Nat.pow 10 exponent.toNat * Nat.pow 2 (-value.q).toNat)

/-- The nearest decimal with the given exponent that reads back as the value, if
any does. -/
def Binary.onGrid? (value : Binary) (tie : Tie) (exponent : Int) :
    Option Scaled :=
  let below : Scaled := ⟨value.floorOn exponent, exponent⟩
  let above : Scaled := ⟨below.digits + 1, exponent⟩
  match value.readsBack below && below.digits != 0, value.readsBack above with
  | true, false => some below
  | false, true => some above
  | false, false => none
  | true, true =>
      match compareScaled (2 * below.digits + 1) exponent
          (2 * value.m) value.q with
      | .gt => some below
      | .lt => some above
      | .eq =>
          match tie with
          | .toEven => some (if below.digits % 2 == 0 then below else above)
          | .away => some above

/-- The same number without trailing zero digits; `fuel` bounds how many are
dropped. -/
def Scaled.strip : Nat → Scaled → Scaled
  | 0, decimal => decimal
  | fuel + 1, decimal =>
      if decimal.digits != 0 && decimal.digits % 10 == 0 then
        Scaled.strip fuel ⟨decimal.digits / 10, decimal.exponent + 1⟩
      else decimal

/-- The shortest decimal that reads back as the value; zero has the single digit
`0`. -/
def Binary.shortest (value : Binary) (tie : Tie) : Scaled :=
  if value.m = 0 then ⟨0, 0⟩
  else
    let scale := value.scale
    match (List.range 17).findSome?
        fun n => value.onGrid? tie (scale - (n + 1 : Nat)) with
    | some decimal => decimal.strip 20
    | none =>
        if 0 ≤ value.q then ⟨value.m * Nat.pow 2 value.q.toNat, 0⟩
        else ⟨value.m * Nat.pow 5 (-value.q).toNat, value.q⟩

end ClusterTrace.Decimal
