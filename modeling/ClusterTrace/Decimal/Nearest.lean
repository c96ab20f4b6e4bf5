/-!
# Reading decimals

The binary64 value nearest to a decimal, found in exact arithmetic on natural
numbers; of two values equally near, the one with an even significand.
-/

namespace ClusterTrace.Decimal

/-- A quotient rounded to the nearest integer, ties to even. -/
def roundedQuotient (numerator denominator : Nat) : Nat :=
  let below := numerator / denominator
  match compare (2 * (numerator % denominator)) denominator with
  | .lt => below
  | .gt => below + 1
  | .eq => if below % 2 = 0 then below else below + 1

/-- `numerator / (denominator * 2 ^ q)` rounded. -/
def scaledQuotient (numerator denominator : Nat) (q : Int) : Nat :=
  roundedQuotient (numerator * Nat.pow 2 (-q).toNat)
    (denominator * Nat.pow 2 q.toNat)

/-- The least significand with all its bits. -/
def leastFull : Nat :=
  Nat.pow 2 52

/-- The bits of the value `significand * 2 ^ q`, for `q ≥ -1074` and a
significand of at most 53 bits that has all of them unless `q` is least;
infinite when it is too large. -/
def packedBits (significand : Nat) (q : Int) : UInt64 :=
  let (significand, q) :=
    if significand = 2 * leastFull then (leastFull, q + 1) else (significand, q)
  if significand < leastFull then significand.toUInt64
  else if 971 < q then 0x7FF0000000000000
  else ((q + 1075).toNat.toUInt64 <<< 52) ||| (significand - leastFull).toUInt64

/-- The bits of the value nearest to a positive quotient. -/
def nearestBits (numerator denominator : Nat) : UInt64 :=
  let estimate : Int := (Nat.log2 numerator : Int) - Nat.log2 denominator - 52
  -- The quotient lies between `2 ^ (estimate + 51)` and `2 ^ (estimate + 53)`.
  let q :=
    if numerator * Nat.pow 2 (-estimate).toNat <
        denominator * Nat.pow 2 estimate.toNat * leastFull then
      estimate - 1
    else estimate
  let q := max q (-1074)
  packedBits (scaledQuotient numerator denominator q) q

/-- The bits of the value nearest to `digits * 10 ^ exponent`.  Far beyond the
largest value it is infinite, far below the least it is zero. -/
def nearest (digits : Nat) (exponent : Int) : UInt64 :=
  if digits = 0 then 0
  else
    let leading := (Nat.toDigits 10 digits).length + exponent
    if 400 < leading then 0x7FF0000000000000
    else if leading < -400 then 0
    else
      nearestBits (digits * Nat.pow 10 exponent.toNat)
        (Nat.pow 10 (-exponent).toNat)

/-- The digits' value added to what comes before them. -/
def appendDigits (before : Nat) (digits : List Char) : Nat :=
  digits.foldl (fun n c => n * 10 + (c.toNat - '0'.toNat)) before

/-- The exponent that a text gives, if it is one: a sign and digits. -/
def exponent? (text : List Char) : Option Int :=
  let (isBelow, digits) :=
    match text with
    | '+' :: rest => (false, rest)
    | '-' :: rest => (true, rest)
    | rest => (false, rest)
  if digits.isEmpty || !digits.all Char.isDigit then none
  else
    let value : Int := appendDigits 0 digits
    some (if isBelow then -value else value)

/-- The bits of the finite number that a text gives: a sign, digits with a point
among them, and an exponent. -/
def ofText? (text : List Char) : Option UInt64 :=
  let (isNegative, text) :=
    match text with
    | '+' :: rest => (false, rest)
    | '-' :: rest => (true, rest)
    | rest => (false, rest)
  let whole := text.takeWhile Char.isDigit
  let rest := text.dropWhile Char.isDigit
  let (fraction, rest) :=
    match rest with
    | '.' :: more => (more.takeWhile Char.isDigit, more.dropWhile Char.isDigit)
    | _ => ([], rest)
  let exponent :=
    match rest with
    | [] => some 0
    | c :: more => if c = 'e' || c = 'E' then exponent? more else none
  if whole.isEmpty && fraction.isEmpty then none
  else
    match exponent with
    | none => none
    | some exponent =>
        let digits := appendDigits (appendDigits 0 whole) fraction
        let bits := nearest digits (exponent - fraction.length)
        if bits = 0x7FF0000000000000 then none
        else some (if isNegative then bits ||| 0x8000000000000000 else bits)

end ClusterTrace.Decimal
