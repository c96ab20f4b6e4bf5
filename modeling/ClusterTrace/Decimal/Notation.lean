import ClusterTrace.Decimal.Shortest

/-!
# Written floating point numbers

Three notations share the shortest digits: the compact ones of JSON and of YAML,
which turn to an exponent for very large and very small numbers, and the plain
one of messages, which never does.
-/

namespace ClusterTrace.Decimal

/-- How a finite floating point number is written. -/
structure Style where
  /-- Least exponent of the leading digit that is written positionally, if there
  is a bound. -/
  plainFrom : Option Int
  /-- Exponent of the leading digit from which on the number is not written
  positionally. -/
  plainBelow : Option Int
  /-- A positive exponent has a sign. -/
  hasPlus : Bool
  tie : Tie
deriving Repr, DecidableEq

/-- JSON: positional from `0.00001` up to `9999999999999999.0`, else with an
exponent that always has a sign, `1e+21`. -/
def Style.json : Style where
  plainFrom := some (-5)
  plainBelow := some 16
  hasPlus := true
  tie := .toEven

/-- YAML: as JSON, but a positive exponent has no sign, `1e21`. -/
def Style.yaml : Style :=
  { Style.json with hasPlus := false }

/-- Messages: always positional. -/
def Style.plain : Style where
  plainFrom := none
  plainBelow := none
  hasPlus := false
  tie := .away

private def zeros (count : Nat) : String :=
  String.ofList (List.replicate count '0')

/-- The number with a point and at least one digit after it. -/
def positional (decimal : Scaled) : String :=
  let digits := toString decimal.digits
  if 0 ≤ decimal.exponent then digits ++ zeros decimal.exponent.toNat ++ ".0"
  else
    let places := (-decimal.exponent).toNat
    if digits.length ≤ places then
      "0." ++ zeros (places - digits.length) ++ digits
    else
      let whole := digits.toList.take (digits.length - places)
      let fraction := digits.toList.drop (digits.length - places)
      String.ofList whole ++ "." ++ String.ofList fraction

/-- The number as leading digit, point and further digits if any, and
exponent. -/
def scientific (hasPlus : Bool) (decimal : Scaled) (leading : Int) : String :=
  let digits := (toString decimal.digits).toList
  let mantissa :=
    match digits with
    | first :: second :: rest => String.ofList (first :: '.' :: second :: rest)
    | short => String.ofList short
  mantissa ++ "e" ++ (if hasPlus && 0 ≤ leading then "+" else "") ++
    toString leading

/-- The text of a finite number given by its bits. -/
def render (style : Style) (bits : UInt64) : String :=
  let decimal := (Binary.ofBits bits).shortest style.tie
  let leading := (toString decimal.digits).length + decimal.exponent - 1
  let isPlain :=
    decimal.digits == 0 ||
      (style.plainFrom.all (· ≤ leading) && style.plainBelow.all (leading < ·))
  (if isNegative bits then "-" else "") ++
    if isPlain then positional decimal
    else scientific style.hasPlus decimal leading

/-- The text of any floating point number in messages. -/
def message (bits : UInt64) : String :=
  if isFinite bits then render .plain bits
  else if bits &&& 0xFFFFFFFFFFFFF != 0 then "NaN"
  else if isNegative bits then "-inf"
  else "inf"

end ClusterTrace.Decimal
