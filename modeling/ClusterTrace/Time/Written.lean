import ClusterTrace.Time.Instant

/-!
# Written instants

Instants are written in universal time, `2024-03-01T08:00:00.500`, with as many
groups of three fraction digits as are needed.  `Instant.text` ends in `Z` and
is used in documents; `Instant.columnText` ends in `+00:00` and is what tables
hold and compare.
-/

namespace ClusterTrace.Time

/-- The number with at least `width` digits. -/
def paddedDigits (width n : Nat) : List Char :=
  List.leftpad width '0' (Nat.toDigits 10 n)

/-- The year: four digits from 0 to 9999, else a sign and at least four
digits. -/
def yearDigits (year : Int) : List Char :=
  if 0 ≤ year ∧ year ≤ 9999 then paddedDigits 4 year.toNat
  else (if year < 0 then '-' else '+') :: paddedDigits 4 year.natAbs

/-- The fraction of a second in three, six or nine digits, nothing when it is
zero. -/
def fractionDigits (nanos : Nat) : List Char :=
  if nanos = 0 then []
  else if nanos % 1000000 = 0 then '.' :: paddedDigits 3 (nanos / 1000000)
  else if nanos % 1000 = 0 then '.' :: paddedDigits 6 (nanos / 1000)
  else '.' :: paddedDigits 9 nanos

namespace Instant

/-- Date, time of day and fraction in universal time. -/
def body (instant : Instant) : List Char :=
  let date := Date.ofDays (instant.seconds / 86400)
  let secondOfDay := (instant.seconds % 86400).toNat
  let leap := instant.nanos / nanosPerSecond
  yearDigits date.year ++ '-' :: paddedDigits 2 date.month ++
    '-' :: paddedDigits 2 date.day ++
    'T' :: paddedDigits 2 (secondOfDay / 3600) ++
    ':' :: paddedDigits 2 (secondOfDay / 60 % 60) ++
    ':' :: paddedDigits 2 (secondOfDay % 60 + leap) ++
    fractionDigits (instant.nanos % nanosPerSecond)

/-- The instant as documents show it. -/
def text (instant : Instant) : String :=
  String.ofList (instant.body ++ ['Z'])

/-- The instant as tables hold it. -/
def columnText (instant : Instant) : String :=
  String.ofList (instant.body ++ "+00:00".toList)

end Instant
end ClusterTrace.Time
