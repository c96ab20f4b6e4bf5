import ClusterTrace.Text.Blank
import ClusterTrace.Time.Pattern

/-!
# Gather times

An archive notes when it was gathered as a wall-clock time with offset, then
usually the zone's abbreviation and a reading of the monotonic clock that starts
with `m=`: `2024-03-01 08:00:00.123456789 +0000 UTC m=+0.004512`.  Only the
first line counts.
-/

namespace ClusterTrace.Ingest

open Text Time

/-- The date, time of day and offset of a gather time. -/
def gatherPattern : List Item :=
  [.year, .mark '-', .month, .mark '-', .day, .blanks, .hour, .mark ':',
    .minute, .mark ':', .second, .fraction, .blanks, .offset]

private def isMonotonic (word : List Char) : Bool :=
  ['m', '='].isPrefixOf word

/-- The words after the offset: nothing, a zone, or a zone and a monotonic
reading. -/
def isZoneTail : List (List Char) → Bool
  | [] => true
  | [zone] => !isMonotonic zone
  | [zone, monotonic] => !isMonotonic zone && isMonotonic monotonic
  | _ => false

/-- The instant of a gather time line that was split into words. -/
def instantOfWords? : List (List Char) → Option Instant
  | date :: clock :: offset :: tail =>
      if isZoneTail tail then
        (readWhole gatherPattern
          (date ++ ' ' :: clock ++ ' ' :: offset)).toOption
      else none
  | _ => none

/-- The instant of a gather time, or the line that is none. -/
def parseGatherTime (text : String) : Except String Instant :=
  let line := trim (firstLine text.toList)
  match instantOfWords? (words line) with
  | some instant => .ok instant
  | none => .error (String.ofList line)

end ClusterTrace.Ingest
