import ClusterTrace.Time.Calendar

/-!
# Instants

An instant is a number of whole seconds since 1970-01-01T00:00:00Z and a part of
a second in nanoseconds.  A leap second is the continuation of the second before
it, so its nanoseconds are `10 ^ 9` or more.  Instants are ordered by seconds,
then by nanoseconds.
-/

namespace ClusterTrace.Time

/-- A point in time with nanoseconds. -/
structure Instant where
  seconds : Int
  nanos : Nat
deriving Repr, DecidableEq, Inhabited

namespace Instant

/-- Nanoseconds of one second. -/
def nanosPerSecond : Nat := 1000000000

def compare (a b : Instant) : Ordering :=
  (Ord.compare a.seconds b.seconds).then (Ord.compare a.nanos b.nanos)

instance : Ord Instant := ⟨Instant.compare⟩

/-- `a` is not later than `b`. -/
def le (a b : Instant) : Prop :=
  a.seconds < b.seconds ∨ (a.seconds = b.seconds ∧ a.nanos ≤ b.nanos)

/-- `a` is earlier than `b`. -/
def lt (a b : Instant) : Prop :=
  a.seconds < b.seconds ∨ (a.seconds = b.seconds ∧ a.nanos < b.nanos)

instance : LE Instant := ⟨Instant.le⟩

instance : LT Instant := ⟨Instant.lt⟩

instance (a b : Instant) : Decidable (a ≤ b) :=
  inferInstanceAs (Decidable (_ ∨ _))

instance (a b : Instant) : Decidable (a < b) :=
  inferInstanceAs (Decidable (_ ∨ _))

/-- The instant a number of whole seconds before; going back from within a leap
second leaves it by its end. -/
def before (instant : Instant) (seconds : Nat) : Instant :=
  if seconds = 0 then instant
  else if nanosPerSecond ≤ instant.nanos then
    ⟨instant.seconds + 1 - seconds, instant.nanos - nanosPerSecond⟩
  else ⟨instant.seconds - seconds, instant.nanos⟩

end Instant
end ClusterTrace.Time
