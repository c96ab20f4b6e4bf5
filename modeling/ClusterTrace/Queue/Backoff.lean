import ClusterTrace.Storage.Assoc
import ClusterTrace.Word

/-!
# Exponential backoff

The `n`-th failure of an item in a row is followed by a delay of `base * 2 ^ (n
- 1)`, at most `maximum`.  The exponent stops at 31, and a delay that a duration
of 64-bit seconds cannot hold counts as the maximum.  Delays are in
milliseconds.
-/

namespace ClusterTrace.Queue

/-- The failures of each item since it last succeeded, and the bounds of the
delays. -/
structure Backoff (κ : Type) where
  base : Nat
  maximum : Nat
  failures : Assoc κ Nat
deriving Repr

namespace Backoff

variable {κ : Type} [DecidableEq κ]

/-- Nothing has failed yet. -/
def new (base maximum : Nat) : Backoff κ :=
  ⟨base, maximum, []⟩

/-- A multiple of a duration, unless its whole seconds exceed 64 bits. -/
def scaled? (duration factor : Nat) : Option Nat :=
  if Word.fits 64 (duration * factor / 1000) then some (duration * factor)
  else none

/-- The delay after a failure that `earlier` failures precede. -/
def delay (base maximum earlier : Nat) : Nat :=
  match scaled? base (Nat.pow 2 (min earlier 31)) with
  | some duration => min duration maximum
  | none => maximum

/-- The failures of an item in a row. -/
def requeues (backoff : Backoff κ) (key : κ) : Nat :=
  (backoff.failures.get? key).getD 0

/-- Counts one more failure of an item: its delay, and the new counts. -/
def fail (backoff : Backoff κ) (key : κ) : Nat × Backoff κ :=
  let earlier := backoff.requeues key
  (delay backoff.base backoff.maximum earlier,
    { backoff with
      failures :=
        backoff.failures.put key (min (earlier + 1) (Word.limit 32 - 1)) })

/-- Clears the count of an item. -/
def forget (backoff : Backoff κ) (key : κ) : Backoff κ :=
  { backoff with failures := backoff.failures.erase key }

end Backoff
end ClusterTrace.Queue
