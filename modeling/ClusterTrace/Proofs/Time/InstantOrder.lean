import ClusterTrace.Time.Instant
import Mathlib.Order.Basic
import Mathlib.Tactic.MkIffOfInductiveProp

/-!
# The order of instants

Instants are ordered linearly, by seconds and then by nanoseconds, and
comparing them agrees with this order.  Going back a number of seconds from two
instants keeps their order, apart from leap seconds, `before_le_before_iff`.
-/

namespace ClusterTrace.Time.Instant

theorem le_def {a b : Instant} :
    a ≤ b ↔ a.seconds < b.seconds ∨ a.seconds = b.seconds ∧ a.nanos ≤ b.nanos :=
  Iff.rfl

theorem lt_def {a b : Instant} :
    a < b ↔ a.seconds < b.seconds ∨ a.seconds = b.seconds ∧ a.nanos < b.nanos :=
  Iff.rfl

theorem eq_def {a b : Instant} :
    a = b ↔ a.seconds = b.seconds ∧ a.nanos = b.nanos := by
  constructor
  · rintro rfl
    exact ⟨rfl, rfl⟩
  · rintro ⟨seconds, nanos⟩
    exact congrArg₂ mk seconds nanos

theorem compare_eq_lt {a b : Instant} : a.compare b = .lt ↔ a < b := by
  rw [compare, Ordering.then_eq_lt, Int.compare_eq_lt, Int.compare_eq_eq,
    Nat.compare_eq_lt, lt_def]

theorem compare_eq_eq {a b : Instant} : a.compare b = .eq ↔ a = b := by
  rw [compare, Ordering.then_eq_eq, Int.compare_eq_eq, Nat.compare_eq_eq,
    eq_def]

theorem compare_eq_compareOfLessAndEq (a b : Instant) :
    a.compare b = compareOfLessAndEq a b := by
  unfold compareOfLessAndEq
  split
  · exact compare_eq_lt.mpr ‹_›
  · rename_i notLess
    split
    · exact compare_eq_eq.mpr ‹_›
    · rename_i different
      rw [← compare_eq_lt] at notLess
      rw [← compare_eq_eq] at different
      cases result : a.compare b with
      | lt => exact (notLess result).elim
      | eq => exact (different result).elim
      | gt => rfl

instance : LinearOrder Instant where
  le_refl a := by
    rw [le_def]
    omega
  le_trans a b c := by
    simp only [le_def]
    omega
  lt_iff_le_not_ge a b := by
    simp only [le_def, lt_def]
    omega
  le_antisymm a b := by
    simp only [le_def, eq_def]
    omega
  le_total a b := by
    simp only [le_def]
    omega
  toDecidableLE := inferInstance
  toDecidableLT := inferInstance
  compare_eq_compareOfLessAndEq := compare_eq_compareOfLessAndEq

/-- The first instant is within a leap second, and the other one in the second
that follows, at a smaller fraction of it. -/
@[mk_iff]
structure Overtakes (first later : Instant) : Prop where
  isLeap : nanosPerSecond ≤ first.nanos
  follows : later.seconds = first.seconds + 1
  smaller : later.nanos < first.nanos - nanosPerSecond
  notLeap : later.nanos < nanosPerSecond

/-- An instant within a leap second leaves it by its end, and so comes to lie
behind an instant of the next second that is less far into its second. -/
theorem before_le_before_iff {first later : Instant} (ordered : first ≤ later)
    {seconds : Nat} (positive : seconds ≠ 0) :
    first.before seconds ≤ later.before seconds ↔ ¬ Overtakes first later := by
  rw [le_def] at ordered
  rw [before, before, if_neg positive, if_neg positive, overtakes_iff, le_def]
  by_cases leap : nanosPerSecond ≤ first.nanos <;>
    by_cases leap' : nanosPerSecond ≤ later.nanos <;>
    simp only [leap, leap', if_true, if_false, true_and, false_and,
      not_false_eq_true, iff_true] <;> omega

end ClusterTrace.Time.Instant
