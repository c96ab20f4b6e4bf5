import ClusterTrace.Proofs.Time.DateOrder
import Mathlib.Tactic.IntervalCases

/-!
# Dates of days

The date of a day exists in the calendar, `Date.isValid_ofDays`, and its day is
the one it was made for, `Date.toDays_ofDays`.
-/

namespace ClusterTrace.Time

variable {days year dayOfYear : Int} {date : Date}

namespace IsMarchDay

/-- The months of a year from March on are numbered from zero. -/
theorem monthFromMarch (march : IsMarchDay days date year dayOfYear) :
    (((date.month + 9) % 12 : Nat) : Int) = (5 * dayOfYear + 2) / 153 := by
  have length := marchStart_succ_le year
  obtain ⟨nonneg, short, -, month, positive, small, -⟩ := march
  omega

theorem marchYear (march : IsMarchDay days date year dayOfYear) :
    (if date.month ≤ 2 then date.year - 1 else date.year) = year := by
  have length := marchStart_succ_le year
  obtain ⟨nonneg, short, -, month, positive, small, -⟩ := march
  split
  · omega
  · omega

theorem toDays_eq (march : IsMarchDay days date year dayOfYear) :
    date.toDays = days := by
  have months := march.monthFromMarch
  have isYear := march.marchYear
  have total := march.days_eq
  have ofMonth := march.day_eq
  have nonneg := march.nonneg
  unfold marchStart at total
  simp only [Date.toDays, isYear]
  omega

end IsMarchDay

theorem Date.toDays_ofDays (days : Int) : (Date.ofDays days).toDays = days := by
  obtain ⟨year, dayOfYear, march⟩ := exists_isMarchDay days
  exact march.toDays_eq

theorem isLeap_iff (year : Int) :
    isLeap year = true ↔
      year % 4 = 0 ∧ (year % 100 ≠ 0 ∨ year % 400 = 0) := by
  simp [isLeap]

/-- A year that begins in March has its leap day at the end. -/
theorem marchStart_succ (year : Int) :
    marchStart (year + 1) =
      marchStart year + if isLeap (year + 1) then 366 else 365 := by
  have leap := isLeap_iff (year + 1)
  unfold marchStart
  split
  · rename_i isLeap
    have years := leap.mp isLeap
    omega
  · rename_i noLeap
    have years := mt leap.mpr noLeap
    omega

/-- The days of February are those left of a year that begins in March. -/
theorem IsMarchDay.isValid (march : IsMarchDay days date year dayOfYear) :
    date.isValid = true := by
  have isLast := marchStart_succ year
  have months := march.monthFromMarch
  have isYear := march.marchYear
  obtain ⟨nonneg, short, -, -, positive, small, ofMonth⟩ := march
  obtain ⟨year', month', day⟩ := date
  dsimp only at months isYear positive small ofMonth
  rw [Date.isValid, Bool.and_eq_true, decide_eq_true_iff, decide_eq_true_iff]
  dsimp only
  rw [← months] at ofMonth
  by_cases isFebruary : month' = 2
  · subst isFebruary
    obtain rfl : year' = year + 1 := by
      rw [if_pos (by decide)] at isYear
      omega
    rw [monthLength]
    split at isLast
    · rename_i isLeap
      rw [if_pos isLeap]
      omega
    · rename_i noLeap
      rw [if_neg noLeap]
      omega
  · interval_cases month'
    all_goals
      simp only [monthLength]
      omega

theorem Date.isValid_ofDays (days : Int) :
    (Date.ofDays days).isValid = true := by
  obtain ⟨year, dayOfYear, march⟩ := exists_isMarchDay days
  exact march.isValid

/-- The days before and after one whose year has four digits are represented. -/
theorem isRepresented_of_near {other : Int}
    (four : 0 ≤ (Date.ofDays days).year ∧ (Date.ofDays days).year ≤ 9999)
    (near : days - 1 ≤ other ∧ other ≤ days + 1) :
    isRepresented (Date.ofDays other).year = true := by
  obtain ⟨year, dayOfYear, march⟩ := exists_isMarchDay days
  obtain ⟨year', dayOfYear', march'⟩ := exists_isMarchDay other
  have length := marchStart_succ_le year
  have length' := marchStart_succ_le year'
  obtain ⟨nonneg, short, total, month, positive, small, -⟩ := march
  obtain ⟨nonneg', short', total', month', positive', small', -⟩ := march'
  have years : -1 ≤ year ∧ year ≤ 9999 := by omega
  have years' : -3 ≤ year' ∧ year' ≤ 10001 := by
    unfold marchStart at total total' short short'
    omega
  rw [isRepresented, Bool.and_eq_true, decide_eq_true_iff, decide_eq_true_iff,
    minYear, maxYear]
  omega

end ClusterTrace.Time
