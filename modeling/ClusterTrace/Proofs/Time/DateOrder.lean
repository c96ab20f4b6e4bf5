import ClusterTrace.Time.Calendar
import Mathlib.Order.Basic

/-!
# Days and dates in order

A later day has a later date, by year, month and day, `Date.ofDays_isBefore`.
Years are counted from March, so that a day is the first day of its year and a
number of days after it.
-/

namespace ClusterTrace.Time

/-- The date comes first by year, then by month, then by day. -/
def Date.IsBefore (first second : Date) : Prop :=
  first.year < second.year ∨
    first.year = second.year ∧
      (first.month < second.month ∨
        first.month = second.month ∧ first.day < second.day)

/-- The days from the March of year 0 to the March of a year. -/
def marchStart (year : Int) : Int :=
  365 * year + year / 4 - year / 100 + year / 400

/-- The year of a cycle of 400 years that holds a day of the cycle. -/
theorem yearOfEra_bounds {dayOfEra yearOfEra : Int} (nonneg : 0 ≤ dayOfEra)
    (small : dayOfEra < 146097)
    (isYear : yearOfEra =
      (dayOfEra - dayOfEra / 1460 + dayOfEra / 36524 - dayOfEra / 146096) /
        365) :
    0 ≤ yearOfEra ∧ yearOfEra ≤ 399 ∧ marchStart yearOfEra ≤ dayOfEra ∧
      dayOfEra < marchStart (yearOfEra + 1) := by
  have range : 0 ≤ yearOfEra ∧ yearOfEra ≤ 399 := by omega
  have leapsBefore : yearOfEra / 4 ≤ dayOfEra / 1460 := by omega
  have leapsAfter : dayOfEra / 1460 ≤ (yearOfEra + 1) / 4 := by omega
  refine ⟨range.1, range.2, ?_⟩
  unfold marchStart
  -- The last day of the cycle is the only one in a fifth century.
  rcases (by omega : dayOfEra = 146096 ∨ dayOfEra < 146096) with rfl | earlier
  · omega
  have notLast : dayOfEra / 146096 = 0 := by omega
  rw [notLast] at isYear
  have century : dayOfEra / 36524 = 0 ∨ dayOfEra / 36524 = 1 ∨
      dayOfEra / 36524 = 2 ∨ dayOfEra / 36524 = 3 := by omega
  have centuryBefore : dayOfEra / 36524 ≤ yearOfEra / 100 := by omega
  -- The year after is in the same century, or the next century begins with it.
  have centuryAfter : (yearOfEra + 1) / 100 ≤ dayOfEra / 36524 ∨
      yearOfEra + 1 = 100 * (dayOfEra / 36524 + 1) := by omega
  rcases centuryAfter with same | next
  · omega
  · omega

/-- A day is a number of days after the March of a year, which determines its
month and its day of the month. -/
structure IsMarchDay (days : Int) (date : Date) (year dayOfYear : Int) :
    Prop where
  nonneg : 0 ≤ dayOfYear
  short : dayOfYear < marchStart (year + 1) - marchStart year
  days_eq : days + 719468 = marchStart year + dayOfYear
  month_eq : 12 * date.year + date.month =
    12 * year + (5 * dayOfYear + 2) / 153 + 3
  month_pos : 1 ≤ date.month
  month_le : date.month ≤ 12
  day_eq : (date.day : Int) =
    dayOfYear - (153 * ((5 * dayOfYear + 2) / 153) + 2) / 5 + 1

theorem marchStart_add (year cycles : Int) :
    marchStart (year + cycles * 400) = marchStart year + cycles * 146097 := by
  unfold marchStart
  omega

/-- A year has at most 366 days. -/
theorem marchStart_succ_le (year : Int) :
    marchStart (year + 1) ≤ marchStart year + 366 := by
  unfold marchStart
  omega

theorem marchStart_mono {first second : Int} (ordered : first ≤ second) :
    marchStart first ≤ marchStart second := by
  unfold marchStart
  omega

theorem exists_isMarchDay (days : Int) :
    ∃ year dayOfYear, IsMarchDay days (Date.ofDays days) year dayOfYear := by
  obtain ⟨era, isEra⟩ : ∃ era, era = (days + 719468) / 146097 := ⟨_, rfl⟩
  obtain ⟨dayOfEra, isDay⟩ : ∃ day, day = (days + 719468) % 146097 := ⟨_, rfl⟩
  obtain ⟨yearOfEra, isYear⟩ : ∃ year, year =
      (dayOfEra - dayOfEra / 1460 + dayOfEra / 36524 - dayOfEra / 146096) /
        365 := ⟨_, rfl⟩
  obtain ⟨dayOfYear, isDayOfYear⟩ : ∃ day, day =
      dayOfEra - (365 * yearOfEra + yearOfEra / 4 - yearOfEra / 100) :=
    ⟨_, rfl⟩
  obtain ⟨lower, upper, starts, ends⟩ :=
    yearOfEra_bounds (by omega) (by omega) isYear
  have start : marchStart yearOfEra =
      365 * yearOfEra + yearOfEra / 4 - yearOfEra / 100 := by
    unfold marchStart
    omega
  have length := marchStart_succ_le yearOfEra
  have here := marchStart_add yearOfEra era
  have next : marchStart (yearOfEra + era * 400 + 1) =
      marchStart (yearOfEra + 1) + era * 146097 := by
    rw [← marchStart_add, Int.add_right_comm]
  refine ⟨yearOfEra + era * 400, dayOfYear, ?_⟩
  constructor
  case nonneg => omega
  case short =>
    rw [next, here]
    omega
  case days_eq =>
    rw [here]
    omega
  all_goals
    simp only [Date.ofDays, ← isEra, ← isDay, ← isYear, ← isDayOfYear]
    omega

theorem Date.ofDays_isMonthDay (days : Int) :
    (Date.ofDays days).month ≤ 12 ∧ (Date.ofDays days).day ≤ 31 := by
  obtain ⟨year, dayOfYear, march⟩ := exists_isMarchDay days
  have ofMonth := march.day_eq
  exact ⟨march.month_le, by omega⟩

/-- Of two days the later one is in a later year, or later in the same year. -/
theorem IsMarchDay.ordered {first second : Int} {date date' : Date}
    {year year' day day' : Int} (march : IsMarchDay first date year day)
    (march' : IsMarchDay second date' year' day') (earlier : first < second) :
    year < year' ∨ year = year' ∧ day < day' := by
  have starts := march.days_eq
  have starts' := march'.days_eq
  rcases Int.lt_trichotomy year year' with before | rfl | after
  · exact Or.inl before
  · exact Or.inr ⟨rfl, by omega⟩
  · have monotone : marchStart (year' + 1) ≤ marchStart year :=
      marchStart_mono after
    have short := march'.short
    have nonneg := march.nonneg
    omega

theorem Date.ofDays_isBefore {first second : Int} (earlier : first < second) :
    (Date.ofDays first).IsBefore (Date.ofDays second) := by
  obtain ⟨year, day, march⟩ := exists_isMarchDay first
  obtain ⟨year', day', march'⟩ := exists_isMarchDay second
  have ordered := march.ordered march' earlier
  obtain ⟨nonneg, short, -, month, positive, small, ofMonth⟩ := march
  obtain ⟨nonneg', short', -, month', positive', small', ofMonth'⟩ := march'
  have length := marchStart_succ_le year
  unfold IsBefore
  rcases ordered with before | ⟨rfl, before⟩
  · omega
  · omega

end ClusterTrace.Time
