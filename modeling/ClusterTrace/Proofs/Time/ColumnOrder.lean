import ClusterTrace.Proofs.Time.DateOrder
import ClusterTrace.Proofs.Time.InstantOrder
import ClusterTrace.Time.Written
import Mathlib.Data.String.Basic
import Mathlib.Data.Nat.Init

/-!
# Written instants in order

Tables compare instants as texts.  As long as the year has four digits this is
the order of the instants themselves, `Instant.columnText_lt_iff`: a field of a
text has a fixed number of digits, and a fraction that is cut off goes on with a
sign, which is less than the point and than any digit.
-/

namespace ClusterTrace.Time

/-! ## Fields of digits -/

theorem paddedDigits_one {n : Nat} (small : n < 10) :
    paddedDigits 1 n = [n.digitChar] := by
  rw [paddedDigits, Nat.toDigits_of_lt_base small]
  rfl

theorem leftpad_concat (width : Nat) (digits : List Char) (last : Char) :
    List.leftpad (width + 1) '0' (digits ++ [last]) =
      List.leftpad width '0' digits ++ [last] := by
  simp [List.leftpad]

/-- A field is a field of one digit less and its last digit. -/
theorem paddedDigits_succ {width : Nat} (positive : 0 < width) (n : Nat) :
    paddedDigits (width + 1) n =
      paddedDigits width (n / 10) ++ [(n % 10).digitChar] := by
  rcases Nat.lt_or_ge n 10 with small | large
  · have zero : n / 10 = 0 := by omega
    have same : n % 10 = n := by omega
    obtain ⟨fewer, rfl⟩ := Nat.exists_eq_succ_of_ne_zero (by omega : width ≠ 0)
    rw [zero, same, paddedDigits, paddedDigits, Nat.toDigits_of_lt_base small,
      Nat.toDigits_zero]
    simp [List.leftpad, List.replicate_succ']
  · rw [paddedDigits, paddedDigits,
      Nat.toDigits_of_base_le (by decide) large, leftpad_concat]

theorem length_paddedDigits {width n : Nat} (positive : 0 < width)
    (small : n < 10 ^ width) : (paddedDigits width n).length = width := by
  induction width, positive using Nat.le_induction generalizing n with
  | base => rw [paddedDigits_one (by simpa using small), List.length_singleton]
  | succ width positive ih =>
      have fewer : n / 10 < 10 ^ width := by
        rw [Nat.pow_succ] at small
        omega
      rw [paddedDigits_succ positive, List.length_append, ih fewer,
        List.length_singleton]

/-- A long field is two fields. -/
theorem paddedDigits_add {first second : Nat} (positive : 0 < first)
    (positive' : 0 < second) (n : Nat) :
    paddedDigits (first + second) n =
      paddedDigits first (n / 10 ^ second) ++
        paddedDigits second (n % 10 ^ second) := by
  induction second, positive' using Nat.le_induction generalizing n with
  | base =>
      rw [paddedDigits_succ positive, Nat.pow_one,
        paddedDigits_one (Nat.mod_lt n (by decide))]
  | succ second positive' ih =>
      rw [← Nat.add_assoc, paddedDigits_succ (by omega), ih,
        paddedDigits_succ positive', List.append_assoc, Nat.div_div_eq_div_mul,
        ← Nat.pow_succ', Nat.pow_succ', Nat.mod_mul_right_div_self,
        Nat.mod_mul_right_mod]

/-! ## Order -/

theorem append_lt_append_of_lt {first second : List Char}
    (same : first.length = second.length) (before : first < second)
    (rest rest' : List Char) : first ++ rest < second ++ rest' := by
  induction first generalizing second with
  | nil =>
      rw [List.eq_nil_of_length_eq_zero same.symm] at before
      exact (List.not_lt_nil _ before).elim
  | cons c first ih =>
      cases second with
      | nil => exact (List.not_lt_nil _ before).elim
      | cons d second =>
          rw [List.cons_append, List.cons_append, List.cons_lt_cons_iff]
          rcases List.cons_lt_cons_iff.mp before with less | ⟨rfl, less⟩
          · exact Or.inl less
          · exact Or.inr ⟨rfl, ih (Nat.succ.inj same) less⟩

theorem digitChar_lt : ∀ m < 10, ∀ n < m, n.digitChar < m.digitChar := by
  decide

theorem paddedDigits_lt {width n m : Nat} (positive : 0 < width)
    (small : m < 10 ^ width) (before : n < m) :
    paddedDigits width n < paddedDigits width m := by
  induction width, positive using Nat.le_induction generalizing n m with
  | base =>
      have digit : m < 10 := by simpa using small
      rw [paddedDigits_one digit, paddedDigits_one (before.trans digit),
        List.cons_lt_cons_iff]
      exact Or.inl (digitChar_lt m digit n before)
  | succ width positive ih =>
      rw [Nat.pow_succ] at small
      rw [paddedDigits_succ positive, paddedDigits_succ positive]
      rcases (by omega : n / 10 < m / 10 ∨ n / 10 = m / 10 ∧ n % 10 < m % 10)
        with less | ⟨same, less⟩
      · have lengths : (paddedDigits width (n / 10)).length =
            (paddedDigits width (m / 10)).length := by
          rw [length_paddedDigits positive (by omega),
            length_paddedDigits positive (by omega)]
        exact append_lt_append_of_lt lengths (ih (by omega) less) _ _
      · rw [same]
        exact List.append_left_lt (List.cons_lt_cons_iff.mpr
          (Or.inl (digitChar_lt _ (Nat.mod_lt m (by decide)) _ less)))

/-- Texts that begin with a field are ordered by it first. -/
theorem paddedDigits_append_lt {width n m : Nat} (positive : 0 < width)
    (small : m < 10 ^ width) {rest rest' : List Char}
    (before : n < m ∨ n = m ∧ rest < rest') :
    paddedDigits width n ++ rest < paddedDigits width m ++ rest' := by
  rcases before with less | ⟨rfl, less⟩
  · refine append_lt_append_of_lt ?_ (paddedDigits_lt positive small less) _ _
    rw [length_paddedDigits positive (less.trans small),
      length_paddedDigits positive small]
  · exact List.append_left_lt less

theorem lt_paddedDigits_append {width n : Nat} (positive : 0 < width)
    (small : n < 10 ^ width) {c : Char} (sign : c < '0')
    (rest rest' : List Char) : c :: rest < paddedDigits width n ++ rest' := by
  induction width, positive using Nat.le_induction generalizing n rest' with
  | base =>
      have digit : n < 10 := by simpa using small
      have least : ∀ m < 10, '0' ≤ m.digitChar := by decide
      rw [paddedDigits_one digit, List.singleton_append, List.cons_lt_cons_iff]
      exact Or.inl (lt_of_lt_of_le sign (least n digit))
  | succ width positive ih =>
      rw [Nat.pow_succ] at small
      rw [paddedDigits_succ positive, List.append_assoc]
      exact ih (by omega) _

/-! ## Fractions -/

/-- What follows a fraction. -/
def utcSuffix : List Char := "+00:00".toList

/-- A fraction of groups of three digits, which ends where the rest is zero. -/
def groupsText : Nat → Nat → List Char
  | 0, _ => utcSuffix
  | groups + 1, fraction =>
      if fraction = 0 then utcSuffix
      else
        paddedDigits 3 (fraction / 1000 ^ groups) ++
          groupsText groups (fraction % 1000 ^ groups)

theorem groupsText_lt {groups first second : Nat} (before : first < second)
    (small : second < 1000 ^ groups) :
    groupsText groups first < groupsText groups second := by
  induction groups generalizing first second with
  | zero => omega
  | succ groups ih =>
      have power : 0 < 1000 ^ groups := Nat.pow_pos (by decide)
      have field : second / 1000 ^ groups < 10 ^ 3 :=
        Nat.div_lt_of_lt_mul (by rwa [Nat.pow_succ] at small)
      rw [groupsText, groupsText, if_neg (by omega : second ≠ 0)]
      by_cases zero : first = 0
      · rw [if_pos zero]
        exact lt_paddedDigits_append (by decide) field (by decide) _ _
      · rw [if_neg zero]
        -- Equal first groups leave the rest of the fractions to be compared.
        refine paddedDigits_append_lt (by decide) field ?_
        rcases Nat.lt_or_eq_of_le (Nat.div_le_div_right before.le) with
          less | same
        · exact Or.inl less
        · refine Or.inr ⟨same, ih ?_ (Nat.mod_lt _ power)⟩
          have whole := Nat.div_add_mod first (1000 ^ groups)
          have whole' := Nat.div_add_mod second (1000 ^ groups)
          rw [same] at whole
          omega

theorem fractionDigits_append {nanos : Nat} (positive : nanos ≠ 0) :
    fractionDigits nanos ++ utcSuffix = '.' :: groupsText 3 nanos := by
  have six : ∀ fraction, paddedDigits 6 fraction =
      paddedDigits 3 (fraction / 1000) ++ paddedDigits 3 (fraction % 1000) :=
    paddedDigits_add (by decide : 0 < 3) (by decide : 0 < 3)
  have nine : paddedDigits 9 nanos =
      paddedDigits 3 (nanos / 1000000) ++ paddedDigits 6 (nanos % 1000000) :=
    paddedDigits_add (by decide : 0 < 3) (by decide : 0 < 6) nanos
  have last : ∀ fraction, groupsText 1 fraction =
      if fraction = 0 then utcSuffix
      else paddedDigits 3 fraction ++ utcSuffix := by
    intro fraction
    rw [groupsText, groupsText, Nat.pow_zero, Nat.div_one]
  have rest : nanos % 1000000 % 1000 = nanos % 1000 :=
    Nat.mod_mod_of_dvd nanos (by decide)
  have square : 1000 ^ 2 = 1000000 := rfl
  rw [groupsText, if_neg positive, groupsText, last, Nat.pow_one, square, rest,
    fractionDigits, if_neg positive]
  by_cases millis : nanos % 1000000 = 0
  · rw [if_pos millis, if_pos millis, List.cons_append]
  rw [if_neg millis, if_neg millis]
  by_cases micros : nanos % 1000 = 0
  · have upper : nanos / 1000 / 1000 = nanos / 1000000 := by omega
    have lower : nanos / 1000 % 1000 = nanos % 1000000 / 1000 := by omega
    rw [if_pos micros, if_pos micros, six, upper, lower, List.cons_append,
      List.append_assoc]
  · rw [if_neg micros, if_neg micros, nine, six, rest, List.cons_append,
      List.append_assoc, List.append_assoc]

theorem fractionDigits_lt {first second : Nat} (before : first < second)
    (small : second < Instant.nanosPerSecond) :
    fractionDigits first ++ utcSuffix < fractionDigits second ++ utcSuffix := by
  rw [fractionDigits_append (by omega : second ≠ 0)]
  by_cases zero : first = 0
  · subst zero
    exact List.cons_lt_cons_iff.mpr (Or.inl (by decide))
  · rw [fractionDigits_append zero, List.cons_lt_cons_iff]
    exact Or.inr ⟨rfl, groupsText_lt before small⟩

/-! ## Dates and times of day -/

/-- The date and what follows it. -/
def dateText (date : Date) (rest : List Char) : List Char :=
  paddedDigits 4 date.year.toNat ++
    '-' :: (paddedDigits 2 date.month ++
      '-' :: (paddedDigits 2 date.day ++ 'T' :: rest))

/-- The time of day and what follows it. -/
def clockText (hour minute second : Nat) (rest : List Char) : List Char :=
  paddedDigits 2 hour ++
    ':' :: (paddedDigits 2 minute ++ ':' :: (paddedDigits 2 second ++ rest))

theorem dateText_lt {first second : Date} {rest rest' : List Char}
    (before : first.IsBefore second ∨ first = second ∧ rest < rest')
    (nonneg : 0 ≤ first.year) (small : second.year ≤ 9999)
    (bounds : second.month ≤ 12 ∧ second.day ≤ 31) :
    dateText first rest < dateText second rest' := by
  have fields : first.year < second.year ∨ first.year = second.year ∧
      (first.month < second.month ∨ first.month = second.month ∧
        (first.day < second.day ∨ first.day = second.day ∧ rest < rest')) := by
    rcases before with (year | ⟨year, month | ⟨month, day⟩⟩) | ⟨rfl, less⟩
    · exact Or.inl year
    · exact Or.inr ⟨year, Or.inl month⟩
    · exact Or.inr ⟨year, Or.inr ⟨month, Or.inl day⟩⟩
    · exact Or.inr ⟨rfl, Or.inr ⟨rfl, Or.inr ⟨rfl, less⟩⟩⟩
  refine paddedDigits_append_lt (by decide) (by omega)
    (fields.imp (fun year => by omega) fun ⟨year, fields⟩ => ⟨by omega, ?_⟩)
  refine List.cons_lt_cons_iff.mpr (Or.inr ⟨rfl, ?_⟩)
  refine paddedDigits_append_lt (by decide) (by omega)
    (fields.imp_right fun ⟨month, fields⟩ => ⟨month, ?_⟩)
  refine List.cons_lt_cons_iff.mpr (Or.inr ⟨rfl, ?_⟩)
  refine paddedDigits_append_lt (by decide) (by omega)
    (fields.imp_right fun ⟨day, less⟩ => ⟨day, ?_⟩)
  exact List.cons_lt_cons_iff.mpr (Or.inr ⟨rfl, less⟩)

theorem clockText_lt {hour minute second hour' minute' second' : Nat}
    {rest rest' : List Char}
    (before : hour < hour' ∨ hour = hour' ∧ (minute < minute' ∨
      minute = minute' ∧ (second < second' ∨ second = second' ∧ rest < rest')))
    (hours : hour' < 24) (minutes : minute' < 60) (seconds : second' ≤ 60) :
    clockText hour minute second rest <
      clockText hour' minute' second' rest' := by
  refine paddedDigits_append_lt (by decide) (by omega)
    (before.imp_right fun ⟨same, before⟩ => ⟨same, ?_⟩)
  refine List.cons_lt_cons_iff.mpr (Or.inr ⟨rfl, ?_⟩)
  refine paddedDigits_append_lt (by decide) (by omega)
    (before.imp_right fun ⟨same, before⟩ => ⟨same, ?_⟩)
  refine List.cons_lt_cons_iff.mpr (Or.inr ⟨rfl, ?_⟩)
  exact paddedDigits_append_lt (by decide) (by omega) before

/-! ## Instants -/

namespace Instant

/-- The day of an instant. -/
def date (instant : Instant) : Date :=
  Date.ofDays (instant.seconds / 86400)

/-- The year has four digits, and only the last second of a minute goes on as a
leap second. -/
structure IsPlain (instant : Instant) : Prop where
  year_nonneg : 0 ≤ instant.date.year
  year_le : instant.date.year ≤ 9999
  nanos_lt : instant.nanos < nanosPerSecond ∨
    instant.seconds % 60 = 59 ∧ instant.nanos < 2 * nanosPerSecond

instance (instant : Instant) : Decidable instant.IsPlain :=
  decidable_of_iff
    ((0 ≤ instant.date.year ∧ instant.date.year ≤ 9999) ∧
      (instant.nanos < nanosPerSecond ∨
        instant.seconds % 60 = 59 ∧ instant.nanos < 2 * nanosPerSecond))
    ⟨fun ⟨year, nanos⟩ => ⟨year.1, year.2, nanos⟩,
      fun plain => ⟨⟨plain.year_nonneg, plain.year_le⟩, plain.nanos_lt⟩⟩

/-- The seconds since midnight. -/
def secondOfDay (instant : Instant) : Nat :=
  (instant.seconds % 86400).toNat

theorem IsPlain.toList_columnText {instant : Instant}
    (plain : instant.IsPlain) :
    instant.columnText.toList =
      dateText instant.date
        (clockText (instant.secondOfDay / 3600)
          (instant.secondOfDay / 60 % 60)
          (instant.secondOfDay % 60 + instant.nanos / nanosPerSecond)
          (fractionDigits (instant.nanos % nanosPerSecond) ++ utcSuffix)) := by
  have year : yearDigits instant.date.year =
      paddedDigits 4 instant.date.year.toNat :=
    if_pos ⟨plain.year_nonneg, plain.year_le⟩
  rw [dateText, ← year]
  simp [columnText, body, clockText, date, secondOfDay, utcSuffix]

/-- The leap second is the second that follows the last one of a minute. -/
theorem IsPlain.leap {instant : Instant} (plain : instant.IsPlain) :
    instant.nanos / nanosPerSecond = 0 ∨
      instant.nanos / nanosPerSecond = 1 ∧ instant.secondOfDay % 60 = 59 := by
  have nanos := plain.nanos_lt
  unfold secondOfDay nanosPerSecond at *
  omega

/-- Of two instants of one day the later one has the later time of day. -/
theorem IsPlain.clockText_lt {first second : Instant} (plain : first.IsPlain)
    (plain' : second.IsPlain)
    (before : first.secondOfDay < second.secondOfDay ∨
      first.secondOfDay = second.secondOfDay ∧ first.nanos < second.nanos) :
    clockText (first.secondOfDay / 3600) (first.secondOfDay / 60 % 60)
        (first.secondOfDay % 60 + first.nanos / nanosPerSecond)
        (fractionDigits (first.nanos % nanosPerSecond) ++ utcSuffix) <
      clockText (second.secondOfDay / 3600) (second.secondOfDay / 60 % 60)
        (second.secondOfDay % 60 + second.nanos / nanosPerSecond)
        (fractionDigits (second.nanos % nanosPerSecond) ++ utcSuffix) := by
  have leap := plain.leap
  have leap' := plain'.leap
  have short : second.secondOfDay < 86400 := by
    unfold secondOfDay
    omega
  refine Time.clockText_lt ?_ (by omega) (by omega) (by omega)
  rcases before with earlier | ⟨same, earlier⟩
  · omega
  · rw [same]
    refine Or.inr ⟨rfl, Or.inr ⟨rfl, ?_⟩⟩
    rcases Nat.lt_or_eq_of_le
      (Nat.div_le_div_right (c := nanosPerSecond) earlier.le) with less | equal
    · omega
    · refine Or.inr ⟨by rw [equal], fractionDigits_lt ?_ ?_⟩
      · have whole := Nat.div_add_mod first.nanos nanosPerSecond
        have whole' := Nat.div_add_mod second.nanos nanosPerSecond
        rw [equal] at whole
        omega
      · exact Nat.mod_lt _ (by decide)

theorem IsPlain.columnText_lt {first second : Instant} (plain : first.IsPlain)
    (plain' : second.IsPlain) (before : first < second) :
    first.columnText < second.columnText := by
  rw [String.lt_iff_toList_lt, plain.toList_columnText,
    plain'.toList_columnText]
  refine dateText_lt ?_ plain.year_nonneg plain'.year_le
    (Date.ofDays_isMonthDay _)
  have ordered : first.seconds < second.seconds ∨
    first.seconds = second.seconds ∧ first.nanos < second.nanos := before
  rcases (by omega : first.seconds / 86400 < second.seconds / 86400 ∨
      first.seconds / 86400 = second.seconds / 86400) with earlier | same
  · exact Or.inl (Date.ofDays_isBefore earlier)
  · refine Or.inr ⟨congrArg Date.ofDays same, plain.clockText_lt plain' ?_⟩
    unfold secondOfDay
    omega

theorem IsPlain.columnText_lt_iff {first second : Instant}
    (plain : first.IsPlain) (plain' : second.IsPlain) :
    first.columnText < second.columnText ↔ first < second := by
  constructor
  · intro less
    rcases lt_trichotomy first second with before | rfl | after
    · exact before
    · exact (lt_irrefl _ less).elim
    · exact (lt_asymm less (plain'.columnText_lt plain after)).elim
  · exact plain.columnText_lt plain'

theorem IsPlain.columnText_le_iff {first second : Instant}
    (plain : first.IsPlain) (plain' : second.IsPlain) :
    first.columnText ≤ second.columnText ↔ first ≤ second := by
  rw [← not_lt, plain'.columnText_lt_iff plain, not_lt]

end Instant
end ClusterTrace.Time
