import ClusterTrace.Proofs.Time.ColumnOrder
import ClusterTrace.Time.Pattern

/-!
# Written instants tell instants apart

Two instants of any years with the same text in a table are the same,
`Instant.IsProper.eq_of_columnText_eq`, if only the last second of a minute goes
on as a leap second.  All instants that are read are of this form,
`isProper_of_parse`.
-/

namespace ClusterTrace.Time

/-! ## Digits -/

theorem ofDigitChars_paddedDigits (width n : Nat) :
    Nat.ofDigitChars 10 (paddedDigits width n) 0 = n := by
  rw [paddedDigits, List.leftpad, Nat.ofDigitChars_append,
    Nat.ofDigitChars_replicate_zero, Nat.mul_zero,
    Nat.ofDigitChars_ten_toDigits]

/-- A field tells numbers apart that have more digits as well. -/
theorem paddedDigits_injective (width : Nat) :
    Function.Injective (paddedDigits width) := by
  intro first second same
  have values := congrArg (fun digits => Nat.ofDigitChars 10 digits 0) same
  simpa only [ofDigitChars_paddedDigits] using values

theorem isDigit_of_mem_paddedDigits {width n : Nat} {c : Char}
    (member : c ∈ paddedDigits width n) : c.isDigit = true := by
  rw [paddedDigits, List.leftpad, List.mem_append] at member
  rcases member with padding | digit
  · rw [List.eq_of_mem_replicate padding]
    rfl
  · exact Nat.isDigit_of_mem_toDigits (by decide) (by decide) digit

/-- Two fields of the same number of digits are read off a text. -/
theorem paddedDigits_append_inj {width n m : Nat} (positive : 0 < width)
    (small : n < 10 ^ width) (small' : m < 10 ^ width) {rest rest' : List Char}
    (same : paddedDigits width n ++ rest = paddedDigits width m ++ rest') :
    n = m ∧ rest = rest' := by
  have lengths : (paddedDigits width n).length =
      (paddedDigits width m).length := by
    rw [length_paddedDigits positive small, length_paddedDigits positive small']
  obtain ⟨digits, rest⟩ := List.append_inj same lengths
  exact ⟨paddedDigits_injective width digits, rest⟩

/-- Years of four digits have no sign. -/
theorem yearDigits_cases (year : Int) :
    (0 ≤ year ∧ yearDigits year = paddedDigits 4 year.natAbs) ∨
      (year < 0 ∧ yearDigits year = '-' :: paddedDigits 4 year.natAbs) ∨
      0 ≤ year ∧ yearDigits year = '+' :: paddedDigits 4 year.natAbs := by
  rw [yearDigits]
  split
  · rename_i plain
    have same : year.toNat = year.natAbs := by omega
    rw [same]
    exact Or.inl ⟨plain.1, rfl⟩
  · split
    · rename_i negative
      exact Or.inr (Or.inl ⟨negative, rfl⟩)
    · rename_i nonneg
      exact Or.inr (Or.inr ⟨Int.not_lt.mp nonneg, rfl⟩)

theorem paddedDigits_ne_cons {width n : Nat} {c : Char}
    (sign : c.isDigit = false) (rest : List Char) :
    paddedDigits width n ≠ c :: rest := by
  intro same
  have member : c ∈ paddedDigits width n := by
    rw [same]
    exact List.mem_cons_self
  rw [isDigit_of_mem_paddedDigits member] at sign
  cases sign

theorem yearDigits_injective : Function.Injective yearDigits := by
  intro first second same
  have values : ∀ {n m : Nat}, paddedDigits 4 n = paddedDigits 4 m → n = m :=
    fun same => paddedDigits_injective 4 same
  have minus : ∀ {n m : Nat}, paddedDigits 4 n ≠ '-' :: paddedDigits 4 m :=
    paddedDigits_ne_cons (by decide) _
  have plus : ∀ {n m : Nat}, paddedDigits 4 n ≠ '+' :: paddedDigits 4 m :=
    paddedDigits_ne_cons (by decide) _
  rcases yearDigits_cases first with
      ⟨sign, text⟩ | ⟨sign, text⟩ | ⟨sign, text⟩ <;>
    rcases yearDigits_cases second with
      ⟨sign', text'⟩ | ⟨sign', text'⟩ | ⟨sign', text'⟩ <;>
    rw [text, text'] at same
  · have := values same
    omega
  · exact (minus same).elim
  · exact (plus same).elim
  · exact (minus same.symm).elim
  · have := values (List.cons.inj same).2
    omega
  · cases (List.cons.inj same).1
  · exact (plus same.symm).elim
  · cases (List.cons.inj same).1
  · have := values (List.cons.inj same).2
    omega

/-! ## Dates -/

/-- The date of an instant, as it is written. -/
def dateDigits (date : Date) : List Char :=
  yearDigits date.year ++
    '-' :: (paddedDigits 2 date.month ++ '-' :: paddedDigits 2 date.day)

theorem dateDigits_inj {first second : Date}
    (bounds : first.month ≤ 12 ∧ first.day ≤ 31)
    (bounds' : second.month ≤ 12 ∧ second.day ≤ 31)
    (same : dateDigits first = dateDigits second) : first = second := by
  have length : ∀ n ≤ 31, (paddedDigits 2 n).length = 2 := fun n small =>
    length_paddedDigits (by decide) (by omega)
  obtain ⟨year, rest⟩ := List.append_inj' same (by
    simp [length first.month (by omega), length second.month (by omega),
      length first.day bounds.2, length second.day bounds'.2])
  obtain ⟨month, rest⟩ := paddedDigits_append_inj (by decide) (by omega)
    (by omega) (List.cons.inj rest).2
  have day := paddedDigits_injective 2 (List.cons.inj rest).2
  have year := yearDigits_injective year
  cases first
  cases second
  simp_all

theorem Date.ofDays_injective : Function.Injective Date.ofDays := by
  intro first second same
  have irreflexive : ∀ {first second : Int}, first < second →
      Date.ofDays first ≠ Date.ofDays second := by
    intro first second earlier same
    have before := Date.ofDays_isBefore earlier
    rw [same, Date.IsBefore] at before
    omega
  rcases Int.lt_trichotomy first second with earlier | rfl | later
  · exact (irreflexive earlier same).elim
  · rfl
  · exact (irreflexive later same.symm).elim

/-- Texts are split at a mark that does not occur before. -/
theorem append_cons_inj_of_not_mem {before before' after after' : List Char}
    {mark : Char} (absent : mark ∉ before) (absent' : mark ∉ before')
    (same : before ++ mark :: after = before' ++ mark :: after') :
    before = before' ∧ after = after' := by
  induction before generalizing before' with
  | nil =>
      cases before' with
      | nil => exact ⟨rfl, (List.cons.inj same).2⟩
      | cons c before' =>
          cases (List.cons.inj same).1
          exact (absent' List.mem_cons_self).elim
  | cons c before induction =>
      cases before' with
      | nil =>
          cases (List.cons.inj same).1
          exact (absent List.mem_cons_self).elim
      | cons d before' =>
          obtain ⟨rfl, tail⟩ := List.cons.inj same
          obtain ⟨rfl, rest⟩ := induction (List.not_mem_of_not_mem_cons absent)
            (List.not_mem_of_not_mem_cons absent') tail
          exact ⟨rfl, rest⟩

theorem not_mem_dateDigits (date : Date) : 'T' ∉ dateDigits date := by
  have noDigit : ∀ {width n : Nat}, 'T' ∉ paddedDigits width n := by
    intro width n member
    have isDigit := isDigit_of_mem_paddedDigits member
    cases isDigit
  have noYear : 'T' ∉ yearDigits date.year := by
    rcases yearDigits_cases date.year with
      ⟨-, text⟩ | ⟨-, text⟩ | ⟨-, text⟩ <;>
      simp [text, noDigit]
  simp [dateDigits, noYear, noDigit]

/-! ## Times of day -/

theorem fractionDigits_inj {first second : Nat}
    (small : first < Instant.nanosPerSecond)
    (small' : second < Instant.nanosPerSecond)
    (same : fractionDigits first ++ utcSuffix =
      fractionDigits second ++ utcSuffix) : first = second := by
  rcases Nat.lt_trichotomy first second with less | equal | greater
  · exact absurd same (fractionDigits_lt less small').ne
  · exact equal
  · exact absurd same (fractionDigits_lt greater small).ne'

theorem clockText_inj {hour minute second hour' minute' second' : Nat}
    {rest rest' : List Char} (hours : hour < 24 ∧ hour' < 24)
    (minutes : minute < 60 ∧ minute' < 60)
    (seconds : second ≤ 60 ∧ second' ≤ 60)
    (same : clockText hour minute second rest =
      clockText hour' minute' second' rest') :
    hour = hour' ∧ minute = minute' ∧ second = second' ∧ rest = rest' := by
  obtain ⟨hour, same⟩ := paddedDigits_append_inj (by decide) (by omega)
    (by omega) same
  obtain ⟨minute, same⟩ := paddedDigits_append_inj (by decide) (by omega)
    (by omega) (List.cons.inj same).2
  obtain ⟨second, rest⟩ := paddedDigits_append_inj (by decide) (by omega)
    (by omega) (List.cons.inj same).2
  exact ⟨hour, minute, second, rest⟩

/-! ## Instants -/

namespace Instant

/-- Only the last second of a minute goes on as a leap second. -/
def IsProper (instant : Instant) : Prop :=
  instant.nanos < nanosPerSecond ∨
    instant.seconds % 60 = 59 ∧ instant.nanos < 2 * nanosPerSecond

theorem toList_columnText (instant : Instant) :
    instant.columnText.toList =
      dateDigits instant.date ++
        'T' :: clockText (instant.secondOfDay / 3600)
          (instant.secondOfDay / 60 % 60)
          (instant.secondOfDay % 60 + instant.nanos / nanosPerSecond)
          (fractionDigits (instant.nanos % nanosPerSecond) ++ utcSuffix) := by
  simp [columnText, body, dateDigits, clockText, date, secondOfDay, utcSuffix]

theorem IsProper.leap {instant : Instant} (proper : instant.IsProper) :
    instant.nanos / nanosPerSecond = 0 ∨
      instant.nanos / nanosPerSecond = 1 ∧ instant.secondOfDay % 60 = 59 := by
  unfold IsProper at proper
  unfold secondOfDay nanosPerSecond at *
  omega

theorem IsProper.eq_of_columnText_eq {first second : Instant}
    (proper : first.IsProper) (proper' : second.IsProper)
    (same : first.columnText = second.columnText) : first = second := by
  have texts := congrArg String.toList same
  rw [toList_columnText, toList_columnText] at texts
  obtain ⟨date, clock⟩ := append_cons_inj_of_not_mem (not_mem_dateDigits _)
    (not_mem_dateDigits _) texts
  have day := Date.ofDays_injective (dateDigits_inj (Date.ofDays_isMonthDay _)
    (Date.ofDays_isMonthDay _) date)
  have leap := proper.leap
  have leap' := proper'.leap
  have short : first.secondOfDay < 86400 := by
    unfold secondOfDay
    omega
  have short' : second.secondOfDay < 86400 := by
    unfold secondOfDay
    omega
  obtain ⟨hour, minute, sixtieth, fraction⟩ := clockText_inj
    ⟨by omega, by omega⟩ ⟨by omega, by omega⟩ ⟨by omega, by omega⟩ clock
  have rest := fractionDigits_inj (Nat.mod_lt _ (by decide))
    (Nat.mod_lt _ (by decide)) fraction
  -- A sixtieth second is a leap second, on both sides.
  have sameLeap : first.nanos / nanosPerSecond =
      second.nanos / nanosPerSecond := by omega
  have clock : first.secondOfDay = second.secondOfDay := by omega
  have whole := Nat.div_add_mod first.nanos nanosPerSecond
  have whole' := Nat.div_add_mod second.nanos nanosPerSecond
  rw [sameLeap, rest] at whole
  unfold secondOfDay at clock
  exact Instant.eq_def.mpr ⟨by omega, by omega⟩

theorem IsPlain.eq_of_columnText_eq {first second : Instant}
    (plain : first.IsPlain) (plain' : second.IsPlain)
    (same : first.columnText = second.columnText) : first = second :=
  IsProper.eq_of_columnText_eq plain.nanos_lt plain'.nanos_lt same

end Instant
end ClusterTrace.Time
