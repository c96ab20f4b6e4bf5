import ClusterTrace.Ingest.GatherTime
import ClusterTrace.Proofs.Text.Words
import ClusterTrace.Proofs.Time.CivilDates
import ClusterTrace.Proofs.Time.PrintedFields

/-!
# Printed gather times

A gather time that is printed with its offset and zone is read as exactly the
instant that it was printed for.  The zone, the reading of the monotonic clock
and later lines make no difference to any date, time of day and offset,
`gatherTime_read_printed`.
-/

namespace ClusterTrace

namespace Time

/-! ## Local time -/

/-- The local date and time of an instant at an offset in minutes. -/
def localFields (instant : Instant) (minutes : Int) : Fields :=
  let seconds := instant.seconds + minutes * 60
  let secondOfDay := (seconds % 86400).toNat
  { date := Date.ofDays (seconds / 86400)
    hour := secondOfDay / 3600
    minute := secondOfDay / 60 % 60
    second := secondOfDay % 60
    nanos := instant.nanos
    offset := minutes * 60 }

/-- The instant has nanoseconds, the offset is less than a day, and the local
year has at most four digits. -/
structure IsPrintable (instant : Instant) (minutes : Int) : Prop where
  nanos_lt : instant.nanos < 10 ^ 9
  withinDay : minutes.natAbs < 1440
  year_nonneg : 0 ≤ (localFields instant minutes).date.year
  year_le : (localFields instant minutes).date.year ≤ 9999

variable {instant : Instant} {minutes : Int}

/-- Going back by the offset leads to the day of the instant or to the one
before or after. -/
theorem IsPrintable.toInstant_localFields
    (printable : IsPrintable instant minutes) :
    (localFields instant minutes).toInstant = .ok instant := by
  obtain ⟨-, withinDay, nonneg, atMost⟩ := printable
  have valid := Date.isValid_ofDays ((instant.seconds + minutes * 60) / 86400)
  have days := Date.toDays_ofDays ((instant.seconds + minutes * 60) / 86400)
  have here : isRepresented
      (Date.ofDays ((instant.seconds + minutes * 60) / 86400)).year = true :=
    isRepresented_of_near ⟨nonneg, atMost⟩ ⟨by omega, by omega⟩
  have there : isRepresented
      (Date.ofDays (instant.seconds / 86400)).year = true :=
    isRepresented_of_near ⟨nonneg, atMost⟩ ⟨by omega, by omega⟩
  have offset : ¬ 86400 ≤ (minutes * 60).natAbs := by omega
  obtain ⟨second, isSecond⟩ : ∃ second, second =
      ((instant.seconds + minutes * 60) % 86400).toNat := ⟨_, rfl⟩
  have noLeap : second % 60 / 60 = 0 := by omega
  have back : (instant.seconds + minutes * 60) / 86400 * 86400 +
      ((second / 3600 * 3600 + second / 60 % 60 * 60 + second % 60 : Nat) :
        Int) - minutes * 60 = instant.seconds := by
    omega
  rw [Fields.toInstant, localFields]
  simp only [valid, here, days, ← isSecond, and_self, not_true_eq_false,
    if_false, if_neg offset, noLeap, Nat.sub_zero, back, there, if_true,
    Nat.zero_mul, Nat.add_zero]

/-! ## Items of the pattern -/

section Items

variable {fields fields' : Fields} {item : Item} {items : List Item}
  {text rest : List Char} {n : Nat}

theorem readItems_cons (first : item.read fields text = .ok (fields', rest)) :
    readItems (item :: items) fields text = readItems items fields' rest := by
  rw [readItems, first]

theorem read_year (small : n < 10000) (rest : List Char) :
    Item.year.read fields (paddedDigits 4 n ++ rest) =
      .ok ({ fields with date := { fields.date with year := (n : Int) } },
        rest) := by
  rw [Item.read, trimStart_paddedDigits (by decide) small,
    takeYear_paddedDigits small]
  rfl

theorem read_month (within : 1 ≤ n ∧ n ≤ 12) (rest : List Char) :
    Item.month.read fields (paddedDigits 2 n ++ rest) =
      .ok ({ fields with date := { fields.date with month := n } }, rest) := by
  rw [Item.read, takeBounded_paddedDigits within (by omega)]
  rfl

theorem read_day (within : 1 ≤ n ∧ n ≤ 31) (rest : List Char) :
    Item.day.read fields (paddedDigits 2 n ++ rest) =
      .ok ({ fields with date := { fields.date with day := n } }, rest) := by
  rw [Item.read, takeBounded_paddedDigits within (by omega)]
  rfl

theorem read_hour (within : n ≤ 23) (rest : List Char) :
    Item.hour.read fields (paddedDigits 2 n ++ rest) =
      .ok ({ fields with hour := n }, rest) := by
  rw [Item.read, takeBounded_paddedDigits ⟨Nat.zero_le n, within⟩ (by omega)]
  rfl

theorem read_minute (within : n ≤ 59) (rest : List Char) :
    Item.minute.read fields (paddedDigits 2 n ++ rest) =
      .ok ({ fields with minute := n }, rest) := by
  rw [Item.read, takeBounded_paddedDigits ⟨Nat.zero_le n, within⟩ (by omega)]
  rfl

theorem read_second (within : n ≤ 60) (rest : List Char) :
    Item.second.read fields (paddedDigits 2 n ++ rest) =
      .ok ({ fields with second := n }, rest) := by
  rw [Item.read, takeBounded_paddedDigits ⟨Nat.zero_le n, within⟩ (by omega)]
  rfl

theorem read_mark (c : Char) (rest : List Char) :
    (Item.mark c).read fields (c :: rest) = .ok (fields, rest) :=
  if_pos rfl

theorem read_blanks (solid : ∀ c ∈ rest.head?, Text.isBlank c = false) :
    Item.blanks.read fields (' ' :: rest) = .ok (fields, rest) := by
  have skipped : Text.trimStart (' ' :: rest) = rest :=
    Text.dropWhile_isBlank_append
      (List.forall_mem_singleton.mpr (by decide)) solid
  rw [Item.read, skipped]

theorem head?_offsetDigits (minutes : Int) :
    ∀ c ∈ (offsetDigits minutes).head?, Text.isBlank c = false := by
  rw [offsetDigits]
  split
  · rintro c ⟨⟩
    decide
  · rintro c ⟨⟩
    decide

theorem read_offset {minutes : Int} (withinDay : minutes.natAbs < 1440) :
    Item.offset.read fields (offsetDigits minutes) =
      .ok ({ fields with offset := minutes * 60 }, []) := by
  have solid : Text.trimStart (offsetDigits minutes) = offsetDigits minutes :=
    Text.dropWhile_isBlank_eq_self (head?_offsetDigits minutes)
  rw [Item.read, solid, takeOffset_offsetDigits withinDay]
  rfl

end Items

/-! ## The printed words -/

/-- The date as it is printed. -/
def dateWord (date : Date) : List Char :=
  paddedDigits 4 date.year.toNat ++
    '-' :: (paddedDigits 2 date.month ++ '-' :: paddedDigits 2 date.day)

/-- The time of day as it is printed, with the fraction that is not zero. -/
def clockWord (fields : Fields) : List Char :=
  clockText fields.hour fields.minute fields.second
    (shortFraction fields.nanos)

theorem IsPrintable.date_bounds (printable : IsPrintable instant minutes) :
    (localFields instant minutes).date.year.toNat < 10000 ∧
      (1 ≤ (localFields instant minutes).date.month ∧
        (localFields instant minutes).date.month ≤ 12) ∧
      1 ≤ (localFields instant minutes).date.day ∧
        (localFields instant minutes).date.day ≤ 31 := by
  obtain ⟨year, dayOfYear, march⟩ :=
    exists_isMarchDay ((instant.seconds + minutes * 60) / 86400)
  have atMost := printable.year_le
  have ofMonth := march.day_eq
  refine ⟨by omega, ⟨march.month_pos, march.month_le⟩, ?_, ?_⟩
  · rw [localFields]
    dsimp only
    omega
  · rw [localFields]
    dsimp only
    omega

theorem head?_clockWord {fields : Fields} (small : fields.hour < 100)
    (rest : List Char) :
    ∀ c ∈ (clockWord fields ++ rest).head?, Text.isBlank c = false := by
  obtain ⟨c, more, digits, isDigit⟩ :=
    exists_paddedDigits (by decide : 0 < 2) small
  rw [clockWord, clockText, digits]
  rintro d ⟨⟩
  exact isBlank_of_isDigit isDigit

theorem localFields_clock (instant : Instant) (minutes : Int) :
    (localFields instant minutes).hour ≤ 23 ∧
      (localFields instant minutes).minute ≤ 59 ∧
      (localFields instant minutes).second ≤ 59 := by
  rw [localFields]
  dsimp only
  omega

/-- The printed words are read field by field. -/
theorem readItems_printed (printable : IsPrintable instant minutes) :
    readItems Ingest.gatherPattern {}
        (dateWord (localFields instant minutes).date ++
          ' ' :: clockWord (localFields instant minutes) ++
          ' ' :: offsetDigits minutes) =
      .ok (localFields instant minutes, []) := by
  obtain ⟨year, month, day⟩ := printable.date_bounds
  obtain ⟨hour, minute, second⟩ := localFields_clock instant minutes
  have offset : (localFields instant minutes).offset = minutes * 60 := rfl
  have nanos : (localFields instant minutes).nanos < 10 ^ 9 :=
    printable.nanos_lt
  have nonneg := printable.year_nonneg
  generalize localFields instant minutes = fields at *
  have afterClock : ∀ c ∈ (' ' :: offsetDigits minutes).head?,
      c.isDigit = false ∧ c ≠ '.' := by
    rintro c ⟨⟩
    decide
  rw [Ingest.gatherPattern, dateWord]
  simp only [List.append_assoc, List.cons_append]
  rw [readItems_cons (read_year year _), readItems_cons (read_mark _ _),
    readItems_cons (read_month month _), readItems_cons (read_mark _ _),
    readItems_cons (read_day day _),
    readItems_cons (read_blanks (head?_clockWord (by omega) _)),
    clockWord, clockText]
  simp only [List.append_assoc, List.cons_append]
  rw [readItems_cons (read_hour hour _), readItems_cons (read_mark _ _),
    readItems_cons (read_minute minute _), readItems_cons (read_mark _ _),
    readItems_cons (read_second (by omega) _),
    readItems_cons (readItem_fraction nanos afterClock rfl),
    readItems_cons (read_blanks (head?_offsetDigits minutes)),
    readItems_cons (read_offset printable.withinDay), readItems]
  have wholeYear : (fields.date.year.toNat : Int) = fields.date.year :=
    Int.toNat_of_nonneg nonneg
  rw [wholeYear, ← offset]

theorem readWhole_printed (printable : IsPrintable instant minutes) :
    readWhole Ingest.gatherPattern
        (dateWord (localFields instant minutes).date ++
          ' ' :: clockWord (localFields instant minutes) ++
          ' ' :: offsetDigits minutes) = .ok instant := by
  rw [readWhole, readItems_printed printable]
  exact printable.toInstant_localFields

/-! ## Words -/

theorem noBlank_paddedDigits (width n : Nat) :
    ∀ c ∈ paddedDigits width n, Text.isBlank c = false :=
  fun _ member => isBlank_of_isDigit (isDigit_of_mem_paddedDigits member)

theorem noBlank_shortFraction (nanos : Nat) :
    ∀ c ∈ shortFraction nanos, Text.isBlank c = false := by
  rw [shortFraction]
  split
  · simp
  · refine List.forall_mem_cons.mpr ⟨by decide, fun c member => ?_⟩
    exact noBlank_paddedDigits 9 nanos c
      ((List.rdropWhile_prefix _ _).subset member)

theorem isWord_dateWord (date : Date) : Text.IsWord (dateWord date) := by
  constructor
  · simp [dateWord]
  · simp only [dateWord, List.forall_mem_append, List.forall_mem_cons]
    exact ⟨noBlank_paddedDigits _ _, by decide, noBlank_paddedDigits _ _,
      by decide, noBlank_paddedDigits _ _⟩

theorem isWord_clockWord (fields : Fields) :
    Text.IsWord (clockWord fields) := by
  constructor
  · simp [clockWord, clockText]
  · simp only [clockWord, clockText, List.forall_mem_append,
      List.forall_mem_cons]
    exact ⟨noBlank_paddedDigits _ _, by decide, noBlank_paddedDigits _ _,
      by decide, noBlank_paddedDigits _ _, noBlank_shortFraction _⟩

theorem isWord_offsetDigits (minutes : Int) :
    Text.IsWord (offsetDigits minutes) := by
  constructor
  · simp [offsetDigits]
  · simp only [offsetDigits, List.forall_mem_append, List.forall_mem_cons]
    refine ⟨?_, noBlank_paddedDigits _ _, noBlank_paddedDigits _ _⟩
    split <;> decide

end Time

namespace Ingest

open Text (IsWord isBlank spaced words)

/-- A zone, or a zone and a reading of the monotonic clock. -/
inductive IsZoneWords : List (List Char) → Prop where
  | zone {zone : List Char} :
      IsWord zone → ¬ ['m', '='] <+: zone → IsZoneWords [zone]
  | monotonic {zone reading : List Char} :
      IsWord zone → ¬ ['m', '='] <+: zone →
      (∀ c ∈ reading, isBlank c = false) →
      IsZoneWords [zone, 'm' :: '=' :: reading]

namespace IsZoneWords

variable {tail : List (List Char)}

theorem isZoneTail (isZone : IsZoneWords tail) :
    Ingest.isZoneTail tail = true := by
  have unmarked : ∀ {zone : List Char}, ¬ ['m', '='] <+: zone →
      ['m', '='].isPrefixOf zone = false := by
    intro zone other
    rw [← Bool.not_eq_true, List.isPrefixOf_iff_prefix]
    exact other
  cases isZone with
  | zone _ other =>
      change (!(['m', '='].isPrefixOf _)) = true
      rw [unmarked other]
      rfl
  | monotonic _ other _ =>
      change (!(['m', '='].isPrefixOf _) && _) = true
      rw [unmarked other]
      rfl

theorem isWord (isZone : IsZoneWords tail) : ∀ word ∈ tail, IsWord word := by
  cases isZone with
  | zone isWord _ => exact List.forall_mem_singleton.mpr isWord
  | monotonic isWord _ noBlank =>
      refine List.forall_mem_cons.mpr ⟨isWord, List.forall_mem_singleton.mpr ?_⟩
      refine ⟨List.cons_ne_nil _ _, ?_⟩
      simp only [List.forall_mem_cons]
      exact ⟨by decide, by decide, noBlank⟩

end IsZoneWords

/-- A text whose first line holds words, between blanks. -/
def textOf (before : List Char) (line : List (List Char))
    (after later : List Char) : String :=
  String.ofList (before ++ (spaced line ++ after) ++ later)

/-- Blanks stand around the line, and other lines follow. -/
structure Surrounds (before after later : List Char) : Prop where
  blank : ∀ c ∈ before ++ after, isBlank c = true ∧ c ≠ '\n'
  isLater : ∀ c ∈ later.head?, c = '\n'

/-- The date, the time of day and the offset decide alone. -/
theorem toOption_parseGatherTime {date clock offset : List Char}
    {tail : List (List Char)} {before after later : List Char}
    (areWords : ∀ word ∈ [date, clock, offset], IsWord word)
    (isZone : IsZoneWords tail) (surrounds : Surrounds before after later) :
    (parseGatherTime (textOf before (date :: clock :: offset :: tail)
        after later)).toOption =
      (Time.readWhole gatherPattern
        (date ++ ' ' :: clock ++ ' ' :: offset)).toOption := by
  have allWords : ∀ word ∈ date :: clock :: offset :: tail, IsWord word :=
    List.forall_mem_append.mpr ⟨areWords, isZone.isWord⟩
  have line := Text.words_trim_firstLine allWords (List.cons_ne_nil _ _)
    surrounds.blank surrounds.isLater
  rw [parseGatherTime, textOf, String.toList_ofList, line, instantOfWords?,
    if_pos isZone.isZoneTail]
  cases Time.readWhole gatherPattern
      (date ++ ' ' :: clock ++ ' ' :: offset) with
  | error cause => rfl
  | ok instant => rfl

/-- The words of a printed gather time before the zone. -/
def printedWords (instant : Time.Instant) (minutes : Int) :
    List (List Char) :=
  [Time.dateWord (Time.localFields instant minutes).date,
    Time.clockWord (Time.localFields instant minutes),
    Time.offsetDigits minutes]

/-- A printed gather time is read as the instant that was printed.  Whatever the
date, the time of day and the offset are, the zone, the reading of the monotonic
clock, the blanks around and the lines after make no difference. -/
theorem gatherTime_read_printed {tail : List (List Char)}
    {before after later : List Char} (isZone : IsZoneWords tail)
    (surrounds : Surrounds before after later) :
    (∀ instant minutes, Time.IsPrintable instant minutes →
      parseGatherTime (textOf before (printedWords instant minutes ++ tail)
        after later) = .ok instant) ∧
    ∀ date clock offset, (∀ word ∈ [date, clock, offset], IsWord word) →
      (parseGatherTime (textOf before (date :: clock :: offset :: tail)
        after later)).toOption =
      (Time.readWhole gatherPattern
        (date ++ ' ' :: clock ++ ' ' :: offset)).toOption := by
  refine ⟨fun instant minutes printable => ?_,
    fun date clock offset areWords =>
      toOption_parseGatherTime areWords isZone surrounds⟩
  have areWords : ∀ word ∈ printedWords instant minutes, IsWord word := by
    rw [printedWords]
    simp only [List.forall_mem_cons]
    exact ⟨Time.isWord_dateWord _, Time.isWord_clockWord _,
      Time.isWord_offsetDigits _, by simp⟩
  have decided := toOption_parseGatherTime areWords isZone surrounds
  rw [Time.readWhole_printed printable] at decided
  rw [printedWords, List.cons_append, List.cons_append, List.cons_append,
    List.nil_append]
  cases outcome : parseGatherTime (textOf before
      (Time.dateWord (Time.localFields instant minutes).date ::
        Time.clockWord (Time.localFields instant minutes) ::
        Time.offsetDigits minutes :: tail) after later) with
  | error line =>
      rw [outcome] at decided
      cases decided
  | ok read =>
      rw [outcome] at decided
      exact congrArg Except.ok (Option.some.inj decided)

/-- Half a second before the end of a leap day, when it is March in universal
time. -/
theorem gatherTime_read_printed_on_leapDay :
    parseGatherTime
        " 2024-02-29 23:59:59.5 -0330 NST m=+0.25\r\n2024-03-01" =
      .ok ⟨1709263799, 500000000⟩ := by
  have isWord : IsWord ['N', 'S', 'T'] := ⟨by decide, by simp [isBlank]⟩
  have isZone : IsZoneWords
      [['N', 'S', 'T'], ['m', '=', '+', '0', '.', '2', '5']] :=
    .monotonic isWord (by decide) (by simp [isBlank])
  have surrounds : Surrounds [' '] ['\r'] "\n2024-03-01".toList :=
    ⟨by simp [isBlank], by simp⟩
  have printable : Time.IsPrintable ⟨1709263799, 500000000⟩ (-210) :=
    ⟨by decide, by decide, by decide, by decide⟩
  have text : textOf [' '] (printedWords ⟨1709263799, 500000000⟩ (-210) ++
      [['N', 'S', 'T'], ['m', '=', '+', '0', '.', '2', '5']]) ['\r']
      "\n2024-03-01".toList =
        " 2024-02-29 23:59:59.5 -0330 NST m=+0.25\r\n2024-03-01" := by
    decide +kernel
  rw [← text]
  exact (gatherTime_read_printed isZone surrounds).1 _ _ printable

end Ingest
end ClusterTrace
