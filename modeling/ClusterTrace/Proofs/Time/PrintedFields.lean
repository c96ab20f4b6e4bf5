import ClusterTrace.Proofs.Time.ReadInstants
import Mathlib.Data.List.DropRight

/-!
# Printed fields are read

A field of digits, a fraction without the zeros at its end and an offset of
hours and minutes are read as the numbers they print, whatever follows them,
`takeNumber_paddedDigits`, `readItem_fraction` and `takeOffset_offsetDigits`.
-/

namespace ClusterTrace.Time

open Text (isBlank trimStart)

/-! ## Digits -/

theorem digitsValue_eq (digits : List Char) :
    digitsValue digits = Nat.ofDigitChars 10 digits 0 := by
  rw [digitsValue, Nat.ofDigitChars]
  simp only [Nat.mul_comm]

theorem digitsValue_paddedDigits (width n : Nat) :
    digitsValue (paddedDigits width n) = n := by
  rw [digitsValue_eq, ofDigitChars_paddedDigits]

theorem isBlank_of_isDigit {c : Char} (isDigit : c.isDigit = true) :
    isBlank c = false := by
  rw [Char.isDigit, Bool.and_eq_true, decide_eq_true_iff,
    decide_eq_true_iff] at isDigit
  have lower : 48 ≤ c.toNat := isDigit.1
  have upper : c.toNat ≤ 57 := isDigit.2
  simp only [isBlank]
  grind

/-- The digits at the front of a text are read up to the limit or to the first
character that is no digit. -/
theorem takeNumber_append (limit : Nat) {digits : List Char}
    (rest : List Char) (given : digits ≠ [])
    (areDigits : ∀ c ∈ digits, c.isDigit = true)
    (short : digits.length ≤ limit)
    (ends : digits.length = limit ∨ ∀ c ∈ rest.head?, c.isDigit = false)
    (small : Word.fitsSigned 64 (digitsValue digits) = true) :
    takeNumber limit (digits ++ rest) = .ok (digitsValue digits, rest) := by
  have nothing : (rest.take (limit - digits.length)).takeWhile Char.isDigit =
      [] := by
    rcases ends with full | ends
    · rw [full, Nat.sub_self, List.take_zero, List.takeWhile_nil]
    · cases rest with
      | nil => rw [List.take_nil, List.takeWhile_nil]
      | cons c rest =>
          cases limit - digits.length with
          | zero => rfl
          | succ more =>
              rw [List.take_succ_cons, List.takeWhile_cons, ends c rfl]
              rfl
  have taken : ((digits ++ rest).take limit).takeWhile Char.isDigit =
      digits := by
    rw [List.take_append, List.take_of_length_le short,
      List.takeWhile_append_of_pos areDigits, nothing, List.append_nil]
  obtain ⟨c, digits, rfl⟩ := List.exists_cons_of_ne_nil given
  rw [List.cons_append, takeNumber, if_pos (areDigits c List.mem_cons_self),
    ← List.cons_append, taken]
  dsimp only
  rw [if_pos small, List.drop_left]

theorem fitsSigned_of_lt {n : Nat} (small : n < 10 ^ 9) :
    Word.fitsSigned 64 n = true := by
  have limit : Word.limit 63 = 9223372036854775808 := by decide
  rw [Word.fitsSigned, decide_eq_true_iff, limit]
  omega

/-- A field of digits is read with a limit of its width. -/
theorem takeNumber_paddedDigits {width n : Nat} (positive : 0 < width)
    (narrow : width ≤ 9) (small : n < 10 ^ width) (rest : List Char) :
    takeNumber width (paddedDigits width n ++ rest) = .ok (n, rest) := by
  have length := length_paddedDigits positive small
  have fits : n < 10 ^ 9 :=
    small.trans_le (Nat.pow_le_pow_right (by decide) narrow)
  have given : paddedDigits width n ≠ [] := by
    rw [← List.length_pos_iff, length]
    exact positive
  have representable :
      Word.fitsSigned 64 (digitsValue (paddedDigits width n)) = true := by
    rw [digitsValue_paddedDigits]
    exact fitsSigned_of_lt fits
  have taken := takeNumber_append width rest given
    (fun _ member => isDigit_of_mem_paddedDigits member) length.le
    (.inl length) representable
  rwa [digitsValue_paddedDigits] at taken

/-- A field of digits begins with a digit. -/
theorem exists_paddedDigits {width n : Nat} (positive : 0 < width)
    (small : n < 10 ^ width) :
    ∃ c rest, paddedDigits width n = c :: rest ∧ c.isDigit = true := by
  have length := length_paddedDigits positive small
  cases digits : paddedDigits width n with
  | nil =>
      rw [digits] at length
      exact (positive.ne length).elim
  | cons c rest =>
      exact ⟨c, rest, rfl,
        isDigit_of_mem_paddedDigits (digits ▸ List.mem_cons_self)⟩

theorem dropWhile_paddedDigits {p : Char → Bool}
    (keeps : ∀ c, c.isDigit = true → p c = false) {width n : Nat}
    (positive : 0 < width) (small : n < 10 ^ width) (rest : List Char) :
    (paddedDigits width n ++ rest).dropWhile p =
      paddedDigits width n ++ rest := by
  obtain ⟨c, more, digits, isDigit⟩ := exists_paddedDigits positive small
  rw [digits, List.cons_append, List.dropWhile_cons, keeps c isDigit]
  rfl

/-- No blank stands before a field of digits. -/
theorem trimStart_paddedDigits {width n : Nat} (positive : 0 < width)
    (small : n < 10 ^ width) (rest : List Char) :
    trimStart (paddedDigits width n ++ rest) =
      paddedDigits width n ++ rest :=
  dropWhile_paddedDigits (fun _ => isBlank_of_isDigit) positive small rest

theorem takeBounded_paddedDigits {low high n : Nat}
    (within : low ≤ n ∧ n ≤ high) (small : n < 100) (rest : List Char) :
    takeBounded low high (paddedDigits 2 n ++ rest) = .ok (n, rest) := by
  rw [takeBounded, trimStart_paddedDigits (by decide) small,
    takeNumber_paddedDigits (by decide) (by decide) small]
  exact if_pos within

/-- A year of four digits has no sign. -/
theorem takeYear_paddedDigits {year : Nat} (small : year < 10000)
    (rest : List Char) :
    takeYear (paddedDigits 4 year ++ rest) = .ok ((year : Int), rest) := by
  have taken : takeNumber 4 (paddedDigits 4 year ++ rest) = .ok (year, rest) :=
    takeNumber_paddedDigits (by decide) (by decide) small rest
  have unsigned : ∀ {c : Char}, c.isDigit = false → ∀ later,
      paddedDigits 4 year ++ rest ≠ c :: later := by
    intro c sign later same
    obtain ⟨d, more, digits, isDigit⟩ :=
      exists_paddedDigits (by decide : 0 < 4) small
    rw [digits] at same
    cases same
    rw [sign] at isDigit
    cases isDigit
  have representable : Word.fitsSigned 32 (year : Int) = true := by
    have limit : Word.limit 31 = 2147483648 := by decide
    rw [Word.fitsSigned, decide_eq_true_iff, limit]
    omega
  unfold takeYear
  split
  · rename_i later same
    exact (unsigned (by decide) later same).elim
  · rename_i later same
    exact (unsigned (by decide) later same).elim
  · rw [taken]
    exact if_pos representable

/-! ## Fractions -/

/-- The fraction of a second without the zeros at its end, nothing when it is
zero. -/
def shortFraction (nanos : Nat) : List Char :=
  if nanos = 0 then []
  else '.' :: (paddedDigits 9 nanos).rdropWhile (· == '0')

/-- The zeros that are left out give the value its size. -/
theorem digitsValue_rdropWhile (digits : List Char) :
    digitsValue (digits.rdropWhile (· == '0')) *
        10 ^ (digits.length - (digits.rdropWhile (· == '0')).length) =
      digitsValue digits := by
  have whole :=
    List.rdropWhile_append_rtakeWhile (p := (· == '0')) (l := digits)
  have zeros : digits.rtakeWhile (· == '0') =
      List.replicate (digits.length - (digits.rdropWhile (· == '0')).length)
        '0' := by
    rw [List.eq_replicate_iff]
    constructor
    · have lengths := congrArg List.length whole
      rw [List.length_append] at lengths
      omega
    · intro c member
      have isZero := List.mem_rtakeWhile_imp (p := (· == '0')) member
      exact eq_of_beq isZero
  rw [zeros] at whole
  have values := congrArg digitsValue whole
  rw [digitsValue_eq, digitsValue_eq, Nat.ofDigitChars_append,
    Nat.ofDigitChars_replicate_zero, ← digitsValue_eq, ← digitsValue_eq]
    at values
  rw [← values, Nat.mul_comm]

theorem takeFraction_rdropWhile {nanos : Nat} (positive : nanos ≠ 0)
    (small : nanos < 10 ^ 9) {rest : List Char}
    (ends : ∀ c ∈ rest.head?, c.isDigit = false) :
    takeFraction ((paddedDigits 9 nanos).rdropWhile (· == '0') ++ rest) =
      .ok (nanos, rest) := by
  have value := digitsValue_rdropWhile (paddedDigits 9 nanos)
  have isPrefix := List.rdropWhile_prefix (· == '0') (l := paddedDigits 9 nanos)
  rw [digitsValue_paddedDigits, length_paddedDigits (by decide) small] at value
  have short := isPrefix.length_le
  rw [length_paddedDigits (by decide) small] at short
  have areDigits : ∀ c ∈ (paddedDigits 9 nanos).rdropWhile (· == '0'),
      c.isDigit = true :=
    fun c member => isDigit_of_mem_paddedDigits (isPrefix.subset member)
  generalize (paddedDigits 9 nanos).rdropWhile (· == '0') = kept at *
  have given : kept ≠ [] := by
    rintro rfl
    exact positive (value ▸ Nat.zero_mul _)
  have atMost : digitsValue kept ≤ nanos := by
    rw [← value]
    exact Nat.le_mul_of_pos_right _ (Nat.pow_pos (by decide))
  have taken := takeNumber_append 9 rest given areDigits short (.inr ends)
    (fitsSigned_of_lt (atMost.trans_lt small))
  have stops : rest.dropWhile Char.isDigit = rest := by
    cases rest with
    | nil => rfl
    | cons c rest => rw [List.dropWhile_cons, ends c rfl]; rfl
  rw [takeFraction, taken]
  dsimp only
  rw [List.length_append, Nat.add_sub_cancel, stops]
  exact congrArg (fun value => Except.ok (value, rest)) value

/-- A fraction is read up to what follows it, also where there is none. -/
theorem readItem_fraction {nanos : Nat} (small : nanos < 10 ^ 9)
    {rest : List Char} (ends : ∀ c ∈ rest.head?, c.isDigit = false ∧ c ≠ '.')
    {fields : Fields} (noNanos : fields.nanos = 0) :
    Item.fraction.read fields (shortFraction nanos ++ rest) =
      .ok ({ fields with nanos := nanos }, rest) := by
  rw [shortFraction]
  split
  · rename_i isZero
    have same : { fields with nanos := nanos } = fields := by
      rw [isZero, ← noNanos]
    rw [List.nil_append, same]
    cases rest with
    | nil => rfl
    | cons c rest =>
        unfold Item.read
        dsimp only
        split
        · rename_i point
          exact ((ends c rfl).2 (List.cons.inj point).1).elim
        · rfl
  · rename_i positive
    rw [List.cons_append, Item.read, takeFraction_rdropWhile positive small
      fun c first => (ends c first).1]
    rfl

/-! ## Offsets -/

theorem paddedDigits_two {n : Nat} (small : n < 100) :
    paddedDigits 2 n = [(n / 10).digitChar, (n % 10).digitChar] := by
  rw [paddedDigits_succ (by decide), paddedDigits_one (by omega)]
  rfl

theorem digitChar_toNat : ∀ n < 10,
    n.digitChar.isDigit = true ∧ n.digitChar.toNat - '0'.toNat = n := by
  decide

theorem takePair_paddedDigits {n : Nat} (small : n < 100) (rest : List Char) :
    takePair (paddedDigits 2 n ++ rest) = .ok ((n / 10, n % 10), rest) := by
  obtain ⟨isDigit, value⟩ := digitChar_toNat (n / 10) (by omega)
  obtain ⟨isDigit', value'⟩ := digitChar_toNat (n % 10) (by omega)
  rw [paddedDigits_two small]
  change (if _ then _ else _) = _
  rw [if_pos ⟨isDigit, isDigit'⟩, value, value']
  rfl

/-- A signed offset in minutes: hours and minutes, two digits each. -/
def offsetDigits (minutes : Int) : List Char :=
  (if minutes < 0 then '-' else '+') ::
    (paddedDigits 2 (minutes.natAbs / 60) ++
      paddedDigits 2 (minutes.natAbs % 60))

theorem takeOffset_offsetDigits {minutes : Int}
    (withinDay : minutes.natAbs < 1440) :
    takeOffset (offsetDigits minutes) = .ok (minutes * 60, []) := by
  have hours := takePair_paddedDigits (n := minutes.natAbs / 60) (by omega)
    (paddedDigits 2 (minutes.natAbs % 60))
  have rest := takePair_paddedDigits (n := minutes.natAbs % 60) (by omega) []
  have stops : (paddedDigits 2 (minutes.natAbs % 60)).dropWhile
      (fun c => c == ':' || isBlank c) =
        paddedDigits 2 (minutes.natAbs % 60) := by
    have keeps : ∀ c : Char, c.isDigit = true →
        (c == ':' || isBlank c) = false := by
      intro c isDigit
      rw [isBlank_of_isDigit isDigit, Bool.or_false, beq_eq_false_iff_ne]
      rintro rfl
      cases isDigit
    have kept := dropWhile_paddedDigits keeps (by decide : 0 < 2)
      (n := minutes.natAbs % 60) (by omega) []
    rwa [List.append_nil] at kept
  have short : minutes.natAbs % 60 / 10 < 6 := by omega
  rw [List.append_nil] at rest
  rw [offsetDigits]
  split
  · rename_i negative
    simp only [takeOffset, hours, stops, rest, if_pos short]
    rw [if_pos trivial]
    congr 2
    omega
  · simp only [takeOffset, hours, stops, rest, if_pos short]
    rw [if_neg Bool.false_ne_true]
    congr 2
    omega

end ClusterTrace.Time
