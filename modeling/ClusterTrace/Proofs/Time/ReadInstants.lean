import ClusterTrace.Proofs.Time.ColumnIdentity
import ClusterTrace.Time.Pattern

/-!
# Instants that are read

The instants of documents are proper, `isProper_of_parse`: seconds are read up
to the sixtieth, fractions have nine digits at most, and offsets are whole
minutes.
-/

namespace ClusterTrace.Time

/-! ## Numbers -/

theorem digitsValue_lt {digits : List Char}
    (areDigits : ∀ c ∈ digits, c.isDigit = true) :
    digitsValue digits < 10 ^ digits.length := by
  have bound : ∀ n, digits.foldl (fun n d => n * 10 + (d.toNat - '0'.toNat)) n <
      (n + 1) * 10 ^ digits.length := by
    induction digits with
    | nil => simp
    | cons c rest induction =>
        intro n
        rw [List.forall_mem_cons] at areDigits
        have digit : c.toNat - '0'.toNat ≤ 9 := by
          have isDigit := areDigits.1
          rw [Char.isDigit, Bool.and_eq_true, decide_eq_true_iff] at isDigit
          have upper : c.toNat ≤ 57 := of_decide_eq_true isDigit.2
          exact Nat.sub_le_iff_le_add.mpr upper
        rw [List.foldl_cons, List.length_cons, Nat.pow_succ']
        refine (induction areDigits.2 _).trans_le ?_
        rw [← Nat.mul_assoc]
        exact Nat.mul_le_mul_right _ (by omega)
  simpa [digitsValue] using bound 0

/-- A number is read from at most so many digits, which are left out of the
rest. -/
theorem takeNumber_eq_ok {limit n : Nat} {text rest : List Char}
    (taken : takeNumber limit text = .ok (n, rest)) :
    text.length - rest.length ≤ limit ∧
      n < 10 ^ (text.length - rest.length) := by
  cases text with
  | nil => cases taken
  | cons c text =>
      rw [takeNumber] at taken
      split at taken
      · dsimp only at taken
        split at taken
        · cases taken
          have taken := (List.takeWhile_sublist Char.isDigit
            (l := (c :: text).take limit)).length_le
          have within := taken.trans (List.length_take_le' limit (c :: text))
          rw [List.length_drop, Nat.sub_sub_self within]
          refine ⟨taken.trans (List.length_take_le limit _), digitsValue_lt ?_⟩
          exact List.all_eq_true.mp List.all_takeWhile
        · cases taken
      · cases taken

theorem takeBounded_eq_ok {low high n : Nat} {text rest : List Char}
    (taken : takeBounded low high text = .ok (n, rest)) : n ≤ high := by
  rw [takeBounded] at taken
  split at taken
  · split at taken
    · rename_i bounds
      cases taken
      exact bounds.2
    · cases taken
  · cases taken

theorem takeFraction_eq_ok {n : Nat} {text rest : List Char}
    (taken : takeFraction text = .ok (n, rest)) :
    n < Instant.nanosPerSecond := by
  rw [takeFraction] at taken
  split at taken
  · rename_i value rest' number
    cases taken
    obtain ⟨short, small⟩ := takeNumber_eq_ok number
    have positive : 0 < 10 ^ (9 - (text.length - rest'.length)) :=
      Nat.pow_pos (by decide)
    calc value * 10 ^ (9 - (text.length - rest'.length))
        < 10 ^ (text.length - rest'.length) *
            10 ^ (9 - (text.length - rest'.length)) :=
          Nat.mul_lt_mul_of_pos_right small positive
      _ = 10 ^ 9 := by rw [← Nat.pow_add, Nat.add_sub_cancel' short]
  · cases taken

theorem takeOffset_eq_ok {offset : Int} {text rest : List Char}
    (taken : takeOffset text = .ok (offset, rest)) : offset % 60 = 0 := by
  unfold takeOffset at taken
  extract_lets signed at taken
  clear_value signed
  split at taken
  · cases taken
  split at taken
  · cases taken
  split at taken
  · cases taken
  split at taken
  · cases taken
    split <;> omega
  · cases taken

theorem takeZone_eq_ok {offset : Int} {text rest : List Char}
    (taken : takeZone text = .ok (offset, rest)) : offset % 60 = 0 := by
  unfold takeZone at taken
  split at taken
  · cases taken
    rfl
  split at taken
  · cases taken
    rfl
  · cases taken
    rfl
  · exact takeOffset_eq_ok taken

/-! ## Fields -/

/-- The fields name a second of a minute and a fraction, apart from the hour. -/
structure Fields.IsInMinute (fields : Fields) : Prop where
  second_le : fields.second ≤ 60
  nanos_lt : fields.nanos < Instant.nanosPerSecond
  offset_mod : fields.offset % 60 = 0

theorem map_eq_ok {ε α β : Type} {outcome : Except ε α} {f : α → β} {result : β}
    (given : outcome.map f = .ok result) :
    ∃ value, outcome = .ok value ∧ f value = result := by
  cases outcome with
  | error cause => cases given
  | ok value =>
      cases given
      exact ⟨value, rfl, rfl⟩

theorem Fields.IsInMinute.read {item : Item} {fields fields' : Fields}
    {text rest : List Char} (inMinute : fields.IsInMinute)
    (read : item.read fields text = .ok (fields', rest)) :
    fields'.IsInMinute := by
  obtain ⟨second, nanos, offset⟩ := inMinute
  cases item with
  | second =>
      rw [Item.read] at read
      obtain ⟨⟨n, left⟩, taken, same⟩ := map_eq_ok read
      cases same
      exact ⟨takeBounded_eq_ok taken, nanos, offset⟩
  | offset =>
      rw [Item.read] at read
      obtain ⟨⟨n, left⟩, taken, same⟩ := map_eq_ok read
      cases same
      exact ⟨second, nanos, takeOffset_eq_ok taken⟩
  | fraction =>
      unfold Item.read at read
      dsimp only at read
      split at read
      · obtain ⟨⟨n, left⟩, taken, same⟩ := map_eq_ok read
        cases same
        exact ⟨second, takeFraction_eq_ok taken, offset⟩
      · cases read
        exact ⟨second, nanos, offset⟩
  | blanks =>
      cases read
      exact ⟨second, nanos, offset⟩
  | mark c =>
      unfold Item.read at read
      dsimp only at read
      split at read
      · cases read
      · split at read
        · cases read
          exact ⟨second, nanos, offset⟩
        · cases read
  | _ =>
      rw [Item.read] at read
      obtain ⟨⟨n, left⟩, taken, same⟩ := map_eq_ok read
      cases same
      exact ⟨second, nanos, offset⟩

theorem Fields.IsInMinute.readItems {items : List Item}
    {fields fields' : Fields} {text rest : List Char}
    (inMinute : fields.IsInMinute)
    (read : readItems items fields text = .ok (fields', rest)) :
    fields'.IsInMinute := by
  induction items generalizing fields text with
  | nil =>
      cases read
      exact inMinute
  | cons item items induction =>
      rw [Time.readItems] at read
      split at read
      · rename_i first
        exact induction (inMinute.read first) read
      · cases read

/-- The second before a leap second is the last one of its minute, as offsets
are whole minutes. -/
theorem Fields.IsInMinute.isProper {fields : Fields} {instant : Instant}
    (inMinute : fields.IsInMinute) (named : fields.toInstant = .ok instant) :
    instant.IsProper := by
  obtain ⟨second, nanos, offset⟩ := inMinute
  rw [Fields.toInstant] at named
  split at named
  · cases named
  split at named
  · cases named
  dsimp only at named
  split at named
  · cases named
    unfold Instant.IsProper
    unfold Instant.nanosPerSecond at *
    dsimp only
    rcases (by omega : fields.second / 60 = 0 ∨ fields.second = 60) with
      noLeap | isLeap
    · omega
    · rw [isLeap]
      omega
  · cases named

theorem isProper_of_parse {text : String} {instant : Instant}
    (parsed : Instant.parse text = .ok instant) : instant.IsProper := by
  have start : Fields.IsInMinute {} := ⟨by decide, by decide, by decide⟩
  rw [Instant.parse] at parsed
  split at parsed
  · cases parsed
  rename_i fields rest date
  split at parsed
  · cases parsed
  split at parsed
  · split at parsed
    · cases parsed
    rename_i clock
    split at parsed
    · cases parsed
    rename_i zone
    split at parsed
    · obtain ⟨second, nanos, -⟩ := (start.readItems date).readItems clock
      refine Fields.IsInMinute.isProper ?_ parsed
      exact ⟨second, nanos, takeZone_eq_ok zone⟩
    · cases parsed
  · cases parsed

end ClusterTrace.Time
