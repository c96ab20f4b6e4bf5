import ClusterTrace.Text.Utf8

/-!
# Dots in octets

Whatever octets hold, a dot is read from the octet of a dot only.  So a text of
nothing but dots has a single form, and so has the empty text.
-/

namespace ClusterTrace.Text.Utf8

theorem continuation_of_width_le_one {first : UInt8} (short : width first ≤ 1)
    (rest : List UInt8) : continuation first rest = [] := by
  cases rest with
  | nil => rfl
  | cons second more =>
      have notLong : decide (1 < width first) = false :=
        decide_eq_false (Nat.not_lt.mpr short)
      rw [continuation, notLong, Bool.false_and]
      rfl

/-- What follows the first octet of a character of more than one. -/
theorem continuation_cases {first : UInt8} {rest : List UInt8}
    (whole : (continuation first rest).length + 1 = width first)
    (long : width first ≠ 1) :
    ∃ second tail, continuation first rest = second :: tail ∧
      isSecond first second = true := by
  cases rest with
  | nil => exact (long whole.symm).elim
  | cons second more =>
      rw [continuation] at whole ⊢
      split
      · rename_i fits
        rw [Bool.and_eq_true] at fits
        exact ⟨second, _, rfl, fits.2⟩
      · rename_i notFits
        rw [if_neg notFits] at whole
        exact (long whole.symm).elim

theorem width_cases (first : UInt8) :
    width first ≤ 1 ∨
      (width first = 2 ∧ 0xC2 ≤ first.toNat ∧ first.toNat < 0xE0) ∨
      (width first = 3 ∧ 0xE0 ≤ first.toNat ∧ first.toNat < 0xF0) ∨
      (width first = 4 ∧ 0xF0 ≤ first.toNat ∧ first.toNat < 0xF5) := by
  simp only [width, UInt8.lt_iff_toNat_lt, UInt8.reduceToNat]
  repeat' split
  all_goals omega

/-- A first octet that says little is followed by one that says enough. -/
theorem le_of_isSecond {first second : UInt8}
    (fits : isSecond first second = true) :
    (first.toNat = 0xE0 → 0xA0 ≤ second.toNat) ∧
      (first.toNat = 0xF0 → 0x90 ≤ second.toNat) ∧
      second.toNat ≤ 0xBF := by
  simp only [isSecond, Bool.and_eq_true, decide_eq_true_eq,
    UInt8.le_iff_toNat_le, ← UInt8.toNat_inj, UInt8.reduceToNat,
    apply_ite UInt8.toNat] at fits
  refine ⟨?_, ?_, ?_⟩
  · intro same
    simpa [same] using fits.1
  · intro same
    simpa [same] using fits.1
  · have most := fits.2
    split at most
    · exact Nat.le_trans most (by decide)
    · split at most
      · exact Nat.le_trans most (by decide)
      · exact most

/-- A character of more than one octet is none of those of one octet. -/
theorem le_codePoint {first : UInt8} {rest : List UInt8}
    (whole : (continuation first rest).length + 1 = width first)
    (long : width first ≠ 1) :
    0x80 ≤ codePoint first (continuation first rest) := by
  obtain ⟨second, tail, isLater, fits⟩ := continuation_cases whole long
  obtain ⟨afterE0, afterF0, most⟩ := le_of_isSecond fits
  rw [isLater, List.length_cons] at whole
  rw [isLater, codePoint]
  rcases width_cases first with short | ⟨two, bounds⟩ | ⟨three, bounds⟩ |
    ⟨four, bounds⟩
  · omega
  · match tail with
    | [] =>
        rw [two]
        simp only [List.foldl_cons, List.foldl_nil]
        have leading : 2 ≤ first.toNat % 0x20 := by omega
        generalize first.toNat % 0x20 = bits at leading ⊢
        omega
    | _ :: _ => rw [two, List.length_cons] at whole; omega
  · match tail with
    | [third] =>
        rw [three]
        simp only [List.foldl_cons, List.foldl_nil]
        have leading : first.toNat = 0xE0 ∨ 1 ≤ first.toNat % 0x10 := by omega
        generalize first.toNat % 0x10 = bits at leading ⊢
        omega
    | [] => rw [three, List.length_nil] at whole; omega
    | _ :: _ :: _ =>
        rw [three, List.length_cons, List.length_cons] at whole
        omega
  · match tail with
    | [third, fourth] =>
        rw [four]
        simp only [List.foldl_cons, List.foldl_nil]
        have leading : first.toNat = 0xF0 ∨ 1 ≤ first.toNat % 0x08 := by omega
        generalize first.toNat % 0x08 = bits at leading ⊢
        omega
    | [] => rw [four, List.length_nil] at whole; omega
    | [_] => rw [four, List.length_singleton] at whole; omega
    | _ :: _ :: _ :: _ =>
        rw [four, List.length_cons, List.length_cons, List.length_cons] at whole
        omega

/-! ## Dots -/

theorem readAll_dot (rest : List UInt8) :
    readAll (0x2E :: rest) = some '.' :: readAll rest := by
  rw [readAll, continuation_of_width_le_one (by decide)]
  rfl

theorem eq_of_ofNat_eq_dot {value : Nat} (isDot : Char.ofNat value = '.') :
    value = 0x2E := by
  by_cases valid : value.isValidChar
  · rw [Char.ofNat, dif_pos valid] at isDot
    have same := congrArg Char.toNat isDot
    exact same
  · rw [Char.ofNat, dif_neg valid] at isDot
    exact absurd isDot (by decide)

/-- No other octet than that of a dot makes a dot. -/
theorem eq_dot_of_readAll {octets : List UInt8} {others : List Char}
    (read : (readAll octets).map (fun char => char.getD '\uFFFD') =
      '.' :: others) :
    ∃ rest, octets = 0x2E :: rest ∧
      (readAll rest).map (fun char => char.getD '\uFFFD') = others := by
  cases octets with
  | nil => rw [readAll] at read; cases read
  | cons first rest =>
      have isDot : first = 0x2E := by
        rw [readAll] at read
        rw [List.map_cons, List.cons.injEq] at read
        split at read
        · rename_i whole
          by_cases short : width first = 1
          · rw [continuation_of_width_le_one (Nat.le_of_eq short), codePoint,
              short] at read
            dsimp only [List.foldl_nil, Option.getD_some] at read
            exact UInt8.toNat_inj.mp (eq_of_ofNat_eq_dot read.1)
          · have large := le_codePoint whole short
            rw [eq_of_ofNat_eq_dot read.1] at large
            exact absurd large (by decide)
        · exact absurd read.1 (by decide)
      subst isDot
      rw [readAll_dot, List.map_cons, List.cons.injEq] at read
      exact ⟨rest, rfl, read.2⟩

theorem eq_replicate_of_decodeLossy {octets : List UInt8} {count : Nat}
    (decoded : decodeLossy octets =
      String.ofList (List.replicate count '.')) :
    octets = List.replicate count 0x2E := by
  have read := String.ofList_injective decoded
  induction count generalizing octets with
  | zero =>
      cases octets with
      | nil => rfl
      | cons first rest =>
          rw [readAll] at read
          cases read
  | succ count induction =>
      obtain ⟨rest, rfl, later⟩ := eq_dot_of_readAll read
      rw [induction (congrArg String.ofList later) later]
      rfl

end ClusterTrace.Text.Utf8
