import ClusterTrace.Proofs.Text.Dots
import Mathlib.Data.List.TakeWhile

/-!
# Encoded text

Every character is read back from the octets in which it is encoded, whatever
follows them.  So a text is what its octets decode to, `decode?_encode`.
-/

namespace ClusterTrace.Text.Utf8

/-! ## Octets of a text -/

theorem toList_loop (octets : ByteArray) (start : Nat) (taken : List UInt8) :
    ByteArray.toList.loop octets start taken =
      taken.reverse ++ octets.data.toList.drop start := by
  fun_induction ByteArray.toList.loop octets start taken with
  | case1 start taken inside induction =>
      have isIndex : start < octets.data.toList.length := by
        simpa using inside
      rw [induction, List.drop_eq_getElem_cons isIndex]
      simp [ByteArray.get!, inside]
  | case2 start taken outside =>
      rw [List.drop_eq_nil_of_le (by simpa using Nat.le_of_not_lt outside)]
      simp

theorem encode_eq (text : String) :
    encode text = text.toList.flatMap String.utf8EncodeChar := by
  rw [encode, ByteArray.toList, toList_loop, String.toUTF8,
    ← String.utf8Encode_toList, List.utf8Encode, List.toList_data_toByteArray]
  rfl

/-! ## Octets of a character -/

theorem continuation_append {first second : UInt8} {tail rest : List UInt8}
    (wide : width first = tail.length + 2)
    (fits : isSecond first second = true)
    (continues : ∀ octet ∈ tail, isContinuation octet = true) :
    continuation first (second :: tail ++ rest) = second :: tail := by
  have isWide : decide (1 < width first) = true := by
    rw [wide]
    exact decide_eq_true (by omega)
  rw [List.cons_append, continuation, isWide, fits, wide]
  simp only [Bool.and_self, if_true, Nat.add_sub_cancel, List.take_left,
    List.cons.injEq, true_and]
  rw [List.takeWhile_eq_self_iff]
  exact continues

/-- A character of several octets. -/
theorem readAll_cons {first second : UInt8} {tail rest : List UInt8}
    (wide : width first = tail.length + 2)
    (fits : isSecond first second = true)
    (continues : ∀ octet ∈ tail, isContinuation octet = true) :
    readAll (first :: second :: tail ++ rest) =
      some (Char.ofNat (codePoint first (second :: tail))) :: readAll rest := by
  have later : continuation first (second :: tail ++ rest) = second :: tail :=
    continuation_append wide fits continues
  have whole : (second :: tail).length + 1 = width first := wide.symm
  rw [List.cons_append, readAll, later, if_pos whole, List.drop_left]

/-- What the second octet of a character has to be. -/
theorem isSecond_of_bounds {first second : UInt8}
    (least : 0x80 ≤ second.toNat) (most : second.toNat ≤ 0xBF)
    (afterE0 : first.toNat = 0xE0 → 0xA0 ≤ second.toNat)
    (afterED : first.toNat = 0xED → second.toNat ≤ 0x9F)
    (afterF0 : first.toNat = 0xF0 → 0x90 ≤ second.toNat)
    (afterF4 : first.toNat = 0xF4 → second.toNat ≤ 0x8F) :
    isSecond first second = true := by
  simp only [isSecond, Bool.and_eq_true, decide_eq_true_eq,
    UInt8.le_iff_toNat_le, ← UInt8.toNat_inj, UInt8.reduceToNat,
    apply_ite UInt8.toNat]
  constructor <;> split <;> try split
  all_goals omega

section

variable {first : UInt8} (second third fourth : UInt8)

theorem codePoint_of_width_two (wide : width first = 2) :
    codePoint first [second] =
      first.toNat % 0x20 * 64 + second.toNat % 64 := by
  rw [codePoint, wide]
  rfl

theorem codePoint_of_width_three (wide : width first = 3) :
    codePoint first [second, third] =
      (first.toNat % 0x10 * 64 + second.toNat % 64) * 64 +
        third.toNat % 64 := by
  rw [codePoint, wide]
  rfl

theorem codePoint_of_width_four (wide : width first = 4) :
    codePoint first [second, third, fourth] =
      ((first.toNat % 0x08 * 64 + second.toNat % 64) * 64 +
        third.toNat % 64) * 64 + fourth.toNat % 64 := by
  rw [codePoint, wide]
  rfl

end

theorem isContinuation_ofNat (bits : Nat) :
    isContinuation (UInt8.ofNat (bits % 64 + 128)) = true := by
  simp only [isContinuation, Bool.and_eq_true, decide_eq_true_eq,
    UInt8.le_iff_toNat_le, UInt8.reduceToNat, UInt8.toNat_ofNat']
  omega

theorem width_ofNat_two {bits : Nat} (least : 2 ≤ bits) (most : bits < 32) :
    width (UInt8.ofNat (bits + 192)) = 2 := by
  simp only [width, UInt8.lt_iff_toNat_lt, UInt8.reduceToNat,
    UInt8.toNat_ofNat']
  repeat' split
  all_goals omega

theorem width_ofNat_three {bits : Nat} (most : bits < 16) :
    width (UInt8.ofNat (bits + 224)) = 3 := by
  simp only [width, UInt8.lt_iff_toNat_lt, UInt8.reduceToNat,
    UInt8.toNat_ofNat']
  repeat' split
  all_goals omega

theorem width_ofNat_four {bits : Nat} (most : bits < 5) :
    width (UInt8.ofNat (bits + 240)) = 4 := by
  simp only [width, UInt8.lt_iff_toNat_lt, UInt8.reduceToNat,
    UInt8.toNat_ofNat']
  repeat' split
  all_goals omega

section

variable {value : Nat} (rest : List UInt8)

theorem readAll_one (most : value ≤ 0x7F) :
    readAll ([UInt8.ofNat value] ++ rest) =
      some (Char.ofNat value) :: readAll rest := by
  have octet : (UInt8.ofNat value).toNat = value := by
    rw [UInt8.toNat_ofNat']
    omega
  have single : width (UInt8.ofNat value) = 1 := by
    rw [width, if_pos]
    rw [UInt8.lt_iff_toNat_lt, octet]
    exact Nat.lt_succ_of_le most
  have whole : ([] : List UInt8).length + 1 = width (UInt8.ofNat value) :=
    single.symm
  have point : codePoint (UInt8.ofNat value) [] = value := by
    rw [codePoint, single]
    exact octet
  rw [List.cons_append, List.nil_append, readAll,
    continuation_of_width_le_one (Nat.le_of_eq single), if_pos whole, point]
  rfl

theorem readAll_two (least : 0x80 ≤ value) (most : value ≤ 0x7FF) :
    readAll ([UInt8.ofNat (value / 64 % 32 + 192),
        UInt8.ofNat (value % 64 + 128)] ++ rest) =
      some (Char.ofNat value) :: readAll rest := by
  have wide : width (UInt8.ofNat (value / 64 % 32 + 192)) = 2 :=
    width_ofNat_two (by omega) (by omega)
  have point : codePoint (UInt8.ofNat (value / 64 % 32 + 192))
      [UInt8.ofNat (value % 64 + 128)] = value := by
    simp only [codePoint_of_width_two _ wide, UInt8.toNat_ofNat']
    omega
  rw [readAll_cons wide (isSecond_of_bounds ..) (by simp), point]
  all_goals
    simp only [UInt8.toNat_ofNat']
    omega

theorem readAll_three (least : 0x800 ≤ value) (most : value ≤ 0xFFFF)
    (valid : value < 0xD800 ∨ 0xDFFF < value) :
    readAll ([UInt8.ofNat (value / 4096 % 16 + 224),
        UInt8.ofNat (value / 64 % 64 + 128),
        UInt8.ofNat (value % 64 + 128)] ++ rest) =
      some (Char.ofNat value) :: readAll rest := by
  have wide : width (UInt8.ofNat (value / 4096 % 16 + 224)) = 3 :=
    width_ofNat_three (by omega)
  have point : codePoint (UInt8.ofNat (value / 4096 % 16 + 224))
      [UInt8.ofNat (value / 64 % 64 + 128),
        UInt8.ofNat (value % 64 + 128)] = value := by
    simp only [codePoint_of_width_three _ _ wide, UInt8.toNat_ofNat']
    omega
  have continues : ∀ octet ∈ [UInt8.ofNat (value % 64 + 128)],
      isContinuation octet = true :=
    List.forall_mem_singleton.mpr (isContinuation_ofNat value)
  rw [readAll_cons wide (isSecond_of_bounds ..) continues, point]
  all_goals
    simp only [UInt8.toNat_ofNat']
    omega

theorem readAll_four (least : 0x10000 ≤ value) (most : value < 0x110000) :
    readAll ([UInt8.ofNat (value / 262144 % 8 + 240),
        UInt8.ofNat (value / 4096 % 64 + 128),
        UInt8.ofNat (value / 64 % 64 + 128),
        UInt8.ofNat (value % 64 + 128)] ++ rest) =
      some (Char.ofNat value) :: readAll rest := by
  have wide : width (UInt8.ofNat (value / 262144 % 8 + 240)) = 4 :=
    width_ofNat_four (by omega)
  have point : codePoint (UInt8.ofNat (value / 262144 % 8 + 240))
      [UInt8.ofNat (value / 4096 % 64 + 128),
        UInt8.ofNat (value / 64 % 64 + 128),
        UInt8.ofNat (value % 64 + 128)] = value := by
    simp only [codePoint_of_width_four _ _ _ wide, UInt8.toNat_ofNat']
    omega
  have continues : ∀ octet ∈ [UInt8.ofNat (value / 64 % 64 + 128),
      UInt8.ofNat (value % 64 + 128)], isContinuation octet = true :=
    List.forall_mem_cons.mpr ⟨isContinuation_ofNat (value / 64),
      List.forall_mem_singleton.mpr (isContinuation_ofNat value)⟩
  rw [readAll_cons wide (isSecond_of_bounds ..) continues, point]
  all_goals
    simp only [UInt8.toNat_ofNat']
    omega

end

/-- The cases are the numbers of octets. -/
theorem readAll_utf8EncodeChar (c : Char) (rest : List UInt8) :
    readAll (String.utf8EncodeChar c ++ rest) = some c :: readAll rest := by
  have valid : c.toNat < 0xD800 ∨ 0xDFFF < c.toNat ∧ c.toNat < 0x110000 :=
    c.valid
  have isChar : Char.ofNat c.toNat = c := Char.ofNat_toNat c
  simp only [String.utf8EncodeChar, show c.val.toNat = c.toNat from rfl]
  split
  · rw [readAll_one rest ‹_›, isChar]
  · split
    · rw [readAll_two rest (by omega) ‹_›, isChar]
    · split
      · rw [readAll_three rest (by omega) ‹_› (by omega), isChar]
      · rw [readAll_four rest (by omega) (by omega), isChar]

theorem readAll_flatMap (chars : List Char) :
    readAll (chars.flatMap String.utf8EncodeChar) = chars.map some := by
  induction chars with
  | nil =>
      rw [List.flatMap_nil, readAll]
      rfl
  | cons c chars induction =>
      rw [List.flatMap_cons, readAll_utf8EncodeChar, induction, List.map_cons]

theorem decode?_encode (text : String) : decode? (encode text) = some text := by
  have whole : (text.toList.map some).mapM id = some text.toList := by
    induction text.toList with
    | nil => rfl
    | cons c chars induction => simp [List.mapM_cons, induction]
  rw [decode?, encode_eq, readAll_flatMap, whole, Option.map_some,
    String.ofList_toList]

end ClusterTrace.Text.Utf8
