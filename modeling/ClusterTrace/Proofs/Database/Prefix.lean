import ClusterTrace.Database.Like

/-!
# Patterns of beginnings

The pattern of a beginning matches the texts that begin with it in letters of
either case, whatever characters of patterns occur in it,
`isLike_prefixPattern_iff`.
-/

namespace ClusterTrace.Database

theorem patternItems_escapeChar (c : Char) (rest : List Char) :
    patternItems (escapeChar c ++ rest) = .char c :: patternItems rest := by
  unfold escapeChar
  split
  · rw [List.cons_append, List.singleton_append, patternItems]
  · rename_i plain
    simp only [Bool.or_eq_true, decide_eq_true_eq, not_or] at plain
    rw [List.singleton_append, patternItems, if_neg plain.1.2,
      if_neg plain.2]
    intro _ _ backslash
    exact (plain.1.1 backslash).elim

/-- The parts of the pattern of a beginning. -/
theorem patternItems_prefixPattern (beginning : String) :
    patternItems (prefixPattern beginning).toList =
      beginning.toList.map .char ++ [.anyText] := by
  rw [prefixPattern, String.toList_ofList]
  induction beginning.toList with
  | nil => rfl
  | cons c rest ih =>
      rw [List.flatMap_cons, List.append_assoc, patternItems_escapeChar, ih]
      rfl

theorem someEnd_of_nil {accepts : List Char → Bool}
    (accepted : accepts [] = true) (text : List Char) :
    someEnd accepts text = true := by
  induction text with
  | nil => exact accepted
  | cons c rest ih => rw [someEnd, ih, Bool.or_true]

/-- The text with small letters in place of capitals, in ASCII. -/
def lowered (text : String) : List Char :=
  text.toList.map Char.toLower

/-- The induction is on the beginning; what follows it matches any text. -/
theorem matchesItems_prefix_iff (beginning text : List Char) :
    matchesItems (beginning.map .char ++ [.anyText]) text = true ↔
      beginning.map Char.toLower <+: text.map Char.toLower := by
  induction beginning generalizing text with
  | nil =>
      have accepted : matchesItems [.anyText] text = true :=
        someEnd_of_nil rfl text
      simp [accepted]
  | cons c beginning ih =>
      cases text with
      | nil => simp [matchesItems]
      | cons d text =>
          rw [List.map_cons, List.cons_append, matchesItems,
            Bool.and_eq_true, beq_iff_eq, ih, List.map_cons, List.map_cons,
            List.cons_prefix_cons]

theorem isLike_prefixPattern_iff {text beginning : String} :
    isLike (prefixPattern beginning) text = true ↔
      lowered beginning <+: lowered text := by
  rw [isLike, patternItems_prefixPattern, matchesItems_prefix_iff, lowered,
    lowered]

theorem isLike_prefixPattern {text beginning : String}
    (begins : text.startsWith beginning = true) :
    isLike (prefixPattern beginning) text = true :=
  isLike_prefixPattern_iff.mpr
    ((String.startsWith_string_iff.mp begins).map Char.toLower)

end ClusterTrace.Database
