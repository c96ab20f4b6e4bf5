import ClusterTrace.Ingest.Layout
import ClusterTrace.Proofs.Ingest.Numbering

/-!
# Globs

The patterns of a layout are those of a text in which a star stands for any
characters but slashes, `NamePattern.glob`.  A route matches them one by one if
and only if its names, joined by slashes, match the text as a whole,
`matchesPath_iff_acceptsRoute`.
-/

namespace ClusterTrace.Ingest

/-- A text matches a glob: a star stands for a run of characters without a
slash, and any other character for itself. -/
inductive MatchesGlob : List Char → List Char → Prop where
  | nil : MatchesGlob [] []
  | literal {c : Char} {glob text : List Char} :
      c ≠ '*' → MatchesGlob glob text → MatchesGlob (c :: glob) (c :: text)
  | star {run glob text : List Char} :
      '/' ∉ run → MatchesGlob glob text →
      MatchesGlob ('*' :: glob) (run ++ text)

section Matching

variable {glob text rest later : List Char}

/-- Where there is no star, a text matches only itself. -/
theorem matchesGlob_iff_eq (noStar : '*' ∉ glob) :
    MatchesGlob glob text ↔ text = glob := by
  induction glob generalizing text with
  | nil =>
      constructor
      · rintro ⟨⟩
        rfl
      · rintro rfl
        exact .nil
  | cons c glob ih =>
      rw [List.mem_cons, not_or] at noStar
      constructor
      · intro isMatch
        cases isMatch with
        | literal _ here => rw [(ih noStar.2).mp here]
        | star _ _ => exact (noStar.1 rfl).elim
      · rintro rfl
        exact .literal (Ne.symm noStar.1) ((ih noStar.2).mpr rfl)

theorem matchesGlob_star_iff :
    MatchesGlob ('*' :: glob) text ↔
      ∃ run later, text = run ++ later ∧ '/' ∉ run ∧
        MatchesGlob glob later := by
  constructor
  · intro isMatch
    cases isMatch with
    | literal notStar _ => exact (notStar rfl).elim
    | star noSlash here => exact ⟨_, _, rfl, noSlash, here⟩
  · rintro ⟨run, later, rfl, noSlash, here⟩
    exact .star noSlash here

theorem matchesGlob_literal_iff {c : Char} (notStar : c ≠ '*') :
    MatchesGlob (c :: glob) text ↔
      ∃ later, text = c :: later ∧ MatchesGlob glob later := by
  constructor
  · intro isMatch
    cases isMatch with
    | literal _ here => exact ⟨_, rfl, here⟩
    | star _ _ => exact (notStar rfl).elim
  · rintro ⟨later, rfl, here⟩
    exact .literal notStar here

/-- A text has slashes if the glob that it matches has. -/
theorem MatchesGlob.mem_slash_iff (isMatch : MatchesGlob glob text) :
    '/' ∈ text ↔ '/' ∈ glob := by
  induction isMatch with
  | nil => rfl
  | literal _ _ ih => rw [List.mem_cons, List.mem_cons, ih]
  | star noSlash _ ih => simp [noSlash, ih]

/-- What a star stands for ends before the first slash. -/
theorem exists_of_append_eq {run text later matched : List Char}
    (noSlash : '/' ∉ run) (whole : text ++ '/' :: later = run ++ matched) :
    ∃ between, text = run ++ between ∧ matched = between ++ '/' :: later := by
  rcases List.append_eq_append_iff.mp whole with
    ⟨between, isRun, isLater⟩ | ⟨between, isText, isMatched⟩
  · cases between with
    | nil =>
        rw [List.append_nil] at isRun
        exact ⟨[], by rw [isRun, List.append_nil], isLater.symm⟩
    | cons c between =>
        cases isLater
        rw [isRun] at noSlash
        simp at noSlash
  · exact ⟨between, isText, isMatched⟩

/-- Up to the first slash and after it, a glob is matched for itself. -/
theorem matchesGlob_append_slash_iff (noSlash : '/' ∉ glob)
    (noSlash' : '/' ∉ text) :
    MatchesGlob (glob ++ '/' :: rest) (text ++ '/' :: later) ↔
      MatchesGlob glob text ∧ MatchesGlob rest later := by
  induction glob generalizing text with
  | nil =>
      rw [List.nil_append, matchesGlob_literal_iff (by decide),
        matchesGlob_iff_eq List.not_mem_nil]
      constructor
      · rintro ⟨later', whole, here⟩
        cases text with
        | nil =>
            cases whole
            exact ⟨rfl, here⟩
        | cons c text =>
            cases whole
            exact (noSlash' List.mem_cons_self).elim
      · rintro ⟨rfl, here⟩
        exact ⟨later, rfl, here⟩
  | cons c glob ih =>
      rw [List.mem_cons, not_or] at noSlash
      rw [List.cons_append]
      by_cases isStar : c = '*'
      · subst isStar
        rw [matchesGlob_star_iff, matchesGlob_star_iff]
        constructor
        · rintro ⟨run, matched, whole, noRun, here⟩
          -- The run of the star ends before the slash.
          obtain ⟨between, rfl, rfl⟩ := exists_of_append_eq noRun whole
          rw [List.mem_append, not_or] at noSlash'
          obtain ⟨first, second⟩ := (ih noSlash.2 noSlash'.2).mp here
          exact ⟨⟨run, between, rfl, noRun, first⟩, second⟩
        · rintro ⟨⟨run, between, rfl, noRun, first⟩, second⟩
          rw [List.mem_append, not_or] at noSlash'
          exact ⟨run, between ++ '/' :: later, List.append_assoc .., noRun,
            (ih noSlash.2 noSlash'.2).mpr ⟨first, second⟩⟩
      · rw [matchesGlob_literal_iff isStar, matchesGlob_literal_iff isStar]
        constructor
        · rintro ⟨matched, whole, here⟩
          cases text with
          | nil =>
              cases whole
              exact (noSlash.1 rfl).elim
          | cons d text =>
              cases whole
              rw [List.mem_cons, not_or] at noSlash'
              obtain ⟨first, second⟩ := (ih noSlash.2 noSlash'.2).mp here
              exact ⟨⟨text, rfl, first⟩, second⟩
        · rintro ⟨⟨text, rfl, first⟩, second⟩
          rw [List.mem_cons, not_or] at noSlash'
          exact ⟨text ++ '/' :: later, rfl,
            (ih noSlash.2 noSlash'.2).mpr ⟨first, second⟩⟩

end Matching

/-! ## Globs of patterns -/

/-- The glob of a pattern of names. -/
def NamePattern.glob : NamePattern → String
  | .exactly name => name
  | .any => "*"
  | .ending suffix => "*" ++ suffix

/-- The text that a name or an ending has to be. -/
def NamePattern.fixed : NamePattern → String
  | .exactly name => name
  | .any => ""
  | .ending suffix => suffix

/-- What the pattern asks for has neither stars nor slashes. -/
def NamePattern.IsPlain (pattern : NamePattern) : Prop :=
  '*' ∉ pattern.fixed.toList ∧ '/' ∉ pattern.fixed.toList

instance (pattern : NamePattern) : Decidable pattern.IsPlain :=
  inferInstanceAs (Decidable (_ ∧ _))

/-- The glob of patterns of the names on a route. -/
def globOf (patterns : List NamePattern) : String :=
  "/".intercalate (patterns.map NamePattern.glob)

/-- The names on a route, between slashes. -/
def pathOf (route : Route) : String :=
  "/".intercalate route

variable {pattern : NamePattern} {patterns : List NamePattern} {name : String}
  {names : Route}

theorem NamePattern.IsPlain.noSlash (plain : pattern.IsPlain) :
    '/' ∉ pattern.glob.toList := by
  cases pattern with
  | exactly expected => exact plain.2
  | any => decide
  | ending suffix =>
      rw [glob, String.toList_append, List.mem_append, not_or]
      exact ⟨by decide, plain.2⟩

theorem NamePattern.matchesGlob_iff_accepts (plain : pattern.IsPlain)
    (noSlash : '/' ∉ name.toList) :
    MatchesGlob pattern.glob.toList name.toList ↔
      pattern.accepts name = true := by
  cases pattern with
  | exactly expected =>
      rw [accepts, decide_eq_true_iff, ← String.toList_inj]
      exact matchesGlob_iff_eq plain.1
  | any =>
      have isAll : MatchesGlob (glob .any).toList name.toList := by
        have whole := MatchesGlob.star noSlash .nil
        rwa [List.append_nil] at whole
      exact iff_of_true isAll rfl
  | ending suffix =>
      rw [glob, String.toList_append, accepts,
        String.endsWith_eq_endsWith_toSlice, String.Slice.endsWith_string_iff,
        String.copy_toSlice]
      refine matchesGlob_star_iff.trans ?_
      constructor
      · rintro ⟨run, later, whole, -, here⟩
        rw [(matchesGlob_iff_eq plain.1).mp here] at whole
        exact ⟨run, whole.symm⟩
      · rintro ⟨run, whole⟩
        rw [← whole, List.mem_append, not_or] at noSlash
        exact ⟨run, suffix.toList, whole.symm, noSlash.1,
          (matchesGlob_iff_eq plain.1).mpr rfl⟩

/-! ## Globs of routes -/

theorem toList_intercalate_slash (first second : String)
    (rest : List String) :
    ("/".intercalate (first :: second :: rest)).toList =
      first.toList ++ '/' :: ("/".intercalate (second :: rest)).toList := by
  rw [String.intercalate_cons_cons, String.toList_append,
    String.toList_append, List.append_assoc]
  rfl

/-- The route matches the glob as a path. -/
def MatchesPath (glob : String) (names : Route) : Prop :=
  MatchesGlob glob.toList (pathOf names).toList

/-- A path matches as a whole just if its names match one by one. -/
theorem matchesPath_iff_acceptsRoute (given : patterns ≠ [])
    (plain : ∀ pattern ∈ patterns, pattern.IsPlain) (named : names ≠ [])
    (noSlash : ∀ name ∈ names, '/' ∉ name.toList) :
    MatchesPath (globOf patterns) names ↔
      acceptsRoute patterns names = true := by
  induction patterns generalizing names with
  | nil => exact (given rfl).elim
  | cons pattern patterns ih =>
  cases names with
  | nil => exact (named rfl).elim
  | cons name names =>
  rw [List.forall_mem_cons] at plain noSlash
  rw [acceptsRoute, Bool.and_eq_true,
    ← NamePattern.matchesGlob_iff_accepts plain.1 noSlash.1, MatchesPath,
    globOf, pathOf, List.map_cons]
  cases patterns with
  | nil =>
      rw [List.map_nil, String.intercalate_singleton]
      cases names with
      | nil =>
          rw [String.intercalate_singleton]
          exact (and_iff_left rfl).symm
      | cons second names =>
          rw [toList_intercalate_slash]
          refine iff_of_false (fun isMatch => ?_) (fun both => nomatch both.2)
          exact plain.1.noSlash (isMatch.mem_slash_iff.mp (by simp))
  | cons pattern' patterns =>
      rw [List.map_cons, toList_intercalate_slash]
      cases names with
      | nil =>
          rw [String.intercalate_singleton]
          refine iff_of_false (fun isMatch => ?_) (fun both => nomatch both.2)
          exact noSlash.1 (isMatch.mem_slash_iff.mpr (by simp))
      | cons second names =>
          rw [toList_intercalate_slash,
            matchesGlob_append_slash_iff plain.1.noSlash noSlash.1]
          exact and_congr_right' (ih (List.cons_ne_nil _ _) plain.2
            (List.cons_ne_nil _ _) noSlash.2)

/-! ## Names before a numbering -/

/-- The name is that of a copy: the stem of the old name with a number after an
underscore, and the same extension. -/
def IsNumberedCopy (old name : String) : Prop :=
  ∃ base index extension,
    Path.stemAndExtension name.toList = (base ++ '_' :: index, extension) ∧
    base ≠ [] ∧ index ≠ [] ∧ (∀ c ∈ index, c.isDigit = true) ∧
    old = String.ofList (Path.ofStem base extension)

theorem isNumber_iff {base index : List Char} :
    (base.isEmpty || index.isEmpty || !index.all Char.isDigit) = false ↔
      base ≠ [] ∧ index ≠ [] ∧ ∀ c ∈ index, c.isDigit = true := by
  rw [Bool.or_eq_false_iff, Bool.or_eq_false_iff, List.isEmpty_eq_false_iff,
    List.isEmpty_eq_false_iff, Bool.not_eq_false', List.all_eq_true, and_assoc]

theorem nameBeforeRename?_eq_some_iff {old : String} :
    nameBeforeRename? name = some old ↔ IsNumberedCopy old name := by
  rw [nameBeforeRename?, IsNumberedCopy]
  obtain ⟨stem, extension⟩ := Path.stemAndExtension name.toList
  dsimp only
  constructor
  · intro found
    split at found
    · rename_i base index isSplit
      split at found
      · cases found
      · rename_i isNumber
        rw [Bool.not_eq_true] at isNumber
        obtain ⟨hasBase, hasIndex, digits⟩ := isNumber_iff.mp isNumber
        rw [Path.eq_of_splitLast? isSplit]
        exact ⟨base, index, extension, rfl, hasBase, hasIndex, digits,
          (Option.some.inj found).symm⟩
    · cases found
  · rintro ⟨base, index, extension', isName, hasBase, hasIndex, digits, rfl⟩
    cases isName
    have noMark : '_' ∉ index := fun member =>
      absurd (digits _ member) (by decide)
    rw [Path.splitLast?_append noMark]
    exact if_neg (Bool.eq_false_iff.mp
      (isNumber_iff.mpr ⟨hasBase, hasIndex, digits⟩))

/-- A copy has no character that the old name lacks, but for the number. -/
theorem IsNumberedCopy.noSlash {old : String} (isCopy : IsNumberedCopy old name)
    (noSlash : '/' ∉ name.toList) : '/' ∉ old.toList := by
  obtain ⟨base, index, extension, isName, -, -, -, rfl⟩ := isCopy
  rw [← Path.ofStem_stemAndExtension name.toList, isName] at noSlash
  rw [String.toList_ofList]
  cases extension with
  | none =>
      exact fun member => noSlash (List.mem_append_left _ member)
  | some extension =>
      intro member
      refine noSlash ?_
      rcases List.mem_append.mp member with inBase | later
      · exact List.mem_append_left _ (List.mem_append_left _ inBase)
      · exact List.mem_append_right _ later

/-- The route matches the glob, or the route of the file that it is a copy of
does. -/
def MatchesCopy (glob : String) (names : Route) : Prop :=
  MatchesPath glob names ∨ ∃ directory name old,
    names = directory ++ [name] ∧ IsNumberedCopy old name ∧
      MatchesPath glob (directory ++ [old])

theorem matchesCopy_iff_acceptsCopy (given : patterns ≠ [])
    (plain : ∀ pattern ∈ patterns, pattern.IsPlain) (named : names ≠ [])
    (noSlash : ∀ name ∈ names, '/' ∉ name.toList) :
    MatchesCopy (globOf patterns) names ↔
      acceptsCopy patterns names = true := by
  rw [acceptsCopy, Bool.or_eq_true,
    ← matchesPath_iff_acceptsRoute given plain named noSlash]
  refine or_congr_right ?_
  obtain ⟨directory, name, rfl⟩ :
      ∃ directory name, names = directory ++ [name] :=
    ⟨_, _, (List.dropLast_append_getLast named).symm⟩
  have noSlash' : ∀ old, IsNumberedCopy old name →
      ∀ other ∈ directory ++ [old], '/' ∉ other.toList := by
    intro old isCopy other member
    rcases List.mem_append.mp member with earlier | last
    · exact noSlash other (List.mem_append_left _ earlier)
    · rw [List.mem_singleton.mp last]
      exact isCopy.noSlash (noSlash name (by simp))
  rw [routeBeforeRename?, List.getLast?_concat, Option.bind_some,
    List.dropLast_concat, Option.any_map]
  constructor
  · rintro ⟨directory', name', old, same, isCopy, isMatch⟩
    obtain ⟨rfl, isName⟩ := List.append_inj' same rfl
    cases isName
    rw [nameBeforeRename?_eq_some_iff.mpr isCopy]
    exact (matchesPath_iff_acceptsRoute given plain (List.concat_ne_nil _ _)
      (noSlash' old isCopy)).mp isMatch
  · intro accepted
    cases isOld : nameBeforeRename? name with
    | none =>
        rw [isOld] at accepted
        cases accepted
    | some old =>
        rw [isOld] at accepted
        have isCopy := nameBeforeRename?_eq_some_iff.mp isOld
        exact ⟨directory, name, old, rfl, isCopy,
          (matchesPath_iff_acceptsRoute given plain (List.concat_ne_nil _ _)
            (noSlash' old isCopy)).mpr accepted⟩

end ClusterTrace.Ingest
