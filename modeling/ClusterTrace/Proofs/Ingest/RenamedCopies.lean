import ClusterTrace.Proofs.Ingest.FoundManifests
import ClusterTrace.Proofs.Ingest.Globs
import ClusterTrace.Proofs.Ingest.NumberedPaths

/-!
# Renamed copies

A file that gets a numbered name is still found for the pattern that its own
name matches: either the numbered name matches too, or the name that it had can
be read off it, `copies_accepted_and_read_back`.
-/

namespace ClusterTrace.Ingest

open ClusterTrace.Path (EndsIn)

variable {path name : String} {before : List String} {stem : List Char}
  {pattern : NamePattern} {patterns : List NamePattern} {count : Nat}

/-! ## Names without a number -/

/-- The stem does not end in a mark with something after it that reads as a
number. -/
def IsUnnumbered (stem : List Char) : Prop :=
  ∀ base suffix, stem = base ++ '_' :: suffix → readIndex? suffix = none

theorem readIndex?_of_mem_mark {suffix : List Char} (marked : '_' ∈ suffix) :
    readIndex? suffix = none := by
  have refused : ∀ digits : List Char, '_' ∈ digits →
      (digits.isEmpty || !digits.all Char.isDigit) = true := by
    intro digits member
    rw [Bool.or_eq_true, Bool.not_eq_true', List.all_eq_false]
    exact .inr ⟨'_', member, by decide⟩
  rw [readIndex?.eq_def]
  dsimp only
  split
  · rename_i rest
    rw [List.mem_cons, or_iff_right (by decide)] at marked
    rw [if_pos (refused rest marked)]
  · rw [if_pos (refused suffix marked)]

theorem isUnnumbered_iff : IsUnnumbered stem ↔
    (Path.splitLast? '_' stem).all (fun parts =>
      (readIndex? parts.2).isNone) = true := by
  constructor
  · intro unnumbered
    cases found : Path.splitLast? '_' stem with
    | none => rfl
    | some parts =>
        rw [Option.all_some, Option.isNone_iff_eq_none]
        exact unnumbered parts.1 parts.2 (Path.eq_of_splitLast? found)
  · rintro unread base suffix rfl
    by_cases marked : '_' ∈ suffix
    · exact readIndex?_of_mem_mark marked
    · rwa [Path.splitLast?_append marked, Option.all_some,
        Option.isNone_iff_eq_none] at unread

instance (stem : List Char) : Decidable (IsUnnumbered stem) :=
  decidable_of_iff _ isUnnumbered_iff.symm

theorem bumpStem_of_unnumbered (unnumbered : IsUnnumbered stem) :
    bumpStem stem = numbered stem 1 := by
  rw [bumpStem]
  split
  · rename_i base suffix found
    rw [unnumbered base suffix (Path.eq_of_splitLast? found)]
  · rfl

/-- The numbers count up from one as long as they fit. -/
theorem bumpStem_iterate (unnumbered : IsUnnumbered stem) {count : Nat}
    (fits : count + 1 < Word.limit 64) :
    bumpStem^[count + 1] stem = numbered stem (count + 1) := by
  rw [Function.iterate_succ_apply, bumpStem_of_unnumbered unnumbered,
    bumpStem_iterate_numbered stem (by decide), Nat.add_comm 1,
    Nat.mod_eq_of_lt fits]

theorem stem_ne_nil (named : name ≠ "") :
    (Path.stemAndExtension name.toList).1 ≠ [] := by
  rw [Path.stemAndExtension]
  split
  · exact List.cons_ne_nil _ _
  · exact fun isEmpty => named (String.toList_eq_nil_iff.mp isEmpty)

/-- The name before a numbering is read off the numbered name. -/
theorem nameBeforeRename?_iterate (named : name ≠ "")
    (unnumbered : IsUnnumbered (Path.stemAndExtension name.toList).1)
    (given : 1 ≤ count) (fits : count < Word.limit 64) :
    nameBeforeRename? (bumpName^[count] name) = some name := by
  obtain ⟨count, rfl⟩ := Nat.exists_eq_add_of_le' given
  rw [nameBeforeRename?_eq_some_iff]
  refine ⟨(Path.stemAndExtension name.toList).1, (toString (count + 1)).toList,
    (Path.stemAndExtension name.toList).2, ?_, stem_ne_nil named, ?_, ?_, ?_⟩
  · rw [stemAndExtension_iterate,
      bumpStem_iterate unnumbered fits, numbered]
  · rw [Nat.toString_eq_repr, Nat.toList_repr]
    exact Nat.toDigits_ne_nil
  · exact fun c => isDigit_of_mem_toString
  · rw [Path.ofStem_stemAndExtension, String.ofList_toList]

/-! ## Patterns -/

/-- The pattern asks for a name without a number, or for any name with an
extension. -/
def NamePattern.keepsCopies : NamePattern → Bool
  | .exactly name => decide (IsUnnumbered (Path.stemAndExtension name.toList).1)
  | .any => true
  | .ending suffix =>
      match suffix.toList with
      | '.' :: extension =>
          '.' ∉ extension &&
            decide (IsUnnumbered (Path.stemAndExtension suffix.toList).1)
      | _ => false

/-- The pattern asks for the name of a file. -/
def NamePattern.asksForName (pattern : NamePattern) : Bool :=
  !pattern.accepts "" && !pattern.accepts "." && !pattern.accepts ".."

/-- An extension outlasts the numbering of what is in front of it. -/
theorem endsWith_iterate {suffix : String} {front extension : List Char}
    (isSuffix : suffix.toList = '.' :: extension) (noDot : '.' ∉ extension)
    (isName : name.toList = front ++ '.' :: extension) (named : front ≠ [])
    (count : Nat) : (bumpName^[count] name).endsWith suffix = true := by
  have split := stemAndExtension_iterate name count
  rw [isName, Path.stemAndExtension_append noDot named] at split
  have whole := Path.ofStem_stemAndExtension (bumpName^[count] name).toList
  rw [split] at whole
  rw [String.endsWith_eq_endsWith_toSlice, String.Slice.endsWith_string_iff,
    String.copy_toSlice, ← whole, isSuffix]
  exact List.suffix_append _ _

theorem NamePattern.accepts_iterate (keeps : pattern.keepsCopies = true)
    (named : name ≠ "") (accepts : pattern.accepts name = true)
    (fits : count < Word.limit 64) :
    (pattern.accepts (bumpName^[count] name) ||
      (nameBeforeRename? (bumpName^[count] name)).any pattern.accepts) =
        true := by
  rw [Bool.or_eq_true]
  have readBack : IsUnnumbered (Path.stemAndExtension name.toList).1 →
      pattern.accepts (bumpName^[count] name) = true ∨
        (nameBeforeRename? (bumpName^[count] name)).any pattern.accepts =
          true := by
    intro unnumbered
    rcases Nat.eq_zero_or_pos count with rfl | given
    · exact .inl accepts
    · rw [nameBeforeRename?_iterate named unnumbered given fits]
      exact .inr accepts
  cases pattern with
  | any => exact .inl rfl
  | exactly expected =>
      rw [NamePattern.accepts, decide_eq_true_eq] at accepts
      subst accepts
      exact readBack (of_decide_eq_true keeps)
  | ending suffix =>
      rw [NamePattern.keepsCopies] at keeps
      split at keeps
      · rename_i extension isSuffix
        rw [Bool.and_eq_true, decide_eq_true_eq, decide_eq_true_eq] at keeps
        have ends := accepts
        rw [NamePattern.accepts, String.endsWith_eq_endsWith_toSlice,
          String.Slice.endsWith_string_iff, String.copy_toSlice] at ends
        obtain ⟨front, isName⟩ := ends
        by_cases isWhole : front = []
        · rw [isWhole, List.nil_append] at isName
          apply readBack
          rw [← isName]
          exact keeps.2
        · rw [isSuffix] at isName
          exact .inl (endsWith_iterate isSuffix keeps.1 isName.symm isWhole
            count)
      · cases keeps

theorem keepsCopies_of_layouts : ∀ layout ∈ layouts,
    ∀ patterns ∈ layout.allPatterns,
      patterns.getLast?.any (fun last =>
        last.keepsCopies && last.asksForName) = true := by
  decide

/-- A path has a file name if a pattern asks for one. -/
theorem fileName?_of_acceptsRoute (asks : pattern.asksForName = true)
    (accepts : acceptsRoute (patterns ++ [pattern]) (Path.route path) = true) :
    ∃ name, Path.fileName? path = some name ∧ pattern.accepts name = true := by
  rw [NamePattern.asksForName, Bool.and_eq_true, Bool.and_eq_true,
    Bool.not_eq_true', Bool.not_eq_true', Bool.not_eq_true'] at asks
  rw [Path.route] at accepts
  rcases List.eq_nil_or_concat' (Path.components path) with
    isEmpty | ⟨directory, last, isPath⟩
  · rw [isEmpty] at accepts
    cases patterns <;> cases accepts
  rw [isPath, List.map_append, List.map_singleton, acceptsRoute_concat,
    Bool.and_eq_true] at accepts
  rw [Path.fileName?, isPath, List.getLast?_concat]
  cases last with
  | name text => exact ⟨text, rfl, accepts.2⟩
  | root =>
      rw [Path.Component.text, asks.1.1] at accepts
      cases accepts.2
  | current =>
      rw [Path.Component.text, asks.1.2] at accepts
      cases accepts.2
  | parent =>
      rw [Path.Component.text, asks.2] at accepts
      cases accepts.2

/-! ## Paths -/

theorem route_iterate (ends : EndsIn path before name) (count : Nat) :
    Path.route (bumpPath^[count] path) =
      (Path.leading before).map Path.Component.text ++
        [bumpName^[count] name] := by
  rw [Path.route, components_iterate ends, List.map_append]
  rfl

theorem ne_empty_of_endsIn (ends : EndsIn path before name) : name ≠ "" := by
  rintro rfl
  have notIdle := ends.plain.1
  cases notIdle

theorem acceptsCopy_iterate (keeps : pattern.keepsCopies = true)
    (asks : pattern.asksForName = true)
    (accepts : acceptsRoute (patterns ++ [pattern]) (Path.route path) = true)
    (fits : count < Word.limit 64) :
    acceptsCopy (patterns ++ [pattern])
      (Path.route (bumpPath^[count] path)) = true := by
  obtain ⟨name, named, acceptsName⟩ := fileName?_of_acceptsRoute asks accepts
  obtain ⟨before, ends⟩ := Path.exists_endsIn named
  rw [ends.route, acceptsRoute_concat, Bool.and_eq_true] at accepts
  rw [route_iterate ends, acceptsCopy_concat, Bool.and_eq_true]
  exact ⟨accepts.1, NamePattern.accepts_iterate keeps
    (ne_empty_of_endsIn ends) acceptsName fits⟩

theorem routeBeforeRename?_iterate (ends : EndsIn path before name)
    (unnumbered : IsUnnumbered (Path.stemAndExtension name.toList).1)
    (given : 1 ≤ count) (fits : count < Word.limit 64) :
    routeBeforeRename? (Path.route (bumpPath^[count] path)) =
      some (Path.route path) := by
  rw [route_iterate ends, routeBeforeRename?, List.getLast?_concat,
    Option.bind_some, List.dropLast_concat,
    nameBeforeRename?_iterate (ne_empty_of_endsIn ends) unnumbered given fits,
    ends.route]
  rfl

/-- However often a file is numbered that a layout finds by its own name, the
layout finds it.  And the name is read back that an unnumbered file had. -/
theorem copies_accepted_and_read_back :
    (∀ layout ∈ layouts, ∀ patterns ∈ layout.allPatterns, ∀ path,
      acceptsRoute patterns (Path.route path) = true →
      ∀ count < Word.limit 64,
        acceptsCopy patterns (Path.route (bumpPath^[count] path)) = true) ∧
    ∀ path name, Path.fileName? path = some name →
      IsUnnumbered (Path.stemAndExtension name.toList).1 →
      ∀ count, 1 ≤ count → count < Word.limit 64 →
        routeBeforeRename? (Path.route (bumpPath^[count] path)) =
          some (Path.route path) := by
  constructor
  · intro layout isLayout patterns isPatterns path accepts count fits
    have ofLast := keepsCopies_of_layouts layout isLayout patterns isPatterns
    rcases List.eq_nil_or_concat' patterns with
      rfl | ⟨patterns, pattern, rfl⟩
    · cases ofLast
    rw [List.getLast?_concat, Option.any_some, Bool.and_eq_true] at ofLast
    exact acceptsCopy_iterate ofLast.1 ofLast.2 accepts fits
  · intro path name named unnumbered count given fits
    obtain ⟨before, ends⟩ := Path.exists_endsIn named
    exact routeBeforeRename?_iterate ends unnumbered given fits

theorem copies_accepted_and_read_back_pods :
    acceptsRoute podLayout.fallback
        (Path.route "namespaces/vms/core/pods.yaml") = true ∧
      acceptsCopy podLayout.fallback
        (Path.route (bumpPath^[3] "namespaces/vms/core/pods.yaml")) = true ∧
      IsUnnumbered "pods".toList ∧
      routeBeforeRename?
          (Path.route (bumpPath^[3] "namespaces/vms/core/pods.yaml")) =
        some ["namespaces", "vms", "core", "pods.yaml"] := by
  have matched : acceptsRoute podLayout.fallback
      (Path.route "namespaces/vms/core/pods.yaml") = true := by
    decide
  have named : Path.fileName? "namespaces/vms/core/pods.yaml" =
      some "pods.yaml" := by
    decide
  have isRoute : Path.route "namespaces/vms/core/pods.yaml" =
      ["namespaces", "vms", "core", "pods.yaml"] := by
    decide
  have unnumbered : IsUnnumbered "pods".toList := by
    decide
  refine ⟨matched, ?_, unnumbered, ?_⟩
  · exact copies_accepted_and_read_back.1 podLayout List.mem_cons_self
      podLayout.fallback (List.mem_cons_of_mem _ List.mem_cons_self) _ matched 3
      (by decide)
  · rw [← isRoute]
    exact copies_accepted_and_read_back.2 _ _ named unnumbered 3 (by decide)
      (by decide)

end ClusterTrace.Ingest
