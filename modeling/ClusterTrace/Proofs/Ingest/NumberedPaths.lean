import ClusterTrace.Proofs.Files.FileNames
import ClusterTrace.Proofs.Ingest.Numbering

/-!
# Numbered paths

Numbering a path numbers its file name and keeps all that comes before it,
`exists_endsIn_iterate`: the components, the directory and the extension.
-/

namespace ClusterTrace.Ingest

open ClusterTrace.Path (EndsIn IsPlainName)

variable {path name : String} {before : List String}

/-! ## Numbered names -/

/-- Numbering adds no character to a name but digits and the mark. -/
theorem not_mem_bumpName {c : Char} (notDigit : c.isDigit = false)
    (notMark : c ≠ '_') (absent : c ∉ name.toList) :
    c ∉ (bumpName name).toList := by
  obtain ⟨base, index, -, isNumbered, back, whole⟩ :=
    bumpStem_isNumbered (Path.stemAndExtension name.toList).1
  have parts := Path.ofStem_stemAndExtension name.toList
  rw [← parts] at absent
  have notInStem : c ∉ numbered base index := by
    have notInBase : c ∉ base := by
      intro member
      have inStem : c ∈ (Path.stemAndExtension name.toList).1 := by
        rw [← whole]
        exact List.mem_append_left back member
      cases isExtension : (Path.stemAndExtension name.toList).2 with
      | none =>
          rw [isExtension] at absent
          exact absent inStem
      | some extension =>
          rw [isExtension] at absent
          exact absent (List.mem_append_left _ inStem)
    rw [numbered, List.mem_append, List.mem_cons, not_or, not_or]
    exact ⟨notInBase, notMark, not_mem_toString notDigit index⟩
  rw [bumpName, String.toList_ofList, isNumbered]
  cases isExtension : (Path.stemAndExtension name.toList).2 with
  | none => exact notInStem
  | some extension =>
      rw [isExtension] at absent
      rw [Path.ofStem, List.mem_append, not_or] at absent ⊢
      exact ⟨notInStem, absent.2⟩

theorem isPlainName_bumpName (name : String) : IsPlainName (bumpName name) := by
  have marked := mem_bumpName name
  constructor
  · rw [Path.isIdle, Bool.or_eq_false_iff, decide_eq_false_iff_not,
      decide_eq_false_iff_not]
    constructor <;> intro same <;> rw [same] at marked <;> revert marked <;>
      decide
  · intro same
    rw [same] at marked
    revert marked
    decide

/-! ## Numbered paths -/

theorem bumpPath_of_endsIn (ends : EndsIn path before name) :
    bumpPath path = Path.withFileName path (bumpName name) := by
  rw [bumpPath, ends.fileName?, Option.getD_some]

/-- The numbered name comes after the pieces that were before the name, but for
those at their end that lead nowhere. -/
theorem exists_endsIn_iterate (ends : EndsIn path before name) (count : Nat) :
    ∃ before', Path.trimmed before' = Path.trimmed before ∧
      EndsIn (bumpPath^[count] path) before' (bumpName^[count] name) := by
  induction count with
  | zero => exact ⟨before, rfl, ends⟩
  | succ count ih =>
      obtain ⟨before', same, ends'⟩ := ih
      refine ⟨Path.trimmed before', ?_, ?_⟩
      · rw [Path.trimmed_trimmed, same]
      · rw [Function.iterate_succ_apply', Function.iterate_succ_apply',
          bumpPath_of_endsIn ends']
        refine ends'.withFileName (isPlainName_bumpName _) ?_
        exact not_mem_bumpName (by decide) (by decide) ends'.noSlash

theorem fileName?_iterate (ends : EndsIn path before name) (count : Nat) :
    Path.fileName? (bumpPath^[count] path) = some (bumpName^[count] name) := by
  obtain ⟨_, _, ends'⟩ := exists_endsIn_iterate ends count
  exact ends'.fileName?

theorem components_iterate (ends : EndsIn path before name) (count : Nat) :
    Path.components (bumpPath^[count] path) =
      Path.leading before ++ [.name (bumpName^[count] name)] := by
  obtain ⟨before', same, ends'⟩ := exists_endsIn_iterate ends count
  rw [ends'.components, ← Path.leading_trimmed before', same,
    Path.leading_trimmed]

theorem parent?_iterate (ends : EndsIn path before name) (count : Nat) :
    Path.parent? (bumpPath^[count] path) = Path.parent? path := by
  obtain ⟨before', same, ends'⟩ := exists_endsIn_iterate ends count
  rw [ends'.parent?, ends.parent?, ← Path.directoryText_trimmed before', same,
    Path.directoryText_trimmed]

/-- The extension of the file name, if it has one. -/
def extension? (path : String) : Option (List Char) :=
  (Path.fileName? path).bind fun name => (Path.stemAndExtension name.toList).2

theorem extension?_iterate (ends : EndsIn path before name) (count : Nat) :
    extension? (bumpPath^[count] path) = extension? path := by
  rw [extension?, extension?, fileName?_iterate ends, ends.fileName?,
    Option.bind_some, Option.bind_some, stemAndExtension_iterate]

/-- No path comes back before the numbers start again. -/
theorem components_iterate_injOn (ends : EndsIn path before name) :
    Set.InjOn (fun count => Path.components (bumpPath^[count] path))
      (Set.Iio (Word.limit 64)) := by
  intro count inRange count' inRange' same
  dsimp only at same
  rw [components_iterate ends, components_iterate ends,
    List.append_cancel_left_eq, List.singleton_inj, Path.Component.name.injEq]
    at same
  exact bumpName_iterate_injOn name inRange inRange' same

end ClusterTrace.Ingest
