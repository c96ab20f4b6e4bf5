import ClusterTrace.Proofs.Files.RootedTrees
import ClusterTrace.Proofs.Ingest.NumberedPaths
import Mathlib.Data.Finset.Card

/-!
# Free paths

The numbered paths of a path are beside it, and none comes back before the
numbers start again.  So no more of them are tried than there are paths beside
it, and the first free one is found, whatever the finitely many paths are that
exist, `firstFit_of_fileName`.
-/

namespace ClusterTrace

/-! ## Places of numbered paths -/

namespace FileTree

/-- The places of the files and directories in a directory. -/
def children (tree : FileTree) (directory : Route) : List Route :=
  tree.entries.keys.filter fun route =>
    route ≠ [] && route.dropLast = directory

theorem foldl_step_trimmed (before : List String) (route : Route) :
    (Path.trimmed before).foldl step route = before.foldl step route := by
  cases before with
  | nil => rfl
  | cons first rest =>
      have whole : rest.rdropWhile Path.isIdle ++ rest.rtakeWhile Path.isIdle =
          rest := List.rdropWhile_append_rtakeWhile
      conv_rhs => rw [← whole]
      rw [Path.trimmed, List.foldl_cons, List.foldl_cons, List.foldl_append,
        foldl_step_of_isIdle fun piece => List.mem_rtakeWhile_imp]

end FileTree

namespace Disk

variable {path name : String} {before : List String}

/-- The first free path, of the path and its numbered ones. -/
def freePath (disk : Disk) (path : String) : String :=
  Ingest.firstFree disk.has Ingest.bumpPath (disk.tree.entries.length + 1) path

theorem has_place {disk : Disk} (there : disk.has path = true) :
    disk.tree.has (disk.place path) = true := by
  rw [has, canonical?] at there
  split at there
  · rename_i route located
    rw [place_of_locate located] at there
    by_contra missing
    rw [if_neg missing] at there
    cases there
  · cases there

theorem place_of_endsIn (ends : Path.EndsIn path before name) (disk : Disk) :
    disk.place path =
      before.foldl FileTree.step (disk.start path) ++ [name] := by
  obtain ⟨idle, isPath, areIdle⟩ := ends.pieces
  rw [place, isPath, List.foldl_append, List.foldl_cons,
    FileTree.step_of_isPlainName ends.plain,
    FileTree.foldl_step_of_isIdle areIdle]

theorem place_iterate (ends : Path.EndsIn path before name) (disk : Disk)
    (count : Nat) :
    disk.place (Ingest.bumpPath^[count] path) =
      (disk.place path).dropLast ++ [Ingest.bumpName^[count] name] := by
  obtain ⟨before', same, ends'⟩ := Ingest.exists_endsIn_iterate ends count
  have sameStart : disk.start (Ingest.bumpPath^[count] path) =
      disk.start path := by
    have sameRoot : Path.isAbsolute (Ingest.bumpPath^[count] path) =
        Path.isAbsolute path := by
      rw [Bool.eq_iff_iff, ends'.isAbsolute_iff, ends.isAbsolute_iff,
        ← Path.head?_trimmed before', same, Path.head?_trimmed]
    rw [start, start, sameRoot]
  rw [place_of_endsIn ends', place_of_endsIn ends, List.dropLast_concat,
    sameStart, ← FileTree.foldl_step_trimmed before', same,
    FileTree.foldl_step_trimmed]

end Disk

namespace Ingest

open ClusterTrace.Path (EndsIn)

variable {path name found : String} {before : List String}
  {isTaken : String → Bool} {most : Nat}

/-! ## The first free path -/

/-- A path is free, and it is the given one or a numbered one before which none
is free.  No more than so many paths are tried before it. -/
structure IsFirstFit (isTaken : String → Bool) (path found : String)
    (most : Nat) : Prop where
  free : isTaken found = false
  numbered : ∃ count ≤ most, found = bumpPath^[count] path ∧
    ∀ earlier < count, isTaken (bumpPath^[earlier] path) = true
  eq_iff : found = path ↔ isTaken path = false

/-- All of the paths are taken that come before the numbers start again. -/
def IsExhausted (isTaken : String → Bool) (path : String) : Prop :=
  ∀ count < Word.limit 64, isTaken (bumpPath^[count] path) = true

/-- The first free path is found before the numbers start again, or as many
paths are taken as there are numbers. -/
structure FindsFirstFit (isTaken : String → Bool) (path found : String)
    (most : Nat) : Prop where
  fits : ¬ IsExhausted isTaken path → IsFirstFit isTaken path found most
  taken : IsExhausted isTaken path → Word.limit 64 ≤ most

theorem FindsFirstFit.of_lt (finds : FindsFirstFit isTaken path found most)
    (few : most < Word.limit 64) : IsFirstFit isTaken path found most :=
  finds.fits fun exhausted => (finds.taken exhausted).not_gt few

theorem findsFirstFit_of_known {α : Type} {known : List α} {limit : Nat}
    (place : String → α)
    (distinct : Set.InjOn (fun count => place (bumpPath^[count] path))
      (Set.Iio (Word.limit 64)))
    (isKnown : ∀ count, isTaken (bumpPath^[count] path) = true →
      place (bumpPath^[count] path) ∈ known)
    (enough : known.length ≤ limit) :
    FindsFirstFit isTaken path (firstFree isTaken bumpPath limit path)
      known.length := by
  constructor
  case taken => exact le_length_of_taken distinct isKnown le_rfl
  case fits =>
    intro someFree
    simp only [IsExhausted, not_forall, Bool.not_eq_true] at someFree
    obtain ⟨least, inTime, isFree⟩ := someFree
    obtain ⟨count, inRange, found, free, before⟩ := exists_firstFree isTaken
      place distinct isKnown enough ⟨least, inTime, isFree⟩
    rw [found]
    refine ⟨free, ⟨count, inRange, rfl, before⟩, ?_, ?_⟩
    · intro same
      rwa [same] at free
    · intro isFree
      cases count with
      | zero => rfl
      | succ count =>
          have taken := before 0 (Nat.zero_lt_succ count)
          rw [Function.iterate_zero_apply, isFree] at taken
          cases taken

/-- The components lead to a name in the directory of others. -/
def isBeside (path other : List Path.Component) : Bool :=
  match other.getLast? with
  | some (.name _) => other.dropLast = path.dropLast
  | _ => false

/-- The paths beside a path among those that exist. -/
def siblings (existing : Finset (List Path.Component)) (path : String) :
    Finset (List Path.Component) :=
  existing.filter fun other => isBeside (Path.components path) other

theorem isBeside_iterate (ends : EndsIn path before name) (count : Nat) :
    isBeside (Path.components path)
      (Path.components (bumpPath^[count] path)) = true := by
  rw [isBeside, components_iterate ends, ends.components]
  simp

theorem findsFirstFit_of_siblings (ends : EndsIn path before name)
    {existing : Finset (List Path.Component)} {limit : Nat}
    (enough : (siblings existing path).card ≤ limit) :
    FindsFirstFit (fun other => Path.components other ∈ existing) path
      (firstFree (fun other => Path.components other ∈ existing) bumpPath limit
        path)
      (siblings existing path).card := by
  rw [← Finset.length_toList] at enough ⊢
  apply findsFirstFit_of_known Path.components
    (components_iterate_injOn ends) _ enough
  intro count taken
  rw [Finset.mem_toList, siblings, Finset.mem_filter]
  exact ⟨of_decide_eq_true taken, isBeside_iterate ends count⟩

theorem findsFirstFit_freePath (ends : EndsIn path before name) (disk : Disk) :
    FindsFirstFit disk.has path (disk.freePath path)
      (disk.tree.children (disk.place path).dropLast).length := by
  have distinct : Set.InjOn (fun count => disk.place (bumpPath^[count] path))
      (Set.Iio (Word.limit 64)) := by
    intro count inRange count' inRange' same
    dsimp only at same
    rw [disk.place_iterate ends, disk.place_iterate ends,
      List.append_cancel_left_eq, List.singleton_inj] at same
    exact bumpName_iterate_injOn name inRange inRange' same
  apply findsFirstFit_of_known disk.place distinct
  · intro count taken
    have there := Disk.has_place taken
    rw [disk.place_iterate ends] at there ⊢
    have isKey := mem_keys_of_has (List.concat_ne_nil _ _) there
    rw [FileTree.children, List.mem_filter]
    exact ⟨isKey, by simp⟩
  · have inTree := List.length_filter_le (fun route =>
      route ≠ [] && route.dropLast = (disk.place path).dropLast)
      disk.tree.entries.keys
    rw [Assoc.length_keys] at inTree
    exact inTree.trans (Nat.le_succ _)

/-- Numbering a path does not come back to an earlier path before the numbers
start again, stays in its directory and keeps its extension.  So the first free
path is found after no more of them than there are paths beside it, for all sets
of existing paths and on all disks, unless all numbers are taken. -/
theorem firstFit_of_fileName (named : Path.fileName? path = some name) :
    Set.InjOn (fun count => Path.components (bumpPath^[count] path))
      (Set.Iio (Word.limit 64)) ∧
    (∀ count, Path.parent? (bumpPath^[count] path) = Path.parent? path ∧
      (Path.components (bumpPath^[count] path)).dropLast =
        (Path.components path).dropLast ∧
      extension? (bumpPath^[count] path) = extension? path) ∧
    (∀ (existing : Finset (List Path.Component)) (limit : Nat),
      (siblings existing path).card ≤ limit →
      FindsFirstFit (fun other => Path.components other ∈ existing) path
        (firstFree (fun other => Path.components other ∈ existing) bumpPath
          limit path)
        (siblings existing path).card) ∧
    ∀ disk : Disk, FindsFirstFit disk.has path (disk.freePath path)
      (disk.tree.children (disk.place path).dropLast).length := by
  obtain ⟨before, ends⟩ := Path.exists_endsIn named
  refine ⟨components_iterate_injOn ends, fun count => ?_,
    fun existing limit => findsFirstFit_of_siblings ends,
    findsFirstFit_freePath ends⟩
  refine ⟨parent?_iterate ends count, ?_, extension?_iterate ends count⟩
  rw [components_iterate ends, ends.components, List.dropLast_concat,
    List.dropLast_concat]

/-- Where a file and its first numbered copy are. -/
def crowded : Disk where
  tree := {
    entries := [
      (["gather"], .directory),
      (["gather", "pod.yaml"], .file []),
      (["gather", "pod_1.yaml"], .file [])]
    distinct := by decide }

theorem firstFit_of_fileName_crowded :
    Path.fileName? "/gather/pod.yaml" = some "pod.yaml" ∧
      IsFirstFit crowded.has "/gather/pod.yaml"
        (crowded.freePath "/gather/pod.yaml") 2 ∧
      crowded.freePath "/gather/pod.yaml" = "/gather/pod_2.yaml" := by
  have named : Path.fileName? "/gather/pod.yaml" = some "pod.yaml" := by
    decide
  have two : (crowded.tree.children
      (crowded.place "/gather/pod.yaml").dropLast).length = 2 := by
    decide +kernel
  refine ⟨named, ?_, by decide +kernel⟩
  have finds := (firstFit_of_fileName named).2.2.2 crowded
  rw [two] at finds
  exact finds.of_lt (by decide)

end Ingest
end ClusterTrace
