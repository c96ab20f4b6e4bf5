import ClusterTrace.Proofs.Files.Places
import ClusterTrace.Proofs.Files.Replacement
import Mathlib.Data.List.Induction
import Mathlib.Tactic.ByContra

/-!
# Rooted trees

In a tree in which everything has a directory above it, nothing is below a free
place.  A directory that is removed from it is either there and goes with all
that is below, or its path comes to a free place, `Disk.removeDirectory_cases`.
-/

namespace ClusterTrace

namespace FileTree

variable {tree after : FileTree} {route other place : Route}
  {pieces : List String}

/-! ## Rooted trees -/

/-- What is above a file or a directory is a directory. -/
def IsRooted (tree : FileTree) : Prop :=
  ∀ route ∈ tree.entries.keys, tree.at? route.dropLast = some .directory

instance (tree : FileTree) : Decidable tree.IsRooted :=
  inferInstanceAs (Decidable (∀ route ∈ tree.entries.keys,
    tree.at? route.dropLast = some .directory))

theorem IsRooted.at?_of_prefix (rooted : tree.IsRooted)
    (free : tree.at? route = none) (inside : route <+: other) :
    tree.at? other = none := by
  obtain ⟨names, rfl⟩ := inside
  -- Something below would have a directory above it, where nothing is either.
  induction names using List.reverseRecOn with
  | nil =>
      rw [List.append_nil]
      exact free
  | append_singleton names name induction =>
      rw [← List.append_assoc]
      by_contra there
      have isKey : route ++ names ++ [name] ∈ tree.entries.keys := by
        by_contra missing
        apply there
        rw [at?, if_neg (List.concat_ne_nil _ _)]
        exact Assoc.get?_eq_none_iff.mpr missing
      have isDirectory := rooted _ isKey
      rw [List.dropLast_concat, induction] at isDirectory
      cases isDirectory

/-! ## Walks -/

/-- A walk that ends for something missing has come to a free place. -/
theorem exists_free_of_walk
    (missing : tree.walk route pieces = .error .notFound) :
    ∃ place ∈ pieces.scanl step route, tree.at? place = none := by
  induction pieces generalizing route with
  | nil => cases missing
  | cons piece pieces induction =>
      rw [walk] at missing
      rw [List.scanl_cons]
      split at missing
      · rename_i free
        exact ⟨route, List.mem_cons_self, free⟩
      · cases missing
      · split at missing
        · cases missing
        · obtain ⟨place, onTheWay, free⟩ := induction missing
          exact ⟨place, List.mem_cons_of_mem _ onTheWay, free⟩

/-- Of what is on the way of a walk only the directories count. -/
theorem walk_of_keptOnWay
    (kept : ∀ other ∈ pieces.scanl step route,
      tree.at? other = some .directory → after.at? other = some .directory)
    (led : tree.walk route pieces = .ok place) :
    after.walk route pieces = .ok place := by
  induction pieces generalizing route with
  | nil => exact led
  | cons piece pieces induction =>
      rw [List.scanl_cons] at kept
      rw [walk] at led ⊢
      split at led
      · cases led
      · cases led
      · rename_i isDirectory
        rw [kept _ List.mem_cons_self isDirectory]
        dsimp only
        split at led
        · cases led
        · rename_i short
          rw [if_neg short]
          exact induction
            (fun other onTheWay => kept other (List.mem_cons_of_mem _ onTheWay))
            led

theorem foldl_step_of_isIdle (idle : ∀ piece ∈ pieces, Path.isIdle piece = true)
    (route : Route) : pieces.foldl step route = route := by
  induction pieces with
  | nil => rfl
  | cons piece pieces induction =>
      rw [List.foldl_cons, step, if_pos (idle piece List.mem_cons_self)]
      exact induction fun piece member =>
        idle piece (List.mem_cons_of_mem _ member)

end FileTree

theorem Path.isAbsolute_append {base : String} (named : base ≠ "")
    (rest : String) : isAbsolute (base ++ rest) = isAbsolute base := by
  have slash : "/".toList = ['/'] := by decide
  rw [Bool.eq_iff_iff, isAbsolute, isAbsolute, String.startsWith_string_iff,
    String.startsWith_string_iff, String.toList_append, slash]
  cases letters : base.toList with
  | nil => exact (named (String.toList_eq_nil_iff.mp letters)).elim
  | cons first others => simp

theorem Path.isAbsolute_join {name : String}
    (relative : isAbsolute name = false)
    (base : String) : isAbsolute (join base name) = isAbsolute base := by
  rw [join, relative, Bool.false_or]
  split
  · rename_i isEmpty
    rw [of_decide_eq_true isEmpty, relative]
    decide
  · rename_i named
    have named : base ≠ "" := fun same => named (decide_eq_true same)
    split
    · exact isAbsolute_append named name
    · rw [String.append_assoc]
      exact isAbsolute_append named _

namespace Disk

variable {disk after : Disk} {path name : String}

theorem place_join (noSlash : '/' ∉ name.toList)
    (relative : Path.isAbsolute name = false) (plain : Path.IsPlainName name)
    (disk : Disk) (base : String) :
    disk.place (Path.join base name) = disk.place base ++ [name] := by
  obtain ⟨before, idle, joined, pieces, areIdle⟩ :=
    Path.pieces_join noSlash relative base
  rw [place, place, start, start, Path.isAbsolute_join relative, joined, pieces,
    List.foldl_append, List.foldl_append,
    FileTree.foldl_step_of_isIdle areIdle, List.foldl_cons, List.foldl_nil,
    FileTree.step_of_isPlainName plain]

/-! ## Removing a directory -/

/-- A path leads somewhere, or it does not go up. -/
def IsFollowable (disk : Disk) (path : String) : Prop :=
  ".." ∉ Path.pieces path ∨ (disk.locate path).isOk = true

instance (disk : Disk) (path : String) : Decidable (disk.IsFollowable path) :=
  inferInstanceAs (Decidable (_ ∨ _))

theorem exists_free_of_locate (named : path ≠ "")
    (missing : disk.locate path = .error .notFound) :
    ∃ place ∈ disk.way path, disk.tree.at? place = none := by
  rw [locate, if_neg named] at missing
  split at missing
  · rename_i fault isBad
    cases missing
    rw [badPath?] at isBad
    split at isBad
    · cases isBad
    · split at isBad <;> cases isBad
  · exact FileTree.exists_free_of_walk missing

theorem locate_of_keptOnWay {route : Route}
    (kept : ∀ other ∈ disk.way path,
      disk.tree.at? other = some .directory →
        after.tree.at? other = some .directory)
    (workingDirectory : after.workingDirectory = disk.workingDirectory)
    (located : disk.locate path = .ok route) :
    after.locate path = .ok route := by
  rw [locate] at located ⊢
  split at located
  · cases located
  · rename_i named
    rw [if_neg named]
    split at located
    · cases located
    · rename_i good
      rw [start, workingDirectory]
      exact FileTree.walk_of_keptOnWay kept located

theorem locate_of_kept {route : Route}
    (kept : ∀ route entry, disk.tree.at? route = some entry →
      after.tree.at? route = some entry)
    (workingDirectory : after.workingDirectory = disk.workingDirectory)
    (located : disk.locate path = .ok route) :
    after.locate path = .ok route :=
  locate_of_keptOnWay (fun other _ => kept other _) workingDirectory located

/-- A directory is removed with all that is in it, or it is not found. -/
theorem removeDirectory_cases
    (removed : disk.removeDirectory path = .ok after) :
    ((disk.locate path = .error .notFound ∨
        disk.tree.at? (disk.place path) = none) ∧ after = disk) ∨
      ∀ route, disk.place path <+: route → after.tree.fileAt? route = none := by
  rw [removeDirectory] at removed
  split at removed
  · rename_i missing
    cases removed
    exact .inl ⟨.inl missing, rfl⟩
  · cases removed
  · rename_i root located
    rw [place_of_locate located, FileTree.removeDirectory] at removed
    split at removed
    · rename_i free
      cases removed
      exact .inl ⟨.inr free, rfl⟩
    · cases removed
    · cases removed
      right
      intro route inside
      rw [FileTree.fileAt?]
      by_cases atRoot : route = []
      · rw [atRoot]
        rfl
      · dsimp only
        rw [FileTree.at?_remove_of_prefix inside atRoot]

end Disk

end ClusterTrace
