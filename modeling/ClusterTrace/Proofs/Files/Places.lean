import ClusterTrace.Proofs.Files.Growth

/-!
# Places of paths

A path names one place, whatever is on the way to it, `Disk.place`.  Operations
that succeed reach that place.  They change files there only, and directories
only on the way.
-/

namespace ClusterTrace

theorem Assoc.get?_filter {κ α : Type} [DecidableEq κ] {key : κ}
    {keeps : κ × α → Bool} (kept : ∀ value, keeps (key, value) = true)
    (pairs : Assoc κ α) :
    Assoc.get? key (pairs.filter keeps) = pairs.get? key := by
  induction pairs with
  | nil => rfl
  | cons pair rest induction =>
      obtain ⟨k, value⟩ := pair
      by_cases same : k = key
      · subst same
        simp [get?, kept]
      · by_cases isKept : keeps (k, value) <;>
          simp [get?, same, isKept, induction]

namespace FileTree

variable {tree after : FileTree} {route other root : Route}

/-! ## Files -/

/-- The content of the file at a place, if there is one. -/
def fileAt? (tree : FileTree) (route : Route) : Option Bytes :=
  match tree.at? route with
  | some (.file content) => some content
  | _ => none

theorem fileAt?_eq_some_iff {content : Bytes} :
    tree.fileAt? route = some content ↔
      tree.at? route = some (.file content) := by
  rw [fileAt?]
  split <;> simp_all

theorem fileAt?_of_at?_eq (same : after.at? route = tree.at? route) :
    after.fileAt? route = tree.fileAt? route := by
  rw [fileAt?, fileAt?, same]

/-- A directory at a free place is no change to any file. -/
theorem fileAt?_put_directory (free : tree.at? route = none) (other : Route) :
    (tree.put route .directory).fileAt? other = tree.fileAt? other := by
  by_cases same : other = route
  · subst other
    rw [fileAt?, fileAt?, free, at?_put_self (ne_nil_of_at?_eq_none free)]
  · exact fileAt?_of_at?_eq (at?_put_of_ne same .directory)

/-! ## Walks -/

theorem place_of_walk {pieces : List String} {place : Route}
    (led : tree.walk route pieces = .ok place) :
    place = pieces.foldl step route := by
  induction pieces generalizing route with
  | nil =>
      cases led
      rfl
  | cons piece pieces induction =>
      rw [walk] at led
      split at led
      · cases led
      · cases led
      · split at led
        · cases led
        · exact induction led

theorem place_of_makeDirectories {pieces : List String} {place : Route}
    (made : (tree.makeDirectories route pieces).1 = .ok place) :
    place = pieces.foldl step route := by
  induction pieces generalizing tree route with
  | nil =>
      rw [makeDirectories] at made
      split at made <;> cases made <;> rfl
  | cons piece pieces induction =>
      rw [makeDirectories] at made
      split at made
      · cases made
      · split at made
        · cases made
        · exact induction made
      · dsimp only at made
        split at made
        · cases made
        · exact induction made

/-- Something that holds of a tree still holds when directories are made, if it
does when one is put at a free place on the way. -/
theorem makeDirectories_induction {motive : FileTree → Prop}
    {pieces : List String} (start : motive tree)
    (step : ∀ tree place, place ∈ pieces.scanl FileTree.step route →
      tree.at? place = none → motive tree →
      motive (tree.put place .directory)) :
    motive (tree.makeDirectories route pieces).2 := by
  induction pieces generalizing tree route with
  | nil =>
      rw [makeDirectories]
      split
      · rename_i free
        exact step tree route (by simp) free start
      · exact start
      · exact start
  | cons piece pieces induction =>
      rw [List.scanl_cons] at step
      have here := step tree route (by simp)
      have later : ∀ tree, motive tree →
          motive (tree.makeDirectories (FileTree.step route piece) pieces).2 :=
        fun tree holds => induction holds fun between place onTheWay =>
          step between place (by simp [onTheWay])
      rw [makeDirectories]
      split
      · exact start
      · split
        · exact start
        · exact later tree start
      · rename_i free
        dsimp only
        split
        · exact here free start
        · exact later _ (here free start)

theorem prefix_step {piece : String} (downward : piece ≠ "..")
    (route : Route) : route <+: step route piece := by
  rw [step, if_neg downward]
  split
  · exact List.prefix_rfl
  · exact List.prefix_append route [piece]

theorem prefix_foldl_step {pieces : List String} (downward : ".." ∉ pieces)
    (route : Route) : route <+: pieces.foldl step route := by
  induction pieces generalizing route with
  | nil => exact List.prefix_rfl
  | cons piece pieces induction =>
      rw [List.mem_cons, not_or] at downward
      exact (prefix_step (Ne.symm downward.1) route).trans
        (induction downward.2 _)

/-- Pieces that do not go up lead through directories above the last place. -/
theorem prefix_of_mem_scanl_step {pieces : List String}
    (downward : ".." ∉ pieces)
    (onTheWay : other ∈ pieces.scanl step route) :
    other <+: pieces.foldl step route := by
  induction pieces generalizing route with
  | nil =>
      rw [List.scanl_nil, List.mem_singleton] at onTheWay
      rw [onTheWay]
      exact List.prefix_rfl
  | cons piece pieces induction =>
      rw [List.scanl_cons, List.mem_cons] at onTheWay
      rcases onTheWay with rfl | later
      · exact prefix_foldl_step downward other
      · rw [List.mem_cons, not_or] at downward
        exact induction downward.2 later

/-! ## Removing -/

theorem at?_remove_of_not_prefix (outside : ¬ root <+: other) :
    (tree.remove root).at? other = tree.at? other := by
  rw [at?, at?]
  split
  · rfl
  · apply Assoc.get?_filter
    intro entry
    simpa [← List.isPrefixOf_iff_prefix] using outside

theorem at?_remove_of_prefix (inside : root <+: other) (named : other ≠ []) :
    (tree.remove root).at? other = none := by
  rw [at?, if_neg named, Assoc.get?_eq_none_iff]
  intro member
  obtain ⟨pair, isPair, rfl⟩ := List.mem_map.mp member
  have kept := (List.mem_filter.mp isPair).2
  simp [List.isPrefixOf_iff_prefix.mpr inside] at kept

theorem GrowsBelow.at?_of_not_prefix (grows : GrowsBelow root tree after)
    (outside : ¬ root <+: other) : after.at? other = tree.at? other := by
  cases there : tree.at? other with
  | some entry => exact grows.kept other entry there
  | none =>
      by_cases isNew : after.at? other = none
      · exact isNew
      · exact (outside (grows.below other there isNew).1).elim

end FileTree

namespace Disk

variable {disk after : Disk} {path : String} {route : Route}

/-! ## Paths -/

/-- The place that a path names. -/
def place (disk : Disk) (path : String) : Route :=
  (Path.pieces path).foldl FileTree.step (disk.start path)

/-- The places on the way of a path, its own among them. -/
def way (disk : Disk) (path : String) : List Route :=
  (Path.pieces path).scanl FileTree.step (disk.start path)

theorem place_congr (same : after.workingDirectory = disk.workingDirectory)
    (path : String) : after.place path = disk.place path := by
  rw [place, place, start, start, same]

theorem place_empty (disk : Disk) : disk.place "" = disk.workingDirectory :=
  rfl

theorem place_of_locate (located : disk.locate path = .ok route) :
    route = disk.place path := by
  rw [locate] at located
  split at located
  · cases located
  · split at located
    · cases located
    · exact FileTree.place_of_walk located

theorem place_of_makeDirectories
    (made : disk.makeDirectories path = (.ok route, after)) :
    route = disk.place path := by
  rw [makeDirectories] at made
  split at made
  · rename_i isEmpty
    cases made
    rw [isEmpty, place_empty]
  · split at made
    · cases made
    · exact FileTree.place_of_makeDirectories (congrArg Prod.fst made)

theorem fileAt?_of_read {content : Bytes}
    (isRead : disk.read path = .ok content) :
    disk.tree.fileAt? (disk.place path) = some content := by
  rw [read] at isRead
  cases located : disk.locate path with
  | error fault =>
      rw [located] at isRead
      cases isRead
  | ok route =>
      rw [located] at isRead
      change disk.tree.read route = .ok content at isRead
      rw [FileTree.read] at isRead
      rw [← place_of_locate located, FileTree.fileAt?_eq_some_iff]
      split at isRead
      · cases isRead
      · cases isRead
      · rename_i isFile
        cases isRead
        exact isFile

/-! ## Changes to directories -/

/-- Nothing happens to files and directories elsewhere, and relative paths start
where they did. -/
structure KeepsOutside (root : Route) (disk after : Disk) : Prop where
  files : ∀ route, ¬ root <+: route →
    after.tree.fileAt? route = disk.tree.fileAt? route
  workingDirectory : after.workingDirectory = disk.workingDirectory

namespace KeepsOutside

variable {root : Route} {between : Disk}

theorem refl (root : Route) (disk : Disk) : KeepsOutside root disk disk :=
  ⟨fun _ _ => rfl, rfl⟩

theorem trans (first : KeepsOutside root disk between)
    (second : KeepsOutside root between after) :
    KeepsOutside root disk after := by
  constructor
  · intro route outside
    rw [second.files route outside, first.files route outside]
  · rw [second.workingDirectory, first.workingDirectory]

theorem place (keeps : KeepsOutside root disk after) (path : String) :
    after.place path = disk.place path :=
  place_congr keeps.workingDirectory path

end KeepsOutside

/-- Directories were made at places on a way that were free, and nothing else
happened. -/
structure MakesWay (way : List Route) (disk after : Disk) : Prop where
  kept : ∀ route entry, disk.tree.at? route = some entry →
    after.tree.at? route = some entry
  others : ∀ route, route ∉ way → after.tree.at? route = disk.tree.at? route
  files : ∀ route, after.tree.fileAt? route = disk.tree.fileAt? route
  workingDirectory : after.workingDirectory = disk.workingDirectory

namespace MakesWay

theorem refl (way : List Route) (disk : Disk) : MakesWay way disk disk :=
  ⟨fun _ _ there => there, fun _ _ => rfl, fun _ => rfl, rfl⟩

theorem keepsOutside {way : List Route} (makes : MakesWay way disk after)
    (root : Route) : KeepsOutside root disk after :=
  ⟨fun route _ => makes.files route, makes.workingDirectory⟩

end MakesWay

theorem makesWay_makeDirectories (disk : Disk) (path : String) :
    MakesWay (disk.way path) disk (disk.makeDirectories path).2 := by
  rw [makeDirectories]
  split
  · exact .refl _ disk
  · split
    · exact .refl _ disk
    · apply FileTree.makeDirectories_induction
        (motive := fun tree => MakesWay (disk.way path) disk
          { disk with tree := tree })
      · exact .refl _ disk
      intro tree place onTheWay free makes
      constructor
      · intro route entry there
        exact FileTree.at?_put_of_free free (makes.kept route entry there) _
      · intro route offTheWay
        have elsewhere : route ≠ place := by
          rintro rfl
          exact offTheWay onTheWay
        rw [← makes.others route offTheWay]
        exact FileTree.at?_put_of_ne elsewhere _
      · intro route
        rw [← makes.files route]
        exact FileTree.fileAt?_put_directory free route
      · exact makes.workingDirectory

theorem keepsOutside_removeDirectory
    (removed : disk.removeDirectory path = .ok after) :
    KeepsOutside (disk.place path) disk after := by
  rw [removeDirectory] at removed
  split at removed
  · cases removed
    exact .refl _ disk
  · cases removed
  · rename_i root located
    rw [FileTree.removeDirectory] at removed
    split at removed
    · cases removed
      exact .refl _ disk
    · cases removed
    · cases removed
      rw [← place_of_locate located]
      refine ⟨fun route outside => ?_, rfl⟩
      exact FileTree.fileAt?_of_at?_eq
        (FileTree.at?_remove_of_not_prefix outside)

/-! ## Writing -/

theorem write_eq_ok {content : Bytes}
    (written : disk.write path content = .ok after) :
    disk.locate path = .ok (disk.place path) ∧
      after =
        { disk with
          tree := disk.tree.put (disk.place path) (.file content) } := by
  rw [write] at written
  cases located : disk.locate path with
  | error fault =>
      rw [located] at written
      cases written
  | ok route =>
      rw [located] at written
      cases isWritten : disk.tree.write route content with
      | error fault =>
          simp [bind, Except.bind, isWritten] at written
      | ok tree =>
          simp only [bind, Except.bind, isWritten, pure, Except.pure,
            Except.ok.injEq] at written
          subst written
          obtain ⟨_, _, rfl⟩ := FileTree.write_eq_ok isWritten
          rw [← place_of_locate located]
          exact ⟨rfl, rfl⟩

end Disk
end ClusterTrace
