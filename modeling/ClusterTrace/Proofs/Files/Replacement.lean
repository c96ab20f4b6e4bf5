import ClusterTrace.Proofs.Files.Growth

/-!
# Other content in files

Where a path leads, and whether an operation on directories is refused, depends
on where the files and directories are, not on what the files hold.
-/

namespace ClusterTrace

namespace FileTree

variable {tree other after : FileTree} {route : Route}

/-- Whether there is a directory at a place, if there is something. -/
def shapeAt? (tree : FileTree) (route : Route) : Option Bool :=
  (tree.at? route).map fun entry => entry = .directory

/-- Files and directories are at the same places. -/
def SameShape (tree other : FileTree) : Prop :=
  ∀ route, tree.shapeAt? route = other.shapeAt? route

namespace SameShape

theorem cases (same : SameShape tree other) (route : Route) :
    (tree.at? route = none ∧ other.at? route = none) ∨
      (tree.at? route = some .directory ∧
        other.at? route = some .directory) ∨
      ∃ content content', tree.at? route = some (.file content) ∧
        other.at? route = some (.file content') := by
  have shape := same route
  rw [shapeAt?, shapeAt?] at shape
  rcases here : tree.at? route with _ | (_ | content) <;>
    rcases there : other.at? route with _ | (_ | content') <;>
      simp [here, there] at shape ⊢

theorem put (same : SameShape tree other) (inside : route ≠ [])
    {entry entry' : FileEntry}
    (sameKind : (entry = .directory) = (entry' = .directory)) :
    SameShape (tree.put route entry) (other.put route entry') := by
  intro place
  by_cases here : place = route
  · rw [here, shapeAt?, shapeAt?, at?_put_self inside, at?_put_self inside]
    simp [sameKind]
  · rw [shapeAt?, shapeAt?, at?_put_of_ne here, at?_put_of_ne here]
    exact same place

theorem walk (same : SameShape tree other) (route : Route)
    (pieces : List String) :
    tree.walk route pieces = other.walk route pieces := by
  induction pieces generalizing route with
  | nil => rfl
  | cons piece pieces induction =>
      rw [FileTree.walk, FileTree.walk]
      rcases same.cases route with
        ⟨here, there⟩ | ⟨here, there⟩ | ⟨_, _, here, there⟩
      · rw [here, there]
      · rw [here, there]
        dsimp only
        rw [induction]
      · rw [here, there]

theorem makeDirectories (same : SameShape tree other) (route : Route)
    (pieces : List String) :
    (tree.makeDirectories route pieces).1 =
        (other.makeDirectories route pieces).1 ∧
      SameShape (tree.makeDirectories route pieces).2
        (other.makeDirectories route pieces).2 := by
  induction pieces generalizing tree other route with
  | nil =>
      rw [FileTree.makeDirectories, FileTree.makeDirectories]
      rcases same.cases route with
        ⟨here, there⟩ | ⟨here, there⟩ | ⟨_, _, here, there⟩
      · rw [here, there]
        exact ⟨rfl, same.put (ne_nil_of_at?_eq_none here) rfl⟩
      · rw [here, there]
        exact ⟨rfl, same⟩
      · rw [here, there]
        exact ⟨rfl, same⟩
  | cons piece pieces induction =>
      rw [FileTree.makeDirectories, FileTree.makeDirectories]
      rcases same.cases route with
        ⟨here, there⟩ | ⟨here, there⟩ | ⟨_, _, here, there⟩
      · rw [here, there]
        have made := same.put (ne_nil_of_at?_eq_none here)
          (rfl : (FileEntry.directory = .directory) = _)
        dsimp only
        split
        · exact ⟨rfl, made⟩
        · exact induction made _
      · rw [here, there]
        dsimp only
        split
        · exact ⟨rfl, same⟩
        · exact induction same _
      · rw [here, there]
        exact ⟨rfl, same⟩

/-- Whatever is written, it is written to both or to none. -/
theorem write (same : SameShape tree other) {content content' : Bytes}
    (written : tree.write route content = .ok after) :
    ∃ after', other.write route content' = .ok after' := by
  rw [FileTree.write] at written ⊢
  split at written
  · cases written
  · rename_i noZero
    rw [if_neg noZero]
    split at written
    · cases written
    · rename_i short
      rw [if_neg short]
      rcases same.cases route.dropLast with
        ⟨here, there⟩ | ⟨here, there⟩ | ⟨_, _, here, there⟩
      · rw [here] at written
        cases written
      · rw [here] at written
        rw [there]
        dsimp only at written ⊢
        split at written
        · cases written
        · rename_i shortName
          rw [if_neg shortName]
          rcases same.cases route with
            ⟨at', at''⟩ | ⟨at', at''⟩ | ⟨_, _, at', at''⟩
          · simp [at'']
          · simp [at'] at written
          · simp [at'']
      · rw [here] at written
        cases written

end SameShape

theorem sameShape_put {content : Bytes}
    (isFile : tree.at? route = some (.file content)) (content' : Bytes) :
    SameShape tree (tree.put route (.file content')) := by
  have inside := ne_nil_of_at?_eq_file isFile
  intro place
  by_cases here : place = route
  · rw [here, shapeAt?, shapeAt?, at?_put_self inside, isFile]
    rfl
  · rw [shapeAt?, shapeAt?, at?_put_of_ne here]

end FileTree

namespace Disk

variable {disk other : Disk}

/-- Files and directories are at the same places, and relative paths start from
the same one. -/
structure SameShape (disk other : Disk) : Prop where
  tree : FileTree.SameShape disk.tree other.tree
  workingDirectory : disk.workingDirectory = other.workingDirectory

namespace SameShape

theorem locate (same : SameShape disk other) (path : String) :
    disk.locate path = other.locate path := by
  rw [Disk.locate, Disk.locate, start, start, same.workingDirectory]
  simp only [same.tree.walk]

theorem canonical? (same : SameShape disk other) (path : String) :
    disk.canonical? path = other.canonical? path := by
  have has : ∀ route, disk.tree.has route = other.tree.has route := by
    intro route
    have shape := congrArg Option.isSome (same.tree route)
    rw [FileTree.shapeAt?, FileTree.shapeAt?, Option.isSome_map,
      Option.isSome_map] at shape
    exact shape
  rw [Disk.canonical?, Disk.canonical?, same.locate]
  simp only [has]

theorem makeDirectories (same : SameShape disk other) (path : String) :
    (disk.makeDirectories path).1 = (other.makeDirectories path).1 ∧
      SameShape (disk.makeDirectories path).2
        (other.makeDirectories path).2 := by
  rw [Disk.makeDirectories, Disk.makeDirectories]
  split
  · exact ⟨congrArg Except.ok same.workingDirectory, same⟩
  · split
    · exact ⟨rfl, same⟩
    · rw [start, start, same.workingDirectory]
      have made := same.tree.makeDirectories
        (if Path.isAbsolute path then [] else other.workingDirectory)
        (Path.pieces path)
      exact ⟨made.1, made.2, rfl⟩

theorem write (same : SameShape disk other) {path : String}
    {content content' : Bytes} {after : Disk}
    (written : disk.write path content = .ok after) :
    ∃ after', other.write path content' = .ok after' := by
  simp only [Disk.write, same.locate, bind, Except.bind] at written ⊢
  cases found : other.locate path with
  | error fault => simp [found] at written
  | ok route =>
      rw [found] at written
      dsimp only at written ⊢
      cases isWritten : disk.tree.write route content with
      | error fault => simp [isWritten] at written
      | ok tree =>
          obtain ⟨tree', isWritten'⟩ := same.tree.write isWritten
          rw [isWritten']
          exact ⟨{ other with tree := tree' }, rfl⟩

end SameShape

end Disk

/-! ## Paths to a name -/

theorem Path.splitOn_append_slash (text rest : List Char) :
    (text ++ '/' :: rest).splitOn '/' =
      text.splitOn '/' ++ rest.splitOn '/' := by
  rw [List.splitOn_eq_splitOnP, List.splitOnP_append_cons _ _ (by rfl),
    ← List.splitOn_eq_splitOnP, ← List.splitOn_eq_splitOnP]

/-- A name that is joined to a path comes after its pieces, but for a last one
that leads nowhere. -/
theorem Path.pieces_join {name : String} (noSlash : '/' ∉ name.toList)
    (relative : Path.isAbsolute name = false) (base : String) :
    ∃ before idle, Path.pieces (Path.join base name) = before ++ [name] ∧
      Path.pieces base = before ++ idle ∧
      ∀ piece ∈ idle, Path.isIdle piece = true := by
  have single := List.splitOn_eq_singleton noSlash
  rw [Path.join, relative, Bool.false_or]
  split
  · rename_i isEmpty
    have empty : base = "" := of_decide_eq_true isEmpty
    subst empty
    refine ⟨[], [""], ?_, rfl, by decide⟩
    rw [Path.pieces, single]
    simp
  · split
    · rename_i endsInSlash
      obtain ⟨text, isBase⟩ := List.getLast?_eq_some_iff.mp endsInSlash
      refine ⟨(text.splitOn '/').map String.ofList, [""], ?_, ?_, by decide⟩
      · rw [Path.pieces, String.toList_append, isBase, List.append_assoc,
          List.singleton_append, splitOn_append_slash, single, List.map_append]
        simp
      · rw [Path.pieces, isBase, splitOn_append_slash, List.map_append]
        rfl
    · refine ⟨Path.pieces base, [], ?_, (List.append_nil _).symm, by simp⟩
      have slash : "/".toList = ['/'] := by decide
      rw [Path.pieces, String.toList_append, String.toList_append, slash,
        List.append_assoc, List.singleton_append, splitOn_append_slash, single,
        List.map_append]
      simp [Path.pieces]

theorem FileTree.eq_step_of_walk_concat {tree : FileTree} {piece : String}
    {pieces : List String} {route place : Route}
    (led : tree.walk route (pieces ++ [piece]) = .ok place) :
    ∃ before, place = step before piece := by
  induction pieces generalizing route with
  | nil =>
      rw [List.nil_append, walk] at led
      split at led
      · cases led
      · cases led
      · split at led
        · cases led
        · rw [walk] at led
          cases led
          exact ⟨route, rfl⟩
  | cons first pieces induction =>
      rw [List.cons_append, walk] at led
      split at led
      · cases led
      · cases led
      · split at led
        · cases led
        · exact induction led

/-- A path that ends in a plain name leads to a place of that name. -/
theorem Disk.getLast?_of_locate {disk : Disk} {base name : String}
    {place : Route} (plain : Path.IsPlainName name)
    (noSlash : '/' ∉ name.toList) (relative : Path.isAbsolute name = false)
    (located : disk.locate (Path.join base name) = .ok place) :
    place.getLast? = some name := by
  obtain ⟨before, _, pieces, _⟩ := Path.pieces_join noSlash relative base
  rw [Disk.locate, pieces] at located
  split at located
  · cases located
  · split at located
    · cases located
    · obtain ⟨directory, rfl⟩ := FileTree.eq_step_of_walk_concat located
      rw [FileTree.step_of_isPlainName plain, List.getLast?_concat]

/-! ## Other content -/

/-- The disk with other content in the file at a place. -/
def Disk.withContent (disk : Disk) (route : Route) (content : Bytes) : Disk :=
  { disk with tree := disk.tree.put route (.file content) }

variable {disk : Disk} {route : Route} {content content' : Bytes}

theorem Disk.sameShape_withContent
    (isFile : disk.tree.at? route = some (.file content)) (content' : Bytes) :
    Disk.SameShape disk (disk.withContent route content') :=
  ⟨FileTree.sameShape_put isFile content', rfl⟩

theorem Disk.read_withContent
    (isFile : disk.tree.at? route = some (.file content)) {path : String}
    (elsewhere : disk.locate path ≠ .ok route) :
    (disk.withContent route content').read path = disk.read path := by
  rw [Disk.read, Disk.read,
    ← (Disk.sameShape_withContent isFile content').locate]
  cases located : disk.locate path with
  | error fault => rfl
  | ok place =>
      have different : place ≠ route := by
        rintro rfl
        exact elsewhere located
      dsimp only [Except.bind]
      rw [FileTree.read, Disk.withContent, FileTree.at?_put_of_ne different,
        FileTree.read]

/-- A file can still be read, and what is missing stays missing. -/
theorem Disk.read_withContent_cases
    (isFile : disk.tree.at? route = some (.file content)) (content' : Bytes)
    (path : String) :
    (disk.withContent route content').read path = disk.read path ∨
      (disk.withContent route content').read path = .ok content' := by
  by_cases here : disk.locate path = .ok route
  · right
    have inside := FileTree.ne_nil_of_at?_eq_file isFile
    rw [Disk.read, ← (Disk.sameShape_withContent isFile content').locate, here]
    dsimp only [Except.bind]
    rw [FileTree.read, Disk.withContent, FileTree.at?_put_self inside]
  · exact .inl (Disk.read_withContent isFile here)

end ClusterTrace
