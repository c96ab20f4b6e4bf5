import ClusterTrace.Files.Tree

/-!
# Growing file trees

Making directories and writing a file where nothing is leave everything in its
place.  What they add lies on the way to the place that they are asked for.
-/

namespace ClusterTrace

/-- A name of its own, and no way to say "here" or "up". -/
def Path.IsPlainName (name : String) : Prop :=
  Path.isIdle name = false ∧ name ≠ ".."

namespace FileTree

variable {tree before between after : FileTree} {route other root : Route}

theorem step_of_isPlainName {name : String} (plain : Path.IsPlainName name)
    (route : Route) : step route name = route ++ [name] := by
  rw [step, plain.1, if_neg Bool.false_ne_true, if_neg plain.2]

/-! ## Putting -/

theorem ne_nil_of_at?_eq_none (free : tree.at? route = none) : route ≠ [] := by
  intro isRoot
  rw [at?, if_pos isRoot] at free
  cases free

theorem ne_nil_of_at?_eq_file {content : Bytes}
    (isFile : tree.at? route = some (.file content)) : route ≠ [] := by
  rintro rfl
  cases isFile

theorem at?_put_self (inside : route ≠ []) (entry : FileEntry) :
    (tree.put route entry).at? route = some entry := by
  rw [at?, if_neg inside]
  exact Assoc.get?_put_self route entry tree.entries

theorem at?_put_of_ne (different : other ≠ route) (entry : FileEntry) :
    (tree.put route entry).at? other = tree.at? other := by
  rw [at?, at?]
  split
  · rfl
  · exact Assoc.get?_put_of_ne different entry tree.entries

/-- What is there stays where something comes to a free place. -/
theorem at?_put_of_free (free : tree.at? route = none) {old : FileEntry}
    (there : tree.at? other = some old) (entry : FileEntry) :
    (tree.put route entry).at? other = some old := by
  have elsewhere : other ≠ route := by
    rintro rfl
    rw [free] at there
    cases there
  rw [at?_put_of_ne elsewhere, there]

/-! ## Growth -/

/-- Everything stays in its place, and what is new lies below the root. -/
structure GrowsBelow (root : Route) (before after : FileTree) : Prop where
  kept : ∀ route entry, before.at? route = some entry →
    after.at? route = some entry
  below : ∀ route, before.at? route = none → after.at? route ≠ none →
    root <+: route ∧ route ≠ root

namespace GrowsBelow

theorem refl (root : Route) (tree : FileTree) : GrowsBelow root tree tree := by
  constructor
  · intro route entry there
    exact there
  · intro route missing there
    exact (there missing).elim

theorem trans (first : GrowsBelow root before between)
    (second : GrowsBelow root between after) :
    GrowsBelow root before after := by
  constructor
  · intro route entry there
    exact second.kept route entry (first.kept route entry there)
  · intro route missing there
    cases onTheWay : between.at? route with
    | none => exact second.below route onTheWay there
    | some entry =>
        apply first.below route missing
        rw [onTheWay]
        exact Option.some_ne_none entry

theorem put (free : tree.at? route = none) (inside : root <+: route)
    (different : route ≠ root) (entry : FileEntry) :
    GrowsBelow root tree (tree.put route entry) := by
  constructor
  · intro other old there
    exact at?_put_of_free free there entry
  · intro other missing there
    by_cases same : other = route
    · subst other
      exact ⟨inside, different⟩
    · rw [at?_put_of_ne same] at there
      exact (there missing).elim

end GrowsBelow

/-! ## Making directories -/

/-- Directories were made between a place and one that names lead to, some of
them or all. -/
structure Paves (route : Route) (names : List String)
    (before after : FileTree) : Prop where
  kept : ∀ other entry, before.at? other = some entry →
    after.at? other = some entry
  made : ∀ other, before.at? other = none → after.at? other ≠ none →
    route <+: other ∧ other <+: route ++ names ∧
      after.at? other = some .directory

namespace Paves

variable {name : String} {names : List String}

theorem refl (route : Route) (names : List String) (tree : FileTree) :
    Paves route names tree tree := by
  constructor
  · intro other entry there
    exact there
  · intro other missing there
    exact (there missing).elim

theorem put (free : tree.at? route = none) (names : List String) :
    Paves route names tree (tree.put route .directory) := by
  have inside := ne_nil_of_at?_eq_none free
  constructor
  · intro other entry there
    exact at?_put_of_free free there .directory
  · intro other missing there
    by_cases same : other = route
    · subst other
      exact ⟨List.prefix_rfl, List.prefix_append route names,
        at?_put_self inside .directory⟩
    · rw [at?_put_of_ne same] at there
      exact (there missing).elim

theorem cons (first : Paves route (name :: names) before between)
    (rest : Paves (route ++ [name]) names between after) :
    Paves route (name :: names) before after := by
  constructor
  · intro other entry there
    exact rest.kept other entry (first.kept other entry there)
  · intro other missing there
    cases onTheWay : between.at? other with
    | none =>
        obtain ⟨isAfter, isBefore, isDirectory⟩ :=
          rest.made other onTheWay there
        rw [List.append_assoc, List.singleton_append] at isBefore
        exact ⟨(List.prefix_append route [name]).trans isAfter, isBefore,
          isDirectory⟩
    | some entry =>
        have isNew : between.at? other ≠ none := by
          rw [onTheWay]
          exact Option.some_ne_none entry
        obtain ⟨isAfter, isBefore, isDirectory⟩ :=
          first.made other missing isNew
        exact ⟨isAfter, isBefore, rest.kept other .directory isDirectory⟩

theorem growsBelow (paves : Paves root names before after)
    (isDirectory : before.at? root = some .directory) :
    GrowsBelow root before after := by
  constructor
  · exact paves.kept
  · intro route missing there
    refine ⟨(paves.made route missing there).1, ?_⟩
    intro same
    rw [same, isDirectory] at missing
    cases missing

/-- A place that lies deeper than the directories is left alone. -/
theorem at?_of_length_lt (paves : Paves route names before after)
    (deeper : (route ++ names).length < other.length) :
    after.at? other = before.at? other := by
  cases there : before.at? other with
  | some entry => exact paves.kept other entry there
  | none =>
      by_cases made : after.at? other = none
      · exact made
      · have shallow := (paves.made other there made).2.1.length_le
        omega

end Paves

theorem paves_makeDirectories {names : List String}
    (plain : ∀ name ∈ names, Path.IsPlainName name) (tree : FileTree)
    (route : Route) :
    Paves route names tree (tree.makeDirectories route names).2 := by
  induction names generalizing tree route with
  | nil =>
      rw [makeDirectories]
      split
      · rename_i free
        exact Paves.put free []
      · exact Paves.refl route [] tree
      · exact Paves.refl route [] tree
  | cons name names induction =>
      have later := fun between => induction
        (fun other member => plain other (List.mem_cons_of_mem name member))
        between (route ++ [name])
      rw [makeDirectories, step_of_isPlainName (plain name List.mem_cons_self)]
      split
      · exact Paves.refl route _ tree
      · split
        · exact Paves.refl route _ tree
        · exact (Paves.refl route _ tree).cons (later tree)
      · rename_i free
        dsimp only
        split
        · exact Paves.put free _
        · exact (Paves.put free _).cons (later _)

/-- All directories from a place to the one that names lead to are there. -/
def IsPaved (tree : FileTree) (route : Route) (names : List String) : Prop :=
  ∀ other, route <+: other → other <+: route ++ names →
    tree.at? other = some .directory

theorem isPaved_nil (isDirectory : tree.at? route = some .directory) :
    tree.IsPaved route [] := by
  intro other isAfter isBefore
  rw [List.append_nil] at isBefore
  rw [isBefore.eq_of_length_le isAfter.length_le]
  exact isDirectory

theorem IsPaved.cons {name : String} {names : List String}
    (isDirectory : tree.at? route = some .directory)
    (rest : tree.IsPaved (route ++ [name]) names) :
    tree.IsPaved route (name :: names) := by
  intro other isAfter isBefore
  obtain ⟨later, rfl⟩ := isAfter
  cases later with
  | nil =>
      rw [List.append_nil]
      exact isDirectory
  | cons first later =>
      have sameName : first = name :=
        (List.cons_prefix_cons.mp
          (List.prefix_append_right_inj route |>.mp isBefore)).1
      have oneStep : route ++ first :: later = route ++ [name] ++ later := by
        rw [sameName, List.append_assoc, List.singleton_append]
      rw [oneStep] at isBefore ⊢
      apply rest
      · exact List.prefix_append _ later
      · rw [List.append_assoc route [name] names, List.singleton_append]
        exact isBefore

/-- The directories that were asked for are there. -/
theorem isPaved_makeDirectories {names : List String}
    (plain : ∀ name ∈ names, Path.IsPlainName name) {tree : FileTree}
    {route place : Route}
    (made : (tree.makeDirectories route names).1 = .ok place) :
    place = route ++ names ∧
      (tree.makeDirectories route names).2.IsPaved route names := by
  induction names generalizing tree route with
  | nil =>
      rw [makeDirectories] at made ⊢
      split at made
      · rename_i free
        cases made
        rw [List.append_nil]
        exact ⟨rfl, isPaved_nil
          (at?_put_self (ne_nil_of_at?_eq_none free) .directory)⟩
      · cases made
      · rename_i isDirectory
        cases made
        rw [List.append_nil]
        exact ⟨rfl, isPaved_nil isDirectory⟩
  | cons name names induction =>
      have plainLater : ∀ name ∈ names, Path.IsPlainName name :=
        fun other member => plain other (List.mem_cons_of_mem name member)
      have step : ∀ between : FileTree,
          between.at? route = some .directory →
          (between.makeDirectories (route ++ [name]) names).1 = .ok place →
          place = route ++ name :: names ∧
            (between.makeDirectories (route ++ [name]) names).2.IsPaved route
              (name :: names) := by
        intro between isDirectory later
        obtain ⟨rfl, paved⟩ := induction plainLater later
        rw [List.append_assoc, List.singleton_append]
        exact ⟨rfl, paved.cons ((paves_makeDirectories plainLater between
          (route ++ [name])).kept route .directory isDirectory)⟩
      rw [makeDirectories, step_of_isPlainName (plain name List.mem_cons_self)]
        at made ⊢
      split at made
      · cases made
      · rename_i isDirectory
        split at made
        · cases made
        · rename_i small
          rw [if_neg small]
          exact step tree isDirectory made
      · rename_i free
        dsimp only at made
        split at made
        · cases made
        · rename_i small
          dsimp only
          rw [if_neg small]
          exact step _ (at?_put_self (ne_nil_of_at?_eq_none free) .directory)
            made

/-- Whatever the pieces say, they lead to a directory. -/
theorem at?_of_makeDirectories {pieces : List String} {place : Route}
    (made : tree.makeDirectories route pieces = (.ok place, after)) :
    after.at? place = some .directory := by
  induction pieces generalizing tree route with
  | nil =>
      rw [makeDirectories] at made
      split at made
      · rename_i free
        cases made
        exact at?_put_self (ne_nil_of_at?_eq_none free) .directory
      · cases made
      · rename_i isDirectory
        cases made
        exact isDirectory
  | cons piece pieces induction =>
      rw [makeDirectories] at made
      split at made
      · cases made
      · split at made
        · cases made
        · exact induction made
      · dsimp only at made
        split at made
        · cases made
        · exact induction made

/-- Of the places right below, directories come to that of the first name. -/
theorem Paves.at?_append_singleton {names : List String}
    (paves : Paves route names before after)
    (paved : after.IsPaved route names) (name : String) :
    after.at? (route ++ [name]) = (before.at? (route ++ [name])).or
      (if names.head? = some name then some .directory else none) := by
  cases there : before.at? (route ++ [name]) with
  | some entry => exact paves.kept _ entry there
  | none =>
      rw [Option.none_or]
      have first : [name] <+: names ↔ names.head? = some name := by
        cases names with
        | nil => simp
        | cons other names => simp [List.cons_prefix_cons, eq_comm]
      split
      · rename_i isFirst
        exact paved _ (List.prefix_append route [name])
          ((List.prefix_append_right_inj route).mpr (first.mpr isFirst))
      · rename_i isOther
        by_cases made : after.at? (route ++ [name]) = none
        · exact made
        · have onTheWay := (paves.made _ there made).2.1
          exact (isOther (first.mp
            ((List.prefix_append_right_inj route).mp onTheWay))).elim

theorem paves_makeBelow {names : List String}
    (plain : ∀ name ∈ names, Path.IsPlainName name) (tree : FileTree)
    (root : Route) : Paves root names tree (tree.makeBelow root names).2 := by
  rw [makeBelow]
  split
  · exact Paves.refl root names tree
  · split
    · exact Paves.refl root names tree
    · exact paves_makeDirectories plain tree root

theorem isPaved_makeBelow {names : List String}
    (plain : ∀ name ∈ names, Path.IsPlainName name) {place : Route}
    (made : (tree.makeBelow root names).1 = .ok place) :
    place = root ++ names ∧
      (tree.makeBelow root names).2.IsPaved root names := by
  rw [makeBelow] at made ⊢
  split at made
  · cases made
  · rename_i noZero
    rw [if_neg noZero]
    split at made
    · cases made
    · rename_i short
      rw [if_neg short]
      exact isPaved_makeDirectories plain made

/-! ## Writing -/

/-- What a successful writing has found and has done. -/
theorem write_eq_ok {content : Bytes}
    (written : tree.write route content = .ok after) :
    tree.at? route.dropLast = some .directory ∧
      tree.at? route ≠ some .directory ∧
      after = tree.put route (.file content) := by
  rw [write] at written
  split at written
  · cases written
  · split at written
    · cases written
    · split at written
      · cases written
      · cases written
      · rename_i inDirectory
        split at written
        · cases written
        · split at written
          · cases written
          · rename_i notDirectory
            cases written
            exact ⟨inDirectory, notDirectory, rfl⟩

end FileTree

theorem Disk.at?_of_makeDirectories {disk after : Disk} {path : String}
    {place : Route} (named : path ≠ "")
    (made : disk.makeDirectories path = (.ok place, after)) :
    after.tree.at? place = some .directory := by
  rw [Disk.makeDirectories, if_neg named] at made
  split at made
  · cases made
  · rw [Prod.mk.injEq] at made
    obtain ⟨isPlace, rfl⟩ := made
    exact FileTree.at?_of_makeDirectories (Prod.ext isPlace rfl)

end ClusterTrace
