import ClusterTrace.Ingest.Import
import ClusterTrace.Proofs.Files.Replacement
import Mathlib.Data.List.Nodup

/-!
# Manifests that are found

No file is a manifest of two layouts, not even as a copy: the names that their
patterns ask for differ somewhere, and a name that a pattern asks for is none
that a numbering gives.  So every file is read once at most.
-/

namespace ClusterTrace.Ingest

/-! ## Patterns -/

/-- No name matches both patterns. -/
def NamePattern.excludes : NamePattern → NamePattern → Bool
  | .exactly name, .exactly other => name ≠ other
  | _, _ => false

/-- No route matches both lists of patterns. -/
def excludesRoute : List NamePattern → List NamePattern → Bool
  | [], [] => false
  | pattern :: patterns, other :: others =>
      pattern.excludes other || excludesRoute patterns others
  | _, _ => true

/-- The pattern asks for no name that a numbering gives. -/
def NamePattern.isUnnumbered : NamePattern → Bool
  | .exactly name => nameBeforeRename? name = none
  | _ => true

variable {pattern other : NamePattern} {patterns others : List NamePattern}
  {names : Route} {name : String}

theorem acceptsRoute_of_excludesRoute
    (excludes : excludesRoute patterns others = true)
    (accepts : acceptsRoute patterns names = true) :
    acceptsRoute others names = false := by
  induction patterns generalizing others names with
  | nil =>
      cases names with
      | cons => cases accepts
      | nil =>
          cases others with
          | nil => cases excludes
          | cons => rfl
  | cons pattern patterns induction =>
      cases names with
      | nil => cases accepts
      | cons name names =>
          cases others with
          | nil => rfl
          | cons other others =>
              rw [acceptsRoute, Bool.and_eq_true] at accepts
              rw [excludesRoute, Bool.or_eq_true] at excludes
              rw [acceptsRoute, Bool.and_eq_false_iff]
              rcases excludes with here | later
              · left
                cases pattern <;> cases other <;>
                  simp_all [NamePattern.excludes, NamePattern.accepts]
              · exact .inr (induction later accepts.2)

theorem acceptsRoute_concat :
    acceptsRoute (patterns ++ [pattern]) (names ++ [name]) =
      (acceptsRoute patterns names && pattern.accepts name) := by
  induction patterns generalizing names with
  | nil =>
      cases names with
      | nil => simp [acceptsRoute]
      | cons first names => cases names <;> simp [acceptsRoute]
  | cons first patterns induction =>
      cases names with
      | nil => cases patterns <;> simp [acceptsRoute]
      | cons second names =>
          rw [List.cons_append, List.cons_append, acceptsRoute, acceptsRoute,
            induction, Bool.and_assoc]

/-- Only the last name of a copy may differ. -/
theorem acceptsCopy_concat :
    acceptsCopy (patterns ++ [pattern]) (names ++ [name]) =
      (acceptsRoute patterns names && (pattern.accepts name ||
        (nameBeforeRename? name).any pattern.accepts)) := by
  rw [acceptsCopy, routeBeforeRename?, List.getLast?_concat, Option.bind_some,
    List.dropLast_concat, acceptsRoute_concat, Bool.and_or_distrib_left]
  cases nameBeforeRename? name with
  | none => simp
  | some old => simp [acceptsRoute_concat]

theorem acceptsCopy_nil : acceptsCopy (patterns ++ [pattern]) [] = false := by
  cases patterns <;> rfl

theorem excludesRoute_concat :
    excludesRoute (patterns ++ [pattern]) (others ++ [other]) =
      (excludesRoute patterns others || pattern.excludes other) := by
  induction patterns generalizing others with
  | nil =>
      cases others with
      | nil => simp [excludesRoute]
      | cons first others => cases others <;> simp [excludesRoute]
  | cons first patterns induction =>
      cases others with
      | nil => cases patterns <;> simp [excludesRoute]
      | cons second others =>
          rw [List.cons_append, List.cons_append, excludesRoute, excludesRoute,
            induction, Bool.or_assoc]

/-- A copy of a name that one pattern asks for is none of a name that the other
one asks for. -/
theorem NamePattern.not_both (excludes : pattern.excludes other = true)
    (unnumbered : pattern.isUnnumbered = true)
    (unnumbered' : other.isUnnumbered = true)
    (accepts : (pattern.accepts name ||
      (nameBeforeRename? name).any pattern.accepts) = true) :
    (other.accepts name || (nameBeforeRename? name).any other.accepts) =
      false := by
  match pattern, other with
  | .exactly first, .exactly second =>
      simp only [NamePattern.excludes, NamePattern.isUnnumbered,
        decide_eq_true_eq] at excludes unnumbered unnumbered'
      cases before : nameBeforeRename? name with
      | none => simp_all [NamePattern.accepts]
      | some old =>
          have numbered : name ≠ first ∧ name ≠ second := by
            constructor <;> rintro rfl <;> simp_all
          simp_all [NamePattern.accepts]

theorem acceptsCopy_of_excludesRoute
    (excludes : excludesRoute patterns others = true)
    (unnumbered : patterns.getLast?.all NamePattern.isUnnumbered = true)
    (unnumbered' : others.getLast?.all NamePattern.isUnnumbered = true)
    (named : patterns ≠ [] ∧ others ≠ [])
    (accepts : acceptsCopy patterns names = true) :
    acceptsCopy others names = false := by
  rcases List.eq_nil_or_concat' patterns with rfl | ⟨patterns, pattern, rfl⟩
  · exact (named.1 rfl).elim
  rcases List.eq_nil_or_concat' others with rfl | ⟨others, other, rfl⟩
  · exact (named.2 rfl).elim
  rw [List.getLast?_concat, Option.all_some] at unnumbered unnumbered'
  rcases List.eq_nil_or_concat' names with rfl | ⟨names, name, rfl⟩
  · exact acceptsCopy_nil
  · rw [acceptsCopy_concat, Bool.and_eq_true] at accepts
    rw [acceptsCopy_concat, Bool.and_eq_false_iff]
    rw [excludesRoute_concat, Bool.or_eq_true] at excludes
    rcases excludes with directories | last
    · exact .inl (acceptsRoute_of_excludesRoute directories accepts.1)
    · exact .inr (NamePattern.not_both last unnumbered unnumbered' accepts.2)

/-! ## Layouts -/

/-- The lists of patterns of a layout. -/
def Layout.allPatterns (layout : Layout) : List (List NamePattern) :=
  [layout.perObject, layout.fallback]

/-- The layout may find the file, by itself or where there is no file of one
object. -/
def Layout.accepts (layout : Layout) (names : Route) : Prop :=
  ∃ patterns ∈ layout.allPatterns, acceptsCopy patterns names = true

theorem patterns_of_layouts : ∀ layout ∈ layouts,
    ∀ patterns ∈ layout.allPatterns, patterns ≠ [] ∧
      patterns.getLast?.all NamePattern.isUnnumbered = true ∧
      patterns.getLast?.all (fun last => !last.accepts timestampName) =
        true := by
  decide +kernel

theorem excludesRoute_of_layouts : ∀ layout ∈ layouts, ∀ other ∈ layouts,
    layout.kind ≠ other.kind → ∀ patterns ∈ layout.allPatterns,
      ∀ others ∈ other.allPatterns, excludesRoute patterns others = true := by
  decide

/-- No file is one of two layouts. -/
theorem kind_unique {layout other : Layout} (isLayout : layout ∈ layouts)
    (isOther : other ∈ layouts) (accepts : layout.accepts names)
    (accepts' : other.accepts names) : layout.kind = other.kind := by
  by_contra different
  obtain ⟨patterns, isPatterns, accepts⟩ := accepts
  obtain ⟨others, isOthers, accepts'⟩ := accepts'
  have excludes := excludesRoute_of_layouts layout isLayout other isOther
    different patterns isPatterns others isOthers
  obtain ⟨named, unnumbered, _⟩ :=
    patterns_of_layouts layout isLayout patterns isPatterns
  obtain ⟨named', unnumbered', _⟩ :=
    patterns_of_layouts other isOther others isOthers
  rw [acceptsCopy_of_excludesRoute excludes unnumbered unnumbered'
    ⟨named, named'⟩ accepts] at accepts'
  cases accepts'

theorem ne_nil_of_accepts {layout : Layout} (isLayout : layout ∈ layouts)
    (accepts : layout.accepts names) : names ≠ [] := by
  obtain ⟨patterns, isPatterns, accepts⟩ := accepts
  obtain ⟨named, _⟩ := patterns_of_layouts layout isLayout patterns isPatterns
  rintro rfl
  cases patterns with
  | nil => exact named rfl
  | cons => cases accepts

/-- The time stamp is no manifest. -/
theorem getLast?_ne_timestampName {layout : Layout}
    (isLayout : layout ∈ layouts) (accepts : layout.accepts names) :
    names.getLast? ≠ some timestampName := by
  obtain ⟨patterns, isPatterns, accepts⟩ := accepts
  obtain ⟨named, _, noTimestamp⟩ :=
    patterns_of_layouts layout isLayout patterns isPatterns
  rcases List.eq_nil_or_concat' patterns with rfl | ⟨patterns, pattern, rfl⟩
  · exact (named rfl).elim
  rw [List.getLast?_concat, Option.all_some, Bool.not_eq_true'] at noTimestamp
  intro isTimestamp
  obtain ⟨directory, rfl⟩ := List.getLast?_eq_some_iff.mp isTimestamp
  have noOld : nameBeforeRename? timestampName = none := by decide
  rw [acceptsCopy_concat, noTimestamp, noOld, Option.any_none, Bool.or_false,
    Bool.and_false] at accepts
  cases accepts

/-! ## Files -/

variable {tree : FileTree} {root : Route}

theorem pairwise_entries (tree : FileTree) :
    tree.entries.Pairwise fun first second => first.1 ≠ second.1 :=
  List.pairwise_map.mp tree.distinct

/-- A place below a directory with its route from there. -/
theorem eq_of_isPrefixOf?_eq_some {route : Route} {entry entry' : FileEntry}
    (below : (match root.isPrefixOf? route with
      | some (name :: names) => some (name :: names, entry)
      | _ => none) = some (names, entry')) :
    route = root ++ names ∧ entry' = entry := by
  split at below
  · rename_i name later isBelow
    cases below
    exact ⟨(List.isPrefixOf?_eq_some_iff_append_eq.mp isBelow).symm, rfl⟩
  · cases below

theorem pairwise_below (tree : FileTree) (root : Route) :
    (tree.below root).Pairwise fun first second => first.1 ≠ second.1 := by
  rw [FileTree.below,
    (List.mergeSort_perm _ _).pairwise_iff (fun different => different.symm)]
  apply List.Pairwise.filterMap _ _ (pairwise_entries tree)
  rintro ⟨route, entry⟩ ⟨route', entry'⟩ different ⟨names, _⟩ isBelow
    ⟨names', _⟩ isBelow' same
  apply different
  rw [(eq_of_isPrefixOf?_eq_some isBelow).1,
    (eq_of_isPrefixOf?_eq_some isBelow').1]
  exact congrArg (root ++ ·) same

theorem at?_of_mem_below {entry : FileEntry}
    (isBelow : (names, entry) ∈ tree.below root) :
    tree.at? (root ++ names) = some entry := by
  rw [FileTree.below, List.mem_mergeSort, List.mem_filterMap] at isBelow
  obtain ⟨⟨route, entry'⟩, isEntry, isBelow⟩ := isBelow
  have named : route ≠ [] := by
    rintro rfl
    cases root <;> simp at isBelow
  obtain ⟨rfl, rfl⟩ := eq_of_isPrefixOf?_eq_some isBelow
  rw [FileTree.at?, if_neg named]
  exact Assoc.get?_of_mem tree.distinct isEntry

theorem nodup_filesBelow (tree : FileTree) (root : Route) :
    (filesBelow tree root).Nodup := by
  apply List.Pairwise.filterMap _ _ (pairwise_below tree root)
  rintro ⟨names, _ | _⟩ ⟨names', _ | _⟩ different _ isFile _ isFile' same
  · cases isFile
  · cases isFile
  · cases isFile'
  · cases isFile
    cases isFile'
    exact different same

theorem at?_of_mem_filesBelow (isFile : names ∈ filesBelow tree root) :
    ∃ content, tree.at? (root ++ names) = some (.file content) := by
  rw [filesBelow, List.mem_filterMap] at isFile
  obtain ⟨⟨route, _ | content⟩, isBelow, found⟩ := isFile
  · cases found
  · cases found
    exact ⟨content, at?_of_mem_below isBelow⟩

/-! ## Manifests -/

theorem find_cases (layout : Layout) (tree : FileTree) (root : Route) :
    layout.find tree root = [] ∨ ∃ patterns ∈ layout.allPatterns,
      layout.find tree root =
        (filesBelow tree root).filter (acceptsCopy patterns) := by
  rw [Layout.find]
  split
  · right
    dsimp only
    split
    · exact ⟨layout.fallback, List.mem_cons_of_mem _ List.mem_cons_self, rfl⟩
    · exact ⟨layout.perObject, List.mem_cons_self, rfl⟩
  · exact .inl rfl

theorem nodup_find (layout : Layout) (tree : FileTree) (root : Route) :
    (layout.find tree root).Nodup := by
  rcases find_cases layout tree root with none | ⟨patterns, _, found⟩
  · rw [none]
    exact List.nodup_nil
  · rw [found]
    exact (nodup_filesBelow tree root).filter _

theorem mem_find {layout : Layout} (isFound : names ∈ layout.find tree root) :
    layout.accepts names ∧ names ∈ filesBelow tree root := by
  rcases find_cases layout tree root with none | ⟨patterns, isPatterns, found⟩
  · rw [none] at isFound
    cases isFound
  · rw [found, List.mem_filter] at isFound
    exact ⟨⟨patterns, isPatterns, isFound.2⟩, isFound.1⟩

/-- The manifests below a directory, each with the kind of the layout that it is
found by. -/
def foundManifests (tree : FileTree) (root : Route) : List (Kind × Route) :=
  layouts.flatMap fun layout =>
    (layout.find tree root).map fun names => (layout.kind, names)

theorem exists_layout_of_mem_foundManifests {found : Kind × Route}
    (isFound : found ∈ foundManifests tree root) :
    ∃ layout ∈ layouts, layout.kind = found.1 ∧
      found.2 ∈ layout.find tree root := by
  obtain ⟨layout, isLayout, inLayout⟩ := List.mem_flatMap.mp isFound
  obtain ⟨names, inFind, rfl⟩ := List.mem_map.mp inLayout
  exact ⟨layout, isLayout, rfl, inFind⟩

/-- No file is found twice. -/
theorem nodup_foundManifests (tree : FileTree) (root : Route) :
    ((foundManifests tree root).map (·.2)).Nodup := by
  have distinctKinds : layouts.Pairwise fun layout other =>
      layout.kind ≠ other.kind := by decide
  have routes : (foundManifests tree root).map (·.2) =
      layouts.flatMap fun layout => layout.find tree root := by
    rw [foundManifests, List.map_flatMap]
    congr 1
    funext layout
    rw [List.map_map]
    exact List.map_id _
  rw [routes, List.nodup_flatMap]
  constructor
  · intro layout _
    exact nodup_find layout tree root
  · apply distinctKinds.imp_of_mem
    intro layout other isLayout isOther different
    apply List.disjoint_left.mpr
    intro names inLayout inOther
    exact different (kind_unique isLayout isOther (mem_find inLayout).1
      (mem_find inOther).1)

/-! ## Other content -/

variable {route : Route} {content content' : Bytes}

/-- Other content in a file leaves all places in their order. -/
theorem below_put (isFile : tree.at? route = some (.file content))
    (content' : Bytes) :
    (tree.put route (.file content')).below root =
      (tree.below root).map fun (names, entry) =>
        if root ++ names = route then (names, .file content')
        else (names, entry) := by
  rw [FileTree.at?, if_neg (FileTree.ne_nil_of_at?_eq_file isFile)] at isFile
  have entries : (tree.put route (.file content')).entries =
      tree.entries.map fun pair =>
        if pair.1 = route then (route, .file content') else pair :=
    Assoc.put_eq_map tree.distinct (Assoc.mem_keys_of_get? isFile) _
  rw [FileTree.below, FileTree.below, entries, List.filterMap_map]
  symm
  rw [List.map_mergeSort]
  · rw [List.map_filterMap]
    congr 2
    funext pair
    obtain ⟨place, entry⟩ := pair
    have samePlace : (if place = route then (route, FileEntry.file content')
          else (place, entry)) =
        (place, if place = route then .file content' else entry) := by
      by_cases here : place = route <;> simp [here]
    dsimp only [Function.comp]
    rw [samePlace]
    dsimp only
    split
    · rename_i name later isBelow
      have whole := List.isPrefixOf?_eq_some_iff_append_eq.mp isBelow
      by_cases here : place = route <;> simp [whole, here]
    · rfl
  · rintro ⟨names, entry⟩ _ ⟨names', entry'⟩ _
    dsimp only
    split <;> split <;> rfl

theorem filesBelow_put (isFile : tree.at? route = some (.file content))
    (content' : Bytes) :
    filesBelow (tree.put route (.file content')) root =
      filesBelow tree root := by
  rw [filesBelow, below_put isFile, List.filterMap_map, filesBelow]
  apply List.filterMap_congr
  rintro ⟨names, entry⟩ isBelow
  dsimp only [Function.comp]
  by_cases here : root ++ names = route
  · have there := at?_of_mem_below isBelow
    rw [here, isFile] at there
    cases there
    rw [if_pos here]
  · rw [if_neg here]

theorem foundManifests_put (isFile : tree.at? route = some (.file content))
    (content' : Bytes) :
    foundManifests (tree.put route (.file content')) root =
      foundManifests tree root := by
  have sameRoot : (tree.put route (.file content')).at? root =
        some .directory ↔ tree.at? root = some .directory := by
    rcases (FileTree.sameShape_put isFile content').cases root with
      ⟨here, there⟩ | ⟨here, there⟩ | ⟨_, _, here, there⟩ <;>
        simp [here, there]
  have sameFind : ∀ layout : Layout,
      layout.find (tree.put route (.file content')) root =
        layout.find tree root := by
    intro layout
    rw [Layout.find, filesBelow_put isFile, Layout.find]
    simp only [sameRoot]
  rw [foundManifests, foundManifests]
  simp only [sameFind]

theorem contentAt_put_self (inside : route ≠ []) :
    contentAt (tree.put route (.file content)) route = content := by
  rw [contentAt, FileTree.at?_put_self inside]

theorem contentAt_put_of_ne {place : Route} (different : place ≠ route) :
    contentAt (tree.put route (.file content)) place =
      contentAt tree place := by
  rw [contentAt, FileTree.at?_put_of_ne different, contentAt]

end ClusterTrace.Ingest
