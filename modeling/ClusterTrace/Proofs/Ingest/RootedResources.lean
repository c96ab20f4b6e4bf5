import ClusterTrace.Proofs.Ingest.ExtractionAccount
import ClusterTrace.Proofs.Ingest.FoundManifests

/-!
# Rooted resources

Below the target a resource is rooted if its path begins with the directory of
resources that it was gathered in.  Only there does a layout find it.  A
resource is rooted just if the names in front of it are those of the first
resource, or there are none; the others keep theirs, and no layout finds them.
-/

namespace ClusterTrace.Ingest

open Archive (Member)

/-! ## Layouts -/

/-- A pattern of a layout starts with a directory of resources. -/
theorem exists_root_of_mem_layouts :
    ∀ layout ∈ layouts,
      ∀ patterns ∈ layout.allPatterns,
        ∃ root first second rest, isRoot root = true ∧
          patterns = .exactly root :: first :: second :: rest := by
  intro layout isLayout patterns isPattern
  simp only [layouts, List.mem_cons, List.not_mem_nil, or_false] at isLayout
  simp only [Layout.allPatterns, List.mem_cons, List.not_mem_nil, or_false]
    at isPattern
  rcases isLayout with rfl | rfl | rfl | rfl | rfl | rfl | rfl <;>
    rcases isPattern with rfl | rfl <;>
      exact ⟨_, _, _, _, by decide, rfl⟩

/-- A layout finds nothing outside of the directories of resources. -/
theorem acceptsCopy_eq_false {layout : Layout} (isLayout : layout ∈ layouts)
    {patterns : List NamePattern} (isPattern : patterns ∈ layout.allPatterns)
    {route : Route} (outside : ∀ root, route.head? = some root →
      isRoot root = false ∨ route = [root]) :
    acceptsCopy patterns route = false := by
  obtain ⟨root, first, second, rest, atRoot, rfl⟩ :=
    exists_root_of_mem_layouts layout isLayout patterns isPattern
  have tooShort : ∀ name, acceptsRoute
      (.exactly root :: first :: second :: rest) [name] = false := by
    intro name
    simp [acceptsRoute]
  have elsewhere : ∀ name names, isRoot name = false → acceptsRoute
      (.exactly root :: first :: second :: rest) (name :: names) = false := by
    intro name names notRoot
    have different : name ≠ root := by
      rintro rfl
      rw [atRoot] at notRoot
      cases notRoot
    simp [acceptsRoute, NamePattern.accepts, different]
  rw [acceptsCopy, Bool.or_eq_false_iff]
  rcases route with _ | ⟨name, _ | ⟨next, names⟩⟩
  case nil => exact ⟨rfl, rfl⟩
  case cons.nil =>
      refine ⟨tooShort name, ?_⟩
      rw [routeBeforeRename?, List.getLast?_singleton, Option.bind_some]
      cases nameBeforeRename? name with
      | none => rfl
      | some old => exact tooShort old
  case cons.cons =>
      have notRoot : isRoot name = false := by
        rcases outside name rfl with notRoot | single
        · exact notRoot
        · cases single
      refine ⟨elsewhere name _ notRoot, ?_⟩
      rw [routeBeforeRename?, List.dropLast_cons_cons]
      cases (name :: next :: names).getLast? with
      | none => rfl
      | some last =>
          rw [Option.bind_some]
          cases nameBeforeRename? last with
          | none => rfl
          | some old => exact elsewhere name _ notRoot

/-! ## Places -/

variable {target : Route} {members : List Member} {member : Member}
  {extraction : Extraction} {tree after : FileTree}
  {producer own kept rest placed : List String} {root : String}

theorem destination_eq (target : Route)
    (outside : ∀ name ∈ producer, isRoot name = false)
    (named : resourceNames? member = some (own, root :: rest)) :
    destination target producer member =
      target ++ (relativeNames producer own ++ root :: rest) := by
  rw [destination, memberNames_eq named, relativeNames_append_below outside
    (resourceNames?_eq_some_iff.mp named).2.2]

/-- A number changes the last name only. -/
theorem IsFirstFree.head?_cases
    (first : IsFirstFree tree (target ++ (kept ++ root :: rest))
      (target ++ placed)) :
    placed.head? = (kept ++ root :: rest).head? ∧ (kept ≠ [] ∨ rest ≠ []) ∨
      kept = [] ∧ rest = [] ∧ ∃ name, placed = [name] := by
  obtain ⟨count, isPlace⟩ := first.exists_count
    (List.append_ne_nil_of_right_ne_nil kept (List.cons_ne_nil root rest))
  rw [List.append_cancel_left_eq] at isPlace
  cases kept with
  | cons name kept =>
      left
      simp [isPlace, List.dropLast_cons_of_ne_nil]
  | nil =>
      cases rest with
      | nil =>
          right
          exact ⟨rfl, rfl, _, isPlace⟩
      | cons next rest =>
          left
          simp [isPlace]

theorem IsFirstFree.head?_iff
    (first : IsFirstFree tree (target ++ (kept ++ root :: rest))
      (target ++ placed))
    (outside : ∀ name ∈ kept, isRoot name = false)
    (atRoot : isRoot root = true) :
    placed.head? = some root ↔ kept = [] ∧
      (rest ≠ [] ∨ tree.has (target ++ (kept ++ root :: rest)) = false) := by
  rcases first.head?_cases with ⟨sameHead, long⟩ | ⟨rfl, rfl, name, rfl⟩
  · rw [sameHead]
    cases kept with
    | cons name kept =>
        have different : name ≠ root := by
          rintro rfl
          rw [outside name List.mem_cons_self] at atRoot
          cases atRoot
        simp [different]
    | nil => simp [long.resolve_left (fun named => named rfl)]
  · have free := first.eq_wanted_iff (List.append_ne_nil_of_right_ne_nil target
      (List.cons_ne_nil root []))
    rw [List.append_cancel_left_eq] at free
    rw [List.nil_append] at free ⊢
    rw [← free]
    simp

/-- What is not rooted lies outside of the directories of resources. -/
theorem IsFirstFree.outside_of_head?_ne
    (first : IsFirstFree tree (target ++ (kept ++ root :: rest))
      (target ++ placed))
    (outside : ∀ name ∈ kept, isRoot name = false)
    (elsewhere : placed.head? ≠ some root) :
    ∀ name, placed.head? = some name →
      isRoot name = false ∨ placed = [name] := by
  intro name isFirst
  rcases first.head?_cases with ⟨sameHead, _⟩ | ⟨_, _, other, rfl⟩
  · left
    cases kept with
    | cons other kept =>
        rw [sameHead, List.cons_append, List.head?_cons, Option.some.injEq]
          at isFirst
        exact outside name (by rw [isFirst]; exact List.mem_cons_self)
    | nil => exact (elsewhere sameHead).elim
  · cases isFirst
    exact .inr rfl

/-! ## Archives -/

/-- The content of every resource file comes to a place that is rooted just if
the names in front of the resource are those of the first one, or there are
none, and no number stands at the root.  No layout finds what is not rooted. -/
theorem rooted_iff_of_extractMembers
    (isDirectory : tree.at? target = some .directory)
    (extracted : extractMembers target members {} tree =
      (.ok extraction, after)) :
    ∀ entry ∈ resourceFiles members, ∀ own root rest,
      resourceNames? entry.1 = some (own, root :: rest) →
      ∃ placed, after.at? (target ++ placed) = some (.file entry.1.content) ∧
        placeAt target members tree entry = target ++ placed ∧
        (placed.head? = some root ↔
          (own = producerOf members ∨ own = []) ∧
            (rest ≠ [] ∨ (treeAt target members tree entry.2).has
              (destination target (producerOf members) entry.1) = false)) ∧
        (placed.head? ≠ some root → ∀ layout ∈ layouts,
          acceptsCopy layout.perObject placed = false ∧
            acceptsCopy layout.fallback placed = false) := by
  intro entry isEntry own root rest named
  obtain ⟨producer, known⟩ :=
    Option.isSome_iff_exists.mp (firstProducer?_isSome_of_mem isEntry)
  have outside : ∀ name ∈ producerOf members, isRoot name = false := by
    rw [producerOf, known]
    exact isOutside_firstProducer? known
  obtain ⟨_, ownOutside, _, _, ⟨rfl, rfl⟩, atRoot⟩ :=
    resourceNames?_eq_some_iff.mp named
  have keptOutside : ∀ name ∈ relativeNames (producerOf members) own,
      isRoot name = false := fun name isKept =>
    ownOutside name (mem_of_mem_relativeNames isKept)
  have isWanted := destination_eq target outside named
  have first := isFirstFree_placeAt isDirectory extracted entry isEntry
  rw [isWanted] at first
  obtain ⟨count, isPlace⟩ := first.exists_count
    (List.append_ne_nil_of_right_ne_nil _ (List.cons_ne_nil root rest))
  have there := at?_placeAt isDirectory extracted entry isEntry
  rw [isPlace] at first there
  refine ⟨_, there, isPlace, ?_, ?_⟩
  · rw [first.head?_iff keptOutside atRoot, relativeNames_eq_nil_iff, isWanted]
  · intro elsewhere layout isLayout
    have misplaced := first.outside_of_head?_ne keptOutside elsewhere
    constructor
    · exact acceptsCopy_eq_false isLayout List.mem_cons_self misplaced
    · exact acceptsCopy_eq_false isLayout
        (List.mem_cons_of_mem _ List.mem_cons_self) misplaced

/-- A resource without names in front of it comes to the place that another
producer's resource has taken, under a number. -/
theorem rooted_of_unnamed_producer :
    let members :=
      [fileAt "a/b/namespaces/x/core/pods.yaml" [1],
        fileAt "namespaces/x/core/pods.yaml" [2]]
    let entry := (fileAt "namespaces/x/core/pods.yaml" [2], 1)
    let before := ({} : FileTree).put ["space"] .directory
    let extraction : Extraction :=
      { producer := some ["a", "b"], files := 2, renamed := 1 }
    let after := (extractMembers ["space"] members {} before).2
    before.at? ["space"] = some .directory ∧
      extractMembers ["space"] members {} before = (.ok extraction, after) ∧
      entry ∈ resourceFiles members ∧
      resourceNames? entry.1 =
        some ([], ["namespaces", "x", "core", "pods.yaml"]) ∧
      ∃ placed, after.at? ("space" :: placed) = some (.file [2]) ∧
        placeAt ["space"] members before entry = "space" :: placed ∧
        placed.head? = some "namespaces" := by
  intro members entry before extraction after
  have isDirectory : before.at? ["space"] = some .directory := by decide
  have extracted : extractMembers ["space"] members {} before =
      (.ok extraction, after) := by
    apply Prod.ext
    · decide +kernel
    · rfl
  have isEntry : entry ∈ resourceFiles members := by decide +kernel
  have named : resourceNames? entry.1 =
      some ([], ["namespaces", "x", "core", "pods.yaml"]) := by decide +kernel
  obtain ⟨placed, there, isPlace, rooted, _⟩ := rooted_iff_of_extractMembers
    isDirectory extracted entry isEntry _ _ _ named
  refine ⟨isDirectory, extracted, isEntry, named, placed, there, isPlace, ?_⟩
  exact rooted.mpr ⟨.inr rfl, .inl (List.cons_ne_nil _ _)⟩

/-- A second producer's resource stays below the producer's own names. -/
theorem misplaced_of_second_producer :
    let members :=
      [fileAt "a/namespaces/x/core/pods.yaml" [1],
        fileAt "b/namespaces/x/core/pods.yaml" [2]]
    let run := extractMembers ["space"] members {}
      (({} : FileTree).put ["space"] .directory)
    run.1 = .ok { producer := some ["a"], files := 2 } ∧
      run.2.entries.filter (fun (_, entry) => entry ≠ .directory) =
        [(["space", "namespaces", "x", "core", "pods.yaml"], .file [1]),
          (["space", "b", "namespaces", "x", "core", "pods.yaml"],
            .file [2])] := by
  decide +kernel

end ClusterTrace.Ingest
