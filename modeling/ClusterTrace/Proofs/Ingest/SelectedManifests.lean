import ClusterTrace.Proofs.Ingest.FoundManifests
import ClusterTrace.Proofs.Ingest.Globs
import Mathlib.Data.String.Basic
import Mathlib.Order.Compare

/-!
# Selected manifests

The manifests that a layout finds are in the order of their routes, name by
name, and are those files that match the layout's glob for single objects or,
where no file does, its fallback.  No file is found by two layouts, so that none
is read as two kinds or twice as one, `find_selects`.
-/

namespace ClusterTrace

/-! ## The order of routes -/

namespace Route

theorem compareLex_eq_lt_iff {route other : Route} :
    List.compareLex compare route other = .lt ↔ route < other := by
  induction route generalizing other with
  | nil =>
      cases other with
      | nil => exact iff_of_false (by decide) (List.not_lt_nil [])
      | cons name names => exact iff_of_true rfl (List.nil_lt_cons name names)
  | cons name names ih =>
      cases other with
      | nil =>
          exact iff_of_false (by simp [List.compareLex]) (List.not_lt_nil _)
      | cons name' names' =>
          have before : compare name name' = .lt ↔ name < name' :=
            compare_lt_iff_lt
          have same : compare name name' = .eq ↔ name = name' :=
            compare_eq_iff_eq
          rw [List.compareLex_cons_cons, List.cons_lt_cons_iff, ← ih,
            Ordering.then_eq_lt]
          exact or_congr before (and_congr_left' same)

theorem isLE_trans (a b c : Route) (first : a.isLE b = true)
    (second : b.isLE c = true) : a.isLE c = true :=
  Std.TransCmp.isLE_trans first second

theorem isLE_total (a b : Route) : (a.isLE b || b.isLE a) = true := by
  have swapped : List.compareLex compare b a =
      (List.compareLex compare a b).swap := Std.OrientedCmp.eq_swap
  rw [isLE, isLE, swapped]
  cases List.compareLex compare a b <;> rfl

theorem lt_of_isLE {a b : Route} (atMost : a.isLE b = true)
    (different : a ≠ b) : a < b := by
  rw [isLE] at atMost
  cases outcome : List.compareLex compare a b with
  | lt => exact compareLex_eq_lt_iff.mp outcome
  | eq => exact (different (Std.LawfulEqCmp.eq_of_compare outcome)).elim
  | gt =>
      rw [outcome] at atMost
      cases atMost

end Route

namespace Ingest

variable {tree : FileTree} {root names : Route}

theorem pairwise_lt_below (tree : FileTree) (root : Route) :
    (tree.below root).Pairwise fun first second => first.1 < second.1 := by
  have ordered : (tree.below root).Pairwise
      fun first second => Route.isLE first.1 second.1 = true :=
    List.pairwise_mergeSort
      (fun first second third => Route.isLE_trans first.1 second.1 third.1)
      (fun first second => Route.isLE_total first.1 second.1) _
  exact (ordered.and (pairwise_below tree root)).imp fun both =>
    Route.lt_of_isLE both.1 both.2

theorem pairwise_lt_filesBelow (tree : FileTree) (root : Route) :
    (filesBelow tree root).Pairwise (· < ·) := by
  apply List.Pairwise.filterMap _ _ (pairwise_lt_below tree root)
  rintro ⟨names, _ | _⟩ ⟨names', _ | _⟩ earlier _ isFile _ isFile'
  · cases isFile
  · cases isFile
  · cases isFile'
  · cases isFile
    cases isFile'
    exact earlier

/-! ## Files below a directory -/

theorem mem_below_of_at? {entry : FileEntry} (named : names ≠ [])
    (isThere : tree.at? (root ++ names) = some entry) :
    (names, entry) ∈ tree.below root := by
  have inside : root ++ names ≠ [] := by simp [named]
  rw [FileTree.at?, if_neg inside] at isThere
  rw [FileTree.below, List.mem_mergeSort, List.mem_filterMap]
  refine ⟨(root ++ names, entry), Assoc.mem_of_get? isThere, ?_⟩
  have isBelow : root.isPrefixOf? (root ++ names) = some names :=
    List.isPrefixOf?_eq_some_iff_append_eq.mpr rfl
  cases names with
  | nil => exact (named rfl).elim
  | cons name names =>
      dsimp only
      rw [isBelow]

/-- The route leads from a directory to a file. -/
structure IsFileBelow (tree : FileTree) (root names : Route) : Prop where
  isDirectory : tree.at? root = some .directory
  isFile : ∃ content, tree.at? (root ++ names) = some (.file content)

theorem IsFileBelow.named (isBelow : IsFileBelow tree root names) :
    names ≠ [] := by
  rintro rfl
  obtain ⟨content, isFile⟩ := isBelow.isFile
  rw [List.append_nil, isBelow.isDirectory] at isFile
  cases isFile

theorem mem_filesBelow_iff (isDirectory : tree.at? root = some .directory) :
    names ∈ filesBelow tree root ↔ IsFileBelow tree root names := by
  constructor
  · exact fun member => ⟨isDirectory, at?_of_mem_filesBelow member⟩
  · intro isBelow
    obtain ⟨content, isFile⟩ := isBelow.isFile
    rw [filesBelow, List.mem_filterMap]
    exact ⟨(names, .file content), mem_below_of_at? isBelow.named isFile, rfl⟩

/-! ## Files that a layout selects -/

/-- The patterns of the layout ask for names without stars and slashes. -/
def Layout.IsPlain (layout : Layout) : Prop :=
  ∀ patterns ∈ layout.allPatterns,
    patterns ≠ [] ∧ ∀ pattern ∈ patterns, pattern.IsPlain

instance (layout : Layout) : Decidable layout.IsPlain :=
  inferInstanceAs (Decidable (∀ patterns ∈ layout.allPatterns, _ ∧ _))

/-- The file matches the glob for single objects, or else, if no file does, the
fallback. -/
def Layout.Selects (layout : Layout) (tree : FileTree) (root names : Route) :
    Prop :=
  MatchesCopy (globOf layout.perObject) names ∨
    (∀ other, IsFileBelow tree root other →
      ¬ MatchesCopy (globOf layout.perObject) other) ∧
    MatchesCopy (globOf layout.fallback) names

/-- The names of the files of a tree have no slashes. -/
def HasNames (tree : FileTree) : Prop :=
  ∀ route content, tree.at? route = some (.file content) →
    ∀ name ∈ route, '/' ∉ name.toList

theorem HasNames.matchesCopy_iff (hasNames : HasNames tree)
    (isBelow : IsFileBelow tree root names) {layout : Layout}
    (plain : layout.IsPlain) {patterns : List NamePattern}
    (isPatterns : patterns ∈ layout.allPatterns) :
    MatchesCopy (globOf patterns) names ↔
      acceptsCopy patterns names = true := by
  obtain ⟨given, isPlain⟩ := plain patterns isPatterns
  obtain ⟨content, isFile⟩ := isBelow.isFile
  exact matchesCopy_iff_acceptsCopy given isPlain isBelow.named
    fun name member =>
      hasNames _ content isFile name (List.mem_append_right _ member)

theorem mem_find_iff (hasNames : HasNames tree) {layout : Layout}
    (plain : layout.IsPlain) :
    names ∈ layout.find tree root ↔
      IsFileBelow tree root names ∧ layout.Selects tree root names := by
  have single : layout.perObject ∈ layout.allPatterns := List.mem_cons_self
  have fallback : layout.fallback ∈ layout.allPatterns :=
    List.mem_cons_of_mem _ List.mem_cons_self
  by_cases isDirectory : tree.at? root = some .directory
  · have noSingle : (filesBelow tree root).filter
          (acceptsCopy layout.perObject) = [] ↔
        ∀ other, IsFileBelow tree root other →
          ¬ MatchesCopy (globOf layout.perObject) other := by
      rw [List.filter_eq_nil_iff]
      refine forall_congr' fun other => ?_
      rw [mem_filesBelow_iff isDirectory]
      refine imp_congr_right fun isBelow => ?_
      rw [hasNames.matchesCopy_iff isBelow plain single]
    rw [Layout.find, if_pos isDirectory]
    dsimp only
    split
    · rename_i isEmpty
      have none := noSingle.mp (List.isEmpty_iff.mp isEmpty)
      rw [List.mem_filter, mem_filesBelow_iff isDirectory]
      refine and_congr_right fun isBelow => ?_
      rw [← hasNames.matchesCopy_iff isBelow plain fallback, Layout.Selects,
        or_iff_right (none names isBelow), and_iff_right none]
    · rename_i hasSingle
      rw [List.mem_filter, mem_filesBelow_iff isDirectory]
      refine and_congr_right fun isBelow => ?_
      rw [← hasNames.matchesCopy_iff isBelow plain single, Layout.Selects]
      refine (or_iff_left fun both => hasSingle ?_).symm
      exact List.isEmpty_iff.mpr (noSingle.mpr both.1)
  · rw [Layout.find, if_neg isDirectory]
    exact iff_of_false List.not_mem_nil fun both =>
      isDirectory both.1.isDirectory

theorem pairwise_lt_find (layout : Layout) (tree : FileTree) (root : Route) :
    (layout.find tree root).Pairwise (· < ·) := by
  rcases find_cases layout tree root with none | ⟨patterns, -, found⟩
  · rw [none]
    exact List.Pairwise.nil
  · rw [found]
    exact (pairwise_lt_filesBelow tree root).filter _

theorem isPlain_of_layouts : ∀ layout ∈ layouts, layout.IsPlain := by
  decide

/-- A plain layout finds the files that it selects, in the order of their
routes.  The layouts are plain, no file is found by two of them or twice by one,
and the files that are found are the manifests that are read. -/
theorem find_selects (hasNames : HasNames tree) (root : Route) :
    (∀ layout : Layout, layout.IsPlain →
      (layout.find tree root).Pairwise (· < ·) ∧
      ∀ names, names ∈ layout.find tree root ↔
        IsFileBelow tree root names ∧ layout.Selects tree root names) ∧
    (∀ layout ∈ layouts, layout.IsPlain) ∧
    ((foundManifests tree root).map (·.2)).Nodup ∧
    ∀ staging, manifestFiles tree root staging =
      (foundManifests tree root).map fun found =>
        ⟨found.1, Path.joinNames staging found.2,
          contentAt tree (root ++ found.2)⟩ := by
  refine ⟨fun layout plain => ?_, isPlain_of_layouts,
    nodup_foundManifests tree root, fun staging => ?_⟩
  · exact ⟨pairwise_lt_find layout tree root,
      fun names => mem_find_iff hasNames plain⟩
  · rw [manifestFiles, foundManifests, List.map_flatMap]
    simp only [List.map_map, Function.comp_def]

example : layouts.map (fun layout =>
      (layout.kind, globOf layout.perObject, globOf layout.fallback)) =
    [(.pod, "namespaces/*/pods/*/*.yaml", "namespaces/*/core/pods.yaml"),
      (.migration,
        "namespaces/*/kubevirt.io/virtualmachineinstancemigrations/*.yaml",
        "namespaces/*/kubevirt.io/virtualmachineinstancemigrations.yaml"),
      (.node, "cluster-scoped-resources/core/nodes/*.yaml",
        "cluster-scoped-resources/core/nodes.yaml"),
      (.vm, "namespaces/*/kubevirt.io/virtualmachines/*.yaml",
        "namespaces/*/kubevirt.io/virtualmachines.yaml"),
      (.vmi, "namespaces/*/kubevirt.io/virtualmachineinstances/*.yaml",
        "namespaces/*/kubevirt.io/virtualmachineinstances.yaml"),
      (.pvc, "namespaces/*/core/persistentvolumeclaims/*.yaml",
        "namespaces/*/core/persistentvolumeclaims.yaml"),
      (.subscription, "namespaces/*/operators.coreos.com/subscriptions/*.yaml",
        "namespaces/*/operators.coreos.com/subscriptions.yaml")] := by
  decide

theorem hasNames_of_entries
    (plain : ∀ pair ∈ tree.entries, ∀ name ∈ pair.1, '/' ∉ name.toList) :
    HasNames tree := by
  intro route content isFile
  rw [FileTree.at?, if_neg (FileTree.ne_nil_of_at?_eq_file isFile)] at isFile
  exact plain _ (Assoc.mem_of_get? isFile)

/-- A file of all pods and its copy. -/
def twoCopies : FileTree where
  entries :=
    [(["namespaces"], .directory), (["namespaces", "vms"], .directory),
      (["namespaces", "vms", "core"], .directory),
      (["namespaces", "vms", "core", "pods.yaml"], .file []),
      (["namespaces", "vms", "core", "pods_1.yaml"], .file [])]
  distinct := by decide

/-- Both are selected by the fallback, each once. -/
theorem find_selects_twoCopies :
    HasNames twoCopies ∧
      podLayout.find twoCopies [] =
        [["namespaces", "vms", "core", "pods.yaml"],
          ["namespaces", "vms", "core", "pods_1.yaml"]] ∧
      (podLayout.find twoCopies []).Pairwise (· < ·) ∧
      podLayout.Selects twoCopies []
        ["namespaces", "vms", "core", "pods_1.yaml"] ∧
      ((foundManifests twoCopies []).map (·.2)).Nodup := by
  have hasNames : HasNames twoCopies := hasNames_of_entries (by decide)
  have found : podLayout.find twoCopies [] =
      [["namespaces", "vms", "core", "pods.yaml"],
        ["namespaces", "vms", "core", "pods_1.yaml"]] := by
    rw [Layout.find, filesBelow, FileTree.below, List.mergeSort_of_pairwise]
    · decide
    · decide
  obtain ⟨finds, plain, once, -⟩ := find_selects hasNames []
  obtain ⟨inOrder, selected⟩ :=
    finds podLayout (plain podLayout List.mem_cons_self)
  have isFound : ["namespaces", "vms", "core", "pods_1.yaml"] ∈
      podLayout.find twoCopies [] := by
    rw [found]
    decide
  exact ⟨hasNames, found, inOrder, ((selected _).mp isFound).2, once⟩

end Ingest
end ClusterTrace
