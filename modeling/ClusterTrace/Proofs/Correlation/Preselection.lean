import ClusterTrace.Proofs.Correlation.MigrationQuery

/-!
# Preselected pods

A lookup selects some of the pods, by equal columns or by the pattern of a name,
and lists them by the texts of their times.  What is picked from such a list is
what is picked from all rows of the table, in whatever order these are listed,
`picks_of_lookups`.
-/

namespace ClusterTrace

open Time (Instant)

namespace Correlation

open Database (isNotAfter oldestFirst_cases)

/-! ## Launchers -/

/-- Only the pods of the instance on the node matter, in any order. -/
theorem launcher?_eq_of_perm {pods pods' : List Pod} {vmi node : String}
    (distinct : (pods.map (·.uuid)).Nodup)
    (perm : (pods.filter (isLauncherOn vmi node)).Perm
      (pods'.filter (isLauncherOn vmi node))) :
    launcher? pods vmi node = launcher? pods' vmi node :=
  firstLeast?_eq_of_perm isOlder_iff perm
    (age_unique distinct (List.filter_subset_self pods))

/-! ## Lists of selected pods -/

/-- The lookup gives pods of which something holds, unless a row that it selects
nests too deep to be read back. -/
def Gives (database : Database) (selects : Pod → Bool)
    (outcome : Outcome (List Pod)) (holds : List Pod → Prop) : Prop :=
  (∀ pod ∈ database.pods, selects pod = true →
      pod.content.depth ≤ Json.maxDepth) ∧
    (∃ pods, outcome = .ok pods ∧ holds pods) ∨
  (∃ pod ∈ database.pods, selects pod = true ∧
      Json.maxDepth < pod.content.depth) ∧
    FailsTooDeep outcome

variable {database : Database} {rows : List Pod} {selects : Pod → Bool}

theorem Gives.of_shallow {outcome : Outcome (List Pod)}
    {holds : List Pod → Prop} (gives : Gives database selects outcome holds)
    (shallow : ∀ pod ∈ database.pods, pod.content.depth ≤ Json.maxDepth) :
    ∃ pods, outcome = .ok pods ∧ holds pods := by
  rcases gives with ⟨-, given⟩ | ⟨⟨pod, member, -, deep⟩, -⟩
  · exact given
  · exact absurd deep (shallow pod member).not_gt

theorem Gives.imp {outcome : Outcome (List Pod)}
    {holds holds' : List Pod → Prop}
    (gives : Gives database selects outcome holds)
    (weaker : ∀ pods, holds pods → holds' pods) :
    Gives database selects outcome holds' :=
  gives.imp_left fun ⟨shallow, pods, given, held⟩ =>
    ⟨shallow, pods, given, weaker pods held⟩

theorem Gives.exists_ok_iff {outcome : Outcome (List Pod)}
    {holds : List Pod → Prop} (gives : Gives database selects outcome holds) :
    (∃ pods, outcome = .ok pods) ↔
      ∀ pod ∈ database.pods, selects pod = true →
        pod.content.depth ≤ Json.maxDepth := by
  rcases gives with ⟨shallow, pods, given, -⟩ |
    ⟨⟨pod, isRow, selected, deep⟩, fails⟩
  · exact iff_of_true ⟨pods, given⟩ shallow
  · refine iff_of_false fails.not_exists_ok fun shallow => ?_
    exact absurd deep (shallow pod isRow selected).not_gt

theorem Gives.tooDeep {outcome : Outcome (List Pod)}
    {holds : List Pod → Prop} (gives : Gives database selects outcome holds)
    (noPods : ¬ ∃ pods, outcome = .ok pods) : FailsTooDeep outcome := by
  rcases gives with ⟨-, pods, given, -⟩ | ⟨-, fails⟩
  · exact absurd ⟨pods, given⟩ noPods
  · exact fails

theorem Gives.of_ok {outcome : Outcome (List Pod)} {holds : List Pod → Prop}
    (gives : Gives database selects outcome holds) {pods : List Pod}
    (given : outcome = .ok pods) : holds pods := by
  rcases gives with ⟨-, pods', given', held⟩ | ⟨-, fails⟩
  · rw [given', Except.ok.injEq] at given
    exact given ▸ held
  · exact absurd ⟨pods, given⟩ fails.not_exists_ok

theorem gives_of_oldestFirst {outcome : Outcome (List Pod)}
    {holds : List Pod → Prop} (further : List Pod → List Pod)
    (looksUp : outcome =
      (Database.oldestFirst (database.pods.filter selects)).map further)
    (given : holds (further
      (((database.pods.filter selects).mergeSort isNotAfter).map
        Pod.readBack))) :
    Gives database selects outcome holds := by
  rcases oldestFirst_cases (database.pods.filter selects) with
    ⟨shallow, result⟩ | ⟨⟨pod, member, deep⟩, result⟩
  · left
    rw [looksUp, result]
    refine ⟨fun pod member selected => ?_, _, rfl, given⟩
    exact shallow pod (List.mem_filter.mpr ⟨member, selected⟩)
  · right
    rw [looksUp]
    obtain ⟨isRow, selected⟩ := List.mem_filter.mp member
    exact ⟨⟨pod, isRow, selected, deep⟩, result.map further⟩

theorem filter_map_readBack {p : Pod → Bool}
    (readsBack : ∀ pod, p pod.readBack = p pod) (pods : List Pod) :
    (pods.map Pod.readBack).filter p = (pods.filter p).map Pod.readBack := by
  have same : p ∘ Pod.readBack = p := funext readsBack
  rw [List.filter_map, same]

/-- A selected list holds all rows that may be picked. -/
theorem perm_filter_selected {p : Pod → Bool}
    (perm : rows.Perm (database.pods.map Pod.readBack))
    (kept : ∀ pod, p pod = true → selects pod = true)
    (readsBack : ∀ pod, p pod.readBack = p pod) :
    (rows.filter p).Perm
      ((((database.pods.filter selects).mergeSort isNotAfter).map
        Pod.readBack).filter p) := by
  have sorted : (((database.pods.filter selects).mergeSort isNotAfter).filter
      p).Perm (database.pods.filter p) := perm_filter_mergeSort kept isNotAfter
  have selected := sorted.symm.map Pod.readBack
  rw [← filter_map_readBack readsBack, ← filter_map_readBack readsBack]
    at selected
  exact (perm.filter p).trans selected

/-- What is picked from the pods that a lookup gives is what is picked from all
rows of the table, as they are read back, in any order. -/
theorem picks_of_lookups (distinct : (database.pods.map (·.uuid)).Nodup)
    (perm : rows.Perm (database.pods.map Pod.readBack)) :
    (∀ vmi node,
      Gives database (isLauncherOn vmi node)
        (database.podsCreatedBy vmi (some node)) fun candidates =>
          launcher? candidates vmi node = launcher? rows vmi node ∧
          ∀ created started,
            sourceLauncher? candidates vmi node created started =
              sourceLauncher? rows vmi node created started) ∧
    ∀ node,
      Gives database (isLikeHandler node)
        (database.podsOnNode node handlerPrefix) fun pods =>
          ∀ at', handler? pods node at' = handler? rows node at' := by
  have once : (rows.map (·.uuid)).Nodup := by
    have uuids : (database.pods.map Pod.readBack).map (·.uuid) =
        database.pods.map (·.uuid) := List.map_map
    rw [(perm.map (·.uuid)).nodup_iff, uuids]
    exact distinct
  constructor
  · intro vmi node
    refine gives_of_oldestFirst id ?_ ⟨?_, ?_⟩
    · rw [Except.map_id]
      rfl
    · refine (launcher?_eq_of_perm once ?_).symm
      exact perm_filter_selected perm (fun _ selected => selected) fun _ => rfl
    · intro created started
      refine (sourceLauncher?_eq_of_perm once ?_).symm
      refine perm_filter_selected perm (fun pod candidate => ?_) fun _ => rfl
      rw [isCandidate, Bool.and_eq_true, Bool.and_eq_true] at candidate
      exact candidate.1.1
  · intro node
    refine gives_of_oldestFirst
      (fun pods => pods.filter fun pod => pod.name.startsWith handlerPrefix)
      rfl ?_
    intro at'
    refine (handler?_eq_of_perm once ?_ at').symm
    rw [filter_isHandler_of_named]
    exact perm_filter_selected perm
      (fun _ => isLikeHandler_of_isHandler) fun _ => rfl

/-- Two pods of one instance, node and time, with the handler of the node. -/
def movingTwice : Database :=
  { moving .null with
    pods := [sourceOfMove .null, { sourceOfMove .null with uuid := "src-2" },
      handlerOfMove "ha" "node-a"] }

/-- Of the pods of one time the one is picked whose UID is less, from the rows
in the other order too. -/
theorem picks_of_lookups_movingTwice :
    (∃ candidates,
      movingTwice.podsCreatedBy "vmi-1" (some "node-a") = .ok candidates ∧
      launcher? candidates "vmi-1" "node-a" = some (sourceOfMove .null) ∧
      sourceLauncher? candidates "vmi-1" "node-a" ⟨1709280000, 0⟩
        ⟨1709280900, 0⟩ = some (sourceOfMove .null)) ∧
      ∃ pods, movingTwice.podsOnNode "node-a" handlerPrefix = .ok pods ∧
        handler? pods "node-a" ⟨1709280900, 0⟩ =
          some (handlerOfMove "ha" "node-a") := by
  have distinct : (movingTwice.pods.map (·.uuid)).Nodup := by
    simp [movingTwice, sourceOfMove, handlerOfMove]
  have shallow : ∀ pod ∈ movingTwice.pods,
      pod.content.depth ≤ Json.maxDepth := by
    simp [movingTwice, sourceOfMove, handlerOfMove, Json.depth]
  obtain ⟨launchers, handlers⟩ := picks_of_lookups distinct
    (List.reverse_perm (movingTwice.pods.map Pod.readBack))
  obtain ⟨candidates, given, picked, source⟩ :=
    (launchers "vmi-1" "node-a").of_shallow shallow
  obtain ⟨pods, given', picked'⟩ := (handlers "node-a").of_shallow shallow
  have only : ((movingTwice.pods.map Pod.readBack).reverse).filter
      (isHandler "node-a") = [handlerOfMove "ha" "node-a"] := by
    rw [isHandler_eq]
    rfl
  exact ⟨⟨candidates, given, picked.trans rfl, (source _ _).trans rfl⟩, pods,
    given', (picked' _).trans (handler?_of_only only _)⟩

/-- A pod whose name is like that of a handler and whose manifest nests too deep
to be read back. -/
def deepLookAlike : Pod :=
  { handlerOfMove "hb" "node-a" with
    name := "VIRT-HANDLER-1", content := Json.nested 128 }

/-- The handler of a node, and a pod whose name is like its name. -/
def lookAlikes : Database where
  pods := [handlerOfMove "ha" "node-a", deepLookAlike]

/-- The handler is picked from all rows, but the lookup also selects the other
pod and fails. -/
theorem picks_of_deep_lookAlike :
    (lookAlikes.pods.map (·.uuid)).Nodup ∧
      (∀ at', handler? lookAlikes.pods "node-a" at' =
        some (handlerOfMove "ha" "node-a")) ∧
      ¬ ∃ pods, lookAlikes.podsOnNode "node-a" handlerPrefix = .ok pods := by
  refine ⟨?_, handler?_of_only ?_, ?_⟩
  · simp [lookAlikes, deepLookAlike, handlerOfMove]
  · rw [isHandler_eq]
    rfl
  · have isRow : deepLookAlike ∈ lookAlikes.pods := by
      simp [lookAlikes]
    have selected : isLikeHandler "node-a" deepLookAlike = true := by
      decide
    have fails : FailsTooDeep (lookAlikes.podsOnNode "node-a" handlerPrefix) :=
      (Database.oldestFirst_of_deep ⟨deepLookAlike,
        List.mem_filter.mpr ⟨isRow, selected⟩,
        Json.maxDepth_lt_depth_nested⟩).map _
    exact fails.not_exists_ok

end Correlation
end ClusterTrace
