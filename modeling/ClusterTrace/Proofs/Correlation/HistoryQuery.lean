import ClusterTrace.Proofs.Correlation.Lookups
import ClusterTrace.Proofs.Correlation.Visits

/-!
# Queries for whole histories

A query for the history of an instance tells of all its pods, and of each node
that they visited once: by its handler, or as a node without one,
`ofHistory_covers`.
-/

namespace ClusterTrace.Correlation

open Time (Instant)

/-! ## Nodes in the order of their visits -/

/-- The first visit of a node is before that of another one. -/
def VisitedBefore (launchers : List Pod) (node node' : String) : Prop :=
  ∃ first first', IsFirstVisit launchers first ∧ first.nodeName = node ∧
    IsFirstVisit launchers first' ∧ first'.nodeName = node' ∧
    (first.creationTime < first'.creationTime ∨
      first.creationTime = first'.creationTime ∧ first.uuid < first'.uuid)

/-- The answer covers the nodes that the pods of an instance visited. -/
structure Covers (database : Database) (uuid : String) (answer : Answer) :
    Prop where
  launchers : answer.launchers.Perm
    ((database.pods.filter (isLauncher uuid)).map Pod.readBack)
  once : (answer.handlers.map (·.nodeName) ++ answer.skippedNodes).Nodup
  visited : ∀ node,
    node ∈ answer.handlers.map (·.nodeName) ++ answer.skippedNodes ↔
      node ≠ "" ∧ ∃ pod ∈ answer.launchers, pod.nodeName = node
  skipped : ∀ node,
    node ∈ answer.handlers.map (·.nodeName) ++ answer.skippedNodes →
      (node ∈ answer.skippedNodes ↔
        ∀ pod ∈ database.pods, isHandler node pod = false)
  handlersInOrder : answer.handlers.Pairwise fun a b =>
    VisitedBefore answer.launchers a.nodeName b.nodeName
  skippedInOrder : answer.skippedNodes.Pairwise
    (VisitedBefore answer.launchers)
  picked : ∀ handler ∈ answer.handlers, ∃ first row,
    IsFirstVisit answer.launchers first ∧
      first.nodeName = handler.nodeName ∧
      IsHandlerAt database.pods first.nodeName first.creationTime row ∧
      handler = row.readBack

/-! ## The answer of the rows -/

/-- The handler of the node that a pod visited, at that time. -/
def visitedHandler? (database : Database) (first : Pod) : Option Pod :=
  (handler? database.pods first.nodeName first.creationTime).map Pod.readBack

/-- The answer for an instance for which all rows are read back. -/
def historyOfRows (database : Database) (vmi : VirtualMachineInstance) :
    Answer :=
  let launchers := launchersOf database vmi.uuid
  { namespaceName := vmi.namespaceName
    vmiUuid := vmi.uuid
    startTimestamp := some (windowStart vmi.creationTime)
    pvcs := claimsOf database launchers vmi.namespaceName
    launchers := launchers
    handlers := (firstVisits launchers).filterMap (visitedHandler? database)
    skippedNodes := ((firstVisits launchers).filter fun first =>
      (visitedHandler? database first).isNone).map (·.nodeName) }

variable {database : Database}

theorem tells_visits (keyed : database.Keyed) (launchers : List Pod) :
    database.Tells
      ((visitedNodes launchers).mapM fun visit =>
        (handlerAt database visit.1 visit.2).map (visit.1, ·))
      (.ok ((firstVisits launchers).map fun first =>
        (first.nodeName, visitedHandler? database first))) := by
  have visits : (firstVisits launchers).map (fun first =>
        (first.nodeName, visitedHandler? database first)) =
      (visitedNodes launchers).map fun visit =>
        (visit.1,
          (handler? database.pods visit.1 visit.2).map Pod.readBack) := by
    rw [visitedNodes_eq, List.map_map]
    rfl
  rw [visits]
  exact Database.tells_mapM fun visit _ =>
    (tells_handlerAt keyed visit.1 visit.2).map _

theorem tells_ofHistory (keyed : database.Keyed) {vmi : VirtualMachineInstance}
    (member : vmi ∈ database.vmis) :
    database.Tells (ofHistory database vmi.uuid)
      (if (launchersOf database vmi.uuid).isEmpty then
        .error (.incomplete .launcher)
      else .ok (historyOfRows database vmi)) := by
  have found := Database.tells_getInstance database vmi.uuid
  rw [Database.find?_eq_some_of_mem keyed.nodup_vmis member] at found
  refine found.andThen ?_
  refine (tells_launchers database vmi.uuid).andThen ?_
  split
  · exact Database.tells_self _
  · refine (tells_visits keyed _).andThen ?_
    refine (tells_claimUuids database _ vmi.namespaceName).andThen ?_
    have handlers : ((firstVisits (launchersOf database vmi.uuid)).map
          fun first =>
            (first.nodeName, visitedHandler? database first)).filterMap (·.2) =
        (historyOfRows database vmi).handlers := List.filterMap_map
    have skipped : (((firstVisits (launchersOf database vmi.uuid)).map
          fun first => (first.nodeName, visitedHandler? database first)).filter
            (·.2.isNone)).map (·.1) =
        (historyOfRows database vmi).skippedNodes := by
      rw [List.filter_map, List.map_map]
      rfl
    rw [handlers, skipped]
    exact Database.tells_self _

/-! ## Coverage -/

theorem perm_launchersOf (database : Database) (uuid : String) :
    (launchersOf database uuid).Perm
      ((database.pods.filter (isLauncher uuid)).map Pod.readBack) :=
  (List.mergeSort_perm _ _).map Pod.readBack

theorem nodup_launchersOf (keyed : database.Keyed) (uuid : String) :
    ((launchersOf database uuid).map (·.uuid)).Nodup := by
  rw [((perm_launchersOf database uuid).map _).nodup_iff, List.map_map]
  exact (List.filter_sublist.map _).nodup keyed.nodup_pods

/-- The handler of a visited node is on that node. -/
theorem visitedHandler?_eq_some {first handler : Pod}
    (found : visitedHandler? database first = some handler) :
    ∃ row, IsHandlerAt database.pods first.nodeName first.creationTime row ∧
      handler = row.readBack ∧ first.nodeName = handler.nodeName := by
  obtain ⟨row, isHandler, rfl⟩ := Option.map_eq_some_iff.mp found
  have handlerAt := handler?_isHandlerAt isHandler
  have onNode := handlerAt.isHandler
  rw [Correlation.isHandler, Bool.and_eq_true, beq_iff_eq] at onNode
  exact ⟨row, handlerAt, rfl, onNode.1.symm⟩

theorem visitedHandler?_eq_none {first : Pod} :
    visitedHandler? database first = none ↔
      ∀ pod ∈ database.pods, isHandler first.nodeName pod = false := by
  rw [visitedHandler?, Option.map_eq_none_iff, handler?_eq_none_iff]

/-- The nodes with a handler and those without one are the visited nodes. -/
theorem perm_visited_nodes (database : Database) (firsts : List Pod) :
    ((firsts.filterMap (visitedHandler? database)).map (·.nodeName) ++
      (firsts.filter fun first =>
        (visitedHandler? database first).isNone).map (·.nodeName)).Perm
      (firsts.map (·.nodeName)) := by
  induction firsts with
  | nil => simp
  | cons first rest ih =>
      cases found : visitedHandler? database first with
      | none =>
          rw [List.filterMap_cons_none found,
            List.filter_cons_of_pos (by simp [found]), List.map_cons,
            List.map_cons]
          exact List.perm_middle.trans (ih.cons first.nodeName)
      | some handler =>
          obtain ⟨-, -, -, sameNode⟩ := visitedHandler?_eq_some found
          rw [List.filterMap_cons_some found,
            List.filter_cons_of_neg (by simp [found]), List.map_cons,
            List.map_cons, List.cons_append, sameNode]
          exact ih.cons handler.nodeName

theorem visitedBefore_of_age_lt {launchers : List Pod}
    (distinct : (launchers.map (·.uuid)).Nodup) {first first' : Pod}
    (member : first ∈ firstVisits launchers)
    (member' : first' ∈ firstVisits launchers)
    (older : age first < age first') :
    VisitedBefore launchers first.nodeName first'.nodeName :=
  ⟨first, first', (mem_firstVisits_iff distinct).mp member, rfl,
    (mem_firstVisits_iff distinct).mp member', rfl, age_lt_iff.mp older⟩

theorem covers_historyOfRows (keyed : database.Keyed)
    (vmi : VirtualMachineInstance) :
    Covers database vmi.uuid (historyOfRows database vmi) := by
  have distinct := nodup_launchersOf keyed vmi.uuid
  have nodes := perm_visited_nodes database
    (firstVisits (launchersOf database vmi.uuid))
  have inOrder := pairwise_firstVisits distinct
  constructor
  case launchers => exact perm_launchersOf database vmi.uuid
  case once => exact nodes.nodup_iff.mpr (nodup_firstVisits distinct)
  case visited =>
    intro node
    exact nodes.mem_iff.trans (mem_nodes_firstVisits_iff distinct)
  case skipped =>
    intro node member
    constructor
    · intro skipped
      obtain ⟨first, isSkipped, rfl⟩ := List.mem_map.mp skipped
      have noHandler := (List.mem_filter.mp isSkipped).2
      exact visitedHandler?_eq_none.mp (Option.isNone_iff_eq_none.mp noHandler)
    · intro noHandler
      refine (List.mem_append.mp member).resolve_left fun handled => ?_
      obtain ⟨handler, isHandler, rfl⟩ := List.mem_map.mp handled
      obtain ⟨first, -, found⟩ := List.mem_filterMap.mp isHandler
      obtain ⟨row, handlerAt, -, sameNode⟩ := visitedHandler?_eq_some found
      have handles := handlerAt.isHandler
      rw [sameNode, noHandler row handlerAt.mem] at handles
      cases handles
  case handlersInOrder =>
    -- A handler is on the node of the visit for which it was found.
    refine List.pairwise_filterMap.mpr (inOrder.imp_of_mem ?_)
    intro first first' member member' older handler found handler' found'
    obtain ⟨-, -, -, sameNode⟩ := visitedHandler?_eq_some found
    obtain ⟨-, -, -, sameNode'⟩ := visitedHandler?_eq_some found'
    rw [← sameNode, ← sameNode']
    exact visitedBefore_of_age_lt distinct member member' older
  case skippedInOrder =>
    refine List.pairwise_map.mpr ?_
    refine (inOrder.sublist List.filter_sublist).imp_of_mem ?_
    intro first first' member member' older
    exact visitedBefore_of_age_lt distinct (List.mem_of_mem_filter member)
      (List.mem_of_mem_filter member') older
  case picked =>
    intro handler member
    obtain ⟨first, isFirst, found⟩ := List.mem_filterMap.mp member
    obtain ⟨row, handlerAt, readBack, sameNode⟩ := visitedHandler?_eq_some found
    exact ⟨first, row, (mem_firstVisits_iff distinct).mp isFirst, sameNode,
      handlerAt, readBack⟩

/-! ## The outcome of a query -/

theorem isEmpty_launchersOf_iff {uuid : String} :
    (launchersOf database uuid).isEmpty = true ↔
      ∀ pod ∈ database.pods, pod.createdBy ≠ some uuid := by
  rw [List.isEmpty_iff, ← List.length_eq_zero_iff,
    (perm_launchersOf database uuid).length_eq, List.length_map,
    List.length_eq_zero_iff, List.filter_eq_nil_iff]
  simp [isLauncher]

theorem ofHistory_of_absent {uuid : String}
    (absent : ∀ vmi ∈ database.vmis, vmi.uuid ≠ uuid) :
    ofHistory database uuid =
      .error (.notFound "virtual machine instance" uuid) := by
  have nothing : database.vmis.find? (fun vmi => vmi.uuid = uuid) = none := by
    simpa [List.find?_eq_none] using absent
  rw [ofHistory, Database.getInstance, nothing]
  rfl

/-- A query for a history succeeds exactly if the instance has a row and created
a pod, unless a manifest that it reads nests too deep, and then it covers the
visited nodes. -/
theorem ofHistory_covers (keyed : database.Keyed) (uuid : String) :
    (¬ FailsTooDeep (ofHistory database uuid) →
      ((∃ answer, ofHistory database uuid = .ok answer) ↔
        (∃ vmi ∈ database.vmis, vmi.uuid = uuid) ∧
          ∃ pod ∈ database.pods, pod.createdBy = some uuid)) ∧
    (∀ answer, ofHistory database uuid = .ok answer →
      Covers database uuid answer) ∧
    (database.Readable → ¬ FailsTooDeep (ofHistory database uuid)) := by
  by_cases absent : ∀ vmi ∈ database.vmis, vmi.uuid ≠ uuid
  · rw [ofHistory_of_absent absent]
    refine ⟨fun _ => ⟨?_, ?_⟩, ?_, ?_⟩
    · rintro ⟨answer, answers⟩
      cases answers
    · rintro ⟨⟨vmi, member, same⟩, -⟩
      exact (absent vmi member same).elim
    · intro answer answers
      cases answers
    · rintro _ ⟨column, deep⟩
      cases deep
  · push Not at absent
    obtain ⟨vmi, member, rfl⟩ := absent
    have tells := tells_ofHistory keyed member
    have read : ∀ {answer}, ofHistory database vmi.uuid = .ok answer →
        ¬ FailsTooDeep (ofHistory database vmi.uuid) := by
      rintro answer answers ⟨column, deep⟩
      cases answers.symm.trans deep
    by_cases noPod : (launchersOf database vmi.uuid).isEmpty = true
    · rw [if_pos noPod] at tells
      rw [isEmpty_launchersOf_iff] at noPod
      refine ⟨fun read => ⟨?_, ?_⟩, ?_, ?_⟩
      · rintro ⟨answer, answers⟩
        cases (tells.eq read).symm.trans answers
      · rintro ⟨-, pod, isPod, createdBy⟩
        exact (noPod pod isPod createdBy).elim
      · intro answer answers
        cases (tells.eq (read answers)).symm.trans answers
      · rintro readable ⟨column, deep⟩
        cases (tells.eq_of_readable readable).symm.trans deep
    · rw [if_neg noPod] at tells
      rw [isEmpty_launchersOf_iff] at noPod
      push Not at noPod
      refine ⟨fun read => ⟨?_, ?_⟩, ?_, ?_⟩
      · intro _
        exact ⟨⟨vmi, member, rfl⟩, noPod⟩
      · intro _
        exact ⟨_, tells.eq read⟩
      · intro answer answers
        cases (tells.eq (read answers)).symm.trans answers
        exact covers_historyOfRows keyed vmi
      · rintro readable ⟨column, deep⟩
        cases (tells.eq_of_readable readable).symm.trans deep

/-! ## An instance on two nodes -/

/-- A pod of the instance on a node, with a manifest. -/
def launcherOn (uuid node : String) (content : Json) : Pod :=
  ⟨uuid, "Pod", "launcher-1", "vms", "Running", 1, 1, node, ⟨1709280300, 0⟩,
    "", some "vmi-1", content⟩

def runningInstance : VirtualMachineInstance :=
  ⟨"vmi-1", "fedora", "vms", "", "Running", "node-b", ⟨1709280000, 0⟩, none,
    .null⟩

/-- An instance ran on two nodes, of which none has a handler.  The manifest of
one of its pods is given. -/
def running (content : Json) : Database where
  pods := [launcherOn "pod-1" "node-a" content,
    launcherOn "pod-2" "node-b" .null]
  vmis := [runningInstance]

theorem keyed_running (content : Json) : (running content).Keyed := by
  intro kind
  cases kind <;> simp [Database.records, running, launcherOn, Record.key]

theorem created_running (content : Json) :
    (∃ vmi ∈ (running content).vmis, vmi.uuid = "vmi-1") ∧
      ∃ pod ∈ (running content).pods, pod.createdBy = some "vmi-1" :=
  ⟨⟨_, List.mem_cons_self, rfl⟩, _, List.mem_cons_self, rfl⟩

theorem ofHistory_of_two_nodes :
    ∃ answer, ofHistory (running .null) "vmi-1" = .ok answer ∧
      Covers (running .null) "vmi-1" answer := by
  obtain ⟨succeeds, covers, read⟩ :=
    ofHistory_covers (keyed_running .null) "vmi-1"
  have readable : (running .null).Readable := by
    constructor
    case pods =>
      simp only [running, launcherOn, List.forall_mem_cons]
      exact ⟨by decide, by decide, by simp⟩
    case vmis =>
      simp only [running, List.forall_mem_cons]
      exact ⟨by decide, by simp⟩
    case migrations => simp [running]
    case pvcs => simp [running]
  obtain ⟨answer, answers⟩ :=
    (succeeds (read readable)).mpr (created_running .null)
  exact ⟨answer, answers, covers answer answers⟩

/-- The instance and its pods are there, but a manifest nests too deep. -/
theorem ofHistory_of_deep_manifest :
    (running (Json.nested 128)).Keyed ∧
      (∃ vmi ∈ (running (Json.nested 128)).vmis, vmi.uuid = "vmi-1") ∧
      (∃ pod ∈ (running (Json.nested 128)).pods,
        pod.createdBy = some "vmi-1") ∧
      ¬ ∃ answer,
        ofHistory (running (Json.nested 128)) "vmi-1" = .ok answer := by
  obtain ⟨hasRow, hasPod⟩ := created_running (Json.nested 128)
  refine ⟨keyed_running _, hasRow, hasPod, ?_⟩
  have launchers : FailsTooDeep
      ((running (Json.nested 128)).podsCreatedBy "vmi-1" none) := by
    refine Database.oldestFirst_of_deep
      ⟨launcherOn "pod-1" "node-a" (Json.nested 128), ?_,
        Json.maxDepth_lt_depth_nested⟩
    simp [running, launcherOn]
  have found : (running (Json.nested 128)).getInstance "vmi-1" =
      .ok runningInstance := rfl
  obtain ⟨column, fails⟩ := launchers
  rintro ⟨answer, answers⟩
  simp only [ofHistory, found, fails, bind, Except.bind] at answers
  cases answers

end ClusterTrace.Correlation
