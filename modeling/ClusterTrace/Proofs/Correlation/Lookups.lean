import ClusterTrace.Correlation.Query
import ClusterTrace.Proofs.Database.Reading
import ClusterTrace.Proofs.Database.Rows

/-!
# Picks from lookups

The lookups of a query leave out pods that are never picked, and hand out the
others in an order that does not matter.  So what is picked from them is what is
picked from the table of all pods.
-/

namespace ClusterTrace

open Time (Instant)

namespace Database

/-! ## UIDs -/

theorem Keyed.nodup_pods {database : Database} (keyed : database.Keyed) :
    (database.pods.map (·.uuid)).Nodup := by
  have once := keyed .pod
  rw [records, List.map_map] at once
  refine List.Nodup.of_map (Key.mk .pod) ?_
  rw [List.map_map]
  exact once

theorem Keyed.nodup_vmis {database : Database} (keyed : database.Keyed) :
    (database.vmis.map (·.uuid)).Nodup := by
  have once := keyed .vmi
  rw [records, List.map_map] at once
  refine List.Nodup.of_map (Key.mk .vmi) ?_
  rw [List.map_map]
  exact once

theorem Keyed.nodup_migrations {database : Database}
    (keyed : database.Keyed) : (database.migrations.map (·.uuid)).Nodup :=
  (nodup_keys_migrations_iff database).mp (keyed .migration)

theorem find?_eq_some_of_mem {α κ : Type} [DecidableEq κ] {key : α → κ}
    {rows : List α} (distinct : (rows.map key).Nodup) {row : α}
    (member : row ∈ rows) :
    rows.find? (fun other => key other = key row) = some row := by
  cases found : rows.find? fun other => key other = key row with
  | none =>
      have absent := List.find?_eq_none.mp found row member
      simp at absent
  | some other =>
      have same : key other = key row := by
        simpa using List.find?_some found
      exact congrArg some (List.inj_on_of_nodup_map distinct
        (List.mem_of_find?_eq_some found) member same)

end Database

namespace Correlation

open Database (isNotAfter isLike prefixPattern)

/-! ## Pods that are read back -/

theorem handler?_map_readBack (pods : List Pod) (node : String)
    (at' : Instant) :
    handler? (pods.map Pod.readBack) node at' =
      (handler? pods node at').map Pod.readBack := by
  have handlers : (pods.map Pod.readBack).filter (isHandler node) =
      (pods.filter (isHandler node)).map Pod.readBack := List.filter_map
  have early : ((pods.filter (isHandler node)).map Pod.readBack).filter
        (fun pod => decide (pod.creationTime ≤ at')) =
      ((pods.filter (isHandler node)).filter
        fun pod => decide (pod.creationTime ≤ at')).map Pod.readBack :=
    List.filter_map
  have same : ∀ a b : Pod, isOlder a.readBack b.readBack = isOlder a b :=
    fun _ _ => rfl
  rw [handler?, handler?]
  simp only [handlers, early, lastGreatest?_map same, firstLeast?_map same]
  cases lastGreatest? isOlder ((pods.filter (isHandler node)).filter
      fun pod => decide (pod.creationTime ≤ at')) with
  | none => rfl
  | some pod => rfl

theorem sourceLauncher?_map_readBack (pods : List Pod) (vmi node : String)
    (created started : Instant) :
    sourceLauncher? (pods.map Pod.readBack) vmi node created started =
      (sourceLauncher? pods vmi node created started).map Pod.readBack := by
  have same : ∀ a b : Pod,
      isBetterSource a.readBack b.readBack = isBetterSource a b :=
    fun _ _ => rfl
  rw [sourceLauncher?, sourceLauncher?, List.filter_map, firstLeast?_map same]
  rfl

/-! ## Picks -/

/-- Rows that are selected after others were left out and the rest sorted. -/
theorem perm_filter_mergeSort {α : Type} {rows : List α} {p q : α → Bool}
    (kept : ∀ row, p row = true → q row = true) (le : α → α → Bool) :
    (((rows.filter q).mergeSort le).filter p).Perm (rows.filter p) := by
  have left : (rows.filter q).filter p = rows.filter p := by
    rw [List.filter_filter]
    refine List.filter_congr fun row _ => ?_
    cases selected : p row with
    | false => rfl
    | true => rw [kept row selected]; rfl
  exact left ▸ (List.mergeSort_perm _ le).filter p

variable {database : Database}

/-- The pattern of a name ignores case, so that the names are tested once more,
which loses no handler. -/
theorem filter_isHandler_of_named (pods : List Pod) (node : String) :
    (pods.filter fun pod => pod.name.startsWith handlerPrefix).filter
        (isHandler node) =
      pods.filter (isHandler node) := by
  rw [List.filter_filter]
  refine List.filter_congr fun pod _ => ?_
  rw [isHandler, Bool.and_assoc, Bool.and_self]

/-- The pod is on the node, and its name is like that of a handler. -/
def isLikeHandler (node : String) (pod : Pod) : Bool :=
  pod.nodeName == node && isLike (prefixPattern handlerPrefix) pod.name

theorem isLikeHandler_of_isHandler {node : String} {pod : Pod}
    (handles : isHandler node pod = true) : isLikeHandler node pod = true := by
  rw [isHandler, Bool.and_eq_true] at handles
  rw [isLikeHandler, handles.1, Database.isLike_prefixPattern handles.2]
  rfl

/-- The handlers of a node are among the pods whose names are like theirs. -/
theorem perm_filter_isHandler (pods : List Pod) (node : String) :
    (pods.filter (isHandler node)).Perm
      ((((pods.filter (isLikeHandler node)).mergeSort isNotAfter).filter
        fun pod => pod.name.startsWith handlerPrefix).filter
          (isHandler node)) := by
  rw [filter_isHandler_of_named]
  exact (perm_filter_mergeSort (fun _ => isLikeHandler_of_isHandler)
    isNotAfter).symm

/-- The handler of a node is picked among all pods. -/
theorem tells_handlerAt (keyed : database.Keyed) (node : String)
    (at' : Instant) :
    database.Tells (handlerAt database node at')
      (.ok ((handler? database.pods node at').map Pod.readBack)) := by
  have tells := (Database.tells_podsOnNode database node handlerPrefix).map
    fun pods => handler? pods node at'
  rw [List.filter_map, handler?_map_readBack] at tells
  rw [handler?_eq_of_perm keyed.nodup_pods (perm_filter_isHandler _ node)]
  exact tells

/-- The source of a migration is picked among all pods. -/
theorem sourceLauncher?_candidates (keyed : database.Keyed)
    (vmi node : String) (created started : Instant) :
    sourceLauncher?
        (((database.pods.filter fun pod =>
          pod.createdBy == some vmi &&
            (some node).all (pod.nodeName == ·)).mergeSort isNotAfter).map
              Pod.readBack) vmi node created started =
      (sourceLauncher? database.pods vmi node created started).map
        Pod.readBack := by
  have kept : ∀ pod, isCandidate vmi node created started pod = true →
      (pod.createdBy == some vmi && (some node).all (pod.nodeName == ·)) =
        true := by
    intro pod candidate
    rw [isCandidate, Bool.and_eq_true, Bool.and_eq_true] at candidate
    exact candidate.1.1
  rw [sourceLauncher?_map_readBack, sourceLauncher?_eq_of_perm keyed.nodup_pods
    (perm_filter_mergeSort kept isNotAfter).symm]

/-- The pods that an instance created, the oldest first, as they are read
back. -/
def launchersOf (database : Database) (vmi : String) : List Pod :=
  ((database.pods.filter (isLauncher vmi)).mergeSort isNotAfter).map
    Pod.readBack

theorem tells_launchers (database : Database) (vmi : String) :
    database.Tells (database.podsCreatedBy vmi none)
      (.ok (launchersOf database vmi)) := by
  have launchers : (database.pods.filter fun pod =>
      pod.createdBy == some vmi && none.all (pod.nodeName == ·)) =
      database.pods.filter (isLauncher vmi) :=
    List.filter_congr fun pod _ => Bool.and_true _
  rw [launchersOf, ← launchers]
  exact Database.tells_podsCreatedBy database vmi none

/-! ## Claims -/

/-- The UIDs of the first claims of the names that pods mount. -/
def claimsOf (database : Database) (pods : List Pod) (inNamespace : String) :
    List String :=
  (claimNames pods).filterMap fun name =>
    (database.claimRow? name inNamespace).map (·.uuid)

theorem tells_claimUuids (database : Database) (pods : List Pod)
    (inNamespace : String) :
    database.Tells (claimUuids database pods inNamespace)
      (.ok (claimsOf database pods inNamespace)) := by
  have uuids : claimsOf database pods inNamespace =
      (((claimNames pods).map fun name =>
        (database.claimRow? name inNamespace).map
          VolumeClaim.readBack).filterMap id).map (·.uuid) := by
    rw [claimsOf, List.filterMap_map, List.map_filterMap]
    refine List.filterMap_congr fun name _ => ?_
    rw [Function.comp_apply, id, Option.map_map]
    rfl
  rw [uuids]
  exact (Database.tells_claimsByNames database _ inNamespace).map _

end Correlation
end ClusterTrace
