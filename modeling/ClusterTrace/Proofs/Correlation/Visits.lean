import ClusterTrace.Proofs.Correlation.Picks

/-!
# Visited nodes

The nodes on which the pods of an instance ran are listed once each, by the
oldest pod on each of them, `mem_firstVisits_iff` and `pairwise_firstVisits`.
-/

namespace ClusterTrace.Correlation

open Time (Instant)

/-- The pod is the oldest one on its node, which has a name. -/
structure IsFirstVisit (launchers : List Pod) (pod : Pod) : Prop where
  mem : pod ∈ launchers
  isNamed : pod.nodeName ≠ ""
  first : ∀ other ∈ launchers, other.nodeName = pod.nodeName →
    pod.creationTime < other.creationTime ∨
      pod.creationTime = other.creationTime ∧ pod.uuid ≤ other.uuid

/-- The pods that are each the first one on a node, apart from the nodes that
have been seen. -/
def newVisits : List Pod → List String → List Pod
  | [], _ => []
  | pod :: rest, seen =>
      if pod.nodeName = "" ∨ pod.nodeName ∈ seen then newVisits rest seen
      else pod :: newVisits rest (pod.nodeName :: seen)

theorem isFirstVisit_congr {launchers launchers' : List Pod}
    (same : ∀ pod, pod ∈ launchers ↔ pod ∈ launchers') {pod : Pod} :
    IsFirstVisit launchers pod ↔ IsFirstVisit launchers' pod := by
  constructor
  · rintro ⟨mem, isNamed, first⟩
    exact ⟨(same pod).mp mem, isNamed, fun other member =>
      first other ((same other).mpr member)⟩
  · rintro ⟨mem, isNamed, first⟩
    exact ⟨(same pod).mpr mem, isNamed, fun other member =>
      first other ((same other).mp member)⟩

/-- What is told of a visit. -/
def visitOf (pod : Pod) : String × Instant :=
  (pod.nodeName, pod.creationTime)

theorem isSome_lookup_iff (node : String) (found : List (String × Instant)) :
    (found.lookup node).isSome = true ↔ node ∈ found.map (·.1) := by
  induction found with
  | nil => simp
  | cons visit rest ih =>
      rw [List.lookup_cons, List.map_cons, List.mem_cons, ← ih]
      split
      · rename_i same
        simp [beq_iff_eq.mp same]
      · rename_i different
        simp [show node ≠ visit.1 from by simpa using different]

theorem nodesOf_eq (pods : List Pod) (found : List (String × Instant)) :
    nodesOf pods found =
      found.reverse ++ (newVisits pods (found.map (·.1))).map visitOf := by
  induction pods generalizing found with
  | nil => simp [nodesOf, newVisits]
  | cons pod rest ih =>
      have seen : (pod.nodeName.isEmpty ||
            (found.lookup pod.nodeName).isSome) = true ↔
          pod.nodeName = "" ∨ pod.nodeName ∈ found.map (·.1) := by
        rw [Bool.or_eq_true, String.isEmpty_iff, isSome_lookup_iff]
      rw [nodesOf, newVisits]
      simp only [seen]
      split
      · exact ih found
      · rw [ih]
        simp [visitOf]

theorem newVisits_sublist (pods : List Pod) (seen : List String) :
    (newVisits pods seen).Sublist pods := by
  induction pods generalizing seen with
  | nil => exact List.Sublist.refl []
  | cons pod rest ih =>
      rw [newVisits]
      split
      · exact (ih seen).cons pod
      · exact (ih _).cons_cons pod

/-- A pod that is older than the others is the first one on its node. -/
theorem isFirstVisit_cons_self {first : Pod} {rest : List Pod}
    (oldest : ∀ other ∈ rest, age first < age other) :
    IsFirstVisit (first :: rest) first ↔ first.nodeName ≠ "" := by
  constructor
  · exact IsFirstVisit.isNamed
  · intro isNamed
    refine ⟨List.mem_cons_self, isNamed, List.forall_mem_cons.mpr ⟨?_, ?_⟩⟩
    · intro _
      exact age_le_iff.mp le_rfl
    · intro other member _
      exact age_le_iff.mp (oldest other member).le

theorem isFirstVisit_cons {first : Pod} {rest : List Pod}
    (oldest : ∀ other ∈ rest, age first < age other) {pod : Pod}
    (member : pod ∈ rest) :
    IsFirstVisit (first :: rest) pod ↔
      IsFirstVisit rest pod ∧ first.nodeName ≠ pod.nodeName := by
  constructor
  · intro visit
    have others := List.forall_mem_cons.mp visit.first
    refine ⟨⟨member, visit.isNamed, others.2⟩, fun same => ?_⟩
    exact not_le_of_gt (oldest pod member) (age_le_iff.mpr (others.1 same))
  · rintro ⟨visit, different⟩
    exact ⟨List.mem_cons_of_mem _ member, visit.isNamed,
      List.forall_mem_cons.mpr
        ⟨fun same => (different same).elim, visit.first⟩⟩

/-- Of pods in the order of age those are kept that are each the first one on a
node that was not seen before. -/
theorem mem_newVisits_iff {pods : List Pod}
    (sorted : pods.Pairwise fun a b => age a < age b) {seen : List String}
    {pod : Pod} :
    pod ∈ newVisits pods seen ↔
      IsFirstVisit pods pod ∧ pod.nodeName ∉ seen := by
  induction pods generalizing seen with
  | nil =>
      rw [newVisits]
      constructor
      · intro member
        cases member
      · rintro ⟨visit, -⟩
        exact visit.mem
  | cons first rest ih =>
      obtain ⟨oldest, sorted⟩ := List.pairwise_cons.mp sorted
      rw [newVisits]
      -- The first pod is older than the rest, so no pod of its node in the rest
      -- is a first visit; its node is seen from here on.
      split
      · rename_i skipped
        rw [ih sorted]
        constructor
        · rintro ⟨visit, unseen⟩
          have different : first.nodeName ≠ pod.nodeName := by
            intro same
            rw [same] at skipped
            exact skipped.elim visit.isNamed unseen
          exact ⟨(isFirstVisit_cons oldest visit.mem).mpr ⟨visit, different⟩,
            unseen⟩
        · rintro ⟨visit, unseen⟩
          rcases List.mem_cons.mp visit.mem with rfl | member
          · exact (skipped.elim visit.isNamed unseen).elim
          · exact ⟨((isFirstVisit_cons oldest member).mp visit).1, unseen⟩
      · rename_i fresh
        rw [not_or] at fresh
        rw [List.mem_cons, ih sorted, List.mem_cons, not_or]
        constructor
        · rintro (rfl | ⟨visit, different, unseen⟩)
          · exact ⟨(isFirstVisit_cons_self oldest).mpr fresh.1, fresh.2⟩
          · exact ⟨(isFirstVisit_cons oldest visit.mem).mpr
              ⟨visit, Ne.symm different⟩, unseen⟩
        · rintro ⟨visit, unseen⟩
          rcases List.mem_cons.mp visit.mem with rfl | member
          · exact Or.inl rfl
          · obtain ⟨visit, different⟩ :=
              (isFirstVisit_cons oldest member).mp visit
            exact Or.inr ⟨visit, Ne.symm different, unseen⟩

/-! ## The first visits of an instance -/

/-- The pods that are each the first one on a node, the oldest first. -/
def firstVisits (launchers : List Pod) : List Pod :=
  newVisits (launchers.mergeSort fun a b => !isOlder b a) []

theorem visitedNodes_eq (launchers : List Pod) :
    visitedNodes launchers = (firstVisits launchers).map visitOf :=
  nodesOf_eq _ []

section Distinct

variable {launchers : List Pod}
  (distinct : (launchers.map (·.uuid)).Nodup)
include distinct

/-- Pods without a common UID are sorted strictly. -/
theorem pairwise_mergeSort :
    (launchers.mergeSort fun a b => !isOlder b a).Pairwise
      fun a b => age a < age b := by
  have isLe : ∀ a b, (!isOlder b a) = true ↔ age a ≤ age b := by
    intro a b
    rw [Bool.not_eq_true', ← not_lt, ← isOlder_iff, Bool.not_eq_true]
  have sorted : (launchers.mergeSort fun a b => !isOlder b a).Pairwise
      fun a b => (!isOlder b a) = true := by
    refine List.pairwise_mergeSort (fun a b c => ?_) (fun a b => ?_) launchers
    · simpa only [isLe] using le_trans
    · rw [Bool.or_eq_true, isLe, isLe]
      exact le_total _ _
  have perm := List.mergeSort_perm launchers fun a b => !isOlder b a
  have unequal := List.pairwise_map.mp
    ((perm.map (·.uuid)).nodup_iff.mpr distinct)
  refine (sorted.and unequal).imp fun {a b} both => ?_
  exact lt_of_le_of_ne ((isLe a b).mp both.1) fun same =>
    both.2 (uuid_eq_of_age_eq same)

theorem mem_firstVisits_iff {pod : Pod} :
    pod ∈ firstVisits launchers ↔ IsFirstVisit launchers pod := by
  have perm := List.mergeSort_perm launchers fun a b => !isOlder b a
  rw [firstVisits, mem_newVisits_iff (pairwise_mergeSort distinct),
    isFirstVisit_congr fun _ => perm.mem_iff]
  simp

theorem pairwise_firstVisits :
    (firstVisits launchers).Pairwise fun a b => age a < age b :=
  (pairwise_mergeSort distinct).sublist (newVisits_sublist _ _)

/-- No node is visited for the first time twice. -/
theorem nodup_firstVisits :
    ((firstVisits launchers).map (·.nodeName)).Nodup := by
  refine List.pairwise_map.mpr ?_
  refine (pairwise_firstVisits distinct).imp_of_mem ?_
  intro a b isFirst isFirst' older same
  rw [mem_firstVisits_iff distinct] at isFirst isFirst'
  exact not_le_of_gt older
    (age_le_iff.mpr (isFirst'.first a isFirst.mem same))

end Distinct

/-- Each node on which a pod of an instance ran was visited for a first time. -/
theorem exists_isFirstVisit {launchers : List Pod} {node : String}
    (isNamed : node ≠ "")
    (visited : ∃ pod ∈ launchers, pod.nodeName = node) :
    ∃ pod, IsFirstVisit launchers pod ∧ pod.nodeName = node := by
  obtain ⟨pod, member, rfl⟩ := visited
  cases first : firstLeast? isOlder
      (launchers.filter fun other => other.nodeName = pod.nodeName) with
  | none =>
      rw [firstLeast?_eq_none, List.filter_eq_nil_iff] at first
      exact (first pod member (by simp)).elim
  | some oldest =>
      rw [firstLeast?_eq_some_iff isOlder_iff] at first
      have isOldest := List.mem_filter.mp first.mem
      have sameNode : oldest.nodeName = pod.nodeName := by
        simpa using isOldest.2
      refine ⟨oldest, ⟨isOldest.1, sameNode ▸ isNamed, ?_⟩, sameNode⟩
      intro other isLauncher same
      exact age_le_iff.mp (first.le
        (List.mem_filter.mpr ⟨isLauncher, by simp [same, sameNode]⟩))

theorem mem_nodes_firstVisits_iff {launchers : List Pod}
    (distinct : (launchers.map (·.uuid)).Nodup) {node : String} :
    node ∈ (firstVisits launchers).map (·.nodeName) ↔
      node ≠ "" ∧ ∃ pod ∈ launchers, pod.nodeName = node := by
  simp only [List.mem_map, mem_firstVisits_iff distinct]
  constructor
  · rintro ⟨first, visit, rfl⟩
    exact ⟨visit.isNamed, first, visit.mem, rfl⟩
  · rintro ⟨isNamed, visited⟩
    exact exists_isFirstVisit isNamed visited

end ClusterTrace.Correlation
