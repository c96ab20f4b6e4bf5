import ClusterTrace.Proofs.Correlation.Preselection

/-!
# Pods by the beginning of their names

A lookup by a node and the beginning of names gives the pods of the node whose
names begin with this text, `podsOnNode_outcome`.  Its pattern takes letters of
either case alike, and the rows that it selects are all read back before the
names are tested: one that is left out in the end can still make it fail.
-/

namespace ClusterTrace
namespace Correlation

open Database (isLike isLike_prefixPattern isLike_prefixPattern_iff isNotAfter
  lowered prefixPattern)

/-- The pod is on the node, and the pattern of the beginning matches its
name. -/
def isLikeNamed (node beginning : String) (pod : Pod) : Bool :=
  pod.nodeName == node && isLike (prefixPattern beginning) pod.name

/-- The pod is on the node, and its name begins with the text. -/
def isNamed (node beginning : String) (pod : Pod) : Bool :=
  pod.nodeName == node && pod.name.startsWith beginning

variable {node beginning : String}

theorem isLikeNamed_iff {pod : Pod} :
    isLikeNamed node beginning pod = true ↔
      pod.nodeName = node ∧ lowered beginning <+: lowered pod.name := by
  rw [isLikeNamed, Bool.and_eq_true, beq_iff_eq, isLike_prefixPattern_iff]

theorem isNamed_iff {pod : Pod} :
    isNamed node beginning pod = true ↔
      pod.nodeName = node ∧ beginning.toList <+: pod.name.toList := by
  rw [isNamed, Bool.and_eq_true, beq_iff_eq, String.startsWith_string_iff]

/-- No row that the pattern matches in excess is left. -/
theorem filter_isLikeNamed (pods : List Pod) :
    (pods.filter (isLikeNamed node beginning)).filter
        (fun pod => pod.name.startsWith beginning) =
      pods.filter (isNamed node beginning) := by
  rw [List.filter_filter]
  refine List.filter_congr fun pod _ => ?_
  rw [isLikeNamed, isNamed, Bool.and_left_comm]
  cases begins : pod.name.startsWith beginning with
  | false => rw [Bool.false_and]
  | true => rw [isLike_prefixPattern begins, Bool.and_self]

theorem gives_podsOnNode (database : Database) (node beginning : String) :
    Gives database (isLikeNamed node beginning)
      (database.podsOnNode node beginning) fun pods =>
        pods = (((database.pods.filter (isLikeNamed node beginning)).mergeSort
          isNotAfter).map Pod.readBack).filter
            fun pod => pod.name.startsWith beginning :=
  gives_of_oldestFirst _ rfl rfl

/-- What a lookup of the pods of a node gives whose names begin with a text: it
is given if all rows can be read back whose names begin so in letters of either
case, and then it has the rows whose names begin so, each once. -/
structure FindsNamed (database : Database) (node beginning : String)
    (outcome : Outcome (List Pod)) : Prop where
  given_iff : (∃ pods, outcome = .ok pods) ↔
    ∀ pod ∈ database.pods, pod.nodeName = node →
      lowered beginning <+: lowered pod.name →
        pod.content.depth ≤ Json.maxDepth
  fails : (¬ ∃ pods, outcome = .ok pods) → FailsTooDeep outcome
  perm : ∀ pods, outcome = .ok pods →
    pods.Perm ((database.pods.filter fun pod =>
      pod.nodeName = node ∧ beginning.toList <+: pod.name.toList).map
        Pod.readBack)

/-- The pattern of a beginning matches each name that begins with it, whatever
characters of patterns are in it, and what it matches beyond that is filtered
out.  Only a row that nests too deep to be read back makes a lookup fail. -/
theorem podsOnNode_outcome (database : Database) (node beginning : String) :
    (∀ name : String, beginning.toList <+: name.toList →
      isLike (prefixPattern beginning) name = true) ∧
    FindsNamed database node beginning
      (database.podsOnNode node beginning) := by
  refine ⟨fun name begins => ?_, ?_⟩
  · exact isLike_prefixPattern (String.startsWith_string_iff.mpr begins)
  have gives := gives_podsOnNode database node beginning
  constructor
  case given_iff =>
    simp only [gives.exists_ok_iff, isLikeNamed_iff, and_imp]
  case fails =>
    exact gives.tooDeep
  case perm =>
    intro pods given
    rw [gives.of_ok given, filter_map_readBack fun _ => rfl]
    have named : ∀ pod ∈ database.pods,
        isNamed node beginning pod = decide (pod.nodeName = node ∧
          beginning.toList <+: pod.name.toList) := fun pod _ => by
      rw [Bool.eq_iff_iff, isNamed_iff, decide_eq_true_iff]
    rw [← List.filter_congr named, ← filter_isLikeNamed]
    exact ((List.mergeSort_perm _ _).filter _).map _

/-- A pattern takes its own characters as they are, and letters of either case
alike. -/
example : isLike (prefixPattern "a%b_c\\") "A%B_C\\d" = true ∧
    isLike (prefixPattern "a%b_c\\") "axb_c\\d" = false := by
  decide

/-- A handler with a manifest that nests too deep to be read back. -/
def deepHandlerOfMove : Pod :=
  { handlerOfMove "ha" "node-a" with content := Json.nested 128 }

/-- The lookup of names in capitals fails by a pod that it does not have to
give: its name begins so in small letters only. -/
theorem podsOnNode_of_deep_lookAlike :
    Database.Keyed { pods := [deepHandlerOfMove] } ∧
      (∀ pod ∈ [deepHandlerOfMove],
        ¬ "VIRT-HANDLER".toList <+: pod.name.toList) ∧
      ¬ ∃ pods, Database.podsOnNode { pods := [deepHandlerOfMove] } "node-a"
        "VIRT-HANDLER" = .ok pods := by
  refine ⟨fun kind => ?_, ?_, ?_⟩
  · cases kind <;> simp [Database.records]
  · rw [List.forall_mem_singleton]
    decide
  · rw [(gives_podsOnNode _ _ _).exists_ok_iff]
    intro shallow
    have within := shallow deepHandlerOfMove (List.mem_singleton_self _)
      (by decide)
    exact absurd Json.maxDepth_lt_depth_nested within.not_gt

end Correlation
end ClusterTrace
