import ClusterTrace.Proofs.ListReading
import ClusterTrace.Yaml.Reading
import Mathlib.Data.List.Induction

/-!
# How deep documents nest

A document that is read nests as deep as the reader goes at most,
`depth_le_of_readAll`.
-/

namespace ClusterTrace

/-! ## Depths of containers -/

namespace Json

variable {bound : Nat}

theorem itemsDepth_le_iff {items : List Json} :
    depth.itemsDepth items ≤ bound ↔ ∀ item ∈ items, item.depth ≤ bound := by
  induction items with
  | nil => simp [depth.itemsDepth]
  | cons item rest ih =>
      rw [depth.itemsDepth, Nat.max_le, ih, List.forall_mem_cons]

theorem membersDepth_le_iff {members : List (String × Json)} :
    depth.membersDepth members ≤ bound ↔
      ∀ member ∈ members, member.2.depth ≤ bound := by
  induction members with
  | nil => simp [depth.membersDepth]
  | cons member rest ih =>
      rw [depth.membersDepth, Nat.max_le, ih, List.forall_mem_cons]

end Json

namespace Assoc

variable {κ α : Type} [DecidableEq κ] [LT κ] [DecidableLT κ]

theorem mem_of_mem_insert {key : κ} {value : α} {pairs : Assoc κ α}
    {pair : κ × α} (member : pair ∈ insert key value pairs) :
    pair = (key, value) ∨ pair ∈ pairs := by
  induction pairs with
  | nil => exact Or.inl (List.mem_singleton.mp member)
  | cons first rest ih =>
      obtain ⟨other, old⟩ := first
      rw [insert] at member
      split at member
      · exact List.mem_cons.mp member
      · split at member
        · exact (List.mem_cons.mp member).imp_right (List.mem_cons_of_mem _)
        · rcases List.mem_cons.mp member with rfl | later
          · exact Or.inr List.mem_cons_self
          · exact (ih later).imp_right (List.mem_cons_of_mem _)

theorem mem_of_mem_sorted {pairs : Assoc κ α} {pair : κ × α}
    (member : pair ∈ sorted pairs) : pair ∈ pairs := by
  induction pairs using List.reverseRecOn with
  | nil => exact member
  | append_singleton pairs last ih =>
      rw [sorted, List.foldl_append, List.foldl_cons, List.foldl_nil] at member
      rcases mem_of_mem_insert member with rfl | earlier
      · exact List.mem_append_right _ (List.mem_singleton_self _)
      · exact List.mem_append_left _ (ih earlier)

end Assoc

theorem Json.depth_ofMembers_le {members : List (String × Json)} {bound : Nat}
    (each : ∀ member ∈ members, member.2.depth ≤ bound) :
    (Json.ofMembers members).depth ≤ bound + 1 := by
  rw [ofMembers, depth, Nat.add_le_add_iff_right, membersDepth_le_iff]
  exact fun member isMember => each member (Assoc.mem_of_mem_sorted isMember)

namespace Yaml

/-! ## What readers of nodes ensure -/

section Readers

variable {α β : Type}

/-- Whatever aliases were followed before, what is read satisfies this. -/
def Ensures (reader : Follow α) (holds : α → Prop) : Prop :=
  ∀ count result, reader.run count = .ok result → holds result.1

variable {reader : Follow α} {holds : α → Prop} {holds' : β → Prop}

theorem ensures_pure {value : α} (held : holds value) :
    Ensures (pure value) holds := by
  rintro count _ ⟨⟩
  exact held

theorem ensures_throw (fault : Fault) :
    Ensures (throw fault : Follow α) holds := by
  rintro count _ ⟨⟩

theorem ensures_bind {next : α → Follow β} (first : Ensures reader holds)
    (later : ∀ value, holds value → Ensures (next value) holds') :
    Ensures (reader >>= next) holds' := by
  intro count result ran
  rw [StateT.run_bind] at ran
  cases start : reader.run count with
  | error fault =>
      rw [start] at ran
      cases ran
  | ok given =>
      rw [start] at ran
      exact later given.1 (first count given start) given.2 result ran

theorem ensures_true (reader : Follow α) : Ensures reader fun _ => True :=
  fun _ _ _ => trivial

theorem ensures_mapM {read : α → Follow β} {items : List α}
    (each : ∀ item ∈ items, Ensures (read item) holds') :
    Ensures (items.mapM read) fun results =>
      ∀ result ∈ results, holds' result := by
  induction items with
  | nil => exact ensures_pure (by simp)
  | cons item rest ih =>
      rw [List.forall_mem_cons] at each
      rw [List.mapM_cons]
      refine ensures_bind each.1 fun result held => ?_
      refine ensures_bind (ih each.2) fun results held' => ?_
      exact ensures_pure (List.forall_mem_cons.mpr ⟨held, held'⟩)

end Readers

theorem depth_of_toJson {scalar : Resolved} {value : Json}
    (isValue : scalar.toJson = .ok value) : value.depth = 0 := by
  cases scalar with
  | wide number => cases isValue
  | float bits =>
      cases isValue
      split <;> rfl
  | _ =>
      cases isValue
      rfl

/-- One case for each node; each container takes one from the depth. -/
theorem ensures_toJson (scope : Scope) (depth : Nat) (path : Path)
    (node : Node) :
    Ensures (scope.toJson depth path node) fun value =>
      value.depth ≤ depth := by
  rw [Scope.toJson]
  refine ensures_bind (ensures_true _) fun node _ => ?_
  cases node with
  | «alias» anchor mark => exact ensures_throw _
  | scalar head text style =>
      dsimp only
      split
      · exact ensures_throw _
      split
      · rename_i value isValue
        refine ensures_pure ?_
        cases resolved : resolve head.tag text style.isPlain with
        | error what =>
            rw [resolved] at isValue
            cases isValue
        | ok scalar =>
            rw [resolved] at isValue
            rw [depth_of_toJson isValue]
            exact Nat.zero_le _
      · exact ensures_throw _
  | sequence head items =>
      dsimp only
      split
      · exact ensures_throw _
      cases depth with
      | zero => exact ensures_throw _
      | succ depth =>
          refine ensures_bind (ensures_mapM fun item _ =>
            ensures_toJson scope depth _ item.1) fun values shallow => ?_
          refine ensures_pure ?_
          rw [Json.depth, Nat.add_le_add_iff_right, Json.itemsDepth_le_iff]
          exact shallow
  | mapping head entries =>
      dsimp only
      split
      · exact ensures_throw _
      cases depth with
      | zero => exact ensures_throw _
      | succ depth =>
          refine ensures_bind (?_ : Ensures _ fun members : List _ =>
            ∀ member ∈ members, member.2.depth ≤ depth)
            fun members shallow => ?_
          · refine ensures_mapM fun entry _ => ?_
            refine ensures_bind (ensures_true _) fun name _ => ?_
            refine ensures_bind (ensures_toJson scope depth _ entry.1.2)
              fun value shallow => ?_
            exact ensures_pure shallow
          · exact ensures_pure (Json.depth_ofMembers_le shallow)

theorem depth_of_document {document : Document} {value : Json}
    (isRead : document.toJson = .ok value) : value.depth ≤ maxNesting := by
  rw [Document.toJson] at isRead
  split at isRead
  · cases isRead
    exact Nat.zero_le _
  · rename_i root _
    cases ran : (document.scope.toJson maxNesting .root root).run 0 with
    | error fault =>
        rw [ran] at isRead
        cases isRead
    | ok result =>
        rw [ran] at isRead
        cases isRead
        exact ensures_toJson _ _ _ _ 0 result ran

theorem depth_le_of_readAll {octets : List UInt8} {values : List Json}
    (isRead : readAll octets = .ok values) {value : Json}
    (member : value ∈ values) : value.depth ≤ maxNesting := by
  simp only [readAll] at isRead
  split at isRead
  · cases isRead
  · cases isRead
  · rename_i given _
    cases isRead
    obtain ⟨document, -, isValue⟩ := exists_item_of_mapM given member
    exact depth_of_document isValue

end Yaml
end ClusterTrace
