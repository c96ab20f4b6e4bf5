import ClusterTrace.Storage.Assoc
import Mathlib.Data.List.Induction

/-!
# Keyed lists in order

Inserting keeps keys increasing, and is otherwise like putting.  So sorting
gives a list with increasing keys, and leaves such a list as it is.
-/

namespace ClusterTrace.Assoc

section

variable {κ α : Type} [DecidableEq κ] [LT κ] [DecidableLT κ]

theorem get?_insert_self (key : κ) (value : α) (pairs : Assoc κ α) :
    (pairs.insert key value).get? key = some value := by
  induction pairs with
  | nil => rw [insert, get?, if_pos rfl]
  | cons pair rest induction =>
      obtain ⟨k, old⟩ := pair
      rw [insert]
      split
      · rw [get?, if_pos rfl]
      · split
        · rw [get?, if_pos rfl]
        · rename_i different
          rw [get?, if_neg (Ne.symm different), induction]

theorem get?_insert_of_ne {key other : κ} (different : other ≠ key)
    (value : α) (pairs : Assoc κ α) :
    (pairs.insert key value).get? other = pairs.get? other := by
  induction pairs with
  | nil => exact if_neg (Ne.symm different)
  | cons pair rest induction =>
      obtain ⟨k, old⟩ := pair
      rw [insert]
      split
      · rw [get?, if_neg (Ne.symm different)]
      · split
        · rename_i same
          rw [get?, get?, if_neg (Ne.symm different),
            if_neg (same ▸ Ne.symm different)]
        · rw [get?, get?, induction]

theorem key_of_mem_insert {key : κ} {value : α} {pair : κ × α}
    {pairs : Assoc κ α} (isIn : pair ∈ pairs.insert key value) :
    pair.1 = key ∨ pair ∈ pairs := by
  induction pairs with
  | nil =>
      rw [insert, List.mem_singleton] at isIn
      exact .inl (congrArg Prod.fst isIn)
  | cons first rest induction =>
      obtain ⟨k, old⟩ := first
      rw [insert] at isIn
      split at isIn
      · rcases List.mem_cons.mp isIn with rfl | later
        · exact .inl rfl
        · exact .inr later
      · split at isIn
        · rcases List.mem_cons.mp isIn with rfl | later
          · exact .inl rfl
          · exact .inr (List.mem_cons_of_mem _ later)
        · rcases List.mem_cons.mp isIn with rfl | later
          · exact .inr List.mem_cons_self
          · exact (induction later).imp id (List.mem_cons_of_mem _)

end

variable {α : Type} {pairs : Assoc String α}

/-- The keys increase. -/
def IsSorted (pairs : Assoc String α) : Prop :=
  pairs.Pairwise fun pair later => pair.1 < later.1

theorem IsSorted.insert (isSorted : pairs.IsSorted) (key : String) (value : α) :
    IsSorted (pairs.insert key value) := by
  induction isSorted with
  | nil => exact List.pairwise_singleton _ _
  | @cons first rest before isSorted induction =>
      obtain ⟨k, old⟩ := first
      rw [Assoc.insert]
      split
      · rename_i earlier
        refine .cons (fun pair isIn => ?_) (.cons before isSorted)
        rcases List.mem_cons.mp isIn with rfl | later
        · exact earlier
        · exact String.lt_trans earlier (before pair later)
      · rename_i notEarlier
        split
        · rename_i same
          exact .cons (fun pair isIn => same ▸ before pair isIn) isSorted
        · rename_i different
          refine .cons (fun pair isIn => ?_) induction
          rcases key_of_mem_insert isIn with same | later
          · rw [same]
            by_contra notLater
            exact different (String.le_antisymm (String.not_lt.mp notLater)
              (String.not_lt.mp notEarlier))
          · exact before pair later

theorem isSorted_sorted (pairs : Assoc String α) : IsSorted (sorted pairs) := by
  induction pairs using List.reverseRecOn with
  | nil => exact List.Pairwise.nil
  | append_singleton pairs pair induction =>
      rw [sorted, List.foldl_append]
      exact induction.insert pair.1 pair.2

/-- A key behind all others is inserted at the end. -/
theorem insert_of_lt {key : String} (behind : ∀ pair ∈ pairs, pair.1 < key)
    (value : α) : pairs.insert key value = pairs ++ [(key, value)] := by
  induction pairs with
  | nil => rfl
  | cons pair rest induction =>
      obtain ⟨k, old⟩ := pair
      obtain ⟨here, later⟩ := List.forall_mem_cons.mp behind
      have different : key ≠ k := by
        rintro rfl
        exact String.lt_irrefl key here
      rw [Assoc.insert, if_neg (String.lt_asymm here), if_neg different,
        induction later, List.cons_append]

theorem IsSorted.sorted_eq (isSorted : pairs.IsSorted) :
    sorted pairs = pairs := by
  induction pairs using List.reverseRecOn with
  | nil => rfl
  | append_singleton pairs pair induction =>
      obtain ⟨before, _, behind⟩ := List.pairwise_append.mp isSorted
      have kept := induction before
      rw [sorted] at kept ⊢
      rw [List.foldl_append, kept]
      exact insert_of_lt
        (fun earlier isIn => behind earlier isIn pair List.mem_cons_self) pair.2

end ClusterTrace.Assoc
