import Mathlib.Algebra.Group.Action.Defs
import Mathlib.Algebra.GroupWithZero.Nat
import Mathlib.Algebra.Order.Group.Nat
import Mathlib.Algebra.Order.BigOperators.Group.List
import ClusterTrace.Storage.Assoc

/-!
# Sums of keyed numbers

The sum of the values of a keyed list, and how it changes with one of them.
-/

namespace ClusterTrace.Assoc

variable {κ : Type} [DecidableEq κ]

/-- A value that is put takes the place of the one that was there. -/
theorem sum_put (pairs : Assoc κ Nat) (key : κ) (value : Nat) :
    ((pairs.put key value).map (·.2)).sum + (pairs.get? key).getD 0 =
      (pairs.map (·.2)).sum + value := by
  induction pairs with
  | nil => simp [put, get?]
  | cons pair rest ih =>
      obtain ⟨k, old⟩ := pair
      by_cases same : k = key
      · simp [put, get?, same]
        omega
      · simp [put, get?, same]
        omega

theorem sum_erase {pairs : Assoc κ Nat} (distinct : pairs.keys.Nodup)
    (key : κ) :
    ((pairs.erase key).map (·.2)).sum + (pairs.get? key).getD 0 =
      (pairs.map (·.2)).sum := by
  induction pairs with
  | nil => rfl
  | cons pair rest ih =>
      obtain ⟨k, old⟩ := pair
      obtain ⟨absent, distinct⟩ := List.nodup_cons.mp distinct
      have shorter := ih distinct
      by_cases same : k = key
      · subst same
        rw [get?_eq_none_iff.mpr absent, Option.getD_none] at shorter
        have dropped : erase k ((k, old) :: rest) = erase k rest := by
          simp [erase]
        rw [dropped, get?, if_pos rfl, Option.getD_some, List.map_cons,
          List.sum_cons]
        omega
      · have kept : erase key ((k, old) :: rest) =
            (k, old) :: erase key rest := by
          simp [erase, same]
        rw [kept, get?, if_neg same, List.map_cons, List.map_cons,
          List.sum_cons, List.sum_cons]
        omega

/-- Values that are bounded add up to at most the bound for each key. -/
theorem sum_le {pairs : Assoc κ Nat} (distinct : pairs.keys.Nodup) {bound : Nat}
    (bounded : ∀ key, (pairs.get? key).getD 0 ≤ bound) :
    (pairs.map (·.2)).sum ≤ pairs.keys.length * bound := by
  rw [length_keys, ← List.length_map (·.2), ← smul_eq_mul]
  refine List.sum_le_card_nsmul _ _ fun value isValue => ?_
  obtain ⟨⟨key, other⟩, member, rfl⟩ := List.mem_map.mp isValue
  have atKey := bounded key
  rw [get?_of_mem distinct member] at atKey
  exact atKey

end ClusterTrace.Assoc
