import ClusterTrace.Proofs.Storage.AssocSums
import ClusterTrace.Queue.Backoff

/-!
# Counts of failures

One more failure raises the count of its key by one and clearing a key takes its
whole count away, with no change to other keys.  `Backoff.total` adds up all
counts, so that it changes by as much.
-/

namespace ClusterTrace.Queue.Backoff

variable {κ : Type} [DecidableEq κ]

/-- The sum of all counts. -/
def total (backoff : Backoff κ) : Nat :=
  (backoff.failures.map (·.2)).sum

theorem requeues_fail_self (backoff : Backoff κ) (key : κ) :
    (backoff.fail key).2.requeues key =
      min (backoff.requeues key + 1) (Word.limit 32 - 1) := by
  rw [requeues, fail, Assoc.get?_put_self, Option.getD_some]

theorem requeues_fail_of_ne (backoff : Backoff κ) {key other : κ}
    (different : other ≠ key) :
    (backoff.fail key).2.requeues other = backoff.requeues other := by
  rw [requeues, fail, Assoc.get?_put_of_ne different, requeues]

theorem requeues_forget_self (backoff : Backoff κ) (key : κ) :
    (backoff.forget key).requeues key = 0 := by
  rw [requeues, forget, Assoc.get?_erase_self, Option.getD_none]

theorem requeues_forget_of_ne (backoff : Backoff κ) {key other : κ}
    (different : other ≠ key) :
    (backoff.forget key).requeues other = backoff.requeues other := by
  rw [requeues, forget, Assoc.get?_erase_of_ne different, requeues]

theorem total_fail (backoff : Backoff κ) (key : κ) :
    (backoff.fail key).2.total + backoff.requeues key =
      backoff.total + min (backoff.requeues key + 1) (Word.limit 32 - 1) :=
  backoff.failures.sum_put key _

theorem total_forget {backoff : Backoff κ}
    (distinct : backoff.failures.keys.Nodup) (key : κ) :
    (backoff.forget key).total + backoff.requeues key = backoff.total :=
  Assoc.sum_erase distinct key

theorem mem_keys_of_requeues {backoff : Backoff κ} {key : κ}
    (failed : 0 < backoff.requeues key) : key ∈ backoff.failures.keys := by
  by_contra absent
  rw [requeues, Assoc.get?_eq_none_iff.mpr absent] at failed
  exact Nat.lt_irrefl 0 failed

theorem mem_keys_fail {backoff : Backoff κ} {key other : κ}
    (member : other ∈ (backoff.fail key).2.failures.keys) :
    other = key ∨ other ∈ backoff.failures.keys := by
  by_cases known : key ∈ backoff.failures.keys
  · rw [fail, Assoc.keys_put_of_mem known] at member
    exact .inr member
  · rw [fail, Assoc.keys_put_of_not_mem known, List.mem_append,
      List.mem_singleton] at member
    exact member.symm

theorem mem_keys_forget {backoff : Backoff κ} {key other : κ}
    (member : other ∈ (backoff.forget key).failures.keys) :
    other ≠ key ∧ other ∈ backoff.failures.keys := by
  rw [forget, Assoc.keys_erase] at member
  obtain ⟨known, different⟩ := List.mem_filter.mp member
  exact ⟨of_decide_eq_true different, known⟩

end ClusterTrace.Queue.Backoff
