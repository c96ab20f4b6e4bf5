import ClusterTrace.Proofs.Queue.Failures

/-!
# Delays of a backoff

`Backoff.asked` runs a list of calls.  The count of a key is the number of its
failures since it was last forgotten, `requeues_asked`, so the delay after a
failure is the product of the base and a power of two or the maximum, computed
without bounds.  Where a duration cannot hold the product, the product exceeds
every maximum of 64 bits, `delay_eq`.
-/

namespace ClusterTrace.Queue

/-- Something that is asked of a backoff. -/
inductive Call (κ : Type) where
  | failed (key : κ)
  | forgot (key : κ)
  | counted (key : κ)

namespace Call

variable {κ : Type}

/-- The key that the call is about. -/
def key : Call κ → κ
  | .failed key => key
  | .forgot key => key
  | .counted key => key

variable [DecidableEq κ]

/-- The failures of a key since it was last forgotten, where the latest call
comes first. -/
def failuresOf (key : κ) : List (Call κ) → Nat
  | [] => 0
  | .failed k :: calls =>
      if k = key then failuresOf key calls + 1 else failuresOf key calls
  | .forgot k :: calls => if k = key then 0 else failuresOf key calls
  | .counted _ :: calls => failuresOf key calls

/-- The calls that are about a key. -/
def about (key : κ) (calls : List (Call κ)) : List (Call κ) :=
  calls.filter (·.key = key)

/-- The calls about other keys do not matter. -/
theorem failuresOf_about (key : κ) (calls : List (Call κ)) :
    failuresOf key (about key calls) = failuresOf key calls := by
  induction calls with
  | nil => rfl
  | cons call calls ih =>
      rw [about] at ih ⊢
      by_cases same : call.key = key
      · rw [List.filter_cons, if_pos (decide_eq_true same)]
        cases call <;> simp only [failuresOf, ih]
      · rw [List.filter_cons, if_neg (by simpa using same), ih]
        cases call <;> simp_all [failuresOf, Call.key]

/-- Until a key is forgotten, its failures grow in number. -/
theorem failuresOf_le_append {key : κ} {later : List (Call κ)}
    (kept : .forgot key ∉ later) (calls : List (Call κ)) :
    failuresOf key calls ≤ failuresOf key (later ++ calls) := by
  induction later with
  | nil => exact Nat.le_refl _
  | cons call later ih =>
      rw [List.mem_cons, not_or] at kept
      have before := ih kept.2
      rw [List.cons_append]
      cases call with
      | failed other =>
          rw [failuresOf]
          split <;> omega
      | forgot other =>
          have different : other ≠ key := by
            rintro rfl
            exact kept.1 rfl
          rw [failuresOf, if_neg different]
          exact before
      | counted other => exact before

end Call

namespace Backoff

variable {κ : Type} [DecidableEq κ]

/-- The answer to a call, if it has one, and the backoff after it. -/
def ask (backoff : Backoff κ) : Call κ → Option Nat × Backoff κ
  | .failed key => (some (backoff.fail key).1, (backoff.fail key).2)
  | .forgot key => (none, backoff.forget key)
  | .counted key => (some (backoff.requeues key), backoff)

/-- The backoff after calls, the latest of which comes first. -/
def asked (backoff : Backoff κ) : List (Call κ) → Backoff κ
  | [] => backoff
  | call :: calls => ((backoff.asked calls).ask call).2

/-! ## Counts -/

/-- No call changes the bounds of the delays. -/
theorem bounds_asked (base maximum : Nat) (calls : List (Call κ)) :
    ((new base maximum).asked calls).base = base ∧
      ((new base maximum).asked calls).maximum = maximum := by
  induction calls with
  | nil => exact ⟨rfl, rfl⟩
  | cons call calls ih => cases call <;> exact ih

/-- A key is counted once for each failure, up to the greatest number of 32
bits. -/
theorem requeues_asked (base maximum : Nat) (calls : List (Call κ)) (key : κ) :
    ((new base maximum).asked calls).requeues key =
      min (Call.failuresOf key calls) (Word.limit 32 - 1) := by
  induction calls with
  | nil => exact (Nat.zero_min _).symm
  | cons call calls ih =>
      cases call with
      | failed other =>
          rw [asked, ask, Call.failuresOf]
          by_cases same : other = key
          · subst other
            rw [requeues_fail_self, ih, if_pos rfl]
            omega
          · rw [requeues_fail_of_ne _ (Ne.symm same), ih, if_neg same]
      | forgot other =>
          rw [asked, ask, Call.failuresOf]
          by_cases same : other = key
          · subst other
            rw [requeues_forget_self, if_pos rfl, Nat.zero_min]
          · rw [requeues_forget_of_ne _ (Ne.symm same), ih, if_neg same]
      | counted other => exact ih

/-! ## Delays -/

/-- Stated of the function, since the delay of given numbers is computed as
soon as the definition is opened. -/
theorem delay_eq_elim : delay = fun base maximum earlier =>
    (scaled? base (Nat.pow 2 (min earlier 31))).elim maximum
      (min · maximum) := by
  delta delay
  funext base maximum earlier
  generalize scaled? base (Nat.pow 2 (min earlier 31)) = product
  cases product <;> rfl

/-- The delay as a number without bounds. -/
theorem delay_eq {maximum : Nat} (fits : maximum < Word.limit 64)
    (base earlier : Nat) :
    delay base maximum earlier = min maximum (base * 2 ^ min earlier 31) := by
  rw [delay_eq_elim]
  dsimp only
  rw [Nat.pow_eq, scaled?]
  split
  · exact Nat.min_comm _ _
  · rename_i exceeds
    -- The product has at least as many milliseconds as whole seconds.
    have seconds : Word.limit 64 ≤ base * 2 ^ min earlier 31 / 1000 := by
      by_contra inRange
      exact exceeds (Word.fits_natCast.mpr (Nat.lt_of_not_le inRange))
    have milliseconds := Nat.div_le_self (base * 2 ^ min earlier 31) 1000
    exact (Nat.min_eq_left (fits.le.trans (seconds.trans milliseconds))).symm

/-- The exponent stops below the bound at which the counts do. -/
theorem delay_min (base maximum earlier : Nat) :
    delay base maximum (min earlier (Word.limit 32 - 1)) =
      delay base maximum earlier := by
  have bound : 31 ≤ Word.limit 32 - 1 := by decide
  have sameExponent :
      min (min earlier (Word.limit 32 - 1)) 31 = min earlier 31 := by
    omega
  rw [delay_eq_elim]
  dsimp only
  rw [sameExponent]

theorem fst_fail_asked {maximum : Nat} (fits : maximum < Word.limit 64)
    (base : Nat) (calls : List (Call κ)) (key : κ) :
    (((new base maximum).asked calls).fail key).1 =
      min maximum (base * 2 ^ min (Call.failuresOf key calls) 31) := by
  obtain ⟨isBase, isMaximum⟩ := bounds_asked base maximum calls
  rw [fail, isBase, isMaximum, requeues_asked]
  dsimp only
  rw [delay_min, delay_eq fits]

/-- A failure that `n` failures of its key precede since the key was last
forgotten is answered by `base * 2 ^ min n 31`, computed without bounds, or by
the maximum if that is less; the count is `n`.  The delays of a key stay below
the maximum and do not decrease until it is forgotten, and calls about other
keys change neither delays nor counts. -/
theorem delays_of_calls {maximum : Nat} (fits : maximum < Word.limit 64)
    (base : Nat) (calls : List (Call κ)) (key : κ) :
    (((new base maximum).asked calls).ask (.failed key)).1 =
        some (min maximum (base * 2 ^ min (Call.failuresOf key calls) 31)) ∧
    (Call.failuresOf key calls < 2 ^ 32 →
      (((new base maximum).asked calls).ask (.counted key)).1 =
        some (Call.failuresOf key calls)) ∧
    (((new base maximum).asked calls).fail key).1 ≤ maximum ∧
    (∀ later, .forgot key ∉ later →
      (((new base maximum).asked calls).fail key).1 ≤
        (((new base maximum).asked (later ++ calls)).fail key).1) ∧
    (∀ calls', Call.about key calls' = Call.about key calls →
      (((new base maximum).asked calls').fail key).1 =
          (((new base maximum).asked calls).fail key).1 ∧
        ((new base maximum).asked calls').requeues key =
          ((new base maximum).asked calls).requeues key) := by
  have delays := fun calls => fst_fail_asked fits base calls key
  refine ⟨congrArg some (delays calls), ?_, ?_, ?_, ?_⟩
  · intro few
    have inRange : Call.failuresOf key calls ≤ Word.limit 32 - 1 :=
      Nat.le_sub_one_of_lt few
    rw [ask, requeues_asked, Nat.min_eq_left inRange]
  · rw [delays]
    exact Nat.min_le_left _ _
  · intro later kept
    rw [delays, delays]
    have more := Call.failuresOf_le_append kept calls
    have exponents := min_le_min_right 31 more
    exact min_le_min_left maximum (Nat.mul_le_mul_left base
      (Nat.pow_le_pow_right Nat.two_pos exponents))
  · intro calls' same
    have sameFailures :
        Call.failuresOf key calls' = Call.failuresOf key calls := by
      rw [← Call.failuresOf_about, same, Call.failuresOf_about]
    rw [delays, delays, requeues_asked, requeues_asked, sameFailures]
    exact ⟨rfl, rfl⟩

/-- Seconds that overflow: the base has half of the milliseconds that 64 bits
hold, and the key fails for the 21st time, between failures of another one. -/
theorem delays_of_overflow :
    2 ^ 64 - 1 < Word.limit 64 ∧
      scaled? (2 ^ 63) (2 ^ 20) = none ∧
      (((new (2 ^ 63) (2 ^ 64 - 1)).asked
        (.failed 8 :: List.replicate 20 (.failed 7) ++ [.failed 8])).ask
          (.failed 7)).1 = some (2 ^ 64 - 1) ∧
      (((new (2 ^ 63) (2 ^ 64 - 1)).asked
        (.failed 8 :: List.replicate 20 (.failed 7) ++ [.failed 8])).ask
          (.counted 7)).1 = some 20 := by
  have inBounds : 2 ^ 64 - 1 < Word.limit 64 := by decide
  obtain ⟨delay, count, -⟩ := delays_of_calls inBounds (2 ^ 63)
    (.failed 8 :: List.replicate 20 (.failed 7) ++ [.failed 8]) 7
  exact ⟨inBounds, by decide, delay, count (by decide)⟩

end Backoff
end ClusterTrace.Queue
