/-!
# Keyed lists

A finite map as a list of pairs in the order in which its keys were first put.
Putting a value under a key that is there replaces the value in its place.
-/

namespace ClusterTrace

/-- Pairs of keys and values, in order. -/
abbrev Assoc (κ α : Type) := List (κ × α)

namespace Assoc

variable {κ α : Type} [DecidableEq κ]

/-- The value of a key. -/
def get? (key : κ) : Assoc κ α → Option α
  | [] => none
  | (k, value) :: rest => if k = key then some value else get? key rest

/-- The key has a value. -/
def has (key : κ) (pairs : Assoc κ α) : Bool :=
  (pairs.get? key).isSome

/-- The pairs with the value of the key replaced, or with a new pair at the
end. -/
def put (key : κ) (value : α) : Assoc κ α → Assoc κ α
  | [] => [(key, value)]
  | (k, old) :: rest =>
      if k = key then (key, value) :: rest else (k, old) :: put key value rest

/-- The pairs without the key. -/
def erase (key : κ) (pairs : Assoc κ α) : Assoc κ α :=
  pairs.filter fun pair => pair.1 ≠ key

/-- The keys, in order. -/
def keys (pairs : Assoc κ α) : List κ :=
  pairs.map (·.1)

/-- The pairs, sorted by key, with one more; the value of an equal key is
replaced. -/
def insert [LT κ] [DecidableLT κ] (key : κ) (value : α) : Assoc κ α → Assoc κ α
  | [] => [(key, value)]
  | (k, old) :: rest =>
      if key < k then (key, value) :: (k, old) :: rest
      else if key = k then (key, value) :: rest
      else (k, old) :: insert key value rest

/-- The pairs sorted by key, of equal keys the last one. -/
def sorted [LT κ] [DecidableLT κ] (pairs : Assoc κ α) : Assoc κ α :=
  pairs.foldl (fun sorted pair => insert pair.1 pair.2 sorted) []

theorem get?_put_self (key : κ) (value : α) (pairs : Assoc κ α) :
    (pairs.put key value).get? key = some value := by
  induction pairs with
  | nil => simp [put, get?]
  | cons pair rest ih =>
      obtain ⟨k, old⟩ := pair
      by_cases same : k = key <;> simp [put, get?, same, ih]

theorem get?_put_of_ne {key other : κ} (different : other ≠ key) (value : α)
    (pairs : Assoc κ α) :
    (pairs.put key value).get? other = pairs.get? other := by
  induction pairs with
  | nil => simp [put, get?, Ne.symm different]
  | cons pair rest ih =>
      obtain ⟨k, old⟩ := pair
      by_cases same : k = key
      · subst same
        simp [put, get?, Ne.symm different]
      · by_cases found : k = other <;> simp_all [put, get?]

theorem get?_erase_self (key : κ) (pairs : Assoc κ α) :
    (pairs.erase key).get? key = none := by
  induction pairs with
  | nil => rfl
  | cons pair rest ih =>
      obtain ⟨k, old⟩ := pair
      by_cases same : k = key
      · simpa [erase, same] using ih
      · simpa [erase, get?, same] using ih

theorem get?_erase_of_ne {key other : κ} (different : other ≠ key)
    (pairs : Assoc κ α) : (pairs.erase key).get? other = pairs.get? other := by
  induction pairs with
  | nil => rfl
  | cons pair rest ih =>
      obtain ⟨k, old⟩ := pair
      by_cases same : k = key
      · subst same
        simpa [erase, get?, Ne.symm different] using ih
      · by_cases found : k = other
        · subst found
          simp [erase, get?, same]
        · simpa [erase, get?, same, found] using ih

omit [DecidableEq κ] in
@[simp] theorem keys_nil : keys ([] : Assoc κ α) = [] :=
  rfl

omit [DecidableEq κ] in
@[simp] theorem keys_cons (pair : κ × α) (rest : Assoc κ α) :
    keys (pair :: rest) = pair.1 :: keys rest :=
  rfl

omit [DecidableEq κ] in
theorem length_keys (pairs : Assoc κ α) : pairs.keys.length = pairs.length :=
  List.length_map _

theorem get?_eq_none_iff {key : κ} {pairs : Assoc κ α} :
    pairs.get? key = none ↔ key ∉ pairs.keys := by
  induction pairs with
  | nil => simp [get?]
  | cons pair rest ih =>
      obtain ⟨k, old⟩ := pair
      by_cases same : k = key
      · simp [get?, same]
      · simpa [get?, same, Ne.symm same] using ih

theorem mem_keys_of_get? {key : κ} {value : α} {pairs : Assoc κ α}
    (found : pairs.get? key = some value) : key ∈ pairs.keys := by
  by_cases member : key ∈ pairs.keys
  · exact member
  · rw [get?_eq_none_iff.mpr member] at found
    cases found

theorem exists_get?_of_mem_keys {key : κ} {pairs : Assoc κ α}
    (member : key ∈ pairs.keys) : ∃ value, pairs.get? key = some value := by
  cases found : pairs.get? key with
  | none => exact (get?_eq_none_iff.mp found member).elim
  | some value => exact ⟨value, rfl⟩

theorem get?_of_mem {key : κ} {value : α} {pairs : Assoc κ α}
    (distinct : pairs.keys.Nodup) (member : (key, value) ∈ pairs) :
    pairs.get? key = some value := by
  induction pairs with
  | nil => cases member
  | cons pair rest ih =>
      obtain ⟨k, old⟩ := pair
      rw [keys_cons, List.nodup_cons] at distinct
      rcases List.mem_cons.mp member with first | later
      · cases first
        rw [get?, if_pos rfl]
      · have different : k ≠ key := by
          rintro rfl
          exact distinct.1 (List.mem_map.mpr ⟨_, later, rfl⟩)
        rw [get?, if_neg different]
        exact ih distinct.2 later

theorem mem_of_get? {key : κ} {value : α} {pairs : Assoc κ α}
    (found : pairs.get? key = some value) : (key, value) ∈ pairs := by
  induction pairs with
  | nil => cases found
  | cons pair rest ih =>
      obtain ⟨k, old⟩ := pair
      rw [get?] at found
      split at found
      · rename_i same
        cases found
        rw [same]
        exact List.mem_cons_self
      · exact List.mem_cons_of_mem _ (ih found)

theorem has_iff_mem_keys {key : κ} {pairs : Assoc κ α} :
    pairs.has key = true ↔ key ∈ pairs.keys := by
  rw [has, Option.isSome_iff_ne_none, Ne, get?_eq_none_iff, Decidable.not_not]

theorem keys_put_of_mem {key : κ} {pairs : Assoc κ α}
    (member : key ∈ pairs.keys) (value : α) :
    (pairs.put key value).keys = pairs.keys := by
  induction pairs with
  | nil => cases member
  | cons pair rest ih =>
      obtain ⟨k, old⟩ := pair
      by_cases same : k = key
      · simp [put, same]
      · have inRest : key ∈ keys rest := by
          simpa [Ne.symm same] using member
        simp [put, same, ih inRest]

theorem put_of_not_mem {key : κ} {pairs : Assoc κ α}
    (absent : key ∉ pairs.keys) (value : α) :
    pairs.put key value = pairs ++ [(key, value)] := by
  induction pairs with
  | nil => rfl
  | cons pair rest ih =>
      obtain ⟨k, old⟩ := pair
      rw [keys_cons, List.mem_cons, not_or] at absent
      simp [put, Ne.symm absent.1, ih absent.2]

theorem keys_put_of_not_mem {key : κ} {pairs : Assoc κ α}
    (absent : key ∉ pairs.keys) (value : α) :
    (pairs.put key value).keys = pairs.keys ++ [key] := by
  rw [put_of_not_mem absent, keys, List.map_append]
  rfl

theorem nodup_keys_put {pairs : Assoc κ α} (distinct : pairs.keys.Nodup)
    (key : κ) (value : α) : (pairs.put key value).keys.Nodup := by
  by_cases member : key ∈ pairs.keys
  · rw [keys_put_of_mem member]
    exact distinct
  · rw [keys_put_of_not_mem member, List.nodup_append]
    refine ⟨distinct, List.nodup_cons.mpr ⟨List.not_mem_nil, List.nodup_nil⟩,
      ?_⟩
    intro other known last isLast same
    rw [List.mem_singleton] at isLast
    exact member (isLast ▸ same ▸ known)

/-- Replacing a value leaves the pairs in their places. -/
theorem put_eq_map {key : κ} {pairs : Assoc κ α} (distinct : pairs.keys.Nodup)
    (member : key ∈ pairs.keys) (value : α) :
    pairs.put key value =
      pairs.map fun pair => if pair.1 = key then (key, value) else pair := by
  induction pairs with
  | nil => cases member
  | cons pair rest ih =>
      obtain ⟨k, old⟩ := pair
      rw [keys_cons, List.nodup_cons] at distinct
      by_cases same : k = key
      · subst same
        have others : rest.map (fun pair =>
            if pair.1 = k then (k, value) else pair) = rest.map id := by
          apply List.map_congr_left
          intro pair isPair
          apply if_neg
          rintro rfl
          exact distinct.1 (List.mem_map.mpr ⟨pair, isPair, rfl⟩)
        simp [put, others]
      · have inRest : key ∈ keys rest := by
          simpa [Ne.symm same] using member
        simp [put, same, ih distinct.2 inRest]

omit [DecidableEq κ] in
theorem nodup_keys_filter {pairs : Assoc κ α} (distinct : pairs.keys.Nodup)
    (keeps : κ × α → Bool) : (keys (pairs.filter keeps)).Nodup :=
  distinct.sublist (List.filter_sublist.map _)

theorem keys_erase (key : κ) (pairs : Assoc κ α) :
    (pairs.erase key).keys = pairs.keys.filter (· ≠ key) := by
  rw [erase, keys, keys, List.filter_map]
  rfl

end Assoc
end ClusterTrace
