import Mathlib.Data.List.Forall2

/-!
# Lists that are read item by item

A list is read if and only if each of its items is, `exists_mapM_eq_ok_iff`, and
otherwise fails by the first item that fails, `mapM_eq_error_iff`.
-/

namespace ClusterTrace

variable {ε α β : Type} {read : α → Except ε β} {items : List α}

theorem mapM_cons_of_ok {item : α} {result : β} (first : read item = .ok result)
    (rest : List α) :
    (item :: rest).mapM read = (rest.mapM read).map (result :: ·) := by
  rw [List.mapM_cons, first]
  cases rest.mapM read <;> rfl

theorem mapM_cons_of_error {item : α} {fault : ε}
    (first : read item = .error fault) (rest : List α) :
    (item :: rest).mapM read = .error fault := by
  rw [List.mapM_cons, first]
  rfl

theorem mapM_eq_ok_iff {results : List β} :
    items.mapM read = .ok results ↔
      List.Forall₂ (fun item result => read item = .ok result) items
        results := by
  induction items generalizing results with
  | nil =>
      rw [List.forall₂_nil_left_iff]
      exact ⟨fun given => (Except.ok.inj given).symm, fun none => none ▸ rfl⟩
  | cons item rest ih =>
      rw [List.forall₂_cons_left_iff]
      cases first : read item with
      | error fault => simp [mapM_cons_of_error first]
      | ok result =>
          rw [mapM_cons_of_ok first]
          cases others : rest.mapM read with
          | error fault => simp [Except.map, ← ih, others]
          | ok results' => simp [Except.map, ← ih, others, eq_comm]

theorem exists_mapM_eq_ok_iff :
    (∃ results, items.mapM read = .ok results) ↔
      ∀ item ∈ items, ∃ result, read item = .ok result := by
  induction items with
  | nil => exact iff_of_true ⟨[], rfl⟩ (by simp)
  | cons item rest ih =>
      rw [List.forall_mem_cons, ← ih]
      cases first : read item with
      | error fault => simp [mapM_cons_of_error first]
      | ok result =>
          rw [mapM_cons_of_ok first]
          cases rest.mapM read <;> simp [Except.map]

theorem mapM_eq_ok_map {f : α → β}
    (isRead : ∀ item ∈ items, read item = .ok (f item)) :
    items.mapM read = .ok (items.map f) :=
  mapM_eq_ok_iff.mpr (List.forall₂_map_right_iff.mpr
    (List.forall₂_same.mpr isRead))

/-- Items that are read back make a list that is read back. -/
theorem mapM_map_eq_ok {write : β → α} {results : List β}
    (readBack : ∀ result ∈ results, read (write result) = .ok result) :
    (results.map write).mapM read = .ok results :=
  mapM_eq_ok_iff.mpr (List.forall₂_map_left_iff.mpr
    (List.forall₂_same.mpr readBack))

/-- Each result is that of some item. -/
theorem exists_item_of_mapM {results : List β}
    (given : items.mapM read = .ok results) {result : β}
    (member : result ∈ results) : ∃ item ∈ items, read item = .ok result := by
  rw [mapM_eq_ok_iff] at given
  induction given with
  | nil => cases member
  | @cons item result' rest results' first _ ih =>
      rcases List.mem_cons.mp member with rfl | later
      · exact ⟨item, List.mem_cons_self, first⟩
      · obtain ⟨item', isItem, isRead⟩ := ih later
        exact ⟨item', List.mem_cons_of_mem _ isItem, isRead⟩

theorem mapM_eq_error_iff {fault : ε} :
    items.mapM read = .error fault ↔
      ∃ before item after, items = before ++ item :: after ∧
        (∀ earlier ∈ before, ∃ result, read earlier = .ok result) ∧
        read item = .error fault := by
  constructor
  · intro failed
    induction items with
    | nil => cases failed
    | cons item rest ih =>
        cases first : read item with
        | error fault' =>
            rw [mapM_cons_of_error first] at failed
            cases failed
            exact ⟨[], item, rest, rfl, by simp, first⟩
        | ok result =>
            rw [mapM_cons_of_ok first] at failed
            cases others : rest.mapM read with
            | ok results =>
                rw [others] at failed
                cases failed
            | error fault' =>
                rw [others] at failed
                cases failed
                obtain ⟨before, bad, after, rfl, earlier, fails⟩ := ih others
                exact ⟨item :: before, bad, after, rfl,
                  List.forall_mem_cons.mpr ⟨⟨result, first⟩, earlier⟩, fails⟩
  · rintro ⟨before, item, after, rfl, earlier, fails⟩
    induction before with
    | nil => exact mapM_cons_of_error fails after
    | cons head before ih =>
        obtain ⟨⟨result, first⟩, earlier⟩ := List.forall_mem_cons.mp earlier
        rw [List.cons_append, mapM_cons_of_ok first, ih earlier]
        rfl

end ClusterTrace
