import ClusterTrace.Correlation.Selection
import ClusterTrace.Proofs.Time.InstantOrder
import Mathlib.Data.List.Nodup
import Mathlib.Data.Prod.Lex
import Mathlib.Data.String.Basic
import Mathlib.Order.Compare

/-!
# Picked pods

The pod that is picked among several is the extreme one by creation time, pods
of one time by UID.  Since no two pods share a UID, it does not matter in which
order they are listed.
-/

namespace ClusterTrace.Correlation

open Time (Instant)

/-! ## Extremes -/

section Extremes

variable {α β κ : Type} [LinearOrder κ] {isBefore : α → α → Bool} {key : α → κ}

theorem firstLeast?_eq_none {rows : List α} :
    firstLeast? isBefore rows = none ↔ rows = [] := by
  cases rows with
  | nil => simp [firstLeast?]
  | cons row rest =>
      rw [firstLeast?]
      split <;> simp

theorem lastGreatest?_eq_none {rows : List α} :
    lastGreatest? isBefore rows = none ↔ rows = [] := by
  cases rows with
  | nil => simp [lastGreatest?]
  | cons row rest =>
      rw [lastGreatest?]
      split <;> simp

/-- The row is least, and of those with its key the first. -/
def IsFirstLeast (key : α → κ) (rows : List α) (row : α) : Prop :=
  ∃ before after, rows = before ++ row :: after ∧
    (∀ other ∈ before, key row < key other) ∧
    ∀ other ∈ after, key row ≤ key other

theorem IsFirstLeast.mem {rows : List α} {row : α}
    (least : IsFirstLeast key rows row) : row ∈ rows := by
  obtain ⟨before, after, rfl, -⟩ := least
  simp

theorem IsFirstLeast.le {rows : List α} {row : α}
    (least : IsFirstLeast key rows row) {other : α} (member : other ∈ rows) :
    key row ≤ key other := by
  obtain ⟨before, after, rfl, less, notGreater⟩ := least
  rcases List.mem_append.mp member with earlier | later
  · exact (less other earlier).le
  · rcases List.mem_cons.mp later with rfl | later
    · exact le_rfl
    · exact notGreater other later

theorem isFirstLeast_cons {first : α} {rest : List α} {row : α} :
    IsFirstLeast key (first :: rest) row ↔
      row = first ∧ (∀ other ∈ rest, key first ≤ key other) ∨
        key row < key first ∧ IsFirstLeast key rest row := by
  constructor
  · rintro ⟨before, after, split, less, notGreater⟩
    cases before with
    | nil =>
        obtain ⟨rfl, rfl⟩ := List.cons.inj split
        exact Or.inl ⟨rfl, notGreater⟩
    | cons other before =>
        obtain ⟨rfl, rfl⟩ := List.cons.inj split
        rw [List.forall_mem_cons] at less
        exact Or.inr ⟨less.1, before, after, rfl, less.2, notGreater⟩
  · rintro (⟨rfl, notGreater⟩ | ⟨less, before, after, rfl, others, notGreater⟩)
    · exact ⟨[], rest, rfl, by simp, notGreater⟩
    · exact ⟨first :: before, after, rfl,
        List.forall_mem_cons.mpr ⟨less, others⟩, notGreater⟩

theorem firstLeast?_eq_some_iff
    (ordered : ∀ a b, isBefore a b = true ↔ key a < key b) {rows : List α}
    {row : α} :
    firstLeast? isBefore rows = some row ↔ IsFirstLeast key rows row := by
  induction rows generalizing row with
  | nil => simp [firstLeast?, IsFirstLeast]
  | cons first rest ih =>
      rw [firstLeast?, isFirstLeast_cons, ← ih]
      cases least : firstLeast? isBefore rest with
      | none =>
          rw [firstLeast?_eq_none] at least
          subst least
          simp [eq_comm]
      | some other =>
          have isLeast : IsFirstLeast key rest other := ih.mp least
          simp only [Option.some.injEq, ordered]
          split
          · rename_i less
            constructor
            · rintro rfl
              exact Or.inr ⟨less, rfl⟩
            · rintro (⟨-, notGreater⟩ | ⟨-, same⟩)
              · exact (not_le_of_gt less (notGreater other isLeast.mem)).elim
              · exact same
          · rename_i notLess
            constructor
            · rintro rfl
              exact Or.inl ⟨rfl, fun row member =>
                (not_lt.mp notLess).trans (isLeast.le member)⟩
            · rintro (⟨rfl, -⟩ | ⟨less, rfl⟩)
              · rfl
              · exact (notLess less).elim

theorem lastGreatest?_spec
    (ordered : ∀ a b, isBefore a b = true ↔ key a < key b) {rows : List α}
    {row : α} (found : lastGreatest? isBefore rows = some row) :
    row ∈ rows ∧ ∀ other ∈ rows, key other ≤ key row := by
  induction rows generalizing row with
  | nil => cases found
  | cons first rest ih =>
      rw [lastGreatest?] at found
      cases greatest : lastGreatest? isBefore rest with
      | none =>
          rw [lastGreatest?_eq_none] at greatest
          subst greatest
          cases found
          simp
      | some other =>
          obtain ⟨member, notLess⟩ := ih greatest
          rw [greatest] at found
          simp only [Option.some.injEq, ordered] at found
          split at found
          · rename_i less
            subst found
            refine ⟨List.mem_cons_self, List.forall_mem_cons.mpr ⟨le_rfl, ?_⟩⟩
            intro row isRow
            exact (notLess row isRow).trans less.le
          · rename_i notBefore
            subst found
            exact ⟨List.mem_cons_of_mem _ member,
              List.forall_mem_cons.mpr ⟨not_lt.mp notBefore, notLess⟩⟩

/-- Where no two rows share a key, a row that is picked for being least is the
same in any order of the rows. -/
theorem pick_eq_of_perm {pick : List α → Option α}
    (nothing : ∀ rows, pick rows = none ↔ rows = [])
    (least : ∀ {rows row}, pick rows = some row →
      row ∈ rows ∧ ∀ other ∈ rows, key row ≤ key other)
    {rows rows' : List α} (perm : rows.Perm rows')
    (unique : ∀ a ∈ rows, ∀ b ∈ rows, key a = key b → a = b) :
    pick rows = pick rows' := by
  cases found : pick rows with
  | none =>
      rw [nothing] at found
      subst found
      exact ((nothing rows').mpr perm.nil_eq.symm).symm
  | some row =>
      cases found' : pick rows' with
      | none =>
          rw [nothing] at found'
          subst found'
          rw [(nothing rows).mpr perm.eq_nil] at found
          cases found
      | some row' =>
          obtain ⟨member, isLeast⟩ := least found
          obtain ⟨member', isLeast'⟩ := least found'
          have member'' := perm.mem_iff.mpr member'
          exact congrArg some (unique row member row' member''
            (le_antisymm (isLeast row' member'')
              (isLeast' row (perm.mem_iff.mp member))))

theorem firstLeast?_eq_of_perm
    (ordered : ∀ a b, isBefore a b = true ↔ key a < key b)
    {rows rows' : List α} (perm : rows.Perm rows')
    (unique : ∀ a ∈ rows, ∀ b ∈ rows, key a = key b → a = b) :
    firstLeast? isBefore rows = firstLeast? isBefore rows' := by
  refine pick_eq_of_perm (fun _ => firstLeast?_eq_none) ?_ perm unique
  intro rows row found
  have least := (firstLeast?_eq_some_iff ordered).mp found
  exact ⟨least.mem, fun other member => least.le member⟩

theorem lastGreatest?_eq_of_perm
    (ordered : ∀ a b, isBefore a b = true ↔ key a < key b)
    {rows rows' : List α} (perm : rows.Perm rows')
    (unique : ∀ a ∈ rows, ∀ b ∈ rows, key a = key b → a = b) :
    lastGreatest? isBefore rows = lastGreatest? isBefore rows' := by
  have greatest : ∀ {rows row}, lastGreatest? isBefore rows = some row →
      row ∈ rows ∧ ∀ other ∈ rows,
        OrderDual.toDual (key row) ≤ OrderDual.toDual (key other) :=
    lastGreatest?_spec ordered
  exact pick_eq_of_perm (fun _ => lastGreatest?_eq_none) greatest perm unique

theorem firstLeast?_map {isBefore' : β → β → Bool} {f : α → β}
    (same : ∀ a b, isBefore' (f a) (f b) = isBefore a b) (rows : List α) :
    firstLeast? isBefore' (rows.map f) =
      (firstLeast? isBefore rows).map f := by
  induction rows with
  | nil => rfl
  | cons row rest ih =>
      rw [List.map_cons, firstLeast?, firstLeast?, ih]
      cases firstLeast? isBefore rest with
      | none => rfl
      | some other =>
          simp only [Option.map_some, same]
          split <;> rfl

theorem lastGreatest?_map {isBefore' : β → β → Bool} {f : α → β}
    (same : ∀ a b, isBefore' (f a) (f b) = isBefore a b) (rows : List α) :
    lastGreatest? isBefore' (rows.map f) =
      (lastGreatest? isBefore rows).map f := by
  induction rows with
  | nil => rfl
  | cons row rest ih =>
      rw [List.map_cons, lastGreatest?, lastGreatest?, ih]
      cases lastGreatest? isBefore rest with
      | none => rfl
      | some other =>
          simp only [Option.map_some, same]
          split <;> rfl

end Extremes

/-! ## Orders of pods -/

/-- By creation time, then by UID. -/
def age (pod : Pod) : Instant ×ₗ String :=
  toLex (pod.creationTime, pod.uuid)

/-- The latest creation time first, then by UID. -/
def recency (pod : Pod) : Instantᵒᵈ ×ₗ String :=
  toLex (OrderDual.toDual pod.creationTime, pod.uuid)

theorem isOlder_iff (a b : Pod) : isOlder a b = true ↔ age a < age b := by
  rw [isOlder, beq_iff_eq, compareAge, Ordering.then_eq_lt,
    Instant.compare_eq_lt, Instant.compare_eq_eq, compare_lt_iff_lt, age, age,
    Prod.Lex.toLex_lt_toLex]

theorem isBetterSource_iff (a b : Pod) :
    isBetterSource a b = true ↔ recency a < recency b := by
  rw [isBetterSource, beq_iff_eq, Ordering.then_eq_lt, Instant.compare_eq_lt,
    Instant.compare_eq_eq, compare_lt_iff_lt, recency, recency,
    Prod.Lex.toLex_lt_toLex, OrderDual.toDual_lt_toDual, OrderDual.toDual_inj,
    eq_comm]

theorem age_le_iff {a b : Pod} :
    age a ≤ age b ↔ a.creationTime < b.creationTime ∨
      a.creationTime = b.creationTime ∧ a.uuid ≤ b.uuid := by
  rw [age, age, Prod.Lex.toLex_le_toLex]

theorem age_lt_iff {a b : Pod} :
    age a < age b ↔ a.creationTime < b.creationTime ∨
      a.creationTime = b.creationTime ∧ a.uuid < b.uuid := by
  rw [age, age, Prod.Lex.toLex_lt_toLex]

theorem recency_le_iff {a b : Pod} :
    recency a ≤ recency b ↔ b.creationTime < a.creationTime ∨
      a.creationTime = b.creationTime ∧ a.uuid ≤ b.uuid := by
  rw [recency, recency, Prod.Lex.toLex_le_toLex, OrderDual.toDual_lt_toDual,
    OrderDual.toDual_inj]

/-! ## Handlers -/

/-- The handler of a node at a time: the last one created by then, or else the
first one of all. -/
structure IsHandlerAt (pods : List Pod) (node : String) (at' : Instant)
    (handler : Pod) : Prop where
  mem : handler ∈ pods
  isHandler : isHandler node handler = true
  picked :
    (handler.creationTime ≤ at' ∧
      ∀ other ∈ pods, Correlation.isHandler node other = true →
        other.creationTime ≤ at' →
          other.creationTime < handler.creationTime ∨
            other.creationTime = handler.creationTime ∧
              other.uuid ≤ handler.uuid) ∨
    ∀ other ∈ pods, Correlation.isHandler node other = true →
      at' < other.creationTime ∧
        (handler.creationTime < other.creationTime ∨
          handler.creationTime = other.creationTime ∧
            handler.uuid ≤ other.uuid)

theorem handler?_eq_none_iff {pods : List Pod} {node : String}
    {at' : Instant} :
    handler? pods node at' = none ↔
      ∀ pod ∈ pods, isHandler node pod = false := by
  rw [handler?]
  cases early : lastGreatest? isOlder ((pods.filter (isHandler node)).filter
      fun pod => decide (pod.creationTime ≤ at')) with
  | none => simp [firstLeast?_eq_none]
  | some pod =>
      have member := (lastGreatest?_spec isOlder_iff early).1
      rw [List.mem_filter, List.mem_filter] at member
      simp only [reduceCtorEq, false_iff]
      intro noHandler
      have notHandler := noHandler pod member.1.1
      rw [member.1.2] at notHandler
      cases notHandler

theorem isHandler_eq (node : String) :
    isHandler node = fun pod =>
      decide (pod.nodeName = node ∧
        handlerPrefix.toList <+: pod.name.toList) := by
  funext pod
  rw [Bool.eq_iff_iff, isHandler, Bool.and_eq_true, beq_iff_eq,
    String.startsWith_string_iff, decide_eq_true_iff]

/-- The only handler of a node is picked at all times. -/
theorem handler?_of_only {pods : List Pod} {node : String} {handler : Pod}
    (only : pods.filter (isHandler node) = [handler]) (at' : Instant) :
    handler? pods node at' = some handler := by
  rw [handler?, only]
  by_cases early : handler.creationTime ≤ at'
  · rw [List.filter_cons_of_pos (by simpa using early)]
    rfl
  · rw [List.filter_cons_of_neg (by simpa using early)]
    rfl

theorem handler?_isHandlerAt {pods : List Pod} {node : String} {at' : Instant}
    {handler : Pod} (found : handler? pods node at' = some handler) :
    IsHandlerAt pods node at' handler := by
  rw [handler?] at found
  cases early : lastGreatest? isOlder ((pods.filter (isHandler node)).filter
      fun pod => decide (pod.creationTime ≤ at')) with
  | some pod =>
      simp only [early, Option.some.injEq] at found
      subst found
      obtain ⟨member, latest⟩ := lastGreatest?_spec isOlder_iff early
      simp only [List.mem_filter, decide_eq_true_eq, and_imp, age_le_iff]
        at member latest
      exact ⟨member.1.1, member.1.2, Or.inl ⟨member.2, latest⟩⟩
  | none =>
      simp only [early] at found
      rw [firstLeast?_eq_some_iff isOlder_iff] at found
      rw [lastGreatest?_eq_none, List.filter_eq_nil_iff] at early
      have member := List.mem_filter.mp found.mem
      refine ⟨member.1, member.2, Or.inr fun other isPod handles => ?_⟩
      have isHandler := List.mem_filter.mpr ⟨isPod, handles⟩
      exact ⟨by simpa using early other isHandler,
        age_le_iff.mp (found.le isHandler)⟩

theorem uuid_unique {pods rows : List Pod}
    (distinct : (pods.map (·.uuid)).Nodup) (subset : rows ⊆ pods) :
    ∀ a ∈ rows, ∀ b ∈ rows, a.uuid = b.uuid → a = b :=
  fun _ isRow _ isRow' same =>
    List.inj_on_of_nodup_map distinct (subset isRow) (subset isRow') same

theorem uuid_eq_of_age_eq {a b : Pod} (same : age a = age b) :
    a.uuid = b.uuid :=
  congrArg (fun pair => (ofLex pair).2) same

theorem uuid_eq_of_recency_eq {a b : Pod} (same : recency a = recency b) :
    a.uuid = b.uuid :=
  congrArg (fun pair => (ofLex pair).2) same

theorem age_unique {pods rows : List Pod}
    (distinct : (pods.map (·.uuid)).Nodup) (subset : rows ⊆ pods) :
    ∀ a ∈ rows, ∀ b ∈ rows, age a = age b → a = b :=
  fun a isRow b isRow' same => uuid_unique distinct subset a isRow b isRow'
    (uuid_eq_of_age_eq same)

theorem recency_unique {pods rows : List Pod}
    (distinct : (pods.map (·.uuid)).Nodup) (subset : rows ⊆ pods) :
    ∀ a ∈ rows, ∀ b ∈ rows, recency a = recency b → a = b :=
  fun a isRow b isRow' same => uuid_unique distinct subset a isRow b isRow'
    (uuid_eq_of_recency_eq same)

/-- Only the handlers matter, in any order. -/
theorem handler?_eq_of_perm {pods pods' : List Pod} {node : String}
    (distinct : (pods.map (·.uuid)).Nodup)
    (perm : (pods.filter (isHandler node)).Perm
      (pods'.filter (isHandler node))) (at' : Instant) :
    handler? pods node at' = handler? pods' node at' := by
  have handlers : pods.filter (isHandler node) ⊆ pods :=
    List.filter_subset_self pods
  have early := List.Subset.trans
    (List.filter_subset_self (p := fun pod => decide (pod.creationTime ≤ at'))
      (pods.filter (isHandler node))) handlers
  rw [handler?, handler?,
    firstLeast?_eq_of_perm isOlder_iff perm (age_unique distinct handlers),
    lastGreatest?_eq_of_perm isOlder_iff (perm.filter _)
      (age_unique distinct early)]

/-! ## Sources -/

/-- The pod may be the one from which a migration started: it was created by the
instance, on the node, between the instance and the start. -/
structure IsCandidate (vmi : VirtualMachineInstance) (node : String)
    (started : Instant) (pod : Pod) : Prop where
  createdBy : pod.createdBy = some vmi.uuid
  nodeName : pod.nodeName = node
  created : vmi.creationTime ≤ pod.creationTime
  started : pod.creationTime ≤ started

/-- The pod from which a migration started: the candidate that was created last,
of those of one time the one of the smallest UID. -/
structure IsSource (pods : List Pod) (vmi : VirtualMachineInstance)
    (node : String) (started : Instant) (source : Pod) : Prop where
  mem : source ∈ pods
  candidate : IsCandidate vmi node started source
  picked : ∀ other ∈ pods, IsCandidate vmi node started other →
    other.creationTime < source.creationTime ∨
      source.creationTime = other.creationTime ∧ source.uuid ≤ other.uuid

/-- The test of `sourceLauncher?`. -/
def isCandidate (vmi node : String) (created started : Instant) (pod : Pod) :
    Bool :=
  isLauncherOn vmi node pod && decide (created ≤ pod.creationTime) &&
    decide (pod.creationTime ≤ started)

theorem isCandidate_iff {vmi : VirtualMachineInstance} {node : String}
    {started : Instant} {pod : Pod} :
    isCandidate vmi.uuid node vmi.creationTime started pod = true ↔
      IsCandidate vmi node started pod := by
  simp only [isCandidate, isLauncherOn, isLauncher, Bool.and_eq_true,
    beq_iff_eq, decide_eq_true_eq]
  constructor
  · rintro ⟨⟨⟨createdBy, nodeName⟩, created⟩, started⟩
    exact { createdBy, nodeName, created, started }
  · intro candidate
    exact ⟨⟨⟨candidate.createdBy, candidate.nodeName⟩, candidate.created⟩,
      candidate.started⟩

theorem sourceLauncher?_eq_none_iff {pods : List Pod}
    {vmi : VirtualMachineInstance} {node : String} {started : Instant} :
    sourceLauncher? pods vmi.uuid node vmi.creationTime started = none ↔
      ∀ pod ∈ pods, ¬ IsCandidate vmi node started pod := by
  rw [sourceLauncher?, firstLeast?_eq_none, List.filter_eq_nil_iff]
  exact forall₂_congr fun pod _ => not_congr isCandidate_iff

theorem sourceLauncher?_isSource {pods : List Pod}
    {vmi : VirtualMachineInstance} {node : String} {started : Instant}
    {source : Pod}
    (found : sourceLauncher? pods vmi.uuid node vmi.creationTime started =
      some source) : IsSource pods vmi node started source := by
  rw [sourceLauncher?, firstLeast?_eq_some_iff isBetterSource_iff] at found
  obtain ⟨member, candidate⟩ := List.mem_filter.mp found.mem
  refine ⟨member, isCandidate_iff.mp candidate, ?_⟩
  intro other isPod candidate'
  exact recency_le_iff.mp
    (found.le (List.mem_filter.mpr ⟨isPod, isCandidate_iff.mpr candidate'⟩))

/-- Only the candidates matter, in any order. -/
theorem sourceLauncher?_eq_of_perm {pods pods' : List Pod}
    {vmi node : String} {created started : Instant}
    (distinct : (pods.map (·.uuid)).Nodup)
    (perm : (pods.filter (isCandidate vmi node created started)).Perm
      (pods'.filter (isCandidate vmi node created started))) :
    sourceLauncher? pods vmi node created started =
      sourceLauncher? pods' vmi node created started :=
  firstLeast?_eq_of_perm isBetterSource_iff perm
    (recency_unique distinct (List.filter_subset_self pods))

end ClusterTrace.Correlation
