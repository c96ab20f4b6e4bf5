import ClusterTrace.Database.Lookup
import ClusterTrace.Proofs.Correlation.Picks
import ClusterTrace.Proofs.Database.Prefix
import ClusterTrace.Proofs.ListReading
import ClusterTrace.Proofs.Time.ColumnOrder

/-!
# What lookups tell

A lookup hands out what the rows tell, unless it reads a manifest that nests too
deep to be read back, `Database.Tells`.  Tables whose manifests are shallow are
always read, `Database.Readable`.
-/

namespace ClusterTrace

open Time (Instant)

/-! ## Rows that are read back -/

/-- A manifest nests too deep to be read back, from a column of its text on. -/
def Failure.tooDeep (column : Nat) : Failure :=
  .json (.syntax' ⟨.nestedTooDeep, 1, column⟩)

/-- A manifest that nests too deep is why there is no result. -/
def FailsTooDeep {α : Type} (outcome : Outcome α) : Prop :=
  ∃ column, outcome = .error (.tooDeep column)

theorem FailsTooDeep.not_exists_ok {α : Type} {outcome : Outcome α}
    (fails : FailsTooDeep outcome) : ¬ ∃ value, outcome = .ok value := by
  obtain ⟨column, rfl⟩ := fails
  rintro ⟨value, given⟩
  cases given

theorem FailsTooDeep.bind {α β : Type} {outcome : Outcome α}
    (fails : FailsTooDeep outcome) (next : α → Outcome β) :
    FailsTooDeep (outcome >>= next) := by
  obtain ⟨column, rfl⟩ := fails
  exact ⟨column, rfl⟩

theorem FailsTooDeep.map {α β : Type} {outcome : Outcome α}
    (fails : FailsTooDeep outcome) (f : α → β) :
    FailsTooDeep (outcome.map f) := by
  obtain ⟨column, rfl⟩ := fails
  exact ⟨column, rfl⟩

/-- One row that nests too deep is enough, if the others do so or are read. -/
theorem failsTooDeep_mapM {α β : Type} {f : α → Outcome β} {rows : List α}
    (reads : ∀ row ∈ rows, FailsTooDeep (f row) ∨ ∃ value, f row = .ok value)
    (deep : ∃ row ∈ rows, FailsTooDeep (f row)) :
    FailsTooDeep (rows.mapM f) := by
  induction rows with
  | nil =>
      obtain ⟨row, member, -⟩ := deep
      cases member
  | cons row rest ih =>
      rw [List.forall_mem_cons] at reads
      rw [List.mapM_cons]
      rcases reads.1 with fails | ⟨value, given⟩
      · exact fails.bind _
      · obtain ⟨failing, member, fails⟩ := deep
        obtain rfl | later := List.mem_cons.mp member
        · exact fails.bind _
        · rw [given]
          exact (ih reads.2 ⟨failing, later, fails⟩).bind _

theorem restoreContent_of_shallow {content : Json}
    (shallow : content.depth ≤ Json.maxDepth) :
    restoreContent content = .ok content.restored := by
  rw [restoreContent, Json.restore_of_shallow shallow]
  rfl

theorem restoreContent_of_deep {content : Json}
    (deep : ¬ content.depth ≤ Json.maxDepth) :
    FailsTooDeep (restoreContent content) := by
  obtain ⟨column, fails⟩ := Json.restore_of_deep deep
  rw [restoreContent, fails]
  exact ⟨column, rfl⟩

/-- A list in a list, a number of times. -/
def Json.nested : Nat → Json
  | 0 => .null
  | depth + 1 => .array [nested depth]

theorem Json.depth_nested (depth : Nat) : (nested depth).depth = depth := by
  induction depth with
  | zero => rfl
  | succ depth ih =>
      rw [nested, Json.depth, Json.depth.itemsDepth, Json.depth.itemsDepth, ih,
        Nat.max_zero]

theorem Json.maxDepth_lt_depth_nested :
    maxDepth < (nested 128).depth := by
  rw [depth_nested]
  decide

/-- A pod with its manifest as it is read back. -/
def Pod.readBack (pod : Pod) : Pod :=
  { pod with content := pod.content.restored }

/-- An instance with its manifest as it is read back. -/
def VirtualMachineInstance.readBack (vmi : VirtualMachineInstance) :
    VirtualMachineInstance :=
  { vmi with content := vmi.content.restored }

/-- A migration with its manifest, if it has one, as it is read back. -/
def Migration.readBack (migration : Migration) : Migration :=
  { migration with content := migration.content.map Json.restored }

/-- A claim with its manifest as it is read back. -/
def VolumeClaim.readBack (pvc : VolumeClaim) : VolumeClaim :=
  { pvc with content := pvc.content.restored }

namespace Database

/-- The manifests of pods, instances, migrations and claims nest as deep as the
reader goes at most. -/
structure Readable (database : Database) : Prop where
  pods : ∀ pod ∈ database.pods, pod.content.depth ≤ Json.maxDepth
  vmis : ∀ vmi ∈ database.vmis, vmi.content.depth ≤ Json.maxDepth
  migrations : ∀ migration ∈ database.migrations,
    ∀ content ∈ migration.content, content.depth ≤ Json.maxDepth
  pvcs : ∀ pvc ∈ database.pvcs, pvc.content.depth ≤ Json.maxDepth

/-- The outcome is the expected one, or a manifest nests too deep. -/
def Tells {α : Type} (database : Database) (outcome expected : Outcome α) :
    Prop :=
  outcome = expected ∨ FailsTooDeep outcome ∧ ¬ database.Readable

section Outcomes

variable {α β : Type} {database : Database}

theorem tells_self (outcome : Outcome α) : database.Tells outcome outcome :=
  Or.inl rfl

theorem Tells.eq {outcome expected : Outcome α}
    (tells : database.Tells outcome expected)
    (read : ¬ FailsTooDeep outcome) : outcome = expected :=
  tells.resolve_right fun failed => read failed.1

theorem Tells.eq_of_readable {outcome expected : Outcome α}
    (tells : database.Tells outcome expected) (readable : database.Readable) :
    outcome = expected :=
  tells.resolve_right fun failed => failed.2 readable

theorem Tells.andThen {outcome : Outcome α} {value : α}
    {next : α → Outcome β} {expected : Outcome β}
    (first : database.Tells outcome (.ok value))
    (second : database.Tells (next value) expected) :
    database.Tells (outcome >>= next) expected := by
  rcases first with rfl | ⟨fails, unreadable⟩
  · exact second
  · exact Or.inr ⟨fails.bind next, unreadable⟩

theorem tells_bind {outcome : Outcome α} {next next' : α → Outcome β}
    (second : ∀ value, database.Tells (next value) (next' value)) :
    database.Tells (outcome >>= next) (outcome >>= next') := by
  cases outcome with
  | error failure => exact tells_self _
  | ok value => exact second value

theorem Tells.map {outcome : Outcome α} {value : α}
    (tells : database.Tells outcome (.ok value)) (f : α → β) :
    database.Tells (outcome.map f) (.ok (f value)) := by
  rcases tells with rfl | ⟨fails, unreadable⟩
  · exact Or.inl rfl
  · exact Or.inr ⟨fails.map f, unreadable⟩

theorem tells_mapM {f : α → Outcome β} {g : α → β} {rows : List α}
    (tells : ∀ row ∈ rows, database.Tells (f row) (.ok (g row))) :
    database.Tells (rows.mapM f) (.ok (rows.map g)) := by
  induction rows with
  | nil => exact tells_self _
  | cons row rest ih =>
      rw [List.forall_mem_cons] at tells
      rw [List.mapM_cons]
      exact tells.1.andThen ((ih tells.2).andThen (tells_self _))

theorem tells_restoreContent {content : Json}
    (shallow : database.Readable → content.depth ≤ Json.maxDepth)
    (f : Json → α) :
    database.Tells ((restoreContent content).map f)
      (.ok (f content.restored)) := by
  by_cases deep : content.depth ≤ Json.maxDepth
  · left
    rw [restoreContent_of_shallow deep]
    rfl
  · right
    exact ⟨(restoreContent_of_deep deep).map f,
      fun readable => deep (shallow readable)⟩

/-- A row that is found is read back. -/
theorem tells_restore? {restore : α → Outcome α} {readBack : α → α}
    {row? : Option α}
    (tells : ∀ row ∈ row?, database.Tells (restore row) (.ok (readBack row))) :
    database.Tells (restore? restore row?) (.ok (row?.map readBack)) := by
  cases row? with
  | none => exact tells_self _
  | some row => exact (tells row rfl).map some

end Outcomes

theorem tells_restorePod {database : Database} {pod : Pod}
    (member : pod ∈ database.pods) :
    database.Tells pod.restore (.ok pod.readBack) :=
  tells_restoreContent (fun readable => readable.pods pod member) _

theorem tells_restoreInstance {database : Database}
    {vmi : VirtualMachineInstance} (member : vmi ∈ database.vmis) :
    database.Tells vmi.restore (.ok vmi.readBack) :=
  tells_restoreContent (fun readable => readable.vmis vmi member) _

theorem tells_restoreClaim {database : Database} {pvc : VolumeClaim}
    (member : pvc ∈ database.pvcs) :
    database.Tells pvc.restore (.ok pvc.readBack) :=
  tells_restoreContent (fun readable => readable.pvcs pvc member) _

theorem tells_restoreMigration {database : Database} {migration : Migration}
    (member : migration ∈ database.migrations) :
    database.Tells migration.restore (.ok migration.readBack) := by
  cases content : migration.content with
  | none =>
      have same : migration.readBack = migration := by
        rw [Migration.readBack, content, Option.map_none, ← content]
      rw [same, Migration.restore, content]
      exact tells_self _
  | some manifest =>
      rw [Migration.restore, Migration.readBack, content]
      exact tells_restoreContent
        (fun readable =>
          readable.migrations migration member manifest content) _

/-! ## Lookups by key -/

theorem tells_getInstance (database : Database) (uuid : String) :
    database.Tells (database.getInstance uuid)
      (match database.vmis.find? fun vmi => vmi.uuid = uuid with
      | some row => .ok row.readBack
      | none => .error (.notFound "virtual machine instance" uuid)) := by
  rw [getInstance]
  cases found : database.vmis.find? fun vmi => vmi.uuid = uuid with
  | none => exact tells_self _
  | some row => exact tells_restoreInstance (List.mem_of_find?_eq_some found)

theorem tells_getMigration (database : Database) (uuid : String) :
    database.Tells (database.getMigration uuid)
      (match database.migrations.find? fun row => row.uuid = uuid with
      | some row => .ok row.readBack
      | none => .error (.notFound "migration" uuid)) := by
  rw [getMigration]
  cases found : database.migrations.find? fun row => row.uuid = uuid with
  | none => exact tells_self _
  | some row => exact tells_restoreMigration (List.mem_of_find?_eq_some found)

/-! ## Lookups by name -/

/-- The first of the rows that have the greatest time. -/
def IsNewest {α : Type} (time : α → Instant) (rows : List α) (row : α) : Prop :=
  ∃ before after, rows = before ++ row :: after ∧
    (∀ other ∈ before, time other < time row) ∧
    ∀ other ∈ after, time other ≤ time row

theorem newest?_eq_none {α : Type} {time : α → Instant} {rows : List α} :
    newest? time rows = none ↔ rows = [] :=
  Correlation.firstLeast?_eq_none

/-- Rows are compared by the texts of their times. -/
theorem newest?_eq_some_iff_isFirstLeast {α : Type} {time : α → Instant}
    {rows : List α} {row : α} :
    newest? time rows = some row ↔
      Correlation.IsFirstLeast
        (fun row => OrderDual.toDual (time row).columnText) rows row := by
  have ordered : ∀ a b,
      decide ((time b).columnText < (time a).columnText) = true ↔
        OrderDual.toDual (time a).columnText <
          OrderDual.toDual (time b).columnText :=
    fun a b => decide_eq_true_iff
  rw [newest?, Correlation.firstLeast?_eq_some_iff ordered]

theorem mem_of_newest?_eq_some {α : Type} {time : α → Instant} {rows : List α}
    {row : α} (found : newest? time rows = some row) : row ∈ rows :=
  (newest?_eq_some_iff_isFirstLeast.mp found).mem

/-- The greatest text of a time is that of the greatest time. -/
theorem newest?_eq_some_iff {α : Type} {time : α → Instant} {rows : List α}
    (plain : ∀ row ∈ rows, (time row).IsPlain) {row : α} :
    newest? time rows = some row ↔ IsNewest time rows row := by
  rw [newest?_eq_some_iff_isFirstLeast]
  unfold Correlation.IsFirstLeast IsNewest
  simp only [OrderDual.toDual_lt_toDual, OrderDual.toDual_le_toDual]
  refine exists₂_congr fun before after => and_congr_right ?_
  rintro rfl
  rw [List.forall_mem_append, List.forall_mem_cons] at plain
  obtain ⟨earlier, this, later⟩ := plain
  refine and_congr (forall₂_congr fun other member => ?_)
    (forall₂_congr fun other member => ?_)
  · exact (earlier other member).columnText_lt_iff this
  · exact (later other member).columnText_le_iff this

/-- The row of the newest pod of a name in a namespace. -/
def podRow? (database : Database) (name inNamespace : String) : Option Pod :=
  newest? (·.creationTime)
    (database.pods.filter fun pod =>
      pod.name = name && pod.namespaceName = inNamespace)

/-- The row of the newest instance of a name in a namespace. -/
def instanceRow? (database : Database) (name inNamespace : String) :
    Option VirtualMachineInstance :=
  newest? (·.creationTime)
    (database.vmis.filter fun vmi =>
      vmi.name = name && vmi.namespaceName = inNamespace)

theorem tells_findPod (database : Database) (name inNamespace : String) :
    database.Tells (database.findPod name inNamespace)
      (.ok ((database.podRow? name inNamespace).map Pod.readBack)) :=
  tells_restore? fun _ found =>
    tells_restorePod (List.mem_of_mem_filter (mem_of_newest?_eq_some found))

theorem tells_findInstance (database : Database) (name inNamespace : String) :
    database.Tells (database.findInstance name inNamespace)
      (.ok ((database.instanceRow? name inNamespace).map
        VirtualMachineInstance.readBack)) :=
  tells_restore? fun _ found => tells_restoreInstance
    (List.mem_of_mem_filter (mem_of_newest?_eq_some found))

/-! ## Lists -/

theorem tells_oldestFirst {database : Database} {rows : List Pod}
    (stored : ∀ row ∈ rows, row ∈ database.pods) :
    database.Tells (oldestFirst rows)
      (.ok ((rows.mergeSort isNotAfter).map Pod.readBack)) :=
  tells_mapM fun row member =>
    tells_restorePod (stored row (List.mem_mergeSort.mp member))

theorem restorePod_of_deep {pod : Pod}
    (deep : Json.maxDepth < pod.content.depth) : FailsTooDeep pod.restore :=
  (restoreContent_of_deep (not_le.mpr deep)).map _

theorem restorePod_cases (pod : Pod) :
    FailsTooDeep pod.restore ∨ ∃ read, pod.restore = .ok read := by
  by_cases shallow : pod.content.depth ≤ Json.maxDepth
  · rw [Pod.restore, restoreContent_of_shallow shallow]
    exact Or.inr ⟨_, rfl⟩
  · exact Or.inl (restorePod_of_deep (not_le.mp shallow))

/-- One manifest that nests too deep is enough for a list of pods to fail. -/
theorem oldestFirst_of_deep {rows : List Pod}
    (deep : ∃ pod ∈ rows, Json.maxDepth < pod.content.depth) :
    FailsTooDeep (oldestFirst rows) := by
  obtain ⟨pod, member, isDeep⟩ := deep
  exact failsTooDeep_mapM (fun other _ => restorePod_cases other)
    ⟨pod, List.mem_mergeSort.mpr member, restorePod_of_deep isDeep⟩

/-- A list of pods is given exactly if none of its rows nests too deep. -/
theorem oldestFirst_cases (rows : List Pod) :
    (∀ pod ∈ rows, pod.content.depth ≤ Json.maxDepth) ∧
      oldestFirst rows = .ok ((rows.mergeSort isNotAfter).map Pod.readBack) ∨
    (∃ pod ∈ rows, Json.maxDepth < pod.content.depth) ∧
      FailsTooDeep (oldestFirst rows) := by
  by_cases deep : ∃ pod ∈ rows, Json.maxDepth < pod.content.depth
  · exact Or.inr ⟨deep, oldestFirst_of_deep deep⟩
  · push Not at deep
    have readable : Readable { pods := rows } :=
      ⟨deep, by simp, by simp, by simp⟩
    have tells : Tells { pods := rows } (oldestFirst rows)
        (.ok ((rows.mergeSort isNotAfter).map Pod.readBack)) :=
      tells_oldestFirst fun _ member => member
    exact Or.inl ⟨deep, tells.eq_of_readable readable⟩

theorem tells_podsCreatedBy (database : Database) (vmi : String)
    (node : Option String) :
    database.Tells (database.podsCreatedBy vmi node)
      (.ok (((database.pods.filter fun pod =>
        pod.createdBy == some vmi && node.all (pod.nodeName == ·)).mergeSort
          isNotAfter).map Pod.readBack)) :=
  tells_oldestFirst fun _ member => List.mem_of_mem_filter member

theorem tells_podsOnNode (database : Database) (node beginning : String) :
    database.Tells (database.podsOnNode node beginning)
      (.ok ((((database.pods.filter fun pod =>
        pod.nodeName == node &&
          isLike (prefixPattern beginning) pod.name).mergeSort
            isNotAfter).map Pod.readBack).filter fun pod =>
              pod.name.startsWith beginning)) :=
  (tells_oldestFirst fun _ member => List.mem_of_mem_filter member).map _

/-- The first row of the claim of a name in a namespace. -/
def claimRow? (database : Database) (name inNamespace : String) :
    Option VolumeClaim :=
  database.pvcs.find? fun pvc =>
    pvc.name = name && pvc.namespaceName = inNamespace

theorem tells_claimsByNames (database : Database) (names : List String)
    (inNamespace : String) :
    database.Tells (database.claimsByNames names inNamespace)
      (.ok ((names.map fun name => (database.claimRow? name inNamespace).map
        VolumeClaim.readBack).filterMap id)) :=
  (tells_mapM fun _ _ => tells_restore? fun _ found =>
    tells_restoreClaim (List.mem_of_find?_eq_some found)).map _

end Database
end ClusterTrace
