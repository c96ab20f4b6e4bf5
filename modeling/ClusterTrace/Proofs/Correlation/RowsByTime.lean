import ClusterTrace.Proofs.Correlation.NamedPods
import ClusterTrace.Proofs.Correlation.StorageOrder
import ClusterTrace.Proofs.Database.Listings

/-!
# Rows in the order of time

Tables compare times as texts of different lengths.  In years of four digits
these are in the order of the instants, `compareTime_eq_compare`, so the lookups
of pods give them by age, and pods and instances are listed the newest first,
`rows_by_time`.
-/

namespace ClusterTrace

open Correlation (Gives age age_lt_iff compareAge filter_isLikeNamed
  filter_map_readBack gives_of_oldestFirst gives_podsOnNode instanceOfMove
  isLikeNamed isNamed isOlder isOlder_iff sourceOfMove)
open Database (isNotAfter isNotAfter_iff)
open Listing (Filter Page compareTime mem_selected pageCount pageOf_eq_ok_iff
  pageRows pairwise_selected selected)
open Time (Instant)

/-! ## Texts of times -/

theorem compareTime_eq_compare {a b : Instant} (plain : a.IsPlain)
    (plain' : b.IsPlain) : compareTime a b = a.compare b := by
  rw [compareTime]
  cases order : a.compare b with
  | lt =>
      have before : a < b := Instant.compare_eq_lt.mp order
      exact compare_lt_iff_lt.mpr ((plain.columnText_lt_iff plain').mpr before)
  | eq =>
      have same : a = b := Instant.compare_eq_eq.mp order
      exact compare_eq_iff_eq.mpr (congrArg Instant.columnText same)
  | gt =>
      have after : b < a := compare_gt_iff_gt.mp order
      exact compare_gt_iff_gt.mpr ((plain'.columnText_lt_iff plain).mpr after)

/-! ## Pods by age -/

/-- The pods were created by the instance, on the node if one is given. -/
def isCreatedBy (vmi : String) (node : Option String) (pod : Pod) : Bool :=
  pod.createdBy == some vmi && node.all (pod.nodeName == ·)

/-- These are the rows as they are read back, each once and the oldest first. -/
structure IsByAge (rows pods : List Pod) : Prop where
  perm : pods.Perm (rows.map Pod.readBack)
  inOrder : pods.Pairwise fun a b => compareAge a b = .lt

variable {rows : List Pod}

theorem compareAge_eq_lt_iff {a b : Pod} :
    compareAge a b = .lt ↔ age a < age b := by
  rw [← isOlder_iff, isOlder, beq_iff_eq]

theorem age_lt_of_byText {a b : Pod} (plain : a.creationTime.IsPlain)
    (plain' : b.creationTime.IsPlain)
    (before : toLex (a.creationTime.columnText, a.uuid) <
      toLex (b.creationTime.columnText, b.uuid)) : age a < age b := by
  rw [age_lt_iff]
  rcases Prod.Lex.toLex_lt_toLex.mp before with before | ⟨same, before⟩
  · exact Or.inl ((plain.columnText_lt_iff plain').mp before)
  · exact Or.inr ⟨plain.eq_of_columnText_eq plain' same, before⟩

theorem isByAge_mergeSort (distinct : (rows.map (·.uuid)).Nodup)
    (dated : ∀ pod ∈ rows, pod.creationTime.IsPlain) :
    IsByAge rows ((rows.mergeSort isNotAfter).map Pod.readBack) := by
  have perm := List.mergeSort_perm rows isNotAfter
  refine ⟨perm.map _, List.pairwise_map.mpr ?_⟩
  have sorted := pairwise_mergeSort_of_key isNotAfter_iff rows
  have distinct' : ((rows.mergeSort isNotAfter).map (·.uuid)).Nodup :=
    (perm.map (·.uuid)).nodup_iff.mpr distinct
  have different : (rows.mergeSort isNotAfter).Pairwise
      fun a b => a.uuid ≠ b.uuid := List.pairwise_map.mp distinct'
  refine (sorted.and different).imp_of_mem ?_
  intro a b member member' both
  have before : toLex (a.creationTime.columnText, a.uuid) <
      toLex (b.creationTime.columnText, b.uuid) := by
    refine lt_of_le_of_ne both.1 fun same => both.2 ?_
    exact congrArg (fun pair : String ×ₗ String => (ofLex pair).2) same
  exact compareAge_eq_lt_iff.mpr <| age_lt_of_byText
    (dated a (perm.mem_iff.mp member)) (dated b (perm.mem_iff.mp member'))
    before

theorem IsByAge.filter {pods : List Pod} (byAge : IsByAge rows pods)
    {p : Pod → Bool} (readsBack : ∀ pod, p pod.readBack = p pod) :
    IsByAge (rows.filter p) (pods.filter p) := by
  have perm := byAge.perm.filter p
  rw [filter_map_readBack readsBack] at perm
  exact ⟨perm, byAge.inOrder.filter p⟩

/-- There is only one such order. -/
theorem IsByAge.eq_of_isByAge {pods pods' : List Pod}
    (byAge : IsByAge rows pods) (byAge' : IsByAge rows pods') :
    pods = pods' := by
  refine (byAge.perm.trans byAge'.perm.symm).eq_of_pairwise ?_ byAge.inOrder
    byAge'.inOrder
  intro a b _ _ before after
  rw [compareAge_eq_lt_iff] at before after
  exact absurd before after.asymm

/-! ## Records the newest first -/

/-- Of two pods or of two instances the first one was created later, or at the
same time with the lesser UID. -/
def Record.IsNewer : Record → Record → Prop
  | .pod a, .pod b =>
      b.creationTime < a.creationTime ∨
        a.creationTime = b.creationTime ∧ a.uuid < b.uuid
  | .vmi a, .vmi b =>
      b.creationTime < a.creationTime ∨
        a.creationTime = b.creationTime ∧ a.uuid < b.uuid
  | _, _ => False

/-- The page of these rows that a filter asks for. -/
def Listing.pageOn (filter : Filter) (rows : List Record) : Page Record where
  rows := (pageRows filter.page filter.perPage rows).map Record.readBack
  page := filter.page
  perPage := filter.perPage
  totalRows := rows.length
  totalPages := pageCount filter.perPage rows.length

/-- A page is one of these rows, which are those that the filter selects, the
newest first. -/
structure ListsNewestFirst (database : Database) (kind : Kind)
    (filter : Filter) (rows : List Record) : Prop where
  perm : rows.Perm
    ((database.records kind).filter fun record => filter.Selects record)
  inOrder : rows.Pairwise Record.IsNewer
  list_eq_ok_iff : ∀ page, database.list kind filter = .ok page ↔
    filter.fault? kind = none ∧
      (∀ record ∈ pageRows filter.page filter.perPage rows,
        record.IsShallow) ∧
      page = Listing.pageOn filter rows

variable {database : Database} {kind : Kind}

theorem newer_of_byText {time time' : Instant} {id id' : String}
    (plain : time.IsPlain) (plain' : time'.IsPlain)
    (before : time'.columnText < time.columnText ∨
      time.columnText = time'.columnText ∧ id < id') :
    time' < time ∨ time = time' ∧ id < id' :=
  before.imp (plain'.columnText_lt_iff plain).mp
    fun tie => ⟨plain.eq_of_columnText_eq plain' tie.1, tie.2⟩

theorem isNewer_of_precedes (dated : database.IsDated)
    (listed : kind = .pod ∨ kind = .vmi) {a b : Record}
    (member : a ∈ database.records kind) (member' : b ∈ database.records kind)
    (precedes : a.Precedes b) : a.IsNewer b := by
  rcases listed with rfl | rfl
  · obtain ⟨a, isPod, rfl⟩ := List.mem_map.mp member
    obtain ⟨b, isPod', rfl⟩ := List.mem_map.mp member'
    exact newer_of_byText (dated.pods a isPod) (dated.pods b isPod') precedes
  · obtain ⟨a, isInstance, rfl⟩ := List.mem_map.mp member
    obtain ⟨b, isInstance', rfl⟩ := List.mem_map.mp member'
    exact newer_of_byText (dated.vmis a isInstance) (dated.vmis b isInstance')
      precedes

theorem listsNewestFirst_selected (keyed : database.Keyed)
    (dated : database.IsDated) (listed : kind = .pod ∨ kind = .vmi)
    (filter : Filter) :
    ListsNewestFirst database kind filter
      (selected filter (database.records kind)) := by
  have notGather : kind ≠ .gather := by
    rcases listed with rfl | rfl <;> decide
  constructor
  case perm =>
    rw [List.filter_congr (q := fun record => filter.accepts record.columns)
      fun record _ => by rw [Bool.eq_iff_iff, Filter.accepts_iff]; simp]
    exact perm_inOrder _
  case inOrder =>
    refine (pairwise_selected keyed filter).imp_of_mem ?_
    intro a b member member' before
    have isRow := (mem_selected.mp member).1
    have isRow' := (mem_selected.mp member').1
    have isKind := Database.kind_of_mem_records isRow
    have isKind' := Database.kind_of_mem_records isRow'
    refine isNewer_of_precedes dated listed isRow isRow' ?_
    exact Record.precedes_of_place_lt (isKind.trans isKind'.symm)
      (isKind ▸ notGather) before
  case list_eq_ok_iff =>
    intro page
    rw [database.list_eq notGather]
    exact pageOf_eq_ok_iff

/-! ## Every order by a time -/

/-- The rows of a database that are ordered by their times come in the order of
the instants. -/
structure OrdersByTime (database : Database) : Prop where
  createdBy : ∀ vmi node,
    Gives database (isCreatedBy vmi node) (database.podsCreatedBy vmi node)
      (IsByAge (database.pods.filter (isCreatedBy vmi node)))
  onNode : ∀ node beginning,
    Gives database (isLikeNamed node beginning)
      (database.podsOnNode node beginning)
      (IsByAge (database.pods.filter (isNamed node beginning)))
  listing : ∀ kind, kind = .pod ∨ kind = .vmi → ∀ filter,
    ∃ rows, ListsNewestFirst database kind filter rows

/-- The order of the texts that tables hold is the order of time: of any two
instants of years with four digits, of the pods that a lookup gives, and of the
pods and instances that a listing has. -/
theorem rows_by_time (keyed : database.Keyed) (dated : database.IsDated) :
    (∀ a b : Instant, a.IsPlain → b.IsPlain →
      compareTime a b = a.compare b) ∧ OrdersByTime database := by
  have byAge : ∀ p : Pod → Bool, IsByAge (database.pods.filter p)
      (((database.pods.filter p).mergeSort isNotAfter).map Pod.readBack) :=
    fun p => isByAge_mergeSort
      ((List.filter_sublist.map _).nodup keyed.nodup_pods)
      fun pod member => dated.pods pod (List.mem_of_mem_filter member)
  refine ⟨fun a b => compareTime_eq_compare, ?_⟩
  constructor
  case createdBy =>
    intro vmi node
    refine gives_of_oldestFirst id ?_ (byAge _)
    rw [Except.map_id]
    rfl
  case onNode =>
    intro node beginning
    refine (gives_podsOnNode database node beginning).imp ?_
    rintro pods rfl
    rw [← filter_isLikeNamed]
    exact (byAge _).filter fun _ => rfl
  case listing =>
    intro kind listed filter
    exact ⟨_, listsNewestFirst_selected keyed dated listed filter⟩

/-! ## Rows around a leap second -/

/-- A pod of an instance that was created at a time. -/
def podBornAt (uuid : String) (time : Instant) : Pod :=
  { sourceOfMove .null with uuid, creationTime := time }

/-- An instance that was created at a time. -/
def instanceBornAt (uuid : String) (time : Instant) : VirtualMachineInstance :=
  { instanceOfMove with uuid, creationTime := time }

/-- Pods and instances of the last second of a year, of the leap second after
it and of the next midnight. -/
def aroundMidnight : Database where
  pods := [podBornAt "d" ⟨1483228800, 0⟩,
    podBornAt "c" ⟨1483228799, 1500000000⟩,
    podBornAt "b" ⟨1483228799, 999999999⟩, podBornAt "a" ⟨1483228799, 0⟩]
  vmis := [instanceBornAt "f" ⟨1483228799, 1500000000⟩,
    instanceBornAt "e" ⟨1483228799, 1500000000⟩]

theorem rows_by_time_aroundMidnight :
    aroundMidnight.podsCreatedBy "vmi-1" none =
        .ok (aroundMidnight.pods.reverse.map Pod.readBack) ∧
      ∃ rows, ListsNewestFirst aroundMidnight .vmi {} rows := by
  have keyed : aroundMidnight.Keyed := fun kind => by
    cases kind <;> simp [Database.records, aroundMidnight, podBornAt,
      instanceBornAt, Record.key]
  have dated : aroundMidnight.IsDated := ⟨by decide, by decide⟩
  have shallow : ∀ pod ∈ aroundMidnight.pods,
      pod.content.depth ≤ Json.maxDepth := by
    simp [aroundMidnight, podBornAt, sourceOfMove, Json.depth]
  obtain ⟨-, createdBy, -, listing⟩ := rows_by_time keyed dated
  have byAge : IsByAge aroundMidnight.pods
      (aroundMidnight.pods.reverse.map Pod.readBack) :=
    ⟨(List.reverse_perm _).map _, by decide⟩
  obtain ⟨pods, given, byAge'⟩ := (createdBy "vmi-1" none).of_shallow shallow
  rw [given, byAge'.eq_of_isByAge byAge]
  exact ⟨rfl, listing .vmi (Or.inr rfl) {}⟩

/-! ## A row that is not read back -/

/-- A pod of midnight whose manifest nests too deep to be read back. -/
def deepPod : Pod :=
  { podBornAt "deep" ⟨1483228800, 0⟩ with content := Json.nested 128 }

/-- Two pods of one instance. -/
def withDeepPod : Database where
  pods := [deepPod, podBornAt "a" ⟨1483228799, 0⟩]

/-- One row that is not read back is enough for a lookup and a listing to give
no rows at all. -/
theorem rows_withDeepPod :
    withDeepPod.Keyed ∧ withDeepPod.IsDated ∧
      (¬ ∃ pods, withDeepPod.podsCreatedBy "vmi-1" none = .ok pods) ∧
      ¬ ∃ page, withDeepPod.list .pod {} = .ok page := by
  have isRow : deepPod ∈ withDeepPod.pods := by
    simp [withDeepPod]
  refine ⟨fun kind => ?_, ⟨by decide, by decide⟩, ?_, ?_⟩
  · cases kind <;> simp [Database.records, withDeepPod, deepPod, podBornAt,
      Record.key]
  · have fails : FailsTooDeep (withDeepPod.podsCreatedBy "vmi-1" none) :=
      Database.oldestFirst_of_deep ⟨deepPod,
        List.mem_filter.mpr ⟨isRow, rfl⟩, Json.maxDepth_lt_depth_nested⟩
    exact fails.not_exists_ok
  · rw [Database.list_eq _ (by decide),
      Listing.exists_pageOf_of_unpaged_iff (by decide) (by decide) rfl]
    rintro ⟨-, reads⟩
    have shallow := reads (.pod deepPod) (List.mem_map_of_mem isRow)
      (by constructor <;> simp) _ rfl
    exact absurd Json.maxDepth_lt_depth_nested shallow.not_gt

end ClusterTrace
