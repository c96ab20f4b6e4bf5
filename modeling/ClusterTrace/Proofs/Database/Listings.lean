import ClusterTrace.Proofs.Database.ListingOrder
import ClusterTrace.Proofs.Database.ReadBack
import ClusterTrace.Proofs.Database.Reading

/-!
# Listings

A listing has the records that the filter selects, each once and in the order of
its kind, `list_outcome`.  The conditions of a filter agree with a plain reading
of its parts, and the views of the kinds agree with one listing of records,
`list_eq`, so that everything else is said about records.
-/

namespace ClusterTrace

open Listing (Column Columns Condition Filter Page View equal? among? pageRows
  pageCount)

/-! ## Selected records -/

namespace Record

/-- The name of a record, if it has one. -/
def name? : Record → Option String
  | .pod row => some row.name
  | .node row => some row.name
  | .vm row => some row.name
  | .vmi row => some row.name
  | .migration row => row.name
  | .pvc row => some row.name
  | .subscription row => some row.name
  | .gather row => some row.name

/-- The namespace of a record, if its kind lives in namespaces. -/
def namespaceName? : Record → Option String
  | .pod row => some row.namespaceName
  | .node _ => none
  | .vm row => some row.namespaceName
  | .vmi row => some row.namespaceName
  | .migration row => some row.namespaceName
  | .pvc row => some row.namespaceName
  | .subscription row => some row.namespaceName
  | .gather _ => none

/-- The phase of a record, or what its kind has in place of it. -/
def phase? : Record → Option String
  | .pod row => some row.phase
  | .node row => some row.status
  | .vm row => some row.status
  | .vmi row => some row.phase
  | .migration row => row.phase
  | .pvc row => some row.phase
  | .subscription row => some row.state
  | .gather _ => none

/-- What a filter sees of a record. -/
def columns (record : Record) : Columns :=
  ⟨record.key.id, record.name?, record.namespaceName?, record.phase?⟩

end Record

namespace Listing

/-- The record is one that the filter asks for, by each part that is set. -/
structure Filter.Selects (filter : Filter) (record : Record) : Prop where
  uuid : ∀ id ∈ filter.uuid, record.key.id = id
  name : ∀ name ∈ filter.name, record.name? = some name
  namespaceName : ∀ name ∈ filter.namespaceName,
    record.namespaceName? = some name
  uuids : filter.uuids ≠ [] → record.key.id ∈ filter.uuids
  names : filter.names ≠ [] → ∃ name ∈ record.name?, name ∈ filter.names
  namespaces : filter.namespaces ≠ [] →
    ∃ name ∈ record.namespaceName?, name ∈ filter.namespaces
  status : ∀ status ∈ filter.status,
    ∃ phase ∈ record.phase?, phase ∈ status.phases

variable {column : Column} {row : Columns}

theorem Condition.holds_iff {condition : Condition} :
    condition.holds row = true ↔
      ∃ text ∈ row.text? condition.column, text ∈ condition.texts := by
  rw [Condition.holds, Option.any_eq_true]
  simp only [List.contains_iff_mem, Option.mem_def]

theorem forall_equal?_iff {wanted : Option String} :
    (∀ condition ∈ equal? column wanted, condition.holds row = true) ↔
      ∀ text ∈ wanted, row.text? column = some text := by
  cases wanted with
  | none => simp [equal?]
  | some text => simp [equal?, Condition.holds_iff]

theorem forall_among?_iff {wanted : List String} :
    (∀ condition ∈ among? column wanted, condition.holds row = true) ↔
      (wanted ≠ [] → ∃ text ∈ row.text? column, text ∈ wanted) := by
  cases wanted with
  | nil => simp [among?]
  | cons text rest => simp [among?, Condition.holds_iff]

theorem forall_status_iff {wanted : Option Status} :
    (∀ condition ∈ wanted.bind fun status => among? .status status.phases,
        condition.holds row = true) ↔
      ∀ status ∈ wanted, ∃ text ∈ row.status, text ∈ status.phases := by
  cases wanted with
  | none => simp
  | some status =>
      have some : status.phases ≠ [] := by
        cases status <;> exact List.cons_ne_nil _ _
      rw [Option.bind_some, forall_among?_iff]
      simp [some, Columns.text?]

/-- The conditions of a filter are those of its parts. -/
theorem Filter.accepts_iff_forall {filter : Filter} :
    filter.accepts row = true ↔
      ∀ condition? ∈
        [equal? .key filter.uuid, equal? .name filter.name,
          equal? .namespaceName filter.namespaceName,
          among? .key filter.uuids, among? .name filter.names,
          among? .namespaceName filter.namespaces,
          filter.status.bind fun status => among? .status status.phases],
      ∀ condition ∈ condition?, condition.holds row = true := by
  rw [Filter.accepts, List.all_eq_true, Filter.conditions]
  constructor
  · intro all condition? member condition isCondition
    exact all condition
      (List.mem_filterMap.mpr ⟨condition?, member, isCondition⟩)
  · intro all condition isCondition
    obtain ⟨condition?, member, holds⟩ := List.mem_filterMap.mp isCondition
    exact all condition? member condition holds

/-- A filter accepts the records that it selects, read part by part. -/
theorem Filter.accepts_iff {filter : Filter} {record : Record} :
    filter.accepts record.columns = true ↔ filter.Selects record := by
  simp only [accepts_iff_forall, List.forall_mem_cons, forall_equal?_iff,
    forall_among?_iff, forall_status_iff]
  constructor
  · rintro ⟨uuid, name, namespaceName, uuids, names, namespaces, status, -⟩
    constructor
    case uuid => exact fun id wanted => Option.some.inj (uuid id wanted)
    case name => exact name
    case namespaceName => exact namespaceName
    case uuids =>
      intro wanted
      obtain ⟨id, isId, member⟩ := uuids wanted
      have same : record.key.id = id := Option.some.inj isId
      rwa [same]
    case names => exact names
    case namespaces => exact namespaces
    case status => exact status
  · intro selects
    exact ⟨fun id wanted => congrArg some (selects.uuid id wanted),
      selects.name, selects.namespaceName,
      fun wanted => ⟨_, rfl, selects.uuids wanted⟩, selects.names,
      selects.namespaces, selects.status, by simp⟩

instance {filter : Filter} {record : Record} :
    Decidable (filter.Selects record) :=
  decidable_of_iff _ Filter.accepts_iff

end Listing

/-! ## Records that are read back -/

namespace Record

/-- The record with another manifest, if its kind carries one. -/
def withManifest (record : Record) (manifest : Json) : Record :=
  match record with
  | .pod row => .pod { row with content := manifest }
  | .node row => .node { row with content := manifest }
  | .vm row => .vm { row with content := manifest }
  | .vmi row => .vmi { row with content := manifest }
  | .migration row => .migration { row with content := some manifest }
  | .pvc row => .pvc { row with content := manifest }
  | .subscription row => .subscription { row with content := manifest }
  | .gather row => .gather row

/-- The record with its manifest, if it has one, as it is read back. -/
def readBack (record : Record) : Record :=
  match record.manifest? with
  | some manifest => record.withManifest manifest.restored
  | none => record

/-- Reads a record back from its row. -/
def restore (record : Record) : Outcome Record :=
  match record.manifest? with
  | some manifest => (restoreContent manifest).map fun read =>
      record.withManifest read
  | none => .ok record

/-- The manifest of the record nests as deep as the reader goes at most. -/
def IsShallow (record : Record) : Prop :=
  ∀ manifest ∈ record.manifest?, manifest.depth ≤ Json.maxDepth

theorem key_readBack (record : Record) : record.readBack.key = record.key := by
  rw [readBack]
  cases record.manifest? <;> cases record <;> rfl

theorem place_readBack (record : Record) :
    record.readBack.place = record.place := by
  rw [readBack]
  cases record.manifest? <;> cases record <;> rfl

theorem restore_of_isShallow {record : Record} (shallow : record.IsShallow) :
    record.restore = .ok record.readBack := by
  rw [restore, readBack]
  cases carried : record.manifest? with
  | none => rfl
  | some manifest =>
      simp only [restoreContent_of_shallow (shallow manifest carried)]
      rfl

theorem restore_of_not_isShallow {record : Record}
    (deep : ¬ record.IsShallow) : FailsTooDeep record.restore := by
  simp only [IsShallow, not_forall] at deep
  obtain ⟨manifest, carried, deep⟩ := deep
  rw [Option.mem_def] at carried
  simp only [restore, carried]
  exact (restoreContent_of_deep deep).map _

theorem restore_cases (record : Record) :
    FailsTooDeep record.restore ∨ ∃ read, record.restore = .ok read := by
  by_cases shallow : record.IsShallow
  · exact Or.inr ⟨_, restore_of_isShallow shallow⟩
  · exact Or.inl (restore_of_not_isShallow shallow)

end Record

theorem mapM_restore_of_shallow {records : List Record}
    (shallow : ∀ record ∈ records, record.IsShallow) :
    records.mapM Record.restore = .ok (records.map Record.readBack) :=
  mapM_eq_ok_map fun record member =>
    Record.restore_of_isShallow (shallow record member)

/-- One manifest that nests too deep is enough for all to fail. -/
theorem mapM_restore_of_deep {records : List Record}
    (deep : ∃ record ∈ records, ¬ record.IsShallow) :
    FailsTooDeep (records.mapM Record.restore) := by
  obtain ⟨record, member, deep⟩ := deep
  exact failsTooDeep_mapM (fun other _ => other.restore_cases)
    ⟨record, member, Record.restore_of_not_isShallow deep⟩

/-! ## One listing for all kinds -/

namespace Listing

/-- The records that a filter accepts, in the order of a listing. -/
def selected (filter : Filter) (records : List Record) : List Record :=
  inOrder (records.filter fun record => filter.accepts record.columns)

/-- The page of the records of a kind that a filter asks for. -/
def pageOf (kind : Kind) (filter : Filter) (records : List Record) :
    Outcome (Page Record) :=
  match filter.fault? kind with
  | some cause => .error (.invalidArgument cause)
  | none =>
      ((pageRows filter.page filter.perPage (selected filter records)).mapM
        Record.restore).map fun rows =>
          ⟨rows, filter.page, filter.perPage, (selected filter records).length,
            pageCount filter.perPage (selected filter records).length⟩

/-- A view lists rows as the records that they hold. -/
structure View.Shows {α : Type} (view : View α) (wrap : α → Record) : Prop where
  columns : ∀ row, view.columns row = (wrap row).columns
  compared : ∀ a b,
    IsComparison (view.order a b) (wrap a).place (wrap b).place
  restored : ∀ row, (view.restore row).map wrap = (wrap row).restore

section Shows

variable {α : Type} {view : View α} {wrap : α → Record}

theorem View.Shows.map_matching (shows : view.Shows wrap) (filter : Filter)
    (rows : List α) :
    (view.matching filter rows).map wrap = selected filter (rows.map wrap) := by
  have same : ∀ a b, (view.order a b).isLE =
      decide ((wrap a).place ≤ (wrap b).place) := by
    intro a b
    rw [Bool.eq_iff_iff, decide_eq_true_iff]
    exact (shows.compared a b).isLE_iff
  rw [View.matching, selected, inOrder, List.filter_map, List.map_mergeSort
    (s := fun a b => decide (a.place ≤ b.place)) fun a _ b _ => same a b]
  simp only [shows.columns]
  rfl

theorem View.Shows.map_mapM (shows : view.Shows wrap) (rows : List α) :
    (rows.mapM view.restore).map (List.map wrap) =
      (rows.map wrap).mapM Record.restore := by
  induction rows with
  | nil => rfl
  | cons row rest induction =>
      rw [List.mapM_cons, List.map_cons, List.mapM_cons, ← shows.restored,
        ← induction]
      cases view.restore row with
      | error failure => rfl
      | ok read => cases rest.mapM view.restore <;> rfl

theorem map_pageRows (wrap : α → Record) (page : Nat) (perPage : Option Nat)
    (rows : List α) :
    (pageRows page perPage rows).map wrap =
      pageRows page perPage (rows.map wrap) := by
  cases perPage with
  | none => rfl
  | some size => rw [pageRows, pageRows, List.map_take, List.map_drop]

theorem View.Shows.map_list (shows : view.Shows wrap) (filter : Filter)
    (rows : List α) :
    (view.list filter rows).map (Page.map wrap) =
      pageOf view.kind filter (rows.map wrap) := by
  rw [View.list, pageOf]
  cases filter.fault? view.kind with
  | some cause => rfl
  | none =>
      simp only [← shows.map_matching, ← map_pageRows, ← shows.map_mapM,
        List.length_map]
      cases (pageRows filter.page filter.perPage
        (view.matching filter rows)).mapM view.restore <;> rfl

end Shows

theorem map_map_restoreContent {α : Type} (content : Json) (fill : Json → α)
    (wrap : α → Record) :
    ((restoreContent content).map fill).map wrap =
      (restoreContent content).map fun read => wrap (fill read) := by
  cases restoreContent content <;> rfl

theorem shows_pods : pods.Shows Record.pod :=
  ⟨fun _ => rfl, isComparison_pods, fun _ => map_map_restoreContent _ _ _⟩

theorem shows_nodes : nodes.Shows Record.node :=
  ⟨fun _ => rfl, isComparison_nodes, fun _ => map_map_restoreContent _ _ _⟩

theorem shows_vms : vms.Shows Record.vm :=
  ⟨fun _ => rfl, isComparison_vms, fun _ => map_map_restoreContent _ _ _⟩

theorem shows_vmis : vmis.Shows Record.vmi :=
  ⟨fun _ => rfl, isComparison_vmis, fun _ => map_map_restoreContent _ _ _⟩

theorem shows_migrations : migrations.Shows Record.migration := by
  refine ⟨fun _ => rfl, isComparison_migrations, fun row => ?_⟩
  cases content : row.content with
  | none =>
      simp only [migrations, Migration.restore, Record.restore,
        Record.manifest?, content]
      rfl
  | some manifest =>
      simp only [migrations, Migration.restore, Record.restore,
        Record.manifest?, content]
      exact map_map_restoreContent _ _ _

theorem shows_pvcs : pvcs.Shows Record.pvc :=
  ⟨fun _ => rfl, isComparison_pvcs, fun _ => map_map_restoreContent _ _ _⟩

theorem shows_subscriptions : subscriptions.Shows Record.subscription :=
  ⟨fun _ => rfl, isComparison_subscriptions,
    fun _ => map_map_restoreContent _ _ _⟩

end Listing

namespace Database

theorem list_eq (database : Database) {kind : Kind} (listed : kind ≠ .gather)
    (filter : Filter) :
    database.list kind filter =
      Listing.pageOf kind filter (database.records kind) := by
  cases kind with
  | pod => exact Listing.shows_pods.map_list filter database.pods
  | node => exact Listing.shows_nodes.map_list filter database.nodes
  | vm => exact Listing.shows_vms.map_list filter database.vms
  | vmi => exact Listing.shows_vmis.map_list filter database.vmis
  | migration =>
      exact Listing.shows_migrations.map_list filter database.migrations
  | pvc => exact Listing.shows_pvcs.map_list filter database.pvcs
  | subscription =>
      exact Listing.shows_subscriptions.map_list filter database.subscriptions
  | gather => exact (listed rfl).elim

/-- Records of one kind have places of their own. -/
theorem Keyed.eq_of_place_eq {database : Database} {kind : Kind}
    (keyed : database.Keyed) {a b : Record}
    (member : a ∈ database.records kind) (member' : b ∈ database.records kind)
    (same : a.place = b.place) : a = b := by
  have sameKind : a.key.kind = b.key.kind :=
    (kind_of_mem_records member).trans
      (kind_of_mem_records member').symm
  have sameKey : a.key = b.key :=
    congrArg₂ Key.mk sameKind (Record.id_eq_of_place_eq same)
  exact List.inj_on_of_nodup_map (keyed kind) member member' sameKey

end Database

/-! ## What a listing has -/

namespace Listing

/-- The records that the filter selects can be read back. -/
def Filter.Reads (filter : Filter) (records : List Record) : Prop :=
  ∀ record ∈ records, filter.Selects record → record.IsShallow

/-- The filter names no namespace for what lives in none. -/
def Filter.Fits (filter : Filter) (kind : Kind) : Prop :=
  kind = .node → filter.namespaceName = none ∧ filter.namespaces = []

/-- The page has the records of a kind that the filter selects, as they are read
back, each once and in the order of the kind. -/
structure IsWhole (database : Database) (kind : Kind) (filter : Filter)
    (page : Page Record) : Prop where
  mem : ∀ record, record ∈ page.rows ↔
    ∃ row ∈ database.records kind, filter.Selects row ∧ row.readBack = record
  once : (page.rows.map Record.key).Nodup
  inOrder : page.rows.Pairwise Record.Precedes
  totalRows : page.totalRows = page.rows.length

variable {filter : Filter}

theorem mem_selected {records : List Record} {record : Record} :
    record ∈ selected filter records ↔
      record ∈ records ∧ filter.Selects record := by
  rw [selected, (perm_inOrder _).mem_iff, List.mem_filter, Filter.accepts_iff]

theorem length_selected (filter : Filter) (records : List Record) :
    (selected filter records).length =
      records.countP fun record => filter.Selects record := by
  rw [selected, (perm_inOrder _).length_eq, ← List.countP_eq_length_filter]
  refine List.countP_congr fun record _ => ?_
  rw [Filter.accepts_iff, decide_eq_true_iff]

theorem fault?_eq_none_iff {kind : Kind} (listed : kind ≠ .gather) :
    filter.fault? kind = none ↔
      1 ≤ filter.page ∧ filter.perPage ≠ some 0 ∧ filter.Fits kind := by
  rw [Filter.fault?, Filter.Fits, Nat.one_le_iff_ne_zero]
  by_cases pageZero : filter.page = 0
  · simp [pageZero]
  by_cases perPageZero : filter.perPage = some 0
  · simp [pageZero, perPageZero]
  rw [if_neg pageZero, if_neg perPageZero]
  cases kind with
  | gather => exact (listed rfl).elim
  | _ => simp [hasNamespaces, pageZero, perPageZero]

variable {database : Database} {kind : Kind}

/-- No two records are listed at one place. -/
theorem pairwise_selected (keyed : database.Keyed) (filter : Filter) :
    (selected filter (database.records kind)).Pairwise
      fun a b => a.place < b.place := by
  have distinct : (selected filter (database.records kind)).Nodup :=
    (perm_inOrder _).nodup_iff.mpr ((keyed kind).of_map.filter _)
  refine ((pairwise_inOrder _).and distinct).imp_of_mem ?_
  intro a b member member' both
  refine lt_of_le_of_ne both.1 fun same => both.2 ?_
  exact keyed.eq_of_place_eq (mem_selected.mp member).1
    (mem_selected.mp member').1 same

theorem pairwise_map_readBack (keyed : database.Keyed)
    (listed : kind ≠ .gather) (filter : Filter) :
    ((selected filter (database.records kind)).map
      Record.readBack).Pairwise Record.Precedes := by
  refine List.pairwise_map.mpr ((pairwise_selected keyed filter).imp_of_mem ?_)
  intro a b member member' before
  have isKind := Database.kind_of_mem_records (mem_selected.mp member).1
  have isKind' := Database.kind_of_mem_records (mem_selected.mp member').1
  refine Record.precedes_of_place_lt ?_ ?_ ?_
  · rw [Record.key_readBack, Record.key_readBack, isKind, isKind']
  · rwa [Record.key_readBack, isKind]
  · rwa [Record.place_readBack, Record.place_readBack]

theorem isWhole_selected (keyed : database.Keyed) (listed : kind ≠ .gather)
    {page : Page Record}
    (rows : page.rows =
      (selected filter (database.records kind)).map Record.readBack)
    (totalRows : page.totalRows =
      (selected filter (database.records kind)).length) :
    IsWhole database kind filter page := by
  have keys : page.rows.map Record.key =
      (selected filter (database.records kind)).map Record.key := by
    rw [rows, List.map_map]
    exact List.map_congr_left fun record _ => record.key_readBack
  constructor
  case mem =>
    intro record
    simp only [rows, List.mem_map, mem_selected, and_assoc]
  case once =>
    rw [keys, selected, ((perm_inOrder _).map _).nodup_iff]
    exact (List.filter_sublist.map _).nodup (keyed kind)
  case inOrder =>
    rw [rows]
    exact pairwise_map_readBack keyed listed filter
  case totalRows => rw [totalRows, rows, List.length_map]

theorem pageOf_of_fault {cause : BadArgument} {records : List Record}
    (fault : filter.fault? kind = some cause) :
    pageOf kind filter records = .error (.invalidArgument cause) := by
  rw [pageOf, fault]

theorem pageOf_of_shallow {records : List Record}
    (fits : filter.fault? kind = none)
    (shallow : ∀ record ∈
      pageRows filter.page filter.perPage (selected filter records),
      record.IsShallow) :
    pageOf kind filter records = .ok
      ⟨(pageRows filter.page filter.perPage (selected filter records)).map
        Record.readBack, filter.page, filter.perPage,
        (selected filter records).length,
        pageCount filter.perPage (selected filter records).length⟩ := by
  rw [pageOf, fits]
  simp only [mapM_restore_of_shallow shallow]
  rfl

theorem pageOf_of_deep {records : List Record}
    (fits : filter.fault? kind = none)
    (deep : ∃ record ∈
      pageRows filter.page filter.perPage (selected filter records),
      ¬ record.IsShallow) :
    FailsTooDeep (pageOf kind filter records) := by
  rw [pageOf, fits]
  exact (mapM_restore_of_deep deep).map _

/-- A page is given if and only if its own records can be read back. -/
theorem pageOf_eq_ok_iff {records : List Record} {page : Page Record} :
    pageOf kind filter records = .ok page ↔
      filter.fault? kind = none ∧
        (∀ record ∈
          pageRows filter.page filter.perPage (selected filter records),
          record.IsShallow) ∧
        page = ⟨(pageRows filter.page filter.perPage
          (selected filter records)).map Record.readBack, filter.page,
          filter.perPage, (selected filter records).length,
          pageCount filter.perPage (selected filter records).length⟩ := by
  cases fault : filter.fault? kind with
  | some cause => simp [pageOf_of_fault fault]
  | none =>
      by_cases shallow : ∀ record ∈
          pageRows filter.page filter.perPage (selected filter records),
          record.IsShallow
      · rw [pageOf_of_shallow fault shallow, Except.ok.injEq]
        exact ⟨fun same => ⟨rfl, shallow, same.symm⟩,
          fun given => given.2.2.symm⟩
      · have deep := shallow
        push Not at deep
        obtain ⟨column, fails⟩ := pageOf_of_deep fault deep
        rw [fails]
        simp [shallow]

theorem reads_iff {records : List Record} :
    filter.Reads records ↔
      ∀ record ∈ selected filter records, record.IsShallow := by
  simp only [Filter.Reads, mem_selected, and_imp]

theorem pageRows_of_unpaged (unpaged : filter.perPage = none)
    (rows : List Record) : pageRows filter.page filter.perPage rows = rows := by
  rw [unpaged]
  rfl

theorem exists_pageOf_of_unpaged_iff (listed : kind ≠ .gather)
    (start : 1 ≤ filter.page) (unpaged : filter.perPage = none)
    {records : List Record} :
    (∃ page, pageOf kind filter records = .ok page) ↔
      filter.Fits kind ∧ filter.Reads records := by
  simp only [pageOf_eq_ok_iff, pageRows_of_unpaged unpaged, reads_iff,
    fault?_eq_none_iff listed]
  constructor
  · rintro ⟨page, fault, shallow, -⟩
    exact ⟨fault.2.2, shallow⟩
  · rintro ⟨fits, shallow⟩
    exact ⟨_, ⟨start, by simp [unpaged], fits⟩, shallow, rfl⟩

/-- A filter that cannot be applied is refused.  Any other one without pages
gives all records that it selects, unless a manifest among them nests too deep
to be read back. -/
theorem list_outcome (keyed : database.Keyed) (listed : kind ≠ .gather)
    (filter : Filter) :
    (filter.page = 0 ∨ filter.perPage = some 0 ∨ ¬ filter.Fits kind →
      ∃ cause, database.list kind filter = .error (.invalidArgument cause)) ∧
    (1 ≤ filter.page → filter.perPage = none → filter.Fits kind →
      ((∃ page, database.list kind filter = .ok page) ↔
        filter.Reads (database.records kind)) ∧
      (¬ filter.Reads (database.records kind) →
        FailsTooDeep (database.list kind filter)) ∧
      ∀ page, database.list kind filter = .ok page →
        IsWhole database kind filter page) := by
  rw [database.list_eq listed]
  constructor
  · intro misfit
    cases fault : filter.fault? kind with
    | some cause => exact ⟨cause, pageOf_of_fault fault⟩
    | none =>
        obtain ⟨page, perPage, fits⟩ := (fault?_eq_none_iff listed).mp fault
        obtain noPage | noRows | unfit := misfit
        · omega
        · exact (perPage noRows).elim
        · exact (unfit fits).elim
  · intro start unpaged fits
    refine ⟨?_, fun deep => ?_, fun page given => ?_⟩
    · rw [exists_pageOf_of_unpaged_iff listed start unpaged]
      exact and_iff_right fits
    · refine pageOf_of_deep ?_ ?_
      · exact (fault?_eq_none_iff listed).mpr ⟨start, by simp [unpaged], fits⟩
      · rw [pageRows_of_unpaged unpaged]
        simpa [reads_iff] using deep
    · obtain ⟨-, -, rfl⟩ := pageOf_eq_ok_iff.mp given
      refine isWhole_selected keyed listed ?_ rfl
      rw [pageRows_of_unpaged unpaged]

/-! ## Two pods of one time -/

/-- A pod of a phase with a manifest. -/
def podOf (uuid phase : String) (content : Json) : Pod :=
  ⟨uuid, "Pod", "fedora", "vms", phase, 1, 1, "node-a", ⟨1709280300, 0⟩, "",
    none, content⟩

/-- The pods were created at one time.  The manifest of one of them is given. -/
def twins (content : Json) : Database where
  pods := [podOf "pod-2" "Running" .null, podOf "pod-1" "Running" content]

theorem keyed_twins (content : Json) : (twins content).Keyed := by
  intro kind
  cases kind <;> simp [Database.records, twins, podOf, Record.key]

theorem reads_twins (filter : Filter) :
    filter.Reads ((twins .null).records .pod) := by
  simp only [Filter.Reads, Database.records, twins, List.map_cons, List.map_nil,
    List.forall_mem_cons]
  refine ⟨fun _ => ?_, fun _ => ?_, by simp⟩ <;>
    · rintro manifest ⟨⟩
      exact Nat.zero_le _

theorem list_of_running_twins :
    (∃ cause, (twins .null).list .pod { page := 0 } =
      .error (.invalidArgument cause)) ∧
    ∃ page, (twins .null).list .pod { status := some .running } = .ok page ∧
      IsWhole (twins .null) .pod { status := some .running } page := by
  have outcome :=
    @list_outcome (twins .null) .pod (keyed_twins .null) (by decide)
  obtain ⟨succeeds, -, isWhole⟩ := (outcome { status := some .running }).2
    (by decide) rfl (fun node => by cases node)
  obtain ⟨page, given⟩ := succeeds.mpr (reads_twins _)
  exact ⟨(outcome { page := 0 }).1 (Or.inl rfl), page, given,
    isWhole page given⟩

theorem not_reads_twins :
    ¬ Filter.Reads {} ((twins (Json.nested 128)).records .pod) := by
  intro reads
  have within := reads (.pod (podOf "pod-1" "Running" (Json.nested 128)))
    (by simp [Database.records, twins]) (by constructor <;> simp) _ rfl
  exact absurd Json.maxDepth_lt_depth_nested within.not_gt

/-- One manifest that nests too deep is enough for a listing to fail. -/
theorem list_of_deep_manifest :
    (twins (Json.nested 128)).Keyed ∧
      ¬ ∃ page, (twins (Json.nested 128)).list .pod {} = .ok page := by
  refine ⟨keyed_twins _, ?_⟩
  rw [Database.list_eq _ (by decide),
    exists_pageOf_of_unpaged_iff (by decide) (by decide) rfl]
  exact fun given => not_reads_twins given.2

end Listing
end ClusterTrace
