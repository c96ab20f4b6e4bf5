import ClusterTrace.Correlation.Query
import ClusterTrace.Proofs.Database.Listings
import ClusterTrace.Proofs.ListReading

/-!
# Rows that can be read back

A database whose manifests are all shallow answers without a fault of a
manifest, `IsShallow.answers`.  After records were stored this depends on the
last one under each key, `isShallow_putAll_iff`, and so does whether the row of
a key is handed out, `isReadAt_of_rowsAt` and `isTooDeepAt_of_rowsAt`.
-/

namespace ClusterTrace

theorem Record.IsShallow.depth_le {record : Record}
    (shallow : record.IsShallow) :
    (record.manifest?.getD .null).depth ≤ Json.maxDepth := by
  cases carried : record.manifest? with
  | none => exact Nat.zero_le _
  | some manifest => exact shallow manifest carried

namespace Database

open Correlation (claimUuids handlerAt ofHistory ofInstance ofMigration ofPod
  orMissing targetPod?)
open Listing (Filter Page pageRows selected)

/-- Every manifest in the tables nests as deep as the reader goes at most. -/
def IsShallow (database : Database) : Prop :=
  ∀ kind, ∀ record ∈ database.records kind, record.IsShallow

/-! ## Rows after records were stored -/

/-- The row of a record holds its manifest. -/
theorem manifestsAt_put_self {database : Database} (keyed : database.Keyed)
    (record : Record) :
    (database.put record).manifestsAt record.key = [record.manifest?] := by
  by_cases isMigration : record.key.kind = .migration
  · cases record with
    | migration manifest =>
        have once := keyed.length_rowsAt_le ⟨.migration, manifest.uuid⟩
        rw [(isTable_migrations database).rowsAt, List.length_map] at once
        have keeps : ∀ old : Migration, old.uuid = manifest.uuid →
            (mergeManifest old manifest).uuid = manifest.uuid := fun _ _ => rfl
        rw [Record.key, manifestsAt_migration, put, putMigration,
          filter_mergeRow_self rfl keeps]
        cases rows : database.migrations.filter
            fun row => row.uuid = manifest.uuid with
        | nil => rfl
        | cons old rest =>
            rw [rows, List.length_cons] at once
            have noOther : rest = [] :=
              List.eq_nil_of_length_eq_zero (by omega)
            rw [noOther]
            rfl
    | _ => cases isMigration
  · rw [manifestsAt, rowsAt_put_self keyed isMigration]
    rfl

section Stored

variable {before : Database} {records : List Record} {key : Key}

theorem exists_latest? {record : Record} (member : record ∈ records) :
    ∃ last, latest? record.key records = some last := by
  have isOne : record ∈ records.filter fun other => other.key = record.key :=
    List.mem_filter.mpr ⟨member, by simp⟩
  exact ⟨_, List.getLast?_eq_some_getLast (List.ne_nil_of_mem isOne)⟩

theorem manifestsAt_putAll (keyed : before.Keyed) {record : Record}
    (isLatest : latest? key records = some record) :
    (before.putAll records).manifestsAt key = [record.manifest?] := by
  induction records using List.reverseRecOn with
  | nil => cases isLatest
  | append_singleton records last ih =>
      rw [putAll_concat]
      by_cases same : last.key = key
      · rw [← same, latest?_concat_self, Option.some.injEq] at isLatest
        rw [← same, ← isLatest]
        exact manifestsAt_put_self (keyed.putAll records) last
      · rw [latest?_concat_of_ne same] at isLatest
        have stored := ih isLatest
        -- An implied migration without a manifest is made only where the key
        -- has no row, so it cannot replace what was stored.
        rcases manifestsAt_put_of_ne (Ne.symm same) (before.putAll records) with
          kept | ⟨nothing, -⟩
        · rw [kept, stored]
        · rw [stored] at nothing
          cases nothing

/-- A key of which no record was stored has a row of before, or one that is
implied. -/
theorem mem_manifestsAt_putAll (untold : latest? key records = none)
    {manifest? : Option Json}
    (member : manifest? ∈ (before.putAll records).manifestsAt key) :
    manifest? = none ∨ manifest? ∈ before.manifestsAt key := by
  induction records using List.reverseRecOn generalizing manifest? with
  | nil => exact Or.inr member
  | append_singleton records last ih =>
      have different : last.key ≠ key := by
        rintro rfl
        rw [latest?_concat_self] at untold
        cases untold
      rw [latest?_concat_of_ne different] at untold
      rw [putAll_concat] at member
      rcases manifestsAt_put_of_ne (Ne.symm different) (before.putAll records)
        with kept | ⟨-, implied⟩
      · rw [kept] at member
        exact ih untold member
      · rw [implied] at member
        exact Or.inl (List.mem_singleton.mp member)

theorem isShallow_iff {database : Database} :
    database.IsShallow ↔
      ∀ key, ∀ manifest? ∈ database.manifestsAt key, ∀ manifest ∈ manifest?,
        manifest.depth ≤ Json.maxDepth := by
  constructor
  · intro shallow key manifest? member
    obtain ⟨row, isRow, rfl⟩ := List.mem_map.mp member
    exact shallow key.kind row (List.mem_of_mem_filter isRow)
  · intro shallow kind row member
    exact shallow row.key row.manifest?
      (List.mem_map_of_mem (mem_records_iff.mp member).2)

/-- All can be read back if and only if each record can that is the last one
under its key. -/
theorem isShallow_putAll_iff (keyed : before.Keyed)
    (shallow : before.IsShallow) :
    (before.putAll records).IsShallow ↔
      ∀ key, ∀ record ∈ latest? key records, record.IsShallow := by
  rw [isShallow_iff] at shallow ⊢
  refine forall_congr' fun key => ?_
  cases isLatest : latest? key records with
  | none =>
      refine iff_of_true (fun manifest? member => ?_) (by simp)
      rcases mem_manifestsAt_putAll isLatest member with rfl | earlier
      · simp
      · exact shallow key manifest? earlier
  | some record =>
      rw [manifestsAt_putAll keyed isLatest]
      simp [Record.IsShallow]

end Stored

/-! ## Answers without a fault of a manifest -/

/-- The outcome is not a fault of a JSON text. -/
def NoJson {α : Type} (outcome : Outcome α) : Prop :=
  ∀ cause, outcome ≠ .error (.json cause)

section Outcomes

variable {α β : Type} {outcome : Outcome α}

theorem noJson_ok (value : α) : NoJson (.ok value : Outcome α) :=
  fun _ => by simp

theorem noJson_bind {next : α → Outcome β} (first : NoJson outcome)
    (later : ∀ value, NoJson (next value)) : NoJson (outcome >>= next) := by
  cases outcome with
  | error failure =>
      intro cause failed
      cases failed
      exact first cause rfl
  | ok value => exact later value

theorem NoJson.map (first : NoJson outcome) (f : α → β) :
    NoJson (outcome.map f) := by
  cases outcome with
  | error failure =>
      intro cause failed
      cases failed
      exact first cause rfl
  | ok value => exact noJson_ok _

theorem noJson_mapM {read : α → Outcome β} {items : List α}
    (each : ∀ item ∈ items, NoJson (read item)) : NoJson (items.mapM read) := by
  intro cause failed
  obtain ⟨earlier, item, later, rfl, -, fails⟩ := mapM_eq_error_iff.mp failed
  exact each item (by simp) cause fails

theorem noJson_orMissing (link : MissingLink) (found : Option α) :
    NoJson (orMissing link found) := by
  cases found <;> simp [NoJson, orMissing]

theorem noJson_require {entity id : String} {restore : α → Outcome α}
    {row? : Option α} (each : ∀ row ∈ row?, NoJson (restore row)) :
    NoJson (require entity id restore row?) := by
  cases row? with
  | none => simp [NoJson, require]
  | some row => exact each row rfl

theorem noJson_restore? {restore : α → Outcome α} {row? : Option α}
    (each : ∀ row ∈ row?, NoJson (restore row)) :
    NoJson (restore? restore row?) := by
  cases row? with
  | none => exact noJson_ok _
  | some row => exact (each row rfl).map some

end Outcomes

/-- The record of a key, for the kinds that have such a lookup. -/
def lookup? (database : Database) : Key → Option (Outcome Record)
  | ⟨.pod, id⟩ => some ((database.getPod id).map .pod)
  | ⟨.node, id⟩ => some ((database.getNode id).map .node)
  | ⟨.vm, id⟩ => some ((database.getMachine id).map .vm)
  | ⟨.vmi, id⟩ => some ((database.getInstance id).map .vmi)
  | ⟨.migration, id⟩ => some ((database.getMigration id).map .migration)
  | _ => none

/-- No lookup, listing or query fails by a fault of a manifest. -/
structure Answers (database : Database) : Prop where
  list : ∀ kind filter, NoJson (database.list kind filter)
  content : ∀ kind id, NoJson (database.content kind id)
  lookup : ∀ key, ∀ outcome ∈ database.lookup? key, NoJson outcome
  findPod : ∀ name inNamespace, NoJson (database.findPod name inNamespace)
  findInstance : ∀ name inNamespace,
    NoJson (database.findInstance name inNamespace)
  findClaim : ∀ name inNamespace, NoJson (database.findClaim name inNamespace)
  claimsByNames : ∀ names inNamespace,
    NoJson (database.claimsByNames names inNamespace)
  podsCreatedBy : ∀ vmi node, NoJson (database.podsCreatedBy vmi node)
  podsOnNode : ∀ node beginning, NoJson (database.podsOnNode node beginning)
  podClaims : ∀ pod, NoJson (database.podClaims pod)
  instanceClaims : ∀ vmi, NoJson (database.instanceClaims vmi)
  ofPod : ∀ uuid, NoJson (ofPod database uuid)
  ofInstance : ∀ uuid node, NoJson (ofInstance database uuid node)
  ofMigration : ∀ uuid, NoJson (ofMigration database uuid)
  ofHistory : ∀ uuid, NoJson (ofHistory database uuid)

theorem IsTable.map_require_restore {α : Type} {database : Database}
    {kind : Kind} {wrap : α → Record} {name : α → String}
    {restore : α → Outcome α} {rows : List α}
    (table : database.IsTable kind wrap name restore rows)
    (restored : ∀ row, (restore row).map wrap = (wrap row).restore)
    (entity id : String) :
    (require entity id restore (rows.find? fun row => name row = id)).map
        wrap =
      require entity id Record.restore (database.rowsAt ⟨kind, id⟩).head? := by
  rw [← table.map_find?]
  cases rows.find? fun row => name row = id with
  | none => rfl
  | some row => exact restored row

/-- A lookup reads the first row of its key. -/
theorem exists_entity_of_lookup? {database : Database} {key : Key}
    {outcome : Outcome Record} (looksUp : database.lookup? key = some outcome) :
    ∃ entity, outcome =
      require entity key.id Record.restore (database.rowsAt key).head? := by
  obtain ⟨kind, id⟩ := key
  cases kind with
  | pod =>
      cases looksUp
      exact ⟨_, (isTable_pods _).map_require_restore
        Listing.shows_pods.restored _ _⟩
  | node =>
      cases looksUp
      exact ⟨_, (isTable_nodes _).map_require_restore
        Listing.shows_nodes.restored _ _⟩
  | vm =>
      cases looksUp
      exact ⟨_, (isTable_vms _).map_require_restore
        Listing.shows_vms.restored _ _⟩
  | vmi =>
      cases looksUp
      exact ⟨_, (isTable_vmis _).map_require_restore
        Listing.shows_vmis.restored _ _⟩
  | migration =>
      cases looksUp
      exact ⟨_, (isTable_migrations _).map_require_restore
        Listing.shows_migrations.restored _ _⟩
  | _ => cases looksUp

theorem mem_of_mem_pageRows {page : Nat} {perPage : Option Nat}
    {rows : List Record} {row : Record}
    (member : row ∈ pageRows page perPage rows) : row ∈ rows := by
  cases perPage with
  | none => exact member
  | some size => exact List.mem_of_mem_drop (List.mem_of_mem_take member)

namespace IsShallow

variable {database : Database}

theorem of_mem_rowsAt (shallow : database.IsShallow) {key : Key}
    {record : Record} (isRow : record ∈ database.rowsAt key) :
    record.IsShallow :=
  shallow key.kind record (List.mem_of_mem_filter isRow)

theorem noJson_restore (shallow : database.IsShallow) {α : Type} {kind : Kind}
    {wrap : α → Record} {name : α → String} {rows : List α}
    {view : Listing.View α}
    (table : database.IsTable kind wrap name view.restore rows)
    (shows : view.Shows wrap) {row : α} (member : row ∈ rows) :
    NoJson (view.restore row) := by
  intro cause failed
  have isRow : wrap row ∈ database.records kind := by
    rw [table.records]
    exact List.mem_map_of_mem member
  have restored := shows.restored row
  rw [failed, Record.restore_of_isShallow (shallow kind _ isRow)] at restored
  cases restored

/-! ### Lookups and listings -/

theorem restorePod (shallow : database.IsShallow) {pod : Pod}
    (member : pod ∈ database.pods) : NoJson pod.restore :=
  shallow.noJson_restore (isTable_pods _) Listing.shows_pods member

theorem getPod (shallow : database.IsShallow) (uuid : String) :
    NoJson (database.getPod uuid) :=
  noJson_require fun _ found =>
    shallow.restorePod (List.mem_of_find?_eq_some found)

theorem getInstance (shallow : database.IsShallow) (uuid : String) :
    NoJson (database.getInstance uuid) :=
  noJson_require fun _ found =>
    shallow.noJson_restore (isTable_vmis _) Listing.shows_vmis
      (List.mem_of_find?_eq_some found)

theorem getMigration (shallow : database.IsShallow) (uuid : String) :
    NoJson (database.getMigration uuid) :=
  noJson_require fun _ found =>
    shallow.noJson_restore (isTable_migrations _) Listing.shows_migrations
      (List.mem_of_find?_eq_some found)

theorem lookup (shallow : database.IsShallow) (key : Key)
    (outcome : Outcome Record) (looksUp : outcome ∈ database.lookup? key) :
    NoJson outcome := by
  obtain ⟨entity, rfl⟩ := exists_entity_of_lookup? looksUp
  refine noJson_require fun row isRow => ?_
  have isShallow := shallow.of_mem_rowsAt (List.mem_of_mem_head? isRow)
  rw [Record.restore_of_isShallow isShallow]
  exact noJson_ok _

theorem content (shallow : database.IsShallow) (kind : Kind) (id : String) :
    NoJson (database.content kind id) := by
  by_cases carries : kind = .gather
  · rw [carries]
    exact fun cause => by simp [Database.content, Except.bind]
  · rw [content_eq database carries]
    refine noJson_require fun manifest found => ?_
    obtain ⟨row, isRow, rfl⟩ := Option.map_eq_some_iff.mp found
    have isShallow := shallow.of_mem_rowsAt (List.mem_of_mem_head? isRow)
    rw [restoreContent_of_shallow isShallow.depth_le]
    exact noJson_ok _

theorem list (shallow : database.IsShallow) (kind : Kind) (filter : Filter) :
    NoJson (database.list kind filter) := by
  by_cases listed : kind = .gather
  · rw [listed]
    exact noJson_ok _
  · rw [database.list_eq listed]
    cases fault : filter.fault? kind with
    | some cause =>
        rw [Listing.pageOf_of_fault fault]
        exact fun cause => by simp
    | none =>
        rw [Listing.pageOf_of_shallow fault fun record member => ?_]
        · exact noJson_ok _
        · exact shallow kind record
            (Listing.mem_selected.mp (mem_of_mem_pageRows member)).1

theorem findPod (shallow : database.IsShallow) (name inNamespace : String) :
    NoJson (database.findPod name inNamespace) :=
  noJson_restore? fun _ found => shallow.restorePod
    (List.mem_of_mem_filter (mem_of_newest?_eq_some found))

theorem findInstance (shallow : database.IsShallow)
    (name inNamespace : String) :
    NoJson (database.findInstance name inNamespace) :=
  noJson_restore? fun _ found =>
    shallow.noJson_restore (isTable_vmis _) Listing.shows_vmis
      (List.mem_of_mem_filter (mem_of_newest?_eq_some found))

theorem findClaim (shallow : database.IsShallow) (name inNamespace : String) :
    NoJson (database.findClaim name inNamespace) :=
  noJson_restore? fun _ found =>
    shallow.noJson_restore (isTable_pvcs _) Listing.shows_pvcs
      (List.mem_of_find?_eq_some found)

theorem oldestFirst (shallow : database.IsShallow) (selects : Pod → Bool) :
    NoJson (Database.oldestFirst (database.pods.filter selects)) :=
  noJson_mapM fun _ member => shallow.restorePod
    (List.mem_of_mem_filter (List.mem_mergeSort.mp member))

theorem podsOnNode (shallow : database.IsShallow) (node beginning : String) :
    NoJson (database.podsOnNode node beginning) :=
  (shallow.oldestFirst _).map _

theorem claimsByNames (shallow : database.IsShallow) (names : List String)
    (inNamespace : String) :
    NoJson (database.claimsByNames names inNamespace) :=
  (noJson_mapM fun name _ => shallow.findClaim name inNamespace).map _

/-! ### Queries -/

theorem claimUuids (shallow : database.IsShallow) (pods : List Pod)
    (inNamespace : String) :
    NoJson (Correlation.claimUuids database pods inNamespace) :=
  (shallow.claimsByNames _ _).map _

theorem handlerAt (shallow : database.IsShallow) (node : String)
    (at' : Time.Instant) :
    NoJson (Correlation.handlerAt database node at') :=
  (shallow.podsOnNode _ _).map _

theorem targetPod? (shallow : database.IsShallow) (migration : Migration) :
    NoJson (Correlation.targetPod? database migration) := by
  rw [Correlation.targetPod?]
  split
  · exact shallow.findPod _ _
  · exact noJson_ok _

theorem ofInstance (shallow : database.IsShallow) (uuid node : String) :
    NoJson (Correlation.ofInstance database uuid node) := by
  refine noJson_bind (shallow.oldestFirst _) fun candidates => ?_
  refine noJson_bind (noJson_orMissing _ _) fun launcher => ?_
  refine noJson_bind (shallow.handlerAt _ _) fun handler? => ?_
  refine noJson_bind (noJson_orMissing _ _) fun handler => ?_
  exact noJson_bind (shallow.claimUuids _ _) fun pvcs => noJson_ok _

theorem ofMigration (shallow : database.IsShallow) (uuid : String) :
    NoJson (Correlation.ofMigration database uuid) := by
  refine noJson_bind (shallow.getMigration uuid) fun migration => ?_
  refine noJson_bind (noJson_orMissing _ _) fun started => ?_
  refine noJson_bind (shallow.findInstance _ _) fun vmi? => ?_
  refine noJson_bind (noJson_orMissing _ _) fun vmi => ?_
  refine noJson_bind (shallow.targetPod? migration) fun target? => ?_
  refine noJson_bind (noJson_orMissing _ _) fun target => ?_
  refine noJson_bind (noJson_orMissing _ _) fun sourceNode => ?_
  refine noJson_bind (shallow.oldestFirst _) fun candidates => ?_
  refine noJson_bind (noJson_orMissing _ _) fun source => ?_
  refine noJson_bind (shallow.handlerAt _ _) fun sourceHandler? => ?_
  refine noJson_bind (noJson_orMissing _ _) fun sourceHandler => ?_
  refine noJson_bind (shallow.handlerAt _ _) fun targetHandler? => ?_
  refine noJson_bind (noJson_orMissing _ _) fun targetHandler => ?_
  refine noJson_bind (shallow.oldestFirst _) fun launchers => ?_
  exact noJson_bind (shallow.claimUuids _ _) fun pvcs => noJson_ok _

theorem ofHistory (shallow : database.IsShallow) (uuid : String) :
    NoJson (Correlation.ofHistory database uuid) := by
  refine noJson_bind (shallow.getInstance uuid) fun vmi => ?_
  refine noJson_bind (shallow.oldestFirst _) fun launchers => ?_
  dsimp only
  split
  · rintro cause ⟨⟩
  · refine noJson_bind (noJson_mapM fun visit _ =>
      (shallow.handlerAt _ _).map _) fun visits => ?_
    exact noJson_bind (shallow.claimUuids _ _) fun pvcs => noJson_ok _

theorem answers (shallow : database.IsShallow) : database.Answers := by
  constructor
  case list => exact shallow.list
  case content => exact shallow.content
  case lookup => exact shallow.lookup
  case findPod => exact shallow.findPod
  case findInstance => exact shallow.findInstance
  case findClaim => exact shallow.findClaim
  case claimsByNames => exact shallow.claimsByNames
  case podsCreatedBy => exact fun vmi node => shallow.oldestFirst _
  case podsOnNode => exact shallow.podsOnNode
  case podClaims =>
    exact fun pod => noJson_bind (shallow.getPod pod) fun found =>
      shallow.claimsByNames _ _
  case instanceClaims =>
    intro vmi
    refine noJson_bind (shallow.getInstance vmi) fun found => ?_
    exact noJson_bind (shallow.oldestFirst _) fun launchers =>
      shallow.claimsByNames _ _
  case ofPod =>
    intro uuid
    refine noJson_bind (shallow.getPod uuid) fun pod => ?_
    exact noJson_bind (shallow.claimUuids _ _) fun pvcs => noJson_ok _
  case ofInstance => exact shallow.ofInstance
  case ofMigration => exact shallow.ofMigration
  case ofHistory => exact shallow.ofHistory

end IsShallow

/-! ## Keys that are read back -/

/-- The row of a key is handed out: its manifest, its place in a listing, and
the record where its kind is looked up by key. -/
structure IsReadAt (database : Database) (key : Key) : Prop where
  content : ∃ manifest, database.content key.kind key.id = .ok manifest
  listed : ∃ page,
    database.list key.kind { uuid := some key.id } = .ok page ∧
      page.rows.map Record.key = [key]
  found : ∀ outcome ∈ database.lookup? key,
    ∃ record, outcome = .ok record ∧ record.key = key

/-- The manifest of a key and its listing fail, because the manifest nests too
deep. -/
structure IsTooDeepAt (database : Database) (key : Key) : Prop where
  content : FailsTooDeep (database.content key.kind key.id)
  listed : FailsTooDeep (database.list key.kind { uuid := some key.id })

section Row

variable {database : Database} {key : Key} {row : Record}

theorem key_of_rowsAt (isRow : database.rowsAt key = [row]) :
    row.key = key := by
  have member : row ∈ database.rowsAt key := by
    rw [isRow]
    exact List.mem_singleton_self row
  exact of_decide_eq_true (List.mem_filter.mp member).2

theorem content_of_rowsAt (carries : key.kind ≠ .gather)
    (isRow : database.rowsAt key = [row]) :
    database.content key.kind key.id =
      restoreContent (row.manifest?.getD .null) := by
  rw [content_eq database carries, isRow]
  rfl

theorem selected_uuid (database : Database) (key : Key) :
    (selected { uuid := some key.id } (database.records key.kind)).Perm
      (database.rowsAt key) := by
  rw [selected, rowsAt]
  refine (perm_inOrder _).trans (List.Perm.of_eq ?_)
  refine List.filter_congr fun record member => ?_
  have isKind := kind_of_mem_records member
  rw [Bool.eq_iff_iff, Filter.accepts_iff, decide_eq_true_iff]
  constructor
  · intro selects
    exact congrArg₂ Key.mk isKind (selects.uuid key.id rfl)
  · rintro rfl
    constructor <;> simp

theorem list_of_rowsAt (carries : key.kind ≠ .gather)
    (isRow : database.rowsAt key = [row]) :
    database.list key.kind { uuid := some key.id } =
      row.restore.map fun read => ⟨[read], 1, none, 1, 1⟩ := by
  have fits : Filter.fault? { uuid := some key.id } key.kind = none :=
    (Listing.fault?_eq_none_iff carries).mpr
      ⟨le_rfl, by simp, fun _ => ⟨rfl, rfl⟩⟩
  have isSelected := selected_uuid database key
  rw [isRow, List.perm_singleton] at isSelected
  rw [database.list_eq carries, Listing.pageOf, fits]
  simp only [isSelected, pageRows]
  cases read : row.restore with
  | error failure => rw [mapM_cons_of_error read]; rfl
  | ok record => rw [mapM_cons_of_ok read]; rfl

theorem isReadAt_of_rowsAt (carries : key.kind ≠ .gather)
    (isRow : database.rowsAt key = [row]) (shallow : row.IsShallow) :
    database.IsReadAt key := by
  have isKey : row.readBack.key = key :=
    row.key_readBack.trans (key_of_rowsAt isRow)
  have isRead := Record.restore_of_isShallow shallow
  constructor
  case content =>
    rw [content_of_rowsAt carries isRow,
      restoreContent_of_shallow shallow.depth_le]
    exact ⟨_, rfl⟩
  case listed =>
    rw [list_of_rowsAt carries isRow, isRead]
    exact ⟨_, rfl, congrArg ([·]) isKey⟩
  case found =>
    intro outcome looksUp
    obtain ⟨entity, rfl⟩ := exists_entity_of_lookup? looksUp
    rw [isRow]
    exact ⟨row.readBack, isRead, isKey⟩

theorem isTooDeepAt_of_rowsAt (carries : key.kind ≠ .gather)
    (isRow : database.rowsAt key = [row]) (deep : ¬ row.IsShallow) :
    database.IsTooDeepAt key := by
  constructor
  case content =>
    simp only [Record.IsShallow, not_forall] at deep
    obtain ⟨manifest, carried, deep⟩ := deep
    rw [Option.mem_def] at carried
    rw [content_of_rowsAt carries isRow, carried, Option.getD_some]
    exact restoreContent_of_deep deep
  case listed =>
    rw [list_of_rowsAt carries isRow]
    exact (Record.restore_of_not_isShallow deep).map _

theorem IsTooDeepAt.not_isReadAt (tooDeep : database.IsTooDeepAt key) :
    ¬ database.IsReadAt key := by
  intro isRead
  obtain ⟨manifest, given⟩ := isRead.content
  exact tooDeep.content.not_exists_ok ⟨manifest, given⟩

/-- The row of a key holds the manifest of the record that was stored last under
the key. -/
theorem exists_rowsAt_putAll {before : Database} (keyed : before.Keyed)
    {records : List Record} {record : Record}
    (isLatest : latest? key records = some record) :
    ∃ row, (before.putAll records).rowsAt key = [row] ∧
      row.manifest? = record.manifest? :=
  List.map_eq_singleton_iff.mp (manifestsAt_putAll keyed isLatest)

end Row

end Database
end ClusterTrace
