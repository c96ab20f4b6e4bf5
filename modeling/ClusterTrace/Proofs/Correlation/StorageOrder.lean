import ClusterTrace.Proofs.Correlation.MigrationQuery
import ClusterTrace.Proofs.Database.ListingOrder
import ClusterTrace.Proofs.Database.ReadBack
import ClusterTrace.Proofs.Time.ColumnIdentity
import Mathlib.Data.List.Perm.Basic

/-!
# Storage order

Records of distinct keys end up in the rows of their tables in the order in
which they were stored.  The lookups of the queries choose between rows by more
than their order, so that it does not matter, `sameAnswers_ofRecords_of_perm`.
-/

namespace ClusterTrace

open Time (Instant)

namespace Database

/-! ## Records of distinct keys -/

/-- A record of a new key is put at the end of its table, unless it is an
instance that tells of a migration as well. -/
theorem records_put_of_not_mem {database : Database} {record : Record}
    (absent : record.key ∉ (database.records record.key.kind).map Record.key)
    (settled : ∀ vmi, record = .vmi vmi → vmi.migrationState = none)
    (kind : Kind) :
    (database.put record).records kind =
      database.records kind ++
        if record.key.kind = kind then [record] else [] := by
  by_cases isMigration : kind = .migration
  · subst isMigration
    cases record with
    | migration row =>
        have absent : row.uuid ∉ database.migrations.map Migration.uuid := by
          rw [Record.key, keys_migrations] at absent
          exact fun member => absent (List.mem_map_of_mem member)
        have isKind : (Record.migration row).key.kind = .migration := rfl
        rw [if_pos isKind, records, put, putMigration,
          mergeRow_of_not_mem absent, List.map_append]
        rfl
    | vmi row =>
        have silent : row.derivedMigration? = none := by
          rw [VirtualMachineInstance.derivedMigration?, settled row rfl]
        rw [records, migrations_put_vmi, silent]
        exact (List.append_nil _).symm
    | _ row => exact (List.append_nil _).symm
  · rw [records_put record database isMigration]
    split
    · rename_i same
      subst same
      exact mergeRow_of_not_mem absent
    · exact (List.append_nil _).symm

/-- Records of distinct keys are the rows of their tables. -/
theorem records_ofRecords {records : List Record}
    (distinct : (records.map Record.key).Nodup)
    (settled : ∀ vmi, .vmi vmi ∈ records → vmi.migrationState = none)
    (kind : Kind) :
    (ofRecords records).records kind =
      records.filter fun record => record.key.kind = kind := by
  induction records using List.reverseRecOn generalizing kind with
  | nil => cases kind <;> rfl
  | append_singleton records record induction =>
      rw [List.map_append, List.map_singleton, List.nodup_append] at distinct
      have rows := induction distinct.1 fun vmi member =>
        settled vmi (List.mem_append_left _ member)
      have absent : record.key ∉
          ((ofRecords records).records record.key.kind).map Record.key := by
        rw [rows]
        intro member
        obtain ⟨other, isOther, same⟩ := List.mem_map.mp member
        have isEarlier := List.mem_of_mem_filter isOther
        exact distinct.2.2 _ (List.mem_map_of_mem isEarlier) _
          (List.mem_singleton_self _) same
      rw [ofRecords_concat, records_put_of_not_mem absent, rows,
        List.filter_append]
      · by_cases same : record.key.kind = kind <;> simp [same]
      · intro vmi isInstance
        exact settled vmi (by simp [isInstance])

/-! ## Tables in another order -/

/-- The databases have the same rows in the tables that queries read, one for
each key.  No two pods and no two instances among them agree on namespace, name
and creation time, and no two claims on namespace and name. -/
structure Rearranged (database database' : Database) : Prop where
  keyed : database.Keyed
  pods : database.pods.Perm database'.pods
  vmis : database.vmis.Perm database'.vmis
  migrations : database.migrations.Perm database'.migrations
  pvcs : database.pvcs.Perm database'.pvcs
  podUnique : ∀ a ∈ database.pods, ∀ b ∈ database.pods, a.name = b.name →
    a.namespaceName = b.namespaceName →
    a.creationTime.columnText = b.creationTime.columnText → a = b
  instanceUnique : ∀ a ∈ database.vmis, ∀ b ∈ database.vmis, a.name = b.name →
    a.namespaceName = b.namespaceName →
    a.creationTime.columnText = b.creationTime.columnText → a = b
  claimUnique : ∀ a ∈ database.pvcs, ∀ b ∈ database.pvcs, a.name = b.name →
    a.namespaceName = b.namespaceName → a = b

theorem find?_eq_of_perm {α : Type} {rows rows' : List α} {p : α → Bool}
    (perm : rows.Perm rows')
    (unique : ∀ a ∈ rows, ∀ b ∈ rows, p a = true → p b = true → a = b) :
    rows.find? p = rows'.find? p := by
  cases found : rows.find? p with
  | none =>
      rw [List.find?_eq_none] at found
      exact (List.find?_eq_none.mpr fun row member =>
        found row (perm.mem_iff.mpr member)).symm
  | some row =>
      have member := List.mem_of_find?_eq_some found
      cases found' : rows'.find? p with
      | none =>
          exact (List.find?_eq_none.mp found' row (perm.mem_iff.mp member)
            (List.find?_some found)).elim
      | some row' =>
          have member' := perm.mem_iff.mpr (List.mem_of_find?_eq_some found')
          exact congrArg some (unique row member row' member'
            (List.find?_some found) (List.find?_some found'))

theorem find?_key_eq_of_perm {α : Type} {rows rows' : List α} {key : α → String}
    (distinct : (rows.map key).Nodup) (perm : rows.Perm rows') (id : String) :
    (rows.find? fun row => key row = id) =
      rows'.find? fun row => key row = id := by
  refine find?_eq_of_perm perm fun a member b member' same same' => ?_
  exact List.inj_on_of_nodup_map distinct member member'
    ((of_decide_eq_true same).trans (of_decide_eq_true same').symm)

theorem newest?_eq_of_perm {α : Type} {rows rows' : List α} {time : α → Instant}
    (perm : rows.Perm rows')
    (unique : ∀ a ∈ rows, ∀ b ∈ rows,
      (time a).columnText = (time b).columnText → a = b) :
    newest? time rows = newest? time rows' := by
  have ordered : ∀ a b,
      decide ((time b).columnText < (time a).columnText) = true ↔
        OrderDual.toDual (time a).columnText <
          OrderDual.toDual (time b).columnText :=
    fun a b => decide_eq_true_iff
  exact Correlation.firstLeast?_eq_of_perm ordered perm unique

theorem isNotAfter_iff (a b : Pod) :
    isNotAfter a b = true ↔
      toLex (a.creationTime.columnText, a.uuid) ≤
        toLex (b.creationTime.columnText, b.uuid) := by
  rw [Prod.Lex.toLex_le_toLex]
  simp [isNotAfter]

theorem oldestFirst_eq_of_perm {rows rows' : List Pod}
    (distinct : (rows.map (·.uuid)).Nodup) (perm : rows.Perm rows') :
    oldestFirst rows = oldestFirst rows' := by
  rw [oldestFirst, oldestFirst, mergeSort_eq_of_perm isNotAfter_iff perm]
  intro a member b member' same
  have sameUuid : a.uuid = b.uuid :=
    congrArg (fun pair : String ×ₗ String => (ofLex pair).2) same
  exact List.inj_on_of_nodup_map distinct member member' sameUuid

/-- The lookups of the queries do not tell the databases apart. -/
structure SameLookups (database database' : Database) : Prop where
  getPod : database.getPod = database'.getPod
  getInstance : database.getInstance = database'.getInstance
  getMigration : database.getMigration = database'.getMigration
  findPod : database.findPod = database'.findPod
  findInstance : database.findInstance = database'.findInstance
  findClaim : database.findClaim = database'.findClaim
  podsCreatedBy : database.podsCreatedBy = database'.podsCreatedBy
  podsOnNode : database.podsOnNode = database'.podsOnNode

theorem Rearranged.sameLookups {database database' : Database}
    (rearranged : database.Rearranged database') :
    database.SameLookups database' := by
  have oldest : ∀ p : Pod → Bool,
      oldestFirst (database.pods.filter p) =
        oldestFirst (database'.pods.filter p) := fun p =>
    oldestFirst_eq_of_perm
      ((List.filter_sublist.map _).nodup rearranged.keyed.nodup_pods)
      (rearranged.pods.filter p)
  constructor
  case getPod =>
    funext uuid
    rw [getPod, getPod,
      find?_key_eq_of_perm rearranged.keyed.nodup_pods rearranged.pods]
  case getInstance =>
    funext uuid
    rw [getInstance, getInstance,
      find?_key_eq_of_perm rearranged.keyed.nodup_vmis rearranged.vmis]
  case getMigration =>
    funext uuid
    rw [getMigration, getMigration,
      find?_key_eq_of_perm rearranged.keyed.nodup_migrations
        rearranged.migrations]
  case findPod =>
    funext name inNamespace
    rw [findPod, findPod, newest?_eq_of_perm (rearranged.pods.filter _)]
    intro a member b member' same
    simp only [List.mem_filter, Bool.and_eq_true, decide_eq_true_eq]
      at member member'
    exact rearranged.podUnique a member.1 b member'.1
      (member.2.1.trans member'.2.1.symm) (member.2.2.trans member'.2.2.symm)
      same
  case findInstance =>
    funext name inNamespace
    rw [findInstance, findInstance,
      newest?_eq_of_perm (rearranged.vmis.filter _)]
    intro a member b member' same
    simp only [List.mem_filter, Bool.and_eq_true, decide_eq_true_eq]
      at member member'
    exact rearranged.instanceUnique a member.1 b member'.1
      (member.2.1.trans member'.2.1.symm) (member.2.2.trans member'.2.2.symm)
      same
  case findClaim =>
    funext name inNamespace
    rw [findClaim, findClaim, find?_eq_of_perm rearranged.pvcs]
    intro a member b member' isNamed isNamed'
    simp only [Bool.and_eq_true, decide_eq_true_eq] at isNamed isNamed'
    exact rearranged.claimUnique a member b member'
      (isNamed.1.trans isNamed'.1.symm) (isNamed.2.trans isNamed'.2.symm)
  case podsCreatedBy =>
    funext vmi node
    exact oldest _
  case podsOnNode =>
    funext node beginning
    rw [podsOnNode, podsOnNode, oldest]

end Database

/-! ## Snapshots -/

/-- Records as one state of a cluster has them. -/
structure IsSnapshot (records : List Record) : Prop where
  distinct : (records.map Record.key).Nodup
  /-- No instance tells of a migration. -/
  settled : ∀ vmi, .vmi vmi ∈ records → vmi.migrationState = none
  pods : ∀ a b, .pod a ∈ records → .pod b ∈ records → a.name = b.name →
    a.namespaceName = b.namespaceName → a.creationTime = b.creationTime → a = b
  vmis : ∀ a b, .vmi a ∈ records → .vmi b ∈ records → a.name = b.name →
    a.namespaceName = b.namespaceName → a.creationTime = b.creationTime → a = b
  pvcs : ∀ a b, .pvc a ∈ records → .pvc b ∈ records → a.name = b.name →
    a.namespaceName = b.namespaceName → a = b
  /-- The times are such as documents give. -/
  podTimes : ∀ pod, .pod pod ∈ records → pod.creationTime.IsProper
  vmiTimes : ∀ vmi, .vmi vmi ∈ records → vmi.creationTime.IsProper

namespace Database

variable {records records' : List Record}

section Tables

variable {α : Type} {kind : Kind} {wrap : α → Record} {name : α → String}
  {restore : α → Outcome α} {rows rows' : List α}

theorem IsTable.mem_of_isSnapshot (snapshot : IsSnapshot records)
    (table : (ofRecords records).IsTable kind wrap name restore rows) {row : α}
    (member : row ∈ rows) : wrap row ∈ records := by
  have isRow : wrap row ∈ rows.map wrap := List.mem_map_of_mem member
  rw [← table.records, records_ofRecords snapshot.distinct snapshot.settled]
    at isRow
  exact List.mem_of_mem_filter isRow

theorem IsTable.perm_of_isSnapshot (snapshot : IsSnapshot records)
    (perm : records.Perm records') (injective : Function.Injective wrap)
    (table : (ofRecords records).IsTable kind wrap name restore rows)
    (table' : (ofRecords records').IsTable kind wrap name restore rows') :
    rows.Perm rows' := by
  have distinct' := (perm.map Record.key).nodup_iff.mp snapshot.distinct
  have settled' : ∀ vmi, .vmi vmi ∈ records' → vmi.migrationState = none :=
    fun vmi member => snapshot.settled vmi (perm.mem_iff.mpr member)
  rw [← List.map_perm_map_iff injective, ← table.records, ← table'.records,
    records_ofRecords snapshot.distinct snapshot.settled,
    records_ofRecords distinct' settled']
  exact perm.filter _

end Tables

theorem rearranged_ofRecords (snapshot : IsSnapshot records)
    (perm : records.Perm records') :
    (ofRecords records).Rearranged (ofRecords records') := by
  constructor
  case keyed => exact keyed_ofRecords records
  case pods =>
    exact (isTable_pods _).perm_of_isSnapshot snapshot perm
      (fun _ _ => Record.pod.inj) (isTable_pods _)
  case vmis =>
    exact (isTable_vmis _).perm_of_isSnapshot snapshot perm
      (fun _ _ => Record.vmi.inj) (isTable_vmis _)
  case migrations =>
    exact (isTable_migrations _).perm_of_isSnapshot snapshot perm
      (fun _ _ => Record.migration.inj) (isTable_migrations _)
  case pvcs =>
    exact (isTable_pvcs _).perm_of_isSnapshot snapshot perm
      (fun _ _ => Record.pvc.inj) (isTable_pvcs _)
  case podUnique =>
    intro a member b member' sameName sameNamespace sameTime
    have isPod := (isTable_pods _).mem_of_isSnapshot snapshot member
    have isPod' := (isTable_pods _).mem_of_isSnapshot snapshot member'
    exact snapshot.pods a b isPod isPod' sameName sameNamespace
      ((snapshot.podTimes a isPod).eq_of_columnText_eq
        (snapshot.podTimes b isPod') sameTime)
  case instanceUnique =>
    intro a member b member' sameName sameNamespace sameTime
    have isInstance := (isTable_vmis _).mem_of_isSnapshot snapshot member
    have isInstance' := (isTable_vmis _).mem_of_isSnapshot snapshot member'
    exact snapshot.vmis a b isInstance isInstance' sameName sameNamespace
      ((snapshot.vmiTimes a isInstance).eq_of_columnText_eq
        (snapshot.vmiTimes b isInstance') sameTime)
  case claimUnique =>
    intro a member b member'
    exact snapshot.pvcs a b
      ((isTable_pvcs _).mem_of_isSnapshot snapshot member)
      ((isTable_pvcs _).mem_of_isSnapshot snapshot member')

end Database

/-! ## Queries -/

namespace Correlation

open Database (SameLookups)

/-- The queries answer alike, with the same faults. -/
structure SameAnswers (database database' : Database) : Prop where
  ofPod : ∀ uuid, ofPod database uuid = ofPod database' uuid
  ofInstance : ∀ uuid node,
    ofInstance database uuid node = ofInstance database' uuid node
  ofMigration : ∀ uuid, ofMigration database uuid = ofMigration database' uuid
  ofHistory : ∀ uuid, ofHistory database uuid = ofHistory database' uuid

variable {database database' : Database}

theorem sameAnswers (same : SameLookups database database') :
    SameAnswers database database' := by
  have claims : claimUuids database = claimUuids database' := by
    funext pods inNamespace
    rw [claimUuids, claimUuids, Database.claimsByNames, Database.claimsByNames,
      same.findClaim]
  have handlers : handlerAt database = handlerAt database' := by
    funext node at'
    rw [handlerAt, handlerAt, same.podsOnNode]
  have targets : targetPod? database = targetPod? database' := by
    funext migration
    rw [targetPod?, targetPod?, same.findPod]
  constructor
  case ofPod =>
    intro uuid
    rw [ofPod, ofPod, same.getPod, claims]
  case ofInstance =>
    intro uuid node
    rw [ofInstance, ofInstance, same.podsCreatedBy, handlers, claims]
  case ofMigration =>
    intro uuid
    rw [ofMigration, ofMigration, same.getMigration, same.findInstance, targets,
      same.podsCreatedBy, handlers, claims]
  case ofHistory =>
    intro uuid
    rw [ofHistory, ofHistory, same.getInstance, same.podsCreatedBy, handlers,
      claims]

/-- The records of a snapshot may be stored in any order. -/
theorem sameAnswers_ofRecords_of_perm {records records' : List Record}
    (snapshot : IsSnapshot records) (perm : records.Perm records') :
    SameAnswers (Database.ofRecords records) (Database.ofRecords records') :=
  sameAnswers (Database.rearranged_ofRecords snapshot perm).sameLookups

/-- A pod of the instance, the node and the time of the one that moves. -/
def otherOfMove : Pod :=
  { sourceOfMove .null with uuid := "src-2", name := "launcher-3" }

/-- Two pods of one instance and one time, with what belongs to them. -/
def recordsOfMove : List Record :=
  [.pod (sourceOfMove .null), .pod otherOfMove,
    .pod (handlerOfMove "ha" "node-a"), .vmi instanceOfMove,
    .migration migrationOfMove,
    .pvc ⟨"pvc-1", "disk", "vms", "", "", "", "", "Bound", "", none, .null⟩]

theorem isSnapshot_recordsOfMove : IsSnapshot recordsOfMove := by
  constructor
  case distinct =>
    simp [recordsOfMove, Record.key, sourceOfMove, otherOfMove, handlerOfMove]
  case settled => simp [recordsOfMove, instanceOfMove]
  case pods =>
    intro a b member member' sameName _ _
    simp only [recordsOfMove, List.mem_cons, Record.pod.injEq, reduceCtorEq,
      List.not_mem_nil, or_false] at member member'
    rcases member with rfl | rfl | rfl <;>
      rcases member' with rfl | rfl | rfl <;>
      first | rfl | simp [sourceOfMove, otherOfMove, handlerOfMove] at sameName
  case vmis => simp [recordsOfMove]
  case pvcs => simp [recordsOfMove]
  case podTimes =>
    simp [recordsOfMove, sourceOfMove, otherOfMove, handlerOfMove,
      Instant.IsProper, Instant.nanosPerSecond]
  case vmiTimes =>
    simp [recordsOfMove, instanceOfMove, Instant.IsProper,
      Instant.nanosPerSecond]

theorem podsCreatedBy_recordsOfMove :
    (Database.ofRecords recordsOfMove).podsCreatedBy "vmi-1" (some "node-a") =
      .ok [sourceOfMove .null, otherOfMove] := by
  have inOrder : [sourceOfMove .null, otherOfMove].mergeSort
      Database.isNotAfter = [sourceOfMove .null, otherOfMove] :=
    List.mergeSort_of_pairwise (by decide)
  change Database.oldestFirst [sourceOfMove .null, otherOfMove] = _
  rw [Database.oldestFirst, inOrder]
  rfl

theorem podsOnNode_recordsOfMove :
    (Database.ofRecords recordsOfMove).podsOnNode "node-a" handlerPrefix =
      .ok [handlerOfMove "ha" "node-a"] := by
  have isHandler := isHandler_handlerOfMove "ha" "node-a"
  rw [Correlation.isHandler, Bool.and_eq_true] at isHandler
  change (Database.oldestFirst [handlerOfMove "ha" "node-a"]).map _ = _
  rw [Database.oldestFirst, List.mergeSort_singleton]
  exact congrArg Except.ok (List.filter_cons_of_pos isHandler.2)

/-- Of the two pods the one whose UID is less is told. -/
theorem ofInstance_recordsOfMove :
    ∃ answer, ofInstance (Database.ofRecords recordsOfMove) "vmi-1" "node-a" =
      .ok answer ∧ answer.sourcePodUuid = "src" := by
  have picked : launcher? [sourceOfMove .null, otherOfMove] "vmi-1" "node-a" =
      some (sourceOfMove .null) := rfl
  have only : [handlerOfMove "ha" "node-a"].filter (isHandler "node-a") =
      [handlerOfMove "ha" "node-a"] := by
    rw [isHandler_eq]
    rfl
  have handler : handlerAt (Database.ofRecords recordsOfMove) "node-a"
      (sourceOfMove .null).creationTime =
        .ok (some (handlerOfMove "ha" "node-a")) := by
    rw [handlerAt, podsOnNode_recordsOfMove]
    exact congrArg Except.ok (handler?_of_only only _)
  simp only [ofInstance, podsCreatedBy_recordsOfMove, bind, Except.bind, picked,
    orMissing, handler]
  exact ⟨_, rfl, rfl⟩

theorem sameAnswers_recordsOfMove :
    SameAnswers (Database.ofRecords recordsOfMove)
        (Database.ofRecords recordsOfMove.reverse) ∧
      ∃ answer,
        ofInstance (Database.ofRecords recordsOfMove.reverse) "vmi-1" "node-a" =
          .ok answer ∧ answer.sourcePodUuid = "src" := by
  have same := sameAnswers_ofRecords_of_perm isSnapshot_recordsOfMove
    (List.reverse_perm recordsOfMove).symm
  obtain ⟨answer, given, source⟩ := ofInstance_recordsOfMove
  exact ⟨same, answer, (same.ofInstance _ _).symm.trans given, source⟩

end Correlation
end ClusterTrace
