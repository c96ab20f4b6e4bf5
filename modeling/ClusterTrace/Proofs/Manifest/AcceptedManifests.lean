import ClusterTrace.Proofs.Database.ShallowRows
import ClusterTrace.Proofs.Manifest.Layouts
import ClusterTrace.Proofs.Yaml.Nesting

/-!
# Accepted manifests

A document may nest one level deeper than a table's text is read back.  The
records of a file can all be read back, unless the manifest that is stored last
under some key nests exactly that deep, `decoded_readsBack_iff`.
-/

namespace ClusterTrace.Manifest

open Database (exists_latest? exists_rowsAt_putAll isReadAt_of_rowsAt
  isShallow_putAll_iff isTooDeepAt_of_rowsAt keyed_empty latest?
  mem_of_latest?)

/-! ## How deep accepted manifests nest -/

/-- An object is no deeper than the document that holds it. -/
theorem depth_le_of_mem_objectsOf {document object : Json} {bound : Nat}
    (member : object ∈ objectsOf document) (within : document.depth ≤ bound) :
    object.depth ≤ bound := by
  cases document with
  | null => cases member
  | object fields =>
      simp only [objectsOf] at member
      split at member
      · rename_i items isList
        obtain ⟨earlier, later, rfl, -⟩ := List.lookup_eq_some_iff.mp isList
        have ofItems : (Json.array items).depth ≤ bound - 1 :=
          Json.membersDepth_le_iff.mp (Nat.le_sub_one_of_lt within)
            ("items", .array items) (by simp)
        have ofItem : object.depth ≤ bound - 1 - 1 :=
          Json.itemsDepth_le_iff.mp (Nat.le_sub_one_of_lt ofItems) object
            (List.mem_of_mem_filter member)
        omega
      · cases List.mem_singleton.mp member
        exact within
  | _ =>
      cases List.mem_singleton.mp member
      exact within

variable {kind : Kind} {octets : List UInt8} {records : List Record}

/-- A record of a file has a manifest, which nests as deep as a document does at
most. -/
theorem exists_manifest_of_decode (decoded : decode kind octets = .ok records)
    {record : Record} (member : record ∈ records) :
    ∃ manifest, record.manifest? = some manifest ∧
      manifest.depth ≤ Yaml.maxNesting := by
  obtain ⟨-, objects, isRead, object, isObject, isRecord⟩ :=
    exists_object_of_decode decoded member
  refine ⟨object, isRecord.manifest?, ?_⟩
  rw [Manifest.objects] at isRead
  cases read : Yaml.readAll octets with
  | error fault =>
      rw [read] at isRead
      cases isRead
  | ok documents =>
      rw [read] at isRead
      cases isRead
      obtain ⟨document, isDocument, isItsOwn⟩ := List.mem_flatMap.mp isObject
      exact depth_le_of_mem_objectsOf isItsOwn
        (Yaml.depth_le_of_readAll read isDocument)

/-- The manifest of the record nests as deep as a document can. -/
def NestsDeepest (record : Record) : Prop :=
  ∃ manifest ∈ record.manifest?, manifest.depth = Yaml.maxNesting

/-- Documents go one level deeper than what is read back. -/
theorem isShallow_iff_of_decode (decoded : decode kind octets = .ok records)
    {record : Record} (member : record ∈ records) :
    record.IsShallow ↔ ¬ NestsDeepest record := by
  obtain ⟨manifest, carried, within⟩ := exists_manifest_of_decode decoded member
  have oneMore : Yaml.maxNesting = Json.maxDepth + 1 := rfl
  simp only [Record.IsShallow, NestsDeepest, carried, Option.mem_def,
    Option.some.injEq, forall_eq', exists_eq_left']
  omega

/-! ## Reading accepted manifests back -/

/-- After the records of a file were stored, each of them is read back and no
lookup, listing or query fails by a manifest, if and only if no manifest that is
the last one under its key nests as deep as a document can. -/
theorem decoded_readsBack_iff (decoded : decode kind octets = .ok records)
    {before : Database} (keyed : before.Keyed) (shallow : before.IsShallow) :
    (∀ record ∈ records, ∃ manifest, record.manifest? = some manifest ∧
      manifest.depth ≤ Yaml.maxNesting) ∧
    ((∀ record ∈ records, (before.putAll records).IsReadAt record.key) ∧
        (before.putAll records).Answers ↔
      ∀ key, ∀ last ∈ latest? key records, ¬ NestsDeepest last) ∧
    ∀ key, ∀ last ∈ latest? key records, NestsDeepest last →
      (before.putAll records).IsTooDeepAt key := by
  have carries : ∀ record ∈ records, record.key.kind ≠ .gather := by
    intro record member
    obtain ⟨hasManifests, _, _, _, _, isRecord⟩ :=
      exists_object_of_decode decoded member
    rwa [isRecord.kind]
  have tooDeep : ∀ key, ∀ last ∈ latest? key records, NestsDeepest last →
      (before.putAll records).IsTooDeepAt key := by
    intro key last isLatest deepest
    obtain ⟨member, rfl⟩ := mem_of_latest? isLatest
    obtain ⟨row, isRow, same⟩ := exists_rowsAt_putAll keyed isLatest
    refine isTooDeepAt_of_rowsAt (carries last member) isRow ?_
    rw [Record.IsShallow, same]
    exact fun isShallow =>
      (isShallow_iff_of_decode decoded member).mp isShallow deepest
  refine ⟨fun record member => exists_manifest_of_decode decoded member, ?_,
    tooDeep⟩
  constructor
  · rintro ⟨isRead, -⟩ key last isLatest deepest
    obtain ⟨member, rfl⟩ := mem_of_latest? isLatest
    exact (tooDeep _ last isLatest deepest).not_isReadAt (isRead last member)
  · intro noneDeepest
    have shallowAfter : (before.putAll records).IsShallow :=
      (isShallow_putAll_iff keyed shallow).mpr fun key last isLatest =>
        (isShallow_iff_of_decode decoded (mem_of_latest? isLatest).1).mpr
          (noneDeepest key last isLatest)
    refine ⟨fun record member => ?_, shallowAfter.answers⟩
    -- A later record of the file may have replaced this one, so the row is that
    -- of the last record under the key.
    obtain ⟨last, isLatest⟩ := exists_latest? member
    obtain ⟨row, isRow, -⟩ := exists_rowsAt_putAll keyed isLatest
    refine isReadAt_of_rowsAt (carries record member) isRow ?_
    exact shallowAfter.of_mem_rowsAt (isRow ▸ List.mem_singleton_self row)

/-! ## A node and a deep pod -/

theorem isShallow_empty : ({} : Database).IsShallow := by
  intro kind record member
  cases kind <;> cases member

theorem decoded_readsBack_of_node :
    ∃ records,
      decode .node (Text.Utf8.encode (fileOfNode "a")) = .ok records ∧
      (({} : Database).putAll records).IsReadAt ⟨.node, "a"⟩ ∧
      (({} : Database).putAll records).Answers := by
  obtain ⟨record, isRecord, isKey⟩ :
      ∃ record, recordOf .node (nodeNamed "a") = .ok record ∧
        record.key = ⟨.node, "a"⟩ := ⟨_, rfl, rfl⟩
  have decoded : decode .node (Text.Utf8.encode (fileOfNode "a")) =
      .ok [record] := by
    rw [holds_fileOfNode.1.decode_eq (by decide), mapM_cons_of_ok isRecord]
    rfl
  have noneDeepest : ∀ key, ∀ last ∈ latest? key [record],
      ¬ NestsDeepest last := by
    rintro key last isLatest ⟨manifest, carried, deepest⟩
    cases List.mem_singleton.mp (mem_of_latest? isLatest).1
    rw [(yields_recordOf _ _ _ isRecord).manifest?] at carried
    cases carried
    exact absurd deepest (by decide)
  obtain ⟨-, iff, -⟩ :=
    decoded_readsBack_iff decoded keyed_empty isShallow_empty
  obtain ⟨isRead, answers⟩ := iff.mpr noneDeepest
  exact ⟨[record], decoded, isKey ▸ isRead record (List.mem_singleton_self _),
    answers⟩

/-- The manifest of a pod with a list in a list, 127 times. -/
def deepPod : String :=
  "metadata:\n  name: virt-handler-2\n  uid: h-2\n" ++
    "  creationTimestamp: 2024-03-01T08:05:00Z\nx:\n" ++
    String.ofList (List.replicate 127 ['-', ' ']).flatten

theorem decode_deepPod :
    ∃ record, decode .pod (Text.Utf8.encode deepPod) = .ok [record] ∧
      record.key = ⟨.pod, "h-2"⟩ ∧
      ∃ manifest, record.manifest? = some manifest ∧ manifest.depth = 128 := by
  have outcome : (decode .pod (Text.Utf8.encode deepPod)).toOption.map
      (List.map fun record => (record.key, record.manifest?.map Json.depth)) =
        some [(⟨.pod, "h-2"⟩, some 128)] := by
    decide +kernel
  obtain ⟨records, isSome, isOne⟩ := Option.map_eq_some_iff.mp outcome
  obtain ⟨record, rfl, same⟩ := List.map_eq_singleton_iff.mp isOne
  obtain ⟨isKey, isDepth⟩ := Prod.mk.inj same
  exact ⟨record, eq_ok_of_toOption isSome, isKey,
    Option.map_eq_some_iff.mp isDepth⟩

/-- A manifest that nests as deep as a document can is accepted, and cannot be
read back. -/
theorem isTooDeepAt_of_deepPod :
    ∃ records, decode .pod (Text.Utf8.encode deepPod) = .ok records ∧
      (∃ record ∈ records, record.key = ⟨.pod, "h-2"⟩) ∧
      (({} : Database).putAll records).IsTooDeepAt ⟨.pod, "h-2"⟩ := by
  obtain ⟨record, decoded, isKey, manifest, carried, isDepth⟩ := decode_deepPod
  have isLatest := Database.latest?_concat_self [] record
  rw [isKey] at isLatest
  obtain ⟨row, isRow, same⟩ := exists_rowsAt_putAll keyed_empty isLatest
  have deep : ¬ row.IsShallow := by
    intro shallow
    have within := shallow manifest (same.trans carried)
    rw [isDepth] at within
    exact absurd within (by decide)
  exact ⟨[record], decoded, ⟨record, List.mem_singleton_self _, isKey⟩,
    isTooDeepAt_of_rowsAt (by decide) isRow deep⟩

end ClusterTrace.Manifest
