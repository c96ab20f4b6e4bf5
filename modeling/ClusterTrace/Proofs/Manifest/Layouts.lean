import ClusterTrace.Proofs.Manifest.DecodedObjects
import ClusterTrace.Text.Utf8

/-!
# Layouts of manifest files

A file may hold objects as a list, as a stream of documents, or as a stream of
lists and single objects, and objects may also be held by one file each.  All of
these give the same records or the same fault, `layouts_agree`.
-/

namespace ClusterTrace.Manifest

/-! ## Documents and the objects that they hold -/

/-- The document is neither empty nor a list of objects. -/
structure IsSingle (document : Json) : Prop where
  notNull : document ≠ .null
  notList : ∀ items, document.get? "items" ≠ some (.array items)

/-- The items are these objects with nulls anywhere among them. -/
inductive HasNulls : (items objects : List Json) → Prop where
  | nil : HasNulls [] []
  | null {items objects : List Json} :
      HasNulls items objects → HasNulls (.null :: items) objects
  | object {object : Json} {items objects : List Json} :
      object ≠ .null → HasNulls items objects →
        HasNulls (object :: items) (object :: objects)

/-- The documents hold these objects in order: documents may be empty, single
objects, or lists of objects, whatever other fields they have. -/
inductive IsLayout : (documents objects : List Json) → Prop where
  | nil : IsLayout [] []
  | empty {documents objects : List Json} :
      IsLayout documents objects → IsLayout (.null :: documents) objects
  | single {object : Json} {documents objects : List Json} :
      IsSingle object → IsLayout documents objects →
        IsLayout (object :: documents) (object :: objects)
  | list {fields : List (String × Json)}
      {items listed documents objects : List Json} :
      fields.lookup "items" = some (.array items) → HasNulls items listed →
        IsLayout documents objects →
          IsLayout (.object fields :: documents) (listed ++ objects)

theorem isNull_eq_false_iff {value : Json} :
    value.isNull = false ↔ value ≠ .null := by
  cases value <;> simp [Json.isNull]

theorem objectsOf_single {document : Json} (single : IsSingle document) :
    objectsOf document = [document] := by
  cases document with
  | null => exact (single.notNull rfl).elim
  | object fields =>
      have notList := single.notList
      simp only [objectsOf]
      split
      · rename_i items isList
        exact (notList items isList).elim
      · rfl
  | _ => rfl

theorem HasNulls.filter {items objects : List Json}
    (nulls : HasNulls items objects) :
    (items.filter fun item => !item.isNull) = objects := by
  induction nulls with
  | nil => rfl
  | null _ ih => rw [List.filter_cons_of_neg (by simp [Json.isNull]), ih]
  | object notNull _ ih =>
      rw [List.filter_cons_of_pos
        (by simpa [isNull_eq_false_iff] using notNull), ih]

theorem IsLayout.flatMap_objectsOf {documents objects : List Json}
    (layout : IsLayout documents objects) :
    documents.flatMap objectsOf = objects := by
  induction layout with
  | nil => rfl
  | empty _ ih => rw [List.flatMap_cons, ih]; rfl
  | single single _ ih =>
      rw [List.flatMap_cons, objectsOf_single single, ih, List.singleton_append]
  | list isList nulls _ ih =>
      rw [List.flatMap_cons, ih, objectsOf, isList]
      simp only [nulls.filter]

/-! ## Files -/

/-- The documents of the file hold these objects. -/
def Holds (file : List UInt8) (objects : List Json) : Prop :=
  ∃ documents, Yaml.readAll file = .ok documents ∧ IsLayout documents objects

variable {kind : Kind} {objects : List Json}

theorem Holds.decode_eq (hasManifests : kind ≠ .gather) {file : List UInt8}
    (holds : Holds file objects) :
    decode kind file = objects.mapM (recordOf kind) := by
  obtain ⟨documents, isRead, layout⟩ := holds
  refine decode_of_objects hasManifests ?_
  rw [Manifest.objects, isRead, Except.map, layout.flatMap_objectsOf]

/-- Objects may be split over files. -/
theorem decode_files (hasManifests : kind ≠ .gather)
    {files : List (List UInt8)} {parts : List (List Json)}
    (hold : List.Forall₂ Holds files parts) :
    (files.mapM (decode kind)).map List.flatten =
      parts.flatten.mapM (recordOf kind) := by
  induction hold with
  | nil => rfl
  | @cons file part files parts holds _ ih =>
      rw [List.flatten_cons, List.mapM_append, ← ih, List.mapM_cons,
        holds.decode_eq hasManifests]
      cases part.mapM (recordOf kind) with
      | error fault => rfl
      | ok records => cases files.mapM (decode kind) <;> rfl

/-- However files hold the objects, the outcome is this one: the records of the
objects in order, each with its object unchanged, or the fault of the first
object that is bad. -/
structure Agree (kind : Kind) (objects : List Json)
    (outcome : Except Fault (List Record)) : Prop where
  one : ∀ file, Holds file objects → decode kind file = outcome
  each : ∀ files,
    List.Forall₂ (fun file object => Holds file [object]) files objects →
      (files.mapM (decode kind)).map List.flatten = outcome ∧
        ((∃ records, outcome = .ok records) ↔
          ∀ file ∈ files, ∃ records, decode kind file = .ok records)
  ok_iff : (∃ records, outcome = .ok records) ↔
    ∀ object ∈ objects, ∃ record, recordOf kind object = .ok record
  records : ∀ records, outcome = .ok records →
    List.Forall₂ (fun object record => recordOf kind object = .ok record ∧
      IsRecordOf kind object record) objects records
  error_iff : ∀ fault, outcome = .error fault ↔
    ∃ before object after, objects = before ++ object :: after ∧
      (∀ earlier ∈ before, ∃ record, recordOf kind earlier = .ok record) ∧
      recordOf kind object = .error fault

/-- Neither the layout of a file nor the split of objects over files matters. -/
theorem layouts_agree (hasManifests : kind ≠ .gather) (objects : List Json) :
    ∃ outcome, Agree kind objects outcome := by
  refine ⟨objects.mapM (recordOf kind), ?_⟩
  constructor
  case one => exact fun file holds => holds.decode_eq hasManifests
  case each =>
    intro files hold
    have parts : List.Forall₂ Holds files (objects.map ([·])) :=
      List.forall₂_map_right_iff.mpr hold
    have together := decode_files hasManifests parts
    rw [← List.flatMap_def, List.flatMap_singleton'] at together
    refine ⟨together, ?_⟩
    rw [← together, ← exists_mapM_eq_ok_iff]
    cases files.mapM (decode kind) <;> simp [Except.map]
  case ok_iff => exact exists_mapM_eq_ok_iff
  case records =>
    intro records given
    exact (mapM_eq_ok_iff.mp given).imp fun object record isRecord =>
      ⟨isRecord, yields_recordOf kind object record isRecord⟩
  case error_iff => exact fun fault => mapM_eq_error_iff

/-! ## Two nodes in four layouts -/

/-- The manifest of a node of which nothing but the name is told. -/
def nodeNamed (name : String) : Json :=
  .object [("metadata", .object [("name", .string name)])]

def listOfNodes : String :=
  "kind: List\nitems:\n- null\n- metadata:\n    name: a\n- metadata:\n" ++
    "    name: b\n- null\n"

def streamOfNodes : String :=
  "---\n---\nmetadata:\n  name: a\n---\n---\nmetadata:\n  name: b\n"

def nodeThenList : String :=
  "metadata:\n  name: a\n---\nitems:\n- metadata:\n    name: b\n"

def fileOfNode (name : String) : String :=
  "metadata:\n  name: " ++ name

theorem holds_of_readAll {text : String} {documents objects : List Json}
    (isRead : (Yaml.readAll (Text.Utf8.encode text)).toOption = some documents)
    (layout : IsLayout documents objects) :
    Holds (Text.Utf8.encode text) objects :=
  ⟨documents, eq_ok_of_toOption isRead, layout⟩

theorem isSingle_nodeNamed (name : String) : IsSingle (nodeNamed name) :=
  ⟨by simp [nodeNamed], by simp [nodeNamed, Json.get?, List.lookup_cons]⟩

theorem holds_fileOfNode :
    Holds (Text.Utf8.encode (fileOfNode "a")) [nodeNamed "a"] ∧
      Holds (Text.Utf8.encode (fileOfNode "b")) [nodeNamed "b"] := by
  have layout : ∀ name, IsLayout [nodeNamed name] [nodeNamed name] :=
    fun name => .single (isSingle_nodeNamed name) .nil
  exact ⟨holds_of_readAll (by decide +kernel) (layout "a"),
    holds_of_readAll (by decide +kernel) (layout "b")⟩

theorem holds_listOfNodes :
    Holds (Text.Utf8.encode listOfNodes) [nodeNamed "a", nodeNamed "b"] := by
  have nulls : HasNulls [.null, nodeNamed "a", nodeNamed "b", .null]
      [nodeNamed "a", nodeNamed "b"] :=
    .null <| .object (by simp [nodeNamed]) <|
      .object (by simp [nodeNamed]) <| .null .nil
  have layout : IsLayout [.object
      [("items", .array [.null, nodeNamed "a", nodeNamed "b", .null]),
        ("kind", .string "List")]] [nodeNamed "a", nodeNamed "b"] :=
    .list rfl nulls .nil
  exact holds_of_readAll (by decide +kernel) layout

theorem holds_streamOfNodes :
    Holds (Text.Utf8.encode streamOfNodes) [nodeNamed "a", nodeNamed "b"] := by
  have layout : IsLayout [.null, nodeNamed "a", .null, nodeNamed "b"]
      [nodeNamed "a", nodeNamed "b"] :=
    .empty <| .single (isSingle_nodeNamed "a") <| .empty <|
      .single (isSingle_nodeNamed "b") .nil
  exact holds_of_readAll (by decide +kernel) layout

theorem holds_nodeThenList :
    Holds (Text.Utf8.encode nodeThenList) [nodeNamed "a", nodeNamed "b"] := by
  have nulls : HasNulls [nodeNamed "b"] [nodeNamed "b"] :=
    .object (by simp [nodeNamed]) .nil
  have layout : IsLayout
      [nodeNamed "a", .object [("items", .array [nodeNamed "b"])]]
      [nodeNamed "a", nodeNamed "b"] :=
    .single (isSingle_nodeNamed "a") <| .list rfl nulls .nil
  exact holds_of_readAll (by decide +kernel) layout

theorem layouts_agree_of_two_nodes :
    ∃ records,
      decode .node (Text.Utf8.encode listOfNodes) = .ok records ∧
      decode .node (Text.Utf8.encode streamOfNodes) = .ok records ∧
      decode .node (Text.Utf8.encode nodeThenList) = .ok records ∧
      ([Text.Utf8.encode (fileOfNode "a"),
        Text.Utf8.encode (fileOfNode "b")].mapM (decode .node)).map
          List.flatten = .ok records := by
  obtain ⟨outcome, agree⟩ := layouts_agree (by decide : Kind.node ≠ .gather)
    [nodeNamed "a", nodeNamed "b"]
  have good : ∀ object ∈ [nodeNamed "a", nodeNamed "b"],
      ∃ record, recordOf .node object = .ok record := by
    simp only [List.forall_mem_cons]
    exact ⟨⟨_, rfl⟩, ⟨_, rfl⟩, by simp⟩
  obtain ⟨records, rfl⟩ := agree.ok_iff.mpr good
  obtain ⟨first, second⟩ := holds_fileOfNode
  exact ⟨records, agree.one _ holds_listOfNodes,
    agree.one _ holds_streamOfNodes, agree.one _ holds_nodeThenList,
    (agree.each _ (.cons first (.cons second .nil))).1⟩

end ClusterTrace.Manifest
