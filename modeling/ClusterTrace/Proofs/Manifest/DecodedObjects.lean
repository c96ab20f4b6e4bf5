import ClusterTrace.Manifest.Decode
import ClusterTrace.Proofs.Database.ReadBack
import ClusterTrace.Proofs.ListReading

/-!
# Objects and their records

An object that is decoded gives a record of the kind that is asked for, with the
object unchanged as its manifest, `yields_recordOf`.  A file is decoded if and
only if each of its objects is, `decode_eq_ok_iff`.
-/

namespace ClusterTrace.Manifest

variable {ε α : Type} {kind : Kind} {object : Json}

/-- The record is one of the kind and holds the object. -/
structure IsRecordOf (kind : Kind) (object : Json) (record : Record) :
    Prop where
  kind : record.key.kind = kind
  manifest? : record.manifest? = some object

/-- What is decoded, if anything is, is a record of the kind that holds the
object. -/
def Yields (kind : Kind) (object : Json) (outcome : Except ε Record) : Prop :=
  ∀ record, outcome = .ok record → IsRecordOf kind object record

theorem yields_pure {record : Record}
    (isRecord : IsRecordOf kind object record) :
    Yields kind object (pure record : Except ε Record) := by
  rintro _ ⟨⟩
  exact isRecord

theorem yields_bind {outcome : Except ε α} {next : α → Except ε Record}
    (later : ∀ value, Yields kind object (next value)) :
    Yields kind object (outcome >>= next) := by
  intro record succeeded
  cases outcome with
  | error fault => cases succeeded
  | ok value => exact later value record succeeded

theorem readObject_eq_ok_iff {σ : Type} {shape : DocumentShape σ}
    {toRecord : σ → Json → Except MissingField Record} {record : Record} :
    readObject shape toRecord object = .ok record ↔
      ∃ manifest, Json.asStruct shape object = .ok manifest ∧
        toRecord manifest object = .ok record := by
  cases isRead : Json.asStruct shape object with
  | error what => simp [readObject, isRead]
  | ok manifest =>
      cases decoded : toRecord manifest object <;>
        simp [readObject, isRead, decoded, Except.mapError]

theorem yields_readObject {σ : Type} {shape : DocumentShape σ}
    {toRecord : σ → Json → Except MissingField Record}
    (yields : ∀ manifest object, Yields kind object (toRecord manifest object))
    (object : Json) :
    Yields kind object (readObject shape toRecord object) := by
  intro record succeeded
  rw [readObject] at succeeded
  split at succeeded
  · cases succeeded
  · rename_i manifest _
    cases decoded : toRecord manifest object with
    | error missing =>
        rw [decoded] at succeeded
        cases succeeded
    | ok decodedRecord =>
        rw [decoded] at succeeded
        cases succeeded
        exact yields manifest object _ decoded

theorem yields_recordOf (kind : Kind) (object : Json) :
    Yields kind object (recordOf kind object) := by
  cases kind with
  | pod =>
      apply yields_readObject fun manifest content => ?_
      exact yields_bind fun uuid => yields_bind fun name =>
        yields_bind fun creationTime => yields_pure ⟨rfl, rfl⟩
  | node =>
      apply yields_readObject fun manifest content => ?_
      exact yields_bind fun name => yields_pure ⟨rfl, rfl⟩
  | vm =>
      apply yields_readObject fun manifest content => ?_
      exact yields_bind fun uuid => yields_bind fun name =>
        yields_pure ⟨rfl, rfl⟩
  | vmi =>
      apply yields_readObject fun manifest content => ?_
      exact yields_bind fun uuid => yields_bind fun name =>
        yields_bind fun creationTime => yields_pure ⟨rfl, rfl⟩
  | migration =>
      apply yields_readObject fun manifest content => ?_
      exact yields_bind fun uuid => yields_bind fun name =>
        yields_pure ⟨rfl, rfl⟩
  | pvc =>
      apply yields_readObject fun manifest content => ?_
      exact yields_bind fun uuid => yields_bind fun name =>
        yields_pure ⟨rfl, rfl⟩
  | subscription =>
      apply yields_readObject fun manifest content => ?_
      exact yields_bind fun uuid => yields_pure ⟨rfl, rfl⟩
  | gather =>
      intro record succeeded
      cases succeeded

/-! ## Pods -/

/-- What the record of a pod takes from its manifest. -/
structure IsDecodedPod (manifest : PodManifest) (object : Json) (pod : Pod) :
    Prop where
  uuid : manifest.metadata.requireUid = .ok pod.uuid
  name : manifest.metadata.requireName = .ok pod.name
  namespaceName : pod.namespaceName = manifest.metadata.inNamespace
  nodeName : pod.nodeName = manifest.spec.nodeName
  pvcs : pod.pvcs = ",".intercalate manifest.claimNames
  content : pod.content = object

theorem isDecodedPod {manifest : PodManifest} {pod : Pod}
    (isManifest : Json.asStruct PodManifest.shape object = .ok manifest)
    (decoded : recordOf .pod object = .ok (.pod pod)) :
    IsDecodedPod manifest object pod := by
  simp only [recordOf, readObject, isManifest, PodManifest.toRecord] at decoded
  cases uid : manifest.metadata.requireUid with
  | error _ => rw [uid] at decoded; cases decoded
  | ok uuid =>
  cases called : manifest.metadata.requireName with
  | error _ => rw [uid, called] at decoded; cases decoded
  | ok name =>
  cases created : manifest.metadata.requireCreation with
  | error _ => rw [uid, called, created] at decoded; cases decoded
  | ok creationTime =>
  rw [uid, called, created] at decoded
  cases decoded
  exact ⟨uid, called, rfl, rfl, rfl, rfl⟩

/-! ## Files -/

theorem eq_ok_of_toOption {outcome : Except ε α} {value : α}
    (isSome : outcome.toOption = some value) : outcome = .ok value := by
  cases outcome with
  | error fault => cases isSome
  | ok given => exact congrArg Except.ok (Option.some.inj isSome)

variable {octets : List UInt8}

theorem decode_of_objects (hasManifests : kind ≠ .gather) {objects : List Json}
    (isRead : Manifest.objects octets = .ok objects) :
    decode kind octets = objects.mapM (recordOf kind) := by
  rw [decode, if_neg hasManifests, isRead]

theorem decode_eq_ok_iff {records : List Record} :
    decode kind octets = .ok records ↔
      kind ≠ .gather ∧ ∃ objects, Manifest.objects octets = .ok objects ∧
        objects.mapM (recordOf kind) = .ok records := by
  by_cases isGather : kind = .gather
  · simp [decode, isGather]
  · cases isRead : Manifest.objects octets with
    | error fault => simp [decode, isGather, isRead]
    | ok objects =>
        rw [decode_of_objects isGather isRead]
        simp [isGather]

theorem exists_recordOf_of_decode {records : List Record}
    (decoded : decode kind octets = .ok records) {record : Record}
    (member : record ∈ records) :
    ∃ object, recordOf kind object = .ok record := by
  obtain ⟨_, _, _, each⟩ := decode_eq_ok_iff.mp decoded
  obtain ⟨object, _, isRecord⟩ := exists_item_of_mapM each member
  exact ⟨object, isRecord⟩

/-- Each record of a file is that of one of its objects. -/
theorem exists_object_of_decode {records : List Record}
    (decoded : decode kind octets = .ok records) {record : Record}
    (member : record ∈ records) :
    kind ≠ .gather ∧ ∃ objects, Manifest.objects octets = .ok objects ∧
      ∃ object ∈ objects, IsRecordOf kind object record := by
  obtain ⟨hasManifests, objects, isRead, each⟩ := decode_eq_ok_iff.mp decoded
  obtain ⟨object, isObject, isRecord⟩ := exists_item_of_mapM each member
  exact ⟨hasManifests, objects, isRead, object, isObject,
    yields_recordOf kind object record isRecord⟩

end ClusterTrace.Manifest
