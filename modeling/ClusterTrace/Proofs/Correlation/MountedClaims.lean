import ClusterTrace.Proofs.Correlation.Lookups
import ClusterTrace.Proofs.Manifest.DecodedObjects
import ClusterTrace.Proofs.Text.Words

/-!
# Mounted claims

The names of the claims that a pod mounts are stored as one text, joined by
commas.  Splitting, trimming and de-duplicating that text gives the distinct
names of the manifest, `IsDecodedPod.claimNames_eq`, so that a pod is answered
with the first row of each of them, `mountedClaims_of_decoded`.
-/

namespace ClusterTrace

/-! ## Names that are joined -/

/-- The name has no comma and neither begins nor ends with a blank. -/
structure IsPlainName (name : String) : Prop where
  noComma : ',' ∉ name.toList
  noLeading : ∀ c ∈ name.toList.head?, Text.isBlank c = false
  noTrailing : ∀ c ∈ name.toList.getLast?, Text.isBlank c = false

theorem isPlainName_iff (name : String) :
    IsPlainName name ↔ ',' ∉ name.toList ∧
      (name.toList.head?.all fun c => !Text.isBlank c) = true ∧
      (name.toList.getLast?.all fun c => !Text.isBlank c) = true := by
  simp only [Option.all_eq_true, Bool.not_eq_true']
  exact ⟨fun plain => ⟨plain.noComma, plain.noLeading, plain.noTrailing⟩,
    fun ⟨noComma, noLeading, noTrailing⟩ => ⟨noComma, noLeading, noTrailing⟩⟩

instance (name : String) : Decidable (IsPlainName name) :=
  decidable_of_iff' _ (isPlainName_iff name)

theorem IsPlainName.trim_eq {name : String} (plain : IsPlainName name) :
    String.ofList (Text.trim name.toList) = name := by
  rw [Text.trim_eq_self plain.noLeading plain.noTrailing, String.ofList_toList]

/-- The names that are joined are those that are read, but for empty ones. -/
theorem Pod.pvcNames_of_intercalate {pod : Pod} {names : List String}
    (joined : pod.pvcs = ",".intercalate names)
    (plain : ∀ name ∈ names, IsPlainName name) :
    pod.pvcNames = names.filter fun name => !name.isEmpty := by
  have noComma : ∀ text ∈ names.map String.toList, ',' ∉ text := by
    intro text member
    obtain ⟨name, isName, rfl⟩ := List.mem_map.mp member
    exact (plain name isName).noComma
  have trimmed : ∀ name ∈ names,
      ((fun text => String.ofList (Text.trim text)) ∘ String.toList) name =
        name :=
    fun name isName => (plain name isName).trim_eq
  rw [Pod.pvcNames, joined, String.toList_intercalate]
  cases names with
  | nil => decide
  | cons name rest =>
      have split : ((",".toList.intercalate
          ((name :: rest).map String.toList)).splitOn ',') =
            (name :: rest).map String.toList :=
        List.splitOn_intercalate ',' noComma (List.cons_ne_nil _ _)
      rw [split, List.map_map, List.map_congr_left trimmed, List.map_id']

/-! ## Distinct names -/

section Distinct

variable {α : Type} [BEq α] [LawfulBEq α]

theorem nodup_eraseDups (items : List α) : items.eraseDups.Nodup := by
  match items with
  | [] => rw [List.eraseDups_nil]; exact List.nodup_nil
  | item :: rest =>
      rw [List.eraseDups_cons]
      refine List.nodup_cons.mpr ⟨?_, nodup_eraseDups _⟩
      simp [List.mem_eraseDups]
termination_by items.length
decreasing_by exact Nat.lt_succ_of_le (List.length_filter_le _ rest)

/-- What is appended when it is not there yet is appended in order of first
appearance. -/
theorem foldl_appendNew (items found : List α) :
    items.foldl (fun found item =>
        if found.contains item then found else found ++ [item]) found =
      found ++ (items.filter fun item => !found.contains item).eraseDups := by
  induction items generalizing found with
  | nil => simp
  | cons item rest ih =>
      rw [List.foldl_cons, ih]
      cases known : found.contains item with
      | true => rw [if_pos rfl, List.filter_cons, known]; rfl
      | false =>
          have others : (rest.filter fun other => !found.contains other).filter
              (fun other => !other == item) =
              rest.filter fun other => !(found ++ [item]).contains other := by
            rw [List.filter_filter]
            refine List.filter_congr fun other _ => ?_
            rw [List.contains_append, Bool.not_or, Bool.and_comm,
              List.contains_cons, List.contains_nil, Bool.or_false]
          rw [if_neg Bool.false_ne_true, List.filter_cons, known,
            if_pos Bool.not_false, List.eraseDups_cons, others,
            List.append_assoc]
          rfl

end Distinct

namespace Correlation

theorem claimNames_eq (pods : List Pod) :
    claimNames pods = (pods.flatMap Pod.pvcNames).eraseDups := by
  rw [claimNames, foldl_appendNew, List.nil_append]
  exact congrArg List.eraseDups (List.filter_eq_self.mpr fun _ _ => rfl)

/-- A query for a pod answers with the claims that the lookup gives. -/
theorem map_pvcs_ofPod (database : Database) (uuid : String) :
    (ofPod database uuid).map (·.pvcs) =
      (database.podClaims uuid).map fun claims => claims.map (·.uuid) := by
  rw [ofPod, Database.podClaims]
  cases database.getPod uuid with
  | error failure => rfl
  | ok pod =>
      have answered : ∀ found : Outcome (List String),
          (found >>= fun pvcs => Except.ok
            { namespaceName := pod.namespaceName
              sourcePodUuid := pod.uuid
              sourcePod := pod.name
              startTimestamp := some (windowStart pod.creationTime)
              pvcs := pvcs : Answer }).map (·.pvcs) = found := by
        rintro (failure | pvcs) <;> rfl
      exact answered (claimUuids database [pod] pod.namespaceName)

end Correlation

/-! ## Rows of names -/

theorem Pod.restore_of_shallow {pod : Pod}
    (shallow : pod.content.depth ≤ Json.maxDepth) :
    pod.restore = .ok pod.readBack := by
  rw [restore, restoreContent_of_shallow shallow]
  rfl

theorem VolumeClaim.restore_of_shallow {claim : VolumeClaim}
    (shallow : claim.content.depth ≤ Json.maxDepth) :
    claim.restore = .ok claim.readBack := by
  rw [restore, restoreContent_of_shallow shallow]
  rfl

theorem VolumeClaim.restore_of_deep {claim : VolumeClaim}
    (deep : ¬ claim.content.depth ≤ Json.maxDepth) :
    FailsTooDeep claim.restore :=
  (restoreContent_of_deep deep).map _

namespace Database

variable {database : Database}

/-- The first rows of the claims of names in a namespace, for those names that
have one. -/
def claimRows (database : Database) (names : List String)
    (inNamespace : String) : List VolumeClaim :=
  names.filterMap fun name => database.claimRow? name inNamespace

theorem name_of_claimRow? {name inNamespace : String} {row : VolumeClaim}
    (found : database.claimRow? name inNamespace = some row) :
    row.name = name := by
  have selected := List.find?_some found
  rw [Bool.and_eq_true, decide_eq_true_iff] at selected
  exact selected.1

theorem map_name_claimRows (names : List String) (inNamespace : String) :
    (database.claimRows names inNamespace).map (·.name) =
      names.filter fun name =>
        (database.claimRow? name inNamespace).isSome := by
  induction names with
  | nil => rfl
  | cons name rest ih =>
      rw [claimRows] at ih ⊢
      cases found : database.claimRow? name inNamespace with
      | none =>
          rw [List.filterMap_cons, found, List.filter_cons, found]
          exact ih
      | some row =>
          rw [List.filterMap_cons, found, List.filter_cons, found,
            ← name_of_claimRow? found]
          exact congrArg _ ih

theorem nodup_name_claimRows {names : List String} (distinct : names.Nodup)
    (inNamespace : String) :
    ((database.claimRows names inNamespace).map (·.name)).Nodup := by
  rw [map_name_claimRows]
  exact distinct.filter _

/-- Rows that are not there are skipped, and the others are read back. -/
theorem map_mapM_restore? {α : Type} (restore : α → Outcome α)
    (rows? : List (Option α)) :
    (rows?.mapM (restore? restore)).map (fun found => found.filterMap id) =
      (rows?.filterMap id).mapM restore := by
  induction rows? with
  | nil => rfl
  | cons row? rest ih =>
      cases row? with
      | none =>
          have isRead : restore? restore none = .ok none := rfl
          have rows : (none :: rest).filterMap id = rest.filterMap id := rfl
          rw [rows, ← ih, mapM_cons_of_ok isRead]
          cases rest.mapM (restore? restore) <;> rfl
      | some row =>
          have rows : (some row :: rest).filterMap id =
              row :: rest.filterMap id := rfl
          rw [rows]
          cases restored : restore row with
          | error failure =>
              have failed : restore? restore (some row) = .error failure := by
                rw [restore?, restored]
                rfl
              rw [mapM_cons_of_error failed, mapM_cons_of_error restored]
              rfl
          | ok value =>
              have isRead : restore? restore (some row) = .ok (some value) := by
                rw [restore?, restored]
                rfl
              rw [mapM_cons_of_ok isRead, mapM_cons_of_ok restored, ← ih]
              cases rest.mapM (restore? restore) <;> rfl

theorem claimsByNames_eq (names : List String) (inNamespace : String) :
    database.claimsByNames names inNamespace =
      (database.claimRows names inNamespace).mapM VolumeClaim.restore := by
  have rows : ((names.map fun name =>
      database.claimRow? name inNamespace).filterMap id) =
        database.claimRows names inNamespace := List.filterMap_map
  rw [← rows, ← map_mapM_restore?, List.mapM_map]
  rfl

theorem find?_putRow_self {α κ : Type} [DecidableEq κ] (key : α → κ)
    (row : α) (rows : List α) :
    (putRow key row rows).find? (fun other => key other = key row) =
      some row := by
  rw [← List.head?_filter, putRow, filter_mergeRow_self rfl fun _ _ => rfl]
  split <;> rfl

theorem getPod_put_self (pod : Pod) :
    (database.put (.pod pod)).getPod pod.uuid = pod.restore := by
  rw [getPod, put, find?_putRow_self]
  rfl

end Database

/-! ## Decoded pods -/

namespace Manifest

/-- The names that volumes mount claims by, in the order of the volumes. -/
def PodManifest.mountedNames (manifest : PodManifest) : List String :=
  manifest.spec.volumes.filterMap fun volume => volume.claim.map (·.claimName)

/-- The distinct names of claims, in order of first appearance. -/
def PodManifest.distinctNames (manifest : PodManifest) : List String :=
  (manifest.mountedNames.filter fun name => name ≠ "").eraseDups

variable {object : Json} {manifest : PodManifest} {pod : Pod}

theorem IsDecodedPod.claimNames_eq
    (isDecoded : IsDecodedPod manifest object pod)
    (plain : ∀ name ∈ manifest.mountedNames, IsPlainName name) :
    Correlation.claimNames [pod] = manifest.distinctNames := by
  have plainNames : ∀ name ∈ manifest.claimNames, IsPlainName name :=
    fun name member => plain name (List.mem_of_mem_filter member)
  rw [Correlation.claimNames_eq, List.flatMap_singleton,
    Pod.pvcNames_of_intercalate isDecoded.pvcs plainNames,
    PodManifest.claimNames, List.filter_filter, PodManifest.distinctNames,
    PodManifest.mountedNames]
  refine congrArg List.eraseDups (List.filter_congr fun name _ => ?_)
  have isEmpty : name.isEmpty = decide (name = "") := by
    rw [Bool.eq_iff_iff, String.isEmpty_iff, decide_eq_true_iff]
  rw [Bool.and_self, isEmpty, decide_not]

/-- The manifests of the pod and of the rows can be read back. -/
structure AreShallow (pod : Pod) (rows : List VolumeClaim) : Prop where
  pod : pod.content.depth ≤ Json.maxDepth
  rows : ∀ row ∈ rows, row.content.depth ≤ Json.maxDepth

variable {rows : List VolumeClaim}

theorem mapM_restore_of_shallow
    (shallow : ∀ row ∈ rows, row.content.depth ≤ Json.maxDepth) :
    rows.mapM VolumeClaim.restore = .ok (rows.map VolumeClaim.readBack) :=
  mapM_eq_ok_map fun row member =>
    VolumeClaim.restore_of_shallow (shallow row member)

theorem mapM_restore_of_deep
    (deep : ¬ ∀ row ∈ rows, row.content.depth ≤ Json.maxDepth) :
    FailsTooDeep (rows.mapM VolumeClaim.restore) := by
  push Not at deep
  obtain ⟨row, member, isDeep⟩ := deep
  refine failsTooDeep_mapM (fun other _ => ?_)
    ⟨row, member, VolumeClaim.restore_of_deep (not_le.mpr isDeep)⟩
  by_cases shallow : other.content.depth ≤ Json.maxDepth
  · exact .inr ⟨_, VolumeClaim.restore_of_shallow shallow⟩
  · exact .inl (VolumeClaim.restore_of_deep shallow)

/-- Neither the names nor the namespace of a pod depend on its manifest as it is
read back. -/
theorem IsDecodedPod.podClaims_eq (isDecoded : IsDecodedPod manifest object pod)
    (plain : ∀ name ∈ manifest.mountedNames, IsPlainName name)
    (database : Database) :
    (database.put (.pod pod)).podClaims pod.uuid =
      pod.restore >>= fun _ =>
        (database.claimRows manifest.distinctNames pod.namespaceName).mapM
          VolumeClaim.restore := by
  rw [Database.podClaims, Database.getPod_put_self, Pod.restore]
  cases restoreContent pod.content with
  | error failure => rfl
  | ok content =>
      have sameNames :
          Correlation.claimNames [{ pod with content := content }] =
            manifest.distinctNames := isDecoded.claimNames_eq plain
      exact (congrArg (Database.claimsByNames _ · _) sameNames).trans
        (Database.claimsByNames_eq _ _)

theorem IsDecodedPod.podClaims_of_shallow
    (isDecoded : IsDecodedPod manifest object pod)
    (plain : ∀ name ∈ manifest.mountedNames, IsPlainName name)
    {database : Database}
    (isRows : database.claimRows manifest.distinctNames pod.namespaceName =
      rows) (shallow : AreShallow pod rows) :
    (database.put (.pod pod)).podClaims pod.uuid =
      .ok (rows.map VolumeClaim.readBack) := by
  rw [isDecoded.podClaims_eq plain, isRows,
    Pod.restore_of_shallow shallow.pod, mapM_restore_of_shallow shallow.rows]
  rfl

theorem IsDecodedPod.podClaims_of_deep
    (isDecoded : IsDecodedPod manifest object pod)
    (plain : ∀ name ∈ manifest.mountedNames, IsPlainName name)
    {database : Database}
    (isRows : database.claimRows manifest.distinctNames pod.namespaceName =
      rows) (deep : ¬ AreShallow pod rows) :
    FailsTooDeep ((database.put (.pod pod)).podClaims pod.uuid) := by
  rw [isDecoded.podClaims_eq plain, isRows]
  by_cases shallowPod : pod.content.depth ≤ Json.maxDepth
  · rw [Pod.restore_of_shallow shallowPod]
    exact mapM_restore_of_deep fun shallow => deep ⟨shallowPod, shallow⟩
  · exact (Database.restorePod_of_deep (not_le.mp shallowPod)).bind _

/-- After a decoded pod was stored, its claims are the first rows of the
distinct names that its volumes mount.  They are answered if and only if the
manifests of the pod and of these rows can be read back. -/
theorem mountedClaims_of_decoded (database : Database)
    (isManifest : Json.asStruct PodManifest.shape object = .ok manifest)
    (decoded : recordOf .pod object = .ok (.pod pod))
    (plain : ∀ name ∈ manifest.mountedNames, IsPlainName name) :
    let after := database.put (.pod pod)
    let rows := database.claimRows manifest.distinctNames pod.namespaceName
    (rows.map (·.name)).Nodup ∧
      (AreShallow pod rows →
        after.podClaims pod.uuid = .ok (rows.map VolumeClaim.readBack) ∧
        (Correlation.ofPod after pod.uuid).map (·.pvcs) =
          .ok (rows.map (·.uuid))) ∧
      (¬ AreShallow pod rows →
        FailsTooDeep (after.podClaims pod.uuid) ∧
        FailsTooDeep ((Correlation.ofPod after pod.uuid).map (·.pvcs))) := by
  intro after rows
  have isDecoded := isDecodedPod isManifest decoded
  refine ⟨Database.nodup_name_claimRows (nodup_eraseDups _) _, ?_, ?_⟩
  · intro shallow
    have claims : after.podClaims pod.uuid = _ :=
      isDecoded.podClaims_of_shallow plain rfl shallow
    rw [Correlation.map_pvcs_ofPod, claims]
    exact ⟨rfl, congrArg Except.ok (List.map_map ..)⟩
  · intro deep
    have claims : FailsTooDeep (after.podClaims pod.uuid) :=
      isDecoded.podClaims_of_deep plain rfl deep
    rw [Correlation.map_pvcs_ofPod]
    exact ⟨claims, claims.map _⟩

/-! ## A pod that mounts a claim twice -/

/-- The manifest of a pod that mounts claims, and says something else. -/
def podMounting (names : List String) (extra : Json) : Json :=
  .object
    [("metadata", .object [("uid", .string "p-1"), ("name", .string "importer"),
        ("creationTimestamp", .string "2024-03-01T08:05:00Z")]),
      ("spec", .object [("volumes", .array (names.map fun name =>
        .object [("persistentVolumeClaim",
          .object [("claimName", .string name)])]))]),
      ("x", extra)]

/-- A claim in the default namespace. -/
def claimCalled (uuid name : String) : VolumeClaim :=
  { (default : VolumeClaim) with uuid := uuid, name := name }

theorem decoded_podMounting (extra : Json) :
    ∃ manifest pod,
      Json.asStruct PodManifest.shape
        (podMounting ["data", "", "logs", "data"] extra) = .ok manifest ∧
      recordOf .pod (podMounting ["data", "", "logs", "data"] extra) =
        .ok (.pod pod) ∧
      manifest.mountedNames = ["data", "", "logs", "data"] ∧
      pod.uuid = "p-1" ∧ pod.namespaceName = "" ∧
      pod.content = podMounting ["data", "", "logs", "data"] extra :=
  ⟨_, _, rfl, rfl, rfl, rfl, rfl, rfl⟩

theorem isPlainName_of_mem :
    ∀ name ∈ ["data", "", "logs", "data"], IsPlainName name := by
  decide +kernel

/-- The claim has two rows, another one has none, and two volumes have no name
or one that was there before. -/
theorem mountedClaims_of_podMounting :
    ∃ pod, recordOf .pod (podMounting ["data", "", "logs", "data"] .null) =
        .ok (.pod pod) ∧
      let before : Database :=
        { pvcs := [claimCalled "c-1" "data", claimCalled "c-2" "data"] }
      (before.put (.pod pod)).podClaims "p-1" =
          .ok [claimCalled "c-1" "data"] ∧
        (Correlation.ofPod (before.put (.pod pod)) "p-1").map (·.pvcs) =
          .ok ["c-1"] := by
  obtain ⟨manifest, pod, isManifest, decoded, names, uuid, inNamespace,
    content⟩ := decoded_podMounting .null
  have plain : ∀ name ∈ manifest.mountedNames, IsPlainName name :=
    names ▸ isPlainName_of_mem
  have distinct : manifest.distinctNames = ["data", "logs"] := by
    rw [PodManifest.distinctNames, names]
    decide
  refine ⟨pod, decoded, ?_⟩
  intro before
  obtain ⟨-, answered, -⟩ :=
    mountedClaims_of_decoded before isManifest decoded plain
  have rows : before.claimRows manifest.distinctNames pod.namespaceName =
      [claimCalled "c-1" "data"] := by
    rw [distinct, inNamespace]
    rfl
  rw [rows, uuid] at answered
  refine answered ⟨?_, ?_⟩
  · rw [content]
    decide
  · decide

/-- A manifest that nests as deep as a document can is decoded, but neither the
claims of the pod nor those of its query are answered. -/
theorem podClaims_of_deepPod :
    (podMounting ["data", "", "logs", "data"] (.nested 127)).depth =
        Yaml.maxNesting ∧
      ∃ manifest pod,
        Json.asStruct PodManifest.shape
          (podMounting ["data", "", "logs", "data"] (.nested 127)) =
            .ok manifest ∧
        recordOf .pod
          (podMounting ["data", "", "logs", "data"] (.nested 127)) =
            .ok (.pod pod) ∧
        (∀ name ∈ manifest.mountedNames, IsPlainName name) ∧
        let before : Database := { pvcs := [claimCalled "c-1" "data"] }
        before.claimRows manifest.distinctNames pod.namespaceName =
            [claimCalled "c-1" "data"] ∧
          FailsTooDeep ((before.put (.pod pod)).podClaims pod.uuid) ∧
          FailsTooDeep ((Correlation.ofPod (before.put (.pod pod))
            pod.uuid).map (·.pvcs)) := by
  have deepest : (podMounting ["data", "", "logs", "data"]
      (.nested 127)).depth = Yaml.maxNesting := by
    decide +kernel
  refine ⟨deepest, ?_⟩
  obtain ⟨manifest, pod, isManifest, decoded, names, -, inNamespace,
    content⟩ := decoded_podMounting (.nested 127)
  have plain : ∀ name ∈ manifest.mountedNames, IsPlainName name :=
    names ▸ isPlainName_of_mem
  refine ⟨manifest, pod, isManifest, decoded, plain, ?_⟩
  intro before
  have rows : before.claimRows manifest.distinctNames pod.namespaceName =
      [claimCalled "c-1" "data"] := by
    rw [PodManifest.distinctNames, names, inNamespace]
    rfl
  have deep : ¬ AreShallow pod [claimCalled "c-1" "data"] := by
    intro shallow
    have within := shallow.pod
    rw [content, deepest] at within
    exact absurd within (by decide)
  have claims :=
    (isDecodedPod isManifest decoded).podClaims_of_deep plain rows deep
  refine ⟨rows, claims, ?_⟩
  rw [Correlation.map_pvcs_ofPod]
  exact claims.map _

end Manifest
end ClusterTrace
