import ClusterTrace.Ingest.Enrichment
import ClusterTrace.Proofs.Json.PrintedValues
import ClusterTrace.Proofs.ListReading
import ClusterTrace.Proofs.Storage.SortedAssoc
import ClusterTrace.Proofs.Text.EncodedText

/-!
# Enrichment files

An enrichment table is read back from the octets of its file, whatever its keys
and entries are, `EnrichmentTable.read?_write`.
-/

namespace ClusterTrace.Ingest

open Shape (Field Struct)
open Json (asList asMap asStruct asText)

/-! ## Entries -/

namespace EnrichmentEntry

/-- What is left out of an entry is what it is read to be without it. -/
theorem asStruct_toJson (entry : EnrichmentEntry) :
    asStruct shape entry.toJson = .ok entry := by
  obtain ⟨hostName, hostIp, uid, owners⟩ := entry
  cases owners with
  | nil => rfl
  | cons owner owners =>
      have isRead : asList asText
          (.array ((owner :: owners).map .string)) = .ok (owner :: owners) :=
        mapM_map_eq_ok fun _ _ => rfl
      rw [toJson]
      generalize Json.array ((owner :: owners).map .string) = written at isRead
      simp [asStruct, Struct.ofMembers, Struct.readMembers, Struct.field?,
        Struct.missing?, shape, Manifest.view, Field.optional, Field.required,
        asText, isRead, Except.map]

theorem itemsHave_map_string (texts : List String) :
    Json.hasNumber.itemsHave (texts.map .string) = false := by
  induction texts with
  | nil => rfl
  | cons text texts induction => exact induction

theorem itemsDepth_map_string (texts : List String) :
    Json.depth.itemsDepth (texts.map .string) = 0 := by
  induction texts with
  | nil => rfl
  | cons text texts induction =>
      rw [List.map_cons, Json.depth.itemsDepth, induction]
      rfl

theorem hasNumber_toJson (entry : EnrichmentEntry) :
    entry.toJson.hasNumber = false := by
  obtain ⟨hostName, hostIp, uid, owners⟩ := entry
  cases owners with
  | nil => rfl
  | cons owner owners =>
      exact Bool.or_eq_false_iff.mpr
        ⟨itemsHave_map_string (owner :: owners), rfl⟩

theorem depth_toJson_le (entry : EnrichmentEntry) : entry.toJson.depth ≤ 2 := by
  obtain ⟨hostName, hostIp, uid, owners⟩ := entry
  cases owners with
  | nil => exact Nat.le_succ 1
  | cons owner owners =>
      have flat : (Json.array ((owner :: owners).map .string)).depth = 1 :=
        congrArg (· + 1) (itemsDepth_map_string (owner :: owners))
      have depth : (EnrichmentEntry.toJson ⟨hostName, hostIp, uid,
          owner :: owners⟩).depth =
            max 0 (max 0 (max 0 (max
              (Json.array ((owner :: owners).map .string)).depth 0))) + 1 := rfl
      rw [depth, flat]
      decide

end EnrichmentEntry

/-! ## Tables -/

namespace EnrichmentTable

theorem hasNumber_toJson (table : EnrichmentTable) :
    (toJson table).hasNumber = false := by
  rw [toJson, Json.hasNumber]
  induction table with
  | nil => rfl
  | cons pair table induction =>
      rw [List.map_cons, Json.hasNumber.membersHave, induction,
        pair.2.hasNumber_toJson]
      rfl

theorem depth_toJson_le (table : EnrichmentTable) :
    (toJson table).depth ≤ 3 := by
  rw [toJson, Json.depth]
  apply Nat.succ_le_succ
  induction table with
  | nil => exact Nat.zero_le 2
  | cons pair table induction =>
      rw [List.map_cons, Json.depth.membersDepth]
      exact Nat.max_le.mpr ⟨pair.2.depth_toJson_le, induction⟩

/-- A table is read back from its file, in the order of its keys. -/
theorem read?_write (table : EnrichmentTable) :
    read? (write table) = some (Assoc.sorted table) := by
  have parsed := Json.parseAsWritten_compact table.hasNumber_toJson
    (Nat.le_trans table.depth_toJson_le (by decide))
  have isRead : asMap (asStruct EnrichmentEntry.shape) (toJson table) =
      .ok table :=
    mapM_map_eq_ok fun pair _ =>
      congrArg (Except.map (pair.1, ·)) pair.2.asStruct_toJson
  rw [read?, write, Text.Utf8.decode?_encode]
  simp only [bind, Option.bind, parsed, isRead, Except.toOption, pure]

theorem read?_write_of_isSorted {table : EnrichmentTable}
    (isSorted : Assoc.IsSorted table) : read? (write table) = some table := by
  rw [read?_write, isSorted.sorted_eq]

theorem isSorted_of_read? {octets : List UInt8} {table : EnrichmentTable}
    (isRead : read? octets = some table) : Assoc.IsSorted table := by
  simp only [read?, bind, Option.bind_eq_some_iff, pure, Option.some.injEq]
    at isRead
  obtain ⟨_, _, _, _, entries, _, rfl⟩ := isRead
  exact Assoc.isSorted_sorted entries

theorem isSorted_insertPod {table : EnrichmentTable}
    (isSorted : Assoc.IsSorted table) (pod : Pod) :
    Assoc.IsSorted (table.insertPod pod) :=
  isSorted.insert _ _

end EnrichmentTable
end ClusterTrace.Ingest
