import ClusterTrace.Proofs.Ingest.ReadManifests
import ClusterTrace.Proofs.Manifest.DecodedObjects

/-!
# Kinds of decoded records

The records of a manifest are of the kind that is asked for, and none of them is
an entry of an archive that was imported, `kind_of_decode`.
-/

namespace ClusterTrace

namespace Manifest

/-- The records of a manifest are of its kind, which is not that of the imported
archives. -/
theorem kind_of_decode {kind : Kind} {octets : List UInt8}
    {records : List Record} (decoded : decode kind octets = .ok records)
    {record : Record} (member : record ∈ records) :
    record.key.kind = kind ∧ kind ≠ .gather := by
  obtain ⟨hasManifests, _, _, _, _, isRecord⟩ :=
    exists_object_of_decode decoded member
  exact ⟨isRecord.kind, hasManifests⟩

end Manifest

namespace Ingest

variable {files : List ManifestFile} {record : Record}

theorem exists_decode_of_mem_recordsOf (member : record ∈ recordsOf files) :
    ∃ file ∈ files, ∃ records,
      Manifest.decode file.kind file.content = .ok records ∧
        record ∈ records := by
  obtain ⟨file, isFile, isDecoded⟩ := List.mem_flatMap.mp member
  rw [ManifestFile.decoded, ManifestFile.records] at isDecoded
  cases decoded : Manifest.decode file.kind file.content with
  | error fault =>
      rw [decoded] at isDecoded
      cases isDecoded
  | ok records =>
      rw [decoded] at isDecoded
      exact ⟨file, isFile, records, decoded, isDecoded⟩

theorem kind_ne_gather_of_mem_recordsOf (member : record ∈ recordsOf files) :
    record.key.kind ≠ .gather := by
  obtain ⟨file, _, records, decoded, isDecoded⟩ :=
    exists_decode_of_mem_recordsOf member
  obtain ⟨isKind, notGather⟩ := Manifest.kind_of_decode decoded isDecoded
  rw [isKind]
  exact notGather

end Ingest
end ClusterTrace
