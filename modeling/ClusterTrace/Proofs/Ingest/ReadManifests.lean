import ClusterTrace.Ingest.Import
import ClusterTrace.Proofs.Storage.AssocSums
import Mathlib.Data.List.Induction

/-!
# Reading manifests one by one

A manifest gives all of its records or none.  Whatever the files before and
after it are, it adds its records to the store and to the counts of its kind, or
one line to the skipped files.
-/

namespace ClusterTrace

theorem Store.addAll_append (store : Store) (records later : List Record) :
    (store.addAll (records ++ later)).2 =
      ((store.addAll records).2.addAll later).2 := by
  induction records generalizing store with
  | nil => rfl
  | cons record records induction => exact induction (store.add record).2

namespace Ingest

/-! ## Files -/

/-- The records of a manifest, none if it cannot be decoded. -/
def ManifestFile.decoded (file : ManifestFile) : List Record :=
  match file.records with
  | .ok records => records
  | .error _ => []

/-- What is reported of a manifest that cannot be decoded. -/
def ManifestFile.skipped? (file : ManifestFile) : Option SkippedFile :=
  match file.records with
  | .ok _ => none
  | .error failure => some ⟨file.path, failure⟩

/-- The records of manifests, file by file. -/
def recordsOf (files : List ManifestFile) : List Record :=
  files.flatMap ManifestFile.decoded

/-- The manifests that cannot be decoded. -/
def skippedOf (files : List ManifestFile) : List SkippedFile :=
  files.filterMap ManifestFile.skipped?

/-- How many records come from the manifests of a kind. -/
def countOf (kind : Kind) (files : List ManifestFile) : Nat :=
  (recordsOf (files.filter fun file => file.kind = kind)).length

section

variable {file : ManifestFile} {records : List Record} {failure : Failure}

theorem decoded_of_ok (decodes : file.records = .ok records) :
    file.decoded = records := by
  rw [ManifestFile.decoded, decodes]

theorem decoded_of_error (fails : file.records = .error failure) :
    file.decoded = [] := by
  rw [ManifestFile.decoded, fails]

theorem skipped?_of_ok (decodes : file.records = .ok records) :
    file.skipped? = none := by
  rw [ManifestFile.skipped?, decodes]

theorem skipped?_of_error (fails : file.records = .error failure) :
    file.skipped? = some ⟨file.path, failure⟩ := by
  rw [ManifestFile.skipped?, fails]

end

theorem recordsOf_append (files later : List ManifestFile) :
    recordsOf (files ++ later) = recordsOf files ++ recordsOf later :=
  List.flatMap_append

theorem recordsOf_cons (file : ManifestFile) (later : List ManifestFile) :
    recordsOf (file :: later) = file.decoded ++ recordsOf later :=
  List.flatMap_cons

theorem recordsOf_concat (files : List ManifestFile) (file : ManifestFile) :
    recordsOf (files ++ [file]) = recordsOf files ++ file.decoded := by
  rw [recordsOf_append, recordsOf_cons]
  exact congrArg (recordsOf files ++ ·) (List.append_nil file.decoded)

theorem skippedOf_append (files later : List ManifestFile) :
    skippedOf (files ++ later) = skippedOf files ++ skippedOf later :=
  List.filterMap_append

theorem skippedOf_cons (file : ManifestFile) (later : List ManifestFile) :
    skippedOf (file :: later) = file.skipped?.toList ++ skippedOf later := by
  cases result : file.skipped? <;> simp [skippedOf, result]

theorem skippedOf_concat (files : List ManifestFile) (file : ManifestFile) :
    skippedOf (files ++ [file]) = skippedOf files ++ file.skipped?.toList := by
  rw [skippedOf_append, skippedOf_cons]
  exact congrArg (skippedOf files ++ ·) (List.append_nil file.skipped?.toList)

theorem countOf_append (kind : Kind) (files later : List ManifestFile) :
    countOf kind (files ++ later) =
      countOf kind files + countOf kind later := by
  rw [countOf, List.filter_append, recordsOf_append, List.length_append,
    countOf, countOf]

theorem countOf_cons (kind : Kind) (file : ManifestFile)
    (later : List ManifestFile) :
    countOf kind (file :: later) =
      (if file.kind = kind then file.decoded.length else 0) +
        countOf kind later := by
  by_cases same : file.kind = kind <;> simp [countOf, recordsOf_cons, same]

theorem countOf_concat (kind : Kind) (files : List ManifestFile)
    (file : ManifestFile) :
    countOf kind (files ++ [file]) = countOf kind files +
      if file.kind = kind then file.decoded.length else 0 := by
  rw [countOf_append, countOf_cons]
  rfl

/-- The report of manifests that were read. -/
structure Reports (files : List ManifestFile) (report : Report) : Prop where
  skipped : report.skipped = skippedOf files
  imported : report.imported = (recordsOf files).length
  perKind : ∀ kind, report.perKind.get? kind =
    if countOf kind files = 0 then none else some (countOf kind files)
  total : report.imported = (report.perKind.map (·.2)).sum

/-- What reading manifests has done since the start. -/
structure HasRead (start : Progress) (files : List ManifestFile)
    (progress : Progress) : Prop where
  store : progress.store = (start.store.addAll (recordsOf files)).2
  gatherTime : progress.report.gatherTime = start.report.gatherTime
  extraction : progress.report.extraction = start.report.extraction
  reports : Reports files progress.report

variable {files : List ManifestFile} {start progress : Progress}
  {report : Report}

/-! ## Reading -/

theorem Report.count_keeps (report : Report) (kind : Kind) (records : Nat) :
    (report.count kind records).gatherTime = report.gatherTime ∧
      (report.count kind records).extraction = report.extraction := by
  rw [Report.count]
  split <;> exact ⟨rfl, rfl⟩

theorem Reports.getD_perKind (reports : Reports files report) (kind : Kind) :
    (report.perKind.get? kind).getD 0 = countOf kind files := by
  rw [reports.perKind]
  split
  · rename_i none
    rw [none]
    rfl
  · rfl

theorem Reports.count (reports : Reports files report) {file : ManifestFile}
    {records : List Record} (decodes : file.records = .ok records) :
    Reports (files ++ [file]) (report.count file.kind records.length) := by
  have isDecoded := decoded_of_ok decodes
  have notSkipped : skippedOf (files ++ [file]) = skippedOf files := by
    rw [skippedOf_concat, skipped?_of_ok decodes]
    exact List.append_nil _
  have counts := fun kind => countOf_concat kind files file
  have total := recordsOf_concat files file
  rw [isDecoded] at total
  simp only [isDecoded] at counts
  rw [Report.count]
  split
  · rename_i noRecords
    constructor
    · rw [notSkipped, reports.skipped]
    · rw [total, List.length_append, noRecords, reports.imported, Nat.add_zero]
    · intro kind
      rw [counts, noRecords, ite_self, Nat.add_zero, reports.perKind]
    · exact reports.total
  · rename_i someRecords
    have old := reports.getD_perKind file.kind
    constructor
    · rw [notSkipped, ← reports.skipped]
    · rw [total, List.length_append, ← reports.imported]
    · intro kind
      dsimp only
      rw [counts, old]
      by_cases same : kind = file.kind
      · subst same
        rw [Assoc.get?_put_self, if_pos rfl, if_neg (by omega)]
      · rw [Assoc.get?_put_of_ne same, if_neg (Ne.symm same), Nat.add_zero,
          reports.perKind]
    · have sum := report.perKind.sum_put file.kind
        ((report.perKind.get? file.kind).getD 0 + records.length)
      have before := reports.total
      dsimp only
      omega

theorem Reports.skip (reports : Reports files report) {file : ManifestFile}
    {failure : Failure} (fails : file.records = .error failure) :
    Reports (files ++ [file])
      { report with skipped := report.skipped ++ [⟨file.path, failure⟩] } := by
  have nothing := decoded_of_error fails
  constructor
  · rw [skippedOf_concat, skipped?_of_error fails, reports.skipped]
    rfl
  · rw [recordsOf_concat, nothing, List.append_nil]
    exact reports.imported
  · intro kind
    rw [countOf_concat, nothing, List.length_nil, ite_self, Nat.add_zero]
    exact reports.perKind kind
  · exact reports.total

theorem HasRead.readManifest (hasRead : HasRead start files progress)
    (file : ManifestFile) :
    HasRead start (files ++ [file]) (readManifest progress file) := by
  rw [Ingest.readManifest]
  cases result : file.records with
  | ok records =>
      constructor
      · rw [recordsOf_concat, decoded_of_ok result, Store.addAll_append,
          ← hasRead.store]
      · rw [← hasRead.gatherTime]
        exact (progress.report.count_keeps file.kind records.length).1
      · rw [← hasRead.extraction]
        exact (progress.report.count_keeps file.kind records.length).2
      · exact hasRead.reports.count result
  | error failure =>
      constructor
      · rw [recordsOf_concat, decoded_of_error result, List.append_nil]
        exact hasRead.store
      · exact hasRead.gatherTime
      · exact hasRead.extraction
      · exact hasRead.reports.skip result

/-- Reading manifests hands over the records of those that can be decoded, in
order, and reports the others, in order. -/
theorem hasRead_foldl (unread : Reports [] start.report)
    (files : List ManifestFile) :
    HasRead start files (files.foldl readManifest start) := by
  induction files using List.reverseRecOn with
  | nil => exact ⟨rfl, rfl, rfl, unread⟩
  | append_singleton files file induction =>
      rw [List.foldl_append, List.foldl_cons, List.foldl_nil]
      exact induction.readManifest file

end Ingest
end ClusterTrace
