import ClusterTrace.Proofs.Ingest.ArchiveTime
import ClusterTrace.Proofs.Ingest.EnrichmentFiles

/-!
# Enrichment tables from one ingestion to the next

An ingestion that succeeds finds the enrichment table that was in the file
before it, and leaves there the table with the entries of the pods that it hands
over, `holds_of_ingest`.  The way of the file must avoid the staging directory,
which is emptied before the table is loaded.
-/

namespace ClusterTrace

namespace Disk

variable {disk after : Disk} {path directory : String}

/-- A path leads to a place outside of a directory, and on the way there to no
place within it.  It may lead through the directory itself. -/
structure Avoids (disk : Disk) (path directory : String) : Prop where
  place : ¬ disk.place directory <+: disk.place path
  way : ∀ route ∈ disk.way path, disk.place directory <+: route →
    route = disk.place directory

theorem Avoids.congr (avoids : disk.Avoids path directory)
    (same : after.workingDirectory = disk.workingDirectory) :
    after.Avoids path directory := by
  have sameWay : after.way path = disk.way path := by
    rw [Disk.way, Disk.way, start, start, same]
  constructor
  · rw [place_congr same, place_congr same]
    exact avoids.place
  · rw [sameWay, place_congr same]
    exact avoids.way

theorem read_of_locate {route : Route} {content : Bytes}
    (located : disk.locate path = .ok route)
    (isFile : disk.tree.fileAt? route = some content) :
    disk.read path = .ok content := by
  rw [FileTree.fileAt?_eq_some_iff] at isFile
  rw [read, located]
  change disk.tree.read route = .ok content
  rw [FileTree.read, isFile]

theorem exists_locate_of_read {content : Bytes}
    (isRead : disk.read path = .ok content) :
    disk.locate path = .ok (disk.place path) := by
  cases located : disk.locate path with
  | error fault =>
      rw [read, located] at isRead
      cases isRead
  | ok route => rw [place_of_locate located]

theorem not_directory_of_write {content : Bytes}
    (written : disk.write path content = .ok after) :
    disk.tree.at? (disk.place path) ≠ some .directory := by
  obtain ⟨located, _⟩ := write_eq_ok written
  rw [write, located] at written
  cases isWritten : disk.tree.write (disk.place path) content with
  | error fault => simp [bind, Except.bind, isWritten] at written
  | ok tree => exact (FileTree.write_eq_ok isWritten).2.1

/-- A file that was written is read. -/
theorem read_of_write {content : Bytes}
    (written : disk.write path content = .ok after) :
    after.read path = .ok content := by
  obtain ⟨located, isAfter⟩ := write_eq_ok written
  have notDirectory := not_directory_of_write written
  have named : disk.place path ≠ [] := by
    intro atRoot
    exact notDirectory (by rw [atRoot]; rfl)
  -- The directories on the way are those from before: what was written is no
  -- directory.
  have stillLocated : after.locate path = .ok (disk.place path) := by
    refine locate_of_keptOnWay (fun other _ isDirectory => ?_) ?_ located
    · have elsewhere : other ≠ disk.place path := by
        rintro rfl
        exact notDirectory isDirectory
      rw [isAfter, FileTree.at?_put_of_ne elsewhere, isDirectory]
    · rw [isAfter]
  apply read_of_locate stillLocated
  rw [isAfter, FileTree.fileAt?, FileTree.at?_put_self named]

end Disk

namespace Ingest

open Disk (KeepsOutside)

variable {disk emptied extracted disk' : Disk} {staging archive : String}
  {route : Route}

/-! ## Places outside of the staging directory -/

theorem at?_of_resetStaging
    (reset : resetStaging staging disk = (.ok (), emptied))
    (outside : ¬ disk.place staging <+: route) {entry : FileEntry}
    (there : disk.tree.at? route = some entry) :
    emptied.tree.at? route = some entry := by
  rw [resetStaging] at reset
  split at reset
  · cases reset
  · rename_i removal removed
    have makes := Disk.makesWay_makeDirectories removal staging
    split at reset
    · cases reset
    · rename_i made
      rw [made] at makes
      cases reset
      apply makes.kept
      rw [Disk.removeDirectory] at removed
      split at removed
      · cases removed
        exact there
      · cases removed
      · rename_i root located
        rw [FileTree.removeDirectory] at removed
        split at removed
        · cases removed
          exact there
        · cases removed
        · cases removed
          rw [Disk.place_of_locate located]
          rw [FileTree.at?_remove_of_not_prefix outside]
          exact there

/-- An extraction adds to what is there, below a directory. -/
theorem at?_of_extract {target : String} {extraction : Extraction}
    (named : target ≠ "")
    (extracts : extract archive target emptied = (.ok extraction, extracted)) :
    (∀ route entry, emptied.tree.at? route = some entry →
      extracted.tree.at? route = some entry) ∧
      extracted.tree.at? (emptied.place target) = some .directory := by
  obtain ⟨root, made, octets, makes, isDirectory, _, ran⟩ :=
    extractMembers_of_extract named extracts
  have makesWay := Disk.makesWay_makeDirectories emptied target
  have grows := growsBelow_extractMembers isDirectory ran
  rw [makes] at makesWay
  rw [← Disk.place_of_makeDirectories makes]
  exact ⟨fun route entry there =>
    grows.kept route entry (makesWay.kept route entry there),
    grows.kept root _ isDirectory⟩

/-! ## The table in a file -/

/-- What the file at a path says is known of pods: nothing, if there is none. -/
inductive Holds (disk : Disk) (path : String) : EnrichmentTable → Prop where
  | missing : disk.tree.fileAt? (disk.place path) = none → Holds disk path []
  | readable {octets : Bytes} {table : EnrichmentTable} :
      disk.read path = .ok octets →
        EnrichmentTable.read? octets = some table → Holds disk path table

variable {path : String} {table loaded : EnrichmentTable}

theorem Holds.isSorted (holds : Holds disk path table) :
    Assoc.IsSorted table := by
  cases holds with
  | missing _ => exact List.Pairwise.nil
  | readable _ isTable => exact EnrichmentTable.isSorted_of_read? isTable

theorem Holds.eq_of_loadEnrichment (holds : Holds disk path table)
    (isLoaded : loadEnrichment path disk = .ok loaded) : loaded = table := by
  rw [loadEnrichment] at isLoaded
  cases holds with
  | missing noFile =>
      split at isLoaded
      · rename_i octets isRead
        rw [Disk.fileAt?_of_read isRead] at noFile
        cases noFile
      · cases isLoaded
        rfl
      · cases isLoaded
  | readable isRead isTable =>
      rw [isRead] at isLoaded
      cases isLoaded
      rw [EnrichmentTable.read, isTable, Option.getD_some]

theorem read_of_saveEnrichment
    (saved : saveEnrichment table path disk = (.ok (), disk')) :
    disk'.read path = .ok (EnrichmentTable.write table) ∧
      disk'.workingDirectory = disk.workingDirectory := by
  have makes := Disk.makesWay_makeDirectories disk
    ((Path.parent? path).getD "")
  rw [saveEnrichment] at saved
  split at saved
  · cases saved
  · rename_i root made isMade
    rw [isMade] at makes
    split at saved
    · cases saved
    · rename_i written isWritten
      cases saved
      obtain ⟨_, isAfter⟩ := Disk.write_eq_ok isWritten
      refine ⟨Disk.read_of_write isWritten, ?_⟩
      rw [isAfter]
      exact makes.workingDirectory

/-- A table that was kept in a file is loaded from it. -/
theorem loadEnrichment_of_saveEnrichment (isSorted : Assoc.IsSorted table)
    (saved : saveEnrichment table path disk = (.ok (), disk')) :
    loadEnrichment path disk' = .ok table := by
  rw [loadEnrichment, (read_of_saveEnrichment saved).1]
  dsimp only
  rw [EnrichmentTable.read, EnrichmentTable.read?_write_of_isSorted isSorted,
    Option.getD_some]

/-! ## Ingestions -/

/-- The file keeps what it says while an archive is extracted. -/
theorem Holds.of_extract {extraction : Extraction} (named : staging ≠ "")
    (avoids : disk.Avoids path staging) (holds : Holds disk path table)
    (reset : resetStaging staging disk = (.ok (), emptied))
    (extracts : extract archive staging emptied =
      (.ok extraction, extracted)) :
    Holds extracted path table ∧
      extracted.workingDirectory = disk.workingDirectory := by
  have empties := keepsOutside_resetStaging staging disk
  rw [reset] at empties
  have samePlace := empties.place staging
  have adds := keepsOutside_extract named extracts (by rintro _ ⟨⟩)
  rw [samePlace] at adds
  have keeps := empties.trans adds
  obtain ⟨kept, isDirectory⟩ := at?_of_extract named extracts
  rw [samePlace] at isDirectory
  refine ⟨?_, keeps.workingDirectory⟩
  have sameFile := keeps.files _ avoids.place
  cases holds with
  | missing noFile => exact .missing (by rw [keeps.place, sameFile, noFile])
  | readable isRead isTable =>
      have located := Disk.exists_locate_of_read isRead
      have stillLocated : extracted.locate path = .ok (disk.place path) := by
        refine Disk.locate_of_keptOnWay (fun other onTheWay there => ?_)
          keeps.workingDirectory located
        -- The way may lead through the staging directory itself, which is made
        -- again before anything is extracted.
        by_cases inside : disk.place staging <+: other
        · rw [avoids.way other onTheWay inside, isDirectory]
        · exact kept _ _ (at?_of_resetStaging reset inside there)
      have isFile := Disk.fileAt?_of_read isRead
      rw [← sameFile] at isFile
      exact .readable (Disk.read_of_locate stillLocated isFile) isTable

theorem enrich_append (table : EnrichmentTable) (records later : List Record) :
    enrich table (records ++ later) = enrich (enrich table records) later :=
  List.foldl_append

theorem isSorted_enrich (isSorted : Assoc.IsSorted table)
    (records : List Record) : Assoc.IsSorted (enrich table records) := by
  induction records generalizing table with
  | nil => exact isSorted
  | cons record records induction =>
      rw [enrich, List.foldl_cons]
      cases record with
      | pod pod =>
          exact induction (EnrichmentTable.isSorted_insertPod isSorted pod)
      | _ => exact induction isSorted

/-- The entries are those of the pods in the manifests that can be read. -/
theorem table_foldl_readManifest (progress : Progress)
    (files : List ManifestFile) :
    (files.foldl readManifest progress).table =
      enrich progress.table (recordsOf files) := by
  induction files generalizing progress with
  | nil => rfl
  | cons file files induction =>
      rw [List.foldl_cons, induction, recordsOf_cons, enrich_append]
      cases result : file.records with
      | ok records => rw [readManifest, result, decoded_of_ok result]
      | error failure =>
          rw [readManifest, result, decoded_of_error result]
          rfl

variable {ingester : Ingester} {store store' : Store} {report : Report}

theorem loadEnrichment_of_inspect {extraction : Extraction}
    {prepared : Prepared}
    (inspected : ingester.inspect extraction disk = .ok prepared) :
    loadEnrichment ingester.enrichment disk = .ok prepared.table := by
  rw [Ingester.inspect] at inspected
  cases gathered : readGatherTime ingester.staging disk with
  | error failure =>
      rw [gathered] at inspected
      cases inspected
  | ok gatherTime =>
      cases isLoaded : loadEnrichment ingester.enrichment disk with
      | error failure =>
          rw [gathered, isLoaded] at inspected
          cases inspected
      | ok table =>
          rw [gathered, isLoaded] at inspected
          cases inspected
          rfl

/-- An ingestion that succeeds loads a table once the archive is extracted, adds
the entries of the pods that it hands over, and keeps the result. -/
theorem exists_loadEnrichment_of_ingest
    (ingested : ingester.ingest archive disk store =
      (.ok report, disk', store')) :
    ∃ emptied extraction extracted loaded,
      ingester.staging ≠ "" ∧
        resetStaging ingester.staging disk = (.ok (), emptied) ∧
        extract archive ingester.staging emptied = (.ok extraction, extracted) ∧
        loadEnrichment ingester.enrichment extracted = .ok loaded ∧
        saveEnrichment (enrich loaded (ingester.handed archive disk))
          ingester.enrichment extracted = (.ok (), disk') := by
  rw [ingest_eq] at ingested
  rcases result : ingester.prepare archive disk with ⟨_ | prepared, extracted⟩
  · rw [result] at ingested
    cases ingested
  · have isHanded : ingester.handed archive disk =
        recordsOf (ingester.manifests extracted) := by
      rw [Ingester.handed, result]
    have isTable : (ingester.read prepared extracted store).table =
        enrich prepared.table (ingester.handed archive disk) := by
      rw [isHanded]
      exact table_foldl_readManifest _ _
    rw [result] at ingested
    dsimp only [Ingester.complete] at ingested
    rw [isTable] at ingested
    rw [Ingester.prepare] at result
    split at result
    · cases result
    rename_i outside
    have named := ne_empty_of_not_liesWithin outside
    split at result
    · cases result
    rename_i emptied reset
    split at result
    · cases result
    rename_i extraction between extracts
    rw [Prod.mk.injEq] at result
    obtain ⟨inspected, rfl⟩ := result
    refine ⟨emptied, extraction, between, prepared.table, named, reset,
      extracts, loadEnrichment_of_inspect inspected, ?_⟩
    rcases saved : saveEnrichment
        (enrich prepared.table (ingester.handed archive disk))
        ingester.enrichment between with ⟨_ | _, after⟩
    · rw [saved] at ingested
      cases ingested
    · rw [saved] at ingested
      cases ingested
      rfl

/-- An ingestion that succeeds adds the entries of the pods that it hands over
to the table in the file. -/
theorem holds_of_ingest
    (avoids : disk.Avoids ingester.enrichment ingester.staging)
    (holds : Holds disk ingester.enrichment table)
    (ingested : ingester.ingest archive disk store =
      (.ok report, disk', store')) :
    Holds disk' ingester.enrichment
        (enrich table (ingester.handed archive disk)) ∧
      disk'.workingDirectory = disk.workingDirectory := by
  obtain ⟨emptied, extraction, extracted, loaded, named, reset, extracts,
    isLoaded, saved⟩ := exists_loadEnrichment_of_ingest ingested
  obtain ⟨stillHolds, sameStart⟩ :=
    holds.of_extract named avoids reset extracts
  rw [stillHolds.eq_of_loadEnrichment isLoaded] at saved
  obtain ⟨isRead, sameStartAgain⟩ := read_of_saveEnrichment saved
  have isSorted := isSorted_enrich holds.isSorted (ingester.handed archive disk)
  exact ⟨.readable isRead (EnrichmentTable.read?_write_of_isSorted isSorted),
    sameStartAgain.trans sameStart⟩

end Ingest
end ClusterTrace
