import ClusterTrace.Database.Lookup
import ClusterTrace.Ingest.Enrichment
import ClusterTrace.Ingest.Extraction
import ClusterTrace.Ingest.GatherTime
import ClusterTrace.Ingest.Layout
import ClusterTrace.Storage.Store

/-!
# Importing archives

An archive is extracted into a staging directory, and the records of the
manifests found there are handed to the store.  A manifest that cannot be
decoded is reported and skipped.  An import notes the archive's file name in the
database, so that it is imported once.
-/

namespace ClusterTrace.Ingest

open Time (Instant)

/-- Where archives are extracted, and where enrichment data is kept. -/
structure Ingester where
  staging : String
  enrichment : String
deriving Repr

/-- A manifest that was skipped. -/
structure SkippedFile where
  path : String
  failure : Failure
deriving Repr

def SkippedFile.message (file : SkippedFile) : String :=
  file.path ++ ": " ++ file.failure.message

/-- What came of an archive. -/
structure Report where
  gatherTime : Instant
  extraction : Extraction
  /-- How many records were handed to the store. -/
  imported : Nat := 0
  /-- How many of each kind. -/
  perKind : Assoc Kind Nat := []
  skipped : List SkippedFile := []
deriving Repr

def Report.count (report : Report) (kind : Kind) (records : Nat) : Report :=
  if records = 0 then report
  else
    { report with
      imported := report.imported + records
      perKind :=
        report.perKind.put kind ((report.perKind.get? kind).getD 0 + records) }

/-! ## Manifests -/

/-- A manifest file, with the kind that its layout says it is of. -/
structure ManifestFile where
  kind : Kind
  path : String
  content : Bytes
deriving Repr

def contentAt (tree : FileTree) (route : Route) : Bytes :=
  match tree.at? route with
  | some (.file content) => content
  | _ => []

/-- The manifests of all layouts in a staging directory, in the order in which
they are read. -/
def manifestFiles (tree : FileTree) (root : Route) (staging : String) :
    List ManifestFile :=
  layouts.flatMap fun layout =>
    (layout.find tree root).map fun names =>
      ⟨layout.kind, Path.joinNames staging names,
        contentAt tree (root ++ names)⟩

def ManifestFile.records (file : ManifestFile) : Outcome (List Record) :=
  (Manifest.decode file.kind file.content).mapError
    (Failure.ofManifest file.path)

/-- The table with the entries of the pods among records. -/
def enrich (table : EnrichmentTable) (records : List Record) :
    EnrichmentTable :=
  records.foldl (fun table record =>
    match record with
    | .pod pod => table.insertPod pod
    | _ => table) table

/-- What reading manifests changes. -/
structure Progress where
  report : Report
  table : EnrichmentTable
  store : Store

def readManifest (progress : Progress) (file : ManifestFile) : Progress :=
  match file.records with
  | .ok records =>
      { report := progress.report.count file.kind records.length
        table := enrich progress.table records
        store := (progress.store.addAll records).2 }
  | .error failure =>
      { progress with
        report :=
          { progress.report with
            skipped := progress.report.skipped ++ [⟨file.path, failure⟩] } }

/-! ## Archives -/

/-- An archive at a path lies in a directory, by its components or by where
these lead. -/
def liesWithin (disk : Disk) (path directory : String) : Bool :=
  Path.isWithin path directory ||
    match disk.canonical? path, disk.canonical? directory with
    | some route, some root => root.isPrefixOf route
    | _, _ => false

/-- Empties the staging directory. -/
def resetStaging (staging : String) (disk : Disk) : Outcome Unit × Disk :=
  match disk.removeDirectory staging with
  | .error fault => (.error (.io fault), disk)
  | .ok disk =>
      match disk.makeDirectories staging with
      | (.error fault, disk) => (.error (.io fault), disk)
      | (.ok _, disk) => (.ok (), disk)

/-- The gather time that the staging directory holds. -/
def readGatherTime (staging : String) (disk : Disk) : Outcome Instant :=
  let path := Path.join staging timestampName
  match disk.read path with
  | .error .notFound => .error (.timestampMissing path)
  | .error fault => .error (.io fault)
  | .ok octets =>
      match Text.Utf8.decode? octets with
      | none => .error (.io .notText)
      | some text => (parseGatherTime text).mapError .invalidTimestamp

/-- The enrichment table that is kept in a file; an empty one where there is no
file. -/
def loadEnrichment (path : String) (disk : Disk) : Outcome EnrichmentTable :=
  match disk.read path with
  | .ok octets => .ok (EnrichmentTable.read octets)
  | .error .notFound => .ok []
  | .error fault => .error (.io fault)

/-- Keeps an enrichment table in a file. -/
def saveEnrichment (table : EnrichmentTable) (path : String) (disk : Disk) :
    Outcome Unit × Disk :=
  match disk.makeDirectories ((Path.parent? path).getD "") with
  | (.error fault, disk) => (.error (.io fault), disk)
  | (.ok _, disk) =>
      match disk.write path (EnrichmentTable.write table) with
      | .error fault => (.error (.io fault), disk)
      | .ok disk => (.ok (), disk)

/-- The route of a staging directory that exists. -/
def stagingRoute (staging : String) (disk : Disk) : Route :=
  (disk.canonical? staging).getD disk.workingDirectory

/-- Reads the manifests that were extracted into the staging directory and keeps
the enrichment data of their pods. -/
def Ingester.readStaged (ingester : Ingester) (extraction : Extraction)
    (disk : Disk) (store : Store) : Outcome Report × Disk × Store :=
  let prepared : Outcome (Instant × EnrichmentTable) := do
    let gatherTime ← readGatherTime ingester.staging disk
    let table ← loadEnrichment ingester.enrichment disk
    return (gatherTime, table)
  match prepared with
  | .error failure => (.error failure, disk, store)
  | .ok (gatherTime, table) =>
      let files :=
        if ingester.staging.isEmpty then []
        else
          manifestFiles disk.tree (stagingRoute ingester.staging disk)
            ingester.staging
      let progress := files.foldl readManifest
        { report := { gatherTime := gatherTime, extraction := extraction }
          table := table
          store := store }
      let (saved, disk) :=
        saveEnrichment progress.table ingester.enrichment disk
      (saved.map fun _ => progress.report, disk, progress.store)

/-- Extracts an archive and hands the records of its manifests to the store. -/
def Ingester.ingest (ingester : Ingester) (archive : String) (disk : Disk)
    (store : Store) : Outcome Report × Disk × Store :=
  if liesWithin disk archive ingester.staging then
    (.error (.invalidArgument (.insideStaging archive)), disk, store)
  else
    match resetStaging ingester.staging disk with
    | (.error failure, disk) => (.error failure, disk, store)
    | (.ok _, disk) =>
        match extract archive ingester.staging disk with
        | (.error failure, disk) => (.error failure, disk, store)
        | (.ok extraction, disk) => ingester.readStaged extraction disk store

/-- Imports an archive at some time, unless one of its name was imported before,
and stores all records.  The database is at `databasePath`. -/
def Ingester.importArchive (ingester : Ingester) (archive databasePath : String)
    (now : Instant) (disk : Disk) (store : Store) :
    Outcome Report × Disk × Store :=
  match Path.fileName? archive with
  | none => (.error (.invalidArgument (.notAFile archive)), disk, store)
  | some name =>
      match store.openFile databasePath disk with
      | (.error failure, store, disk) => (.error failure, disk, store)
      | (.ok _, store, disk) =>
          if store.database.isImported name then
            (.error (.alreadyImported name), disk, store)
          else
            match ingester.ingest archive disk store with
            | (.error failure, disk, store) => (.error failure, disk, store)
            | (.ok report, disk, store) =>
                let entry : Gather :=
                  { name := name
                    importTime := now
                    gatherTime := report.gatherTime }
                (.ok report, disk, (store.add (.gather entry)).2.drain)

end ClusterTrace.Ingest
