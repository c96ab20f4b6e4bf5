import ClusterTrace.Proofs.Files.Places
import ClusterTrace.Proofs.Ingest.FaultIsolation

/-!
# Steps of an import

An import opens the database and looks for the archive's name there, `accept`,
and prepares the staging directory, `Ingester.prepare`.  Only then it reads
manifests and hands over their records, `ingest_eq`.
-/

namespace ClusterTrace

/-- An import was refused for its archive, not for the disk or the database. -/
def Failure.isRejection : Failure → Bool
  | .alreadyImported _ => true
  | .invalidArgument _ => true
  | .archive _ _ => true
  | .timestampMissing _ => true
  | .invalidTimestamp _ => true
  | _ => false

/-- An import was rejected before anything was extracted. -/
def Failure.isEarly : Failure → Bool
  | .alreadyImported _ => true
  | .invalidArgument _ => true
  | _ => false

/-! ## Opening the database -/

namespace Store

variable {store store' : Store} {disk disk' : Disk} {path : String}

/-- The directory of a file that is opened, which is made if it is missing. -/
def directoryOf (path : String) : String :=
  (Path.parent? path).getD ""

/-- A database file was opened: directories were made on the way to it, and an
empty file if there was none. -/
structure Opened (path : String) (store : Store) (disk : Disk) (store' : Store)
    (disk' : Disk) : Prop where
  store : store' = { store with isOpen := true }
  kept : ∀ route entry, disk.tree.at? route = some entry →
    disk'.tree.at? route = some entry
  others : ∀ route, route ∉ disk.way (directoryOf path) →
    route ≠ disk.place path → disk'.tree.at? route = disk.tree.at? route
  files : ∀ route, route ≠ disk.place path →
    disk'.tree.fileAt? route = disk.tree.fileAt? route
  created : disk.tree.fileAt? (disk.place path) = none →
    ∀ content, disk'.tree.fileAt? (disk.place path) = some content →
    content = []
  workingDirectory : disk'.workingDirectory = disk.workingDirectory

theorem eq_of_isOpen (isOpen : store.isOpen = true) :
    { store with isOpen := true } = store := by
  rw [← isOpen]

theorem Opened.of_makesWay (made : Disk.MakesWay (disk.way (directoryOf path))
    disk disk') :
    Opened path store disk { store with isOpen := true } disk' := by
  constructor
  case store => rfl
  case kept => exact made.kept
  case others =>
    intro route offTheWay _
    exact made.others route offTheWay
  case files =>
    intro route _
    exact made.files route
  case created =>
    intro missing content isFile
    rw [made.files, missing] at isFile
    cases isFile
  case workingDirectory => exact made.workingDirectory

theorem Opened.write {between : Disk}
    (opened : Opened path store disk store' between)
    (free : between.at? path = none)
    (written : between.write path [] = .ok disk') :
    Opened path store disk store' disk' := by
  obtain ⟨located, rfl⟩ := Disk.write_eq_ok written
  have samePlace := Disk.place_congr opened.workingDirectory path
  rw [samePlace] at located ⊢
  have isFree : between.tree.at? (disk.place path) = none := by
    rw [Disk.at?, Disk.canonical?, located] at free
    by_cases there : between.tree.has (disk.place path)
    · simpa [there] using free
    · exact Option.not_isSome_iff_eq_none.mp there
  constructor
  case store => exact opened.store
  case kept =>
    intro route entry there
    exact FileTree.at?_put_of_free isFree (opened.kept route entry there) _
  case others =>
    intro route offTheWay elsewhere
    rw [← opened.others route offTheWay elsewhere]
    exact FileTree.at?_put_of_ne elsewhere _
  case files =>
    intro route elsewhere
    rw [← opened.files route elsewhere]
    exact FileTree.fileAt?_of_at?_eq (FileTree.at?_put_of_ne elsewhere _)
  case created =>
    intro _ content isFile
    rw [FileTree.fileAt?_eq_some_iff,
      FileTree.at?_put_self (FileTree.ne_nil_of_at?_eq_none isFree)] at isFile
    cases isFile
    rfl
  case workingDirectory => exact opened.workingDirectory

/-- A database is opened, or the store stays as it is. -/
theorem openFile_cases {outcome : Outcome Unit}
    (result : store.openFile path disk = (outcome, store', disk')) :
    (outcome = .ok () ∧ Opened path store disk store' disk') ∨
      ∃ failure, outcome = .error failure ∧ failure.isRejection = false ∧
        store' = store := by
  rw [openFile] at result
  split at result
  · rename_i isOpen
    cases result
    have opened : Opened path store disk { store with isOpen := true } disk :=
      .of_makesWay (.refl _ disk)
    rw [eq_of_isOpen isOpen] at opened
    exact .inl ⟨rfl, opened⟩
  · have makes := Disk.makesWay_makeDirectories disk (directoryOf path)
    rw [directoryOf] at makes
    split at result
    · cases result
      exact .inr ⟨_, rfl, rfl, rfl⟩
    · rename_i made
      rw [made] at makes
      have opened : Opened path store disk { store with isOpen := true } _ :=
        .of_makesWay makes
      split at result
      · cases result
        exact .inr ⟨_, rfl, rfl, rfl⟩
      · cases result
        exact .inl ⟨rfl, opened⟩
      · rename_i free
        split at result
        · cases result
          exact .inr ⟨_, rfl, rfl, rfl⟩
        · rename_i written
          cases result
          exact .inl ⟨rfl, opened.write free written⟩

end Store

namespace Ingest

open Store (Opened)
open Time (Instant)

variable {ingester : Ingester} {archive databasePath : String}
  {disk disk' : Disk} {store store' : Store} {failure : Failure}

/-! ## Admission -/

/-- The name under which an archive is imported, unless it was imported before.
The database is opened to look for it. -/
def accept (archive databasePath : String) (disk : Disk) (store : Store) :
    Outcome String × Disk × Store :=
  match Path.fileName? archive with
  | none => (.error (.invalidArgument (.notAFile archive)), disk, store)
  | some name =>
      match store.openFile databasePath disk with
      | (.error failure, store, disk) => (.error failure, disk, store)
      | (.ok _, store, disk) =>
          if store.database.isImported name then
            (.error (.alreadyImported name), disk, store)
          else (.ok name, disk, store)

theorem importArchive_eq (ingester : Ingester) (archive databasePath : String)
    (now : Instant) (disk : Disk) (store : Store) :
    ingester.importArchive archive databasePath now disk store =
      match accept archive databasePath disk store with
      | (.error failure, disk, store) => (.error failure, disk, store)
      | (.ok name, disk, store) =>
          match ingester.ingest archive disk store with
          | (.error failure, disk, store) => (.error failure, disk, store)
          | (.ok report, disk, store) =>
              (.ok report, disk,
                (store.add
                  (.gather ⟨name, now, report.gatherTime⟩)).2.drain) := by
  rw [Ingester.importArchive, accept]
  cases Path.fileName? archive with
  | none => rfl
  | some name =>
      dsimp only
      rcases store.openFile databasePath disk with ⟨_ | _, opened, between⟩
      · rfl
      dsimp only
      split <;> rfl

/-- An archive has no name, or the database cannot be opened, or its name
decides about it. -/
theorem accept_cases {outcome : Outcome String}
    (result : accept archive databasePath disk store =
      (outcome, disk', store')) :
    (Path.fileName? archive = none ∧
        outcome = .error (.invalidArgument (.notAFile archive)) ∧
        disk' = disk ∧ store' = store) ∨
      (∃ failure, outcome = .error failure ∧ failure.isRejection = false ∧
        store' = store) ∨
      ∃ name, Path.fileName? archive = some name ∧
        Opened databasePath store disk store' disk' ∧
        outcome = if store.database.isImported name then
          .error (.alreadyImported name) else .ok name := by
  rw [accept] at result
  cases named : Path.fileName? archive with
  | none =>
      rw [named] at result
      cases result
      exact .inl ⟨rfl, rfl, rfl, rfl⟩
  | some name =>
      rw [named] at result
      right
      dsimp only at result
      cases opening : store.openFile databasePath disk with
      | mk opens opening' =>
          obtain ⟨store₁, disk₁⟩ := opening'
          rw [opening] at result
          rcases Store.openFile_cases opening with
            ⟨rfl, opened⟩ | ⟨failure, rfl, notRejected, rfl⟩
          · right
            have sameDatabase : store₁.database = store.database := by
              rw [opened.store]
            dsimp only at result
            rw [sameDatabase] at result
            split at result
            · rename_i isImported
              cases result
              exact ⟨name, rfl, opened, (if_pos isImported).symm⟩
            · rename_i notImported
              cases result
              exact ⟨name, rfl, opened, (if_neg notImported).symm⟩
          · cases result
            exact .inl ⟨failure, rfl, notRejected, rfl⟩

/-! ## Preparation -/

/-- What is known when the first manifest is read. -/
structure Prepared where
  extraction : Extraction
  gatherTime : Instant
  table : EnrichmentTable

/-- What the staging directory and the enrichment file say after an
extraction. -/
def Ingester.inspect (ingester : Ingester) (extraction : Extraction)
    (disk : Disk) : Outcome Prepared := do
  let gatherTime ← readGatherTime ingester.staging disk
  let table ← loadEnrichment ingester.enrichment disk
  return ⟨extraction, gatherTime, table⟩

/-- What an ingestion does before it reads the first manifest. -/
def Ingester.prepare (ingester : Ingester) (archive : String) (disk : Disk) :
    Outcome Prepared × Disk :=
  if liesWithin disk archive ingester.staging then
    (.error (.invalidArgument (.insideStaging archive)), disk)
  else
    match resetStaging ingester.staging disk with
    | (.error failure, disk) => (.error failure, disk)
    | (.ok _, disk) =>
        match extract archive ingester.staging disk with
        | (.error failure, disk) => (.error failure, disk)
        | (.ok extraction, disk) => (ingester.inspect extraction disk, disk)

/-- What an ingestion knows after the last manifest. -/
def Ingester.read (ingester : Ingester) (prepared : Prepared) (disk : Disk)
    (store : Store) : Progress :=
  ingester.progress prepared.extraction disk store prepared.gatherTime
    prepared.table

/-- What an ingestion does once it is prepared. -/
def Ingester.complete (ingester : Ingester) (prepared : Prepared) (disk : Disk)
    (store : Store) : Outcome Report × Disk × Store :=
  let progress := ingester.read prepared disk store
  let saved := saveEnrichment progress.table ingester.enrichment disk
  (saved.1.map fun _ => progress.report, saved.2, progress.store)

theorem ingest_eq (ingester : Ingester) (archive : String) (disk : Disk)
    (store : Store) :
    ingester.ingest archive disk store =
      match ingester.prepare archive disk with
      | (.error failure, disk) => (.error failure, disk, store)
      | (.ok prepared, disk) => ingester.complete prepared disk store := by
  rw [Ingester.ingest, Ingester.prepare]
  by_cases inside : liesWithin disk archive ingester.staging = true
  · rw [if_pos inside, if_pos inside]
  rw [if_neg inside, if_neg inside]
  rcases resetStaging ingester.staging disk with ⟨_ | _, emptied⟩
  · rfl
  dsimp only
  rcases extract archive ingester.staging emptied with ⟨_ | extraction, staged⟩
  · rfl
  dsimp only
  rw [Ingester.inspect]
  cases gathered : readGatherTime ingester.staging staged with
  | error failure =>
      rw [Ingester.readStaged, gathered]
      rfl
  | ok gatherTime =>
      cases loaded : loadEnrichment ingester.enrichment staged with
      | error failure =>
          rw [Ingester.readStaged, gathered, loaded]
          rfl
      | ok table => exact readStaged_eq gathered loaded

/-- The records that an ingestion hands to the store. -/
def Ingester.handed (ingester : Ingester) (archive : String) (disk : Disk) :
    List Record :=
  match ingester.prepare archive disk with
  | (.error _, _) => []
  | (.ok _, disk) => recordsOf (ingester.manifests disk)

theorem hasRead_read (ingester : Ingester) (prepared : Prepared) (disk : Disk)
    (store : Store) :
    HasRead
      (.start prepared.extraction store prepared.gatherTime prepared.table)
      (ingester.manifests disk) (ingester.read prepared disk store) :=
  hasRead_progress prepared.gatherTime prepared.table

/-- Whatever comes of an ingestion, the store has got its records. -/
theorem store_ingest (ingester : Ingester) (archive : String) (disk : Disk)
    (store : Store) :
    (ingester.ingest archive disk store).2.2 =
      (store.addAll (ingester.handed archive disk)).2 := by
  rw [ingest_eq, Ingester.handed]
  split
  · rfl
  · rename_i prepared between _
    exact (hasRead_read ingester prepared between store).store

theorem exists_io_of_saveEnrichment {table : EnrichmentTable} {path : String}
    (refused : (saveEnrichment table path disk).1 = .error failure) :
    ∃ fault, failure = .io fault := by
  rw [saveEnrichment] at refused
  split at refused
  · cases refused
    exact ⟨_, rfl⟩
  · split at refused
    · cases refused
      exact ⟨_, rfl⟩
    · cases refused

end Ingest
end ClusterTrace
