import ClusterTrace.Proofs.Ingest.ExtractedMembers
import ClusterTrace.Proofs.Ingest.ImportSteps

/-!
# Imports that are rejected

An import that is rejected for its archive leaves no trace: no record is handed
over, no table changes, and no file changes outside of the staging directory,
`leavesNoTrace_of_rejected`.  Whatever can reject an archive comes before the
first lasting effect.
-/

namespace ClusterTrace

/-! ## Paths outside of a directory -/

/-- Neither the file at a path lies in a directory, nor a directory that is made
on the way to it. -/
structure Disk.IsOutside (disk : Disk) (directory path : String) : Prop where
  place : ¬ disk.place directory <+: disk.place path
  way : ∀ route ∈ disk.way (Store.directoryOf path),
    ¬ disk.place directory <+: route

namespace Ingest

open Disk (KeepsOutside)
open Store (Opened)

variable {ingester : Ingester} {archive databasePath : String}
  {disk disk' : Disk} {store store' : Store} {failure : Failure}

/-! ## Preparations that fail -/

theorem keepsOutside_resetStaging (staging : String) (disk : Disk) :
    KeepsOutside (disk.place staging) disk (resetStaging staging disk).2 := by
  rw [resetStaging]
  split
  · exact .refl _ disk
  · rename_i emptied removed
    have keeps := Disk.keepsOutside_removeDirectory removed
    have makes := Disk.makesWay_makeDirectories emptied staging
    split
    · rename_i made
      rw [made] at makes
      exact keeps.trans (makes.keepsOutside _)
    · rename_i made
      rw [made] at makes
      exact keeps.trans (makes.keepsOutside _)

/-- An archive that can be read to some end is extracted below the target. -/
theorem keepsOutside_extract {target : String} (named : target ≠ "")
    {outcome : Outcome Extraction}
    (extracted : extract archive target disk = (outcome, disk'))
    (notRefused : ∀ fault, outcome ≠ .error (.io fault)) :
    KeepsOutside (disk.place target) disk disk' := by
  have makes := Disk.makesWay_makeDirectories disk target
  rw [extract] at extracted
  split at extracted
  · cases extracted
    exact (notRefused _ rfl).elim
  · rename_i root between made
    rw [made] at makes
    have isPlace := Disk.place_of_makeDirectories made
    subst isPlace
    have isDirectory := Disk.at?_of_makeDirectories named made
    split at extracted
    · cases extracted
      exact makes.keepsOutside _
    · rename_i octets _
      dsimp only at extracted
      cases ran : extractMembers (disk.place target)
          (Archive.Tar.read (Archive.Gzip.read octets)).members {}
          between.tree with
      | mk result tree =>
          rw [ran] at extracted
          cases result with
          | error fault =>
              cases extracted
              exact (notRefused _ rfl).elim
          | ok extraction =>
              have after : disk' = { between with tree := tree } := by
                dsimp only at extracted
                split at extracted <;> cases extracted <;> rfl
              have grows := growsBelow_extractMembers isDirectory ran
              subst after
              refine (makes.keepsOutside _).trans ⟨fun route outside => ?_, rfl⟩
              exact FileTree.fileAt?_of_at?_eq (grows.at?_of_not_prefix outside)

/-- Every path lies within the empty one. -/
theorem ne_empty_of_not_liesWithin {path directory : String}
    (outside : ¬ liesWithin disk path directory = true) : directory ≠ "" := by
  rintro rfl
  apply outside
  rw [liesWithin, Path.isWithin]
  simp [show Path.components "" = [] from rfl]

theorem isRejection_of_resetStaging {staging : String}
    (refused : (resetStaging staging disk).1 = .error failure) :
    failure.isRejection = false := by
  rw [resetStaging] at refused
  split at refused
  · cases refused
    rfl
  · split at refused <;> cases refused
    rfl

theorem isEarly_of_extract {target : String}
    (refused : (extract archive target disk).1 = .error failure) :
    failure.isEarly = false := by
  rw [extract] at refused
  split at refused
  · cases refused
    rfl
  · split at refused
    · cases refused
      rfl
    · dsimp only at refused
      split at refused
      · cases refused
        rfl
      · split at refused <;> cases refused
        rfl

theorem isEarly_of_readGatherTime {staging : String}
    (refused : readGatherTime staging disk = .error failure) :
    failure.isEarly = false := by
  rw [readGatherTime] at refused
  split at refused
  · cases refused
    rfl
  · cases refused
    rfl
  · split at refused
    · cases refused
      rfl
    · rename_i text _
      cases parsed : parseGatherTime text with
      | error line =>
          rw [parsed] at refused
          cases refused
          rfl
      | ok gatherTime =>
          rw [parsed] at refused
          cases refused

theorem isRejection_of_loadEnrichment {path : String}
    (refused : loadEnrichment path disk = .error failure) :
    failure.isRejection = false := by
  rw [loadEnrichment] at refused
  split at refused <;> cases refused
  rfl

theorem isEarly_of_inspect {extraction : Extraction}
    (isRejection : failure.isRejection = true)
    (refused : ingester.inspect extraction disk = .error failure) :
    failure.isEarly = false := by
  rw [Ingester.inspect] at refused
  cases gathered : readGatherTime ingester.staging disk with
  | error cause =>
      rw [gathered] at refused
      cases refused
      exact isEarly_of_readGatherTime gathered
  | ok gatherTime =>
      cases loaded : loadEnrichment ingester.enrichment disk with
      | error cause =>
          rw [gathered, loaded] at refused
          cases refused
          rw [isRejection_of_loadEnrichment loaded] at isRejection
          cases isRejection
      | ok table =>
          rw [gathered, loaded] at refused
          cases refused

/-- What a rejection leaves of the disk. -/
structure Rejects (staging : String) (disk : Disk) (failure : Failure)
    (disk' : Disk) : Prop where
  keeps : KeepsOutside (disk.place staging) disk disk'
  unchanged : failure.isEarly = true → disk' = disk
  new : ∀ name, failure ≠ .alreadyImported name

theorem Rejects.of_not_isEarly {staging : String}
    (keeps : KeepsOutside (disk.place staging) disk disk')
    (late : failure.isEarly = false) :
    Rejects staging disk failure disk' := by
  refine ⟨keeps, fun early => ?_, ?_⟩
  · rw [late] at early
    cases early
  · rintro name rfl
    cases late

theorem rejects_prepare (isRejection : failure.isRejection = true)
    (rejected : ingester.prepare archive disk = (.error failure, disk')) :
    Rejects ingester.staging disk failure disk' := by
  rw [Ingester.prepare] at rejected
  split at rejected
  · cases rejected
    exact ⟨.refl _ disk, fun _ => rfl, by rintro _ ⟨⟩⟩
  rename_i outside
  have reset := keepsOutside_resetStaging ingester.staging disk
  split at rejected
  · rename_i isReset
    cases rejected
    rw [isRejection_of_resetStaging (by rw [isReset])] at isRejection
    cases isRejection
  rename_i emptied isReset
  rw [isReset] at reset
  have extraction : ∀ {outcome : Outcome Extraction} {staged : Disk},
      extract archive ingester.staging emptied = (outcome, staged) →
      (∀ fault, outcome ≠ .error (.io fault)) →
      KeepsOutside (emptied.place ingester.staging) emptied staged :=
    keepsOutside_extract (ne_empty_of_not_liesWithin outside)
  rw [reset.place] at extraction
  split at rejected
  · rename_i extracted
    cases rejected
    apply Rejects.of_not_isEarly
    · apply reset.trans (extraction extracted _)
      rintro fault ⟨⟩
      cases isRejection
    · exact isEarly_of_extract (by rw [extracted])
  · rename_i found staged extracted
    rw [Prod.mk.injEq] at rejected
    obtain ⟨refused, rfl⟩ := rejected
    apply Rejects.of_not_isEarly
    · exact reset.trans (extraction extracted (by rintro _ ⟨⟩))
    · exact isEarly_of_inspect isRejection refused

/-- An ingestion is rejected while it is prepared, if at all. -/
theorem ingest_rejected (isRejection : failure.isRejection = true)
    (rejected : ingester.ingest archive disk store =
      (.error failure, disk', store')) :
    store' = store ∧ Rejects ingester.staging disk failure disk' := by
  rw [ingest_eq] at rejected
  split at rejected
  · rename_i prepared
    cases rejected
    exact ⟨rfl, rejects_prepare isRejection prepared⟩
  · rename_i prepared between _
    have saving : (saveEnrichment (ingester.read prepared between store).table
        ingester.enrichment between).1 = .error failure := by
      have result := congrArg Prod.fst rejected
      rw [Ingester.complete] at result
      dsimp only at result
      cases saved : (saveEnrichment (ingester.read prepared between store).table
          ingester.enrichment between).1 with
      | error cause =>
          rw [saved] at result
          cases result
          rfl
      | ok _ =>
          rw [saved] at result
          cases result
    obtain ⟨fault, rfl⟩ := exists_io_of_saveEnrichment saving
    cases isRejection

/-! ## Imports -/

/-- An import that was rejected has changed no record, no table and no file
outside of the staging directory, but for a new database file, and the staging
directory only if it came to extract the archive.  Its name is still decided
about as before. -/
structure LeavesNoTrace (ingester : Ingester) (archive databasePath : String)
    (failure : Failure) (disk : Disk) (store : Store) (disk' : Disk)
    (store' : Store) : Prop where
  queue : store'.queue = store.queue
  outstanding : store'.outstanding = store.outstanding
  stored : store'.stored = store.stored
  dropped : store'.dropped = store.dropped
  database : store'.database = store.database
  files : ∀ route, ¬ disk.place ingester.staging <+: route →
    route ≠ disk.place databasePath →
    disk'.tree.fileAt? route = disk.tree.fileAt? route
  databaseFile : ∀ content,
    disk.tree.fileAt? (disk.place databasePath) = some content →
    disk'.tree.fileAt? (disk.place databasePath) = some content
  enrichment : disk.place ingester.enrichment ≠ disk.place databasePath ∨
      (disk.tree.fileAt? (disk.place ingester.enrichment)).isSome = true →
    disk'.tree.fileAt? (disk.place ingester.enrichment) =
      disk.tree.fileAt? (disk.place ingester.enrichment)
  staging : failure.isEarly = true → ∀ route,
    disk.place ingester.staging <+: route →
    disk'.tree.at? route = disk.tree.at? route
  decided : ∀ name, failure = .alreadyImported name →
    Path.fileName? archive = some name ∧
    ∀ other, Path.fileName? other = some name → ∀ now later,
      (ingester.importArchive other databasePath now later store').1 =
        .error failure
  importable : ∀ name, Path.fileName? archive = some name →
    failure ≠ .alreadyImported name →
    ∀ other, Path.fileName? other = some name → ∀ now later,
      (ingester.importArchive other databasePath now later store').1 =
        (ingester.ingest other later store').1

/-- An open store decides about a name by its ledger only. -/
theorem accept_of_isOpen (isOpen : store.isOpen = true) {name : String}
    (named : Path.fileName? archive = some name) :
    accept archive databasePath disk store =
      (if store.database.isImported name then .error (.alreadyImported name)
        else .ok name, disk, store) := by
  rw [accept, named]
  dsimp only
  rw [Store.openFile, if_pos isOpen]
  dsimp only
  split <;> rfl

theorem importArchive_of_isImported (isOpen : store.isOpen = true)
    {name : String} (named : Path.fileName? archive = some name)
    (isImported : store.database.isImported name = true) (now : Time.Instant) :
    (ingester.importArchive archive databasePath now disk store).1 =
      .error (.alreadyImported name) := by
  rw [importArchive_eq, accept_of_isOpen isOpen named, if_pos isImported]

theorem importArchive_of_not_isImported (isOpen : store.isOpen = true)
    {name : String} (named : Path.fileName? archive = some name)
    (notImported : ¬ store.database.isImported name = true)
    (now : Time.Instant) :
    (ingester.importArchive archive databasePath now disk store).1 =
      (ingester.ingest archive disk store).1 := by
  rw [importArchive_eq, accept_of_isOpen isOpen named, if_neg notImported]
  dsimp only
  split <;> rename_i ingested <;> rw [ingested]

/-- Opening the database and what keeps to the staging directory leave no trace;
how names are decided about is left to be shown. -/
theorem LeavesNoTrace.of_opened {between : Disk}
    (databaseOutside : disk.IsOutside ingester.staging databasePath)
    (enrichmentOutside :
      ¬ disk.place ingester.staging <+: disk.place ingester.enrichment)
    (opened : Opened databasePath store disk store' between)
    (keeps : KeepsOutside (disk.place ingester.staging) between disk')
    (unchanged : failure.isEarly = true → disk' = between)
    (decided : ∀ name, failure = .alreadyImported name →
      Path.fileName? archive = some name ∧
        store.database.isImported name = true)
    (undecided : ∀ name, Path.fileName? archive = some name →
      failure ≠ .alreadyImported name →
      ¬ store.database.isImported name = true) :
    LeavesNoTrace ingester archive databasePath failure disk store disk'
      store' := by
  have isOpen : store'.isOpen = true := by rw [opened.store]
  have database : store'.database = store.database := by rw [opened.store]
  have files : ∀ route, ¬ disk.place ingester.staging <+: route →
      route ≠ disk.place databasePath →
      disk'.tree.fileAt? route = disk.tree.fileAt? route := by
    intro route outside elsewhere
    rw [keeps.files route outside, opened.files route elsewhere]
  have kept : ∀ route content, ¬ disk.place ingester.staging <+: route →
      disk.tree.fileAt? route = some content →
      disk'.tree.fileAt? route = some content := by
    intro route content outside isFile
    rw [keeps.files _ outside]
    rw [FileTree.fileAt?_eq_some_iff] at isFile ⊢
    exact opened.kept _ _ isFile
  constructor
  case queue => rw [opened.store]
  case outstanding =>
    rw [opened.store]
    rfl
  case stored => rw [opened.store]
  case dropped => rw [opened.store]
  case database => exact database
  case files => exact files
  case databaseFile => exact fun content => kept _ content databaseOutside.place
  case enrichment =>
    rintro (apart | isFile)
    · exact files _ enrichmentOutside apart
    · obtain ⟨content, isContent⟩ := Option.isSome_iff_exists.1 isFile
      rw [isContent, kept _ _ enrichmentOutside isContent]
  case staging =>
    intro early route inside
    rw [unchanged early]
    apply opened.others
    · intro onTheWay
      exact databaseOutside.way route onTheWay inside
    · rintro rfl
      exact databaseOutside.place inside
  case decided =>
    rintro name rfl
    obtain ⟨named, isImported⟩ := decided name rfl
    refine ⟨named, fun other sameName now later => ?_⟩
    apply importArchive_of_isImported isOpen sameName
    rw [database]
    exact isImported
  case importable =>
    intro name named notDecided other sameName now later
    apply importArchive_of_not_isImported isOpen sameName
    rw [database]
    exact undecided name named notDecided

end Ingest
end ClusterTrace
