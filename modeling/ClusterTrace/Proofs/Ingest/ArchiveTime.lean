import ClusterTrace.Proofs.Archive.StoredData
import ClusterTrace.Proofs.Files.RootedTrees
import ClusterTrace.Proofs.Ingest.ExtractionAccount
import ClusterTrace.Proofs.Ingest.RejectedImports

/-!
# The time that an archive tells

An ingestion that succeeds reports the time of the first time stamp in its
archive, because the staging directory holds no file when the archive is
extracted, `stampTime?_of_ingest`.  A staging path that goes up from a directory
that is missing is the exception: nothing is removed there, since the path leads
nowhere until the missing directory is made.
-/

namespace ClusterTrace

namespace Ingest

open Store (Opened)
open Time (Instant)
open Archive (Member)

variable {ingester : Ingester} {archive databasePath : String}
  {disk between emptied staged : Disk} {store store' : Store}

/-! ## An empty staging directory -/

/-- A staging directory that was emptied once the database was open holds no
file. -/
theorem fileAt?_of_resetStaging {staging : String} (named : staging ≠ "")
    (rooted : disk.tree.IsRooted) (followable : disk.IsFollowable staging)
    (outside : ¬ disk.place staging <+: disk.place databasePath)
    (opened : Opened databasePath store disk store' between)
    (reset : resetStaging staging between = (.ok (), emptied)) {route : Route}
    (inside : disk.place staging <+: route) :
    emptied.tree.fileAt? route = none := by
  have samePlace := Disk.place_congr opened.workingDirectory staging
  have sameWay : between.way staging = disk.way staging := by
    rw [Disk.way, Disk.way, Disk.start, Disk.start, opened.workingDirectory]
  -- Opening the database comes in between.  It only adds to the tree, so what
  -- is free afterwards was free before.
  have nothingBelow : ∀ gap, gap <+: disk.place staging →
      between.tree.at? gap = none → between.tree.fileAt? route = none := by
    intro gap above free
    have wasFree : disk.tree.at? gap = none := by
      by_contra there
      obtain ⟨entry, isEntry⟩ := Option.ne_none_iff_exists'.mp there
      rw [opened.kept gap entry isEntry] at free
      cases free
    have elsewhere : route ≠ disk.place databasePath := by
      rintro rfl
      exact outside inside
    rw [opened.files route elsewhere, FileTree.fileAt?,
      rooted.at?_of_prefix wasFree (above.trans inside)]
  rw [resetStaging] at reset
  split at reset
  · cases reset
  rename_i removal removed
  have makes := Disk.makesWay_makeDirectories removal staging
  split at reset
  · cases reset
  rename_i made
  rw [made] at makes
  cases reset
  rw [makes.files route]
  rcases Disk.removeDirectory_cases removed with
    ⟨missing | free, rfl⟩ | isEmpty
  · rcases followable with downward | leads
    · obtain ⟨gap, onTheWay, free⟩ := Disk.exists_free_of_locate named missing
      rw [sameWay] at onTheWay
      exact nothingBelow gap
        (FileTree.prefix_of_mem_scanl_step downward onTheWay) free
    · cases located : disk.locate staging with
      | error fault =>
          rw [located] at leads
          cases leads
      | ok place =>
          rw [Disk.locate_of_kept opened.kept opened.workingDirectory located]
            at missing
          cases missing
  · rw [samePlace] at free
    exact nothingBelow _ List.prefix_rfl free
  · rw [samePlace] at isEmpty
    exact isEmpty route inside

/-! ## Time stamps -/

/-- The time that an archive tells: that of the first time stamp in it. -/
def stampTime? (octets : Bytes) : Option Instant :=
  match firstTimestamp?
      (Archive.Tar.read (Archive.Gzip.read octets)).members with
  | some (.file content) =>
      (Text.Utf8.decode? content).bind fun text =>
        (parseGatherTime text).toOption
  | _ => none

theorem stampTime?_nil : stampTime? [] = none := by
  decide +kernel

theorem exists_file_of_readGatherTime {staging : String} {gatherTime : Instant}
    (isRead : readGatherTime staging disk = .ok gatherTime) :
    ∃ content text,
      disk.tree.at? (timestampPlace (disk.place staging)) =
          some (.file content) ∧
        Text.Utf8.decode? content = some text ∧
        parseGatherTime text = .ok gatherTime := by
  have samePlace : disk.place (Path.join staging timestampName) =
      timestampPlace (disk.place staging) := by
    apply Disk.place_join
    · decide
    · decide +kernel
    · exact ⟨by decide, by decide⟩
  rw [readGatherTime] at isRead
  split at isRead
  · cases isRead
  · cases isRead
  · rename_i content isContent
    have isFile := Disk.fileAt?_of_read isContent
    rw [samePlace, FileTree.fileAt?_eq_some_iff] at isFile
    split at isRead
    · cases isRead
    · rename_i text decoded
      cases parsed : parseGatherTime text with
      | error line =>
          rw [parsed] at isRead
          cases isRead
      | ok time =>
          rw [parsed] at isRead
          cases isRead
          exact ⟨content, text, isFile, decoded, parsed⟩

/-- Where no file was, an extraction leaves only the first time stamp as one. -/
theorem firstTimestamp?_of_extractMembers {target : Route}
    {members : List Member} {extraction : Extraction}
    {tree after : FileTree} {content : Bytes}
    (extracted : extractMembers target members {} tree =
      (.ok extraction, after))
    (noFile : tree.fileAt? (timestampPlace target) = none)
    (isFile : after.at? (timestampPlace target) = some (.file content)) :
    firstTimestamp? members = some (.file content) := by
  have isDecided := (timestamp_extractMembers extracted).1
  rw [isFile] at isDecided
  cases before : tree.at? (timestampPlace target) with
  | some entry =>
      rw [before, Option.some_or] at isDecided
      cases isDecided
      rw [FileTree.fileAt?, before] at noFile
      cases noFile
  | none =>
      rw [before, Option.none_or] at isDecided
      rw [isDecided]
      symm
      apply (map_timestampEntry_decider?_iff members).mpr
      obtain ⟨decider, isDecider, isEntry⟩ :=
        Option.map_eq_some_iff.mp isDecided.symm
      rw [isDecider, Option.all_some]
      by_contra noTimestamp
      rw [timestampEntry, if_neg noTimestamp] at isEntry
      cases isEntry

/-! ## Ingestions -/

/-- A file that is there once the database is open was there before, or nothing
is in it. -/
theorem fileAt?_of_opened
    (opened : Opened databasePath store disk store' between)
    {route : Route} {content : Bytes}
    (isFile : between.tree.fileAt? route = some content) :
    disk.tree.fileAt? route = some content ∨ content = [] := by
  by_cases elsewhere : route = disk.place databasePath
  · subst elsewhere
    cases before : disk.tree.fileAt? (disk.place databasePath) with
    | none => exact .inr (opened.created before content isFile)
    | some old =>
        left
        rw [FileTree.fileAt?_eq_some_iff] at before isFile
        rw [opened.kept _ _ before] at isFile
        cases isFile
        rfl
  · rw [opened.files route elsewhere] at isFile
    exact .inl isFile

/-- The archive that is extracted into an empty staging directory was there
before the database was opened, or nothing is in it. -/
theorem fileAt?_of_extract {staging : String} {octets : Bytes} {made : Disk}
    {root : Route}
    (opened : Opened databasePath store disk store' between)
    (reset : resetStaging staging between = (.ok (), emptied))
    (noFile : ∀ route, disk.place staging <+: route →
      emptied.tree.fileAt? route = none)
    (makes : emptied.makeDirectories staging = (.ok root, made))
    (isArchive : made.read archive = .ok octets) :
    disk.tree.fileAt? (disk.place archive) = some octets ∨ octets = [] := by
  have samePlaces := Disk.place_congr opened.workingDirectory
  have keeps := keepsOutside_resetStaging staging between
  have makesWay := Disk.makesWay_makeDirectories emptied staging
  rw [reset] at keeps
  rw [makes] at makesWay
  have isFile := Disk.fileAt?_of_read isArchive
  rw [makesWay.files, Disk.place_congr makesWay.workingDirectory, keeps.place,
    samePlaces] at isFile
  have outside : ¬ disk.place staging <+: disk.place archive := by
    intro inside
    rw [noFile _ inside] at isFile
    cases isFile
  apply fileAt?_of_opened opened
  rw [samePlaces] at keeps
  rw [← keeps.files _ outside]
  exact isFile

/-- An ingestion reports the time that its archive tells. -/
theorem stampTime?_of_ingest {report : Report}
    (rooted : disk.tree.IsRooted)
    (followable : disk.IsFollowable ingester.staging)
    (outside : ¬ disk.place ingester.staging <+: disk.place databasePath)
    (opened : Opened databasePath store disk store' between)
    (ingested :
      (ingester.ingest archive between store').1 = .ok report) :
    ∃ octets, disk.tree.fileAt? (disk.place archive) = some octets ∧
      stampTime? octets = some report.gatherTime := by
  have named : ingester.staging ≠ "" := by
    apply ne_empty_of_not_liesWithin
    intro inside
    rw [Ingester.ingest, if_pos inside] at ingested
    cases ingested
  rcases result : ingester.ingest archive between store' with
    ⟨outcome, disk', store''⟩
  rw [result] at ingested
  dsimp only at ingested
  subst ingested
  obtain ⟨emptied, extraction, staged, reset, extracted, staging⟩ :=
    readStaged_of_ingest result
  obtain ⟨gatherTime, table, gathered, _, _, isReport, _⟩ :=
    exists_progress_of_readStaged staging
  rw [← isReport, (hasRead_progress ..).gatherTime]
  have noFile : ∀ route, disk.place ingester.staging <+: route →
      emptied.tree.fileAt? route = none := fun route inside =>
    fileAt?_of_resetStaging named rooted followable outside opened reset inside
  have keeps := keepsOutside_extract named extracted (by rintro _ ⟨⟩)
  have keepsEmpty := keepsOutside_resetStaging ingester.staging between
  rw [reset] at keepsEmpty
  have samePlace : staged.place ingester.staging =
      disk.place ingester.staging := by
    rw [keeps.place, keepsEmpty.place, Disk.place_congr opened.workingDirectory]
  obtain ⟨root, made, octets, makes, isDirectory, isArchive, ran⟩ :=
    extractMembers_of_extract named extracted
  have isRoot : root = disk.place ingester.staging := by
    rw [Disk.place_of_makeDirectories makes, keepsEmpty.place,
      Disk.place_congr opened.workingDirectory]
  subst isRoot
  obtain ⟨content, text, isFile, decoded, parsed⟩ :=
    exists_file_of_readGatherTime gathered
  rw [samePlace] at isFile
  have stillNoFile : made.tree.fileAt?
      (timestampPlace (disk.place ingester.staging)) = none := by
    have makesWay := Disk.makesWay_makeDirectories emptied ingester.staging
    rw [makes] at makesWay
    rw [makesWay.files]
    exact noFile _ (List.prefix_append _ _)
  have isFirst := firstTimestamp?_of_extractMembers ran stillNoFile isFile
  have tells : stampTime? octets = some gatherTime := by
    rw [stampTime?, isFirst]
    dsimp only
    rw [decoded, Option.bind_some, parsed]
    rfl
  refine ⟨octets, ?_, tells⟩
  -- An archive that is empty tells no time.
  apply (fileAt?_of_extract opened reset noFile makes isArchive).resolve_right
  rintro rfl
  rw [stampTime?_nil] at tells
  cases tells

/-! ## A staging directory that is not emptied -/

theorem extract_of_contents {target : String} {octets : Bytes}
    {members : List Member} {root : Route} {made : Disk}
    (makes : emptied.makeDirectories target = (.ok root, made))
    (isArchive : made.read archive = .ok octets)
    (contents : Archive.Tar.read (Archive.Gzip.read octets) = ⟨members, false⟩)
    {extraction : Extraction} {tree : FileTree}
    (ran : extractMembers root members {} made.tree = (.ok extraction, tree)) :
    extract archive target emptied =
      (.ok extraction, { made with tree := tree }) := by
  rw [extract, makes]
  dsimp only
  rw [isArchive]
  dsimp only
  rw [contents]
  dsimp only
  rw [ran]
  rfl

/-- Octets with zeros after them up to a size. -/
def zeroPadded (size : Nat) (octets : Bytes) : Bytes :=
  octets ++ List.replicate (size - octets.length) 0

/-- The time stamp in the archive below. -/
def stamp : Member :=
  fileAt "timestamp" (Text.Utf8.encode "2024-03-01 08:00:00 +0000")

/-- An archive with a time stamp and nothing else. -/
def stampArchive : Bytes :=
  Archive.Gzip.write
    (zeroPadded 512
        (zeroPadded 124 stamp.path ++ zeroPadded 24 (Text.Utf8.encode "31") ++
          Text.Utf8.encode "2470") ++
      zeroPadded 512 stamp.content)

theorem read_stampArchive :
    Archive.Tar.read (Archive.Gzip.read stampArchive) = ⟨[stamp], false⟩ := by
  rw [stampArchive, Archive.Gzip.read_write]
  decide +kernel

theorem stampTime?_stampArchive :
    stampTime? stampArchive = some ⟨1709280000, 0⟩ := by
  rw [stampTime?, read_stampArchive]
  decide +kernel

/-- A disk with the archive and the time stamp of an earlier import. -/
def stampDisk : Disk where
  tree.entries :=
    [(["space"], .directory),
      (["space", "timestamp"],
        .file (Text.Utf8.encode "2020-01-01 00:00:00 +0000")),
      (["mg.tar.gz"], .file stampArchive)]
  tree.distinct := by decide

/-- The disk once the archive was extracted into a staging directory. -/
def stagedDisk (staging : String) : Disk :=
  let emptied := (resetStaging staging stampDisk).2
  let made := (emptied.makeDirectories staging).2
  { made with
    tree := (extractMembers ["space"] [stamp] {} made.tree).2 }

/-- Two paths of the staging directory.  The second one leads there only once a
directory was made that is missing. -/
def stampPaths : List String :=
  ["/space", "/missing/../space"]

theorem read_eq_of_isSome {path : String} {content : Bytes}
    (readable : (disk.read path).toOption.isSome = true)
    (isFile : disk.tree.fileAt? (disk.place path) = some content) :
    disk.read path = .ok content := by
  obtain ⟨octets, isRead⟩ := exists_ok_of_isSome readable
  rw [Disk.fileAt?_of_read isRead] at isFile
  cases isFile
  exact isRead

/-- Both paths serve to extract the archive. -/
theorem extract_stampDisk {staging : String} (isPath : staging ∈ stampPaths) :
    resetStaging staging stampDisk =
        (.ok (), (resetStaging staging stampDisk).2) ∧
      ∃ extraction,
        extract "/mg.tar.gz" staging (resetStaging staging stampDisk).2 =
          (.ok extraction, stagedDisk staging) := by
  have steps : ∀ staging ∈ stampPaths,
      let emptied := resetStaging staging stampDisk
      let made := emptied.2.makeDirectories staging
      emptied.1.toOption.isSome = true ∧ made.1 = .ok ["space"] ∧
        (made.2.read "/mg.tar.gz").toOption.isSome = true ∧
        (extractMembers ["space"] [stamp] {} made.2.tree).1.toOption.isSome =
          true := by
    decide +kernel
  have places : ∀ staging ∈ stampPaths,
      stampDisk.place staging = ["space"] ∧
        stampDisk.place "/mg.tar.gz" = ["mg.tar.gz"] := by
    decide +kernel
  obtain ⟨reset, makes, readable, ran⟩ := steps staging isPath
  obtain ⟨stagingPlace, archivePlace⟩ := places staging isPath
  have keeps := keepsOutside_resetStaging staging stampDisk
  have makesWay := Disk.makesWay_makeDirectories
    (resetStaging staging stampDisk).2 staging
  obtain ⟨_, isReset⟩ := exists_ok_of_isSome reset
  obtain ⟨extraction, hasRun⟩ := exists_ok_of_isSome ran
  have isFile : ((resetStaging staging stampDisk).2.makeDirectories
      staging).2.tree.fileAt? ["mg.tar.gz"] = some stampArchive := by
    rw [makesWay.files, keeps.files _ (by rw [stagingPlace]; decide)]
    rfl
  have samePlace : ((resetStaging staging stampDisk).2.makeDirectories
      staging).2.place "/mg.tar.gz" = ["mg.tar.gz"] := by
    rw [Disk.place_congr makesWay.workingDirectory, keeps.place, archivePlace]
  rw [← samePlace] at isFile
  refine ⟨Prod.ext isReset rfl, extraction, ?_⟩
  exact extract_of_contents (Prod.ext makes rfl)
    (read_eq_of_isSome readable isFile) read_stampArchive (Prod.ext hasRun rfl)

theorem ingest_stampDisk {staging : String} (isPath : staging ∈ stampPaths)
    (store : Store) :
    let ingester : Ingester := ⟨staging, "/result.json"⟩
    ingester.handed "/mg.tar.gz" stampDisk = [] ∧
      ∃ report,
        (ingester.ingest "/mg.tar.gz" stampDisk store).1 = .ok report ∧
          readGatherTime staging (stagedDisk staging) =
            .ok report.gatherTime := by
  intro ingester
  have facts : ∀ staging ∈ stampPaths,
      let ingester : Ingester := ⟨staging, "/result.json"⟩
      liesWithin stampDisk "/mg.tar.gz" staging = false ∧
        (ingester.manifests (stagedDisk staging)).isEmpty = true ∧
        (readGatherTime staging (stagedDisk staging)).toOption.isSome =
          true ∧
        (loadEnrichment "/result.json" (stagedDisk staging)).toOption =
          some [] ∧
        (saveEnrichment [] "/result.json" (stagedDisk staging)).1.toOption =
          some () := by
    decide +kernel
  obtain ⟨outside, isEmpty, gathers, loads, saves⟩ := facts staging isPath
  have noManifest := List.isEmpty_iff.mp isEmpty
  obtain ⟨gatherTime, gathered⟩ := exists_ok_of_isSome gathers
  obtain ⟨table, loaded⟩ := exists_ok_of_isSome (by rw [loads]; rfl)
  obtain ⟨_, saved⟩ := exists_ok_of_isSome (by rw [saves]; rfl)
  rw [loaded] at loads
  cases loads
  obtain ⟨reset, extraction, extracted⟩ := extract_stampDisk isPath
  have prepared : ingester.prepare "/mg.tar.gz" stampDisk =
      (.ok ⟨extraction, gatherTime, []⟩, stagedDisk staging) := by
    rw [Ingester.prepare, outside, if_neg Bool.false_ne_true, reset]
    dsimp only
    rw [extracted]
    dsimp only
    rw [Ingester.inspect, gathered, loaded]
    rfl
  constructor
  · rw [Ingester.handed, prepared]
    dsimp only
    rw [noManifest]
    rfl
  · have read : ingester.read ⟨extraction, gatherTime, []⟩
        (stagedDisk staging) store = .start extraction store gatherTime [] := by
      rw [Ingester.read, Ingester.progress, noManifest]
      rfl
    rw [ingest_eq, prepared]
    dsimp only
    rw [Ingester.complete, read]
    dsimp only [Progress.start]
    rw [saved]
    exact ⟨_, rfl, gathered⟩

end Ingest
end ClusterTrace
