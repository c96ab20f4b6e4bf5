import ClusterTrace.Proofs.Ingest.DecodedKinds
import ClusterTrace.Proofs.Ingest.EnrichmentSteps

/-!
# Enrichment over many ingestions

Whatever ingestions succeed one after the other, the enrichment file has the
entry of the last pod under each key, and what was there before under all other
keys, `enrichment_of_ingests`.  A file in the staging directory is the
exception: it is removed before it is loaded.
-/

namespace ClusterTrace.Ingest

/-! ## Last pods -/

/-- A pod under a key. -/
def podAt? (key : String) : Record → Option Pod
  | .pod pod =>
      if EnrichmentTable.key pod.namespaceName pod.name = key then some pod
      else none
  | _ => none

/-- The last pod under a key among records. -/
def lastPod? (key : String) (records : List Record) : Option Pod :=
  records.reverse.findSome? (podAt? key)

open Manifest
  (PodManifest Metadata recordOf readObject_eq_ok_iff isDecodedPod)

variable {table : EnrichmentTable} {key : String}

theorem lastPod?_concat (records : List Record) (record : Record) :
    lastPod? key (records ++ [record]) =
      (podAt? key record).or (lastPod? key records) := by
  rw [lastPod?, List.reverse_concat, List.findSome?_cons, lastPod?]
  cases podAt? key record <;> rfl

theorem get?_insertPod (table : EnrichmentTable) (pod : Pod) :
    Assoc.get? key (table.insertPod pod) =
      ((podAt? key (.pod pod)).map .ofPod).or (Assoc.get? key table) := by
  rw [podAt?, EnrichmentTable.insertPod]
  split
  · rename_i same
    subst same
    exact Assoc.get?_insert_self _ _ _
  · rename_i different
    exact Assoc.get?_insert_of_ne (Ne.symm different) _ _

/-- Each key has the entry of its last pod, or the one that it had. -/
theorem get?_enrich (table : EnrichmentTable) (records : List Record) :
    Assoc.get? key (enrich table records) =
      ((lastPod? key records).map .ofPod).or (Assoc.get? key table) := by
  -- The induction is from the end, as the last pod under a key decides.
  induction records using List.reverseRecOn with
  | nil => rfl
  | append_singleton records record induction =>
      rw [enrich_append, lastPod?_concat]
      cases record with
      | pod pod =>
          have added : enrich (enrich table records) [.pod pod] =
              (enrich table records).insertPod pod := rfl
          rw [added, get?_insertPod, induction]
          cases podAt? key (.pod pod) <;> rfl
      | _ => exact induction

/-! ## Pods of manifests -/

/-- What a manifest says of its pod: the node, the address of the node, the UID,
and the UIDs of the owners that have one. -/
def EnrichmentEntry.ofManifest (manifest : PodManifest) : EnrichmentEntry where
  hostName := manifest.spec.nodeName
  hostIp := manifest.status.hostIp
  uid := manifest.metadata.uid.getD ""
  owners := (manifest.metadata.owners.map (·.uid)).filter fun uid =>
    !uid.isEmpty

/-- The pod and its entry come from a manifest, the content of the pod. -/
structure IsPodOf (manifest : PodManifest) (pod : Pod) : Prop where
  isManifest : Json.asStruct PodManifest.shape pod.content = .ok manifest
  isRecord : manifest.toRecord pod.content = .ok (.pod pod)
  isEntry : EnrichmentEntry.ofPod pod = .ofManifest manifest

theorem uid_of_requireUid {metadata : Metadata} {uid : String}
    (required : metadata.requireUid = .ok uid) : metadata.uid = some uid := by
  rw [Metadata.requireUid] at required
  cases given : metadata.uid with
  | none =>
      rw [given] at required
      cases required
  | some text =>
      rw [given, Metadata.nonEmpty] at required
      split at required
      · cases required
      · cases required
        rfl

theorem exists_isPodOf {object : Json} {pod : Pod}
    (decoded : recordOf .pod object = .ok (.pod pod)) :
    ∃ manifest, IsPodOf manifest pod := by
  obtain ⟨manifest, isManifest, isRecord⟩ := readObject_eq_ok_iff.mp decoded
  have isDecoded := isDecodedPod isManifest decoded
  have isContent := isDecoded.content
  subst isContent
  refine ⟨manifest, isManifest, isRecord, ?_⟩
  rw [EnrichmentEntry.ofPod, isManifest, EnrichmentEntry.ofManifest,
    isDecoded.nodeName, uid_of_requireUid isDecoded.uuid]
  rfl

theorem exists_isPodOf_of_mem_recordsOf {files : List ManifestFile} {pod : Pod}
    (member : .pod pod ∈ recordsOf files) :
    ∃ manifest, IsPodOf manifest pod := by
  obtain ⟨file, _, records, decoded, isDecoded⟩ :=
    exists_decode_of_mem_recordsOf member
  obtain ⟨object, isRecord⟩ :=
    Manifest.exists_recordOf_of_decode decoded isDecoded
  have isKind : Kind.pod = file.kind :=
    (Manifest.yields_recordOf _ object _ isRecord).kind
  rw [← isKind] at isRecord
  exact exists_isPodOf isRecord

theorem exists_isPodOf_of_handed {ingester : Ingester} {archive : String}
    {disk : Disk} {pod : Pod}
    (isHanded : .pod pod ∈ ingester.handed archive disk) :
    ∃ manifest, IsPodOf manifest pod := by
  rw [Ingester.handed] at isHanded
  rcases result : ingester.prepare archive disk with ⟨_ | _, staged⟩
  · rw [result] at isHanded
    cases isHanded
  · rw [result] at isHanded
    exact exists_isPodOf_of_mem_recordsOf isHanded

/-! ## Runs -/

/-- Something happens that is no ingestion: the file at a path reads as it did,
or is missing still, and relative paths start where they did. -/
structure Spares (path : String) (disk after : Disk) : Prop where
  readable : ∀ octets,
    disk.read path = .ok octets → after.read path = .ok octets
  missing : disk.tree.fileAt? (disk.place path) = none →
    after.tree.fileAt? (disk.place path) = none
  workingDirectory : after.workingDirectory = disk.workingDirectory

/-- Ingestions that succeed one after the other, with all records that they hand
to the store.  In between, the store and other files may change. -/
inductive Ingester.Ingests (ingester : Ingester) (disk : Disk) :
    List Record → Disk → Prop where
  | start : Ingests ingester disk [] disk
  | ingest {handed : List Record} {between after : Disk} {archive : String}
      {store store' : Store} {report : Report} :
      Ingests ingester disk handed between →
      ingester.ingest archive between store = (.ok report, after, store') →
      Ingests ingester disk (handed ++ ingester.handed archive between) after
  | spare {handed : List Record} {between after : Disk} :
      Ingests ingester disk handed between →
      Spares ingester.enrichment between after →
      Ingests ingester disk handed after

variable {ingester : Ingester} {disk between after : Disk}
  {handed : List Record} {path : String}

theorem Holds.of_spares (holds : Holds disk path table)
    (spares : Spares path disk after) : Holds after path table := by
  cases holds with
  | missing noFile =>
      apply Holds.missing
      rw [Disk.place_congr spares.workingDirectory]
      exact spares.missing noFile
  | readable isRead isTable =>
      exact .readable (spares.readable _ isRead) isTable

/-- The invariant is that the file has the entries of all pods handed over so
far. -/
theorem Ingester.Ingests.holds
    (ingests : ingester.Ingests disk handed after)
    (avoids : disk.Avoids ingester.enrichment ingester.staging)
    (holds : Holds disk ingester.enrichment table) :
    Holds after ingester.enrichment (enrich table handed) ∧
      after.workingDirectory = disk.workingDirectory := by
  induction ingests with
  | start => exact ⟨holds, rfl⟩
  | ingest _ ingested induction =>
      obtain ⟨holdsBefore, sameStart⟩ := induction
      obtain ⟨holdsAfter, sameStartAgain⟩ :=
        holds_of_ingest (avoids.congr sameStart) holdsBefore ingested
      rw [enrich_append]
      exact ⟨holdsAfter, sameStartAgain.trans sameStart⟩
  | spare _ spares induction =>
      obtain ⟨holdsBefore, sameStart⟩ := induction
      exact ⟨holdsBefore.of_spares spares,
        spares.workingDirectory.trans sameStart⟩

theorem Ingester.Ingests.exists_isPodOf
    (ingests : ingester.Ingests disk handed after) {pod : Pod}
    (isHanded : .pod pod ∈ handed) : ∃ manifest, IsPodOf manifest pod := by
  induction ingests with
  | start => cases isHanded
  | ingest _ _ induction =>
      rcases List.mem_append.mp isHanded with isEarlier | isLater
      · exact induction isEarlier
      · exact exists_isPodOf_of_handed isLater
  | spare _ _ induction => exact induction isHanded

/-- Opening the database spares every file but that of the database. -/
theorem Spares.of_opened {databasePath : String} {store store' : Store}
    (elsewhere : disk.place path ≠ disk.place databasePath)
    (opened : Store.Opened databasePath store disk store' after) :
    Spares path disk after := by
  constructor
  case readable =>
    intro octets isRead
    have located := Disk.exists_locate_of_read isRead
    apply Disk.read_of_locate
      (Disk.locate_of_kept opened.kept opened.workingDirectory located)
    rw [opened.files _ elsewhere]
    exact Disk.fileAt?_of_read isRead
  case missing =>
    intro noFile
    rw [opened.files _ elsewhere]
    exact noFile
  case workingDirectory => exact opened.workingDirectory

/-- An import that succeeds opens the database and ingests its archive. -/
theorem Ingester.Ingests.importArchive {archive databasePath : String}
    {now : Time.Instant} {store store' : Store} {report : Report}
    (ingests : ingester.Ingests disk handed between)
    (elsewhere : between.place ingester.enrichment ≠
      between.place databasePath)
    (imported : ingester.importArchive archive databasePath now between store =
      (.ok report, after, store')) :
    ∃ opened, ingester.Ingests disk
      (handed ++ ingester.handed archive opened) after := by
  rw [importArchive_eq] at imported
  rcases accepted : accept archive databasePath between store with
    ⟨_ | name, opened, ready⟩
  · rw [accepted] at imported
    cases imported
  · rw [accepted] at imported
    dsimp only at imported
    rcases ingested : ingester.ingest archive opened ready with
      ⟨_ | report', disk', filled⟩
    · rw [ingested] at imported
      cases imported
    · rw [ingested] at imported
      cases imported
      have opens : Store.Opened databasePath store between ready opened := by
        rcases accept_cases accepted with
          ⟨_, refused, _⟩ | ⟨_, refused, _⟩ | ⟨_, _, opens, _⟩
        · cases refused
        · cases refused
        · exact opens
      exact ⟨opened,
        (ingests.spare (.of_opened elsewhere opens)).ingest ingested⟩

/-- A table is loaded as it was saved, and what an ingestion hands to the store
is what the store gets.  Ingestions leave the entry of the last pod under each
key, taken from the manifest of the pod, and under other keys what was there. -/
theorem enrichment_of_ingests
    (avoids : disk.Avoids ingester.enrichment ingester.staging)
    (holds : Holds disk ingester.enrichment table)
    (ingests : ingester.Ingests disk handed after) :
    (∀ (table : EnrichmentTable) path before saved,
      Assoc.IsSorted table →
        saveEnrichment table path before = (.ok (), saved) →
          loadEnrichment path saved = .ok table) ∧
      (∀ archive before store,
        (ingester.ingest archive before store).2.2 =
          (store.addAll (ingester.handed archive before)).2) ∧
      (∀ pod, .pod pod ∈ handed → ∃ manifest, IsPodOf manifest pod) ∧
      ∃ table', Holds after ingester.enrichment table' ∧
        ∀ key, Assoc.get? key table' =
          ((lastPod? key handed).map .ofPod).or (Assoc.get? key table) :=
  ⟨fun _ _ _ _ isSorted saved =>
      loadEnrichment_of_saveEnrichment isSorted saved,
    store_ingest ingester, fun _ => ingests.exists_isPodOf,
    enrich table handed, (ingests.holds avoids holds).1,
      fun _ => get?_enrich table handed⟩

/-! ## A pod under a new key -/

/-- What is known of a pod from before. -/
def oldTable : EnrichmentTable :=
  [("vms/old", { hostName := "node-b", uid := "u-0" })]

/-- Where the manifest of a pod lies. -/
def podRoute : Route :=
  ["namespaces", "vms", "pods", "web-1", "web-1.yaml"]

/-- The manifest of a pod and a time stamp. -/
def podMembers : List Archive.Member :=
  [fileAt "namespaces/vms/pods/web-1/web-1.yaml" (Text.Utf8.encode
      ("metadata:\n  name: web-1\n  namespace: vms\n  uid: u-1\n" ++
        "  creationTimestamp: 2024-03-01T08:00:00Z\n" ++
        "spec:\n  nodeName: node-a\n")),
    stamp]

def podArchive : Bytes :=
  Archive.Gzip.write (Archive.Tar.write podMembers)

theorem read_podArchive :
    Archive.Tar.read (Archive.Gzip.read podArchive) = ⟨podMembers, false⟩ := by
  rw [podArchive, Archive.Gzip.read_write]
  decide +kernel

/-- A disk with the archive and a file that says what is known. -/
def podDisk (file : Route) : Disk where
  tree := ({} : FileTree).put ["space"] .directory
    |>.put file (.file (EnrichmentTable.write oldTable))
    |>.put ["mg.tar.gz"] (.file podArchive)

/-- Two files, of which one lies in the staging directory. -/
def tableFiles : List (String × Route) :=
  [("/result.json", ["result.json"]),
    ("/space/result.json", ["space", "result.json"])]

/-- The disk once the archive was extracted. -/
def extractedDisk (file : Route) : Disk :=
  let emptied := (resetStaging "/space" (podDisk file)).2
  let made := (emptied.makeDirectories "/space").2
  { made with
    tree := (extractMembers ["space"] podMembers {} made.tree).2 }

theorem fileAt?_podDisk (file : Route) :
    (podDisk file).tree.fileAt? ["mg.tar.gz"] = some podArchive := by
  rw [podDisk, FileTree.fileAt?, FileTree.at?_put_self (List.cons_ne_nil _ _)]

theorem extract_podDisk {path : String} {file : Route}
    (isFile : (path, file) ∈ tableFiles) :
    resetStaging "/space" (podDisk file) =
        (.ok (), (resetStaging "/space" (podDisk file)).2) ∧
      ∃ extraction,
        extract "/mg.tar.gz" "/space" (resetStaging "/space" (podDisk file)).2 =
          (.ok extraction, extractedDisk file) := by
  have steps : ∀ pair ∈ tableFiles,
      let emptied := resetStaging "/space" (podDisk pair.2)
      let made := emptied.2.makeDirectories "/space"
      emptied.1.toOption.isSome = true ∧ made.1 = .ok ["space"] ∧
        (made.2.read "/mg.tar.gz").toOption.isSome = true ∧
        made.2.place "/mg.tar.gz" = ["mg.tar.gz"] ∧
        ¬ (podDisk pair.2).place "/space" <+: ["mg.tar.gz"] ∧
        (extractMembers ["space"] podMembers {} made.2.tree).1.toOption.isSome =
          true := by
    decide +kernel
  obtain ⟨reset, makes, readable, place, outside, ran⟩ := steps _ isFile
  obtain ⟨_, isReset⟩ := exists_ok_of_isSome reset
  obtain ⟨extraction, hasRun⟩ := exists_ok_of_isSome ran
  have keeps := keepsOutside_resetStaging "/space" (podDisk file)
  have makesWay := Disk.makesWay_makeDirectories
    (resetStaging "/space" (podDisk file)).2 "/space"
  have isArchive : ((resetStaging "/space" (podDisk file)).2.makeDirectories
      "/space").2.tree.fileAt? ["mg.tar.gz"] = some podArchive := by
    rw [makesWay.files, keeps.files _ outside, fileAt?_podDisk]
  rw [← place] at isArchive
  exact ⟨Prod.ext isReset rfl, extraction,
    extract_of_contents (Prod.ext makes rfl)
      (read_eq_of_isSome readable isArchive) read_podArchive
      (Prod.ext hasRun rfl)⟩

theorem filesBelow_extractedDisk : ∀ pair ∈ tableFiles,
    filesBelow (extractedDisk pair.2).tree ["space"] =
      [podRoute, ["timestamp"]] := by
  intro pair isPair
  rw [filesBelow, FileTree.below, List.mergeSort_of_pairwise]
  · revert pair
    decide +kernel
  · revert pair
    decide +kernel

theorem found_extractedDisk : ∀ pair ∈ tableFiles,
    Ingester.found ⟨"/space", pair.1⟩ (extractedDisk pair.2) =
      [(.pod, podRoute)] := by
  intro pair isPair
  have root : ∀ pair ∈ tableFiles,
      stagingRoute "/space" (extractedDisk pair.2) = ["space"] ∧
        (extractedDisk pair.2).tree.at? ["space"] = some .directory := by
    decide +kernel
  obtain ⟨isRoot, isDirectory⟩ := root pair isPair
  have named : ¬"/space".isEmpty = true := by decide
  rw [Ingester.found, if_neg named, isRoot]
  simp only [foundManifests, Layout.find, if_pos isDirectory,
    filesBelow_extractedDisk pair isPair]
  decide +kernel

theorem ingest_podDisk {path : String} {file : Route}
    (isFile : (path, file) ∈ tableFiles) (store : Store) :
    let ingester : Ingester := ⟨"/space", path⟩
    (∃ report after store',
      ingester.ingest "/mg.tar.gz" (podDisk file) store =
        (.ok report, after, store')) ∧
      ingester.handed "/mg.tar.gz" (podDisk file) =
        recordsOf (ingester.manifests (extractedDisk file)) := by
  intro ingester
  have facts : ∀ pair ∈ tableFiles,
      liesWithin (podDisk pair.2) "/mg.tar.gz" "/space" = false ∧
        (readGatherTime "/space" (extractedDisk pair.2)).toOption.isSome =
          true ∧
        (loadEnrichment pair.1 (extractedDisk pair.2)).toOption.isSome = true ∧
        (saveEnrichment [] pair.1 (extractedDisk pair.2)).1.toOption =
          some () := by
    decide +kernel
  obtain ⟨outside, gathers, loads, saves⟩ := facts _ isFile
  obtain ⟨gatherTime, gathered⟩ := exists_ok_of_isSome gathers
  obtain ⟨table, loaded⟩ := exists_ok_of_isSome loads
  obtain ⟨_, saved⟩ := exists_ok_of_isSome (by rw [saves]; rfl)
  obtain ⟨reset, extraction, extracted⟩ := extract_podDisk isFile
  have prepared : ingester.prepare "/mg.tar.gz" (podDisk file) =
      (.ok ⟨extraction, gatherTime, table⟩, extractedDisk file) := by
    rw [Ingester.prepare, outside, if_neg Bool.false_ne_true, reset]
    dsimp only
    rw [extracted]
    dsimp only
    rw [Ingester.inspect, gathered, loaded]
    rfl
  constructor
  · obtain ⟨after, isSaved⟩ := exists_saveEnrichment_of_sameShape
      ⟨fun _ => rfl, rfl⟩ (Prod.ext saved rfl)
      (ingester.read ⟨extraction, gatherTime, table⟩ (extractedDisk file)
        store).table
    rw [ingest_eq, prepared]
    dsimp only
    rw [Ingester.complete, isSaved]
    exact ⟨_, _, _, rfl⟩
  · rw [Ingester.handed, prepared]

theorem lastPod?_podDisk {path : String} {file : Route}
    (isFile : (path, file) ∈ tableFiles) :
    let handed := Ingester.handed ⟨"/space", path⟩ "/mg.tar.gz" (podDisk file)
    (lastPod? "vms/web-1" handed).map EnrichmentEntry.ofPod =
        some { hostName := "node-a", uid := "u-1" } ∧
      (lastPod? "vms/old" handed).map EnrichmentEntry.ofPod = none := by
  have read : ∀ pair ∈ tableFiles,
      let handed := recordsOf ([(Kind.pod, podRoute)].map
        (Ingester.manifest ⟨"/space", pair.1⟩ (extractedDisk pair.2)))
      (lastPod? "vms/web-1" handed).map EnrichmentEntry.ofPod =
          some { hostName := "node-a", uid := "u-1" } ∧
        (lastPod? "vms/old" handed).map EnrichmentEntry.ofPod = none := by
    decide +kernel
  have isHanded := (ingest_podDisk isFile (Store.new 3 1 1)).2
  rw [Ingester.manifests, found_extractedDisk _ isFile] at isHanded
  rw [isHanded]
  exact read (path, file) isFile

theorem isSorted_oldTable : Assoc.IsSorted oldTable :=
  List.pairwise_singleton _ _

theorem holds_podDisk {path : String} {file : Route}
    (isFile : (path, file) ∈ tableFiles) :
    Holds (podDisk file) path oldTable := by
  have located : ∀ pair ∈ tableFiles,
      ((podDisk pair.2).locate pair.1).toOption = some pair.2 ∧
        pair.2 ≠ [] ∧ pair.2 ≠ ["mg.tar.gz"] := by
    decide +kernel
  obtain ⟨leads, named, different⟩ := located (path, file) isFile
  obtain ⟨route, isLocated⟩ := exists_ok_of_isSome (by rw [leads]; rfl)
  rw [isLocated] at leads
  cases leads
  apply Holds.readable (Disk.read_of_locate isLocated _)
    (EnrichmentTable.read?_write_of_isSorted isSorted_oldTable)
  rw [podDisk, FileTree.fileAt?, FileTree.at?_put_of_ne different,
    FileTree.at?_put_self named]

/-- The pod is new to the file, which lies outside of the staging directory. -/
theorem enrichment_of_podDisk :
    let ingester : Ingester := ⟨"/space", "/result.json"⟩
    let disk := podDisk ["result.json"]
    disk.Avoids ingester.enrichment ingester.staging ∧
      Holds disk ingester.enrichment oldTable ∧
      ∃ handed after, ingester.Ingests disk handed after ∧
        ∃ table, Holds after ingester.enrichment table ∧
          Assoc.get? "vms/web-1" table =
            some { hostName := "node-a", uid := "u-1" } ∧
          Assoc.get? "vms/old" table =
            some { hostName := "node-b", uid := "u-0" } := by
  intro ingester disk
  have isFile : ("/result.json", ["result.json"]) ∈ tableFiles :=
    List.mem_cons_self
  have avoids : disk.Avoids ingester.enrichment ingester.staging :=
    ⟨by decide +kernel, by decide +kernel⟩
  obtain ⟨⟨report, after, store', ingested⟩, _⟩ :=
    ingest_podDisk isFile (Store.new 3 1 1)
  have ingests : ingester.Ingests disk
      ([] ++ ingester.handed "/mg.tar.gz" disk) after := .ingest .start ingested
  obtain ⟨_, _, _, table, holds, entries⟩ :=
    enrichment_of_ingests avoids (holds_podDisk isFile) ingests
  obtain ⟨isNew, isOld⟩ := lastPod?_podDisk isFile
  refine ⟨avoids, holds_podDisk isFile, _, after, ingests, table, holds, ?_, ?_⟩
  · rw [entries, List.nil_append, isNew]
    rfl
  · rw [entries, List.nil_append, isOld]
    rfl

/-- A file in the staging directory is not there any more when it is loaded. -/
theorem forgotten_of_podDisk :
    let ingester : Ingester := ⟨"/space", "/space/result.json"⟩
    let disk := podDisk ["space", "result.json"]
    Holds disk ingester.enrichment oldTable ∧
      Assoc.get? "vms/old" oldTable =
        some { hostName := "node-b", uid := "u-0" } ∧
      ∃ handed after, ingester.Ingests disk handed after ∧
        lastPod? "vms/old" handed = none ∧
        ∃ table, loadEnrichment ingester.enrichment after = .ok table ∧
          Assoc.get? "vms/old" table = none := by
  intro ingester disk
  have isFile : ("/space/result.json", ["space", "result.json"]) ∈ tableFiles :=
    by decide
  obtain ⟨⟨report, after, store', ingested⟩, _⟩ :=
    ingest_podDisk isFile (Store.new 3 1 1)
  obtain ⟨emptied, extraction, extracted, loaded, _, reset, extracts, isLoaded,
    saved⟩ := exists_loadEnrichment_of_ingest ingested
  -- The table is loaded from the disk once it was emptied and extracted to.
  have isExtracted : extracted = extractedDisk ["space", "result.json"] := by
    obtain ⟨isReset, extraction', extracts'⟩ := extract_podDisk isFile
    have isEmptied := congrArg Prod.snd (reset.symm.trans isReset)
    dsimp only at isEmptied
    rw [isEmptied] at extracts
    exact congrArg Prod.snd (extracts.symm.trans extracts')
  have isMissing : (loadEnrichment ingester.enrichment
      (extractedDisk ["space", "result.json"])).toOption = some [] := by
    decide +kernel
  rw [← isExtracted, isLoaded] at isMissing
  have isEmpty : loaded = [] := Option.some.inj isMissing
  rw [isEmpty] at saved
  have isOld := Option.map_eq_none_iff.mp (lastPod?_podDisk isFile).2
  refine ⟨holds_podDisk isFile, by decide, _, after, .ingest .start ingested,
    ?_, _, loadEnrichment_of_saveEnrichment
      (isSorted_enrich List.Pairwise.nil _) saved, ?_⟩
  · rw [List.nil_append, isOld]
  · rw [get?_enrich, isOld]
    rfl

end ClusterTrace.Ingest
