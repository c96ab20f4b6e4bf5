import ClusterTrace.Proofs.Ingest.FoundManifests
import ClusterTrace.Proofs.Ingest.ReadManifests

/-!
# Broken manifests stay alone

An import hands over the records of all manifests that can be decoded and
reports the others.  If one that can be decoded is broken, its records are
missing and it is reported, and nothing else in the report changes.
-/

namespace ClusterTrace.Ingest

variable {disk : Disk} {route : Route} {content : Bytes}

/-! ## The staging directory -/

/-- The manifests of the staging directory, in the order in which they are
read. -/
def Ingester.found (ingester : Ingester) (disk : Disk) : List (Kind × Route) :=
  if ingester.staging.isEmpty then []
  else foundManifests disk.tree (stagingRoute ingester.staging disk)

/-- The place of a manifest. -/
def Ingester.place (ingester : Ingester) (disk : Disk) (found : Kind × Route) :
    Route :=
  stagingRoute ingester.staging disk ++ found.2

/-- A manifest that was found. -/
def Ingester.manifest (ingester : Ingester) (disk : Disk)
    (found : Kind × Route) : ManifestFile where
  kind := found.1
  path := Path.joinNames ingester.staging found.2
  content := contentAt disk.tree (ingester.place disk found)

/-- The manifest with other content. -/
def ManifestFile.withContent (file : ManifestFile) (content : Bytes) :
    ManifestFile :=
  { file with content := content }

/-- The manifests of the staging directory with their contents. -/
def Ingester.manifests (ingester : Ingester) (disk : Disk) :
    List ManifestFile :=
  (ingester.found disk).map (ingester.manifest disk)

variable {ingester : Ingester} {extraction : Extraction} {disk' : Disk}
  {store store' : Store} {report : Report} {found : Kind × Route}

theorem manifests_eq (ingester : Ingester) (disk : Disk) :
    ingester.manifests disk =
      if ingester.staging.isEmpty then []
      else manifestFiles disk.tree (stagingRoute ingester.staging disk)
        ingester.staging := by
  rw [Ingester.manifests, Ingester.found]
  split
  · rfl
  · rw [foundManifests, manifestFiles, List.map_flatMap]
    simp only [List.map_map]
    rfl

theorem exists_layout_of_mem_found (isFound : found ∈ ingester.found disk) :
    ∃ layout ∈ layouts, layout.accepts found.2 ∧
      found.2 ∈ filesBelow disk.tree (stagingRoute ingester.staging disk) := by
  rw [Ingester.found] at isFound
  split at isFound
  · cases isFound
  · obtain ⟨layout, isLayout, _, inFind⟩ :=
      exists_layout_of_mem_foundManifests isFound
    exact ⟨layout, isLayout, mem_find inFind⟩

theorem isFile_of_mem_found (isFound : found ∈ ingester.found disk) :
    ∃ content, disk.tree.at? (ingester.place disk found) =
      some (.file content) := by
  obtain ⟨_, _, _, isFile⟩ := exists_layout_of_mem_found isFound
  exact at?_of_mem_filesBelow isFile

theorem nodup_found (ingester : Ingester) (disk : Disk) :
    ((ingester.found disk).map (ingester.place disk)).Nodup := by
  rw [Ingester.found]
  split
  · exact List.nodup_nil
  · have distinct := nodup_foundManifests disk.tree
      (stagingRoute ingester.staging disk)
    have places := distinct.map
      (List.append_right_injective (stagingRoute ingester.staging disk))
    rw [List.map_map] at places
    exact places

theorem getLast?_place_ne (isFound : found ∈ ingester.found disk) :
    (ingester.place disk found).getLast? ≠ some timestampName := by
  obtain ⟨layout, isLayout, accepts, _⟩ := exists_layout_of_mem_found isFound
  rw [Ingester.place,
    List.getLast?_append_of_ne_nil _ (ne_nil_of_accepts isLayout accepts)]
  exact getLast?_ne_timestampName isLayout accepts

/-! ## Reading the staging directory -/

/-- What is known before the first manifest is read. -/
def Progress.start (extraction : Extraction) (store : Store)
    (gatherTime : Time.Instant) (table : EnrichmentTable) : Progress where
  report := { gatherTime := gatherTime, extraction := extraction }
  table := table
  store := store

/-- What is known after the last manifest. -/
def Ingester.progress (ingester : Ingester) (extraction : Extraction)
    (disk : Disk) (store : Store) (gatherTime : Time.Instant)
    (table : EnrichmentTable) : Progress :=
  (ingester.manifests disk).foldl readManifest
    (.start extraction store gatherTime table)

theorem readStaged_eq {gatherTime : Time.Instant} {table : EnrichmentTable}
    (gathered : readGatherTime ingester.staging disk = .ok gatherTime)
    (loaded : loadEnrichment ingester.enrichment disk = .ok table) :
    ingester.readStaged extraction disk store =
      let progress :=
        ingester.progress extraction disk store gatherTime table
      let saved := saveEnrichment progress.table ingester.enrichment disk
      (saved.1.map fun _ => progress.report, saved.2, progress.store) := by
  rw [Ingester.readStaged, ← manifests_eq, gathered, loaded]
  rfl

/-- What stands before a report. -/
theorem exists_progress_of_readStaged
    (imported : ingester.readStaged extraction disk store =
      (.ok report, disk', store')) :
    ∃ gatherTime table,
      readGatherTime ingester.staging disk = .ok gatherTime ∧
        loadEnrichment ingester.enrichment disk = .ok table ∧
        let progress :=
          ingester.progress extraction disk store gatherTime table
        saveEnrichment progress.table ingester.enrichment disk =
            (.ok (), disk') ∧
          progress.report = report ∧ progress.store = store' := by
  cases gathered : readGatherTime ingester.staging disk with
  | error failure =>
      rw [Ingester.readStaged, gathered] at imported
      cases imported
  | ok gatherTime =>
      cases loaded : loadEnrichment ingester.enrichment disk with
      | error failure =>
          rw [Ingester.readStaged, gathered, loaded] at imported
          cases imported
      | ok table =>
          refine ⟨gatherTime, table, rfl, rfl, ?_⟩
          rw [readStaged_eq gathered loaded] at imported
          dsimp only at imported ⊢
          cases saved : saveEnrichment _ ingester.enrichment disk with
          | mk result after =>
              rw [saved] at imported
              cases result with
              | error failure => cases imported
              | ok =>
                  cases imported
                  exact ⟨rfl, rfl, rfl⟩

/-- An archive that is ingested is read from the staging directory into which it
was extracted. -/
theorem readStaged_of_ingest {archive : String}
    (ingested : ingester.ingest archive disk store =
      (.ok report, disk', store')) :
    ∃ emptied extraction staged,
      resetStaging ingester.staging disk = (.ok (), emptied) ∧
        extract archive ingester.staging emptied = (.ok extraction, staged) ∧
        ingester.readStaged extraction staged store =
          (.ok report, disk', store') := by
  rw [Ingester.ingest] at ingested
  split at ingested
  · cases ingested
  · split at ingested
    · cases ingested
    · rename_i emptied isEmptied
      split at ingested
      · cases ingested
      · rename_i extraction staged extracted
        exact ⟨emptied, extraction, staged, isEmptied, extracted, ingested⟩

/-! ## A broken manifest -/

variable {earlier later : List (Kind × Route)} {bad : Bytes}

theorem readGatherTime_withContent (isFound : found ∈ ingester.found disk)
    (bad : Bytes) :
    readGatherTime ingester.staging
        (disk.withContent (ingester.place disk found) bad) =
      readGatherTime ingester.staging disk := by
  obtain ⟨content, isFile⟩ := isFile_of_mem_found isFound
  have elsewhere : disk.locate (Path.join ingester.staging timestampName) ≠
      .ok (ingester.place disk found) := by
    intro located
    apply getLast?_place_ne isFound
    apply Disk.getLast?_of_locate _ _ _ located
    · exact ⟨by decide, by decide⟩
    · decide
    · decide +kernel
  rw [readGatherTime, Disk.read_withContent isFile elsewhere, readGatherTime]

theorem exists_loadEnrichment_withContent
    (isFile : disk.tree.at? route = some (.file content)) (bad : Bytes)
    {path : String} {table : EnrichmentTable}
    (loaded : loadEnrichment path disk = .ok table) :
    ∃ table', loadEnrichment path (disk.withContent route bad) =
      .ok table' := by
  rw [loadEnrichment] at loaded ⊢
  rcases Disk.read_withContent_cases isFile bad path with same | changed
  · rw [same]
    exact ⟨table, loaded⟩
  · rw [changed]
    exact ⟨_, rfl⟩

theorem exists_saveEnrichment_of_sameShape {other : Disk}
    (same : Disk.SameShape disk other) {table : EnrichmentTable}
    {path : String}
    (saved : saveEnrichment table path disk = (.ok (), disk'))
    (table' : EnrichmentTable) :
    ∃ after, saveEnrichment table' path other = (.ok (), after) := by
  rw [saveEnrichment] at saved ⊢
  obtain ⟨sameResult, sameAfter⟩ :=
    same.makeDirectories ((Path.parent? path).getD "")
  split at saved
  · cases saved
  · rename_i route between made
    rw [made] at sameResult sameAfter
    cases made' : other.makeDirectories ((Path.parent? path).getD "") with
    | mk result between' =>
        rw [made'] at sameResult sameAfter
        dsimp only at sameResult sameAfter
        subst sameResult
        split at saved
        · cases saved
        · rename_i written
          obtain ⟨after, isWritten⟩ := sameAfter.write written
          refine ⟨after, ?_⟩
          dsimp only
          rw [isWritten]

theorem found_withContent (isFound : found ∈ ingester.found disk)
    (bad : Bytes) :
    ingester.place (disk.withContent (ingester.place disk found) bad) =
        ingester.place disk ∧
      ingester.found (disk.withContent (ingester.place disk found) bad) =
        ingester.found disk := by
  obtain ⟨content, isFile⟩ := isFile_of_mem_found isFound
  have sameRoot : stagingRoute ingester.staging
        (disk.withContent (ingester.place disk found) bad) =
      stagingRoute ingester.staging disk := by
    rw [stagingRoute, stagingRoute,
      (Disk.sameShape_withContent isFile bad).canonical?]
    rfl
  constructor
  · funext other
    rw [Ingester.place, sameRoot, ← Ingester.place]
  · rw [Ingester.found, Ingester.found, sameRoot, Disk.withContent,
      foundManifests_put isFile]

/-- Of all manifests the broken one changes, and only its content. -/
theorem manifests_withContent
    (isFound : ingester.found disk = earlier ++ found :: later) (bad : Bytes) :
    ingester.manifests (disk.withContent (ingester.place disk found) bad) =
      earlier.map (ingester.manifest disk) ++
        (ingester.manifest disk found).withContent bad ::
          later.map (ingester.manifest disk) := by
  have isMember : found ∈ ingester.found disk := by
    rw [isFound]
    exact List.mem_append_right _ List.mem_cons_self
  obtain ⟨content, isFile⟩ := isFile_of_mem_found isMember
  obtain ⟨samePlace, sameFound⟩ := found_withContent isMember bad
  have inside := FileTree.ne_nil_of_at?_eq_file isFile
  have distinct := nodup_found ingester disk
  rw [isFound, List.map_append, List.map_cons, List.nodup_middle,
    List.nodup_cons, List.mem_append, not_or] at distinct
  obtain ⟨⟨notEarlier, notLater⟩, _⟩ := distinct
  have others : ∀ {list : List (Kind × Route)},
      ingester.place disk found ∉ list.map (ingester.place disk) →
      list.map (ingester.manifest
          (disk.withContent (ingester.place disk found) bad)) =
        list.map (ingester.manifest disk) := by
    intro list notHere
    apply List.map_congr_left
    intro other isOther
    have different : ingester.place disk other ≠
        ingester.place disk found := by
      intro same
      exact notHere (List.mem_map.mpr ⟨other, isOther, same⟩)
    rw [Ingester.manifest, Ingester.manifest, samePlace, Disk.withContent,
      contentAt_put_of_ne different]
  rw [Ingester.manifests, sameFound, isFound, List.map_append, List.map_cons,
    others notEarlier, others notLater, Ingester.manifest, samePlace,
    Disk.withContent, contentAt_put_self inside]
  rfl

/-- What an import of manifests loses when one of them is broken: its records,
in the store and in the counts; and it is reported where it was read. -/
structure Loses (before : List ManifestFile) (file : ManifestFile)
    (after : List ManifestFile) (records : List Record) (failure : Failure)
    (store : Store) (report report' : Report) (filled filled' : Store) :
    Prop where
  filled : filled =
    (store.addAll (recordsOf before ++ records ++ recordsOf after)).2
  filled' : filled' = (store.addAll (recordsOf before ++ recordsOf after)).2
  skipped : report.skipped = skippedOf before ++ skippedOf after
  skipped' : report'.skipped =
    skippedOf before ++ ⟨file.path, failure⟩ :: skippedOf after
  imported : report.imported = report'.imported + records.length
  perKind : ∀ kind, (report.perKind.get? kind).getD 0 =
    (report'.perKind.get? kind).getD 0 +
      if file.kind = kind then records.length else 0
  gatherTime : report'.gatherTime = report.gatherTime
  extraction : report'.extraction = report.extraction

theorem Loses.of_hasRead {start start' progress progress' : Progress}
    {before after : List ManifestFile} {file : ManifestFile}
    {records : List Record} {failure : Failure}
    (read : HasRead start (before ++ file :: after) progress)
    (read' : HasRead start' (before ++ file.withContent bad :: after) progress')
    (sameReport : start'.report = start.report)
    (sameStore : start'.store = start.store)
    (decodes : file.records = .ok records)
    (fails : (file.withContent bad).records = .error failure) :
    Loses before file after records failure start.store progress.report
      progress'.report progress.store progress'.store := by
  have nothing := decoded_of_error fails
  have all : recordsOf (before ++ file :: after) =
      recordsOf before ++ records ++ recordsOf after := by
    rw [recordsOf_append, recordsOf_cons, decoded_of_ok decodes,
      List.append_assoc]
  have most : recordsOf (before ++ file.withContent bad :: after) =
      recordsOf before ++ recordsOf after := by
    rw [recordsOf_append, recordsOf_cons, nothing, List.nil_append]
  constructor
  · rw [read.store, all]
  · rw [read'.store, most, sameStore]
  · rw [read.reports.skipped, skippedOf_append, skippedOf_cons,
      skipped?_of_ok decodes]
    rfl
  · rw [read'.reports.skipped, skippedOf_append, skippedOf_cons,
      skipped?_of_error fails]
    rfl
  · rw [read.reports.imported, read'.reports.imported, all, most]
    simp only [List.length_append]
    omega
  · intro kind
    rw [read.reports.getD_perKind, read'.reports.getD_perKind, countOf_append,
      countOf_append, countOf_cons, countOf_cons, decoded_of_ok decodes,
      nothing, List.length_nil, ite_self]
    omega
  · rw [read'.gatherTime, read.gatherTime, sameReport]
  · rw [read'.extraction, read.extraction, sameReport]

theorem hasRead_progress (gatherTime : Time.Instant)
    (table : EnrichmentTable) :
    HasRead (.start extraction store gatherTime table)
      (ingester.manifests disk)
      (ingester.progress extraction disk store gatherTime table) := by
  apply hasRead_foldl
  constructor
  · rfl
  · rfl
  · intro kind
    rfl
  · rfl

/-- An import hands over the records of the manifests that can be decoded, and
reports and counts all of them.  Other content in one of them that cannot be
decoded takes away its records only. -/
theorem readStaged_isolates
    (imported : ingester.readStaged extraction disk store =
      (.ok report, disk', store')) :
    (store' = (store.addAll (recordsOf (ingester.manifests disk))).2 ∧
        report.extraction = extraction ∧
        Reports (ingester.manifests disk) report) ∧
      ∀ earlier found later bad records failure,
        ingester.found disk = earlier ++ found :: later →
        (ingester.manifest disk found).records = .ok records →
        ((ingester.manifest disk found).withContent bad).records =
          .error failure →
        ∃ report' after filled',
          ingester.readStaged extraction
              (disk.withContent (ingester.place disk found) bad) store =
            (.ok report', after, filled') ∧
          Loses (earlier.map (ingester.manifest disk))
            (ingester.manifest disk found)
            (later.map (ingester.manifest disk)) records failure store report
            report' store' filled' := by
  obtain ⟨gatherTime, table, gathered, loaded, saved, rfl, rfl⟩ :=
    exists_progress_of_readStaged imported
  have read : HasRead (.start extraction store gatherTime table)
      (ingester.manifests disk) _ := hasRead_progress gatherTime table
  refine ⟨⟨read.store, read.extraction, read.reports⟩, ?_⟩
  intro earlier found later bad records failure isFound decodes fails
  have isMember : found ∈ ingester.found disk := by
    rw [isFound]
    exact List.mem_append_right _ List.mem_cons_self
  obtain ⟨content, isFile⟩ := isFile_of_mem_found isMember
  -- the broken file may be that of the enrichment data, which is no part of
  -- the report
  obtain ⟨table', loaded'⟩ :=
    exists_loadEnrichment_withContent isFile bad loaded
  have gathered' : readGatherTime ingester.staging
      (disk.withContent (ingester.place disk found) bad) = .ok gatherTime := by
    rw [readGatherTime_withContent isMember, gathered]
  let broken := disk.withContent (ingester.place disk found) bad
  let progress' := ingester.progress extraction broken store gatherTime table'
  obtain ⟨after, saved'⟩ := exists_saveEnrichment_of_sameShape
    (Disk.sameShape_withContent isFile bad) saved progress'.table
  have read' : HasRead (.start extraction store gatherTime table')
      (ingester.manifests broken) progress' :=
    hasRead_progress gatherTime table'
  rw [manifests_withContent isFound] at read'
  rw [Ingester.manifests, isFound, List.map_append, List.map_cons] at read
  refine ⟨progress'.report, after, progress'.store, ?_,
    .of_hasRead read read' rfl rfl decodes fails⟩
  rw [readStaged_eq gathered' loaded']
  dsimp only
  rw [saved']
  rfl

/-! ## A staging directory -/

theorem exists_ok_of_isSome {ε α : Type} {result : Except ε α}
    (isSome : result.toOption.isSome = true) : ∃ value, result = .ok value := by
  cases result with
  | error failure => cases isSome
  | ok value => exact ⟨value, rfl⟩

theorem exists_error_of_isNone {ε α : Type} {result : Except ε α}
    (isNone : result.toOption.isNone = true) :
    ∃ failure, result = .error failure := by
  cases result with
  | error failure => exact ⟨failure, rfl⟩
  | ok value => cases isNone

/-- Where subscriptions of a namespace lie. -/
def subscriptionRoute (name : String) : Route :=
  ["namespaces", "x", "operators.coreos.com", "subscriptions", name]

/-- A staging directory with a subscription and a broken one. -/
def twoSubscriptions : Disk where
  tree := ({} : FileTree).put ["space"] .directory
    |>.put ("space" :: subscriptionRoute "a.yaml")
      (.file (Text.Utf8.encode "{metadata: {uid: a}}"))
    |>.put ("space" :: subscriptionRoute "b.yaml")
      (.file (Text.Utf8.encode "["))
    |>.put ["space", "timestamp"]
      (.file (Text.Utf8.encode "2024-03-01 08:00:00 +0000 UTC"))

theorem found_twoSubscriptions (enrichment : String) :
    Ingester.found ⟨"space", enrichment⟩ twoSubscriptions =
      [(.subscription, subscriptionRoute "a.yaml"),
        (.subscription, subscriptionRoute "b.yaml")] := by
  have root : stagingRoute "space" twoSubscriptions = ["space"] := by
    decide +kernel
  have files : filesBelow twoSubscriptions.tree ["space"] =
      [subscriptionRoute "a.yaml", subscriptionRoute "b.yaml",
        ["timestamp"]] := by
    rw [filesBelow, FileTree.below, List.mergeSort_of_pairwise]
    · decide +kernel
    · decide +kernel
  have named : ¬"space".isEmpty = true := by decide
  rw [Ingester.found, root, if_neg named]
  simp only [foundManifests, Layout.find, files]
  decide +kernel

/-- The other subscription is broken too: its record is gone, it is reported
first, and the report of the first one stays. -/
theorem readStaged_of_two_broken_subscriptions :
    let ingester : Ingester := ⟨"space", "result.json"⟩
    let found := (Kind.subscription, subscriptionRoute "a.yaml")
    let other := (Kind.subscription, subscriptionRoute "b.yaml")
    let broken := twoSubscriptions.withContent
      (ingester.place twoSubscriptions found) [0x5B]
    let store := Store.new 3 1 1
    ∃ report disk' store' records failure,
      ingester.readStaged {} twoSubscriptions store =
          (.ok report, disk', store') ∧
        ingester.found twoSubscriptions = [] ++ found :: [other] ∧
        (ingester.manifest twoSubscriptions found).records = .ok records ∧
        (ManifestFile.withContent (ingester.manifest twoSubscriptions found)
          [0x5B]).records = .error failure ∧
        records.length = 1 ∧
        ∃ report' after filled',
          ingester.readStaged {} broken store = (.ok report', after, filled') ∧
            report.imported = report'.imported + 1 ∧
            report'.skipped =
              ⟨"space/namespaces/x/operators.coreos.com/subscriptions/a.yaml",
                failure⟩ :: report.skipped ∧
            filled' = store := by
  intro ingester found other broken store
  obtain ⟨gatherTime, gathered⟩ : ∃ gatherTime,
      readGatherTime ingester.staging twoSubscriptions = .ok gatherTime :=
    exists_ok_of_isSome (by decide +kernel)
  obtain ⟨table, loaded⟩ : ∃ table,
      loadEnrichment ingester.enrichment twoSubscriptions = .ok table :=
    exists_ok_of_isSome (by decide +kernel)
  obtain ⟨records, decodes⟩ : ∃ records,
      (ingester.manifest twoSubscriptions found).records = .ok records :=
    exists_ok_of_isSome (by decide +kernel)
  obtain ⟨failure, fails⟩ : ∃ failure,
      ((ingester.manifest twoSubscriptions found).withContent [0x5B]).records =
        .error failure :=
    exists_error_of_isNone (by decide +kernel)
  have one : records.length = 1 := by
    have length :
        (ingester.manifest twoSubscriptions found).records.toOption.map
          List.length = some 1 := by decide +kernel
    rw [decodes] at length
    exact Option.some.inj length
  have noOther : recordsOf [ingester.manifest twoSubscriptions other] = [] := by
    apply List.eq_nil_of_length_eq_zero
    decide +kernel
  have path : (ingester.manifest twoSubscriptions found).path =
      "space/namespaces/x/operators.coreos.com/subscriptions/a.yaml" := by
    decide +kernel
  let progress :=
    ingester.progress {} twoSubscriptions store gatherTime table
  obtain ⟨disk', saved⟩ : ∃ disk', saveEnrichment progress.table
      ingester.enrichment twoSubscriptions = (.ok (), disk') := by
    obtain ⟨_, saved⟩ : ∃ saved,
        (saveEnrichment [] ingester.enrichment twoSubscriptions).1 =
          .ok saved := exists_ok_of_isSome (by decide +kernel)
    exact exists_saveEnrichment_of_sameShape ⟨fun _ => rfl, rfl⟩
      (Prod.ext saved rfl) progress.table
  have imported : ingester.readStaged {} twoSubscriptions store =
      (.ok progress.report, disk', progress.store) := by
    rw [readStaged_eq gathered loaded]
    dsimp only
    rw [saved]
    rfl
  obtain ⟨report', after, filled', imported', loses⟩ :=
    (readStaged_isolates imported).2 [] found [other] [0x5B] records failure
      (found_twoSubscriptions _) decodes fails
  refine ⟨progress.report, disk', progress.store, records, failure, imported,
    found_twoSubscriptions _, decodes, fails, one, report', after, filled',
    imported', ?_, ?_, ?_⟩
  · rw [loses.imported, one]
  · rw [loses.skipped', loses.skipped, path]
    rfl
  · rw [loses.filled', List.map_singleton, noOther]
    rfl

end ClusterTrace.Ingest
