import ClusterTrace.Proofs.Ingest.TimestampPlace

/-!
# What an extraction has done

An extraction that succeeds gives every resource file a place of its own with
its own content and counts them.  It takes nothing away, and all that it adds
lies below the target.

One place can be taken unduly.  A resource of a second producer keeps the names
in front of it, and if the first of these is that of the time stamp, a directory
stands where the time stamp belongs.
-/

namespace ClusterTrace.Ingest

open Archive (Member MemberKind)

/-- What an extraction of members into a directory has done. -/
structure Accounts (target : Route) (members : List Member) (before : FileTree)
    (extraction : Extraction) (after : FileTree) : Prop where
  grows : FileTree.GrowsBelow target before after
  placed : ∀ entry ∈ resourceFiles members,
    IsFirstFree (treeAt target members before entry.2)
        (destination target (producerOf members) entry.1)
        (placeAt target members before entry) ∧
      after.at? (placeAt target members before entry) =
        some (.file entry.1.content)
  distinct : ((resourceFiles members).map (placeAt target members before)).Nodup
  newFile : ∀ route content, before.at? route = none →
    after.at? route = some (.file content) →
      route = timestampPlace target ∨
        route ∈ (resourceFiles members).map (placeAt target members before)
  files : extraction.files = (resourceFiles members).length
  renamed : extraction.renamed = (takenFiles target members before).length
  timestamp : after.at? (timestampPlace target) =
    (before.at? (timestampPlace target)).or
      ((decider? members).map timestampEntry)
  hasTimestamp : extraction.hasTimestamp = true ↔
    before.at? (timestampPlace target) = none ∧
      (decider? members).any isTimestamp = true

/-- The first time stamp of an archive, as it is written. -/
def firstTimestamp? (members : List Member) : Option FileEntry :=
  (members.find? isTimestamp).map fun member => .file member.content

variable {target : Route} {members : List Member} {extraction : Extraction}
  {tree after : FileTree}

/-- The member that decides brings the first time stamp just if it is one. -/
theorem map_timestampEntry_decider?_iff (members : List Member) :
    (decider? members).map timestampEntry = firstTimestamp? members ↔
      (decider? members).all isTimestamp = true := by
  rw [firstTimestamp?, decider?]
  cases found : members.find? (decidesTimestamp (producerOf members)) with
  | none =>
      have noTimestamp : members.find? isTimestamp = none := by
        rw [List.find?_eq_none] at found ⊢
        intro member isMember timestamp
        exact found member isMember
          (decidesTimestamp_of_isTimestamp timestamp _)
      simp [noTimestamp]
  | some decider =>
      rw [Option.map_some, Option.all_some]
      by_cases timestamp : isTimestamp decider = true
      · have isFirst : members.find? isTimestamp = some decider := by
          obtain ⟨_, earlier, later, rfl, before⟩ :=
            List.find?_eq_some_iff_append.mp found
          apply List.find?_eq_some_iff_append.mpr
          refine ⟨timestamp, earlier, later, rfl, ?_⟩
          intro member isMember
          rw [Bool.not_eq_true']
          apply Bool.eq_false_of_not_eq_true
          intro isEarlier
          have notDecider := before member isMember
          rw [decidesTimestamp_of_isTimestamp isEarlier] at notDecider
          cases notDecider
        simp [isFirst, timestampEntry, timestamp]
      · rw [timestampEntry, if_neg timestamp, iff_false_right timestamp]
        cases members.find? isTimestamp <;> simp

/-- An extraction that succeeds loses, overwrites and misplaces nothing.  The
place of the time stamp keeps what is there or holds the first time stamp,
unless a resource leads there before. -/
theorem accounts_extractMembers
    (isDirectory : tree.at? target = some .directory)
    (extracted : extractMembers target members {} tree =
      (.ok extraction, after)) :
    Accounts target members tree extraction after ∧
      (after.at? (timestampPlace target) =
          (tree.at? (timestampPlace target)).or (firstTimestamp? members) ↔
        tree.has (timestampPlace target) = true ∨
          (decider? members).all isTimestamp = true) := by
  obtain ⟨timestamp, hasTimestamp⟩ := timestamp_extractMembers extracted
  obtain ⟨files, renamed⟩ := counts_extractMembers extracted
  constructor
  · constructor
    · exact growsBelow_extractMembers isDirectory extracted
    · intro entry isEntry
      exact ⟨isFirstFree_placeAt isDirectory extracted entry isEntry,
        at?_placeAt isDirectory extracted entry isEntry⟩
    · exact nodup_placeAt isDirectory extracted
    · exact new_file_extractMembers isDirectory extracted
    · exact files
    · exact renamed
    · exact timestamp
    · exact hasTimestamp
  · rw [timestamp, FileTree.has]
    cases tree.at? (timestampPlace target) with
    | some entry => simp
    | none =>
        rw [Option.none_or, Option.none_or, map_timestampEntry_decider?_iff]
        simp

/-- The file of an archive at a path. -/
def fileAt (path : String) (content : Bytes) : Member where
  path := Text.Utf8.encode path
  kind := .file
  content := content

/-- Two pods come to one place below a directory that holds a third one. -/
theorem accounts_of_colliding_files :
    let members :=
      [fileAt "mg/timestamp" [7], fileAt "mg/namespaces/n/pod.yaml" [1],
        { fileAt "./mg//namespaces/n/pod.yaml" [2] with kind := .continuous },
        { fileAt "mg/namespaces/m/" [] with kind := .directory },
        fileAt "mg/namespaces/../pod.yaml" [3], fileAt "mg/about.html" [4]]
    let before := (({} : FileTree).put ["space"] .directory
      |>.put ["space", "namespaces"] .directory
      |>.put ["space", "namespaces", "n"] .directory
      |>.put ["space", "namespaces", "n", "pod.yaml"] (.file [0]))
    let extraction : Extraction :=
      { producer := some ["mg"], files := 2, renamed := 2,
        hasTimestamp := true }
    let after := (extractMembers ["space"] members {} before).2
    before.at? ["space"] = some .directory ∧
      extractMembers ["space"] members {} before = (.ok extraction, after) ∧
      (Accounts ["space"] members before extraction after ∧
        (after.at? (timestampPlace ["space"]) =
            (before.at? (timestampPlace ["space"])).or
              (firstTimestamp? members) ↔
          before.has (timestampPlace ["space"]) = true ∨
            (decider? members).all isTimestamp = true)) ∧
      after.at? ["space", "namespaces", "n", "pod.yaml"] = some (.file [0]) ∧
      after.at? ["space", "namespaces", "n", "pod_1.yaml"] = some (.file [1]) ∧
      after.at? ["space", "namespaces", "n", "pod_2.yaml"] = some (.file [2]) ∧
      after.at? ["space", "timestamp"] = some (.file [7]) := by
  intro members before extraction after
  have isDirectory : before.at? ["space"] = some .directory := by decide
  have extracted : extractMembers ["space"] members {} before =
      (.ok extraction, after) := by
    apply Prod.ext
    · decide +kernel
    · rfl
  refine ⟨isDirectory, extracted,
    accounts_extractMembers isDirectory extracted, ?_⟩
  decide +kernel

/-- The names that stay in front of a second producer's resource lead through
the place of the time stamp, which is then not written. -/
theorem timestamp_of_second_producer :
    let members :=
      [fileAt "a/namespaces/n/core/pods.yaml" [1],
        fileAt "timestamp/namespaces/n/core/services.yaml" [2],
        fileAt "a/timestamp" [7]]
    let before := ({} : FileTree).put ["space"] .directory
    let run := extractMembers ["space"] members {} before
    run.1 = .ok { producer := some ["a"], files := 2 } ∧
      firstTimestamp? members = some (.file [7]) ∧
      before.at? (timestampPlace ["space"]) = none ∧
      run.2.at? (timestampPlace ["space"]) = some .directory := by
  decide +kernel

/-! ## Archives on a disk -/

/-- The extraction of an archive on a disk is that of its members into the
directory that was made for them. -/
theorem extractMembers_of_extract {archive path : String} {disk disk' : Disk}
    (named : path ≠ "")
    (extracted : extract archive path disk = (.ok extraction, disk')) :
    ∃ root between octets,
      disk.makeDirectories path = (.ok root, between) ∧
        between.tree.at? root = some .directory ∧
        between.read archive = .ok octets ∧
        extractMembers root
            (Archive.Tar.read (Archive.Gzip.read octets)).members {}
            between.tree = (.ok extraction, disk'.tree) := by
  rw [extract] at extracted
  split at extracted
  · cases extracted
  · rename_i root between made
    have isDirectory := Disk.at?_of_makeDirectories named made
    split at extracted
    · cases extracted
    · rename_i octets content
      dsimp only at extracted
      split at extracted
      · cases extracted
      · rename_i result ran
        split at extracted
        · cases extracted
        · cases extracted
          refine ⟨root, between, octets, made, isDirectory, content, ?_⟩
          rw [← ran]

end ClusterTrace.Ingest
