import ClusterTrace.Proofs.Ingest.ExtractionSteps
import Mathlib.Data.List.Induction

/-!
# Extracted members

Every resource file of an archive comes to a place of its own below the target,
at which nothing was before, and nothing else is changed.
-/

namespace ClusterTrace.Ingest

open Archive (Member)

/-- The producer's names that an extraction takes off: those in front of the
first resource. -/
def firstProducer? (members : List Member) : Option (List String) :=
  members.findSome? fun member => (resourceNames? member).map (·.1)

/-- The producer's names, none where there is no resource. -/
def producerOf (members : List Member) : List String :=
  (firstProducer? members).getD []

/-- The resource files of an archive, with their positions. -/
def resourceFiles (members : List Member) : List (Member × Nat) :=
  members.zipIdx.filter fun entry => isResourceFile entry.1

/-- The tree that an extraction finds when it comes to a member. -/
def treeAt (target : Route) (members : List Member) (tree : FileTree)
    (index : Nat) : FileTree :=
  (extractMembers target (members.take index) {} tree).2

/-- The place of a resource file: the first free one when the extraction comes
to it. -/
def placeAt (target : Route) (members : List Member) (tree : FileTree)
    (entry : Member × Nat) : Route :=
  freePlace (treeAt target members tree entry.2)
    (destination target (producerOf members) entry.1)

variable {target : Route} {members : List Member} {member : Member}
  {extraction extraction' : Extraction} {tree between after : FileTree}

/-! ## One more member -/

theorem extractMembers_concat {start : Extraction} :
    extractMembers target (members ++ [member]) start tree =
        (.ok extraction', after) ↔
      ∃ extraction between,
        extractMembers target members start tree = (.ok extraction, between) ∧
          extractMember target member extraction between =
            (.ok extraction', after) := by
  induction members generalizing start tree with
  | nil =>
      rw [List.nil_append, extractMembers, extractMembers]
      constructor
      · intro extracted
        refine ⟨start, tree, rfl, ?_⟩
        split at extracted
        · cases extracted
        · rename_i step
          rw [extractMembers] at extracted
          cases extracted
          exact step
      · rintro ⟨_, _, ⟨rfl, rfl⟩, step⟩
        rw [step]
        dsimp only
        rw [extractMembers]
  | cons first rest induction =>
      rw [List.cons_append, extractMembers, extractMembers]
      split
      · constructor
        · intro refused
          cases refused
        · rintro ⟨_, _, refused, _⟩
          cases refused
      · exact induction

theorem firstProducer?_concat (members : List Member) (member : Member) :
    firstProducer? (members ++ [member]) =
      (firstProducer? members).or ((resourceNames? member).map (·.1)) := by
  rw [firstProducer?, List.findSome?_append, firstProducer?,
    List.findSome?_singleton]

theorem producerOf_concat_of_some
    (known : (firstProducer? members).isSome = true) (member : Member) :
    producerOf (members ++ [member]) = producerOf members := by
  obtain ⟨producer, isProducer⟩ := Option.isSome_iff_exists.mp known
  rw [producerOf, producerOf, firstProducer?_concat, isProducer]
  rfl

theorem isOutside_firstProducer? {producer : List String}
    (isProducer : firstProducer? members = some producer) :
    ∀ name ∈ producer, isRoot name = false := by
  obtain ⟨member, _, isOwn⟩ := List.exists_of_findSome?_eq_some isProducer
  obtain ⟨⟨own, below⟩, named, rfl⟩ := Option.map_eq_some_iff.mp isOwn
  exact (resourceNames?_eq_some_iff.mp named).2.1

theorem treeAt_concat {index : Nat} (inTime : index ≤ members.length)
    (member : Member) :
    treeAt target (members ++ [member]) tree index =
      treeAt target members tree index := by
  rw [treeAt, List.take_append_of_le_length inTime, treeAt]

theorem resourceFiles_concat (members : List Member) (member : Member) :
    resourceFiles (members ++ [member]) = resourceFiles members ++
      if isResourceFile member then [(member, members.length)] else [] := by
  rw [resourceFiles, List.zipIdx_append, List.filter_append, resourceFiles,
    Nat.zero_add, List.zipIdx_singleton, List.filter_singleton,
    Bool.cond_eq_ite]

theorem lt_length_of_mem_resourceFiles {entry : Member × Nat}
    (isEntry : entry ∈ resourceFiles members) :
    entry.2 < members.length := by
  have inRange := List.snd_lt_of_mem_zipIdx (List.mem_of_mem_filter isEntry)
  rw [Nat.add_zero] at inRange
  exact inRange

theorem firstProducer?_isSome_of_mem {entry : Member × Nat}
    (isEntry : entry ∈ resourceFiles members) :
    (firstProducer? members).isSome = true := by
  obtain ⟨inMembers, isFile⟩ := List.mem_filter.mp isEntry
  rw [isResourceFile, isResource_eq, Bool.and_eq_true] at isFile
  rw [firstProducer?, List.isSome_findSome?, List.any_eq_true]
  refine ⟨entry.1, List.fst_mem_of_mem_zipIdx inMembers, ?_⟩
  rw [Option.isSome_map]
  exact isFile.2

/-! ## Runs -/

theorem Extracts.producer_eq (step : Extracts target member extraction tree
    extraction' after) :
    extraction'.producer =
      extraction.producer.or ((resourceNames? member).map (·.1)) := by
  cases step with
  | other unnamed => rw [unnamed, Option.map_none, Option.or_none]
  | timestampKept unnamed => rw [unnamed, Option.map_none, Option.or_none]
  | timestampWritten unnamed => rw [unnamed, Option.map_none, Option.or_none]
  | noFile named => rw [named]; cases extraction.producer <;> rfl
  | directory named => rw [named]; cases extraction.producer <;> rfl
  | file named => rw [named]; cases extraction.producer <;> rfl

theorem Extracts.producerOf_eq (step : Extracts target member extraction tree
    extraction' after) (known : extraction.producer = firstProducer? members) :
    extraction'.producer.getD [] = producerOf (members ++ [member]) := by
  rw [step.producer_eq, known, ← firstProducer?_concat, producerOf]

/-- What one more member preserves holds after all members. -/
theorem extractMembers_induction
    {motive : List Member → Extraction → FileTree → Prop}
    (start : motive [] {} tree)
    (step : ∀ {members member extraction between extraction' after},
      extractMembers target members {} tree = (.ok extraction, between) →
      extraction.producer = firstProducer? members → extraction.IsOutside →
      Extracts target member extraction between extraction' after →
      motive members extraction between →
      motive (members ++ [member]) extraction' after)
    (extracted : extractMembers target members {} tree =
      (.ok extraction, after)) : motive members extraction after := by
  have strong : extraction.producer = firstProducer? members ∧
      motive members extraction after := by
    induction members using List.reverseRecOn generalizing extraction after with
    | nil =>
        rw [extractMembers] at extracted
        cases extracted
        exact ⟨rfl, start⟩
    | append_singleton members member induction =>
        obtain ⟨earlier, between, ran, last⟩ :=
          extractMembers_concat.mp extracted
        obtain ⟨isProducer, before⟩ := induction ran
        have outside : earlier.IsOutside := by
          intro producer known
          exact isOutside_firstProducer? (isProducer.symm.trans known)
        have extracts := extracts_extractMember outside last
        refine ⟨?_, step ran isProducer outside extracts before⟩
        rw [extracts.producer_eq, isProducer, firstProducer?_concat]
  exact strong.2

theorem growsBelow_extractMembers
    (isDirectory : tree.at? target = some .directory)
    (extracted : extractMembers target members {} tree =
      (.ok extraction, after)) :
    FileTree.GrowsBelow target tree after := by
  apply extractMembers_induction
    (motive := fun _ _ after => FileTree.GrowsBelow target tree after)
    (.refl target tree) _ extracted
  intro members member extraction between extraction' after _ _ outside step
    grows
  exact grows.trans (step.growsBelow outside
    (grows.kept target .directory isDirectory))

/-! ## Counts -/

theorem isResourceFile_eq_false_of_unnamed
    (unnamed : resourceNames? member = none) :
    isResourceFile member = false := by
  rw [isResourceFile, isResource_eq, unnamed, Option.isSome_none,
    Bool.and_false]

theorem isResourceFile_eq_false_of_directory
    (isDirectory : member.kind = .directory) :
    isResourceFile member = false := by
  rw [isResourceFile, isDirectory]
  rfl

/-- What one member adds to the counts. -/
theorem Extracts.counts (step : Extracts target member extraction tree
    extraction' after) :
    extraction'.files = extraction.files + (isResourceFile member).toNat ∧
      extraction'.renamed = extraction.renamed +
        (isResourceFile member && tree.has (destination target
          (extraction'.producer.getD []) member)).toNat := by
  cases step with
  | other unnamed =>
      rw [isResourceFile_eq_false_of_unnamed unnamed]
      exact ⟨rfl, rfl⟩
  | timestampKept unnamed =>
      rw [isResourceFile_eq_false_of_unnamed unnamed]
      exact ⟨rfl, rfl⟩
  | timestampWritten unnamed =>
      rw [isResourceFile_eq_false_of_unnamed unnamed]
      exact ⟨rfl, rfl⟩
  | noFile _ _ noFile =>
      rw [noFile]
      exact ⟨rfl, rfl⟩
  | directory _ isDirectory =>
      rw [isResourceFile_eq_false_of_directory isDirectory]
      exact ⟨rfl, rfl⟩
  | file _ isFile =>
      rw [isFile, Bool.true_and]
      exact ⟨rfl, rfl⟩

theorem treeAt_length
    (ran : extractMembers target members {} tree = (.ok extraction, between))
    (member : Member) :
    treeAt target (members ++ [member]) tree members.length = between := by
  rw [treeAt_concat (Nat.le_refl _), treeAt, List.take_length, ran]

/-- The resource files whose wanted place is taken when the extraction comes to
them. -/
def takenFiles (target : Route) (members : List Member) (tree : FileTree) :
    List (Member × Nat) :=
  (resourceFiles members).filter fun entry =>
    (treeAt target members tree entry.2).has
      (destination target (producerOf members) entry.1)

theorem takenFiles_concat
    (ran : extractMembers target members {} tree = (.ok extraction, between))
    (member : Member) :
    takenFiles target (members ++ [member]) tree =
      takenFiles target members tree ++
        if isResourceFile member && between.has (destination target
          (producerOf (members ++ [member])) member) then
          [(member, members.length)]
        else [] := by
  have earlier : (resourceFiles members).filter (fun entry =>
        (treeAt target (members ++ [member]) tree entry.2).has
          (destination target (producerOf (members ++ [member])) entry.1)) =
      takenFiles target members tree := by
    apply List.filter_congr
    intro entry isEntry
    rw [treeAt_concat (Nat.le_of_lt (lt_length_of_mem_resourceFiles isEntry)),
      producerOf_concat_of_some (firstProducer?_isSome_of_mem isEntry)]
  rw [takenFiles, resourceFiles_concat, List.filter_append, earlier]
  congr 1
  by_cases isFile : isResourceFile member = true
  · rw [if_pos isFile, isFile, Bool.true_and, List.filter_singleton,
      treeAt_length ran, Bool.cond_eq_ite]
  · rw [if_neg isFile, Bool.eq_false_of_not_eq_true isFile, Bool.false_and]
    rfl

theorem counts_extractMembers
    (extracted : extractMembers target members {} tree =
      (.ok extraction, after)) :
    extraction.files = (resourceFiles members).length ∧
      extraction.renamed = (takenFiles target members tree).length := by
  apply extractMembers_induction (motive := fun members extraction _ =>
    extraction.files = (resourceFiles members).length ∧
      extraction.renamed = (takenFiles target members tree).length)
    ⟨rfl, rfl⟩ _ extracted
  rintro members member extraction between extraction' after ran known _ step
    ⟨files, renamed⟩
  rw [step.counts.1, step.counts.2, files, renamed, resourceFiles_concat,
    takenFiles_concat ran, step.producerOf_eq known, List.length_append,
    List.length_append]
  constructor
  · cases isResourceFile member <;> rfl
  · cases isResourceFile member && between.has (destination target
      (producerOf (members ++ [member])) member) <;> rfl

/-! ## Places -/

theorem placeAt_concat {entry : Member × Nat}
    (isEntry : entry ∈ resourceFiles members) (member : Member) :
    placeAt target (members ++ [member]) tree entry =
      placeAt target members tree entry := by
  rw [placeAt, placeAt,
    treeAt_concat (Nat.le_of_lt (lt_length_of_mem_resourceFiles isEntry)),
    producerOf_concat_of_some (firstProducer?_isSome_of_mem isEntry)]

theorem placeAt_length
    (ran : extractMembers target members {} tree = (.ok extraction, between))
    (member : Member) :
    placeAt target (members ++ [member]) tree (member, members.length) =
      freePlace between
        (destination target (producerOf (members ++ [member])) member) := by
  rw [placeAt, treeAt_length ran]

/-- The content of a resource file comes to the first free place. -/
theorem Extracts.fills (step : Extracts target member extraction tree
    extraction' after) (isFile : isResourceFile member = true) :
    let place := freePlace tree (destination target
      (extraction'.producer.getD []) member)
    tree.at? place = none ∧ after.at? place = some (.file member.content) := by
  cases step with
  | other unnamed =>
      rw [isResourceFile_eq_false_of_unnamed unnamed] at isFile
      cases isFile
  | timestampKept unnamed =>
      rw [isResourceFile_eq_false_of_unnamed unnamed] at isFile
      cases isFile
  | timestampWritten unnamed =>
      rw [isResourceFile_eq_false_of_unnamed unnamed] at isFile
      cases isFile
  | noFile _ _ noFile =>
      rw [noFile] at isFile
      cases isFile
  | directory _ isDirectory =>
      rw [isResourceFile_eq_false_of_directory isDirectory] at isFile
      cases isFile
  | file _ _ paves _ free =>
      refine ⟨?_, FileTree.at?_put_self (FileTree.ne_nil_of_at?_eq_none free) _⟩
      rw [Option.eq_none_iff_forall_ne_some]
      intro entry there
      have kept := paves.kept _ entry there
      exact Option.some_ne_none entry (kept.symm.trans free)

/-- The content of a resource file came to the first free place and stands there
in the end. -/
theorem filled_extractMembers (isDirectory : tree.at? target = some .directory)
    (extracted : extractMembers target members {} tree =
      (.ok extraction, after)) :
    ∀ entry ∈ resourceFiles members,
      (treeAt target members tree entry.2).at?
          (placeAt target members tree entry) = none ∧
        after.at? (placeAt target members tree entry) =
          some (.file entry.1.content) := by
  apply extractMembers_induction (motive := fun members _ after =>
    ∀ entry ∈ resourceFiles members,
      (treeAt target members tree entry.2).at?
          (placeAt target members tree entry) = none ∧
        after.at? (placeAt target members tree entry) =
          some (.file entry.1.content)) _ _ extracted
  · intro entry isEntry
    cases isEntry
  intro members member extraction between extraction' after ran known outside
    step placed entry isEntry
  have there := (growsBelow_extractMembers isDirectory ran).kept target
    .directory isDirectory
  rw [resourceFiles_concat] at isEntry
  rcases List.mem_append.mp isEntry with earlier | last
  · obtain ⟨free, filled⟩ := placed entry earlier
    rw [placeAt_concat earlier, treeAt_concat
      (Nat.le_of_lt (lt_length_of_mem_resourceFiles earlier))]
    exact ⟨free, (step.growsBelow outside there).kept _ _ filled⟩
  · by_cases isFile : isResourceFile member = true
    · rw [if_pos isFile, List.mem_singleton] at last
      subst last
      rw [placeAt_length ran, treeAt_length ran, ← step.producerOf_eq known]
      exact step.fills isFile
    · rw [if_neg isFile] at last
      cases last

theorem at?_placeAt (isDirectory : tree.at? target = some .directory)
    (extracted : extractMembers target members {} tree =
      (.ok extraction, after)) :
    ∀ entry ∈ resourceFiles members,
      after.at? (placeAt target members tree entry) =
        some (.file entry.1.content) :=
  fun entry isEntry =>
    (filled_extractMembers isDirectory extracted entry isEntry).2

theorem isFirstFree_placeAt (isDirectory : tree.at? target = some .directory)
    (extracted : extractMembers target members {} tree =
      (.ok extraction, after)) :
    ∀ entry ∈ resourceFiles members,
      IsFirstFree (treeAt target members tree entry.2)
        (destination target (producerOf members) entry.1)
        (placeAt target members tree entry) :=
  fun entry isEntry => isFirstFree_freePlace
    (filled_extractMembers isDirectory extracted entry isEntry).1

/-- No two resource files come to one place. -/
theorem nodup_placeAt (isDirectory : tree.at? target = some .directory)
    (extracted : extractMembers target members {} tree =
      (.ok extraction, after)) :
    ((resourceFiles members).map (placeAt target members tree)).Nodup := by
  apply extractMembers_induction (motive := fun members _ _ =>
    ((resourceFiles members).map (placeAt target members tree)).Nodup)
    List.nodup_nil _ extracted
  intro members member extraction between extraction' after ran known _ step
    distinct
  have earlier : (resourceFiles members).map
        (placeAt target (members ++ [member]) tree) =
      (resourceFiles members).map (placeAt target members tree) :=
    List.map_congr_left fun entry isEntry => placeAt_concat isEntry member
  rw [resourceFiles_concat, List.map_append, earlier]
  split
  · rename_i isFile
    have free := (step.fills isFile).1
    rw [step.producerOf_eq known] at free
    rw [List.map_singleton, placeAt_length ran]
    apply distinct.append (List.nodup_singleton _)
    rw [List.disjoint_singleton]
    intro taken
    obtain ⟨entry, isEntry, samePlace⟩ := List.mem_map.mp taken
    have there := at?_placeAt isDirectory ran entry isEntry
    rw [samePlace, free] at there
    cases there
  · rw [List.map_nil, List.append_nil]
    exact distinct

/-! ## Other files -/

/-- A new file is the time stamp or that of the member. -/
theorem Extracts.new_file (step : Extracts target member extraction tree
    extraction' after) {route : Route} {content : Bytes}
    (missing : tree.at? route = none)
    (there : after.at? route = some (.file content)) :
    route = timestampPlace target ∨ isResourceFile member = true ∧
      route = freePlace tree (destination target
        (extraction'.producer.getD []) member) := by
  have asBefore : tree.at? route ≠ some (.file content) := by
    rw [missing]
    exact (Option.some_ne_none _).symm
  have noDirectory : ∀ {names : List String} {between : FileTree},
      FileTree.Paves target names tree between →
      between.at? route ≠ some (.file content) := by
    intro names between paves isFile
    have isDirectory := (paves.made route missing (by
      rw [isFile]
      exact Option.some_ne_none _)).2.2
    rw [isFile] at isDirectory
    cases isDirectory
  cases step with
  | other => exact (asBefore there).elim
  | timestampKept => exact (asBefore there).elim
  | timestampWritten =>
      by_cases same : route = timestampPlace target
      · exact .inl same
      · rw [FileTree.at?_put_of_ne same] at there
        exact (asBefore there).elim
  | noFile => exact (asBefore there).elim
  | directory _ _ paves => exact (noDirectory paves there).elim
  | @file own _ between _ isFile paves =>
      by_cases same : route = freePlace tree (destination target
          (extraction.producer.getD own) member)
      · exact .inr ⟨isFile, same⟩
      · rw [FileTree.at?_put_of_ne same] at there
        exact (noDirectory paves there).elim

/-- A new file is the time stamp or that of a resource. -/
theorem new_file_extractMembers
    (isDirectory : tree.at? target = some .directory)
    (extracted : extractMembers target members {} tree =
      (.ok extraction, after)) :
    ∀ route content, tree.at? route = none →
      after.at? route = some (.file content) →
      route = timestampPlace target ∨
        route ∈ (resourceFiles members).map (placeAt target members tree) := by
  apply extractMembers_induction (motive := fun members _ after =>
    ∀ route content, tree.at? route = none →
      after.at? route = some (.file content) →
      route = timestampPlace target ∨
        route ∈ (resourceFiles members).map (placeAt target members tree))
    _ _ extracted
  · intro route content missing there
    rw [missing] at there
    cases there
  intro members member extraction between extraction' after ran known outside
    step placed route content missing there
  have directoryThere := (growsBelow_extractMembers isDirectory ran).kept target
    .directory isDirectory
  cases onTheWay : between.at? route with
  | none =>
      rcases step.new_file onTheWay there with isTimestamp | ⟨isFile, isPlace⟩
      · exact .inl isTimestamp
      · right
        apply List.mem_map.mpr
        refine ⟨(member, members.length), ?_, ?_⟩
        · rw [resourceFiles_concat, if_pos isFile]
          exact List.mem_append_right _ List.mem_cons_self
        · rw [placeAt_length ran, ← step.producerOf_eq known, isPlace]
  | some entry =>
      have same := (step.growsBelow outside directoryThere).kept route entry
        onTheWay
      rw [there] at same
      cases same
      rcases placed route content missing onTheWay with isTimestamp | earlier
      · exact .inl isTimestamp
      · right
        obtain ⟨file, isEntry, isPlace⟩ := List.mem_map.mp earlier
        apply List.mem_map.mpr
        refine ⟨file, ?_, ?_⟩
        · rw [resourceFiles_concat]
          exact List.mem_append_left _ isEntry
        · rw [placeAt_concat isEntry, isPlace]

end ClusterTrace.Ingest
