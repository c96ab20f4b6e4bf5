import ClusterTrace.Proofs.Ingest.ExtractedMembers
import Mathlib.Data.List.Find

/-!
# What comes to the place of the time stamp

Of the members that can bring something to the place of the time stamp the first
decides.  It is a time stamp, or a resource of another producer that the names
left in front of it lead through a directory of that name.
-/

namespace ClusterTrace.Ingest

open Archive (Member)

/-- The member is a resource that is written, as a file or as a directory. -/
def isWritten (member : Member) : Bool :=
  (member.kind = .file || member.kind = .continuous ||
    member.kind = .directory) && isResource member

/-- The member brings something to the place of the time stamp if nothing is
there. -/
def decidesTimestamp (producer : List String) (member : Member) : Bool :=
  isTimestamp member || isWritten member &&
    (relativeNames producer (memberNames member)).head? = some timestampName

/-- What a member brings to the place of the time stamp. -/
def timestampEntry (member : Member) : FileEntry :=
  if isTimestamp member then .file member.content else .directory

variable {target : Route} {members : List Member} {member : Member}
  {extraction extraction' : Extraction} {tree between after : FileTree}
  {producer own below : List String}

theorem decidesTimestamp_of_isTimestamp (timestamp : isTimestamp member = true)
    (producer : List String) : decidesTimestamp producer member = true := by
  rw [decidesTimestamp, timestamp, Bool.true_or]

/-! ## Names -/

theorem isTimestamp_eq_false_of_named
    (named : resourceNames? member = some (own, below)) :
    isTimestamp member = false := by
  obtain ⟨plain, _, root, rest, rfl, atRoot⟩ :=
    resourceNames?_eq_some_iff.mp named
  rw [isTimestamp, plain, Option.any_some]
  simp [atRoot]

theorem isWritten_eq_false_of_unnamed
    (unnamed : resourceNames? member = none) : isWritten member = false := by
  rw [isWritten, isResource_eq, unnamed, Option.isSome_none, Bool.and_false]

theorem isWritten_of_isResourceFile (isFile : isResourceFile member = true) :
    isWritten member = true := by
  rw [isResourceFile, Bool.and_eq_true] at isFile
  rw [isWritten, isFile.1, isFile.2]
  rfl

theorem isWritten_of_directory (isDirectory : member.kind = .directory)
    (named : resourceNames? member = some (own, below)) :
    isWritten member = true := by
  rw [isWritten, isResource_eq, named, isDirectory]
  rfl

theorem isWritten_eq_false_of_noFile (noDirectory : member.kind ≠ .directory)
    (noFile : isResourceFile member = false) : isWritten member = false := by
  rw [isResourceFile] at noFile
  rw [isWritten, decide_eq_false noDirectory, Bool.or_false, noFile]

theorem exists_root_mem_relativeNames
    (outside : ∀ name ∈ producer, isRoot name = false)
    (named : resourceNames? member = some (own, below)) :
    ∃ name ∈ relativeNames producer (memberNames member),
      isRoot name = true := by
  have inside := (resourceNames?_eq_some_iff.mp named).2.2
  rw [memberNames_eq named, relativeNames_append_below outside inside]
  obtain ⟨root, rest, rfl, atRoot⟩ := inside
  exact ⟨root, List.mem_append_right _ List.mem_cons_self, atRoot⟩

/-- The name of the time stamp is no name of resources, and no number makes it
of one. -/
theorem iterate_bumpName_ne_timestampName {root : String}
    (atRoot : isRoot root = true) (count : Nat) :
    bumpName^[count] root ≠ timestampName := by
  intro same
  cases count with
  | zero =>
      rw [Function.iterate_zero_apply] at same
      rw [same] at atRoot
      exact absurd atRoot (by decide)
  | succ count =>
      have marked := mem_bumpName (bumpName^[count] root)
      rw [← Function.iterate_succ_apply' bumpName, same] at marked
      exact absurd marked (by decide)

/-- A resource file does not come to the place of the time stamp. -/
theorem freePlace_ne_timestampPlace
    (outside : ∀ name ∈ producer, isRoot name = false)
    (named : resourceNames? member = some (own, below)) :
    freePlace tree (destination target producer member) ≠
      timestampPlace target := by
  intro same
  have notEmpty := relativeNames_ne_nil outside named
  obtain ⟨root, inNames, atRoot⟩ := exists_root_mem_relativeNames outside named
  obtain ⟨count, isPlace⟩ := exists_count_freePlace tree target notEmpty
  rw [destination, isPlace, timestampPlace, List.append_cancel_left_eq] at same
  cases directory : (relativeNames producer (memberNames member)).dropLast with
  | nil =>
      have single := List.dropLast_append_getLast notEmpty
      rw [directory, List.nil_append] at single
      rw [← single, List.mem_singleton] at inNames
      rw [directory, List.nil_append, List.cons.injEq, ← inNames] at same
      exact iterate_bumpName_ne_timestampName atRoot count same.1
  | cons name names =>
      rw [directory, List.cons_append, List.cons.injEq] at same
      exact List.concat_ne_nil _ _ same.2

/-- The names in front of a resource file's own begin as all of its names do. -/
theorem head?_dropLast_relativeNames
    (outside : ∀ name ∈ producer, isRoot name = false)
    (named : resourceNames? member = some (own, below)) :
    (relativeNames producer (memberNames member)).dropLast.head? =
        some timestampName ↔
      (relativeNames producer (memberNames member)).head? =
        some timestampName := by
  obtain ⟨root, inNames, atRoot⟩ := exists_root_mem_relativeNames outside named
  have notStamp : root ≠ timestampName := by
    rintro rfl
    exact absurd atRoot (by decide)
  generalize relativeNames producer (memberNames member) = names at inNames ⊢
  rcases names with _ | ⟨first, _ | _⟩
  · cases inNames
  · rw [List.mem_singleton] at inNames
    subst inNames
    simp [notStamp]
  · rfl

/-! ## Steps -/

/-- What one member brings to the place of the time stamp. -/
theorem Extracts.at?_timestampPlace (step : Extracts target member extraction
    tree extraction' after) (outside : extraction.IsOutside) :
    after.at? (timestampPlace target) =
      (tree.at? (timestampPlace target)).or
        (([member].find? (decidesTimestamp (extraction'.producer.getD []))).map
          timestampEntry) := by
  cases step with
  | other unnamed noTimestamp =>
      rw [List.find?_singleton, decidesTimestamp, noTimestamp,
        isWritten_eq_false_of_unnamed unnamed]
      simp
  | timestampKept unnamed timestamp there =>
      obtain ⟨entry, found⟩ := Option.isSome_iff_exists.mp there
      rw [found, Option.some_or]
  | timestampWritten unnamed timestamp free =>
      rw [FileTree.at?_put_self (FileTree.ne_nil_of_at?_eq_none free), free,
        List.find?_singleton, decidesTimestamp_of_isTimestamp timestamp]
      simp [timestampEntry, timestamp]
  | noFile named noDirectory noFile =>
      rw [List.find?_singleton, decidesTimestamp,
        isTimestamp_eq_false_of_named named,
        isWritten_eq_false_of_noFile noDirectory noFile]
      simp
  | directory named isDirectory paves paved =>
      have noStamp := isTimestamp_eq_false_of_named named
      rw [timestampPlace, paves.at?_append_singleton paved,
        List.find?_singleton, decidesTimestamp, noStamp,
        isWritten_of_directory isDirectory named]
      simp [apply_ite (Option.map timestampEntry), timestampEntry, noStamp]
  | file named isFile paves paved free =>
      have noStamp := isTimestamp_eq_false_of_named named
      dsimp only [Extraction.withFile, Option.getD_some]
      rw [FileTree.at?_put_of_ne
          (freePlace_ne_timestampPlace (outside.getD named) named).symm,
        timestampPlace, paves.at?_append_singleton paved,
        List.find?_singleton, decidesTimestamp, noStamp,
        isWritten_of_isResourceFile isFile]
      simp [apply_ite (Option.map timestampEntry), timestampEntry, noStamp,
        head?_dropLast_relativeNames (outside.getD named) named]

theorem Extracts.hasTimestamp_eq (step : Extracts target member extraction tree
    extraction' after) :
    extraction'.hasTimestamp = (extraction.hasTimestamp ||
      (tree.at? (timestampPlace target)).isNone && isTimestamp member) := by
  cases step with
  | other _ noTimestamp => simp [noTimestamp]
  | timestampKept _ _ there =>
      obtain ⟨entry, found⟩ := Option.isSome_iff_exists.mp there
      simp [found]
  | timestampWritten _ timestamp free => simp [timestamp, free]
  | noFile named => simp [isTimestamp_eq_false_of_named named]
  | directory named => simp [isTimestamp_eq_false_of_named named]
  | file named =>
      simp [isTimestamp_eq_false_of_named named, Extraction.withFile]

/-! ## Runs -/

/-- The first member that decides what is at the place of the time stamp. -/
def decider? (members : List Member) : Option Member :=
  members.find? (decidesTimestamp (producerOf members))

theorem decidesTimestamp_of_unnamed (unnamed : resourceNames? member = none)
    (producer : List String) :
    decidesTimestamp producer member = isTimestamp member := by
  rw [decidesTimestamp, isWritten_eq_false_of_unnamed unnamed, Bool.false_and,
    Bool.or_false]

theorem decider?_concat (members : List Member) (member : Member) :
    decider? (members ++ [member]) = (decider? members).or
      ([member].find?
        (decidesTimestamp (producerOf (members ++ [member])))) := by
  have earlier : members.find?
        (decidesTimestamp (producerOf (members ++ [member]))) =
      decider? members := by
    cases known : firstProducer? members with
    | some producer =>
        rw [producerOf_concat_of_some (by rw [known]; rfl), decider?]
    | none =>
        rw [decider?]
        apply List.find?_congr
        intro other isMember
        have unnamed : resourceNames? other = none :=
          Option.map_eq_none_iff.mp
            (List.findSome?_eq_none_iff.mp known other isMember)
        rw [decidesTimestamp_of_unnamed unnamed,
          decidesTimestamp_of_unnamed unnamed]
  rw [decider?, List.find?_append, earlier]

/-- The first member that decides brings what is at the place of the time stamp
in the end, if nothing was there. -/
theorem timestamp_extractMembers
    (extracted : extractMembers target members {} tree =
      (.ok extraction, after)) :
    after.at? (timestampPlace target) =
        (tree.at? (timestampPlace target)).or
          ((decider? members).map timestampEntry) ∧
      (extraction.hasTimestamp = true ↔
        tree.at? (timestampPlace target) = none ∧
          (decider? members).any isTimestamp = true) := by
  apply extractMembers_induction (motive := fun members extraction after =>
    after.at? (timestampPlace target) =
        (tree.at? (timestampPlace target)).or
          ((decider? members).map timestampEntry) ∧
      (extraction.hasTimestamp = true ↔
        tree.at? (timestampPlace target) = none ∧
          (decider? members).any isTimestamp = true)) _ _ extracted
  · simp [decider?]
  rintro members member extraction between extraction' after ran known outside
    step ⟨there, written⟩
  rw [step.at?_timestampPlace outside, step.hasTimestamp_eq, there,
    Bool.or_eq_true, written, decider?_concat, step.producerOf_eq known]
  constructor
  · cases tree.at? (timestampPlace target) <;> cases decider? members <;> rfl
  · cases tree.at? (timestampPlace target) with
    | some entry => simp
    | none =>
        cases decider? members with
        | some decider => simp
        | none =>
            by_cases isDecider :
                decidesTimestamp (producerOf (members ++ [member])) member
            · simp [isDecider]
            · have noTimestamp : ¬isTimestamp member = true :=
                fun timestamp => isDecider
                  (decidesTimestamp_of_isTimestamp timestamp _)
              simp [isDecider, noTimestamp]

end ClusterTrace.Ingest
