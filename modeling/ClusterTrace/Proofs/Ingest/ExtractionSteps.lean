import ClusterTrace.Proofs.Ingest.Numbering
import ClusterTrace.Proofs.Ingest.ResourceNames

/-!
# Steps of an extraction

`Extracts` lists what the extraction of one member can do when it is not
refused.  Whatever it does, it takes nothing away and adds something below the
target only, `Extracts.growsBelow`.
-/

namespace ClusterTrace.Ingest

open Archive (Member MemberKind)

/-- The place of the time stamp. -/
def timestampPlace (target : Route) : Route :=
  target ++ [timestampName]

/-- The names of a member; none for one that is skipped. -/
def memberNames (member : Member) : List String :=
  (plainNames? member.path).getD []

/-- The place at which a member belongs, the names of a producer taken off. -/
def destination (target : Route) (producer : List String) (member : Member) :
    Route :=
  target ++ relativeNames producer (memberNames member)

/-- The extraction after one more file, which got a numbered name or not. -/
def Extraction.withFile (extraction : Extraction) (isRenamed : Bool) :
    Extraction :=
  { extraction with
    files := extraction.files + 1
    renamed := extraction.renamed + isRenamed.toNat }

/-- What the extraction of one member can do. -/
inductive Extracts (target : Route) (member : Member) (extraction : Extraction)
    (tree : FileTree) : Extraction → FileTree → Prop where
  | other (unnamed : resourceNames? member = none)
      (noTimestamp : isTimestamp member = false) :
      Extracts target member extraction tree extraction tree
  | timestampKept (unnamed : resourceNames? member = none)
      (timestamp : isTimestamp member = true)
      (there : tree.has (timestampPlace target) = true) :
      Extracts target member extraction tree extraction tree
  | timestampWritten (unnamed : resourceNames? member = none)
      (timestamp : isTimestamp member = true)
      (free : tree.at? (timestampPlace target) = none) :
      Extracts target member extraction tree
        { extraction with hasTimestamp := true }
        (tree.put (timestampPlace target) (.file member.content))
  | noFile {own below : List String}
      (named : resourceNames? member = some (own, below))
      (noDirectory : member.kind ≠ .directory)
      (noFile : isResourceFile member = false) :
      Extracts target member extraction tree
        { extraction with producer := some (extraction.producer.getD own) } tree
  | directory {own below : List String} {after : FileTree}
      (named : resourceNames? member = some (own, below))
      (isDirectory : member.kind = .directory)
      (paves : FileTree.Paves target
        (relativeNames (extraction.producer.getD own) (memberNames member))
        tree after)
      (paved : after.IsPaved target
        (relativeNames (extraction.producer.getD own) (memberNames member))) :
      Extracts target member extraction tree
        { extraction with producer := some (extraction.producer.getD own) }
        after
  | file {own below : List String} {between : FileTree}
      (named : resourceNames? member = some (own, below))
      (isFile : isResourceFile member = true)
      (paves : FileTree.Paves target
        (relativeNames (extraction.producer.getD own)
          (memberNames member)).dropLast tree between)
      (paved : between.IsPaved target
        (relativeNames (extraction.producer.getD own)
          (memberNames member)).dropLast)
      (free : between.at? (freePlace tree (destination target
        (extraction.producer.getD own) member)) = none) :
      Extracts target member extraction tree
        ({ extraction with producer := some (extraction.producer.getD own) }
          |>.withFile (tree.has (destination target
            (extraction.producer.getD own) member)))
        (between.put (freePlace tree (destination target
          (extraction.producer.getD own) member)) (.file member.content))

variable {target : Route} {member : Member} {names : List String}
  {extraction extraction' : Extraction} {tree after : FileTree}

/-! ## The functions -/

theorem extractTimestamp_cases {content : Bytes}
    (extracted : extractTimestamp target content extraction tree =
      (.ok extraction', after)) :
    (tree.has (timestampPlace target) = true ∧ extraction' = extraction ∧
        after = tree) ∨
      (tree.at? (timestampPlace target) = none ∧
        extraction' = { extraction with hasTimestamp := true } ∧
        after = tree.put (timestampPlace target) (.file content)) := by
  rw [extractTimestamp] at extracted
  split at extracted
  · rename_i there
    cases extracted
    exact .inl ⟨there, rfl, rfl⟩
  · rename_i missing
    split at extracted
    · cases extracted
    · rename_i written
      cases extracted
      obtain ⟨_, _, rfl⟩ := FileTree.write_eq_ok written
      exact .inr ⟨Option.not_isSome_iff_eq_none.mp missing, rfl, rfl⟩

theorem extractFile_cases {content : Bytes} (named : names ≠ [])
    (plain : ∀ name ∈ names, Path.IsPlainName name)
    (extracted : extractFile target names content extraction tree =
      (.ok extraction', after)) :
    ∃ between, FileTree.Paves target names.dropLast tree between ∧
      between.IsPaved target names.dropLast ∧
      between.at? (freePlace tree (target ++ names)) = none ∧
      extraction' = extraction.withFile (tree.has (target ++ names)) ∧
      after = between.put (freePlace tree (target ++ names))
        (.file content) := by
  obtain ⟨directory, name, rfl⟩ :
      ∃ directory name, names = directory ++ [name] :=
    ⟨names.dropLast, names.getLast named,
      (List.dropLast_append_getLast named).symm⟩
  have plainDirectory : ∀ name ∈ directory, Path.IsPlainName name :=
    fun name member => plain name (List.mem_append_left _ member)
  rw [extractFile, List.dropLast_concat] at extracted
  rw [List.dropLast_concat, ← List.append_assoc]
  split at extracted
  · cases extracted
  · rename_i place between made
    have paves := FileTree.paves_makeBelow plainDirectory tree target
    have onTheWay := FileTree.isPaved_makeBelow plainDirectory (by
      rw [made] : (tree.makeBelow target directory).1 = .ok place)
    rw [made] at paves onTheWay
    dsimp only at paves onTheWay extracted
    obtain ⟨rfl, paved⟩ := onTheWay
    rw [List.getLast?_concat, Option.getD_some] at extracted
    have isThen : freePlace between (target ++ directory ++ [name]) =
        target ++ directory ++
          [firstFree (fun name => between.has (target ++ directory ++ [name]))
            bumpName (between.entries.length + 1) name] := by
      rw [freePlace, List.dropLast_concat, List.getLast?_concat,
        Option.getD_some]
    rw [← isThen] at extracted
    split at extracted
    · cases extracted
    rename_i notTaken
    have free := Option.not_isSome_iff_eq_none.mp notTaken
    have firstThen := isFirstFree_freePlace free
    -- the directories on the way do not reach down to the file
    have first : IsFirstFree tree (target ++ directory ++ [name])
        (freePlace between (target ++ directory ++ [name])) := by
      apply firstThen.congr
      intro name
      rw [List.dropLast_concat]
      apply paves.at?_of_length_lt
      simp only [List.length_append, List.length_singleton]
      exact Nat.lt_succ_self _
    have renamed := first.eq_wanted_iff (List.concat_ne_nil _ _)
    have isPlace := first.eq_freePlace
    rw [isPlace] at free
    rw [isThen] at renamed
    split at extracted
    · cases extracted
    · rename_i written
      cases extracted
      obtain ⟨_, _, rfl⟩ := FileTree.write_eq_ok written
      refine ⟨between, paves, paved, free, ?_, by rw [isPlace]⟩
      rw [List.append_cancel_left_eq, List.cons.injEq,
        and_iff_left rfl] at renamed
      rw [Extraction.withFile]
      split
      · rename_i sameName
        rw [renamed.mp sameName]
        rfl
      · rename_i otherName
        rw [Bool.eq_true_of_not_eq_false (mt renamed.mpr otherName)]
        rfl

/-! ## Members -/

/-- The producer's names, once they are known, are none of resources. -/
def Extraction.IsOutside (extraction : Extraction) : Prop :=
  ∀ producer, extraction.producer = some producer →
    ∀ name ∈ producer, isRoot name = false

theorem Extraction.IsOutside.getD (outside : extraction.IsOutside)
    {own below : List String}
    (named : resourceNames? member = some (own, below)) :
    ∀ name ∈ extraction.producer.getD own, isRoot name = false := by
  cases known : extraction.producer with
  | none => exact (resourceNames?_eq_some_iff.mp named).2.1
  | some producer => exact outside producer known

theorem memberNames_eq {own below : List String}
    (named : resourceNames? member = some (own, below)) :
    memberNames member = own ++ below := by
  rw [memberNames, (resourceNames?_eq_some_iff.mp named).1, Option.getD_some]

theorem relativeNames_ne_nil {producer own below : List String}
    (outside : ∀ name ∈ producer, isRoot name = false)
    (named : resourceNames? member = some (own, below)) :
    relativeNames producer (memberNames member) ≠ [] := by
  have inside := (resourceNames?_eq_some_iff.mp named).2.2
  rw [memberNames_eq named, relativeNames_append_below outside inside]
  obtain ⟨root, rest, rfl, _⟩ := inside
  exact List.append_ne_nil_of_right_ne_nil _ (List.cons_ne_nil root rest)

theorem isPlainName_of_mem_relativeNames {own below : List String}
    (named : resourceNames? member = some (own, below))
    (producer : List String) :
    ∀ name ∈ relativeNames producer (memberNames member),
      Path.IsPlainName name := by
  rw [memberNames_eq named]
  intro name member
  exact isPlainName_of_plainNames? (resourceNames?_eq_some_iff.mp named).1 name
    (mem_of_mem_relativeNames member)

theorem isResourceFile_iff {own below : List String}
    (named : resourceNames? member = some (own, below)) :
    isResourceFile member = true ↔
      member.kind = .file ∨ member.kind = .continuous := by
  rw [isResourceFile, isResource_eq, named, Option.isSome_some, Bool.and_true,
    Bool.or_eq_true, decide_eq_true_eq, decide_eq_true_eq]

/-- The extraction of a member that is not refused is one of those listed. -/
theorem extracts_extractMember (outside : extraction.IsOutside)
    (extracted : extractMember target member extraction tree =
      (.ok extraction', after)) :
    Extracts target member extraction tree extraction' after := by
  cases found : resourceNames? member with
  | none =>
      rw [extractMember_of_other found] at extracted
      by_cases timestamp : isTimestamp member = true
      · rw [if_pos timestamp] at extracted
        rcases extractTimestamp_cases extracted with
          ⟨there, rfl, rfl⟩ | ⟨free, rfl, rfl⟩
        · exact .timestampKept found timestamp there
        · exact .timestampWritten found timestamp free
      · rw [if_neg timestamp] at extracted
        cases extracted
        exact .other found (Bool.not_eq_true _ ▸ timestamp)
  | some names =>
      obtain ⟨own, below⟩ := names
      have named := relativeNames_ne_nil (outside.getD found) found
      have plain := isPlainName_of_mem_relativeNames found
        (extraction.producer.getD own)
      have isFile := isResourceFile_iff found
      have asFile : extractFile target
            (relativeNames (extraction.producer.getD own) (memberNames member))
            member.content
            { extraction with producer := some (extraction.producer.getD own) }
            tree = (.ok extraction', after) →
          isResourceFile member = true →
          Extracts target member extraction tree extraction' after := by
        intro extracted isFile
        obtain ⟨between, paves, paved, free, rfl, rfl⟩ :=
          extractFile_cases named plain extracted
        exact .file found isFile paves paved free
      rw [extractMember_of_resource found, ← memberNames_eq found,
        extractResource] at extracted
      split at extracted
      case h_1 isDirectory =>
        split at extracted
        · cases extracted
        · rename_i place between made
          cases extracted
          have paves := FileTree.paves_makeBelow plain tree target
          have isMade := FileTree.isPaved_makeBelow plain (by
            rw [made] : (tree.makeBelow target _).1 = .ok place)
          rw [made] at paves isMade
          exact .directory found isDirectory paves isMade.2
      case h_2 isRegular => exact asFile extracted (isFile.mpr (.inl isRegular))
      case h_3 isContinuous =>
        exact asFile extracted (isFile.mpr (.inr isContinuous))
      case h_4 noDirectory notRegular notContinuous =>
        cases extracted
        refine .noFile found noDirectory ?_
        apply Bool.eq_false_of_not_eq_true
        intro isFileToo
        exact (isFile.mp isFileToo).elim notRegular notContinuous

namespace Extracts

theorem growsBelow (step : Extracts target member extraction tree extraction'
    after) (outside : extraction.IsOutside)
    (isDirectory : tree.at? target = some .directory) :
    FileTree.GrowsBelow target tree after := by
  have below : ∀ {names : List String}, names ≠ [] →
      target <+: target ++ names ∧ target ++ names ≠ target := by
    intro names named
    refine ⟨List.prefix_append target names, ?_⟩
    intro same
    exact named (List.append_right_eq_self.mp same)
  cases step with
  | other => exact .refl target tree
  | timestampKept => exact .refl target tree
  | timestampWritten _ _ free =>
      obtain ⟨inside, different⟩ := below (List.cons_ne_nil timestampName [])
      exact .put free inside different _
  | noFile => exact .refl target tree
  | directory _ _ paves => exact paves.growsBelow isDirectory
  | file named isFile paves paved free =>
      refine (paves.growsBelow isDirectory).trans ?_
      obtain ⟨count, isPlace⟩ := exists_count_freePlace tree target
        (relativeNames_ne_nil (outside.getD named) named)
      rw [destination, isPlace] at free ⊢
      obtain ⟨inside, different⟩ := below (List.concat_ne_nil _ _)
      exact .put free inside different _

end Extracts

end ClusterTrace.Ingest
