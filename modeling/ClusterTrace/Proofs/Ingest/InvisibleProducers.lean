import ClusterTrace.Proofs.Ingest.ExtractionAccount

/-!
# Producers do not show

A producer puts components of its own in front of all paths of an archive.  The
extraction takes them off again, so it does the same whatever they are: a run
below components is the run without them, up to the producer that it notes.
-/

namespace ClusterTrace.Ingest

open Archive (Member)
open Text (Utf8.decodeLossy)

/-! ## Archives below components -/

/-- A component that a producer may put in front of paths: it is a plain one,
and no directory of resources. -/
def IsComponent (component : List UInt8) : Prop :=
  0x2F ∉ component ∧ component ∉ [[], [0x2E], [0x2E, 0x2E]] ∧
    isRoot (Utf8.decodeLossy component) = false

instance (component : List UInt8) : Decidable (IsComponent component) :=
  inferInstanceAs (Decidable (_ ∧ _ ∧ _))

/-- The path from the root that components lead to. -/
def pathUnder (components : List (List UInt8)) (path : List UInt8) :
    List UInt8 :=
  components.foldr (fun component path => component ++ 0x2F :: path) path

/-- The member below components. -/
def under (components : List (List UInt8)) (member : Member) : Member :=
  { member with path := pathUnder components member.path }

/-- The path of the member starts where resources were gathered: with a
directory of resources, or it has none at all. -/
def IsGathered (member : Member) : Prop :=
  member.path.head? ≠ some 0x2F ∧ ∀ names ∈ plainNames? member.path,
    names ≠ [] ∧
      (names.head?.any isRoot = true ∨ ∀ name ∈ names, isRoot name = false)

instance (member : Member) : Decidable (IsGathered member) :=
  inferInstanceAs (Decidable (_ ∧ ∀ names ∈ _, _ ∧ _))

variable {components : List (List UInt8)} {path : List UInt8} {member : Member}
  {members : List Member} {target : Route} {extraction : Extraction}
  {tree : FileTree}

/-! ## Names -/

theorem plainNames?_append {component : List UInt8}
    (plain : IsComponent component) (relative : path.head? ≠ some 0x2F) :
    plainNames? (component ++ 0x2F :: path) =
      (plainNames? path).map (Utf8.decodeLossy component :: ·) := by
  obtain ⟨noSlash, leadsDown, _⟩ := plain
  simp only [List.mem_cons, List.not_mem_nil, or_false, not_or] at leadsDown
  obtain ⟨notEmpty, notDot, notDots⟩ := leadsDown
  have pieces : (component ++ 0x2F :: path).splitOn 0x2F =
      component :: path.splitOn 0x2F := by
    apply List.splitOnP_append_cons_of_forall_mem
    · intro octet inComponent
      rw [beq_eq_false_iff_ne]
      rintro rfl
      exact noSlash inComponent
    · rfl
  have first : (component ++ 0x2F :: path).head? ≠ some 0x2F := by
    cases component with
    | nil => exact (notEmpty rfl).elim
    | cons octet component =>
        rw [List.cons_append, List.head?_cons, ne_eq, Option.some.injEq]
        rintro rfl
        exact noSlash List.mem_cons_self
  rw [plainNames?, plainNames?, pieces, decide_eq_false first,
    decide_eq_false relative]
  by_cases goesUp : [0x2E, 0x2E] ∈ path.splitOn 0x2F
  · simp [goesUp]
  · simp [goesUp, notEmpty, notDot, Ne.symm notDots]

theorem head?_pathUnder_ne (plain : ∀ component ∈ components,
    IsComponent component) (relative : path.head? ≠ some 0x2F) :
    (pathUnder components path).head? ≠ some 0x2F := by
  cases components with
  | nil => exact relative
  | cons component components =>
      obtain ⟨noSlash, leadsDown, _⟩ := plain component List.mem_cons_self
      cases component with
      | nil => simp at leadsDown
      | cons octet component =>
          rw [pathUnder, List.foldr_cons, List.cons_append, List.head?_cons,
            ne_eq, Option.some.injEq]
          rintro rfl
          exact noSlash List.mem_cons_self

theorem plainNames?_pathUnder (plain : ∀ component ∈ components,
    IsComponent component) (relative : path.head? ≠ some 0x2F) :
    plainNames? (pathUnder components path) =
      (plainNames? path).map (components.map Utf8.decodeLossy ++ ·) := by
  induction components with
  | nil => simp [pathUnder]
  | cons component components induction =>
      have plainLater : ∀ component ∈ components, IsComponent component :=
        fun other later => plain other (List.mem_cons_of_mem component later)
      have step := plainNames?_append (plain component List.mem_cons_self)
        (head?_pathUnder_ne plainLater relative)
      rw [pathUnder, List.foldr_cons, ← pathUnder, step, induction plainLater,
        Option.map_map]
      rfl

theorem outside_of_isComponent (plain : ∀ component ∈ components,
    IsComponent component) :
    ∀ name ∈ components.map Utf8.decodeLossy, isRoot name = false := by
  intro name isName
  obtain ⟨component, isMember, rfl⟩ := List.mem_map.mp isName
  exact (plain component isMember).2.2

/-- A gathered resource has no names in front of it. -/
theorem IsGathered.own_eq_nil (gathered : IsGathered member)
    {own below : List String}
    (named : resourceNames? member = some (own, below)) : own = [] := by
  obtain ⟨plain, outside, root, rest, rfl, atRoot⟩ :=
    resourceNames?_eq_some_iff.mp named
  rcases (gathered.2 _ plain).2 with first | noRoot
  · cases own with
    | nil => rfl
    | cons name own =>
        rw [List.cons_append, List.head?_cons, Option.any_some,
          outside name List.mem_cons_self] at first
        cases first
  · have notRoot := noRoot root (List.mem_append_right own List.mem_cons_self)
    rw [atRoot] at notRoot
    cases notRoot

theorem resourceNames?_under (plain : ∀ component ∈ components,
    IsComponent component) (gathered : IsGathered member) :
    resourceNames? (under components member) =
      (resourceNames? member).map fun names =>
        (components.map Utf8.decodeLossy, names.2) := by
  have names := plainNames?_pathUnder plain gathered.1
  cases named : resourceNames? member with
  | some parts =>
      obtain ⟨own, below⟩ := parts
      have noOwn := gathered.own_eq_nil named
      obtain ⟨isPlain, _, inside⟩ := resourceNames?_eq_some_iff.mp named
      rw [Option.map_some]
      apply resourceNames?_eq_some_iff.mpr
      rw [noOwn, List.nil_append] at isPlain
      rw [under, names, isPlain]
      exact ⟨rfl, outside_of_isComponent plain, inside⟩
  | none =>
      rw [Option.map_none]
      cases isPlain : plainNames? member.path with
      | none =>
          rw [isPlain, Option.map_none] at names
          rw [resourceNames?, under, names, Option.bind_none]
      | some own =>
          rw [isPlain, Option.map_some] at names
          apply (resourceNames?_eq_none_of_plainNames? names).mpr
          intro name isName
          rcases List.mem_append.mp isName with inFront | isOwn
          · exact outside_of_isComponent plain name inFront
          · exact (resourceNames?_eq_none_of_plainNames? isPlain).mp named name
              isOwn

theorem isTimestamp_under (plain : ∀ component ∈ components,
    IsComponent component) (gathered : IsGathered member) :
    isTimestamp (under components member) = isTimestamp member := by
  have names := plainNames?_pathUnder plain gathered.1
  rw [isTimestamp, under, names, isTimestamp]
  cases isPlain : plainNames? member.path with
  | none => rfl
  | some own =>
      have allOutside : (components.map Utf8.decodeLossy).all
          (fun name => !isRoot name) = true := by
        rw [List.all_eq_true]
        intro name isName
        rw [outside_of_isComponent plain name isName]
        rfl
      rw [Option.map_some, Option.any_some, Option.any_some, List.all_append,
        allOutside, Bool.true_and,
        List.getLast?_append_of_ne_nil _ (gathered.2 own isPlain).1]

/-! ## Steps -/

/-- The extraction with another producer in place of the one it notes. -/
def Extraction.ofProducer (producer : List String) (extraction : Extraction) :
    Extraction :=
  { extraction with producer := extraction.producer.map fun _ => producer }

/-- The step with another producer in place of the one that is noted. -/
def ExtractionStep.ofProducer (producer : List String) (step : ExtractionStep) :
    ExtractionStep :=
  (step.1.map (Extraction.ofProducer producer), step.2)

variable {producer : List String}

theorem extractTimestamp_ofProducer (content : Bytes) :
    extractTimestamp target content (extraction.ofProducer producer) tree =
      ExtractionStep.ofProducer producer
        (extractTimestamp target content extraction tree) := by
  rw [extractTimestamp, extractTimestamp]
  split
  · rfl
  · split <;> rfl

theorem extractFile_ofProducer (names : List String) (content : Bytes) :
    extractFile target names content (extraction.ofProducer producer) tree =
      ExtractionStep.ofProducer producer
        (extractFile target names content extraction tree) := by
  rw [extractFile, extractFile]
  split
  · rfl
  · dsimp only
    split
    · rfl
    · split <;> rfl

theorem extractResource_under (components : List (List UInt8))
    (names : List String) (member : Member) :
    extractResource target names (under components member) =
      extractResource target names member :=
  rfl

theorem extractResource_ofProducer (extraction : Extraction)
    (names : List String) (member : Member) :
    extractResource target names member (extraction.ofProducer producer) tree =
      ExtractionStep.ofProducer producer
        (extractResource target names member extraction tree) := by
  rw [extractResource, extractResource]
  split
  · split <;> rfl
  · exact extractFile_ofProducer names member.content
  · exact extractFile_ofProducer names member.content
  · rfl

/-- No names were taken off so far. -/
def Extraction.IsBare (extraction : Extraction) : Prop :=
  ∀ producer, extraction.producer = some producer → producer = []

theorem extractMember_under (plain : ∀ component ∈ components,
    IsComponent component) (gathered : IsGathered member)
    (bare : extraction.IsBare) :
    extractMember target (under components member)
        (extraction.ofProducer (components.map Utf8.decodeLossy)) tree =
      ExtractionStep.ofProducer (components.map Utf8.decodeLossy)
        (extractMember target member extraction tree) := by
  have names := resourceNames?_under plain gathered
  cases named : resourceNames? member with
  | none =>
      rw [named, Option.map_none] at names
      rw [extractMember_of_other names, extractMember_of_other named,
        isTimestamp_under plain gathered]
      split
      · exact extractTimestamp_ofProducer member.content
      · rfl
  | some parts =>
      obtain ⟨own, below⟩ := parts
      obtain rfl := gathered.own_eq_nil named
      rw [named, Option.map_some] at names
      have isProducer : (extraction.ofProducer
            (components.map Utf8.decodeLossy)).producer.getD
              (components.map Utf8.decodeLossy) =
          components.map Utf8.decodeLossy := by
        rw [Extraction.ofProducer]
        cases extraction.producer <;> rfl
      have noProducer : extraction.producer.getD [] = [] := by
        cases known : extraction.producer with
        | none => rfl
        | some producer => exact bare producer known
      have nothing := relativeNames_append [] below
      rw [List.nil_append] at nothing
      rw [extractMember_of_resource names, extractMember_of_resource named,
        isProducer, noProducer, relativeNames_append, List.nil_append, nothing,
        extractResource_under]
      exact extractResource_ofProducer { extraction with producer := some [] }
        below member

/-! ## Runs -/

theorem Extraction.IsBare.of_extractMember {extraction' : Extraction}
    {after : FileTree} (bare : extraction.IsBare) (gathered : IsGathered member)
    (extracted : extractMember target member extraction tree =
      (.ok extraction', after)) : extraction'.IsBare := by
  have outside : extraction.IsOutside := by
    intro producer known name isName
    rw [bare producer known] at isName
    cases isName
  have isProducer := (extracts_extractMember outside extracted).producer_eq
  intro producer known
  rw [isProducer, Option.or_eq_some_iff] at known
  rcases known with earlier | ⟨_, isOwn⟩
  · exact bare producer earlier
  · obtain ⟨⟨own, below⟩, named, rfl⟩ := Option.map_eq_some_iff.mp isOwn
    exact gathered.own_eq_nil named

theorem extractMembers_under (plain : ∀ component ∈ components,
    IsComponent component) (gathered : ∀ member ∈ members, IsGathered member)
    (bare : extraction.IsBare) :
    extractMembers target (members.map (under components))
        (extraction.ofProducer (components.map Utf8.decodeLossy)) tree =
      ExtractionStep.ofProducer (components.map Utf8.decodeLossy)
        (extractMembers target members extraction tree) := by
  induction members generalizing extraction tree with
  | nil => rfl
  | cons member members induction =>
      have first := gathered member List.mem_cons_self
      rw [List.map_cons, extractMembers, extractMembers,
        extractMember_under plain first bare]
      cases step : extractMember target member extraction tree with
      | mk result between =>
          cases result with
          | error fault => rfl
          | ok extraction' =>
              exact induction
                (fun other later => gathered other
                  (List.mem_cons_of_mem member later))
                (bare.of_extractMember first step)

/-- What an extraction counts. -/
def Extraction.counts (extraction : Extraction) : Nat × Nat × Bool :=
  (extraction.files, extraction.renamed, extraction.hasTimestamp)

/-- Below whatever components a producer puts the members of an archive, their
extraction leaves the same tree, and counts the same or is refused for the same
cause. -/
theorem extraction_of_any_producer {components' : List (List UInt8)}
    (gathered : ∀ member ∈ members, IsGathered member)
    (plain : ∀ component ∈ components, IsComponent component)
    (plain' : ∀ component ∈ components', IsComponent component) :
    (extractMembers target (members.map (under components)) {} tree).2 =
        (extractMembers target (members.map (under components')) {} tree).2 ∧
      (extractMembers target (members.map (under components)) {} tree).1.map
          Extraction.counts =
        (extractMembers target (members.map (under components')) {} tree).1.map
          Extraction.counts := by
  have asWithout : ∀ {components : List (List UInt8)},
      (∀ component ∈ components, IsComponent component) →
      extractMembers target (members.map (under components)) {} tree =
        ExtractionStep.ofProducer (components.map Utf8.decodeLossy)
          (extractMembers target members {} tree) := by
    intro components plain
    have bare : Extraction.IsBare {} := by
      rintro producer ⟨⟩
    exact extractMembers_under plain gathered bare
  have sameCounts : ∀ (producer : List String) (step : ExtractionStep),
      (step.ofProducer producer).1.map Extraction.counts =
        step.1.map Extraction.counts := by
    rintro producer ⟨_ | _, _⟩ <;> rfl
  rw [asWithout plain, asWithout plain', sameCounts, sameCounts]
  exact ⟨rfl, rfl⟩

/-- Two components in front of colliding files, and none. -/
theorem extraction_of_nested_producer :
    let members :=
      [fileAt "timestamp" [7], fileAt "namespaces/n/pod.yaml" [1],
        fileAt "./namespaces//n/pod.yaml" [2], fileAt "about.html" [3],
        { fileAt "cluster-scoped-resources/core" [] with kind := .directory }]
    let components := [Text.Utf8.encode "must-gather", Text.Utf8.encode "image"]
    let before := ({} : FileTree).put ["space"] .directory
    let nested := extractMembers ["space"] (members.map (under components)) {}
      before
    let bare := extractMembers ["space"] (members.map (under [])) {} before
    (∀ member ∈ members, IsGathered member) ∧
      (∀ component ∈ components, IsComponent component) ∧
      (∀ component ∈ ([] : List (List UInt8)), IsComponent component) ∧
      (nested.2 = bare.2 ∧
        nested.1.map Extraction.counts = bare.1.map Extraction.counts) ∧
      nested.1 = .ok
        { producer := some ["must-gather", "image"], files := 2, renamed := 1,
          hasTimestamp := true } ∧
      nested.2.at? ["space", "namespaces", "n", "pod_1.yaml"] =
        some (.file [2]) := by
  intro members components before nested bare
  have gathered : ∀ member ∈ members, IsGathered member := by decide +kernel
  have plain : ∀ component ∈ components, IsComponent component := by
    decide +kernel
  have plainBare : ∀ component ∈ ([] : List (List UInt8)),
      IsComponent component := by
    intro component impossible
    cases impossible
  refine ⟨gathered, plain, plainBare,
    extraction_of_any_producer gathered plain plainBare, ?_, ?_⟩
  · decide +kernel
  · decide +kernel

end ClusterTrace.Ingest
