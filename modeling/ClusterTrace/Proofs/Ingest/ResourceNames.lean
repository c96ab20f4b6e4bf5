import ClusterTrace.Ingest.Extraction
import ClusterTrace.Proofs.Files.Growth
import ClusterTrace.Proofs.Text.Dots
import Mathlib.Data.List.Basic

/-!
# Names of resources

The names of a resource fall into those of its producer and those from the first
directory of resources on.  Taking a producer's names off leaves the latter
whole, so what may remain in front of them is a part of the resource's own
producer.
-/

namespace ClusterTrace.Ingest

open Archive (Member)
open Text (Utf8.decodeLossy Utf8.eq_replicate_of_decodeLossy)

/-! ## Names of members -/

theorem isPlainName_decodeLossy {piece : List UInt8} (notEmpty : piece ≠ [])
    (notDot : piece ≠ [0x2E]) (notDots : piece ≠ [0x2E, 0x2E]) :
    Path.IsPlainName (Utf8.decodeLossy piece) := by
  have noDots : ∀ count, piece ≠ List.replicate count 0x2E →
      Utf8.decodeLossy piece ≠ String.ofList (List.replicate count '.') := by
    intro count different same
    exact different (Utf8.eq_replicate_of_decodeLossy same)
  constructor
  · rw [Path.isIdle, Bool.or_eq_false_iff, decide_eq_false_iff_not,
      decide_eq_false_iff_not]
    exact ⟨noDots 0 notEmpty, noDots 1 notDot⟩
  · exact noDots 2 notDots

/-- The names of a path lead down only. -/
theorem isPlainName_of_plainNames? {path : List UInt8} {names : List String}
    (found : plainNames? path = some names) :
    ∀ name ∈ names, Path.IsPlainName name := by
  rw [plainNames?] at found
  split at found
  · cases found
  · rename_i downwards
    cases found
    intro name member
    obtain ⟨piece, kept, rfl⟩ := List.mem_map.mp member
    rw [List.mem_filter, Bool.and_eq_true, Bool.not_eq_true',
      List.isEmpty_eq_false_iff, decide_eq_true_eq] at kept
    obtain ⟨isPiece, notEmpty, notDot⟩ := kept
    apply isPlainName_decodeLossy notEmpty notDot
    rintro rfl
    rw [Bool.or_eq_true] at downwards
    exact downwards (.inr (List.contains_iff_mem.mpr isPiece))

/-! ## Names in front of the resources and from there on -/

/-- The name is that of a directory of resources. -/
def isRoot (name : String) : Bool :=
  resourceRoots.contains name

/-- The names of a resource in front of the first directory of resources, and
those from there on. -/
def resourceNames? (member : Member) : Option (List String × List String) :=
  (plainNames? member.path).bind fun names =>
    (names.findIdx? isRoot).map fun index =>
      (names.take index, names.drop index)

/-- The member is a resource: one of its names is that of a directory of
resources, and none leads up. -/
def isResource (member : Member) : Bool :=
  (plainNames? member.path).any fun names => names.any isRoot

/-- The member is a resource that is written as a file. -/
def isResourceFile (member : Member) : Bool :=
  (member.kind = .file || member.kind = .continuous) && isResource member

/-- The member is a time stamp outside of the resources. -/
def isTimestamp (member : Member) : Bool :=
  member.kind = .file && (plainNames? member.path).any fun names =>
    names.all (fun name => !isRoot name) && names.getLast? = some timestampName

variable {member : Member} {own below names : List String}

theorem findIdx?_isRoot_eq_some_iff {index : Nat} :
    names.findIdx? isRoot = some index ↔
      (∀ name ∈ names.take index, isRoot name = false) ∧
        ∃ root rest, names.drop index = root :: rest ∧ isRoot root = true := by
  rw [List.findIdx?_eq_some_iff_getElem]
  constructor
  · rintro ⟨inRange, atIndex, before⟩
    refine ⟨?_, names[index], names.drop (index + 1),
      List.drop_eq_getElem_cons inRange, atIndex⟩
    intro name member
    obtain ⟨earlier, inTime, rfl⟩ := List.mem_take_iff_getElem.mp member
    exact Bool.not_eq_true _ ▸ before earlier (by omega)
  · rintro ⟨before, root, rest, fromIndex, atIndex⟩
    have inRange : index < names.length := by
      by_contra outside
      rw [List.drop_eq_nil_of_le (Nat.le_of_not_lt outside)] at fromIndex
      cases fromIndex
    rw [List.drop_eq_getElem_cons inRange, List.cons.injEq] at fromIndex
    refine ⟨inRange, fromIndex.1 ▸ atIndex, ?_⟩
    intro earlier inTime isEarlier
    have notRoot := before names[earlier]
      (List.mem_take_iff_getElem.mpr ⟨earlier, by omega, rfl⟩)
    rw [isEarlier] at notRoot
    cases notRoot

theorem resourceNames?_eq_some_iff :
    resourceNames? member = some (own, below) ↔
      plainNames? member.path = some (own ++ below) ∧
        (∀ name ∈ own, isRoot name = false) ∧
          ∃ root rest, below = root :: rest ∧ isRoot root = true := by
  rw [resourceNames?]
  constructor
  · intro found
    obtain ⟨names, plain, atIndex⟩ := Option.bind_eq_some_iff.mp found
    obtain ⟨index, isIndex, parts⟩ := Option.map_eq_some_iff.mp atIndex
    cases parts
    rw [List.take_append_drop]
    exact ⟨plain, findIdx?_isRoot_eq_some_iff.mp isIndex⟩
  · rintro ⟨plain, before, after⟩
    have isIndex : (own ++ below).findIdx? isRoot = some own.length := by
      apply findIdx?_isRoot_eq_some_iff.mpr
      rw [List.take_left, List.drop_left]
      exact ⟨before, after⟩
    rw [plain, Option.bind_some, isIndex, Option.map_some, List.take_left,
      List.drop_left]

theorem resourceNames?_eq_none_of_plainNames? {names : List String}
    (plain : plainNames? member.path = some names) :
    resourceNames? member = none ↔ ∀ name ∈ names, isRoot name = false := by
  rw [resourceNames?, plain, Option.bind_some, Option.map_eq_none_iff,
    List.findIdx?_eq_none_iff]

theorem isResource_eq (member : Member) :
    isResource member = (resourceNames? member).isSome := by
  cases plain : plainNames? member.path with
  | none =>
      rw [isResource, resourceNames?, plain]
      rfl
  | some names =>
      rw [isResource, plain, Option.any_some, Bool.eq_iff_iff, List.any_eq_true,
        Option.isSome_iff_ne_none, ne_eq,
        resourceNames?_eq_none_of_plainNames? plain]
      push Not
      simp only [ne_eq, Bool.not_eq_false]

/-! ## Taking a producer's names off -/

theorem relativeNames_append (names later : List String) :
    relativeNames names (names ++ later) = later := by
  rw [relativeNames, List.isPrefixOf?_eq_some_iff_append_eq.mpr rfl,
    Option.getD_some]

theorem relativeNames_of_forall_ne {producer names : List String}
    (different : ∀ later, producer ++ later ≠ names) :
    relativeNames producer names = names := by
  rw [relativeNames]
  cases found : producer.isPrefixOf? names with
  | none => rfl
  | some later =>
      exact (different later
        (List.isPrefixOf?_eq_some_iff_append_eq.mp found)).elim

/-- Taking names off that are none of resources leaves the resource whole. -/
theorem relativeNames_append_below {producer : List String}
    (outside : ∀ name ∈ producer, isRoot name = false)
    (inside : ∃ root rest, below = root :: rest ∧ isRoot root = true) :
    relativeNames producer (own ++ below) =
      relativeNames producer own ++ below := by
  obtain ⟨root, rest, rfl, atRoot⟩ := inside
  by_cases isPrefix : ∃ later, producer ++ later = own
  · obtain ⟨later, rfl⟩ := isPrefix
    rw [List.append_assoc, relativeNames_append, relativeNames_append]
  · push Not at isPrefix
    rw [relativeNames_of_forall_ne isPrefix]
    apply relativeNames_of_forall_ne
    intro later whole
    rcases List.append_eq_append_iff.mp whole with
      ⟨between, isOwn, _⟩ | ⟨between, isProducer, isLater⟩
    · exact isPrefix between isOwn.symm
    · cases between with
      | nil => exact isPrefix [] (by rw [isProducer, List.append_nil,
          List.append_nil])
      | cons name between =>
          rw [List.cons_append, List.cons.injEq] at isLater
          have notRoot := outside root (by
            rw [isProducer, isLater.1]
            exact List.mem_append_right own List.mem_cons_self)
          rw [atRoot] at notRoot
          cases notRoot

/-- Nothing remains of the names in front of a resource just if they are the
producer's or there were none. -/
theorem relativeNames_eq_nil_iff {producer : List String} :
    relativeNames producer own = [] ↔ own = producer ∨ own = [] := by
  constructor
  · intro nothing
    rw [relativeNames] at nothing
    cases found : producer.isPrefixOf? own with
    | none =>
        rw [found] at nothing
        exact .inr nothing
    | some later =>
        rw [found] at nothing
        have whole := List.isPrefixOf?_eq_some_iff_append_eq.mp found
        rw [Option.getD_some] at nothing
        rw [nothing, List.append_nil] at whole
        exact .inl whole.symm
  · rintro (rfl | rfl)
    · have whole := relativeNames_append own []
      rw [List.append_nil] at whole
      exact whole
    · rw [relativeNames]
      cases producer with
      | nil => rfl
      | cons name producer => rfl

theorem mem_of_mem_relativeNames {producer : List String} {name : String}
    (member : name ∈ relativeNames producer names) : name ∈ names := by
  rw [relativeNames] at member
  cases found : producer.isPrefixOf? names with
  | none =>
      rw [found] at member
      exact member
  | some later =>
      rw [found, Option.getD_some] at member
      rw [← List.isPrefixOf?_eq_some_iff_append_eq.mp found]
      exact List.mem_append_right producer member

/-! ## Members by their names -/

theorem extractMember_of_resource {target : Route} {extraction : Extraction}
    {tree : FileTree} (named : resourceNames? member = some (own, below)) :
    extractMember target member extraction tree =
      extractResource target
        (relativeNames (extraction.producer.getD own) (own ++ below)) member
        { extraction with producer := some (extraction.producer.getD own) }
        tree := by
  obtain ⟨plain, before, after⟩ := resourceNames?_eq_some_iff.mp named
  have isIndex : (own ++ below).findIdx? isRoot = some own.length := by
    apply findIdx?_isRoot_eq_some_iff.mpr
    rw [List.take_left, List.drop_left]
    exact ⟨before, after⟩
  change (own ++ below).findIdx? (fun name => resourceRoots.contains name) =
    some own.length at isIndex
  rw [extractMember, plain]
  dsimp only
  rw [isIndex]
  dsimp only
  rw [List.take_left]

theorem extractMember_of_other {target : Route} {extraction : Extraction}
    {tree : FileTree} (unnamed : resourceNames? member = none) :
    extractMember target member extraction tree =
      if isTimestamp member then
        extractTimestamp target member.content extraction tree
      else (.ok extraction, tree) := by
  rw [extractMember]
  cases plain : plainNames? member.path with
  | none =>
      rw [isTimestamp, plain, Option.any_none, Bool.and_false]
      rfl
  | some names =>
      have noRoot := (resourceNames?_eq_none_of_plainNames? plain).mp unnamed
      have noIndex := List.findIdx?_eq_none_iff.mpr noRoot
      change names.findIdx? (fun name => resourceRoots.contains name) = none
        at noIndex
      have allOutside : names.all (fun name => !isRoot name) = true := by
        rw [List.all_eq_true]
        intro name member
        rw [noRoot name member]
        rfl
      dsimp only
      rw [noIndex, isTimestamp, plain, Option.any_some, allOutside,
        Bool.true_and, Bool.and_comm]

end ClusterTrace.Ingest
