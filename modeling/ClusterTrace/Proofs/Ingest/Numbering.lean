import ClusterTrace.Files.Tree
import ClusterTrace.Ingest.Rename
import Mathlib.Data.List.Nodup
import Mathlib.Data.Nat.ModEq
import Mathlib.Order.Interval.Set.Defs

/-!
# Numbered names are new

Once a name is numbered, numbering it again counts in words of 64 bits,
`bumpStem_iterate_numbered`.  So the names that come before the numbers start
again are distinct, and `firstFree` finds the first that is free, unless all are
taken.
-/

namespace ClusterTrace

namespace Path

theorem splitLast?_of_not_mem {separator : Char} {text : List Char}
    (absent : separator ∉ text) : splitLast? separator text = none := by
  induction text with
  | nil => rfl
  | cons c rest induction =>
      rw [List.mem_cons, not_or] at absent
      rw [splitLast?, induction absent.2]
      exact if_neg (Ne.symm absent.1)

theorem splitLast?_append {separator : Char} {after : List Char}
    (absent : separator ∉ after) (before : List Char) :
    splitLast? separator (before ++ separator :: after) =
      some (before, after) := by
  induction before with
  | nil =>
      rw [List.nil_append, splitLast?, splitLast?_of_not_mem absent]
      exact if_pos rfl
  | cons c before induction =>
      rw [List.cons_append, splitLast?, induction]

/-- A name has no extension if no dot follows its first character. -/
theorem stemAndExtension_of_not_mem {name : List Char}
    (absent : '.' ∉ name.tail) : stemAndExtension name = (name, none) := by
  rw [stemAndExtension]
  split
  · rename_i c stem extension found
    rw [eq_of_splitLast? found] at absent
    simp at absent
  · rfl

theorem stemAndExtension_append {extension : List Char}
    (absent : '.' ∉ extension) {stem : List Char} (named : stem ≠ []) :
    stemAndExtension (stem ++ '.' :: extension) = (stem, some extension) := by
  rw [stemAndExtension, splitLast?_append absent]
  cases stem with
  | nil => exact (named rfl).elim
  | cons c stem => rfl

/-- How the stem and the extension of a name make up the name. -/
theorem stemAndExtension_cases (name : List Char) :
    (stemAndExtension name = (name, none) ∧ '.' ∉ name.tail) ∨
      ∃ stem extension, stemAndExtension name = (stem, some extension) ∧
        '.' ∉ extension := by
  rw [stemAndExtension]
  split
  · rename_i c stem extension found
    exact .inr ⟨c :: stem, extension, rfl, not_mem_of_splitLast? found⟩
  · rename_i unnamed
    refine .inl ⟨rfl, ?_⟩
    cases found : splitLast? '.' name with
    | none =>
        intro inTail
        exact not_mem_of_splitLast?_eq_none found (List.mem_of_mem_tail inTail)
    | some parts =>
        obtain ⟨before, after⟩ := parts
        have absent := not_mem_of_splitLast? found
        cases before with
        | cons c before => exact (unnamed c before after found).elim
        | nil =>
            rw [eq_of_splitLast? found]
            exact absent

end Path

namespace Ingest

/-! ## Numbers in names -/

theorem isDigit_of_mem_toString {index : Nat} {c : Char}
    (member : c ∈ (toString index).toList) : c.isDigit = true := by
  rw [Nat.toString_eq_repr, Nat.toList_repr] at member
  exact Nat.isDigit_of_mem_toDigits (by decide) (by decide) member

theorem not_mem_toString {c : Char} (notDigit : c.isDigit = false)
    (index : Nat) : c ∉ (toString index).toList := by
  intro member
  rw [isDigit_of_mem_toString member] at notDigit
  cases notDigit

theorem indexValue_toString (index : Nat) :
    indexValue (toString index).toList = index := by
  have sameValue : indexValue (toString index).toList =
      Nat.ofDigitChars 10 (Nat.toDigits 10 index) 0 := by
    rw [Nat.toString_eq_repr, Nat.toList_repr, indexValue, Nat.ofDigitChars]
    simp only [Nat.mul_comm]
  rw [sameValue]
  exact Nat.ofDigitChars_toDigits (by decide) (by decide)

theorem readIndex?_toString (index : Nat) :
    readIndex? (toString index).toList =
      if Word.fits 64 index then some index else none := by
  have allDigits : (toString index).toList.all Char.isDigit = true := by
    rw [List.all_eq_true]
    intro c member
    exact isDigit_of_mem_toString member
  have notEmpty : (toString index).toList.isEmpty = false := by
    rw [Nat.toString_eq_repr, Nat.toList_repr, List.isEmpty_eq_false_iff]
    exact Nat.toDigits_ne_nil
  have unsigned : ∀ rest, (toString index).toList ≠ '+' :: rest := by
    intro rest signed
    have member : '+' ∈ (toString index).toList := by
      rw [signed]
      exact List.mem_cons_self
    exact not_mem_toString (by decide) index member
  rw [readIndex?]
  · rw [notEmpty, allDigits, indexValue_toString]
    exact if_neg Bool.false_ne_true
  · exact unsigned

theorem splitLast?_numbered (base : List Char) (index : Nat) :
    Path.splitLast? '_' (numbered base index) =
      some (base, (toString index).toList) :=
  Path.splitLast?_append (not_mem_toString (by decide) index) base

/-- A number is counted up. -/
theorem bumpStem_numbered (base : List Char) {index : Nat}
    (fits : index < Word.limit 64) :
    bumpStem (numbered base index) = numbered base (Word.next 64 index) := by
  rw [bumpStem, splitLast?_numbered]
  dsimp only
  rw [readIndex?_toString, if_pos (Word.fits_natCast.mpr fits)]

theorem bumpStem_isNumbered (stem : List Char) :
    ∃ base, ∃ index < Word.limit 64,
      bumpStem stem = numbered base index ∧ base <+: stem := by
  rw [bumpStem]
  split
  · rename_i base suffix found
    split
    · rename_i index read
      refine ⟨base, Word.next 64 index, Word.next_lt 64 index, rfl, ?_⟩
      rw [Path.eq_of_splitLast? found]
      exact List.prefix_append base _
    · exact ⟨stem, 1, by decide, rfl, List.prefix_rfl⟩
  · exact ⟨stem, 1, by decide, rfl, List.prefix_rfl⟩

/-- Numbering leaves the extension. -/
theorem stemAndExtension_bumpName (name : String) :
    Path.stemAndExtension (bumpName name).toList =
      (bumpStem (Path.stemAndExtension name.toList).1,
        (Path.stemAndExtension name.toList).2) := by
  obtain ⟨base, index, -, isNumbered, front⟩ :=
    bumpStem_isNumbered (Path.stemAndExtension name.toList).1
  rw [bumpName, String.toList_ofList]
  rcases Path.stemAndExtension_cases name.toList with
    ⟨split, absent⟩ | ⟨stem, extension, split, absent⟩
  · rw [split] at isNumbered front ⊢
    dsimp only [Path.ofStem] at isNumbered front ⊢
    apply Path.stemAndExtension_of_not_mem
    rw [isNumbered, numbered]
    cases base with
    | nil =>
        intro member
        exact not_mem_toString (by decide) index member
    | cons c base =>
        obtain ⟨back, whole⟩ := front
        rw [← whole, List.cons_append, List.tail_cons] at absent
        rw [List.cons_append, List.tail_cons]
        intro member
        rcases List.mem_append.mp member with inBase | inNumber
        · exact absent (List.mem_append_left back inBase)
        · rcases List.mem_cons.mp inNumber with isMark | inDigits
          · cases isMark
          · exact not_mem_toString (by decide) index inDigits
  · rw [split] at isNumbered ⊢
    dsimp only [Path.ofStem] at isNumbered ⊢
    apply Path.stemAndExtension_append absent
    rw [isNumbered, numbered]
    intro nothing
    cases List.append_eq_nil_iff.mp nothing with
    | intro _ impossible => cases impossible

/-- A name that was numbered shows it. -/
theorem mem_bumpName (name : String) : '_' ∈ (bumpName name).toList := by
  obtain ⟨base, index, -, isNumbered, -⟩ :=
    bumpStem_isNumbered (Path.stemAndExtension name.toList).1
  have inStem : '_' ∈ numbered base index :=
    List.mem_append_right base List.mem_cons_self
  rw [bumpName, String.toList_ofList, isNumbered]
  cases (Path.stemAndExtension name.toList).2 with
  | none => exact inStem
  | some extension => exact List.mem_append_left _ inStem

theorem stemAndExtension_iterate (name : String) (count : Nat) :
    Path.stemAndExtension (bumpName^[count] name).toList =
      (bumpStem^[count] (Path.stemAndExtension name.toList).1,
        (Path.stemAndExtension name.toList).2) := by
  induction count with
  | zero => rfl
  | succ count ih =>
      rw [Function.iterate_succ_apply', stemAndExtension_bumpName, ih,
        Function.iterate_succ_apply']

/-! ## When a name comes back -/

theorem eq_of_numbered_eq {base : List Char} {index index' : Nat}
    (same : numbered base index = numbered base index') : index = index' := by
  have parts := splitLast?_numbered base index
  rw [same, splitLast?_numbered, Option.some.injEq, Prod.mk.injEq] at parts
  rw [← indexValue_toString index, ← parts.2, indexValue_toString]

/-- Numbers are counted in words of 64 bits. -/
theorem bumpStem_iterate_numbered (base : List Char) {index : Nat}
    (fits : index < Word.limit 64) (count : Nat) :
    bumpStem^[count] (numbered base index) =
      numbered base ((index + count) % Word.limit 64) := by
  induction count with
  | zero =>
      rw [Nat.add_zero, Nat.mod_eq_of_lt fits]
      rfl
  | succ count ih =>
      have inRange : (index + count) % Word.limit 64 < Word.limit 64 :=
        Nat.mod_lt _ (by decide)
      rw [Function.iterate_succ_apply', ih, bumpStem_numbered base inRange,
        Word.next, Nat.mod_add_mod, Nat.add_assoc]

/-- No stem comes back before the numbers start again. -/
theorem bumpStem_iterate_injOn (stem : List Char) :
    Set.InjOn (fun count => bumpStem^[count] stem)
      (Set.Iio (Word.limit 64)) := by
  intro count inRange count' inRange' same
  obtain ⟨base, index, fits, isNumbered, -⟩ := bumpStem_isNumbered stem
  have next : bumpStem^[count + 1] stem = bumpStem^[count' + 1] stem := by
    rw [Function.iterate_succ_apply', Function.iterate_succ_apply']
    exact congrArg bumpStem same
  rw [Function.iterate_succ_apply, Function.iterate_succ_apply, isNumbered,
    bumpStem_iterate_numbered base fits, bumpStem_iterate_numbered base fits]
    at next
  have sameCount : count ≡ count' [MOD Word.limit 64] :=
    Nat.ModEq.add_left_cancel' index (eq_of_numbered_eq next)
  exact sameCount.eq_of_lt_of_lt inRange inRange'

/-- After the numbers have started again nothing new comes. -/
theorem exists_bumpStem_iterate_eq (stem : List Char) (count : Nat) :
    ∃ earlier ≤ Word.limit 64,
      bumpStem^[count] stem = bumpStem^[earlier] stem := by
  cases count with
  | zero => exact ⟨0, Nat.zero_le _, rfl⟩
  | succ count =>
      obtain ⟨base, index, fits, isNumbered, -⟩ := bumpStem_isNumbered stem
      refine ⟨count % Word.limit 64 + 1, Nat.mod_lt _ (by decide), ?_⟩
      rw [Function.iterate_succ_apply, Function.iterate_succ_apply, isNumbered,
        bumpStem_iterate_numbered base fits,
        bumpStem_iterate_numbered base fits, Nat.add_mod_mod]

theorem bumpName_iterate_eq_iff {name : String} {count count' : Nat} :
    bumpName^[count] name = bumpName^[count'] name ↔
      bumpStem^[count] (Path.stemAndExtension name.toList).1 =
        bumpStem^[count'] (Path.stemAndExtension name.toList).1 := by
  constructor
  · intro same
    have parts := stemAndExtension_iterate name count
    rw [same, stemAndExtension_iterate, Prod.mk.injEq] at parts
    exact parts.1.symm
  · intro same
    have parts := Path.ofStem_stemAndExtension (bumpName^[count] name).toList
    rw [stemAndExtension_iterate, same] at parts
    have parts' := Path.ofStem_stemAndExtension (bumpName^[count'] name).toList
    rw [stemAndExtension_iterate] at parts'
    exact String.toList_inj.mp (parts.symm.trans parts')

/-- No name comes back before the numbers start again. -/
theorem bumpName_iterate_injOn (name : String) :
    Set.InjOn (fun count => bumpName^[count] name)
      (Set.Iio (Word.limit 64)) :=
  fun _ inRange _ inRange' same => bumpStem_iterate_injOn _ inRange inRange'
    (bumpName_iterate_eq_iff.mp same)

theorem exists_bumpName_iterate_eq (name : String) (count : Nat) :
    ∃ earlier ≤ Word.limit 64,
      bumpName^[count] name = bumpName^[earlier] name := by
  obtain ⟨earlier, inRange, same⟩ := exists_bumpStem_iterate_eq
    (Path.stemAndExtension name.toList).1 count
  exact ⟨earlier, inRange, bumpName_iterate_eq_iff.mpr same⟩

/-! ## The first free name -/

/-- The candidate that is given is free unless all candidates are taken. -/
theorem firstFree_spec {α : Type} (isTaken : α → Bool) (next : α → α)
    (limit : Nat) (candidate : α) :
    ∃ count, firstFree isTaken next limit candidate = next^[count] candidate ∧
      (∀ earlier < count, isTaken (next^[earlier] candidate) = true) ∧
      (isTaken (next^[count] candidate) = false ∨ count = limit) := by
  induction limit generalizing candidate with
  | zero =>
      refine ⟨0, rfl, ?_, .inr rfl⟩
      intro earlier impossible
      exact (Nat.not_lt_zero earlier impossible).elim
  | succ limit induction =>
      rw [firstFree]
      by_cases taken : isTaken candidate = true
      · rw [if_pos taken]
        obtain ⟨count, found, before, free⟩ := induction (next candidate)
        refine ⟨count + 1, found, ?_, ?_⟩
        · intro earlier inTime
          cases earlier with
          | zero => exact taken
          | succ earlier => exact before earlier (Nat.lt_of_succ_lt_succ inTime)
        · exact free.imp_right (congrArg (· + 1))
      · rw [if_neg taken]
        refine ⟨0, rfl, ?_, .inl (Bool.not_eq_true _ ▸ taken)⟩
        intro earlier impossible
        exact (Nat.not_lt_zero earlier impossible).elim

section Candidates

variable {α β : Type} {known : List β} {most limit : Nat}

/-- If candidates do not come back and all that are taken are at known places,
no more of them are taken than there are known places. -/
theorem le_length_of_taken {place : Nat → β} {isTaken : Nat → Bool}
    {count : Nat}
    (distinct : Set.InjOn place (Set.Iio most))
    (isKnown : ∀ count, isTaken count = true → place count ∈ known)
    (inRange : count ≤ most)
    (taken : ∀ earlier < count, isTaken earlier = true) :
    count ≤ known.length := by
  have tried : ((List.range count).map place).Nodup := by
    apply List.Nodup.map_on _ List.nodup_range
    intro earlier isEarlier earlier' isEarlier' same
    rw [List.mem_range] at isEarlier isEarlier'
    exact distinct (isEarlier.trans_le inRange) (isEarlier'.trans_le inRange)
      same
  have areKnown : (List.range count).map place ⊆ known := by
    intro other member
    obtain ⟨earlier, isEarlier, rfl⟩ := List.mem_map.mp member
    exact isKnown earlier (taken earlier (List.mem_range.mp isEarlier))
  have atMost := tried.length_le_of_subset areKnown
  rwa [List.length_map, List.length_range] at atMost

/-- If a candidate is free before the first one comes back, the first free one
is found after no more of them than there are known places. -/
theorem exists_firstFree (isTaken : α → Bool) (place : α → β) {next : α → α}
    {candidate : α}
    (distinct : Set.InjOn (fun count => place (next^[count] candidate))
      (Set.Iio most))
    (isKnown : ∀ count, isTaken (next^[count] candidate) = true →
      place (next^[count] candidate) ∈ known)
    (enough : known.length ≤ limit)
    (someFree : ∃ count < most, isTaken (next^[count] candidate) = false) :
    ∃ count ≤ known.length,
      firstFree isTaken next limit candidate = next^[count] candidate ∧
        isTaken (next^[count] candidate) = false ∧
        ∀ earlier < count, isTaken (next^[earlier] candidate) = true := by
  obtain ⟨count, found, before, free⟩ :=
    firstFree_spec isTaken next limit candidate
  obtain ⟨least, inRange, isFree⟩ := someFree
  have notLater : count ≤ least := by
    by_contra later
    rw [before least (Nat.lt_of_not_le later)] at isFree
    cases isFree
  have atMost : ∀ tried ≤ most,
      (∀ earlier < tried, isTaken (next^[earlier] candidate) = true) →
        tried ≤ known.length := fun _ => le_length_of_taken distinct isKnown
  refine ⟨count, atMost count (by omega) before, found, ?_, before⟩
  rcases free with free | atLimit
  · exact free
  · -- the candidate at the limit is one more than there are known places
    by_contra taken
    have tried := atMost (count + 1) (by omega) fun earlier inTime => by
      rcases Nat.lt_succ_iff_lt_or_eq.mp inTime with inTime | rfl
      · exact before earlier inTime
      · exact Bool.eq_true_of_not_eq_false taken
    omega

end Candidates

/-- A place is free, under the wanted name or under a numbered one before which
none is free. -/
structure IsFirstFree (tree : FileTree) (wanted place : Route) : Prop where
  free : tree.at? place = none
  numbered : ∃ count, place =
      wanted.dropLast ++ [bumpName^[count] (wanted.getLast?.getD "")] ∧
    ∀ earlier < count, tree.has (wanted.dropLast ++
      [bumpName^[earlier] (wanted.getLast?.getD "")]) = true

/-- The first free place for a file. -/
def freePlace (tree : FileTree) (wanted : Route) : Route :=
  wanted.dropLast ++
    [firstFree (fun name => tree.has (wanted.dropLast ++ [name])) bumpName
      (tree.entries.length + 1) (wanted.getLast?.getD "")]

theorem mem_keys_of_has {tree : FileTree} {route : Route} (named : route ≠ [])
    (there : tree.has route = true) : route ∈ tree.entries.keys := by
  rw [FileTree.has, FileTree.at?, if_neg named] at there
  obtain ⟨entry, found⟩ := Option.isSome_iff_exists.mp there
  exact Assoc.mem_keys_of_get? found

theorem freePlace_spec (tree : FileTree) (wanted : Route) :
    ∃ count, freePlace tree wanted =
        wanted.dropLast ++ [bumpName^[count] (wanted.getLast?.getD "")] ∧
      (∀ earlier < count, tree.has (wanted.dropLast ++
        [bumpName^[earlier] (wanted.getLast?.getD "")]) = true) ∧
      (tree.has (freePlace tree wanted) = true →
        count = tree.entries.length + 1) := by
  obtain ⟨count, found, before, free⟩ := firstFree_spec
    (fun name => tree.has (wanted.dropLast ++ [name])) bumpName
    (tree.entries.length + 1) (wanted.getLast?.getD "")
  rw [freePlace, found]
  refine ⟨count, rfl, before, fun taken => free.resolve_left fun free => ?_⟩
  rw [free] at taken
  cases taken

/-- The place is taken only if all are, and then the search for a free one does
not end. -/
theorem has_freePlace_iff (tree : FileTree) (wanted : Route) :
    tree.has (freePlace tree wanted) = true ↔
      ∀ count, tree.has (wanted.dropLast ++
        [bumpName^[count] (wanted.getLast?.getD "")]) = true := by
  obtain ⟨count, isPlace, before, atLimit⟩ := freePlace_spec tree wanted
  constructor
  · intro taken later
    have isLimit := atLimit taken
    have distinct : Set.InjOn (fun count =>
        wanted.dropLast ++ [bumpName^[count] (wanted.getLast?.getD "")])
        (Set.Iio (Word.limit 64)) := by
      intro count inRange count' inRange' same
      exact bumpName_iterate_injOn _ inRange inRange'
        (List.singleton_injective (List.append_cancel_left same))
    -- so many names are taken only if the numbers have started again
    have startsAgain : Word.limit 64 < count := by
      by_contra inRange
      have atMost := le_length_of_taken distinct
        (fun _ => mem_keys_of_has (List.concat_ne_nil _ _))
        (Nat.le_of_not_lt inRange) before
      rw [Assoc.length_keys] at atMost
      omega
    obtain ⟨earlier, inRange, same⟩ :=
      exists_bumpName_iterate_eq (wanted.getLast?.getD "") later
    rw [same]
    exact before earlier (inRange.trans_lt startsAgain)
  · intro allTaken
    rw [isPlace]
    exact allTaken count

theorem isFirstFree_freePlace {tree : FileTree} {wanted : Route}
    (free : tree.at? (freePlace tree wanted) = none) :
    IsFirstFree tree wanted (freePlace tree wanted) := by
  obtain ⟨count, isPlace, before, -⟩ := freePlace_spec tree wanted
  exact ⟨free, count, isPlace, before⟩

/-- Only the name at the end of a place is numbered. -/
theorem numbered_append (directory : Route) {names : List String}
    (named : names ≠ []) (count : Nat) :
    (directory ++ names).dropLast ++
        [bumpName^[count] ((directory ++ names).getLast?.getD "")] =
      directory ++
        (names.dropLast ++ [bumpName^[count] (names.getLast named)]) := by
  rw [List.dropLast_append_of_ne_nil named, List.append_assoc,
    List.getLast?_append_of_ne_nil directory named,
    List.getLast?_eq_some_getLast named, Option.getD_some]

theorem exists_count_freePlace (tree : FileTree) (directory : Route)
    {names : List String} (named : names ≠ []) :
    ∃ count, freePlace tree (directory ++ names) = directory ++
      (names.dropLast ++ [bumpName^[count] (names.getLast named)]) := by
  obtain ⟨count, isPlace, -⟩ := freePlace_spec tree (directory ++ names)
  exact ⟨count, isPlace.trans (numbered_append directory named count)⟩

namespace IsFirstFree

variable {tree between : FileTree} {wanted place place' : Route}

theorem unique (first : IsFirstFree tree wanted place)
    (first' : IsFirstFree tree wanted place') : place = place' := by
  obtain ⟨count, rfl, before⟩ := first.numbered
  obtain ⟨count', rfl, before'⟩ := first'.numbered
  have notBefore : ∀ {least most}, tree.at? (wanted.dropLast ++
        [bumpName^[least] (wanted.getLast?.getD "")]) = none →
      (∀ earlier < most, tree.has (wanted.dropLast ++
        [bumpName^[earlier] (wanted.getLast?.getD "")]) = true) →
      ¬ least < most := by
    intro least most free taken inTime
    have there := taken least inTime
    rw [FileTree.has, free] at there
    cases there
  have atMost := notBefore first.free before'
  have atLeast := notBefore first'.free before
  rw [Nat.le_antisymm (Nat.le_of_not_lt atLeast) (Nat.le_of_not_lt atMost)]

theorem eq_freePlace (first : IsFirstFree tree wanted place) :
    place = freePlace tree wanted := by
  obtain ⟨count, isPlace, -⟩ := first.numbered
  have free : tree.at? (freePlace tree wanted) = none := by
    rw [← Option.not_isSome_iff_eq_none]
    intro taken
    have there := (has_freePlace_iff tree wanted).mp taken count
    rw [← isPlace, FileTree.has, first.free] at there
    cases there
  exact first.unique (isFirstFree_freePlace free)

/-- Places elsewhere do not matter. -/
theorem congr (first : IsFirstFree between wanted place)
    (same : ∀ name, between.at? (wanted.dropLast ++ [name]) =
      tree.at? (wanted.dropLast ++ [name])) :
    IsFirstFree tree wanted place := by
  obtain ⟨count, rfl, before⟩ := first.numbered
  constructor
  · rw [← same]
    exact first.free
  · refine ⟨count, rfl, ?_⟩
    intro earlier inTime
    have taken := before earlier inTime
    rw [FileTree.has, same] at taken
    exact taken

theorem exists_count {directory names : List String}
    (first : IsFirstFree tree (directory ++ names) place) (named : names ≠ []) :
    ∃ count, place = directory ++
      (names.dropLast ++ [bumpName^[count] (names.getLast named)]) := by
  obtain ⟨count, isPlace, _⟩ := first.numbered
  exact ⟨count, isPlace.trans (numbered_append directory named count)⟩

/-- The wanted place is the first free one just if nothing is there. -/
theorem eq_wanted_iff (first : IsFirstFree tree wanted place)
    (named : wanted ≠ []) : place = wanted ↔ tree.has wanted = false := by
  obtain ⟨count, isPlace, before⟩ := first.numbered
  have isWanted : wanted.dropLast ++ [bumpName^[0] (wanted.getLast?.getD "")] =
      wanted := by
    rw [Function.iterate_zero_apply, List.getLast?_eq_some_getLast named,
      Option.getD_some]
    exact List.dropLast_append_getLast named
  constructor
  · rintro rfl
    rw [FileTree.has, first.free]
    rfl
  · intro free
    cases count with
    | zero => exact isPlace.trans isWanted
    | succ count =>
        have taken := before 0 (Nat.zero_lt_succ count)
        rw [isWanted, free] at taken
        cases taken

end IsFirstFree

end Ingest
end ClusterTrace
