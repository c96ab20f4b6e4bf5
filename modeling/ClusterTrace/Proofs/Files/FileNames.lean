import ClusterTrace.Proofs.Files.Replacement
import Mathlib.Data.List.DropRight

/-!
# File names of paths

A path with a file name consists of pieces, of which the last one that leads
somewhere is the name, `Path.EndsIn`.  Another file name takes the place of that
piece, `Path.EndsIn.withFileName`, so that all other components and the
directory of the path stay.
-/

namespace ClusterTrace.Path

/-! ## Components -/

/-- The text of a component. -/
def Component.text : Component → String
  | .root => ""
  | .current => "."
  | .parent => ".."
  | .name text => text

/-- The texts of the components of a path. -/
def route (path : String) : Route :=
  (components path).map Component.text

/-- The components of pieces before a name. -/
def leading : List String → List Component
  | [] => []
  | first :: rest =>
      (if first = "" then .root
        else if first = "." then .current
        else componentOf first) ::
        (rest.filter fun piece => !isIdle piece).map componentOf

/-- The pieces before a name, without those at their end that lead nowhere. -/
def trimmed : List String → List String
  | [] => []
  | first :: rest => first :: rest.rdropWhile isIdle

/-- The path of the directory to which pieces before a name lead. -/
def directoryText : List String → String
  | [] => ""
  | first :: rest =>
      if first = "" && (rest.rdropWhile isIdle).isEmpty then "/"
      else "/".intercalate (first :: rest.rdropWhile isIdle)

/-- The path ends in a name, after these pieces.  What follows the name leads
nowhere. -/
structure EndsIn (path : String) (before : List String) (name : String) :
    Prop where
  plain : IsPlainName name
  pieces : ∃ idle, pieces path = before ++ name :: idle ∧
    ∀ piece ∈ idle, isIdle piece = true

theorem componentOf_of_plain {name : String} (plain : IsPlainName name) :
    componentOf name = .name name :=
  if_neg plain.2

theorem filter_idle {idle : List String}
    (areIdle : ∀ piece ∈ idle, isIdle piece = true) :
    (idle.filter fun piece => !isIdle piece) = [] := by
  rw [List.filter_eq_nil_iff]
  intro piece member
  simp [areIdle piece member]

/-- Pieces split at the last one that leads somewhere. -/
theorem exists_split_of_filter {pieces : List String}
    (leads : (pieces.filter fun piece => !isIdle piece) ≠ []) :
    ∃ before last idle, pieces = before ++ last :: idle ∧
      isIdle last = false ∧ ∀ piece ∈ idle, isIdle piece = true := by
  induction pieces with
  | nil => exact (leads rfl).elim
  | cons piece pieces ih =>
      by_cases later : (pieces.filter fun piece => !isIdle piece) = []
      · have areIdle : ∀ piece ∈ pieces, isIdle piece = true := by
          simpa [List.filter_eq_nil_iff] using later
        refine ⟨[], piece, pieces, rfl, ?_, areIdle⟩
        by_contra isIdle'
        rw [Bool.not_eq_false] at isIdle'
        simp [isIdle', later] at leads
      · obtain ⟨before, last, idle, rfl, notIdle, areIdle⟩ := ih later
        exact ⟨piece :: before, last, idle, rfl, notIdle, areIdle⟩

/-- The last piece that leads somewhere gives the last component. -/
theorem components_of_split {path first piece : String}
    {before idle : List String}
    (isPath : pieces path = first :: (before ++ piece :: idle))
    (notIdle : isIdle piece = false)
    (areIdle : ∀ piece ∈ idle, isIdle piece = true) :
    components path = leading (first :: before) ++ [componentOf piece] := by
  have later : ((before ++ piece :: idle).filter fun piece =>
        !isIdle piece).map componentOf =
      (before.filter fun piece => !isIdle piece).map componentOf ++
        [componentOf piece] := by
    rw [List.filter_append, List.filter_cons, notIdle, filter_idle areIdle,
      List.map_append]
    rfl
  have notEmpty : (before ++ piece :: idle).isEmpty = false := by
    simp
  rw [components, isPath]
  dsimp only
  rw [later, notEmpty, if_neg Bool.false_ne_true, leading]
  split
  · rfl
  · split <;> rfl

namespace EndsIn

variable {path name : String} {before : List String}

theorem components (ends : EndsIn path before name) :
    components path = leading before ++ [.name name] := by
  obtain ⟨idle, isPath, areIdle⟩ := ends.pieces
  have isName := componentOf_of_plain ends.plain
  cases before with
  | nil =>
      have named : name ≠ "" ∧ name ≠ "." := by
        simpa [isIdle] using ends.plain.1
      rw [Path.components, isPath, List.nil_append]
      dsimp only
      rw [if_neg named.1, if_neg named.2, filter_idle areIdle, isName]
      rfl
  | cons first rest =>
      rw [← isName]
      exact components_of_split isPath ends.plain.1 areIdle

theorem route (ends : EndsIn path before name) :
    route path = (leading before).map Component.text ++ [name] := by
  rw [Path.route, ends.components, List.map_append]
  rfl

theorem fileName? (ends : EndsIn path before name) :
    fileName? path = some name := by
  rw [Path.fileName?, ends.components, List.getLast?_concat]

theorem parent? (ends : EndsIn path before name) :
    parent? path = some (directoryText before) := by
  obtain ⟨idle, isPath, areIdle⟩ := ends.pieces
  have named : name ≠ "" ∧ name ≠ "." := by
    simpa [isIdle] using ends.plain.1
  have areIdle' : ∀ piece ∈ idle.reverse, isIdle piece = true := by
    simpa using areIdle
  rw [Path.parent?, isPath]
  cases before with
  | nil =>
      rw [List.nil_append]
      dsimp only
      rw [List.dropWhile_eq_nil_iff.mpr areIdle']
      dsimp only
      rw [if_neg named.1]
      rfl
  | cons first rest =>
      have reversed : (rest ++ name :: idle).reverse.dropWhile isIdle =
          name :: rest.reverse := by
        rw [List.reverse_append, List.reverse_cons, List.append_assoc,
          List.dropWhile_append_of_pos areIdle', List.singleton_append,
          List.dropWhile_cons_of_neg (by simp [ends.plain.1])]
      rw [List.cons_append]
      dsimp only
      rw [reversed]
      dsimp only
      rw [← List.rdropWhile]
      rw [directoryText]
      split <;> rfl

end EndsIn

theorem eq_of_componentOf {piece text : String}
    (isName : componentOf piece = .name text) :
    piece = text ∧ piece ≠ ".." := by
  rw [componentOf] at isName
  split at isName
  · cases isName
  · rename_i notParent
    cases isName
    exact ⟨rfl, notParent⟩

/-- A path with a file name ends in that name. -/
theorem exists_endsIn {path name : String}
    (named : fileName? path = some name) :
    ∃ before, EndsIn path before name := by
  have last : (components path).getLast? = some (.name name) := by
    rw [fileName?] at named
    split at named
    · rename_i text isLast
      cases named
      exact isLast
    · cases named
  cases isPath : pieces path with
  | nil =>
      rw [components, isPath] at last
      cases last
  | cons first rest =>
      by_cases leads : (rest.filter fun piece => !isIdle piece) = []
      · have areIdle : ∀ piece ∈ rest, isIdle piece = true := by
          simpa [List.filter_eq_nil_iff] using leads
        rw [components, isPath] at last
        dsimp only at last
        rw [leads, List.map_nil] at last
        split at last
        · split at last <;> cases last
        · split at last
          · cases last
          · rename_i notEmpty notCurrent
            obtain ⟨rfl, notParent⟩ := eq_of_componentOf (Option.some.inj last)
            refine ⟨[], ⟨?_, notParent⟩, rest, isPath, areIdle⟩
            simp [isIdle, notEmpty, notCurrent]
      · obtain ⟨before, piece, idle, rfl, notIdle, areIdle⟩ :=
          exists_split_of_filter leads
        rw [components_of_split isPath notIdle areIdle, List.getLast?_concat,
          Option.some_inj] at last
        obtain ⟨rfl, notParent⟩ := eq_of_componentOf last
        exact ⟨first :: before, ⟨notIdle, notParent⟩, idle, isPath, areIdle⟩

/-! ## Other file names -/

theorem noSlash_of_mem_splitOn {text piece : List Char}
    (member : piece ∈ text.splitOn '/') : '/' ∉ piece := by
  by_cases noSlash : '/' ∉ text
  · rw [List.splitOn_eq_singleton noSlash, List.mem_singleton] at member
    rwa [member]
  · rw [not_not] at noSlash
    obtain ⟨first, second, rfl⟩ := List.append_of_mem noSlash
    rw [splitOn_append_slash, List.mem_append] at member
    exact member.elim noSlash_of_mem_splitOn noSlash_of_mem_splitOn
termination_by text.length
decreasing_by
  · simp_all
  · simp_all
    omega

theorem noSlash_of_mem_pieces {path piece : String}
    (member : piece ∈ pieces path) : '/' ∉ piece.toList := by
  obtain ⟨letters, isPiece, rfl⟩ := List.mem_map.mp member
  rw [String.toList_ofList]
  exact noSlash_of_mem_splitOn isPiece

theorem pieces_intercalate {texts : List String} (given : texts ≠ [])
    (noSlash : ∀ text ∈ texts, '/' ∉ text.toList) :
    pieces ("/".intercalate texts) = texts := by
  have noSlash' : ∀ letters ∈ texts.map String.toList, '/' ∉ letters := by
    intro letters member
    obtain ⟨text, isText, rfl⟩ := List.mem_map.mp member
    exact noSlash text isText
  have split : ("/".toList.intercalate (texts.map String.toList)).splitOn '/' =
      texts.map String.toList :=
    List.splitOn_intercalate '/' noSlash' (by simpa using given)
  rw [pieces, String.toList_intercalate, split, List.map_map]
  simp [Function.comp_def]

/-- A name comes after the pieces of a directory that has no slash at its
end. -/
theorem pieces_join_of_getLast? {base name : String}
    (noSlash : '/' ∉ name.toList) (relative : isAbsolute name = false)
    (named : base ≠ "") (noEnd : base.toList.getLast? ≠ some '/') :
    pieces (join base name) = pieces base ++ [name] := by
  have slash : "/".toList = ['/'] := by decide
  rw [join, relative, Bool.false_or, if_neg (by simpa using named),
    if_neg noEnd, pieces, String.toList_append, String.toList_append, slash,
    List.append_assoc, List.singleton_append, splitOn_append_slash,
    List.splitOn_eq_singleton noSlash, List.map_append]
  simp [pieces]

theorem isAbsolute_eq_false {name : String} (noSlash : '/' ∉ name.toList) :
    isAbsolute name = false := by
  have slash : "/".toList = ['/'] := by decide
  rw [isAbsolute, Bool.eq_false_iff, ne_eq, String.startsWith_string_iff, slash]
  rintro ⟨rest, whole⟩
  rw [← whole] at noSlash
  simp at noSlash

theorem isAbsolute_iff_pieces {path : String} :
    isAbsolute path = true ↔ ∃ rest, rest ≠ [] ∧ pieces path = "" :: rest := by
  have slash : "/".toList = ['/'] := by decide
  rw [isAbsolute, String.startsWith_string_iff, slash, pieces]
  constructor
  · rintro ⟨rest, whole⟩
    refine ⟨(rest.splitOn '/').map String.ofList, ?_, ?_⟩
    · simp [List.splitOn_ne_nil]
    · rw [← whole, List.singleton_append, ← List.nil_append ('/' :: rest),
        splitOn_append_slash]
      simp
  · rintro ⟨rest, more, isPath⟩
    rw [List.map_eq_cons_iff] at isPath
    obtain ⟨first, later, isSplit, isEmpty, isRest⟩ := isPath
    have whole : ['/'].intercalate (path.toList.splitOn '/') = path.toList :=
      List.intercalate_splitOn '/'
    rw [isSplit, String.ofList_eq_empty_iff.mp isEmpty] at whole
    cases later with
    | nil => exact (more isRest.symm).elim
    | cons second later =>
        rw [← whole]
        simp [List.intercalate]

/-- A name comes after pieces of which the last one is not empty. -/
theorem pieces_join_intercalate {texts : List String} {name : String}
    (given : texts ≠ []) (noSlashes : ∀ text ∈ texts, '/' ∉ text.toList)
    (noEnd : texts.getLast? ≠ some "") (noSlash : '/' ∉ name.toList) :
    pieces (join ("/".intercalate texts) name) = texts ++ [name] := by
  have base := pieces_intercalate given noSlashes
  rw [pieces_join_of_getLast? noSlash (isAbsolute_eq_false noSlash), base]
  · intro isEmpty
    rw [isEmpty] at base
    rw [← base] at noEnd
    exact noEnd rfl
  · intro endsInSlash
    obtain ⟨text, whole⟩ := List.getLast?_eq_some_iff.mp endsInSlash
    rw [pieces, whole, splitOn_append_slash, List.map_append] at base
    rw [← base] at noEnd
    exact noEnd (by simp)

/-- The last of the trimmed pieces leads somewhere, or it is the first one. -/
theorem getLast?_trimmed_ne {first : String} {rest : List String}
    (notRoot : ¬ (first = "" ∧ rest.rdropWhile isIdle = [])) :
    (trimmed (first :: rest)).getLast? ≠ some "" := by
  rw [trimmed]
  by_cases noMore : rest.rdropWhile isIdle = []
  · rw [noMore, List.getLast?_singleton, ne_eq, Option.some_inj]
    exact fun isEmpty => notRoot ⟨isEmpty, noMore⟩
  · have notIdle := List.rdropWhile_last_not isIdle rest noMore
    rw [List.getLast?_eq_some_getLast (List.cons_ne_nil _ _),
      List.getLast_cons noMore, ne_eq, Option.some_inj]
    intro isEmpty
    rw [isEmpty] at notIdle
    exact notIdle rfl

/-- A name that is joined to the directory comes after the trimmed pieces. -/
theorem pieces_join_directoryText {before : List String} {name : String}
    (noSlash : '/' ∉ name.toList)
    (noSlashes : ∀ piece ∈ before, '/' ∉ piece.toList) :
    pieces (join (directoryText before) name) = trimmed before ++ [name] := by
  have relative := isAbsolute_eq_false noSlash
  have single := List.splitOn_eq_singleton noSlash
  cases before with
  | nil =>
      rw [directoryText, join, relative, if_pos (by rfl), pieces, single]
      simp [trimmed]
  | cons first rest =>
      rw [directoryText]
      split
      · rename_i isRoot
        rw [Bool.and_eq_true, decide_eq_true_eq, List.isEmpty_iff] at isRoot
        have slash : "/".toList = ['/'] := by decide
        rw [trimmed, isRoot.1, isRoot.2, join, relative, Bool.false_or,
          if_neg (by decide), if_pos (by decide), pieces, String.toList_append,
          slash, List.singleton_append,
          ← List.nil_append ('/' :: name.toList), splitOn_append_slash, single]
        simp
      · rename_i notRoot
        rw [Bool.and_eq_true, decide_eq_true_eq, List.isEmpty_iff] at notRoot
        refine pieces_join_intercalate (List.cons_ne_nil _ _) ?_
          (getLast?_trimmed_ne notRoot) noSlash
        intro piece member
        have kept : rest.rdropWhile isIdle <+: rest :=
          List.rdropWhile_prefix isIdle rest
        exact noSlashes piece ((List.cons_subset_cons first kept.subset) member)

theorem leading_trimmed (before : List String) :
    leading (trimmed before) = leading before := by
  cases before with
  | nil => rfl
  | cons first rest =>
      -- What the trimming drops is left out of the components anyway.
      have whole : rest.rdropWhile isIdle ++ rest.rtakeWhile isIdle = rest :=
        List.rdropWhile_append_rtakeWhile
      have sameFilter : ((rest.rdropWhile isIdle).filter fun piece =>
            !isIdle piece) = rest.filter fun piece => !isIdle piece := by
        conv_rhs => rw [← whole]
        rw [List.filter_append,
          filter_idle fun piece => List.mem_rtakeWhile_imp, List.append_nil]
      rw [trimmed, leading, leading, sameFilter]

theorem trimmed_trimmed (before : List String) :
    trimmed (trimmed before) = trimmed before := by
  cases before with
  | nil => rfl
  | cons first rest => rw [trimmed, trimmed, List.rdropWhile_idempotent]

theorem head?_trimmed (before : List String) :
    (trimmed before).head? = before.head? := by
  cases before <;> rfl

theorem directoryText_trimmed (before : List String) :
    directoryText (trimmed before) = directoryText before := by
  cases before with
  | nil => rfl
  | cons first rest =>
      rw [trimmed, directoryText, directoryText, List.rdropWhile_idempotent]

namespace EndsIn

variable {path name new : String} {before : List String}

theorem noSlash (ends : EndsIn path before name) : '/' ∉ name.toList := by
  obtain ⟨idle, isPath, _⟩ := ends.pieces
  have isPiece : name ∈ Path.pieces path := by
    rw [isPath]
    exact List.mem_append_right _ List.mem_cons_self
  exact noSlash_of_mem_pieces isPiece

theorem isAbsolute_iff (ends : EndsIn path before name) :
    isAbsolute path = true ↔ before.head? = some "" := by
  obtain ⟨idle, isPath, _⟩ := ends.pieces
  have named : name ≠ "" := by
    rintro rfl
    have notIdle := ends.plain.1
    cases notIdle
  rw [isAbsolute_iff_pieces, isPath]
  cases before with
  | nil => simp [named]
  | cons first rest => simp

theorem withFileName (ends : EndsIn path before name)
    (plain : IsPlainName new) (noSlash : '/' ∉ new.toList) :
    EndsIn (withFileName path new) (trimmed before) new := by
  obtain ⟨idle, isPath, _⟩ := ends.pieces
  have noSlashes : ∀ piece ∈ before, '/' ∉ piece.toList := by
    intro piece member
    have isPiece : piece ∈ Path.pieces path := by
      rw [isPath]
      exact List.mem_append_left _ member
    exact noSlash_of_mem_pieces isPiece
  rw [Path.withFileName, ends.fileName?, ends.parent?]
  refine ⟨plain, [], ?_, by simp⟩
  exact pieces_join_directoryText noSlash noSlashes

end EndsIn

end ClusterTrace.Path
