/-!
# Paths

A path is a text of names between slashes.  Its components leave out empty
pieces and the piece `.`, except for a leading one.
-/

namespace ClusterTrace.Path

/-! ## Texts -/

/-- The parts before and after the last occurrence of a character. -/
def splitLast? (separator : Char) : List Char → Option (List Char × List Char)
  | [] => none
  | c :: rest =>
      match splitLast? separator rest with
      | some (before, after) => some (c :: before, after)
      | none => if c = separator then some ([], rest) else none

theorem eq_of_splitLast? {separator : Char} {text before after : List Char}
    (found : splitLast? separator text = some (before, after)) :
    text = before ++ separator :: after := by
  induction text generalizing before with
  | nil => simp [splitLast?] at found
  | cons c rest induction =>
      simp only [splitLast?] at found
      split at found
      · rename_i before' after' inRest
        simp only [Option.some.injEq, Prod.mk.injEq] at found
        obtain ⟨rfl, rfl⟩ := found
        simp [← induction inRest]
      · split at found
        · simp_all
        · simp at found

theorem not_mem_of_splitLast?_eq_none {separator : Char} {text : List Char}
    (missing : splitLast? separator text = none) : separator ∉ text := by
  induction text with
  | nil => simp
  | cons c rest induction =>
      simp only [splitLast?] at missing
      split at missing
      · simp at missing
      · rename_i notInRest
        split at missing
        · simp at missing
        · rename_i different
          simp [induction notInRest, Ne.symm different]

theorem not_mem_of_splitLast? {separator : Char} {text before after : List Char}
    (found : splitLast? separator text = some (before, after)) :
    separator ∉ after := by
  induction text generalizing before with
  | nil => simp [splitLast?] at found
  | cons c rest induction =>
      simp only [splitLast?] at found
      split at found
      · rename_i inRest
        simp only [Option.some.injEq, Prod.mk.injEq] at found
        obtain ⟨rfl, rfl⟩ := found
        exact induction inRest
      · rename_i notInRest
        split at found
        · simp only [Option.some.injEq, Prod.mk.injEq] at found
          obtain ⟨_, rfl⟩ := found
          exact not_mem_of_splitLast?_eq_none notInRest
        · simp at found

/-- The stem of a file name, and its extension if it has one: what follows the
last dot, unless nothing precedes it. -/
def stemAndExtension (name : List Char) : List Char × Option (List Char) :=
  match splitLast? '.' name with
  | some (c :: stem, extension) => (c :: stem, some extension)
  | _ => (name, none)

/-- The file name of a stem and an extension. -/
def ofStem (stem : List Char) : Option (List Char) → List Char
  | some extension => stem ++ '.' :: extension
  | none => stem

theorem ofStem_stemAndExtension (name : List Char) :
    ofStem (stemAndExtension name).1 (stemAndExtension name).2 = name := by
  unfold stemAndExtension
  split
  · rename_i c stem extension found
    exact (eq_of_splitLast? found).symm
  · rfl

/-! ## Components -/

/-- A part of a path. -/
inductive Component where
  | root
  | current
  | parent
  | name (text : String)
deriving Repr, DecidableEq

/-- The pieces of a path between slashes. -/
def pieces (path : String) : List String :=
  (path.toList.splitOn '/').map String.ofList

/-- The piece leads nowhere. -/
def isIdle (piece : String) : Bool :=
  piece = "" || piece = "."

/-- The component that a piece stands for. -/
def componentOf (piece : String) : Component :=
  if piece = ".." then .parent else .name piece

def components (path : String) : List Component :=
  match pieces path with
  | [] => []
  | first :: rest =>
      let later := (rest.filter fun piece => !isIdle piece).map componentOf
      if first = "" then if rest.isEmpty then [] else .root :: later
      else if first = "." then .current :: later
      else componentOf first :: later

/-- The path starts at the root. -/
def isAbsolute (path : String) : Bool :=
  path.startsWith "/"

/-- The name at the end of a path. -/
def fileName? (path : String) : Option String :=
  match (components path).getLast? with
  | some (.name text) => some text
  | _ => none

/-- One path after another one.  An absolute path stays as it is. -/
def join (base path : String) : String :=
  if isAbsolute path || base = "" then path
  else if base.toList.getLast? = some '/' then base ++ path
  else base ++ "/" ++ path

/-- A path with plain names after it. -/
def joinNames (base : String) (names : List String) : String :=
  names.foldl join base

/-- The path without its last component; it has none if it is empty or the
root. -/
def parent? (path : String) : Option String :=
  match pieces path with
  | [] => none
  | first :: rest =>
      match rest.reverse.dropWhile isIdle with
      | [] => if first = "" then none else some ""
      | _ :: earlier =>
          let before := (earlier.dropWhile isIdle).reverse
          if first = "" && before.isEmpty then some "/"
          else some ("/".intercalate (first :: before))

/-- The path with another name at its end, or with one more name if it ends in
none. -/
def withFileName (path name : String) : String :=
  match fileName? path with
  | some _ => join ((parent? path).getD "") name
  | none => join path name

/-- The components of a path begin with those of another one. -/
def isWithin (path directory : String) : Bool :=
  (components directory).isPrefixOf (components path)

end ClusterTrace.Path
