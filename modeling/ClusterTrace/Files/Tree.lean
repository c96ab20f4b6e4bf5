import ClusterTrace.Files.Fault
import ClusterTrace.Files.Path
import ClusterTrace.Storage.Assoc

/-!
# File trees

A file tree maps routes to files and directories.  A route is the list of the
names on the way from the root.  A walk follows the pieces of a path, and is
refused where it leads through something that is no directory.

There are directories and regular files only.  The program creates no symbolic
links, and a tree that had some before is not a tree of this kind.
-/

namespace ClusterTrace

/-- The octets of a file. -/
abbrev Bytes := List UInt8

/-- The names on the way from the root to a place. -/
abbrev Route := List String

/-- One route comes no later than the other, name by name. -/
def Route.isLE (a b : Route) : Bool :=
  (List.compareLex compare a b).isLE

/-- What is at a place. -/
inductive FileEntry where
  | directory
  | file (content : Bytes)
deriving Repr, DecidableEq

/-- The files and directories below a root that always exists. -/
structure FileTree where
  entries : Assoc Route FileEntry := []
  distinct : entries.keys.Nodup := by exact List.nodup_nil
deriving Repr

instance : Inhabited FileTree :=
  ⟨{}⟩

namespace FileTree

/-! ## Looking -/

/-- What is at a place. -/
def at? (tree : FileTree) (route : Route) : Option FileEntry :=
  if route = [] then some .directory else tree.entries.get? route

/-- There is something at a place. -/
def has (tree : FileTree) (route : Route) : Bool :=
  (tree.at? route).isSome

/-- The octets that a name takes at most. -/
def nameLimit : Nat := 255

/-- The octets that a path takes at most. -/
def pathLimit : Nat := 4095

/-- No place has a name with a zero in it. -/
def hasZero (name : String) : Bool :=
  name.toList.contains '\x00'

/-- The octets of a route, with a slash before each name. -/
def routeSize (route : Route) : Nat :=
  route.foldl (fun size name => size + 1 + name.utf8ByteSize) 0

/-- The route after one more piece of a path. -/
def step (route : Route) (piece : String) : Route :=
  if Path.isIdle piece then route
  else if piece = ".." then route.dropLast
  else route ++ [piece]

/-- Follows pieces of a path.  Nothing needs to be at the place to which the
last one leads. -/
def walk (tree : FileTree) (route : Route) :
    List String → Except FileFault Route
  | [] => .ok route
  | piece :: rest =>
      match tree.at? route with
      | none => .error .notFound
      | some (.file _) => .error .notADirectory
      | some .directory =>
          if nameLimit < piece.utf8ByteSize then .error .nameTooLong
          else tree.walk (step route piece) rest

/-- The content of the file at a place. -/
def read (tree : FileTree) (route : Route) : Except FileFault Bytes :=
  match tree.at? route with
  | none => .error .notFound
  | some .directory => .error .isADirectory
  | some (.file content) => .ok content

/-- The places below a directory with what is there, by their routes from it, in
order. -/
def below (tree : FileTree) (root : Route) : List (Route × FileEntry) :=
  (tree.entries.filterMap fun (route, entry) =>
    match root.isPrefixOf? route with
    | some (name :: names) => some (name :: names, entry)
    | _ => none).mergeSort fun a b => Route.isLE a.1 b.1

/-! ## Changing -/

/-- The tree with something else at a place. -/
def put (tree : FileTree) (route : Route) (entry : FileEntry) : FileTree :=
  ⟨tree.entries.put route entry, Assoc.nodup_keys_put tree.distinct route entry⟩

/-- Follows pieces of a path and makes a directory wherever nothing is.  What
was made before a refusal stays. -/
def makeDirectories (tree : FileTree) (route : Route) :
    List String → Except FileFault Route × FileTree
  | [] =>
      match tree.at? route with
      | none => (.ok route, tree.put route .directory)
      | some (.file _) => (.error .exists', tree)
      | some .directory => (.ok route, tree)
  | piece :: rest =>
      match tree.at? route with
      | some (.file _) => (.error .notADirectory, tree)
      | some .directory =>
          if nameLimit < piece.utf8ByteSize then (.error .nameTooLong, tree)
          else tree.makeDirectories (step route piece) rest
      | none =>
          let made := tree.put route .directory
          if nameLimit < piece.utf8ByteSize then (.error .nameTooLong, made)
          else made.makeDirectories (step route piece) rest

/-- Makes the directories below a place to which plain names lead. -/
def makeBelow (tree : FileTree) (root : Route) (names : List String) :
    Except FileFault Route × FileTree :=
  if names.any hasZero then (.error .zeroInName, tree)
  else if pathLimit < routeSize (root ++ names) then (.error .nameTooLong, tree)
  else tree.makeDirectories root names

/-- Writes a file into a directory, over one that is there. -/
def write (tree : FileTree) (route : Route) (content : Bytes) :
    Except FileFault FileTree :=
  let name := route.getLast?.getD ""
  if hasZero name then .error .zeroInName
  else if pathLimit < routeSize route then .error .nameTooLong
  else
    match tree.at? route.dropLast with
    | none => .error .notFound
    | some (.file _) => .error .notADirectory
    | some .directory =>
        if nameLimit < name.utf8ByteSize then .error .nameTooLong
        else if tree.at? route = some .directory then .error .isADirectory
        else .ok (tree.put route (.file content))

/-- The tree without a place and all that is below it. -/
def remove (tree : FileTree) (root : Route) : FileTree :=
  ⟨tree.entries.filter fun (route, _) => !root.isPrefixOf route,
    Assoc.nodup_keys_filter tree.distinct _⟩

/-- Removes a directory, if it is there. -/
def removeDirectory (tree : FileTree) (route : Route) :
    Except FileFault FileTree :=
  match tree.at? route with
  | none => .ok tree
  | some (.file _) => .error .notADirectory
  | some .directory => .ok (tree.remove route)

end FileTree

/-! ## Disks -/

/-- A file tree, and the directory from which relative paths start. -/
structure Disk where
  tree : FileTree := {}
  workingDirectory : Route := []
deriving Repr, Inhabited

namespace Disk

def start (disk : Disk) (path : String) : Route :=
  if Path.isAbsolute path then [] else disk.workingDirectory

/-- Why no place has the path. -/
def badPath? (path : String) : Option FileFault :=
  if FileTree.hasZero path then some .zeroInName
  else if FileTree.pathLimit < path.utf8ByteSize then some .nameTooLong
  else none

def locate (disk : Disk) (path : String) : Except FileFault Route :=
  if path = "" then .error .notFound
  else
    match badPath? path with
    | some fault => .error fault
    | none => disk.tree.walk (disk.start path) (Path.pieces path)

/-- The route of a path at which there is something. -/
def canonical? (disk : Disk) (path : String) : Option Route :=
  match disk.locate path with
  | .ok route => if disk.tree.has route then some route else none
  | .error _ => none

/-- There is something at the path. -/
def has (disk : Disk) (path : String) : Bool :=
  (disk.canonical? path).isSome

def at? (disk : Disk) (path : String) : Option FileEntry :=
  (disk.canonical? path).bind disk.tree.at?

/-- The content of the file at a path. -/
def read (disk : Disk) (path : String) : Except FileFault Bytes :=
  (disk.locate path).bind disk.tree.read

/-- The directories from the working directory up to the root. -/
def upwards (disk : Disk) : List Route :=
  disk.workingDirectory.foldl
    (fun routes name => (routes.headD [] ++ [name]) :: routes) [[]]

/-- The content of the nearest file of a name, in the working directory or above
it. -/
def nearest? (disk : Disk) (name : String) : Option Bytes :=
  disk.upwards.findSome?
    fun directory => (disk.tree.read (directory ++ [name])).toOption

/-- Makes the directories of a path that are missing. -/
def makeDirectories (disk : Disk) (path : String) :
    Except FileFault Route × Disk :=
  if path = "" then (.ok disk.workingDirectory, disk)
  else
    match badPath? path with
    | some fault => (.error fault, disk)
    | none =>
        let (result, tree) :=
          disk.tree.makeDirectories (disk.start path) (Path.pieces path)
        (result, { disk with tree := tree })

def write (disk : Disk) (path : String) (content : Bytes) :
    Except FileFault Disk := do
  let route ← disk.locate path
  let tree ← disk.tree.write route content
  return { disk with tree := tree }

/-- Removes the directory at a path, if it is there. -/
def removeDirectory (disk : Disk) (path : String) : Except FileFault Disk :=
  match disk.locate path with
  | .error .notFound => .ok disk
  | .error fault => .error fault
  | .ok route =>
      (disk.tree.removeDirectory route).map fun tree =>
        { disk with tree := tree }

end Disk
end ClusterTrace
