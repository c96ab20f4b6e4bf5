import ClusterTrace.Archive.Tar
import ClusterTrace.Failure
import ClusterTrace.Files.Tree
import ClusterTrace.Ingest.Rename

/-!
# Extraction of archives

Of an archive only what lies below `namespaces` or `cluster-scoped-resources` is
extracted, and the first file `timestamp` outside of these.  What precedes the
first such directory is the producer's own; it is taken off every path that
begins with it.  A file whose place is taken gets a numbered name.
-/

namespace ClusterTrace.Ingest

open Archive (Member)

/-- What an extraction wrote. -/
structure Extraction where
  /-- The names in front of the resources, as the first of them has them. -/
  producer : Option Route := none
  /-- How many files were written, the time stamp not counted. -/
  files : Nat := 0
  /-- How many of them got a numbered name. -/
  renamed : Nat := 0
  /-- The time stamp was written. -/
  hasTimestamp : Bool := false
deriving Repr, DecidableEq, Inhabited

/-- The directories that hold resources. -/
def resourceRoots : List String :=
  ["namespaces", "cluster-scoped-resources"]

/-- The name of the file that holds the gather time. -/
def timestampName : String := "timestamp"

/-- The names of a path, unless it is absolute or goes up. -/
def plainNames? (path : List UInt8) : Option (List String) :=
  let pieces := path.splitOn 0x2F
  if path.head? = some 0x2F || pieces.contains [0x2E, 0x2E] then none
  else
    some ((pieces.filter fun piece => !piece.isEmpty && piece ≠ [0x2E]).map
      Text.Utf8.decodeLossy)

/-- The names after those of the producer, if they begin with these. -/
def relativeNames (producer names : List String) : List String :=
  (producer.isPrefixOf? names).getD names

/-- A step of an extraction: what it has written so far, or why it is refused,
and the tree. -/
abbrev ExtractionStep := Except FileFault Extraction × FileTree

/-- Writes the time stamp, unless one is there. -/
def extractTimestamp (target : Route) (content : Bytes)
    (extraction : Extraction) (tree : FileTree) : ExtractionStep :=
  let place := target ++ [timestampName]
  if tree.has place then (.ok extraction, tree)
  else
    match tree.write place content with
    | .error fault => (.error fault, tree)
    | .ok tree => (.ok { extraction with hasTimestamp := true }, tree)

/-- Writes a resource file below the target, under the first free name.  The
search for it does not end if all names are taken, and nothing is written. -/
def extractFile (target : Route) (names : List String) (content : Bytes)
    (extraction : Extraction) (tree : FileTree) : ExtractionStep :=
  match tree.makeBelow target names.dropLast with
  | (.error fault, tree) => (.error fault, tree)
  | (.ok directory, tree) =>
      let name := names.getLast?.getD ""
      let free :=
        firstFree (fun name => tree.has (directory ++ [name])) bumpName
        (tree.entries.length + 1) name
      if tree.has (directory ++ [free]) then (.error .exists', tree)
      else
        match tree.write (directory ++ [free]) content with
        | .error fault => (.error fault, tree)
        | .ok tree =>
            let renamed :=
              if free = name then extraction.renamed else extraction.renamed + 1
            let files := extraction.files + 1
            (.ok { extraction with files := files, renamed := renamed }, tree)

/-- Writes a resource of an archive below the target. -/
def extractResource (target : Route) (names : List String) (member : Member)
    (extraction : Extraction) (tree : FileTree) : ExtractionStep :=
  match member.kind with
  | .directory =>
      match tree.makeBelow target names with
      | (.error fault, tree) => (.error fault, tree)
      | (.ok _, tree) => (.ok extraction, tree)
  | .file => extractFile target names member.content extraction tree
  | .continuous => extractFile target names member.content extraction tree
  | _ => (.ok extraction, tree)

/-- Writes a member of an archive below the target. -/
def extractMember (target : Route) (member : Member) (extraction : Extraction)
    (tree : FileTree) : ExtractionStep :=
  match plainNames? member.path with
  | none => (.ok extraction, tree)
  | some names =>
      match names.findIdx? fun name => resourceRoots.contains name with
      | some index =>
          let producer := extraction.producer.getD (names.take index)
          extractResource target (relativeNames producer names) member
            { extraction with producer := some producer } tree
      | none =>
          if names.getLast? = some timestampName && member.kind = .file then
            extractTimestamp target member.content extraction tree
          else (.ok extraction, tree)

/-- Writes the members of an archive below the target, in order, up to a
refusal. -/
def extractMembers (target : Route) :
    List Member → Extraction → FileTree → ExtractionStep
  | [], extraction, tree => (.ok extraction, tree)
  | member :: rest, extraction, tree =>
      match extractMember target member extraction tree with
      | (.error fault, tree) => (.error fault, tree)
      | (.ok extraction, tree) => extractMembers target rest extraction tree

/-- Extracts the archive at a path into the directory at a path. -/
def extract (archive target : String) (disk : Disk) :
    Outcome Extraction × Disk :=
  match disk.makeDirectories target with
  | (.error fault, disk) => (.error (.io fault), disk)
  | (.ok root, disk) =>
      match disk.read archive with
      | .error fault => (.error (.archive archive (.file fault)), disk)
      | .ok octets =>
          let contents := Archive.Tar.read (Archive.Gzip.read octets)
          let (result, tree) :=
            extractMembers root contents.members {} disk.tree
          let disk := { disk with tree := tree }
          match result with
          | .error fault => (.error (.io fault), disk)
          | .ok extraction =>
              if contents.isDamaged then
                (.error (.archive archive .damaged), disk)
              else (.ok extraction, disk)

end ClusterTrace.Ingest
