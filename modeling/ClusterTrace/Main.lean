import ClusterTrace.Command.Footprint
import Std.Time.DateTime.Timestamp

/-!
# The program

The files that a run may touch are copied, the run is carried out on the copies,
and what it changed is written back.
-/

namespace ClusterTrace.Machine

open Command (Invocation Site)

def pathOf (route : Route) : String :=
  "/" ++ "/".intercalate route

/-- The tree with a copy of what is at a place of the machine, without what is
below it. -/
def copyPlace (tree : FileTree) (route : Route) : IO FileTree := do
  try
    let place ← IO.FS.realPath (pathOf route)
    if ← place.isDir then
      return if route.isEmpty then tree else tree.put route .directory
    else if ← place.pathExists then
      return tree.put route (.file (← IO.FS.readBinFile place).toList)
    else return tree
  catch _ => return tree

/-- The tree with a copy of what is at a place of the machine, and of all that
is below it. -/
partial def copyBelow (tree : FileTree) (route : Route) : IO FileTree := do
  let mut tree ← copyPlace tree route
  if tree.at? route = some .directory then
    let place ← IO.FS.realPath (pathOf route)
    for entry in ← place.readDir do
      tree ← copyBelow tree (route ++ [entry.fileName])
  return tree

/-- The disk with copies of all places that a path passes. -/
def copyPath (disk : Disk) (path : String) : IO Disk := do
  return { disk with tree := ← (disk.passed path).foldlM copyPlace disk.tree }

/-- The disk with copies of all places that a path passes and of all that is
below its end. -/
def copyDirectory (disk : Disk) (path : String) : IO Disk := do
  let disk ← copyPath disk path
  match disk.canonical? path with
  | some route => return { disk with tree := ← copyBelow disk.tree route }
  | none => return disk

/-- Makes a change on the machine. -/
def applyChange : Change → IO Unit
  | .remove route => do
      let place ← IO.FS.realPath (pathOf route)
      if ← place.isDir then IO.FS.removeDirAll place else IO.FS.removeFile place
  | .makeDirectory route => IO.FS.createDirAll (pathOf route)
  | .write route content =>
      IO.FS.writeBinFile (pathOf route) (ByteArray.mk content.toArray)

/-- The names on the way to the working directory. -/
def workingDirectory : IO Route := do
  let directory ← IO.currentDir
  return (Path.pieces directory.toString).filter fun piece => !Path.isIdle piece

/-- The environment of the process, as far as the program or a file of variables
asks for it. -/
def environment (disk : Disk) : IO Environment := do
  let mentioned :=
    (disk.nearest? Command.variablesName).elim [] Variables.mentioned
  let names :=
    [Environment.userHomeName, Environment.homeName, Environment.configName] ++
      mentioned
  return .ofValues (← names.mapM fun name => return (name, ← IO.getEnv name))

def now : IO Time.Instant := do
  let span := (← Std.Time.Timestamp.now).toDurationSinceUnixEpoch
  return ⟨span.second.val, span.nano.val.toNat⟩

/-- The site with copies of the files that an invocation may touch. -/
def copyData (invocation : Invocation) (site : Site) : IO Site := do
  match site.settings invocation with
  | .error _ => return site
  | .ok config =>
      let paths := invocation.dataPaths config site.environment
      let mut disk ← paths.foldlM copyPath site.disk
      if let some (.importArchive _) := invocation.request then
        disk ← copyDirectory disk (config.stagingPath site.environment)
      return { site with disk := disk }.openDatabase
        (config.databasePath site.environment)

/-- The site of a run, with nothing but files that declare variables. -/
def bareSite : IO Site := do
  let disk : Disk := { workingDirectory := ← workingDirectory }
  let places :=
    disk.upwards.map fun directory => directory ++ [Command.variablesName]
  let disk := { disk with tree := ← places.foldlM copyPlace disk.tree }
  return { disk := disk, environment := ← environment disk, now := ← now }

/-- The site of a run. -/
def siteOf (arguments : List String) : IO Site := do
  let site ← bareSite
  match Invocation.parse arguments with
  | .error _ => return site
  | .ok invocation =>
      let declared := site.withDeclared
      let disk ←
        copyPath site.disk (invocation.settingsPath declared.environment)
      return { ← copyData invocation { declared with disk := disk } with
        environment := site.environment }

/-- Carries out a run and writes back what it changed. -/
def run (arguments : List String) : IO UInt32 := do
  let before ← siteOf arguments
  let (result, after) := Command.run arguments before
  (before.disk.tree.changes after.files).forM applyChange
  IO.print result.output
  if let some failure := result.failure then IO.eprintln failure.message
  if result.exitCode = 2 then IO.eprint Command.usageText
  return result.exitCode

end ClusterTrace.Machine

/-- Runs the program. -/
def main (arguments : List String) : IO UInt32 :=
  ClusterTrace.Machine.run arguments
