import ClusterTrace.Command.Run
import ClusterTrace.Database.Document

/-!
# What a run touches

The paths that a run may read or write, and what it changed on a disk.  A
database is kept in its file.
-/

namespace ClusterTrace

/-! ## Changes of a disk -/

/-- One step by which a tree becomes another one. -/
inductive Change where
  | remove (route : Route)
  | makeDirectory (route : Route)
  | write (route : Route) (content : Bytes)
deriving Repr, DecidableEq

namespace FileTree

/-- The places at which there is nothing any more. -/
def lost (before after : FileTree) : List Change :=
  (before.below []).filterMap fun (route, _) =>
    if after.has route then none else some (.remove route)

/-- The places at which there is something else than before, a directory before
what is in it. -/
def gained (before after : FileTree) : List Change :=
  (after.below []).filterMap fun (route, entry) =>
    if before.at? route = some entry then none
    else
      match entry with
      | .directory => some (.makeDirectory route)
      | .file content => some (.write route content)

/-- The steps from one tree to another, what is in a directory removed before
it. -/
def changes (before after : FileTree) : List Change :=
  (lost before after).reverse ++ gained before after

end FileTree

/-- The places that a path passes, its end the last. -/
def Disk.passed (disk : Disk) (path : String) : List Route :=
  ((Path.pieces path).foldl (fun routes piece =>
    FileTree.step (routes.headD (disk.start path)) piece :: routes) []).reverse

namespace Command

/-! ## Paths -/

/-- The file of settings that a run may read. -/
def Invocation.settingsPath (invocation : Invocation)
    (environment : Environment) : String :=
  (invocation.settingsFile? environment).getD environment.homeConfigPath

/-- The files that a run may read or write, apart from those in the staging
directory. -/
def Invocation.dataPaths (invocation : Invocation) (config : Config)
    (environment : Environment) : List String :=
  let database := config.databasePath environment
  match invocation.request with
  | some (.importArchive archive) =>
      [database, config.enrichmentPath environment, archive]
  | some _ => [database]
  | none => []

/-! ## Databases in files -/

/-- The site with the database that the file at a path holds. -/
def Site.openDatabase (site : Site) (path : String) : Site :=
  match site.disk.canonical? path with
  | none => site
  | some route =>
      match site.disk.tree.read route with
      | .ok octets =>
          { site with
            databases := site.databases.put route (Database.read octets) }
      | .error _ => site

/-- The files that a run leaves behind, databases included. -/
def Site.files (site : Site) : FileTree :=
  site.databases.foldl
    (fun tree (route, database) => tree.put route (.file database.write))
      site.disk.tree

end Command
end ClusterTrace
