import ClusterTrace.Command.Invocation
import ClusterTrace.Config.Reading
import ClusterTrace.Correlation.Query
import ClusterTrace.Ingest.Import

/-!
# Running the program

One run of the program reads its settings, opens the database and answers one
request on its output.  What it finds and leaves behind is a `Site`: files, the
contents of databases, the environment and the time.
-/

namespace ClusterTrace.Command

open Time (Instant)

/-- Where a run takes place. -/
structure Site where
  disk : Disk := {}
  /-- The contents of the databases, by the routes of their files. -/
  databases : Assoc Route Database := []
  environment : Environment := {}
  now : Instant
deriving Repr

/-- What a run prints, and how it ends. -/
structure Result where
  output : String := ""
  /-- Why the run failed. -/
  failure : Option Failure := none
  /-- What was wrong with the command line, or what it asked for instead. -/
  usage : Option UsageFault := none
deriving Repr

/-- The number by which a run tells how it ended. -/
def Result.exitCode (result : Result) : UInt32 :=
  if result.failure.isSome then 1
  else
    match result.usage with
    | none => 0
    | some .help => 0
    | some .version => 0
    | some _ => 2

/-- How the program is called. -/
def usageText : String :=
  "Usage: logsviewer [OPTIONS] [COMMAND]\n\nCommands:\n" ++
  "  import   Import an archive\n" ++
  "  query    Correlate an event: pod, vmi, migration or history\n" ++
  "  list     List stored records of one kind\n" ++
  "  get      Print a stored object as it was imported\n" ++
  "  pvcs     List the claims of a pod or an instance\n" ++
  "  stats    Count the stored records of every kind\n" ++
  "  imports  List the imported archives\n" ++
  "  help     Print this text\n\nOptions:\n" ++
  "  -v, --verbose        Enable verbose logging\n" ++
  "  -c, --config <PATH>  Path to a file of settings\n" ++
  "      --home <PATH>    Home directory, over the settings\n" ++
  "  -h, --help           Print this text\n" ++
  "  -V, --version        Print the version\n"

/-- The name and version of the program. -/
def versionText : String := "logsviewer 0.1.0\n"

/-! ## Answers -/

/-- A JSON value as the program prints it. -/
def printed (value : Json) : String :=
  value.pretty ++ "\n"

/-- The kind of a name. -/
def kindOf (text : String) : Outcome Kind :=
  match Kind.ofName? text with
  | some kind => .ok kind
  | none => .error (.invalidArgument (.unknownKind text))

def importsJson (database : Database) : Json :=
  .array (database.imports.map Gather.toJson)

def countsJson (database : Database) : Json :=
  .object (database.counts.map fun (kind, count) => (kind.name, .int count))

def answerQuery (database : Database) : Query → Outcome Json
  | .pod uuid => (Correlation.ofPod database uuid).map (·.toJson)
  | .onNode vmi node =>
      (Correlation.ofInstance database vmi node).map (·.toJson)
  | .migration uuid => (Correlation.ofMigration database uuid).map (·.toJson)
  | .history vmi => (Correlation.ofHistory database vmi).map (·.toJson)

def answerClaims (database : Database) (kind uuid : String) : Outcome Json := do
  let kind ← kindOf kind
  let claims ←
    match kind with
    | .pod => database.podClaims uuid
    | .vmi => database.instanceClaims uuid
    | other => .error (.invalidArgument (.noClaims other))
  return .array (claims.map VolumeClaim.toJson)

def answerList (database : Database) (selection : Selection) :
    Outcome Json := do
  let filter ← selection.filter
  let kind ← kindOf selection.kind
  match kind with
  | .gather => return importsJson database
  | kind => return (← database.list kind filter).toJson

/-- What is printed of a stored object. -/
def answerGet (database : Database) (kind id : String) (asYaml : Bool) :
    Outcome String := do
  let kind ← kindOf kind
  if asYaml then database.contentYaml kind id
  else (database.content kind id).map printed

/-- What is printed for a request that reads the database. -/
def answer (database : Database) : Request → Outcome String
  | .importArchive _ => .ok ""
  | .query query => (answerQuery database query).map printed
  | .list selection => (answerList database selection).map printed
  | .get kind id asYaml => answerGet database kind id asYaml
  | .claims kind uuid => (answerClaims database kind uuid).map printed
  | .counts => .ok (printed (countsJson database))
  | .imports => .ok (printed (importsJson database))

def reportJson (archive : String) (report : Ingest.Report) : Json :=
  .ofMembers
    [("archive", .string archive),
      ("gatherTime", .ofInstant report.gatherTime),
      ("imported", .int report.imported),
      ("perKind", .ofMembers
        (report.perKind.map fun (kind, count) => (kind.name, .int count))),
      ("renamedFiles", .int report.extraction.renamed),
      ("errors", .array (report.skipped.map fun file => .string file.message))]

/-! ## Runs -/

/-- The name of files that declare variables. -/
def variablesName : String := ".env"

/-- The content of the database whose file is at a path. -/
def Site.databaseAt (site : Site) (path : String) : Database :=
  ((site.disk.canonical? path).bind
    fun route => site.databases.get? route).getD {}

/-- The site with what a store holds in the database at a path. -/
def Site.keep (site : Site) (path : String) (store : Store) : Site :=
  match site.disk.canonical? path with
  | some route =>
      if store.isOpen then
        { site with databases := site.databases.put route store.database }
      else site
  | none => site

/-- Carries out a request under settings. -/
def serve (config : Config) (request : Request) (site : Site) :
    Outcome String × Site :=
  let path := config.databasePath site.environment
  let store : Store :=
    { Store.new config.maxRetries config.backoffBase config.backoffMaximum with
      database := site.databaseAt path }
  match request with
  | .importArchive archive =>
      let ingester : Ingest.Ingester :=
        ⟨config.stagingPath site.environment,
          config.enrichmentPath site.environment⟩
      let (result, disk, store) :=
        ingester.importArchive archive path site.now site.disk store
      let site := { site with disk := disk }
      (result.map fun report => printed (reportJson archive report),
        site.keep path store.drain)
  | request =>
      let (result, store, disk) := store.openFile path site.disk
      let site := { site with disk := disk }
      (result.bind fun _ => answer store.database request, site.keep path store)

/-- The file of settings that the command line or else the environment names. -/
def Invocation.settingsFile? (invocation : Invocation)
    (environment : Environment) : Option String :=
  match invocation.config with
  | some path => some path
  | none => environment.configPath?

def Site.settings (site : Site) (invocation : Invocation) : Outcome Config :=
  (Config.loadOrDefault (invocation.settingsFile? site.environment)
    site.environment site.disk).map fun config =>
      match invocation.home with
      | some home => config.withHome home
      | none => config

/-- The site with the variables that the nearest file `.env` declares, in the
working directory or above it. -/
def Site.withDeclared (site : Site) : Site :=
  match site.disk.nearest? variablesName with
  | some octets => { site with environment := site.environment.addFile octets }
  | none => site

/-- Carries out a run with the variables of its environment. -/
def perform (arguments : List String) (site : Site) : Result × Site :=
  match Invocation.parse arguments with
  | .error .help => ({ output := usageText, usage := some .help }, site)
  | .error .version => ({ output := versionText, usage := some .version }, site)
  | .error fault => ({ usage := some fault }, site)
  | .ok invocation =>
      match invocation.request with
      | none => ({ output := usageText }, site)
      | some request =>
          match site.settings invocation with
          | .error failure => ({ failure := some failure }, site)
          | .ok config =>
              match serve config request site with
              | (.error failure, site) => ({ failure := some failure }, site)
              | (.ok output, site) => ({ output := output }, site)

/-- One run of the program.  What it declares for itself does not outlast it. -/
def run (arguments : List String) (site : Site) : Result × Site :=
  let (result, after) := perform arguments site.withDeclared
  (result, { after with environment := site.environment })

end ClusterTrace.Command
