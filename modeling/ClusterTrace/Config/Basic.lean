import ClusterTrace.Config.Variables
import ClusterTrace.Failure
import ClusterTrace.Files.Path
import ClusterTrace.Json.Basic

/-!
# Settings

Where data is kept and how records are stored.  Paths that are not set lie in
the home directory, which itself can be named by the environment.
-/

namespace ClusterTrace

/-! ## The environment -/

/-- What surrounds a run of the program. -/
structure Environment where
  /-- Its variables. -/
  values : Variables := []
deriving Repr, Inhabited

namespace Environment

/-- The variable with the user's own directory. -/
def userHomeName : String := "HOME"

/-- The variable with the directory in which data is kept. -/
def homeName : String := "LOGSVIEWER_HOME"

/-- The variable with the file of settings. -/
def configName : String := "LOGSVIEWER_CONFIG"

/-- The environment with variables that have values. -/
def ofValues (values : List (String × Option String)) : Environment :=
  ⟨values.foldl
    (fun known (name, value) => value.elim known (known.put name ·)) []⟩

/-- The value of a variable.  An empty one says nothing. -/
def get? (environment : Environment) (name : String) : Option String :=
  (environment.values.get? name).filter fun text => !text.isEmpty

/-- The directory in which data is kept where nothing else is said. -/
def defaultHome (environment : Environment) : String :=
  Path.join ((environment.get? userHomeName).getD ".") ".logsviewer"

/-- The directory in which data is kept. -/
def homePath (environment : Environment) : String :=
  (environment.get? homeName).getD environment.defaultHome

/-- The file of settings that the environment names. -/
def configPath? (environment : Environment) : Option String :=
  environment.get? configName

/-- The file of settings in the home directory. -/
def homeConfigPath (environment : Environment) : String :=
  Path.join environment.homePath "logsviewer.yaml"

/-- The environment with the variables that a file declares. -/
def addFile (environment : Environment) (octets : List UInt8) : Environment :=
  ⟨environment.values.addFile octets⟩

end Environment

/-! ## Settings -/

/-- The settings of the program. -/
structure Config where
  home : Option String := none
  /-- The file of the database. -/
  database : Option String := none
  /-- The directory into which archives are extracted.  It is emptied before
  every import. -/
  staging : Option String := none
  /-- The file of the enrichment data. -/
  enrichment : Option String := none
  /-- How many records are stored at a time. -/
  workers : Nat := 2
  /-- How long an operation of the database may take, in milliseconds. -/
  timeout : Nat := 1000
  /-- How often a failed record is tried again. -/
  maxRetries : Nat := 3
  /-- The first delay before a retry, in milliseconds. -/
  backoffBase : Nat := 5
  /-- The greatest delay before a retry, in milliseconds. -/
  backoffMaximum : Nat := 1000000
deriving Repr, DecidableEq, Inhabited

namespace Config

/-- The settings with another home directory. -/
def withHome (config : Config) (home : String) : Config :=
  { config with home := some home }

/-- The home directory. -/
def homePath (config : Config) (environment : Environment) : String :=
  config.home.getD environment.homePath

/-- The file of the database. -/
def databasePath (config : Config) (environment : Environment) : String :=
  config.database.getD (Path.join (config.homePath environment) "logsviewer.db")

/-- The directory into which archives are extracted. -/
def stagingPath (config : Config) (environment : Environment) : String :=
  config.staging.getD (Path.join (config.homePath environment) "space")

/-- The file of the enrichment data. -/
def enrichmentPath (config : Config) (environment : Environment) : String :=
  config.enrichment.getD (Path.join (config.homePath environment) "result.json")

/-- What is wrong with the settings, if anything is. -/
def fault? (config : Config) : Option BadArgument :=
  if config.workers = 0 then some .noWorkers
  else if config.timeout = 0 then some .noTimeout
  else if config.backoffMaximum < config.backoffBase then
    some (.backoffOrder config.backoffBase config.backoffMaximum)
  else none

/-- The settings, if nothing is wrong with them. -/
def validate (config : Config) : Outcome Config :=
  match config.fault? with
  | some cause => .error (.invalidArgument cause)
  | none => .ok config

/-- The settings as a JSON value.  Paths that are not set are left out. -/
def toJson (config : Config) : Json :=
  let path (name : String) (value : Option String) : List (String × Json) :=
    match value with
    | some text => [(name, .string text)]
    | none => []
  .object
    (path "home_dir" config.home ++ path "db_path" config.database ++
      path "staging_dir" config.staging ++
      path "enrichment_file" config.enrichment ++
      [("workers", .int config.workers),
        ("store_timeout_ms", .int config.timeout),
        ("max_retries", .int config.maxRetries),
        ("backoff_base_ms", .int config.backoffBase),
        ("backoff_max_ms", .int config.backoffMaximum)])

end Config
end ClusterTrace
