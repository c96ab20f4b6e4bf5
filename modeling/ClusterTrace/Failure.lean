import ClusterTrace.Files.Fault
import ClusterTrace.Json.Reader
import ClusterTrace.Manifest.Decode

/-!
# Failures

Everything that can go wrong, by cause.  `Failure.message` is the wording shown
to users; `Failure.summary` leaves out the place in a YAML document at which a
fault was found.
-/

namespace ClusterTrace

/-- Why an archive cannot be read. -/
inductive ArchiveFault where
  | file (fault : FileFault)
  /-- The compressed data or the entries are damaged. -/
  | damaged
deriving Repr, DecidableEq

def ArchiveFault.message : ArchiveFault → String
  | .file fault => fault.message
  | .damaged => "archive is damaged"

/-- What is wrong with an argument. -/
inductive BadArgument where
  | unknownKind (text : String)
  | unknownStatus (text : String)
  | pageZero
  | perPageZero
  | noNamespace (kind : Kind)
  | noManifest (kind : Kind)
  | noManifests
  | noClaims (kind : Kind)
  | notAFile (path : String)
  | insideStaging (path : String)
  | noWorkers
  | noTimeout
  | backoffOrder (base maximum : Nat)
deriving Repr, DecidableEq

def BadArgument.message : BadArgument → String
  | .unknownKind text => "unknown kind: " ++ text
  | .unknownStatus text => "unknown status: " ++ text
  | .pageZero => "page numbers start at 1"
  | .perPageZero => "per_page must be greater than 0"
  | .noNamespace kind => kind.name ++ " records have no namespace"
  | .noManifest kind => kind.name ++ " records carry no manifest"
  | .noManifests => "import ledger entries have no manifests"
  | .noClaims kind => "pvcs are listed for pods and vmis, not " ++ kind.name
  | .notAFile path => "not a file: " ++ path
  | .insideStaging path =>
      "archive must live outside the staging directory: " ++ path
  | .noWorkers => "workers must be at least 1"
  | .noTimeout => "store_timeout_ms must be at least 1"
  | .backoffOrder base maximum =>
      "backoff_base_ms (" ++ toString base ++ ") exceeds backoff_max_ms (" ++
        toString maximum ++ ")"

/-- The part of a query that was found to be missing. -/
inductive MissingLink where
  | vmi
  | launcher
  | source
  | target
  | sourceHandler
  | targetHandler
  | handler
  | migrationStart
deriving Repr, DecidableEq

/-- The name of a missing part. -/
def MissingLink.name : MissingLink → String
  | .vmi => "virtual machine instance"
  | .launcher => "launcher pod"
  | .source => "source launcher pod"
  | .target => "target launcher pod"
  | .sourceHandler => "source virt-handler"
  | .targetHandler => "target virt-handler"
  | .handler => "virt-handler"
  | .migrationStart => "migration start timestamp"

/-- Why a text is not the JSON value that is needed. -/
inductive JsonFault where
  | syntax' (fault : Json.SyntaxFault)
  | shape (what : Shape.Mismatch)
deriving Repr

def JsonFault.message : JsonFault → String
  | .syntax' fault => fault.message
  | .shape what => what.message .json

/-- What went wrong. -/
inductive Failure where
  | io (fault : FileFault)
  /-- The database file cannot be opened. -/
  | database
  | yaml (fault : Yaml.Fault) (isMalformed : Bool)
  | json (fault : JsonFault)
  | archive (path : String) (fault : ArchiveFault)
  | timestampMissing (path : String)
  | invalidTimestamp (line : String)
  | alreadyImported (name : String)
  | manifest (path : String) (fault : Manifest.Fault)
  | invalidArgument (cause : BadArgument)
  | notFound (entity : String) (id : String)
  | incomplete (link : MissingLink)
deriving Repr

namespace Failure

/-- The wording of a failure, faults in documents worded by `inYaml` and
`inManifest`. -/
def words (inYaml : Yaml.Fault → String)
    (inManifest : Manifest.Fault → String) : Failure → String
  | .io fault => "io error: " ++ fault.message
  | .database =>
      "database error: error returned from database: (code: 14) " ++
        "unable to open database file"
  | .yaml fault _ => "yaml error: " ++ inYaml fault
  | .json fault => "json error: " ++ fault.message
  | .archive path fault => "archive error for " ++ path ++ ": " ++ fault.message
  | .timestampMissing path => "timestamp file missing: " ++ path
  | .invalidTimestamp line => "invalid timestamp: " ++ line
  | .alreadyImported name => "must-gather already imported: " ++ name
  | .manifest path fault =>
      "failed to decode manifest " ++ path ++ ": " ++ inManifest fault
  | .invalidArgument cause => "invalid argument: " ++ cause.message
  | .notFound entity id => entity ++ " not found: " ++ id
  | .incomplete link =>
      "not enough data to build a query: " ++ link.name ++ " not found"

def message (failure : Failure) : String :=
  failure.words Yaml.Fault.message Manifest.Fault.message

/-- The wording of a failure without the place in a YAML document. -/
def summary (failure : Failure) : String :=
  failure.words Yaml.Fault.summary Manifest.Fault.summary

/-- The data that a query needs is not there. -/
def isNotFound : Failure → Bool
  | .notFound _ _ => true
  | .incomplete _ => true
  | _ => false

/-- The failure of a document text that is malformed as a whole. -/
def isMalformed : Failure → Bool
  | .yaml _ isMalformed => isMalformed
  | .manifest _ (.yaml _ isMalformed) => isMalformed
  | _ => false

/-- The failure of a value of the wrong shape. -/
def ofMismatch (what : Shape.Mismatch) : Failure :=
  .json (.shape what)

/-- The failure to decode the manifest file at a path. -/
def ofManifest (path : String) : Manifest.Fault → Failure
  | .noManifests => .invalidArgument .noManifests
  | fault => .manifest path fault

end Failure

/-- A result or a failure. -/
abbrev Outcome (α : Type) := Except Failure α

end ClusterTrace
