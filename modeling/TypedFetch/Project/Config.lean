import TypedFetch.Files.Tree
import TypedFetch.Json.Reader
import TypedFetch.Project.Options
import TypedFetch.Report
import TypedFetch.Yaml.Reader

/-!
# Configuration files

A configuration is a mapping in a file, written in YAML, or in JSON if the name of the file says so.
A file without content is an empty mapping.
-/

namespace TypedFetch.Project

open TypedFetch.Files
open TypedFetch.Validation

/-- The names of configuration files, in the order in which they are searched. -/
def configNames : List String := ["proto2fetch.yaml", "proto2fetch.yml", "proto2fetch.json"]

/-- The configuration file of a directory. -/
def discoverConfig (tree : Tree) (directory : Path) : Except FileError (Option Path) :=
  tree.firstFile (configNames.map directory.child)

/-- Something is wrong with the configuration. -/
inductive ConfigError where
  | unreadable (path : Path) (e : FileError)
  | malformed (path : Path)
  /-- The content is a value of another kind. -/
  | notMapping (kind : String)
  | invalidOptions (issues : List Issue)
  | noSchemaPath (path : Path)
  | schemaPathNotDirectory (path : Path)

/-- The message of a configuration error, without the details of a malformed file. -/
def ConfigError.message : ConfigError → String
  | .unreadable path e => "Cannot read config file " ++ path.text ++ ": " ++ e.message
  | .malformed path => "Invalid config file " ++ path.text
  | .notMapping kind => "Config root must be a mapping, got " ++ kind
  | .invalidOptions issues =>
    s!"Invalid generator options: {issues.length} validation error" ++
      (if issues.length == 1 then "" else "s") ++ " for GeneratorOptions"
  | .noSchemaPath path => "Proto path does not exist: " ++ path.text
  | .schemaPathNotDirectory path => "Proto path is not a directory: " ++ path.text

/-- The faults that a configuration error reports one by one. -/
def ConfigError.issues? : ConfigError → Option (List Issue)
  | .invalidOptions issues => some issues
  | _ => none

/-- A configuration could not be settled. -/
inductive ConfigFailure where
  | config (e : ConfigError)
  /-- A path cannot be asked for. -/
  | file (e : FileError)
  /-- Bytes of the file that were asked for are no text. -/
  | encoding (e : Text.Utf8Error)
  /-- The text is well formed, but something in it stands for no value. -/
  | value (e : Yaml.Fault)

/-- The value that the bytes of a configuration file describe.  JSON is decoded as a whole before it
is read, and YAML while it is read. -/
def configValue (path : Path) (bytes : List UInt8) : Except ConfigFailure Value :=
  if path.suffix == ".json" then
    match Text.decodeUtf8 bytes with
    | .error e => .error (.encoding e)
    | .ok cs =>
      match Json.read (Text.unifyNewlines cs) with
      | .ok v => .ok v
      | .error .malformed => .error (.config (.malformed path))
      | .error .tooManyDigits => .error (.value .notValue)
      | .error .tooDeep => .error (.value .tooDeep)
  else
    match Yaml.read (.ofBytes bytes) with
    | .ok v => .ok v
    | .error (.fault .malformed) => .error (.config (.malformed path))
    | .error (.fault e) => .error (.value e)
    | .error (.noText e) => .error (.encoding e)

/-- The entries that a configuration file holds. -/
def configEntries : Value → Except ConfigFailure Entries
  | .null => .ok []
  | .map entries => .ok entries
  | v => .error (.config (.notMapping v.kindName))

/-- What came of a configuration file. -/
structure ConfigOutcome where
  /-- What was reported. -/
  events : List Event := []
  /-- The entries, or why there are none. -/
  result : Except ConfigFailure Entries

/-- Loads a configuration file. -/
def loadConfig (tree : Tree) (path : Path) : ConfigOutcome :=
  match tree.read path with
  | .error e =>
    { result := .error (if e.isOfSystem then .config (.unreadable path e) else .file e) }
  | .ok bytes =>
    match configValue path bytes with
    | .error e => { result := .error e }
    | .ok v =>
      { events := [.log .debug ("Loaded config from " ++ path.text)], result := configEntries v }

/-- The options that a configuration and what overrides it give. -/
def configuredOptions (config overrides : Entries) : Except ConfigError Options :=
  match buildOptions config overrides with
  | .ok o => .ok o
  | .error issues => .error (.invalidOptions issues)

/-- Warns of the include directories that are not there. -/
def checkIncludes (tree : Tree) : List Path → List Event × Except ConfigFailure Unit
  | [] => ([], .ok ())
  | p :: rest =>
    match tree.asksDirectory p with
    | .error e => ([], .error (.file e))
    | .ok true => checkIncludes tree rest
    | .ok false =>
      let (events, result) := checkIncludes tree rest
      (.log .warning ("Include path is not a directory: " ++ p.text) :: events, result)

/-- Checks that the directories of a run are there. -/
def checkPaths (tree : Tree) (o : Options) : List Event × Except ConfigFailure Unit :=
  match tree.ask o.schemaPath with
  | .error e => ([], .error (.file e))
  | .ok none => ([], .error (.config (.noSchemaPath o.schemaPath)))
  | .ok (some .directory) => checkIncludes tree o.includePaths
  | .ok (some _) => ([], .error (.config (.schemaPathNotDirectory o.schemaPath)))

end TypedFetch.Project
