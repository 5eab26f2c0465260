import TypedFetch.CommandLine.Request
import TypedFetch.Project.Config
import TypedFetch.Project.Generate

/-!
# Calls

A call opens its log, settles the options, and generates the package.  It is a function of the
files that are there, the environment and the arguments; its outcome holds the files afterwards
and all that is reported.
-/

namespace TypedFetch.CommandLine

open TypedFetch.Files
open TypedFetch.Project

/-- A call broke off without an answer for its user. -/
inductive Crash where
  /-- The log cannot be opened. -/
  | logFile (e : FileError)
  /-- A path that was given is none. -/
  | path (e : FileError)
  /-- The configuration file holds something that cannot be read as a value. -/
  | config (e : ConfigFailure)
  /-- The examples of the package cannot be written. -/
  | readme (e : Package.ReadmeError)
  /-- The package was written, but the line about it cannot be shown. -/
  | report (e : Console.MarkupError)

/-- A crash in words. -/
def Crash.message : Crash → String
  | logFile e => e.message
  | path e => e.message
  | config (.config e) => e.message
  | config (.encoding e) => e.message
  | config (.value e) => e.message
  | config (.file e) => e.message
  | readme _ => "a method of the schema has neither a comment nor a name"
  | report e => e.message

/-- How a call ended. -/
inductive Ending where
  /-- The version was shown. -/
  | version
  /-- Help was shown. -/
  | help
  | misused (e : UsageError)
  | misconfigured (e : ConfigError)
  /-- The package was written. -/
  | generated
  /-- The package could not be written, and the log says why. -/
  | failed
  | crashed (c : Crash)

/-- The exit code of a call that did not break off. -/
def Ending.exitCode? : Ending → Option Nat
  | version | help | generated => some 0
  | misconfigured _ | failed => some 1
  | misused _ => some 2
  | crashed _ => none

/-- What came of a call. -/
structure Outcome where
  /-- What was reported. -/
  events : List Event := []
  /-- The files afterwards. -/
  tree : Tree
  /-- How the call ended. -/
  ending : Ending

/-! ## Options -/

/-- A failure to load the configuration, as the end of a call. -/
def endingOf : ConfigFailure → Ending
  | .config e => .misconfigured e
  | e => .crashed (.config e)

/-- The entries of the configuration file that is named, or else of the one in the working
directory. -/
def configuration (tree : Tree) (i : Invocation) : ConfigOutcome :=
  let found : Except FileError (Option Path) := match i.config with
    | some path => .ok (some path)
    | none => discoverConfig tree (.absolute tree.home)
  match found with
  | .ok (some path) => loadConfig tree path
  | .ok none => { result := .ok [] }
  | .error e => { result := .error (.file e) }

/-- The options that are asked for, and what was reported until they were known. -/
def requestedOptions (tree : Tree) (i : Invocation) : List Event × Except Ending Options :=
  let loaded := configuration tree i
  match loaded.result with
  | .error e => (loaded.events, .error (endingOf e))
  | .ok entries =>
    match configuredOptions entries i.overrides with
    | .error e => (loaded.events, .error (.misconfigured e))
    | .ok o => (loaded.events, .ok o)

/-- The options of a run, whose directories are there, and what was reported until they were
settled. -/
def settle (tree : Tree) (i : Invocation) : List Event × Except Ending Options :=
  match requestedOptions tree i with
  | (events, .error ending) => (events, .error ending)
  | (events, .ok o) =>
    match checkPaths tree o with
    | (warnings, .error e) => (events ++ warnings, .error (endingOf e))
    | (warnings, .ok ()) => (events ++ warnings, .ok o)

/-! ## Generation -/

/-- How the result of a generation ends a call, and what is reported about it. -/
def conclude : Except GenerateError (List Path) → List Event × Ending
  | .ok _ => ([], .generated)
  | .error (.render (.collision c)) => ([.log .error c.message], .failed)
  | .error (.render (.readme e)) => ([], .crashed (.readme e))
  | .error (.report e) => ([], .crashed (.report e))
  | .error (.file e) =>
    if e.isOfSystem then ([.log .error ("File I/O error: " ++ e.message)], .failed)
    else ([], .crashed (.path e))

/-- Settles the options and generates the package. -/
def perform (tree : Tree) (bundled : Path) (i : Invocation) : Outcome :=
  match settle tree i with
  | (events, .error ending) => { events, tree, ending }
  | (events, .ok o) =>
    let generated := generate tree bundled o
    let (more, ending) := conclude generated.result
    { events := events ++ generated.events ++ more, tree := generated.tree, ending }

/-! ## Logging -/

/-- The event is no log record below a level. -/
def reaches (level : LogLevel) (e : Event) : Bool :=
  match e.record? with
  | some (l, _) => level.rank ≤ l.rank
  | none => true

/-- The text of a log. -/
def logText (events : List Event) : String :=
  String.join ((logRecords events).map fun (level, message) => level.name ++ ":" ++ message ++ "\n")

/-- The outcome without the records below a level. -/
def Outcome.from (level : LogLevel) (o : Outcome) : Outcome :=
  { o with events := o.events.filter (reaches level) }

/-- The outcome with its log in a file. -/
def Outcome.logged (path : Path) (o : Outcome) : Outcome :=
  match o.tree.write path (Text.bytesOf (logText o.events)) with
  | .ok tree => { o with tree }
  | .error _ => o

/-- Performs a run with its log, which is opened, and so emptied, before anything else is done. -/
def invoke (tree : Tree) (bundled : Path) (i : Invocation) : Outcome :=
  match i.logFile with
  | none => (perform tree bundled i).from i.logLevel
  | some path =>
    let plain := Path.absolute (tree.plainLocation path)
    match tree.write plain [] with
    | .error e => { tree, ending := .crashed (.logFile e) }
    | .ok opened => ((perform opened bundled i).from i.logLevel).logged plain

/-- Does what a call asks for. -/
def run (tree : Tree) (bundled : Path) (env : Environment) (args : List String) : Outcome :=
  match request tree env args with
  | .error e => { tree, ending := .misused e }
  | .ok .version => { tree, ending := .version }
  | .ok .help => { tree, ending := .help }
  | .ok (.broken e) => { tree, ending := .crashed (.path e) }
  | .ok (.run i) => invoke tree bundled i

/-! ## Texts -/

/-- What is shown as the version. -/
def versionText : String := "proto2fetch, version 1.0.0"

/-- What is shown as help. -/
def usageText : String :=
  "Usage: proto2fetch [OPTIONS]\n\n" ++
    "  Generate a typed TypeScript HTTP client from protobuf definitions.\n\nOptions:" ++
    String.join (longOptions.map fun (name, action) =>
      "\n  --" ++ name ++ (if action matches .takes _ then " VALUE" else ""))

end TypedFetch.CommandLine
