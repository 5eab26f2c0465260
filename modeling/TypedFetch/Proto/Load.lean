import TypedFetch.Proto.Extract
import TypedFetch.Proto.Registry
import TypedFetch.Proto.Staging
import TypedFetch.Report

/-!
# Loading of schemas

A file is staged, compiled and turned into a file of a schema.  A directory is loaded file by file;
a file that cannot be loaded is reported and left out.  Loading gives the files of the tree
afterwards, because staging may write outside of the directory that is made for it.
-/

namespace TypedFetch.Proto

open TypedFetch.Files

/-- A file of a schema cannot be had. -/
inductive SchemaError where
  | stage (e : StageError)
  /-- What the compiler gives cannot be read. -/
  | unreadable
  | registry (e : RegistryError)
  | extract (e : ExtractError)

/-- The message of a fault found while a schema is put together. -/
def ExtractError.message : ExtractError → String
  | .incompleteMapEntry => "list index out of range"
  | .options e => e.message
  | .operation e => e.message
  | .invalid issues =>
    s!"{issues.length} validation error" ++ (if issues.length == 1 then "" else "s")

/-- The message of a failed attempt to load a file of a schema. -/
def SchemaError.message : SchemaError → String
  | .stage e => e.message
  | .unreadable => (OptionFault.malformed "google.protobuf.FileDescriptorSet").message
  | .registry e => e.message
  | .extract e => e.message

/-- What came of a file. -/
structure FileOutcome where
  /-- What was reported. -/
  events : List Event := []
  /-- The imports of the file that were found nowhere. -/
  skipped : List String := []
  /-- The file, or why there is none. -/
  result : Except SchemaError Schema.File

/-- The reason when the compiler gives nothing. -/
def refusal (status : Nat) : String :=
  "protoc exited with status " ++ toString status

/-- The compiler takes the name for a switch that asks for help or for its version. -/
def asksForHelp (name : String) : Bool :=
  name.startsWith "-h" ||
    ["--help", "--version"].any fun switch => name == switch || name.startsWith (switch ++ "=")

/-- The compiler takes the name for a switch, or for a file with switches. -/
def isSwitch (name : String) : Bool :=
  name.startsWith "@" || (name.startsWith "-" && name != "-")

/-- The file of a schema that a compiled file gives. -/
def schemaOf (compiled : Compiled) (imports : List String) : Except SchemaError Schema.File := do
  compiled.register.mapError .registry
  (extractFile compiled.descriptor imports).mapError .extract

/-- Compiles a file of a stage. -/
def Stage.compile (s : Stage) (name : String) : Except Nat Compiled :=
  if asksForHelp name then .error 0
  else if isSwitch name then .error 1
  else (Proto.compile s.sources name).mapError fun _ => 1

/-- Compiles the file that a stage was made for. -/
def Stage.load (s : Stage) (path : Path) : FileOutcome :=
  let started := Event.log .debug ("Compiling " ++ path.text ++ " with protoc")
  match s.compile path.name, s.lookup path.name with
  | .error status, _ =>
    { events := [started], result := .error (.stage (.load ⟨path, refusal status⟩)) }
  | .ok _, none => { events := [started], result := .error (.stage (.load ⟨path, refusal 1⟩)) }
  | .ok compiled, some root =>
    if !compiled.isReadable then { events := [started], result := .error .unreadable }
    else
      { events := started :: root.skipped.map fun target =>
          .log .debug ("Skipped unresolved import '" ++ target ++ "' in " ++ path.text)
        skipped := root.skipped
        result := schemaOf compiled (Source.imports root.text) }

/-- Loads one file.  The files afterwards are given too: a file that is laid out under a name that
leads elsewhere stays there. -/
def Library.loadFile (l : Library) (path : Path) : FileOutcome × Tree :=
  match l.stage path with
  | .error e => ({ result := .error (.stage e) }, l.tree)
  | .ok stage =>
    match stage.layOut l.tree with
    | (tree, .error e) => ({ result := .error (.stage e) }, tree)
    | (tree, .ok ()) => (stage.load path, tree)

/-- What came of a directory. -/
structure DirectoryOutcome where
  /-- What was reported. -/
  events : List Event
  /-- The imports that were found nowhere, in order. -/
  skipped : List String
  /-- The schema of the files that could be loaded. -/
  schema : Schema
  /-- The files afterwards. -/
  tree : Tree

/-- A schema from its files; it has a title and the like if it has a service. -/
def schemaOfFiles (files : List Schema.File) : Schema :=
  if files.any fun f => !f.services.isEmpty then
    { files
      title := some "Generated API Client"
      version := some "1.0.0"
      description := some "TypeScript API client generated from protobuf definitions" }
  else { files }

/-- What is reported about one file of a directory. -/
def fileEvents (path : Path) (o : FileOutcome) : List Event :=
  .log .debug ("Parsing " ++ path.text) :: o.events ++
    match o.result with
    | .ok _ => []
    | .error e => [.log .warning ("Skipping " ++ path.text ++ ": " ++ e.message)]

/-- What is reported about imports that were found nowhere. -/
def skippedEvents (skipped : List String) : List Event :=
  if skipped.isEmpty then []
  else
    [.log .warning ("Unresolved imports were skipped: " ++ ", ".intercalate skipped),
     .hint "Add the directories holding them with --include-path to keep their annotations"]

/-- Loads files one after the other; each finds what the one before it left. -/
def Library.loadFiles (l : Library) : List Path → List (Path × FileOutcome) × Tree
  | [] => ([], l.tree)
  | p :: rest =>
    let (o, tree) := l.loadFile p
    let (others, tree) := Library.loadFiles { l with tree } rest
    ((p, o) :: others, tree)

/-- What came of a directory, from what came of its files. -/
def directoryOutcome (root : Path) (outcomes : List (Path × FileOutcome)) (tree : Tree) :
    DirectoryOutcome :=
  let files := outcomes.filterMap fun (_, o) => o.result.toOption
  let skipped := (outcomes.flatMap fun (_, o) => o.skipped).eraseDups.mergeSort Text.textLE
  { events :=
      (if outcomes.isEmpty then [.log .warning ("No .proto files found in " ++ root.text)]
        else []) ++
        outcomes.flatMap (fun (p, o) => fileEvents p o) ++
        [.log .info s!"Parsed {files.length} of {outcomes.length} proto file(s)"] ++
        skippedEvents skipped
    skipped
    schema := schemaOfFiles files
    tree }

/-- Loads all schema files below a directory. -/
def Library.loadDirectory (l : Library) (root : Path) : Except FileError DirectoryOutcome :=
  (schemaFiles l.tree root).map fun paths =>
    let (outcomes, tree) := l.loadFiles paths
    directoryOutcome root outcomes tree

end TypedFetch.Proto
