import TypedFetch.Console.Page
import TypedFetch.Package.Manifest
import TypedFetch.Package.Readme
import TypedFetch.Project.Options
import TypedFetch.Proto.Load
import TypedFetch.TypeScript.Client
import TypedFetch.TypeScript.Types

/-!
# Generation

A run loads the schema directory, renders all files of the package, and only then writes them.  So a
schema that cannot be rendered leaves the output directory untouched.
-/

namespace TypedFetch.Project

open TypedFetch.Files

/-- A schema cannot be rendered. -/
inductive RenderError where
  | collision (c : TypeScript.Collision)
  | readme (e : Package.ReadmeError)

/-- What the client module is made from. -/
def Options.client (o : Options) : TypeScript.ClientOptions where
  clientName := o.clientName
  baseUrl := o.baseUrl
  features := o.features

/-- The files of the package by name, in the order in which they are written. -/
def render (o : Options) (schema : Schema) : Except RenderError (List (String × String)) :=
  match TypeScript.clientModule o.client schema with
  | .error c => .error (.collision c)
  | .ok client =>
    match Package.readme schema o.packageName o.clientName o.baseUrl with
    | .error e => .error (.readme e)
    | .ok readme =>
      .ok [("types.ts", TypeScript.typesModule o.policy o.features schema), ("client.ts", client),
        ("package.json", Package.manifestText schema o.packageName), ("README.md", readme)]

/-- What is reported while the files are rendered. -/
def renderEvents (o : Options) (schema : Schema) : List Event :=
  TypeScript.typesModuleEvents schema ++ TypeScript.clientModuleEvents o.client schema

/-! ## Writing -/

/-- What came of a change to the files. -/
structure WriteOutcome where
  /-- What was reported. -/
  events : List Event := []
  /-- The files afterwards. -/
  tree : Tree
  /-- Whether the change was made. -/
  result : Except FileError Unit := .ok ()

/-- Writes a generated file. -/
def writeFile (tree : Tree) (content : String) (path : Path) : WriteOutcome :=
  let started := Event.log .debug ("Writing generated file to: " ++ path.text)
  let data := Text.bytesOf content
  match tree.write path data with
  | .ok tree =>
    { events := [started, .log .info s!"Wrote {data.length} bytes to {path.text}"], tree }
  | .error e =>
    let told := if e.isOfSystem then
        [Event.log .error ("Failed to write " ++ path.text ++ ": " ++ e.message)]
      else []
    { events := started :: told, tree, result := .error e }

/-- Writes files into a directory, up to the first that cannot be written. -/
def writeFiles (directory : Path) : Tree → List (String × String) → WriteOutcome
  | tree, [] => { tree }
  | tree, (name, content) :: rest =>
    let first := writeFile tree content (directory.child name)
    match first.result with
    | .error e => { first with result := .error e }
    | .ok () =>
      let others := writeFiles directory first.tree rest
      { others with events := first.events ++ others.events }

/-! ## A run -/

/-- A run failed. -/
inductive GenerateError where
  | render (e : RenderError)
  | file (e : FileError)
  /-- The files were written, but the line about it cannot be shown. -/
  | report (e : Console.MarkupError)

/-- What came of a run. -/
structure GenerateOutcome where
  /-- What was reported. -/
  events : List Event
  /-- The files afterwards. -/
  tree : Tree
  /-- The files that were written, or why the run failed. -/
  result : Except GenerateError (List Path)

/-- The counts of a schema. -/
def schemaSummary (schema : Schema) : Event :=
  .summary "Parsed schema"
    [("Files", toString schema.files.length), ("Services", toString schema.services.length),
     ("Messages", toString schema.messages.length), ("Enums", toString schema.enums.length)]

/-- Writes rendered files into the output directory, which is created if it does not exist. -/
def emitFiles (tree : Tree) (directory : Path) (files : List (String × String)) :
    GenerateOutcome :=
  match tree.makeDirectories directory with
  | (tree, .error e) => ⟨[], tree, .error (.file e)⟩
  | (tree, .ok ()) =>
    let written := writeFiles directory tree files
    match written.result with
    | .error e => ⟨written.events, written.tree, .error (.file e)⟩
    | .ok () =>
      let done := Event.success s!"Generated {files.length} files in {directory.text}"
      match Console.eventFault? done with
      | some e => ⟨written.events, written.tree, .error (.report e)⟩
      | none =>
        let paths := files.map fun (name, _) => directory.child name
        ⟨written.events ++ [done], written.tree, .ok paths⟩

/-- Generates the package of a schema directory.  Imports are searched in the include directories,
then in the schema directory itself, then among the bundled schemas. -/
def generate (tree : Tree) (bundled : Path) (o : Options) : GenerateOutcome :=
  let library := Proto.Library.ofIncludes tree (o.includePaths ++ [o.schemaPath]) bundled
  let started :=
    [.rule "proto2fetch", .log .info ("Parsing protobuf files in " ++ o.schemaPath.text)]
  match library.loadDirectory o.schemaPath with
  | .error e => ⟨started, tree, .error (.file e)⟩
  | .ok loaded =>
    let events :=
      started ++ loaded.events ++ [schemaSummary loaded.schema] ++ renderEvents o loaded.schema
    match render o loaded.schema with
    | .error e => ⟨events, loaded.tree, .error (.render e)⟩
    | .ok files =>
      let written := emitFiles loaded.tree o.outputDir files
      { written with events := events ++ written.events }

end TypedFetch.Project
