import TypedFetch.Proto.Import
import TypedFetch.Proto.Source.Imports
import TypedFetch.Proto.Source.Options

/-!
# Staging

A schema file is compiled together with the files that it imports, directly or through others.  Each
file is staged under the name by which it was first imported.  Where imports had to be skipped, the
statements that import them are removed, and with them all options that no staged file can define.
-/

namespace TypedFetch.Proto

open TypedFetch.Files

/-- A schema file could not be loaded. -/
structure LoadError where
  /-- The path of the file. -/
  path : Path
  /-- The reason. -/
  reason : String
deriving Repr, BEq, DecidableEq

/-- The message of a failed attempt to load a file. -/
def LoadError.message (e : LoadError) : String :=
  "Failed to load " ++ e.path.text ++ ": " ++ e.reason

/-- A file that takes part in a compilation. -/
structure StagedFile where
  /-- The path from which it was read. -/
  source : Path
  /-- The text as it was read. -/
  text : List Char
  /-- The package that it declares. -/
  package : String
  /-- The imports that were found nowhere. -/
  skipped : List String
deriving Repr, BEq, DecidableEq

/-- The files of a compilation by import name, in the order in which they were reached. -/
abbrev Stage := List (String × StagedFile)

/-- Why files cannot be staged. -/
inductive StageError where
  /-- A schema file cannot be read. -/
  | load (e : LoadError)
  /-- Something else cannot be done to a file. -/
  | file (e : FileError)
deriving Repr, BEq, DecidableEq

/-- The message of a failed attempt to stage files. -/
def StageError.message : StageError → String
  | .load e => e.message
  | .file e => e.message

/-- A text as a staged file whose imports come from the given places. -/
def stagedFile (source : Path) (text : List Char) (resolved : List (String × Resolution)) :
    StagedFile where
  source := source
  text := text
  package := Source.packageName text
  skipped := (resolved.filter (·.2 == .skipped)).map (·.1)

/-- The text of a schema file. -/
def Library.source (l : Library) (path : Path) : Except StageError (List Char) :=
  match l.tree.readText path with
  | .ok text => .ok text
  | .error (.file e) =>
    if e.fault == .improperPath then .error (.file e) else .error (.load ⟨path, e.message⟩)
  | .error (.encoding e) => .error (.load ⟨path, e.message⟩)

/-- Where the imports of a text come from, up to the first that cannot be asked for. -/
def Library.resolved (l : Library) (origin : Path) :
    List String → List (String × Resolution) × Option FileError
  | [] => ([], none)
  | target :: rest =>
    match l.resolve origin target with
    | .error e => ([], some e)
    | .ok r =>
      let (others, e) := l.resolved origin rest
      ((target, r) :: others, e)

/-- Stages a file under a name, and then the files that it imports; `depth` bounds the length of
chains of imports. -/
def Library.stageFrom (l : Library) :
    Nat → Path → String → Stage → Except StageError Stage
  | 0, _, _, stage => .ok stage
  | depth + 1, source, name, stage =>
    if (stage.lookup name).isSome then .ok stage
    else do
      let text ← l.source source
      let (resolved, fault) := l.resolved source (Source.imports text)
      let stage ← resolved.foldlM
        (fun stage (target, r) =>
          match r with
          | .file p => l.stageFrom depth p target stage
          | _ => .ok stage)
        (stage ++ [(name, stagedFile source text resolved)])
      match fault with
      | some e => .error (.file e)
      | none => .ok stage

/-- A bound for chains of imports in a tree: every import takes up some of the content of a file. -/
def chainBound (tree : Tree) : Nat :=
  tree.entries.foldl (fun n e => n + e.2.size) 1

/-- The files that take part in the compilation of a file. -/
def Library.stage (l : Library) (source : Path) : Except StageError Stage :=
  l.stageFrom (chainBound l.tree + 1) source source.name []

/-- The package of the schemas that come with the compiler. -/
def wellKnownPackage : String := "google.protobuf"

/-- The packages that the files of a stage declare. -/
def Stage.packages (s : Stage) : List String :=
  (s.map fun (_, f) => f.package).filter (!·.isEmpty) ++ [wellKnownPackage]

/-- The extension may be known: it belongs to a package of the stage, or its name is relative to the
scope in which it stands. -/
def Stage.knows (s : Stage) (extension : List Char) : Bool :=
  !extension.contains '.' ||
    s.packages.any fun package => (package ++ ".").toList.isPrefixOf extension

/-- The text of a staged file that is given to the compiler. -/
def Stage.compilable (s : Stage) (f : StagedFile) : List Char :=
  if f.skipped.isEmpty then f.text
  else
    Source.stripOptions s.knows (Source.removeImports f.text (f.skipped.map String.toList))

/-- Lays out files of a stage below a directory, one after the other.  Where one of them cannot be
written the rest is left out, and what was written before it stays. -/
def Stage.layOutFrom (s : Stage) (directory : Path) :
    Tree → List (String × StagedFile) → Tree × Except StageError Unit
  | tree, [] => (tree, .ok ())
  | tree, (name, f) :: rest =>
    let path := directory.child name
    match tree.makeDirectories path.parent with
    | (tree, .error e) => (tree, .error (.file e))
    | (tree, .ok ()) =>
      match tree.write path (Text.bytesOf (String.ofList (s.compilable f))) with
      | .error e => (tree, .error (.file e))
      | .ok tree => s.layOutFrom directory tree rest

/-- Lays out the files of a stage below a directory of a tree.  That fails where the name of one
file is the directory of another. -/
def Stage.layOutIn (s : Stage) (directory : Path) (tree : Tree) : Tree × Except StageError Unit :=
  s.layOutFrom directory tree s

/-- A directory like those that are made for one compilation and removed after it. -/
def temporaryHome : List String := ["tmp", "proto2fetch-00000000"]

/-- The directory in which files are laid out for the compiler. -/
def stagingHome : List String := temporaryHome ++ ["protos"]

/-- Lays out the files of a stage for the compiler, in a directory that is there for them alone and
is removed again.  What was written elsewhere stays. -/
def Stage.layOut (s : Stage) (tree : Tree) : Tree × Except StageError Unit :=
  match tree.makeDirectory (.absolute temporaryHome) with
  | .error e => (tree, .error (.file e))
  | .ok tree =>
    let (tree, outcome) := s.layOutIn (.absolute stagingHome) tree
    (tree.without temporaryHome, outcome)

/-- The texts that are given to the compiler. -/
def Stage.sources (s : Stage) : List (String × List Char) :=
  s.map fun (name, f) => (name, s.compilable f)

end TypedFetch.Proto
