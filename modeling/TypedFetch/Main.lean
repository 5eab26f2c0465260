import TypedFetch.CommandLine.Run
import TypedFetch.Proto.Bundled

/-!
# The program

Takes a picture of the files that a call may need, lets the call run on it, writes back what has
changed, and prints what was reported.  Nothing is decided here.
-/

namespace TypedFetch.Program

open TypedFetch.Files
open TypedFetch.CommandLine

/-- Where the bundled schemas stand in the picture. -/
def bundledLocation : List String := ["proto2fetch", "schemas"]

/-- The text of a location. -/
def locationText (location : List String) : String :=
  (Path.absolute location).text

/-- Files above this size are taken for something other than text. -/
def sizeLimit : UInt64 := 4194304

/-- Directories are read down to this depth. -/
def depthLimit : Nat := 40

/-- What is at a location and, down to a depth, below it, as far as it can be read.  A file that is
too large has a content that no call writes. -/
def picture : Nat → List String → IO (List (List String × Entry))
  | 0, _ => return []
  | depth + 1, location => do
    let here ← IO.FS.realPath (locationText location)
    if ← here.isDir then
      let below ← (← here.readDir).toList.flatMapM fun e => do
        try picture depth (location ++ [e.fileName]) catch _ => return []
      return (location, .directory) :: below
    else if (← here.metadata).byteSize ≤ sizeLimit then
      return [(location, .file (← IO.FS.readBinFile here).toList)]
    else return [(location, .file [0])]

/-- There is a directory at a location. -/
def isDirectoryAt (location : List String) : IO Bool := do
  try (← IO.FS.realPath (locationText location)).isDir catch _ => return false

/-- The directories above a location. -/
def above (location : List String) : IO (List (List String × Entry)) := do
  let outer := (List.range (location.length - 1)).map fun n => location.take (n + 1)
  return (← outer.filterM isDirectoryAt).map (·, .directory)

/-- Adds what a path leads to, unless the tree has it. -/
def includePath (tree : Tree) (path : Path) : IO Tree := do
  let location := tree.plainLocation path
  if tree.home.isPrefixOf location then return tree
  let found ← try picture depthLimit location catch _ => pure []
  return ((← above location) ++ found).foldl (fun t (l, e) => t.put l e) tree

/-- The picture of the working directory. -/
def workingTree : IO Tree := do
  let home := (Path.ofText (← IO.FS.realPath ".").toString).parts
  let entries := (← above home) ++ (← picture depthLimit home)
  let tree := Proto.withBundled { entries, home } bundledLocation
  return tree.put Proto.temporaryHome.dropLast .directory

/-- Adds all that a call names. -/
def includeNamed (tree : Tree) (env : Environment) (args : List String) : IO Tree := do
  let .ok a := readArguments args | return tree
  let tree ← (a.paths env).foldlM includePath tree
  match requestedOptions tree (a.invocation env) with
  | (_, .ok o) => ([o.schemaPath, o.outputDir] ++ o.includePaths).foldlM includePath tree
  | (_, .error _) => return tree

/-- The environment, as far as it matters. -/
def readEnvironment : IO Environment :=
  settings.filterMapM fun s => do
    return (← IO.getEnv s.environmentName).map fun v => (s.environmentName, v)

/-- Writes back what has changed. -/
def writeBack (before after : Tree) : IO Unit := do
  for (location, e) in after.entries do
    unless before.at? location == some e do
      match e with
      | .directory => IO.FS.createDirAll (locationText location)
      | .file content => IO.FS.writeBinFile (locationText location) ⟨content.toArray⟩

/-- Prints an event. -/
def printEvent (e : Event) : IO Unit :=
  match e.record? with
  | some (level, message) =>
    IO.println (level.name.pushn ' ' (8 - level.name.length) ++ " " ++ message)
  | none =>
    match Console.pageText 80 [e] with
    | .ok text => IO.print text
    | .error _ => return ()

/-- Prints how a call ended. -/
def printEnding : Ending → IO Unit
  | .version => IO.println versionText
  | .help => IO.println usageText
  | .misused e => IO.eprintln ("Error: " ++ e.message)
  | .misconfigured e => IO.eprintln ("Error: " ++ e.message)
  | .crashed c => IO.eprintln ("Error: " ++ c.message)
  | .generated | .failed => return ()

end TypedFetch.Program

open TypedFetch.Program in
/-- Runs the program. -/
def main (args : List String) : IO UInt32 := do
  let env ← readEnvironment
  let tree ← includeNamed (← workingTree) env args
  let outcome := TypedFetch.CommandLine.run tree (.absolute bundledLocation) env args
  writeBack tree outcome.tree
  outcome.events.forM printEvent
  printEnding outcome.ending
  return (outcome.ending.exitCode?.getD 1).toUInt32
