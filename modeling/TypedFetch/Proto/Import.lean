import TypedFetch.Files.Tree
import TypedFetch.Text.Search

/-!
# Imports

Where an import comes from.  The schemas of the compiler itself are always at hand.  Other imports
are searched beside the importing file and then in the include directories; those of vendors are
searched in the include directories only.  An import that is found nowhere is skipped.
-/

namespace TypedFetch.Proto

open TypedFetch.Files

/-- The directory of the schemas that come with the compiler. -/
def wellKnownHead : String := "google/protobuf/"

/-- The schemas that come with the compiler. -/
def wellKnownNames : List String :=
  ["google/protobuf/any.proto", "google/protobuf/api.proto", "google/protobuf/descriptor.proto",
   "google/protobuf/duration.proto", "google/protobuf/empty.proto",
   "google/protobuf/field_mask.proto", "google/protobuf/source_context.proto",
   "google/protobuf/struct.proto", "google/protobuf/timestamp.proto", "google/protobuf/type.proto",
   "google/protobuf/wrappers.proto", "google/protobuf/cpp_features.proto",
   "google/protobuf/go_features.proto", "google/protobuf/java_features.proto",
   "google/protobuf/compiler/plugin.proto"]

/-- The schemas that come with the compiler as files of a tree of their own. -/
def wellKnownTree : Tree where
  entries :=
    [["google"], ["google", "protobuf"], ["google", "protobuf", "compiler"]].map (·, .directory) ++
      wellKnownNames.map fun name => ((Path.ofText name).parts, .file [])

/-- The import names a schema that comes with the compiler. -/
def isWellKnown (target : String) : Except FileError Bool :=
  if target.startsWith wellKnownHead then wellKnownTree.asksFile (Path.ofText target)
  else .ok false

/-- What the names of imports from vendors contain. -/
def vendorMarks : List String := ["google/", "protoc-gen-"]

/-- The import is one of a vendor. -/
def isVendor (target : String) : Bool :=
  vendorMarks.any fun mark => Text.occursIn mark.toList target.toList

/-- Where an import was found. -/
inductive Resolution where
  | wellKnown
  | file (path : Path)
  | skipped
deriving Repr, BEq, ReflBEq, LawfulBEq, DecidableEq

/-- The kind of a resolution in one word. -/
def Resolution.kind : Resolution → String
  | .wellKnown => "well_known"
  | .file _ => "file"
  | .skipped => "skipped"

/-- The path of a resolution, if it has one. -/
def Resolution.path? : Resolution → Option Path
  | .file p => some p
  | _ => none

/-- The files among which imports are searched. -/
structure Library where
  /-- The files. -/
  tree : Tree
  /-- The include directories in the order in which they are searched. -/
  includes : List Path := []

/-- A library that ends its search in the directory of the bundled schemas. -/
def Library.ofIncludes (tree : Tree) (includes : List Path) (bundled : Path) : Library where
  tree := tree
  includes := if includes.contains bundled then includes else includes ++ [bundled]

/-- The places where an import is searched, in order. -/
def Library.candidates (l : Library) (origin : Path) (target : String) : List Path :=
  let beside := if isVendor target then [] else [origin.parent.child target]
  beside ++ l.includes.map (·.child target)

/-- Where an import of a file comes from.  Where a name is too long to ask for, that is an error. -/
def Library.resolve (l : Library) (origin : Path) (target : String) :
    Except FileError Resolution := do
  if ← isWellKnown target then return .wellKnown
  else
    match ← l.tree.firstFile (l.candidates origin target) with
    | some p => return .file p
    | none => return .skipped

/-- The schema files below a directory, in the order of their paths. -/
def schemaFiles (tree : Tree) (root : Path) : Except FileError (List Path) := do
  if ← tree.asksDirectory root then
    return tree.filesBelow root fun name => name.endsWith ".proto"
  else return []

end TypedFetch.Proto
