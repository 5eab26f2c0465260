import TypedFetch.Files.Path
import TypedFetch.Text.Blank
import TypedFetch.TypeScript.Client
import TypedFetch.TypeScript.TypeMapping
import TypedFetch.Validation

/-!
# Options of a run

Everything that one run needs to know.  Options are given as entries of a mapping, each under any of
the names that its field goes by.  Later entries replace earlier ones for the same field, whichever
names they use.
-/

namespace TypedFetch.Project

open TypedFetch.Files
open TypedFetch.Validation

/-- The options of a run. -/
structure Options where
  /-- The directory that holds the schema files. -/
  schemaPath : Path
  /-- The directory that takes the generated files. -/
  outputDir : Path
  /-- The base address that the client uses by default. -/
  baseUrl : Option String := none
  /-- The name of the generated package. -/
  packageName : Option String := none
  /-- The name of the generated class. -/
  clientName : String := "APIClient"
  /-- What the generated modules contain. -/
  features : TypeScript.Features := {}
  /-- The types of dates and long integers. -/
  policy : TypeScript.TypePolicy := {}
  /-- Further directories in which imports are searched. -/
  includePaths : List Path := []
deriving Repr, BEq, DecidableEq

/-! ## Fields and their names -/

/-- The fields of the options, in the order in which they are checked. -/
inductive OptionField where
  | schemaPath
  | outputDir
  | baseUrl
  | packageName
  | clientName
  | includeComments
  | filterBuilders
  | sortBuilders
  | dateType
  | bigintType
  | includePaths
deriving Repr, BEq, ReflBEq, LawfulBEq, DecidableEq

/-- The names that a field goes by. -/
def OptionField.names : OptionField → List String
  | .schemaPath => ["schema_path", "schemaPath", "proto_path", "protoPath"]
  | .outputDir => ["output_dir", "outputDir"]
  | .baseUrl => ["base_url", "baseUrl"]
  | .packageName => ["package_name", "packageName"]
  | .clientName => ["client_name", "clientName"]
  | .includeComments => ["include_comments", "includeComments"]
  | .filterBuilders => ["generate_filter_builders", "generateFilterBuilders"]
  | .sortBuilders => ["generate_sort_builders", "generateSortBuilders"]
  | .dateType => ["date_type", "dateType"]
  | .bigintType => ["bigint_type", "bigintType"]
  | .includePaths => ["include_paths", "includePaths"]

/-- All fields. -/
def optionFields : List OptionField :=
  [.schemaPath, .outputDir, .baseUrl, .packageName, .clientName, .includeComments, .filterBuilders,
   .sortBuilders, .dateType, .bigintType, .includePaths]

/-- The field that goes by a name. -/
def OptionField.ofName? (name : String) : Option OptionField :=
  optionFields.find? (·.names.contains name)

/-- The field that a key stands for. -/
def fieldOf? (key : Value) : Option OptionField :=
  key.asText?.bind OptionField.ofName?

/-- Two keys stand for the same field, or are the same unknown key. -/
def sameField (a b : Value) : Bool :=
  match fieldOf? a, fieldOf? b with
  | some f, some g => f == g
  | none, none => Value.sameKey a b
  | _, _ => false

/-- Adds an entry in the place of all entries for the same field. -/
def replaceEntry (entries : Entries) (entry : Value × Value) : Entries :=
  entries.filter (fun e => !sameField e.1 entry.1) ++ [entry]

/-- The entries of a configuration, followed by those that override them. -/
def mergeEntries (config overrides : Entries) : Entries :=
  (config ++ overrides).foldl replaceEntry []

/-! ## Checks -/

/-- A text; bytes are read as one. -/
def lenientText : Value → Check String
  | .text s => .pass s
  | .bytes bs =>
    match Text.decodeUtf8 bs with
    | .ok cs => .pass (String.ofList cs)
    | .error _ => .fail .textEncoding
  | .member v => .pass v.display
  | _ => .fail .textType

/-- A path. -/
def path : Value → Check Path
  | .text s => .pass (Path.ofText s)
  | _ => .fail .pathType

/-- A text without blanks at its ends; none if nothing is left. -/
def nonBlank (v : Value) : Check (Option String) :=
  (nullable lenientText v).andThen fun s =>
    .pass (s.bind fun s =>
      let trimmed := Text.trimmed s
      if trimmed.isEmpty then none else some trimmed)

/-- A letter that may start an identifier. -/
def startsIdentifier (c : Char) : Bool :=
  c.isAlpha || c == '_' || c == '$'

/-- The characters form an identifier. -/
def isIdentifier : List Char → Bool
  | [] => false
  | c :: rest => startsIdentifier c && rest.all fun d => startsIdentifier d || d.isDigit

/-- The name of a class; one line feed after it is let through. -/
def isClassName (s : String) : Bool :=
  let cs := s.toList
  isIdentifier cs || (cs.getLast? == some '\n' && isIdentifier cs.dropLast)

/-- The name of a class. -/
def className (v : Value) : Check String :=
  (lenientText v).andThen fun s => if isClassName s then .pass s else .fail .refused

/-- The entry for a field. -/
def entryFor (f : OptionField) (entries : Entries) : Option (Value × Value) :=
  entries.find? fun e => fieldOf? e.1 == some f

/-- The name that stands for a field which is missing. -/
def OptionField.missingName : OptionField → String
  | .schemaPath => "schema_path"
  | f => f.names.getLastD ""

/-- The value of a field, which must be given. -/
def given {α : Type} (f : OptionField) (check : Value → Check α) (entries : Entries) : Check α :=
  match entryFor f entries with
  | some (k, v) => (check v).below (.key k.display)
  | none => (Check.fail .missing).below (.key f.missingName)

/-- The value of a field, or a default. -/
def givenOr {α : Type} (f : OptionField) (default : α) (check : Value → Check α)
    (entries : Entries) : Check α :=
  match entryFor f entries with
  | some (k, v) => (check v).below (.key k.display)
  | none => .pass default

/-- The step to a key. -/
def keyStep (k : Value) : Step :=
  match k with
  | .text s => .key s
  | .bool b => .index (if b then 1 else 0)
  | .int i => if isShort i then .index i else .key (toString i)
  | v => .key v.quoted

/-- A key that stands for no field. -/
def strayIssue (k : Value) : Option Issue :=
  match k with
  | .text s => if (OptionField.ofName? s).isSome then none else some ⟨[keyStep k], .unexpected⟩
  | _ => some ⟨[keyStep k], .keyType⟩

/-- No key stands for anything but a field. -/
def onlyFields (entries : Entries) : Check Unit :=
  match entries.filterMap fun e => strayIssue e.1 with
  | [] => .pass ()
  | issues => .error issues

/-- The two ways to represent a type. -/
def asTextOr (other : String) : List (String × Bool) := [(other, false), ("string", true)]

/-- The options that entries give. -/
def Options.ofEntries (entries : Entries) : Check Options :=
  let build (schemaPath outputDir : Path) (baseUrl packageName : Option String)
      (clientName : String) (comments filterBuilders sortBuilders dateAsText bigintAsText : Bool)
      (includePaths : List Path) (_ : Unit) : Options :=
    { schemaPath, outputDir, baseUrl, packageName, clientName
      features := { comments, filterBuilders, sortBuilders }
      policy := { dateAsText, bigintAsText }, includePaths }
  build <$> given .schemaPath path entries
    <*> given .outputDir path entries
    <*> givenOr .baseUrl none nonBlank entries
    <*> givenOr .packageName none nonBlank entries
    <*> givenOr .clientName "APIClient" className entries
    <*> givenOr .includeComments true bool entries
    <*> givenOr .filterBuilders true bool entries
    <*> givenOr .sortBuilders true bool entries
    <*> givenOr .dateType false (among (asTextOr "Date")) entries
    <*> givenOr .bigintType false (among (asTextOr "bigint")) entries
    <*> givenOr .includePaths [] (list path) entries
    <*> onlyFields entries

/-- The options that a configuration and what overrides it give. -/
def buildOptions (config overrides : Entries) : Check Options :=
  Options.ofEntries (mergeEntries config overrides)

end TypedFetch.Project
