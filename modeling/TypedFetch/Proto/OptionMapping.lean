import TypedFetch.Proto.JsonForm
import TypedFetch.Proto.Link

/-!
# Options of methods as mappings

The options of a method go through bytes: the compiler writes them without what only serves the
source, and they are read with the rules for bindings alone.  What is known then is put together,
written once more, and read with everything that was compiled.  The result is a mapping with text
keys.
-/

namespace TypedFetch.Proto

mutual

/-- The fields of a list without those that only serve the source. -/
def keptFields : List (FieldInfo × OptionValue) → List (FieldInfo × OptionValue)
  | [] => []
  | (f, v) :: rest =>
    if f.sourceOnly then keptFields rest
    else (f, if f.kind == .message then v.kept else v) :: keptFields rest

/-- A value without the fields that only serve the source. -/
def OptionValue.kept : OptionValue → OptionValue
  | .message fields => .message (keptFields fields)
  | v => v

end

/-- What is known of the schemas that bind methods to verbs and paths. -/
def bindingPool : Pool :=
  let schemas := [("google/api/http.proto", httpSource),
    ("google/api/annotations.proto", annotationsSource)]
  let parsed := schemas.filterMap fun (name, text) => (parseFile name text.toList).toOption
  ((parsed.foldlM Pool.addFile (linkSchemaOfSchemas optionPool)).toOption).getD {}

/-- A scope in which everything of a pool is found by its full name. -/
def Pool.everything (p : Pool) : Scope where
  pool := p
  visible := []
  packages := []
  builtIn := optionPool

/-- How many messages a method is nested in where a set of files is read. -/
def methodDepth : Nat := 4

/-- The options of a method with what is known of bindings put together. -/
def readBinding (bytes : List UInt8) : Except OptionFault SetFields :=
  readSettled bindingPool.everything OptionTarget.method.optionsMessage methodDepth bytes

/-- The bytes of the options of a method, which stands in a service. -/
def methodBytes (s : Scope) (service : String) (m : MethodDecl) : List UInt8 :=
  match s.options .method service m.options with
  | .ok fields => Wire.writeFields (keptFields fields)
  | .error _ => []

/-- The options of a method as a mapping, from their bytes. -/
def optionMapping (p : Pool) (bytes : List UInt8) : Except OptionFault Http.Fields := do
  let s := p.everything
  let bytes := Wire.writeFields (← readBinding bytes)
  let fields ← readSettled s OptionTarget.method.optionsMessage 0 bytes
  let entries ← entryForms s (4 * bytes.length + 8) fields
  return Http.fieldsOf entries

end TypedFetch.Proto
