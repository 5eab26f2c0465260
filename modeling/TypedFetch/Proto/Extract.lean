import TypedFetch.Naming
import TypedFetch.Proto.Descriptor
import TypedFetch.Schema.Basic
import TypedFetch.Validation

/-!
# Schemas from descriptors

A compiled file becomes a file of a schema.  Messages are listed before those nested in them; the
messages that hold map entries are left out, and the fields that they serve become maps.  Types
are given canonical names: built-in types by the width and sign of their values, wrapper messages
by what they wrap, a few messages with a fixed shape by their full names, and all others by their
simple names.
-/

namespace TypedFetch.Proto

open TypedFetch.Validation (Issue IssueKind Step)

/-- A descriptor has no counterpart in a schema. -/
inductive ExtractError where
  /-- A message for map entries lacks the key or the value. -/
  | incompleteMapEntry
  /-- The options of a method cannot be given as a mapping. -/
  | options (e : OptionFault)
  /-- The tags of an operation are neither a text nor a collection. -/
  | operation (e : Http.OperationError)
  /-- Some parts have values that a schema does not take. -/
  | invalid (issues : List Issue)
deriving Repr, BEq, DecidableEq

/-! ## Types -/

/-- The canonical name of a built-in type. -/
def Scalar.canonicalName : Scalar → String
  | .double => "double"
  | .float => "float"
  | .int64 => "int64"
  | .uint64 => "uint64"
  | .int32 => "int32"
  | .fixed64 => "uint64"
  | .fixed32 => "uint32"
  | .bool => "boolean"
  | .string => "string"
  | .bytes => "bytes"
  | .uint32 => "uint32"
  | .sfixed32 => "int32"
  | .sfixed64 => "int64"
  | .sint32 => "int32"
  | .sint64 => "int64"

/-- The messages that wrap one value which may be absent, with the canonical name of its type. -/
def wrapperTypes : List (String × String) :=
  [("google.protobuf.DoubleValue", "double"), ("google.protobuf.FloatValue", "float"),
   ("google.protobuf.Int64Value", "int64"), ("google.protobuf.UInt64Value", "uint64"),
   ("google.protobuf.Int32Value", "int32"), ("google.protobuf.UInt32Value", "uint32"),
   ("google.protobuf.BoolValue", "boolean"), ("google.protobuf.StringValue", "string"),
   ("google.protobuf.BytesValue", "bytes")]

/-- The messages that keep their full names. -/
def qualifiedTypes : List String :=
  ["google.protobuf.Duration", "google.protobuf.FieldMask", "google.protobuf.Struct",
   "google.protobuf.Any", "google.protobuf.Value", "google.protobuf.ListValue"]

/-- A full name without the points in front. -/
def unrooted (name : String) : String :=
  String.ofList (name.toList.dropWhile (· == '.'))

/-- The canonical name of the type of a field, and whether the type is a wrapper. -/
def FieldDescriptor.canonicalType (f : FieldDescriptor) : String × Bool :=
  match f.kind with
  | .scalar s => (s.canonicalName, false)
  | _ =>
    let qualified := unrooted f.typeName
    match wrapperTypes.lookup qualified with
    | some name => (name, true)
    | none =>
      if qualifiedTypes.contains qualified then (qualified, false)
      else (Naming.simpleName qualified, false)

/-! ## Declarations -/

/-- The positions of lists of declarations in the paths of comments. -/
structure PathNumbers where
  /-- The messages of a file. -/
  messages : Int := 4
  /-- The enumerations of a file. -/
  enums : Int := 5
  /-- The services of a file. -/
  services : Int := 6
  /-- The fields of a message. -/
  fields : Int := 2
  /-- The messages in a message. -/
  nestedMessages : Int := 3
  /-- The enumerations in a message. -/
  nestedEnums : Int := 4
  /-- The methods of a service. -/
  methods : Int := 2

/-- The positions of lists of declarations in the paths of comments. -/
def pathNumbers : PathNumbers := {}

/-- The messages for map entries below a message, by their full names; of two with one name the
last one counts. -/
def mapEntries (fullName : String) (nested : List MessageDescriptor) :
    List (String × MessageDescriptor) :=
  ((nested.filter (·.isMapEntry)).map fun m => (fullName ++ "." ++ m.name, m)).reverse

/-- The number of a field, which is positive. -/
def fieldNumber (i : Int) : Except ExtractError Nat :=
  if 1 ≤ i then .ok i.toNat
  else .error (.invalid [⟨[Step.key "field_number"], IssueKind.belowMinimum⟩])

/-- A field. -/
def extractField (dialect : String) (entries : List (String × MessageDescriptor))
    (description : Option String) (f : FieldDescriptor) : Except ExtractError Schema.Field :=
  let entry := if f.kind == .message then entries.lookup f.typeName else none
  match entry with
  | some m =>
    match m.fields with
    | key :: value :: _ =>
      (fieldNumber f.number).map fun number =>
        { name := f.name, typeName := value.canonicalType.1, number, description
          mapKeyType := some key.canonicalType.1 }
    | _ => .error .incompleteMapEntry
  | none =>
    let (typeName, isWrapper) := f.canonicalType
    let byDialect := (dialect == "" || dialect == "proto2") && f.label == .optional
    (fieldNumber f.number).map fun number =>
      { name := f.name, typeName, repeated := f.label == .repeated
        isOptional := isWrapper || f.inOneof || byDialect, number, description }

/-- An enumeration. -/
def extractEnum (locations : List Location) (path : List Int) (e : EnumDescriptor) :
    Schema.EnumType where
  name := e.name
  values := e.values
  description := describe locations path

/-- The enumerations of a list whose first one has the given position. -/
def extractEnums (locations : List Location) (path : List Int) (list : Int) (index : Nat)
    (enums : List EnumDescriptor) : List Schema.EnumType :=
  (enums.zipIdx index).map fun (e, i) => extractEnum locations (path ++ [list, (i : Int)]) e

/-- The fields of a message. -/
def extractFields (dialect : String) (locations : List Location) (path : List Int)
    (entries : List (String × MessageDescriptor)) (fields : List FieldDescriptor) :
    Except ExtractError (List Schema.Field) :=
  fields.zipIdx.mapM fun (f, i) =>
    extractField dialect entries
      (describe locations (path ++ [pathNumbers.fields, (i : Int)])) f

/-- The messages and enumerations that come from a message. -/
structure Extracted where
  /-- The messages, each before those nested in it. -/
  messages : List Schema.Message := []
  /-- The enumerations, those of a nested message first. -/
  enums : List Schema.EnumType := []

/-- One after the other. -/
def Extracted.append (a b : Extracted) : Extracted :=
  ⟨a.messages ++ b.messages, a.enums ++ b.enums⟩

mutual

/-- A message at a path with everything that is nested in it; `scope` is the full name of what
holds it. -/
def extractMessage (dialect : String) (locations : List Location) (path : List Int)
    (scope : String) : MessageDescriptor → Except ExtractError Extracted
  | .mk name fields nested enums _ => do
    let fullName := scope ++ "." ++ name
    let fields ← extractFields dialect locations path (mapEntries fullName nested) fields
    let below ← extractNested dialect locations (path ++ [pathNumbers.nestedMessages]) fullName 0
      nested
    let own : Extracted := ⟨[{ name, fields, description := describe locations path }], []⟩
    let ownEnums : Extracted :=
      ⟨[], extractEnums locations path pathNumbers.nestedEnums 0 enums⟩
    return (own.append below).append ownEnums

/-- The messages of a list that hold no map entries. -/
def extractNested (dialect : String) (locations : List Location) (path : List Int)
    (scope : String) (index : Nat) : List MessageDescriptor → Except ExtractError Extracted
  | [] => .ok {}
  | m :: rest => do
    let first ←
      if m.isMapEntry then pure {}
      else extractMessage dialect locations (path ++ [(index : Int)]) scope m
    let others ← extractNested dialect locations path scope (index + 1) rest
    return first.append others

end

/-- The messages of a file. -/
def extractMessages (dialect : String) (locations : List Location) (scope : String) (index : Nat) :
    List MessageDescriptor → Except ExtractError Extracted
  | [] => .ok {}
  | m :: rest => do
    let first ← extractMessage dialect locations [pathNumbers.messages, (index : Int)] scope m
    let others ← extractMessages dialect locations scope (index + 1) rest
    return first.append others

/-- A text that is given as a value. -/
def textOf (key : String) (v : Option Value) : Check (Option String) :=
  match v with
  | none => .pass none
  | some v => some <$> (Validation.text v).below (.key key)

/-- A method. -/
def extractMethod (description : Option String) (m : MethodDescriptor) :
    Except ExtractError Schema.Method := do
  let options ← m.options.mapError .options
  let binding := Http.resolveBinding m.name options
  let operation ← (Http.resolveOperation options).mapError .operation
  let spoken := operation.description.or (description.map Value.text)
  let build (description summary : Option String) : Schema.Method :=
    { name := m.name
      inputType := Naming.simpleName m.input
      outputType := Naming.simpleName m.output
      verb := binding.verb
      path := binding.path
      description, summary, tags := operation.tags }
  match build <$> textOf "description" spoken <*> textOf "summary" operation.summary with
  | .ok method => .ok method
  | .error issues => .error (.invalid issues)

/-- A service. -/
def extractService (locations : List Location) (path : List Int) (s : ServiceDescriptor) :
    Except ExtractError Schema.Service := do
  let methods ← s.methods.zipIdx.mapM fun (m, i) =>
    extractMethod (describe locations (path ++ [pathNumbers.methods, (i : Int)])) m
  return { name := s.name, methods, description := describe locations path }

/-- The file of a schema that a descriptor gives. -/
def extractFile (f : FileDescriptor) (imports : List String) : Except ExtractError Schema.File := do
  let scope := if f.package.isEmpty then "" else "." ++ f.package
  let enums := extractEnums f.locations [] pathNumbers.enums 0 f.enums
  let found ← extractMessages f.dialect f.locations scope 0 f.messages
  let services ← f.services.zipIdx.mapM fun (s, i) =>
    extractService f.locations [pathNumbers.services, (i : Int)] s
  return { package := f.package, services, messages := found.messages
           enums := enums ++ found.enums, imports }

end TypedFetch.Proto
