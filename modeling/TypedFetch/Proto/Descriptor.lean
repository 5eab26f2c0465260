import TypedFetch.Http.Binding
import TypedFetch.Proto.Declaration
import TypedFetch.Proto.OptionFault
import TypedFetch.Text.Lines

/-!
# Descriptors

A compiled schema file: every type is referred to by its full name with a point in front, and the
comments are kept apart, each with the path of the declaration that it belongs to.
-/

namespace TypedFetch.Proto

/-- What the values of a field are. -/
inductive FieldKind where
  | scalar (s : Scalar)
  | message
  | enumeration
  | group
deriving Repr, BEq, DecidableEq

/-- A compiled field. -/
structure FieldDescriptor where
  /-- The name. -/
  name : String := ""
  /-- The number. -/
  number : Int := 0
  /-- What its values are. -/
  kind : FieldKind := .scalar .double
  /-- The full name of the type with a point in front, if it is not built in. -/
  typeName : String := ""
  /-- How many values it holds. -/
  label : Label := .optional
  /-- The field belongs to a choice. -/
  inOneof : Bool := false
deriving Repr, BEq, DecidableEq

/-- A compiled enumeration. -/
structure EnumDescriptor where
  /-- The name. -/
  name : String := ""
  /-- The names of the values. -/
  values : List String := []
deriving Repr, BEq, DecidableEq

/-- A compiled message. -/
inductive MessageDescriptor where
  /-- A message from its name, fields, nested messages and enumerations, and whether it holds the
  entries of a map. -/
  | mk (name : String) (fields : List FieldDescriptor) (nested : List MessageDescriptor)
    (enums : List EnumDescriptor) (isMapEntry : Bool)
deriving Repr, BEq

namespace MessageDescriptor

/-- The name. -/
def name : MessageDescriptor → String
  | mk name .. => name

/-- The fields. -/
def fields : MessageDescriptor → List FieldDescriptor
  | mk _ fields .. => fields

/-- The nested messages. -/
def nested : MessageDescriptor → List MessageDescriptor
  | mk _ _ nested .. => nested

/-- The nested enumerations. -/
def enums : MessageDescriptor → List EnumDescriptor
  | mk _ _ _ enums _ => enums

/-- The message holds the entries of a map. -/
def isMapEntry : MessageDescriptor → Bool
  | mk _ _ _ _ isMapEntry => isMapEntry

end MessageDescriptor

instance : Inhabited MessageDescriptor := ⟨.mk "" [] [] [] false⟩

/-- A compiled method. -/
structure MethodDescriptor where
  /-- The name. -/
  name : String := ""
  /-- The type of the request. -/
  input : String := ""
  /-- The type of the response. -/
  output : String := ""
  /-- The options, or why there are none; extensions stand under their full names in brackets. -/
  options : Except OptionFault Http.Fields := .ok []

/-- A compiled service. -/
structure ServiceDescriptor where
  /-- The name. -/
  name : String := ""
  /-- The methods. -/
  methods : List MethodDescriptor := []

/-- The comments of a declaration.  The path leads to the declaration: the number of a list in its
parent and the position in that list, from the file inwards. -/
structure Location where
  /-- The path of the declaration. -/
  path : List Int
  /-- The comments. -/
  doc : Doc
deriving Repr, BEq, DecidableEq

/-- What the comments of a declaration say: the one above it, else the one after it. -/
def Doc.description (d : Doc) : Option String :=
  (Text.cleanComment d.leading).or (Text.cleanComment d.trailing)

/-- A compiled file. -/
structure FileDescriptor where
  /-- The package, empty if there is none. -/
  package : String := ""
  /-- The name of the dialect, empty for the oldest one. -/
  dialect : String := ""
  /-- The messages. -/
  messages : List MessageDescriptor := []
  /-- The enumerations. -/
  enums : List EnumDescriptor := []
  /-- The services. -/
  services : List ServiceDescriptor := []
  /-- The comments. -/
  locations : List Location := []

/-- What the comments say about the declaration at a path: the last location that says anything
counts. -/
def describe (locations : List Location) (path : List Int) : Option String :=
  locations.foldl
    (fun found l => if l.path == path then l.doc.description.or found else found) none

end TypedFetch.Proto
