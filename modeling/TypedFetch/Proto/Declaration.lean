import TypedFetch.Proto.Token

/-!
# Declarations

What a schema source declares, as it is written: types are referred to by the names in the source,
and options are not yet interpreted.
-/

namespace TypedFetch.Proto

/-- The dialects of the schema language. -/
inductive Dialect where
  | proto2
  | proto3
  /-- The edition of the year 2023. -/
  | edition2023
  /-- The edition of the year 2024. -/
  | edition2024
deriving Repr, BEq, DecidableEq

/-- The name of a dialect. -/
def Dialect.name : Dialect → String
  | .proto2 => "proto2"
  | .proto3 => "proto3"
  | .edition2023 => "editions"
  | .edition2024 => "editions"

/-- The number of a dialect among all editions. -/
def Dialect.edition : Dialect → Int
  | .proto2 => 998
  | .proto3 => 999
  | .edition2023 => 1000
  | .edition2024 => 1001

/-- The dialect is an edition, in which features say how declarations are meant. -/
def Dialect.isEdition : Dialect → Bool
  | .edition2023 => true
  | .edition2024 => true
  | _ => false

/-- The types that are built in. -/
inductive Scalar where
  | double
  | float
  | int64
  | uint64
  | int32
  | fixed64
  | fixed32
  | bool
  | string
  | bytes
  | uint32
  | sfixed32
  | sfixed64
  | sint32
  | sint64
deriving Repr, BEq, DecidableEq

/-- The built-in types by name. -/
def scalarNames : List (String × Scalar) :=
  [("double", .double), ("float", .float), ("int64", .int64), ("uint64", .uint64),
   ("int32", .int32), ("fixed64", .fixed64), ("fixed32", .fixed32), ("bool", .bool),
   ("string", .string), ("bytes", .bytes), ("uint32", .uint32), ("sfixed32", .sfixed32),
   ("sfixed64", .sfixed64), ("sint32", .sint32), ("sint64", .sint64)]

/-- The type of a field as it is written. -/
inductive TypeRef where
  | scalar (s : Scalar)
  /-- A message or an enumeration. -/
  | named (name : String)
  /-- A message that is declared with the field. -/
  | group (name : String)
deriving Repr, BEq, DecidableEq

/-- How many values a field holds. -/
inductive Label where
  | optional
  | required
  | repeated
deriving Repr, BEq, DecidableEq

/-- A part of the name of an option. -/
structure NamePart where
  /-- The name. -/
  name : String
  /-- The name stands in parentheses and refers to an extension. -/
  isExtension : Bool := false
deriving Repr, BEq, DecidableEq

/-- The value of an option as it is written. -/
inductive Literal where
  | identifier (name : String)
  | natural (n : Nat)
  /-- An integer with a minus sign in front. -/
  | negative (n : Nat)
  | decimal (x : Float)
  | text (bytes : List UInt8)
  /-- The tokens between braces. -/
  | aggregate (tokens : List Token)
deriving Repr, BEq

/-- An option and its value. -/
structure Setting where
  /-- The parts of the name. -/
  name : List NamePart
  /-- The value. -/
  value : Literal
deriving Repr, BEq

/-- The comments of a declaration. -/
structure Doc where
  /-- The comment above it. -/
  leading : String := ""
  /-- The comment after it. -/
  trailing : String := ""
deriving Repr, BEq, DecidableEq

/-- Which files may refer to a type. -/
inductive Visibility where
  /-- The features decide. -/
  | unset
  /-- All files that import it. -/
  | exported
  /-- Its own file only. -/
  | confined
deriving Repr, BEq, DecidableEq

/-- A default value as it is written. -/
inductive DefaultValue where
  /-- The characters of a token, for a field whose type is named. -/
  | word (text : String)
  /-- A value that fits the built-in type of its field. -/
  | fitting
deriving Repr, BEq, DecidableEq

/-- A field. -/
structure FieldDecl where
  /-- The name. -/
  name : String
  /-- The number. -/
  number : Nat
  /-- How many values it holds. -/
  label : Label := .optional
  /-- The type. -/
  type : TypeRef
  /-- The message that the field extends. -/
  extendee : Option String := none
  /-- The position of the choice that it belongs to. -/
  oneofIndex : Option Nat := none
  /-- The field says explicitly that it may be absent. -/
  explicitPresence : Bool := false
  /-- The default value. -/
  default : Option DefaultValue := none
  /-- The name in JSON texts. -/
  jsonName : Option String := none
  /-- The options. -/
  options : List Setting := []
  /-- The comments. -/
  doc : Doc := {}
deriving Repr, BEq

/-- A value of an enumeration. -/
structure EnumValueDecl where
  /-- The name. -/
  name : String
  /-- The number. -/
  number : Int
  /-- The options. -/
  options : List Setting := []
deriving Repr, BEq

/-- An enumeration. -/
structure EnumDecl where
  /-- The name. -/
  name : String
  /-- The values. -/
  values : List EnumValueDecl := []
  /-- The numbers that values may not have, as inclusive ranges. -/
  reservedRanges : List (Int × Int) := []
  /-- The names that values may not have. -/
  reservedNames : List String := []
  /-- The options. -/
  options : List Setting := []
  /-- The comments. -/
  doc : Doc := {}
  /-- Which files may refer to it. -/
  visibility : Visibility := .unset
deriving Repr, BEq

/-- A choice between fields. -/
structure OneofDecl where
  /-- The name. -/
  name : String
  /-- The options. -/
  options : List Setting := []
deriving Repr, BEq

/-- A range of numbers for extensions, whose end is excluded. -/
structure ExtensionRange where
  /-- The first number. -/
  start : Nat
  /-- The number after the last one; none stands for the greatest possible one. -/
  stop : Option Nat
  /-- The options. -/
  options : List Setting := []
deriving Repr, BEq

/-- A message. -/
inductive MessageDecl where
  /-- A message from its name, fields, nested messages, enumerations, extensions, extension ranges,
  choices, reserved ranges (whose end is excluded), reserved names, options, comments, whether it
  holds the entries of a map, and which files may refer to it. -/
  | mk (name : String) (fields : List FieldDecl) (nested : List MessageDecl)
    (enums : List EnumDecl) (extensions : List FieldDecl) (extensionRanges : List ExtensionRange)
    (oneofs : List OneofDecl) (reservedRanges : List (Nat × Option Nat))
    (reservedNames : List String) (options : List Setting) (doc : Doc) (mapEntry : Bool)
    (visibility : Visibility)
deriving Repr, BEq

namespace MessageDecl

/-- A message without content. -/
def empty (name : String) : MessageDecl :=
  mk name [] [] [] [] [] [] [] [] [] {} false .unset

/-- The name. -/
def name : MessageDecl → String
  | mk name .. => name

/-- The fields. -/
def fields : MessageDecl → List FieldDecl
  | mk _ fields .. => fields

/-- The nested messages. -/
def nested : MessageDecl → List MessageDecl
  | mk _ _ nested .. => nested

/-- The nested enumerations. -/
def enums : MessageDecl → List EnumDecl
  | mk _ _ _ enums .. => enums

/-- The extensions of other messages that are declared here. -/
def extensions : MessageDecl → List FieldDecl
  | mk _ _ _ _ extensions .. => extensions

/-- The numbers that extensions of this message may have. -/
def extensionRanges : MessageDecl → List ExtensionRange
  | mk _ _ _ _ _ ranges .. => ranges

/-- The choices. -/
def oneofs : MessageDecl → List OneofDecl
  | mk _ _ _ _ _ _ oneofs .. => oneofs

/-- The numbers that fields may not have. -/
def reservedRanges : MessageDecl → List (Nat × Option Nat)
  | mk _ _ _ _ _ _ _ ranges .. => ranges

/-- The names that fields may not have. -/
def reservedNames : MessageDecl → List String
  | mk _ _ _ _ _ _ _ _ names .. => names

/-- The options. -/
def options : MessageDecl → List Setting
  | mk _ _ _ _ _ _ _ _ _ options .. => options

/-- The comments. -/
def doc : MessageDecl → Doc
  | mk _ _ _ _ _ _ _ _ _ _ doc .. => doc

/-- The message holds the entries of a map. -/
def mapEntry : MessageDecl → Bool
  | mk _ _ _ _ _ _ _ _ _ _ _ mapEntry _ => mapEntry

/-- Which files may refer to the message. -/
def visibility : MessageDecl → Visibility
  | mk _ _ _ _ _ _ _ _ _ _ _ _ visibility => visibility

end MessageDecl

instance : Inhabited MessageDecl := ⟨.empty ""⟩

/-- A method of a service. -/
structure MethodDecl where
  /-- The name. -/
  name : String
  /-- The type of the request. -/
  input : String
  /-- The type of the response. -/
  output : String
  /-- The options. -/
  options : List Setting := []
  /-- The comments. -/
  doc : Doc := {}
deriving Repr, BEq

/-- A service. -/
structure ServiceDecl where
  /-- The name. -/
  name : String
  /-- The methods. -/
  methods : List MethodDecl := []
  /-- The options. -/
  options : List Setting := []
  /-- The comments. -/
  doc : Doc := {}
deriving Repr, BEq

/-- How an import is meant. -/
inductive ImportKind where
  | plain
  /-- Those who import this file see the imported file too. -/
  | forwarded
  | weak
  /-- The imported file serves options only. -/
  | forOptions
deriving Repr, BEq, DecidableEq

/-- A source file. -/
structure FileDecl where
  /-- The name under which it is imported. -/
  name : String
  /-- The dialect. -/
  dialect : Dialect := .proto2
  /-- The package, empty if there is none. -/
  package : String := ""
  /-- The imports. -/
  imports : List (String × ImportKind) := []
  /-- The messages. -/
  messages : List MessageDecl := []
  /-- The enumerations. -/
  enums : List EnumDecl := []
  /-- The extensions. -/
  extensions : List FieldDecl := []
  /-- The services. -/
  services : List ServiceDecl := []
  /-- The options. -/
  options : List Setting := []
deriving Repr, BEq

end TypedFetch.Proto
