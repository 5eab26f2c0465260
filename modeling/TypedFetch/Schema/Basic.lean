import TypedFetch.Http.Binding

/-!
# Schemas

What a generated client is made from: the messages, enumerations and services of a set of files.
Types are referred to by their canonical names.
-/

namespace TypedFetch

namespace Schema

/-- A field of a message. -/
structure Field where
  /-- The declared name. -/
  name : String
  /-- The canonical name of its type; of a map, that of its values. -/
  typeName : String
  /-- The field holds a list. -/
  repeated : Bool := false
  /-- The field may be absent. -/
  isOptional : Bool := false
  /-- The number of the field, which is positive. -/
  number : Nat
  /-- What the comments say. -/
  description : Option String := none
  /-- The canonical name of the type of its keys, if the field is a map. -/
  mapKeyType : Option String := none
deriving Repr, BEq, DecidableEq

/-- The field is a map. -/
def Field.isMap (f : Field) : Bool :=
  f.mapKeyType.isSome

/-- A message type. -/
structure Message where
  /-- The declared name. -/
  name : String
  /-- The fields in order of declaration. -/
  fields : List Field := []
  /-- What the comments say. -/
  description : Option String := none
deriving Repr, BEq, DecidableEq

/-- The name marks the message as a request. -/
def Message.isRequest (m : Message) : Bool :=
  "Request".toList.isSuffixOf m.name.toList

/-- The name marks the message as a response. -/
def Message.isResponse (m : Message) : Bool :=
  "Response".toList.isSuffixOf m.name.toList

/-- An enumeration, by the names of its values. -/
structure EnumType where
  /-- The declared name. -/
  name : String
  /-- The names of the values in order of declaration. -/
  values : List String := []
  /-- What the comments say. -/
  description : Option String := none
deriving Repr, BEq, DecidableEq

/-- A method of a service with its binding. -/
structure Method where
  /-- The declared name. -/
  name : String
  /-- The type of the request. -/
  inputType : String
  /-- The type of the response. -/
  outputType : String
  /-- The verb. -/
  verb : Http.Verb := .post
  /-- The path template. -/
  path : String
  /-- What the comments or the operation options say. -/
  description : Option String := none
  /-- A short description. -/
  summary : Option String := none
  /-- The tags of the operation. -/
  tags : List String := []
deriving Repr, BEq, DecidableEq

/-- A service. -/
structure Service where
  /-- The declared name. -/
  name : String
  /-- The methods in order of declaration. -/
  methods : List Method := []
  /-- What the comments say. -/
  description : Option String := none
deriving Repr, BEq, DecidableEq

/-- Everything that one source file declares. -/
structure File where
  /-- The package, empty if there is none. -/
  package : String := ""
  /-- The services. -/
  services : List Service := []
  /-- The messages, nested ones after those that hold them. -/
  messages : List Message := []
  /-- The enumerations. -/
  enums : List EnumType := []
  /-- The paths of the imports. -/
  imports : List String := []
deriving Repr, BEq, DecidableEq

end Schema

/-- A set of files with what is known about the interface that they describe. -/
structure Schema where
  /-- The files. -/
  files : List Schema.File := []
  /-- The title. -/
  title : Option String := none
  /-- The version. -/
  version : Option String := none
  /-- The description. -/
  description : Option String := none
deriving Repr, BEq, DecidableEq

namespace Schema

/-- The services of all files. -/
def services (s : Schema) : List Service :=
  s.files.flatMap (·.services)

/-- The messages of all files. -/
def messages (s : Schema) : List Message :=
  s.files.flatMap (·.messages)

/-- The enumerations of all files. -/
def enums (s : Schema) : List EnumType :=
  s.files.flatMap (·.enums)

/-- The methods of all services. -/
def methods (s : Schema) : List Method :=
  s.services.flatMap (·.methods)

end Schema

end TypedFetch
