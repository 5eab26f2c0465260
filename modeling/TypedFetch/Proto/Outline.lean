import TypedFetch.Proto.Declaration

/-!
# Outlines

The declarations of a file without their nesting: every message, enumeration and extension with its
full name or scope, and with the features that hold where it stands.
-/

namespace TypedFetch.Proto

/-! ## What options are about -/

/-- The kinds of declaration that have options. -/
inductive OptionTarget where
  | file
  | extensionRange
  | message
  | field
  | oneof
  | enumeration
  | enumValue
  | service
  | method
deriving Repr, BEq, DecidableEq

/-- The message that holds the options of a kind of declaration. -/
def OptionTarget.optionsMessage : OptionTarget → String
  | .file => "google.protobuf.FileOptions"
  | .extensionRange => "google.protobuf.ExtensionRangeOptions"
  | .message => "google.protobuf.MessageOptions"
  | .field => "google.protobuf.FieldOptions"
  | .oneof => "google.protobuf.OneofOptions"
  | .enumeration => "google.protobuf.EnumOptions"
  | .enumValue => "google.protobuf.EnumValueOptions"
  | .service => "google.protobuf.ServiceOptions"
  | .method => "google.protobuf.MethodOptions"

/-- The word for a kind of declaration. -/
def OptionTarget.word : OptionTarget → String
  | .file => "TARGET_TYPE_FILE"
  | .extensionRange => "TARGET_TYPE_EXTENSION_RANGE"
  | .message => "TARGET_TYPE_MESSAGE"
  | .field => "TARGET_TYPE_FIELD"
  | .oneof => "TARGET_TYPE_ONEOF"
  | .enumeration => "TARGET_TYPE_ENUM"
  | .enumValue => "TARGET_TYPE_ENUM_ENTRY"
  | .service => "TARGET_TYPE_SERVICE"
  | .method => "TARGET_TYPE_METHOD"

/-! ## Features -/

/-- Whether a field that holds no value can be told from one that holds the default. -/
inductive Presence where
  | explicit
  | implicit
  | required
deriving Repr, BEq, DecidableEq

/-- Which types other files may refer to where nothing else is said. -/
inductive DefaultVisibility where
  | all
  /-- Those that are not nested in others. -/
  | topLevel
  | none
  /-- None, and nested types may not say otherwise. -/
  | strict
deriving Repr, BEq, DecidableEq

/-- How declarations are meant where nothing else is said. -/
structure Features where
  /-- The presence of fields. -/
  presence : Presence := .explicit
  /-- Enumerations take numbers that have no name. -/
  openEnums : Bool := true
  /-- Texts must be valid UTF-8. -/
  verifiesText : Bool := true
  /-- Names in JSON texts must be distinct. -/
  strictJson : Bool := true
  /-- The values of messages end with a mark instead of starting with their length. -/
  delimited : Bool := false
  /-- Names keep to the style of their kind. -/
  styledNames : Bool := false
  /-- The types that other files may refer to. -/
  visibility : DefaultVisibility := .all
deriving Repr, BEq, DecidableEq

/-- The features of a dialect. -/
def Dialect.features : Dialect → Features
  | .proto2 => { openEnums := false, verifiesText := false, strictJson := false }
  | .proto3 => { presence := .implicit }
  | .edition2023 => {}
  | .edition2024 => { styledNames := true, visibility := .topLevel }

/-- How the options of a declaration that stands in a scope change the features that hold there. -/
abbrev Adjustment := OptionTarget → String → List Setting → Features → Features

/-- Options change nothing. -/
def Adjustment.keep : Adjustment := fun _ _ _ f => f

/-! ## Declarations with their places -/

/-- The full name of something in a scope. -/
def qualify (scope name : String) : String :=
  if scope.isEmpty then name else scope ++ "." ++ name

/-- A message and its place. -/
structure PlacedMessage where
  /-- The full name. -/
  fullName : String
  /-- The full name of what holds it, empty if nothing does. -/
  scope : String
  /-- The features of its fields. -/
  features : Features
  /-- The message. -/
  decl : MessageDecl

/-- An enumeration and its place. -/
structure PlacedEnum where
  /-- The full name of what holds it. -/
  scope : String
  /-- Its features. -/
  features : Features
  /-- The enumeration. -/
  decl : EnumDecl

/-- The full name of an enumeration. -/
def PlacedEnum.fullName (e : PlacedEnum) : String :=
  qualify e.scope e.decl.name

/-- An extension and its place. -/
structure PlacedExtension where
  /-- The full name of what holds it. -/
  scope : String
  /-- The features that hold there. -/
  features : Features
  /-- The extension. -/
  decl : FieldDecl

mutual

/-- A message and all messages nested in it, each before those nested in it. -/
def flattenMessage (adjust : Adjustment) (scope : String) (features : Features) :
    MessageDecl → List PlacedMessage
  | m@(.mk name _ nested _ _ _ _ _ _ options ..) =>
    let fullName := qualify scope name
    let features := adjust .message scope options features
    ⟨fullName, scope, features, m⟩ :: flattenMessages adjust fullName features nested

/-- The messages of a list and all messages nested in them. -/
def flattenMessages (adjust : Adjustment) (scope : String) (features : Features) :
    List MessageDecl → List PlacedMessage
  | [] => []
  | m :: rest =>
    flattenMessage adjust scope features m ++ flattenMessages adjust scope features rest

end

/-- The declarations of a file without their nesting. -/
structure Outline where
  /-- The features of the file. -/
  features : Features
  /-- The messages. -/
  messages : List PlacedMessage
  /-- The enumerations. -/
  enums : List PlacedEnum
  /-- The extensions. -/
  extensions : List PlacedExtension

/-- The outline of a file. -/
def FileDecl.outline (f : FileDecl) (adjust : Adjustment) : Outline :=
  let features := adjust .file f.package f.options f.dialect.features
  let messages := flattenMessages adjust f.package features f.messages
  let place (scope : String) (features : Features) (e : EnumDecl) : PlacedEnum :=
    ⟨scope, adjust .enumeration scope e.options features, e⟩
  { features, messages
    enums := f.enums.map (place f.package features) ++
      messages.flatMap fun m => m.decl.enums.map (place m.fullName m.features)
    extensions := f.extensions.map (⟨f.package, features, ·⟩) ++
      messages.flatMap fun m => m.decl.extensions.map (⟨m.fullName, m.features, ·⟩) }

/-! ## Symbols -/

/-- What a full name denotes. -/
inductive SymbolKind where
  | package
  | message
  | enumeration
  | enumValue
  | field
  | oneof
  | service
  | method
deriving Repr, BEq, DecidableEq

/-- The kind is one that a field may have as its type. -/
def SymbolKind.isType : SymbolKind → Bool
  | .message => true
  | .enumeration => true
  | _ => false

/-- Names may be declared inside. -/
def SymbolKind.isAggregate : SymbolKind → Bool
  | .package => true
  | .message => true
  | .enumeration => true
  | .service => true
  | _ => false

/-- The packages that hold a package, and the package itself. -/
def packageNames (package : String) : List String :=
  if package.isEmpty then []
  else
    let parts := (Text.cutAt '.' package.toList).map String.ofList
    (List.range parts.length).map fun n => ".".intercalate (parts.take (n + 1))

/-- The symbols of an enumeration: its values stand beside it. -/
def PlacedEnum.symbols (e : PlacedEnum) : List (String × SymbolKind) :=
  (e.fullName, .enumeration) :: e.decl.values.map fun v => (qualify e.scope v.name, .enumValue)

/-- The symbols of a message, without those nested in it. -/
def PlacedMessage.symbols (m : PlacedMessage) : List (String × SymbolKind) :=
  (m.fullName, .message) ::
    (m.decl.fields.map (fun f => (qualify m.fullName f.name, SymbolKind.field)) ++
      m.decl.oneofs.map (fun o => (qualify m.fullName o.name, SymbolKind.oneof)))

/-- The symbols of a service. -/
def serviceSymbols (package : String) (s : ServiceDecl) : List (String × SymbolKind) :=
  let fullName := qualify package s.name
  (fullName, .service) :: s.methods.map fun m => (qualify fullName m.name, .method)

/-- All names that a file declares, other than its packages. -/
def FileDecl.symbols (f : FileDecl) : List (String × SymbolKind) :=
  let o := f.outline .keep
  o.messages.flatMap PlacedMessage.symbols ++ o.enums.flatMap PlacedEnum.symbols ++
    o.extensions.map (fun e => (qualify e.scope e.decl.name, SymbolKind.field)) ++
    f.services.flatMap (serviceSymbols f.package)

end TypedFetch.Proto
