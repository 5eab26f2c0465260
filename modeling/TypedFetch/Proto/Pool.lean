import Std.Data.TreeMap
import TypedFetch.Proto.Descriptor
import TypedFetch.Proto.Outline
import TypedFetch.Proto.Parser

/-!
# Pools

What is known of the files that were compiled so far: which kind of thing every full name denotes,
and the fields of messages and values of enumerations with all names resolved.

A name is resolved from the innermost scope outwards.  Its first part decides: in the first scope
that declares it as something that can hold names, the rest must be found too.  Only names of the
file itself, of the files that it imports, and of those that they forward can be seen.
-/

namespace TypedFetch.Proto

/-- Why files cannot be compiled. -/
inductive CompileError where
  | grammar (e : ParseError)
  | missingImport (name : String)
  | importCycle (name : String)
  | repeatedImport (name : String)
  | improperImport (name : String)
  | duplicateName (name : String)
  | unresolved (name : String)
  | wrongKind (name : String)
  | badNumber (name : String)
  | conflict (name : String)
  | badDefault (name : String)
  | badOption (name : String)
  | notAllowed (name : String)
deriving Repr, BEq, DecidableEq

/-- A field whose type is resolved. -/
structure FieldInfo where
  /-- The full name. -/
  fullName : String
  /-- The name. -/
  name : String
  /-- The name in JSON texts. -/
  jsonName : String
  /-- The number. -/
  number : Nat
  /-- How many values it holds. -/
  label : Label
  /-- What its values are. -/
  kind : FieldKind
  /-- The full name of the type, if it is not built in. -/
  typeName : String
  /-- The full name of the message that it belongs to or extends. -/
  owner : String
  /-- The field extends its message. -/
  isExtension : Bool
  /-- The position of the choice that it belongs to. -/
  oneofIndex : Option Nat
  /-- The field can be told from one that was never set. -/
  hasPresence : Bool
  /-- The field must be set. -/
  isRequired : Bool
  /-- Texts must be valid UTF-8. -/
  verifiesText : Bool
  /-- The field takes no numbers without a name for the values of an enumeration. -/
  closesEnum : Bool
  /-- The kinds of declaration that it may be an option of; all if the list is empty. -/
  targets : List String
  /-- As an option, the field is not kept in what the compiler gives. -/
  sourceOnly : Bool
  /-- As a feature, the field exists from this edition on. -/
  introduced : Option Int
  /-- As a feature, the field exists up to this edition, which is excluded. -/
  removed : Option Int
deriving Repr, BEq, DecidableEq

/-- The values of the field are messages. -/
def FieldInfo.isMessage (f : FieldInfo) : Bool :=
  f.kind == .message || f.kind == .group

/-- The value of a field. -/
inductive OptionValue where
  | bool (b : Bool)
  | int (i : Int)
  | real (x : Float)
  /-- A text or bytes. -/
  | bytes (bytes : List UInt8)
  /-- A value of an enumeration. -/
  | choice (number : Int)
  /-- The fields that are set, in the order in which they were set. -/
  | message (fields : List (FieldInfo × OptionValue))
  /-- The bytes of a value whose field is not known, its tag included. -/
  | unread (bytes : List UInt8)

/-- Fields with their values, in the order in which they were set. -/
abbrev SetFields := List (FieldInfo × OptionValue)

/-- The value is the one that an absent field has. -/
def OptionValue.isDefault : OptionValue → Bool
  | .bool b => !b
  | .int i => i == 0
  | .real x => x.toBits == 0
  | .bytes bs => bs.isEmpty
  | .choice n => n == 0
  | .message fields => fields.isEmpty
  | .unread _ => false

/-- The fields of a message that is a value. -/
def OptionValue.inner : OptionValue → SetFields
  | .message fields => fields
  | _ => []

/-- The values that a field of a message has, in the order in which they were set. -/
def valuesNamed (fields : SetFields) (name : String) : List OptionValue :=
  fields.filterMap fun (f, v) => if f.name == name && !f.isExtension then some v else none

/-- An option with a truth value is set to true. -/
def isTrue (fields : SetFields) (name : String) : Bool :=
  (valuesNamed fields name).any fun
    | .bool b => b
    | _ => false

/-- An option is set. -/
def hasOption (fields : SetFields) (name : String) : Bool :=
  !(valuesNamed fields name).isEmpty

/-- The number of the value that an option chooses. -/
def chosen (fields : SetFields) (name : String) : Option Int :=
  (valuesNamed fields name).findSome? fun
    | .choice n => some n
    | _ => none

/-- Numbers for the extensions of a message. -/
structure RangeInfo where
  /-- The first number. -/
  start : Nat
  /-- The number after the last one. -/
  stop : Nat
  /-- The options. -/
  options : SetFields

/-- A message whose fields are resolved. -/
structure MessageInfo where
  /-- The fields. -/
  fields : List FieldInfo
  /-- The numbers for extensions. -/
  extensionRanges : List RangeInfo
  /-- The names that fields may not have. -/
  reservedNames : List String
  /-- The message holds the entries of a map. -/
  isMapEntry : Bool
  /-- The message has extensions only, of any number. -/
  isSet : Bool

/-- An enumeration. -/
structure EnumInfo where
  /-- The names and numbers of the values. -/
  values : List (String × Int)
  /-- Numbers without a name are taken. -/
  isOpen : Bool

/-- What a full name denotes and where it is declared. -/
structure Symbol where
  /-- The kind. -/
  kind : SymbolKind
  /-- The name of the file. -/
  file : String
  /-- Other files may not refer to it as a type. -/
  confined : Bool := false
deriving Repr, BEq, DecidableEq

/-- What is known of a set of files. -/
structure Pool where
  /-- The symbols by full name. -/
  symbols : Std.TreeMap String Symbol := {}
  /-- The messages by full name. -/
  messages : Std.TreeMap String MessageInfo := {}
  /-- The enumerations by full name. -/
  enums : Std.TreeMap String EnumInfo := {}
  /-- The fields and extensions by full name. -/
  fields : Std.TreeMap String FieldInfo := {}
  /-- The extensions by message and number. -/
  extensions :
    Std.TreeMap (String × Nat) String (compareLex (compareOn Prod.fst) (compareOn Prod.snd)) := {}
  /-- The files by name, the last one first. -/
  files : List (String × FileDecl) := []

instance : Inhabited Pool := ⟨{}⟩

/-! ## Symbols -/

/-- Adds a name that must be new; packages may be declared many times. -/
def Pool.addSymbol (p : Pool) (file : String) (name : String) (kind : SymbolKind) :
    Except CompileError Pool :=
  match p.symbols[name]? with
  | none => .ok { p with symbols := p.symbols.insert name { kind, file } }
  | some s =>
    if kind == .package && s.kind == .package then .ok p else .error (.duplicateName name)

/-- Adds all names of a file. -/
def Pool.addSymbols (p : Pool) (f : FileDecl) : Except CompileError Pool := do
  let p ← (packageNames f.package).foldlM (fun p name => p.addSymbol f.name name .package) p
  f.symbols.foldlM (fun p (name, kind) => p.addSymbol f.name name kind) p

/-! ## Scopes -/

/-- A file that is being compiled, with what it can see. -/
structure Scope where
  /-- The files that are known. -/
  pool : Pool
  /-- The names of the files that can be seen. -/
  visible : List String
  /-- The packages of the files that can be seen. -/
  packages : List String
  /-- The names of the files that can be seen where options are named only. -/
  forOptions : List String := []
  /-- The schema of schemas, which is known even where no file refers to it. -/
  builtIn : Pool := {}

/-- The files that a file forwards to those that import it; `depth` bounds the chains. -/
def Pool.forwarded (p : Pool) : Nat → String → List String
  | 0, _ => []
  | depth + 1, name =>
    match p.files.lookup name with
    | none => []
    | some f =>
      (f.imports.filter (·.2 == .forwarded)).flatMap fun (target, _) =>
        target :: p.forwarded depth target

/-- What a file can see. -/
def Pool.scopeOf (p : Pool) (builtIn : Pool) (f : FileDecl) : Scope :=
  let reached (imports : List (String × ImportKind)) : List String :=
    imports.flatMap fun (target, _) => target :: p.forwarded p.files.length target
  let imported := reached (f.imports.filter (·.2 != .forOptions))
  let forOptions := reached (f.imports.filter (·.2 == .forOptions))
  let packages := (imported ++ forOptions).filterMap fun name =>
    (p.files.lookup name).map (·.package)
  { pool := p, visible := f.name :: imported, packages := (f.package :: packages).eraseDups
    forOptions, builtIn }

/-- What can be seen where options are named. -/
def Scope.inOptions (s : Scope) : Scope :=
  { s with visible := s.visible ++ s.forOptions, forOptions := [] }

/-- What a full name denotes, if it can be seen. -/
def Scope.find? (s : Scope) (name : String) : Option SymbolKind := do
  let symbol ← s.pool.symbols[name]?
  let seen :=
    if symbol.kind == .package then
      s.packages.any fun p => p == name || p.startsWith (name ++ ".")
    else s.visible.contains symbol.file
  if seen then some symbol.kind else none

/-- Resolves a name of which `first` is the first part, from the innermost scope outwards; scopes
are given by their parts backwards. -/
def Scope.resolveFrom (s : Scope) (typesOnly : Bool) (first name : String) :
    List String → Option (String × SymbolKind)
  | [] => (s.find? name).map (name, ·)
  | part :: outer =>
    let scope := ".".intercalate (part :: outer).reverse
    match s.find? (scope ++ "." ++ first) with
    | none => s.resolveFrom typesOnly first name outer
    | some kind =>
      if first != name then
        if kind.isAggregate then
          let full := scope ++ "." ++ name
          (s.find? full).map (full, ·)
        else s.resolveFrom typesOnly first name outer
      else if typesOnly && !kind.isType then s.resolveFrom typesOnly first name outer
      else some (scope ++ "." ++ first, kind)

/-- Resolves a name that stands in a scope; a point in front makes it a full name. -/
def Scope.resolve (s : Scope) (typesOnly : Bool) (scope name : String) :
    Option (String × SymbolKind) :=
  match name.toList with
  | '.' :: full =>
    let full := String.ofList full
    (s.find? full).map (full, ·)
  | cs =>
    let first := String.ofList (cs.takeWhile (· != '.'))
    let parts := if scope.isEmpty then [] else (Text.cutAt '.' scope.toList).map String.ofList
    s.resolveFrom typesOnly first name parts.reverse

/-- The file may refer to a type. -/
def Scope.mayRefer (s : Scope) (full : String) : Bool :=
  match s.pool.symbols[full]? with
  | some symbol => !symbol.confined || s.visible.head? == some symbol.file
  | none => true

/-- Resolves the name of a message. -/
def Scope.resolveMessage (s : Scope) (scope name : String) : Except CompileError String :=
  match s.resolve false scope name with
  | some (full, .message) => if s.mayRefer full then .ok full else .error (.notAllowed name)
  | some _ => .error (.wrongKind name)
  | none => .error (.unresolved name)

/-- The kind and full name of a type that stands in a scope. -/
def Scope.resolveType (s : Scope) (scope : String) :
    TypeRef → Except CompileError (FieldKind × String)
  | .scalar t => .ok (.scalar t, "")
  | .group name => .ok (.group, qualify scope name)
  | .named name =>
    match s.resolve true scope name with
    | some (full, kind) =>
      if !s.mayRefer full then .error (.notAllowed name)
      else if kind == .message then .ok (.message, full)
      else if kind == .enumeration then .ok (.enumeration, full)
      else .error (.wrongKind name)
    | none => .error (.unresolved name)

/-! ## Messages and fields -/

/-- A message by its full name; the messages of options are always known. -/
def Scope.message? (s : Scope) (name : String) : Option MessageInfo :=
  (s.pool.messages[name]?).or (s.builtIn.messages[name]?)

/-- An enumeration by its full name. -/
def Scope.enum? (s : Scope) (name : String) : Option EnumInfo :=
  (s.pool.enums[name]?).or (s.builtIn.enums[name]?)

/-- The fields of a message by its full name. -/
def Scope.fieldsOf (s : Scope) (message : String) : List FieldInfo :=
  ((s.message? message).map (·.fields)).getD []

/-- The field holds the entries of a map. -/
def Scope.isMap (s : Scope) (f : FieldInfo) : Bool :=
  f.label == .repeated && f.isMessage &&
    ((s.message? f.typeName).map (·.isMapEntry)).getD false

/-- A field or extension by a name that is relative to a scope. -/
def Scope.fieldNamed? (s : Scope) (scope name : String) : Option FieldInfo :=
  (s.inOptions.resolve false scope name).bind fun (full, _) => s.pool.fields[full]?

end TypedFetch.Proto
