import TypedFetch.Proto.Compile
import TypedFetch.Proto.Staging

/-!
# Registration

The files of a compilation are registered anew, beside the schema of schemas, before options are
read with them.  The registry is stricter than the compiler: the names of the schema of schemas are
taken even where no file imports it; names in JSON texts are distinct in every dialect; reserved
numbers are numbers of fields; a message has few required fields; and a file is found again by a
name in ASCII only.
-/

namespace TypedFetch.Proto

/-- Why the files of a compilation cannot be registered. -/
inductive RegistryError where
  /-- A name of the schema of schemas is declared again. -/
  | takenName (name : String)
  /-- Two fields have the same name in JSON texts. -/
  | sameJsonName (name : String)
  /-- The name of a field in JSON texts is the name of another field or of a choice. -/
  | jsonNameTaken (field name : String)
  /-- Reserved numbers, of which the last one is excluded, are greater than those of fields. -/
  | reservedBeyond (start stop : Nat) (message : String)
  /-- A message has too many required fields. -/
  | tooManyRequired
  /-- A file is not found again. -/
  | unknownFile (name : String)
deriving Repr, BEq, DecidableEq

/-- The message of a failed registration. -/
def RegistryError.message : RegistryError → String
  | .takenName name => building ++ "duplicate symbol '" ++ name ++ "'"
  | .sameJsonName name => building ++ "duplicate json_name (" ++ name ++ ")"
  | .jsonNameTaken field name => building ++ "duplicate json_name for (" ++ field ++
      ") with original field name (" ++ name ++ ")"
  | .reservedBeyond start stop message => building ++ "Reserved range (" ++ toString start ++
      ", " ++ toString stop ++ ") is invalid, message=" ++ message ++ "\n"
  | .tooManyRequired => building ++ "Error building mini table: Too many required fields"
  | .unknownFile name => Value.quotedText ("Couldn't find file " ++ name)
where
  /-- What failed. -/
  building : String := "Couldn't build proto file into descriptor pool: "

/-! ## Names -/

/-- The symbols of an enumeration in the order in which they are registered. -/
def registeredEnum (e : PlacedEnum) : List String :=
  e.symbols.map (·.1)

/-- The names that a file registers, in order.  Fields, choices and methods are registered with
what holds them. -/
def registeredNames (f : FileDecl) : List String :=
  let o := f.outline .keep
  let within (scope : String) : List String :=
    (o.enums.filter (·.scope == scope)).flatMap registeredEnum ++
      (o.extensions.filter (·.scope == scope)).map fun e => qualify e.scope e.decl.name
  within f.package ++
    o.messages.flatMap (fun m => m.fullName :: within m.fullName) ++
    f.services.map fun s => qualify f.package s.name

/-- The names of the schema of schemas. -/
def takenNames : List String :=
  (WellKnown.files.filter (·.name == schemaOfSchemas)).flatMap registeredNames

/-- The schema of schemas declares the name, which is then one of its package. -/
def isTaken (name : String) : Bool :=
  (wellKnownPackage ++ ".").toList.isPrefixOf name.toList && takenNames.contains name

/-! ## Names in JSON texts -/

/-- Registers the fields of a message in order; `names` are the names of choices and of fields
before, `jsonNames` the names in JSON texts. -/
def registerFields (strict : Bool) (names jsonNames : List String) :
    List FieldInfo → Except RegistryError Unit
  | [] => .ok ()
  | f :: rest =>
    if strict && f.jsonName != f.name && names.contains f.jsonName then
      .error (.jsonNameTaken f.name f.jsonName)
    else if jsonNames.contains f.jsonName then .error (.sameJsonName f.jsonName)
    else registerFields strict (f.name :: names) (f.jsonName :: jsonNames) rest

/-! ## Messages -/

/-- The reserved numbers of a message are numbers of fields. -/
def registerReserved (m : PlacedMessage) : Except RegistryError Unit :=
  let limit := extensionNumberEnd m.decl
  let ranges := m.decl.reservedRanges.map fun (start, stop) => (start, stop.getD limit)
  match ranges.find? fun (_, stop) => limit < stop with
  | some (start, stop) => .error (.reservedBeyond start stop m.fullName)
  | none => .ok ()

/-- How many required fields a message may have. -/
def requiredLimit : Nat := 64

/-- Registers a message.  It may put up with names that are not distinct. -/
def registerMessage (s : Scope) (m : PlacedMessage) : Except RegistryError Unit := do
  let fields := s.fieldsOf m.fullName
  let tolerant := settingWords m.decl.options "deprecated_legacy_json_field_conflicts"
  unless tolerant == ["true"] do
    registerFields m.features.strictJson (m.decl.oneofs.map (·.name)) [] fields
  registerReserved m
  if requiredLimit < (fields.filter (·.isRequired)).length then throw .tooManyRequired

/-! ## Files -/

/-- Registers a file. -/
def registerFile (s : Scope) (isTaken : String → Bool) (f : FileDecl) :
    Except RegistryError Unit := do
  match (registeredNames f).find? isTaken with
  | some name => throw (.takenName name)
  | none => (f.outline s.adjustment).messages.forM (registerMessage s)

/-- Registers the files of a compilation. -/
def Compiled.register (c : Compiled) : Except RegistryError Unit := do
  let files := c.files.filter (·.name != schemaOfSchemas)
  let isKnown := c.files.any (·.name == schemaOfSchemas)
  files.forM fun f =>
    registerFile (c.scope.pool.viewOf f) (fun name => !isKnown && isTaken name) f
  match files.find? fun f => f.name.toList.any fun ch => 128 ≤ ch.toNat with
  | some f => throw (.unknownFile f.name)
  | none => return ()

end TypedFetch.Proto
