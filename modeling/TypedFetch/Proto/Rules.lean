import TypedFetch.Proto.Link

/-!
# Rules for declarations

What must hold of a file beyond its grammar once all names are resolved: numbers are in range, not
reserved and not taken twice; choices and enumerations are not empty; default values exist; names
stay distinct in JSON texts; extensions are those that were declared; and every dialect keeps to
what it allows.
-/

namespace TypedFetch.Proto

/-- What rules are checked against. -/
structure RuleContext where
  /-- What the file can see, itself included. -/
  scope : Scope
  /-- The file. -/
  file : FileDecl
  /-- The file is the one that was asked for. -/
  isRoot : Bool

/-- The dialect of the file. -/
def RuleContext.dialect (c : RuleContext) : Dialect :=
  c.file.dialect

/-- A rule holds, or it is broken for the given reason. -/
def require (holds : Bool) (e : CompileError) : Except CompileError Unit :=
  if holds then .ok () else .error e

/-! ## Options -/

/-- A field exists in an edition. -/
def FieldInfo.existsIn (edition : Int) (f : FieldInfo) : Bool :=
  f.introduced.all (fun first => first ≤ edition) && f.removed.all fun last => edition < last

mutual

/-- The fields that are set in a message exist in an edition. -/
def OptionValue.existsIn (edition : Int) : OptionValue → Bool
  | .message fields => fieldsExistIn edition fields
  | _ => true

/-- The fields of a list exist in an edition. -/
def fieldsExistIn (edition : Int) : List (FieldInfo × OptionValue) → Bool
  | [] => true
  | (f, v) :: rest => f.existsIn edition && v.existsIn edition && fieldsExistIn edition rest

end

/-- The features whose values must be known. -/
def coreFeatures : List String :=
  ["field_presence", "enum_type", "repeated_field_encoding", "utf8_validation", "message_encoding",
   "json_format", "enforce_naming_style", "default_symbol_visibility"]

/-- The options of a declaration; only editions have features. -/
def RuleContext.options (c : RuleContext) (target : OptionTarget) (scope : String)
    (settings : List Setting) : Except CompileError SetFields := do
  let fields ← c.scope.options target scope settings
  require (c.dialect.isEdition || !hasOption fields "features") (.notAllowed "features")
  let features := featureFields fields
  require (coreFeatures.all fun name => chosen features name != some 0) (.notAllowed "features")
  require (fieldsExistIn c.dialect.edition fields) (.notAllowed target.optionsMessage)
  require (!c.isRoot || fieldsSuit target.word fields) (.badOption target.optionsMessage)
  return fields

/-! ## The style of names -/

/-- Underscores stand inside a name and before letters only. -/
def underscoresFit : List Char → Bool
  | [] => true
  | '_' :: rest => (rest.head?.map Char.isAlpha).getD false && underscoresFit rest
  | _ :: rest => underscoresFit rest

/-- Words with capitals and nothing between them. -/
def isTitleName (name : String) : Bool :=
  (name.toList.head?.map Char.isUpper).getD false && name.toList.all Char.isAlphanum

/-- Words in small letters with underscores between them. -/
def isSnakeName (name : String) : Bool :=
  let cs := name.toList
  (cs.head?.map Char.isLower).getD false &&
    cs.all (fun c => c.isLower || c.isDigit || c == '_') && underscoresFit cs

/-- Words in capitals with underscores between them. -/
def isCapitalName (name : String) : Bool :=
  let cs := name.toList
  (cs.head?.map Char.isUpper).getD false &&
    cs.all (fun c => c.isUpper || c.isDigit || c == '_') && underscoresFit cs

/-- A name keeps to a style where names do. -/
def checkStyle (features : Features) (style : String → Bool) (name : String) :
    Except CompileError Unit :=
  require (!features.styledNames || style name) (.notAllowed name)

/-! ## Numbers -/

/-- Two ranges whose ends are excluded have a number in common. -/
def overlap {α : Type} [LT α] [DecidableLT α] (a b : α × α) : Bool :=
  a.1 < b.2 && b.1 < a.2

/-- No two ranges of a list have a number in common. -/
def areDisjoint {α : Type} [LT α] [DecidableLT α] : List (α × α) → Bool
  | [] => true
  | r :: rest => rest.all (!overlap r ·) && areDisjoint rest

/-- The list has no member twice. -/
def areDistinct {α : Type} [BEq α] (l : List α) : Bool :=
  l.eraseDups.length == l.length

/-- Fields may not have the numbers that implementations use. -/
def isImplementationNumber (n : Nat) : Bool :=
  19000 ≤ n && n ≤ 19999

/-- The range is one of positive numbers. -/
def isRange (r : Nat × Nat) : Bool :=
  0 < r.1 && r.1 < r.2

/-- The numbers and reserved names of a message. -/
def checkNumbers (m : PlacedMessage) : Except CompileError Unit := do
  let fields := m.decl.fields
  let limit := extensionNumberEnd m.decl
  let reserved := m.decl.reservedRanges.map fun (start, stop) => (start, stop.getD limit)
  let extensions := m.decl.extensionRanges.map fun r => (r.start, r.stop.getD limit)
  require (!isMessageSet m.decl || fields.isEmpty) (.notAllowed m.fullName)
  for f in fields do
    require (0 < f.number && f.number < fieldNumberEnd && !isImplementationNumber f.number)
      (.badNumber f.name)
    require (!(reserved ++ extensions).any fun (start, stop) => start ≤ f.number && f.number < stop)
      (.badNumber f.name)
    require (!m.decl.reservedNames.contains f.name) (.conflict f.name)
  require (areDistinct (fields.map (·.number))) (.conflict m.fullName)
  require (areDistinct m.decl.reservedNames) (.conflict m.fullName)
  require ((reserved ++ extensions).all isRange && areDisjoint (reserved ++ extensions))
    (.badNumber m.fullName)
  require (extensions.all fun (_, stop) => stop ≤ limit) (.badNumber m.fullName)

/-! ## Names in JSON texts -/

/-- The name of a field in JSON texts, and whether it was chosen for the field. -/
def jsonNameOf (useCustom : Bool) (f : FieldDecl) : String × Bool :=
  let default := defaultJsonName f.name
  match f.jsonName with
  | some name => if useCustom && name != default then (name, true) else (default, false)
  | none => (default, false)

/-- Some name clashes with one before it.  Where names need not be distinct, only two chosen names
clash; a pass for chosen names leaves out what the other pass sees. -/
def namesClash (strict useCustom : Bool) : List (String × Bool) → List (String × Bool) → Bool
  | _, [] => false
  | seen, (name, custom) :: rest =>
    match seen.lookup name with
    | none => namesClash strict useCustom (seen ++ [(name, custom)]) rest
    | some other =>
      if useCustom && !custom && !other then namesClash strict useCustom seen rest
      else if strict || (custom && other) then true
      else namesClash strict useCustom seen rest

/-- The names of fields in JSON texts. -/
def checkJsonNames (c : RuleContext) (m : PlacedMessage) (options : SetFields) :
    Except CompileError Unit := do
  let names (useCustom : Bool) := m.decl.fields.map (jsonNameOf useCustom)
  let clash (useCustom : Bool) : Bool :=
    namesClash m.features.strictJson useCustom [] (names useCustom)
  let tolerant := isTrue options "deprecated_legacy_json_field_conflicts"
  if tolerant then require (c.dialect != .proto3 || !clash false) (.conflict m.fullName)
  else
    require (!clash false && !clash true) (.conflict m.fullName)
    require ((names true).all fun (name, custom) =>
      !(custom && name.startsWith "[" && name.endsWith "]")) (.conflict m.fullName)

/-! ## Fields -/

/-- The types that a list can be packed for. -/
def isPackable (f : FieldInfo) : Bool :=
  f.label == .repeated &&
    match f.kind with
    | .scalar t => t != .string && t != .bytes
    | .enumeration => true
    | _ => false

/-- Integers of 64 bits. -/
def isLong (f : FieldInfo) : Bool :=
  [FieldKind.scalar .int64, .scalar .uint64, .scalar .fixed64, .scalar .sfixed64,
   .scalar .sint64].contains f.kind

/-- The messages that extensions may extend in the third dialect. -/
def extensibleOptions : List String :=
  [OptionTarget.file, .extensionRange, .message, .field, .oneof, .enumeration, .enumValue, .service,
   .method].map OptionTarget.optionsMessage

/-- The default value of a field. -/
def checkDefault (c : RuleContext) (d : FieldDecl) (f : FieldInfo) : Except CompileError Unit :=
  match d.default with
  | none => .ok ()
  | some default => do
    require (c.dialect != .proto3 && f.label != .repeated && !f.isMessage) (.badDefault f.fullName)
    match f.kind, default with
    | .enumeration, .word name =>
      require (((c.scope.enum? f.typeName).map fun e => e.values.any (·.1 == name)).getD false)
        (.badDefault f.fullName)
    | .enumeration, .fitting => throw (.badDefault f.fullName)
    | _, _ => return ()

/-- The enumeration that a field holds takes numbers without a name. -/
def holdsOpenEnum (c : RuleContext) (f : FieldInfo) : Bool :=
  f.kind != .enumeration || ((c.scope.enum? f.typeName).map (·.isOpen)).getD true

/-- What the third dialect leaves out. -/
def checkSimpleField (c : RuleContext) (f : FieldInfo) : Except CompileError Unit := do
  require (f.label != .required && f.kind != .group && holdsOpenEnum c f) (.notAllowed f.fullName)
  require (!f.isExtension || extensibleOptions.contains f.owner) (.notAllowed f.fullName)

/-- The field holds texts, or is a map with texts as keys or values. -/
def holdsText (s : Scope) (f : FieldInfo) : Bool :=
  f.kind == .scalar .string ||
    (s.isMap f && (s.fieldsOf f.typeName).any (·.kind == .scalar .string))

/-- The features that a field sets for itself. -/
def checkOwnFeatures (c : RuleContext) (set : SetFields) (f : FieldInfo) :
    Except CompileError Unit := do
  let isMessage := f.isMessage && !c.scope.isMap f
  if hasOption set "field_presence" then
    require (f.oneofIndex.isNone && f.label != .repeated && !f.isExtension)
      (.notAllowed f.fullName)
    require (!(f.isMessage && chosen set "field_presence" == some 2)) (.notAllowed f.fullName)
  if hasOption set "repeated_field_encoding" then
    require (f.label == .repeated) (.notAllowed f.fullName)
    require (chosen set "repeated_field_encoding" != some 1 || isPackable f)
      (.notAllowed f.fullName)
  require (!hasOption set "utf8_validation" || holdsText c.scope f) (.notAllowed f.fullName)
  require (!hasOption set "message_encoding" || isMessage) (.notAllowed f.fullName)

/-- The first edition has the choice of a text's form for texts and bytes only, and ropes for fields
of messages only. -/
def checkTextForm (c : RuleContext) (options : SetFields) (f : FieldInfo) :
    Except CompileError Unit := do
  if c.dialect == .edition2023 && hasOption options "ctype" then
    require (f.kind == .scalar .string || f.kind == .scalar .bytes) (.badOption "ctype")
    require (!f.isExtension || chosen options "ctype" != some 1) (.badOption "ctype")

/-- What editions say with features. -/
def checkFeatures (c : RuleContext) (inMapEntry : Bool) (set : SetFields) (d : FieldDecl)
    (f : FieldInfo) : Except CompileError Unit := do
  unless f.label == .repeated || f.hasPresence do
    require (d.default.isNone && holdsOpenEnum c f) (.notAllowed f.fullName)
  unless inMapEntry do checkOwnFeatures c set f

/-! ## Declared extensions -/

/-- The declarations of a range. -/
def RangeInfo.declarations (r : RangeInfo) : List SetFields :=
  (valuesNamed r.options "declaration").map OptionValue.inner

/-- A text of a message. -/
def textNamed (fields : SetFields) (name : String) : Option String :=
  match (valuesNamed fields name).getLast? with
  | some (.bytes bs) => (Text.decodeUtf8 bs).toOption.map String.ofList
  | _ => none

/-- A number of a message. -/
def numberNamed (fields : SetFields) (name : String) : Int :=
  match (valuesNamed fields name).getLast? with
  | some (.int i) => i
  | _ => 0

/-- Names with points between them. -/
def isDotted (cs : List Char) : Bool :=
  (Text.cutAt '.' cs).all fun part =>
    part.all (fun c => c.isAlphanum || c == '_') && (part.head?.map (!·.isDigit)).getD false

/-- A full name with a point in front. -/
def isRooted (name : String) : Bool :=
  match name.toList with
  | '.' :: rest => isDotted rest
  | _ => false

/-- The words for types that are not messages. -/
def plainTypes : List String :=
  scalarNames.map (·.1) ++ ["enum"]

/-- The declaration of an extension is complete. -/
def checkDeclaration (r : RangeInfo) (d : SetFields) : Except CompileError Unit := do
  let number := numberNamed d "number"
  require ((r.start : Int) ≤ number && number < r.stop) (.badNumber "declaration")
  match textNamed d "full_name", textNamed d "type" with
  | some name, some type =>
    require (isRooted name && (plainTypes.contains type || isRooted type))
      (.badOption "declaration")
  | none, none => require (isTrue d "reserved") (.badOption "declaration")
  | _, _ => throw (.badOption "declaration")

/-- The declarations of the ranges of a message. -/
def checkDeclarations (ranges : List RangeInfo) : Except CompileError Unit := do
  for r in ranges do
    r.declarations.forM (checkDeclaration r)
    require (areDistinct (r.declarations.map (numberNamed · "number"))) (.conflict "declaration")
    require (r.declarations.isEmpty || chosen r.options "verification" != some 1)
      (.badOption "verification")
  let names := (ranges.flatMap RangeInfo.declarations).filterMap (textNamed · "full_name")
  require (areDistinct names) (.conflict "declaration")

/-- The type of a field as a declaration writes it. -/
def declaredType (f : FieldInfo) : String :=
  match f.kind with
  | .scalar t => ((scalarNames.find? (·.2 == t)).map (·.1)).getD ""
  | _ => "." ++ f.typeName

/-- An extension is the one that its number is declared for. -/
def checkDeclared (s : Scope) (f : FieldInfo) : Except CompileError Unit := do
  let ranges := ((s.message? f.owner).map (·.extensionRanges)).getD []
  match ranges.find? fun r => r.start ≤ f.number && f.number < r.stop with
  | none => return ()
  | some r =>
    match r.declarations.find? fun d => numberNamed d "number" == f.number with
    | some d =>
      require (!isTrue d "reserved") (.badNumber f.fullName)
      require (((textNamed d "type").map (· == declaredType f)).getD true) (.wrongKind f.fullName)
      require (((textNamed d "full_name").map (· == "." ++ f.fullName)).getD true)
        (.conflict f.fullName)
      require (isTrue d "repeated" == (f.label == .repeated)) (.wrongKind f.fullName)
    | none =>
      require (r.declarations.isEmpty && chosen r.options "verification" != some 0)
        (.notAllowed f.fullName)

/-! ## Small runtimes -/

/-- The file is one for small runtimes. -/
def isLite (f : FileDecl) : Bool :=
  settingWords f.options "optimize_for" == ["LITE_RUNTIME"]

/-- The file that declares a message is one for small runtimes. -/
def Pool.isLiteType (p : Pool) (name : String) : Bool :=
  let file := (p.symbols[name]?).bind fun s => p.files.lookup s.file
  (file.map isLite).getD false

/-! ## Fields and extensions -/

/-- An extension. -/
def checkExtension (c : RuleContext) (f : FieldInfo) : Except CompileError Unit := do
  require (f.label != .required && f.jsonName == defaultJsonName f.name) (.notAllowed f.fullName)
  let extendsSet := ((c.scope.message? f.owner).map (·.isSet)).getD false
  require (!extendsSet || (f.label == .optional && f.kind == .message)) (.notAllowed f.fullName)
  require (!isLite c.file || c.scope.pool.isLiteType f.owner) (.notAllowed f.fullName)
  unless extensibleOptions.contains f.owner do checkDeclared c.scope f

/-- A field or extension. -/
def checkField (c : RuleContext) (features : Features) (scope : String) (inMapEntry : Bool)
    (d : FieldDecl) (f : FieldInfo) : Except CompileError Unit := do
  let options ← c.options .field scope d.options
  let set := featureFields options
  checkStyle (features.merge set) isSnakeName f.name
  require (0 < f.number && !isImplementationNumber f.number) (.badNumber f.fullName)
  require (!f.jsonName.contains '\x00') (.notAllowed f.fullName)
  checkDefault c d f
  if f.isExtension then checkExtension c f
  require (!isTrue options "packed" || isPackable f) (.badOption "packed")
  require (!(isTrue options "lazy" || isTrue options "unverified_lazy") || f.kind == .message)
    (.badOption "lazy")
  require (((chosen options "jstype").getD 0) == 0 || isLong f) (.badOption "jstype")
  if c.dialect == .proto3 then checkSimpleField c f
  if c.dialect.isEdition then
    require (!hasOption options "packed") (.badOption "packed")
    checkTextForm c options f
    checkFeatures c inMapEntry set d f

/-! ## Messages -/

/-- The types that the keys of a map may have. -/
def isKeyKind : FieldKind → Bool
  | .scalar t => t != .double && t != .float && t != .bytes
  | _ => false

/-- A message that holds the entries of a map. -/
def checkMapEntry (c : RuleContext) (fields : List FieldInfo) : Except CompileError Unit :=
  match fields with
  | [key, value] => do
    require (isKeyKind key.kind) (.notAllowed key.fullName)
    if value.kind == .enumeration then
      let first := (c.scope.enum? value.typeName).bind fun e => e.values.head?
      require (first.map (·.2) == some 0) (.notAllowed value.fullName)
  | _ => .ok ()

/-- Where nested types are kept to their file, none of them says otherwise. -/
def checkVisibility (c : RuleContext) (features : Features) (scope : String) (v : Visibility) :
    Except CompileError Unit :=
  require (features.visibility != .strict || scope == c.file.package || v != .exported)
    (.notAllowed scope)

/-- A message. -/
def checkMessage (c : RuleContext) (m : PlacedMessage) : Except CompileError Unit := do
  let fields := c.scope.fieldsOf m.fullName
  let options ← c.options .message m.scope m.decl.options
  checkStyle m.features isTitleName m.decl.name
  checkVisibility c m.features m.scope m.decl.visibility
  checkNumbers m
  for (d, f) in m.decl.fields.zip fields do
    checkField c m.features m.fullName m.decl.mapEntry d f
  for (o, i) in m.decl.oneofs.zipIdx do
    let options ← c.options .oneof m.fullName o.options
    require (fields.any (·.oneofIndex == some i)) (.notAllowed o.name)
    checkStyle (m.features.merge (featureFields options)) isSnakeName o.name
  for r in m.decl.extensionRanges do
    let _ ← c.options .extensionRange m.scope r.options
  checkDeclarations (((c.scope.message? m.fullName).map (·.extensionRanges)).getD [])
  require (!hasOption options "map_entry") (.badOption "map_entry")
  if c.dialect == .proto3 then
    require (m.decl.extensionRanges.isEmpty && !isTrue options "message_set_wire_format")
      (.notAllowed m.fullName)
  if m.decl.mapEntry then checkMapEntry c fields
  checkJsonNames c m options

/-! ## Enumerations -/

/-- Drops a head of letters in any case, passing over underscores; gives what follows. -/
def dropNameHead : List Char → List Char → Option (List Char)
  | [], rest => some (rest.dropWhile (· == '_'))
  | _ :: _, [] => none
  | h :: head, c :: rest =>
    if c == '_' then dropNameHead (h :: head) rest
    else if c.toLower == h then dropNameHead head rest
    else none

/-- The name of a value without the name of its enumeration in front. -/
def shortValueName (enum value : String) : List Char :=
  let head := (enum.toList.filter (· != '_')).map Char.toLower
  match dropNameHead head value.toList with
  | some [] => value.toList
  | some rest => rest
  | none => value.toList

/-- The words of a name in capitals. -/
def pascalWords : Bool → List Char → List Char
  | _, [] => []
  | raise, c :: rest =>
    if c == '_' then pascalWords true rest
    else (if raise then c.toUpper else c.toLower) :: pascalWords false rest

/-- Two values with different numbers have names that generated code cannot tell apart. -/
def valuesClash (enum : String) : List (List Char × EnumValueDecl) → List EnumValueDecl → Bool
  | _, [] => false
  | seen, v :: rest =>
    let short := pascalWords true (shortValueName enum v.name)
    match seen.lookup short with
    | none => valuesClash enum (seen ++ [(short, v)]) rest
    | some other =>
      (other.name != v.name && other.number != v.number) || valuesClash enum seen rest

/-- An enumeration. -/
def checkEnum (c : RuleContext) (e : PlacedEnum) : Except CompileError Unit := do
  let values := e.decl.values
  let options ← c.options .enumeration e.scope e.decl.options
  checkStyle e.features isTitleName e.decl.name
  checkVisibility c e.features e.scope e.decl.visibility
  for v in values do
    let set ← c.options .enumValue e.scope v.options
    checkStyle (e.features.merge (featureFields set)) isCapitalName v.name
    require (!e.decl.reservedRanges.any fun (start, stop) => start ≤ v.number && v.number ≤ stop)
      (.badNumber v.name)
    require (!e.decl.reservedNames.contains v.name) (.conflict v.name)
  require (!values.isEmpty) (.notAllowed e.fullName)
  require (isTrue options "allow_alias" || areDistinct (values.map (·.number)))
    (.conflict e.fullName)
  require (!e.features.openEnums || values.head?.map (·.number) == some 0) (.notAllowed e.fullName)
  require (e.decl.reservedRanges.all fun (start, stop) => start ≤ stop) (.badNumber e.fullName)
  require (areDisjoint (e.decl.reservedRanges.map fun (start, stop) => (start, stop + 1)))
    (.badNumber e.fullName)
  require (areDistinct e.decl.reservedNames) (.conflict e.fullName)
  let tolerant :=
    isTrue options "deprecated_legacy_json_field_conflicts" && c.dialect == .proto2
  require (tolerant || !valuesClash e.decl.name [] values) (.conflict e.fullName)

/-! ## Services and files -/

/-- A service. -/
def checkService (c : RuleContext) (features : Features) (s : ServiceDecl) :
    Except CompileError Unit := do
  let fullName := qualify c.file.package s.name
  let options ← c.options .service c.file.package s.options
  let features := features.merge (featureFields options)
  checkStyle features isTitleName s.name
  for m in s.methods do
    let _ ← c.scope.resolveMessage fullName m.input
    let _ ← c.scope.resolveMessage fullName m.output
    let options ← c.options .method fullName m.options
    checkStyle (features.merge (featureFields options)) isTitleName m.name

/-- How many points the name of a package may have. -/
def packageLimit : Nat := 100

/-- The package of a file keeps to the style of names. -/
def checkPackage (features : Features) (package : String) : Except CompileError Unit := do
  require (package.toList.count '.' ≤ packageLimit) (.notAllowed package)
  let parts := (Text.cutAt '.' package.toList).map String.ofList
  unless package.isEmpty do parts.forM (checkStyle features isSnakeName)

/-- The options of a file fit its declarations. -/
def checkFileOptions (c : RuleContext) (features : Features) (options : SetFields) :
    Except CompileError Unit := do
  if c.dialect.isEdition then
    require (features.presence != .required) (.notAllowed c.file.name)
    require (!isTrue options "java_string_check_utf8") (.notAllowed c.file.name)
  let generic := isTrue options "cc_generic_services" || isTrue options "java_generic_services"
  require (!isLite c.file || !generic || c.file.services.isEmpty) (.notAllowed c.file.name)
  unless isLite c.file do
    for (target, _) in c.file.imports do
      require (!((c.scope.pool.files.lookup target).map isLite).getD false) (.notAllowed target)

/-- A file, which the pool holds already. -/
def checkFile (p : Pool) (isRoot : Bool) (f : FileDecl) : Except CompileError Unit := do
  let c : RuleContext := ⟨p.viewOf f, f, isRoot⟩
  let outline := f.outline c.scope.adjustment
  let options ← c.options .file f.package f.options
  checkFileOptions c outline.features options
  checkPackage outline.features f.package
  for m in outline.messages do
    checkMessage c m
  for e in outline.enums do
    checkEnum c e
  for e in outline.extensions do
    match p.fields[qualify e.scope e.decl.name]? with
    | some info => checkField c e.features e.scope false e.decl info
    | none => throw (.unresolved e.decl.name)
  for s in f.services do
    checkService c outline.features s

end TypedFetch.Proto
