import TypedFetch.Proto.OptionValue
import TypedFetch.Proto.WellKnown

/-!
# Linking

A file is added to a pool after the files that it imports.  The features that hold in its places
come from its dialect and its options; with them the fields of its messages get their types, and
its extensions take the numbers that their messages leave to them.
-/

namespace TypedFetch.Proto

/-! ## Features -/

/-- The features that options set. -/
def featureFields (options : SetFields) : SetFields :=
  (valuesNamed options "features").flatMap OptionValue.inner

/-- The features after others were set. -/
def Features.merge (f : Features) (set : SetFields) : Features where
  presence :=
    match chosen set "field_presence" with
    | some 1 => .explicit
    | some 2 => .implicit
    | some 3 => .required
    | _ => f.presence
  openEnums :=
    match chosen set "enum_type" with
    | some 1 => true
    | some 2 => false
    | _ => f.openEnums
  verifiesText :=
    match chosen set "utf8_validation" with
    | some 2 => true
    | some 3 => false
    | _ => f.verifiesText
  strictJson :=
    match chosen set "json_format" with
    | some 1 => true
    | some 2 => false
    | _ => f.strictJson
  delimited :=
    match chosen set "message_encoding" with
    | some 1 => false
    | some 2 => true
    | _ => f.delimited
  styledNames :=
    match chosen set "enforce_naming_style" with
    | some 1 => true
    | some 2 => false
    | _ => f.styledNames
  visibility :=
    match chosen set "default_symbol_visibility" with
    | some 1 => .all
    | some 2 => .topLevel
    | some 3 => .none
    | some 4 => .strict
    | _ => f.visibility

/-- The features that options of a file change; options that are wrong change nothing. -/
def Scope.adjustment (s : Scope) : Adjustment := fun target scope settings features =>
  match s.options target scope (settings.filter Parser.isFeatureSetting) with
  | .ok options => features.merge (featureFields options)
  | .error _ => features

/-! ## Symbols -/

/-- Other files may not refer to a type. -/
def isConfined (features : Features) (nested : Bool) : Visibility → Bool
  | .exported => false
  | .confined => true
  | .unset =>
    match features.visibility with
    | .all => false
    | .topLevel => nested
    | _ => true

/-- Marks a type that other files may not refer to. -/
def Pool.confine (p : Pool) (name : String) : Pool :=
  match p.symbols[name]? with
  | some s => { p with symbols := p.symbols.insert name { s with confined := true } }
  | none => p

/-- Marks the types of a file that other files may not refer to. -/
def Pool.confineTypes (p : Pool) (package : String) (o : Outline) : Pool :=
  let messages := o.messages.filter fun m =>
    isConfined m.features (m.scope != package) m.decl.visibility
  let enums := o.enums.filter fun e =>
    isConfined e.features (e.scope != package) e.decl.visibility
  (messages.map (·.fullName) ++ enums.map (·.fullName)).foldl Pool.confine p

/-! ## Fields -/

/-- The name of a field in JSON texts: a letter after an underscore is raised, and underscores are
dropped. -/
def defaultJsonName (name : String) : String :=
  let rec go : Bool → List Char → List Char
    | _, [] => []
    | raise, c :: rest =>
      if c == '_' then go true rest else (if raise then c.toUpper else c) :: go false rest
  String.ofList (go false name.toList)

/-- The words that options give for a name. -/
def settingWords (settings : List Setting) (name : String) : List String :=
  settings.filterMap fun s =>
    match s.name, s.value with
    | [⟨n, false⟩], .identifier word => if n == name then some word else none
    | _, _ => none

/-- The editions that a field says it is supported in. -/
def Scope.support (s : Scope) (scope : String) (settings : List Setting) : SetFields :=
  let isSupport (x : Setting) : Bool := x.name.head? == some ⟨"feature_support", false⟩
  match s.options .field scope (settings.filter isSupport) with
  | .ok options => (valuesNamed options "feature_support").flatMap OptionValue.inner
  | .error _ => []

/-- A file that is being linked. -/
structure Linking where
  /-- What options can name: the files that were linked before. -/
  before : Scope
  /-- What types can name: those files and the file itself. -/
  scope : Scope
  /-- The dialect of the file. -/
  dialect : Dialect

/-- Resolves a field that is declared in a scope and belongs to a message. -/
def Linking.field (l : Linking) (features : Features) (scope owner : String)
    (isExtension inMapEntry : Bool) (f : FieldDecl) : Except CompileError FieldInfo := do
  let s := l.scope
  let (kind, typeName) ← s.resolveType scope f.type
  let features := l.before.adjustment .field scope f.options features
  let isEntry := ((s.message? typeName).map (·.isMapEntry)).getD false
  let isMessage := kind == .message || kind == .group
  let support := l.before.support scope f.options
  return {
    fullName := qualify scope f.name
    name := f.name
    jsonName := f.jsonName.getD (defaultJsonName f.name)
    number := f.number
    label := f.label
    kind := if kind == .message && features.delimited && !inMapEntry && !isEntry then .group
      else kind
    typeName, owner, isExtension
    oneofIndex := f.oneofIndex
    hasPresence := f.label != .repeated &&
      (isMessage || f.oneofIndex.isSome || isExtension || features.presence != .implicit)
    isRequired := f.label == .required ||
      (f.label != .repeated && f.oneofIndex.isNone && features.presence == .required)
    verifiesText := features.verifiesText
    closesEnum := l.dialect == .proto2
    targets := settingWords f.options "targets"
    sourceOnly := settingWords f.options "retention" == ["RETENTION_SOURCE"]
    introduced := chosen support "edition_introduced"
    removed := chosen support "edition_removed" }

/-- The number after the greatest one of a field. -/
def fieldNumberEnd : Nat := 536870912

/-- A message that has extensions only. -/
def isMessageSet (m : MessageDecl) : Bool :=
  settingWords m.options "message_set_wire_format" == ["true"]

/-- The first number that is too great for an extension of a message. -/
def extensionNumberEnd (m : MessageDecl) : Nat :=
  if isMessageSet m then 2147483648 else fieldNumberEnd

/-! ## Files -/

/-- Adds a message whose fields have no types yet. -/
def Pool.announceMessage (p : Pool) (m : PlacedMessage) : Pool :=
  let info : MessageInfo := {
    fields := []
    extensionRanges := []
    reservedNames := m.decl.reservedNames
    isMapEntry := m.decl.mapEntry
    isSet := isMessageSet m.decl }
  { p with messages := p.messages.insert m.fullName info }

/-- The names of the options that say which extensions a range is for. -/
def declaringOptions : List String := ["declaration", "verification"]

/-- What the options of a range say about its extensions. -/
def Scope.declaring (s : Scope) (scope : String) (settings : List Setting) : SetFields :=
  let declares (x : Setting) : Bool :=
    match x.name.head? with
    | some part => !part.isExtension && declaringOptions.contains part.name
    | none => false
  ((s.options .extensionRange scope (settings.filter declares)).toOption).getD []

/-- Adds the fields of a message. -/
def Pool.addMessage (p : Pool) (l : Linking) (m : PlacedMessage) : Except CompileError Pool := do
  let fields ← m.decl.fields.mapM
    (l.field m.features m.fullName m.fullName false m.decl.mapEntry)
  let info : MessageInfo := {
    fields
    extensionRanges := m.decl.extensionRanges.map fun r =>
      ⟨r.start, r.stop.getD (extensionNumberEnd m.decl), l.before.declaring m.scope r.options⟩
    reservedNames := m.decl.reservedNames
    isMapEntry := m.decl.mapEntry
    isSet := isMessageSet m.decl }
  return { p with
    messages := p.messages.insert m.fullName info
    fields := fields.foldl (fun fs f => fs.insert f.fullName f) p.fields }

/-- Adds an enumeration. -/
def Pool.addEnum (p : Pool) (e : PlacedEnum) : Pool :=
  let info : EnumInfo := ⟨e.decl.values.map fun v => (v.name, v.number), e.features.openEnums⟩
  { p with enums := p.enums.insert e.fullName info }

/-- Adds an extension, whose number must be one for extensions and not be taken. -/
def Pool.addExtension (p : Pool) (l : Linking) (e : PlacedExtension) :
    Except CompileError Pool := do
  let owner ← l.scope.resolveMessage e.scope (e.decl.extendee.getD "")
  let f ← l.field e.features e.scope owner true false e.decl
  let ranges := ((p.messages[owner]?).map (·.extensionRanges)).getD []
  unless ranges.any fun r => r.start ≤ f.number && f.number < r.stop do
    throw (.badNumber f.fullName)
  if (p.extensions[(owner, f.number)]?).isSome then throw (.conflict f.fullName)
  return { p with
    fields := p.fields.insert f.fullName f
    extensions := p.extensions.insert (owner, f.number) f.fullName }

/-- Adds a file whose imports were added before; `builtIn` is the schema of schemas. -/
def Pool.link (builtIn p : Pool) (f : FileDecl) : Except CompileError Pool := do
  let before := p.scopeOf builtIn f
  let outline := f.outline before.adjustment
  let p ← p.addSymbols f
  let p := p.confineTypes f.package outline
  let p := outline.enums.foldl Pool.addEnum p
  let p := outline.messages.foldl Pool.announceMessage p
  let l : Linking := ⟨before, p.scopeOf builtIn f, f.dialect⟩
  let p ← outline.messages.foldlM (fun p m => p.addMessage l m) p
  let p ← outline.extensions.foldlM (fun p e => p.addExtension l e) p
  return { p with files := (f.name, f) :: p.files }

/-- The name of the schema of schemas. -/
def schemaOfSchemas : String := "google/protobuf/descriptor.proto"

/-- Links the schema of schemas alone, its own options with what is given as built in. -/
def linkSchemaOfSchemas (builtIn : Pool) : Pool :=
  match (WellKnown.files.filter (·.name == schemaOfSchemas)).foldlM (Pool.link builtIn) {} with
  | .ok p => p
  | .error _ => {}

/-- What is known of the schema of schemas alone.  Its fields have options too, which it describes
itself; so it is linked twice. -/
def optionPool : Pool :=
  linkSchemaOfSchemas (linkSchemaOfSchemas {})

/-- Adds a file whose imports were added before. -/
def Pool.addFile (p : Pool) (f : FileDecl) : Except CompileError Pool :=
  Pool.link optionPool p f

/-- What a file of a pool can see. -/
def Pool.viewOf (p : Pool) (f : FileDecl) : Scope :=
  p.scopeOf optionPool f

end TypedFetch.Proto
