import TypedFetch.Proto.Declaration

/-!
# Parsing of schema sources

A recursive descent over the tokens of a source.  The comments of a declaration are those in front
of it and those behind the token that ends its head: the semicolon, or the opening brace.
-/

namespace TypedFetch.Proto

/-- The source does not follow the grammar. -/
inductive ParseError where
  | lexical (e : LexError)
  | unexpected
  | unknownDialect
  | outOfRange
  | notAllowed
  | tooDeep
deriving Repr, BEq, DecidableEq

/-- What is left to parse. -/
structure ParserState where
  /-- The tokens that are left. -/
  tokens : List Token
  /-- The comment above the next declaration. -/
  upcoming : String := ""
  /-- The dialect of the source. -/
  dialect : Dialect := .proto2

/-- A parser of some part of a source. -/
abbrev Parser := StateT ParserState (Except ParseError)

namespace Parser

/-! ## Tokens -/

/-- The end of a source. -/
def finishToken : Token := ⟨.finish, [], {}⟩

/-- The next token. -/
def current : Parser Token := do
  return ((← get).tokens.head?).getD finishToken

/-- Passes over the next token. -/
def advance : Parser Unit :=
  modify fun s => { s with tokens := s.tokens.drop 1 }

/-- The next token has the given text. -/
def lookingAt (text : String) : Parser Bool := do
  let t ← current
  return t.kind != .finish && t.chars == text.toList

/-- The next token is of the given kind. -/
def lookingAtKind (kind : TokenKind) : Parser Bool := do
  return (← current).kind == kind

/-- Passes over a token with the given text, if it comes next. -/
def tryConsume (text : String) : Parser Bool := do
  if ← lookingAt text then
    advance
    return true
  else return false

/-- Passes over a token with the given text, which must come next. -/
def consume (text : String) : Parser Unit := do
  unless ← tryConsume text do throw .unexpected

/-- An identifier. -/
def identifier : Parser String := do
  let t ← current
  if t.kind == .identifier then
    advance
    return t.text
  else throw .unexpected

/-- An integer up to a limit. -/
def integerUpTo (limit : Nat) : Parser Nat := do
  let t ← current
  if t.kind == .integer then
    let n := integerValue t.chars
    if limit < n then throw .outOfRange
    advance
    return n
  else throw .unexpected

/-- The greatest integer of 32 bits. -/
def int32Max : Nat := 2147483647

/-- A field number or the like. -/
def integer : Parser Nat := integerUpTo int32Max

/-- An integer of 32 bits with a sign. -/
def signedInteger : Parser Int := do
  if ← tryConsume "-" then
    let n ← integerUpTo (int32Max + 1)
    return -(n : Int)
  else
    let n ← integer
    return n

/-- A number: an integer, a decimal, or the name of an infinity or of no number. -/
def number : Parser Float := do
  let t ← current
  match t.kind with
  | .decimal =>
    advance
    return decimalValue t.chars
  | .integer =>
    let n := integerValue t.chars
    if 0xFFFFFFFFFFFFFFFF < n && t.chars.head? == some '0' then throw .outOfRange
    advance
    return Float.ofNat n
  | _ =>
    if ← tryConsume "inf" then return 1.0 / 0.0
    if ← tryConsume "nan" then return 0.0 / 0.0
    throw .unexpected

/-- Texts in a row, which are one text. -/
def text : Parser (List UInt8) := do
  let parts := (← get).tokens.takeWhile (·.kind == .text)
  if parts.isEmpty then throw .unexpected
  modify fun s => { s with tokens := s.tokens.drop parts.length }
  return parts.flatMap Token.bytes

/-- A text that is read as characters. -/
def textString : Parser String := do
  let bytes ← text
  match Text.decodeUtf8 bytes with
  | .ok cs => return String.ofList cs
  | .error _ => return String.ofList (bytes.map fun b => Char.ofNat b.toNat)

/-- Passes over a token that ends the head of a declaration, and gives the comments of that
declaration. -/
def tryEnd (text : String) : Parser (Option Doc) := do
  if ← lookingAt text then
    let leading := (← get).upcoming
    advance
    let comments := (← current).comments
    modify fun s => { s with upcoming := comments.leading }
    return some { leading, trailing := comments.trailing }
  else return none

/-- Passes over a token that ends the head of a declaration and must come next. -/
def endDeclaration (text : String) : Parser Doc := do
  match ← tryEnd text with
  | some doc => return doc
  | none => throw .unexpected

/-- An upper bound for the number of parts of what is left. -/
def fuel : Parser Nat := do
  return (← get).tokens.length + 1

/-- Parts with a comma between them. -/
def commaList {α : Type} (part : Parser α) : Nat → Parser (List α)
  | 0 => throw .unexpected
  | n + 1 => do
    let a ← part
    if ← tryConsume "," then
      let rest ← commaList part n
      return a :: rest
    else return [a]

/-- Further parts of a dotted name. -/
def dottedRest : Nat → Parser (List String)
  | 0 => throw .unexpected
  | n + 1 => do
    if ← tryConsume "." then
      let first ← identifier
      let rest ← dottedRest n
      return first :: rest
    else return []

/-- A dotted name that may start with a point. -/
def qualifiedName : Parser String := do
  let head := if ← tryConsume "." then "." else ""
  let first ← identifier
  let rest ← dottedRest (← fuel)
  return head ++ ".".intercalate (first :: rest)

/-- The name of a message or enumeration. -/
def userType : Parser String := do
  let t ← current
  if t.text == "group" || (scalarNames.lookup t.text).isSome then throw .notAllowed
  qualifiedName

/-- A type, and whether it is a group. -/
def fieldType : Parser (Option TypeRef) := do
  let t ← current
  match scalarNames.lookup t.text with
  | some s =>
    advance
    return some (.scalar s)
  | none =>
    if t.text == "group" then
      if (← get).dialect.isEdition then throw .notAllowed
      advance
      return none
    else
      let name ← qualifiedName
      return some (.named name)

/-! ## Options -/

/-- A name in parentheses: identifiers with points between them, possibly none. -/
def extensionName : Parser String := do
  let first ← if ← lookingAtKind .identifier then identifier else pure ""
  let rest ← dottedRest (← fuel)
  return ".".intercalate (first :: rest)

/-- A part of the name of an option. -/
def namePart : Parser NamePart := do
  if ← tryConsume "(" then
    let name ← extensionName
    consume ")"
    return ⟨name, true⟩
  else
    let name ← identifier
    return ⟨name, false⟩

/-- The parts of the name of an option. -/
def nameParts : Nat → Parser (List NamePart)
  | 0 => throw .unexpected
  | n + 1 => do
    let first ← namePart
    if ← tryConsume "." then
      let rest ← nameParts n
      return first :: rest
    else return [first]

/-- The tokens up to the brace that closes a block, and those after it. -/
def blockTokens (depth : Nat) : List Token → Option (List Token × List Token)
  | [] => none
  | t :: rest =>
    if t.kind == .finish then none
    else if t.kind == .symbol && t.chars == ['\x7d'] then
      match depth with
      | 0 => some ([], rest)
      | d + 1 => (blockTokens d rest).map fun (inner, rest) => (t :: inner, rest)
    else
      let depth := if t.kind == .symbol && t.chars == ['\x7b'] then depth + 1 else depth
      (blockTokens depth rest).map fun (inner, rest) => (t :: inner, rest)

/-- The value of an option.  An integer of more than 64 bits is read as a decimal, and a sign in
front of a block says nothing. -/
def literal : Parser Literal := do
  let negative ← tryConsume "-"
  let t ← current
  match t.kind with
  | .identifier =>
    advance
    if negative then
      if t.text == "inf" then return .decimal (-1.0 / 0.0)
      else if t.text == "nan" then return .decimal (0.0 / 0.0)
      else throw .unexpected
    else return .identifier t.text
  | .integer =>
    let n := integerValue t.chars
    if (if negative then 0x8000000000000000 else 0xFFFFFFFFFFFFFFFF) < n then
      let x ← number
      return .decimal (if negative then -x else x)
    else
      advance
      return if negative then .negative n else .natural n
  | .decimal =>
    let x ← number
    return .decimal (if negative then -x else x)
  | .text =>
    if negative then throw .unexpected
    return .text (← text)
  | .symbol =>
    consume "\x7b"
    match blockTokens 0 (← get).tokens with
    | some (inner, rest) =>
      modify fun s => { s with tokens := rest }
      return .aggregate inner
    | none => throw .unexpected
  | .finish => throw .unexpected

/-- An option and its value. -/
def setting : Parser Setting := do
  let name ← nameParts (← fuel)
  consume "="
  let value ← literal
  return { name, value }

/-- An option statement. -/
def optionStatement : Parser Setting := do
  consume "option"
  let s ← setting
  let _ ← endDeclaration ";"
  return s

/-- A list of options in brackets, if there is one. -/
def optionList : Parser (List Setting) := do
  if ← tryConsume "[" then
    let settings ← commaList setting (← fuel)
    consume "]"
    return settings
  else return []

/-! ## Enumerations -/

/-- A range of numbers: one number, or two with a word between them. -/
def range {α : Type} (bound : Parser α) (top : α) : Parser (α × α) := do
  let start ← bound
  if ← tryConsume "to" then
    if ← tryConsume "max" then return (start, top)
    else
      let stop ← bound
      return (start, stop)
  else return (start, start)

/-- Names that may not be used: texts, or in editions identifiers. -/
def reservedNames : Parser (List String) := do
  let isText ← lookingAtKind .text
  let inEdition := (← get).dialect.isEdition
  if isText == inEdition then throw .notAllowed
  let names ← commaList (if isText then textString else identifier) (← fuel)
  let _ ← endDeclaration ";"
  return names

/-- A value of an enumeration. -/
def enumValue : Parser EnumValueDecl := do
  let name ← identifier
  consume "="
  let number ← signedInteger
  let options ← optionList
  let _ ← endDeclaration ";"
  return { name, number, options }

/-- The statements of an enumeration up to its end. -/
def enumBody : Nat → EnumDecl → Parser EnumDecl
  | 0, _ => throw .unexpected
  | n + 1, e => do
    if (← tryEnd "\x7d").isSome then return e
    if (← tryEnd ";").isSome then enumBody n e
    else if ← lookingAt "option" then
      let s ← optionStatement
      enumBody n { e with options := e.options ++ [s] }
    else if ← lookingAt "reserved" then
      advance
      if (← lookingAtKind .text) || (← lookingAtKind .identifier) then
        let names ← reservedNames
        enumBody n { e with reservedNames := e.reservedNames ++ names }
      else
        let ranges ← commaList (range signedInteger (int32Max : Int)) (← fuel)
        let _ ← endDeclaration ";"
        enumBody n { e with reservedRanges := e.reservedRanges ++ ranges }
    else
      let v ← enumValue
      enumBody n { e with values := e.values ++ [v] }

/-- The value of the first option that allows two names for one number. -/
def aliasSetting (e : EnumDecl) : Option Bool :=
  (e.options.find? fun s => s.name == [⟨"allow_alias", false⟩]).map fun s =>
    s.value == .identifier "true"

/-- Some number has two names. -/
def hasAliases (e : EnumDecl) : Bool :=
  (e.values.map (·.number)).eraseDups.length != e.values.length

/-- The word that says which files may refer to a type, where the dialect has such words.  The
declaration of a type must follow it. -/
def visibilityWord : Parser Visibility := do
  if (← get).dialect != .edition2024 then return .unset
  let word ←
    if ← tryConsume "export" then pure Visibility.exported
    else if ← tryConsume "local" then pure Visibility.confined
    else pure Visibility.unset
  unless word == .unset || (← lookingAt "message") || (← lookingAt "enum") do throw .notAllowed
  return word

/-- An enumeration.  The option that allows aliases must be there for a reason. -/
def enumDeclaration (visibility : Visibility) : Parser EnumDecl := do
  consume "enum"
  let name ← identifier
  let doc ← endDeclaration "\x7b"
  let e ← enumBody (← fuel) { name, doc, visibility }
  match aliasSetting e with
  | some allowed => if allowed && hasAliases e then return e else throw .notAllowed
  | none => return e

/-! ## Fields -/

/-- What options in brackets say about a field. -/
structure FieldExtras where
  /-- The default value. -/
  default : Option DefaultValue := none
  /-- The name in JSON texts. -/
  jsonName : Option String := none
  /-- The other options. -/
  options : List Setting := []

/-- The greatest magnitude of a default value of an integer type, without and with a sign; none for
types that are not integers. -/
def integerLimits : Scalar → Option (Nat × Option Nat)
  | .int32 => some (0x7FFFFFFF, some 0x80000000)
  | .sint32 => some (0x7FFFFFFF, some 0x80000000)
  | .sfixed32 => some (0x7FFFFFFF, some 0x80000000)
  | .int64 => some (0x7FFFFFFFFFFFFFFF, some 0x8000000000000000)
  | .sint64 => some (0x7FFFFFFFFFFFFFFF, some 0x8000000000000000)
  | .sfixed64 => some (0x7FFFFFFFFFFFFFFF, some 0x8000000000000000)
  | .uint32 => some (0xFFFFFFFF, none)
  | .fixed32 => some (0xFFFFFFFF, none)
  | .uint64 => some (0xFFFFFFFFFFFFFFFF, none)
  | .fixed64 => some (0xFFFFFFFFFFFFFFFF, none)
  | _ => none

/-- A default value for a built-in type. -/
def scalarDefault (s : Scalar) : Parser Unit := do
  match integerLimits s with
  | some (limit, negativeLimit) =>
    if ← tryConsume "-" then
      match negativeLimit with
      | some l => let _ ← integerUpTo l
      | none => throw .notAllowed
    else let _ ← integerUpTo limit
  | none =>
    match s with
    | .bool => unless (← tryConsume "true") || (← tryConsume "false") do throw .unexpected
    | .string => let _ ← text
    | .bytes => let _ ← text
    | _ =>
      let _ ← tryConsume "-"
      let _ ← number

/-- A default value for a type. -/
def defaultValue : Option TypeRef → Parser DefaultValue
  | some (.scalar s) => do
    scalarDefault s
    return .fitting
  | some (.named _) => do
    let t ← current
    advance
    return .word t.text
  | _ => throw .notAllowed

/-- The options of a field up to the closing bracket. -/
def fieldExtras (type : Option TypeRef) : Nat → FieldExtras → Parser FieldExtras
  | 0, _ => throw .unexpected
  | n + 1, extras => do
    let extras ←
      if ← lookingAt "default" then do
        if extras.default.isSome then throw .notAllowed
        advance
        consume "="
        let d ← defaultValue type
        pure { extras with default := some d }
      else if ← lookingAt "json_name" then do
        if extras.jsonName.isSome then throw .notAllowed
        advance
        consume "="
        let name ← textString
        pure { extras with jsonName := some name }
      else do
        let s ← setting
        pure { extras with options := extras.options ++ [s] }
    if ← tryConsume "," then fieldExtras type n extras
    else
      consume "]"
      return extras

/-- The options of a field in brackets, if there are any. -/
def fieldOptions (type : Option TypeRef) : Parser FieldExtras := do
  if ← tryConsume "[" then fieldExtras type (← fuel) {}
  else return {}

/-- The name of the message that holds the entries of a map field: the words of the field's name in
capitals. -/
def mapEntryName (field : String) : String :=
  let rec go : Bool → List Char → List Char
    | _, [] => "Entry".toList
    | raise, c :: rest =>
      if c == '_' then go true rest
      else (if raise && 'a' ≤ c && c ≤ 'z' then c.toUpper else c) :: go false rest
  String.ofList (go true field.toList)

/-- The option changes features. -/
def isFeatureSetting (s : Setting) : Bool :=
  s.name.head? == some ⟨"features", false⟩

/-- The message that holds the entries of a map field; the features of the field are those of the
keys and values too. -/
def mapEntryDecl (field : String) (key value : TypeRef) (options : List Setting) : MessageDecl :=
  let options := options.filter isFeatureSetting
  .mk (mapEntryName field)
    [{ name := "key", number := 1, type := key, options },
     { name := "value", number := 2, type := value, options }]
    [] [] [] [] [] [] [] [] {} true .unset

/-- The types of the keys and values of a map. -/
def mapTypes : Parser (TypeRef × TypeRef) := do
  consume "<"
  let key ← fieldType
  consume ","
  let value ← fieldType
  consume ">"
  match key, value with
  | some k, some v => return (k, v)
  | _, _ => throw .notAllowed

/-- Where a field stands. -/
structure FieldPlace where
  /-- The message that it extends. -/
  extendee : Option String := none
  /-- The position of the choice that it belongs to. -/
  oneofIndex : Option Nat := none

/-- The label of a field, if it is written. -/
def fieldLabel : Parser (Option Label) := do
  let inEdition := (← get).dialect.isEdition
  if ← tryConsume "repeated" then return some .repeated
  if ← tryConsume "optional" then
    if inEdition then throw .notAllowed
    return some .optional
  if ← tryConsume "required" then
    if inEdition then throw .notAllowed
    return some .required
  return none

/-- A map field after its keyword. -/
def mapField (place : FieldPlace) (label : Option Label) : Parser (FieldDecl × MessageDecl) := do
  if label.isSome || place.extendee.isSome || place.oneofIndex.isSome then throw .notAllowed
  let (key, value) ← mapTypes
  let name ← identifier
  consume "="
  let number ← integer
  let extras ← fieldOptions (some (.named ""))
  let doc ← endDeclaration ";"
  let entry := mapEntryDecl name key value extras.options
  return ({ name, number, label := .repeated, type := .named entry.name, default := extras.default,
            jsonName := extras.jsonName, options := extras.options, doc }, entry)

/-! ## Messages -/

/-- A message whose statements are being read. -/
structure MessageDraft where
  /-- The name. -/
  name : String
  /-- The comments. -/
  doc : Doc
  /-- The fields. -/
  fields : List FieldDecl := []
  /-- The nested messages. -/
  nested : List MessageDecl := []
  /-- The enumerations. -/
  enums : List EnumDecl := []
  /-- The extensions. -/
  extensions : List FieldDecl := []
  /-- The extension ranges. -/
  extensionRanges : List ExtensionRange := []
  /-- The choices. -/
  oneofs : List OneofDecl := []
  /-- The reserved ranges. -/
  reservedRanges : List (Nat × Option Nat) := []
  /-- The reserved names. -/
  reservedNames : List String := []
  /-- The options. -/
  options : List Setting := []
  /-- Which files may refer to it. -/
  visibility : Visibility := .unset

/-- Gives every field that says explicitly that it may be absent a choice of its own. -/
def MessageDraft.withPresence (d : MessageDraft) : MessageDraft :=
  let start := d.oneofs.length
  let (fields, count) := d.fields.foldl
    (fun (acc, k) f =>
      if f.explicitPresence then (acc ++ [{ f with oneofIndex := some (start + k) }], k + 1)
      else (acc ++ [f], k))
    ([], 0)
  let taken := d.fields.map (·.name) ++ d.oneofs.map (·.name)
  let names := ((d.fields.filter (·.explicitPresence)).map (·.name)).foldl
    (fun acc name =>
      let base := if name.startsWith "_" then name else "_" ++ name
      let rec free (n : Nat) (s : String) : String :=
        match n with
        | 0 => s
        | n + 1 => if (taken ++ acc).contains s then free n ("X" ++ s) else s
      acc ++ [free (taken.length + acc.length + 1) base])
    []
  { d with
    fields := if count == 0 then d.fields else fields
    oneofs := d.oneofs ++ names.map fun name => { name } }

/-- The message of a draft. -/
def MessageDraft.decl (d : MessageDraft) : MessageDecl :=
  .mk d.name d.fields d.nested d.enums d.extensions d.extensionRanges d.oneofs d.reservedRanges
    d.reservedNames d.options d.doc false d.visibility

/-- A bound of a range of field numbers; none stands for the greatest possible one.  A number must
follow it. -/
def fieldBound : Parser (Option Nat) := do
  let n ← integerUpTo (int32Max - 1)
  return some n

/-- A range of field numbers whose end is excluded. -/
def fieldRange : Parser (Nat × Option Nat) := do
  let (start, stop) ← range fieldBound none
  return (start.getD 0, stop.map (· + 1))

/-- Numbers or names that fields may not have. -/
def messageReserved (d : MessageDraft) : Parser MessageDraft := do
  consume "reserved"
  if (← lookingAtKind .text) || (← lookingAtKind .identifier) then
    let names ← reservedNames
    return { d with reservedNames := d.reservedNames ++ names }
  else
    let ranges ← commaList fieldRange (← fuel)
    let _ ← endDeclaration ";"
    return { d with reservedRanges := d.reservedRanges ++ ranges }

/-- Numbers for extensions. -/
def extensionRangesOf (d : MessageDraft) : Parser MessageDraft := do
  consume "extensions"
  let ranges ← commaList fieldRange (← fuel)
  let options ← optionList
  let _ ← endDeclaration ";"
  let ranges := ranges.map fun (start, stop) => ({ start, stop, options } : ExtensionRange)
  return { d with extensionRanges := d.extensionRanges ++ ranges }

/-- The name of a group starts with a capital. -/
def isGroupName (name : String) : Bool :=
  match name.toList with
  | c :: _ => 'A' ≤ c && c ≤ 'Z'
  | [] => false

mutual

/-- A field after its label, with the message that is declared along with it, if any. -/
def fieldAfterLabel (place : FieldPlace) (label : Option Label) :
    Nat → Nat → Parser (FieldDecl × Option MessageDecl)
  | 0, _ => throw .tooDeep
  | n + 1, depth => do
    let isMapWord ← tryConsume "map"
    if isMapWord && (← lookingAt "<") then
      let (f, entry) ← mapField place label
      return (f, some entry)
    else
      let dialect := (← get).dialect
      if label.isNone && place.oneofIndex.isNone && dialect == .proto2 then throw .unexpected
      let type ← if isMapWord then pure (some (TypeRef.named "map")) else fieldType
      let name ← identifier
      consume "="
      let number ← integer
      let extras ← fieldOptions type
      let field : FieldDecl :=
        { name, number, label := label.getD .optional, type := type.getD (.group name)
          extendee := place.extendee, oneofIndex := place.oneofIndex
          explicitPresence := label == some .optional && dialect == .proto3
          default := extras.default, jsonName := extras.jsonName, options := extras.options }
      match type with
      | some _ =>
        let doc ← endDeclaration ";"
        return ({ field with doc }, none)
      | none =>
        unless isGroupName name do throw .notAllowed
        let doc ← endDeclaration "\x7b"
        let draft ← messageBody n depth { name, doc }
        return ({ field with name := String.ofList (name.toList.map Char.toLower) },
          some draft.decl)
termination_by structural n => n

/-- The fields of a choice up to its end. -/
def oneofBody (index : Nat) : Nat → Nat → MessageDraft → List Setting →
    Parser (MessageDraft × List Setting)
  | 0, _, _, _ => throw .tooDeep
  | n + 1, depth, d, options => do
    let (d, options) ←
      if ← lookingAt "option" then do
        let s ← optionStatement
        pure (d, options ++ [s])
      else do
        if (← lookingAt "required") || (← lookingAt "optional") || (← lookingAt "repeated") then
          throw .notAllowed
        let (f, message) ← fieldAfterLabel { oneofIndex := some index } none n depth
        pure ({ d with fields := d.fields ++ [f], nested := d.nested ++ message.toList }, options)
    if (← tryEnd "\x7d").isSome then return (d, options)
    else oneofBody index n depth d options
termination_by structural n => n

/-- The fields of an extension block up to its end, with the messages declared along with them. -/
def extendBody (extendee : String) : Nat → Nat → List FieldDecl → List MessageDecl →
    Parser (List FieldDecl × List MessageDecl)
  | 0, _, _, _ => throw .tooDeep
  | n + 1, depth, fields, messages => do
    let label ← fieldLabel
    let (f, message) ← fieldAfterLabel { extendee := some extendee } label n depth
    let fields := fields ++ [f]
    let messages := messages ++ message.toList
    if (← tryEnd "\x7d").isSome then return (fields, messages)
    else extendBody extendee n depth fields messages
termination_by structural n => n

/-- The statements of a message up to its end; `depth` bounds the nesting of messages below it. -/
def messageBody : Nat → Nat → MessageDraft → Parser MessageDraft
  | 0, _, _ => throw .tooDeep
  | n + 1, depth, d => do
    if (← tryEnd "\x7d").isSome then return d
    if (← tryEnd ";").isSome then messageBody n depth d
    else
    let visibility ← visibilityWord
    if ← lookingAt "message" then
      let m ← messageDeclaration visibility n depth
      messageBody n depth { d with nested := d.nested ++ [m] }
    else if ← lookingAt "enum" then
      let e ← enumDeclaration visibility
      messageBody n depth { d with enums := d.enums ++ [e] }
    else if ← lookingAt "extensions" then
      let d ← extensionRangesOf d
      messageBody n depth d
    else if ← lookingAt "reserved" then
      let d ← messageReserved d
      messageBody n depth d
    else if ← lookingAt "extend" then
      advance
      let extendee ← userType
      let _ ← endDeclaration "\x7b"
      let (fields, messages) ← extendBody extendee n depth [] []
      messageBody n depth
        { d with extensions := d.extensions ++ fields, nested := d.nested ++ messages }
    else if ← lookingAt "option" then
      let s ← optionStatement
      messageBody n depth { d with options := d.options ++ [s] }
    else if ← lookingAt "oneof" then
      advance
      let name ← identifier
      let _ ← endDeclaration "\x7b"
      let index := d.oneofs.length
      let (d, options) ← oneofBody index n depth { d with oneofs := d.oneofs ++ [{ name }] } []
      messageBody n depth
        { d with oneofs := d.oneofs.set index { name, options } }
    else
      let label ← fieldLabel
      let (f, message) ← fieldAfterLabel {} label n depth
      messageBody n depth { d with fields := d.fields ++ [f], nested := d.nested ++ message.toList }
termination_by structural n => n

/-- A message. -/
def messageDeclaration (visibility : Visibility) : Nat → Nat → Parser MessageDecl
  | 0, _ => throw .tooDeep
  | _, 0 => throw .tooDeep
  | n + 1, depth + 1 => do
    consume "message"
    let name ← identifier
    let doc ← endDeclaration "\x7b"
    let draft ← messageBody n depth { name, doc, visibility }
    let dialect := (← get).dialect
    return (if dialect == .proto3 then draft.withPresence else draft).decl
termination_by structural n => n

end

/-! ## Services -/

/-- The type of a request or response in parentheses. -/
def methodType : Parser String := do
  consume "("
  let _ ← tryConsume "stream"
  let name ← userType
  consume ")"
  return name

/-- The options of a method up to the end of its body. -/
def methodBody : Nat → List Setting → Parser (List Setting)
  | 0, _ => throw .unexpected
  | n + 1, options => do
    if (← tryEnd "\x7d").isSome then return options
    if (← tryEnd ";").isSome then methodBody n options
    else
      let s ← optionStatement
      methodBody n (options ++ [s])

/-- A method of a service. -/
def method : Parser MethodDecl := do
  consume "rpc"
  let name ← identifier
  let input ← methodType
  consume "returns"
  let output ← methodType
  match ← tryEnd "\x7b" with
  | some doc =>
    let options ← methodBody (← fuel) []
    return { name, input, output, options, doc }
  | none =>
    let doc ← endDeclaration ";"
    return { name, input, output, doc }

/-- The statements of a service up to its end. -/
def serviceBody : Nat → ServiceDecl → Parser ServiceDecl
  | 0, _ => throw .unexpected
  | n + 1, s => do
    if (← tryEnd "\x7d").isSome then return s
    if (← tryEnd ";").isSome then serviceBody n s
    else if ← lookingAt "option" then
      let o ← optionStatement
      serviceBody n { s with options := s.options ++ [o] }
    else
      let m ← method
      serviceBody n { s with methods := s.methods ++ [m] }

/-- A service. -/
def service : Parser ServiceDecl := do
  consume "service"
  let name ← identifier
  let doc ← endDeclaration "\x7b"
  serviceBody (← fuel) { name, doc }

/-! ## Files -/

/-- The greatest depth of nested messages. -/
def nestingLimit : Nat := 31

/-- The statement that names the dialect, if it comes first. -/
def dialect : Parser Dialect := do
  if ← tryConsume "edition" then
    consume "="
    let name ← textString
    let _ ← endDeclaration ";"
    if name == "2023" then return .edition2023
    else if name == "2024" then return .edition2024
    else throw .unknownDialect
  else if ← tryConsume "syntax" then
    consume "="
    let name ← textString
    let _ ← endDeclaration ";"
    if name == "proto2" then return .proto2
    else if name == "proto3" then return .proto3
    else throw .unknownDialect
  else return .proto2

/-- An import statement. -/
def importStatement : Parser (String × ImportKind) := do
  consume "import"
  let kind ←
    if ← tryConsume "public" then pure ImportKind.forwarded
    else if ← tryConsume "weak" then pure ImportKind.weak
    else if ← tryConsume "option" then pure ImportKind.forOptions
    else pure ImportKind.plain
  let isLatest := (← get).dialect == .edition2024
  if isLatest && kind == .weak || !isLatest && kind == .forOptions then throw .notAllowed
  let path ← textString
  let _ ← endDeclaration ";"
  return (path, kind)

/-- The statements of a file up to its end.  Imports for options come after all others. -/
def fileBody : Nat → FileDecl → Parser FileDecl
  | 0, _ => throw .unexpected
  | n + 1, f => do
    if ← lookingAtKind .finish then return f
    if (← tryEnd ";").isSome then fileBody n f
    else
    let visibility ← visibilityWord
    if ← lookingAt "message" then
      let m ← messageDeclaration visibility (2 * (← fuel)) nestingLimit
      fileBody n { f with messages := f.messages ++ [m] }
    else if ← lookingAt "enum" then
      let e ← enumDeclaration visibility
      fileBody n { f with enums := f.enums ++ [e] }
    else if ← lookingAt "service" then
      let s ← service
      fileBody n { f with services := f.services ++ [s] }
    else if ← lookingAt "extend" then
      advance
      let extendee ← userType
      let _ ← endDeclaration "\x7b"
      let (fields, messages) ← extendBody extendee (2 * (← fuel)) nestingLimit [] []
      fileBody n
        { f with extensions := f.extensions ++ fields, messages := f.messages ++ messages }
    else if ← lookingAt "import" then
      let i ← importStatement
      if i.2 != .forOptions && f.imports.any (·.2 == .forOptions) then throw .notAllowed
      fileBody n { f with imports := f.imports ++ [i] }
    else if ← lookingAt "package" then
      unless f.package.isEmpty do throw .notAllowed
      advance
      let first ← identifier
      let rest ← dottedRest (← fuel)
      let _ ← endDeclaration ";"
      fileBody n { f with package := ".".intercalate (first :: rest) }
    else if ← lookingAt "option" then
      let s ← optionStatement
      fileBody n { f with options := f.options ++ [s] }
    else throw .unexpected

/-- A file with a given name. -/
def file (name : String) : Parser FileDecl := do
  let d ← dialect
  modify fun s => { s with dialect := d }
  fileBody (← fuel) { name, dialect := d }

end Parser

/-- The declarations of a source with a given name. -/
def parseFile (name : String) (source : List Char) : Except ParseError FileDecl :=
  match tokenize source with
  | .error e => .error (.lexical e)
  | .ok tokens =>
    let upcoming := ((tokens.head?).map (·.comments.leading)).getD ""
    ((Parser.file name).run { tokens, upcoming }).map (·.1)

end TypedFetch.Proto
