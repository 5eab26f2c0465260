import TypedFetch.Proto.Wire

/-!
# Values of options

The options of a declaration are fields of a message.  An option names a field, or leads through
the fields of nested messages to one, and gives it a value that fits its type.  The value of a
message is written in the text format: fields with values, one after the other.
-/

namespace TypedFetch.Proto

/-! ## Values in the text format -/

namespace TextFormat

open TypedFetch.Proto.Parser

/-- The value of an enumeration with a given name. -/
def namedChoice (s : Scope) (enum name : String) : Option OptionValue :=
  ((s.enum? enum).bind fun e => e.values.lookup name).map .choice

/-- An integer that fits a built-in type. -/
def fittingInteger (limit : Nat) (negativeLimit : Option Nat) : Parser OptionValue := do
  if ← tryConsume "-" then
    match negativeLimit with
    | some l => return .int (-(← integerUpTo l : Int))
    | none => throw .unexpected
  else return .int (← integerUpTo limit)

/-- A number that need not be an integer. -/
def realNumber : Parser OptionValue := do
  let negative ← tryConsume "-"
  let t ← current
  let x ←
    if t.kind == .identifier then
      let word := String.ofList (t.chars.map Char.toLower)
      advance
      if word == "inf" || word == "infinity" then pure (1.0 / 0.0)
      else if word == "nan" then pure (0.0 / 0.0)
      else throw .unexpected
    else if t.kind == .integer && 1 < t.chars.length && t.chars.head? == some '0' then
      throw .unexpected
    else number
  return .real (if negative then -x else x)

/-- The nearest number of single precision. -/
def narrowed : OptionValue → OptionValue
  | .real x => .real x.toFloat32.toFloat
  | v => v

/-- The words for truth values. -/
def truthWords : List (String × Bool) :=
  [("true", true), ("True", true), ("t", true), ("false", false), ("False", false), ("f", false)]

/-- A truth value. -/
def truthValue : Parser OptionValue := do
  if ← lookingAtKind .integer then
    let n ← integerUpTo 1
    return .bool (n == 1)
  else
    let word ← identifier
    match truthWords.lookup word with
    | some b => return .bool b
    | none => throw .unexpected

/-- A value of a built-in type. -/
def scalarValue (t : Scalar) : Parser OptionValue :=
  match integerLimits t with
  | some (limit, negativeLimit) => fittingInteger limit negativeLimit
  | none =>
    match t with
    | .bool => truthValue
    | .string => .bytes <$> text
    | .bytes => .bytes <$> text
    | .float => narrowed <$> realNumber
    | _ => realNumber

/-- A value of an enumeration, by name or by number. -/
def choiceValue (s : Scope) (f : FieldInfo) : Parser OptionValue := do
  if ← lookingAtKind .identifier then
    let name ← identifier
    match namedChoice s f.typeName name with
    | some v => return v
    | none => throw .unexpected
  else
    let number ← signedInteger
    match s.enum? f.typeName with
    | some e =>
      if e.isOpen && !f.closesEnum || e.values.any (·.2 == number) then return .choice number
      else throw .unexpected
    | none => throw .unexpected

/-! ### Fields -/

/-- What the value of a field is for. -/
inductive FieldTarget where
  | field (f : FieldInfo)
  /-- The name is reserved; the value is passed over. -/
  | reserved
  /-- A message of any type: the address of the type, and the full name of the message. -/
  | anyValue (address message : String)

/-- The message that can hold any other. -/
def anyMessage : String := "google.protobuf.Any"

/-- What the addresses of types start with. -/
def addressHeads : List String := ["type.googleapis.com/", "type.googleprod.com/"]

/-- What comes before the last point of a name. -/
def scopeOfName (name : String) : String :=
  ".".intercalate (((Text.cutAt '.' name.toList).map String.ofList).dropLast)

/-- What comes after the last point of a name. -/
def lastName (name : String) : String :=
  String.ofList (Text.afterLast '.' name.toList)

/-- Names with points between them. -/
def dottedName : Parser String := do
  let first ← identifier
  let rest ← dottedRest (← fuel)
  return ".".intercalate (first :: rest)

/-- The address of a type after its opening bracket. -/
def typeAddress (s : Scope) : Parser FieldTarget := do
  let head ← dottedName
  consume "/"
  let message ← dottedName
  consume "]"
  if addressHeads.contains (head ++ "/") && s.inOptions.find? message == some .message then
    return .anyValue (head ++ "/" ++ message) message
  else throw .unexpected

/-- The field is written like a group: its name is the name of its type in small letters, and both
stand in the same place. -/
def isGroupLike (f : FieldInfo) : Bool :=
  f.kind == .group && f.name == String.ofList ((lastName f.typeName).toList.map Char.toLower) &&
    scopeOfName f.typeName == scopeOfName f.fullName

/-- The field of a message with a given name; a group may be called by the name of its type. -/
def namedField (s : Scope) (message name : String) : Option FieldInfo :=
  let fields := s.fieldsOf message
  (fields.find? (·.name == name)).or
    (fields.find? fun f => isGroupLike f && lastName f.typeName == name)

/-- The field that comes next in a message. -/
def fieldReference (s : Scope) (message : String) : Parser FieldTarget := do
  if ← tryConsume "[" then
    if message == anyMessage then typeAddress s
    else
      let name ← dottedName
      consume "]"
      match s.fieldNamed? (scopeOfName message) name with
      | some f => if f.owner == message then return .field f else throw .unexpected
      | none => throw .unexpected
  else
    let name ← identifier
    match namedField s message name with
    | some f => return .field f
    | none =>
      if ((s.message? message).map (·.reservedNames.contains name)).getD false then
        return .reserved
      else throw .unexpected

/-- A field may be set beside those that are set already. -/
def mayFollow (f : FieldInfo) (earlier : SetFields) : Bool :=
  f.label == .repeated ||
    earlier.all fun (g, _) =>
      g.fullName != f.fullName &&
        (f.oneofIndex.isNone || f.isExtension || g.isExtension || g.oneofIndex != f.oneofIndex)

/-- All fields that must be set are set. -/
def isComplete (s : Scope) (message : String) (fields : SetFields) : Bool :=
  (s.fieldsOf message).all fun f =>
    !f.isRequired || fields.any fun (g, _) => g.fullName == f.fullName

/-- Adds values of a field; what cannot be told from an absent field is left out. -/
def addValues (earlier : SetFields) (f : FieldInfo) (values : List OptionValue) : SetFields :=
  let kept := values.filter fun v => f.label == .repeated || f.hasPresence || !v.isDefault
  earlier ++ kept.map (f, ·)

/-- Adds a message of any type. -/
def addAny (s : Scope) (earlier : SetFields) (address : String) (fields : SetFields) :
    Parser SetFields := do
  match s.fieldsOf anyMessage with
  | [address', value] =>
    unless mayFollow address' earlier && mayFollow value earlier do throw .unexpected
    let bytes := Wire.writeFields fields
    return addValues (addValues earlier address' [.bytes (Text.bytesOf address)]) value
      [.bytes bytes]
  | _ => throw .unexpected

/-! ### Values that are passed over -/

/-- Passes over names with points and slashes between them. -/
def skipAddress : Nat → Parser Unit
  | 0 => throw .unexpected
  | n + 1 => do
    let _ ← identifier
    if (← tryConsume ".") || (← tryConsume "/") then skipAddress n

/-- Opens a message; gives the text that closes it. -/
def openMessage : Parser String := do
  if ← tryConsume "<" then return ">"
  else
    consume "\x7b"
    return "\x7d"

/-- A message comes next. -/
def lookingAtMessage : Parser Bool := do
  return (← lookingAt "\x7b") || (← lookingAt "<")

/-- Passes over a value that is neither a list nor a message. -/
def skipScalar : Parser Unit := do
  if ← lookingAtKind .text then
    let _ ← text
  else
    let negative ← tryConsume "-"
    let t ← current
    match t.kind with
    | .integer => advance
    | .decimal => advance
    | .identifier =>
      let word := String.ofList (t.chars.map Char.toLower)
      if negative && !(["inf", "infinity", "nan"].contains word) then throw .unexpected
      advance
    | _ => throw .unexpected

mutual

/-- Passes over the value of a field after its name. -/
def skipFieldValue : Nat → Parser Unit
  | 0 => throw .tooDeep
  | n + 1 => do
    if ← tryConsume ":" then
      if ← lookingAtMessage then skipMessage n else skipValue n
    else skipMessage n
termination_by structural n => n

/-- Passes over a message. -/
def skipMessage : Nat → Parser Unit
  | 0 => throw .tooDeep
  | n + 1 => do
    let close ← openMessage
    skipFields n
    consume close
termination_by structural n => n

/-- Passes over fields up to the end of their message. -/
def skipFields : Nat → Parser Unit
  | 0 => throw .tooDeep
  | n + 1 => do
    if (← lookingAt ">") || (← lookingAt "\x7d") then return
    if ← tryConsume "[" then
      skipAddress (← fuel)
      consume "]"
    else
      let _ ← identifier
    skipFieldValue n
    unless ← tryConsume ";" do
      let _ ← tryConsume ","
    skipFields n
termination_by structural n => n

/-- Passes over a value. -/
def skipValue : Nat → Parser Unit
  | 0 => throw .tooDeep
  | n + 1 => do
    if ← tryConsume "[" then
      unless ← tryConsume "]" do skipList n
    else skipScalar
termination_by structural n => n

/-- Passes over the values of a list up to its end. -/
def skipList : Nat → Parser Unit
  | 0 => throw .tooDeep
  | n + 1 => do
    if ← lookingAtMessage then skipMessage n else skipValue n
    unless ← tryConsume "]" do
      consume ","
      skipList n
termination_by structural n => n

end

/-! ### Messages -/

mutual

/-- The fields of a message up to its end; `close` is the text that ends it, if any does. -/
def messageFields (s : Scope) (message : String) (close : Option String) :
    Nat → SetFields → Parser SetFields
  | 0, _ => throw .tooDeep
  | n + 1, earlier => do
    let finished ←
      match close with
      | some c => tryConsume c
      | none => lookingAtKind .finish
    if finished then
      if isComplete s message earlier then return earlier else throw .unexpected
    else
      let next ←
        match ← fieldReference s message with
        | .reserved => do
          skipFieldValue n
          pure earlier
        | .anyValue address inner => do
          let _ ← tryConsume ":"
          let close ← openMessage
          let fields ← messageFields s inner (some close) n []
          addAny s earlier address fields
        | .field f => do
          unless mayFollow f earlier do throw .unexpected
          if f.isMessage then
            let _ ← tryConsume ":"
          else consume ":"
          let values ←
            if f.label == .repeated && (← lookingAt "[") then do
              advance
              if ← tryConsume "]" then pure [] else valueList s f n
            else do
              let v ← fieldValue s f n
              pure [v]
          unless ← tryConsume ";" do
            let _ ← tryConsume ","
          pure (addValues earlier f values)
      messageFields s message close n next
termination_by structural n => n

/-- The values of a list up to its end. -/
def valueList (s : Scope) (f : FieldInfo) : Nat → Parser (List OptionValue)
  | 0 => throw .tooDeep
  | n + 1 => do
    let v ← fieldValue s f n
    if ← tryConsume "]" then return [v]
    else
      consume ","
      let rest ← valueList s f n
      return v :: rest
termination_by structural n => n

/-- One value of a field. -/
def fieldValue (s : Scope) (f : FieldInfo) : Nat → Parser OptionValue
  | 0 => throw .tooDeep
  | n + 1 => do
    match f.kind with
    | .scalar t => scalarValue t
    | .enumeration => choiceValue s f
    | _ =>
      let close ← openMessage
      let fields ← messageFields s f.typeName (some close) n []
      return .message fields
termination_by structural n => n

end

/-- The value of a message from the tokens between its braces.  A number sign hides everything
after it. -/
def parseMessage (s : Scope) (message : String) (tokens : List Token) : Option OptionValue :=
  let tokens := tokens.takeWhile fun t => t.chars != ['#']
  match (messageFields s message none (3 * tokens.length + 3) []).run { tokens } with
  | .ok (fields, _) => some (.message fields)
  | .error _ => none

end TextFormat

/-! ## Options -/

/-- A number that need not be an integer as one of a built-in type. -/
def realLiteral (t : Scalar) (x : Float) : Option OptionValue :=
  match t with
  | .double => some (.real x)
  | .float => some (TextFormat.narrowed (.real x))
  | _ => none

/-- The value of an option as one of a field. -/
def literalValue (s : Scope) (f : FieldInfo) (value : Literal) : Option OptionValue :=
  match f.kind, value with
  | .scalar .bool, .identifier word =>
    if word == "true" then some (.bool true)
    else if word == "false" then some (.bool false)
    else none
  | .scalar .string, .text bytes => some (.bytes bytes)
  | .scalar .bytes, .text bytes => some (.bytes bytes)
  | .scalar t, .natural n =>
    match Parser.integerLimits t with
    | some (limit, _) => if n ≤ limit then some (.int n) else none
    | none => realLiteral t (Float.ofNat n)
  | .scalar t, .negative n =>
    match Parser.integerLimits t with
    | some (_, limit) => limit.bind fun l => if n ≤ l then some (.int (-(n : Int))) else none
    | none => realLiteral t (Float.ofInt (-(n : Int)))
  | .scalar t, .decimal x => realLiteral t x
  | .scalar t, .identifier word =>
    if word == "inf" then realLiteral t (1.0 / 0.0)
    else if word == "nan" then realLiteral t (0.0 / 0.0)
    else none
  | .enumeration, .identifier word => TextFormat.namedChoice s f.typeName word
  | .message, .aggregate tokens => TextFormat.parseMessage s f.typeName tokens
  | .group, .aggregate tokens => TextFormat.parseMessage s f.typeName tokens
  | _, _ => none

/-- The field that a part of a name denotes in a message. -/
def Scope.optionField (s : Scope) (scope message : String) (part : NamePart) :
    Except CompileError FieldInfo :=
  let found :=
    if part.isExtension then s.fieldNamed? scope part.name
    else (s.fieldsOf message).find? (·.name == part.name)
  match found with
  | some f => if f.owner == message then .ok f else .error (.badOption part.name)
  | none => .error (.badOption part.name)

/-- The fields that the parts of a name lead through, the last one of which takes the value. -/
def Scope.optionPath (s : Scope) (scope : String) :
    String → List NamePart → Except CompileError (List FieldInfo × FieldInfo)
  | _, [] => .error (.badOption "")
  | message, [part] => (s.optionField scope message part).map fun f => ([], f)
  | message, part :: rest => do
    let f ← s.optionField scope message part
    if !f.isMessage || f.label == .repeated then throw (.badOption part.name)
    let (path, last) ← s.optionPath scope f.typeName rest
    return (f :: path, last)

/-- The field at the end of a path is set. -/
def isSet (fields : SetFields) : List FieldInfo → FieldInfo → Bool
  | [], f => fields.any fun (g, _) => g.number == f.number
  | step :: path, f =>
    fields.any fun
      | (g, .message inner) => g.number == step.number && isSet inner path f
      | _ => false

/-- A value inside the messages of a path. -/
def nestValue (f : FieldInfo) (v : OptionValue) : List FieldInfo → FieldInfo × OptionValue
  | [] => (f, v)
  | step :: path => (step, .message [nestValue f v path])

/-- The name of an option that holds what was not interpreted. -/
def reservedOption : String := "uninterpreted_option"

/-- The file itself declares the field. -/
def Scope.declaresField (s : Scope) (f : FieldInfo) : Bool :=
  ((s.pool.symbols[f.fullName]?).map (·.file)) == s.visible.head?

/-- Adds an option to those that are set already.  A feature serves other files only. -/
def Scope.addSetting (s : Scope) (scope message : String) (earlier : SetFields)
    (setting : Setting) : Except CompileError SetFields := do
  if (setting.name.head?.map (·.name)) == some reservedOption then throw (.badOption reservedOption)
  let (path, f) ← s.optionPath scope message setting.name
  if Parser.isFeatureSetting setting && (path ++ [f]).any s.declaresField then
    throw (.badOption f.fullName)
  if f.label != .repeated && isSet earlier path f then throw (.badOption f.fullName)
  match literalValue s f setting.value with
  | some v => return earlier ++ [nestValue f v path]
  | none => throw (.badOption f.fullName)

mutual

/-- All fields of a value may be set on a kind of declaration. -/
def OptionValue.suits (word : String) : OptionValue → Bool
  | .message fields => fieldsSuit word fields
  | _ => true

/-- All fields of a list may be set on a kind of declaration. -/
def fieldsSuit (word : String) : List (FieldInfo × OptionValue) → Bool
  | [] => true
  | (f, v) :: rest =>
    (f.targets.isEmpty || f.targets.contains word) && v.suits word && fieldsSuit word rest

end

/-- The options of a declaration that stands in a scope. -/
def Scope.options (s : Scope) (target : OptionTarget) (scope : String) (settings : List Setting) :
    Except CompileError SetFields :=
  settings.foldlM (s.addSetting scope target.optionsMessage) []

end TypedFetch.Proto
