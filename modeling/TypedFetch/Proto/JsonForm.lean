import TypedFetch.Http.Binding
import TypedFetch.Proto.Wire
import TypedFetch.Text.Base64
import TypedFetch.Text.LetterCase

/-!
# Messages as JSON values

A message becomes a mapping with text keys: a field stands under its name in JSON texts, an
extension with one value under its full name in brackets.  Integers of 64 bits and bytes become
texts.  A few messages have a form of their own: spans and points of time and masks are texts,
wrappers stand for what they wrap, and dynamic values for what they hold.
-/

namespace TypedFetch.Proto

/-! ## Messages put together -/

/-- The two fields belong to the same choice. -/
def sameChoice (f g : FieldInfo) : Bool :=
  f.oneofIndex.isSome && f.oneofIndex == g.oneofIndex && !f.isExtension && !g.isExtension

/-- Leaves out what another field of the same choice replaced later. -/
def lastChoices : SetFields → SetFields
  | [] => []
  | (f, v) :: rest =>
    if rest.any fun (g, _) => sameChoice f g && g.fullName != f.fullName then lastChoices rest
    else (f, v) :: lastChoices rest

/-- The fields that are set, by their numbers. -/
def fieldOrder (fields : SetFields) : List FieldInfo :=
  (fields.map (·.1)).eraseDups.mergeSort fun f g => f.number ≤ g.number

/-- Puts together the fields of a message that were set several times: a list keeps all values, a
message is made of all of them, and otherwise the last value counts.  What cannot be told from an
absent field is left out.  `depth` bounds how deeply messages are nested. -/
def settle : Nat → SetFields → SetFields
  | 0, fields => fields
  | depth + 1, fields =>
    let kept := lastChoices fields
    (fieldOrder kept).flatMap fun f =>
      let values := (kept.filter (·.1 == f)).map (·.2)
      if f.label == .repeated then
        values.map fun
          | .message inner => (f, .message (settle depth inner))
          | v => (f, v)
      else if f.isMessage then
        [(f, .message (settle depth (values.flatMap OptionValue.inner)))]
      else
        match values.getLast? with
        | some v => if f.hasPresence || !v.isDefault then [(f, v)] else []
        | none => []

/-- Reads a message from its bytes and puts it together. -/
def readSettled (s : Scope) (message : String) (above : Nat) (bytes : List UInt8) :
    Except OptionFault SetFields :=
  match Wire.read s message above bytes with
  | .ok fields => .ok (settle (bytes.length + 1) fields)
  | .error _ => .error (.malformed message)

/-! ## Values that are no messages -/

/-- The key under which a field with one value stands. -/
def FieldInfo.key (f : FieldInfo) : String :=
  if f.isExtension then "[" ++ f.fullName ++ "]" else f.jsonName

/-- The integers of the type have 64 bits. -/
def Scalar.isLong (t : Scalar) : Bool :=
  [Scalar.int64, .uint64, .fixed64, .sfixed64, .sint64].contains t

/-- A number that need not be an integer. -/
def realForm (f : FieldInfo) (x : Float) : Value :=
  if x.isNaN then .text "NaN"
  else if x.isInf then .text (if 0.0 < x then "Infinity" else "-Infinity")
  else .double (if f.kind == .scalar .float then Number.single x else x)

/-- Bytes as a text of digits to base 64. -/
def base64Text (bytes : List UInt8) : String :=
  let standard (c : Char) : Char := if c == '-' then '+' else if c == '_' then '/' else c
  String.ofList (Text.Base64.pad ((Text.Base64.encodeUrl bytes).map standard))

/-- A text from its bytes; bytes that are not valid UTF-8 are shown as bytes. -/
def decodedText (bytes : List UInt8) : String :=
  match Text.decodeUtf8 bytes with
  | .ok cs => String.ofList cs
  | .error _ => Value.quotedBytes bytes

/-- The enumeration whose only value stands for the absence of one. -/
def nullEnum : String := "google.protobuf.NullValue"

/-- A value that is no message. -/
def scalarForm (s : Scope) (f : FieldInfo) : OptionValue → Value
  | .bool b => .bool b
  | .real x => realForm f x
  | .int i =>
    match f.kind with
    | .scalar t => if t.isLong then .text (toString i) else .int i
    | _ => .int i
  | .bytes bs => .text (if f.kind == .scalar .bytes then base64Text bs else decodedText bs)
  | .choice n =>
    if f.typeName == nullEnum then .null
    else
      let name := (s.enum? f.typeName).bind fun e => e.values.find? (·.2 == n)
      (name.map fun (name, _) => Value.text name).getD (.int n)
  | .message _ => .null
  | .unread _ => .null

/-- The value of an absent field of a built-in type. -/
def absentValue (f : FieldInfo) : OptionValue :=
  match f.kind with
  | .scalar .bool => .bool false
  | .scalar .double => .real 0.0
  | .scalar .float => .real 0.0
  | .scalar .string => .bytes []
  | .scalar .bytes => .bytes []
  | .enumeration => .choice 0
  | .message => .message []
  | .group => .message []
  | _ => .int 0

/-- The text of a key of a map. -/
def keyText : Value → String
  | .bool b => if b then "true" else "false"
  | v => v.display

/-! ## Messages with a form of their own -/

/-- The integer that a field holds. -/
def integerNamed (fields : SetFields) (name : String) : Int :=
  match (valuesNamed fields name).getLast? with
  | some (.int i) => i
  | _ => 0

/-- A fraction of a second in three, six or nine digits, as many as it needs; none if it is
zero. -/
def nanosText (nanos : Nat) : String :=
  if nanos == 0 then ""
  else if nanos % 1000000 == 0 then "." ++ Time.padded 3 (nanos / 1000000)
  else if nanos % 1000 == 0 then "." ++ Time.padded 6 (nanos / 1000)
  else "." ++ Time.padded 9 nanos

/-- The greatest number of seconds of a span of time. -/
def spanLimit : Nat := 315576000000

/-- A span of time. -/
def spanForm (fields : SetFields) : Except ValueFault Value :=
  let seconds := integerNamed fields "seconds"
  let nanos := integerNamed fields "nanos"
  if spanLimit < seconds.natAbs then .error (.spanSeconds seconds)
  else if 999999999 < nanos.natAbs then .error (.spanNanos nanos)
  else if (nanos < 0 && 0 < seconds) || (0 < nanos && seconds < 0) then .error .spanSigns
  else
    let sign := if seconds < 0 || nanos < 0 then "-" else ""
    .ok (.text (sign ++ toString seconds.natAbs ++ nanosText nanos.natAbs ++ "s"))

/-- A point in time. -/
def timeForm (fields : SetFields) : Except ValueFault Value :=
  let seconds := integerNamed fields "seconds"
  let nanos := integerNamed fields "nanos"
  if seconds < -62135596800 || 253402300799 < seconds then .error (.timeSeconds seconds)
  else if nanos < 0 || 999999999 < nanos then .error (.timeNanos nanos)
  else
    let date := Time.Date.ofDays (seconds / 86400)
    .ok (.text (date.text ++ "T" ++ Time.clockText (seconds % 86400).toNat 0 ++
      nanosText nanos.toNat ++ "Z"))

/-- A path of a mask: a letter after an underscore is raised, and underscores are dropped. -/
def maskPath (path : String) : Bool → List Char → Except ValueFault (List Char)
  | raise, [] => if raise then .error (.underscoreAtEnd path) else .ok []
  | raise, c :: rest =>
    if Text.isUpper c then .error (.capitalInPath path)
    else if raise then
      if Text.isLower c then (maskPath path false rest).map (Text.upperOf c ++ ·)
      else .error (.noLetterAfterUnderscore path)
    else if c == '_' then maskPath path true rest
    else (maskPath path false rest).map (c :: ·)

/-- A mask of fields. -/
def maskForm (fields : SetFields) : Except ValueFault Value := do
  let paths ← (valuesNamed fields "paths").mapM fun
    | .bytes bs => let path := decodedText bs; maskPath path false path.toList
    | _ => .ok []
  return .text (",".intercalate (paths.map String.ofList))

/-- The messages that have a form of their own. -/
inductive OwnForm where
  /-- The one value that the message wraps. -/
  | wrapped
  | span
  | time
  | mask
  /-- A dynamic value. -/
  | dynamic
  /-- A list of dynamic values. -/
  | dynamicList
  /-- A mapping to dynamic values. -/
  | dynamicMap
  /-- A message of any type. -/
  | any
deriving Repr, BEq, DecidableEq

/-- The schema of the messages that wrap one value. -/
def wrapperSchema : String := "google/protobuf/wrappers.proto"

/-- The messages with a form of their own by full name. -/
def ownForms : List (String × OwnForm) :=
  [("google.protobuf.Duration", .span), ("google.protobuf.Timestamp", .time),
   ("google.protobuf.FieldMask", .mask), ("google.protobuf.Value", .dynamic),
   ("google.protobuf.ListValue", .dynamicList), ("google.protobuf.Struct", .dynamicMap),
   ("google.protobuf.Any", .any)]

/-- The form of its own that a message has. -/
def Scope.ownForm? (s : Scope) (message : String) : Option OwnForm :=
  if (s.pool.symbols[message]?).map (·.file) == some wrapperSchema then some .wrapped
  else ownForms.lookup message

/-- A number of a dynamic value. -/
def dynamicNumber (x : Float) : Except OptionFault Value :=
  if x.isNaN then .error (.value .notANumber)
  else if x.isInf then .error (.value .infinite)
  else .ok (.double x)

/-- The value of a part of a map entry. -/
def entryPart (s : Scope) (f : FieldInfo) (entry : OptionValue) (name : String) :
    FieldInfo × OptionValue :=
  match (s.fieldsOf f.typeName).find? (·.name == name) with
  | some part => (part, ((valuesNamed entry.inner name).getLast?).getD (absentValue part))
  | none => (f, .message [])

/-! ## Messages -/

mutual

/-- The form of a message; `fuel` bounds how deeply messages are nested in it. -/
def messageForm (s : Scope) (message : String) : Nat → SetFields → Except OptionFault Value
  | 0, _ => .ok .null
  | fuel + 1, fields =>
    match s.ownForm? message with
    | none => (entryForms s fuel fields).map .map
    | some form => ownForm s message form fuel fields
termination_by structural n => n

/-- The form of a message that has one of its own. -/
def ownForm (s : Scope) (message : String) (form : OwnForm) :
    Nat → SetFields → Except OptionFault Value
  | 0, _ => .ok .null
  | fuel + 1, fields =>
    match form with
    | .span => (spanForm fields).mapError .value
    | .time => (timeForm fields).mapError .value
    | .mask => (maskForm fields).mapError .value
    | .wrapped =>
      match (s.fieldsOf message).head? with
      | some f => .ok (scalarForm s f (((valuesNamed fields f.name).getLast?).getD (absentValue f)))
      | none => .ok .null
    | .dynamic =>
      match fields.getLast? with
      | some (f, v) =>
        match v with
        | .message inner => messageForm s f.typeName fuel inner
        | .real x => dynamicNumber x
        | v => .ok (scalarForm s f v)
      | none => .ok .null
    | .dynamicList =>
      ((valuesNamed fields "values").mapM fun v =>
        messageForm s "google.protobuf.Value" fuel v.inner).map .list
    | .dynamicMap =>
      match (s.fieldsOf message).head? with
      | some f => mapForm s f fuel (valuesNamed fields f.name)
      | none => .ok (.map [])
    | .any => anyForm s fuel fields
termination_by structural n => n

/-- The form of a message of any type. -/
def anyForm (s : Scope) : Nat → SetFields → Except OptionFault Value
  | 0, _ => .ok .null
  | fuel + 1, fields =>
    if fields.isEmpty then .ok (.map [])
    else
      let part (name : String) : List UInt8 :=
        match (valuesNamed fields name).getLast? with
        | some (.bytes bs) => bs
        | _ => []
      let address := decodedText (part "type_url")
      let message := String.ofList (Text.afterLast '/' address.toList)
      let head := (Value.text "@type", Value.text address)
      if (s.message? message).isNone then .error (.unknownType address)
      else do
        let inner ← readSettled s message 0 (part "value")
        match s.ownForm? message with
        | some form =>
          let v ← ownForm s message form fuel inner
          return .ordered [head, (.text "value", v)]
        | none =>
          let entries ← entryForms s fuel inner
          return .ordered (Value.collect (head :: entries))
termination_by structural n => n

/-- The entries for the fields of a message. -/
def entryForms (s : Scope) : Nat → SetFields → Except OptionFault (List (Value × Value))
  | 0, _ => .ok []
  | fuel + 1, fields => do
    let known := fields.filter fun
      | (_, .unread _) => false
      | _ => true
    let entries ← (fieldOrder known).mapM fun f =>
      let values := (known.filter (·.1 == f)).map (·.2)
      Except.mapError (OptionFault.within f.name) do
        if s.isMap f then
          let v ← mapForm s f fuel values
          return (Value.text f.jsonName, v)
        else if f.label == .repeated then
          let items ← values.mapM (valueForm s f fuel)
          return (Value.text f.jsonName, .list items)
        else
          let v ← valueForm s f fuel ((values.getLast?).getD (absentValue f))
          return (Value.text f.key, v)
    return Value.collect entries
termination_by structural n => n

/-- The form of a map from its entries. -/
def mapForm (s : Scope) (f : FieldInfo) : Nat → List OptionValue → Except OptionFault Value
  | 0, _ => .ok (.map [])
  | fuel + 1, values => do
    let pairs ← values.mapM fun entry => do
      let (keyField, key) := entryPart s f entry "key"
      let (valueField, value) := entryPart s f entry "value"
      let v ← valueForm s valueField fuel value
      return (Value.text (keyText (scalarForm s keyField key)), v)
    return .map (Value.collect pairs)
termination_by structural n => n

/-- The form of one value of a field. -/
def valueForm (s : Scope) (f : FieldInfo) : Nat → OptionValue → Except OptionFault Value
  | 0, _ => .ok .null
  | fuel + 1, v =>
    if f.isMessage then messageForm s f.typeName fuel v.inner else .ok (scalarForm s f v)
termination_by structural n => n

end

end TypedFetch.Proto
