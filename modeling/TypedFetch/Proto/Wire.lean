import TypedFetch.Proto.Pool
import TypedFetch.Text.Utf8

/-!
# The wire format

Messages as bytes.  Every value follows a tag, which holds the number of its field and a mark for
its shape: an integer in groups of seven bits, four or eight bytes, bytes after their length, or
fields up to a mark that ends them.  The value of a field that a message does not know, or whose
shape does not fit its type, is kept as it stands.
-/

namespace TypedFetch.Proto.Wire

/-! ## Writing -/

/-- A natural number in groups of seven bits, the lowest ones first; `fuel` bounds their number. -/
def varint : Nat → Nat → List UInt8
  | 0, _ => []
  | fuel + 1, n =>
    if n < 128 then [UInt8.ofNat n] else UInt8.ofNat (128 + n % 128) :: varint fuel (n / 128)

/-- A number of 64 bits. -/
def writeVarint (n : Nat) : List UInt8 :=
  varint 10 n

/-- The lowest bytes of a number, the lowest one first. -/
def lowBytes : Nat → Nat → List UInt8
  | 0, _ => []
  | count + 1, n => UInt8.ofNat (n % 256) :: lowBytes count (n / 256)

/-- The shapes of values. -/
inductive Shape where
  | integer
  | eightBytes
  | counted
  | opened
  | closed
  | fourBytes
deriving Repr, BEq, DecidableEq

/-- The mark of a shape. -/
def Shape.mark : Shape → Nat
  | .integer => 0
  | .eightBytes => 1
  | .counted => 2
  | .opened => 3
  | .closed => 4
  | .fourBytes => 5

/-- The shape with a given mark. -/
def Shape.ofMark? (n : Nat) : Option Shape :=
  [Shape.integer, .eightBytes, .counted, .opened, .closed, .fourBytes][n]?

/-- The tag of a value. -/
def tag (number : Nat) (shape : Shape) : List UInt8 :=
  writeVarint (number * 8 + shape.mark)

/-- The bits of an integer of 64 bits as a natural number. -/
def wrapped (i : Int) : Nat :=
  (i % 18446744073709551616).toNat

/-- The integer with signs taken in turns: zero, minus one, one, minus two, and so on. -/
def zigzag (i : Int) : Nat :=
  if 0 ≤ i then 2 * i.toNat else 2 * (-i).toNat - 1

/-- The shape of the values of a built-in type. -/
def shapeOf : Scalar → Shape
  | .double => .eightBytes
  | .fixed64 => .eightBytes
  | .sfixed64 => .eightBytes
  | .float => .fourBytes
  | .fixed32 => .fourBytes
  | .sfixed32 => .fourBytes
  | .string => .counted
  | .bytes => .counted
  | _ => .integer

/-- The bytes of an integer of a built-in type. -/
def integerBytes (t : Scalar) (i : Int) : List UInt8 :=
  match shapeOf t with
  | .eightBytes => lowBytes 8 (wrapped i)
  | .fourBytes => lowBytes 4 (wrapped i)
  | _ => writeVarint (if t == .sint32 || t == .sint64 then zigzag i else wrapped i)

/-- The bytes of a number that need not be an integer. -/
def realBytes (t : Scalar) (x : Float) : List UInt8 :=
  if t == .float then lowBytes 4 x.toFloat32.toBits.toNat else lowBytes 8 x.toBits.toNat

mutual

/-- The bytes of a value of a field, its tag included. -/
def writeValue (f : FieldInfo) : OptionValue → List UInt8
  | .message fields =>
    let body := writeFields fields
    if f.kind == .group then tag f.number .opened ++ body ++ tag f.number .closed
    else tag f.number .counted ++ writeVarint body.length ++ body
  | .unread bytes => bytes
  | .bytes bs => tag f.number .counted ++ writeVarint bs.length ++ bs
  | .bool b => tag f.number .integer ++ writeVarint (if b then 1 else 0)
  | .choice n => tag f.number .integer ++ writeVarint (wrapped n)
  | .int i =>
    match f.kind with
    | .scalar t => tag f.number (shapeOf t) ++ integerBytes t i
    | _ => []
  | .real x =>
    match f.kind with
    | .scalar t => tag f.number (shapeOf t) ++ realBytes t x
    | _ => []

/-- The bytes of fields, one after the other. -/
def writeFields : List (FieldInfo × OptionValue) → List UInt8
  | [] => []
  | (f, v) :: rest => writeValue f v ++ writeFields rest

end

/-! ## Reading -/

/-- The bytes are not those of a message. -/
inductive Malformed where
  | malformed
deriving Repr, BEq, DecidableEq

/-- Reads groups of seven bits; `fuel` bounds their number. -/
def readVarint : Nat → List UInt8 → Except Malformed (Nat × List UInt8)
  | 0, _ => .error .malformed
  | _, [] => .error .malformed
  | fuel + 1, b :: rest =>
    if b < 128 then .ok (b.toNat, rest)
    else do
      let (n, rest) ← readVarint fuel rest
      return (b.toNat - 128 + 128 * n, rest)

/-- Reads a number of 64 bits. -/
def readInteger (bytes : List UInt8) : Except Malformed (Nat × List UInt8) := do
  let (n, rest) ← readVarint 10 bytes
  return (n % 18446744073709551616, rest)

/-- The number that bytes make up, the lowest one first. -/
def ofBytes : List UInt8 → Nat
  | [] => 0
  | b :: rest => b.toNat + 256 * ofBytes rest

/-- Cuts off a number of bytes. -/
def takeBytes (count : Nat) (bytes : List UInt8) :
    Except Malformed (List UInt8 × List UInt8) :=
  if bytes.length < count then .error .malformed else .ok (bytes.take count, bytes.drop count)

/-- Reads a tag. -/
def readTag (bytes : List UInt8) : Except Malformed (Nat × Shape × List UInt8) := do
  let (n, rest) ← readVarint 5 bytes
  match Shape.ofMark? (n % 8) with
  | some shape => if n < 8 || 4294967296 ≤ n then .error .malformed else .ok (n / 8, shape, rest)
  | none => .error .malformed

/-- The integer of a number of bits. -/
def signedBits (bits : Nat) (n : Nat) : Int :=
  let size := Nat.pow 2 bits
  let low := n % size
  if 2 * low < size then low else (low : Int) - size

/-- The integer for a place in the order in which signs take turns. -/
def unzigzag (n : Nat) : Int :=
  if n % 2 == 0 then (n / 2 : Nat) else -((n / 2 : Nat) : Int) - 1

/-- The value of a built-in type from the number that it was read as. -/
def scalarOf (t : Scalar) (n : Nat) : OptionValue :=
  match t with
  | .bool => .bool (n != 0)
  | .double => .real (Float.ofBits (UInt64.ofNat n))
  | .float => .real (Float32.ofBits (UInt32.ofNat n)).toFloat
  | .int32 => .int (signedBits 32 n)
  | .sfixed32 => .int (signedBits 32 n)
  | .int64 => .int (signedBits 64 n)
  | .sfixed64 => .int (signedBits 64 n)
  | .uint32 => .int (n % 4294967296 : Nat)
  | .fixed32 => .int (n % 4294967296 : Nat)
  | .sint32 => .int (unzigzag (n % 4294967296))
  | .sint64 => .int (unzigzag n)
  | _ => .int n

/-- Reads a number of a given shape. -/
def readNumber (shape : Shape) (bytes : List UInt8) : Except Malformed (Nat × List UInt8) := do
  match shape with
  | .eightBytes => let (bs, rest) ← takeBytes 8 bytes; return (ofBytes bs, rest)
  | .fourBytes => let (bs, rest) ← takeBytes 4 bytes; return (ofBytes bs, rest)
  | _ => readInteger bytes

/-- Reads numbers up to the end; `fuel` bounds how many there are. -/
def readNumbers (shape : Shape) : Nat → List UInt8 → Except Malformed (List Nat)
  | _, [] => .ok []
  | 0, _ => .error .malformed
  | fuel + 1, bytes => do
    let (n, rest) ← readNumber shape bytes
    let others ← readNumbers shape fuel rest
    return n :: others

/-- The shape of the single values of a field. -/
def fieldShape : FieldKind → Shape
  | .scalar t => shapeOf t
  | .enumeration => .integer
  | .message => .counted
  | .group => .opened

/-- The field of a message with a given number: one of its own, or an extension of it. -/
def fieldNumbered (s : Scope) (message : String) (number : Nat) : Option FieldInfo :=
  ((s.fieldsOf message).find? (·.number == number)).or
    ((s.pool.extensions[(message, number)]?).bind fun name => s.pool.fields[name]?)

/-- A number as the value of a field; numbers without a name are no values of an enumeration that
is closed. -/
def numberValue (s : Scope) (f : FieldInfo) (n : Nat) : Option OptionValue :=
  match f.kind with
  | .scalar t => some (scalarOf t n)
  | .enumeration =>
    let i := signedBits 32 n
    match s.enum? f.typeName with
    | some e => if e.isOpen || e.values.any (·.2 == i) then some (.choice i) else none
    | none => none
  | _ => none

/-- A field that is not known. -/
def unknownField (number : Nat) : FieldInfo where
  fullName := ""
  name := ""
  jsonName := ""
  number := number
  label := .repeated
  kind := .scalar .bytes
  typeName := ""
  owner := ""
  isExtension := false
  oneofIndex := none
  hasPresence := false
  isRequired := false
  verifiesText := false
  closesEnum := false
  targets := []
  sourceOnly := false
  introduced := none
  removed := none

/-- A value whose field is not known; its bytes start `bytes` and `rest` follows them. -/
def unread (number : Nat) (shape : Shape) (bytes rest : List UInt8) : SetFields :=
  [(unknownField number,
    .unread (tag number shape ++ bytes.take (bytes.length - rest.length)))]

/-- A number of a list that was written as one value. -/
def packedValue (s : Scope) (f : FieldInfo) (n : Nat) : FieldInfo × OptionValue :=
  match numberValue s f n with
  | some v => (f, v)
  | none => (unknownField f.number, .unread (tag f.number .integer ++ writeVarint n))

/-- How deeply messages may be nested in what is read. -/
def depthLimit : Nat := 100

mutual

/-- Reads the fields of a message; `depth` bounds the messages below it, `fuel` the number of its
fields.  The number of an opening tag says that a closing one must follow. -/
def readFields (s : Scope) (message : String) : Nat → Nat → Option Nat → List UInt8 →
    Except Malformed (SetFields × List UInt8)
  | 0, _, _, _ => .error .malformed
  | fuel + 1, depth, opened, bytes =>
    if bytes.isEmpty then if opened.isSome then .error .malformed else .ok ([], [])
    else do
      let (number, shape, rest) ← readTag bytes
      if shape == .closed then
        if opened == some number then return ([], rest) else throw .malformed
      let (fields, rest) ← readField s (fieldNumbered s message number) number shape fuel depth rest
      let (others, rest) ← readFields s message fuel depth opened rest
      return (fields ++ others, rest)
termination_by structural n => n

/-- Reads the value that follows a tag. -/
def readField (s : Scope) (f : Option FieldInfo) (number : Nat) (shape : Shape) :
    Nat → Nat → List UInt8 → Except Malformed (SetFields × List UInt8)
  | 0, _, _ => .error .malformed
  | fuel + 1, depth, bytes =>
    match shape with
    | .counted => do
      let (count, rest) ← readInteger bytes
      let (body, rest) ← takeBytes count rest
      match f with
      | none => return (unread number shape bytes rest, rest)
      | some f =>
        match f.kind with
        | .message =>
          match depth with
          | 0 => throw .malformed
          | depth + 1 =>
            let (fields, _) ← readFields s f.typeName fuel depth none body
            return ([(f, .message fields)], rest)
        | .group => return (unread number shape bytes rest, rest)
        | kind =>
          if fieldShape kind == .counted then
            let isText := kind == .scalar .string
            if isText && f.verifiesText && (Text.decodeUtf8 body).toOption.isNone then
              throw .malformed
            return ([(f, .bytes body)], rest)
          else if f.label == .repeated then
            let numbers ← readNumbers (fieldShape kind) (body.length + 1) body
            return (numbers.map (packedValue s f), rest)
          else return (unread number shape bytes rest, rest)
    | .opened =>
      match depth with
      | 0 => throw .malformed
      | depth + 1 => do
        let known := f.filter (·.kind == .group)
        let message := (known.map (·.typeName)).getD ""
        let (fields, rest) ← readFields s message fuel depth (some number) bytes
        match known with
        | some f => return ([(f, .message fields)], rest)
        | none => return (unread number shape bytes rest, rest)
    | .closed => throw .malformed
    | _ => do
      let (n, rest) ← readNumber shape bytes
      let value := (f.filter fun f => fieldShape f.kind == shape).bind fun f =>
        (numberValue s f n).map (f, ·)
      match value with
      | some v => return ([v], rest)
      | none => return (unread number shape bytes rest, rest)
termination_by structural n => n

end

/-- The fields of a message from its bytes; `above` is the number of messages that it is nested
in. -/
def read (s : Scope) (message : String) (above : Nat) (bytes : List UInt8) :
    Except Malformed SetFields :=
  (readFields s message (2 * bytes.length + 2) (depthLimit - above) none bytes).map (·.1)

end TypedFetch.Proto.Wire
