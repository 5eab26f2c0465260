import TypedFetch.Value
import TypedFetch.Text.Lines

/-!
# Reading JSON

A reader for JSON texts.  Objects keep the order of their keys; a repeated key takes the last
value in the place of the first.  The names `NaN`, `Infinity` and `-Infinity` are numbers too.  A
numeral without fraction and exponent is an integer of any size up to a limit of digits.  Arrays and
objects are nested up to a limit.
-/

namespace TypedFetch.Json

/-- Why a text was not read. -/
inductive Fault where
  /-- The text does not follow the grammar. -/
  | malformed
  /-- An integer has more digits than are converted. -/
  | tooManyDigits
  /-- Arrays and objects are nested too deeply. -/
  | tooDeep
deriving Repr, BEq, DecidableEq

/-- Integers with more decimal digits than this are refused. -/
def digitLimit : Nat := 4300

/-- How many arrays and objects may be nested. -/
def nestingLimit : Nat := 988

/-- White space between tokens. -/
def isSpace (c : Char) : Bool :=
  c == ' ' || c == '\t' || c == '\n' || c == '\r'

/-- Drops white space. -/
def skipSpace (cs : List Char) : List Char :=
  cs.dropWhile isSpace

/-- The value of a hexadecimal digit. -/
def hexValue? (c : Char) : Option Nat :=
  if '0' ≤ c && c ≤ '9' then some (c.toNat - 48)
  else if 'a' ≤ c && c ≤ 'f' then some (c.toNat - 87)
  else if 'A' ≤ c && c ≤ 'F' then some (c.toNat - 55)
  else none

/-- The value of four hexadecimal digits. -/
def hex4? (a b c d : Char) : Option Nat := do
  let x ← hexValue? a
  let y ← hexValue? b
  let z ← hexValue? c
  let w ← hexValue? d
  return ((x * 16 + y) * 16 + z) * 16 + w

/-- The character of a code unit; half of a surrogate pair is replaced. -/
def unitChar (n : Nat) : Char :=
  if Text.isSurrogate n then '\uFFFD' else Char.ofNat n

/-- The escapes of one character. -/
def simpleEscape? (c : Char) : Option Char :=
  match c with
  | '"' => some '"'
  | '\\' => some '\\'
  | '/' => some '/'
  | 'b' => some '\x08'
  | 'f' => some '\x0c'
  | 'n' => some '\n'
  | 'r' => some '\r'
  | 't' => some '\t'
  | _ => none

/-- Reads the rest of a string after its opening quote; `acc` holds what was read, backwards. -/
def readString (acc : List Char) : List Char → Except Fault (String × List Char)
  | [] => .error .malformed
  | '"' :: rest => .ok (String.ofList acc.reverse, rest)
  | '\\' :: 'u' :: a :: b :: c :: d :: '\\' :: 'u' :: a' :: b' :: c' :: d' :: rest =>
    match hex4? a b c d with
    | none => .error .malformed
    | some high =>
      if 0xD800 ≤ high && high < 0xDC00 then
        match hex4? a' b' c' d' with
        | none => .error .malformed
        | some low =>
          if 0xDC00 ≤ low && low < 0xE000 then
            let n := 0x10000 + (high - 0xD800) * 1024 + (low - 0xDC00)
            readString (Char.ofNat n :: acc) rest
          else readString (unitChar high :: acc) ('\\' :: 'u' :: a' :: b' :: c' :: d' :: rest)
      else
        readString (unitChar high :: acc) ('\\' :: 'u' :: a' :: b' :: c' :: d' :: rest)
  | '\\' :: 'u' :: a :: b :: c :: d :: rest =>
    match hex4? a b c d with
    | none => .error .malformed
    | some n => readString (unitChar n :: acc) rest
  | '\\' :: c :: rest =>
    match simpleEscape? c with
    | some e => readString (e :: acc) rest
    | none => .error .malformed
  | c :: rest => if c.toNat < 32 then .error .malformed else readString (c :: acc) rest
termination_by cs => cs.length

/-- The digits before the point of a numeral; a zero in front stands alone. -/
def wholePart : List Char → List Char
  | '0' :: _ => ['0']
  | body => body.takeWhile Char.isDigit

/-- Cuts off a fraction, of which only the digits are given. -/
def cutFraction : List Char → List Char × List Char
  | '.' :: rest =>
    let digits := rest.takeWhile Char.isDigit
    if digits.isEmpty then ([], '.' :: rest) else (digits, rest.drop digits.length)
  | rest => ([], rest)

/-- Reads a numeral without its sign. -/
def readUnsigned (negative : Bool) (body : List Char) : Except Fault (Value × List Char) :=
  let whole := wholePart body
  if whole.isEmpty then .error .malformed
  else
    let (fraction, rest) := cutFraction (body.drop whole.length)
    match Number.readExponent rest with
    | some (e, rest) => .ok (.double (Number.ofParts negative whole fraction e), rest)
    | none =>
      if fraction.isEmpty then
        if digitLimit < whole.length then .error .tooManyDigits
        else .ok (.int (Number.signed negative (Number.digitsValue whole)), rest)
      else .ok (.double (Number.ofParts negative whole fraction 0), rest)

/-- Reads a numeral: a sign, an integer without leading zeros, a fraction, an exponent. -/
def readNumber : List Char → Except Fault (Value × List Char)
  | '-' :: body => readUnsigned true body
  | body => readUnsigned false body

/-- The words that stand for values. -/
def wordValues : List (String × Value) :=
  [("null", .null), ("true", .bool true), ("false", .bool false), ("NaN", .double (0.0 / 0.0)),
   ("Infinity", .double (1.0 / 0.0)), ("-Infinity", .double (-1.0 / 0.0))]

/-- Reads one of the words that stand for values. -/
def readWord? (cs : List Char) : Option (Value × List Char) :=
  wordValues.findSome? fun (word, v) => (Text.dropPrefix? word.toList cs).map (v, ·)

mutual

/-- Reads a value; `fuel` bounds the depth and the number of items together, and `room` is the
number of arrays and objects that may be nested in each other here. -/
def readValue (room : Nat) : Nat → List Char → Except Fault (Value × List Char)
  | 0, _ => .error .malformed
  | fuel + 1, cs =>
    match cs with
    | '"' :: rest => (readString [] rest).map fun (s, rest) => (.text s, rest)
    | '[' :: rest =>
      if room == 0 then .error .tooDeep
      else match skipSpace rest with
      | ']' :: rest => .ok (.list [], rest)
      | rest => readItems (room - 1) fuel [] rest
    | '\x7b' :: rest =>
      if room == 0 then .error .tooDeep
      else match skipSpace rest with
      | '\x7d' :: rest => .ok (.map [], rest)
      | rest => readFields (room - 1) fuel [] rest
    | cs =>
      match readWord? cs with
      | some r => .ok r
      | none => readNumber cs

/-- Reads the items of an array up to its end; `acc` holds those read, backwards. -/
def readItems (room : Nat) : Nat → List Value → List Char → Except Fault (Value × List Char)
  | 0, _, _ => .error .malformed
  | fuel + 1, acc, cs =>
    match readValue room fuel cs with
    | .error e => .error e
    | .ok (v, rest) =>
      match skipSpace rest with
      | ',' :: rest => readItems room fuel (v :: acc) (skipSpace rest)
      | ']' :: rest => .ok (.list (v :: acc).reverse, rest)
      | _ => .error .malformed

/-- Reads the fields of an object up to its end; `acc` holds those read, backwards. -/
def readFields (room : Nat) :
    Nat → List (Value × Value) → List Char → Except Fault (Value × List Char)
  | 0, _, _ => .error .malformed
  | fuel + 1, acc, cs =>
    match cs with
    | '"' :: rest =>
      match readString [] rest with
      | .error e => .error e
      | .ok (key, rest) =>
        match skipSpace rest with
        | ':' :: rest =>
          match readValue room fuel (skipSpace rest) with
          | .error e => .error e
          | .ok (v, rest) =>
            let acc := (Value.text key, v) :: acc
            match skipSpace rest with
            | ',' :: rest => readFields room fuel acc (skipSpace rest)
            | '\x7d' :: rest => .ok (.map (Value.collect acc.reverse), rest)
            | _ => .error .malformed
        | _ => .error .malformed
    | _ => .error .malformed

end

/-- The value that a JSON text holds. -/
def read (cs : List Char) : Except Fault Value :=
  match readValue nestingLimit (2 * cs.length + 2) (skipSpace cs) with
  | .error e => .error e
  | .ok (v, rest) => if (skipSpace rest).isEmpty then .ok v else .error .malformed

/-! ## Encoded texts -/

/-- The encodings in which a JSON text may come. -/
inductive Encoding where
  | utf8
  | utf16 (big : Bool)
  | utf32 (big : Bool)
deriving Repr, BEq, DecidableEq

/-- The text that bytes hold in an encoding. -/
def Encoding.decode (encoding : Encoding) (lone : Text.LoneSurrogates) (bytes : List UInt8) :
    Option (List Char) :=
  match encoding with
  | .utf8 =>
    (Text.decodeUtf8 (if lone == .replaced then Text.replaceSurrogates bytes else bytes)).toOption
  | .utf16 big => Text.decodeUtf16 lone big bytes
  | .utf32 big => Text.decodeUtf32 lone big bytes

/-- The encoding that a byte order mark or the position of zero bytes shows, and the bytes without
the mark. -/
def detect (bytes : List UInt8) : Encoding × List UInt8 :=
  match bytes with
  | 0x00 :: 0x00 :: 0xFE :: 0xFF :: rest => (.utf32 true, rest)
  | 0xFF :: 0xFE :: 0x00 :: 0x00 :: rest => (.utf32 false, rest)
  | 0xFE :: 0xFF :: rest => (.utf16 true, rest)
  | 0xFF :: 0xFE :: rest => (.utf16 false, rest)
  | 0xEF :: 0xBB :: 0xBF :: rest => (.utf8, rest)
  | a :: b :: c :: d :: _ =>
    if a == 0 then (if b == 0 then .utf32 true else .utf16 true, bytes)
    else if b == 0 then (if c == 0 && d == 0 then .utf32 false else .utf16 false, bytes)
    else (.utf8, bytes)
  | [a, b] =>
    if a == 0 then (.utf16 true, bytes)
    else if b == 0 then (.utf16 false, bytes)
    else (.utf8, bytes)
  | _ => (.utf8, bytes)

/-- The text that the bytes of an encoded JSON text hold. -/
def textOfBytes? (bytes : List UInt8) : Option (List Char) :=
  let (encoding, body) := detect bytes
  encoding.decode .replaced body

/-- The value that an encoded JSON text holds. -/
def readBytes (bytes : List UInt8) : Except Fault Value :=
  match textOfBytes? bytes with
  | none => .error .malformed
  | some cs => read cs

end TypedFetch.Json
