import TypedFetch.Text.Base64
import TypedFetch.Text.Blank
import TypedFetch.Text.Digit
import TypedFetch.Value
import TypedFetch.Yaml.Kind

/-!
# Scalars of YAML

The value that a text describes as a scalar of some kind.  A tag may ask for a kind whose form the
text does not have, so every kind has its own way to refuse a text.
-/

namespace TypedFetch.Yaml

/-! ## Numbers -/

/-- The characters without underscores. -/
def withoutMarks (cs : List Char) : List Char :=
  cs.filter (· != '_')

/-- A numeral without blanks at its ends, in the digits of ASCII. -/
def plainNumeral (cs : List Char) : List Char :=
  Text.plainDigits (Text.trimWhile Text.isSpace cs)

/-- The digits after the mark of a base, which may be left out. -/
def dropBaseMark (mark : Option Char) : List Char → List Char
  | '0' :: c :: rest => if mark == some c.toLower then rest else '0' :: c :: rest
  | cs => cs

/-- The integer that a numeral to a base stands for. -/
def integerTo (base : Nat) (mark : Option Char) (cs : List Char) : Except Fault Int :=
  let (negative, body) := cutSign (plainNumeral cs)
  let digits := dropBaseMark mark body
  let isDigit (c : Char) : Bool := ((Json.hexValue? c).map (decide <| · < base)).getD false
  if digits.isEmpty || !digits.all isDigit || (base == 10 && decimalLimit < digits.length) then
    .error .notValue
  else
    let amount := digits.foldl (fun n c => n * base + (Json.hexValue? c).getD 0) 0
    .ok (Number.signed negative amount)

/-- The integer that a text stands for.  What comes first chooses the base: `0b`, `0x` or `0`; in
a number with colons the parts count sixty times the next ones. -/
def readInteger (cs : List Char) : Except Fault Int := do
  let cs := withoutMarks cs
  let (negative, body) := cutSign cs
  if body.isEmpty then throw .emptyNumber
  let amount ←
    match body with
    | ['0'] => pure 0
    | '0' :: 'b' :: rest => integerTo 2 (some 'b') rest
    | '0' :: 'x' :: rest => integerTo 16 (some 'x') rest
    | '0' :: _ => integerTo 8 (some 'o') body
    | _ =>
      (Text.cutAt ':' body).foldlM (fun n part => (integerTo 10 none part).map (n * 60 + ·)) 0
  return if negative then -amount else amount

/-- The double that a numeral stands for. -/
def decimalOf (cs : List Char) : Except Fault Float :=
  match Number.parse? (plainNumeral cs) with
  | some x => .ok x
  | none => .error .notValue

/-- Adds up the parts of a number to base sixty, of which the last one comes first. -/
def sumSixtieths : Nat → Float → List Float → Except Fault Float
  | _, sum, [] => .ok sum
  | base, sum, x :: rest =>
    match Number.ofInt? base with
    | some b => sumSixtieths (base * 60) (sum + x * b) rest
    | none => .error .numberTooLarge

/-- The double that a text stands for. -/
def readDecimal (cs : List Char) : Except Fault Float := do
  let cs := (withoutMarks cs).map Char.toLower
  if cs.isEmpty then throw .emptyNumber
  let (negative, body) := cutSign cs
  if body == ".nan".toList then return 0.0 / 0.0
  let amount ←
    if body == ".inf".toList then pure (1.0 / 0.0)
    else if body.contains ':' then do
      let parts ← (Text.cutAt ':' body).mapM decimalOf
      sumSixtieths 1 0.0 parts.reverse
    else decimalOf body
  return if negative then -amount else amount

/-! ## Words, dates and bytes -/

/-- The words for truth values, in lower case. -/
def boolValues : List (String × Bool) :=
  [("yes", true), ("no", false), ("true", true), ("false", false), ("on", true), ("off", false)]

/-- The truth value that a word stands for. -/
def readBool (cs : List Char) : Except Fault Bool :=
  match boolValues.lookup (String.ofList (cs.map Char.toLower)) with
  | some b => .ok b
  | none => .error .unknownWord

/-- The value of a date, perhaps with a time of day. -/
def Timestamp.value (t : Timestamp) : Except Fault Value :=
  match t.clock with
  | none => if t.date.isValid then .ok (.day t.date) else .error .notValue
  | some c =>
    let micros := Number.digitsValue ((c.fraction ++ "000000".toList).take 6)
    let zoneFits := ((c.offset.map fun m => decide (m.natAbs < 1440)).getD true)
    if t.date.isValid && c.hour < 24 && c.minute < 60 && c.second < 60 && zoneFits then
      .ok (.instant ⟨t.date, c.hour * 3600 + c.minute * 60 + c.second, micros,
        c.offset.map (· * 60000000)⟩)
    else .error .notValue

/-- The date or point in time that a text stands for. -/
def readTimestamp (cs : List Char) : Except Fault Value :=
  match Timestamp.ofChars? (dropLastLineFeed cs) with
  | some t => t.value
  | none => .error .noTimestamp

/-- The bytes that a text in base 64 stands for; other characters count for nothing, and those of
the alphabet for addresses are such. -/
def readBytes (cs : List Char) : Except Fault (List UInt8) :=
  match Text.Base64.decode (cs.filter fun c => c != '-' && c != '_') with
  | some bytes => .ok bytes
  | none => .error .malformed

/-- The value that a text stands for as a scalar of a kind. -/
def ScalarKind.read (k : ScalarKind) (s : String) : Except Fault Value :=
  match k with
  | .null => .ok .null
  | .bool => .bool <$> readBool s.toList
  | .int => .int <$> readInteger s.toList
  | .decimal => .double <$> readDecimal s.toList
  | .binary => .bytes <$> readBytes s.toList
  | .timestamp => readTimestamp s.toList
  | .text => .ok (.text s)

end TypedFetch.Yaml
