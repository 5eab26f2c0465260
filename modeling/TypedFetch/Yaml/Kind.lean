import TypedFetch.Time.Calendar
import TypedFetch.Text.Search
import TypedFetch.Number.Double
import TypedFetch.Json.Reader
import TypedFetch.Yaml.Token

/-!
# Kinds of YAML nodes

A node is constructed by its kind.  A tag names the kind; a plain scalar without a tag has its kind
by its form: a truth value, nothing, an integer in one of five notations, a decimal number, a date
or a point in time, or else a text.
-/

namespace TypedFetch.Yaml

/-- The kinds of values that one text describes. -/
inductive ScalarKind where
  | null
  | bool
  | int
  | decimal
  | binary
  | timestamp
  | text
deriving Repr, BEq, DecidableEq

/-- The kinds of values that hold others. -/
inductive CollectionKind where
  | sequence
  | mapping
  | set
  /-- A list of keys with their values. -/
  | pairs
deriving Repr, BEq, DecidableEq

/-- What a node is made into. -/
inductive Kind where
  | scalar (k : ScalarKind)
  | collection (k : CollectionKind)
  /-- A key under which a mapping takes over the entries of others. -/
  | merge
  /-- A key that marks the value of a mapping. -/
  | value
deriving Repr, BEq, DecidableEq

/-- The beginning of the tags that every document knows. -/
def tagHead : String := "tag:yaml.org,2002:"

/-- The kinds that have tags, by the ends of these. -/
def tagEndings : List (String × Kind) :=
  [("null", .scalar .null), ("bool", .scalar .bool), ("int", .scalar .int),
   ("float", .scalar .decimal), ("binary", .scalar .binary), ("timestamp", .scalar .timestamp),
   ("str", .scalar .text), ("seq", .collection .sequence), ("map", .collection .mapping),
   ("set", .collection .set), ("omap", .collection .pairs), ("pairs", .collection .pairs),
   ("merge", .merge), ("value", .value)]

/-- The kind that a tag names. -/
def Kind.ofTag? (tag : String) : Option Kind :=
  (tagEndings.find? fun e => tagHead ++ e.1 == tag).map (·.2)

/-! ## Words -/

/-- The words for truth values. -/
def boolWords : List String :=
  ["yes", "Yes", "YES", "no", "No", "NO", "true", "True", "TRUE", "false", "False", "FALSE", "on",
   "On", "ON", "off", "Off", "OFF"]

/-- The words for nothing. -/
def nullWords : List String := ["", "~", "null", "Null", "NULL"]

/-! ## Numbers -/

/-- Cuts off a sign; true means negative. -/
def cutSign : List Char → Bool × List Char
  | '-' :: rest => (true, rest)
  | '+' :: rest => (false, rest)
  | rest => (false, rest)

/-- A digit, or an underscore between digits. -/
def isDigitOrMark (c : Char) : Bool :=
  c.isDigit || c == '_'

/-- Digits, with underscores after the first one. -/
def isNumberForm (cs : List Char) : Bool :=
  (cs.head?.map Char.isDigit).getD false && cs.all isDigitOrMark

/-- A part after a colon in a number to base sixty. -/
def isSixtieth : List Char → Bool
  | [a] => a.isDigit
  | [a, b] => '0' ≤ a && a ≤ '5' && b.isDigit
  | _ => false

/-- The text has the form of a number to base sixty. -/
def isSixtiethsForm (cs : List Char) : Bool :=
  match Text.cutAt ':' cs with
  | first :: next :: rest => isNumberForm first && (next :: rest).all isSixtieth
  | _ => false

/-- The text has the form of an integer: to base two, sixteen, eight, ten or sixty. -/
def isIntegerForm (cs : List Char) : Bool :=
  match (cutSign cs).2 with
  | '0' :: 'b' :: rest => !rest.isEmpty && rest.all fun c => c == '0' || c == '1' || c == '_'
  | '0' :: 'x' :: rest => !rest.isEmpty && rest.all fun c => (Json.hexValue? c).isSome || c == '_'
  | '0' :: rest => rest.all fun c => ('0' ≤ c && c ≤ '7') || c == '_'
  | body => isNumberForm body || isSixtiethsForm body

/-- The text is an exponent with a sign, or empty. -/
def isSignedExponent : List Char → Bool
  | [] => true
  | mark :: sign :: digits =>
    (mark == 'e' || mark == 'E') && (sign == '-' || sign == '+') && !digits.isEmpty &&
      digits.all Char.isDigit
  | _ => false

/-- The text has the form of a number with a point. -/
def isDecimalForm (cs : List Char) : Bool :=
  let body := (cutSign cs).2
  let isBare := body.length == cs.length
  let text := String.ofList body
  let whole := body.takeWhile isDigitOrMark
  [".inf", ".Inf", ".INF"].contains text || (isBare && [".nan", ".NaN", ".NAN"].contains text) ||
    match body.drop whole.length with
    | '.' :: rest =>
      let fraction := rest.takeWhile isDigitOrMark
      (if whole.isEmpty then isBare && isNumberForm fraction else isNumberForm whole) &&
        isSignedExponent (rest.drop fraction.length)
    | ':' :: _ =>
      match Text.cutFirst '.' body with
      | (head, some fraction) => isSixtiethsForm head && fraction.all isDigitOrMark
      | _ => false
    | _ => false

/-! ## Dates -/

/-- A time of day as it is written. -/
structure Clock where
  /-- The hour. -/
  hour : Nat
  /-- The minute. -/
  minute : Nat
  /-- The second. -/
  second : Nat
  /-- The digits after the point. -/
  fraction : List Char
  /-- By how many minutes the clock is ahead of universal time. -/
  offset : Option Int

/-- A date as it is written, perhaps with a time of day. -/
structure Timestamp where
  /-- The date. -/
  date : Time.Date
  /-- The time of day. -/
  clock : Option Clock := none

/-- Cuts off one or two digits. -/
def shortNumber (cs : List Char) : Option (Nat × List Char) :=
  let digits := (cs.take 2).takeWhile Char.isDigit
  if digits.isEmpty then none else some (Number.digitsValue digits, cs.drop digits.length)

/-- Cuts off a character. -/
def cutChar (c : Char) : List Char → Option (List Char)
  | d :: rest => if d == c then some rest else none
  | [] => none

/-- Cuts off exactly two digits. -/
def twoDigits (cs : List Char) : Option (Nat × List Char) :=
  if (cs.take 2).length == 2 && (cs.take 2).all Char.isDigit then
    some (Number.digitsValue (cs.take 2), cs.drop 2)
  else none

/-- The offset of a time zone in minutes, as it ends a point in time: none if it is not given. -/
def zone (cs : List Char) : Option (Option Int) :=
  match cs.dropWhile Scan.isSpace with
  | [] => if cs.isEmpty then some none else none
  | ['Z'] => some (some 0)
  | sign :: rest =>
    if sign == '-' || sign == '+' then do
      let (hours, rest) ← shortNumber rest
      let minutes ←
        match rest with
        | [] => some 0
        | _ => do
          let rest ← cutChar ':' rest
          let (minutes, rest) ← twoDigits rest
          if rest.isEmpty then some minutes else none
      let total : Int := hours * 60 + minutes
      return some (if sign == '-' then -total else total)
    else none

/-- A time of day, with what stands between it and the date. -/
def Clock.ofChars? : List Char → Option Clock
  | [] => none
  | c :: more => do
    let start ←
      if c == 'T' || c == 't' then some more
      else if Scan.isSpace c then some (more.dropWhile Scan.isSpace)
      else none
    let (hour, rest) ← shortNumber start
    let (minute, rest) ← (cutChar ':' rest).bind twoDigits
    let (second, rest) ← (cutChar ':' rest).bind twoDigits
    let (fraction, rest) :=
      match rest with
      | '.' :: more => (more.takeWhile Char.isDigit, more.dropWhile Char.isDigit)
      | more => ([], more)
    let offset ← zone rest
    return { hour, minute, second, fraction, offset }

/-- A date or point in time; none if the text has not the form of one. -/
def Timestamp.ofChars? (cs : List Char) : Option Timestamp := do
  let year := cs.take 4
  if year.length != 4 || !year.all Char.isDigit then failure
  let rest ← cutChar '-' (cs.drop 4)
  let (month, rest) ← shortNumber rest
  let rest ← cutChar '-' rest
  let (day, rest) ← shortNumber rest
  let date : Time.Date := ⟨Number.digitsValue year, month, day⟩
  if rest.isEmpty then return { date }
  let clock ← Clock.ofChars? rest
  return { date, clock := some clock }

/-- The text has the form of a date or point in time; a date alone has all its digits. -/
def isTimestampForm (cs : List Char) : Bool :=
  match Timestamp.ofChars? cs with
  | some t => t.clock.isSome || cs.length == 10
  | none => false

/-! ## Plain scalars -/

/-- Drops a line feed at the end, unless nothing else is there. -/
def dropLastLineFeed (cs : List Char) : List Char :=
  if 1 < cs.length && cs.getLast? == some '\n' then cs.dropLast else cs

/-- The kind of a plain scalar. -/
def plainKind (s : String) : Kind :=
  let cs := dropLastLineFeed s.toList
  let word := String.ofList cs
  if nullWords.contains word then .scalar .null
  else if word == "<<" then .merge
  else if word == "=" then .value
  else if boolWords.contains word then .scalar .bool
  else if isDecimalForm cs then .scalar .decimal
  else if isIntegerForm cs then .scalar .int
  else if isTimestampForm cs then .scalar .timestamp
  else .scalar .text

end TypedFetch.Yaml
