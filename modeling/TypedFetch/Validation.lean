import TypedFetch.Text.Blank
import TypedFetch.Text.LetterCase
import TypedFetch.Value

/-!
# Validation

Checks of dynamic values against the kinds of value that a field takes.  All faults are collected,
each with its place.  Values of a related kind are converted: numerals in texts, and the usual words
for truth values.
-/

namespace TypedFetch

namespace Validation

/-- What is wrong with a value. -/
inductive IssueKind where
  | missing
  | textType
  | textEncoding
  | boolType
  | boolParsing
  | intType
  | intParsing
  | intParsingSize
  | intFromFraction
  | notFinite
  | belowMinimum
  | listType
  | objectType
  | notAmong
  | refused
  | unexpected
  | pathType
  | keyType
deriving Repr, BEq, DecidableEq

/-- The label of a fault. -/
def IssueKind.label : IssueKind → String
  | .missing => "missing"
  | .textType => "string_type"
  | .textEncoding => "string_unicode"
  | .boolType => "bool_type"
  | .boolParsing => "bool_parsing"
  | .intType => "int_type"
  | .intParsing => "int_parsing"
  | .intParsingSize => "int_parsing_size"
  | .intFromFraction => "int_from_float"
  | .notFinite => "finite_number"
  | .belowMinimum => "greater_than_equal"
  | .listType => "list_type"
  | .objectType => "model_type"
  | .notAmong => "literal_error"
  | .refused => "value_error"
  | .unexpected => "extra_forbidden"
  | .pathType => "path_type"
  | .keyType => "invalid_key"

/-- A step into a value. -/
inductive Step where
  | key (name : String)
  | index (i : Int)
deriving Repr, BEq, DecidableEq

/-- A fault and its place. -/
structure Issue where
  /-- The steps that lead to the faulty value. -/
  place : List Step
  /-- What is wrong with it. -/
  kind : IssueKind
deriving Repr, BEq, DecidableEq

end Validation

open Validation

/-- The outcome of a check: a value, or everything that is wrong. -/
def Check (α : Type) : Type := Except (List Issue) α

namespace Check

/-- A check that succeeds. -/
def pass {α : Type} (a : α) : Check α := .ok a

/-- A check that fails with one fault. -/
def fail {α : Type} (kind : IssueKind) : Check α := .error [⟨[], kind⟩]

/-- Applies a checked function to a checked value; the faults of both are kept. -/
def apply {α β : Type} (f : Check (α → β)) (x : Check α) : Check β :=
  match f, x with
  | .ok f, .ok a => .ok (f a)
  | .ok _, .error es => .error es
  | .error es, .ok _ => .error es
  | .error es, .error es' => .error (es ++ es')

instance : Applicative Check where
  pure := pass
  seq f x := apply f (x ())

/-- Continues with a value that passed. -/
def andThen {α β : Type} (x : Check α) (f : α → Check β) : Check β :=
  match x with
  | .ok a => f a
  | .error es => .error es

/-- Places the faults below a step. -/
def below {α : Type} (step : Step) (x : Check α) : Check α :=
  match x with
  | .ok a => .ok a
  | .error es => .error (es.map fun e => { e with place := step :: e.place })

end Check

namespace Validation

/-! ## Scalars -/

/-- A text. -/
def text : Value → Check String
  | .text s => .pass s
  | _ => .fail .textType

/-- A value or null. -/
def nullable {α : Type} (check : Value → Check α) : Value → Check (Option α)
  | .null => .pass none
  | v => some <$> check v

/-- The words for false. -/
def falseWords : List String := ["0", "off", "f", "false", "n", "no"]

/-- The words for true. -/
def trueWords : List String := ["1", "on", "t", "true", "y", "yes"]

/-- A word for a truth value, in any case. -/
def boolWord (cs : List Char) : Check Bool :=
  let word := String.ofList (Text.lower cs)
  if falseWords.contains word then .pass false
  else if trueWords.contains word then .pass true
  else .fail .boolParsing

/-- The integer has 64 bits. -/
def isShort (i : Int) : Bool :=
  -9223372036854775808 ≤ i && i ≤ 9223372036854775807

/-- An integer that stands for a truth value. -/
def boolNumber (i : Int) : Check Bool :=
  if i == 0 then .pass false
  else if i == 1 then .pass true
  else .fail (if isShort i then .boolParsing else .boolType)

/-- The least integer of 64 bits; for a number with a fraction it is out of range. -/
def leastShort : Int := -9223372036854775808

/-- A truth value, or a number or word for one. -/
def bool : Value → Check Bool
  | .bool b => .pass b
  | .int i => boolNumber i
  | .double x =>
    match Value.asInt? (.double x) with
    | some i => if i == leastShort then .fail .boolType else boolNumber i
    | none => .fail .boolType
  | .text s => boolWord s.toList
  | .bytes bs =>
    match Text.decodeUtf8 bs with
    | .ok cs => boolWord cs
    | .error _ => .fail .boolParsing
  | _ => .fail .boolType

/-- Removes single underscores between digits; none if one stands elsewhere. -/
def joinDigits : Bool → List Char → Option (List Char)
  | afterDigit, [] => if afterDigit then some [] else none
  | afterDigit, c :: rest =>
    if c.isDigit then (joinDigits true rest).map (c :: ·)
    else if c == '_' && afterDigit then joinDigits false rest
    else none

/-- Integers with more digits than this are not read from texts. -/
def digitLimit : Nat := 4300

/-- Drops zeros in front, with underscores among them; one digit stays. -/
def dropZeros (cs : List Char) : List Char :=
  if cs.head? != some '0' then cs
  else
    let rest := cs.dropWhile fun c => c == '0' || c == '_'
    let last := (cs.take (cs.length - rest.length)).getLast?
    if (rest.head?.map Char.isDigit).getD false then rest else last.toList ++ rest

/-- Drops a fraction of zeros. -/
def dropZeroFraction (cs : List Char) : List Char :=
  match Text.cutFirst '.' cs with
  | (whole, some fraction) =>
    if !fraction.isEmpty && fraction.all (· == '0') then whole else cs
  | _ => cs

/-- An integer numeral with blanks around it and zeros after a point. -/
def intNumeral (cs : List Char) : Check Int :=
  let body := Text.trimWhile Text.isSpace cs
  let (negative, body) :=
    match body with
    | '-' :: r => (true, r)
    | '+' :: r => (false, r)
    | r => (false, r)
  match joinDigits false (dropZeroFraction (dropZeros body)) with
  | some digits =>
    if digitLimit < digits.length then .fail .intParsingSize
    else .pass (Number.signed negative (Number.digitsValue digits))
  | none => .fail .intParsing

/-- An integer, or a truth value or numeral for one. -/
def int : Value → Check Int
  | .bool b => .pass (if b then 1 else 0)
  | .int i => .pass i
  | .double x =>
    match Number.exact x with
    | .finite negative m q =>
      let i := Number.signed negative (Number.truncate m q)
      if !Number.isWhole m q then .fail .intFromFraction
      else if isShort i && i != leastShort then .pass i
      else .fail .intParsingSize
    | _ => .fail .notFinite
  | .text s => intNumeral s.toList
  | .bytes bs =>
    match Text.decodeUtf8 bs with
    | .ok cs => intNumeral cs
    | .error _ => .fail .intParsing
  | _ => .fail .intType

/-- A positive integer. -/
def positive (v : Value) : Check Nat :=
  (int v).andThen fun i => if 1 ≤ i then .pass i.toNat else .fail .belowMinimum

/-- One of the given texts. -/
def among {α : Type} (choices : List (String × α)) : Value → Check α
  | .text s =>
    match choices.lookup s with
    | some a => .pass a
    | none => .fail .notAmong
  | _ => .fail .notAmong

/-! ## Lists and objects -/

/-- Checks the items from index `index` on. -/
def itemsFrom {α : Type} (check : Value → Check α) (index : Nat) :
    List Value → Check (List α)
  | [] => .pass []
  | v :: rest =>
    List.cons <$> (check v).below (.index index) <*> itemsFrom check (index + 1) rest

/-- A list whose items pass a check; a set is one too. -/
def list {α : Type} (check : Value → Check α) (v : Value) : Check (List α) :=
  match v, v.items? with
  | .set members, _ => itemsFrom check 0 members
  | _, some items => itemsFrom check 0 items
  | _, none => .fail .listType

/-- The entries of an object. -/
abbrev Entries := List (Value × Value)

/-- An object whose entries pass a check. -/
def object {α : Type} (check : Entries → Check α) (v : Value) : Check α :=
  match v.entries? with
  | some entries => check entries
  | none => .fail .objectType

/-- The value under a key, which must be there. -/
def required {α : Type} (key : String) (check : Value → Check α) (entries : Entries) : Check α :=
  match Value.lookup entries key with
  | some v => (check v).below (.key key)
  | none => (Check.fail .missing).below (.key key)

/-- The value under a key, or a default. -/
def optional {α : Type} (key : String) (default : α) (check : Value → Check α)
    (entries : Entries) : Check α :=
  match Value.lookup entries key with
  | some v => (check v).below (.key key)
  | none => .pass default

end Validation

end TypedFetch
