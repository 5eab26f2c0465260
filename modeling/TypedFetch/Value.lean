import TypedFetch.Number.Double
import TypedFetch.Text.Printable
import TypedFetch.Text.Search
import TypedFetch.Text.Utf8
import TypedFetch.Time.Calendar

/-!
# Dynamic values

The values that request objects, option mappings, configuration documents and response bodies
hold.  A mapping keeps its entries in the order in which their keys first appeared.  A value has
two texts: the *display* text, in which a string stands for itself, and the *quoted* text, in
which it is written between quotes; containers show their elements quoted.
-/

namespace TypedFetch

/-- A value of a configuration document, a request or a response. -/
inductive Value where
  | null
  | bool (b : Bool)
  | int (i : Int)
  | double (x : Float)
  | text (s : String)
  | bytes (bs : List UInt8)
  /-- A date with a time of day. -/
  | instant (t : Time.Instant)
  /-- A calendar date. -/
  | day (d : Time.Date)
  /-- A member of an enumeration, which stands for the value. -/
  | member (v : Value)
  | list (items : List Value)
  /-- A list that cannot grow. -/
  | tuple (items : List Value)
  | map (entries : List (Value × Value))
  /-- A mapping that says in its text that it is ordered. -/
  | ordered (entries : List (Value × Value))
  /-- A collection without order and repetition. -/
  | set (members : List Value)

instance : Inhabited Value := ⟨.null⟩

namespace Value

/-! ## Quoting -/

/-- Lower case hexadecimal digits of a number, filled up to a width. -/
def hexDigits (width n : Nat) : List Char :=
  let digits := Nat.toDigits 16 n
  List.replicate (width - digits.length) '0' ++ digits

/-- The quote around a text: a double quote only if that spares escapes. -/
def quoteFor (hasSingle hasDouble : Bool) : Char :=
  if hasSingle && !hasDouble then '"' else '\''

/-- One character between quotes. -/
def quotedChar (quote c : Char) : List Char :=
  if c == quote || c == '\\' then ['\\', c]
  else if c == '\n' then ['\\', 'n']
  else if c == '\r' then ['\\', 'r']
  else if c == '\t' then ['\\', 't']
  else if Text.isPrintable c then [c]
  else if c.toNat < 256 then '\\' :: 'x' :: hexDigits 2 c.toNat
  else if c.toNat < 65536 then '\\' :: 'u' :: hexDigits 4 c.toNat
  else '\\' :: 'U' :: hexDigits 8 c.toNat

/-- A text between quotes, with escapes for the quote and for what cannot be printed. -/
def quotedText (s : String) : String :=
  let cs := s.toList
  let quote := quoteFor (cs.contains '\'') (cs.contains '"')
  String.ofList (quote :: cs.flatMap (quotedChar quote) ++ [quote])

/-- One byte between quotes. -/
def quotedByte (quote : Char) (b : UInt8) : List Char :=
  let c := Char.ofNat b.toNat
  if c == quote || c == '\\' then ['\\', c]
  else if c == '\n' then ['\\', 'n']
  else if c == '\r' then ['\\', 'r']
  else if c == '\t' then ['\\', 't']
  else if 32 ≤ b && b < 127 then [c]
  else '\\' :: 'x' :: hexDigits 2 b.toNat

/-- A byte sequence between quotes. -/
def quotedBytes (bs : List UInt8) : String :=
  let quote := quoteFor (bs.contains 39) (bs.contains 34)
  String.ofList ('b' :: quote :: bs.flatMap (quotedByte quote) ++ [quote])

/-- The name of a member of an enumeration. -/
def memberName : String := "E.MEMBER"

/-- The text of a truth value. -/
def boolText (b : Bool) : String :=
  if b then "True" else "False"

mutual

/-- The text of a value inside a container. -/
def quoted : Value → String
  | null => "None"
  | bool b => boolText b
  | int i => toString i
  | double x => Number.text x
  | text s => quotedText s
  | bytes bs => quotedBytes bs
  | instant t => t.construction
  | day d => d.construction
  | member v => "<" ++ memberName ++ ": " ++ quoted v ++ ">"
  | list items => "[" ++ ", ".intercalate (quotedItems items) ++ "]"
  | tuple [item] => "(" ++ quoted item ++ ",)"
  | tuple items => "(" ++ ", ".intercalate (quotedItems items) ++ ")"
  | map entries => "\x7b" ++ ", ".intercalate (quotedEntries entries) ++ "\x7d"
  | ordered [] => "OrderedDict()"
  | ordered entries => "OrderedDict([" ++ ", ".intercalate (quotedPairs entries) ++ "])"
  | set [] => "set()"
  | set members => "\x7b" ++ ", ".intercalate (quotedItems members) ++ "\x7d"

/-- The texts of the items of a container. -/
def quotedItems : List Value → List String
  | [] => []
  | v :: rest => quoted v :: quotedItems rest

/-- The texts of the entries of a mapping. -/
def quotedEntries : List (Value × Value) → List String
  | [] => []
  | (k, v) :: rest => (quoted k ++ ": " ++ quoted v) :: quotedEntries rest

/-- The texts of the entries of a mapping as pairs. -/
def quotedPairs : List (Value × Value) → List String
  | [] => []
  | (k, v) :: rest => ("(" ++ quoted k ++ ", " ++ quoted v ++ ")") :: quotedPairs rest

end

/-- The text of a value that stands alone. -/
def display : Value → String
  | text s => s
  | instant t => t.textWith " "
  | day d => d.text
  | member _ => memberName
  | v => quoted v

/-- The word for the kind of a value. -/
def kindName : Value → String
  | null => "NoneType"
  | bool _ => "bool"
  | int _ => "int"
  | double _ => "float"
  | text _ => "str"
  | bytes _ => "bytes"
  | instant _ => "datetime"
  | day _ => "date"
  | member _ => "E"
  | list _ => "list"
  | tuple _ => "tuple"
  | map _ => "dict"
  | ordered _ => "OrderedDict"
  | set _ => "set"

/-! ## Truth, keys and lookup -/

/-- A value counts as false when it is null, false, zero or empty. -/
def truthy : Value → Bool
  | null => false
  | bool b => b
  | int i => i != 0
  | double x => x != 0.0
  | text s => !s.isEmpty
  | bytes bs => !bs.isEmpty
  | list items => !items.isEmpty
  | tuple items => !items.isEmpty
  | map entries => !entries.isEmpty
  | ordered entries => !entries.isEmpty
  | set members => !members.isEmpty
  | _ => true

/-- A truth value or an integer as an integer. -/
def asInt? : Value → Option Int
  | bool b => some (if b then 1 else 0)
  | int i => some i
  | double x =>
    match Number.exact x with
    | .finite negative m q =>
      if Number.isWhole m q then some (Number.signed negative (Number.truncate m q)) else none
    | _ => none
  | _ => none

mutual

/-- Two keys of a mapping are the same key: numbers and truth values by their amount, all else by
kind and content.  Every member of an enumeration is a key of its own. -/
def sameKey : Value → Value → Bool
  | null, null => true
  | text a, text b => a == b
  | bytes a, bytes b => a == b
  | instant a, instant b => a.same b
  | day a, day b => a == b
  | double x, double y => x == y || (x.isNaN && y.isNaN)
  | tuple a, tuple b => sameKeys a b
  | a, b =>
    match a.asInt?, b.asInt? with
    | some i, some j => i == j
    | _, _ => false

/-- The keys of two lists are the same in order. -/
def sameKeys : List Value → List Value → Bool
  | [], [] => true
  | a :: as, b :: bs => sameKey a b && sameKeys as bs
  | _, _ => false

end

mutual

/-- The value can be a key of a mapping. -/
def isKey : Value → Bool
  | list _ => false
  | map _ => false
  | ordered _ => false
  | set _ => false
  | tuple items => areKeys items
  | _ => true

/-- All values of a list can be keys of a mapping. -/
def areKeys : List Value → Bool
  | [] => true
  | v :: rest => isKey v && areKeys rest

end

/-- Sets a key of a mapping: a key that is present keeps its place. -/
def insertEntry (key value : Value) : List (Value × Value) → List (Value × Value)
  | [] => [(key, value)]
  | (k, v) :: rest =>
    if sameKey k key then (k, value) :: rest else (k, v) :: insertEntry key value rest

/-- Collects entries into a mapping. -/
def collect (entries : List (Value × Value)) : List (Value × Value) :=
  entries.foldl (fun acc e => insertEntry e.1 e.2 acc) []

/-- The value under a text key. -/
def lookup (entries : List (Value × Value)) (key : String) : Option Value :=
  (entries.find? (fun e => sameKey e.1 (.text key))).map (·.2)

/-- The value under a text key of a mapping. -/
def get? (v : Value) (key : String) : Option Value :=
  match v with
  | map entries => lookup entries key
  | ordered entries => lookup entries key
  | _ => none

/-- The text that a value is. -/
def asText? : Value → Option String
  | text s => some s
  | _ => none

/-- An object with text keys. -/
def object (fields : List (String × Value)) : Value :=
  .map (fields.map fun (k, v) => (.text k, v))

/-- The entries of a mapping. -/
def entries? : Value → Option (List (Value × Value))
  | map entries => some entries
  | ordered entries => some entries
  | _ => none

/-- The items of a list or tuple. -/
def items? : Value → Option (List Value)
  | list items => some items
  | tuple items => some items
  | _ => none

/-! ## Order -/

/-- A truth value or a number as an amount. -/
def amount? : Value → Option Float
  | bool b => some (if b then 1.0 else 0.0)
  | int i => some (Float.ofInt i)
  | double x => some x
  | _ => none

/-- The order of numbers by amount and of texts by character. -/
def precedes (a b : Value) : Bool :=
  match amount? a, amount? b with
  | some x, some y => x ≤ y
  | _, _ => Text.textLE a.display b.display

/-- Values have an order if there is one at most, or all are texts, or all are numbers. -/
def areSortable (values : List Value) : Bool :=
  values.length < 2 || values.all (fun v => v.asText?.isSome) ||
    values.all fun v => (amount? v).isSome

/-- The values in order, if they have one. -/
def sorted? (values : List Value) : Option (List Value) :=
  if areSortable values then some (values.mergeSort precedes) else none

end Value

end TypedFetch
