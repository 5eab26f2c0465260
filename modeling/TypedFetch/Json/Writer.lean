import TypedFetch.Value

/-!
# Writing JSON

The indented form of a JSON document, in ASCII only: characters beyond ASCII are written as escapes,
those beyond the basic plane as a pair of them.
-/

namespace TypedFetch.Json

/-- The escape of a 16-bit code unit. -/
def unitEscape (n : Nat) : List Char :=
  '\\' :: 'u' :: Value.hexDigits 4 n

/-- The short escape of a control character, if it has one. -/
def shortEscape? (c : Char) : Option Char :=
  match c with
  | '\n' => some 'n'
  | '\r' => some 'r'
  | '\t' => some 't'
  | '\x08' => some 'b'
  | '\x0c' => some 'f'
  | _ => none

/-- One character of an ASCII string literal. -/
def asciiChar (c : Char) : List Char :=
  if c == '"' || c == '\\' then ['\\', c]
  else match shortEscape? c with
    | some e => ['\\', e]
    | none =>
      let n := c.toNat
      if n < 32 then unitEscape n
      else if n < 127 then [c]
      else if n < 65536 then unitEscape n
      else
        let m := n - 65536
        unitEscape (0xD800 + m / 1024) ++ unitEscape (0xDC00 + m % 1024)

/-- An ASCII string literal. -/
def asciiString (s : String) : String :=
  String.ofList ('"' :: s.toList.flatMap asciiChar ++ ['"'])

/-- A document made of texts and objects. -/
inductive Document where
  | text (s : String)
  | object (fields : List (String × Document))

mutual

/-- The lines of a document, the first of which continues a line that is indented by `depth`
steps of two spaces. -/
def Document.write (depth : Nat) : Document → String
  | .text s => asciiString s
  | .object [] => "\x7b\x7d"
  | .object fields =>
    let inner := writeFields (depth + 1) fields
    "\x7b\n" ++ ",\n".intercalate inner ++ "\n" ++ "".pushn ' ' (2 * depth) ++ "\x7d"

/-- The fields of an object, each on a line of its own. -/
def writeFields (depth : Nat) : List (String × Document) → List String
  | [] => []
  | (key, value) :: rest =>
    ("".pushn ' ' (2 * depth) ++ asciiString key ++ ": " ++ value.write depth) ::
      writeFields depth rest

end

end TypedFetch.Json
