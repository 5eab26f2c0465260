import TypedFetch.Text.Blank
import TypedFetch.Text.Lines
import TypedFetch.Text.Search
import TypedFetch.Value

/-!
# Literals and comments

Text inside TypeScript source: single-quoted string literals, the fixed parts of template literals,
and the lines of documentation comments, in which the end mark of a comment is broken up.
-/

namespace TypedFetch.TypeScript

/-- The escape of a control character. -/
def controlEscape (c : Char) : List Char :=
  match c with
  | '\n' => ['\\', 'n']
  | '\r' => ['\\', 'r']
  | '\t' => ['\\', 't']
  | '\x08' => ['\\', 'b']
  | '\x0c' => ['\\', 'f']
  | _ => '\\' :: 'u' :: Value.hexDigits 4 c.toNat

/-- One character of a JSON string. -/
def jsonChar (c : Char) : List Char :=
  if c == '"' || c == '\\' then ['\\', c]
  else if c.toNat < 32 then controlEscape c
  else [c]

/-- A text as a single-quoted string literal: a JSON string with other quotes, of which the double
ones are left as they are and the single ones are escaped. -/
def literalChars (cs : List Char) : List Char :=
  let bare := Text.replaceAll ['\\', '"'] ['"'] (cs.flatMap jsonChar)
  '\'' :: Text.replaceAll ['\''] ['\\', '\''] bare ++ ['\'']

/-- A text as a single-quoted string literal. -/
def stringLiteral (s : String) : String :=
  String.ofList (literalChars s.toList)

/-- A text as a fixed part of a template literal: backslashes, back quotes and the start of a
substitution are escaped. -/
def templateChars : List Char → List Char
  | [] => []
  | '$' :: rest =>
    match rest with
    | '\x7b' :: _ => '\\' :: '$' :: templateChars rest
    | _ => '$' :: templateChars rest
  | c :: rest =>
    if c == '\\' || c == '\x60' then '\\' :: c :: templateChars rest else c :: templateChars rest

/-- A text as a fixed part of a template literal. -/
def templateText (s : String) : String :=
  String.ofList (templateChars s.toList)

/-- A line of a documentation comment, in which no comment end remains. -/
def docLine (line : List Char) : List Char :=
  Text.replaceAll ['*', '/'] ['*', '\\', '/'] line

/-- The lines of a description that are not blank, ready for a documentation comment. -/
def docLines (description : Option String) : List String :=
  ((Text.lines (description.getD "").toList).filter (fun line => !Text.isBlankText line)).map
    fun line => String.ofList (docLine line)

end TypedFetch.TypeScript
