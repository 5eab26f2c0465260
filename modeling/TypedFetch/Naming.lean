import TypedFetch.Text.Blank
import TypedFetch.Text.LetterCase
import TypedFetch.Text.Search

/-!
# Names

Conversion of identifiers between naming styles.  A name is first cut into words: delimiters at
its ends are dropped, punctuation is deleted, and every run of delimiters becomes one space.
A name in capitals throughout is read in lower case.  A style then writes the words without the
spaces, with a capital after each of them.
-/

namespace TypedFetch.Naming

open TypedFetch.Text

/-- A character that separates the words of a name. -/
def isDelimiter (c : Char) : Bool :=
  c == ' ' || c == '-' || c == '_'

/-- ASCII punctuation other than the delimiters. -/
def isPunctuation (c : Char) : Bool :=
  let n := c.toNat
  ((33 ≤ n && n ≤ 47) || (58 ≤ n && n ≤ 64) || (91 ≤ n && n ≤ 96) || (123 ≤ n && n ≤ 126)) &&
    !isDelimiter c

/-- Every run of delimiters becomes one space. -/
def joinDelimiters : List Char → List Char
  | [] => []
  | c :: rest =>
    if isDelimiter c then
      match rest with
      | [] => [' ']
      | d :: _ => if isDelimiter d then joinDelimiters rest else ' ' :: joinDelimiters rest
    else c :: joinDelimiters rest

/-- The words of a name, separated by single spaces. -/
def words (name : List Char) : List Char :=
  let inner := trimWhile isDelimiter name
  let joined := joinDelimiters (inner.filter (fun c => !isPunctuation c))
  if isAllUpper joined then lower joined else joined

/-- The two styles. -/
inductive Style where
  /-- The first word starts in lower case. -/
  | camel
  /-- Every word starts with a capital, and capitals in a row stay. -/
  | pascal
deriving Repr, BEq, DecidableEq

/-- A capital keeps its case after this character. -/
def Style.keepsCapitalAfter (style : Style) (before : Option Char) : Bool :=
  match before with
  | none => false
  | some p => isLetter p && (isLower p || (style == .pascal && isUpper p))

/-- Writes words in a style, after the character `before` of the name. -/
def Style.write (style : Style) : Option Char → List Char → List Char
  | _, [] => []
  | _, [' '] => []
  | _, ' ' :: c :: rest => upperOf c ++ style.write (some ' ') rest
  | before, c :: rest =>
    (if isUpper c && style.keepsCapitalAfter before then [c] else lower [c]) ++
      style.write (some c) rest

/-- A name in camel case. -/
def camelChars (name : List Char) : List Char :=
  Style.camel.write none (words name)

/-- A name in pascal case. -/
def pascalChars (name : List Char) : List Char :=
  match words name with
  | [] => []
  | c :: rest => upperOf c ++ Style.pascal.write none rest

/-- A name in camel case. -/
def camelCase (name : String) : String :=
  String.ofList (camelChars name.toList)

/-- A name in pascal case. -/
def pascalCase (name : String) : String :=
  String.ofList (pascalChars name.toList)

/-- The last segment of a dotted name. -/
def simpleName (name : String) : String :=
  String.ofList (afterLast '.' name.toList)

end TypedFetch.Naming
