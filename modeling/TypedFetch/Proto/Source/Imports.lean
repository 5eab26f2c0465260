import TypedFetch.Text.Blank
import TypedFetch.Text.Letter
import TypedFetch.Text.Search

/-!
# Import and package statements of a source text

These statements are found by their shape alone, at the start of a line, without regard to the text
around them.  An import may carry a modifier and either kind of quote.
-/

namespace TypedFetch.Proto.Source

open TypedFetch.Text

/-- Drops blanks, of which there must be one at least. -/
def dropBlanks? : List Char → Option (List Char)
  | c :: rest => if isBlank c then some (rest.dropWhile isBlank) else none
  | [] => none

/-- Either quote. -/
def isQuote (c : Char) : Bool :=
  c == '"' || c == '\''

/-- Drops a quote. -/
def dropQuote? : List Char → Option (List Char)
  | c :: rest => if isQuote c then some rest else none
  | [] => none

/-- Drops blanks and a semicolon. -/
def dropSemicolon? (cs : List Char) : Option (List Char) :=
  match cs.dropWhile isBlank with
  | ';' :: rest => some rest
  | _ => none

/-- Drops a modifier and the blanks after it, if they are there. -/
def dropModifier (cs : List Char) : List Char :=
  match (dropPrefix? "public".toList cs).or (dropPrefix? "weak".toList cs) with
  | some rest => (dropBlanks? rest).getD cs
  | none => cs

/-- Drops the start of an import statement up to and including the opening quote. -/
def dropImportHead? (cs : List Char) : Option (List Char) := do
  let rest ← dropPrefix? "import".toList cs
  let rest ← dropBlanks? rest
  dropQuote? (dropModifier rest)

/-- The path of an import statement that begins here, after blanks, and what follows it. -/
def importAt? (cs : List Char) : Option (List Char × List Char) := do
  let rest ← dropImportHead? (cs.dropWhile isBlank)
  let path := rest.takeWhile (fun c => !isQuote c)
  if path.isEmpty then none
  let rest ← dropQuote? (rest.drop path.length)
  let rest ← dropSemicolon? rest
  return (path, rest)

/-- A character of a package name. -/
def isPackageChar (c : Char) : Bool :=
  isWord c || c == '.'

/-- The name of a package statement that begins here, after blanks, and what follows it. -/
def packageAt? (cs : List Char) : Option (List Char × List Char) := do
  let rest ← dropPrefix? "package".toList (cs.dropWhile isBlank)
  let rest ← dropBlanks? rest
  let name := rest.takeWhile isPackageChar
  if name.isEmpty then none
  let rest ← dropSemicolon? (rest.drop name.length)
  return (name, rest)

/-- What `find?` finds at the starts of lines, from left to right and without overlap. -/
def findAtLines (find? : List Char → Option (List Char × List Char)) :
    Bool → Nat → List Char → List (List Char)
  | _, _, [] => []
  | _, skip + 1, c :: rest => findAtLines find? (c == '\n') skip rest
  | false, 0, c :: rest => findAtLines find? (c == '\n') 0 rest
  | true, 0, c :: rest =>
    match find? (c :: rest) with
    | some (found, after) =>
      found :: findAtLines find? (c == '\n') (rest.length - after.length) rest
    | none => findAtLines find? (c == '\n') 0 rest

/-- The paths of the import statements, in order. -/
def importChars (text : List Char) : List (List Char) :=
  findAtLines importAt? true 0 text

/-- The paths of the import statements, in order. -/
def imports (text : List Char) : List String :=
  (importChars text).map String.ofList

/-- The name in the first package statement, or nothing. -/
def packageName (text : List Char) : String :=
  match findAtLines packageAt? true 0 text with
  | name :: _ => String.ofList name
  | [] => ""

/-- What follows, on a later line, an import statement of `target` that begins here. -/
def afterImportOf? (target cs : List Char) : Option (List Char) := do
  let rest ← dropImportHead? (cs.dropWhile (fun c => c == ' ' || c == '\t'))
  let rest ← dropPrefix? target rest
  let rest ← dropQuote? rest
  let rest ← dropSemicolon? rest
  return rest.dropWhile (· != '\n')

/-- Deletes the lines of import statements of `target`. -/
def removeImportFrom (target : List Char) : Bool → Nat → List Char → List Char
  | _, _, [] => []
  | _, skip + 1, c :: rest => removeImportFrom target (c == '\n') skip rest
  | false, 0, c :: rest => c :: removeImportFrom target (c == '\n') 0 rest
  | true, 0, c :: rest =>
    match afterImportOf? target (c :: rest) with
    | some after => removeImportFrom target (c == '\n') (rest.length - after.length) rest
    | none => c :: removeImportFrom target (c == '\n') 0 rest

/-- Deletes the lines of import statements of each target. -/
def removeImports (text : List Char) (targets : List (List Char)) : List Char :=
  targets.foldl (fun text target => removeImportFrom target true 0 text) text

end TypedFetch.Proto.Source
