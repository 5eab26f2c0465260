import TypedFetch.Naming
import TypedFetch.TypeScript.Literal

/-!
# Path templates

A path of an HTTP binding is literal text with placeholders in braces.  A placeholder names a field
of the request, possibly nested, and may add a pattern after an equals sign.  A brace that opens no
complete, non-empty placeholder is literal text.
-/

namespace TypedFetch.Http

/-- A part of a path template. -/
inductive Piece where
  /-- A character that stands for itself. -/
  | literal (c : Char)
  /-- A placeholder with the text between its braces. -/
  | placeholder (inner : List Char)
deriving Repr, BEq, DecidableEq

/-- The text between the braces of a placeholder that begins after an opening brace. -/
def placeholderInner? (rest : List Char) : Option (List Char) :=
  let inner := rest.takeWhile (· != '\x7d')
  if inner.isEmpty || inner.length == rest.length then none else some inner

/-- The pieces of a template after `skip` characters. -/
def piecesFrom : Nat → List Char → List Piece
  | _, [] => []
  | skip + 1, _ :: rest => piecesFrom skip rest
  | 0, c :: rest =>
    if c == '\x7b' then
      match placeholderInner? rest with
      | some inner => .placeholder inner :: piecesFrom (inner.length + 1) rest
      | none => .literal c :: piecesFrom 0 rest
    else .literal c :: piecesFrom 0 rest

/-- The pieces of a template. -/
def pieces (path : List Char) : List Piece :=
  piecesFrom 0 path

/-- The text of a piece. -/
def Piece.chars : Piece → List Char
  | .literal c => [c]
  | .placeholder inner => '\x7b' :: inner ++ ['\x7d']

/-- The field path that a placeholder names: what stands before the equals sign. -/
def fieldPath (inner : List Char) : List Char :=
  Text.trim (Text.cutFirst '=' inner).1

/-- The field paths of the placeholders, in order. -/
def fieldPaths (path : List Char) : List (List Char) :=
  (pieces path).filterMap fun
    | .literal _ => none
    | .placeholder inner => some (fieldPath inner)

/-- The property access of a field path: its segments in camel case. -/
def accessChars (field : List Char) : List Char :=
  List.intercalate ['.'] ((Text.cutAt '.' field).map Naming.camelChars)

/-- A piece of a template literal that reads the placeholders from the request. -/
def Piece.templateChars : Piece → List Char
  | .literal c => [c]
  | .placeholder inner =>
    "$\x7brequest.".toList ++ accessChars (fieldPath inner) ++ ['\x7d']

/-- The names of the path parameters, in order. -/
def pathParams (path : String) : List String :=
  (fieldPaths path.toList).map String.ofList

/-- The property access of a path parameter. -/
def paramExpression (param : String) : String :=
  String.ofList (accessChars param.toList)

/-- The body of a template literal for a path. -/
def pathTemplate (path : String) : String :=
  String.ofList ((pieces (TypeScript.templateChars path.toList)).flatMap Piece.templateChars)

end TypedFetch.Http
