import TypedFetch.TypeScript.Literal

/-!
# Declarations

The declarations of generated TypeScript modules, and their text.
-/

namespace TypedFetch.TypeScript

/-- A documentation comment with the given lines and indent; without lines there is none. -/
def docComment (indent : String) (lines : List String) : String :=
  if lines.isEmpty then ""
  else
    indent ++ "/**\n" ++ String.join (lines.map fun line => indent ++ " * " ++ line ++ "\n") ++
      indent ++ " */\n"

/-- A head, an indented body that is already written, and the closing brace. -/
def block (head body : String) : String :=
  head ++ " \x7b\n" ++ body ++ "\x7d\n"

/-- A property of an interface. -/
structure Property where
  /-- The name. -/
  name : String
  /-- The type expression. -/
  type : String
  /-- The property may be absent. -/
  isOptional : Bool := false
  /-- The lines of its documentation. -/
  doc : List String := []
deriving Repr, BEq, DecidableEq

/-- The text of a property. -/
def Property.text (p : Property) : String :=
  docComment "  " p.doc ++ "  " ++ p.name ++ (if p.isOptional then "?" else "") ++ ": " ++ p.type ++
    ";\n"

/-- A type that a module exports. -/
inductive TypeDeclaration where
  /-- An interface with type parameters, written with their brackets. -/
  | interface (name params : String) (properties : List Property) (doc : List String)
  /-- A name for a type expression. -/
  | alias (name params : String) (type : String) (doc : List String)
deriving Repr, BEq, DecidableEq

/-- The exported name. -/
def TypeDeclaration.name : TypeDeclaration → String
  | .interface name _ _ _ => name
  | .alias name _ _ _ => name

/-- The text of a type declaration. -/
def TypeDeclaration.text : TypeDeclaration → String
  | .interface name params properties doc =>
    docComment "" doc ++
      block ("export interface " ++ name ++ params) (String.join (properties.map Property.text))
  | .alias name params type doc =>
    docComment "" doc ++ "export type " ++ name ++ params ++ " = " ++ type ++ ";\n"

/-- The texts of sections, each with one line feed at its end, divided by blank lines. -/
def joinSections (sections : List String) : String :=
  "\n".intercalate (sections.map fun s =>
    String.ofList (Text.dropEndWhile (· == '\n') s.toList) ++ "\n")

end TypedFetch.TypeScript
