import Mathlib.Data.List.Basic
import TypedFetch.TypeScript.Types

/-!
# Generated text with its type positions

The generated modules are texts.  To speak about the types that they refer to and about the names
that they export, a text is taken apart into fragments: fixed code, names, literals and comments,
the heads of exported declarations, and type expressions.  A type expression is a tree, so the names
in it can be listed; writing all fragments one after the other gives the text back.
-/

namespace TypedFetch.TypeScript.Syntax

/-! ## Type expressions -/

/-- A type expression. -/
inductive TypeExpr where
  /-- A type of the same module or of the language. -/
  | name (n : String)
  /-- A type of the module of types, seen from the module of the client. -/
  | imported (n : String)
  | apply (head arg : TypeExpr)
  | applyTwo (head first second : TypeExpr)
  | array (item : TypeExpr)
  /-- A union of string literals. -/
  | literals (values : List String)
  | either (left right : TypeExpr)
  | both (left right : TypeExpr)
  /-- An object type with two properties. -/
  | object (firstName : String) (first : TypeExpr) (secondName : String) (second : TypeExpr)
  /-- An object type with an optional property for every key of another type. -/
  | mapped (key : String) (source value : TypeExpr)
  /-- The type of a property. -/
  | property (owner key : TypeExpr)

namespace TypeExpr

/-- The text of a type expression. -/
def text : TypeExpr → String
  | name n => n
  | imported n => "Types." ++ n
  | apply head arg => head.text ++ "<" ++ arg.text ++ ">"
  | applyTwo head first second => head.text ++ "<" ++ first.text ++ ", " ++ second.text ++ ">"
  | array item => item.text ++ "[]"
  | literals values => " | ".intercalate (values.map fun v => "'" ++ v ++ "'")
  | either left right => left.text ++ " | " ++ right.text
  | both left right => left.text ++ " & " ++ right.text
  | object firstName first secondName second =>
    "\x7b " ++ firstName ++ ": " ++ first.text ++ "; " ++ secondName ++ ": " ++ second.text ++
      " \x7d"
  | mapped key source value =>
    "\x7b\n  [" ++ key ++ " in keyof " ++ source.text ++ "]?: " ++ value.text ++ ";\n\x7d"
  | property owner key => owner.text ++ "[" ++ key.text ++ "]"

/-- The types of the same module or of the language that an expression refers to. -/
def names : TypeExpr → List String
  | name n => [n]
  | imported _ => []
  | apply head arg => head.names ++ arg.names
  | applyTwo head first second => head.names ++ first.names ++ second.names
  | array item => item.names
  | literals _ => []
  | either left right => left.names ++ right.names
  | both left right => left.names ++ right.names
  | object _ first _ second => first.names ++ second.names
  | mapped key source value => source.names ++ value.names.filter (· != key)
  | property owner key => owner.names ++ key.names

/-- The types of the module of types that an expression refers to from outside. -/
def imports : TypeExpr → List String
  | name _ => []
  | imported n => [n]
  | apply head arg => head.imports ++ arg.imports
  | applyTwo head first second => head.imports ++ first.imports ++ second.imports
  | array item => item.imports
  | literals _ => []
  | either left right => left.imports ++ right.imports
  | both left right => left.imports ++ right.imports
  | object _ first _ second => first.imports ++ second.imports
  | mapped _ source value => source.imports ++ value.imports
  | property owner key => owner.imports ++ key.imports

end TypeExpr

/-- The types of the language that generated modules use. -/
def builtinTypes : List String :=
  ["string", "number", "boolean", "bigint", "unknown", "never", "any", "this", "Date", "Uint8Array",
   "Record", "Partial", "Array"]

/-- A type parameter of a declaration. -/
structure TypeParam where
  /-- The name. -/
  name : String
  /-- The parameter may be left out, and then is any type. -/
  isOptional : Bool := true

/-- A type parameter that must be given. -/
def TypeParam.required (name : String) : TypeParam := { name, isOptional := false }

/-- The text of a type parameter. -/
def TypeParam.text (p : TypeParam) : String :=
  p.name ++ (if p.isOptional then " = any" else "")

/-- The text of a list of type parameters. -/
def paramsText (params : List TypeParam) : String :=
  if params.isEmpty then "" else "<" ++ ", ".intercalate (params.map TypeParam.text) ++ ">"

/-! ## Fragments -/

/-- A part of a generated text. -/
inductive Fragment where
  /-- Code that is the same in every module. -/
  | code (s : String)
  /-- A name, a literal or a comment. -/
  | given (s : String)
  /-- The head of an exported declaration. -/
  | exported (kind name : String) (params : List TypeParam)
  /-- A type expression in the scope of type parameters. -/
  | type (scope : List TypeParam) (expr : TypeExpr)

namespace Fragment

/-- The text of a fragment. -/
def text : Fragment → String
  | code s => s
  | given s => s
  | exported kind name params => "export " ++ kind ++ " " ++ name ++ paramsText params
  | type _ expr => expr.text

/-- The name that a fragment exports. -/
def exports : Fragment → List String
  | exported _ name _ => [name]
  | _ => []

/-- The types of the same module or of the language that a fragment refers to. -/
def references : Fragment → List String
  | type scope expr => expr.names.filter fun n => !(scope.map (·.name)).contains n
  | _ => []

/-- The types of the module of types that a fragment refers to from outside. -/
def imports : Fragment → List String
  | type _ expr => expr.imports
  | _ => []

@[simp] lemma references_code (s : String) : (code s).references = [] := rfl

@[simp] lemma references_given (s : String) : (given s).references = [] := rfl

@[simp] lemma references_exported (kind name : String) (params : List TypeParam) :
    (exported kind name params).references = [] := rfl

@[simp] lemma imports_code (s : String) : (code s).imports = [] := rfl

@[simp] lemma imports_given (s : String) : (given s).imports = [] := rfl

@[simp] lemma imports_exported (kind name : String) (params : List TypeParam) :
    (exported kind name params).imports = [] := rfl

@[simp] lemma imports_type (scope : List TypeParam) (expr : TypeExpr) :
    (type scope expr).imports = expr.imports := rfl

end Fragment

/-- The text of fragments. -/
def write (fs : List Fragment) : String :=
  String.join (fs.map Fragment.text)

@[simp] lemma write_nil : write [] = "" := rfl

@[simp] lemma write_cons (f : Fragment) (fs : List Fragment) :
    write (f :: fs) = f.text ++ write fs := by
  simp [write]

@[simp] lemma write_append (fs gs : List Fragment) : write (fs ++ gs) = write fs ++ write gs := by
  simp [write]

lemma write_flatMap {α : Type} (xs : List α) (f : α → List Fragment) :
    write (xs.flatMap f) = String.join (xs.map fun x => write (f x)) := by
  induction xs with
  | nil => rfl
  | cons x xs ih => simp [ih]

/-- A module is a list of sections, each a list of fragments. -/
abbrev Module := List (List Fragment)

namespace Module

/-- The text of a module. -/
def text (m : Module) : String :=
  joinSections (m.map write)

/-- The names that a module exports. -/
def exports (m : Module) : List String :=
  m.flatten.flatMap Fragment.exports

/-- The types of the same module or of the language that a module refers to. -/
def references (m : Module) : List String :=
  m.flatten.flatMap Fragment.references

/-- The types of the module of types that another module refers to. -/
def imports (m : Module) : List String :=
  m.flatten.flatMap Fragment.imports

end Module

/-! ## Declarations -/

/-- A property of an interface. -/
structure PropertySyntax where
  /-- The name. -/
  name : String
  /-- The type. -/
  type : TypeExpr
  /-- The property may be absent. -/
  isOptional : Bool := false
  /-- The lines of its documentation. -/
  doc : List String := []

/-- A property that is always there. -/
def PropertySyntax.required (name : String) (type : TypeExpr) : PropertySyntax := { name, type }

/-- A property that may be absent. -/
def PropertySyntax.optional (name : String) (type : TypeExpr) : PropertySyntax :=
  { name, type, isOptional := true }

/-- The property with its type as a text. -/
def PropertySyntax.property (p : PropertySyntax) : Property :=
  ⟨p.name, p.type.text, p.isOptional, p.doc⟩

/-- The fragments of a property. -/
def PropertySyntax.fragments (scope : List TypeParam) (p : PropertySyntax) : List Fragment :=
  [.given (docComment "  " p.doc), .code "  ", .given p.name,
   .code (if p.isOptional then "?" else ""), .code ": ", .type scope p.type, .code ";\n"]

lemma write_property (scope : List TypeParam) (p : PropertySyntax) :
    write (p.fragments scope) = p.property.text := by
  simp only [PropertySyntax.fragments, PropertySyntax.property, Property.text, Fragment.text,
    write_cons, write_nil, String.append_assoc, String.append_empty]
  rfl

/-- What a declaration declares. -/
inductive DeclarationBody where
  /-- An interface with properties. -/
  | shape (properties : List PropertySyntax)
  /-- A name for a type expression. -/
  | synonym (type : TypeExpr)

/-- An exported type with its type expressions. -/
structure DeclarationSyntax where
  /-- The name. -/
  name : String
  /-- The type parameters. -/
  params : List TypeParam := []
  /-- The lines of its documentation. -/
  doc : List String := []
  /-- What it stands for. -/
  body : DeclarationBody

namespace DeclarationSyntax

/-- The declaration with its types as texts. -/
def declaration (d : DeclarationSyntax) : TypeDeclaration :=
  match d.body with
  | .shape properties =>
    .interface d.name (paramsText d.params) (properties.map (·.property)) d.doc
  | .synonym type => .alias d.name (paramsText d.params) type.text d.doc

/-- The fragments of a declaration. -/
def fragments (d : DeclarationSyntax) : List Fragment :=
  .given (docComment "" d.doc) ::
    match d.body with
    | .shape properties =>
      .exported "interface" d.name d.params :: .code " \x7b\n" ::
        properties.flatMap (PropertySyntax.fragments d.params) ++ [.code "\x7d\n"]
    | .synonym type =>
      [.exported "type" d.name d.params, .code " = ", .type d.params type, .code ";\n"]

lemma name_declaration (d : DeclarationSyntax) : d.declaration.name = d.name := by
  unfold declaration
  split <;> rfl

lemma write_fragments (d : DeclarationSyntax) : write d.fragments = d.declaration.text := by
  obtain ⟨name, params, doc, body⟩ := d
  cases body with
  | shape properties =>
    have hprops : (fun p : PropertySyntax => write (p.fragments params)) =
        fun p => p.property.text := funext fun p => write_property params p
    simp [fragments, declaration, TypeDeclaration.text, block, Fragment.text, write_flatMap, hprops,
      Function.comp_def, String.append_assoc]
  | synonym type =>
    simp [fragments, declaration, TypeDeclaration.text, Fragment.text, String.append_assoc]

lemma exports_fragments (d : DeclarationSyntax) :
    d.name ∈ d.fragments.flatMap Fragment.exports := by
  obtain ⟨name, params, doc, body⟩ := d
  cases body <;> simp [fragments, Fragment.exports]

/-- The references of a declaration. -/
def references (d : DeclarationSyntax) : List String :=
  d.fragments.flatMap Fragment.references

end DeclarationSyntax

end TypedFetch.TypeScript.Syntax
