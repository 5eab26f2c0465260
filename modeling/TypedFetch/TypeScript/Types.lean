import TypedFetch.Naming
import TypedFetch.Report
import TypedFetch.Schema.DependencyOrder
import TypedFetch.TypeScript.Declaration
import TypedFetch.TypeScript.TypeMapping

/-!
# The module of types

One interface per message, one union per enumeration, the utility types that the schema does not
define itself, and builder classes for the messages that describe filters and sort orders.
-/

namespace TypedFetch.TypeScript

open TypedFetch.Schema (Message EnumType Field)

/-- What the generated modules contain. -/
structure Features where
  /-- Descriptions become documentation comments. -/
  comments : Bool := true
  /-- Filter builders are generated. -/
  filterBuilders : Bool := true
  /-- Sort builders are generated. -/
  sortBuilders : Bool := true
deriving Repr, BEq, DecidableEq

/-- The lines of a documentation comment, if there are to be comments. -/
def Features.doc (features : Features) (description : Option String) : List String :=
  if features.comments then docLines description else []

/-- The first line of every generated module. -/
def notice : String := "// This file is auto-generated. Do not edit manually."

/-! ## Messages and enumerations -/

/-- The interface of a message. -/
def interfaceOf (policy : TypePolicy) (features : Features) (m : Message) : TypeDeclaration :=
  .interface m.name ""
    (m.fields.map fun f =>
      { name := Naming.camelCase f.name
        type := policy.fieldType f
        isOptional := f.isOptional
        doc := features.doc f.description })
    (features.doc m.description)

/-- The union of the names of an enumeration. -/
def unionOf (features : Features) (e : EnumType) : TypeDeclaration :=
  let union := " | ".intercalate (e.values.map fun v => "'" ++ v ++ "'")
  .alias e.name "" (if union.isEmpty then "never" else union) (features.doc e.description)

/-- The first element of each name. -/
def firstOfEachName {α : Type} (name : α → String) (items : List α) : List α :=
  items.foldl (fun acc x => if acc.any (fun y => name y == name x) then acc else acc ++ [x]) []

/-- The enumerations whose name is not taken, the first of each name. -/
def newEnums (taken : List String) (enums : List EnumType) : List EnumType :=
  (firstOfEachName EnumType.name enums).filter fun e => !taken.contains e.name

/-! ## Builders -/

/-- The messages whose name contains a marker, the first of each name. -/
def messagesMarked (marker : String) (messages : List Message) : List Message :=
  (firstOfEachName Message.name messages).filter fun m =>
    Text.occursIn marker.toList m.name.toList

/-- The marker of filter messages. -/
def filterMarker : String := "Filter"

/-- The marker of sort messages. -/
def sortMarker : String := "Sort"

/-- The name of the builder class of a message. -/
def builderName (m : Message) : String := m.name ++ "Builder"

/-- The names of the builder classes. -/
def builderNames (features : Features) (messages : List Message) : List String :=
  let named (marker : String) : List String := (messagesMarked marker messages).map builderName
  (if features.filterBuilders then named filterMarker else []) ++
    (if features.sortBuilders then named sortMarker else [])

/-- A method of a filter builder that sets a property. -/
structure Setter where
  /-- The name of the method and of the property. -/
  name : String
  /-- The type of the value. -/
  type : String
deriving Repr, BEq, DecidableEq

/-- The endings of names that already describe a condition. -/
def conditionEndings : List String := ["Like", "After", "Before"]

/-- The setters that a field asks for. -/
def fieldSetters (policy : TypePolicy) (f : Field) : List Setter :=
  let name := Naming.camelCase f.name
  let own : Setter := ⟨name, policy.fieldType f⟩
  if conditionEndings.any (fun e => e.toList.isSuffixOf name.toList) || f.isMap then [own]
  else if f.typeName == "string" then [own, ⟨name ++ "Like", "string"⟩]
  else if f.typeName == timestampType then
    [own, ⟨name ++ "After", policy.dateType⟩, ⟨name ++ "Before", policy.dateType⟩]
  else [own]

/-- A builder of filter values. -/
structure FilterBuilder where
  /-- The name of the class. -/
  name : String
  /-- The type that it builds. -/
  target : String
  /-- The setters, with distinct names. -/
  setters : List Setter
deriving Repr, BEq, DecidableEq

/-- The filter builder of a message. -/
def filterBuilderOf (policy : TypePolicy) (m : Message) : FilterBuilder where
  name := builderName m
  target := m.name
  setters := firstOfEachName Setter.name (m.fields.flatMap (fieldSetters policy))

/-- The text of a setter. -/
def Setter.text (s : Setter) : String :=
  "\n  " ++ s.name ++ "(value: " ++ s.type ++ "): this \x7b\n" ++
    "    this.filter." ++ s.name ++ " = value;\n    return this;\n  \x7d\n"

/-- The function that creates an object of a class. -/
def factory (head className : String) : String :=
  "\nexport function " ++ head ++ "(): " ++ className ++ " \x7b\n  return new " ++ className ++
    "();\n\x7d\n"

/-- The text of a filter builder and of its factory. -/
def FilterBuilder.text (b : FilterBuilder) : String :=
  "\n" ++ block ("export class " ++ b.name)
    ("  private filter: Partial<" ++ b.target ++ "> & Record<string, unknown> = \x7b\x7d;\n" ++
      String.join (b.setters.map Setter.text) ++
      "\n  build(): " ++ b.target ++ " \x7b\n    return this.filter as " ++ b.target ++
      ";\n  \x7d\n") ++
    factory ("create" ++ b.name) b.name

/-- The section of the filter builders. -/
def filterBuilders (policy : TypePolicy) (messages : List Message) : String :=
  "// Filter Builders\n" ++
    String.join ((messagesMarked filterMarker messages).map fun m =>
      (filterBuilderOf policy m).text)

/-- A method of a sort builder that adds a sort key. -/
structure SortMethod where
  /-- The name of the method. -/
  name : String
  /-- The field that is sorted by. -/
  field : String
deriving Repr, BEq, DecidableEq

/-- The sort keys of a message that declares none. -/
def fallbackSortFields : List String :=
  ["id", "name", "created_at", "updated_at", "email", "phone"]

/-- The methods of the sort builder of a message, with distinct names. -/
def sortMethodsOf (m : Message) : List SortMethod :=
  let fields := if m.fields.isEmpty then fallbackSortFields else m.fields.map (·.name)
  firstOfEachName SortMethod.name (fields.map fun f => ⟨"by" ++ Naming.pascalCase f, f⟩)

/-- The name of the type of a sort entry. -/
def sortEntryType : String := "SortDirection"

/-- The type of a list of sort entries when the schema defines the name of their type itself. -/
def inlineSortList : String := "Array<\x7b field: string; direction: 'asc' | 'desc' \x7d>"

/-- The type of a list of sort entries. -/
def sortListType (messages : List Message) (enums : List EnumType) : String :=
  if (messages.map (·.name) ++ enums.map (·.name)).contains sortEntryType then inlineSortList
  else sortEntryType ++ "[]"

/-- The text of a method of a sort builder. -/
def SortMethod.text (s : SortMethod) : String :=
  "\n  " ++ s.name ++ "(direction: 'asc' | 'desc' = 'asc'): this \x7b\n" ++
    "    this.sorts.push(\x7b field: '" ++ s.field ++ "', direction \x7d);\n" ++
    "    return this;\n  \x7d\n"

/-- The text of the sort builder of a message and of its factory. -/
def sortBuilderText (listType : String) (m : Message) : String :=
  "\n" ++ block ("export class " ++ builderName m)
    ("  private sorts: " ++ listType ++ " = [];\n" ++
      String.join ((sortMethodsOf m).map SortMethod.text) ++
      "\n  build(): " ++ listType ++ " \x7b\n    return this.sorts;\n  \x7d\n") ++
    factory ("create" ++ builderName m) (builderName m)

/-- The section of the sort builders. -/
def sortBuilders (messages : List Message) (enums : List EnumType) : String :=
  let listType := sortListType messages enums
  "// Sort Builders\n" ++
    String.join ((messagesMarked sortMarker messages).map (sortBuilderText listType))

/-! ## Utility types -/

/-- The utility types. -/
def utilityTypes (policy : TypePolicy) : List TypeDeclaration :=
  [.alias "Empty" "" "Record<string, never>" [],
   .interface "Pagination" "" [⟨"page", "number", false, []⟩, ⟨"size", "number", false, []⟩] [],
   .interface "ErrorDetail" ""
     [⟨"field", "string", false, []⟩, ⟨"message", "string", false, []⟩] [],
   .interface "ErrorResponse" ""
     [⟨"code", "number", false, []⟩, ⟨"message", "string", false, []⟩,
      ⟨"details", "ErrorDetail[]", true, []⟩] [],
   .interface "SuccessResponse" ""
     [⟨"message", "string", false, []⟩, ⟨"timestamp", policy.dateType, false, []⟩] [],
   .interface "PaginatedRequest" "<TFilter = any, TSort = any>"
     [⟨"pagination", "Pagination", true, []⟩, ⟨"filter", "TFilter", true, []⟩,
      ⟨"sort", "TSort[]", true, []⟩] [],
   .interface "PaginatedResponse" "<TData = any>"
     [⟨"data", "TData", false, []⟩, ⟨"total", "number", false, []⟩,
      ⟨"pagination", "Pagination", false, []⟩, ⟨"hasNextPage", "boolean", false, []⟩,
      ⟨"hasPrevPage", "boolean", false, []⟩] [],
   .interface "FilterOperators" "<T>"
     [⟨"eq", "T", true, []⟩, ⟨"ne", "T", true, []⟩, ⟨"gt", "T", true, []⟩, ⟨"gte", "T", true, []⟩,
      ⟨"lt", "T", true, []⟩, ⟨"lte", "T", true, []⟩, ⟨"in", "T[]", true, []⟩,
      ⟨"nin", "T[]", true, []⟩, ⟨"like", "T", true, []⟩] [],
   .alias "FilterBuilder" "<T>"
     "\x7b\n  [K in keyof T]?: T[K] | FilterOperators<T[K]>;\n\x7d" [],
   .interface "SortDirection" ""
     [⟨"field", "string", false, []⟩, ⟨"direction", "'asc' | 'desc'", false, []⟩] [],
   .alias "SortBuilder" "<T>" "\x7b\n  [K in keyof T]?: 'asc' | 'desc';\n\x7d" []]

/-- The text of a utility type: all but the last are followed by a blank line. -/
def utilityText (d : TypeDeclaration) : String :=
  if d.name == "SortBuilder" then d.text else d.text ++ "\n"

/-- The declarations of messages and enumerations. -/
def schemaDeclarations (policy : TypePolicy) (features : Features) (schema : Schema) :
    List TypeDeclaration × List TypeDeclaration :=
  let messages := Schema.dependencyOrder schema.messages
  (messages.map (interfaceOf policy features),
   (newEnums (messages.map (·.name)) schema.enums).map (unionOf features))

/-- The utility types whose names neither the schema nor a builder class takes. -/
def neededUtilities (policy : TypePolicy) (features : Features) (schema : Schema) :
    List TypeDeclaration :=
  let (interfaces, unions) := schemaDeclarations policy features schema
  let taken := (interfaces ++ unions).map (·.name) ++ builderNames features schema.messages
  (utilityTypes policy).filter fun d => !taken.contains d.name

/-- The section of the types. -/
def typeSection (policy : TypePolicy) (features : Features) (schema : Schema) : String :=
  let (interfaces, unions) := schemaDeclarations policy features schema
  notice ++ "\n// Generated from protobuf definitions\n\n" ++
    String.join ((interfaces ++ unions).map fun d => d.text ++ "\n") ++
    "// Utility types\n" ++
    String.join ((neededUtilities policy features schema).map utilityText)

/-- The warnings about cycles among messages. -/
def cycleEvents (messages : List Message) : List Event :=
  (Schema.dependencyCycles messages).map fun name =>
    .log .warning ("Circular dependency detected involving " ++ name ++
      ", keeping best-effort order")

/-- What is reported while the section of the types is made. -/
def typeEvents (schema : Schema) : List Event :=
  let (interfaces, unions) := schemaDeclarations {} {} schema
  cycleEvents schema.messages ++
    [.log .debug ("Rendering " ++ toString interfaces.length ++ " interfaces and " ++
      toString unions.length ++ " enums")]

/-- The module of types. -/
def typesModule (policy : TypePolicy) (features : Features) (schema : Schema) : String :=
  joinSections
    ([typeSection policy features schema] ++
      (if features.filterBuilders then [filterBuilders policy schema.messages] else []) ++
      (if features.sortBuilders then [sortBuilders schema.messages schema.enums] else []))

/-- What is reported while the module of types is made. -/
def typesModuleEvents (schema : Schema) : List Event :=
  .log .info ("Generating TypeScript types for " ++ toString schema.messages.length ++
    " messages") :: typeEvents schema

end TypedFetch.TypeScript
