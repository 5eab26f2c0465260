import TypedFetch.Proofs.TypeScript.FirstOfEachName
import TypedFetch.Proofs.TypeScript.Syntax

/-!
# The type positions of the module of types

The module of types as a list of fragments: the interfaces, the unions, the utility types and the
builders with every type as an expression.  Written out, the fragments are the module.
-/

namespace TypedFetch.TypeScript

open TypedFetch.Schema (Message EnumType Field)
open Syntax

/-! ## Types of fields -/

/-- A record with any value at every key. -/
def anyRecord : TypeExpr := .applyTwo (.name "Record") (.name "string") (.name "unknown")

/-- The well-known messages whose type is not a single name. -/
def composedTypes : List (String × TypeExpr) :=
  [("google.protobuf.Struct", anyRecord), ("google.protobuf.Any", anyRecord),
   ("google.protobuf.ListValue", .array (.name "unknown"))]

/-- The type of one value of a named type. -/
def TypePolicy.singleExpr (policy : TypePolicy) (name : String) : TypeExpr :=
  (composedTypes.lookup name).getD (.name (policy.single name))

lemma text_singleExpr (policy : TypePolicy) (name : String) :
    (policy.singleExpr name).text = policy.single name := by
  by_cases hstruct : name = "google.protobuf.Struct"
  · subst hstruct
    rfl
  by_cases hany : name = "google.protobuf.Any"
  · subst hany
    rfl
  by_cases hlist : name = "google.protobuf.ListValue"
  · subst hlist
    rfl
  have hnone : composedTypes.lookup name = none := by
    simp [composedTypes, List.lookup_eq_none_iff, hstruct, hany, hlist]
  rw [TypePolicy.singleExpr, hnone]
  rfl

/-- The type of a field. -/
def TypePolicy.fieldExpr (policy : TypePolicy) (f : Field) : TypeExpr :=
  if f.isMap then .applyTwo (.name "Record") (.name "string") (policy.singleExpr f.typeName)
  else if f.repeated then .array (policy.singleExpr f.typeName)
  else policy.singleExpr f.typeName

lemma text_fieldExpr (policy : TypePolicy) (f : Field) :
    (policy.fieldExpr f).text = policy.fieldType f := by
  unfold TypePolicy.fieldExpr TypePolicy.fieldType TypePolicy.typeOf
  split
  · simp only [TypeExpr.text, text_singleExpr]
    rfl
  · split
    · simp only [TypeExpr.text, text_singleExpr]
    · exact text_singleExpr policy f.typeName

/-! ## Messages and enumerations -/

/-- The interface of a message. -/
def interfaceSyntax (policy : TypePolicy) (features : Features) (m : Message) :
    DeclarationSyntax where
  name := m.name
  doc := features.doc m.description
  body := .shape (m.fields.map fun f =>
    { name := Naming.camelCase f.name
      type := policy.fieldExpr f
      isOptional := f.isOptional
      doc := features.doc f.description })

lemma declaration_interfaceSyntax (policy : TypePolicy) (features : Features) (m : Message) :
    (interfaceSyntax policy features m).declaration = interfaceOf policy features m := by
  simp [interfaceSyntax, DeclarationSyntax.declaration, interfaceOf, PropertySyntax.property,
    paramsText, text_fieldExpr, Function.comp_def]

/-- The union of the names of an enumeration. -/
def unionSyntax (features : Features) (e : EnumType) : DeclarationSyntax where
  name := e.name
  doc := features.doc e.description
  body := .synonym (if e.values.isEmpty then .name "never" else .literals e.values)

lemma declaration_unionSyntax (features : Features) (e : EnumType) :
    (unionSyntax features e).declaration = unionOf features e := by
  obtain ⟨name, values, description⟩ := e
  cases values with
  | nil => rfl
  | cons v values =>
    -- a union of literals starts with a quote, so it is not empty
    have hunion : (" | ".intercalate ((v :: values).map fun v => "'" ++ v ++ "'")).isEmpty =
        false := by
      cases values <;> simp [String.intercalate_cons_of_ne_nil]
    simp only [unionSyntax, DeclarationSyntax.declaration, unionOf, hunion]
    rfl

/-! ## Utility types -/

/-- The two directions of a sort order. -/
def directions : TypeExpr := .literals ["asc", "desc"]

/-- The utility types. -/
def utilitySyntax (policy : TypePolicy) : List DeclarationSyntax :=
  [{ name := "Empty"
     body := .synonym (.applyTwo (.name "Record") (.name "string") (.name "never")) },
   { name := "Pagination"
     body := .shape [.required "page" (.name "number"), .required "size" (.name "number")] },
   { name := "ErrorDetail"
     body := .shape [.required "field" (.name "string"), .required "message" (.name "string")] },
   { name := "ErrorResponse"
     body := .shape
       [.required "code" (.name "number"), .required "message" (.name "string"),
        .optional "details" (.array (.name "ErrorDetail"))] },
   { name := "SuccessResponse"
     body := .shape
       [.required "message" (.name "string"), .required "timestamp" (.name policy.dateType)] },
   { name := "PaginatedRequest"
     params := [{ name := "TFilter" }, { name := "TSort" }]
     body := .shape
       [.optional "pagination" (.name "Pagination"), .optional "filter" (.name "TFilter"),
        .optional "sort" (.array (.name "TSort"))] },
   { name := "PaginatedResponse"
     params := [{ name := "TData" }]
     body := .shape
       [.required "data" (.name "TData"), .required "total" (.name "number"),
        .required "pagination" (.name "Pagination"), .required "hasNextPage" (.name "boolean"),
        .required "hasPrevPage" (.name "boolean")] },
   { name := "FilterOperators"
     params := [.required "T"]
     body := .shape
       [.optional "eq" (.name "T"), .optional "ne" (.name "T"),
        .optional "gt" (.name "T"), .optional "gte" (.name "T"),
        .optional "lt" (.name "T"), .optional "lte" (.name "T"),
        .optional "in" (.array (.name "T")), .optional "nin" (.array (.name "T")),
        .optional "like" (.name "T")] },
   { name := "FilterBuilder"
     params := [.required "T"]
     body := .synonym (.mapped "K" (.name "T")
       (.either (.property (.name "T") (.name "K"))
         (.apply (.name "FilterOperators") (.property (.name "T") (.name "K"))))) },
   { name := "SortDirection"
     body := .shape [.required "field" (.name "string"), .required "direction" directions] },
   { name := "SortBuilder"
     params := [.required "T"]
     body := .synonym (.mapped "K" (.name "T") directions) }]

lemma map_declaration_utilitySyntax (policy : TypePolicy) :
    (utilitySyntax policy).map DeclarationSyntax.declaration = utilityTypes policy := rfl

/-! ## Builders -/

/-- A method of a filter builder that sets a property. -/
structure SetterSyntax where
  /-- The name of the method and of the property. -/
  name : String
  /-- The type of the value. -/
  type : TypeExpr

/-- The setter with its type as a text. -/
def SetterSyntax.setter (s : SetterSyntax) : Setter := ⟨s.name, s.type.text⟩

/-- The setters that a field asks for. -/
def fieldSetterSyntax (policy : TypePolicy) (f : Field) : List SetterSyntax :=
  let name := Naming.camelCase f.name
  let own : SetterSyntax := ⟨name, policy.fieldExpr f⟩
  if conditionEndings.any (fun e => e.toList.isSuffixOf name.toList) || f.isMap then [own]
  else if f.typeName == "string" then [own, ⟨name ++ "Like", .name "string"⟩]
  else if f.typeName == timestampType then
    [own, ⟨name ++ "After", .name policy.dateType⟩, ⟨name ++ "Before", .name policy.dateType⟩]
  else [own]

lemma map_setter_fieldSetterSyntax (policy : TypePolicy) (f : Field) :
    (fieldSetterSyntax policy f).map SetterSyntax.setter = fieldSetters policy f := by
  simp only [fieldSetterSyntax, fieldSetters, apply_ite (List.map SetterSyntax.setter),
    List.map_cons, List.map_nil, SetterSyntax.setter, text_fieldExpr, TypeExpr.text]

/-- The setters of the filter builder of a message. -/
def setterSyntax (policy : TypePolicy) (m : Message) : List SetterSyntax :=
  firstOfEachName SetterSyntax.name (m.fields.flatMap (fieldSetterSyntax policy))

lemma map_setter_setterSyntax (policy : TypePolicy) (m : Message) :
    (setterSyntax policy m).map SetterSyntax.setter = (filterBuilderOf policy m).setters := by
  have hfields : m.fields.flatMap (fieldSetters policy) =
      (m.fields.flatMap (fieldSetterSyntax policy)).map SetterSyntax.setter := by
    simp only [List.map_flatMap, map_setter_fieldSetterSyntax]
  rw [filterBuilderOf, hfields, firstOfEachName_map]
  rfl

/-- The fragments of a setter. -/
def SetterSyntax.fragments (s : SetterSyntax) : List Fragment :=
  [.code "\n  ", .given s.name, .code "(value: ", .type [] s.type, .code "): ",
   .type [] (.name "this"), .code " \x7b\n    this.filter.", .given s.name,
   .code " = value;\n    return this;\n  \x7d\n"]

lemma write_setter (s : SetterSyntax) : write s.fragments = s.setter.text := by
  simp [← String.toList_inj, SetterSyntax.fragments, SetterSyntax.setter, Setter.text,
    Fragment.text, TypeExpr.text]

/-- The fragments of the function that creates an object of a class. -/
def factoryFragments (head : String) (target : TypeExpr) : List Fragment :=
  [.code "\n", .exported "function" head [], .code "(): ", .type [] target,
   .code " \x7b\n  return new ", .type [] target, .code "();\n\x7d\n"]

lemma write_factory (head : String) (target : TypeExpr) :
    write (factoryFragments head target) = factory head target.text := by
  unfold factory
  simp [← String.toList_inj, factoryFragments, Fragment.text, paramsText]

/-- The fragments of a filter builder and of its factory. -/
def filterBuilderFragments (policy : TypePolicy) (m : Message) : List Fragment :=
  ([.code "\n", .exported "class" (builderName m) [], .code " \x7b\n  private filter: ",
    .type [] (.both (.apply (.name "Partial") (.name m.name)) anyRecord),
    .code " = \x7b\x7d;\n"] : List Fragment) ++
    (setterSyntax policy m).flatMap SetterSyntax.fragments ++
    ([.code "\n  build(): ", .type [] (.name m.name), .code " \x7b\n    return this.filter as ",
      .type [] (.name m.name), .code ";\n  \x7d\n\x7d\n"] : List Fragment) ++
    factoryFragments ("create" ++ builderName m) (.name (builderName m))

lemma write_filterBuilder (policy : TypePolicy) (m : Message) :
    write (filterBuilderFragments policy m) = (filterBuilderOf policy m).text := by
  have hsetters : write ((setterSyntax policy m).flatMap SetterSyntax.fragments) =
      String.join ((filterBuilderOf policy m).setters.map Setter.text) := by
    rw [write_flatMap, ← map_setter_setterSyntax, List.map_map]
    simp only [write_setter, Function.comp_def]
  simp only [filterBuilderFragments, FilterBuilder.text, block, write_append, hsetters,
    write_factory]
  simp [← String.toList_inj, Fragment.text, TypeExpr.text, paramsText, anyRecord, filterBuilderOf]

/-- The type of a list of sort entries. -/
def sortListExpr (messages : List Message) (enums : List EnumType) : TypeExpr :=
  if (messages.map (·.name) ++ enums.map (·.name)).contains sortEntryType then
    .apply (.name "Array") (.object "field" (.name "string") "direction" directions)
  else .array (.name sortEntryType)

lemma text_sortListExpr (messages : List Message) (enums : List EnumType) :
    (sortListExpr messages enums).text = sortListType messages enums := by
  unfold sortListExpr sortListType
  split <;> rfl

/-- The fragments of a method of a sort builder. -/
def sortMethodFragments (s : SortMethod) : List Fragment :=
  [.code "\n  ", .given s.name, .code "(direction: ", .type [] directions,
   .code " = 'asc'): ", .type [] (.name "this"),
   .code " \x7b\n    this.sorts.push(\x7b field: '", .given s.field,
   .code "', direction \x7d);\n    return this;\n  \x7d\n"]

lemma write_sortMethod (s : SortMethod) : write (sortMethodFragments s) = s.text := by
  simp [← String.toList_inj, sortMethodFragments, SortMethod.text, Fragment.text, directions,
    TypeExpr.text]

/-- The fragments of the sort builder of a message and of its factory. -/
def sortBuilderFragments (list : TypeExpr) (m : Message) : List Fragment :=
  ([.code "\n", .exported "class" (builderName m) [], .code " \x7b\n  private sorts: ",
    .type [] list, .code " = [];\n"] : List Fragment) ++
    (sortMethodsOf m).flatMap sortMethodFragments ++
    ([.code "\n  build(): ", .type [] list,
      .code " \x7b\n    return this.sorts;\n  \x7d\n\x7d\n"] : List Fragment) ++
    factoryFragments ("create" ++ builderName m) (.name (builderName m))

lemma write_sortBuilder (list : TypeExpr) (m : Message) :
    write (sortBuilderFragments list m) = sortBuilderText list.text m := by
  have hmethods : write ((sortMethodsOf m).flatMap sortMethodFragments) =
      String.join ((sortMethodsOf m).map SortMethod.text) := by
    simp only [write_flatMap, write_sortMethod]
  simp only [sortBuilderFragments, sortBuilderText, block, write_append, hmethods, write_factory]
  simp [← String.toList_inj, Fragment.text, TypeExpr.text, paramsText]

/-- The section of the filter builders. -/
def filterSection (policy : TypePolicy) (messages : List Message) : List Fragment :=
  .code "// Filter Builders\n" ::
    (messagesMarked filterMarker messages).flatMap (filterBuilderFragments policy)

lemma write_filterSection (policy : TypePolicy) (messages : List Message) :
    write (filterSection policy messages) = filterBuilders policy messages := by
  unfold filterBuilders
  simp only [filterSection, write_cons, write_flatMap, write_filterBuilder, Fragment.text]

/-- The section of the sort builders. -/
def sortSection (messages : List Message) (enums : List EnumType) : List Fragment :=
  .code "// Sort Builders\n" ::
    (messagesMarked sortMarker messages).flatMap
      (sortBuilderFragments (sortListExpr messages enums))

lemma write_sortSection (messages : List Message) (enums : List EnumType) :
    write (sortSection messages enums) = sortBuilders messages enums := by
  unfold sortBuilders
  simp only [sortSection, write_cons, write_flatMap, write_sortBuilder, text_sortListExpr,
    Fragment.text]

/-! ## The module -/

/-- The declarations of messages and enumerations. -/
def schemaSyntax (policy : TypePolicy) (features : Features) (schema : Schema) :
    List DeclarationSyntax :=
  let messages := Schema.dependencyOrder schema.messages
  messages.map (interfaceSyntax policy features) ++
    (newEnums (messages.map (·.name)) schema.enums).map (unionSyntax features)

/-- The names that utility types must leave free. -/
def takenNames (features : Features) (schema : Schema) : List String :=
  let messages := Schema.dependencyOrder schema.messages
  messages.map (·.name) ++ (newEnums (messages.map (·.name)) schema.enums).map (·.name) ++
    builderNames features schema.messages

/-- The utility types whose names are free. -/
def neededSyntax (policy : TypePolicy) (features : Features) (schema : Schema) :
    List DeclarationSyntax :=
  (utilitySyntax policy).filter fun d => !(takenNames features schema).contains d.name

lemma map_declaration_schemaSyntax (policy : TypePolicy) (features : Features) (schema : Schema) :
    (schemaSyntax policy features schema).map DeclarationSyntax.declaration =
      (schemaDeclarations policy features schema).1 ++
        (schemaDeclarations policy features schema).2 := by
  simp [schemaSyntax, schemaDeclarations, declaration_interfaceSyntax, declaration_unionSyntax,
    Function.comp_def]

lemma map_declaration_neededSyntax (policy : TypePolicy) (features : Features) (schema : Schema) :
    (neededSyntax policy features schema).map DeclarationSyntax.declaration =
      neededUtilities policy features schema := by
  have htaken : ((schemaDeclarations policy features schema).1 ++
      (schemaDeclarations policy features schema).2).map (·.name) ++
        builderNames features schema.messages = takenNames features schema := by
    simp only [schemaDeclarations, takenNames, List.map_append, List.map_map]
    rfl
  unfold neededUtilities
  rw [← map_declaration_utilitySyntax]
  simp only [htaken, List.filter_map, Function.comp_def, DeclarationSyntax.name_declaration]
  rfl

/-- The fragments of a utility type: all but the last are followed by a blank line. -/
def utilityFragments (d : DeclarationSyntax) : List Fragment :=
  if d.name == "SortBuilder" then d.fragments else d.fragments ++ [.code "\n"]

lemma write_utility (d : DeclarationSyntax) :
    write (utilityFragments d) = utilityText d.declaration := by
  unfold utilityFragments utilityText
  rw [d.name_declaration]
  split <;> simp [d.write_fragments, Fragment.text]

/-- The section of the types. -/
def typeFragments (policy : TypePolicy) (features : Features) (schema : Schema) : List Fragment :=
  .code (notice ++ "\n// Generated from protobuf definitions\n\n") ::
    (schemaSyntax policy features schema).flatMap (fun d => d.fragments ++ [.code "\n"]) ++
    .code "// Utility types\n" ::
      (neededSyntax policy features schema).flatMap utilityFragments

lemma write_typeFragments (policy : TypePolicy) (features : Features) (schema : Schema) :
    write (typeFragments policy features schema) = typeSection policy features schema := by
  have hschema : write ((schemaSyntax policy features schema).flatMap
      fun d => d.fragments ++ [.code "\n"]) =
      String.join (((schemaDeclarations policy features schema).1 ++
        (schemaDeclarations policy features schema).2).map fun d => d.text ++ "\n") := by
    rw [← map_declaration_schemaSyntax, List.map_map, write_flatMap]
    simp only [write_append, DeclarationSyntax.write_fragments, write_cons, write_nil,
      Fragment.text, String.append_empty, Function.comp_def]
  have hneeded : write ((neededSyntax policy features schema).flatMap utilityFragments) =
      String.join ((neededUtilities policy features schema).map utilityText) := by
    rw [← map_declaration_neededSyntax, List.map_map, write_flatMap]
    simp only [write_utility, Function.comp_def]
  unfold typeFragments typeSection
  rw [List.cons_append, write_cons, write_append, write_cons, hschema, hneeded]
  simp only [Fragment.text, String.append_assoc]

/-- The module of types with its type positions. -/
def typesSyntax (policy : TypePolicy) (features : Features) (schema : Schema) : Module :=
  [typeFragments policy features schema] ++
    (if features.filterBuilders then [filterSection policy schema.messages] else []) ++
    (if features.sortBuilders then [sortSection schema.messages schema.enums] else [])

/-- Written out, the fragments are the module of types. -/
lemma text_typesSyntax (policy : TypePolicy) (features : Features) (schema : Schema) :
    (typesSyntax policy features schema).text = typesModule policy features schema := by
  simp only [Module.text, typesSyntax, typesModule, List.map_append, List.map_cons, List.map_nil,
    apply_ite (List.map write), write_typeFragments, write_filterSection, write_sortSection]

end TypedFetch.TypeScript
