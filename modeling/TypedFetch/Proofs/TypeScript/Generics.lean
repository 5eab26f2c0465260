import TypedFetch.Proofs.TypeScript.DistinctNames

/-!
# Type arguments and type parameters

A type that is applied to type arguments must be declared with as many type parameters.  The
generated modules apply few types: the module of types applies three types of the language and the
operators of filters, and the module of the client takes one generic type from it, the paginated
request.  Utility types give way to types of the schema, which have no parameters, but what applies
them does not.  So the two sides fit together unless the schema declares a type that is applied.
Names that the schema gives are taken as names, whatever they hold.

The main statement is `generics_match_iff`.
-/

namespace TypedFetch.TypeScript.Syntax

/-- A name with a number of type arguments or of type parameters. -/
structure Generic where
  /-- The name. -/
  name : String
  /-- The number. -/
  count : Nat
deriving DecidableEq

namespace TypeExpr

/-- The expression as a type of the same module or of the language. -/
def ownName : TypeExpr → List String
  | name n => [n]
  | _ => []

/-- The expression as a type of the module of types, seen from outside. -/
def importedName : TypeExpr → List String
  | imported n => [n]
  | _ => []

/-- The types of the same module or of the language that an expression applies. -/
def applications : TypeExpr → List Generic
  | name _ => []
  | imported _ => []
  | apply head arg => head.ownName.map (⟨·, 1⟩) ++ head.applications ++ arg.applications
  | applyTwo head first second =>
    head.ownName.map (⟨·, 2⟩) ++ head.applications ++ first.applications ++ second.applications
  | array item => item.applications
  | literals _ => []
  | either left right => left.applications ++ right.applications
  | both left right => left.applications ++ right.applications
  | object _ first _ second => first.applications ++ second.applications
  | mapped key source value =>
    source.applications ++ value.applications.filter (·.name != key)
  | property owner key => owner.applications ++ key.applications

/-- The types of the module of types that an expression applies from outside. -/
def appliedImports : TypeExpr → List Generic
  | name _ => []
  | imported _ => []
  | apply head arg => head.importedName.map (⟨·, 1⟩) ++ head.appliedImports ++ arg.appliedImports
  | applyTwo head first second =>
    head.importedName.map (⟨·, 2⟩) ++ head.appliedImports ++ first.appliedImports ++
      second.appliedImports
  | array item => item.appliedImports
  | literals _ => []
  | either left right => left.appliedImports ++ right.appliedImports
  | both left right => left.appliedImports ++ right.appliedImports
  | object _ first _ second => first.appliedImports ++ second.appliedImports
  | mapped _ source value => source.appliedImports ++ value.appliedImports
  | property owner key => owner.appliedImports ++ key.appliedImports

end TypeExpr

namespace Fragment

/-- The types of the same module or of the language that a fragment applies. -/
def applications : Fragment → List Generic
  | type scope expr => expr.applications.filter fun a => !(scope.map (·.name)).contains a.name
  | _ => []

/-- The types of the module of types that a fragment applies from outside. -/
def appliedImports : Fragment → List Generic
  | type _ expr => expr.appliedImports
  | _ => []

/-- What a fragment declares. -/
def declared : Fragment → List Generic
  | exported _ name params => [⟨name, params.length⟩]
  | _ => []

end Fragment

/-- A declaration with the number of its type parameters. -/
def DeclarationSyntax.generic (d : DeclarationSyntax) : Generic := ⟨d.name, d.params.length⟩

namespace Module

/-- The types of the same module or of the language that a module applies. -/
def applications (m : Module) : List Generic := m.flatten.flatMap Fragment.applications

/-- The types of the module of types that another module applies. -/
def appliedImports (m : Module) : List Generic := m.flatten.flatMap Fragment.appliedImports

/-- What a module declares. -/
def declared (m : Module) : List Generic := m.flatten.flatMap Fragment.declared

end Module

end TypedFetch.TypeScript.Syntax

namespace TypedFetch.TypeScript

open TypedFetch.Schema (Method Message EnumType Field)
open Syntax

/-! ## What the module of types applies -/

/-- The type of a record with keys. -/
def record : Generic := ⟨"Record", 2⟩

/-- The types of fields that stand for a record. -/
def recordTypes : List String := ["google.protobuf.Struct", "google.protobuf.Any"]

/-- The type of a field holds a record. -/
def HoldsRecord (f : Field) : Prop := f.isMap = true ∨ f.typeName ∈ recordTypes

/-- What the module of types applies: records for the empty message, for fields and for filters,
objects with some of the properties of a filter, lists of sort entries where the schema takes the
name of their type, and the operators of filters. -/
inductive Applied (features : Features) (schema : Schema) : Generic → Prop
  | emptyMessage (h : emptyType ∉ takenNames features schema) : Applied features schema record
  | field {m : Message} {f : Field} (hm : m ∈ Schema.dependencyOrder schema.messages)
      (hf : f ∈ m.fields) (h : HoldsRecord f) : Applied features schema record
  | filter {m : Message} {a : Generic} (hfeature : features.filterBuilders = true)
      (hm : m ∈ messagesMarked filterMarker schema.messages) (h : a = ⟨"Partial", 1⟩ ∨ a = record) :
      Applied features schema a
  | sortList {m : Message} (hfeature : features.sortBuilders = true)
      (hm : m ∈ messagesMarked sortMarker schema.messages) (h : sortEntryType ∈ typeNames schema) :
      Applied features schema ⟨"Array", 1⟩
  | operators (h : "FilterBuilder" ∉ takenNames features schema) :
      Applied features schema ⟨"FilterOperators", 1⟩

section Applications

variable {policy : TypePolicy} {features : Features} {schema : Schema} {a : Generic}

/-- The types that fragments apply. -/
def appliedBy (fs : List Fragment) : List Generic := fs.flatMap Fragment.applications

@[simp] lemma appliedBy_nil : appliedBy [] = [] := rfl

@[simp] lemma appliedBy_cons (f : Fragment) (fs : List Fragment) :
    appliedBy (f :: fs) = f.applications ++ appliedBy fs := rfl

@[simp] lemma appliedBy_append (fs gs : List Fragment) :
    appliedBy (fs ++ gs) = appliedBy fs ++ appliedBy gs :=
  List.flatMap_append

@[simp] lemma appliedBy_flatMap {α : Type} (xs : List α) (f : α → List Fragment) :
    appliedBy (xs.flatMap f) = xs.flatMap fun x => appliedBy (f x) :=
  List.flatMap_assoc

@[simp] lemma applications_code (s : String) : (Fragment.code s).applications = [] := rfl

@[simp] lemma applications_given (s : String) : (Fragment.given s).applications = [] := rfl

@[simp] lemma applications_exported (kind name : String) (params : List TypeParam) :
    (Fragment.exported kind name params).applications = [] := rfl

@[simp] lemma applications_type (t : TypeExpr) :
    (Fragment.type [] t).applications = t.applications := by
  simp [Fragment.applications]

@[simp] lemma applications_name (n : String) : (TypeExpr.name n).applications = [] := rfl

lemma mem_applications_singleExpr {t : String} :
    a ∈ (policy.singleExpr t).applications ↔ t ∈ recordTypes ∧ a = record := by
  unfold TypePolicy.singleExpr
  rcases hcomposed : composedTypes.lookup t with _ | expr
  · have hnot : t ∉ recordTypes := by
      intro ht
      rw [List.lookup_eq_none_iff] at hcomposed
      rcases List.mem_pair.1 ht with rfl | rfl
      · simpa using hcomposed ("google.protobuf.Struct", anyRecord) (by simp [composedTypes])
      · simpa using hcomposed ("google.protobuf.Any", anyRecord) (by simp [composedTypes])
    simp [hnot]
  · obtain ⟨before, after, hsplit, -⟩ := List.lookup_eq_some_iff.1 hcomposed
    have hmem : (t, expr) ∈ composedTypes := by simp [hsplit]
    simp only [composedTypes, List.mem_cons, List.not_mem_nil, or_false, Prod.mk.injEq] at hmem
    rcases hmem with ⟨rfl, rfl⟩ | ⟨rfl, rfl⟩ | ⟨rfl, rfl⟩
    · simp [anyRecord, TypeExpr.applications, TypeExpr.ownName, recordTypes, record]
    · simp [anyRecord, TypeExpr.applications, TypeExpr.ownName, recordTypes, record]
    · simp [TypeExpr.applications, recordTypes]

lemma mem_applications_fieldExpr {f : Field} :
    a ∈ (policy.fieldExpr f).applications ↔ HoldsRecord f ∧ a = record := by
  unfold TypePolicy.fieldExpr HoldsRecord
  split
  · next hmap =>
    have hhead : a ∈ (TypeExpr.applyTwo (.name "Record") (.name "string")
        (policy.singleExpr f.typeName)).applications ↔
          a = record ∨ a ∈ (policy.singleExpr f.typeName).applications := by
      simp [TypeExpr.applications, TypeExpr.ownName, record]
    rw [hhead, mem_applications_singleExpr]
    tauto
  · next hmap =>
    have hsingle : a ∈ (policy.singleExpr f.typeName).applications ↔
        (f.isMap = true ∨ f.typeName ∈ recordTypes) ∧ a = record := by
      rw [mem_applications_singleExpr]
      tauto
    split
    · exact hsingle
    · exact hsingle

lemma mem_appliedBy_interface {m : Message} :
    a ∈ appliedBy (interfaceSyntax policy features m).fragments ↔
      ∃ f ∈ m.fields, HoldsRecord f ∧ a = record := by
  simp only [interfaceSyntax, DeclarationSyntax.fragments, List.cons_append, appliedBy_cons,
    appliedBy_append, appliedBy_flatMap, List.flatMap_map, PropertySyntax.fragments,
    applications_given, applications_exported, applications_code, applications_type, appliedBy_nil,
    List.nil_append, List.append_nil, List.mem_flatMap, mem_applications_fieldExpr]

lemma appliedBy_union (e : EnumType) : appliedBy (unionSyntax features e).fragments = [] := by
  simp only [unionSyntax, DeclarationSyntax.fragments, appliedBy_cons, appliedBy_nil,
    applications_given, applications_exported, applications_code, applications_type]
  split <;> rfl

/-- Two utility types apply a type. -/
lemma appliedBy_utility :
    ∀ d ∈ utilitySyntax policy, appliedBy d.fragments =
      if d.name = emptyType then [record]
      else if d.name = "FilterBuilder" then [⟨"FilterOperators", 1⟩]
      else [] := by
  obtain ⟨dateAsText, bigintAsText⟩ := policy
  cases dateAsText <;> cases bigintAsText <;> decide

lemma mem_appliedBy_needed (policy : TypePolicy) :
    a ∈ appliedBy ((neededSyntax policy features schema).flatMap utilityFragments) ↔
      (emptyType ∉ takenNames features schema ∧ a = record) ∨
        ("FilterBuilder" ∉ takenNames features schema ∧ a = ⟨"FilterOperators", 1⟩) := by
  have hutility : ∀ d, appliedBy (utilityFragments d) = appliedBy d.fragments := by
    intro d
    unfold utilityFragments
    split
    · rfl
    · simp
  -- only these two utility types apply a type, and each of them is in the list
  have hdeclared : ∀ n ∈ [emptyType, "FilterBuilder"],
      ∃ d ∈ utilitySyntax policy, d.name = n := by
    simp [utilitySyntax, emptyType]
  simp only [appliedBy_flatMap, hutility, neededSyntax, List.mem_flatMap, List.mem_filter]
  constructor
  · rintro ⟨d, ⟨hd, hfree⟩, ha⟩
    have hfree : d.name ∉ takenNames features schema := by simpa using hfree
    rw [appliedBy_utility d hd] at ha
    split at ha
    · next hname => exact .inl ⟨hname ▸ hfree, List.mem_singleton.1 ha⟩
    · split at ha
      · next hname => exact .inr ⟨hname ▸ hfree, List.mem_singleton.1 ha⟩
      · exact absurd ha (by simp)
  · rintro (⟨hfree, rfl⟩ | ⟨hfree, rfl⟩)
    · obtain ⟨d, hd, hname⟩ := hdeclared emptyType (by simp)
      refine ⟨d, ⟨hd, by simpa [hname] using hfree⟩, ?_⟩
      simp [appliedBy_utility d hd, hname]
    · obtain ⟨d, hd, hname⟩ := hdeclared "FilterBuilder" (by simp)
      refine ⟨d, ⟨hd, by simpa [hname] using hfree⟩, ?_⟩
      simp [appliedBy_utility d hd, hname, emptyType]

lemma mem_appliedBy_types :
    a ∈ appliedBy (typeFragments policy features schema) ↔
      (∃ m ∈ Schema.dependencyOrder schema.messages, ∃ f ∈ m.fields, HoldsRecord f ∧ a = record) ∨
      (emptyType ∉ takenNames features schema ∧ a = record) ∨
        ("FilterBuilder" ∉ takenNames features schema ∧ a = ⟨"FilterOperators", 1⟩) := by
  have hschema : a ∈ appliedBy ((schemaSyntax policy features schema).flatMap
      fun d => d.fragments ++ [.code "\n"]) ↔
        ∃ m ∈ Schema.dependencyOrder schema.messages, ∃ f ∈ m.fields,
          HoldsRecord f ∧ a = record := by
    simp only [appliedBy_flatMap, appliedBy_append, appliedBy_cons, appliedBy_nil,
      applications_code, List.append_nil, schemaSyntax, List.flatMap_append, List.flatMap_map,
      appliedBy_union, List.mem_append, List.mem_flatMap, mem_appliedBy_interface,
      List.not_mem_nil, and_false, exists_false, or_false]
  rw [← hschema, ← mem_appliedBy_needed policy]
  simp only [typeFragments, List.cons_append, appliedBy_cons, appliedBy_append, applications_code,
    List.nil_append, List.mem_append]

lemma appliedBy_factory (head n : String) :
    appliedBy (factoryFragments head (.name n)) = [] := by
  simp [factoryFragments]

/-- A setter applies no other type than a record. -/
lemma eq_record_of_mem_setter {m : Message} {s : SetterSyntax} (hs : s ∈ setterSyntax policy m)
    (ha : a ∈ s.type.applications) : a = record := by
  obtain ⟨f, -, hs⟩ := List.mem_flatMap.1 (mem_of_mem_firstOfEachName _ hs)
  have hown : a ∈ (policy.fieldExpr f).applications → a = record :=
    fun h => (mem_applications_fieldExpr.1 h).2
  have hname : ∀ n, a ∈ (TypeExpr.name n).applications → a = record := by simp
  simp only [fieldSetterSyntax] at hs
  split at hs
  · obtain rfl := List.mem_singleton.1 hs
    exact hown ha
  · split at hs
    · rcases List.mem_pair.1 hs with rfl | rfl
      · exact hown ha
      · exact hname _ ha
    · split at hs
      · simp only [List.mem_cons, List.not_mem_nil, or_false] at hs
        rcases hs with rfl | rfl | rfl
        · exact hown ha
        · exact hname _ ha
        · exact hname _ ha
      · obtain rfl := List.mem_singleton.1 hs
        exact hown ha

lemma mem_appliedBy_filterBuilder {m : Message} :
    a ∈ appliedBy (filterBuilderFragments policy m) ↔ a = ⟨"Partial", 1⟩ ∨ a = record := by
  have hsetters : a ∈ appliedBy ((setterSyntax policy m).flatMap SetterSyntax.fragments) →
      a = record := by
    simp only [appliedBy_flatMap, List.mem_flatMap]
    rintro ⟨s, hs, ha⟩
    refine eq_record_of_mem_setter hs ?_
    simpa [SetterSyntax.fragments] using ha
  have hhead : (TypeExpr.both (.apply (.name "Partial") (.name m.name)) anyRecord).applications =
      [⟨"Partial", 1⟩, record] := rfl
  simp only [filterBuilderFragments, appliedBy_append, appliedBy_cons, appliedBy_nil,
    applications_code, applications_exported, applications_type, applications_name, hhead,
    appliedBy_factory, List.nil_append, List.append_nil, List.mem_append, List.mem_pair]
  tauto

lemma mem_appliedBy_sortBuilder {m : Message} :
    a ∈ appliedBy (sortBuilderFragments (sortListExpr schema.messages schema.enums) m) ↔
      sortEntryType ∈ typeNames schema ∧ a = ⟨"Array", 1⟩ := by
  have hmethods : appliedBy ((sortMethodsOf m).flatMap sortMethodFragments) = [] := by
    simp [sortMethodFragments, directions, TypeExpr.applications]
  have hlist : a ∈ (sortListExpr schema.messages schema.enums).applications ↔
      sortEntryType ∈ typeNames schema ∧ a = ⟨"Array", 1⟩ := by
    unfold sortListExpr typeNames
    split
    · next htaken =>
      rw [List.contains_iff_mem] at htaken
      simp [htaken, TypeExpr.applications, TypeExpr.ownName, directions]
    · next hfree =>
      rw [List.contains_iff_mem] at hfree
      simp [hfree, TypeExpr.applications]
  simp only [sortBuilderFragments, appliedBy_append, appliedBy_cons, appliedBy_nil,
    applications_code, applications_exported, applications_type, hmethods, hlist,
    appliedBy_factory, List.nil_append, List.append_nil, List.mem_append, or_self]

/-- The module of types applies these types and no others. -/
lemma mem_applications_typesSyntax :
    a ∈ (typesSyntax policy features schema).applications ↔ Applied features schema a := by
  have hfilter : a ∈ appliedBy (filterSection policy schema.messages) ↔
      ∃ m ∈ messagesMarked filterMarker schema.messages, a = ⟨"Partial", 1⟩ ∨ a = record := by
    simp only [filterSection, appliedBy_cons, applications_code, List.nil_append,
      appliedBy_flatMap, List.mem_flatMap, mem_appliedBy_filterBuilder]
  have hsort : a ∈ appliedBy (sortSection schema.messages schema.enums) ↔
      ∃ m ∈ messagesMarked sortMarker schema.messages,
        sortEntryType ∈ typeNames schema ∧ a = ⟨"Array", 1⟩ := by
    simp only [sortSection, appliedBy_cons, applications_code, List.nil_append,
      appliedBy_flatMap, List.mem_flatMap, mem_appliedBy_sortBuilder]
  have hmodule : a ∈ (typesSyntax policy features schema).applications ↔
      a ∈ appliedBy (typeFragments policy features schema) ∨
        (features.filterBuilders = true ∧ a ∈ appliedBy (filterSection policy schema.messages)) ∨
        (features.sortBuilders = true ∧
          a ∈ appliedBy (sortSection schema.messages schema.enums)) := by
    change a ∈ appliedBy (typesSyntax policy features schema).flatten ↔ _
    unfold typesSyntax
    cases features.filterBuilders <;> cases features.sortBuilders <;> simp
  -- the three sections on the left, and the kinds of applications on the right
  rw [hmodule, mem_appliedBy_types, hfilter, hsort]
  constructor
  · rintro ((⟨m, hm, f, hf, h, rfl⟩ | ⟨h, rfl⟩ | ⟨h, rfl⟩) | ⟨hfeature, m, hm, h⟩ |
      ⟨hfeature, m, hm, h, rfl⟩)
    · exact .field hm hf h
    · exact .emptyMessage h
    · exact .operators h
    · exact .filter hfeature hm h
    · exact .sortList hfeature hm h
  · intro h
    cases h with
    | emptyMessage h => exact .inl (.inr (.inl ⟨h, rfl⟩))
    | field hm hf h => exact .inl (.inl ⟨_, hm, _, hf, h, rfl⟩)
    | filter hfeature hm h => exact .inr (.inl ⟨hfeature, _, hm, h⟩)
    | sortList hfeature hm h => exact .inr (.inr ⟨hfeature, _, hm, h, rfl⟩)
    | operators h => exact .inl (.inr (.inr ⟨h, rfl⟩))

end Applications

/-! ## What the module of the client applies -/

/-- The types of the language that the module of the client applies. -/
def clientGenerics : List Generic := [⟨"Partial", 1⟩, ⟨"Promise", 1⟩]

/-- The one type that the module of the client applies of those that it takes from the module of
types. -/
def paginatedRequest : Generic := ⟨"PaginatedRequest", 2⟩

/-- Fragments apply types of the language only. -/
abbrev AppliesOwn : List Fragment → Prop :=
  Each fun f => (∀ a ∈ f.applications, a ∈ clientGenerics) ∧ f.appliedImports = []

section Client

@[simp] lemma appliedImports_code (s : String) : (Fragment.code s).appliedImports = [] := rfl

@[simp] lemma appliedImports_given (s : String) : (Fragment.given s).appliedImports = [] := rfl

@[simp] lemma appliedImports_exported (kind name : String) (params : List TypeParam) :
    (Fragment.exported kind name params).appliedImports = [] := rfl

@[simp] lemma appliedImports_type (scope : List TypeParam) (t : TypeExpr) :
    (Fragment.type scope t).appliedImports = t.appliedImports := rfl

@[simp] lemma applications_imported (n : String) : (TypeExpr.imported n).applications = [] := rfl

@[simp] lemma appliedImports_name (n : String) : (TypeExpr.name n).appliedImports = [] := rfl

@[simp] lemma appliedImports_imported (n : String) :
    (TypeExpr.imported n).appliedImports = [] := rfl

lemma appliesOwn_statement (s : Statement) : AppliesOwn (statementFragments s) := by
  cases s <;> simp [statementFragments, callFragments]

lemma appliesOwn_method (features : Features) (m : Method) :
    AppliesOwn (methodFragments features m) := by
  have hparameters : AppliesOwn (parameterFragments m) := by
    unfold parameterFragments
    split <;> simp [requestOptions]
  simp only [methodFragments, each_append, each_flatMap, hparameters, appliesOwn_statement,
    implies_true, and_true]
  simp [TypeExpr.applications, TypeExpr.appliedImports, TypeExpr.ownName, TypeExpr.importedName,
    clientGenerics]

lemma appliesOwn_class (options : ClientOptions) (layout : List GroupSyntax) :
    AppliesOwn (classFragments options layout) := by
  have hgroup : ∀ g : GroupSyntax, AppliesOwn (g.fragments options.features) := by
    intro g
    simp only [GroupSyntax.fragments, each_append, each_flatMap, appliesOwn_method, implies_true,
      and_true]
    cases g.comment <;> simp
  simp only [classFragments, each_append, each_flatMap, hgroup, implies_true, and_true]
  simp [partialConfig, TypeExpr.applications, TypeExpr.appliedImports, TypeExpr.ownName,
    TypeExpr.importedName, clientGenerics]

lemma appliesOwn_helpers (marker : String) (messages : List Message) :
    AppliesOwn (helperFragments marker messages) := by
  simp [helperFragments, factoryFragments]

lemma appliesOwn_builderHelpers (features : Features) (schema : Schema) :
    AppliesOwn
        (if features.filterBuilders then helperFragments filterMarker schema.messages else []) ∧
      AppliesOwn
        (if features.sortBuilders then helperFragments sortMarker schema.messages else []) := by
  constructor <;> split
  · exact appliesOwn_helpers _ _
  · exact each_nil
  · exact appliesOwn_helpers _ _
  · exact each_nil

/-- Of the types that are its own or of the language, the module of the client applies no others
than these two. -/
lemma mem_clientGenerics_of_applications {options : ClientOptions} {layout : List GroupSyntax}
    {schema : Schema} {a : Generic} (ha : a ∈ (clientSyntax options layout schema).applications) :
    a ∈ clientGenerics := by
  have hown : ∀ {fs : List Fragment}, AppliesOwn fs →
      Each (fun f => ∀ a ∈ f.applications, a ∈ clientGenerics) fs := fun h f hf => (h f hf).1
  obtain ⟨hfilter, hsort⟩ := appliesOwn_builderHelpers options.features schema
  have hhelpers : Each (fun f => ∀ a ∈ f.applications, a ∈ clientGenerics)
      (helperSyntax options.features schema) := by
    simp only [helperSyntax, each_append, hown hfilter, hown hsort, and_true]
    simp [paginationFragments, paginatedFragments, Fragment.applications, TypeExpr.applications,
      TypeExpr.ownName]
  have hall : Each (fun f => ∀ a ∈ f.applications, a ∈ clientGenerics)
      (clientSyntax options layout schema).flatten := by
    simp [clientSyntax, hown (appliesOwn_class options layout), hhelpers]
  obtain ⟨f, hf, ha⟩ := List.mem_flatMap.1 ha
  exact hall f hf a ha

/-- Of the types that it takes from the module of types, the module of the client applies one, and
once. -/
lemma appliedImports_clientSyntax (options : ClientOptions) (layout : List GroupSyntax)
    (schema : Schema) :
    (clientSyntax options layout schema).appliedImports = [paginatedRequest] := by
  have hown : ∀ {fs : List Fragment}, AppliesOwn fs → fs.flatMap Fragment.appliedImports = [] :=
    fun h => List.flatMap_eq_nil_iff.2 fun f hf => (h f hf).2
  obtain ⟨hfilter, hsort⟩ := appliesOwn_builderHelpers options.features schema
  simp only [Module.appliedImports, clientSyntax, helperSyntax, List.flatten_cons,
    List.flatten_nil, List.append_nil, List.flatMap_append, hown (appliesOwn_class options layout),
    hown hfilter, hown hsort, List.nil_append]
  rfl

end Client

/-! ## What the module of types declares -/

section Declared

variable {policy : TypePolicy} {features : Features} {schema : Schema}

/-- What is declared is what is exported. -/
lemma map_name_declared (m : Module) : m.declared.map Generic.name = m.exports := by
  rw [Module.declared, Module.exports, List.map_flatMap]
  refine List.flatMap_congr fun f _ => ?_
  cases f <;> rfl

/-- What the module of types declares: types of the schema, which have no parameters, utility types
that are needed, and builders. -/
inductive Declares (policy : TypePolicy) (features : Features) (schema : Schema) : Generic → Prop
  | type {n : String} (h : n ∈ typeNames schema) : Declares policy features schema ⟨n, 0⟩
  | utility {d : DeclarationSyntax} (h : d ∈ neededSyntax policy features schema) :
      Declares policy features schema d.generic
  | builder {n : String} (h : n ∈ builderExports (builderNames features schema.messages)) :
      Declares policy features schema ⟨n, 0⟩

@[simp] lemma declared_code (s : String) : (Fragment.code s).declared = [] := rfl

@[simp] lemma declared_given (s : String) : (Fragment.given s).declared = [] := rfl

@[simp] lemma declared_type (scope : List TypeParam) (t : TypeExpr) :
    (Fragment.type scope t).declared = [] := rfl

@[simp] lemma declared_exported (kind name : String) (params : List TypeParam) :
    (Fragment.exported kind name params).declared = [⟨name, params.length⟩] := rfl

/-- All that fragments declare satisfies a predicate. -/
abbrev DeclaresOnly (P : Generic → Prop) : List Fragment → Prop :=
  Each fun f => ∀ g ∈ f.declared, P g

lemma declaresOnly_declaration {P : Generic → Prop} {d : DeclarationSyntax} (h : P d.generic) :
    DeclaresOnly P d.fragments := by
  obtain ⟨name, params, doc, body⟩ := d
  change P ⟨name, params.length⟩ at h
  cases body <;>
    simpa [DeclarationSyntax.fragments, PropertySyntax.fragments] using h

lemma declaresOnly_typeFragments :
    DeclaresOnly (Declares policy features schema) (typeFragments policy features schema) := by
  have hschema : ∀ d ∈ schemaSyntax policy features schema,
      DeclaresOnly (Declares policy features schema) d.fragments := by
    intro d hd
    have hname : d.name ∈ typeNames schema :=
      (mem_map_name_schemaSyntax policy features schema).1 (List.mem_map_of_mem hd)
    have hparams : d.params = [] := by
      rcases List.mem_append.1 hd with hd | hd
      · obtain ⟨m, -, rfl⟩ := List.mem_map.1 hd
        rfl
      · obtain ⟨e, -, rfl⟩ := List.mem_map.1 hd
        rfl
    refine declaresOnly_declaration ?_
    rw [DeclarationSyntax.generic, hparams]
    exact .type hname
  -- a blank line behind a utility type declares nothing
  have hneeded : ∀ d ∈ neededSyntax policy features schema,
      DeclaresOnly (Declares policy features schema) (utilityFragments d) := by
    intro d hd
    have hfragments : DeclaresOnly (Declares policy features schema) d.fragments :=
      declaresOnly_declaration (.utility hd)
    unfold utilityFragments
    split
    · exact hfragments
    · simpa using hfragments
  simp only [typeFragments, each_append, each_cons, each_flatMap]
  simpa using ⟨hschema, hneeded⟩

/-- The class and the factory of a builder. -/
lemma declares_builder {b : String} (h : b ∈ builderNames features schema.messages) :
    Declares policy features schema ⟨b, 0⟩ ∧ Declares policy features schema ⟨"create" ++ b, 0⟩ :=
  ⟨.builder (List.mem_flatMap.2 ⟨b, h, by simp⟩), .builder (List.mem_flatMap.2 ⟨b, h, by simp⟩)⟩

lemma declaresOnly_filterSection (hfeature : features.filterBuilders = true) :
    DeclaresOnly (Declares policy features schema) (filterSection policy schema.messages) := by
  have hbuilder : ∀ m ∈ messagesMarked filterMarker schema.messages,
      DeclaresOnly (Declares policy features schema) (filterBuilderFragments policy m) := by
    intro m hm
    have hname : builderName m ∈ builderNames features schema.messages := by
      simp only [builderNames, if_pos hfeature]
      exact List.mem_append_left _ (List.mem_map_of_mem hm)
    simpa [filterBuilderFragments, factoryFragments, SetterSyntax.fragments]
      using declares_builder hname
  simp only [filterSection, each_cons, each_flatMap]
  exact ⟨by simp, hbuilder⟩

lemma declaresOnly_sortSection (hfeature : features.sortBuilders = true) :
    DeclaresOnly (Declares policy features schema)
      (sortSection schema.messages schema.enums) := by
  have hbuilder : ∀ m ∈ messagesMarked sortMarker schema.messages,
      DeclaresOnly (Declares policy features schema)
        (sortBuilderFragments (sortListExpr schema.messages schema.enums) m) := by
    intro m hm
    have hname : builderName m ∈ builderNames features schema.messages := by
      simp only [builderNames, if_pos hfeature]
      exact List.mem_append_right _ (List.mem_map_of_mem hm)
    simpa [sortBuilderFragments, factoryFragments, sortMethodFragments]
      using declares_builder hname
  simp only [sortSection, each_cons, each_flatMap]
  exact ⟨by simp, hbuilder⟩

lemma declares_of_mem {g : Generic} (h : g ∈ (typesSyntax policy features schema).declared) :
    Declares policy features schema g := by
  have hall : DeclaresOnly (Declares policy features schema)
      (typesSyntax policy features schema).flatten := by
    simp only [typesSyntax, List.flatten_append, each_append, List.flatten_cons, List.flatten_nil,
      List.append_nil]
    refine ⟨⟨declaresOnly_typeFragments, ?_⟩, ?_⟩
    · split
      · next hfeature => simpa using declaresOnly_filterSection hfeature
      · exact each_nil
    · split
      · next hfeature => simpa using declaresOnly_sortSection hfeature
      · exact each_nil
  obtain ⟨f, hf, hg⟩ := List.mem_flatMap.1 h
  exact hall f hf g hg

end Declared

/-! ## Uses and declarations -/

/-- Declarations fit the use of a type: it is declared as it is applied, or a type of the language,
and it is not declared in any other way. -/
structure Fits (declared : List Generic) (a : Generic) : Prop where
  known : a ∈ declared ∨ a.name ∈ builtinTypes
  only : ∀ g ∈ declared, g.name = a.name → g = a

/-- The types that the modules apply and that the module of types can declare. -/
def appliedGenerics : List Generic :=
  [record, ⟨"Partial", 1⟩, ⟨"Array", 1⟩, ⟨"FilterOperators", 1⟩, paginatedRequest]

section Fits

variable {policy : TypePolicy} {features : Features} {schema : Schema} {a : Generic}

lemma Applied.mem_appliedGenerics (h : Applied features schema a) : a ∈ appliedGenerics := by
  cases h with
  | filter hfeature hm h => rcases h with rfl | rfl <;> simp [appliedGenerics]
  | _ => simp [appliedGenerics]

/-- Utility types that are applied are declared with these parameters. -/
lemma eq_of_mem_utilitySyntax :
    ∀ d ∈ utilitySyntax policy, ∀ a ∈ appliedGenerics, d.generic.name = a.name →
      d.generic = a := by
  obtain ⟨dateAsText, bigintAsText⟩ := policy
  cases dateAsText <;> cases bigintAsText <;> decide

/-- What is applied is no builder: the names of classes end differently, and those of factories
start differently. -/
lemma not_mem_builderExports (ha : a ∈ appliedGenerics) :
    a.name ∉ builderExports (builderNames features schema.messages) := by
  have hclass : ∀ a ∈ appliedGenerics, ¬ "Builder".toList <:+ a.name.toList := by decide
  have hfactory : ∀ a ∈ appliedGenerics, ¬ "create".toList <+: a.name.toList := by decide
  intro hmem
  obtain ⟨b, hb, hname⟩ := List.mem_flatMap.1 hmem
  rcases List.mem_pair.1 hname with hname | hname
  · exact hclass a ha (hname ▸ suffix_of_mem_builderNames hb)
  · refine hfactory a ha ?_
    rw [hname, String.toList_append]
    exact List.prefix_append _ _

/-- Where a type of the schema has the name of a type that is applied, its declaration does not fit,
and otherwise the declarations do. -/
lemma fits_iff (ha : a ∈ appliedGenerics) :
    Fits (typesSyntax policy features schema).declared a ↔ a.name ∉ typeNames schema := by
  have hcount : ∀ a ∈ appliedGenerics, a.count ≠ 0 := by decide
  have hexported : ∀ n ∈ (typesSyntax policy features schema).exports,
      ∃ g ∈ (typesSyntax policy features schema).declared, g.name = n := by
    intro n hn
    rw [← map_name_declared] at hn
    exact List.mem_map.1 hn
  constructor
  · intro h hname
    -- the type of the schema is declared without parameters, and the applied one has some
    have hschema : a.name ∈ (typesSyntax policy features schema).exports := by
      rcases List.mem_append.1 hname with hmessage | henum
      · exact exports_message hmessage
      · exact exports_enum henum
    obtain ⟨g, hg, hgname⟩ := hexported a.name hschema
    obtain rfl := h.only g hg hgname
    cases declares_of_mem hg with
    | type _ => exact hcount _ ha rfl
    | utility hd =>
      exact (not_mem_of_mem_neededSyntax policy features schema (List.mem_map_of_mem hd)).1 hname
    | builder _ => exact hcount _ ha rfl
  · intro hfree
    -- only a utility type can have the name, and those have one declaration each
    have honly : ∀ g ∈ (typesSyntax policy features schema).declared, g.name = a.name → g = a := by
      intro g hg hname
      cases declares_of_mem hg with
      | type hn => exact absurd (hname ▸ hn) hfree
      | utility hd => exact eq_of_mem_utilitySyntax _ (List.mem_filter.1 hd).1 a ha hname
      | @builder n hn =>
        obtain rfl : n = a.name := hname
        exact absurd hn (not_mem_builderExports ha)
    refine ⟨?_, honly⟩
    have hknown : ∀ a ∈ appliedGenerics,
        a.name ∈ (utilitySyntax policy).map (·.name) ∨ a.name ∈ builtinTypes := by
      obtain ⟨dateAsText, bigintAsText⟩ := policy
      cases dateAsText <;> cases bigintAsText <;> decide
    rcases hknown a ha with hutility | hbuiltin
    · obtain ⟨g, hg, hname⟩ := hexported a.name (exports_utility hutility)
      obtain rfl := honly g hg hname
      exact .inl hg
    · exact .inr hbuiltin

end Fits

/-- **Generic types.**  The module of types applies records, parts of filters, lists of sort entries
and the operators of filters where `Applied` says so; the module of the client applies, besides two
types of the language, the paginated request with two arguments.  The module of types declares each
of these with as many parameters, as far as they are not types of the language, just if the schema
has no message and no enumeration of that name. -/
theorem generics_match_iff (policy : TypePolicy) (options : ClientOptions) (schema : Schema) :
    ((typesSyntax policy options.features schema).text =
        typesModule policy options.features schema ∧
      (∀ f ∈ (typesSyntax policy options.features schema).flatten,
        hidesNoApplication f = true) ∧
      (∀ a, a ∈ (typesSyntax policy options.features schema).applications ↔
        Applied options.features schema a) ∧
      ∀ a ∈ (typesSyntax policy options.features schema).applications,
        Fits (typesSyntax policy options.features schema).declared a ↔
          a.name ∉ typeNames schema) ∧
    ∀ client, clientModule options schema = .ok client →
      ∃ layout : List GroupSyntax,
        methodGroups options.features schema.services =
          .ok (layout.map (GroupSyntax.group options.features)) ∧
        client = (clientSyntax options layout schema).text ∧
        (∀ f ∈ (clientSyntax options layout schema).flatten, hidesNoApplication f = true) ∧
        (∀ a ∈ (clientSyntax options layout schema).applications, a ∈ clientGenerics) ∧
        (clientSyntax options layout schema).appliedImports = [paginatedRequest] ∧
        (Fits (typesSyntax policy options.features schema).declared paginatedRequest ↔
          paginatedRequest.name ∉ typeNames schema) := by
  refine ⟨⟨text_typesSyntax policy options.features schema, fun f hf => ?_,
    fun a => mem_applications_typesSyntax, fun a ha => ?_⟩, fun client hclient => ?_⟩
  · exact hidesNoApplication_of_bare (bare_typesSyntax policy options.features schema f hf)
  · exact fits_iff (mem_applications_typesSyntax.1 ha).mem_appliedGenerics
  · obtain ⟨layout, hlayout, htext⟩ := layout_of_clientModule hclient
    refine ⟨layout, hlayout, htext, fun f hf => ?_,
      fun a ha => mem_clientGenerics_of_applications ha,
      appliedImports_clientSyntax options layout schema, fits_iff (by simp [appliedGenerics])⟩
    exact hidesNoApplication_of_bare (bare_clientSyntax options layout schema f hf)

/-- The helper of the client does not fit a schema with a message that takes the name of the
paginated request: the module of types declares the message only, which has no parameters. -/
theorem generics_match_iff_ownRequest :
    ∃ client layout,
      clientModule {} (bareSchema ["PaginatedRequest"]) = .ok client ∧
      client = (clientSyntax {} layout (bareSchema ["PaginatedRequest"])).text ∧
      (clientSyntax {} layout (bareSchema ["PaginatedRequest"])).appliedImports =
        [paginatedRequest] ∧
      (∀ policy, ¬ Fits (typesSyntax policy {} (bareSchema ["PaginatedRequest"])).declared
        paginatedRequest) ∧
      ∀ policy, Fits (typesSyntax policy {} (bareSchema ["User"])).declared paginatedRequest := by
  obtain ⟨client, hclient⟩ : ∃ client,
      clientModule {} (bareSchema ["PaginatedRequest"]) = .ok client := ⟨_, rfl⟩
  obtain ⟨user, huser⟩ : ∃ user, clientModule {} (bareSchema ["User"]) = .ok user := ⟨_, rfl⟩
  obtain ⟨layout, -, htext, -, -, happlied, -⟩ := (generics_match_iff {} {} _).2 client hclient
  refine ⟨client, layout, hclient, htext, happlied, fun policy hfits => ?_, fun policy => ?_⟩
  · obtain ⟨-, -, -, -, -, -, hiff⟩ := (generics_match_iff policy {} _).2 client hclient
    exact hiff.1 hfits (by decide)
  · obtain ⟨-, -, -, -, -, -, hiff⟩ := (generics_match_iff policy {} _).2 user huser
    exact hiff.2 (by decide)

end TypedFetch.TypeScript
