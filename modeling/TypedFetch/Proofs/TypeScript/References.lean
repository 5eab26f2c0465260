import TypedFetch.Proofs.Client.MethodBody
import TypedFetch.Proofs.Schema.DependencyOrder
import TypedFetch.Proofs.TypeScript.FixedCode

/-!
# Closure of references

Two modules are generated from a schema, and they must agree on the names of types: what the module
of types refers to is declared there, and so is everything that the module of the client takes from
it.  A utility type may be missing, but only where a message, an enumeration or a builder class has
its name, and each of these is declared; and the builder classes that the helpers create are those
of the sections that the same features switch on.

The main statement is `references_closed`.
-/

namespace TypedFetch.TypeScript

open TypedFetch.Schema (Method Message EnumType Field)
open Syntax

/-! ## Known types -/

/-- The names of fields' types that have a fixed counterpart. -/
def fixedTypes : List String :=
  scalarTypes.map Prod.fst ++ bigintTypes ++ [timestampType] ++ wellKnownTypes.map Prod.fst

/-- Every type that a schema refers to is a fixed type, the empty message, or declared by it. -/
structure TypesKnown (schema : Schema) : Prop where
  fields : ∀ m ∈ schema.messages, ∀ f ∈ m.fields,
    f.typeName ∈ fixedTypes ∨ f.typeName = emptyType ∨
      f.typeName ∈ schema.messages.map (·.name) ∨ f.typeName ∈ schema.enums.map (·.name)
  inputs : ∀ m ∈ schema.methods,
    m.inputType = emptyType ∨ m.inputType ∈ schema.messages.map (·.name)
  outputs : ∀ m ∈ schema.methods,
    m.outputType = emptyType ∨ m.outputType ∈ schema.messages.map (·.name)

/-! ## What the module of types exports -/

section Exports

variable {policy : TypePolicy} {features : Features} {schema : Schema} {n : String}

lemma mem_exports {m : Module} {s : List Fragment} {f : Fragment} (hs : s ∈ m)
    (hf : f ∈ s) (hn : n ∈ f.exports) : n ∈ m.exports :=
  List.mem_flatMap.2 ⟨f, List.mem_flatten.2 ⟨s, hs, hf⟩, hn⟩

lemma exports_of_declaration {d : DeclarationSyntax}
    (hd : ∃ f ∈ typeFragments policy features schema, d.name ∈ f.exports) :
    d.name ∈ (typesSyntax policy features schema).exports := by
  obtain ⟨f, hf, hn⟩ := hd
  exact mem_exports (by simp [typesSyntax]) hf hn

lemma exports_schemaSyntax {d : DeclarationSyntax} (hd : d ∈ schemaSyntax policy features schema) :
    d.name ∈ (typesSyntax policy features schema).exports := by
  obtain ⟨f, hf, hn⟩ := List.mem_flatMap.1 d.exports_fragments
  refine exports_of_declaration ⟨f, ?_, hn⟩
  simp only [typeFragments, List.cons_append, List.mem_cons, List.mem_append, List.mem_flatMap]
  exact Or.inr (Or.inl ⟨d, hd, Or.inl hf⟩)

lemma exports_neededSyntax {d : DeclarationSyntax} (hd : d ∈ neededSyntax policy features schema) :
    d.name ∈ (typesSyntax policy features schema).exports := by
  obtain ⟨f, hf, hn⟩ := List.mem_flatMap.1 d.exports_fragments
  refine exports_of_declaration ⟨f, ?_, hn⟩
  have hutility : f ∈ utilityFragments d := by
    unfold utilityFragments
    split
    · exact hf
    · exact List.mem_append_left _ hf
  simp only [typeFragments, List.cons_append, List.mem_cons, List.mem_append, List.mem_flatMap]
  exact Or.inr (Or.inr (Or.inr ⟨d, hd, hutility⟩))

lemma exports_message (h : n ∈ schema.messages.map (·.name)) :
    n ∈ (typesSyntax policy features schema).exports := by
  obtain ⟨m, hm, rfl⟩ := List.mem_map.1 (Schema.mem_map_name_dependencyOrder.2 h)
  refine exports_schemaSyntax (d := interfaceSyntax policy features m) ?_
  exact List.mem_append_left _ (List.mem_map_of_mem hm)

/-- An enumeration is exported, or a message of its name is. -/
lemma exports_enum (h : n ∈ schema.enums.map (·.name)) :
    n ∈ (typesSyntax policy features schema).exports := by
  -- an enumeration gives way to a message of its name
  by_cases hmessage : n ∈ (Schema.dependencyOrder schema.messages).map (·.name)
  · exact exports_message (Schema.mem_map_name_dependencyOrder.1 hmessage)
  · obtain ⟨e, he, rfl⟩ := List.mem_map.1 ((mem_map_name_firstOfEachName EnumType.name).2 h)
    refine exports_schemaSyntax (d := unionSyntax features e) ?_
    refine List.mem_append_right _ (List.mem_map_of_mem (List.mem_filter.2 ⟨he, ?_⟩))
    simpa using hmessage

lemma exports_filterBuilder {m : Message} (hfeature : features.filterBuilders = true)
    (hm : m ∈ messagesMarked filterMarker schema.messages) :
    builderName m ∈ (typesSyntax policy features schema).exports := by
  refine mem_exports (s := filterSection policy schema.messages)
    (f := .exported "class" (builderName m) []) (by simp [typesSyntax, hfeature]) ?_
    (by simp [Fragment.exports])
  refine List.mem_cons_of_mem _ (List.mem_flatMap.2 ⟨m, hm, ?_⟩)
  simp [filterBuilderFragments]

lemma exports_sortBuilder {m : Message} (hfeature : features.sortBuilders = true)
    (hm : m ∈ messagesMarked sortMarker schema.messages) :
    builderName m ∈ (typesSyntax policy features schema).exports := by
  refine mem_exports (s := sortSection schema.messages schema.enums)
    (f := .exported "class" (builderName m) []) (by simp [typesSyntax, hfeature]) ?_
    (by simp [Fragment.exports])
  refine List.mem_cons_of_mem _ (List.mem_flatMap.2 ⟨m, hm, ?_⟩)
  simp [sortBuilderFragments]

/-- A name that utility types must leave free is exported. -/
lemma exports_takenNames (h : n ∈ takenNames features schema) :
    n ∈ (typesSyntax policy features schema).exports := by
  rcases List.mem_append.1 h with hschema | hbuilder
  · rcases List.mem_append.1 hschema with hmessage | henum
    · exact exports_message (Schema.mem_map_name_dependencyOrder.1 hmessage)
    · obtain ⟨e, he, rfl⟩ := List.mem_map.1 henum
      refine exports_enum (List.mem_map_of_mem ?_)
      exact mem_of_mem_firstOfEachName _ (List.mem_filter.1 he).1
  · rcases List.mem_append.1 hbuilder with hfilter | hsort
    · split at hfilter
      · next hfeature =>
        obtain ⟨m, hm, rfl⟩ := List.mem_map.1 hfilter
        exact exports_filterBuilder hfeature hm
      · exact absurd hfilter (by simp)
    · split at hsort
      · next hfeature =>
        obtain ⟨m, hm, rfl⟩ := List.mem_map.1 hsort
        exact exports_sortBuilder hfeature hm
      · exact absurd hsort (by simp)

/-- The name of every utility type is exported, whether the utility type is needed or not. -/
lemma exports_utility (h : n ∈ (utilitySyntax policy).map (·.name)) :
    n ∈ (typesSyntax policy features schema).exports := by
  -- a utility type is left out only where something else takes its name
  by_cases htaken : n ∈ takenNames features schema
  · exact exports_takenNames htaken
  · obtain ⟨d, hd, rfl⟩ := List.mem_map.1 h
    exact exports_neededSyntax (List.mem_filter.2 ⟨hd, by simpa using htaken⟩)

end Exports

/-! ## What the module of types refers to -/

/-- All types that fragments refer to satisfy a predicate. -/
abbrev RefersTo (known : String → Prop) : List Fragment → Prop :=
  Each fun f => ∀ n ∈ f.references, known n

section RefersTo

variable {known : String → Prop}

lemma references_type {scope : List TypeParam} {t : TypeExpr} (h : ∀ n ∈ t.names, known n) :
    ∀ n ∈ (Fragment.type scope t).references, known n :=
  fun n hn => h n (List.mem_filter.1 hn).1

/-- The references of an interface are those of its properties. -/
lemma refersTo_shape {name : String} {params : List TypeParam} {doc : List String}
    {properties : List PropertySyntax}
    (h : ∀ p ∈ properties, ∀ n ∈ p.type.names, known n) :
    RefersTo known (DeclarationSyntax.fragments ⟨name, params, doc, .shape properties⟩) := by
  have hproperties : ∀ p ∈ properties, RefersTo known (p.fragments params) := by
    intro p hp
    simp only [PropertySyntax.fragments, each_cons]
    simpa using references_type (h p hp)
  simpa [DeclarationSyntax.fragments] using hproperties

lemma refersTo_synonym {name : String} {params : List TypeParam} {doc : List String}
    {type : TypeExpr} (h : ∀ n ∈ type.names, known n) :
    RefersTo known (DeclarationSyntax.fragments ⟨name, params, doc, .synonym type⟩) := by
  simpa [DeclarationSyntax.fragments] using references_type h

end RefersTo

/-- The fixed types are types of the language. -/
lemma names_singleExpr_fixed (policy : TypePolicy) :
    ∀ t ∈ fixedTypes, ∀ n ∈ (policy.singleExpr t).names, n ∈ builtinTypes := by
  obtain ⟨dateAsText, bigintAsText⟩ := policy
  cases dateAsText <;> cases bigintAsText <;> decide

lemma lookup_eq_none_of_not_mem {β : Type} {table : List (String × β)} {key : String}
    (h : key ∉ table.map Prod.fst) : table.lookup key = none := by
  rw [List.lookup_eq_none_iff]
  rintro ⟨key', value⟩ hp
  simp only [bne_iff_ne]
  rintro rfl
  exact h (List.mem_map_of_mem hp)

/-- Every other type stands for itself. -/
lemma singleExpr_of_not_fixed (policy : TypePolicy) {t : String} (h : t ∉ fixedTypes) :
    policy.singleExpr t = .name t := by
  simp only [fixedTypes, List.mem_append, List.mem_singleton, not_or] at h
  obtain ⟨⟨⟨hscalar, hbigint⟩, htimestamp⟩, hknown⟩ := h
  have hcomposed : t ∉ composedTypes.map Prod.fst :=
    fun ht => hknown ((show ∀ t ∈ composedTypes.map Prod.fst, t ∈ wellKnownTypes.map Prod.fst by
      decide) t ht)
  simp [TypePolicy.singleExpr, TypePolicy.single, lookup_eq_none_of_not_mem hscalar,
    lookup_eq_none_of_not_mem hknown, lookup_eq_none_of_not_mem hcomposed, hbigint, htimestamp]

section Types

variable {policy : TypePolicy} {features : Features} {schema : Schema}

/-- A name is a type of the language or exported by the module of types. -/
def Available (policy : TypePolicy) (features : Features) (schema : Schema) (n : String) : Prop :=
  n ∈ builtinTypes ∨ n ∈ (typesSyntax policy features schema).exports

lemma available_of_mem {n : String} (h : n ∈ builtinTypes) : Available policy features schema n :=
  Or.inl h

/-- The types of the language that builders use. -/
lemma available_builtins :
    Available policy features schema "Partial" ∧ Available policy features schema "Record" ∧
      Available policy features schema "string" ∧ Available policy features schema "unknown" ∧
      Available policy features schema "this" := by
  refine ⟨?_, ?_, ?_, ?_, ?_⟩ <;> exact available_of_mem (by decide)

lemma available_dateType : Available policy features schema policy.dateType := by
  refine available_of_mem ?_
  unfold TypePolicy.dateType
  split <;> decide

lemma available_fieldExpr (h : TypesKnown schema) {m : Message} {f : Field}
    (hm : m ∈ schema.messages) (hf : f ∈ m.fields) :
    ∀ n ∈ (policy.fieldExpr f).names, Available policy features schema n := by
  have hsingle : ∀ n ∈ (policy.singleExpr f.typeName).names,
      Available policy features schema n := by
    intro n hn
    -- a message cannot take the name of a fixed type away, so the tables come first
    by_cases hfixed : f.typeName ∈ fixedTypes
    · exact Or.inl (names_singleExpr_fixed policy _ hfixed n hn)
    · rw [singleExpr_of_not_fixed policy hfixed] at hn
      obtain rfl : n = f.typeName := by simpa [TypeExpr.names] using hn
      right
      rcases h.fields m hm f hf with hknown | hempty | hmessage | henum
      · exact absurd hknown hfixed
      · rw [hempty]
        exact exports_utility (by simp [utilitySyntax, emptyType])
      · exact exports_message hmessage
      · exact exports_enum henum
  intro n hn
  unfold TypePolicy.fieldExpr at hn
  split at hn
  · rcases List.mem_append.1 hn with hn | hn
    · obtain rfl | rfl : n = "Record" ∨ n = "string" := by simpa [TypeExpr.names] using hn
      · exact available_of_mem (by decide)
      · exact available_of_mem (by decide)
    · exact hsingle n hn
  · split at hn
    · exact hsingle n hn
    · exact hsingle n hn

/-- The utility types refer to each other and to types of the language. -/
lemma names_utilitySyntax (policy : TypePolicy) :
    ∀ d ∈ utilitySyntax policy, ∀ f ∈ d.fragments, ∀ n ∈ f.references,
      n ∈ builtinTypes ∨ n ∈ (utilitySyntax policy).map (·.name) := by
  obtain ⟨dateAsText, bigintAsText⟩ := policy
  cases dateAsText <;> cases bigintAsText <;> decide

lemma refersTo_utility {d : DeclarationSyntax} (hd : d ∈ utilitySyntax policy) :
    RefersTo (Available policy features schema) d.fragments := by
  intro f hf n hn
  rcases names_utilitySyntax policy d hd f hf n hn with hbuiltin | hutility
  · exact Or.inl hbuiltin
  · exact Or.inr (exports_utility hutility)

lemma refersTo_interface (h : TypesKnown schema) {m : Message} (hm : m ∈ schema.messages) :
    RefersTo (Available policy features schema) (interfaceSyntax policy features m).fragments := by
  refine refersTo_shape fun p hp => ?_
  obtain ⟨f, hf, rfl⟩ := List.mem_map.1 hp
  exact available_fieldExpr h hm hf

lemma refersTo_union (e : EnumType) :
    RefersTo (Available policy features schema) (unionSyntax features e).fragments := by
  refine refersTo_synonym fun n hn => ?_
  split at hn
  · obtain rfl : n = "never" := by simpa [TypeExpr.names] using hn
    exact available_of_mem (by decide)
  · exact absurd hn (by simp [TypeExpr.names])

lemma refersTo_typeFragments (h : TypesKnown schema) :
    RefersTo (Available policy features schema) (typeFragments policy features schema) := by
  have hschema : ∀ d ∈ schemaSyntax policy features schema,
      RefersTo (Available policy features schema) d.fragments := by
    intro d hd
    rcases List.mem_append.1 hd with hd | hd
    · obtain ⟨m, hm, rfl⟩ := List.mem_map.1 hd
      exact refersTo_interface h (Schema.mem_of_mem_dependencyOrder hm)
    · obtain ⟨e, -, rfl⟩ := List.mem_map.1 hd
      exact refersTo_union e
  have hneeded : ∀ d ∈ neededSyntax policy features schema,
      RefersTo (Available policy features schema) (utilityFragments d) := by
    intro d hd
    have hfragments : RefersTo (Available policy features schema) d.fragments :=
      refersTo_utility (List.mem_filter.1 hd).1
    unfold utilityFragments
    split
    · exact hfragments
    · simpa using hfragments
  simp only [typeFragments, each_append, each_cons, each_flatMap]
  simpa using ⟨hschema, hneeded⟩

lemma refersTo_factory {head className : String}
    (h : Available policy features schema className) :
    RefersTo (Available policy features schema) (factoryFragments head (.name className)) := by
  simpa [factoryFragments, Fragment.references, TypeExpr.names] using h

lemma available_setter (h : TypesKnown schema) {m : Message} (hm : m ∈ schema.messages)
    {s : SetterSyntax} (hs : s ∈ setterSyntax policy m) :
    ∀ n ∈ s.type.names, Available policy features schema n := by
  -- a setter is one of the setters of a field, although not all of these become methods
  obtain ⟨f, hf, hs⟩ := List.mem_flatMap.1 (mem_of_mem_firstOfEachName _ hs)
  have hown : ∀ n ∈ (policy.fieldExpr f).names, Available policy features schema n :=
    available_fieldExpr h hm hf
  have hstring : Available policy features schema "string" := available_of_mem (by decide)
  have hdate : Available policy features schema policy.dateType := available_dateType
  simp only [fieldSetterSyntax] at hs
  split at hs
  · obtain rfl := List.mem_singleton.1 hs
    exact hown
  · split at hs
    · rcases List.mem_cons.1 hs with rfl | hs
      · exact hown
      · obtain rfl := List.mem_singleton.1 hs
        simpa [TypeExpr.names] using hstring
    · split at hs
      · rcases List.mem_cons.1 hs with rfl | hs
        · exact hown
        · rcases List.mem_cons.1 hs with rfl | hs
          · simpa [TypeExpr.names] using hdate
          · obtain rfl := List.mem_singleton.1 hs
            simpa [TypeExpr.names] using hdate
      · obtain rfl := List.mem_singleton.1 hs
        exact hown

lemma mem_messages_of_marked {marker : String} {messages : List Message} {m : Message}
    (h : m ∈ messagesMarked marker messages) : m ∈ messages :=
  mem_of_mem_firstOfEachName _ (List.mem_filter.1 h).1

lemma refersTo_filterSection (h : TypesKnown schema) (hfeature : features.filterBuilders = true) :
    RefersTo (Available policy features schema) (filterSection policy schema.messages) := by
  simp only [filterSection, each_cons, each_flatMap]
  refine ⟨by simp [Fragment.references], fun m hm => ?_⟩
  have hmessage := mem_messages_of_marked hm
  have htarget : Available policy features schema m.name :=
    Or.inr (exports_message (List.mem_map_of_mem hmessage))
  have hclass : Available policy features schema (builderName m) :=
    Or.inr (exports_filterBuilder hfeature hm)
  have hsetters : ∀ s ∈ setterSyntax policy m,
      RefersTo (Available policy features schema) s.fragments := by
    intro s hs
    have htype : ∀ n ∈ (Fragment.type [] s.type).references, Available policy features schema n :=
      references_type (available_setter h hmessage hs)
    simpa [SetterSyntax.fragments, Fragment.references, TypeExpr.names, available_builtins]
      using htype
  simp only [filterBuilderFragments, each_append, each_flatMap]
  refine ⟨⟨⟨?_, hsetters⟩, ?_⟩, refersTo_factory hclass⟩
  · simp [Fragment.references, TypeExpr.names, anyRecord, htarget, available_builtins]
  · simp [Fragment.references, TypeExpr.names, htarget]

/-- The type of sort entries is exported where a list of them is named by it. -/
lemma available_sortListExpr :
    ∀ n ∈ (sortListExpr schema.messages schema.enums).names,
      Available policy features schema n := by
  intro n hn
  unfold sortListExpr at hn
  split at hn
  · obtain rfl | rfl : n = "Array" ∨ n = "string" := by
      simpa [TypeExpr.names, directions] using hn
    · exact available_of_mem (by decide)
    · exact available_of_mem (by decide)
  · obtain rfl : n = sortEntryType := by simpa [TypeExpr.names] using hn
    exact Or.inr (exports_utility (by simp [utilitySyntax, sortEntryType]))

lemma refersTo_sortSection (hfeature : features.sortBuilders = true) :
    RefersTo (Available policy features schema) (sortSection schema.messages schema.enums) := by
  simp only [sortSection, each_cons, each_flatMap]
  refine ⟨by simp [Fragment.references], fun m hm => ?_⟩
  have hclass : Available policy features schema (builderName m) :=
    Or.inr (exports_sortBuilder hfeature hm)
  have hlist : ∀ n ∈ (Fragment.type [] (sortListExpr schema.messages schema.enums)).references,
      Available policy features schema n := references_type available_sortListExpr
  have hmethods : ∀ s ∈ sortMethodsOf m,
      RefersTo (Available policy features schema) (sortMethodFragments s) := by
    intro s _
    simp [sortMethodFragments, Fragment.references, TypeExpr.names, directions, available_builtins]
  simp only [sortBuilderFragments, each_append, each_flatMap]
  refine ⟨⟨⟨?_, hmethods⟩, ?_⟩, refersTo_factory hclass⟩
  · simpa [Fragment.references] using hlist
  · simpa [Fragment.references] using hlist

/-- Every type that the module of types refers to is available in it. -/
lemma available_of_references (h : TypesKnown schema) {n : String}
    (hn : n ∈ (typesSyntax policy features schema).references) :
    Available policy features schema n := by
  obtain ⟨f, hf, hn⟩ := List.mem_flatMap.1 hn
  obtain ⟨fs, hfs, hf⟩ := List.mem_flatten.1 hf
  simp only [typesSyntax, List.mem_append, List.mem_singleton] at hfs
  rcases hfs with (rfl | hfs) | hfs
  · exact refersTo_typeFragments h f hf n hn
  · split at hfs
    · next hfeature =>
      obtain rfl := List.mem_singleton.1 hfs
      exact refersTo_filterSection h hfeature f hf n hn
    · exact absurd hfs (by simp)
  · split at hfs
    · next hfeature =>
      obtain rfl := List.mem_singleton.1 hfs
      exact refersTo_sortSection hfeature f hf n hn
    · exact absurd hfs (by simp)

end Types

/-! ## What the module of the client takes from the module of types -/

/-- All types that fragments take from the module of types satisfy a predicate. -/
abbrev TakesFrom (known : String → Prop) : List Fragment → Prop :=
  Each fun f => ∀ n ∈ f.imports, known n

section TakesFrom

variable {known : String → Prop}

lemma takesFrom_statement {m : Method} (houtput : known m.outputType) {s : Statement}
    (hs : s ∈ bodyOf m) : TakesFrom known (statementFragments s) := by
  have hcall : TakesFrom known (callFragments m.verb m.outputType) := by
    simpa [callFragments, TypeExpr.imports] using houtput
  rcases List.mem_cons.1 hs with rfl | hs
  · simp [statementFragments]
  -- however the request is sent, it has the output type of the method
  have hsends := sendsBy_sendStatements m
  generalize sendStatements m = statements at hs hsends
  cases hsends with
  | nothing _ =>
    obtain rfl := List.mem_singleton.1 hs
    simpa [statementFragments] using hcall
  | wholeQuery _ _ _ =>
    obtain rfl | rfl : s = .query "request" ∨ s = .sendQuery m.verb m.outputType := by
      simpa using hs
    · simp [statementFragments]
    · simpa [statementFragments] using hcall
  | restQuery _ _ _ =>
    obtain rfl | rfl | rfl : s = .unpack (unpackedFields m.path) "query" ∨
        s = .query "query" ∨ s = .sendQuery m.verb m.outputType := by
      simpa using hs
    · simp [statementFragments]
    · simp [statementFragments]
    · simpa [statementFragments] using hcall
  | wholeBody _ _ _ =>
    obtain rfl := List.mem_singleton.1 hs
    simpa [statementFragments] using hcall
  | restBody _ _ _ =>
    obtain rfl | rfl : s = .unpack (unpackedFields m.path) "body" ∨
        s = .send m.verb m.outputType "body" := by
      simpa using hs
    · simp [statementFragments]
    · simpa [statementFragments] using hcall

lemma takesFrom_method (features : Features) {m : Method}
    (hinput : known m.inputType) (houtput : known m.outputType) :
    TakesFrom known (methodFragments features m) := by
  have hparameters : TakesFrom known (parameterFragments m) := by
    unfold parameterFragments
    split
    · simp [requestOptions, TypeExpr.imports]
    · simpa [requestOptions, TypeExpr.imports] using hinput
  have hbody : ∀ s ∈ bodyOf m, TakesFrom known (statementFragments s) :=
    fun s hs => takesFrom_statement houtput hs
  simp only [methodFragments, each_append, each_flatMap]
  refine ⟨⟨⟨⟨by simp, hparameters⟩, ?_⟩, hbody⟩, by simp⟩
  simpa [TypeExpr.imports] using houtput

lemma takesFrom_class (options : ClientOptions) {layout : List GroupSyntax}
    (h : ∀ g ∈ layout, ∀ m ∈ g.methods, known m.inputType ∧ known m.outputType) :
    TakesFrom known (classFragments options layout) := by
  have hgroups : ∀ g ∈ layout, TakesFrom known (g.fragments options.features) := by
    intro g hg
    have hmethods : ∀ m ∈ g.methods, TakesFrom known (methodFragments options.features m) :=
      fun m hm => takesFrom_method options.features (h g hg m hm).1 (h g hg m hm).2
    simp only [GroupSyntax.fragments, each_append, each_flatMap]
    refine ⟨?_, hmethods⟩
    cases g.comment <;> simp
  simp only [classFragments, each_append, each_flatMap]
  refine ⟨⟨?_, hgroups⟩, ?_⟩
  · simp [partialConfig, TypeExpr.imports]
  · simp [partialConfig, TypeExpr.imports]

lemma takesFrom_helpers {marker : String} {messages : List Message}
    (h : ∀ m ∈ messagesMarked marker messages, known (builderName m)) :
    TakesFrom known (helperFragments marker messages) := by
  simp only [helperFragments, each_append, each_flatMap]
  refine ⟨by simp, fun m hm => ?_⟩
  simpa [factoryFragments, TypeExpr.imports] using h m hm

lemma takesFrom_helperSyntax {features : Features} {schema : Schema}
    (hpagination : known "Pagination") (hrequest : known "PaginatedRequest")
    (hfilter : features.filterBuilders = true →
      ∀ m ∈ messagesMarked filterMarker schema.messages, known (builderName m))
    (hsort : features.sortBuilders = true →
      ∀ m ∈ messagesMarked sortMarker schema.messages, known (builderName m)) :
    TakesFrom known (helperSyntax features schema) := by
  simp only [helperSyntax, each_append, each_cons]
  refine ⟨⟨⟨⟨by simp, ?_⟩, by simp, ?_⟩, ?_⟩, ?_⟩
  · simpa [paginationFragments, TypeExpr.imports] using hpagination
  · simpa [paginatedFragments, TypeExpr.imports] using ⟨hpagination, hrequest⟩
  · split
    · next hfeature => exact takesFrom_helpers (hfilter hfeature)
    · exact each_nil
  · split
    · next hfeature => exact takesFrom_helpers (hsort hfeature)
    · exact each_nil

end TakesFrom

/-- Every type that the module of the client takes from the module of types is exported there. -/
lemma exports_of_imports {policy : TypePolicy} {options : ClientOptions} {schema : Schema}
    {layout : List GroupSyntax} (h : TypesKnown schema)
    (hlayout : ∀ g ∈ layout, ∀ m ∈ g.methods, m ∈ schema.methods) {n : String}
    (hn : n ∈ (clientSyntax options layout schema).imports) :
    n ∈ (typesSyntax policy options.features schema).exports := by
  have hknown : ∀ t, t = emptyType ∨ t ∈ schema.messages.map (·.name) →
      t ∈ (typesSyntax policy options.features schema).exports := by
    rintro t (rfl | ht)
    · exact exports_utility (by simp [utilitySyntax, emptyType])
    · exact exports_message ht
  obtain ⟨f, hf, hn⟩ := List.mem_flatMap.1 hn
  obtain ⟨fs, hfs, hf⟩ := List.mem_flatten.1 hf
  obtain rfl | rfl : fs = classFragments options layout ∨
      fs = helperSyntax options.features schema := by simpa [clientSyntax] using hfs
  · refine takesFrom_class options (fun g hg m hm => ?_) f hf n hn
    have hm := hlayout g hg m hm
    exact ⟨hknown _ (h.inputs m hm), hknown _ (h.outputs m hm)⟩
  · refine takesFrom_helperSyntax ?_ ?_ ?_ ?_ f hf n hn
    · exact exports_utility (by simp [utilitySyntax])
    · exact exports_utility (by simp [utilitySyntax])
    · exact fun hfeature m hm => exports_filterBuilder hfeature hm
    · exact fun hfeature m hm => exports_sortBuilder hfeature hm

/-! ## No hidden references -/

/-- The code of fragments refers to the module of types in no hidden way. -/
abbrev Unqualified : List Fragment → Prop := Each fun f => unqualified f = true

lemma unqualified_class (options : ClientOptions) (layout : List GroupSyntax) :
    Unqualified (classFragments options layout) :=
  fun f hf => unqualified_of_bare (bare_class options layout f hf)

lemma unqualified_helperSyntax (features : Features) (schema : Schema) :
    Unqualified (helperSyntax features schema) :=
  fun f hf => unqualified_of_bare (bare_helperSyntax features schema f hf)

/-! ## Closure -/

/-- **Closure of references.**  Let every type that a schema refers to be known.  Then every type
that the module of types refers to is a type of the language or exported by the module; and where
there is a module of the client, every type that it takes from the module of types, as it is
generated with the same features, is exported there. -/
theorem references_closed (policy : TypePolicy) (options : ClientOptions) (schema : Schema)
    (h : TypesKnown schema) :
    (typesSyntax policy options.features schema).text =
      typesModule policy options.features schema ∧
    (∀ n ∈ (typesSyntax policy options.features schema).references,
      n ∈ builtinTypes ∨ n ∈ (typesSyntax policy options.features schema).exports) ∧
    ∀ client, clientModule options schema = .ok client →
      ∃ layout : List GroupSyntax,
        methodGroups options.features schema.services =
          .ok (layout.map (GroupSyntax.group options.features)) ∧
        client = (clientSyntax options layout schema).text ∧
        (∀ f ∈ (clientSyntax options layout schema).flatten, unqualified f = true) ∧
        ∀ n ∈ (clientSyntax options layout schema).imports,
          n ∈ (typesSyntax policy options.features schema).exports := by
  refine ⟨text_typesSyntax policy options.features schema,
    fun n hn => available_of_references h hn, ?_⟩
  intro client hclient
  rcases hgroups : methodGroups options.features schema.services with c | groups
  · rw [clientModule, clientSection, hgroups] at hclient
    exact absurd hclient (by simp [Except.map])
  · obtain ⟨layout, rfl, hlayout⟩ := exists_layout hgroups
    refine ⟨layout, rfl, ?_, ?_, fun n hn => exports_of_imports h hlayout hn⟩
    · exact Except.ok.inj (hclient.symm.trans (text_clientSyntax hgroups))
    · intro f hf
      obtain ⟨fs, hfs, hf⟩ := List.mem_flatten.1 hf
      obtain rfl | rfl : fs = classFragments options layout ∨
          fs = helperSyntax options.features schema := by simpa [clientSyntax] using hfs
      · exact unqualified_class options layout f hf
      · exact unqualified_helperSyntax options.features schema f hf

/-- A schema that takes the names of a utility type and of the type of sort entries, refers to
itself in a circle, and has messages of both kinds of builders. -/
def directorySchema : Schema where
  files := [{
    messages := [
      { name := "User"
        fields := [
          { name := "id", typeName := "int64", number := 1 },
          { name := "role", typeName := "Role", number := 2 },
          { name := "manager", typeName := "User", isOptional := true, number := 3 },
          { name := "labels", typeName := "google.protobuf.Struct", number := 4,
            mapKeyType := some "string" }] },
      { name := "UserFilter"
        fields := [
          { name := "created", typeName := "Timestamp", number := 1 },
          { name := "page", typeName := "Pagination", number := 2 }] },
      { name := "UserSort" },
      { name := "Pagination" }]
    enums := [{ name := "Role", values := ["ADMIN"] }, { name := "SortDirection" }]
    services := [{
      name := "Users"
      methods := [
        { name := "ListUsers", inputType := "UserFilter", outputType := "User", verb := .get
          path := "/v1/users" },
        { name := "Reset", inputType := "Empty", outputType := "Empty", path := "/v1/reset" }] }] }]

/-- The references of that schema are closed in every setting. -/
theorem references_closed_directorySchema :
    TypesKnown directorySchema ∧
    ∀ (policy : TypePolicy) (options : ClientOptions),
      ∀ n ∈ (typesSyntax policy options.features directorySchema).references,
        n ∈ builtinTypes ∨ n ∈ (typesSyntax policy options.features directorySchema).exports := by
  have hknown : TypesKnown directorySchema := ⟨by decide, by decide, by decide⟩
  refine ⟨hknown, fun policy options => ?_⟩
  exact (references_closed policy options directorySchema hknown).2.1

end TypedFetch.TypeScript
