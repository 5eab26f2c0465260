import TypedFetch.Proofs.Client.Scope
import TypedFetch.Proofs.TypeScript.ClientSyntax
import TypedFetch.Proofs.TypeScript.Setters

/-!
# The members of generated classes

A filter builder has the property `filter` and the method `build` next to its setters, a sort
builder has `sorts` and `build` next to its methods, and the client class has `client` and its
constructor next to the methods of the schema.  Setters and methods have distinct names among
themselves; the members that every class has are not compared with them.

The main statement is `members_nodup_iff`: which names of fields and methods meet such a member.
-/

namespace TypedFetch.TypeScript

open TypedFetch.Schema (Message Method Field)

/-! ## Filter builders -/

/-- A setter. -/
def setterSpans (s : Setter) : List Span :=
  [.code "\n  ", .member s.name, .code "(", .declared "value", .code ": ", .given s.type,
   .code "): this \x7b\n    this.filter.", .given s.name, .code " = ", .used "value",
   .code ";\n    return this;\n  \x7d\n"]

/-- The members of a filter builder. -/
def filterSpans (policy : TypePolicy) (m : Message) : List Span :=
  ([.code "  private ", .member "filter", .code ": ",
    .given ("Partial<" ++ m.name ++ "> & Record<string, unknown>"), .code " = \x7b\x7d;\n"] :
    List Span) ++
    (filterBuilderOf policy m).setters.flatMap setterSpans ++
    ([.code "\n  ", .member "build", .code "(): ", .given m.name,
      .code " \x7b\n    return this.filter as ", .given m.name, .code ";\n  \x7d\n"] : List Span)

/-- The text of a builder with given members. -/
def builderText (m : Message) (members : List Span) : String :=
  "\n" ++ block ("export class " ++ builderName m) (textOf members) ++
    factory ("create" ++ builderName m) (builderName m)

lemma filterBuilder_text (policy : TypePolicy) (m : Message) :
    (filterBuilderOf policy m).text = builderText m (filterSpans policy m) := by
  have hsetter : ∀ s : Setter, textOf (setterSpans s) = s.text := by
    intro s
    unfold Setter.text
    simp [← String.toList_inj, setterSpans, Span.text]
  have hmembers : textOf (filterSpans policy m) =
      "  private filter: Partial<" ++ m.name ++ "> & Record<string, unknown> = \x7b\x7d;\n" ++
        String.join ((filterBuilderOf policy m).setters.map Setter.text) ++
        "\n  build(): " ++ m.name ++ " \x7b\n    return this.filter as " ++ m.name ++
        ";\n  \x7d\n" := by
    rw [filterSpans, textOf_append, textOf_append, textOf_flatMap hsetter]
    simp [← String.toList_inj, Span.text]
  rw [builderText, hmembers]
  rfl

lemma quiet_filterSpans (policy : TypePolicy) (m : Message) : Quiet (filterSpans policy m) := by
  have hsetter : ∀ s, Quiet (setterSpans s) := by
    intro s
    simp only [setterSpans, quiet_cons, quiet_nil, isQuiet_given, isQuiet_member, isQuiet_declared,
      isQuiet_used, and_true, true_and]
    and_intros <;> exact isQuiet_ofList (by decide)
  simp only [filterSpans, quiet_cons, quiet_nil, quiet_append, quiet_flatMap, hsetter,
    isQuiet_given, isQuiet_member, implies_true, and_true, true_and]
  and_intros <;> exact isQuiet_ofList (by decide)

/-- The names of the setters are those of the fields and those that fields derive. -/
lemma mem_map_name_setters {policy : TypePolicy} {m : Message} {n : String} :
    n ∈ (filterBuilderOf policy m).setters.map Setter.name ↔
      ∃ f ∈ m.fields, n = Naming.camelCase f.name ∨ n ∈ derivedNames f := by
  have hnames : ∀ f, (fieldSetters policy f).map Setter.name =
      Naming.camelCase f.name :: derivedNames f := by
    intro f
    rw [fieldSetters_eq]
    simp [ownSetter, derivedSetter, Function.comp_def]
  rw [filterBuilderOf, mem_map_name_firstOfEachName, List.map_flatMap, List.mem_flatMap]
  simp only [hnames, List.mem_cons]

lemma membersOf_filterSpans (policy : TypePolicy) (m : Message) :
    membersOf (filterSpans policy m) =
      ["filter"] ++ ((filterBuilderOf policy m).setters.map Setter.name ++ ["build"]) := by
  simp [filterSpans, setterSpans, Span.members, List.map_eq_flatMap]

lemma nodup_filterSpans (policy : TypePolicy) (m : Message) :
    (membersOf (filterSpans policy m)).Nodup ↔
      ∀ f ∈ m.fields, Naming.camelCase f.name ∉ ["filter", "build"] := by
  have hsetters : ((filterBuilderOf policy m).setters.map Setter.name).Nodup :=
    nodup_map_name_firstOfEachName _ _
  have hderived : ∀ {n f}, n ∈ derivedNames f → n ∉ ["filter", "build"] := by
    intro n f hn hfixed
    obtain ⟨e, he, hsuffix⟩ := suffix_of_mem_derivedNames hn
    exact (by decide : ∀ n ∈ ["filter", "build"], ∀ e ∈ conditionEndings,
      ¬ e.toList <:+ n.toList) n hfixed e he hsuffix
  rw [membersOf_filterSpans, nodup_between_iff hsetters (by decide)]
  constructor
  · intro h f hf
    exact h _ (mem_map_name_setters.2 ⟨f, hf, Or.inl rfl⟩)
  · intro h n hn
    obtain ⟨f, hf, rfl | hn⟩ := mem_map_name_setters.1 hn
    · exact h f hf
    · exact hderived hn

/-! ## Sort builders -/

/-- A method of a sort builder. -/
def sortMethodSpans (s : SortMethod) : List Span :=
  [.code "\n  ", .member s.name, .code "(", .declared "direction", .code ": ",
   .given "'asc' | 'desc'", .code " = ", .given "'asc'",
   .code "): this \x7b\n    this.sorts.push(\x7b field: ", .given ("'" ++ s.field ++ "'"),
   .code ", ", .used "direction", .code " \x7d);\n    return this;\n  \x7d\n"]

/-- The members of a sort builder. -/
def sortSpans (listType : String) (m : Message) : List Span :=
  ([.code "  private ", .member "sorts", .code ": ", .given listType, .code " = [];\n"] :
    List Span) ++
    (sortMethodsOf m).flatMap sortMethodSpans ++
    ([.code "\n  ", .member "build", .code "(): ", .given listType,
      .code " \x7b\n    return this.sorts;\n  \x7d\n"] : List Span)

lemma sortBuilder_text (listType : String) (m : Message) :
    sortBuilderText listType m = builderText m (sortSpans listType m) := by
  have hmethod : ∀ s : SortMethod, textOf (sortMethodSpans s) = s.text := by
    intro s
    unfold SortMethod.text
    simp [← String.toList_inj, sortMethodSpans, Span.text]
  have hmembers : textOf (sortSpans listType m) =
      "  private sorts: " ++ listType ++ " = [];\n" ++
        String.join ((sortMethodsOf m).map SortMethod.text) ++
        "\n  build(): " ++ listType ++ " \x7b\n    return this.sorts;\n  \x7d\n" := by
    rw [sortSpans, textOf_append, textOf_append, textOf_flatMap hmethod]
    simp [← String.toList_inj, Span.text]
  rw [builderText, hmembers]
  rfl

lemma quiet_sortSpans (listType : String) (m : Message) : Quiet (sortSpans listType m) := by
  have hmethod : ∀ s, Quiet (sortMethodSpans s) := by
    intro s
    simp only [sortMethodSpans, quiet_cons, quiet_nil, isQuiet_given, isQuiet_member,
      isQuiet_declared, isQuiet_used, and_true, true_and]
    and_intros <;> exact isQuiet_ofList (by decide)
  simp only [sortSpans, quiet_cons, quiet_nil, quiet_append, quiet_flatMap, hmethod,
    isQuiet_given, isQuiet_member, implies_true, and_true, true_and]
  and_intros <;> exact isQuiet_ofList (by decide)

/-- The methods of a sort builder start with a word of their own. -/
lemma nodup_sortSpans (listType : String) (m : Message) :
    (membersOf (sortSpans listType m)).Nodup := by
  have hmembers : membersOf (sortSpans listType m) =
      ["sorts"] ++ ((sortMethodsOf m).map SortMethod.name ++ ["build"]) := by
    simp [sortSpans, sortMethodSpans, Span.members, List.map_eq_flatMap]
  have hnames : ((sortMethodsOf m).map SortMethod.name).Nodup :=
    nodup_map_name_firstOfEachName _ _
  rw [hmembers, nodup_between_iff hnames (by decide)]
  intro n hn hfixed
  rw [sortMethodsOf, mem_map_name_firstOfEachName, List.map_map] at hn
  obtain ⟨f, -, rfl⟩ := List.mem_map.1 hn
  have hby : "by".toList <+: ("by" ++ Naming.pascalCase f).toList := by simp
  exact (by decide : ∀ n ∈ ["sorts", "build"], ¬ "by".toList <+: n.toList) _ hfixed hby

/-! ## The client class -/

/-- A group of methods. -/
def groupSpans (features : Features) (g : GroupSyntax) : List Span :=
  (match g.comment with
    | some comment => [.given ("\n  // " ++ comment ++ "\n")]
    | none => []) ++
    g.methods.flatMap (methodSpans features)

/-- The property of the client class, and its constructor up to the default base address. -/
def constructorHead : List Span :=
  [.code "  private ", .member "client", .code ": ", .given "RuntimeClient", .code ";\n\n  ",
   .member "constructor", .code "(", .declared "config", .code "?: ",
   .given "Partial<APIClientConfig>", .code ") \x7b\n    const ", .declared "defaultBaseUrl",
   .code " = "]

/-- The constructor after the default base address. -/
def constructorTail : List Span :=
  [.code ";\n    this.client = createRuntimeClient(\x7b\n      baseUrl: ",
   .used "defaultBaseUrl", .code ",\n      ...", .used "config", .code "\n    \x7d);\n  \x7d\n"]

/-- The members of the client class. -/
def clientSpans (options : ClientOptions) (layout : List GroupSyntax) : List Span :=
  constructorHead ++ .given options.baseUrlExpression :: constructorTail ++
    layout.flatMap (groupSpans options.features)

lemma textOf_groupSpans (features : Features) (g : GroupSyntax) :
    textOf (groupSpans features g) = (g.group features).text := by
  unfold groupSpans GroupSyntax.group MethodGroup.text
  rw [textOf_append, textOf_flatMap (textOf_methodSpans features), List.map_map]
  cases g.comment <;> simp [Span.text, Function.comp_def]

/-- The text of the client class. -/
def classText (options : ClientOptions) (layout : List GroupSyntax) : String :=
  block ("export class " ++ options.clientName) (textOf (clientSpans options layout))

/-- The class stands in its section. -/
lemma classText_infix (options : ClientOptions) (layout : List GroupSyntax) :
    (classText options layout).toList <:+:
      (clientText options (layout.map (GroupSyntax.group options.features))).toList := by
  have hgroups : textOf (layout.flatMap (groupSpans options.features)) =
      String.join ((layout.map (GroupSyntax.group options.features)).map MethodGroup.text) := by
    rw [textOf_flatMap (textOf_groupSpans options.features), List.map_map]
    rfl
  have hhead : textOf constructorHead = "  private client: RuntimeClient;\n\n" ++
      "  constructor(config?: Partial<APIClientConfig>) \x7b\n" ++
      "    const defaultBaseUrl = " := by
    rfl
  have htail : textOf constructorTail = ";\n" ++
      "    this.client = createRuntimeClient(\x7b\n" ++
      "      baseUrl: defaultBaseUrl,\n      ...config\n    \x7d);\n  \x7d\n" := by
    rfl
  have hclass : textOf (clientSpans options layout) =
      "  private client: RuntimeClient;\n\n" ++
        "  constructor(config?: Partial<APIClientConfig>) \x7b\n" ++
        "    const defaultBaseUrl = " ++ options.baseUrlExpression ++ ";\n" ++
        "    this.client = createRuntimeClient(\x7b\n" ++
        "      baseUrl: defaultBaseUrl,\n      ...config\n    \x7d);\n  \x7d\n" ++
        String.join ((layout.map (GroupSyntax.group options.features)).map MethodGroup.text) := by
    rw [clientSpans, textOf_append, textOf_append, textOf_cons, hgroups, hhead, htail]
    simp only [Span.text, String.append_assoc]
  unfold classText clientText
  rw [hclass]
  simp only [String.toList_append]
  -- six texts follow the class
  iterate 6 refine List.IsInfix.trans ?_ (List.prefix_append _ _).isInfix
  exact (List.suffix_append _ _).isInfix

lemma quiet_clientSpans (options : ClientOptions) (layout : List GroupSyntax) :
    Quiet (clientSpans options layout) := by
  have hgroup : ∀ g, Quiet (groupSpans options.features g) := by
    intro g
    unfold groupSpans
    cases g.comment <;> simp [quiet_methodSpans]
  simp only [clientSpans, constructorHead, constructorTail, quiet_cons, quiet_nil, quiet_append,
    quiet_flatMap, hgroup, isQuiet_given, isQuiet_member, isQuiet_declared, isQuiet_used,
    implies_true, and_true, true_and]
  and_intros <;> exact isQuiet_ofList (by decide)

lemma membersOf_methodSpans (features : Features) (m : Method) :
    membersOf (methodSpans features m) = [Naming.camelCase m.name] := by
  have hparameters : membersOf (parameterSpans m) = [] := by
    unfold parameterSpans
    split <;> rfl
  have hpath : ∀ source, membersOf (pathSpans source) = [] := by
    have hpiece : ∀ piece, membersOf (pieceSpans piece) = [] := by
      intro piece
      cases piece <;> rfl
    intro source
    cases source <;> simp [pathSpans, hpiece, Span.members]
  have hfields : ∀ fields, membersOf (fieldSpans fields) = [] := by
    intro fields
    fun_induction fieldSpans fields <;> simp_all [Span.members]
  have hstatement : ∀ s, membersOf (statementSpans s) = [] := by
    intro s
    cases s <;> simp [statementSpans, callSpans, hpath, hfields, Span.members]
  simp [methodSpans, bodySpans, hparameters, hstatement, Span.members]

/-- The names of the methods of groups. -/
def methodNames (groups : List MethodGroup) : List String :=
  (groups.flatMap (·.methods)).map (·.name)

lemma membersOf_clientSpans (options : ClientOptions) (layout : List GroupSyntax) :
    membersOf (clientSpans options layout) =
      ["client", "constructor"] ++
        (methodNames (layout.map (GroupSyntax.group options.features)) ++ []) := by
  have hgroup : ∀ g, membersOf (groupSpans options.features g) =
      (g.group options.features).methods.map (·.name) := by
    intro g
    have hcomment : membersOf (groupSpans options.features g) =
        g.methods.flatMap fun m => [Naming.camelCase m.name] := by
      rw [groupSpans, membersOf_append, membersOf_flatMap]
      simp only [membersOf_methodSpans]
      cases g.comment <;> rfl
    rw [hcomment, GroupSyntax.group, List.map_map, List.map_eq_flatMap]
    rfl
  simp [clientSpans, constructorHead, constructorTail, methodNames, hgroup, List.map_flatMap,
    List.flatMap_map, Span.members]

/-- The methods of a class have distinct names, those of the methods of the schema. -/
lemma nodup_clientSpans {options : ClientOptions} {schema : Schema} {layout : List GroupSyntax}
    (h : methodGroups options.features schema.services =
      .ok (layout.map (GroupSyntax.group options.features))) :
    (membersOf (clientSpans options layout)).Nodup ↔
      ∀ m ∈ schema.methods, Naming.camelCase m.name ∉ ["client", "constructor"] := by
  have hrepresents := represents_of_methodGroups h
  have hdistinct : (methodNames (layout.map (GroupSyntax.group options.features))).Nodup :=
    hrepresents.distinct
  have hmem : ∀ n, n ∈ methodNames (layout.map (GroupSyntax.group options.features)) ↔
      ∃ m ∈ schema.methods, Naming.camelCase m.name = n := by
    intro n
    rw [methodNames, hrepresents.order, List.mem_eraseDups, List.mem_map]
  rw [membersOf_clientSpans, nodup_between_iff hdistinct (by decide)]
  simp only [hmem, List.append_nil, forall_exists_index, and_imp, forall_apply_eq_imp_iff₂]

/-- A section of the client class has a layout. -/
lemma layout_of_clientSection {options : ClientOptions} {schema : Schema} {text : String}
    (h : clientSection options schema = .ok text) :
    ∃ layout : List GroupSyntax,
      methodGroups options.features schema.services =
        .ok (layout.map (GroupSyntax.group options.features)) ∧
      text = clientText options (layout.map (GroupSyntax.group options.features)) := by
  rcases hgroups : methodGroups options.features schema.services with c | groups
  · rw [clientSection, hgroups] at h
    exact absurd h (by simp [Except.map])
  · obtain ⟨layout, rfl, -⟩ := exists_layout hgroups
    rw [clientSection, hgroups] at h
    exact ⟨layout, rfl, (Except.ok.inj h).symm⟩

/-! ## All classes -/

/-- **Distinct members.**  A filter builder has distinct members just if no field of its message is
called `filter` or `build` in camel case; the members of a sort builder are always distinct; and
the client class, where there is one, has distinct members just if no method of the schema is
called `client` or `constructor` in camel case. -/
theorem members_nodup_iff (policy : TypePolicy) (options : ClientOptions) (schema : Schema) :
    (filterBuilders policy schema.messages = "// Filter Builders\n" ++
        String.join ((messagesMarked filterMarker schema.messages).map fun m =>
          builderText m (filterSpans policy m)) ∧
      ∀ m ∈ messagesMarked filterMarker schema.messages, Quiet (filterSpans policy m) ∧
        ((membersOf (filterSpans policy m)).Nodup ↔
          ∀ f ∈ m.fields, Naming.camelCase f.name ∉ ["filter", "build"])) ∧
    (sortBuilders schema.messages schema.enums = "// Sort Builders\n" ++
        String.join ((messagesMarked sortMarker schema.messages).map fun m =>
          builderText m (sortSpans (sortListType schema.messages schema.enums) m)) ∧
      ∀ m ∈ messagesMarked sortMarker schema.messages,
        Quiet (sortSpans (sortListType schema.messages schema.enums) m) ∧
        (membersOf (sortSpans (sortListType schema.messages schema.enums) m)).Nodup) ∧
    ∀ text, clientSection options schema = .ok text →
      ∃ layout : List GroupSyntax,
        methodGroups options.features schema.services =
          .ok (layout.map (GroupSyntax.group options.features)) ∧
        (classText options layout).toList <:+: text.toList ∧
        Quiet (clientSpans options layout) ∧
        ((membersOf (clientSpans options layout)).Nodup ↔
          ∀ m ∈ schema.methods, Naming.camelCase m.name ∉ ["client", "constructor"]) := by
  refine ⟨⟨?_, fun m _ => ⟨quiet_filterSpans policy m, nodup_filterSpans policy m⟩⟩,
    ⟨?_, fun m _ => ⟨quiet_sortSpans _ m, nodup_sortSpans _ m⟩⟩, fun text htext => ?_⟩
  · unfold filterBuilders
    simp only [filterBuilder_text]
  · unfold sortBuilders
    simp only [funext (sortBuilder_text (sortListType schema.messages schema.enums))]
  · obtain ⟨layout, hgroups, rfl⟩ := layout_of_clientSection htext
    exact ⟨layout, hgroups, classText_infix options layout, quiet_clientSpans options layout,
      nodup_clientSpans hgroups⟩

/-- A schema with a filter by one field and a service with one method. -/
def namingSchema (field method : String) : Schema where
  files := [{
    messages := [userFilter [{ name := field, typeName := "string", number := 1 }]]
    services := [{
      name := "UserService"
      methods := [{ name := method, inputType := "UserFilter", outputType := "UserFilter",
                    path := "/users" }] }] }]

/-- A filter by name and a method that lists users meet no other member.  A field `build` and a
method `Client` do. -/
theorem members_nodup_iff_namingSchema :
    (∃ text layout, clientSection {} (namingSchema "name" "ListUsers") = .ok text ∧
      (classText {} layout).toList <:+: text.toList ∧ (membersOf (clientSpans {} layout)).Nodup) ∧
    (∃ m ∈ messagesMarked filterMarker (namingSchema "build" "Client").messages,
      ¬(membersOf (filterSpans {} m)).Nodup) ∧
    ∃ text layout, clientSection {} (namingSchema "build" "Client") = .ok text ∧
      (classText {} layout).toList <:+: text.toList ∧
      ¬(membersOf (clientSpans {} layout)).Nodup := by
  refine ⟨?_, ?_, ?_⟩
  · obtain ⟨text, htext⟩ : ∃ text,
        clientSection {} (namingSchema "name" "ListUsers") = .ok text := ⟨_, rfl⟩
    obtain ⟨layout, -, hclass, -, hiff⟩ := (members_nodup_iff {} {} _).2.2 text htext
    exact ⟨text, layout, htext, hclass, hiff.2 (by decide)⟩
  · have hmarked : messagesMarked filterMarker (namingSchema "build" "Client").messages =
        [userFilter [{ name := "build", typeName := "string", number := 1 }]] := by
      decide
    refine ⟨_, hmarked ▸ List.mem_singleton_self _, fun hnodup => ?_⟩
    have hfields := ((members_nodup_iff {} {} (namingSchema "build" "Client")).1.2 _
      (hmarked ▸ List.mem_singleton_self _)).2.1 hnodup
    exact absurd hfields (by decide)
  · obtain ⟨text, htext⟩ : ∃ text,
        clientSection {} (namingSchema "build" "Client") = .ok text := ⟨_, rfl⟩
    obtain ⟨layout, -, hclass, -, hiff⟩ := (members_nodup_iff {} {} _).2.2 text htext
    refine ⟨text, layout, htext, hclass, fun hnodup => ?_⟩
    exact absurd (hiff.1 hnodup) (by decide)

end TypedFetch.TypeScript
