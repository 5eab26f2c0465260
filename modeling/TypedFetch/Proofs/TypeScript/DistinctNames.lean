import Mathlib.Data.List.Perm.Basic
import TypedFetch.Proofs.TypeScript.Exports

/-!
# When exported names are distinct

The generated modules thin out their lists: messages, enumerations, utility types and the builders
of one kind each keep the first of every name, and utility types give way to everything else.  What
is not compared are the lists of builders with each other and with the types of the schema, and in
the module of the client the names that are left when markers are taken out.

The main statement is `exports_nodup_iff`: for each module the condition on the schema under which
no name is exported twice.
-/

namespace TypedFetch.TypeScript

open TypedFetch.Schema (Message EnumType)
open Syntax

/-- A name contains a marker. -/
def Marked (marker name : String) : Prop :=
  Text.occursIn marker.toList name.toList = true

instance (marker name : String) : Decidable (Marked marker name) :=
  inferInstanceAs (Decidable (_ = true))

/-! ## Names of marked messages -/

section MarkedNames

variable {marker : String} {messages : List Message} {n : String}

lemma mem_markedNames :
    n ∈ markedNames marker messages ↔ n ∈ messages.map (·.name) ∧ Marked marker n := by
  rw [← mem_map_name_firstOfEachName Message.name]
  simp only [markedNames, messagesMarked, Marked, List.mem_map, List.mem_filter]
  constructor
  · rintro ⟨m, ⟨hm, hmarked⟩, rfl⟩
    exact ⟨⟨m, hm, rfl⟩, hmarked⟩
  · rintro ⟨⟨m, hm, rfl⟩, hmarked⟩
    exact ⟨m, ⟨hm, hmarked⟩, rfl⟩

lemma nodup_markedNames (marker : String) (messages : List Message) :
    (markedNames marker messages).Nodup :=
  (nodup_map_name_firstOfEachName Message.name messages).sublist (List.filter_sublist.map _)

lemma map_builderName (marker : String) (messages : List Message) :
    (messagesMarked marker messages).map builderName =
      (markedNames marker messages).map (· ++ "Builder") := by
  rw [markedNames, List.map_map]
  rfl

lemma suffix_of_mem_builderNames {features : Features} {b : String}
    (h : b ∈ builderNames features messages) : "Builder".toList <:+ b.toList := by
  have hmarked : ∀ marker, b ∈ (messagesMarked marker messages).map builderName →
      "Builder".toList <:+ b.toList := by
    intro marker hb
    obtain ⟨m, -, rfl⟩ := List.mem_map.1 hb
    simp [builderName]
  rcases List.mem_append.1 h with h | h
  · split at h
    · exact hmarked filterMarker h
    · exact absurd h (by simp)
  · split at h
    · exact hmarked sortMarker h
    · exact absurd h (by simp)

end MarkedNames

/-! ## The module of types -/

/-- The names that a schema gives to types. -/
def typeNames (schema : Schema) : List String :=
  schema.messages.map (·.name) ++ schema.enums.map (·.name)

/-- Builders have names of their own. -/
structure BuildersApart (features : Features) (schema : Schema) : Prop where
  /-- No message gets a builder of both kinds. -/
  kinds : features.filterBuilders = true → features.sortBuilders = true →
    ∀ n ∈ schema.messages.map (·.name), ¬(Marked filterMarker n ∧ Marked sortMarker n)
  /-- No class has the name of a type. -/
  classes : ∀ b ∈ builderNames features schema.messages, b ∉ typeNames schema
  /-- No factory has the name of a type. -/
  factories : ∀ b ∈ builderNames features schema.messages, "create" ++ b ∉ typeNames schema
  /-- No factory has the name of a class. -/
  crossed : ∀ b ∈ builderNames features schema.messages,
    "create" ++ b ∉ builderNames features schema.messages

section Types

variable (policy : TypePolicy) (features : Features) (schema : Schema)

lemma map_name_schemaSyntax :
    (schemaSyntax policy features schema).map (·.name) =
      (Schema.dependencyOrder schema.messages).map (·.name) ++
        (newEnums ((Schema.dependencyOrder schema.messages).map (·.name)) schema.enums).map
          (·.name) := by
  simp only [schemaSyntax, List.map_append, List.map_map]
  rfl

/-- The types of the schema that are exported are all of them. -/
lemma mem_map_name_schemaSyntax {n : String} :
    n ∈ (schemaSyntax policy features schema).map (·.name) ↔ n ∈ typeNames schema := by
  have henum : n ∈ (newEnums ((Schema.dependencyOrder schema.messages).map (·.name))
      schema.enums).map (·.name) ↔
      n ∈ schema.enums.map (·.name) ∧ n ∉ schema.messages.map (·.name) := by
    have hnew : ∀ e : EnumType,
        (!((Schema.dependencyOrder schema.messages).map (·.name)).contains e.name) = true ↔
          e.name ∉ schema.messages.map (·.name) := by
      intro e
      rw [← Schema.mem_map_name_dependencyOrder]
      simp
    constructor
    · intro h
      obtain ⟨e, he, rfl⟩ := List.mem_map.1 h
      obtain ⟨he, hfree⟩ := List.mem_filter.1 he
      exact ⟨(mem_map_name_firstOfEachName EnumType.name).1 (List.mem_map_of_mem he),
        (hnew e).1 hfree⟩
    · rintro ⟨h, hfree⟩
      obtain ⟨e, he, rfl⟩ := List.mem_map.1 ((mem_map_name_firstOfEachName EnumType.name).2 h)
      exact List.mem_map_of_mem (List.mem_filter.2 ⟨he, (hnew e).2 hfree⟩)
  rw [map_name_schemaSyntax, typeNames, List.mem_append, List.mem_append, henum,
    Schema.mem_map_name_dependencyOrder]
  tauto

/-- No two types of the schema are exported under one name: enumerations give way to messages. -/
lemma nodup_map_name_schemaSyntax :
    ((schemaSyntax policy features schema).map (·.name)).Nodup := by
  rw [map_name_schemaSyntax, List.nodup_append]
  refine ⟨Schema.nodup_map_name_dependencyOrder, ?_, ?_⟩
  · exact (nodup_map_name_firstOfEachName EnumType.name schema.enums).sublist
      (List.filter_sublist.map _)
  · rintro a ha b hb rfl
    obtain ⟨e, he, rfl⟩ := List.mem_map.1 hb
    have hnew := (List.mem_filter.1 he).2
    exact absurd ha (by simpa using hnew)

lemma nodup_map_name_neededSyntax :
    ((neededSyntax policy features schema).map (·.name)).Nodup := by
  have hutility : ((utilitySyntax policy).map (·.name)).Nodup := by
    obtain ⟨dateAsText, bigintAsText⟩ := policy
    cases dateAsText <;> cases bigintAsText <;> decide
  exact hutility.sublist (List.filter_sublist.map _)

/-- The names that utility types must leave free are those of types and of builder classes. -/
lemma mem_takenNames {n : String} :
    n ∈ takenNames features schema ↔
      n ∈ typeNames schema ∨ n ∈ builderNames features schema.messages := by
  rw [takenNames, ← map_name_schemaSyntax {} features, List.mem_append, mem_map_name_schemaSyntax]

/-- A utility type has a name that neither the schema nor a builder class takes. -/
lemma not_mem_of_mem_neededSyntax {n : String}
    (h : n ∈ (neededSyntax policy features schema).map (·.name)) :
    n ∉ typeNames schema ∧ n ∉ builderNames features schema.messages := by
  obtain ⟨d, hd, rfl⟩ := List.mem_map.1 h
  have hfree : d.name ∉ takenNames features schema := by
    simpa using (List.mem_filter.1 hd).2
  rwa [mem_takenNames, not_or] at hfree

/-- A utility type does not have the name of a factory. -/
lemma create_not_mem_neededSyntax (b : String) :
    "create" ++ b ∉ (neededSyntax policy features schema).map (·.name) := by
  -- the names of utility types start with a capital
  have hcapital : ∀ n ∈ (utilitySyntax policy).map (·.name), n.toList.head? ≠ some 'c' := by
    obtain ⟨dateAsText, bigintAsText⟩ := policy
    cases dateAsText <;> cases bigintAsText <;> decide
  intro h
  exact hcapital _ ((List.filter_sublist.map _).subset h) (by simp)

lemma nodup_builderNames :
    (builderNames features schema.messages).Nodup ↔
      (features.filterBuilders = true → features.sortBuilders = true →
        ∀ n ∈ schema.messages.map (·.name), ¬(Marked filterMarker n ∧ Marked sortMarker n)) := by
  have hinj : Function.Injective (· ++ "Builder" : String → String) :=
    fun _ _ h => (String.append_left_inj _).1 h
  have hnodup : ∀ marker, ((markedNames marker schema.messages).map (· ++ "Builder")).Nodup :=
    fun marker => (nodup_markedNames marker schema.messages).map hinj
  simp only [builderNames, map_builderName]
  cases features.filterBuilders <;> cases features.sortBuilders <;>
    simp only [Bool.false_eq_true, if_true, if_false, List.nil_append, List.append_nil,
      List.nodup_nil, hnodup, forall_const, IsEmpty.forall_iff]
  rw [List.nodup_append]
  constructor
  · rintro ⟨-, -, hapart⟩ n hn ⟨hfilter, hsort⟩
    exact hapart _ (List.mem_map_of_mem (mem_markedNames.2 ⟨hn, hfilter⟩)) _
      (List.mem_map_of_mem (mem_markedNames.2 ⟨hn, hsort⟩)) rfl
  · intro hapart
    refine ⟨hnodup _, hnodup _, ?_⟩
    rintro a ha b hb rfl
    obtain ⟨n, hn, rfl⟩ := List.mem_map.1 ha
    obtain ⟨n', hn', heq⟩ := List.mem_map.1 hb
    obtain rfl := hinj heq
    exact hapart _ (mem_markedNames.1 hn).1 ⟨(mem_markedNames.1 hn).2, (mem_markedNames.1 hn').2⟩

lemma create_injective : Function.Injective ("create" ++ · : String → String) :=
  fun _ _ h => (String.append_right_inj _).1 h

/-- Classes and factories may be listed apart. -/
lemma builderExports_perm (builders : List String) :
    (builderExports builders).Perm (builders ++ builders.map ("create" ++ ·)) := by
  have h := List.flatMap_append_perm builders (fun b => [b]) (fun b => ["create" ++ b])
  simpa [builderExports, List.map_eq_flatMap] using h.symm

/-- No name is exported twice by the module of types just if builders have names of their own. -/
lemma nodup_exports_typesSyntax :
    (typesSyntax policy features schema).exports.Nodup ↔ BuildersApart features schema := by
  have hperm := (builderExports_perm (builderNames features schema.messages)).append_left
    ((schemaSyntax policy features schema).map (·.name) ++
      (neededSyntax policy features schema).map (·.name))
  rw [exports_typesSyntax, hperm.nodup_iff, List.nodup_append', List.nodup_append',
    List.nodup_append', nodup_builderNames]
  -- the names of types, of utility types, of builders, and of their factories
  constructor
  · rintro ⟨-, ⟨hkinds, -, hcrossed⟩, hapart⟩
    refine ⟨hkinds, fun b hb htype => ?_, fun b hb htype => ?_, fun b hb hclass => ?_⟩
    · exact hapart (List.mem_append_left _ ((mem_map_name_schemaSyntax _ _ _).2 htype))
        (List.mem_append_left _ hb)
    · exact hapart (List.mem_append_left _ ((mem_map_name_schemaSyntax _ _ _).2 htype))
        (List.mem_append_right _ (List.mem_map_of_mem hb))
    · exact hcrossed hclass (List.mem_map_of_mem hb)
  · intro h
    refine ⟨⟨nodup_map_name_schemaSyntax policy features schema,
        nodup_map_name_neededSyntax policy features schema, fun n hn hneeded => ?_⟩,
      ⟨h.kinds, ((nodup_builderNames features schema).2 h.kinds).map create_injective,
        fun n hn hfactory => ?_⟩, fun n hn hbuilder => ?_⟩
    · exact (not_mem_of_mem_neededSyntax policy features schema hneeded).1
        ((mem_map_name_schemaSyntax policy features schema).1 hn)
    · obtain ⟨b, hb, rfl⟩ := List.mem_map.1 hfactory
      exact h.crossed b hb hn
    · rcases List.mem_append.1 hn with htype | hneeded
      · rw [mem_map_name_schemaSyntax] at htype
        rcases List.mem_append.1 hbuilder with hb | hfactory
        · exact h.classes n hb htype
        · obtain ⟨b, hb, rfl⟩ := List.mem_map.1 hfactory
          exact h.factories b hb htype
      · rcases List.mem_append.1 hbuilder with hb | hfactory
        · exact (not_mem_of_mem_neededSyntax policy features schema hneeded).2 hb
        · obtain ⟨b, -, rfl⟩ := List.mem_map.1 hfactory
          exact create_not_mem_neededSyntax policy features schema b hneeded

end Types

/-! ## The module of the client -/

/-- Names of marked messages stay apart when the marker is taken out. -/
def EntitiesApart (marker : String) (messages : List Message) : Prop :=
  ∀ n ∈ messages.map (·.name), ∀ n' ∈ messages.map (·.name), Marked marker n → Marked marker n' →
    entityName marker n = entityName marker n' → n = n'

/-- Helper functions have names of their own. -/
structure HelpersApart (options : ClientOptions) (schema : Schema) : Prop where
  /-- No two filter builders have one helper. -/
  filters : options.features.filterBuilders = true → EntitiesApart filterMarker schema.messages
  /-- No two sort builders have one helper. -/
  sorts : options.features.sortBuilders = true → EntitiesApart sortMarker schema.messages
  /-- The class does not have the name of a helper. -/
  className : options.clientName ∉
    (helperTargets options.features schema.messages).map ("create" ++ ·)
  /-- The factory of the class does not have the name of a helper. -/
  factoryName : options.clientName ∉ helperTargets options.features schema.messages

section Client

/-- A module of the client has a layout. -/
lemma layout_of_clientModule {options : ClientOptions} {schema : Schema} {client : String}
    (h : clientModule options schema = .ok client) :
    ∃ layout : List GroupSyntax,
      methodGroups options.features schema.services =
        .ok (layout.map (GroupSyntax.group options.features)) ∧
      client = (clientSyntax options layout schema).text := by
  rcases hgroups : methodGroups options.features schema.services with c | groups
  · rw [clientModule, clientSection, hgroups] at h
    exact absurd h (by simp [Except.map])
  · obtain ⟨layout, rfl, -⟩ := exists_layout hgroups
    exact ⟨layout, rfl, Except.ok.inj (h.symm.trans (text_clientSyntax hgroups))⟩

variable {marker : String} {messages : List Message}

lemma nodup_markedTargets :
    (markedTargets marker messages).Nodup ↔ EntitiesApart marker messages := by
  rw [markedTargets, List.nodup_map_iff_inj_on (nodup_markedNames marker messages)]
  simp only [String.append_left_inj]
  constructor
  · intro h n hn n' hn' hmarked hmarked' heq
    exact h n (mem_markedNames.2 ⟨hn, hmarked⟩) n' (mem_markedNames.2 ⟨hn', hmarked'⟩) heq
  · intro h n hn n' hn' heq
    obtain ⟨hn, hmarked⟩ := mem_markedNames.1 hn
    obtain ⟨hn', hmarked'⟩ := mem_markedNames.1 hn'
    exact h n hn n' hn' hmarked hmarked' heq

lemma suffix_of_mem_markedTargets {t : String} (h : t ∈ markedTargets marker messages) :
    marker.toList <:+ t.toList := by
  obtain ⟨n, -, rfl⟩ := List.mem_map.1 h
  simp

/-- What helpers of different kinds create is told apart by how its name ends. -/
lemma nodup_helperTargets (features : Features) (messages : List Message) :
    (helperTargets features messages).Nodup ↔
      (features.filterBuilders = true → EntitiesApart filterMarker messages) ∧
        (features.sortBuilders = true → EntitiesApart sortMarker messages) := by
  have hpages : ["Pagination", "PaginatedRequest"].Nodup := by decide
  have hfilter : ["Pagination", "PaginatedRequest"].Disjoint
      (markedTargets filterMarker messages) := by
    intro t ht hmarked
    exact (show ∀ t ∈ ["Pagination", "PaginatedRequest"], ¬ filterMarker.toList <:+ t.toList by
      decide) t ht (suffix_of_mem_markedTargets hmarked)
  have hsort : ["Pagination", "PaginatedRequest"].Disjoint (markedTargets sortMarker messages) := by
    intro t ht hmarked
    exact (show ∀ t ∈ ["Pagination", "PaginatedRequest"], ¬ sortMarker.toList <:+ t.toList by
      decide) t ht (suffix_of_mem_markedTargets hmarked)
  -- two endings of one name would be such that one of them ends with the other
  have hkinds : (markedTargets filterMarker messages).Disjoint
      (markedTargets sortMarker messages) := by
    intro t hfilter hsort
    have h := List.suffix_or_suffix_of_suffix (suffix_of_mem_markedTargets hfilter)
      (suffix_of_mem_markedTargets hsort)
    revert h
    decide
  unfold helperTargets
  cases features.filterBuilders <;> cases features.sortBuilders <;>
    simp only [Bool.false_eq_true, if_true, if_false, List.append_nil, List.nodup_append',
      List.disjoint_append_left, hpages, hfilter, hsort, hkinds, nodup_markedTargets, true_and,
      and_true, forall_const, IsEmpty.forall_iff]

/-- No name is exported twice by the module of the client just if helpers have names of their
own. -/
lemma nodup_exports_clientSyntax (options : ClientOptions) (layout : List GroupSyntax)
    (schema : Schema) :
    (clientSyntax options layout schema).exports.Nodup ↔ HelpersApart options schema := by
  have hown : options.clientName ≠ "create" ++ options.clientName := by
    intro h
    have hlength := congrArg String.length h
    rw [String.length_append] at hlength
    exact absurd hlength (by simp)
  rw [exports_clientSyntax, List.nodup_cons, List.nodup_cons, List.mem_cons, not_or,
    List.mem_map_of_injective create_injective, List.nodup_map_iff create_injective,
    nodup_helperTargets]
  constructor
  · rintro ⟨⟨-, hclass⟩, hfactory, hfilters, hsorts⟩
    exact ⟨hfilters, hsorts, hclass, hfactory⟩
  · intro h
    exact ⟨⟨hown, h.className⟩, h.factoryName, h.filters, h.sorts⟩

end Client

/-! ## Both modules -/

/-- **Distinct exports.**  In the module of types no name is exported twice just if builders have
names of their own: no message is marked as a filter and as a sort order while both kinds of
builders are generated, and no class or factory has the name of a type or of the other.  In the
module of the client, where there is one, no name is exported twice just if helpers have names of
their own: the names of filters, and those of sort orders, differ without their markers, and the
class and its factory are not named like helpers. -/
theorem exports_nodup_iff (policy : TypePolicy) (options : ClientOptions) (schema : Schema) :
    ((typesSyntax policy options.features schema).text =
        typesModule policy options.features schema ∧
      (∀ f ∈ (typesSyntax policy options.features schema).flatten, hidesNoExport f = true) ∧
      ((typesSyntax policy options.features schema).exports.Nodup ↔
        BuildersApart options.features schema)) ∧
    ∀ client, clientModule options schema = .ok client →
      ∃ layout : List GroupSyntax,
        methodGroups options.features schema.services =
          .ok (layout.map (GroupSyntax.group options.features)) ∧
        client = (clientSyntax options layout schema).text ∧
        (∀ f ∈ (clientSyntax options layout schema).flatten, hidesNoExport f = true) ∧
        ((clientSyntax options layout schema).exports.Nodup ↔ HelpersApart options schema) := by
  refine ⟨⟨text_typesSyntax policy options.features schema,
    overt_typesSyntax policy options.features schema,
    nodup_exports_typesSyntax policy options.features schema⟩, fun client hclient => ?_⟩
  obtain ⟨layout, hlayout, htext⟩ := layout_of_clientModule hclient
  exact ⟨layout, hlayout, htext, overt_clientSyntax options layout schema,
    nodup_exports_clientSyntax options layout schema⟩

/-- A schema of messages without fields. -/
def bareSchema (names : List String) : Schema where
  files := [{ messages := names.map fun n => { name := n } }]

/-- A filter and a sort order of one entity have builders of distinct names.  A message that is
marked twice has two builders of one name, and two filters whose names differ only in where the
marker stands share the name of a helper. -/
theorem exports_nodup_iff_bareSchema :
    (∀ policy,
      (typesSyntax policy {} (bareSchema ["User", "UserFilter", "UserSort"])).exports.Nodup) ∧
    (∀ policy, ¬(typesSyntax policy {} (bareSchema ["UserFilterSort"])).exports.Nodup) ∧
    ∃ client layout,
      clientModule {} (bareSchema ["UserFilter", "FilterUser"]) = .ok client ∧
      client = (clientSyntax {} layout (bareSchema ["UserFilter", "FilterUser"])).text ∧
      ¬(clientSyntax {} layout (bareSchema ["UserFilter", "FilterUser"])).exports.Nodup := by
  refine ⟨fun policy => ?_, fun policy => ?_, ?_⟩
  · refine (exports_nodup_iff policy {} _).1.2.2.2 ⟨?_, ?_, ?_, ?_⟩ <;> decide +kernel
  · intro h
    have hapart := (exports_nodup_iff policy {} _).1.2.2.1 h
    exact hapart.kinds rfl rfl "UserFilterSort" (by decide) (by decide +kernel)
  · obtain ⟨client, hclient⟩ : ∃ client,
        clientModule {} (bareSchema ["UserFilter", "FilterUser"]) = .ok client := ⟨_, rfl⟩
    obtain ⟨layout, -, htext, -, hiff⟩ := (exports_nodup_iff {} {} _).2 client hclient
    refine ⟨client, layout, hclient, htext, fun h => ?_⟩
    have hsame := (hiff.1 h).filters rfl "UserFilter" (by decide) "FilterUser" (by decide)
      (by decide +kernel) (by decide +kernel) (by decide +kernel)
    exact absurd hsame (by decide)

end TypedFetch.TypeScript
