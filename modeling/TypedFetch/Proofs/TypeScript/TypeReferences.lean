import TypedFetch.Proofs.Extraction.Reference
import TypedFetch.Proofs.TypeScript.DistinctNames

/-!
# What becomes of a type reference

A descriptor refers to a type by its full name.  What a reference should become is said here on its
own: a well-known message has a fixed shape, and any other type is called by its simple name.  The
generated modules reach this by way of canonical names, which forget the package.  So a declared
type that is called like a built-in one is taken for it; and the types of methods are never taken
for anything but declared ones.

The main statement is `type_reference_kept_iff`: for each reference the condition under which the
generated type is the one that it should be.
-/

namespace TypedFetch.TypeScript

open TypedFetch.Schema (Method Message Field)
open TypedFetch.Proto
open Syntax

/-! ## Meaning -/

/-- The shapes of the well-known messages in the module of types. -/
def wellKnownShapes (policy : TypePolicy) : List (String × TypeExpr) :=
  [("google.protobuf.DoubleValue", .name "number"),
   ("google.protobuf.FloatValue", .name "number"),
   ("google.protobuf.Int64Value", .name policy.bigintType),
   ("google.protobuf.UInt64Value", .name policy.bigintType),
   ("google.protobuf.Int32Value", .name "number"),
   ("google.protobuf.UInt32Value", .name "number"),
   ("google.protobuf.BoolValue", .name "boolean"),
   ("google.protobuf.StringValue", .name "string"),
   ("google.protobuf.BytesValue", .name "Uint8Array"),
   ("google.protobuf.Timestamp", .name policy.dateType),
   ("google.protobuf.Duration", .name "string"),
   ("google.protobuf.FieldMask", .name "string"),
   ("google.protobuf.Struct", anyRecord),
   ("google.protobuf.Any", anyRecord),
   ("google.protobuf.Value", .name "unknown"),
   ("google.protobuf.ListValue", .array (.name "unknown")),
   ("google.protobuf.Empty", .name emptyType)]

/-- The full names of the well-known messages. -/
def wellKnownNames : List String := (wellKnownShapes {}).map Prod.fst

/-- The full name of the empty message, the only well-known one with a declared shape. -/
def emptyName : String := "google.protobuf.Empty"

/-- The full name is one of the package of the well-known messages, which has a single package
below it. -/
def bundled (name : String) : Bool :=
  (Text.dropPrefix? "google.protobuf.".toList name.toList).any fun rest =>
    !"compiler.".toList.isPrefixOf rest

/-- The type that a full name stands for in the module of types. -/
def TypePolicy.meaning? (policy : TypePolicy) (name : String) : Option TypeExpr :=
  if bundled name then (wellKnownShapes policy).lookup name
  else some (.name (Naming.simpleName name))

/-- The type that a full name stands for in the module of the client, which takes declared types
from the module of types. -/
def TypePolicy.meaningAbroad? (policy : TypePolicy) (name : String) : Option TypeExpr :=
  if name = emptyName then some (.imported emptyType)
  else if bundled name then (wellKnownShapes policy).lookup name
  else some (.imported (Naming.simpleName name))

/-- The type of so many values of a type. -/
def wrap : Multiplicity → TypeExpr → TypeExpr
  | .one, t => t
  | .list, t => .array t
  | .map, t => .applyTwo (.name "Record") (.name "string") t

/-- The simple names that stand for something else than a type of that name. -/
def replacedNames : List String :=
  ["bool", "int32", "uint32", "float", "double", "bytes", "int64", "uint64", "Timestamp"]

/-- A full name is understood in the module of types: it is that of a well-known message, or of
another type whose simple name is not taken for something else. -/
def Understood (name : String) : Prop :=
  name ∈ wellKnownNames ∨ (bundled name = false ∧ Naming.simpleName name ∉ replacedNames)

/-- A full name is understood in the module of the client: it is that of a declared type. -/
def UnderstoodAbroad (name : String) : Prop :=
  name = emptyName ∨ bundled name = false

section Meaning

variable {policy : TypePolicy} {name : String}

lemma text_wrap_inj (k : Multiplicity) {t t' : TypeExpr} :
    (wrap k t).text = (wrap k t').text ↔ t.text = t'.text := by
  cases k <;> simp [wrap, TypeExpr.text, ← String.toList_inj]

lemma bundled_of_mem (h : name ∈ wellKnownNames) : bundled name = true :=
  (show ∀ n ∈ wellKnownNames, bundled n = true by decide) name h

lemma lookup_wellKnownShapes_eq_none (h : name ∉ wellKnownNames) :
    (wellKnownShapes policy).lookup name = none :=
  lookup_eq_none_of_not_mem h

/-- A type that is not well known has its simple name as canonical name. -/
lemma canonicalName_of_not_mem (h : name ∉ wellKnownNames) :
    canonicalName name = Naming.simpleName name := by
  have hwrapper : wrapperTypes.lookup name = none := lookup_eq_none_of_not_mem fun hmem =>
    h ((show ∀ n ∈ wrapperTypes.map Prod.fst, n ∈ wellKnownNames by decide) _ hmem)
  have hqualified : name ∉ qualifiedTypes := fun hmem =>
    h ((show ∀ n ∈ qualifiedTypes, n ∈ wellKnownNames by decide) _ hmem)
  simp [canonicalName, hwrapper, hqualified]

/-- The last segment of a name holds no point. -/
lemma point_not_mem_simpleName (name : String) : '.' ∉ (Naming.simpleName name).toList := by
  intro h
  rw [Naming.simpleName, String.toList_ofList, Text.afterLast, List.mem_reverse] at h
  simpa using List.mem_takeWhile_imp h

/-- Which names without points the type mapping leaves alone. -/
lemma single_eq_self_iff (h : '.' ∉ name.toList) :
    policy.single name = name ↔ name ∉ replacedNames := by
  by_cases hfixed : name ∈ fixedTypes
  · -- the well-known messages are not meant: their names have points
    have hundotted : name ∈ fixedTypes.filter fun n => !n.toList.contains '.' :=
      List.mem_filter.2 ⟨hfixed, by simpa using h⟩
    have hall : ∀ n ∈ fixedTypes.filter fun n => !n.toList.contains '.',
        policy.single n = n ↔ n ∉ replacedNames := by
      obtain ⟨dateAsText, bigintAsText⟩ := policy
      cases dateAsText <;> cases bigintAsText <;> decide
    exact hall name hundotted
  · have hself : policy.single name = name := by
      rw [← text_singleExpr, singleExpr_of_not_fixed policy hfixed]
      rfl
    refine iff_of_true hself fun hreplaced => hfixed ?_
    exact (show ∀ n ∈ replacedNames, n ∈ fixedTypes by decide) name hreplaced

/-- A reference has the type that it should have in the module of types just if it is
understood. -/
lemma means_singleExpr_iff :
    (∃ t, policy.meaning? name = some t ∧
      (policy.singleExpr (canonicalName name)).text = t.text) ↔ Understood name := by
  by_cases hknown : name ∈ wellKnownNames
  · have hall : ∀ n ∈ wellKnownNames, ((wellKnownShapes policy).lookup n).map TypeExpr.text =
        some (policy.singleExpr (canonicalName n)).text := by
      obtain ⟨dateAsText, bigintAsText⟩ := policy
      cases dateAsText <;> cases bigintAsText <;> decide
    obtain ⟨t, ht, htext⟩ := Option.map_eq_some_iff.1 (hall name hknown)
    have hmeaning : policy.meaning? name = some t := by
      rw [TypePolicy.meaning?, if_pos (bundled_of_mem hknown), ht]
    exact iff_of_true ⟨t, hmeaning, htext.symm⟩ (Or.inl hknown)
  · rw [canonicalName_of_not_mem hknown, text_singleExpr, TypePolicy.meaning?, Understood]
    cases bundled name with
    | true => simp [hknown, lookup_wellKnownShapes_eq_none hknown]
    | false =>
      simpa [hknown, TypeExpr.text] using single_eq_self_iff (point_not_mem_simpleName name)

/-- The type of a method is the one that it should be just if it is understood. -/
lemma means_imported_iff :
    (∃ t, policy.meaningAbroad? name = some t ∧
      (TypeExpr.imported (Naming.simpleName name)).text = t.text) ↔ UnderstoodAbroad name := by
  rw [TypePolicy.meaningAbroad?, UnderstoodAbroad]
  by_cases hempty : name = emptyName
  · have hsimple : Naming.simpleName emptyName = emptyType := by decide
    simp [hempty, hsimple]
  by_cases hknown : name ∈ wellKnownNames
  · -- a shape is not taken from the module of types
    have hall : ∀ p ∈ wellKnownShapes policy,
        (TypeExpr.imported (Naming.simpleName p.1)).text ≠ p.2.text := by
      obtain ⟨dateAsText, bigintAsText⟩ := policy
      cases dateAsText <;> cases bigintAsText <;> decide
    simp only [hempty, bundled_of_mem hknown, if_true, if_false, false_or, Bool.true_eq_false,
      iff_false, not_exists, not_and]
    intro t ht
    obtain ⟨before, after, hsplit, -⟩ := List.lookup_eq_some_iff.1 ht
    exact hall (name, t) (by simp [hsplit])
  · cases hb : bundled name with
    | true => simp [hempty, lookup_wellKnownShapes_eq_none hknown]
    | false => simp [hempty]

/-- The shapes of the well-known messages are made of types of the language, but for the empty
message. -/
lemma names_wellKnownShapes :
    ∀ p ∈ wellKnownShapes policy, ∀ n ∈ p.2.names, n ∈ builtinTypes ∨ n = emptyType := by
  obtain ⟨dateAsText, bigintAsText⟩ := policy
  cases dateAsText <;> cases bigintAsText <;> decide

end Meaning

/-! ## Positions of types -/

/-- The type that a fragment writes. -/
def typesOf : Fragment → List TypeExpr
  | .type _ t => [t]
  | _ => []

/-- The types that fragments write, in order. -/
def typePositions (fs : List Fragment) : List TypeExpr := fs.flatMap typesOf

@[simp] lemma typePositions_nil : typePositions [] = [] := rfl

@[simp] lemma typePositions_cons (f : Fragment) (fs : List Fragment) :
    typePositions (f :: fs) = typesOf f ++ typePositions fs := rfl

@[simp] lemma typePositions_append (fs gs : List Fragment) :
    typePositions (fs ++ gs) = typePositions fs ++ typePositions gs :=
  List.flatMap_append

/-- The types of the properties of the interface of a message are those of its fields. -/
lemma typePositions_interface (policy : TypePolicy) (features : Features) (m : Message) :
    typePositions (interfaceSyntax policy features m).fragments =
      m.fields.map policy.fieldExpr := by
  have hproperties : ∀ properties : List PropertySyntax,
      typePositions (properties.flatMap (PropertySyntax.fragments [])) =
        properties.map (·.type) := by
    intro properties
    rw [typePositions, List.flatMap_assoc, List.map_eq_flatMap]
    rfl
  simp only [interfaceSyntax, DeclarationSyntax.fragments, List.cons_append, typePositions_cons,
    typePositions_append, hproperties, List.map_map]
  simp [typesOf, Function.comp_def]

/-- The type of the request of a client method, if it takes one. -/
def requestType? (m : Method) : Option TypeExpr :=
  if takesNoRequest m then none else some (.imported m.inputType)

/-- The type of the response of a client method. -/
def responseType (m : Method) : TypeExpr := .imported m.outputType

/-- A client method writes the type of its request, if it takes one, and twice that of its
response. -/
lemma typePositions_method (features : Features) (m : Method) :
    typePositions (methodFragments features m) =
      (requestType? m).toList ++
        [requestOptions, .apply (.name "Promise") (responseType m), responseType m] := by
  have hparameters : typePositions (parameterFragments m) =
      (requestType? m).toList ++ [requestOptions] := by
    unfold parameterFragments requestType?
    split <;> rfl
  have hsend : typePositions ((sendStatements m).flatMap statementFragments) =
      [responseType m] := by
    have hsends := sendsBy_sendStatements m
    generalize sendStatements m = statements at hsends
    cases hsends <;> rfl
  have hbody : typePositions ((bodyOf m).flatMap statementFragments) = [responseType m] := by
    rw [bodyOf, List.flatMap_cons, typePositions_append, hsend]
    rfl
  simp only [methodFragments, typePositions_append, hparameters, hbody]
  simp [typesOf, responseType]

lemma fieldExpr_eq_wrap (policy : TypePolicy) (f : Field) :
    policy.fieldExpr f = wrap (multiplicityOf f) (policy.singleExpr f.typeName) := by
  unfold TypePolicy.fieldExpr multiplicityOf
  split
  · rfl
  · split <;> rfl

/-! ## References -/

/-- The types in the interface of a message keep their meaning just if they are understood. -/
structure FieldTypesFollow (policy : TypePolicy) (features : Features) (l : Listed)
    (m : Message) : Prop where
  name : m.name = l.message.name
  text : write (interfaceSyntax policy features m).fragments = (interfaceOf policy features m).text
  fields : List.Forall₂
    (fun f t => ∀ name, (l.shown f).reference? = some name →
      ((∃ s, policy.meaning? name = some s ∧ t.text = (wrap (l.multiplicity f) s).text) ↔
        Understood name))
    l.message.fields (typePositions (interfaceSyntax policy features m).fragments)

/-- The types in a client method keep their meaning just if they are understood, except that a
method that reads takes no request whose type is called like the empty message. -/
structure MethodTypesFollow (policy : TypePolicy) (features : Features) (d : MethodDescriptor)
    (m : Method) : Prop where
  text : write (methodFragments features m) = (clientMethodOf features m).text
  positions : typePositions (methodFragments features m) =
    (requestType? m).toList ++
      [requestOptions, .apply (.name "Promise") (responseType m), responseType m]
  request : (∃ t ∈ requestType? m, ∃ s, policy.meaningAbroad? (unrooted d.input) = some s ∧
      t.text = s.text) ↔
    UnderstoodAbroad (unrooted d.input) ∧
      ¬(m.verb = .get ∧ Naming.simpleName d.input = emptyType)
  response : (∃ s, policy.meaningAbroad? (unrooted d.output) = some s ∧
      (responseType m).text = s.text) ↔
    UnderstoodAbroad (unrooted d.output)

section References

variable {policy : TypePolicy} {features : Features}

lemma fieldTypesFollow {dialect : String} {locations : List Location} {l : Listed} {m : Message}
    (h : MadeFrom dialect locations l m) : FieldTypesFollow policy features l m := by
  refine ⟨h.name, ?_, ?_⟩
  · rw [DeclarationSyntax.write_fragments, declaration_interfaceSyntax]
  · rw [typePositions_interface, List.forall₂_map_right_iff]
    refine (forall₂_of_mapM_zipIdx h.fields).imp ?_
    rintro f g ⟨i, hg⟩ name hname
    obtain ⟨-, htype, hmultiplicity⟩ := shown_of_extractField hg
    rw [fieldExpr_eq_wrap, hmultiplicity, htype, canonicalType_of_reference? hname]
    simpa only [text_wrap_inj] using means_singleExpr_iff

lemma methodTypesFollow {description : Option String} {d : MethodDescriptor} {m : Method}
    (h : extractMethod description d = .ok m) : MethodTypesFollow policy features d m := by
  obtain ⟨hinput, houtput⟩ := types_of_extractMethod h
  have hrequest : takesNoRequest m = true ↔
      m.verb = .get ∧ Naming.simpleName d.input = emptyType := by
    rw [takesNoRequest, hinput, Bool.and_eq_true, beq_iff_eq, beq_iff_eq]
  refine ⟨write_method features m, typePositions_method features m, ?_, ?_⟩
  · rw [← hrequest, requestType?, hinput]
    split
    · next hnone => simp [hnone]
    · next hsome =>
      rw [← simpleName_unrooted]
      simpa [hsome] using means_imported_iff
  · rw [responseType, houtput, ← simpleName_unrooted]
    exact means_imported_iff

/-- The shapes of the well-known messages are available in the module of types. -/
lemma available_wellKnownShapes {schema : Schema} :
    ∀ p ∈ wellKnownShapes policy, ∀ n ∈ p.2.names, Available policy features schema n := by
  intro p hp n hn
  rcases names_wellKnownShapes p hp n hn with hbuiltin | rfl
  · exact Or.inl hbuiltin
  · exact Or.inr (exports_utility (by simp [utilitySyntax, emptyType]))

/-- The empty message keeps its shape just if the schema does not declare a type of its name. -/
lemma empty_needed_iff {schema : Schema} :
    emptyType ∈ (neededSyntax policy features schema).map (·.name) ↔
      emptyType ∉ typeNames schema := by
  constructor
  · intro h
    exact (not_mem_of_mem_neededSyntax policy features schema h).1
  · intro h
    have hfree : emptyType ∉ takenNames features schema := by
      rw [mem_takenNames, not_or]
      refine ⟨h, fun hbuilder => ?_⟩
      exact absurd (suffix_of_mem_builderNames hbuilder) (by decide)
    have hutility : emptyType ∈ (utilitySyntax policy).map (·.name) := by
      simp [utilitySyntax, emptyType]
    obtain ⟨d, hd, hname⟩ := List.mem_map.1 hutility
    refine List.mem_map.2 ⟨d, List.mem_filter.2 ⟨hd, ?_⟩, hname⟩
    rw [hname]
    simpa using hfree

end References

/-- **Type references.**  Let descriptors give the files of a schema.  Then the fields of every
listed message have the types that they should have, as one value, as a list or as a map, just where
the full names that they refer to are understood; and so it is with the types of methods.  The
shapes of the well-known messages are available in the module of types, that of the empty message
just if the schema declares no type of its name. -/
theorem type_reference_kept_iff (policy : TypePolicy) (features : Features)
    {sources : List (FileDescriptor × List String)} {schema : Schema}
    (h : sources.mapM (fun s => extractFile s.1 s.2) = .ok schema.files) :
    List.Forall₂ (FieldTypesFollow policy features) (sources.flatMap (·.1.listing))
      schema.messages ∧
    List.Forall₂ (MethodTypesFollow policy features) (sources.flatMap (·.1.methods))
      schema.methods ∧
    (∀ p ∈ wellKnownShapes policy, ∀ n ∈ p.2.names,
      n ∈ builtinTypes ∨ n ∈ (typesSyntax policy features schema).exports) ∧
    (emptyType ∈ (neededSyntax policy features schema).map (·.name) ↔
      emptyType ∉ typeNames schema) := by
  have hfiles := forall₂_of_mapM h
  refine ⟨?_, ?_, available_wellKnownShapes, empty_needed_iff⟩
  · refine List.rel_flatMap hfiles fun s file hfile => ?_
    exact (listing_of_extractFile hfile).1.imp fun l m hm => fieldTypesFollow hm
  · rw [Schema.methods, Schema.services, List.flatMap_assoc]
    refine List.rel_flatMap hfiles fun s file hfile => ?_
    refine (listing_of_extractFile hfile).2.imp ?_
    rintro d m ⟨description, hm⟩
    exact methodTypesFollow hm

/-- An event that holds a point in time of its own package and a list of well-known ones. -/
def eventMessage : MessageDescriptor :=
  .mk "Event"
    [{ name := "at", number := 1, kind := .message, typeName := ".acme.Timestamp" },
     { name := "seen", number := 2, kind := .message, typeName := ".google.protobuf.Timestamp"
       label := .repeated }] [] [] false

/-- A method that takes nothing and gives a well-known point in time. -/
def nowMethod : MethodDescriptor where
  name := "Now"
  input := ".google.protobuf.Empty"
  output := ".google.protobuf.Timestamp"

/-- A file that declares a point in time of its own. -/
def clockFile : FileDescriptor where
  package := "acme"
  dialect := "proto3"
  messages := [eventMessage, .mk "Timestamp" [] [] [] false]
  services := [{ name := "Clock", methods := [nowMethod] }]

/-- The schema of that file. -/
def clockSchema : Schema where
  files := ((extractFile clockFile []).toOption).toList

/-- The point in time of the package is taken for the well-known one, which a field shows and a
method does not. -/
theorem type_reference_kept_iff_clock :
    [(clockFile, ([] : List String))].mapM (fun s => extractFile s.1 s.2) =
      .ok clockSchema.files ∧
    ∀ (policy : TypePolicy) (features : Features),
      (∃ m ∈ clockSchema.messages, ∃ own known,
        typePositions (interfaceSyntax policy features m).fragments = [own, known] ∧
        (¬∃ s, policy.meaning? "acme.Timestamp" = some s ∧ own.text = s.text) ∧
        ∃ s, policy.meaning? "google.protobuf.Timestamp" = some s ∧
          known.text = (TypeExpr.array s).text) ∧
      ∃ m ∈ clockSchema.methods,
        (∃ t ∈ requestType? m, ∃ s, policy.meaningAbroad? emptyName = some s ∧ t.text = s.text) ∧
        ¬∃ s, policy.meaningAbroad? "google.protobuf.Timestamp" = some s ∧
          (responseType m).text = s.text := by
  have h : [(clockFile, ([] : List String))].mapM (fun s => extractFile s.1 s.2) =
      .ok clockSchema.files := by
    decide +kernel
  refine ⟨h, fun policy features => ?_⟩
  obtain ⟨hfields, hmethods, -⟩ := type_reference_kept_iff policy features h
  constructor
  · have hevent : List.Forall₂ (FieldTypesFollow policy features)
        [⟨[4, 0], ".acme.Event", eventMessage⟩,
         ⟨[4, 1], ".acme.Timestamp", .mk "Timestamp" [] [] [] false⟩] clockSchema.messages :=
      hfields
    obtain ⟨m, rest, hm, -, hmessages⟩ := List.forall₂_cons_left_iff.1 hevent
    obtain ⟨own, _, hown, htail, hpositions⟩ := List.forall₂_cons_left_iff.1 hm.fields
    obtain ⟨known, _, hknown, hnil, rfl⟩ := List.forall₂_cons_left_iff.1 htail
    obtain rfl := List.forall₂_nil_left_iff.1 hnil
    refine ⟨m, by simp [hmessages], own, known, hpositions, ?_, ?_⟩
    · refine fun hmeans => absurd ((hown "acme.Timestamp" (by decide +kernel)).1 hmeans) ?_
      unfold Understood
      decide +kernel
    · refine (hknown "google.protobuf.Timestamp" (by decide +kernel)).2 ?_
      unfold Understood
      decide +kernel
  · have hnow : List.Forall₂ (MethodTypesFollow policy features) [nowMethod]
        clockSchema.methods := hmethods
    obtain ⟨m, rest, hm, -, hcons⟩ := List.forall₂_cons_left_iff.1 hnow
    have hrooted : unrooted nowMethod.input = emptyName ∧
        unrooted nowMethod.output = "google.protobuf.Timestamp" := by
      decide +kernel
    have hmem : m ∈ clockSchema.methods := by simp [hcons]
    have hverb : ∀ m ∈ clockSchema.methods, m.verb ≠ .get := by decide +kernel
    refine ⟨m, hmem, ?_, ?_⟩
    · rw [← hrooted.1]
      exact hm.request.2 ⟨Or.inl hrooted.1, fun hget => hverb m hmem hget.1⟩
    · rw [← hrooted.2, hm.response]
      unfold UnderstoodAbroad
      decide +kernel

end TypedFetch.TypeScript
