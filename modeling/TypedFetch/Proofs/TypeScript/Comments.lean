import TypedFetch.Proofs.Client.Flattening
import TypedFetch.Proofs.TypeScript.CommentText

/-!
# Comments in generated modules

A generated module is taken apart into passages: the comments that a schema fills, and the code
around them.  Without the comments the passages make the module that is generated when comments are
turned off (`silence_typesPassages`, `silence_clientPassages`), so that no text of a description is
taken for code.

The main statement is `comments_closed_iff`.  All comments of the module of types are closed, and so
are the remarks about services.  Those of the client module are closed exactly if the summaries and
the tags of its methods leave a comment open: unlike descriptions, they are written as they are.
-/

namespace TypedFetch.TypeScript

open TypedFetch.Text
open TypedFetch.Schema (Method Service)

/-! ## Passages -/

/-- A part of the text of a generated module. -/
inductive Passage where
  /-- Code, and comments that are the same in every module. -/
  | code (s : String)
  /-- A documentation comment, by its lines; without lines there is none. -/
  | doc (indent : String) (lines : List String)
  /-- A comment of one line in a class, if there is one. -/
  | remark (line : Option String)

namespace Passage

/-- The text of a passage. -/
def text : Passage → String
  | code s => s
  | doc indent lines => docComment indent lines
  | remark (some line) => "\n  // " ++ line ++ "\n"
  | remark none => ""

/-- A passage without its comment. -/
def silent : Passage → Passage
  | code s => code s
  | doc indent _ => doc indent []
  | remark _ => remark none

/-- A comment that ends where it is meant to end: a documentation comment at its own end mark, with
each of its lines on one line, and a remark at the end of its line. -/
def Closed : Passage → Prop
  | code _ => True
  | doc indent lines =>
    (∀ line ∈ lines, IsCommentText line.toList) ∧ EndsOnce (docComment indent lines).toList
  | remark line => ∀ s, line = some s → ∀ c ∈ s.toList, isLineBoundary c = false

@[simp] lemma closed_code (s : String) : (code s).Closed := trivial

/-- A documentation comment is closed if its lines are. -/
lemma closed_doc_iff {indent : String} (hindent : ∀ c ∈ indent.toList, c = ' ')
    (lines : List String) :
    (doc indent lines).Closed ↔ ∀ line ∈ lines, IsCommentText line.toList :=
  ⟨fun h => h.1, fun h => ⟨h, endsOnce_docComment hindent fun line hline => (h line hline).noEnd⟩⟩

end Passage

/-- All comments among some passages are closed. -/
def AllClosed (ps : List Passage) : Prop := ∀ p ∈ ps, p.Closed

/-- The text of passages. -/
def passagesText (ps : List Passage) : String := String.join (ps.map Passage.text)

/-- The text of a module whose sections are passages. -/
def moduleText (sections : List (List Passage)) : String :=
  joinSections (sections.map passagesText)

/-- A module without the comments that a schema fills. -/
def silence (sections : List (List Passage)) : List (List Passage) :=
  sections.map (List.map Passage.silent)

/-- A section of code that a module may have. -/
def codeSection (present : Bool) (s : String) : List (List Passage) :=
  if present then [[.code s]] else []

section Lists

variable (p : Passage) (ps ps' : List Passage)

@[simp] lemma allClosed_nil : AllClosed [] := by simp [AllClosed]

@[simp] lemma allClosed_cons : AllClosed (p :: ps) ↔ p.Closed ∧ AllClosed ps := by
  simp [AllClosed]

@[simp] lemma allClosed_append : AllClosed (ps ++ ps') ↔ AllClosed ps ∧ AllClosed ps' :=
  List.forall_mem_append

@[simp] lemma allClosed_flatMap {α : Type} (xs : List α) (f : α → List Passage) :
    AllClosed (xs.flatMap f) ↔ ∀ x ∈ xs, AllClosed (f x) := by
  simp only [AllClosed, List.mem_flatMap]
  exact ⟨fun h x hx p hp => h p ⟨x, hx, hp⟩, fun h p ⟨x, hx, hp⟩ => h x hx p hp⟩

@[simp] lemma passagesText_nil : passagesText [] = "" := rfl

@[simp] lemma passagesText_cons : passagesText (p :: ps) = p.text ++ passagesText ps := by
  simp [passagesText]

@[simp] lemma passagesText_append :
    passagesText (ps ++ ps') = passagesText ps ++ passagesText ps' := by
  simp [passagesText]

@[simp] lemma map_passagesText_codeSection (present : Bool) (s : String) :
    (codeSection present s).map passagesText = if present then [s] else [] := by
  cases present <;> simp [codeSection, Passage.text]

@[simp] lemma map_silent_codeSection (present : Bool) (s : String) :
    (codeSection present s).map (List.map Passage.silent) = codeSection present s := by
  cases present <;> rfl

@[simp] lemma allClosed_codeSection (present : Bool) (s : String) :
    AllClosed (codeSection present s).flatten := by
  cases present <;> simp [codeSection]

end Lists

lemma passagesText_flatMap {α : Type} {f : α → List Passage} {text : α → String}
    (h : ∀ x, passagesText (f x) = text x) (xs : List α) :
    passagesText (xs.flatMap f) = String.join (xs.map text) := by
  induction xs with
  | nil => rfl
  | cons x xs ih => simp [ih, h]

/-- The features without comments. -/
def Features.silent (features : Features) : Features := { features with comments := false }

/-- The options without comments. -/
def ClientOptions.silent (options : ClientOptions) : ClientOptions :=
  { options with features := options.features.silent }

/-! ## The module of types -/

/-- A property without its comment. -/
def Property.silent (p : Property) : Property := { p with doc := [] }

/-- A declaration without its comments. -/
def TypeDeclaration.silent : TypeDeclaration → TypeDeclaration
  | .interface name params properties _ =>
    .interface name params (properties.map Property.silent) []
  | .alias name params type _ => .alias name params type []

/-- The passages of a property. -/
def propertyPassages (p : Property) : List Passage :=
  [.doc "  " p.doc,
   .code ("  " ++ p.name ++ (if p.isOptional then "?" else "") ++ ": " ++ p.type ++ ";\n")]

/-- The passages of a declaration. -/
def declarationPassages : TypeDeclaration → List Passage
  | .interface name params properties doc =>
    .doc "" doc :: .code ("export interface " ++ name ++ params ++ " \x7b\n") ::
      properties.flatMap propertyPassages ++ [.code "\x7d\n"]
  | .alias name params type doc =>
    [.doc "" doc, .code ("export type " ++ name ++ params ++ " = " ++ type ++ ";\n")]

/-- The passages of the module of types. -/
def typesPassages (policy : TypePolicy) (features : Features) (schema : Schema) :
    List (List Passage) :=
  let declarations := schemaDeclarations policy features schema
  [.code (notice ++ "\n// Generated from protobuf definitions\n\n") ::
    (declarations.1 ++ declarations.2).flatMap (fun d => declarationPassages d ++ [.code "\n"]) ++
    [.code ("// Utility types\n" ++
      String.join ((neededUtilities policy features schema).map utilityText))]] ++
    codeSection features.filterBuilders (filterBuilders policy schema.messages) ++
    codeSection features.sortBuilders (sortBuilders schema.messages schema.enums)

lemma text_propertyPassages (p : Property) : passagesText (propertyPassages p) = p.text := by
  simp [propertyPassages, Property.text, Passage.text, String.append_assoc]

lemma text_declarationPassages (d : TypeDeclaration) :
    passagesText (declarationPassages d) = d.text := by
  cases d with
  | interface name params properties doc =>
    simp [declarationPassages, TypeDeclaration.text, block, Passage.text,
      passagesText_flatMap text_propertyPassages, String.append_assoc]
  | «alias» name params type doc =>
    simp [declarationPassages, TypeDeclaration.text, Passage.text, String.append_assoc]

/-- The passages of the module of types make the module. -/
lemma text_typesPassages (policy : TypePolicy) (features : Features) (schema : Schema) :
    moduleText (typesPassages policy features schema) = typesModule policy features schema := by
  have hdeclaration : ∀ d : TypeDeclaration,
      passagesText (declarationPassages d ++ [.code "\n"]) = d.text ++ "\n" := by
    intro d
    simp [text_declarationPassages, Passage.text]
  simp only [moduleText, typesPassages, typesModule, List.map_append, map_passagesText_codeSection,
    typeSection]
  simp [passagesText_flatMap hdeclaration, Passage.text, String.append_assoc]

lemma silent_declarationPassages (d : TypeDeclaration) :
    (declarationPassages d).map Passage.silent = declarationPassages d.silent := by
  cases d with
  | interface name params properties doc =>
    have hproperty : (fun p => (propertyPassages p).map Passage.silent) =
        fun p => propertyPassages p.silent := rfl
    simp [declarationPassages, TypeDeclaration.silent, Passage.silent, List.map_flatMap,
      List.flatMap_map, hproperty]
  | «alias» name params type doc => rfl

lemma schemaDeclarations_silent (policy : TypePolicy) (features : Features) (schema : Schema) :
    schemaDeclarations policy features.silent schema =
      ((schemaDeclarations policy features schema).1.map TypeDeclaration.silent,
        (schemaDeclarations policy features schema).2.map TypeDeclaration.silent) := by
  have hinterface : ∀ m, interfaceOf policy features.silent m =
      (interfaceOf policy features m).silent := by
    intro m
    simp [interfaceOf, TypeDeclaration.silent, Property.silent, Features.doc, Features.silent,
      Function.comp_def]
  have hunion : ∀ e, unionOf features.silent e = (unionOf features e).silent := fun e => rfl
  simp [schemaDeclarations, hinterface, hunion, Function.comp_def]

lemma name_silent (d : TypeDeclaration) : d.silent.name = d.name := by
  cases d <;> rfl

lemma neededUtilities_silent (policy : TypePolicy) (features : Features) (schema : Schema) :
    neededUtilities policy features.silent schema = neededUtilities policy features schema := by
  have hnames : ∀ ds : List TypeDeclaration,
      (ds.map TypeDeclaration.silent).map (·.name) = ds.map (·.name) := by
    intro ds
    simp [name_silent, Function.comp_def]
  have hbuilders : builderNames features.silent schema.messages =
      builderNames features schema.messages := rfl
  simp only [neededUtilities, schemaDeclarations_silent, List.map_append, hnames, hbuilders]

/-- Without its comments the module of types is the one that is generated without comments. -/
lemma silence_typesPassages (policy : TypePolicy) (features : Features) (schema : Schema) :
    silence (typesPassages policy features schema) =
      typesPassages policy features.silent schema := by
  have hdeclarations : ∀ ds : List TypeDeclaration,
      (ds.flatMap fun d => declarationPassages d ++ [Passage.code "\n"]).map Passage.silent =
        (ds.map TypeDeclaration.silent).flatMap fun d =>
          declarationPassages d ++ [Passage.code "\n"] := by
    intro ds
    simp [List.map_flatMap, List.flatMap_map, silent_declarationPassages, Passage.silent]
  simp only [silence, typesPassages, List.map_append, List.map_cons, List.map_nil,
    map_silent_codeSection, hdeclarations, neededUtilities_silent, schemaDeclarations_silent]
  rfl

/-- A comment that is made from a description is closed. -/
lemma closed_description {indent : String} (hindent : ∀ c ∈ indent.toList, c = ' ')
    (features : Features) (description : Option String) :
    (Passage.doc indent (features.doc description)).Closed := by
  rw [Passage.closed_doc_iff hindent]
  unfold Features.doc
  split
  · exact isCommentText_docLines description
  · simp

/-- The comments of the module of types are closed. -/
lemma allClosed_typesPassages (policy : TypePolicy) (features : Features) (schema : Schema) :
    AllClosed (typesPassages policy features schema).flatten := by
  have hdoc : ∀ description, (Passage.doc "" (features.doc description)).Closed :=
    closed_description (by simp) features
  have hinner : ∀ description, (Passage.doc "  " (features.doc description)).Closed :=
    closed_description (by simp) features
  have hinterface : ∀ m, AllClosed (declarationPassages (interfaceOf policy features m)) := by
    intro m
    simp [interfaceOf, declarationPassages, propertyPassages, List.flatMap_map, hdoc, hinner]
  have hunion : ∀ e, AllClosed (declarationPassages (unionOf features e)) := by
    intro e
    simp [unionOf, declarationPassages, hdoc]
  simp only [typesPassages, schemaDeclarations, List.flatten_append, List.flatten_cons,
    List.flatten_nil, allClosed_append, allClosed_cons, allClosed_flatMap, allClosed_nil,
    Passage.closed_code, allClosed_codeSection, List.forall_mem_append, List.forall_mem_map,
    hinterface, hunion, implies_true, and_self]

/-! ## The module of the client -/

/-- A method of the class without its comment. -/
def ClientMethod.silent (m : ClientMethod) : ClientMethod := { m with doc := [] }

/-- A group of methods without its comments. -/
def MethodGroup.silent (g : MethodGroup) : MethodGroup where
  comment := none
  methods := g.methods.map ClientMethod.silent

/-- The passages of a method of the class. -/
def methodPassages (m : ClientMethod) : List Passage :=
  [.code "\n", .doc "  " m.doc,
   .code ("  async " ++ m.name ++ "(" ++ m.parameters ++ "): Promise<Types." ++ m.outputType ++
    "> \x7b\n" ++ m.bodyText ++ "  \x7d\n")]

/-- The passages of a group of methods. -/
def groupPassages (g : MethodGroup) : List Passage :=
  .remark g.comment :: g.methods.flatMap methodPassages

/-- The lines of a comment about the class, if there are to be comments. -/
def classDoc (features : Features) (line : String) : List String :=
  if features.comments then [line] else []

/-- The passages of the client class and of its factory. -/
def classPassages (options : ClientOptions) (groups : List MethodGroup) : List Passage :=
  let name := options.clientName
  [.code (notice ++ "\n// Generated API Client from protobuf definitions\n\n" ++
    "import type \x7b APIClient as RuntimeClient, APIClientConfig, RequestOptions \x7d " ++
    "from 'proto2fetch/runtime';\n" ++
    "import \x7b createAPIClient as createRuntimeClient \x7d from 'proto2fetch/runtime';\n" ++
    "import * as Types from './types.js';\n\n"),
   .doc "" (classDoc options.features (name ++ " - Auto-generated API client")),
   .code ("export class " ++ name ++ " \x7b\n" ++
    "  private client: RuntimeClient;\n\n" ++
    "  constructor(config?: Partial<APIClientConfig>) \x7b\n" ++
    "    const defaultBaseUrl = " ++ options.baseUrlExpression ++ ";\n" ++
    "    this.client = createRuntimeClient(\x7b\n" ++
    "      baseUrl: defaultBaseUrl,\n      ...config\n    \x7d);\n  \x7d\n")] ++
    groups.flatMap groupPassages ++
    [.code "\x7d\n", .code "\n",
     .doc "" (classDoc options.features ("Create a new instance of " ++ name)),
     .code (block ("export function create" ++ name ++ "(config?: Partial<APIClientConfig>): " ++
        name) ("  return new " ++ name ++ "(config);\n") ++
      "\n// Default export\nexport default " ++ name ++ ";")]

/-- The passages of the module of the client. -/
def clientPassages (options : ClientOptions) (schema : Schema) :
    Except Collision (List (List Passage)) :=
  (methodGroups options.features schema.services).map fun groups =>
    [classPassages options groups, [.code (helperSection options.features schema)]]

lemma text_methodPassages (m : ClientMethod) : passagesText (methodPassages m) = m.text := by
  simp [methodPassages, ClientMethod.text, Passage.text, String.append_assoc]

lemma text_groupPassages (g : MethodGroup) : passagesText (groupPassages g) = g.text := by
  rw [groupPassages, passagesText_cons, passagesText_flatMap text_methodPassages, MethodGroup.text]
  cases g.comment <;> rfl

lemma text_classPassages (options : ClientOptions) (groups : List MethodGroup) :
    passagesText (classPassages options groups) = clientText options groups := by
  have hdoc : ∀ line, docComment "" (classDoc options.features line) =
      if options.features.comments then docComment "" [line] else "" := by
    intro line
    unfold classDoc
    split <;> rfl
  -- the pieces of the text are the same and are only joined in another order
  simp only [classPassages, clientText, passagesText_append, passagesText_cons, passagesText_nil,
    passagesText_flatMap text_groupPassages, Passage.text, hdoc, block, String.append_assoc,
    String.append_empty]

/-- The passages of the module of the client make the module. -/
lemma text_clientPassages (options : ClientOptions) (schema : Schema) :
    (clientPassages options schema).map moduleText = clientModule options schema := by
  have hgroups : ∀ groups,
      moduleText [classPassages options groups, [.code (helperSection options.features schema)]] =
        joinSections [clientText options groups, helperSection options.features schema] := by
    intro groups
    simp [moduleText, text_classPassages, Passage.text]
  unfold clientPassages clientModule clientSection
  cases methodGroups options.features schema.services with
  | error c => rfl
  | ok groups => exact congrArg Except.ok (hgroups groups)

/-! ### The module without comments -/

lemma silent_clientMethodOf (features : Features) (m : Method) :
    (clientMethodOf features m).silent = clientMethodOf features.silent m := rfl

lemma silent_methodPassages (m : ClientMethod) :
    (methodPassages m).map Passage.silent = methodPassages m.silent := rfl

lemma silent_groupPassages (g : MethodGroup) :
    (groupPassages g).map Passage.silent = groupPassages g.silent := by
  simp [groupPassages, MethodGroup.silent, Passage.silent, List.map_flatMap, List.flatMap_map,
    silent_methodPassages]

/-- Comments do not matter for the methods that a class has. -/
lemma groupsFrom_silent (features : Features) (services : List Service) :
    ∀ owners, (groupsFrom features.silent owners services).2 =
      (groupsFrom features owners services).2.map (List.map MethodGroup.silent) := by
  induction services with
  | nil => intro owners; rfl
  | cons s rest ih =>
    intro owners
    -- which methods are added, and which one collides, is settled before their comments are made
    rcases hadd : addMethods s.name { owners } s.methods with ⟨acc, _ | c⟩
    · have hgroup : (⟨none, acc.methods.map (clientMethodOf features.silent)⟩ : MethodGroup) =
          MethodGroup.silent
            ⟨serviceComment features s, acc.methods.map (clientMethodOf features)⟩ := by
        simp [MethodGroup.silent, silent_clientMethodOf, Function.comp_def]
      have hcomment : serviceComment features.silent s = none := rfl
      simp only [groupsFrom, hadd, ih, hcomment, hgroup]
      cases (groupsFrom features acc.owners rest).2 <;> rfl
    · simp only [groupsFrom, hadd]
      rfl

/-- Without its comments the module of the client is the one that is generated without comments. -/
lemma silence_clientPassages (options : ClientOptions) (schema : Schema) :
    (clientPassages options schema).map silence = clientPassages options.silent schema := by
  have hgroups : methodGroups options.silent.features schema.services =
      (methodGroups options.features schema.services).map (List.map MethodGroup.silent) :=
    groupsFrom_silent options.features schema.services []
  have hclass : ∀ groups : List MethodGroup,
      (classPassages options groups).map Passage.silent =
        classPassages options.silent (groups.map MethodGroup.silent) := by
    intro groups
    simp only [classPassages, List.map_append, List.map_flatMap, List.flatMap_map,
      silent_groupPassages]
    rfl
  unfold clientPassages
  rw [hgroups]
  cases methodGroups options.features schema.services with
  | error c => rfl
  | ok groups =>
    refine congrArg Except.ok ?_
    simp only [silence, List.map_cons, List.map_nil, hclass]
    rfl

/-! ### Texts that are written as they are -/

/-- The summary and the tags of a method leave a comment open. -/
structure OperationTextsOpen (m : Method) : Prop where
  summary : ∀ s, m.summary = some s → IsCommentText s.toList
  tags : ∀ tag ∈ m.tags, IsCommentText tag.toList

/-- The line of a comment with the summary of a method. -/
def summaryLines (m : Method) : List String :=
  match m.summary with
  | some s => if s.isEmpty then [] else ["@summary " ++ s]
  | none => []

/-- The line of a comment with the tags of a method. -/
def tagLines (m : Method) : List String :=
  if m.tags.isEmpty then [] else ["@tags " ++ ", ".intercalate m.tags]

/-- A label that ends with a blank does not matter. -/
lemma isCommentText_labelled_iff {label : String} {start : List Char}
    (hlabel : label.toList = start ++ [' ']) (hstart : IsCommentText start) (s : String) :
    IsCommentText (label ++ s).toList ↔ IsCommentText s.toList := by
  rw [String.toList_append, hlabel, List.append_assoc, List.singleton_append,
    IsCommentText.append_cons_iff (by decide) (by decide)]
  exact and_iff_right hstart

lemma isCommentText_summaryLines_iff (m : Method) :
    (∀ line ∈ summaryLines m, IsCommentText line.toList) ↔
      ∀ s, m.summary = some s → IsCommentText s.toList := by
  have hlabel : "@summary ".toList = "@summary".toList ++ [' '] := rfl
  have hline := isCommentText_labelled_iff hlabel (by decide)
  unfold summaryLines
  cases m.summary with
  | none => simp
  | some s =>
    by_cases hempty : s = ""
    · simp [hempty, IsCommentText.nil]
    · simpa [hempty] using hline s

lemma isCommentText_intercalate_iff (tags : List String) :
    IsCommentText (", ".intercalate tags).toList ↔ ∀ tag ∈ tags, IsCommentText tag.toList := by
  induction tags with
  | nil => simpa using IsCommentText.nil
  | cons tag tags ih =>
    cases tags with
    | nil => simp
    | cons next tags =>
      have hchars : (", ".intercalate (tag :: next :: tags)).toList =
          tag.toList ++ ',' :: ([] ++ ' ' :: (", ".intercalate (next :: tags)).toList) := by
        simp [String.intercalate_cons_cons]
      rw [hchars, IsCommentText.append_cons_iff (by decide) (by decide),
        IsCommentText.append_cons_iff (by decide) (by decide), ih]
      simp only [List.forall_mem_cons, IsCommentText.nil, true_and]

lemma isCommentText_tagLines_iff (m : Method) :
    (∀ line ∈ tagLines m, IsCommentText line.toList) ↔
      ∀ tag ∈ m.tags, IsCommentText tag.toList := by
  have hlabel : "@tags ".toList = "@tags".toList ++ [' '] := rfl
  have hline := isCommentText_labelled_iff hlabel (by decide) (", ".intercalate m.tags)
  rw [isCommentText_intercalate_iff] at hline
  unfold tagLines
  by_cases hempty : m.tags = []
  · simp [hempty]
  · simpa [hempty] using hline

/-- The comment of a method is closed exactly if the texts that are written as they are leave it
open. -/
lemma closed_methodDoc_iff (features : Features) (m : Method) :
    (Passage.doc "  " (methodDoc features m)).Closed ↔
      (features.comments = true → OperationTextsOpen m) := by
  rw [Passage.closed_doc_iff (by simp)]
  by_cases hcomments : features.comments = true
  · have hlines : methodDoc features m =
        docLines m.description ++ summaryLines m ++ tagLines m := by
      simp only [methodDoc, hcomments, if_true]
      rfl
    simp only [hlines, hcomments, List.forall_mem_append, isCommentText_summaryLines_iff,
      isCommentText_tagLines_iff, true_imp_iff]
    exact ⟨fun h => ⟨h.1.2, h.2⟩,
      fun h => ⟨⟨isCommentText_docLines m.description, h.summary⟩, h.tags⟩⟩
  · simp [methodDoc, hcomments]

/-- The comment about a service is one line. -/
lemma closed_serviceComment (features : Features) (s : Service) :
    (Passage.remark (serviceComment features s)).Closed := by
  intro line hline
  unfold serviceComment at hline
  split at hline
  · split at hline
    · next d _ =>
      obtain ⟨first, hfirst, hkept⟩ := Option.bind_eq_some_iff.1 hline
      split at hkept
      · exact absurd hkept (by simp)
      · obtain rfl : first = line := by simpa using hkept
        obtain ⟨cs, hcs, rfl⟩ := List.mem_map.1 (List.mem_of_mem_head? hfirst)
        rw [String.toList_ofList]
        exact not_isLineBoundary_of_mem_lines hcs
    · exact absurd hline (by simp)
  · exact absurd hline (by simp)

/-- Every group of methods has the comment about a service. -/
lemma comment_of_mem_groupsFrom (features : Features) (services : List Service) :
    ∀ owners groups, (groupsFrom features owners services).2 = .ok groups →
      ∀ g ∈ groups, ∃ s, g.comment = serviceComment features s := by
  induction services with
  | nil =>
    intro owners groups h
    obtain rfl : [] = groups := by simpa [groupsFrom] using h
    simp
  | cons s rest ih =>
    intro owners groups h
    rcases hadd : addMethods s.name { owners } s.methods with ⟨acc, _ | c⟩
    · simp only [groupsFrom, hadd] at h
      cases hrest : (groupsFrom features acc.owners rest).2 with
      | error c => simp [hrest, Except.map] at h
      | ok others =>
        rw [hrest] at h
        obtain rfl := Except.ok.inj h
        intro g hg
        rcases List.mem_cons.1 hg with rfl | hg
        · exact ⟨s, rfl⟩
        · exact ih acc.owners others hrest g hg
    · simp [groupsFrom, hadd] at h

lemma closed_remark_of_mem_groups {features : Features} {services : List Service}
    {groups : List MethodGroup} (h : methodGroups features services = .ok groups)
    {g : MethodGroup} (hg : g ∈ groups) : (Passage.remark g.comment).Closed := by
  obtain ⟨s, hs⟩ := comment_of_mem_groupsFrom features services [] groups h g hg
  rw [hs]
  exact closed_serviceComment features s

/-- The comments of all groups are closed exactly if those of their methods are. -/
lemma allClosed_groups_iff {features : Features} {schema : Schema} {groups : List MethodGroup}
    (h : methodGroups features schema.services = .ok groups) :
    (∀ g ∈ groups, AllClosed (groupPassages g)) ↔
      ∀ d ∈ firsts (declaredMethods schema.services),
        features.comments = true → OperationTextsOpen d.method := by
  have hmethods : groups.flatMap (·.methods) =
      (firsts (declaredMethods schema.services)).map fun d => clientMethodOf features d.method := by
    rcases groupsFrom_cases features schema.services [] agreeing_nil with
      ⟨groups', new, hok, -, hfirsts, hgroups⟩ | ⟨c, herr, -⟩
    · obtain rfl : groups' = groups := Except.ok.inj (hok.symm.trans h)
      obtain rfl : firsts (declaredMethods schema.services) = new := hfirsts
      exact hgroups
    · exact absurd (herr.symm.trans h) (by simp)
  -- of a method only its documentation can be left open
  have hmethod : ∀ m, AllClosed (methodPassages (clientMethodOf features m)) ↔
      (features.comments = true → OperationTextsOpen m) := by
    intro m
    simp only [methodPassages, allClosed_cons, allClosed_nil, Passage.closed_code, true_and,
      and_true]
    exact closed_methodDoc_iff features m
  calc (∀ g ∈ groups, AllClosed (groupPassages g))
      ↔ ∀ g ∈ groups, ∀ m ∈ g.methods, AllClosed (methodPassages m) := by
        simp only [groupPassages, allClosed_cons, allClosed_flatMap]
        exact ⟨fun hclosed g hg => (hclosed g hg).2, fun hopen g hg =>
          ⟨closed_remark_of_mem_groups h hg, hopen g hg⟩⟩
    _ ↔ ∀ m ∈ groups.flatMap (·.methods), AllClosed (methodPassages m) := by
        simp only [List.mem_flatMap]
        exact ⟨fun h m ⟨g, hg, hm⟩ => h g hg m hm, fun h g hg m hm => h m ⟨g, hg, hm⟩⟩
    _ ↔ _ := by
        rw [hmethods, List.forall_mem_map]
        exact forall₂_congr fun d _ => hmethod d.method

/-- The comments about the class are closed exactly if its name leaves a comment open. -/
lemma closed_classDoc_iff (options : ClientOptions) :
    ((Passage.doc "" (classDoc options.features
        (options.clientName ++ " - Auto-generated API client"))).Closed ∧
      (Passage.doc "" (classDoc options.features
        ("Create a new instance of " ++ options.clientName))).Closed) ↔
      (options.features.comments = true → IsCommentText options.clientName.toList) := by
  have hclass : IsCommentText (options.clientName ++ " - Auto-generated API client").toList ↔
      IsCommentText options.clientName.toList := by
    have hchars : (options.clientName ++ " - Auto-generated API client").toList =
        options.clientName.toList ++ ' ' :: "- Auto-generated API client".toList := by simp
    rw [hchars, IsCommentText.append_cons_iff (by decide) (by decide)]
    exact and_iff_left (by decide)
  have hfactory : IsCommentText ("Create a new instance of " ++ options.clientName).toList ↔
      IsCommentText options.clientName.toList := by
    have hlabel : "Create a new instance of ".toList =
        "Create a new instance of".toList ++ [' '] := rfl
    exact isCommentText_labelled_iff hlabel (by decide) options.clientName
  rw [Passage.closed_doc_iff (by simp), Passage.closed_doc_iff (by simp)]
  unfold classDoc
  by_cases hcomments : options.features.comments = true
  · simp only [hcomments, if_true, List.forall_mem_singleton, hclass, hfactory, and_self,
      true_imp_iff]
  · simp [hcomments]

lemma clientPassages_eq_ok_iff {options : ClientOptions} {schema : Schema}
    {sections : List (List Passage)} :
    clientPassages options schema = .ok sections ↔
      ∃ groups, methodGroups options.features schema.services = .ok groups ∧
        sections = [classPassages options groups,
          [.code (helperSection options.features schema)]] := by
  unfold clientPassages
  cases methodGroups options.features schema.services with
  | error c => simp [Except.map]
  | ok groups => simp [Except.map, eq_comm]

/-- The comments of the module of the client are closed exactly if the name of the class and the
texts of the methods in it that are written as they are leave them open. -/
lemma allClosed_clientPassages_iff {options : ClientOptions} {schema : Schema}
    {sections : List (List Passage)} (h : clientPassages options schema = .ok sections) :
    AllClosed sections.flatten ↔
      (options.features.comments = true → IsCommentText options.clientName.toList ∧
        ∀ d ∈ firsts (declaredMethods schema.services), OperationTextsOpen d.method) := by
  obtain ⟨groups, hgroups, rfl⟩ := clientPassages_eq_ok_iff.1 h
  have hclass := closed_classDoc_iff options
  have hmethods := allClosed_groups_iff hgroups
  simp only [classPassages, List.flatten_cons, List.flatten_nil, allClosed_append, allClosed_cons,
    allClosed_nil, allClosed_flatMap, Passage.closed_code, true_and, and_true, hmethods]
  constructor
  · rintro ⟨⟨hname, hopen⟩, hfactory⟩ hcomments
    exact ⟨hclass.1 ⟨hname, hfactory⟩ hcomments, fun d hd => hopen d hd hcomments⟩
  · intro hopen
    obtain ⟨hname, hfactory⟩ := hclass.2 fun hcomments => (hopen hcomments).1
    exact ⟨⟨hname, fun d hd hcomments => (hopen hcomments).2 d hd⟩, hfactory⟩

/-- The remarks in the module of the client are the comments about services. -/
lemma closed_remark_of_mem {options : ClientOptions} {schema : Schema}
    {sections : List (List Passage)} (h : clientPassages options schema = .ok sections)
    {line : Option String} (hline : .remark line ∈ sections.flatten) :
    (Passage.remark line).Closed := by
  obtain ⟨groups, hgroups, rfl⟩ := clientPassages_eq_ok_iff.1 h
  have hmem : ∃ g ∈ groups, line = g.comment := by
    simpa [classPassages, groupPassages, methodPassages] using hline
  obtain ⟨g, hg, rfl⟩ := hmem
  exact closed_remark_of_mem_groups hgroups hg

/-- **Ends of comments.**  The passages of both modules make their texts, and without comments the
texts that are generated without comments.  All comments of the module of types and all remarks
about services are closed, and so are the comments of the client module unless the name of its
class, a summary or a tag closes one of them early. -/
theorem comments_closed_iff (policy : TypePolicy) (options : ClientOptions) (schema : Schema) :
    (moduleText (typesPassages policy options.features schema) =
        typesModule policy options.features schema ∧
      moduleText (silence (typesPassages policy options.features schema)) =
        typesModule policy options.features.silent schema ∧
      AllClosed (typesPassages policy options.features schema).flatten) ∧
    (clientPassages options schema).map moduleText = clientModule options schema ∧
    (clientPassages options schema).map (moduleText ∘ silence) =
      clientModule options.silent schema ∧
    ∀ sections, clientPassages options schema = .ok sections →
      (∀ line, .remark line ∈ sections.flatten → (Passage.remark line).Closed) ∧
      (AllClosed sections.flatten ↔
        (options.features.comments = true → IsCommentText options.clientName.toList ∧
          ∀ d ∈ firsts (declaredMethods schema.services), OperationTextsOpen d.method)) := by
  refine ⟨⟨text_typesPassages policy options.features schema, ?_,
    allClosed_typesPassages policy options.features schema⟩, text_clientPassages options schema, ?_,
    fun sections h => ⟨fun line => closed_remark_of_mem h, allClosed_clientPassages_iff h⟩⟩
  · rw [silence_typesPassages, text_typesPassages]
  · rw [← text_clientPassages, ← silence_clientPassages]
    cases clientPassages options schema <;> rfl

/-- The summary of a method ends the comment of the method. -/
theorem comments_closed_iff_earlyEnd :
    ∃ (schema : Schema) (sections : List (List Passage)),
      schema.methods.map (·.summary) = [some "Lists */ users"] ∧
      clientPassages {} schema = .ok sections ∧ ¬ AllClosed sections.flatten := by
  let method : Method :=
    { name := "ListUsers", inputType := "Empty", outputType := "Users", verb := .get,
      path := "/v1/users", summary := some "Lists */ users" }
  let schema : Schema := { files := [{ services := [{ name := "Users", methods := [method] }] }] }
  refine ⟨schema, _, rfl, rfl, fun hclosed => ?_⟩
  have hopen := ((comments_closed_iff {} {} schema).2.2.2 _ rfl).2.1 hclosed rfl
  have hmem : ⟨"Users", method⟩ ∈ firsts (declaredMethods schema.services) :=
    List.mem_singleton.2 rfl
  exact ((hopen.2 _ hmem).summary _ rfl).noEnd (by decide)

end TypedFetch.TypeScript
