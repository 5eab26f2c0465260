import TypedFetch.Proofs.Client.Flattening
import TypedFetch.Proofs.TypeScript.TypesSyntax

/-!
# The type positions of the module of the client

The module of the client as a list of fragments.  It is described by a layout: which methods of the
schema stand in which group of the class.  Written out, the fragments of the layout that the
traversal of the services finds are the module.
-/

namespace TypedFetch.TypeScript

open TypedFetch.Schema (Method Service Message)
open Syntax

/-! ## Methods -/

/-- The type of the options of a call. -/
def requestOptions : TypeExpr := .name "RequestOptions"

/-- The type of the settings of a client, all of them optional. -/
def partialConfig : TypeExpr := .apply (.name "Partial") (.name "APIClientConfig")

/-- The parameter list of a method. -/
def parameterFragments (m : Method) : List Fragment :=
  if takesNoRequest m then [.code "options?: ", .type [] requestOptions]
  else [.code "request: ", .type [] (.imported m.inputType), .code ", options?: ",
    .type [] requestOptions]

lemma write_parameterFragments (m : Method) : write (parameterFragments m) = parametersOf m := by
  unfold parameterFragments parametersOf
  split <;> simp [← String.toList_inj, Fragment.text, TypeExpr.text, requestOptions]

/-- The start of a call. -/
def callFragments (verb : Http.Verb) (output : String) : List Fragment :=
  [.code "    return this.client.request<", .type [] (.imported output), .code ">('",
   .given verb.text, .code "', path"]

lemma write_callFragments (verb : Http.Verb) (output : String) :
    write (callFragments verb output) = "    " ++ callHead verb output := by
  unfold callHead
  simp [← String.toList_inj, callFragments, Fragment.text, TypeExpr.text]

/-- The lines of a statement of a method body. -/
def statementFragments : Statement → List Fragment
  | .path source => [.code "    const path = ", .given source.expression, .code ";\n"]
  | .unpack fields rest =>
    [.code "    const \x7b ", .given (", ".intercalate fields), .code ", ...", .given rest,
     .code " \x7d = request;\n"]
  | .query source =>
    [.code "    const searchParams = this.client.objectToSearchParams(", .given source,
     .code ");\n"]
  | .send verb output body =>
    callFragments verb output ++ [.code ", ", .given body, .code ", options);\n"]
  | .sendQuery verb output =>
    callFragments verb output ++
      [.code ", undefined, \x7b\n      searchParams,\n      ...options\n    \x7d);\n"]

lemma write_statement (s : Statement) :
    write (statementFragments s) =
      String.join (s.lines.map fun line => "    " ++ line ++ "\n") := by
  cases s <;>
    simp [← String.toList_inj, statementFragments, write_callFragments, Statement.lines,
      Fragment.text]

/-- The fragments of a client method. -/
def methodFragments (features : Features) (m : Method) : List Fragment :=
  ([.code "\n", .given (docComment "  " (methodDoc features m)), .code "  async ",
    .given (Naming.camelCase m.name), .code "("] : List Fragment) ++
    parameterFragments m ++
    ([.code "): ", .type [] (.apply (.name "Promise") (.imported m.outputType)),
      .code " \x7b\n"] : List Fragment) ++
    (bodyOf m).flatMap statementFragments ++ ([.code "  \x7d\n"] : List Fragment)

lemma write_method (features : Features) (m : Method) :
    write (methodFragments features m) = (clientMethodOf features m).text := by
  have hbody : write ((bodyOf m).flatMap statementFragments) =
      (clientMethodOf features m).bodyText := by
    rw [ClientMethod.bodyText, clientMethodOf, write_flatMap, List.map_flatMap]
    simp only [write_statement]
    induction bodyOf m with
    | nil => rfl
    | cons s body ih => simp [ih]
  unfold ClientMethod.text
  simp only [methodFragments, write_append, hbody, write_parameterFragments]
  simp [← String.toList_inj, clientMethodOf, Fragment.text, TypeExpr.text]

/-- A group of methods of the class. -/
structure GroupSyntax where
  /-- A line about the service. -/
  comment : Option String
  /-- The methods of the schema that stand in the group. -/
  methods : List Method

/-- The group with its methods as client methods. -/
def GroupSyntax.group (features : Features) (g : GroupSyntax) : MethodGroup where
  comment := g.comment
  methods := g.methods.map (clientMethodOf features)

/-- The fragments of a group. -/
def GroupSyntax.fragments (features : Features) (g : GroupSyntax) : List Fragment :=
  (match g.comment with
    | some comment => [.code "\n  // ", .given comment, .code "\n"]
    | none => []) ++
    g.methods.flatMap (methodFragments features)

lemma write_group (features : Features) (g : GroupSyntax) :
    write (g.fragments features) = (g.group features).text := by
  have hmethods : write (g.methods.flatMap (methodFragments features)) =
      String.join ((g.methods.map (clientMethodOf features)).map ClientMethod.text) := by
    rw [write_flatMap, List.map_map]
    simp only [write_method, Function.comp_def]
  unfold GroupSyntax.fragments GroupSyntax.group MethodGroup.text
  rw [write_append, hmethods]
  cases g.comment <;> simp [Fragment.text, String.append_assoc]

/-! ## The class -/

/-- A remark about a declaration, if there are to be comments. -/
def remark (features : Features) (line : String) : String :=
  if features.comments then docComment "" [line] else ""

/-- The section of the client class. -/
def classFragments (options : ClientOptions) (layout : List GroupSyntax) : List Fragment :=
  let name := options.clientName
  ([.code notice, .code "\n// Generated API Client from protobuf definitions\n\n",
   .code "import type \x7b APIClient as RuntimeClient, APIClientConfig, RequestOptions \x7d ",
   .code "from 'proto2fetch/runtime';\n",
   .code "import \x7b createAPIClient as createRuntimeClient \x7d from 'proto2fetch/runtime';\n",
   .code "import * as Types from './types.js';\n\n",
   .given (remark options.features (name ++ " - Auto-generated API client")),
   .exported "class" name [], .code " \x7b\n  private client: ",
   .type [] (.name "RuntimeClient"), .code ";\n\n  constructor(config?: ",
   .type [] partialConfig, .code ") \x7b\n    const defaultBaseUrl = ",
   .given options.baseUrlExpression,
   .code ";\n    this.client = createRuntimeClient(\x7b\n",
   .code "      baseUrl: defaultBaseUrl,\n      ...config\n    \x7d);\n  \x7d\n"] :
    List Fragment) ++
    layout.flatMap (GroupSyntax.fragments options.features) ++
    ([.code "\x7d\n\n", .given (remark options.features ("Create a new instance of " ++ name)),
     .exported "function" ("create" ++ name) [], .code "(config?: ", .type [] partialConfig,
     .code "): ", .type [] (.name name), .code " \x7b\n  return new ", .type [] (.name name),
     .code "(config);\n\x7d\n\n// Default export\nexport default ", .type [] (.name name),
     .code ";"] : List Fragment)

lemma write_classFragments (options : ClientOptions) (layout : List GroupSyntax) :
    write (classFragments options layout) =
      clientText options (layout.map (GroupSyntax.group options.features)) := by
  have hgroups : write (layout.flatMap (GroupSyntax.fragments options.features)) =
      String.join ((layout.map (GroupSyntax.group options.features)).map MethodGroup.text) := by
    rw [write_flatMap, List.map_map]
    simp only [write_group, Function.comp_def]
  unfold classFragments clientText
  simp only [write_append, hgroups, write_cons, write_nil, Fragment.text, block, remark,
    String.append_assoc, String.append_right_inj]
  simp [← String.toList_inj, partialConfig, paramsText, TypeExpr.text]

/-! ## Helpers -/

/-- The helpers that create builders of marked messages. -/
def helperFragments (marker : String) (messages : List Message) : List Fragment :=
  ([.code "\n// ", .given marker, .code " helpers\n"] : List Fragment) ++
    (messagesMarked marker messages).flatMap fun m =>
      factoryFragments
        ("create" ++ String.ofList (Text.replaceFirst marker.toList [] m.name.toList) ++ marker)
        (.imported (builderName m))

lemma write_helperFragments (marker : String) (messages : List Message) :
    write (helperFragments marker messages) = builderHelpers marker messages := by
  unfold helperFragments builderHelpers
  simp only [write_append, write_cons, write_nil, write_flatMap, write_factory, Fragment.text,
    TypeExpr.text, String.append_assoc, String.append_empty]

/-- The helper that makes the parameters of a page. -/
def paginationFragments : List Fragment :=
  [.given (docComment "" ["Create pagination parameters"]),
   .exported "function" "createPagination" [], .code "(page: ", .type [] (.name "number"),
   .code " = 1, size: ", .type [] (.name "number"), .code " = 10): ",
   .type [] (.imported "Pagination"), .code " \x7b\n  return \x7b page, size \x7d;\n\x7d\n"]

lemma write_pagination :
    write paginationFragments =
      docComment "" ["Create pagination parameters"] ++
        block ("export function createPagination(page: number = 1, size: number = 10): " ++
          "Types.Pagination") "  return \x7b page, size \x7d;\n" := by
  simp only [paginationFragments, block, write_cons, write_nil, Fragment.text, TypeExpr.text,
    String.append_assoc, String.append_empty, String.append_right_inj]
  simp [paramsText]

/-- The type parameters of a paginated request. -/
def paginatedParams : List TypeParam := [{ name := "TFilter" }, { name := "TSort" }]

/-- The helper that makes a paginated request. -/
def paginatedFragments : List Fragment :=
  [.given (docComment "" ["Create paginated request helper"]),
   .exported "function" "createPaginatedRequest" paginatedParams,
   .code "(\n  pagination?: ", .type paginatedParams (.imported "Pagination"),
   .code ",\n  filter?: ", .type paginatedParams (.name "TFilter"),
   .code ",\n  sort?: ", .type paginatedParams (.array (.name "TSort")), .code "\n): ",
   .type paginatedParams
     (.applyTwo (.imported "PaginatedRequest") (.name "TFilter") (.name "TSort")),
   .code " \x7b\n  return \x7b\n    pagination: pagination || createPagination(),\n",
   .code "    filter,\n    sort\n  \x7d;\n\x7d\n"]

lemma write_paginated :
    write paginatedFragments =
      docComment "" ["Create paginated request helper"] ++
        block ("export function createPaginatedRequest<TFilter = any, TSort = any>(\n" ++
          "  pagination?: Types.Pagination,\n  filter?: TFilter,\n  sort?: TSort[]\n" ++
          "): Types.PaginatedRequest<TFilter, TSort>")
          ("  return \x7b\n    pagination: pagination || createPagination(),\n" ++
            "    filter,\n    sort\n  \x7d;\n") := by
  simp only [paginatedFragments, block, write_cons, write_nil, Fragment.text, TypeExpr.text,
    String.append_assoc, String.append_empty, String.append_right_inj]
  simp [paginatedParams, paramsText, TypeParam.text]

/-- The section of the helper functions. -/
def helperSyntax (features : Features) (schema : Schema) : List Fragment :=
  .code "// Helper methods and builders\n\n" :: paginationFragments ++ .code "\n" ::
    paginatedFragments ++
    (if features.filterBuilders then helperFragments filterMarker schema.messages else []) ++
    (if features.sortBuilders then helperFragments sortMarker schema.messages else [])

lemma write_helperSyntax (features : Features) (schema : Schema) :
    write (helperSyntax features schema) = helperSection features schema := by
  unfold helperSyntax helperSection
  simp only [write_append, apply_ite write, write_helperFragments, write_nil, List.cons_append,
    write_cons, write_pagination, write_paginated, Fragment.text, String.append_assoc]

/-! ## The module -/

/-- The module of the client with its type positions. -/
def clientSyntax (options : ClientOptions) (layout : List GroupSyntax) (schema : Schema) :
    Module :=
  [classFragments options layout, helperSyntax options.features schema]

/-- A list whose elements all have an origin is the image of a list of origins. -/
lemma exists_origins {α β : Type} {f : α → β} {P : α → Prop} :
    ∀ {ys : List β}, (∀ y ∈ ys, ∃ x, P x ∧ f x = y) → ∃ xs : List α, xs.map f = ys ∧ ∀ x ∈ xs, P x
  | [], _ => ⟨[], rfl, by simp⟩
  | y :: ys, h => by
    obtain ⟨x, hx, rfl⟩ := h y (by simp)
    obtain ⟨xs, rfl, hxs⟩ := exists_origins fun z hz => h z (List.mem_cons_of_mem _ hz)
    exact ⟨x :: xs, rfl, by simpa [hx] using hxs⟩

/-- The groups of a traversal have a layout, whose methods are methods of the schema. -/
lemma exists_layout {features : Features} {schema : Schema} {groups : List MethodGroup}
    (h : methodGroups features schema.services = .ok groups) :
    ∃ layout : List GroupSyntax, layout.map (GroupSyntax.group features) = groups ∧
      ∀ g ∈ layout, ∀ m ∈ g.methods, m ∈ schema.methods := by
  rcases groupsFrom_cases features schema.services [] agreeing_nil with
    ⟨groups', new, hok, -, hfirsts, hgroups⟩ | ⟨c, herr, -⟩
  · obtain rfl : groups' = groups := Except.ok.inj (hok.symm.trans h)
    obtain rfl : firsts (declaredMethods schema.services) = new := hfirsts
    have hmethod : ∀ g ∈ groups', ∀ cm ∈ g.methods,
        ∃ m, m ∈ schema.methods ∧ clientMethodOf features m = cm := by
      intro g hg cm hcm
      have hmem : cm ∈ groups'.flatMap (·.methods) := List.mem_flatMap.2 ⟨g, hg, hcm⟩
      rw [hgroups] at hmem
      obtain ⟨d, hd, rfl⟩ := List.mem_map.1 hmem
      refine ⟨d.method, ?_, rfl⟩
      rw [Schema.methods, ← map_method_declaredMethods]
      exact List.mem_map_of_mem (mem_of_mem_firstOfEachName _ hd)
    refine exists_origins fun g hg => ?_
    obtain ⟨methods, hmap, hmem⟩ := exists_origins (hmethod g hg)
    exact ⟨⟨g.comment, methods⟩, hmem, by rw [GroupSyntax.group, hmap]⟩
  · exact absurd (herr.symm.trans h) (by simp)

/-- Written out, the fragments of a layout are the module of the client. -/
lemma text_clientSyntax {options : ClientOptions} {schema : Schema} {layout : List GroupSyntax}
    (h : methodGroups options.features schema.services =
      .ok (layout.map (GroupSyntax.group options.features))) :
    clientModule options schema = .ok (clientSyntax options layout schema).text := by
  simp only [clientModule, clientSection, h, Module.text, clientSyntax, List.map_cons,
    List.map_nil, write_classFragments, write_helperSyntax]
  rfl

end TypedFetch.TypeScript
