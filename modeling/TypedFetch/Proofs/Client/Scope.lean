import TypedFetch.Proofs.Client.MethodBody
import TypedFetch.Proofs.TypeScript.FirstOfEachName
import TypedFetch.Proofs.TypeScript.Spans

/-!
# The variables of a client method

A client method has parameters, and its body declares further variables: the path, the fields that
the path takes out of the request, what is left of the request, and the query parameters.  The
names of the fields come from the schema and share the scope with all the others.

The main statements are `declared_nodup_iff`, when no variable is declared twice, and
`body_scoped_iff`, when the body reads only what is declared.
-/

namespace TypedFetch.TypeScript

open TypedFetch.Schema (Method)

/-! ## Spans of a method -/

/-- The parameter list of a method. -/
def parameterSpans (m : Method) : List Span :=
  (if takesNoRequest m then []
    else [.declared "request", .code ": ", .given ("Types." ++ m.inputType), .code ", "]) ++
    [.declared "options", .code "?: ", .given "RequestOptions"]

lemma textOf_parameterSpans (m : Method) : textOf (parameterSpans m) = parametersOf m := by
  unfold parameterSpans parametersOf
  split <;> simp [← String.toList_inj, Span.text]

/-- A piece of a template literal. -/
def pieceSpans : Http.Piece → List Span
  | .literal c => [.given (String.ofList [c])]
  | .placeholder inner =>
    [.code "$\x7b", .used "request",
     .given ("." ++ String.ofList (Http.accessChars (Http.fieldPath inner))), .code "\x7d"]

lemma textOf_pieceSpans (piece : Http.Piece) :
    textOf (pieceSpans piece) = String.ofList piece.templateChars := by
  cases piece with
  | literal c =>
    simp only [pieceSpans, textOf_cons, textOf_nil, Span.text, String.append_empty,
      Http.templateChars_literalPiece]
  | placeholder inner =>
    rw [Http.templateChars_placeholderPiece]
    unfold Http.substitution
    simp [← String.toList_inj, pieceSpans, Span.text]

/-- The path of a call. -/
def pathSpans : PathSource → List Span
  | .fixed path => [.given (stringLiteral path)]
  | .filled path =>
    .code "`" :: (Http.pieces (templateChars path.toList)).flatMap pieceSpans ++ [.code "`"]

lemma textOf_pathSpans (source : PathSource) : textOf (pathSpans source) = source.expression := by
  cases source with
  | fixed path => simp [pathSpans, PathSource.expression, Span.text]
  | filled path =>
    have hpieces : (textOf ((Http.pieces (templateChars path.toList)).flatMap pieceSpans)).toList =
        (Http.pathTemplate path).toList := by
      rw [textOf_flatMap textOf_pieceSpans, Http.pathTemplate]
      simp [List.flatMap_map]
    simp [← String.toList_inj, pathSpans, PathSource.expression, hpieces, Span.text]

/-- The start of a call. -/
def callSpans (verb : Http.Verb) (output : String) : List Span :=
  [.code "    return this.client.request<", .given ("Types." ++ output), .code ">('",
   .given verb.text, .code "', ", .used "path"]

lemma textOf_callSpans (verb : Http.Verb) (output : String) :
    textOf (callSpans verb output) = "    " ++ callHead verb output := by
  unfold callHead
  simp [← String.toList_inj, callSpans, Span.text]

/-- The fields that are taken out of the request. -/
def fieldSpans : List String → List Span
  | [] => []
  | [x] => [.declared x]
  | x :: rest => .declared x :: .code ", " :: fieldSpans rest

lemma textOf_fieldSpans (fields : List String) :
    textOf (fieldSpans fields) = ", ".intercalate fields := by
  fun_induction fieldSpans fields with
  | case1 => rfl
  | case2 x => simp [Span.text]
  | case3 x rest hne ih =>
    obtain ⟨y, rest, rfl⟩ := List.exists_cons_of_ne_nil (fun h => hne h)
    rw [textOf_cons, textOf_cons, ih]
    simp [← String.toList_inj, Span.text]

@[simp] lemma declaredBy_fieldSpans (fields : List String) :
    declaredBy (fieldSpans fields) = fields := by
  fun_induction fieldSpans fields <;> simp_all [Span.declares]

@[simp] lemma usedBy_fieldSpans (fields : List String) : usedBy (fieldSpans fields) = [] := by
  fun_induction fieldSpans fields <;> simp_all [Span.uses]

/-- A statement of a method body. -/
def statementSpans : Statement → List Span
  | .path source =>
    ([.code "    const ", .declared "path", .code " = "] : List Span) ++ pathSpans source ++
      ([.code ";\n"] : List Span)
  | .unpack fields rest =>
    .code "    const \x7b " :: fieldSpans fields ++
      ([.code ", ...", .declared rest, .code " \x7d = ", .used "request", .code ";\n"] : List Span)
  | .query source =>
    [.code "    const ", .declared "searchParams", .code " = this.client.objectToSearchParams(",
     .used source, .code ");\n"]
  | .send verb output body =>
    callSpans verb output ++ [.code ", ", .used body, .code ", ", .used "options", .code ");\n"]
  | .sendQuery verb output =>
    callSpans verb output ++
      [.code ", ", .used "undefined", .code ", \x7b\n      ", .used "searchParams",
       .code ",\n      ...", .used "options", .code "\n    \x7d);\n"]

lemma toList_textOf_statementSpans (s : Statement) :
    (textOf (statementSpans s)).toList = statementText s := by
  cases s <;>
    simp [statementText, statementSpans, textOf_pathSpans, textOf_fieldSpans, textOf_callSpans,
      Statement.lines, Span.text]

/-- The body of a method. -/
def bodySpans (m : Method) : List Span := (bodyOf m).flatMap statementSpans

/-- A client method. -/
def methodSpans (features : Features) (m : Method) : List Span :=
  ([.code "\n", .given (docComment "  " (methodDoc features m)), .code "  async ",
    .member (Naming.camelCase m.name), .code "("] : List Span) ++
    parameterSpans m ++
    ([.code "): ", .given ("Promise<Types." ++ m.outputType ++ ">"), .code " \x7b\n"] :
      List Span) ++
    bodySpans m ++ ([.code "  \x7d\n"] : List Span)

lemma textOf_methodSpans (features : Features) (m : Method) :
    textOf (methodSpans features m) = (clientMethodOf features m).text := by
  have hbody : textOf (bodySpans m) = (clientMethodOf features m).bodyText := by
    rw [← String.toList_inj, toList_bodyText, bodySpans, textOf_flatMap fun _ => rfl]
    simp [toList_textOf_statementSpans, List.flatMap_map, clientMethodOf]
  unfold ClientMethod.text
  simp only [methodSpans, textOf_append, hbody, textOf_parameterSpans]
  simp [← String.toList_inj, clientMethodOf, Span.text]

/-! ## Quiet code -/

lemma quiet_pathSpans (source : PathSource) : Quiet (pathSpans source) := by
  have hpiece : ∀ piece, Quiet (pieceSpans piece) := by
    intro piece
    cases piece <;> simp only [pieceSpans, quiet_cons, quiet_nil, isQuiet_given, isQuiet_used,
      and_true, true_and]
    and_intros <;> exact isQuiet_ofList (by decide)
  cases source <;> simp only [pathSpans, quiet_cons, quiet_nil, quiet_append, quiet_flatMap, hpiece,
    isQuiet_given, implies_true, and_true]
  and_intros <;> exact isQuiet_ofList (by decide)

lemma quiet_fieldSpans (fields : List String) : Quiet (fieldSpans fields) := by
  have hcomma : (Span.code ", ").isQuiet = true := isQuiet_ofList (by decide)
  fun_induction fieldSpans fields <;> simp_all

lemma quiet_statementSpans (s : Statement) : Quiet (statementSpans s) := by
  have hcall : ∀ verb output, Quiet (callSpans verb output) := by
    intro verb output
    simp only [callSpans, quiet_cons, quiet_nil, isQuiet_given, isQuiet_used, and_true, true_and]
    and_intros <;> exact isQuiet_ofList (by decide)
  cases s <;> simp only [statementSpans, quiet_cons, quiet_nil, quiet_append, quiet_pathSpans,
    quiet_fieldSpans, hcall, isQuiet_declared, isQuiet_used, and_true, true_and]
  all_goals and_intros <;> exact isQuiet_ofList (by decide)

lemma quiet_methodSpans (features : Features) (m : Method) : Quiet (methodSpans features m) := by
  have hparameters : Quiet (parameterSpans m) := by
    unfold parameterSpans
    split <;> simp only [quiet_cons, quiet_nil, quiet_append, isQuiet_given, isQuiet_declared,
      and_true, true_and]
    all_goals and_intros <;> exact isQuiet_ofList (by decide)
  simp only [methodSpans, bodySpans, quiet_cons, quiet_nil, quiet_append, quiet_flatMap,
    hparameters, quiet_statementSpans, isQuiet_given, isQuiet_member, implies_true, and_true,
    true_and]
  and_intros <;> exact isQuiet_ofList (by decide)

/-! ## What a method declares -/

lemma declaredBy_parameterSpans (m : Method) :
    declaredBy (parameterSpans m) =
      if takesNoRequest m then ["options"] else ["request", "options"] := by
  unfold parameterSpans
  split <;> simp [Span.declares]

lemma declaredBy_pathSpans (source : PathSource) : declaredBy (pathSpans source) = [] := by
  have hpiece : ∀ piece, declaredBy (pieceSpans piece) = [] := by
    intro piece
    cases piece <;> rfl
  cases source <;> simp [pathSpans, hpiece, Span.declares]

/-- The variables that a statement declares. -/
def Statement.declared : Statement → List String
  | .path _ => ["path"]
  | .unpack fields rest => fields ++ [rest]
  | .query _ => ["searchParams"]
  | .send _ _ _ | .sendQuery _ _ => []

lemma declaredBy_statementSpans (s : Statement) : declaredBy (statementSpans s) = s.declared := by
  cases s <;>
    simp [statementSpans, callSpans, declaredBy_pathSpans, Statement.declared, Span.declares]

lemma declaredBy_methodSpans (features : Features) (m : Method) :
    declaredBy (methodSpans features m) =
      declaredBy (parameterSpans m) ++ (bodyOf m).flatMap Statement.declared := by
  simp [methodSpans, bodySpans, declaredBy_statementSpans, Span.declares]

/-- The variables that a method with a request has for itself. -/
def ownNames (m : Method) : List String :=
  ["request", "options", "path"] ++ (if m.verb == .get then ["query", "searchParams"] else ["body"])

lemma nodup_variables_iff (m : Method) :
    (declaredBy (parameterSpans m) ++ (bodyOf m).flatMap Statement.declared).Nodup ↔
      takesNoRequest m = true ∨ ∀ x ∈ unpackedFields m.path, x ∉ ownNames m := by
  have hfields : (unpackedFields m.path).Nodup := nodup_eraseDups _
  have hsends := sendsBy_sendStatements m
  rw [declaredBy_parameterSpans, bodyOf]
  generalize sendStatements m = body at hsends ⊢
  cases hsends with
  | nothing h => simp [h, Statement.declared]
  | wholeQuery h hverb hnone => simp [h, hnone, Statement.declared]
  | wholeBody h hverb hnone => simp [h, hnone, Statement.declared]
  | restQuery h hverb hsome =>
    have hown : (["request", "options", "path"] ++ (unpackedFields m.path ++
        ["query", "searchParams"])).Nodup ↔ _ := nodup_between_iff hfields (by decide)
    simpa [h, hverb, ownNames, Statement.declared] using hown
  | restBody h hverb hsome =>
    have hown : (["request", "options", "path"] ++ (unpackedFields m.path ++ ["body"])).Nodup ↔ _ :=
      nodup_between_iff hfields (by decide)
    simpa [h, hverb, ownNames, Statement.declared] using hown

/-- **Distinct variables.**  A client method declares no variable twice just if it has no request,
or no field that its path takes out of the request has the name of a variable that the method has
for itself. -/
theorem declared_nodup_iff (features : Features) (m : Method) :
    textOf (methodSpans features m) = (clientMethodOf features m).text ∧
    Quiet (methodSpans features m) ∧
    ((declaredBy (methodSpans features m)).Nodup ↔
      takesNoRequest m = true ∨ ∀ x ∈ unpackedFields m.path, x ∉ ownNames m) := by
  refine ⟨textOf_methodSpans features m, quiet_methodSpans features m, ?_⟩
  rw [declaredBy_methodSpans]
  exact nodup_variables_iff m

/-- A field `path` is declared next to the path that it is a part of. -/
example : ¬(declaredBy (methodSpans {}
    { name := "GetFile", inputType := "GetFileRequest", outputType := "File", verb := .get
      path := "/v1/\x7bpath\x7d" })).Nodup := by
  decide

/-! ## What a body reads -/

/-- The path of a method reads the request if it has placeholders. -/
lemma mem_usedBy_pathSpans {path n : String} :
    n ∈ usedBy (pathSpans (pathSource path)) ↔ n = "request" ∧ Http.pathParams path ≠ [] := by
  have hpiece : ∀ piece : Http.Piece,
      n ∈ usedBy (pieceSpans piece) ↔ n = "request" ∧ ∃ inner, piece = .placeholder inner := by
    intro piece
    cases piece <;> simp [pieceSpans, Span.uses]
  unfold pathSource
  split
  · next h => simp [pathSpans, Span.uses, List.isEmpty_iff.1 h]
  · next h =>
    have hne : Http.pathParams path ≠ [] := by simpa using h
    obtain ⟨inner, hinner⟩ := (Http.exists_placeholder_templateChars path.toList).2
      ((Http.pathParams_ne_nil_iff path).1 hne)
    simp only [pathSpans, List.cons_append, usedBy_cons, usedBy_append, usedBy_flatMap, usedBy_nil,
      Span.uses, List.nil_append, List.append_nil, List.mem_flatMap, hpiece, hne, ne_eq,
      not_false_eq_true, and_true]
    exact ⟨fun ⟨_, _, h, _⟩ => h, fun h => ⟨_, hinner, h, inner, rfl⟩⟩

/-- Every statement reads what is in scope only; what it declares is in scope after it. -/
def Scoped : List String → List Statement → Prop
  | _, [] => True
  | scope, s :: rest =>
    (∀ n ∈ usedBy (statementSpans s), n ∈ scope) ∧
      Scoped (scope ++ declaredBy (statementSpans s)) rest

/-- What is in scope where the body of a method starts. -/
def bodyScope (m : Method) : List String := "undefined" :: declaredBy (parameterSpans m)

/-- The method needs no request object and its path has placeholders, which are read from one. -/
def ReadsAbsentRequest (m : Method) : Prop :=
  takesNoRequest m = true ∧ Http.pathParams m.path ≠ []

lemma request_declared_iff (m : Method) :
    "request" ∈ declaredBy (parameterSpans m) ↔ takesNoRequest m = false := by
  rw [declaredBy_parameterSpans]
  cases takesNoRequest m <;> simp

/-- After the path, a body reads the request if there is one, and what is declared only. -/
lemma scoped_sendStatements (m : Method) :
    ("request" ∈ usedBy ((sendStatements m).flatMap statementSpans) ↔ takesNoRequest m = false) ∧
      Scoped (bodyScope m ++ ["path"]) (sendStatements m) := by
  have hsends := sendsBy_sendStatements m
  rw [bodyScope, declaredBy_parameterSpans]
  generalize sendStatements m = body at hsends ⊢
  cases hsends with
  | nothing h => simp [h, Scoped, statementSpans, callSpans, Span.uses]
  | wholeQuery h hverb hnone =>
    simp [h, Scoped, statementSpans, callSpans, Span.uses, Span.declares]
  | wholeBody h hverb hnone => simp [h, Scoped, statementSpans, callSpans, Span.uses]
  | restQuery h hverb hsome =>
    simp [h, Scoped, statementSpans, callSpans, Span.uses, Span.declares]
  | restBody h hverb hsome =>
    simp [h, Scoped, statementSpans, callSpans, Span.uses, Span.declares]

/-- **Scopes of bodies.**  The body of a client method reads the request only if the request is a
parameter, and altogether reads only parameters and variables that earlier statements declare,
unless the method takes no request and its path has placeholders; then the path reads a request
that is not declared. -/
theorem body_scoped_iff (features : Features) (m : Method) :
    textOf (methodSpans features m) = (clientMethodOf features m).text ∧
    Quiet (methodSpans features m) ∧
    (("request" ∈ usedBy (bodySpans m) → "request" ∈ declaredBy (parameterSpans m)) ↔
      ¬ReadsAbsentRequest m) ∧
    (Scoped (bodyScope m) (bodyOf m) ↔ ¬ReadsAbsentRequest m) := by
  obtain ⟨hrequest, hscoped⟩ := scoped_sendStatements m
  have hpath : usedBy (statementSpans (.path (pathSource m.path))) =
      usedBy (pathSpans (pathSource m.path)) := by
    simp [statementSpans, Span.uses]
  have hmem : "request" ∈ usedBy (bodySpans m) ↔
      Http.pathParams m.path ≠ [] ∨ takesNoRequest m = false := by
    rw [bodySpans, bodyOf, List.flatMap_cons, usedBy_append, List.mem_append, hpath,
      mem_usedBy_pathSpans, hrequest]
    simp
  have hscope : Scoped (bodyScope m) (bodyOf m) ↔
      (Http.pathParams m.path ≠ [] → "request" ∈ bodyScope m) := by
    rw [bodyOf, Scoped, declaredBy_statementSpans, hpath]
    simp only [mem_usedBy_pathSpans]
    exact ⟨fun h hne => h.1 _ ⟨rfl, hne⟩, fun h => ⟨fun n hn => hn.1 ▸ h hn.2, hscoped⟩⟩
  refine ⟨textOf_methodSpans features m, quiet_methodSpans features m, ?_, ?_⟩
  · rw [hmem, request_declared_iff, ReadsAbsentRequest]
    cases takesNoRequest m <;> simp
  · rw [hscope, bodyScope, List.mem_cons, request_declared_iff, ReadsAbsentRequest]
    cases takesNoRequest m <;> simp

/-- The path of a method without a request still reads its fields from one. -/
example : "request" ∈ usedBy (bodySpans
    { name := "GetClock", inputType := "Empty", outputType := "Clock", verb := .get
      path := "/v1/clocks/\x7bid\x7d" }) := by
  decide

end TypedFetch.TypeScript
