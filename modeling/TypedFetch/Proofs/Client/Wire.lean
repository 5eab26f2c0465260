import TypedFetch.Proofs.Client.MethodBody
import TypedFetch.Proofs.TypeScript.FirstOfEachName

/-!
# What a client method sends

For every request object the body of a client method makes one request, with the verb of the method,
the path in which the placeholders are filled with properties of the request object, and the request
object without the properties that the path has taken.  There is no request if a property cannot be
read, because it is one of a missing object, or has no text.  A body that takes a property with the
name of a reserved word out of the request is no body of a function at all.

The main statement is `run_bodyText`.
-/

namespace TypedFetch.TypeScript

open TypedFetch.Schema (Method)
open Script

variable {α : Type}

/-! ## The request that a method stands for -/

/-- The properties of the request object that the path takes. -/
def takenProperties (m : Method) : List Name := (unpackedFields m.path).map String.toList

/-- The properties of the request object that the path leaves. -/
def payload (m : Method) (request : List (Name × Datum α)) : List (Name × Datum α) :=
  request.filter fun p => !(takenProperties m).contains p.1

/-- The path with the placeholders filled. -/
def filledPath (host : Host α) (request : Datum α) : List Http.Piece → Except Fault (List Char)
  | [] => .ok []
  | .literal c :: ps => (filledPath host request ps).map (c :: ·)
  | .placeholder inner :: ps => do
    let v ← host.read request (Text.cutAt '.' (Http.accessChars (Http.fieldPath inner)))
    let cs ← host.display v
    let rest ← filledPath host request ps
    return cs ++ rest

/-- A property of the request object. -/
def property (host : Host α) (request : List (Name × Datum α)) (x : Name) : Datum α :=
  (request.lookup x).getD (host.inherited (.object request) x)

/-- The body of a `GET` request.  It is written as a name, which a property can take. -/
def queryBody (host : Host α) (m : Method) (request : List (Name × Datum α)) : Datum α :=
  if "undefined".toList ∈ takenProperties m then property host request "undefined".toList
  else .undefined

/-- The arguments of the request: the verb, the path, the body and the options.  The payload of a
`GET` request goes into its options, where it gives way to query parameters of the caller. -/
def wireArguments (host : Host α) (m : Method) (request : List (Name × Datum α))
    (options : Datum α) (path : List Char) : List (Datum α) :=
  if m.verb == .get then
    [.text m.verb.text.toList, .text path, queryBody host m request,
     .object ((host.own options).foldl assign
       [("searchParams".toList, host.searchParams (.object (payload m request)))])]
  else [.text m.verb.text.toList, .text path, .object (payload m request), options]

/-- The method has a request object, its path names fields, and its response type is a type name. -/
structure WellFormed (m : Method) : Prop where
  /-- A template literal would read a carriage return as a line feed. -/
  carriage : '\r' ∉ m.path.toList
  fields : ∀ field ∈ Http.fieldPaths m.path.toList, Http.isFieldPath field = true
  locals : ∀ x ∈ unpackedFields m.path, x ∉ localNames
  request : takesNoRequest m = false
  output : isTypeName m.outputType.toList = true

/-! ## Names -/

lemma isName_unpackedFields {path : String}
    (h : ∀ field ∈ Http.fieldPaths path.toList, Http.isFieldPath field = true) :
    ∀ x ∈ unpackedFields path, isName x.toList = true := by
  intro x hx
  rw [unpackedFields, List.mem_eraseDups] at hx
  obtain ⟨param, hparam, rfl⟩ := List.mem_map.1 hx
  obtain ⟨hmem, hdot⟩ := List.mem_filter.1 hparam
  obtain ⟨field, hfield, rfl⟩ := List.mem_map.1 hmem
  have hcut : Text.cutAt '.' field = [field] := by
    refine Text.cutAt_of_not_mem ?_
    simpa using hdot
  have hplain : Naming.isPlainName (Naming.camelChars field) = true := by
    have hall := isPlainName_of_isFieldPath (h field hfield)
    rw [hcut] at hall
    exact hall _ (by simp)
  have haccess : Http.accessChars field = Naming.camelChars field := by
    rw [Http.accessChars, hcut]
    simp [List.intercalate]
  rw [Http.paramExpression, String.toList_ofList, String.toList_ofList, haccess]
  exact isName_of_isPlainName hplain

lemma nodup_takenProperties (m : Method) : (takenProperties m).Nodup := by
  refine List.Nodup.map ?_ (nodup_eraseDups _)
  exact fun a b hab => String.toList_inj.1 hab

/-! ## Reading the body -/

/-- What a statement is read as. -/
def reading : Statement → Option Stmt
  | .unpack fields rest =>
    if AllBindable fields then some (meaning (.unpack fields rest)) else none
  | s => some (meaning s)

/-- Every statement of a body is read. -/
lemma reads_bodyOf {m : Method} (h : WellFormed m) :
    ∀ s ∈ bodyOf m, Reads (statementText s) (reading s) := by
  intro s hs
  have hunpack : ∀ rest ∈ localNames, unpackedFields m.path ≠ [] →
      Reads (statementText (.unpack (unpackedFields m.path) rest))
        (reading (.unpack (unpackedFields m.path) rest)) := by
    intro rest hrest hne
    exact reads_unpack hne (isName_unpackedFields h.fields)
      (isName_localNames rest hrest) (isBindable_localNames hrest)
  have hquery : ∀ source ∈ localNames,
      Reads (statementText (.query source)) (reading (.query source)) := fun source hsource =>
    reads_query (isName_localNames source hsource) (isBindable_localNames hsource)
  have hsend : ∀ body ∈ localNames, Reads (statementText (.send m.verb m.outputType body))
      (reading (.send m.verb m.outputType body)) := fun body hbody =>
    reads_send h.output (isName_localNames body hbody) (isBindable_localNames hbody) m.verb
  rcases List.mem_cons.1 hs with rfl | hs
  · unfold pathSource
    split
    · exact reads_fixed m.path
    · exact reads_filled h.carriage h.fields
  · have hsends := sendsBy_sendStatements m
    generalize sendStatements m = statements at hs hsends
    cases hsends with
    | nothing hempty => exact absurd hempty (by simp [h.request])
    | wholeQuery _ _ _ =>
      obtain rfl | rfl : s = .query "request" ∨ s = .sendQuery m.verb m.outputType := by
        simpa using hs
      · exact hquery "request" (by decide)
      · exact reads_sendQuery h.output m.verb
    | restQuery _ _ hne =>
      obtain rfl | rfl | rfl : s = .unpack (unpackedFields m.path) "query" ∨
          s = .query "query" ∨ s = .sendQuery m.verb m.outputType := by
        simpa using hs
      · exact hunpack "query" (by decide) hne
      · exact hquery "query" (by decide)
      · exact reads_sendQuery h.output m.verb
    | wholeBody _ _ _ =>
      obtain rfl := List.mem_singleton.1 hs
      exact hsend "request" (by decide)
    | restBody _ _ hne =>
      obtain rfl | rfl : s = .unpack (unpackedFields m.path) "body" ∨
          s = .send m.verb m.outputType "body" := by
        simpa using hs
      · exact hunpack "body" (by decide) hne
      · exact hsend "body" (by decide)

lemma mapM_reading {m : Method} (h : WellFormed m) :
    (bodyOf m).mapM reading =
      if AllBindable (unpackedFields m.path) then some ((bodyOf m).map meaning) else none := by
  have hpath : reading (.path (pathSource m.path)) = some (meaning (.path (pathSource m.path))) :=
    rfl
  rw [bodyOf, List.mapM_cons, hpath, List.map_cons]
  have hsends := sendsBy_sendStatements m
  generalize sendStatements m = statements at hsends
  cases hsends with
  | nothing hempty => exact absurd hempty (by simp [h.request])
  | wholeQuery _ _ hfields =>
    rw [if_pos (by simp [AllBindable, hfields])]
    rfl
  | restQuery _ _ _ =>
    rw [List.mapM_cons, reading]
    split <;> rfl
  | wholeBody _ _ hfields =>
    rw [if_pos (by simp [AllBindable, hfields])]
    rfl
  | restBody _ _ _ =>
    rw [List.mapM_cons, reading]
    split <;> rfl

/-- A body is read as it was written, or cannot be read if it declares a reserved word. -/
lemma parse_bodyText (features : Features) {m : Method} (h : WellFormed m) :
    parse (clientMethodOf features m).bodyText.toList =
      if AllBindable (unpackedFields m.path) then some ((bodyOf m).map meaning) else none := by
  rw [toList_bodyText, ← mapM_reading h]
  exact parse_flatMap (reads_bodyOf h)

/-! ## Running the body -/

section Exec

variable (host : Host α) (env : Env α)

/-- The template literal of a path has the text of the path with the placeholders filled. -/
lemma templateValue_partOf {request : Datum α} (h : env.value requestName = .ok request)
    (ps : List Http.Piece) :
    templateValue host env (ps.map partOf) = filledPath host request ps := by
  induction ps with
  | nil => rfl
  | cons p ps ih =>
    rw [List.map_cons, templateValue, ih]
    cases p with
    | literal c =>
      rw [partOf, partText, filledPath]
      cases filledPath host request ps <;> rfl
    | placeholder inner =>
      simp only [partOf, partText, filledPath, h, bind_assoc]
      rfl

lemma filledPath_of_no_placeholder (request : Datum α) {ps : List Http.Piece}
    (h : ∀ inner, .placeholder inner ∉ ps) :
    filledPath host request ps = .ok (ps.flatMap Http.Piece.chars) := by
  induction ps with
  | nil => rfl
  | cons p ps ih =>
    have ih := ih fun inner hinner => h inner (by simp [hinner])
    cases p with
    | literal c =>
      rw [filledPath, ih]
      rfl
    | placeholder inner => exact absurd (h inner) (by simp)

lemma exec_const {x : Name} {e : Expr} {v : Datum α} (h : exprValue host env e = .ok (v, []))
    (stmts : List Stmt) :
    exec host env (.const x e :: stmts) = exec host ((x, v) :: env) stmts := by
  rw [exec, h]
  show (exec host ((x, v) :: env) stmts).bind (fun calls => .ok ([] ++ calls)) = _
  cases exec host ((x, v) :: env) stmts <;> rfl

/-- The path is set to the text of the path with the placeholders filled. -/
lemma exec_path {request : Datum α} (h : env.value requestName = .ok request) (path : String)
    (stmts : List Stmt) :
    exec host env (meaning (.path (pathSource path)) :: stmts) =
      (filledPath host request (Http.pieces path.toList)).bind fun cs =>
        exec host (("path".toList, .text cs) :: env) stmts := by
  have hexec : ∀ o, exec host env (.const "path".toList (.operand o) :: stmts) =
      (operandValue host env o).bind fun v => exec host (("path".toList, v) :: env) stmts := by
    intro o
    cases hvalue : operandValue host env o with
    | error e =>
      rw [exec, exprValue, hvalue]
      rfl
    | ok v =>
      have hexpr : exprValue host env (.operand o) = .ok (v, []) := by
        rw [exprValue, hvalue]
        rfl
      exact exec_const host env hexpr stmts
  unfold pathSource
  split
  · next hparams =>
    -- a path without placeholders is a single-quoted literal
    have hempty : ∀ inner, .placeholder inner ∉ Http.pieces path.toList := by
      intro inner hinner
      have hmem := Http.mem_fieldPaths hinner
      have hnil : Http.fieldPaths path.toList = [] := by simpa [Http.pathParams] using hparams
      rw [hnil] at hmem
      exact absurd hmem (by simp)
    rw [filledPath_of_no_placeholder host request hempty, Http.flatMap_chars_pieces]
    exact hexec _
  · have hvalue : operandValue host env (.template ((Http.pieces path.toList).map partOf)) =
        (filledPath host request (Http.pieces path.toList)).map .text := by
      rw [operandValue, templateValue_partOf host env h]
    show exec host env (.const "path".toList (.operand
      (.template ((Http.pieces path.toList).map partOf))) :: stmts) = _
    rw [hexec, hvalue]
    cases filledPath host request (Http.pieces path.toList) <;> rfl

/-- Every property can be taken out of an object. -/
lemma exec_unpack {request : List (Name × Datum α)}
    (h : env.value requestName = .ok (.object request)) (fields : List String) (rest : String)
    (stmts : List Stmt) :
    exec host env (meaning (.unpack fields rest) :: stmts) =
      exec host ((rest.toList, .object (request.filter fun p =>
          !(fields.map String.toList).contains p.1)) ::
        ((fields.map String.toList).zip ((fields.map String.toList).map (property host request)) ++
          env)) stmts := by
  have hvalues : (fields.map String.toList).mapM (host.get (.object request)) =
      .ok ((fields.map String.toList).map (property host request)) := by
    induction fields.map String.toList with
    | nil => rfl
    | cons x names ih =>
      rw [List.mapM_cons, ih]
      rfl
  show exec host env (.unpack (fields.map String.toList) rest.toList (.name requestName) :: stmts)
    = _
  simp only [exec, operandValue, h]
  show (do
    let values ← (fields.map String.toList).mapM (host.get (.object request))
    exec host _ stmts) = _
  rw [hvalues]
  rfl

lemma exec_query {source : String} {v : Datum α} (h : env.value source.toList = .ok v)
    (stmts : List Stmt) :
    exec host env (meaning (.query source) :: stmts) =
      exec host (("searchParams".toList, host.searchParams v) :: env) stmts := by
  have hcall : exprValue host env (.call "objectToSearchParams".toList [.name source.toList]) =
      .ok (host.searchParams v, []) := by
    simp only [exprValue, argumentValues, operandValue, h]
    rfl
  exact exec_const host env hcall stmts

lemma exec_send (verb : Http.Verb) (output : String) {body : String} {path v options : Datum α}
    (hpath : env.value "path".toList = .ok path) (hbody : env.value body.toList = .ok v)
    (hoptions : env.value "options".toList = .ok options) :
    exec host env [meaning (.send verb output body)] =
      .ok [[.text verb.text.toList, path, v, options]] := by
  show exec host env [.result (.call "request".toList
    [.text verb.text.toList, .name "path".toList, .name body.toList, .name "options".toList])] = _
  simp only [exec, exprValue, argumentValues, operandValue, hpath, hbody, hoptions]
  rfl

lemma exec_sendQuery (verb : Http.Verb) (output : String) {path body query options : Datum α}
    (hpath : env.value "path".toList = .ok path)
    (hbody : env.value "undefined".toList = .ok body)
    (hquery : env.value "searchParams".toList = .ok query)
    (hoptions : env.value "options".toList = .ok options) :
    exec host env [meaning (.sendQuery verb output)] =
      .ok [[.text verb.text.toList, path, body,
        .object ((host.own options).foldl assign [("searchParams".toList, query)])]] := by
  show exec host env [.result (.call "request".toList
    [.text verb.text.toList, .name "path".toList, .name "undefined".toList,
     .object [.shorthand "searchParams".toList, .spread "options".toList]])] = _
  simp only [exec, exprValue, argumentValues, operandValue, objectValue, hpath, hbody, hquery,
    hoptions]
  rfl

/-- An object goes as query parameters. -/
lemma exec_query_sendQuery (verb : Http.Verb) (output : String) {source : String}
    {path body v options : Datum α} (hsource : env.value source.toList = .ok v)
    (hpath : env.value "path".toList = .ok path)
    (hbody : env.value "undefined".toList = .ok body)
    (hoptions : env.value "options".toList = .ok options) :
    exec host env [meaning (.query source), meaning (.sendQuery verb output)] =
      .ok [[.text verb.text.toList, path, body,
        .object ((host.own options).foldl assign
          [("searchParams".toList, host.searchParams v)])]] := by
  have hvalue : ∀ x ∈ ["path", "undefined", "options"],
      Env.value (("searchParams".toList, host.searchParams v) :: env) x.toList =
        env.value x.toList := by
    intro x hx
    have hne : ∀ x ∈ ["path", "undefined", "options"], x.toList ≠ "searchParams".toList := by
      decide
    exact Env.value_cons_of_ne _ _ (hne x hx)
  rw [exec_query host env hsource]
  refine exec_sendQuery host _ verb output ?_ ?_ (Env.value_cons_self _ _ _) ?_
  · rw [hvalue "path" (by simp), hpath]
  · rw [hvalue "undefined" (by simp), hbody]
  · rw [hvalue "options" (by simp), hoptions]

end Exec

lemma not_mem_takenProperties {m : Method} (h : WellFormed m) {x : String} (hx : x ∈ localNames) :
    x.toList ∉ takenProperties m := by
  intro hmem
  obtain ⟨y, hy, hyx⟩ := List.mem_map.1 hmem
  obtain rfl := String.toList_inj.1 hyx
  exact h.locals y hy hx

/-- The names that are declared around the properties that the path takes are declared once. -/
lemma nodup_around {m : Method} (h : WellFormed m) {before after : List String}
    (hlocal : ∀ x ∈ before ++ after, x ∈ localNames) (hnodup : (before ++ after).Nodup) :
    (before.map String.toList ++ (takenProperties m ++ after.map String.toList)).Nodup := by
  -- names are compared by their characters
  have hnames : ((before ++ after).map String.toList).Nodup :=
    hnodup.map fun a b hab => String.toList_inj.1 hab
  rw [List.map_append] at hnames
  rw [nodup_between_iff (nodup_takenProperties m) hnames, ← List.map_append]
  intro a ha hother
  obtain ⟨x, hx, rfl⟩ := List.mem_map.1 hother
  exact not_mem_takenProperties h (hlocal x hx) ha

/-- No name is declared twice in the body of a method. -/
lemma nodup_declared {m : Method} (h : WellFormed m) :
    ([requestName, "options".toList] ++ ((bodyOf m).map meaning).flatMap Stmt.declared).Nodup := by
  have hpath : (meaning (.path (pathSource m.path))).declared = ["path".toList] := by
    cases pathSource m.path <;> rfl
  rw [bodyOf, List.map_cons, List.flatMap_cons, hpath]
  have hsends := sendsBy_sendStatements m
  generalize sendStatements m = statements at hsends
  cases hsends with
  | nothing hempty => exact absurd hempty (by simp [h.request])
  | wholeQuery _ _ _ =>
    show [requestName, "options".toList, "path".toList, "searchParams".toList].Nodup
    decide
  | restQuery _ _ _ =>
    have hnodup := nodup_around h
      (by decide : ∀ x ∈ ["request", "options", "path"] ++ ["query", "searchParams"],
        x ∈ localNames) (by decide)
    show ([requestName, "options".toList] ++ (["path".toList] ++
      ((takenProperties m ++ ["query".toList]) ++ ["searchParams".toList]))).Nodup
    rw [List.append_assoc (takenProperties m)]
    exact hnodup
  | wholeBody _ _ _ =>
    show [requestName, "options".toList, "path".toList].Nodup
    decide
  | restBody _ _ _ =>
    have hnodup := nodup_around h
      (by decide : ∀ x ∈ ["request", "options", "path"] ++ ["body"], x ∈ localNames) (by decide)
    show ([requestName, "options".toList] ++ (["path".toList] ++
      ((takenProperties m ++ ["body".toList]) ++ []))).Nodup
    rw [List.append_assoc (takenProperties m)]
    exact hnodup

/-- The parameters of a client method. -/
def parameterEnv (request : List (Name × Datum α)) (options : Datum α) : Env α :=
  [(requestName, .object request), ("options".toList, options)]

/-- The variables of a client method once its path is set. -/
def methodEnv (request : List (Name × Datum α)) (options : Datum α) (path : List Char) : Env α :=
  ("path".toList, .text path) :: parameterEnv request options

section MethodEnv

variable (request : List (Name × Datum α)) (options : Datum α) (path : List Char)

lemma value_path : (methodEnv request options path).value "path".toList = .ok (.text path) :=
  Env.value_cons_self _ _ _

lemma value_request :
    (methodEnv request options path).value "request".toList = .ok (.object request) := by
  rw [methodEnv, Env.value_cons_of_ne _ _ (by decide)]
  exact Env.value_cons_self _ _ _

lemma value_options : (methodEnv request options path).value "options".toList = .ok options := by
  rw [methodEnv, Env.value_cons_of_ne _ _ (by decide), parameterEnv,
    Env.value_cons_of_ne _ _ (by decide)]
  exact Env.value_cons_self _ _ _

lemma value_undefined :
    (methodEnv request options path).value "undefined".toList = .ok .undefined := by
  rw [methodEnv, Env.value_cons_of_ne _ _ (by decide), parameterEnv,
    Env.value_cons_of_ne _ _ (by decide), Env.value_cons_of_ne _ _ (by decide)]
  rfl

end MethodEnv

/-- The variables after the properties that the path takes are taken out of the request. -/
def unpackedEnv (host : Host α) (m : Method) (request : List (Name × Datum α)) (rest : String)
    (env : Env α) : Env α :=
  (rest.toList, .object (payload m request)) ::
    ((takenProperties m).zip ((takenProperties m).map (property host request)) ++ env)

lemma value_unpackedEnv (host : Host α) (m : Method) (request : List (Name × Datum α))
    {rest x : String} (hrest : x.toList ≠ rest.toList) (env : Env α) :
    (unpackedEnv host m request rest env).value x.toList =
      if x.toList ∈ takenProperties m then .ok (property host request x.toList)
      else env.value x.toList := by
  rw [unpackedEnv, Env.value_cons_of_ne _ _ hrest, Env.value_zip_map]

/-- The names of the body mean the same after the properties are taken out. -/
lemma value_unpackedEnv_local (host : Host α) {m : Method} (h : WellFormed m)
    (request : List (Name × Datum α)) {rest x : String} (hx : x ∈ localNames)
    (hrest : x.toList ≠ rest.toList) (env : Env α) :
    (unpackedEnv host m request rest env).value x.toList = env.value x.toList := by
  rw [value_unpackedEnv host m request hrest, if_neg (not_mem_takenProperties h hx)]

section Send

variable (host : Host α) {m : Method} (request : List (Name × Datum α)) (options : Datum α)
  (path : List Char)

lemma wireArguments_get (hverb : m.verb = .get) :
    wireArguments host m request options path =
      [.text m.verb.text.toList, .text path, queryBody host m request,
       .object ((host.own options).foldl assign
         [("searchParams".toList, host.searchParams (.object (payload m request)))])] := by
  simp [wireArguments, hverb]

lemma wireArguments_of_ne_get (hverb : m.verb ≠ .get) :
    wireArguments host m request options path =
      [.text m.verb.text.toList, .text path, .object (payload m request), options] := by
  simp [wireArguments, hverb]

/-- The rest of the request object goes as query parameters. -/
lemma exec_restQuery (h : WellFormed m) (hverb : m.verb = .get) :
    exec host (methodEnv request options path)
        [meaning (.unpack (unpackedFields m.path) "query"), meaning (.query "query"),
          meaning (.sendQuery m.verb m.outputType)] =
      .ok [wireArguments host m request options path] := by
  rw [wireArguments_get host request options path hverb]
  refine (exec_unpack host _ (value_request request options path) _ _ _).trans ?_
  refine exec_query_sendQuery host (unpackedEnv host m request "query" _) m.verb m.outputType
    (Env.value_cons_self _ _ _) ?_ ?_ ?_
  · rw [value_unpackedEnv_local host h request (by decide) (by decide), value_path]
  · -- the name of the body is the only one that a property of the request can take
    rw [value_unpackedEnv host m request (by decide), value_undefined, queryBody]
    split <;> rfl
  · rw [value_unpackedEnv_local host h request (by decide) (by decide), value_options]

/-- The rest of the request object goes as the body. -/
lemma exec_restBody (h : WellFormed m) (hverb : m.verb ≠ .get) :
    exec host (methodEnv request options path)
        [meaning (.unpack (unpackedFields m.path) "body"),
          meaning (.send m.verb m.outputType "body")] =
      .ok [wireArguments host m request options path] := by
  rw [wireArguments_of_ne_get host request options path hverb]
  refine (exec_unpack host _ (value_request request options path) _ _ _).trans ?_
  refine exec_send host (unpackedEnv host m request "body" _) m.verb m.outputType ?_
    (Env.value_cons_self _ _ _) ?_
  · rw [value_unpackedEnv_local host h request (by decide) (by decide), value_path]
  · rw [value_unpackedEnv_local host h request (by decide) (by decide), value_options]

/-- The statements of a method after its path send one request. -/
lemma exec_sendStatements (h : WellFormed m) :
    exec host (methodEnv request options path) ((sendStatements m).map meaning) =
      .ok [wireArguments host m request options path] := by
  have hpath := value_path request options path
  have hrequest := value_request request options path
  have hoptions := value_options request options path
  have hundefined := value_undefined request options path
  -- without placeholders at the top level the path takes nothing
  have hpayload : unpackedFields m.path = [] → payload m request = request := by
    intro hfields
    simp [payload, takenProperties, hfields]
  have hsends := sendsBy_sendStatements m
  generalize sendStatements m = statements at hsends
  cases hsends with
  | nothing hempty => exact absurd hempty (by simp [h.request])
  | wholeQuery _ hverb hfields =>
    have hbody : queryBody host m request = .undefined := by
      simp [queryBody, takenProperties, hfields]
    rw [wireArguments_get host request options path hverb, hbody, hpayload hfields]
    exact exec_query_sendQuery host _ m.verb m.outputType hrequest hpath hundefined hoptions
  | restQuery _ hverb _ => exact exec_restQuery host request options path h hverb
  | wholeBody _ hverb hfields =>
    rw [wireArguments_of_ne_get host request options path hverb, hpayload hfields]
    exact exec_send host _ m.verb m.outputType hpath hrequest hoptions
  | restBody _ hverb _ => exact exec_restBody host request options path h hverb

end Send

/-- A body that declares a reserved word cannot be run. -/
lemma run_bodyText_of_reserved (host : Host α) (features : Features) {m : Method}
    (h : WellFormed m) (hreserved : ¬ AllBindable (unpackedFields m.path)) (env : Env α) :
    run host env (clientMethodOf features m).bodyText.toList = .error .malformed := by
  rw [run, parse_bodyText features h, if_neg hreserved]

/-- **Requests of bodies.**  The body of a client method makes the one request of the method, or
none if a property that its path asks for cannot be read or has no text.  It is a body only if the
path takes no property that has the name of a reserved word. -/
theorem run_bodyText (host : Host α) (features : Features) {m : Method} (h : WellFormed m)
    (request : List (Name × Datum α)) (options : Datum α) :
    run host (parameterEnv request options) (clientMethodOf features m).bodyText.toList =
      if AllBindable (unpackedFields m.path) then
        (filledPath host (.object request) (Http.pieces m.path.toList)).map fun path =>
          [wireArguments host m request options path]
      else .error .malformed := by
  by_cases hbindable : AllBindable (unpackedFields m.path)
  · have hrequest : (parameterEnv request options).value requestName = .ok (.object request) :=
      Env.value_cons_self _ _ _
    rw [if_pos hbindable, run, parse_bodyText features h, if_pos hbindable]
    show (if _ then _ else _) = _
    rw [if_pos (by exact nodup_declared h), bodyOf, List.map_cons, exec_path host _ hrequest]
    cases filledPath host (.object request) (Http.pieces m.path.toList) with
    | error e => rfl
    | ok path => exact exec_sendStatements host request options path h
  · rw [if_neg hbindable]
    exact run_bodyText_of_reserved host features h hbindable _

/-- The word `class` cannot name a variable, and so a body cannot take it out of the request. -/
example : ¬ AllBindable (unpackedFields "/v1/\x7bclass\x7d") := by decide

/-- Surroundings in which all values are texts and plain objects without inherited properties. -/
def plainHost : Host Empty where
  inherited _ _ := .undefined
  properties _ := []
  toText
    | .object _ => some "[object Object]".toList
    | _ => none
  searchParams v := v
  reply _ := .undefined

/-- A method whose path has a dollar sign and a grave accent before placeholders. -/
def updateBook : Method where
  name := "UpdateBook"
  inputType := "Book"
  outputType := "Book"
  verb := .patch
  path := "/$\x7bbook_id=shelves/*\x7d/\x60\x7bauthor.name\x7d\x7b"

/-- A request object for the method. -/
def bookRequest : List (Name × Datum Empty) :=
  [("bookId".toList, .text "7".toList), ("title".toList, .text "Tales".toList),
   ("author".toList, .object [("name".toList, .text "Doe".toList)])]

/-- A request object fills two placeholders and keeps the property that the path takes only a part
of. -/
theorem run_bodyText_updateBook :
    WellFormed updateBook ∧
    run plainHost (parameterEnv bookRequest .undefined)
        (clientMethodOf {} updateBook).bodyText.toList =
      .ok [[.text "PATCH".toList, .text "/$7/\x60Doe\x7b".toList,
        .object [("title".toList, .text "Tales".toList),
          ("author".toList, .object [("name".toList, .text "Doe".toList)])], .undefined]] := by
  have h : WellFormed updateBook := ⟨by decide, by decide, by decide, by decide, by decide⟩
  refine ⟨h, ?_⟩
  rw [run_bodyText plainHost {} h, if_pos (by decide)]
  rfl

end TypedFetch.TypeScript
