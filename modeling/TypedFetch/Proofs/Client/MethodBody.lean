import TypedFetch.Proofs.Script.Literal
import TypedFetch.Proofs.Script.Program
import TypedFetch.TypeScript.Client

/-!
# Reading the body of a client method

The body of a client method is a text.  Each of its statements is scanned and parsed here, with the
literal of its path, the names that it takes out of the request and the types that it mentions; the
statement that is read is the one that was written.  A body can be read unless a name that it takes
out of the request cannot name a variable.
-/

namespace TypedFetch.TypeScript

open TypedFetch.Schema (Method)
open Script

/-- The text of a statement, in the lines of a method body. -/
def statementText (s : Statement) : List Char :=
  (String.join (s.lines.map fun line => "    " ++ line ++ "\n")).toList

lemma toList_bodyText (m : ClientMethod) : m.bodyText.toList = m.body.flatMap statementText := by
  rw [ClientMethod.bodyText]
  induction m.body with
  | nil => rfl
  | cons s body ih => simp [statementText, ← ih]

/-- The ways in which a method sends its request: without a request object, or with all or the rest
of one as the query or as the body. -/
inductive SendsBy (m : Method) : List Statement → Prop
  | nothing (h : takesNoRequest m = true) : SendsBy m [.send m.verb m.outputType "undefined"]
  | wholeQuery (h : takesNoRequest m = false) (hverb : m.verb = .get)
      (hfields : unpackedFields m.path = []) :
      SendsBy m [.query "request", .sendQuery m.verb m.outputType]
  | restQuery (h : takesNoRequest m = false) (hverb : m.verb = .get)
      (hfields : unpackedFields m.path ≠ []) :
      SendsBy m [.unpack (unpackedFields m.path) "query", .query "query",
        .sendQuery m.verb m.outputType]
  | wholeBody (h : takesNoRequest m = false) (hverb : m.verb ≠ .get)
      (hfields : unpackedFields m.path = []) : SendsBy m [.send m.verb m.outputType "request"]
  | restBody (h : takesNoRequest m = false) (hverb : m.verb ≠ .get)
      (hfields : unpackedFields m.path ≠ []) :
      SendsBy m [.unpack (unpackedFields m.path) "body", .send m.verb m.outputType "body"]

lemma sendsBy_sendStatements (m : Method) : SendsBy m (sendStatements m) := by
  simp only [sendStatements, List.isEmpty_iff, beq_iff_eq]
  split
  · next h => exact .nothing h
  · next h =>
    have h : takesNoRequest m = false := by simpa using h
    split
    · next hverb =>
      split
      · next hfields => exact .wholeQuery h hverb hfields
      · next hfields => exact .restQuery h hverb hfields
    · next hverb =>
      split
      · next hfields => exact .wholeBody h hverb hfields
      · next hfields => exact .restBody h hverb hfields

/-! ## Reading statements -/

/-- The names that the body of a client method has for itself. -/
def localNames : List String := ["path", "query", "body", "request", "options", "searchParams"]

lemma isName_localNames : ∀ x ∈ localNames, isName x.toList = true := by decide +kernel

-- one evaluation for all names: nearly all of its cost are the reserved words
lemma isBindable_bodyNames : ∀ x ∈ "undefined" :: localNames, isBindable x.toList = true := by
  decide +kernel

lemma isBindable_localNames {x : String} (h : x ∈ localNames) : isBindable x.toList = true :=
  isBindable_bodyNames x (List.mem_cons_of_mem _ h)

/-- A text has the tokens of one statement, which is read as the statement if there is one. -/
def Reads (text : List Char) (stmt : Option Stmt) : Prop :=
  ∃ ts, scan .between text = some (.between, ts ++ [Token.mark .semicolon]) ∧
    .mark .semicolon ∉ ts ∧ parseStmt ts = stmt

lemma segmentsFrom_append {ts : List Token} (h : .mark .semicolon ∉ ts) (before rest : List Token) :
    segmentsFrom before (ts ++ .mark .semicolon :: rest) =
      (segmentsFrom [] rest).map ((before ++ ts) :: ·) := by
  induction ts generalizing before with
  | nil => simp [segmentsFrom]
  | cons t ts ih =>
    obtain ⟨ht, hts⟩ : Token.mark .semicolon ≠ t ∧ .mark .semicolon ∉ ts := by simpa using h
    rw [List.cons_append, segmentsFrom, if_neg (Ne.symm ht), ih hts]
    simp

/-- Statements are read one by one. -/
lemma parse_flatMap {body : List Statement} {reading : Statement → Option Stmt}
    (h : ∀ s ∈ body, Reads (statementText s) (reading s)) :
    parse (body.flatMap statementText) = body.mapM reading := by
  have hall : ∃ ts segments, scan .between (body.flatMap statementText) = some (.between, ts) ∧
      segmentsFrom [] ts = some segments ∧ segments.mapM parseStmt = body.mapM reading := by
    induction body with
    | nil => exact ⟨[], [], rfl, rfl, rfl⟩
    | cons s body ih =>
      obtain ⟨ts, hscan, hsemicolon, hparse⟩ := h s (by simp)
      obtain ⟨ts', segments, hscan', hsegments, hmap⟩ := ih fun s hs => h s (by simp [hs])
      refine ⟨ts ++ [Token.mark .semicolon] ++ ts', ts :: segments, scan_append_eq hscan hscan',
        ?_, ?_⟩
      · rw [List.append_assoc, List.singleton_append, segmentsFrom_append hsemicolon, hsegments]
        rfl
      · rw [List.mapM_cons, List.mapM_cons, hparse, hmap]
  obtain ⟨ts, segments, hscan, hsegments, hmap⟩ := hall
  simp only [parse, tokens, hscan, Option.bind_some, hsegments, hmap]

/-- The statement that the text of a statement is read as. -/
def meaning : Statement → Stmt
  | .path (.fixed path) => .const "path".toList (.operand (.text path.toList))
  | .path (.filled path) =>
    .const "path".toList (.operand (.template ((Http.pieces path.toList).map partOf)))
  | .unpack fields rest => .unpack (fields.map String.toList) rest.toList (.name requestName)
  | .query source =>
    .const "searchParams".toList (.call "objectToSearchParams".toList [.name source.toList])
  | .send verb _ body =>
    .result (.call "request".toList
      [.text verb.text.toList, .name "path".toList, .name body.toList, .name "options".toList])
  | .sendQuery verb _ =>
    .result (.call "request".toList
      [.text verb.text.toList, .name "path".toList, .name "undefined".toList,
       .object [.shorthand "searchParams".toList, .spread "options".toList]])

/-- The path constant is read with the literal of its path. -/
lemma reads_path {source : PathSource} {t : Token} {o : Operand}
    (hscan : scan .between source.expression.toList = some (.between, [t]))
    (hsemicolon : .mark .semicolon ≠ t) (ho : simple? t = some o) :
    Reads (statementText (.path source)) (some (.const "path".toList (.operand o))) := by
  have htext : statementText (.path source) =
      "    const path = ".toList ++ source.expression.toList ++ ";\n".toList := by
    simp [statementText, Statement.lines]
  have hhead : scan .between "    const path = ".toList =
      some (.between, [.word "const".toList, .word "path".toList, .mark .equals]) := rfl
  have htail : scan .between ";\n".toList = some (.between, [.mark .semicolon]) := rfl
  refine ⟨[.word "const".toList, .word "path".toList, .mark .equals, t], ?_, ?_, ?_⟩
  · rw [htext]
    exact scan_append_eq (scan_append_eq hhead hscan) htail
  · simpa using hsemicolon
  · have hbindable := isBindable_localNames (by decide : "path" ∈ localNames)
    simp only [parseStmt, parseExpr, ho, hbindable]
    rfl

lemma reads_fixed (path : String) :
    Reads (statementText (.path (.fixed path))) (some (meaning (.path (.fixed path)))) := by
  refine reads_path (t := .text path.toList) ?_ (by simp) rfl
  rw [PathSource.expression, stringLiteral, String.toList_ofList]
  exact scan_literalChars path.toList

lemma reads_filled {path : String} (hcarriage : '\r' ∉ path.toList)
    (hfields : ∀ field ∈ Http.fieldPaths path.toList, Http.isFieldPath field = true) :
    Reads (statementText (.path (.filled path))) (some (meaning (.path (.filled path)))) := by
  refine reads_path (t := .template ((Http.pieces path.toList).map partOf)) ?_ (by simp) rfl
  have hexpression : (PathSource.filled path).expression.toList =
      '\x60' :: Http.templateOf (Http.pieces path.toList) ++ ['\x60'] := by
    rw [PathSource.expression, Http.pathTemplate_eq hfields]
    simp
  rw [hexpression]
  exact scan_templateOf (fun h => hcarriage (Http.mem_of_literal_mem_pieces h))
    fun inner h => hfields _ (Http.mem_fieldPaths h)

lemma intercalate_comma {fields : List (List Char)} (h : fields ≠ []) :
    List.intercalate [',', ' '] fields ++ [',', ' '] = fields.flatMap (· ++ [',', ' ']) := by
  induction fields with
  | nil => exact absurd rfl h
  | cons x fields ih =>
    cases fields with
    | nil => simp [List.intercalate]
    | cons y fields =>
      have ih := ih (by simp)
      simp only [List.intercalate, List.intersperse_cons_cons, List.flatten_cons, List.flatMap_cons,
        List.append_assoc] at ih ⊢
      rw [ih]

/-- The tokens of the fields of a pattern. -/
def fieldTokens (fields : List Name) : List Token :=
  fields.flatMap fun x => [.word x, .mark .comma]

lemma scan_fields {fields : List Name} (h : ∀ x ∈ fields, isName x = true) :
    scan .between (fields.flatMap (· ++ [',', ' '])) = some (.between, fieldTokens fields) := by
  induction fields with
  | nil => rfl
  | cons x fields ih =>
    have hcomma : scan (.word x) [',', ' '] = some (.between, [.word x, .mark .comma]) := rfl
    have hfield := scan_append_eq (scan_name (h x (by simp))) hcomma
    exact scan_append_eq hfield (ih fun y hy => h y (by simp [hy]))

/-- A pattern is read if all its names can name variables, and otherwise not. -/
lemma parsePattern_fields {rest : Name} (hrest : isBindable rest = true) (fields : List Name)
    (ts : List Token) :
    parsePattern (fieldTokens fields ++ .spread :: .word rest :: .mark .braceClose :: ts) =
      if ∀ x ∈ fields, isBindable x = true then some (fields, rest, ts) else none := by
  induction fields with
  | nil => simp [fieldTokens, parsePattern, hrest]
  | cons x fields ih =>
    have hcons : fieldTokens (x :: fields) = .word x :: .mark .comma :: fieldTokens fields := rfl
    rw [hcons, List.cons_append, List.cons_append, parsePattern, ih]
    by_cases hx : isBindable x = true <;> simp [hx]

/-- The name of every field can name a variable. -/
abbrev AllBindable (fields : List String) : Prop := ∀ x ∈ fields, isBindable x.toList = true

/-- The tokens of the statement that takes fields out of the request. -/
def unpackTokens (fields : List Name) (rest : Name) : List Token :=
  ([.word "const".toList, .mark .braceOpen] : List Token) ++ fieldTokens fields ++
    ([.spread, .word rest, .mark .braceClose, .mark .equals, .word requestName] : List Token)

lemma scan_unpack {fields : List String} {rest : String} (hne : fields ≠ [])
    (hfields : ∀ x ∈ fields, isName x.toList = true) (hrest : isName rest.toList = true) :
    scan .between (statementText (.unpack fields rest)) =
      some (.between, unpackTokens (fields.map String.toList) rest.toList ++
        [Token.mark .semicolon]) := by
  have hjoin := intercalate_comma (by simpa using hne : fields.map String.toList ≠ [])
  have htext : statementText (.unpack fields rest) =
      "    const \x7b ".toList ++ (fields.map String.toList).flatMap (· ++ [',', ' ']) ++
        "...".toList ++ rest.toList ++ " \x7d = request;\n".toList := by
    rw [← hjoin]
    simp [statementText, Statement.lines]
  have hhead : scan .between "    const \x7b ".toList =
      some (.between, [.word "const".toList, .mark .braceOpen]) := rfl
  have hnames : ∀ x ∈ fields.map String.toList, isName x = true := by
    intro x hx
    obtain ⟨y, hy, rfl⟩ := List.mem_map.1 hx
    exact hfields y hy
  have hdots : scan .between "...".toList = some (.between, [.spread]) := rfl
  have htail : scan (.word rest.toList) " \x7d = request;\n".toList =
      some (.between, [.word rest.toList, .mark .braceClose, .mark .equals, .word requestName,
        .mark .semicolon]) := rfl
  have hscan := scan_append_eq (scan_append_eq (scan_append_eq (scan_append_eq hhead
    (scan_fields hnames)) hdots) (scan_name hrest)) htail
  rw [htext, hscan]
  simp [unpackTokens]

lemma semicolon_not_mem_unpackTokens (fields : List Name) (rest : Name) :
    .mark .semicolon ∉ unpackTokens fields rest := by
  simp [unpackTokens, fieldTokens]

lemma parseStmt_unpack {rest : Name} (hrest : isBindable rest = true) (fields : List Name) :
    parseStmt (unpackTokens fields rest) =
      if ∀ x ∈ fields, isBindable x = true then some (.unpack fields rest (.name requestName))
      else none := by
  have hbindable : isBindable requestName = true :=
    isBindable_localNames (by decide : "request" ∈ localNames)
  have hrequest : simple? (.word requestName) = some (.name requestName) := by
    rw [simple?, if_pos hbindable]
  have hpattern := parsePattern_fields hrest fields [.mark .equals, .word requestName]
  by_cases hfields : ∀ x ∈ fields, isBindable x = true
  · rw [if_pos hfields] at hpattern ⊢
    simp [unpackTokens, parseStmt, hpattern, hrequest]
  · rw [if_neg hfields] at hpattern ⊢
    simp [unpackTokens, parseStmt, hpattern]

/-- Fields are taken out of the request if their names can name variables. -/
lemma reads_unpack {fields : List String} {rest : String} (hne : fields ≠ [])
    (hfields : ∀ x ∈ fields, isName x.toList = true) (hrest : isName rest.toList = true)
    (hbindable : isBindable rest.toList = true) :
    Reads (statementText (.unpack fields rest))
      (if AllBindable fields then some (meaning (.unpack fields rest)) else none) := by
  refine ⟨unpackTokens (fields.map String.toList) rest.toList, scan_unpack hne hfields hrest,
    semicolon_not_mem_unpackTokens _ _, ?_⟩
  rw [parseStmt_unpack hbindable]
  by_cases h : AllBindable fields
  · rw [if_pos h, if_pos (by simpa using h)]
    rfl
  · rw [if_neg h, if_neg (by simpa using h)]

lemma scan_thisClient :
    scan .between "this.client".toList =
      some (.word "client".toList, [.word "this".toList, .mark .dot]) := rfl

lemma reads_query {source : String} (hname : isName source.toList = true)
    (hbindable : isBindable source.toList = true) :
    Reads (statementText (.query source)) (some (meaning (.query source))) := by
  have htext : statementText (.query source) =
      "    const searchParams = ".toList ++ "this.client".toList ++
        ".objectToSearchParams(".toList ++ source.toList ++ ");\n".toList := by
    simp [statementText, Statement.lines]
  have hhead : scan .between "    const searchParams = ".toList =
      some (.between, [.word "const".toList, .word "searchParams".toList, .mark .equals]) := rfl
  have hmethod : scan (.word "client".toList) ".objectToSearchParams(".toList =
      some (.between, [.word "client".toList, .mark .dot, .word "objectToSearchParams".toList,
        .mark .parenOpen]) := rfl
  have htail : scan (.word source.toList) ");\n".toList =
      some (.between, [.word source.toList, .mark .parenClose, .mark .semicolon]) := rfl
  refine ⟨[.word "const".toList, .word "searchParams".toList, .mark .equals, .word "this".toList,
    .mark .dot, .word "client".toList, .mark .dot, .word "objectToSearchParams".toList,
    .mark .parenOpen, .word source.toList, .mark .parenClose], ?_, by simp, ?_⟩
  · have hscan := scan_append_eq (scan_append_eq (scan_append_eq (scan_append_eq hhead
      scan_thisClient) hmethod) (scan_name hname)) htail
    rw [htext, hscan]
    rfl
  · have hparams := isBindable_localNames (by decide : "searchParams" ∈ localNames)
    show parseStmt _ = some (.const "searchParams".toList
      (.call "objectToSearchParams".toList [.name source.toList]))
    simp [-String.reduceToList, parseStmt, parseExpr, parseCall, parseArguments, simple?, hparams,
      hbindable]

/-- A type name: names with dots between them. -/
def isTypeName (cs : List Char) : Bool := (Text.cutAt '.' cs).all isName

/-- The tokens of a name and of the names that follow it after dots. -/
def qualifiedTokens (x : Name) : List Name → List Token
  | [] => [.word x]
  | y :: ys => .word x :: .mark .dot :: qualifiedTokens y ys

lemma dot_cons_eq_flatMap (cs : List Char) :
    '.' :: cs = (Text.cutAt '.' cs).flatMap ('.' :: ·) := by
  induction cs with
  | nil => rfl
  | cons c cs ih =>
    rw [Text.cutAt]
    by_cases hc : c = '.'
    · simp [hc, ← ih]
    · rcases hcut : Text.cutAt '.' cs with _ | ⟨first, others⟩
      · exact absurd hcut (Text.cutAt_ne_nil '.' cs)
      · rw [hcut] at ih
        have htail : cs = first ++ others.flatMap ('.' :: ·) := by simpa using ih
        simp [hc, htail]

lemma scan_qualified {ys : List Name} (h : ∀ y ∈ ys, isName y = true) (x : Name) :
    scan (.word x) (ys.flatMap ('.' :: ·) ++ ['>']) =
      some (.between, qualifiedTokens x ys ++ ([.mark .angleClose] : List Token)) := by
  induction ys generalizing x with
  | nil => rfl
  | cons y ys ih =>
    have hdot : scan (.word x) ['.'] = some (.dot, [.word x]) := rfl
    have hname : scan .dot y = some (.word y, [.mark .dot]) := by
      have hy := h y (by simp)
      cases y with
      | nil => exact absurd hy (by simp [isName])
      | cons c y =>
        obtain ⟨hc, hcs⟩ : isNameStart c = true ∧ y.all isNameChar = true := by
          simpa [isName] using hy
        have hne : c ≠ '.' ∧ c ≠ ' ' ∧ c ≠ '\n' := by
          refine ⟨?_, ?_, ?_⟩ <;> rintro rfl <;> exact absurd hc (by decide)
        have hstep : step .dot c = some (.word [c], [.mark .dot]) := by
          simp [step, freshAfter, fresh, hne, hc]
        rw [scan_cons hstep, scan_word _ hcs]
        rfl
    have hrest := ih (fun z hz => h z (by simp [hz])) y
    have hscan := scan_append_eq (scan_append_eq hdot hname) hrest
    simpa [qualifiedTokens] using hscan

lemma skipType_qualified (x : Name) (ys : List Name) (ts : List Token) :
    skipType (qualifiedTokens x ys ++ .mark .angleClose :: ts) = some ts := by
  induction ys generalizing x with
  | nil => rfl
  | cons y ys ih =>
    rw [qualifiedTokens, List.cons_append, List.cons_append, skipType]
    exact ih y

lemma semicolon_not_mem_qualifiedTokens (x : Name) (ys : List Name) :
    .mark .semicolon ∉ qualifiedTokens x ys := by
  induction ys generalizing x with
  | nil => simp [qualifiedTokens]
  | cons y ys ih => simp [qualifiedTokens, ih y]

/-- The tokens of a request, up to its path. -/
def requestTokens (verb : Http.Verb) (output : String) : List Token :=
  ([.word "return".toList, .word "this".toList, .mark .dot, .word "client".toList, .mark .dot,
    .word "request".toList, .mark .angleOpen] : List Token) ++
    qualifiedTokens "Types".toList (Text.cutAt '.' output.toList) ++
    ([.mark .angleClose, .mark .parenOpen, .text verb.text.toList, .mark .comma] : List Token)

lemma scan_request {output : String} (h : isTypeName output.toList = true) (verb : Http.Verb) :
    scan .between ("    ".toList ++ (callHead verb output).toList) =
      some (.word "path".toList, requestTokens verb output) := by
  -- the type argument stands between fixed texts, which are scanned by evaluation
  have htext : "    ".toList ++ (callHead verb output).toList =
      "    return ".toList ++ "this.client".toList ++ ".request<Types".toList ++
        ((Text.cutAt '.' output.toList).flatMap ('.' :: ·) ++ ['>']) ++
        ("('".toList ++ verb.text.toList ++ "', path".toList) := by
    unfold callHead
    rw [← dot_cons_eq_flatMap]
    simp
  have hhead : scan .between "    return ".toList = some (.between, [.word "return".toList]) := rfl
  have hmethod : scan (.word "client".toList) ".request<Types".toList =
      some (.word "Types".toList, [.word "client".toList, .mark .dot, .word "request".toList,
        .mark .angleOpen]) := rfl
  have hverb : scan .between ("('".toList ++ verb.text.toList ++ "', path".toList) =
      some (.word "path".toList, [.mark .parenOpen, .text verb.text.toList, .mark .comma]) := by
    cases verb <;> rfl
  have hscan := scan_append_eq (scan_append_eq (scan_append_eq (scan_append_eq hhead
    scan_thisClient) hmethod) (scan_qualified (List.all_eq_true.1 h) _)) hverb
  rw [htext, hscan]
  simp [-String.reduceToList, requestTokens]

/-- A request is read with the arguments that follow its path. -/
lemma parseStmt_request (verb : Http.Verb) (output : String) {ts : List Token}
    {os : List Operand} (h : parseArguments ts = some os) :
    parseStmt (requestTokens verb output ++ .word "path".toList :: .mark .comma :: ts) =
      some (.result (.call "request".toList
        (.text verb.text.toList :: .name "path".toList :: os))) := by
  have hpath := isBindable_localNames (by decide : "path" ∈ localNames)
  have hskip := skipType_qualified "Types".toList (Text.cutAt '.' output.toList)
    (.mark .parenOpen :: .text verb.text.toList :: .mark .comma :: .word "path".toList ::
      .mark .comma :: ts)
  simp [-String.reduceToList, requestTokens, parseStmt, parseExpr, parseCall, hskip, parseArguments,
    simple?, hpath, h]

/-- The arguments of a request after its path, with the parenthesis and the semicolon, are read
from their text. -/
lemma reads_request {output : String} (houtput : isTypeName output.toList = true)
    (verb : Http.Verb) {text : List Char} {ts : List Token} {os : List Operand}
    (hscan : scan (.word "path".toList) text =
      some (.between, Token.word "path".toList :: .mark .comma :: ts ++ [Token.mark .semicolon]))
    (hsemicolon : .mark .semicolon ∉ ts) (hparse : parseArguments ts = some os) :
    Reads ("    ".toList ++ (callHead verb output).toList ++ text)
      (some (.result (.call "request".toList
        (.text verb.text.toList :: .name "path".toList :: os)))) := by
  refine ⟨requestTokens verb output ++ .word "path".toList :: .mark .comma :: ts, ?_, ?_,
    parseStmt_request verb output hparse⟩
  · rw [scan_append_eq (scan_request houtput verb) hscan]
    simp [-String.reduceToList]
  · simp [-String.reduceToList, requestTokens, semicolon_not_mem_qualifiedTokens, hsemicolon]

lemma reads_send {output body : String} (houtput : isTypeName output.toList = true)
    (hname : isName body.toList = true) (hbindable : isBindable body.toList = true)
    (verb : Http.Verb) :
    Reads (statementText (.send verb output body))
      (some (meaning (.send verb output body))) := by
  have htext : statementText (.send verb output body) =
      "    ".toList ++ (callHead verb output).toList ++
        (", ".toList ++ body.toList ++ ", options);\n".toList) := by
    simp [statementText, Statement.lines]
  have hcomma : scan (.word "path".toList) ", ".toList =
      some (.between, [.word "path".toList, .mark .comma]) := rfl
  have htail : scan (.word body.toList) ", options);\n".toList =
      some (.between, [.word body.toList, .mark .comma, .word "options".toList,
        .mark .parenClose, .mark .semicolon]) := rfl
  have hscan : scan (.word "path".toList) (", ".toList ++ body.toList ++ ", options);\n".toList) =
      some (.between, Token.word "path".toList :: .mark .comma :: [.word body.toList, .mark .comma,
        .word "options".toList, .mark .parenClose] ++ [Token.mark .semicolon]) := by
    rw [scan_append_eq (scan_append_eq hcomma (scan_name hname)) htail]
    rfl
  rw [htext]
  refine reads_request houtput verb hscan (by simp) ?_
  have hoptions := isBindable_localNames (by decide : "options" ∈ localNames)
  simp [-String.reduceToList, parseArguments, simple?, hoptions, hbindable]

lemma reads_sendQuery {output : String} (houtput : isTypeName output.toList = true)
    (verb : Http.Verb) :
    Reads (statementText (.sendQuery verb output)) (some (meaning (.sendQuery verb output))) := by
  have htext : statementText (.sendQuery verb output) =
      "    ".toList ++ (callHead verb output).toList ++
        (", undefined, \x7b\n".toList ++ "      searchParams,\n".toList ++
          "      ...options\n".toList ++ "    \x7d);\n".toList) := by
    simp [statementText, Statement.lines]
  have hundefined : scan (.word "path".toList) ", undefined, \x7b\n".toList =
      some (.between, [.word "path".toList, .mark .comma, .word "undefined".toList, .mark .comma,
        .mark .braceOpen]) := rfl
  have hparams : scan .between "      searchParams,\n".toList =
      some (.between, [.word "searchParams".toList, .mark .comma]) := rfl
  have hoptions : scan .between "      ...options\n".toList =
      some (.between, [.spread, .word "options".toList]) := rfl
  have htail : scan .between "    \x7d);\n".toList =
      some (.between, [.mark .braceClose, .mark .parenClose, .mark .semicolon]) := rfl
  have hscan : scan (.word "path".toList) (", undefined, \x7b\n".toList ++
      "      searchParams,\n".toList ++ "      ...options\n".toList ++ "    \x7d);\n".toList) =
      some (.between, Token.word "path".toList :: .mark .comma :: [.word "undefined".toList,
        .mark .comma, .mark .braceOpen, .word "searchParams".toList, .mark .comma, .spread,
        .word "options".toList, .mark .braceClose, .mark .parenClose] ++
          [Token.mark .semicolon]) := by
    rw [scan_append_eq (scan_append_eq (scan_append_eq hundefined hparams) hoptions) htail]
    rfl
  rw [htext]
  refine reads_request houtput verb hscan (by simp) ?_
  have hundefined := isBindable_bodyNames "undefined" (by decide)
  have hparams := isBindable_localNames (by decide : "searchParams" ∈ localNames)
  have hoptions := isBindable_localNames (by decide : "options" ∈ localNames)
  simp [-String.reduceToList, parseArguments, parseEntries, simple?, hundefined, hparams, hoptions]

end TypedFetch.TypeScript
