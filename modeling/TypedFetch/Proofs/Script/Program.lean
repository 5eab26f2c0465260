import TypedFetch.Proofs.Script.Scanner

/-!
# Meaning of script

Function bodies and what they do: constants, one of them by taking an object apart, calls of the
client that the object of the function holds, and a result.  A body is read from its text, and it is
run with values for the parameters; what is observed are the requests that it makes.

Values that are no texts and no plain objects, and how they are converted, are left to a host.
-/

namespace TypedFetch.Script

/-! ## Syntax -/

/-- An entry of an object literal. -/
inductive Entry where
  /-- A property that is named like the variable that gives its value. -/
  | shorthand (x : Name)
  /-- All properties of the value of a variable. -/
  | spread (x : Name)
deriving DecidableEq

/-- An expression without calls. -/
inductive Operand where
  | name (x : Name)
  | text (cs : List Char)
  | template (parts : List Part)
  | object (entries : List Entry)
deriving DecidableEq

/-- An expression. -/
inductive Expr where
  | operand (o : Operand)
  /-- A call of a method of the client. -/
  | call (method : Name) (args : List Operand)
deriving DecidableEq

/-- A statement. -/
inductive Stmt where
  | const (x : Name) (value : Expr)
  /-- Constants for properties of a value and for an object of its other properties. -/
  | unpack (fields : List Name) (rest : Name) (source : Operand)
  | result (value : Expr)
deriving DecidableEq

/-- The constants that a statement declares. -/
def Stmt.declared : Stmt → List Name
  | .const x _ => [x]
  | .unpack fields rest _ => fields ++ [rest]
  | .result _ => []

/-- The words that cannot name a variable in an asynchronous method of a class. -/
def reservedWords : List Name :=
  ["await", "break", "case", "catch", "class", "const", "continue", "debugger", "default", "delete",
   "do", "else", "enum", "export", "extends", "false", "finally", "for", "function", "if", "import",
   "in", "instanceof", "new", "null", "return", "super", "switch", "this", "throw", "true", "try",
   "typeof", "var", "void", "while", "with", "implements", "interface", "let", "package", "private",
   "protected", "public", "static", "yield", "arguments", "eval"].map String.toList

/-- The name can name a variable. -/
def isBindable (x : Name) : Bool := !reservedWords.contains x

/-! ## Parsing -/

/-- The operand of one token. -/
def simple? : Token → Option Operand
  | .text cs => some (.text cs)
  | .template parts => some (.template parts)
  | .word x => if isBindable x then some (.name x) else none
  | _ => none

/-- The entries of an object literal up to its closing brace, and what follows it. -/
def parseEntries : List Token → Option (List Entry × List Token)
  | .word x :: .mark .braceClose :: ts => if isBindable x then some ([.shorthand x], ts) else none
  | .word x :: .mark .comma :: ts =>
    if isBindable x then (parseEntries ts).map fun r => (.shorthand x :: r.1, r.2) else none
  | .spread :: .word x :: .mark .braceClose :: ts =>
    if isBindable x then some ([.spread x], ts) else none
  | .spread :: .word x :: .mark .comma :: ts =>
    if isBindable x then (parseEntries ts).map fun r => (.spread x :: r.1, r.2) else none
  | _ => none

/-- The arguments of a call up to the parenthesis that ends it.  An object literal stands last. -/
def parseArguments : List Token → Option (List Operand)
  | .mark .braceOpen :: ts =>
    match parseEntries ts with
    | some (entries, [.mark .parenClose]) => some [.object entries]
    | _ => none
  | [t, .mark .parenClose] => (simple? t).map fun o => [o]
  | t :: .mark .comma :: ts => (simple? t).bind fun o => (parseArguments ts).map (o :: ·)
  | _ => none

/-- What follows a type argument, which has no meaning at run time. -/
def skipType : List Token → Option (List Token)
  | .word _ :: .mark .angleClose :: ts => some ts
  | .word _ :: .mark .dot :: ts => skipType ts
  | _ => none

/-- A call after the name of its method. -/
def parseCall (method : Name) : List Token → Option Expr
  | .mark .parenOpen :: ts => (parseArguments ts).map (.call method)
  | .mark .angleOpen :: ts =>
    match skipType ts with
    | some (.mark .parenOpen :: ts) => (parseArguments ts).map (.call method)
    | _ => none
  | _ => none

/-- An expression. -/
def parseExpr : List Token → Option Expr
  | [t] => (simple? t).map .operand
  | .word object :: .mark .dot :: .word property :: .mark .dot :: .word method :: ts =>
    if object = "this".toList ∧ property = "client".toList then parseCall method ts else none
  | _ => none

/-- The names of a pattern up to its closing brace: those of properties, that of the object of the
other properties, and what follows. -/
def parsePattern : List Token → Option (List Name × Name × List Token)
  | .spread :: .word rest :: .mark .braceClose :: ts =>
    if isBindable rest then some ([], rest, ts) else none
  | .word x :: .mark .comma :: ts =>
    if isBindable x then (parsePattern ts).map fun r => (x :: r.1, r.2) else none
  | _ => none

/-- A statement without its semicolon. -/
def parseStmt : List Token → Option Stmt
  | .word keyword :: .mark .braceOpen :: ts =>
    if keyword = "const".toList then
      match parsePattern ts with
      | some (fields, rest, [.mark .equals, t]) => (simple? t).map (.unpack fields rest)
      | _ => none
    else none
  | .word keyword :: .word x :: .mark .equals :: ts =>
    if keyword = "const".toList ∧ isBindable x = true then (parseExpr ts).map (.const x) else none
  | .word keyword :: ts =>
    if keyword = "return".toList then (parseExpr ts).map .result else none
  | _ => none

/-- The tokens of the statements, of which each ends with a semicolon, after the tokens `read`. -/
def segmentsFrom (read : List Token) : List Token → Option (List (List Token))
  | [] => if read.isEmpty then some [] else none
  | t :: ts =>
    if t = .mark .semicolon then (segmentsFrom [] ts).map (read :: ·)
    else segmentsFrom (read ++ [t]) ts

/-- The statements of a text. -/
def parse (text : List Char) : Option (List Stmt) :=
  ((tokens text).bind (segmentsFrom [])).bind fun segments => segments.mapM parseStmt

/-! ## Values -/

/-- A value. -/
inductive Datum (α : Type) where
  | undefined
  | null
  | text (cs : List Char)
  /-- A plain object, by its own properties. -/
  | object (properties : List (Name × Datum α))
  /-- Any other value. -/
  | other (a : α)

/-- Why there is no result. -/
inductive Fault where
  /-- The text is no body of a function. -/
  | malformed
  | type
  | reference
deriving DecidableEq

/-- What the surroundings of a body decide. -/
structure Host (α : Type) where
  /-- A property of a value that is not its own. -/
  inherited : Datum α → Name → Datum α
  /-- The own properties of a value that is no plain object. -/
  properties : Datum α → List (Name × Datum α)
  /-- The text of a value, if there is one. -/
  toText : Datum α → Option (List Char)
  /-- Query parameters from an object. -/
  searchParams : Datum α → Datum α
  /-- What the client answers to a request with these arguments. -/
  reply : List (Datum α) → Datum α

variable {α : Type}

namespace Host

variable (host : Host α)

/-- The own properties of a value. -/
def own : Datum α → List (Name × Datum α)
  | .undefined => []
  | .null => []
  | .object properties => properties
  | v => host.properties v

/-- A value that can have properties. -/
def coerced : Datum α → Except Fault (Datum α)
  | .undefined => .error .type
  | .null => .error .type
  | v => .ok v

/-- Reads a property of a value. -/
def get (v : Datum α) (x : Name) : Except Fault (Datum α) :=
  (coerced v).map fun v => ((host.own v).lookup x).getD (host.inherited v x)

/-- Reads properties one after the other. -/
def read (v : Datum α) (path : List Name) : Except Fault (Datum α) :=
  path.foldlM host.get v

/-- The text of a value in a template literal. -/
def display : Datum α → Except Fault (List Char)
  | .undefined => .ok "undefined".toList
  | .null => .ok "null".toList
  | .text cs => .ok cs
  | v => match host.toText v with
    | some cs => .ok cs
    | none => .error .type

/-- The properties of a value but for some. -/
def without (v : Datum α) (names : List Name) : List (Name × Datum α) :=
  (host.own v).filter fun p => !names.contains p.1

end Host

/-- Sets a property of an object. -/
def assign (properties : List (Name × Datum α)) (p : Name × Datum α) : List (Name × Datum α) :=
  if properties.any (·.1 == p.1) then properties.map fun q => if q.1 == p.1 then p else q
  else properties ++ [p]

/-! ## Running -/

/-- The variables and their values. -/
abbrev Env (α : Type) := List (Name × Datum α)

/-- The value of a variable. -/
def Env.value (env : Env α) (x : Name) : Except Fault (Datum α) :=
  match env.lookup x with
  | some v => .ok v
  | none => if x = "undefined".toList then .ok .undefined else .error .reference

@[simp]
lemma Env.value_cons_self (env : Env α) (x : Name) (v : Datum α) :
    Env.value ((x, v) :: env) x = .ok v := by
  simp [Env.value]

lemma Env.value_cons_of_ne (env : Env α) {x y : Name} (v : Datum α) (h : x ≠ y) :
    Env.value ((y, v) :: env) x = env.value x := by
  have hlookup : List.lookup x ((y, v) :: env) = env.lookup x := by
    rw [List.lookup_cons, beq_false_of_ne h]
  rw [Env.value, Env.value, hlookup]

/-- Names that are bound together hide the variables of the same names and no others. -/
lemma Env.value_zip_map (env : Env α) (names : List Name) (f : Name → Datum α) (x : Name) :
    Env.value (names.zip (names.map f) ++ env) x =
      if x ∈ names then .ok (f x) else env.value x := by
  induction names with
  | nil => rfl
  | cons y names ih =>
    rw [List.map_cons, List.zip_cons_cons, List.cons_append]
    by_cases hx : x = y
    · simp [hx]
    · simp [Env.value_cons_of_ne _ _ hx, ih, hx]

section Run

variable (host : Host α)

/-- The text of a part of a template literal. -/
def partText (env : Env α) : Part → Except Fault (List Char)
  | .char c => .ok [c]
  | .access [] => .error .reference
  | .access (x :: path) => do
    let root ← env.value x
    let v ← host.read root path
    host.display v

/-- The text of a template literal. -/
def templateValue (env : Env α) : List Part → Except Fault (List Char)
  | [] => .ok []
  | p :: ps => do
    let cs ← partText host env p
    let rest ← templateValue env ps
    return cs ++ rest

/-- The object of an object literal, after the properties of its first entries. -/
def objectValue (env : Env α) (properties : List (Name × Datum α)) :
    List Entry → Except Fault (List (Name × Datum α))
  | [] => .ok properties
  | .shorthand x :: entries => do
    let v ← env.value x
    objectValue env (assign properties (x, v)) entries
  | .spread x :: entries => do
    let v ← env.value x
    objectValue env ((host.own v).foldl assign properties) entries

/-- The value of an operand. -/
def operandValue (env : Env α) : Operand → Except Fault (Datum α)
  | .name x => env.value x
  | .text cs => .ok (.text cs)
  | .template parts => (templateValue host env parts).map .text
  | .object entries => (objectValue host env [] entries).map .object

/-- The values of the arguments of a call. -/
def argumentValues (env : Env α) : List Operand → Except Fault (List (Datum α))
  | [] => .ok []
  | o :: os => do
    let v ← operandValue host env o
    let vs ← argumentValues env os
    return v :: vs

/-- The value of an expression, and the arguments of the requests that are made for it. -/
def exprValue (env : Env α) : Expr → Except Fault (Datum α × List (List (Datum α)))
  | .operand o => (operandValue host env o).map fun v => (v, [])
  | .call method args => do
    let vs ← argumentValues host env args
    if method = "request".toList then .ok (host.reply vs, [vs])
    else if method = "objectToSearchParams".toList then
      .ok (host.searchParams (vs.head?.getD .undefined), [])
    else .error .type

/-- The arguments of the requests that statements make, up to the one that gives the result. -/
def exec (env : Env α) : List Stmt → Except Fault (List (List (Datum α)))
  | [] => .ok []
  | .const x e :: stmts => do
    let r ← exprValue host env e
    let calls ← exec ((x, r.1) :: env) stmts
    return r.2 ++ calls
  | .unpack fields rest source :: stmts => do
    let source ← operandValue host env source
    let v ← Host.coerced source
    let values ← fields.mapM (host.get v)
    exec ((rest, .object (host.without v fields)) :: fields.zip values ++ env) stmts
  | .result e :: _ => (exprValue host env e).map (·.2)

/-- The arguments of the requests that a body makes.  No name is declared twice in a body, and no
parameter again. -/
def run (env : Env α) (text : List Char) : Except Fault (List (List (Datum α))) :=
  match parse text with
  | none => .error .malformed
  | some stmts =>
    if (env.map (·.1) ++ stmts.flatMap Stmt.declared).Nodup then exec host env stmts
    else .error .malformed

end Run

end TypedFetch.Script
