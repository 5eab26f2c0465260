import TypedFetch.Value

/-!
# Bindings of methods

Method options are a mapping.  An extension appears in it either as one entry that holds an object,
under its name alone or in brackets, or spread over entries whose keys start with its name.  From
them come the verb and path of a method and the documentation of its operation.
-/

namespace TypedFetch.Http

/-- The verbs of a binding, in the order in which a rule is searched for them. -/
inductive Verb where
  | get
  | post
  | put
  | delete
  | patch
deriving Repr, BEq, ReflBEq, LawfulBEq, DecidableEq

/-- The text of a verb. -/
def Verb.text : Verb → String
  | .get => "GET"
  | .post => "POST"
  | .put => "PUT"
  | .delete => "DELETE"
  | .patch => "PATCH"

/-- The key of a verb in a rule. -/
def Verb.key : Verb → String
  | .get => "get"
  | .post => "post"
  | .put => "put"
  | .delete => "delete"
  | .patch => "patch"

/-- All verbs, in the order in which a rule is searched for them. -/
def verbs : List Verb := [.get, .post, .put, .delete, .patch]

/-- Options as entries with text keys. -/
abbrev Fields := List (String × Value)

/-- The entries of a mapping that have text keys. -/
def fieldsOf (entries : List (Value × Value)) : Fields :=
  entries.filterMap fun
    | (.text k, v) => some (k, v)
    | _ => none

/-- The extension that carries the verb and the path. -/
def httpExtension : String := "google.api.http"

/-- The extension that documents the operation. -/
def operationExtension : String :=
  "grpc.gateway.protoc_gen_openapiv2.options.openapiv2_operation"

/-- The entries under a key that holds an object which is not empty. -/
def nestedUnder (options : Fields) (key : String) : Option Fields :=
  match (options.lookup key).bind Value.entries? with
  | some (e :: entries) => some (fieldsOf (e :: entries))
  | _ => none

/-- The extension as one entry that holds an object. -/
def nestedOption (options : Fields) (extension : String) : Option Fields :=
  ["[" ++ extension ++ "]", "(" ++ extension ++ ")", extension].findSome? (nestedUnder options)

/-- The extension spread over entries whose keys start with its name. -/
def flattenedOption (options : Fields) (extension : String) : Option Fields :=
  let head := ("(" ++ extension ++ ").").toList
  let found := options.filterMap fun (k, v) =>
    (Text.dropPrefix? head k.toList).map fun rest => (String.ofList rest, v)
  if found.isEmpty then none else some found

/-- The entries of an extension, in the first shape in which it is present. -/
def findOption (options : Fields) (extension : String) : Option Fields :=
  (nestedOption options extension).or (flattenedOption options extension)

/-- The verb and the path of a method. -/
structure Binding where
  /-- The verb. -/
  verb : Verb
  /-- The path template. -/
  path : String
deriving Repr, BEq, DecidableEq

/-- The binding of a method without a rule. -/
def defaultBinding (method : String) : Binding :=
  ⟨.post, "/" ++ method⟩

/-- The path that a rule gives for a verb. -/
def rulePath (rule : Fields) (verb : Verb) : Option Binding :=
  match rule.lookup verb.key with
  | some (.text path) => if path.isEmpty then none else some ⟨verb, path⟩
  | _ => none

/-- The binding of a method: the first verb of its rule that has a path. -/
def resolveBinding (method : String) (options : Fields) : Binding :=
  match (findOption options httpExtension).bind fun rule => verbs.findSome? (rulePath rule) with
  | some binding => binding
  | none => defaultBinding method

/-- The documentation of an operation. -/
structure Operation where
  /-- The description, whatever its kind. -/
  description : Option Value := none
  /-- The summary, whatever its kind. -/
  summary : Option Value := none
  /-- The tags. -/
  tags : List String := []

/-- An operation cannot be documented. -/
inductive OperationError where
  /-- The tags are neither a text nor a collection, but of the given type. -/
  | tagsNotIterable (type : String)
deriving Repr, BEq, DecidableEq

/-- The message of an error in the documentation of an operation. -/
def OperationError.message : OperationError → String
  | .tagsNotIterable type => "'" ++ type ++ "' object is not iterable"

/-- The value under a key, unless it counts as false. -/
def presentValue (fields : Fields) (key : String) : Option Value :=
  (fields.lookup key).bind fun v => if v.truthy then some v else none

/-- The texts of the tags: a text is one tag, a mapping gives its keys, bytes give numbers. -/
def tagTexts : Option Value → Except OperationError (List String)
  | none => .ok []
  | some (.text s) => .ok [s]
  | some (.list items) => .ok (items.map Value.display)
  | some (.tuple items) => .ok (items.map Value.display)
  | some (.map entries) => .ok (entries.map fun e => e.1.display)
  | some (.ordered entries) => .ok (entries.map fun e => e.1.display)
  | some (.set members) => .ok (members.map Value.display)
  | some (.bytes bs) => .ok (bs.map fun b => toString b.toNat)
  | some v => .error (.tagsNotIterable v.kindName)

/-- The documentation of an operation. -/
def resolveOperation (options : Fields) : Except OperationError Operation :=
  match findOption options operationExtension with
  | none => .ok {}
  | some operation =>
    (tagTexts (presentValue operation "tags")).map fun tags =>
      { description := presentValue operation "description"
        summary := presentValue operation "summary"
        tags }

end TypedFetch.Http
