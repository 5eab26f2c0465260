import TypedFetch.Http.PathTemplate
import TypedFetch.TypeScript.Types

/-!
# The module of the client

One class with a method for every method of every service.  Methods of different services share the
class, so two methods of one name must have the same types, verb and path; such a pair becomes one
method, and any other pair of one name is refused.
-/

namespace TypedFetch.TypeScript

open TypedFetch.Schema (Method Service Message)

/-- How the client module is made. -/
structure ClientOptions where
  /-- The name of the class. -/
  clientName : String := "APIClient"
  /-- The default base address. -/
  baseUrl : Option String := none
  /-- What the module contains. -/
  features : Features := {}
deriving Repr, BEq, DecidableEq

/-! ## Bodies of methods -/

/-- The path of a call. -/
inductive PathSource where
  /-- A path without placeholders. -/
  | fixed (path : String)
  /-- A path whose placeholders are read from the request. -/
  | filled (path : String)
deriving Repr, BEq, DecidableEq

/-- The expression of a path. -/
def PathSource.expression : PathSource → String
  | .fixed path => stringLiteral path
  | .filled path => "`" ++ Http.pathTemplate path ++ "`"

/-- A statement of a method body. -/
inductive Statement where
  /-- Sets the path. -/
  | path (source : PathSource)
  /-- Takes fields out of the request; what is left gets a name. -/
  | unpack (fields : List String) (rest : String)
  /-- Turns an object into query parameters. -/
  | query (source : String)
  /-- Sends a request with a body. -/
  | send (verb : Http.Verb) (output body : String)
  /-- Sends a request with query parameters. -/
  | sendQuery (verb : Http.Verb) (output : String)
deriving Repr, BEq, DecidableEq

/-- The start of a call. -/
def callHead (verb : Http.Verb) (output : String) : String :=
  "return this.client.request<Types." ++ output ++ ">('" ++ verb.text ++ "', path"

/-- The lines of a statement. -/
def Statement.lines : Statement → List String
  | .path source => ["const path = " ++ source.expression ++ ";"]
  | .unpack fields rest =>
    ["const \x7b " ++ ", ".intercalate fields ++ ", ..." ++ rest ++ " \x7d = request;"]
  | .query source => ["const searchParams = this.client.objectToSearchParams(" ++ source ++ ");"]
  | .send verb output body => [callHead verb output ++ ", " ++ body ++ ", options);"]
  | .sendQuery verb output =>
    [callHead verb output ++ ", undefined, \x7b", "  searchParams,", "  ...options", "\x7d);"]

/-- A method of the client class. -/
structure ClientMethod where
  /-- The name. -/
  name : String
  /-- The parameter list. -/
  parameters : String
  /-- The type of the response. -/
  outputType : String
  /-- The statements of its body. -/
  body : List Statement
  /-- The lines of its documentation. -/
  doc : List String
deriving Repr, BEq, DecidableEq

/-- The type of a request without fields. -/
def emptyType : String := "Empty"

/-- The method needs no request object. -/
def takesNoRequest (m : Method) : Bool :=
  m.verb == .get && m.inputType == emptyType

/-- The request fields that a path takes: those of the placeholders that are not nested. -/
def unpackedFields (path : String) : List String :=
  (((Http.pathParams path).filter fun p => !p.toList.contains '.').map
    Http.paramExpression).eraseDups

/-- The source of the path of a method. -/
def pathSource (path : String) : PathSource :=
  if (Http.pathParams path).isEmpty then .fixed path else .filled path

/-- The statements that send the request of a method. -/
def sendStatements (m : Method) : List Statement :=
  let fields := unpackedFields m.path
  if takesNoRequest m then [.send m.verb m.outputType "undefined"]
  else if m.verb == .get then
    if fields.isEmpty then [.query "request", .sendQuery m.verb m.outputType]
    else [.unpack fields "query", .query "query", .sendQuery m.verb m.outputType]
  else if fields.isEmpty then [.send m.verb m.outputType "request"]
  else [.unpack fields "body", .send m.verb m.outputType "body"]

/-- The body of a method. -/
def bodyOf (m : Method) : List Statement :=
  .path (pathSource m.path) :: sendStatements m

/-- The lines of the documentation of a method. -/
def methodDoc (features : Features) (m : Method) : List String :=
  if features.comments then
    docLines m.description ++
      (match m.summary with
        | some s => if s.isEmpty then [] else ["@summary " ++ s]
        | none => []) ++
      (if m.tags.isEmpty then [] else ["@tags " ++ ", ".intercalate m.tags])
  else []

/-- The parameter list of a method. -/
def parametersOf (m : Method) : String :=
  if takesNoRequest m then "options?: RequestOptions"
  else "request: Types." ++ m.inputType ++ ", options?: RequestOptions"

/-- The client method of a method. -/
def clientMethodOf (features : Features) (m : Method) : ClientMethod where
  name := Naming.camelCase m.name
  parameters := parametersOf m
  outputType := m.outputType
  body := bodyOf m
  doc := methodDoc features m

/-! ## Methods of all services -/

/-- What makes two methods of one name interchangeable. -/
structure BindingKey where
  /-- The type of the request. -/
  inputType : String
  /-- The type of the response. -/
  outputType : String
  /-- The verb. -/
  verb : Http.Verb
  /-- The path template. -/
  path : String
deriving Repr, BEq, ReflBEq, LawfulBEq, DecidableEq

/-- The key of a method. -/
def bindingKey (m : Method) : BindingKey :=
  ⟨m.inputType, m.outputType, m.verb, m.path⟩

/-- Two methods share a name and differ. -/
structure Collision where
  /-- The name of the client method. -/
  method : String
  /-- The service that has the name. -/
  first : String
  /-- The service that wants it too. -/
  second : String
deriving Repr, BEq, DecidableEq

/-- The message about a collision. -/
def Collision.message (c : Collision) : String :=
  "Method '" ++ c.method ++ "' is defined differently by services '" ++ c.first ++ "' and '" ++
    c.second ++ "'; rename one of them"

/-- A name that is taken. -/
structure Owner where
  /-- The name of the client method. -/
  method : String
  /-- The service that has it. -/
  service : String
  /-- The key of its method. -/
  key : BindingKey
deriving Repr, BEq, DecidableEq

/-- The methods of one service in the class. -/
structure MethodGroup where
  /-- A line about the service. -/
  comment : Option String
  /-- The methods. -/
  methods : List ClientMethod
deriving Repr, BEq, DecidableEq

/-- The outcome of adding the methods of a service. -/
structure Admission where
  /-- The names that are taken. -/
  owners : List Owner
  /-- The methods that are added. -/
  methods : List Method := []
  /-- The methods that were there already, with the service that has them. -/
  repeats : List (String × String) := []

/-- Adds a method of a service. -/
def addMethod (service : String) (acc : Admission) (m : Method) : Except Collision Admission :=
  let name := Naming.camelCase m.name
  match acc.owners.find? (·.method == name) with
  | some owner =>
    if owner.key == bindingKey m then
      .ok { acc with repeats := acc.repeats ++ [(name, owner.service)] }
    else .error ⟨name, owner.service, service⟩
  | none =>
    .ok { acc with
      owners := acc.owners ++ [⟨name, service, bindingKey m⟩]
      methods := acc.methods ++ [m] }

/-- The first line of the description of a service. -/
def serviceComment (features : Features) (s : Service) : Option String :=
  if features.comments then
    match s.description with
    | some d => (Text.linesOf d).head?.bind fun line => if line.isEmpty then none else some line
    | none => none
  else none

/-- The reports about methods that were there already. -/
def repeatEvents (service : String) (repeats : List (String × String)) : List Event :=
  repeats.map fun (name, owner) =>
    .log .debug ("Method '" ++ name ++ "' of " ++ service ++ " duplicates " ++ owner ++
      ", skipping")

/-- The methods of one service that are reported before a collision is met. -/
def addMethods (service : String) : Admission → List Method → Admission × Option Collision
  | acc, [] => (acc, none)
  | acc, m :: rest =>
    match addMethod service acc m with
    | .ok acc => addMethods service acc rest
    | .error c => (acc, some c)

/-- The groups of the services, with what is reported about them. -/
def groupsFrom (features : Features) (owners : List Owner) :
    List Service → List Event × Except Collision (List MethodGroup)
  | [] => ([], .ok [])
  | s :: rest =>
    match addMethods s.name { owners } s.methods with
    | (acc, some c) => (repeatEvents s.name acc.repeats, .error c)
    | (acc, none) =>
      let group : MethodGroup :=
        { comment := serviceComment features s
          methods := acc.methods.map (clientMethodOf features) }
      let (events, groups) := groupsFrom features acc.owners rest
      (repeatEvents s.name acc.repeats ++ events, groups.map (group :: ·))

/-- The groups of the services, or the first collision. -/
def methodGroups (features : Features) (services : List Service) :
    Except Collision (List MethodGroup) :=
  (groupsFrom features [] services).2

/-! ## Text -/

/-- The base address of the running page. -/
def runtimeOrigin : String :=
  "`$\x7btypeof window !== 'undefined' ? window.location.origin : 'http://localhost:3000'\x7d`"

/-- The expression of the default base address. -/
def ClientOptions.baseUrlExpression (options : ClientOptions) : String :=
  let baseUrl := Text.trimmed (options.baseUrl.getD "")
  if baseUrl.isEmpty then runtimeOrigin else stringLiteral baseUrl

/-- The text of the body of a client method. -/
def ClientMethod.bodyText (m : ClientMethod) : String :=
  String.join ((m.body.flatMap Statement.lines).map fun line => "    " ++ line ++ "\n")

/-- The text of a client method. -/
def ClientMethod.text (m : ClientMethod) : String :=
  "\n" ++ docComment "  " m.doc ++
    "  async " ++ m.name ++ "(" ++ m.parameters ++ "): Promise<Types." ++ m.outputType ++
    "> \x7b\n" ++ m.bodyText ++ "  \x7d\n"

/-- The text of a group of methods. -/
def MethodGroup.text (g : MethodGroup) : String :=
  (match g.comment with
    | some comment => "\n  // " ++ comment ++ "\n"
    | none => "") ++
    String.join (g.methods.map ClientMethod.text)

/-- The text of the client class and of its factory. -/
def clientText (options : ClientOptions) (groups : List MethodGroup) : String :=
  let name := options.clientName
  let remark (line : String) : String :=
    if options.features.comments then docComment "" [line] else ""
  notice ++ "\n// Generated API Client from protobuf definitions\n\n" ++
    "import type \x7b APIClient as RuntimeClient, APIClientConfig, RequestOptions \x7d " ++
    "from 'proto2fetch/runtime';\n" ++
    "import \x7b createAPIClient as createRuntimeClient \x7d from 'proto2fetch/runtime';\n" ++
    "import * as Types from './types.js';\n\n" ++
    remark (name ++ " - Auto-generated API client") ++
    block ("export class " ++ name)
      ("  private client: RuntimeClient;\n\n" ++
        "  constructor(config?: Partial<APIClientConfig>) \x7b\n" ++
        "    const defaultBaseUrl = " ++ options.baseUrlExpression ++ ";\n" ++
        "    this.client = createRuntimeClient(\x7b\n" ++
        "      baseUrl: defaultBaseUrl,\n      ...config\n    \x7d);\n  \x7d\n" ++
        String.join (groups.map MethodGroup.text)) ++
    "\n" ++ remark ("Create a new instance of " ++ name) ++
    block ("export function create" ++ name ++ "(config?: Partial<APIClientConfig>): " ++ name)
      ("  return new " ++ name ++ "(config);\n") ++
    "\n// Default export\nexport default " ++ name ++ ";"

/-- The section of the client class. -/
def clientSection (options : ClientOptions) (schema : Schema) : Except Collision String :=
  (methodGroups options.features schema.services).map (clientText options)

/-- What is reported while the section of the client class is made. -/
def clientEvents (options : ClientOptions) (schema : Schema) : List Event :=
  (groupsFrom options.features [] schema.services).1

/-- The helpers that create builders of marked messages. -/
def builderHelpers (marker : String) (messages : List Message) : String :=
  "\n// " ++ marker ++ " helpers\n" ++
    String.join ((messagesMarked marker messages).map fun m =>
      let entity := String.ofList (Text.replaceFirst marker.toList [] m.name.toList)
      factory ("create" ++ entity ++ marker) ("Types." ++ builderName m))

/-- The section of the helper functions. -/
def helperSection (features : Features) (schema : Schema) : String :=
  "// Helper methods and builders\n\n" ++
    docComment "" ["Create pagination parameters"] ++
    block ("export function createPagination(page: number = 1, size: number = 10): " ++
      "Types.Pagination") "  return \x7b page, size \x7d;\n" ++
    "\n" ++ docComment "" ["Create paginated request helper"] ++
    block ("export function createPaginatedRequest<TFilter = any, TSort = any>(\n" ++
      "  pagination?: Types.Pagination,\n  filter?: TFilter,\n  sort?: TSort[]\n" ++
      "): Types.PaginatedRequest<TFilter, TSort>")
      ("  return \x7b\n    pagination: pagination || createPagination(),\n" ++
        "    filter,\n    sort\n  \x7d;\n") ++
    (if features.filterBuilders then builderHelpers filterMarker schema.messages else "") ++
    (if features.sortBuilders then builderHelpers sortMarker schema.messages else "")

/-- The module of the client. -/
def clientModule (options : ClientOptions) (schema : Schema) : Except Collision String :=
  (clientSection options schema).map fun client =>
    joinSections [client, helperSection options.features schema]

/-- What is reported while the module of the client is made. -/
def clientModuleEvents (options : ClientOptions) (schema : Schema) : List Event :=
  .log .info ("Generating " ++ options.clientName ++ " for " ++ toString schema.services.length ++
    " services") :: clientEvents options schema

end TypedFetch.TypeScript
