import TypedFetch.Value

/-!
# Failures of requests

An `ApiError` describes a failed call by a status, a code and a message; details name the fields
that are at fault.  Status zero stands for a failure of the network.  A `Failure` is anything that
can end a call, an `ApiError` or a fault of another kind.
-/

namespace TypedFetch.Http

/-- A failed call. -/
structure ApiError where
  /-- The status, zero if the network failed. -/
  status : Int
  /-- A code for programs. -/
  code : Value
  /-- A message for people. -/
  message : Value
  /-- What is wrong with which field. -/
  details : List (List (Value × Value)) := []

/-- What can end a call. -/
inductive Failure where
  /-- The call failed. -/
  | api (error : ApiError)
  /-- A value that should hold items holds none. -/
  | notIterable
  /-- An item that should be a pair is none. -/
  | notPair
  /-- A collection cannot be a key. -/
  | unusableKey
  /-- A number is too large for a double. -/
  | numberTooLarge
  /-- A number is needed and there is none. -/
  | notNumber
  /-- The year of a date has more than four digits or is not positive. -/
  | yearOutOfRange
  /-- The year of a date does not fit the clock of the system. -/
  | clockOutOfRange
  /-- Bytes are no text. -/
  | notText
  /-- A response body is no JSON text. -/
  | malformedBody
  /-- An integer has too many digits. -/
  | tooManyDigits
  /-- The parts of a JSON text are nested too deeply. -/
  | tooDeep
  /-- A failure that should carry a response carries none. -/
  | noResponse
  /-- A value of another kind is needed. -/
  | wrongKind
  /-- A verb is no text. -/
  | notVerb

/-! ## Kinds of error -/

/-- Codes that stand for a kind of failure. -/
inductive Code where
  | timeout
  | network
  | http
  | unknown
  | authentication
  | authorization
  | validation
  | notFound
deriving Repr, BEq, DecidableEq

/-- The text of a code. -/
def Code.text : Code → String
  | .timeout => "TIMEOUT"
  | .network => "NETWORK_ERROR"
  | .http => "HTTP_ERROR"
  | .unknown => "UNKNOWN_ERROR"
  | .authentication => "AUTH_ERROR"
  | .authorization => "AUTHZ_ERROR"
  | .validation => "VALIDATION_ERROR"
  | .notFound => "NOT_FOUND"

namespace ApiError

/-- The error has a given code. -/
def hasCode (e : ApiError) (code : Code) : Bool :=
  match e.code with
  | .text s => s == code.text
  | _ => false

/-- The fault lies with the client. -/
def isClientError (e : ApiError) : Bool := 400 ≤ e.status && e.status < 500

/-- The fault lies with the server. -/
def isServerError (e : ApiError) : Bool := 500 ≤ e.status && e.status < 600

/-- The network failed. -/
def isNetworkError (e : ApiError) : Bool := e.status == 0

/-- The call took too long. -/
def isTimeoutError (e : ApiError) : Bool := e.hasCode .timeout

/-- The caller is not known. -/
def isAuthError (e : ApiError) : Bool := e.status == 401 || e.hasCode .authentication

/-- The caller may not do this. -/
def isAuthzError (e : ApiError) : Bool := e.status == 403 || e.hasCode .authorization

/-- The request is not acceptable. -/
def isValidationError (e : ApiError) : Bool := e.status == 400 || e.hasCode .validation

/-- There is no such thing. -/
def isNotFoundError (e : ApiError) : Bool := e.status == 404 || e.hasCode .notFound

/-- The kinds of error, with the names under which they are known. -/
def kinds : List (String × (ApiError → Bool)) :=
  [("is_client_error", isClientError), ("is_server_error", isServerError),
   ("is_network_error", isNetworkError), ("is_timeout_error", isTimeoutError),
   ("is_auth_error", isAuthError), ("is_authz_error", isAuthzError),
   ("is_validation_error", isValidationError), ("is_not_found_error", isNotFoundError)]

/-- The names of the kinds that an error is of. -/
def kindNames (e : ApiError) : List String :=
  (kinds.filter fun k => k.2 e).map (·.1)

/-- The error of a missing or bad identity. -/
def authentication (message : String := "Authentication required") : ApiError :=
  ⟨401, .text Code.authentication.text, .text message, []⟩

/-- The error of a call that took too long. -/
def timeout (message : String := "Request timed out") : ApiError :=
  ⟨408, .text Code.timeout.text, .text message, []⟩

/-- The error of a failed network. -/
def network (message : String := "Network request failed") : ApiError :=
  ⟨0, .text Code.network.text, .text message, []⟩

/-! ## Details -/

/-- The items of a value that is iterated over. -/
def iterate : Value → Except Failure (List Value)
  | .list items => .ok items
  | .tuple items => .ok items
  | .map entries => .ok (entries.map (·.1))
  | .ordered entries => .ok (entries.map (·.1))
  | .set members => .ok members
  | .text s => .ok (s.toList.map fun c => .text (String.singleton c))
  | .bytes bs => .ok (bs.map fun b => .int b.toNat)
  | _ => .error .notIterable

/-- An item as a pair of key and value. -/
def pairOf (item : Value) : Except Failure (Value × Value) :=
  match iterate item with
  | .error e => .error e
  | .ok [k, v] => if k.isKey then .ok (k, v) else .error .unusableKey
  | .ok _ => .error .notPair

/-- A value as a mapping: a mapping, or a list of pairs. -/
def entriesOf : Value → Except Failure (List (Value × Value))
  | .map entries => .ok entries
  | .ordered entries => .ok entries
  | v => do
    let items ← iterate v
    let pairs ← items.mapM pairOf
    return Value.collect pairs

/-- The details that a value describes; a value that counts as false describes none. -/
def detailsOf (v : Value) : Except Failure (List (List (Value × Value))) :=
  if v.truthy then do
    let items ← iterate v
    items.mapM entriesOf
  else .ok []

/-- An error with details that are yet to be read. -/
def build (status : Int) (code message details : Value) : Except Failure ApiError :=
  (detailsOf details).map fun details => ⟨status, code, message, details⟩

/-- The text of a value in a detail; nothing if it is absent. -/
def detailText (detail : List (Value × Value)) (key : String) : String :=
  ((Value.lookup detail key).map Value.display).getD ""

/-- Adds a message to those of its field. -/
def addFieldError (field message : String) :
    List (String × List String) → List (String × List String)
  | [] => [(field, [message])]
  | (f, messages) :: rest =>
    if f == field then (f, messages ++ [message]) :: rest
    else (f, messages) :: addFieldError field message rest

/-- The messages of the details by field, in the order of the fields' first mention. -/
def fieldErrors (e : ApiError) : List (String × List String) :=
  e.details.foldl
    (fun acc d => addFieldError (detailText d "field") (detailText d "message") acc) []

/-- The message of the first detail about a field. -/
def fieldError (e : ApiError) (field : String) : Option String :=
  (e.details.find? fun d =>
    match Value.lookup d "field" with
    | some (.text f) => f == field
    | _ => false).map fun d => detailText d "message"

/-! ## Texts -/

/-- What people are told about a status. -/
def userMessages : List (Int × String) :=
  [(400, "Invalid request. Please check your input."),
   (401, "Authentication required. Please log in."),
   (403, "Access denied. You do not have permission to perform this action."),
   (404, "The requested resource was not found."),
   (408, "Request timed out. Please try again."),
   (429, "Too many requests. Please try again later."),
   (500, "Internal server error. Please try again later."),
   (502, "Bad gateway. The server is temporarily unavailable."),
   (503, "Service unavailable. Please try again later."),
   (504, "Gateway timeout. The server took too long to respond.")]

/-- What people are told about an error. -/
def userMessage (e : ApiError) : Value :=
  match userMessages.lookup e.status with
  | some message => .text message
  | none =>
    if e.isNetworkError then
      .text "Network error. Please check your connection and try again."
    else if e.message.truthy then e.message
    else .text "An unexpected error occurred."

/-- The error in one line, for programmers. -/
def summary (e : ApiError) : String :=
  "APIError(status=" ++ toString e.status ++ ", code=" ++ e.code.quoted ++ ", message=" ++
    e.message.quoted ++ ")"

/-- The error as an object. -/
def toValue (e : ApiError) : Value :=
  .object [("name", .text "APIError"), ("message", e.message), ("status", .int e.status),
    ("code", e.code), ("details", .list (e.details.map Value.map))]

end ApiError

end TypedFetch.Http
