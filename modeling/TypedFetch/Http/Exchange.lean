import TypedFetch.Http.Credentials
import TypedFetch.Http.Query
import TypedFetch.Report
import TypedFetch.Text.Digit
import TypedFetch.Text.LetterCase

/-!
# Exchanges

One call of the client: the request is put together, sent, and its response read.  Hooks may change
the request before it is sent, the response before it is judged, and the error made from a response.
Hooks and the transport are actions of any monad.
-/

namespace TypedFetch.Http

/-! ## Retries -/

/-- When a request is sent again.  The values are those that the caller gave, and are read when an
adapter is made. -/
structure RetryPolicy where
  /-- How often. -/
  limit : Value := .int 2
  /-- For which verbs. -/
  methods : Value :=
    .list (["GET", "PUT", "HEAD", "DELETE", "OPTIONS", "TRACE"].map Value.text)
  /-- After which statuses. -/
  statuses : Value := .list ([408, 413, 429, 500, 502, 503, 504].map Value.int)
  /-- How long to wait. -/
  backoff : Value := .double 0.3

/-- Sets the part of a policy that a name stands for. -/
def RetryPolicy.set (policy : RetryPolicy) (name : String) (value : Value) :
    Except Failure RetryPolicy :=
  match name with
  | "limit" => .ok { policy with limit := value }
  | "methods" => .ok { policy with methods := value }
  | "status_codes" => .ok { policy with statuses := value }
  | "backoff_factor" => .ok { policy with backoff := value }
  | _ => .error .wrongKind

/-- The policy that named parts describe; the parts that are not named are the usual ones. -/
def RetryPolicy.ofEntries (entries : List (Value × Value)) : Except Failure RetryPolicy :=
  entries.foldlM (fun policy (name, value) => policy.set name.display value) {}

/-- What a transport does about failed requests. -/
structure Adapter where
  /-- How often a request is sent again. -/
  total : Value := .int 0
  /-- How long to wait. -/
  backoff : Float := 0.0
  /-- The statuses after which a request is sent again, in order. -/
  statuses : List Value := []
  /-- The verbs for which a request is sent again, in order; none means the default ones. -/
  methods : Option (List String) := none
  /-- A status that remains after the last try is an error of the transport. -/
  raisesOnStatus : Bool := true

/-- A verb in capital letters. -/
def verbOf : Value → Except Failure String
  | .text s => .ok (String.ofList (Text.upper s.toList))
  | _ => .error .notVerb

/-- A number of seconds. -/
def secondsOf : Value → Except Failure Float
  | .text s =>
    let digits := Text.joinDigitGroups none (Text.plainDigits (Text.trim s.toList))
    match digits.bind Number.parse? with
    | some x => .ok x
    | none => .error .notNumber
  | v =>
    match v.amount? with
    | some x => .ok x
    | none => .error .wrongKind

/-- The adapter for a policy. -/
def adapterFor : Option RetryPolicy → Except Failure Adapter
  | none => .ok {}
  | some policy => do
    let verbs ← (← ApiError.iterate policy.methods).mapM verbOf
    let backoff ← secondsOf policy.backoff
    let statuses ← if policy.statuses.truthy then ApiError.iterate policy.statuses else .ok []
    match Value.sorted? statuses with
    | none => .error .wrongKind
    | some statuses =>
      return {
        total := policy.limit
        backoff := backoff
        statuses := statuses
        methods := some (verbs.eraseDups.mergeSort Text.textLE)
        raisesOnStatus := false }

/-! ## Requests and responses -/

/-- A request on its way out. -/
structure Outgoing where
  /-- The verb. -/
  method : String
  /-- The address. -/
  url : String
  /-- The headers. -/
  headers : Headers := []
  /-- The query parameters. -/
  params : List (Value × Value) := []
  /-- The body. -/
  body : Value := .null

/-- A response. -/
structure Response where
  /-- The status. -/
  status : Int := 200
  /-- The reason given with the status. -/
  reason : Value := .text "OK"
  /-- The bytes of the body. -/
  content : List UInt8 := []

/-- How an attempt to send a request ends. -/
inductive Delivery where
  /-- With a response. -/
  | response (r : Response)
  /-- It took too long. -/
  | timedOut
  /-- The network failed. -/
  | disconnected
  /-- A failure that claims to have a response. -/
  | statusFailure
  /-- In another way, with a message. -/
  | broken (message : String)

/-- Callbacks around a request.  One that gives nothing keeps what it was given. -/
structure Hooks (m : Type → Type) where
  /-- Run on the request before it is sent. -/
  beforeRequest : List (Outgoing → m (Option Outgoing)) := []
  /-- Run on the response before it is judged. -/
  afterResponse : List (Response → m (Option Response)) := []
  /-- Run on the error made from a response. -/
  beforeError : List (ApiError → m (Option ApiError)) := []

/-- Runs hooks one after the other. -/
def runHooks {m : Type → Type} [Monad m] {α : Type} :
    List (α → m (Option α)) → α → m α
  | [], a => pure a
  | hook :: rest, a => do
    let changed ← hook a
    runHooks rest (changed.getD a)

/-- The settings of a client. -/
structure ClientConfig where
  /-- The address below which all paths lie. -/
  baseUrl : String
  /-- How long a request may take. -/
  timeout : Value := .double 10.0
  /-- Headers of every request. -/
  headers : Headers := []
  /-- Requests are logged. -/
  debug : Bool := false

/-- The query of a call: an object that is yet to be flattened, or finished parameters. -/
inductive QuerySource where
  | object (entries : List (Value × Value))
  | finished (params : List (Value × Value))

/-- What a caller asks for. -/
structure Call where
  /-- The verb. -/
  method : String
  /-- The path, possibly with placeholders. -/
  path : String
  /-- The body; a request that reads has none. -/
  data : Value := .null
  /-- The query. -/
  query : QuerySource := .finished []
  /-- The values of the placeholders. -/
  pathParams : List (Value × Value) := []
  /-- More headers. -/
  headers : Headers := []
  /-- The caller is not identified. -/
  skipAuth : Bool := false

/-! ## Bodies of responses -/

/-- The encoding of a JSON body that its first four bytes show, and the bytes without a mark. -/
def guessEncoding (bytes : List UInt8) : Option (Json.Encoding × List UInt8) :=
  match bytes with
  | 0x00 :: 0x00 :: 0xFE :: 0xFF :: rest => some (.utf32 true, rest)
  | 0xFF :: 0xFE :: 0x00 :: 0x00 :: rest => some (.utf32 false, rest)
  | 0xEF :: 0xBB :: 0xBF :: rest => some (.utf8, rest)
  | 0xFF :: 0xFE :: rest => some (.utf16 false, rest)
  | 0xFE :: 0xFF :: rest => some (.utf16 true, rest)
  | a :: b :: c :: d :: _ =>
    match a == 0, b == 0, c == 0, d == 0 with
    | false, false, false, false => some (.utf8, bytes)
    | true, false, true, false => some (.utf16 true, bytes)
    | false, true, false, true => some (.utf16 false, bytes)
    | true, true, true, false => some (.utf32 true, bytes)
    | false, true, true, true => some (.utf32 false, bytes)
    | _, _, _, _ => none
  | _ => none

/-- The text of a body: UTF-8, or else one character per byte. -/
def bodyText (bytes : List UInt8) : List Char :=
  match Text.decodeUtf8 bytes with
  | .ok cs => cs
  | .error _ => bytes.map fun b => Char.ofNat b.toNat

/-- The JSON value of a body. -/
def bodyValue (bytes : List UInt8) : Except Json.Fault Value :=
  let decoded := if 3 < bytes.length then
      (guessEncoding bytes).bind fun (encoding, rest) => encoding.decode .refused rest
    else none
  Json.read (decoded.getD (bodyText bytes))

/-- The failure of a body that was not read. -/
def bodyFailure : Json.Fault → Failure
  | .malformed => .malformedBody
  | .tooManyDigits => .tooManyDigits
  | .tooDeep => .tooDeep

/-- The status says that the request failed. -/
def Response.isFailure (r : Response) : Bool :=
  400 ≤ r.status && r.status < 600

/-- The message about a status. -/
def Response.statusMessage (r : Response) : String :=
  "HTTP " ++ toString r.status ++ ": " ++ r.reason.display

/-- The error that a response describes: an object in its body may name the code, the message and
the details. -/
def errorOf (r : Response) : Except Failure ApiError :=
  match bodyValue r.content with
  | .ok (.map entries) =>
    let code :=
      match Value.lookup entries "code" with
      | none => Code.http.text
      | some .null => Code.http.text
      | some v => v.display
    let message :=
      match Value.lookup entries "message" with
      | some v => if v.truthy then v else .text r.statusMessage
      | none => .text r.statusMessage
    ApiError.build r.status (.text code) message ((Value.lookup entries "details").getD .null)
  | .error .tooDeep => .error .tooDeep
  | _ => .ok ⟨r.status, .text Code.http.text, .text r.statusMessage, []⟩

/-- The value that a response carries; an empty body carries nothing. -/
def resultOf (r : Response) : Except Failure Value :=
  if r.content.isEmpty then .ok .null
  else
    match bodyValue r.content with
    | .ok v => .ok v
    | .error fault => .error (bodyFailure fault)

/-! ## The exchange -/

/-- Adds headers; those that are there keep their place. -/
def addHeaders (headers more : Headers) : Headers :=
  more.foldl (fun acc (k, v) => Value.insertEntry k v acc) headers

/-- The parameters of a query. -/
def QuerySource.params : QuerySource → Except Failure (List (Value × Value))
  | .finished params => .ok params
  | .object entries =>
    match searchParams entries with
    | .ok params => .ok (params.map fun (k, v) => (.text k, .text v))
    | .error _ => .error .notText

/-- The request of a call, with the headers that identify the caller. -/
def outgoingOf (config : ClientConfig) (call : Call) (identity : Headers) :
    Except Failure Outgoing := do
  let method := String.ofList (Text.upper call.method.toList)
  let params ← call.query.params
  return {
    method
    url := buildUrl config.baseUrl call.path call.pathParams
    headers := addHeaders (addHeaders (Value.collect config.headers) identity) call.headers
    params
    body := if method == "GET" then .null else call.data }

/-- The headers that identify the caller, and the credentials after they were asked for. -/
def identify (credentials : Option Credentials) (skip : Bool) (now : Float) :
    Except Failure Headers × Option Credentials :=
  match credentials with
  | none => (.ok [], none)
  | some c =>
    if skip then (.ok [], some c)
    else
      let (headers, c) := c.headers now
      (headers, some c)

/-- What a call leads to. -/
structure Outcome where
  /-- The result. -/
  result : Except Failure Value
  /-- The request that was sent, if any. -/
  sent : Option Outgoing := none
  /-- What was reported. -/
  events : List Event := []

/-- Judges how the sending of a request ended. -/
def judge {m : Type → Type} [Monad m] (hooks : Hooks m) : Delivery → m (Except Failure Value)
  | .timedOut => pure (.error (.api .timeout))
  | .disconnected => pure (.error (.api .network))
  | .statusFailure => pure (.error .noResponse)
  | .broken message =>
    let text := if message.isEmpty then "An unknown error occurred" else message
    pure (.error (.api ⟨500, .text Code.unknown.text, .text text, []⟩))
  | .response r => do
    let r ← runHooks hooks.afterResponse r
    if r.isFailure then
      match errorOf r with
      | .error e => return .error e
      | .ok e => return .error (.api (← runHooks hooks.beforeError e))
    else return resultOf r

/-- One call: the request is made, sent through `send`, and its response judged. -/
def exchange {m : Type → Type} [Monad m] (config : ClientConfig) (hooks : Hooks m)
    (send : Outgoing → m Delivery) (credentials : Option Credentials) (now : Float) (call : Call) :
    m (Outcome × Option Credentials) := do
  let (identity, credentials) := identify credentials call.skipAuth now
  match identity >>= outgoingOf config call with
  | .error e => return ({ result := .error e }, credentials)
  | .ok outgoing =>
    let outgoing ← runHooks hooks.beforeRequest outgoing
    let events : List Event :=
      if config.debug then [.log .debug (outgoing.method ++ " " ++ outgoing.url)] else []
    let result ← judge hooks (← send outgoing)
    return ({ result, sent := some outgoing, events }, credentials)

end TypedFetch.Http
