import TypedFetch.Http.ApiError
import TypedFetch.Json.Reader
import TypedFetch.Text.Base64
import TypedFetch.Time.Calendar

/-!
# Tokens

A token has three parts divided by points; the middle one is a JSON object in base 64.  Its entry
`exp` says when the token expires, in seconds since the start of 1970.  Signatures are not verified.
-/

namespace TypedFetch.Http

/-- The error of a token that does not have the right form. -/
def badToken : Failure :=
  .api (.authentication "Invalid JWT token format")

/-- The middle part of a token with three parts, if it is not empty. -/
def tokenPayload? (token : List Char) : Option (List Char) :=
  match Text.cutAt '.' token with
  | [_, payload, _] => if payload.isEmpty then none else some payload
  | _ => none

/-- The bytes that the middle part of a token stands for. -/
def tokenBytes? (token : List Char) : Option (List UInt8) := do
  let payload ← tokenPayload? token
  Text.Base64.decode (Text.Base64.pad payload)

/-- The payload of a token. -/
def parseToken (token : String) : Except Failure (List (Value × Value)) :=
  match tokenBytes? token.toList with
  | none => .error badToken
  | some bytes =>
    match Json.readBytes bytes with
    | .ok (.map entries) => .ok entries
    | .error .tooDeep => .error .tooDeep
    | _ => .error badToken

/-- A number as a double; what is no number has none. -/
def numberOf : Value → Except Failure (Option Float)
  | .bool b => .ok (some (if b then 1.0 else 0.0))
  | .int i =>
    match Number.ofInt? i with
    | some x => .ok (some x)
    | none => .error .numberTooLarge
  | .double x => .ok (some x)
  | _ => .ok none

/-- When a token expires: nothing for a token without that entry, and nothing at all for one that
cannot be parsed. -/
def expiry (token : String) : Except Failure (Option (Option Float)) :=
  match parseToken token with
  | .error (.api _) => .ok none
  | .error e => .error e
  | .ok entries => some <$> numberOf ((Value.lookup entries "exp").getD .null)

/-- The token is out of date at a point in time.  One that cannot be parsed always is, one that does
not say when it expires never is. -/
def isExpired (token : String) (now : Float) : Except Failure Bool :=
  (expiry token).map fun
    | none => true
    | some none => false
    | some (some exp) => exp < now

/-- The integer part of a double. -/
def integerPart (x : Float) : Except Failure Int :=
  match Number.exact x with
  | .nan => .error .notNumber
  | .infinite _ => .error .numberTooLarge
  | .finite negative m q => .ok (Number.signed negative (Number.truncate m q))

/-- The integer nearest to `m · 2 ^ q`, the even one of two. -/
def roundHalfEven (m : Nat) (q : Int) : Nat :=
  if 0 ≤ q then m * Nat.pow 2 q.toNat
  else
    let unit := Nat.pow 2 (-q).toNat
    let whole := m / unit
    let rest := 2 * (m % unit)
    if rest < unit || (rest == unit && whole % 2 == 0) then whole else whole + 1

/-- Seconds and microseconds of a point in time. -/
def splitSeconds (x : Float) : Except Failure (Int × Nat) := do
  let whole ← integerPart x
  let fraction := (x - Float.ofInt whole) * 1000000.0
  let micros : Int :=
    match Number.exact fraction with
    | .finite negative m q => Number.signed negative (roundHalfEven m q)
    | _ => 0
  if 1000000 ≤ micros then return (whole + 1, (micros - 1000000).toNat)
  else if micros < 0 then return (whole - 1, (micros + 1000000).toNat)
  else return (whole, micros.toNat)

/-- The seconds that the clock of the system can tell. -/
def clockRange : Int × Int := (-0x8000000000000000, 0x7FFFFFFFFFFFFFFF)

/-- The seconds whose year the calendar of the system can tell. -/
def calendarRange : Int × Int := (-67768040609740800, 67768036191676799)

/-- The point in time that lies some seconds after the start of 1970. -/
def instantOf (x : Float) : Except Failure Value := do
  let (seconds, micros) ← splitSeconds x
  if seconds < clockRange.1 || clockRange.2 < seconds then throw .numberTooLarge
  if seconds < calendarRange.1 || calendarRange.2 < seconds then throw .clockOutOfRange
  match Time.Instant.ofSeconds? seconds micros with
  | some t => return .instant t
  | none => throw .yearOutOfRange

/-- When a token expires, if that is known. -/
def expiration (token : String) : Except Failure (Option Value) := do
  match ← expiry token with
  | some (some exp) => some <$> instantOf exp
  | _ => return none

/-- The whole seconds until a token expires, never negative, if that is known. -/
def remaining (token : String) (now : Float) : Except Failure (Option Nat) := do
  match ← expiry token with
  | some (some exp) => some <$> Int.toNat <$> integerPart (exp - now)
  | _ => return none

end TypedFetch.Http
