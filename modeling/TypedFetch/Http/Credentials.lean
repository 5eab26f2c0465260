import TypedFetch.Http.Token

/-!
# Credentials

Ways to identify the caller: a fixed token, headers from a callback, or a token that is replaced
by a callback once it is out of date.  A callback is known by the answers that it gives, the last
of which it repeats.
-/

namespace TypedFetch.Http

/-- Headers by name. -/
abbrev Headers := List (Value × Value)

/-- A callback and the number of its calls so far. -/
structure Callback (α : Type) where
  /-- The answers that are left, of which the last one is repeated. -/
  answers : List α
  /-- The number of calls so far. -/
  calls : Nat := 0

/-- Calls a callback. -/
def Callback.call {α : Type} [Inhabited α] (c : Callback α) : α × Callback α :=
  match c.answers with
  | [] => (default, { c with calls := c.calls + 1 })
  | [a] => (a, { c with calls := c.calls + 1 })
  | a :: rest => (a, ⟨rest, c.calls + 1⟩)

/-- A way to identify the caller. -/
inductive Credentials where
  /-- A fixed token of some type. -/
  | simple (token tokenType : String)
  /-- Headers from a callback. -/
  | custom (headers : Callback Value)
  /-- A token that a callback, if there is one, replaces once it is out of date. -/
  | jwt (token : String) (refresh : Option (Callback String))

namespace Credentials

/-- The header that carries a token. -/
def tokenHeader (tokenType token : String) : Headers :=
  [(.text "Authorization", .text (tokenType ++ " " ++ token))]

/-- The error of a token that is out of date and cannot be replaced. -/
def noRefresh : Failure :=
  .api (.authentication "JWT token expired and no refresh handler provided")

/-- The headers for a request at a point in time, and the credentials after it. -/
def headers (now : Float) : Credentials → Except Failure Headers × Credentials
  | simple token tokenType => (.ok (tokenHeader tokenType token), simple token tokenType)
  | custom callback =>
    let (v, callback) := callback.call
    (ApiError.entriesOf v, custom callback)
  | jwt token refresh =>
    match isExpired token now with
    | .error e => (.error e, jwt token refresh)
    | .ok false => (.ok (tokenHeader "Bearer" token), jwt token refresh)
    | .ok true =>
      match refresh with
      | none => (.error noRefresh, jwt token none)
      | some callback =>
        let (token, callback) := callback.call
        (.ok (tokenHeader "Bearer" token), jwt token (some callback))

/-- The token that is in use. -/
def token? : Credentials → Option String
  | simple token _ => some token
  | custom _ => none
  | jwt token _ => some token

/-- The number of calls of the callback so far. -/
def callbackCalls : Credentials → Nat
  | simple _ _ => 0
  | custom callback => callback.calls
  | jwt _ refresh => (refresh.map (·.calls)).getD 0

end Credentials

end TypedFetch.Http
