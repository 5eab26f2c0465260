import TypedFetch.Text.Blank
import TypedFetch.Value

/-!
# Query parameters

A request object becomes an ordered list of parameters.  Nested objects extend the key with a point,
items of lists that are collections with their index in brackets; other items repeat the key.  Null
is left out.
-/

namespace TypedFetch.Http

/-- Ordered query parameters. -/
abbrev Params := List (String × String)

/-- Bytes that are no text cannot be a parameter. -/
abbrev QueryError := Text.Utf8Error

/-- The text of a value that is no collection. -/
def scalarText : Value → Except QueryError String
  | .bool b => .ok (if b then "true" else "false")
  | .double x =>
    match Number.exact x with
    | .finite negative m q =>
      if Number.isWhole m q then .ok (toString (Number.signed negative (Number.truncate m q)))
      else .ok (Number.text x)
    | _ => .ok (Number.text x)
  | .instant t => .ok t.text
  | .day d => .ok d.text
  | .member v => scalarText v
  | .bytes bs => (Text.decodeUtf8 bs).map String.ofList
  | v => .ok v.display

/-- The value is a mapping or a sequence. -/
def isCollection : Value → Bool
  | .list _ => true
  | .tuple _ => true
  | .map _ => true
  | .ordered _ => true
  | _ => false

mutual

/-- The parameters of a value under a key. -/
def paramsOf (key : String) : Value → Except QueryError Params
  | .null => .ok []
  | .map entries => entryParams key entries
  | .ordered entries => entryParams key entries
  | .list items => itemParams key 0 items
  | .tuple items => itemParams key 0 items
  | v => (scalarText v).map fun s => [(key, s)]

/-- The parameters of the entries of a mapping under a key. -/
def entryParams (key : String) : List (Value × Value) → Except QueryError Params
  | [] => .ok []
  | (k, v) :: rest => do
    let first ← paramsOf (key ++ "." ++ k.display) v
    let others ← entryParams key rest
    return first ++ others

/-- The parameters of the items of a sequence under a key, from index `index` on. -/
def itemParams (key : String) (index : Nat) : List Value → Except QueryError Params
  | [] => .ok []
  | v :: rest => do
    let itemKey := if isCollection v then key ++ "[" ++ toString index ++ "]" else key
    let first ← paramsOf itemKey v
    let others ← itemParams key (index + 1) rest
    return first ++ others

end

/-- The parameters of a request object. -/
def searchParams : List (Value × Value) → Except QueryError Params
  | [] => .ok []
  | (k, v) :: rest => do
    let first ← paramsOf k.display v
    let others ← searchParams rest
    return first ++ others

/-! ## Addresses -/

/-- Puts values into the placeholders of a path, one parameter after the other. -/
def fillPath (path : List Char) (params : List (Value × Value)) : List Char :=
  params.foldl
    (fun path (k, v) =>
      Text.replaceAll ('\x7b' :: k.display.toList ++ ['\x7d']) v.display.toList path)
    path

/-- The address of a path below a base address: exactly one slash joins them. -/
def buildUrl (baseUrl path : String) (params : List (Value × Value)) : String :=
  let base := Text.dropEndWhile (· == '/') baseUrl.toList
  let filled := (fillPath path.toList params).dropWhile (· == '/')
  String.ofList (base ++ '/' :: filled)

end TypedFetch.Http
