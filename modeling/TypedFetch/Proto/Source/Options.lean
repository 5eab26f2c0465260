import TypedFetch.Proto.Source.Imports

/-!
# Custom options of a source text

Removal of custom options, those whose name stands in parentheses, by name.  The text is cut into
segments: option statements, option lists in brackets, and text that is copied.  Comments and string
literals are copied whole, so nothing inside them is taken for an option.
-/

namespace TypedFetch.Proto.Source

open TypedFetch.Text

/-! ## Comments, strings and nesting -/

/-- Characters up to, and excluding, the next line feed. -/
def lineLength (cs : List Char) : Nat :=
  (cs.takeWhile (· != '\n')).length

/-- Characters up to the end of a block comment, or of the text. -/
def blockLength : List Char → Nat
  | [] => 0
  | '*' :: '/' :: _ => 2
  | _ :: rest => blockLength rest + 1

/-- The length of the comment that begins here. -/
def commentLength? : List Char → Option Nat
  | '/' :: '/' :: rest => some (lineLength rest + 2)
  | '/' :: '*' :: rest => some (blockLength rest + 2)
  | _ => none

/-- Characters up to the end of a string literal, after its opening quote; a line feed ends it. -/
def stringLength (quote : Char) : List Char → Nat
  | [] => 0
  | ['\\'] => 1
  | '\\' :: _ :: rest => stringLength quote rest + 2
  | c :: rest => if c == quote || c == '\n' then 1 else stringLength quote rest + 1

/-- The length of the comment or string literal that begins here. -/
def opaqueLength? (cs : List Char) : Option Nat :=
  match commentLength? cs with
  | some n => some n
  | none =>
    match cs with
    | c :: rest => if isQuote c then some (stringLength c rest + 1) else none
    | [] => none

/-- The nesting depth after a character. -/
def depthAfter (depth : Int) (c : Char) : Int :=
  if c == '\x7b' || c == '[' || c == '(' then depth + 1
  else if c == '\x7d' || c == ']' || c == ')' then depth - 1
  else depth

/-- The number of characters before the first `stop` at depth zero, outside comments and strings;
`skip` characters are passed over first. -/
def scanFrom (stop : Char) : Int → Nat → List Char → Nat
  | _, _, [] => 0
  | depth, skip + 1, _ :: rest => scanFrom stop depth skip rest + 1
  | depth, 0, c :: rest =>
    match opaqueLength? (c :: rest) with
    | some n => scanFrom stop depth (n - 1) rest + 1
    | none =>
      if depth == 0 && c == stop then 0 else scanFrom stop (depthAfter depth c) 0 rest + 1

/-- The number of characters before the first `stop` at depth zero, outside comments and
strings. -/
def scanTo (stop : Char) (cs : List Char) : Nat :=
  scanFrom stop 0 0 cs

/-- Puts a character in front of the first piece. -/
def consFirst (c : Char) : List (List Char) → List (List Char)
  | [] => [[c]]
  | piece :: pieces => (c :: piece) :: pieces

/-- The pieces between the commas at depth zero. -/
def splitFrom : Int → Nat → List Char → List (List Char)
  | _, _, [] => [[]]
  | depth, skip + 1, c :: rest => consFirst c (splitFrom depth skip rest)
  | depth, 0, c :: rest =>
    match opaqueLength? (c :: rest) with
    | some n => consFirst c (splitFrom depth (n - 1) rest)
    | none =>
      if depth == 0 && c == ',' then [] :: splitFrom 0 0 rest
      else consFirst c (splitFrom (depthAfter depth c) 0 rest)

/-- The entries of an option list: the pieces between the commas at depth zero. -/
def splitTopLevel (cs : List Char) : List (List Char) :=
  splitFrom 0 0 cs

/-! ## Segments -/

/-- The name in parentheses that begins here, and what follows it. -/
def parenthesised? (cs : List Char) : Option (List Char × List Char) := do
  let rest ← dropPrefix? ['('] cs
  let rest := rest.dropWhile isBlank
  let inner := (dropPrefix? ['.'] rest).getD rest
  let start := if (inner.takeWhile isPackageChar).isEmpty then rest else inner
  let name := start.takeWhile isPackageChar
  if name.isEmpty then none
  let rest ← dropPrefix? [')'] ((start.drop name.length).dropWhile isBlank)
  return (name, rest)

/-- The extension that an option statement which begins here sets, and what follows its name. -/
def statementAt? (cs : List Char) : Option (List Char × List Char) := do
  let rest ← dropPrefix? "option".toList cs
  parenthesised? (rest.dropWhile isBlank)

/-- A part of a source text. -/
inductive Segment where
  /-- Text that is copied. -/
  | text (chars : List Char)
  /-- An option statement that sets an extension. -/
  | statement (name : List Char) (chars : List Char)
  /-- An option list in brackets; the last one of a text may lack its closing bracket. -/
  | optionList (items : List (List Char)) (closed : Bool)
deriving Repr, BEq, DecidableEq

/-- The extension that an entry of an option list sets. -/
def entryName? (entry : List Char) : Option (List Char) :=
  (parenthesised? (entry.dropWhile isBlank)).map (·.1)

/-- A character of an ASCII identifier. -/
def isIdentifierChar (c : Char) : Bool :=
  c.isAlphanum || c == '_'

/-- The segment that begins here, after the character `before`, and its length. -/
def segmentAt (before : Option Char) (c : Char) (rest : List Char) : Segment × Nat :=
  match opaqueLength? (c :: rest) with
  | some n => (.text ((c :: rest).take n), n)
  | none =>
    if c == '[' then
      let n := scanTo ']' rest
      let closed := n < rest.length
      (.optionList (splitTopLevel (rest.take n)) closed, if closed then n + 2 else n + 1)
    else
      match statementAt? (c :: rest) with
      | some (name, after) =>
        if before.any isIdentifierChar then (.text [c], 1)
        else
          let n := rest.length - after.length + scanTo ';' after + 2
          (.statement name ((c :: rest).take n), n)
      | none => (.text [c], 1)

/-- The segments of a text, after `skip` characters. -/
def segmentsFrom : Option Char → Nat → List Char → List Segment
  | _, _, [] => []
  | _, skip + 1, c :: rest => segmentsFrom (some c) skip rest
  | before, 0, c :: rest =>
    let (segment, n) := segmentAt before c rest
    segment :: segmentsFrom (some c) (n - 1) rest

/-- The segments of a text. -/
def segments (text : List Char) : List Segment :=
  segmentsFrom none 0 text

/-- The extensions that a segment sets, in order. -/
def Segment.names : Segment → List (List Char)
  | .text _ => []
  | .statement name _ => [name]
  | .optionList items _ => items.filterMap entryName?

/-- The entry sets no extension, or one that is kept. -/
def keepsEntry (keep : List Char → Bool) (entry : List Char) : Bool :=
  match entryName? entry with
  | some name => keep name
  | none => true

/-- An option list with the given entries. -/
def bracketed (entries : List (List Char)) (closed : Bool) : List Char :=
  '[' :: List.intercalate [','] entries ++ (if closed then [']'] else [])

/-- What is left of a segment when only the extensions that `keep` accepts stay: a list loses its
rejected entries, and its brackets with the last of them. -/
def Segment.retain (keep : List Char → Bool) : Segment → List Char
  | .text chars => chars
  | .statement name chars => if keep name then chars else []
  | .optionList items closed =>
    let kept := items.filter (keepsEntry keep)
    if kept.length == items.length then bracketed items closed
    else if kept.isEmpty then []
    else bracketed kept true

/-- The text without the custom options that `keep` rejects. -/
def stripOptions (keep : List Char → Bool) (text : List Char) : List Char :=
  (segments text).flatMap (Segment.retain keep)

/-- The extensions that a text sets, in order. -/
def optionNames (text : List Char) : List (List Char) :=
  (segments text).flatMap Segment.names

end TypedFetch.Proto.Source
