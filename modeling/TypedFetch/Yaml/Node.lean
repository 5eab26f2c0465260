import TypedFetch.Number.Double
import TypedFetch.Yaml.Graph

/-!
# Nodes of YAML

The nodes that the tokens of a text describe.  A node has content, possibly a tag, and possibly an
anchor under which an alias refers to it later, also inside of it.  Tokens are read only as far as
the nodes ask for them, so that of two faults in a text the one that is met first counts.
-/

namespace TypedFetch.Yaml

/-- What is left to parse, and what was named so far. -/
structure ParserState where
  /-- How far the text was read, with all tokens so far. -/
  scanner : Scanner
  /-- The number of tokens that were passed. -/
  taken : Nat := 0
  /-- The number of characters of the text. -/
  length : Nat
  /-- The nodes so far. -/
  nodes : Graph := #[]
  /-- The nodes that have anchors. -/
  anchors : List (String × Nat) := []
  /-- The beginnings of tags by their handles. -/
  handles : List (String × String) := [("!", "!"), ("!!", "tag:yaml.org,2002:")]
  /-- The number of collections around. -/
  depth : Nat := 0

/-- A parser of nodes. -/
abbrev Parser := StateT ParserState (Except Stop)

namespace Parser

/-- The text is not well formed. -/
def fail {α : Type} : Parser α := throw (.fault .malformed)

/-- Reads on in the text. -/
def scan {α : Type} (step : Scan α) : Parser α := fun s => do
  let (a, scanner) ← step.run s.scanner
  return (a, { s with scanner })

/-- The next token was read, and there cannot come anything in front of it any more. -/
def isSettled : Parser Bool := do
  let s ← get
  if s.scanner.tokens.back? == some .finish then return true
  if s.scanner.tokens.size ≤ s.taken then return false
  scan Scan.dropStaleKeys
  return !(← get).scanner.possibleKeys.any fun (_, k) => k.position == s.taken

/-- Reads on until the next token is settled. -/
def settle : Nat → Parser Unit
  | 0 => return ()
  | n + 1 => do
    unless ← isSettled do
      scan Scan.next
      settle n

/-- The next token. -/
def current : Parser Token := do
  settle ((← get).length + 2)
  let s ← get
  return (s.scanner.tokens[s.taken]?).getD .finish

/-- Moves past the next token. -/
def advance : Parser Unit :=
  modify fun s => { s with taken := s.taken + 1 }

/-- The next token is one of the given ones. -/
def isAt (ts : List Token) : Parser Bool := do
  return ts.contains (← current)

/-- Moves past a token, if it comes next. -/
def accept (t : Token) : Parser Bool := do
  if (← current) == t then
    advance
    return true
  else return false

/-- Moves past a token that must come next. -/
def expect (t : Token) : Parser Unit := do
  unless ← accept t do fail

/-- Adds a node. -/
def add (n : Node) : Parser Nat :=
  modifyGet fun s => (s.nodes.size, { s with nodes := s.nodes.push n })

/-- A node without content. -/
def emptyNode : Parser Nat :=
  add { kind := some (plainKind ""), content := .scalar "" }

/-- What stands before the content of a node. -/
structure Properties where
  /-- The anchor. -/
  anchor : Option String := none
  /-- The tag. -/
  tag : Option String := none

/-- The tag that a handle and an ending make up. -/
def fullTag (handle : Option String) (ending : String) : Parser String := do
  match handle with
  | none => return ending
  | some h =>
    match (← get).handles.lookup h with
    | some head => return head ++ ending
    | none => fail

/-- The anchor of a node, if it comes next. -/
def anchor? : Parser (Option String) := do
  match ← current with
  | .anchor name =>
    advance
    return some name
  | _ => return none

/-- The handle and the ending of the tag of a node, if it comes next. -/
def tag? : Parser (Option (Option String × String)) := do
  match ← current with
  | .tag handle ending =>
    advance
    return some (handle, ending)
  | _ => return none

/-- The properties of a node, in any order. -/
def properties : Parser Properties := do
  let first ← anchor?
  let tag ← tag?
  let anchor ← if first.isNone && tag.isSome then anchor? else pure first
  match tag with
  | none => return { anchor }
  | some (handle, ending) => return { anchor, tag := some (← fullTag handle ending) }

/-- Lets an anchor stand for a node from now on. -/
def name (p : Properties) (n : Nat) : Parser Unit := do
  if let some a := p.anchor then
    modify fun s => { s with anchors := (a, n) :: s.anchors }

/-- An anchor must be new. -/
def expectNew (p : Properties) : Parser Unit := do
  match p.anchor with
  | none => return ()
  | some a => if ((← get).anchors.lookup a).isSome then fail

/-- How many collections may be nested. -/
def nestingLimit : Nat := 487

/-- Parses what is nested one collection deeper. -/
def nested {α : Type} (content : Parser α) : Parser α := do
  let depth := (← get).depth
  if nestingLimit ≤ depth then throw (.fault .tooDeep)
  modify fun s => { s with depth := depth + 1 }
  let a ← content
  modify fun s => { s with depth := depth }
  return a

/-- The kind that a tag names; without a tag, or with one that leaves the decision to the content,
it is the given one. -/
def Properties.kind (p : Properties) (own : Kind) : Option Kind :=
  match p.tag with
  | none | some "!" => some own
  | some tag => Kind.ofTag? tag

/-- Adds a scalar. -/
def scalar (p : Properties) (text : String) (plain : Bool) : Parser Nat := do
  let own := if plain || p.tag == some "!" then plainKind text else .scalar .text
  let n ← add { kind := p.kind own, content := .scalar text }
  name p n
  return n

/-- Adds a sequence or a mapping, and then what it holds; there its anchor stands for it already. -/
def collection (p : Properties) (own : CollectionKind) (content : Parser Content) :
    Parser Nat := do
  let n ← add { kind := p.kind (.collection own), content := .sequence [] }
  name p n
  let found ← nested content
  modify fun s => { s with nodes := s.nodes.setContent n found }
  return n

mutual

/-- A node.  In block style collections by columns may come; as a value of a mapping a sequence may
come without a column of its own. -/
def node (inBlock indentless : Bool) : Nat → Parser Nat
  | 0 => fail
  | n + 1 => do
    match ← current with
    | .alias a =>
      advance
      match (← get).anchors.lookup a with
      | some found => return found
      | none => fail
    | _ =>
      let p ← properties
      let next ← current
      expectNew p
      if indentless && next == .blockEntry then
        collection p .sequence (.sequence <$> entriesWithoutEnd n)
      else
        match next with
        | .scalar text plain =>
          advance
          scalar p text plain
        | .flowSequenceStart =>
          advance
          collection p .sequence (.sequence <$> flowItems true n)
        | .flowMappingStart =>
          advance
          collection p .mapping (.mapping <$> flowEntries true n)
        | t =>
          if inBlock && t == .blockSequenceStart then
            advance
            collection p .sequence (.sequence <$> blockItems n)
          else if inBlock && t == .blockMappingStart then
            advance
            collection p .mapping (.mapping <$> blockEntries n)
          else if p.anchor.isSome || p.tag.isSome then scalar p "" p.tag.isNone
          else fail
termination_by structural n => n

/-- The items of a sequence by columns up to its end. -/
def blockItems : Nat → Parser (List Nat)
  | 0 => fail
  | n + 1 => do
    if ← accept .blockEntry then
      let item ←
        if ← isAt [.blockEntry, .blockEnd] then emptyNode else node true false n
      let rest ← blockItems n
      return item :: rest
    else
      expect .blockEnd
      return []
termination_by structural n => n

/-- The items of a sequence that has no column of its own. -/
def entriesWithoutEnd : Nat → Parser (List Nat)
  | 0 => fail
  | n + 1 => do
    if ← accept .blockEntry then
      let item ←
        if ← isAt [.blockEntry, .key, .value, .blockEnd] then emptyNode
        else node true false n
      let rest ← entriesWithoutEnd n
      return item :: rest
    else return []
termination_by structural n => n

/-- The entries of a mapping by columns up to its end. -/
def blockEntries : Nat → Parser (List (Nat × Nat))
  | 0 => fail
  | n + 1 => do
    if ← accept .blockEnd then return []
    expect .key
    let key ←
      if ← isAt [.key, .value, .blockEnd] then emptyNode else node true true n
    let value ←
      if ← accept .value then
        if ← isAt [.key, .value, .blockEnd] then emptyNode else node true true n
      else emptyNode
    let rest ← blockEntries n
    return (key, value) :: rest
termination_by structural n => n

/-- The items of a sequence in brackets up to its end; a pair is a mapping of one entry. -/
def flowItems (first : Bool) : Nat → Parser (List Nat)
  | 0 => fail
  | n + 1 => do
    if ← accept .flowSequenceEnd then return []
    unless first do expect .flowEntry
    if ← accept .key then
      let pair ← nested do
        let key ←
          if ← isAt [.value, .flowEntry, .flowSequenceEnd] then emptyNode
          else node false false n
        let value ←
          if ← accept .value then
            if ← isAt [.flowEntry, .flowSequenceEnd] then emptyNode else node false false n
          else emptyNode
        return (key, value)
      let entry ← add { kind := some (.collection .mapping), content := .mapping [pair] }
      let rest ← flowItems false n
      return entry :: rest
    else if ← accept .flowSequenceEnd then return []
    else
      let item ← node false false n
      let rest ← flowItems false n
      return item :: rest
termination_by structural n => n

/-- The entries of a mapping in braces up to its end. -/
def flowEntries (first : Bool) : Nat → Parser (List (Nat × Nat))
  | 0 => fail
  | n + 1 => do
    if ← accept .flowMappingEnd then return []
    unless first do expect .flowEntry
    if ← accept .flowMappingEnd then return []
    let (key, value) ←
      if ← accept .key then
        let key ←
          if ← isAt [.value, .flowEntry, .flowMappingEnd] then emptyNode
          else node false false n
        let value ←
          if ← accept .value then
            if ← isAt [.flowEntry, .flowMappingEnd] then emptyNode else node false false n
          else emptyNode
        pure (key, value)
      else
        let key ← node false false n
        let value ← emptyNode
        pure (key, value)
    let rest ← flowEntries false n
    return (key, value) :: rest
termination_by structural n => n

end

/-- Passes over the marks at the end of documents. -/
def skipDocumentEnds : Nat → Parser Unit
  | 0 => return ()
  | n + 1 => do
    if ← accept .documentEnd then skipDocumentEnds n

/-- The directives of a document; `versioned` says that there was a version, which must be one of
the first ones, and `handles` holds the handles so far.  No directive may come twice. -/
def directives (versioned : Bool) (handles : List (String × String)) : Nat → Parser Unit
  | 0 => return ()
  | n + 1 => do
    match ← current with
    | .directive _ [major] =>
      advance
      if versioned || Number.digitsValue major.toList != 1 then fail
      directives true handles n
    | .directive _ [handle, head] =>
      advance
      if (handles.lookup handle).isSome then fail
      directives versioned ((handle, head) :: handles) n
    | .directive _ _ =>
      advance
      directives versioned handles n
    | _ => modify fun s => { s with handles := handles ++ s.handles }

/-- The content of a document. -/
def content (fuel : Nat) : Parser Nat := do
  let t ← current
  match t with
  | .directive _ _ => emptyNode
  | _ =>
    if [Token.documentStart, .documentEnd, .finish].contains t then emptyNode
    else node true false fuel

/-- The root of the one document of a text, if it has any. -/
def document (fuel : Nat) : Parser (Option Nat) := do
  let first ← current
  let isExplicit : Bool := match first with
    | .directive _ _ => true
    | t => t == .documentStart
  if first == .finish then return none
  if isExplicit then
    directives false [] fuel
    expect .documentStart
  let root ← if isExplicit then content fuel else node true false fuel
  let _ ← accept .documentEnd
  skipDocumentEnds fuel
  if (← current) == .finish then return some root
  directives false [] fuel
  expect .documentStart
  fail

end Parser

/-- The nodes of a text, and which of them is the root. -/
structure Document where
  /-- The nodes. -/
  graph : Graph
  /-- The number of the root. -/
  root : Nat
deriving Repr, BEq

/-- The one document of a text, if it has any. -/
def parse (source : Source) : Except Stop (Option Document) := do
  let start : ParserState :=
    { scanner := { rest := source.text, stop := source.stop }, length := source.text.length }
  let (root, s) ← (Parser.document (10 * source.text.length + 10)).run start
  return root.map ({ graph := s.nodes, root := · })

end TypedFetch.Yaml
