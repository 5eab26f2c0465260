import TypedFetch.Json.Reader
import TypedFetch.Yaml.Source

/-!
# Tokens of YAML

The tokens of a YAML text.  In block style the structure is given by columns: a column further to
the right opens a collection, and one further to the left closes all that started to its right.
Whether a scalar is a key shows only at the colon behind it, so the place of every scalar that may
be a key is kept, and the tokens that open a mapping and mark the key are put in there.  A text is
read no further than the next token asks for.
-/

namespace TypedFetch.Yaml

/-- A token. -/
inductive Token where
  /-- A line that concerns the document: its version, or the beginning of tags with a handle. -/
  | directive (name : String) (values : List String)
  | documentStart
  | documentEnd
  | blockSequenceStart
  | blockMappingStart
  | blockEnd
  | flowSequenceStart
  | flowSequenceEnd
  | flowMappingStart
  | flowMappingEnd
  | blockEntry
  | flowEntry
  | key
  | value
  | alias (name : String)
  | anchor (name : String)
  | tag (handle : Option String) (ending : String)
  | scalar (text : String) (plain : Bool)
  | finish
deriving Repr, BEq, DecidableEq

/-- A place where a key may have started. -/
structure PossibleKey where
  /-- The number of tokens before it. -/
  position : Nat
  /-- Without a key there the text is not well formed. -/
  isRequired : Bool
  /-- The number of characters before it. -/
  index : Nat
  /-- The line. -/
  line : Nat
  /-- The column. -/
  column : Nat
deriving Repr, BEq, DecidableEq

/-- How far a text was read. -/
structure Scanner where
  /-- The characters that are left. -/
  rest : List Char
  /-- Why no more characters can be read; none at the end of the text. -/
  stop : Option Stop := none
  /-- The number of characters that were read. -/
  index : Nat := 0
  /-- The line. -/
  line : Nat := 0
  /-- The column. -/
  column : Nat := 0
  /-- How many flow collections are open. -/
  flowLevel : Nat := 0
  /-- The column of the innermost block collection. -/
  indent : Int := -1
  /-- The columns of the block collections around it. -/
  indents : List Int := []
  /-- A key may start here. -/
  keyAllowed : Bool := true
  /-- The places where keys may have started, by the number of open flow collections. -/
  possibleKeys : List (Nat × PossibleKey) := []
  /-- The tokens so far. -/
  tokens : Array Token := #[]

/-- A step through a text. -/
abbrev Scan := StateT Scanner (Except Stop)

/-- Decimal numbers with more digits than this are not read. -/
def decimalLimit : Nat := 4300

namespace Scan

/-! ## Characters -/

/-- The end of a line. -/
def isBreak (c : Char) : Bool :=
  c == '\n' || c == '\r' || c == '\x85' || c == '\u2028' || c == '\u2029'

/-- A blank within a line. -/
def isSpace (c : Char) : Bool :=
  c == ' ' || c == '\t'

/-- A blank, the end of a line or the end of the text. -/
def isGap : Option Char → Bool
  | none => true
  | some c => isSpace c || isBreak c

/-- The end of a line or of the text. -/
def isLineEnd : Option Char → Bool
  | none => true
  | some c => isBreak c

/-- The text is not well formed. -/
def fail {α : Type} : Scan α := throw (.fault .malformed)

/-- Asks for at least one character; reading stops if one of them cannot be read. -/
def demand (count : Nat) : Scan Unit := do
  let s ← get
  if let some stop := s.stop then
    if (s.rest.drop (count - 1)).isEmpty then throw stop

/-- The character at a distance. -/
def peek (distance : Nat := 0) : Scan (Option Char) := do
  demand (distance + 1)
  return (← get).rest[distance]?

/-- Moves past one character. -/
def Scanner.step (s : Scanner) : Scanner :=
  match s.rest with
  | [] => s
  | c :: rest =>
    if isBreak c && !(c == '\r' && rest.head? == some '\n') then
      { s with rest, index := s.index + 1, line := s.line + 1, column := 0 }
    else if c == '\uFEFF' then { s with rest, index := s.index + 1 }
    else { s with rest, index := s.index + 1, column := s.column + 1 }

/-- Moves on to a character, which is asked for. -/
def forward (count : Nat := 1) : Scan Unit := do
  demand (count + 1)
  modify fun s => count.repeat Scanner.step s

/-- Reads the characters that pass a test. -/
def takeWhile (test : Char → Bool) : Scan (List Char) := do
  let taken := (← get).rest.takeWhile test
  forward taken.length
  return taken

/-- Reads the end of a line, if it is here; most ends count as a line feed. -/
def lineBreak : Scan (List Char) := do
  match ← peek with
  | none => return []
  | some c =>
    if !isBreak c then return []
    if c == '\u2028' || c == '\u2029' then
      forward
      return [c]
    let next ← peek 1
    forward (if c == '\r' && next == some '\n' then 2 else 1)
    return ['\n']

/-- A line that separates documents starts here. -/
def atSeparator : Scan Bool := do
  demand 3
  let head := (← get).rest.take 3
  if head == "---".toList || head == "...".toList then return isGap (← peek 3)
  return false

/-! ## Tokens, keys and columns -/

/-- Adds a token. -/
def emit (t : Token) : Scan Unit :=
  modify fun s => { s with tokens := s.tokens.push t }

/-- Puts a token in at a position. -/
def insertAt (position : Nat) (t : Token) : Scan Unit :=
  modify fun s =>
    let after := s.tokens.extract position s.tokens.size
    { s with tokens := s.tokens.extract 0 position ++ #[t] ++ after }

/-- A key may start from here on, or not. -/
def allowKey (b : Bool) : Scan Unit :=
  modify fun s => { s with keyAllowed := b }

/-- Forgets the place where a key may have started. -/
def dropPossibleKey : Scan Unit := do
  let s ← get
  match s.possibleKeys.lookup s.flowLevel with
  | some k => if k.isRequired then fail
  | none => pure ()
  set { s with possibleKeys := s.possibleKeys.filter (·.1 != s.flowLevel) }

/-- Keeps this place as one where a key may have started. -/
def savePossibleKey : Scan Unit := do
  if (← get).keyAllowed then
    dropPossibleKey
    modify fun s =>
      let k : PossibleKey :=
        { position := s.tokens.size
          isRequired := s.flowLevel == 0 && s.indent == s.column
          index := s.index, line := s.line, column := s.column }
      { s with possibleKeys := s.possibleKeys ++ [(s.flowLevel, k)] }

/-- The greatest length of a key that is not marked as one. -/
def keyLimit : Nat := 1024

/-- Forgets the places that are too far away for a key. -/
def dropStaleKeys : Scan Unit := do
  let s ← get
  let isStale (k : PossibleKey) : Bool := k.line != s.line || keyLimit < s.index - k.index
  if s.possibleKeys.any fun (_, k) => isStale k && k.isRequired then fail
  set { s with possibleKeys := s.possibleKeys.filter fun (_, k) => !isStale k }

/-- Closes the collections that start to the right of a column. -/
def closeDownTo (column : Int) : Scan Unit :=
  modify fun s =>
    if s.flowLevel != 0 then s
    else
      let open_ := (s.indent :: s.indents).takeWhile (column < ·)
      let left := (s.indent :: s.indents).drop open_.length
      { s with
        tokens := s.tokens ++ (open_.map fun _ => Token.blockEnd).toArray
        indent := left.headD (-1)
        indents := left.drop 1 }

/-- Opens a collection at a column, unless one is open there. -/
def openAt (column : Nat) : Scan Bool := do
  let s ← get
  if s.indent < column then
    set { s with indent := (column : Int), indents := s.indent :: s.indents }
    return true
  else return false

/-! ## Gaps, directives, anchors and tags -/

/-- Moves to the next token. -/
def skipGap : Nat → Scan Unit
  | 0 => return ()
  | n + 1 => do
    let _ ← takeWhile (· == ' ')
    if (← peek) == some '#' then
      let _ ← takeWhile (!isBreak ·)
    if (← lineBreak).isEmpty then return ()
    if (← get).flowLevel == 0 then allowKey true
    skipGap n

/-- A letter or digit of a name. -/
def isNameChar (c : Char) : Bool :=
  c.isAlphanum || c == '-' || c == '_'

/-- The number of a version. -/
def versionNumber : Scan (List Char) := do
  let digits ← takeWhile Char.isDigit
  if digits.isEmpty then fail
  if decimalLimit < digits.length then throw (.fault .notValue)
  return digits

/-- The name of an anchor or alias. -/
def anchorName : Scan String := do
  forward
  let name ← takeWhile isNameChar
  if name.isEmpty then fail
  let next ← peek
  unless isGap next || (next.map "?:,]\x7d%@\x60".toList.contains).getD false do fail
  return String.ofList name

/-- A character of a tag. -/
def isTagChar (c : Char) : Bool :=
  isNameChar c || ";/?:@&=+$,.!~*'()[]".toList.contains c

/-- A digit to the base 16 at a distance. -/
def hexDigit (distance : Nat) : Scan Nat := do
  match (← peek distance).bind Json.hexValue? with
  | some n => return n
  | none => fail

/-- Bytes that are written as numbers after per cent signs. -/
def escapedBytes : Nat → Scan (List UInt8)
  | 0 => return []
  | n + 1 => do
    if (← peek) != some '%' then return []
    forward
    let high ← hexDigit 0
    let low ← hexDigit 1
    forward 2
    let bytes ← escapedBytes n
    return UInt8.ofNat (high * 16 + low) :: bytes

/-- The text of a tag, in which characters may be written by their bytes. -/
def tagTextFrom : Nat → Scan (List Char)
  | 0 => return []
  | n + 1 => do
    let plain ← takeWhile isTagChar
    if (← peek) != some '%' then return plain
    match Text.decodeUtf8 (← escapedBytes (← get).rest.length) with
    | .error _ => fail
    | .ok cs =>
      let more ← tagTextFrom n
      return plain ++ cs ++ more

/-- The text of a tag; there must be one. -/
def tagText : Scan String := do
  let rest := (← get).rest
  let text ← tagTextFrom (rest.length + 1)
  if text.isEmpty then fail
  return String.ofList text

/-- The handle of a tag between exclamation marks. -/
def tagHandle : Scan String := do
  if (← peek) != some '!' then fail
  forward
  let name ← takeWhile isNameChar
  if (← peek) != some '!' then fail
  forward
  return String.ofList ('!' :: name ++ ['!'])

/-- The handle of a tag that has no name. -/
def shortHandle : Scan String := do
  forward
  return "!"

/-- A space, the end of a line or the end of the text comes next. -/
def expectEnd : Scan Unit := do
  let next ← peek
  unless next == some ' ' || isLineEnd next do fail

/-- What a directive says about the document. -/
def directiveValues (name : List Char) : Scan (List String) := do
  if name == "YAML".toList then
    let _ ← takeWhile (· == ' ')
    let major ← versionNumber
    if (← peek) != some '.' then fail
    forward
    let _ ← versionNumber
    expectEnd
    return [String.ofList major]
  else if name == "TAG".toList then
    let _ ← takeWhile (· == ' ')
    let handle ←
      if (← peek) != some '!' then fail
      else if (← peek 1) == some ' ' then shortHandle
      else tagHandle
    if (← peek) != some ' ' then fail
    let _ ← takeWhile (· == ' ')
    let head ← tagText
    expectEnd
    return [handle, head]
  else
    let _ ← takeWhile (!isBreak ·)
    return []

/-- A directive. -/
def directive : Scan Unit := do
  forward
  let name ← takeWhile isNameChar
  if name.isEmpty then fail
  expectEnd
  let values ← directiveValues name
  let _ ← takeWhile (· == ' ')
  if (← peek) == some '#' then
    let _ ← takeWhile (!isBreak ·)
  unless isLineEnd (← peek) do fail
  let _ ← lineBreak
  emit (.directive (String.ofList name) values)

/-- A tag. -/
def tag : Scan Token := do
  let next ← peek 1
  if next == some '<' then
    forward 2
    let name ← tagText
    if (← peek) != some '>' then fail
    forward
    return .tag none name
  else if isGap next then
    forward
    return .tag none "!"
  else
    let word := ((← get).rest.drop 1).takeWhile fun c => c != ' ' && !isBreak c && c != '!'
    let hasName := (← peek (word.length + 1)) == some '!'
    let handle ← if hasName then tagHandle else shortHandle
    let ending ← tagText
    return .tag (some handle) ending

/-- A tag that is followed by a gap. -/
def wholeTag : Scan Token := do
  let t ← tag
  expectEnd
  return t

/-! ## Block scalars -/

/-- What happens to the line ends after a block scalar. -/
inductive Chomping where
  /-- One of them is kept. -/
  | clip
  | strip
  | keep
deriving Repr, BEq, DecidableEq

/-- The indicators of a block scalar: what happens to the line ends after it, and how far it is
indented. -/
def blockIndicators : Scan (Chomping × Option Nat) := do
  let chomping : Scan (Option Chomping) := do
    match ← peek with
    | some '+' =>
      forward
      return some .keep
    | some '-' =>
      forward
      return some .strip
    | _ => return none
  let increment : Scan (Option Nat) := do
    match ← peek with
    | some c =>
      if c.isDigit then
        if c == '0' then fail
        forward
        return some (c.toNat - '0'.toNat)
      else return none
    | none => return none
  let first ← chomping
  let width ← increment
  let second ← if first.isNone && width.isSome then chomping else pure none
  expectEnd
  return ((first.or second).getD .clip, width)

/-- Passes over the spaces up to a column. -/
def skipIndent (column : Nat) : Scan Unit := do
  let s ← get
  forward ((s.rest.take (column - s.column)).takeWhile (· == ' ')).length

/-- The line ends before the next line of a block scalar. -/
def blockBreaks (column : Nat) : Nat → Scan (List Char)
  | 0 => return []
  | n + 1 => do
    skipIndent column
    let b ← lineBreak
    if b.isEmpty then return []
    let rest ← blockBreaks column n
    return b ++ rest

/-- The line ends before the first line of a block scalar, and the greatest column among them. -/
def blockIndentation : Nat → Nat → Scan (List Char × Nat)
  | 0, widest => return ([], widest)
  | n + 1, widest => do
    let _ ← takeWhile (· == ' ')
    let widest := max widest (← get).column
    let b ← lineBreak
    if b.isEmpty then return ([], widest)
    let (rest, widest) ← blockIndentation n widest
    return (b ++ rest, widest)

/-- The lines of a block scalar from a column on; `breaks` are the line ends before the next one.
Gives the text, the end of its last line and the line ends after it. -/
def blockLines (folded : Bool) (column : Nat) :
    Nat → List Char → Scan (List Char × List Char × List Char)
  | 0, breaks => return ([], [], breaks)
  | n + 1, breaks => do
    let first ← peek
    if (← get).column != column || first.isNone then return ([], [], breaks)
    let startsWithSpace := (first.map isSpace).getD false
    let line ← takeWhile (!isBreak ·)
    let ending ← lineBreak
    let after ← blockBreaks column (← get).rest.length
    let next ← peek
    if (← get).column == column && next.isSome then
      let nextIsSpace := (next.map isSpace).getD false
      let joint :=
        if folded && ending == ['\n'] && !startsWithSpace && !nextIsSpace then
          if after.isEmpty then [' '] else []
        else ending
      let (rest, last, final) ← blockLines folded column n after
      return (breaks ++ line ++ joint ++ rest, last, final)
    else return (breaks ++ line, ending, after)

/-- A block scalar. -/
def blockScalar (folded : Bool) : Scan Token := do
  forward
  let (chomping, width) ← blockIndicators
  let _ ← takeWhile (· == ' ')
  if (← peek) == some '#' then
    let _ ← takeWhile (!isBreak ·)
  unless isLineEnd (← peek) do fail
  let _ ← lineBreak
  let s ← get
  let least := (max 1 (s.indent + 1)).toNat
  let (breaks, column) ←
    match width with
    | none => do
      let (breaks, widest) ← blockIndentation s.rest.length 0
      pure (breaks, max least widest)
    | some w => do
      let breaks ← blockBreaks (least + w - 1) s.rest.length
      pure (breaks, least + w - 1)
  let (text, ending, after) ← blockLines folded column ((← get).rest.length + 1) breaks
  let tail :=
    match chomping with
    | .strip => []
    | .clip => ending
    | .keep => ending ++ after
  return .scalar (String.ofList (text ++ tail)) false

/-! ## Quoted scalars -/

/-- The escapes of one character. -/
def escapeChar? (c : Char) : Option Char :=
  [('0', '\x00'), ('a', '\x07'), ('b', '\x08'), ('t', '\t'), ('\t', '\t'), ('n', '\n'),
   ('v', '\x0b'), ('f', '\x0c'), ('r', '\r'), ('e', '\x1b'), (' ', ' '), ('"', '"'),
   ('\\', '\\'), ('/', '/'), ('N', '\x85'), ('_', '\xa0'), ('L', '\u2028'),
   ('P', '\u2029')].lookup c

/-- How many digits the number of a character has after an escape. -/
def escapeWidth? (c : Char) : Option Nat :=
  [('x', 2), ('u', 4), ('U', 8)].lookup c

/-- The number that some digits to the base 16 in front of the rest write. -/
def hexNumber? (width : Nat) (cs : List Char) : Option Nat :=
  let values := (cs.take width).filterMap Json.hexValue?
  if values.length == width then some (values.foldl (fun n d => n * 16 + d) 0) else none

/-- The second half of a pair of surrogates, if an escape with it comes next, and the length of that
escape. -/
def lowSurrogate? : List Char → Option (Nat × Nat)
  | '\\' :: c :: rest => do
    let width ← escapeWidth? c
    let n ← hexNumber? width rest
    if 0xDC00 ≤ n && n < 0xE000 then some (n, width + 2) else none
  | _ => none

/-- The number that so many digits to the base 16 write.  They are asked for one by one. -/
def hexNumber (width : Nat) : Scan Nat := do
  let rest := (← get).rest
  let digits := (rest.take width).takeWhile fun c => (Json.hexValue? c).isSome
  demand (min width (digits.length + 1))
  match hexNumber? width rest with
  | some n => return n
  | none => fail

/-- A character must have the number. -/
def expectCharacter (n : Nat) : Scan Unit := do
  if 0x80000000 ≤ n then throw (.fault .numberTooLarge)
  if 0x110000 ≤ n then throw (.fault .notValue)

/-- The character with a number; a pair of surrogates is one character, and a lone one is
replaced. -/
def numbered (n : Nat) : Scan Char := do
  if !Text.isSurrogate n then return Char.ofNat n
  match lowSurrogate? (← get).rest with
  | some (low, length) =>
    if n < 0xDC00 then
      forward length
      return Char.ofNat (0x10000 + (n - 0xD800) * 1024 + (low - 0xDC00))
    else return '\uFFFD'
  | none => return '\uFFFD'

/-- The line ends inside a quoted scalar. -/
def quotedBreaks : Nat → Scan (List Char)
  | 0 => return []
  | n + 1 => do
    if ← atSeparator then fail
    let _ ← takeWhile isSpace
    let b ← lineBreak
    if b.isEmpty then return []
    let rest ← quotedBreaks n
    return b ++ rest

/-- An escape. -/
def escape : Scan (List Char) := do
  forward
  match ← peek with
  | none => fail
  | some c =>
    match escapeChar? c, escapeWidth? c with
    | some replaced, _ =>
      forward
      return [replaced]
    | none, some width =>
      forward
      let n ← hexNumber width
      expectCharacter n
      forward width
      let c ← numbered n
      return [c]
    | none, none =>
      if isBreak c then
        let _ ← lineBreak
        quotedBreaks ((← get).rest.length + 1)
      else fail

/-- Blanks and line ends inside a quoted scalar. -/
def quotedSpaces : Scan (List Char) := do
  let blanks ← takeWhile isSpace
  match ← peek with
  | none => fail
  | some c =>
    if isBreak c then
      let ending ← lineBreak
      let breaks ← quotedBreaks ((← get).rest.length + 1)
      let joint := if ending != ['\n'] then ending else if breaks.isEmpty then [' '] else []
      return joint ++ breaks
    else return blanks

/-- The rest of a quoted scalar. -/
def quotedRest (double : Bool) : Nat → Scan (List Char)
  | 0 => fail
  | n + 1 => do
    let quote := if double then '"' else '\''
    let plain ← takeWhile fun c =>
      !isSpace c && !isBreak c && c != '"' && c != '\'' && c != '\\'
    let part ←
      match ← peek with
      | none => fail
      | some c =>
        if c == quote then
          if double then do
            forward
            pure none
          else if (← peek 1) == some '\'' then do
            forward 2
            pure (some ['\''])
          else do
            forward
            pure none
        else if c == '\\' && double then some <$> escape
        else if isSpace c || isBreak c then some <$> quotedSpaces
        else do
          forward
          pure (some [c])
    match part with
    | none => return plain
    | some part =>
      let rest ← quotedRest double n
      return plain ++ part ++ rest

/-- A quoted scalar. -/
def quotedScalar (double : Bool) : Scan Token := do
  forward
  let text ← quotedRest double ((← get).rest.length + 1)
  return .scalar (String.ofList text) false

/-! ## Plain scalars -/

/-- The brackets and commas that end a plain scalar in a flow collection. -/
def flowMarks : List Char := [',', '[', ']', '\x7b', '\x7d']

/-- The length of the part of a plain scalar that has no blanks. -/
def plainLength (inFlow : Bool) : List Char → Nat
  | [] => 0
  | c :: rest =>
    let ends := isSpace c || isBreak c ||
      (c == ':' && (isGap rest.head? ||
        (inFlow && (rest.head?.map flowMarks.contains).getD false))) ||
      (inFlow && (c == '?' || flowMarks.contains c))
    if ends then 0 else plainLength inFlow rest + 1

/-- The line ends inside a plain scalar; none if documents are separated there. -/
def plainBreaks : Nat → Scan (Option (List Char))
  | 0 => return some []
  | n + 1 => do
    if ← atSeparator then return none
    let _ ← takeWhile (· == ' ')
    let b ← lineBreak
    if b.isEmpty then return some []
    let rest ← plainBreaks n
    return rest.map (b ++ ·)

/-- Blanks and line ends inside a plain scalar; none if it ends there. -/
def plainSpaces : Scan (Option (List Char)) := do
  let blanks ← takeWhile (· == ' ')
  match ← peek with
  | none => return if blanks.isEmpty then none else some blanks
  | some c =>
    if isBreak c then
      let ending ← lineBreak
      allowKey true
      match ← plainBreaks ((← get).rest.length + 1) with
      | none => return none
      | some breaks =>
        let joint := if ending != ['\n'] then ending else if breaks.isEmpty then [' '] else []
        return some (joint ++ breaks)
    else return if blanks.isEmpty then none else some blanks

/-- The parts of a plain scalar; `spaces` stand before the next one. -/
def plainParts : Nat → List Char → Scan (List Char)
  | 0, _ => return []
  | n + 1, spaces => do
    if (← peek) == some '#' then return []
    let s ← get
    let length := plainLength (s.flowLevel != 0) s.rest
    demand (length + if s.rest[length]? == some ':' then 2 else 1)
    if length == 0 then return []
    allowKey false
    forward length
    let part := spaces ++ s.rest.take length
    match ← plainSpaces with
    | none => return part
    | some spaces =>
      let next ← peek
      let s' ← get
      if next == some '#' || (s'.flowLevel == 0 && (s'.column : Int) < s'.indent + 1) then
        return part
      else
        let rest ← plainParts n spaces
        return part ++ rest

/-- A plain scalar. -/
def plainScalar : Scan Token := do
  let text ← plainParts ((← get).rest.length + 1) []
  return .scalar (String.ofList text) true

/-! ## The next token -/

/-- The characters that have a meaning of their own at the start of a token. -/
def indicators : List Char := "-?:,[]\x7b\x7d#&*!|>'\"%@\x60".toList

/-- A character, which comes next, marks an entry, a key or a value: in block style a gap must come
behind the mark. -/
def isMark (mark c : Char) (inFlow : Bool := false) : Scan Bool := do
  if c != mark then return false
  if inFlow then return true
  return isGap (← peek 1)

/-- A line that separates documents starts with a character, which comes next. -/
def startsSeparator (c : Char) : Scan Bool := do
  if (← get).column == 0 && (c == '-' || c == '.') then atSeparator else return false

/-- A plain scalar may start with a character, which comes next. -/
def startsPlain (c : Char) : Scan Bool := do
  if !isSpace c && !isBreak c && !indicators.contains c then return true
  let next ← peek 1
  return !isGap next && (c == '-' || ((← get).flowLevel == 0 && (c == '?' || c == ':')))

/-- Opens a flow collection. -/
def openFlow (t : Token) : Scan Unit := do
  savePossibleKey
  modify fun s => { s with flowLevel := s.flowLevel + 1, keyAllowed := true }
  forward
  emit t

/-- Closes a flow collection. -/
def closeFlow (t : Token) : Scan Unit := do
  dropPossibleKey
  forward
  if (← get).flowLevel == 0 then fail
  modify fun s => { s with flowLevel := s.flowLevel - 1, keyAllowed := false }
  emit t

/-- A dash before an entry of a sequence. -/
def blockEntry : Scan Unit := do
  let s ← get
  if s.flowLevel == 0 then
    unless s.keyAllowed do fail
    if ← openAt s.column then emit .blockSequenceStart
  allowKey true
  dropPossibleKey
  forward
  emit .blockEntry

/-- A question mark before a key. -/
def explicitKey : Scan Unit := do
  let s ← get
  if s.flowLevel == 0 then
    unless s.keyAllowed do fail
    if ← openAt s.column then emit .blockMappingStart
  allowKey (s.flowLevel == 0)
  dropPossibleKey
  forward
  emit .key

/-- A colon before a value. -/
def mappingValue : Scan Unit := do
  let s ← get
  match s.possibleKeys.lookup s.flowLevel with
  | some k =>
    set { s with possibleKeys := s.possibleKeys.filter (·.1 != s.flowLevel) }
    insertAt k.position .key
    if s.flowLevel == 0 then
      if ← openAt k.column then insertAt k.position .blockMappingStart
    allowKey false
  | none =>
    if s.flowLevel == 0 then
      unless s.keyAllowed do fail
      if ← openAt s.column then emit .blockMappingStart
    allowKey (s.flowLevel == 0)
    dropPossibleKey
  forward
  emit .value

/-- Closes everything before a line that concerns whole documents. -/
def leaveDocument : Scan Unit := do
  closeDownTo (-1)
  dropPossibleKey
  allowKey false

/-- A token that may be a key. -/
def keyToken (read : Scan Token) : Scan Unit := do
  savePossibleKey
  allowKey false
  let t ← read
  emit t

/-- Reads the next token. -/
def next : Scan Unit := do
  if (← get).index == 0 && (← peek) == some '\uFEFF' then forward
  skipGap ((← get).rest.length + 1)
  dropStaleKeys
  closeDownTo (← get).column
  let s ← get
  let inFlow := s.flowLevel != 0
  match ← peek with
  | none =>
    leaveDocument
    emit .finish
  | some c =>
    if c == '%' && s.column == 0 then do
      leaveDocument
      directive
    else if ← startsSeparator c then do
      leaveDocument
      forward 3
      emit (if c == '-' then .documentStart else .documentEnd)
    else if c == '[' then openFlow .flowSequenceStart
    else if c == '\x7b' then openFlow .flowMappingStart
    else if c == ']' then closeFlow .flowSequenceEnd
    else if c == '\x7d' then closeFlow .flowMappingEnd
    else if c == ',' then do
      allowKey true
      dropPossibleKey
      forward
      emit .flowEntry
    else if ← isMark '-' c then blockEntry
    else if ← isMark '?' c inFlow then explicitKey
    else if ← isMark ':' c inFlow then mappingValue
    else if c == '*' then keyToken (.alias <$> anchorName)
    else if c == '&' then keyToken (.anchor <$> anchorName)
    else if c == '!' then keyToken wholeTag
    else if (c == '|' || c == '>') && !inFlow then do
      allowKey true
      dropPossibleKey
      let t ← blockScalar (c == '>')
      emit t
    else if c == '\'' || c == '"' then keyToken (quotedScalar (c == '"'))
    else if ← startsPlain c then keyToken plainScalar
    else fail

end Scan

end TypedFetch.Yaml
